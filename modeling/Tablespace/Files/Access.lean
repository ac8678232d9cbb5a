import Tablespace.Error

/-!
# Access to files

What a run asks of the files around it is a value of `FileAccess`, so the same run works on the
files of the machine and on a `Workspace`, which is a value.
-/

namespace Tablespace

/-- What a run asks of the files around it. -/
structure FileAccess (m : Type → Type) where
  /-- The bytes of a file, which is mapped into memory or read. -/
  read : (mapped : Bool) → String → m (Except IoFault ByteArray)
  /-- Make a file empty, whether or not it was there. -/
  create : String → m (Except IoFault Unit)
  /-- Put a text into a file that was made empty. -/
  write : String → String → m (Except IoFault Unit)

end Tablespace
