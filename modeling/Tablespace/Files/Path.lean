/-!
# Paths

A path is a list of names that lead from the root, or from the folder one stands in, to a place. It
is written with slashes between the names, and a slash at the end says that a folder is meant. A
path can be neither empty nor too long, and it cannot contain the character that ends a text in
memory.

Main statement: `Path.isOk_ofString_iff`, every other text is a path.
-/

namespace Tablespace

/-- Why a path leads to no file, or why what is there does not do what it is asked to. -/
inductive Refusal where
  /-- There is nothing. -/
  | missing
  /-- There is a terminal without anyone at it. -/
  | noTerminal
  /-- What is there cannot be mapped into memory. -/
  | notMappable
  /-- The path goes on after something that is not a folder. -/
  | notFolder
  /-- There is a folder. -/
  | folder
  /-- No more can be written. -/
  | full
  /-- The path or one of its names is too long. -/
  | tooLong
  /-- The path contains the character with the code zero. -/
  | zeroCharacter
  deriving DecidableEq, Repr

/-- The reason in words, with its number if it has one. -/
def Refusal.reason : Refusal → String
  | missing => "No such file or directory (os error 2)"
  | noTerminal => "No such device or address (os error 6)"
  | notMappable => "No such device (os error 19)"
  | notFolder => "Not a directory (os error 20)"
  | folder => "Is a directory (os error 21)"
  | full => "No space left on device (os error 28)"
  | tooLong => "File name too long (os error 36)"
  | zeroCharacter => "file name contained an unexpected NUL byte"

/-- A path. -/
structure Path where
  /-- Whether the path begins at the root. -/
  fromRoot : Bool
  /-- The names, in order. -/
  names : List String
  /-- Whether the path ends in a slash. -/
  toFolder : Bool
  deriving DecidableEq, Repr

namespace Path

/-- The greatest number of bytes of a path. -/
def maxSize : Nat := 4095

/-- The greatest number of bytes of a name in a path. -/
def maxNameSize : Nat := 255

/-- The path that a text spells. Slashes next to one another count as one. -/
def ofString (text : String) : Except Refusal Path :=
  if '\u0000' ∈ text.toList then .error .zeroCharacter
  else if maxSize < text.utf8ByteSize then .error .tooLong
  else if text = "" then .error .missing
  else
    .ok {
      fromRoot := text.toList.head? == some '/'
      names := (text.splitOn "/").filter (· ≠ "")
      toFolder := text.toList.getLast? == some '/' }

/-- A text is a path if it is neither empty nor too long and does not contain the character with the
code zero. -/
theorem isOk_ofString_iff {text : String} :
    (∃ path, ofString text = .ok path) ↔
      '\u0000' ∉ text.toList ∧ text.utf8ByteSize ≤ maxSize ∧ text ≠ "" := by
  unfold ofString
  split
  · simp_all
  · split
    next hsize => simp [Nat.not_le.2 hsize]
    next hsize => split <;> simp_all

end Path

end Tablespace
