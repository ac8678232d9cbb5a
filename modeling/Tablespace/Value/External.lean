import Tablespace.Page.Basic

/-!
# References to values stored elsewhere

A long value may be stored on pages of its own. What is left of it in the record ends with a
reference of twenty bytes: space, page, offset and a length of which thirty bits count.
-/

namespace Tablespace

/-- The place of a value that is stored on pages of its own. -/
@[ext]
structure ExternalReference where
  /-- The space. -/
  space : Nat
  /-- The first page. -/
  page : Nat
  /-- The offset on that page. -/
  offset : Nat
  /-- The number of bytes stored there. -/
  length : Nat
  deriving DecidableEq, Repr

namespace ExternalReference

/-- The size of a reference in bytes. -/
def size : Nat := 20

/-- The reference in twenty bytes. -/
def ofBytes (bytes : List UInt8) : ExternalReference where
  space := bigEndian (bytes.take 4)
  page := bigEndian ((bytes.drop 4).take 4)
  offset := bigEndian ((bytes.drop 8).take 4)
  length := bigEndian ((bytes.drop 16).take 4) % 2 ^ 30

/-- The reference that a byte string begins with, if it is long enough. -/
def ofBytes? (bytes : List UInt8) : Option ExternalReference :=
  if size ≤ bytes.length then some (ofBytes bytes) else none

/-- The reference at an offset of a page. -/
def read (page : Page) (offset : Nat) : Except Error ExternalReference :=
  (page.read offset size).map ofBytes

end ExternalReference

end Tablespace
