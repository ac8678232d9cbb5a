import Tablespace.Column.DataType
import Tablespace.Error
import Tablespace.Numeral

/-!
# Column types of the catalog

The catalog describes the type of a column by three numbers: a main type, a precise type whose bits
refine it, and a length. `DataType.ofCatalog` turns them into a column type. The bits from the
sixteenth on are the number of a collation, which decides whether fixed-length text is stored in a
fixed number of bytes.
-/

namespace Tablespace

/-- The numbers of the collations whose character sets take more than one byte for some characters,
as ranges. -/
def multiByteCollations : List (Nat × Nat) :=
  [(1, 1), (84, 84), (12, 13), (91, 91), (88, 88), (19, 19), (85, 85), (24, 24), (86, 86), (28, 28),
   (87, 87), (33, 33), (76, 76), (83, 83), (192, 215), (223, 223), (35, 35), (90, 90), (128, 151),
   (159, 159), (45, 46), (224, 247), (255, 323), (54, 55), (101, 124), (56, 56), (62, 62), (60, 61),
   (160, 183), (95, 98), (248, 250)]

/-- Whether text of a collation has characters of more than one byte. -/
def isMultiByteCollation (collation : Nat) : Bool :=
  multiByteCollations.any fun r => r.1 ≤ collation && collation ≤ r.2

namespace DataType

/-- The collation in a precise type. -/
def collation (precise : Nat) : Nat := precise / 2 ^ 16 % 2 ^ 15

/-- The bit of a precise type that forbids NULL. -/
def notNullBit : Nat := 8

/-- The bit of a precise type that makes an integer unsigned. -/
def unsignedBit : Nat := 9

/-- The bit of a precise type that makes text binary. -/
def binaryBit : Nat := 10

/-- The type that main type, precise type and length of the catalog describe. -/
def ofCatalog (main precise length : Nat) : Except Error DataType :=
  match main with
  | 1 | 12 => .ok (varChar length)
  | 2 => .ok (char length)
  | 3 => .ok (binary length)
  | 4 => .ok (varBinary length)
  | 5 => .ok blob
  | 6 =>
    if length ∈ [1, 2, 3, 4, 6, 8] then .ok (integer length (precise.testBit unsignedBit))
    else unknown
  | 8 =>
    if length = 6 then .ok transactionId
    else if length = 7 then .ok rollPointer
    else .ok rowId
  | 13 =>
    if precise.testBit binaryBit then .ok (binary length)
    else if isMultiByteCollation (collation precise) then .ok (multiByteChar length)
    else .ok (char length)
  | _ => unknown
where
  /-- The error for a combination without meaning. -/
  unknown : Except Error DataType := .error (.unknownType s!"MTYPE {main} (LEN {length})")

end DataType

end Tablespace
