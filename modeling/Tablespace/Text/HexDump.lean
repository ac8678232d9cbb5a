import Tablespace.Text.Hex

/-!
# Hex dumps

A dump shows sixteen bytes a line: the address of the first of them, sixteen columns of two digits
with a gap after the eighth, and between bars the bytes that are printable ASCII. The last line
keeps all its columns, blank where there is no byte.
-/

namespace Tablespace.Text.HexDump

/-- The number of bytes a line shows. -/
def width : Nat := 16

/-- The character shown for a byte: the byte itself where it is printable ASCII, else a dot. -/
def shown (b : UInt8) : Char :=
  if 0x20 ≤ b.toNat ∧ b.toNat ≤ 0x7E then Char.ofNat b.toNat else '.'

/-- The column of a byte or of no byte, with the space that ends it. -/
def column : Option UInt8 → List Char
  | some b => Hex.pair b ++ [' ']
  | none => [' ', ' ', ' ']

/-- The columns from position `from` to position `to`. -/
def columns (bytes : List UInt8) (first last : Nat) : List Char :=
  (List.range' first (last - first)).flatMap fun i => column bytes[i]?

/-- What stands between the bars. -/
def picture (bytes : List UInt8) : List Char :=
  (List.range width).map fun i => (bytes[i]?.map shown).getD ' '

/-- One line: the address, the columns in two halves, the picture between bars. -/
def line (address : Nat) (bytes : List UInt8) : List Char :=
  Hex.number 8 address ++ [' ', ' '] ++ columns bytes 0 8 ++ [' '] ++ columns bytes 8 width ++
    [' ', '|'] ++ picture bytes ++ ['|']

/-- The lines of a dump that begins at `address`. -/
def lines (address : Nat) (bytes : List UInt8) : List (List Char) :=
  if bytes = [] then []
  else line address (bytes.take width) :: lines (address + width) (bytes.drop width)
termination_by bytes.length
decreasing_by
  have : bytes.length ≠ 0 := by simpa using ‹¬ bytes = []›
  simp only [List.length_drop, width]
  omega

/-- The dump as one text, without a line end after the last line. -/
def text (address : Nat) (bytes : List UInt8) : String :=
  "\n".intercalate ((lines address bytes).map String.ofList)

end Tablespace.Text.HexDump
