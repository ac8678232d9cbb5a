import Tablespace.NameTable
import Tablespace.Numeral

/-!
# Record headers

A record is addressed by its origin, the offset of its first data byte on the page. Its header lies
before the origin and is read backward from there. There are two row formats, and a page says in
which of them its records are written. Two records that every page has, the infimum and the
supremum, stand at fixed offsets and bound the chain in which the records are linked.
-/

namespace Tablespace

/-- The formats of records. -/
inductive RowFormat where
  /-- The newer format: lengths are written only for columns that need one, and only the columns of
  the index tell which these are. -/
  | compact
  /-- The older format: the end of every field is written. -/
  | redundant
  deriving DecidableEq, Repr, Inhabited

namespace RowFormat

/-- The format that the heap count of a page stands for: its highest bit marks the newer one. -/
def ofHeapCount (n : Nat) : RowFormat := if n.testBit 15 then compact else redundant

/-- The name of a format. -/
def name : RowFormat → String
  | compact => "compact"
  | redundant => "redundant"

/-- The size of the part of a header that every record has. -/
def fixedSize : RowFormat → Nat
  | compact => 5
  | redundant => 6

/-- The origin of the record before all others. -/
def infimum : RowFormat → Nat
  | compact => 99
  | redundant => 101

/-- The origin of the record after all others. -/
def supremum : RowFormat → Nat
  | compact => 112
  | redundant => 116

/-- Where the supremum ends and the heap of records begins. -/
def heapStart : RowFormat → Nat
  | compact => 120
  | redundant => 125

theorem fixedSize_pos (format : RowFormat) : 0 < format.fixedSize := by cases format <;> decide

end RowFormat

/-- What a record is. -/
inductive RecordKind where
  /-- A record of a leaf. -/
  | conventional
  /-- A record that points to a page one level lower. -/
  | nodePointer
  /-- The record before all others. -/
  | infimum
  /-- The record after all others. -/
  | supremum
  deriving DecidableEq, Repr, Inhabited

namespace RecordKind

/-- The kind that the lowest three bits of a status stand for. -/
def ofStatus (status : Nat) : RecordKind :=
  match status % 8 with
  | 1 => nodePointer
  | 2 => infimum
  | 3 => supremum
  | _ => conventional

/-- The name of a kind. -/
def name : RecordKind → String
  | conventional => "conventional"
  | nodePointer => "node_pointer"
  | infimum => "infimum"
  | supremum => "supremum"

/-- Whether a record bounds the chain and holds no columns. -/
def isSentinel : RecordKind → Bool
  | infimum | supremum => true
  | conventional | nodePointer => false

end RecordKind

/-- What the header of a record says of one column. -/
structure Extent where
  /-- The number of stored bytes, with the reference if the value is stored elsewhere. -/
  length : Nat
  /-- Whether there is no value. -/
  null : Bool := false
  /-- Whether the value is stored elsewhere and the bytes end with a reference. -/
  external : Bool := false
  deriving DecidableEq, Repr, Inhabited

/-- What a redundant header says of its table of field ends. -/
structure EndTable where
  /-- The number of fields. -/
  count : Nat
  /-- The width of an entry, one byte or two. -/
  width : Nat
  deriving DecidableEq, Repr, Inhabited

/-- The header of a record. -/
structure RecordHeader where
  /-- The origin of the record. -/
  origin : Nat
  /-- The format of the record. -/
  format : RowFormat
  /-- The origin of the next record. -/
  next : Nat
  /-- What the record is. -/
  kind : RecordKind
  /-- The number of the record in the heap of the page. -/
  heapNumber : Nat
  /-- The number of records that the directory reaches through this one. -/
  owned : Nat
  /-- The info flags, in the upper four of eight bits. -/
  flags : Nat
  /-- The table of field ends of a redundant header. -/
  ends : Option EndTable
  /-- What the header says of each column, if it was read with the columns of the index. -/
  fields : NameTable Extent
  /-- The number of bytes of the header. -/
  length : Nat
  deriving DecidableEq, Repr

namespace RecordHeader

/-- Whether the record is marked as deleted. -/
def isDeleted (header : RecordHeader) : Bool := header.flags.testBit 5

/-- Whether the record is marked as the least of its level. -/
def isLeast (header : RecordHeader) : Bool := header.flags.testBit 4

/-- The number of bytes of all columns. -/
def dataLength (header : RecordHeader) : Nat := (header.fields.map (·.2.length)).sum

end RecordHeader

end Tablespace
