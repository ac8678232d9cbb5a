import Tablespace.Column.Layout
import Tablespace.Page.Basic
import Tablespace.Record.Header

/-!
# Redundant records

Six bytes before the origin hold info flags and owned count, then in three bytes the heap number,
the number of fields and the width of a table entry, and the origin of the next record. Below them
lies a table with the end of every field, counted from the origin. The upper bits of an entry say
whether the field is NULL and, in entries of two bytes, whether its value is stored elsewhere.

The header does not say what kind of record it belongs to; that follows from the origin and from the
level of the page.
-/

namespace Tablespace.Redundant

/-- What an entry of the table says: the end of the field and its two marks. -/
def entry (width raw : Nat) : Nat × Bool × Bool :=
  if width = 1 then (raw % 2 ^ 7, raw.testBit 7, false)
  else (raw % 2 ^ 14, raw.testBit 15, raw.testBit 14)

/-- The extents of `count` fields, whose entries begin with the one at `index`; the field before
ends at `previous`. -/
def extents (page : Page) (origin width : Nat) :
    (count index previous : Nat) → Except Error (List Extent)
  | 0, _, _ => .ok []
  | count + 1, index, previous => do
    let raw ← page.uint (origin - 6 - (index + 1) * width) width
    let (fieldEnd, null, external) := entry width raw
    let rest ← extents page origin width count (index + 1) fieldEnd
    return { length := fieldEnd - previous, null, external } :: rest

/-- The extents of all fields of a record. -/
def table (page : Page) (origin : Nat) (ends : EndTable) : Except Error (List Extent) :=
  if origin - 6 < ends.count * ends.width then
    .error (.format (.fieldEndsUnderrun origin page.number))
  else extents page origin ends.width ends.count 0 0

/-- The extent of the field at the place of a column. -/
def extentOf (page : Page) (origin : Nat) (ends : EndTable) (extents : List Extent)
    (column : Column) : Except Error (String × Extent) :=
  match extents[column.position]? with
  | some extent => .ok (column.name, extent)
  | none =>
    .error (.format (.fieldMissing origin page.number ends.count column.name column.position))

/-- What a record's table says of its columns. -/
def fields (page : Page) (origin : Nat) (ends : EndTable) (columns : List Column) :
    Except Error (NameTable Extent) := do
  let extents ← table page origin ends
  let entries ← columns.mapM (extentOf page origin ends extents)
  return .ofList entries

/-- Where a page stores its level. -/
def levelOffset : Nat := 64

/-- What the record at `origin` is. -/
def kind (page : Page) (origin : Nat) : Except Error RecordKind :=
  if origin = RowFormat.redundant.infimum then .ok .infimum
  else if origin = RowFormat.redundant.supremum then .ok .supremum
  else (page.uint levelOffset 2).map fun level => if 0 < level then .nodePointer else .conventional

/-- The header of the record at `origin`, with what it says of `columns` unless the record is a
sentinel. -/
def header (page : Page) (columns : Option (List Column)) (origin : Nat) :
    Except Error RecordHeader := do
  let info ← page.byte (origin - 6)
  let bits ← page.uint (origin - 5) 3
  let next ← page.uint (origin - 2) 2
  let ends : EndTable := { count := bits / 2 % 2 ^ 10, width := if bits % 2 = 1 then 1 else 2 }
  let kind ← kind page origin
  let fields ←
    match columns with
    | some columns => if kind.isSentinel then pure [] else fields page origin ends columns
    | none => pure []
  return {
    origin
    format := .redundant
    next
    kind
    heapNumber := bits / 2 ^ 11
    owned := info % 16
    flags := info / 16 * 16
    ends := some ends
    fields
    length := 6 + ends.count * ends.width }

end Tablespace.Redundant
