import Tablespace.Record.Compact
import Tablespace.Record.Redundant
import Tablespace.Value.Decode
import Tablespace.Value.External

/-!
# Records from pages

`RecordHeader.read` reads the header of the record at an offset of a page, in either format.
`Record.read` goes on to the columns: each begins where the one before it ended, and the header says
how many bytes it has. After the columns of a record that points to a lower page comes the number of
that page.
-/

namespace Tablespace

/-- The header of the record at `origin`, with what it says of `columns`. -/
def RecordHeader.read (page : Page) (format : RowFormat) (columns : Option (List Column))
    (origin : Nat) : Except Error RecordHeader :=
  if origin < format.fixedSize ∨ page.size ≤ origin then
    .error (.format (.recordOutside origin page.number))
  else
    match format with
    | .compact => Compact.header page columns origin
    | .redundant => Redundant.header page columns origin

namespace Column

/-- The value of a column whose bytes begin at `offset`, and the number of these bytes. Of a value
that is stored elsewhere only the bytes before the reference are decoded. -/
def value (column : Column) (page : Page) (header : RecordHeader) (offset : Nat) :
    Except Error (FieldValue × Nat) :=
  match header.fields.get? column.name with
  | none => .error (.format (.lengthMissing column.name header.origin page.number))
  | some extent =>
    if extent.null then .ok (.null, extent.length)
    else if extent.external && extent.length < ExternalReference.size then
      .error (.format (.referenceTooShort column.name offset page.number))
    else do
      let reference := if extent.external then ExternalReference.size else 0
      let bytes ← page.read offset (extent.length - reference)
      return (.decode column.type bytes, extent.length)

/-- Where the rest of a column is stored, if it is stored elsewhere. -/
def external (column : Column) (page : Page) (header : RecordHeader) (offset : Nat) :
    Except Error (Option ExternalReference) :=
  match header.fields.get? column.name with
  | none => .ok none
  | some extent =>
    if extent.external && !extent.null && ExternalReference.size ≤ extent.length then
      some <$> ExternalReference.read page (offset + extent.length - ExternalReference.size)
    else .ok none

end Column

/-- A column of a record with its value. -/
structure Field where
  /-- The column. -/
  column : Column
  /-- The value of the column. -/
  value : FieldValue
  /-- Where the rest of the value is stored, if it is stored elsewhere. -/
  external : Option ExternalReference
  deriving DecidableEq, Repr

/-- The fields of a record from `columns` on, the first of which begins at `offset`, and the offset
at which they end. -/
def readFields (page : Page) (header : RecordHeader) :
    List Column → (offset : Nat) → Except Error (List Field × Nat)
  | [], offset => .ok ([], offset)
  | column :: columns, offset => do
    let (value, consumed) ← column.value page header offset
    let external ← column.external page header offset
    let (rest, finish) ← readFields page header columns (offset + consumed)
    return ({ column, value, external } :: rest, finish)

/-- A record. -/
structure Record where
  /-- The header of the record. -/
  header : RecordHeader
  /-- The fields in the order in which they are stored; none if the columns are not known. -/
  fields : List Field := []
  /-- The page that the record points to. -/
  child : Option Nat := none
  deriving DecidableEq, Repr

namespace Record

/-- The record at `origin`. Without columns, and for a sentinel, there is only the header. -/
def read (page : Page) (format : RowFormat) (columns : Option (List Column)) (origin : Nat) :
    Except Error Record := do
  let header ← RecordHeader.read page format columns origin
  match columns with
  | none => return { header }
  | some columns =>
    if header.kind.isSentinel then return { header }
    else
      let (fields, finish) ← readFields page header columns origin
      let child ← if header.kind = .nodePointer then some <$> page.uint finish 4 else pure none
      return { header, fields, child }

/-- The origin of the record. -/
def origin (record : Record) : Nat := record.header.origin

/-- What the record is. -/
def kind (record : Record) : RecordKind := record.header.kind

/-- The fields of columns with a role. -/
def withRole (record : Record) (role : ColumnRole) : List Field :=
  record.fields.filter (·.column.role = role)

/-- Whether no column was decoded. -/
def isHeaderOnly (record : Record) : Bool := record.fields.isEmpty

/-- The value of the first column with a name. -/
def get? (record : Record) (name : String) : Option FieldValue :=
  (record.fields.find? (·.column.name = name)).map (·.value)

/-- The values by name. -/
def values (record : Record) : NameTable FieldValue :=
  .ofList (record.fields.map fun f => (f.column.name, f.value))

end Record

end Tablespace
