import Tablespace.Catalog.Schema
import Tablespace.Report.Structure
import Tablespace.Text.Styled

/-!
# The report on the rows of an index

The report lists the rows that a scan of an index has found and the errors that it has kept.
-/

namespace Tablespace

open Text (Painter)

/-- The report on the rows of an index. -/
structure RowsReport where
  /-- The name of the table, if the index was found by name. -/
  table : Option String
  /-- The name of the index. -/
  index : String
  /-- The tree of the index. -/
  tree : Tree
  /-- What the scan has found. -/
  findings : Findings

namespace RowsReport

/-- The JSON form of a row. -/
def rowJson (record : Record) : Json :=
  let values := record.values
  .obj ([
    ("offset", .nat record.origin), ("heap_number", .nat record.header.heapNumber),
    ("deleted", .bool record.header.isDeleted)] ++
    (if values.isEmpty then [] else [("fields", NameTable.toJson FieldValue.toJson values)]))

/-- The JSON form. The number of the index is read from the root. -/
def toJson (report : RowsReport) : Except Error Json := do
  let number ← report.tree.index
  let errors := report.findings.errors
  return .obj (
    Json.member? "table" .str report.table ++ [
    ("index", .str report.index), ("root_page", .nat report.tree.root), ("index_id", .nat number),
    ("records", .ofList rowJson report.findings.records)] ++
    (if errors.isEmpty then [] else [("errors", .ofList (.str ·.message) errors)]))

/-- The line for a row. -/
def rowLine (paint : Painter) (record : Record) : String :=
  let deleted := if record.header.isDeleted then paint .yellow " (deleted)" else ""
  if record.isHeaderOnly then
    s!"offset {record.origin} heap {record.header.heapNumber}" ++ deleted
  else
    let fields := record.fields.map fun f =>
      paint .bold f.column.name ++ "=" ++ f.value.display
    " ".intercalate fields ++ deleted

/-- The lines of text. -/
def lines (paint : Painter) (report : RowsReport) : List String :=
  let records := report.findings.records
  let errors := report.findings.errors
  records.map (rowLine paint) ++
  ["", s!"{records.length} record(s) from root page {report.tree.root}"] ++
  (if errors.isEmpty then []
  else
    paint .yellow s!"{errors.length} error(s) skipped" ::
      errors.map fun e => "  " ++ paint .red e.message)

end RowsReport

end Tablespace
