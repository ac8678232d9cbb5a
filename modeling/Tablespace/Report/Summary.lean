import Tablespace.Catalog.Row
import Tablespace.Json
import Tablespace.Text.Align
import Tablespace.Text.Styled

/-!
# The summary of a system space

The summary tells the size of a system space, how many indexes have their roots in it, the highest
numbers that its data dictionary has given out, and the names of all tables.
-/

namespace Tablespace

open Text (Painter)

/-- The summary of a system space. -/
structure Summary where
  /-- The name of the space. -/
  name : String
  /-- The number of pages. -/
  pages : Nat
  /-- The size of a page. -/
  pageSize : Nat
  /-- The number of files. -/
  files : Nat
  /-- The number of indexes with their root in the space. -/
  indexes : Nat
  /-- The highest number of a table. -/
  maxTable : Nat
  /-- The highest number of an index. -/
  maxIndex : Nat
  /-- The names of the tables. -/
  tables : List String
  deriving DecidableEq, Repr

namespace Summary

/-- The summary of a system space. -/
def ofSpace (space : Space) : Except Error Summary := do
  let catalog ← Catalog.ofSpace space
  let roots ← catalog.rootsOfSpace space.id
  let tables ← catalog.tableNames
  return {
    name := space.name
    pages := space.pageCount
    pageSize := space.pageSize
    files := space.files.length
    indexes := roots.length
    maxTable := catalog.header.maxTable
    maxIndex := catalog.header.maxIndex
    tables }

/-- The JSON form. -/
def toJson (summary : Summary) : Json :=
  .obj [
    ("name", summary.name), ("pages", summary.pages), ("page_size", summary.pageSize),
    ("files", summary.files), ("btreeindexes", summary.indexes),
    ("max_table_id", summary.maxTable), ("max_index_id", summary.maxIndex),
    ("tables", .ofList .str summary.tables)]

/-- One line of the table at the top, in three columns; the texts are painted when in place. -/
def row (paint : String → String) (name pages indexes : String) : String :=
  paint (Text.alignLeft 32 name) ++ " " ++ paint (Text.alignRight 10 pages) ++ " " ++
    paint (Text.alignRight 14 indexes)

/-- The lines of text. -/
def lines (paint : Painter) (summary : Summary) : List String :=
  [ row (paint .bold) "name" "pages" "btreeindexes",
    row id summary.name (toString summary.pages) (toString summary.indexes),
    "",
    s!"Page size {summary.pageSize} across {summary.files} file(s); " ++
      s!"max table id {summary.maxTable}, max index id {summary.maxIndex}",
    "",
    paint .bold s!"Tables ({summary.tables.length})" ] ++
  summary.tables.map ("  " ++ ·)

end Summary

end Tablespace
