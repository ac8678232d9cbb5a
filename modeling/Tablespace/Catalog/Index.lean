import Tablespace.Catalog.Header
import Tablespace.Column.Layout

/-!
# The indexes of the data dictionary

The data dictionary is stored in four tables with five indexes. Their layouts cannot be looked up in
the data dictionary itself, so they are given here.
-/

namespace Tablespace

/-- The indexes of the data dictionary. -/
inductive CatalogIndex where
  /-- The tables by name. -/
  | tables
  /-- The tables by number. -/
  | tableIds
  /-- The columns of each table. -/
  | columns
  /-- The indexes of each table. -/
  | indexes
  /-- The key columns of each index. -/
  | fields
  deriving DecidableEq, Repr, Inhabited

namespace CatalogIndex

/-- All indexes. -/
def all : List CatalogIndex := [tables, tableIds, columns, indexes, fields]

/-- The name of the table. -/
def tableName : CatalogIndex → String
  | tables | tableIds => "SYS_TABLES"
  | columns => "SYS_COLUMNS"
  | indexes => "SYS_INDEXES"
  | fields => "SYS_FIELDS"

/-- The name of the index. -/
def indexName : CatalogIndex → String
  | tableIds => "ID"
  | tables | columns | indexes | fields => "PRIMARY"

/-- The number of the table. -/
def tableId : CatalogIndex → Nat
  | tables | tableIds => 1
  | columns => 2
  | indexes => 3
  | fields => 4

/-- The index with these names. -/
def ofNames? (table index : String) : Option CatalogIndex :=
  all.find? fun c => c.tableName = table && c.indexName = index

/-- Whether a table belongs to the data dictionary. -/
def isTable (table : String) : Bool := all.any (·.tableName = table)

/-- A name column. -/
def nameSpec (name : String) : ColumnSpec := { name, type := .varChar 100 }

/-- An unsigned column of four bytes. -/
def wordSpec (name : String) : ColumnSpec := { name, type := .integer 4 true }

/-- An unsigned column of eight bytes. -/
def longSpec (name : String) : ColumnSpec := { name, type := .integer 8 true }

/-- The columns of the index. -/
def layout : CatalogIndex → Layout
  | tables => {
    kind := .clustered
    keys := [nameSpec "NAME"]
    rows := [longSpec "ID", wordSpec "N_COLS", wordSpec "TYPE", longSpec "MIX_ID",
      wordSpec "MIX_LEN", nameSpec "CLUSTER_NAME", wordSpec "SPACE"] }
  | tableIds => {
    kind := .secondary
    keys := [longSpec "ID"]
    rows := [nameSpec "NAME"] }
  | columns => {
    kind := .clustered
    keys := [longSpec "TABLE_ID", wordSpec "POS"]
    rows := [nameSpec "NAME", wordSpec "MTYPE", wordSpec "PRTYPE", wordSpec "LEN",
      wordSpec "PREC"] }
  | indexes => {
    kind := .clustered
    keys := [longSpec "TABLE_ID", longSpec "ID"]
    rows := [nameSpec "NAME", wordSpec "N_FIELDS", wordSpec "TYPE", wordSpec "SPACE",
      wordSpec "PAGE_NO"] }
  | fields => {
    kind := .clustered
    keys := [longSpec "INDEX_ID", wordSpec "POS"]
    rows := [nameSpec "COL_NAME"] }

/-- The root page of the index. -/
def root (index : CatalogIndex) (header : CatalogHeader) : Nat :=
  match index with
  | tables => header.roots.tables
  | tableIds => header.roots.tableIds
  | columns => header.roots.columns
  | indexes => header.roots.indexes
  | fields => header.roots.fields

/-- The names of a catalog index lead back to it. -/
theorem ofNames?_names (index : CatalogIndex) :
    ofNames? index.tableName index.indexName = some index := by
  cases index <;> decide

/-- In every layout, at every level, the columns have different names. -/
theorem nodup_names (index : CatalogIndex) (leaf : Bool) :
    ((index.layout.columns leaf).map (·.name)).Nodup := by
  cases index <;> cases leaf <;> decide

end CatalogIndex

end Tablespace
