import Tablespace.Catalog.Index
import Tablespace.Index.Scan

/-!
# Rows of the data dictionary

A catalog is a system space with the header of its data dictionary. Its rows are read by scanning
the index in which they are stored; a row gives its values by column name.
-/

namespace Tablespace

/-- A row of the data dictionary. -/
abbrev CatalogRow := NameTable FieldValue

namespace CatalogRow

/-- The integer in a column. -/
def nat (row : CatalogRow) (column : String) : Except Error Nat :=
  match (NameTable.get? row column).bind FieldValue.toNat? with
  | some n => .ok n
  | none => .error (.format (.catalogIntegerMissing column))

/-- The text in a column. -/
def text (row : CatalogRow) (column : String) : Except Error String :=
  match (NameTable.get? row column).bind FieldValue.toText? with
  | some s => .ok s
  | none => .error (.format (.catalogStringMissing column))

/-- The first row with a property, where asking a row may fail. -/
def first? (p : CatalogRow → Except Error Bool) : List CatalogRow → Except Error (Option CatalogRow)
  | [] => .ok none
  | row :: rows => do if ← p row then return some row else first? p rows

/-- The rows with a property, where asking a row may fail. -/
def select (p : CatalogRow → Except Error Bool) : List CatalogRow → Except Error (List CatalogRow)
  | [] => .ok []
  | row :: rows => do
    let keep ← p row
    let rest ← select p rows
    return if keep then row :: rest else rest

end CatalogRow

/-- A system space with its data dictionary. -/
structure Catalog where
  /-- The system space. -/
  space : Space
  /-- The header of the data dictionary. -/
  header : CatalogHeader

namespace Catalog

/-- The catalog of a system space. -/
def ofSpace (space : Space) : Except Error Catalog := do
  if space.isSystem then
    return ⟨space, ← CatalogHeader.read (← space.page Space.dictionaryPageNumber)⟩
  else .error (.request (.noDictionary space.id))

/-- The tree of an index of the data dictionary. -/
def tree (catalog : Catalog) (index : CatalogIndex) : Except Error Tree :=
  Tree.atRoot catalog.space (index.root catalog.header) (some index.layout)

/-- The records of an index of the data dictionary. -/
def records (catalog : Catalog) (index : CatalogIndex) : Except Error (List Record) := do
  (← catalog.tree index).rows

/-- The rows of an index of the data dictionary. -/
def rows (catalog : Catalog) (index : CatalogIndex) : Except Error (List CatalogRow) := do
  return (← catalog.records index).map (·.values)

/-- The names of all tables. -/
def tableNames (catalog : Catalog) : Except Error (List String) := do
  (← catalog.rows .tables).mapM (·.text "NAME")

/-- The rows of the indexes stored in a space. -/
def indexesOfSpace (catalog : Catalog) (space : Nat) : Except Error (List CatalogRow) := do
  CatalogRow.select (fun row => return (← row.nat "SPACE") == space) (← catalog.rows .indexes)

/-- The root pages of the indexes stored in a space. -/
def rootsOfSpace (catalog : Catalog) (space : Nat) : Except Error (List Nat) := do
  (← catalog.indexesOfSpace space).mapM (·.nat "PAGE_NO")

/-- The row of the table with a number. -/
def tableById? (catalog : Catalog) (id : Nat) : Except Error (Option CatalogRow) := do
  CatalogRow.first? (fun row => return (← row.nat "ID") == id) (← catalog.rows .tables)

/-- The row of the table with a name. -/
def tableByName? (catalog : Catalog) (name : String) : Except Error (Option CatalogRow) := do
  CatalogRow.first? (fun row => return (← row.text "NAME") == name) (← catalog.rows .tables)

end Catalog

end Tablespace
