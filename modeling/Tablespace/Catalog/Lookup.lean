import Tablespace.Catalog.Row

/-!
# Looking up indexes

An index is found in the catalog by its number or by the names of its table and itself. The indexes
of the data dictionary are not listed there: their numbers are those on their root pages.
-/

namespace Tablespace

/-- What the catalog says of an index. -/
structure IndexEntry where
  /-- The name of the table. -/
  table : String
  /-- The name of the index. -/
  name : String
  /-- The number of the table. -/
  tableId : Nat
  /-- The number of the index. -/
  id : Nat
  /-- The space in which the index is stored. -/
  space : Nat
  /-- The page of the root. -/
  root : Nat
  /-- The kind of the index. -/
  kind : IndexKind
  deriving DecidableEq, Repr

namespace IndexEntry

/-- What a row says of an index of a table. -/
def ofRow (table : String) (row : CatalogRow) : Except Error IndexEntry := do
  let type ← row.nat "TYPE"
  let name ← row.text "NAME"
  let tableId ← row.nat "TABLE_ID"
  let id ← row.nat "ID"
  let space ← row.nat "SPACE"
  let root ← row.nat "PAGE_NO"
  return {
    table, name, tableId, id
    space := space % 2 ^ 32
    root
    kind := if type.testBit 0 then .clustered else .secondary }

/-- What there is to say of an index of the data dictionary. -/
def ofCatalogIndex (header : CatalogHeader) (index : CatalogIndex) (id : Nat) : IndexEntry where
  table := index.tableName
  name := index.indexName
  tableId := index.tableId
  id := id
  space := 0
  root := index.root header
  kind := index.layout.kind

end IndexEntry

namespace Catalog

/-- A list by ascending numbers with an entry for one number, which replaces an earlier one. -/
def putById (id : Nat) (index : CatalogIndex) :
    List (Nat × CatalogIndex) → List (Nat × CatalogIndex)
  | [] => [(id, index)]
  | (n, other) :: rest =>
    if id < n then (id, index) :: (n, other) :: rest
    else if id = n then (id, index) :: rest
    else (n, other) :: putById id index rest

/-- The indexes of the data dictionary by the numbers on their root pages; of two with one number
the later counts. -/
def indexIds (catalog : Catalog) : Except Error (List (Nat × CatalogIndex)) :=
  CatalogIndex.all.foldlM (fun ids index => do
    let id ← (← catalog.tree index).index
    return putById id index ids) []

/-- The index with a number. -/
def indexById? (catalog : Catalog) (id : Nat) : Except Error (Option IndexEntry) := do
  match (← catalog.indexIds).lookup id with
  | some index => return some (.ofCatalogIndex catalog.header index id)
  | none =>
    let isIt (row : CatalogRow) : Except Error Bool := return (← row.nat "ID") == id
    match ← CatalogRow.first? isIt (← catalog.rows .indexes) with
    | none => return none
    | some row =>
      match ← catalog.tableById? (← row.nat "TABLE_ID") with
      | none => return none
      | some table => some <$> IndexEntry.ofRow (← table.text "NAME") row

/-- Whether a row describes the index with a name of the table with a number. -/
def isIndexOf (tableId : Nat) (name : String) (row : CatalogRow) : Except Error Bool := do
  if (← row.nat "TABLE_ID") = tableId then return (← row.text "NAME") == name else return false

/-- The index with a name of the table with a name. -/
def indexByName? (catalog : Catalog) (table index : String) : Except Error (Option IndexEntry) := do
  match ← catalog.tableByName? table with
  | none => return none
  | some tableRow =>
    let tableId ← tableRow.nat "ID"
    match ← CatalogRow.first? (isIndexOf tableId index) (← catalog.rows .indexes) with
    | none => return none
    | some row => some <$> IndexEntry.ofRow table row

end Catalog

end Tablespace
