import Tablespace.Catalog.Lookup
import Tablespace.Column.CatalogType

/-!
# Layouts of indexes

The layout of a user index is put together from the catalog: the columns of the table with their
types, the columns of the index, and those of the clustered index of the same table. A clustered
index holds its key and then all other columns of the table; a secondary index holds its key and
then those columns of the clustered key that are not in it. A table without clustered key is ordered
by a hidden row number.
-/

namespace Tablespace

/-- The columns of a table and of its indexes, as far as layouts need them. -/
structure TableSchema where
  /-- The name of the table. -/
  name : String
  /-- The columns of the table, in order. -/
  columns : List ColumnSpec
  /-- The indexes of the table. -/
  indexes : List IndexEntry
  /-- The names of the key columns of an index, in order. -/
  keyNames : Nat → List String

namespace TableSchema

/-- The column that orders a table without clustered key. -/
def rowNumber : ColumnSpec := { name := "DB_ROW_ID", type := .rowId }

/-- The key columns of an index. -/
def keys (schema : TableSchema) (index : Nat) : Except Error (List ColumnSpec) :=
  (schema.keyNames index).mapM fun name =>
    match schema.columns.find? (·.name = name) with
    | some column => .ok column
    | none => .error (.format (.indexFieldUnknown name schema.name))

/-- The key columns by which the rows of the table are ordered. -/
def clusteredKeys (schema : TableSchema) : Except Error (List ColumnSpec) := do
  let keys ←
    match schema.indexes.find? (·.kind = .clustered) with
    | some clustered => schema.keys clustered.id
    | none => pure []
  return if keys.isEmpty then [rowNumber] else keys

/-- The columns whose names are not among those of `others`. -/
def without (columns others : List ColumnSpec) : List ColumnSpec :=
  columns.filter fun c => !others.any (·.name = c.name)

/-- The layout of an index of the table. -/
def layout (schema : TableSchema) (index : IndexEntry) : Except Error Layout := do
  match index.kind with
  | .clustered =>
    let keys ← schema.clusteredKeys
    return { kind := .clustered, keys, rows := without schema.columns keys }
  | .secondary =>
    let keys ← schema.keys index.id
    return { kind := .secondary, keys, rows := without (← schema.clusteredKeys) keys }

end TableSchema

/-- The entries in the order of their numbers, without these; entries of one number stay in order.
-/
def inOrder {α : Type} (entries : List (Nat × α)) : List α :=
  (entries.mergeSort fun a b => decide (a.1 ≤ b.1)).map (·.2)

namespace Catalog

/-- The type of a column; bytes of a fixed number where the catalog's numbers have no meaning. -/
def columnType (main precise length : Nat) : DataType :=
  match DataType.ofCatalog main precise length with
  | .ok type => type
  | .error _ => .uninterpreted main length

/-- What a row says of a column, with its place in the table. -/
def columnOfRow (row : CatalogRow) : Except Error (Nat × ColumnSpec) := do
  let name ← row.text "NAME"
  let main ← row.nat "MTYPE"
  let precise ← row.nat "PRTYPE"
  let length ← row.nat "LEN"
  let position ← row.nat "POS"
  return (position,
    { name
      type := columnType main precise length
      nullable := !precise.testBit DataType.notNullBit })

/-- What the rows that describe columns say of a table. -/
def columnsOfRows (tableId : Nat) : List CatalogRow → Except Error (List (Nat × ColumnSpec))
  | [] => .ok []
  | row :: rows => do
    if (← row.nat "TABLE_ID") = tableId then
      let column ← columnOfRow row
      return column :: (← columnsOfRows tableId rows)
    else columnsOfRows tableId rows

/-- The columns of a table, in order. -/
def tableColumns (catalog : Catalog) (tableId : Nat) : Except Error (List ColumnSpec) := do
  return inOrder (← columnsOfRows tableId (← catalog.rows .columns))

/-- What a row says of a key column: its index, its place in the key and its name. -/
def fieldOfRow (row : CatalogRow) : Except Error (Nat × Nat × String) := do
  return (← row.nat "INDEX_ID", ← row.nat "POS", ← row.text "COL_NAME")

/-- The names of the key columns of an index, in order. -/
def keyNamesOf (fields : List (Nat × Nat × String)) (index : Nat) : List String :=
  inOrder ((fields.filter (·.1 = index)).map (·.2))

/-- Whether a row describes an index of the table with a number. -/
def isOfTable (tableId : Nat) (row : CatalogRow) : Bool :=
  match row.nat "TABLE_ID" with
  | .ok id => id = tableId
  | .error _ => false

/-- The layout of the index with a name of the table with a name; none if the catalog lacks the
table, the index or the columns of the table. -/
def layoutByName? (catalog : Catalog) (table index : String) : Except Error (Option Layout) := do
  match CatalogIndex.ofNames? table index with
  | some builtin => return some builtin.layout
  | none =>
    match ← catalog.tableByName? table with
    | none => return none
    | some tableRow =>
      let tableId ← tableRow.nat "ID"
      let indexes ← ((← catalog.rows .indexes).filter (isOfTable tableId)).mapM
        (IndexEntry.ofRow table)
      match indexes.find? (·.name = index) with
      | none => return none
      | some target =>
        let columns ← catalog.tableColumns tableId
        if columns.isEmpty then return none
        else
          let fields ← (← catalog.rows .fields).mapM fieldOfRow
          let schema : TableSchema :=
            { name := table, columns, indexes, keyNames := keyNamesOf fields }
          some <$> schema.layout target

/-- The layout of the index with a number; none if the catalog does not tell it. -/
def layoutById? (catalog : Catalog) (id : Nat) : Except Error (Option Layout) := do
  match (← catalog.indexIds).lookup id with
  | some builtin => return some builtin.layout
  | none =>
    match ← catalog.indexById? id with
    | some entry => catalog.layoutByName? entry.table entry.name
    | none => return none

/-- The layout of the index with a number. -/
def layoutById (catalog : Catalog) (id : Nat) : Except Error Layout := do
  match ← catalog.layoutById? id with
  | some layout => return layout
  | none => .error (.unresolved id)

/-! ## Trees of named indexes -/

/-- What the catalog says of the index with a name, which has to be there. -/
def indexByName (catalog : Catalog) (table index : String) : Except Error IndexEntry := do
  match ← catalog.indexByName? table index with
  | some entry => return entry
  | none => .error (.request (.noSuchIndex index table))

/-- The tree of an index that is stored in a space given with it. -/
def treeIn (catalog : Catalog) (space : Space) (table index : String) : Except Error Tree := do
  let entry ← catalog.indexByName table index
  let layout ← catalog.layoutByName? table index
  Tree.atRoot space entry.root layout

/-- The tree of an index that is stored in the system space. -/
def treeByName (catalog : Catalog) (table index : String) : Except Error Tree := do
  match CatalogIndex.ofNames? table index with
  | some builtin => catalog.tree builtin
  | none =>
    let entry ← catalog.indexByName table index
    if entry.space ≠ catalog.space.id then
      .error (.request (.otherSpace index table entry.space))
    else catalog.treeIn catalog.space table index

/-- The records of an index of the data dictionary, by name. -/
def recordsByName (catalog : Catalog) (table index : String) : Except Error (List Record) :=
  match CatalogIndex.ofNames? table index with
  | some builtin => catalog.records builtin
  | none => .error (.request (.notACatalogIndex table index))

end Catalog

end Tablespace
