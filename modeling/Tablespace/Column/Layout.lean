import Tablespace.Column.DataType

/-!
# Record layouts

A layout says which columns the records of an index hold: the columns of the key and the other
columns. `Layout.columns` puts them into the order in which a record stores them. That order depends
on the kind of the index and on the level of the page: in a clustered index the records of the
leaves have two hidden columns after the key, and the records above the leaves hold the key alone.

Main statement: `getElem?_columns_position`, a column knows its place in the record.
-/

namespace Tablespace

/-- What a layout says of one column. -/
structure ColumnSpec where
  /-- The name of the column. -/
  name : String
  /-- The type of the column. -/
  type : DataType
  /-- Whether the column may be NULL. -/
  nullable : Bool := false
  deriving DecidableEq, Repr, Inhabited

/-- What a column is for. -/
inductive ColumnRole where
  /-- Part of the key. -/
  | key
  /-- Any other column of the layout. -/
  | row
  /-- A hidden column. -/
  | system
  deriving DecidableEq, Repr, Inhabited

/-- A column of a stored record. -/
structure Column extends ColumnSpec where
  /-- What the column is for. -/
  role : ColumnRole
  /-- The place of the column in the record, counted from zero. -/
  position : Nat
  deriving DecidableEq, Repr, Inhabited

/-- The kinds of indexes. -/
inductive IndexKind where
  /-- The leaves hold the rows of the table. -/
  | clustered
  /-- The leaves hold the key of the clustered index. -/
  | secondary
  deriving DecidableEq, Repr, Inhabited

/-- The columns of an index. -/
structure Layout where
  /-- The kind of the index. -/
  kind : IndexKind
  /-- The columns of the key. -/
  keys : List ColumnSpec
  /-- The other columns. -/
  rows : List ColumnSpec
  deriving DecidableEq, Repr, Inhabited

namespace Layout

/-- The hidden columns: who wrote the record, and where its previous version is. -/
def hidden : List ColumnSpec :=
  [{ name := "DB_TRX_ID", type := .transactionId }, { name := "DB_ROLL_PTR", type := .rollPointer }]

/-- The columns with their roles, in the order in which a record stores them. -/
def stored (layout : Layout) (leaf : Bool) : List (ColumnSpec × ColumnRole) :=
  let keys := layout.keys.map (·, ColumnRole.key)
  let rows := layout.rows.map (·, ColumnRole.row)
  match layout.kind, leaf with
  | .clustered, true => keys ++ hidden.map (·, ColumnRole.system) ++ rows
  | .clustered, false => keys
  | .secondary, _ => keys ++ rows

/-- The columns of a record on a page of the leaf level or of a higher level. -/
def columns (layout : Layout) (leaf : Bool) : List Column :=
  (layout.stored leaf).mapIdx fun position spec =>
    { spec.1 with role := spec.2, position := position }

/-- A column knows its place in the record. -/
theorem getElem?_columns_position {layout : Layout} {leaf : Bool} {i : Nat} {column : Column}
    (h : (layout.columns leaf)[i]? = some column) : column.position = i := by
  rw [columns, List.getElem?_mapIdx] at h
  obtain ⟨spec, -, rfl⟩ := Option.map_eq_some_iff.1 h
  rfl

end Layout

end Tablespace
