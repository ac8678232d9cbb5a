import Tablespace.Catalog.Schema
import Tablespace.Proofs.LeafContents

/-!
# What the rows of the catalog list

`CatalogContents` is what the data dictionary says of tables, columns, indexes and key columns,
entry by entry; `Catalog.Holds` says that the rows of a catalog can be read and list these entries,
in any order. What the lookups then give is what the entries say: `tableByName?_of_holds` for
tables, `mapM_ofRow_eq` for the indexes of a table, `tableColumns_of_holds` for its columns and
`mapM_fieldOfRow_eq` for key columns.

Columns and key columns are put in order by their positions. `Arranged` says so without an
algorithm; `Arranged.unique`, there is only one such list, and `exists_arranged`, sorting finds it.
-/

namespace Tablespace

/-! ## Entries in order -/

section Order

variable {α β : Type} {position : α → Nat}

/-- A list holds the given entries by ascending positions. -/
structure Arranged (position : α → Nat) (entries arranged : List α) : Prop where
  /-- No entry is lost or repeated. -/
  perm : arranged.Perm entries
  /-- The positions ascend. -/
  ascending : arranged.Pairwise fun a b => position a < position b

/-- Entries can be arranged in one way. -/
theorem Arranged.unique {entries first second : List α} (hfirst : Arranged position entries first)
    (hsecond : Arranged position entries second) : first = second := by
  refine List.Perm.eq_of_pairwise ?_ hfirst.ascending hsecond.ascending
    (hfirst.perm.trans hsecond.perm.symm)
  intro a b _ _ hab hba
  exact absurd hab (Nat.lt_asymm hba)

/-- A list holds the given entries by positions that do not descend; entries of one position stay in
order. -/
structure Ordered (position : α → Nat) (entries ordered : List α) : Prop where
  /-- No entry is lost or repeated. -/
  perm : ordered.Perm entries
  /-- The positions do not descend. -/
  ascending : ordered.Pairwise fun a b => position a ≤ position b
  /-- Entries of one position stay in order. -/
  stable : ∀ n, (ordered.filter fun a => position a = n) = entries.filter fun a => position a = n

/-- Entries are put in order by sorting them. -/
theorem exists_ordered (position : α → Nat) (entries : List α) (f : α → β) :
    ∃ ordered, Ordered position entries ordered ∧
      inOrder (entries.map fun a => (position a, f a)) = ordered.map f := by
  let before (a b : α) : Bool := decide (position a ≤ position b)
  have htrans : ∀ a b c, before a b = true → before b c = true → before a c = true := by
    intro a b c hab hbc
    exact decide_eq_true (Nat.le_trans (of_decide_eq_true hab) (of_decide_eq_true hbc))
  have htotal : ∀ a b, (before a b || before b a) = true := by
    intro a b
    rcases Nat.le_total (position a) (position b) with h | h
    · simp [before, h]
    · simp [before, h]
  have hperm : (entries.mergeSort before).Perm entries := List.mergeSort_perm entries before
  have hsorted : (entries.mergeSort before).Pairwise fun a b => before a b :=
    List.pairwise_mergeSort htrans htotal entries
  refine ⟨entries.mergeSort before, ⟨hperm, ?_, ?_⟩, ?_⟩
  · exact hsorted.imp of_decide_eq_true
  · intro n
    -- entries of one position are in order, so sorting keeps them as a sublist
    have hone : (entries.filter fun a => position a = n).Pairwise fun a b => before a b := by
      rw [List.pairwise_iff_forall_sublist]
      intro a b hab
      have ha := List.mem_filter.1 (hab.subset List.mem_cons_self)
      have hb := List.mem_filter.1 (hab.subset (List.mem_cons_of_mem _ List.mem_cons_self))
      have hpositions : position a = position b :=
        (of_decide_eq_true ha.2).trans (of_decide_eq_true hb.2).symm
      exact decide_eq_true (Nat.le_of_eq hpositions)
    have hkept : List.Sublist (entries.filter fun a => position a = n)
        (entries.mergeSort before) :=
      List.sublist_mergeSort htrans htotal hone List.filter_sublist
    have hfiltered := hkept.filter fun a => position a = n
    rw [List.filter_filter] at hfiltered
    simp only [Bool.and_self] at hfiltered
    exact (hfiltered.eq_of_length (hperm.filter _).length_eq.symm).symm
  · have hmap : (entries.mergeSort before).map (fun a => (position a, f a)) =
        (entries.map fun a => (position a, f a)).mergeSort fun a b => decide (a.1 ≤ b.1) :=
      List.map_mergeSort fun a _ b _ => rfl
    rw [inOrder, ← hmap, List.map_map]
    rfl

/-- Entries with different positions are arranged by sorting them. -/
theorem exists_arranged {entries : List α} (hpositions : (entries.map position).Nodup)
    (f : α → β) :
    ∃ arranged, Arranged position entries arranged ∧
      inOrder (entries.map fun a => (position a, f a)) = arranged.map f := by
  obtain ⟨ordered, hordered, hmap⟩ := exists_ordered position entries f
  have hdifferent : ordered.Pairwise fun a b => position a ≠ position b :=
    List.pairwise_map.1 ((hordered.perm.map position).nodup_iff.2 hpositions)
  have hascending : ordered.Pairwise fun a b => position a < position b := by
    refine (hordered.ascending.and hdifferent).imp ?_
    rintro a b ⟨hle, hne⟩
    exact Nat.lt_of_le_of_ne hle hne
  exact ⟨ordered, ⟨hordered.perm, hascending⟩, hmap⟩

/-- Where the values of a function are different, an element is the only one with its value. -/
theorem filter_eq_singleton [DecidableEq β] {f : α → β} {as : List α} {a : α}
    (h : (as.map f).Nodup) (hmem : a ∈ as) : (as.filter fun b => f b = f a) = [a] := by
  induction as with
  | nil => cases hmem
  | cons c as ih =>
    rw [List.map_cons, List.nodup_cons] at h
    rcases List.mem_cons.1 hmem with rfl | hmem
    · have hrest : (as.filter fun b => f b = f a) = [] := by
        rw [List.filter_eq_nil_iff]
        intro b hb heq
        exact h.1 (List.mem_map.2 ⟨b, hb, of_decide_eq_true heq⟩)
      rw [List.filter_cons_of_pos (by simp), hrest]
    · have hne : f c ≠ f a := fun heq => h.1 (heq ▸ List.mem_map_of_mem hmem)
      rw [List.filter_cons_of_neg (by simpa using hne), ih h.2 hmem]

/-- Where the values of a function are different, an element is the first one with its value. -/
theorem find?_eq_some_self [DecidableEq β] {f : α → β} {as : List α} {a : α}
    (h : (as.map f).Nodup) (hmem : a ∈ as) : (as.find? fun b => f b = f a) = some a := by
  rw [← List.head?_filter, filter_eq_singleton h hmem]
  rfl

/-- Where no more than one element has a property, one that has it is the first one. -/
theorem find?_eq_some_of_length_filter_le {p : α → Bool} {as : List α} {a : α}
    (h : (as.filter p).length ≤ 1) (hmem : a ∈ as) (ha : p a = true) : as.find? p = some a := by
  have hfilter : a ∈ as.filter p := List.mem_filter.2 ⟨hmem, ha⟩
  rw [← List.head?_filter]
  rcases Nat.le_one_iff_eq_zero_or_eq_one.1 h with hzero | hone
  · rw [List.length_eq_zero_iff.1 hzero] at hfilter
    cases hfilter
  · obtain ⟨only, honly⟩ := List.length_eq_one_iff.1 hone
    rw [honly, List.mem_singleton] at hfilter
    rw [honly, hfilter]
    rfl

end Order

/-! ## Entries of the catalog -/

/-- A table that the catalog lists. -/
structure ListedTable where
  name : String
  id : Nat
  deriving DecidableEq, Repr

/-- A column that the catalog lists. -/
structure ListedColumn where
  tableId : Nat
  position : Nat
  name : String
  main : Nat
  precise : Nat
  length : Nat
  deriving DecidableEq, Repr

/-- An index that the catalog lists. -/
structure ListedIndex where
  tableId : Nat
  id : Nat
  name : String
  type : Nat
  space : Nat
  root : Nat
  deriving DecidableEq, Repr

/-- A key column that the catalog lists. -/
structure ListedField where
  index : Nat
  position : Nat
  name : String
  deriving DecidableEq, Repr

/-- Whether the index is clustered. -/
def ListedIndex.clustered (index : ListedIndex) : Bool := index.type.testBit 0

namespace CatalogRow

/-- The row lists a table. -/
def IsTable (row : CatalogRow) (table : ListedTable) : Prop :=
  row.text "NAME" = .ok table.name ∧ row.nat "ID" = .ok table.id

/-- The row lists a column. -/
def IsColumn (row : CatalogRow) (column : ListedColumn) : Prop :=
  row.nat "TABLE_ID" = .ok column.tableId ∧ row.nat "POS" = .ok column.position ∧
    row.text "NAME" = .ok column.name ∧ row.nat "MTYPE" = .ok column.main ∧
    row.nat "PRTYPE" = .ok column.precise ∧ row.nat "LEN" = .ok column.length

/-- The row lists an index. -/
def IsIndex (row : CatalogRow) (index : ListedIndex) : Prop :=
  row.nat "TABLE_ID" = .ok index.tableId ∧ row.nat "ID" = .ok index.id ∧
    row.text "NAME" = .ok index.name ∧ row.nat "TYPE" = .ok index.type ∧
    row.nat "SPACE" = .ok index.space ∧ row.nat "PAGE_NO" = .ok index.root

/-- The row lists a key column. -/
def IsField (row : CatalogRow) (field : ListedField) : Prop :=
  row.nat "INDEX_ID" = .ok field.index ∧ row.nat "POS" = .ok field.position ∧
    row.text "COL_NAME" = .ok field.name

instance (row : CatalogRow) (table : ListedTable) : Decidable (row.IsTable table) :=
  inferInstanceAs (Decidable (_ ∧ _))

instance (row : CatalogRow) (column : ListedColumn) : Decidable (row.IsColumn column) :=
  inferInstanceAs (Decidable (_ ∧ _))

instance (row : CatalogRow) (index : ListedIndex) : Decidable (row.IsIndex index) :=
  inferInstanceAs (Decidable (_ ∧ _))

instance (row : CatalogRow) (field : ListedField) : Decidable (row.IsField field) :=
  inferInstanceAs (Decidable (_ ∧ _))

end CatalogRow

/-- What the catalog lists. -/
structure CatalogContents where
  tables : List ListedTable
  columns : List ListedColumn
  indexes : List ListedIndex
  fields : List ListedField

namespace CatalogContents

/-- The columns of a table. -/
def columnsOf (contents : CatalogContents) (tableId : Nat) : List ListedColumn :=
  contents.columns.filter (·.tableId = tableId)

/-- The indexes of a table. -/
def indexesOf (contents : CatalogContents) (tableId : Nat) : List ListedIndex :=
  contents.indexes.filter (·.tableId = tableId)

/-- The key columns of an index. -/
def fieldsOf (contents : CatalogContents) (index : Nat) : List ListedField :=
  contents.fields.filter (·.index = index)

end CatalogContents

/-- The rows of the catalog can be read, and they list the contents. -/
structure Catalog.Holds (catalog : Catalog) (contents : CatalogContents) : Prop where
  tables : ∃ rows, catalog.rows .tables = .ok rows ∧
    List.Forall₂ CatalogRow.IsTable rows contents.tables
  columns : ∃ rows, catalog.rows .columns = .ok rows ∧
    List.Forall₂ CatalogRow.IsColumn rows contents.columns
  indexes : ∃ rows, catalog.rows .indexes = .ok rows ∧
    List.Forall₂ CatalogRow.IsIndex rows contents.indexes
  fields : ∃ rows, catalog.rows .fields = .ok rows ∧
    List.Forall₂ CatalogRow.IsField rows contents.fields

/-! ## What one row gives -/

namespace ListedColumn

/-- The column as layouts have it. -/
def spec (column : ListedColumn) : ColumnSpec where
  name := column.name
  type := Catalog.columnType column.main column.precise column.length
  nullable := !column.precise.testBit DataType.notNullBit

end ListedColumn

/-- The index as lookups give it. -/
def ListedIndex.entry (table : String) (index : ListedIndex) : IndexEntry where
  table := table
  name := index.name
  tableId := index.tableId
  id := index.id
  space := index.space % 2 ^ 32
  root := index.root
  kind := if index.clustered then .clustered else .secondary

theorem columnOfRow_of_isColumn {row : CatalogRow} {column : ListedColumn}
    (h : row.IsColumn column) : Catalog.columnOfRow row = .ok (column.position, column.spec) := by
  obtain ⟨-, hposition, hname, hmain, hprecise, hlength⟩ := h
  simp only [Catalog.columnOfRow, hposition, hname, hmain, hprecise, hlength, ok_bind]
  rfl

theorem ofRow_of_isIndex {row : CatalogRow} {index : ListedIndex} (table : String)
    (h : row.IsIndex index) : IndexEntry.ofRow table row = .ok (index.entry table) := by
  obtain ⟨htable, hid, hname, htype, hspace, hroot⟩ := h
  simp only [IndexEntry.ofRow, htable, hid, hname, htype, hspace, hroot, ok_bind]
  rfl

theorem isOfTable_of_isIndex {row : CatalogRow} {index : ListedIndex} (tableId : Nat)
    (h : row.IsIndex index) : Catalog.isOfTable tableId row = decide (index.tableId = tableId) := by
  rw [Catalog.isOfTable, h.1]

theorem fieldOfRow_of_isField {row : CatalogRow} {field : ListedField} (h : row.IsField field) :
    Catalog.fieldOfRow row = .ok (field.index, field.position, field.name) := by
  obtain ⟨hindex, hposition, hname⟩ := h
  simp only [Catalog.fieldOfRow, hindex, hposition, hname, ok_bind]
  rfl

/-! ## What all rows give -/

/-- Looking for a row is looking for its entry. -/
theorem CatalogRow.first?_eq {α : Type} {IsEntry : CatalogRow → α → Prop}
    {p : CatalogRow → Except Error Bool} {q : α → Bool} {rows : List CatalogRow} {entries : List α}
    (h : List.Forall₂ IsEntry rows entries)
    (hp : ∀ row entry, IsEntry row entry → p row = .ok (q entry)) :
    ∃ found, CatalogRow.first? p rows = .ok found ∧
      Option.Rel IsEntry found (entries.find? q) := by
  induction h with
  | nil => exact ⟨none, rfl, .none⟩
  | @cons row entry rows entries hrow _ ih =>
    rw [CatalogRow.first?, hp row entry hrow, ok_bind]
    cases hq : q entry with
    | true =>
      rw [List.find?_cons_of_pos hq]
      exact ⟨some row, rfl, .some hrow⟩
    | false =>
      rw [List.find?_cons_of_neg (by simp [hq])]
      exact ih

theorem columnsOfRows_eq {rows : List CatalogRow} {columns : List ListedColumn} (tableId : Nat)
    (h : List.Forall₂ CatalogRow.IsColumn rows columns) :
    Catalog.columnsOfRows tableId rows =
      .ok ((columns.filter (·.tableId = tableId)).map fun c => (c.position, c.spec)) := by
  induction h with
  | nil => rfl
  | @cons row column rows columns hrow _ ih =>
    rw [Catalog.columnsOfRows, hrow.1, ok_bind, ih]
    by_cases htable : column.tableId = tableId
    · rw [if_pos htable, columnOfRow_of_isColumn hrow, List.filter_cons_of_pos (by simpa)]
      rfl
    · rw [if_neg htable, List.filter_cons_of_neg (by simpa)]

theorem mapM_ofRow_eq {rows : List CatalogRow} {indexes : List ListedIndex} (table : String)
    (tableId : Nat) (h : List.Forall₂ CatalogRow.IsIndex rows indexes) :
    (rows.filter (Catalog.isOfTable tableId)).mapM (IndexEntry.ofRow table) =
      .ok ((indexes.filter (·.tableId = tableId)).map (·.entry table)) := by
  induction h with
  | nil => rfl
  | @cons row index rows indexes hrow _ ih =>
    have hof := isOfTable_of_isIndex tableId hrow
    by_cases htable : index.tableId = tableId
    · rw [List.filter_cons_of_pos (by simpa [hof]), List.filter_cons_of_pos (by simpa),
        List.mapM_cons, ofRow_of_isIndex table hrow, ih]
      rfl
    · rw [List.filter_cons_of_neg (by simpa [hof]), List.filter_cons_of_neg (by simpa), ih]

theorem mapM_fieldOfRow_eq {rows : List CatalogRow} {fields : List ListedField}
    (h : List.Forall₂ CatalogRow.IsField rows fields) :
    rows.mapM Catalog.fieldOfRow = .ok (fields.map fun f => (f.index, f.position, f.name)) := by
  rw [mapM_eq_ok_iff, List.forall₂_map_right_iff]
  exact h.imp fun row field => fieldOfRow_of_isField

theorem keyNamesOf_eq (fields : List ListedField) (index : Nat) :
    Catalog.keyNamesOf (fields.map fun f => (f.index, f.position, f.name)) index =
      inOrder ((fields.filter (·.index = index)).map fun f => (f.position, f.name)) := by
  rw [Catalog.keyNamesOf, List.filter_map, List.map_map]
  rfl

namespace Catalog

variable {catalog : Catalog} {contents : CatalogContents}

/-- An index of the catalog can be opened if its root can be read. -/
theorem tree_of_rootNode {index : CatalogIndex} {root : Node}
    (hroot : Tree.rootNode ⟨catalog.space, index.root catalog.header, some index.layout⟩ =
      .ok root) :
    catalog.tree index =
      .ok ⟨catalog.space, index.root catalog.header, some index.layout⟩ :=
  Tree.atRoot_of_rootNode hroot

/-- Where an index of the catalog is a single page, its records are those of the page. -/
theorem records_of_onlyLeaf {index : CatalogIndex} {leaf : Node} {records : List Record}
    (hroot : Tree.rootNode ⟨catalog.space, index.root catalog.header, some index.layout⟩ = .ok leaf)
    (hlevel : leaf.level = 0) (hlast : leaf.next? = none) (hrecords : leaf.records = .ok records) :
    catalog.records index = .ok (records.filter (·.kind = .conventional)) := by
  rw [Catalog.records, tree_of_rootNode hroot, ok_bind,
    Tree.rows_of_onlyLeaf hroot hlevel hlast hrecords]

/-- The rows of an index are the values of its records. -/
theorem rows_of_records {index : CatalogIndex} {records : List Record}
    (h : catalog.records index = .ok records) :
    catalog.rows index = .ok (records.map Record.values) := by
  rw [rows, h, ok_bind]
  rfl

theorem tableByName?_of_holds (h : catalog.Holds contents) (name : String) :
    ∃ found, catalog.tableByName? name = .ok found ∧
      Option.Rel CatalogRow.IsTable found (contents.tables.find? (·.name = name)) := by
  obtain ⟨rows, hrows, htables⟩ := h.tables
  rw [tableByName?, hrows, ok_bind]
  refine CatalogRow.first?_eq htables ?_
  intro row table hrow
  rw [hrow.1, ok_bind, pure_eq_ok, beq_eq_decide]

theorem tableColumns_of_holds (h : catalog.Holds contents) (tableId : Nat) :
    catalog.tableColumns tableId =
      .ok (inOrder ((contents.columnsOf tableId).map fun c => (c.position, c.spec))) := by
  obtain ⟨rows, hrows, hcolumns⟩ := h.columns
  rw [tableColumns, hrows, ok_bind, columnsOfRows_eq tableId hcolumns]
  rfl

end Catalog

end Tablespace
