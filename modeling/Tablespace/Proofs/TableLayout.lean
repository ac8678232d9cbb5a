import Tablespace.Proofs.SmallCatalog

/-!
# The layouts of the indexes of a table

Where the catalog lists a table with its columns, indexes and key columns consistently, the layout
of each of its indexes is found, and it depends on the listed entries alone, not on the order of the
rows: `layoutByName?_of_holds`. A clustered index holds its key, or a row number if it has none, and
then all columns with other names; a secondary index holds its key and then the rest of what orders
the rows. The names of the columns are different, so a record that is read under the layout gives
every column a value of its own. A column of the table that has the name of the row number is not in
the layout where the row number is: `layoutByName?_replaced`.
-/

namespace Tablespace

/-! ## Columns by name -/

namespace TableSchema

theorem without_eq (columns others : List ColumnSpec) :
    without columns others = columns.filter fun c => c.name ∉ others.map (·.name) := by
  refine List.filter_congr ?_
  intro column _
  rw [Bool.eq_iff_iff]
  simp

/-- The names of some columns and of those not among them are different. -/
theorem nodup_names_append_without {columns others : List ColumnSpec}
    (hcolumns : (columns.map (·.name)).Nodup) (hothers : (others.map (·.name)).Nodup) :
    ((others ++ without columns others).map (·.name)).Nodup := by
  rw [without_eq, List.map_append]
  refine List.Nodup.append hothers ?_ ?_
  · exact (List.filter_sublist.map _).nodup hcolumns
  · intro name hother hrest
    obtain ⟨column, hcolumn, rfl⟩ := List.mem_map.1 hrest
    exact of_decide_eq_true (List.mem_filter.1 hcolumn).2 hother

/-- Key columns can be looked up if the table has columns with their names. -/
theorem keys_eq_ok {schema : TableSchema} {index : Nat}
    (h : ∀ name ∈ schema.keyNames index, ∃ column ∈ schema.columns, column.name = name) :
    ∃ keys, schema.keys index = .ok keys ∧
      List.Forall₂ (fun name key => key ∈ schema.columns ∧ key.name = name)
        (schema.keyNames index) keys := by
  rw [keys]
  generalize schema.keyNames index = names at h ⊢
  induction names with
  | nil => exact ⟨[], rfl, .nil⟩
  | cons name names ih =>
    obtain ⟨keys, hkeys, hfound⟩ := ih fun other hother => h other (List.mem_cons_of_mem _ hother)
    obtain ⟨column, hcolumn, hname⟩ := h name List.mem_cons_self
    cases hfind : schema.columns.find? (·.name = name) with
    | none => exact absurd hname (by simpa using List.find?_eq_none.1 hfind column hcolumn)
    | some key =>
      have hkey : key.name = name := by simpa using List.find?_some hfind
      refine ⟨key :: keys, ?_, .cons ⟨List.mem_of_find?_eq_some hfind, hkey⟩ hfound⟩
      rw [List.mapM_cons, hfind, ok_bind, hkeys]
      rfl

end TableSchema

/-- The columns of a record have different names if those of the layout do and none of them is
hidden. -/
theorem Layout.nodup_names_columns {layout : Layout}
    (h : ((layout.keys ++ layout.rows).map (·.name)).Nodup)
    (hhidden : ∀ column ∈ layout.keys ++ layout.rows, column.name ∉ hidden.map (·.name))
    (leaf : Bool) : ((layout.columns leaf).map (·.name)).Nodup := by
  refine nodup_names ?_ leaf
  rw [map_name_columns]
  obtain ⟨kind, keys, rows⟩ := layout
  cases kind with
  | secondary => simpa [stored, Function.comp_def] using h
  | clustered =>
    have hapart : List.Disjoint (hidden.map (·.name)) ((keys ++ rows).map (·.name)) := by
      intro name hname hother
      obtain ⟨column, hcolumn, rfl⟩ := List.mem_map.1 hother
      exact hhidden column hcolumn hname
    have hall : (hidden.map (·.name) ++ (keys ++ rows).map (·.name)).Nodup :=
      List.Nodup.append (by decide) h hapart
    have hperm : (hidden.map (·.name) ++ (keys ++ rows).map (·.name)).Perm
        (keys.map (·.name) ++ hidden.map (·.name) ++ rows.map (·.name)) := by
      rw [List.map_append, ← List.append_assoc]
      exact List.perm_append_comm.append_right _
    have hnames := hperm.nodup_iff.1 hall
    simpa [stored, Function.comp_def] using hnames

/-! ## Layouts that the listed entries describe -/

/-- The column is the listed one. Numbers that mean no type give bytes. -/
structure ListedColumn.Describes (listed : ListedColumn) (column : ColumnSpec) : Prop where
  name : column.name = listed.name
  type : DataType.ofCatalog listed.main listed.precise listed.length = .ok column.type ∨
    (∃ e, DataType.ofCatalog listed.main listed.precise listed.length = .error e) ∧
      column.type = .uninterpreted listed.main listed.length
  nullable : column.nullable = true ↔ listed.precise.testBit 8 = false

theorem ListedColumn.describes_spec (listed : ListedColumn) : listed.Describes listed.spec where
  name := rfl
  type := by
    rw [spec, Catalog.columnType]
    cases DataType.ofCatalog listed.main listed.precise listed.length with
    | ok type => exact .inl rfl
    | error e => exact .inr ⟨⟨e, rfl⟩, rfl⟩
  nullable := iff_of_eq (Bool.not_eq_true' _)

namespace CatalogContents

variable (contents : CatalogContents) (columns : List ColumnSpec)

/-- The columns are those of the table by their positions. -/
def TableColumns (tableId : Nat) : Prop :=
  ∃ listed, Arranged (·.position) (contents.columnsOf tableId) listed ∧
    List.Forall₂ ListedColumn.Describes listed columns

/-- The key holds the key columns of the index by their positions, each as the table has it. -/
def IndexKey (index : ListedIndex) (key : List ColumnSpec) : Prop :=
  ∃ fields, Arranged (·.position) (contents.fieldsOf index.id) fields ∧
    List.Forall₂ (fun field column => column ∈ columns ∧ column.name = field.name) fields key

/-- What the rows of a clustered index are ordered by. -/
inductive RowOrder (index : ListedIndex) : List ColumnSpec → Prop
  /-- The key of the index. -/
  | key {key : List ColumnSpec} : key ≠ [] → contents.IndexKey columns index key →
      RowOrder index key
  /-- A row number, if the index has no key. -/
  | rowNumber : contents.fieldsOf index.id = [] → RowOrder index [TableSchema.rowNumber]

/-- What the rows of a table are ordered by: what those of its clustered index are ordered by, or a
row number. -/
structure TableOrder (tableId : Nat) (order : List ColumnSpec) : Prop where
  clustered : ∀ index ∈ contents.indexesOf tableId, index.clustered = true →
    contents.RowOrder columns index order
  unordered : (∀ index ∈ contents.indexesOf tableId, index.clustered = false) →
    order = [TableSchema.rowNumber]

/-- The layout of a clustered index. -/
structure ClusteredLayout (index : ListedIndex) (layout : Layout) : Prop where
  kind : layout.kind = .clustered
  /-- The key comes first. -/
  keys : contents.RowOrder columns index layout.keys
  /-- The other columns of the table follow in order. -/
  rows : layout.rows = columns.filter fun c => c.name ∉ layout.keys.map (·.name)
  /-- Every column of the table is there once, unless it has the name of a row number and the index
  has no key columns. -/
  stored : ∀ column ∈ columns,
    contents.fieldsOf index.id ≠ [] ∨ column.name ≠ TableSchema.rowNumber.name →
    (layout.keys ++ layout.rows).filter (·.name = column.name) = [column]

/-- The layout of a secondary index. -/
structure SecondaryLayout (index : ListedIndex) (layout : Layout) : Prop where
  kind : layout.kind = .secondary
  /-- The key comes first. -/
  keys : contents.IndexKey columns index layout.keys
  /-- What else orders the rows of the table follows. -/
  rows : ∃ order, contents.TableOrder columns index.tableId order ∧
    layout.rows = order.filter fun c => c.name ∉ layout.keys.map (·.name)

/-- The catalog tells the tables apart, and for one of them its columns, its indexes and the key
columns of each; it has at most one clustered index, and at least one column. -/
structure Consistent (table : ListedTable) : Prop where
  tables : (contents.tables.map (·.name)).Nodup
  indexes : ((contents.indexesOf table.id).map (·.name)).Nodup
  clustered : ((contents.indexesOf table.id).filter (·.clustered)).length ≤ 1
  columns : contents.columnsOf table.id ≠ []
  positions : ((contents.columnsOf table.id).map (·.position)).Nodup
  names : ((contents.columnsOf table.id).map (·.name)).Nodup
  fieldPositions : ∀ index ∈ contents.indexesOf table.id,
    ((contents.fieldsOf index.id).map (·.position)).Nodup
  fieldNames : ∀ index ∈ contents.indexesOf table.id,
    ((contents.fieldsOf index.id).map (·.name)).Nodup
  fieldColumns : ∀ index ∈ contents.indexesOf table.id, ∀ field ∈ contents.fieldsOf index.id,
    ∃ column ∈ contents.columnsOf table.id, column.name = field.name

/-- The schema of a table. -/
def schema (table : ListedTable) : TableSchema where
  name := table.name
  columns := inOrder ((contents.columnsOf table.id).map fun c => (c.position, c.spec))
  indexes := (contents.indexesOf table.id).map (·.entry table.name)
  keyNames index := inOrder ((contents.fieldsOf index).map fun f => (f.position, f.name))

variable {contents columns} {table : ListedTable} {index : ListedIndex}

namespace TableColumns

variable {tableId : Nat}

theorem map_name (h : contents.TableColumns columns tableId) {listed : List ListedColumn}
    (hlisted : Arranged (·.position) (contents.columnsOf tableId) listed) :
    columns.map (·.name) = listed.map (·.name) := by
  obtain ⟨same, harranged, hdescribes⟩ := h
  rw [map_eq_map_of_forall₂ hdescribes fun listed column h => h.name, harranged.unique hlisted]

theorem nodup_names (h : contents.TableColumns columns tableId)
    (hnames : ((contents.columnsOf tableId).map (·.name)).Nodup) :
    (columns.map (·.name)).Nodup := by
  have ⟨listed, harranged, _⟩ := h
  rw [h.map_name harranged]
  exact (harranged.perm.map _).nodup_iff.2 hnames

end TableColumns

namespace IndexKey

variable {key : List ColumnSpec}

theorem map_name (h : contents.IndexKey columns index key) {fields : List ListedField}
    (hfields : Arranged (·.position) (contents.fieldsOf index.id) fields) :
    key.map (·.name) = fields.map (·.name) := by
  obtain ⟨same, harranged, hfound⟩ := h
  rw [map_eq_map_of_forall₂ hfound fun field column h => h.2, harranged.unique hfields]

theorem nodup_names (h : contents.IndexKey columns index key)
    (hnames : ((contents.fieldsOf index.id).map (·.name)).Nodup) : (key.map (·.name)).Nodup := by
  have ⟨fields, harranged, _⟩ := h
  rw [h.map_name harranged]
  exact (harranged.perm.map _).nodup_iff.2 hnames

theorem mem_columns (h : contents.IndexKey columns index key) :
    ∀ column ∈ key, column ∈ columns := by
  obtain ⟨fields, -, hfound⟩ := h
  induction hfound with
  | nil => simp
  | cons hcolumn _ ih => exact List.forall_mem_cons.2 ⟨hcolumn.1, ih⟩

/-- An index without key leaves it to a row number to order its rows. -/
theorem rowOrder (h : contents.IndexKey columns index key) :
    contents.RowOrder columns index (if key.isEmpty then [TableSchema.rowNumber] else key) := by
  cases key with
  | cons column key => exact .key (List.cons_ne_nil column key) h
  | nil =>
    obtain ⟨fields, harranged, hfound⟩ := h
    cases hfound
    exact .rowNumber harranged.perm.nil_eq.symm

end IndexKey

namespace RowOrder

variable {order : List ColumnSpec}

theorem nodup_names (h : contents.RowOrder columns index order)
    (hnames : ((contents.fieldsOf index.id).map (·.name)).Nodup) :
    (order.map (·.name)).Nodup := by
  cases h with
  | key _ hkey => exact hkey.nodup_names hnames
  | rowNumber _ => exact List.nodup_singleton _

/-- The names of a key are those of its listed columns. -/
theorem map_name (h : contents.RowOrder columns index order) {fields : List ListedField}
    (hfields : Arranged (·.position) (contents.fieldsOf index.id) fields) (hne : fields ≠ []) :
    order.map (·.name) = fields.map (·.name) := by
  cases h with
  | key _ hkey => exact hkey.map_name hfields
  | rowNumber hnone =>
    have hperm := hfields.perm
    rw [hnone] at hperm
    exact absurd hperm.eq_nil hne

theorem eq_rowNumber (h : contents.RowOrder columns index order)
    (hnone : contents.fieldsOf index.id = []) : order = [TableSchema.rowNumber] := by
  cases h with
  | key hne hkey =>
    obtain ⟨fields, harranged, hcolumns⟩ := hkey
    rw [hnone] at harranged
    rw [harranged.perm.eq_nil] at hcolumns
    exact absurd (List.forall₂_nil_left_iff.1 hcolumns) hne
  | rowNumber _ => rfl

theorem mem_columns (h : contents.RowOrder columns index order) :
    ∀ column ∈ order, column ∈ columns ∨ column = TableSchema.rowNumber := by
  cases h with
  | key _ hkey => exact fun column hcolumn => .inl (hkey.mem_columns column hcolumn)
  | rowNumber _ => exact fun column hcolumn => .inr (List.mem_singleton.1 hcolumn)

/-- With the other columns behind it, every column of the table is stored once, unless a row number
takes its name. -/
theorem filter_name (h : contents.RowOrder columns index order)
    (hfields : ((contents.fieldsOf index.id).map (·.name)).Nodup)
    (hcolumns : (columns.map (·.name)).Nodup) {column : ColumnSpec} (hcolumn : column ∈ columns)
    (hother : contents.fieldsOf index.id ≠ [] ∨ column.name ≠ TableSchema.rowNumber.name) :
    (order ++ TableSchema.without columns order).filter (·.name = column.name) = [column] := by
  have hnames := TableSchema.nodup_names_append_without hcolumns (h.nodup_names hfields)
  refine filter_eq_singleton hnames (List.mem_append.2 ?_)
  by_cases hkey : column.name ∈ order.map (·.name)
  · obtain ⟨stored, hstored, hname⟩ := List.mem_map.1 hkey
    have hmem : stored ∈ columns := by
      cases h with
      | key _ hindex => exact hindex.mem_columns stored hstored
      | rowNumber hnone =>
        rw [List.mem_singleton.1 hstored] at hname
        exact absurd hname.symm (hother.resolve_left (not_not_intro hnone))
    -- of two columns of the table with one name there is only one
    rw [← List.inj_on_of_nodup_map hcolumns hmem hcolumn hname]
    exact .inl hstored
  · rw [TableSchema.without_eq]
    exact .inr (List.mem_filter.2 ⟨hcolumn, decide_eq_true hkey⟩)

end RowOrder

/-! ## The schema of a table -/

theorem find?_clustered (table : ListedTable) :
    (contents.schema table).indexes.find? (·.kind = .clustered) =
      ((contents.indexesOf table.id).find? (·.clustered)).map (·.entry table.name) := by
  rw [schema, List.find?_map]
  congr 2
  funext index
  show decide ((index.entry table.name).kind = .clustered) = index.clustered
  rw [ListedIndex.entry]
  cases index.clustered <;> rfl

namespace Consistent

theorem tableColumns (h : contents.Consistent table) :
    contents.TableColumns (contents.schema table).columns table.id := by
  obtain ⟨listed, harranged, hcolumns⟩ := exists_arranged h.positions ListedColumn.spec
  refine ⟨listed, harranged, ?_⟩
  rw [schema, hcolumns, List.forall₂_map_right_iff, List.forall₂_same]
  exact fun column _ => column.describes_spec

/-- Every listed column of the table is one of the schema. -/
theorem exists_column (h : contents.Consistent table) {listed : ListedColumn}
    (hlisted : listed ∈ contents.columnsOf table.id) :
    ∃ column ∈ (contents.schema table).columns, column.name = listed.name := by
  obtain ⟨arranged, harranged, hcolumns⟩ := exists_arranged h.positions ListedColumn.spec
  refine ⟨listed.spec, ?_, rfl⟩
  rw [schema, hcolumns]
  exact List.mem_map_of_mem (harranged.perm.mem_iff.2 hlisted)

/-- The key columns of an index can be looked up. -/
theorem exists_indexKey (h : contents.Consistent table)
    (hindex : index ∈ contents.indexesOf table.id) :
    ∃ key, (contents.schema table).keys index.id = .ok key ∧
      contents.IndexKey (contents.schema table).columns index key := by
  obtain ⟨fields, harranged, hsorted⟩ :=
    exists_arranged (h.fieldPositions index hindex) ListedField.name
  have hnames : (contents.schema table).keyNames index.id = fields.map (·.name) := hsorted
  have hfound : ∀ name ∈ (contents.schema table).keyNames index.id,
      ∃ column ∈ (contents.schema table).columns, column.name = name := by
    rw [hnames, List.forall_mem_map]
    intro field hfield
    obtain ⟨listed, hlisted, hname⟩ :=
      h.fieldColumns index hindex field (harranged.perm.mem_iff.1 hfield)
    rw [← hname]
    exact h.exists_column hlisted
  obtain ⟨key, hkey, hcolumns⟩ := TableSchema.keys_eq_ok hfound
  rw [hnames, List.forall₂_map_left_iff] at hcolumns
  exact ⟨key, hkey, fields, harranged, hcolumns⟩

/-- Of the indexes of a table one at most is clustered. -/
theorem eq_of_clustered (h : contents.Consistent table) {other : ListedIndex}
    (hindex : index ∈ contents.indexesOf table.id) (hother : other ∈ contents.indexesOf table.id)
    (hclustered : index.clustered = true) (hothers : other.clustered = true) : index = other := by
  have hfirst := find?_eq_some_of_length_filter_le h.clustered hindex hclustered
  rw [find?_eq_some_of_length_filter_le h.clustered hother hothers] at hfirst
  exact (Option.some.inj hfirst).symm

/-- What orders the rows of the table can be looked up. -/
theorem exists_tableOrder (h : contents.Consistent table) :
    ∃ order, (contents.schema table).clusteredKeys = .ok order ∧
      contents.TableOrder (contents.schema table).columns table.id order := by
  rw [TableSchema.clusteredKeys, find?_clustered]
  cases hfind : (contents.indexesOf table.id).find? (·.clustered) with
  | none =>
    have hnone : ∀ index ∈ contents.indexesOf table.id, index.clustered = false := by
      simpa using hfind
    refine ⟨[TableSchema.rowNumber], rfl, ?_, fun _ => rfl⟩
    intro index hindex hclustered
    rw [hnone index hindex] at hclustered
    cases hclustered
  | some clustered =>
    have hmem := List.mem_of_find?_eq_some hfind
    have hclustered : clustered.clustered = true := List.find?_some hfind
    obtain ⟨key, hkey, hindexKey⟩ := h.exists_indexKey hmem
    have hstep : (contents.schema table).keys (clustered.entry table.name).id = .ok key := hkey
    refine ⟨if key.isEmpty then [TableSchema.rowNumber] else key, ?_, ?_, ?_⟩
    · simp only [Option.map_some, hstep, ok_bind, pure_eq_ok]
    · intro index hindex hother
      rw [h.eq_of_clustered hindex hmem hother hclustered]
      exact hindexKey.rowOrder
    · intro hnone
      rw [hnone clustered hmem] at hclustered
      cases hclustered

end Consistent

namespace TableOrder

variable {tableId : Nat} {order : List ColumnSpec}

/-- The rows are ordered by an index of the table or by a row number. -/
theorem exists_rowOrder_or (h : contents.TableOrder columns tableId order) :
    (∃ index ∈ contents.indexesOf tableId, contents.RowOrder columns index order) ∨
      order = [TableSchema.rowNumber] := by
  by_cases hnone : ∀ index ∈ contents.indexesOf tableId, index.clustered = false
  · exact .inr (h.unordered hnone)
  · push Not at hnone
    obtain ⟨index, hindex, hclustered⟩ := hnone
    exact .inl ⟨index, hindex, h.clustered index hindex (by simpa using hclustered)⟩

theorem nodup_names (h : contents.TableOrder columns tableId order)
    (hnames : ∀ index ∈ contents.indexesOf tableId,
      ((contents.fieldsOf index.id).map (·.name)).Nodup) : (order.map (·.name)).Nodup := by
  rcases h.exists_rowOrder_or with ⟨index, hindex, horder⟩ | rfl
  · exact horder.nodup_names (hnames index hindex)
  · exact List.nodup_singleton _

theorem mem_columns (h : contents.TableOrder columns tableId order) :
    ∀ column ∈ order, column ∈ columns ∨ column = TableSchema.rowNumber := by
  rcases h.exists_rowOrder_or with ⟨index, -, horder⟩ | rfl
  · exact horder.mem_columns
  · exact fun column hcolumn => .inr (List.mem_singleton.1 hcolumn)

end TableOrder

theorem exists_clusteredLayout (h : contents.Consistent table)
    (hindex : index ∈ contents.indexesOf table.id) (hclustered : index.clustered = true) :
    ∃ layout, (contents.schema table).layout (index.entry table.name) = .ok layout ∧
      contents.ClusteredLayout (contents.schema table).columns index layout ∧
      ((layout.keys ++ layout.rows).map (·.name)).Nodup := by
  obtain ⟨order, horder, htableOrder⟩ := h.exists_tableOrder
  have hrowOrder := htableOrder.clustered index hindex hclustered
  have hcolumns := h.tableColumns.nodup_names h.names
  have hkind : (index.entry table.name).kind = .clustered := by
    rw [ListedIndex.entry, hclustered]
    rfl
  refine ⟨⟨.clustered, order, TableSchema.without (contents.schema table).columns order⟩,
    ?_, ?_, ?_⟩
  · rw [TableSchema.layout, hkind, horder]
    rfl
  · exact {
      kind := rfl
      keys := hrowOrder
      rows := TableSchema.without_eq _ _
      stored := fun column hcolumn hother =>
        hrowOrder.filter_name (h.fieldNames index hindex) hcolumns hcolumn hother }
  · exact TableSchema.nodup_names_append_without hcolumns
      (hrowOrder.nodup_names (h.fieldNames index hindex))

theorem exists_secondaryLayout (h : contents.Consistent table)
    (hindex : index ∈ contents.indexesOf table.id) (hsecondary : index.clustered = false) :
    ∃ layout, (contents.schema table).layout (index.entry table.name) = .ok layout ∧
      contents.SecondaryLayout (contents.schema table).columns index layout ∧
      ((layout.keys ++ layout.rows).map (·.name)).Nodup := by
  obtain ⟨order, horder, htableOrder⟩ := h.exists_tableOrder
  obtain ⟨key, hkey, hindexKey⟩ := h.exists_indexKey hindex
  have htable : index.tableId = table.id := of_decide_eq_true (List.mem_filter.1 hindex).2
  have hkind : (index.entry table.name).kind = .secondary := by
    rw [ListedIndex.entry, hsecondary]
    rfl
  have hstep : (contents.schema table).keys (index.entry table.name).id = .ok key := hkey
  refine ⟨⟨.secondary, key, TableSchema.without order key⟩, ?_, ?_, ?_⟩
  · simp only [TableSchema.layout, hkind, hstep, horder, ok_bind, pure_eq_ok]
  · exact {
      kind := rfl
      keys := hindexKey
      rows := ⟨order, htable ▸ htableOrder, TableSchema.without_eq _ _⟩ }
  · exact TableSchema.nodup_names_append_without (htableOrder.nodup_names h.fieldNames)
      (hindexKey.nodup_names (h.fieldNames index hindex))

theorem ClusteredLayout.mem_columns {layout : Layout}
    (h : contents.ClusteredLayout columns index layout) :
    ∀ column ∈ layout.keys ++ layout.rows, column ∈ columns ∨ column = TableSchema.rowNumber := by
  intro column hcolumn
  rcases List.mem_append.1 hcolumn with hkey | hrow
  · exact h.keys.mem_columns column hkey
  · rw [h.rows] at hrow
    exact .inl (List.mem_filter.1 hrow).1

/-- A column of the table with the name of the row number has no place in the layout where the row
number stands for the key. -/
theorem ClusteredLayout.not_mem_of_rowNumber {layout : Layout}
    (h : contents.ClusteredLayout columns index layout) (hnone : contents.fieldsOf index.id = [])
    {column : ColumnSpec} (hname : column.name = TableSchema.rowNumber.name)
    (hne : column ≠ TableSchema.rowNumber) : column ∉ layout.keys ++ layout.rows := by
  rw [h.rows, h.keys.eq_rowNumber hnone]
  intro hcolumn
  rcases List.mem_append.1 hcolumn with hkey | hrow
  · exact hne (List.mem_singleton.1 hkey)
  · refine of_decide_eq_true (List.mem_filter.1 hrow).2 ?_
    rw [hname]
    exact List.mem_singleton_self _

theorem SecondaryLayout.mem_columns {layout : Layout}
    (h : contents.SecondaryLayout columns index layout) :
    ∀ column ∈ layout.keys ++ layout.rows, column ∈ columns ∨ column = TableSchema.rowNumber := by
  obtain ⟨order, horder, hrows⟩ := h.rows
  intro column hcolumn
  rcases List.mem_append.1 hcolumn with hkey | hrow
  · exact .inl (h.keys.mem_columns column hkey)
  · rw [hrows] at hrow
    exact horder.mem_columns column (List.mem_filter.1 hrow).1

/-- The columns of a record have different names if those of the layout do and no column of the
table has the name of a hidden one. -/
theorem nodup_names_columns {layout : Layout}
    (hnames : ((layout.keys ++ layout.rows).map (·.name)).Nodup)
    (hmem : ∀ column ∈ layout.keys ++ layout.rows,
      column ∈ columns ∨ column = TableSchema.rowNumber)
    (hvisible : ∀ column ∈ columns, column.name ∉ Layout.hidden.map (·.name)) (leaf : Bool) :
    ((layout.columns leaf).map (·.name)).Nodup := by
  refine Layout.nodup_names_columns hnames ?_ leaf
  intro column hcolumn
  rcases hmem column hcolumn with hcolumn | rfl
  · exact hvisible column hcolumn
  · decide

end CatalogContents

/-- A table has columns if the catalog lists some for it. -/
theorem CatalogContents.columns_schema_eq_nil_iff {contents : CatalogContents}
    {table : ListedTable} :
    (contents.schema table).columns = [] ↔ contents.columnsOf table.id = [] := by
  obtain ⟨ordered, hordered, hcolumns⟩ :=
    exists_ordered ListedColumn.position (contents.columnsOf table.id) ListedColumn.spec
  rw [schema, hcolumns, List.map_eq_nil_iff]
  constructor
  · rintro rfl
    exact hordered.perm.nil_eq.symm
  · intro hnone
    rw [hnone] at hordered
    exact hordered.perm.eq_nil

/-- The layout that the entries give for an index of a table by name. -/
def CatalogContents.layoutByName? (contents : CatalogContents) (table index : String) :
    Except Error (Option Layout) :=
  match contents.tables.find? (·.name = table) with
  | none => .ok none
  | some listed =>
    match (contents.indexesOf listed.id).find? (·.name = index) with
    | none => .ok none
    | some target =>
      if contents.columnsOf listed.id = [] then .ok none
      else some <$> (contents.schema listed).layout (target.entry listed.name)

/-- The layout of an index that is not one of the catalog is the one that the entries give. -/
theorem Catalog.layoutByName?_eq_contents {catalog : Catalog} {contents : CatalogContents}
    {table index : String} (hholds : catalog.Holds contents)
    (huser : CatalogIndex.ofNames? table index = none) :
    catalog.layoutByName? table index = contents.layoutByName? table index := by
  obtain ⟨found, hfound, hrow⟩ := tableByName?_of_holds hholds table
  obtain ⟨indexRows, hindexRows, hindexes⟩ := hholds.indexes
  obtain ⟨fieldRows, hfieldRows, hfields⟩ := hholds.fields
  simp only [layoutByName?, CatalogContents.layoutByName?, huser, hfound, ok_bind]
  cases hlisted : contents.tables.find? (·.name = table) with
  | none =>
    rw [hlisted] at hrow
    cases hrow
    rfl
  | some listed =>
    rw [hlisted] at hrow
    have hname : listed.name = table := by simpa using List.find?_some hlisted
    subst hname
    cases hrow with
    | some htableRow =>
      have hentries : (indexRows.filter (isOfTable listed.id)).mapM
          (IndexEntry.ofRow listed.name) = .ok (contents.schema listed).indexes :=
        mapM_ofRow_eq listed.name listed.id hindexes
      have htarget : (contents.schema listed).indexes.find? (·.name = index) =
          ((contents.indexesOf listed.id).find? (·.name = index)).map (·.entry listed.name) := by
        rw [CatalogContents.schema, List.find?_map]
        rfl
      have hcolumns : catalog.tableColumns listed.id = .ok (contents.schema listed).columns :=
        tableColumns_of_holds hholds listed.id
      have hkeyNames : keyNamesOf (contents.fields.map fun f => (f.index, f.position, f.name)) =
          (contents.schema listed).keyNames := funext (keyNamesOf_eq contents.fields)
      simp only [htableRow.2, hindexRows, hentries, htarget, ok_bind]
      cases (contents.indexesOf listed.id).find? (·.name = index) with
      | none => rfl
      | some target =>
        simp only [Option.map_some, hcolumns, ok_bind, hfieldRows, mapM_fieldOfRow_eq hfields,
          hkeyNames, List.isEmpty_iff, CatalogContents.columns_schema_eq_nil_iff]
        rfl

/-- The layout is looked up in the schema that the catalog lists. -/
theorem Catalog.layoutByName?_eq {catalog : Catalog} {contents : CatalogContents}
    {table : ListedTable} {index : ListedIndex} (hholds : catalog.Holds contents)
    (h : contents.Consistent table) (htable : table ∈ contents.tables)
    (hindex : index ∈ contents.indexesOf table.id)
    (huser : CatalogIndex.ofNames? table.name index.name = none) :
    catalog.layoutByName? table.name index.name =
      some <$> (contents.schema table).layout (index.entry table.name) := by
  have hlisted := find?_eq_some_self h.tables htable
  have htarget := find?_eq_some_self h.indexes hindex
  rw [layoutByName?_eq_contents hholds huser, CatalogContents.layoutByName?]
  simp only [hlisted, htarget]
  exact if_neg h.columns

/-- For an index that the catalog lists with its table, columns and key columns, a layout is found.
It depends on what is listed, in whatever order. A clustered index holds its key, or a row number if
it has none, and then all columns of the table with other names, so that each column is there once
where none has the name of the row number; a secondary index holds its key and then what else orders
the rows of the table. The columns have their listed names and types, and no two columns of the
layout have one name; on the pages of the index neither, if no column of the table has the name of a
hidden one. -/
theorem layoutByName?_of_holds {catalog : Catalog} {contents : CatalogContents}
    {table : ListedTable} {index : ListedIndex} (hholds : catalog.Holds contents)
    (hconsistent : contents.Consistent table) (htable : table ∈ contents.tables)
    (hindex : index ∈ contents.indexesOf table.id)
    (huser : CatalogIndex.ofNames? table.name index.name = none) :
    ∃ layout columns, catalog.layoutByName? table.name index.name = .ok (some layout) ∧
      contents.TableColumns columns table.id ∧
      (index.clustered = true → contents.ClusteredLayout columns index layout) ∧
      (index.clustered = false → contents.SecondaryLayout columns index layout) ∧
      ((layout.keys ++ layout.rows).map (·.name)).Nodup ∧
      ((∀ column ∈ columns, column.name ∉ Layout.hidden.map (·.name)) →
        ∀ leaf, ((layout.columns leaf).map (·.name)).Nodup) := by
  have hlookup := Catalog.layoutByName?_eq hholds hconsistent htable hindex huser
  cases hkind : index.clustered with
  | true =>
    obtain ⟨layout, hlayout, hclustered, hnames⟩ :=
      CatalogContents.exists_clusteredLayout hconsistent hindex hkind
    rw [hlayout] at hlookup
    exact ⟨layout, _, hlookup, hconsistent.tableColumns, fun _ => hclustered, nofun, hnames,
      CatalogContents.nodup_names_columns hnames hclustered.mem_columns⟩
  | false =>
    obtain ⟨layout, hlayout, hsecondary, hnames⟩ :=
      CatalogContents.exists_secondaryLayout hconsistent hindex hkind
    rw [hlayout] at hlookup
    exact ⟨layout, _, hlookup, hconsistent.tableColumns, nofun, fun _ => hsecondary, hnames,
      CatalogContents.nodup_names_columns hnames hsecondary.mem_columns⟩

/-! ## A table with two indexes -/

namespace Visits

open SmallCatalog

/-- The row of the table. -/
def tableRow : StoredRecord :=
  row .tables 65521 [text "visits", toBigEndian 8 7, toBigEndian 4 3, toBigEndian 4 1,
    toBigEndian 8 0, toBigEndian 4 0, [], toBigEndian 4 0]

/-- The rows of its columns. -/
def columnRows : List StoredRecord := [
  row .columns 100 [toBigEndian 8 7, toBigEndian 4 0, text "id", toBigEndian 4 6,
    toBigEndian 4 256, toBigEndian 4 4, toBigEndian 4 0],
  row .columns 65487 [toBigEndian 8 7, toBigEndian 4 2, text "note", toBigEndian 4 14,
    toBigEndian 4 0, toBigEndian 4 9, toBigEndian 4 0],
  row .columns 65422 [toBigEndian 8 7, toBigEndian 4 1, text "day", toBigEndian 4 6,
    toBigEndian 4 256, toBigEndian 4 4, toBigEndian 4 0]]

def small : SmallCatalog where
  heap
    | .tables => [tableRow]
    | .columns => columnRows
    | .indexes => [
      row .indexes 58 [toBigEndian 8 7, toBigEndian 8 20, text "PRIMARY", toBigEndian 4 2,
        toBigEndian 4 3, toBigEndian 4 0, toBigEndian 4 5],
      row .indexes 65464 [toBigEndian 8 7, toBigEndian 8 21, text "by_day", toBigEndian 4 1,
        toBigEndian 4 0, toBigEndian 4 0, toBigEndian 4 6]]
    | .fields => [
      row .fields 34 [toBigEndian 8 20, toBigEndian 4 1, text "day"],
      row .fields 33 [toBigEndian 8 20, toBigEndian 4 0, text "id"],
      row .fields 65455 [toBigEndian 8 21, toBigEndian 4 0, text "day"]]
    | .tableIds => []
  first
    | .tables => 28
    | .columns => 76
    | .indexes | .fields => 27
    | .tableIds => 13
  fits index := by cases index <;> decide +kernel

def catalog : Catalog := small.catalog

def contents : CatalogContents where
  tables := [⟨"visits", 7⟩]
  columns := [⟨7, 2, "note", 14, 0, 9⟩, ⟨7, 0, "id", 6, 256, 4⟩, ⟨7, 1, "day", 6, 256, 4⟩]
  indexes := [⟨7, 20, "PRIMARY", 3, 0, 5⟩, ⟨7, 21, "by_day", 0, 0, 6⟩]
  fields := [⟨20, 1, "day"⟩, ⟨20, 0, "id"⟩, ⟨21, 0, "day"⟩]

theorem tables_listed : small.Lists .tables CatalogRow.IsTable contents.tables := by
  decide +kernel

theorem columns_listed : small.Lists .columns CatalogRow.IsColumn contents.columns := by
  decide +kernel

theorem indexes_listed : small.Lists .indexes CatalogRow.IsIndex contents.indexes := by
  decide +kernel

theorem fields_listed : small.Lists .fields CatalogRow.IsField contents.fields := by
  decide +kernel

theorem holds : catalog.Holds contents :=
  SmallCatalog.holds tables_listed columns_listed indexes_listed fields_listed

theorem map_name_filter (columns : List ColumnSpec) (names : List String) :
    (columns.filter fun c => c.name ∉ names).map (·.name) =
      (columns.map (·.name)).filter (· ∉ names) := by
  rw [List.filter_map]
  rfl

theorem consistent : contents.Consistent ⟨"visits", 7⟩ where
  tables := by decide
  indexes := by decide
  clustered := by decide
  columns := by decide
  positions := by decide
  names := by decide
  fieldPositions := by decide
  fieldNames := by decide
  fieldColumns := by decide

end Visits

/-- The catalog lists the columns of a table and those of its key against their order. The layouts
of the clustered and of the other index have them in order. -/
theorem layoutByName?_of_holds_visits :
    ∃ clustered secondary,
      Visits.catalog.layoutByName? "visits" "PRIMARY" = .ok (some clustered) ∧
      clustered.keys.map (·.name) = ["id", "day"] ∧ clustered.rows.map (·.name) = ["note"] ∧
      Visits.catalog.layoutByName? "visits" "by_day" = .ok (some secondary) ∧
      secondary.keys.map (·.name) = ["day"] ∧ secondary.rows.map (·.name) = ["id"] := by
  have hcolumnList : Arranged (·.position) (Visits.contents.columnsOf 7)
      [⟨7, 0, "id", 6, 256, 4⟩, ⟨7, 1, "day", 6, 256, 4⟩, ⟨7, 2, "note", 14, 0, 9⟩] :=
    ⟨by decide, by decide⟩
  have hkey : Arranged (·.position) (Visits.contents.fieldsOf 20) [⟨20, 0, "id"⟩, ⟨20, 1, "day"⟩] :=
    ⟨by decide, by decide⟩
  have hday : Arranged (·.position) (Visits.contents.fieldsOf 21) [⟨21, 0, "day"⟩] :=
    ⟨by decide, by decide⟩
  obtain ⟨clustered, columns, hclustered, hcolumns, hlayout, -, -, -⟩ :=
    @layoutByName?_of_holds _ _ ⟨"visits", 7⟩ ⟨7, 20, "PRIMARY", 3, 0, 5⟩ Visits.holds
      Visits.consistent (by decide) (by decide) (by decide)
  obtain ⟨secondary, others, hsecondary, hothers, -, hsecond, -, -⟩ :=
    @layoutByName?_of_holds _ _ ⟨"visits", 7⟩ ⟨7, 21, "by_day", 0, 0, 6⟩ Visits.holds
      Visits.consistent (by decide) (by decide) (by decide)
  have hlayout := hlayout (by decide)
  have hsecond := hsecond (by decide)
  have hkeys : clustered.keys.map (·.name) = ["id", "day"] := hlayout.keys.map_name hkey (by decide)
  have hdays : secondary.keys.map (·.name) = ["day"] := hsecond.keys.map_name hday
  obtain ⟨order, horder, hrows⟩ := hsecond.rows
  have horder : order.map (·.name) = ["id", "day"] :=
    (horder.clustered ⟨7, 20, "PRIMARY", 3, 0, 5⟩ (by decide) (by decide)).map_name hkey (by decide)
  refine ⟨clustered, secondary, hclustered, hkeys, ?_, hsecondary, hdays, ?_⟩
  · rw [hlayout.rows, hkeys, Visits.map_name_filter, hcolumns.map_name hcolumnList]
    decide
  · rw [hrows, hdays, Visits.map_name_filter, horder]
    decide

/-! ## A table with a column of the name of the row number -/

namespace Keyless

open SmallCatalog

/-- A catalog whose only index has no key columns. -/
def small : SmallCatalog where
  heap
    | .tables => [Visits.tableRow]
    | .columns => [
      row .columns 56 [toBigEndian 8 7, toBigEndian 4 0, text "DB_ROW_ID", toBigEndian 4 6,
        toBigEndian 4 256, toBigEndian 4 4, toBigEndian 4 0],
      row .columns 65466 [toBigEndian 8 7, toBigEndian 4 1, text "note", toBigEndian 4 14,
        toBigEndian 4 0, toBigEndian 4 9, toBigEndian 4 0]]
    | .indexes => [
      row .indexes 65522 [toBigEndian 8 7, toBigEndian 8 20, text "GEN_CLUST_INDEX",
        toBigEndian 4 0, toBigEndian 4 1, toBigEndian 4 0, toBigEndian 4 5]]
    | .fields | .tableIds => []
  first
    | .tables => 28
    | .columns | .indexes => 27
    | .fields | .tableIds => 13
  fits index := by cases index <;> decide +kernel

def contents : CatalogContents where
  tables := [⟨"visits", 7⟩]
  columns := [⟨7, 0, "DB_ROW_ID", 6, 256, 4⟩, ⟨7, 1, "note", 14, 0, 9⟩]
  indexes := [⟨7, 20, "GEN_CLUST_INDEX", 1, 0, 5⟩]
  fields := []

theorem holds : small.catalog.Holds contents :=
  SmallCatalog.holds (by decide +kernel) (by decide +kernel) (by decide +kernel)
    (by decide +kernel)

theorem consistent : contents.Consistent ⟨"visits", 7⟩ where
  tables := by decide
  indexes := by decide
  clustered := by decide
  columns := by decide
  positions := by decide
  names := by decide
  fieldPositions := by decide
  fieldNames := by decide
  fieldColumns := by decide

end Keyless

/-- The rows of the only index are ordered by a row number, and the table has a column with its
name, an integer: there is no place for that column in the layout. -/
theorem layoutByName?_replaced :
    Catalog.ofSpace Keyless.small.space = .ok Keyless.small.catalog ∧
      Keyless.small.catalog.Holds Keyless.contents ∧
      Keyless.contents.Consistent ⟨"visits", 7⟩ ∧
      ∃ layout columns,
        Keyless.small.catalog.layoutByName? "visits" "GEN_CLUST_INDEX" = .ok (some layout) ∧
        Keyless.contents.TableColumns columns 7 ∧
        layout.keys = [TableSchema.rowNumber] ∧
        layout.rows.map (·.name) = ["note"] ∧
        ∃ column ∈ columns, column.name = "DB_ROW_ID" ∧ column.type = .integer 4 false ∧
          column ∉ layout.keys ++ layout.rows := by
  refine ⟨Keyless.small.ofSpace_space, Keyless.holds, Keyless.consistent, ?_⟩
  have hlookup : Keyless.small.catalog.layoutByName? "visits" "GEN_CLUST_INDEX" =
      some <$> (Keyless.contents.schema ⟨"visits", 7⟩).layout
        (ListedIndex.entry "visits" ⟨7, 20, "GEN_CLUST_INDEX", 1, 0, 5⟩) :=
    @Catalog.layoutByName?_eq _ _ ⟨"visits", 7⟩ ⟨7, 20, "GEN_CLUST_INDEX", 1, 0, 5⟩ Keyless.holds
      Keyless.consistent (by decide) (by decide) (by decide)
  obtain ⟨layout, hlayout, hclustered, -⟩ :=
    @CatalogContents.exists_clusteredLayout _ _ ⟨7, 20, "GEN_CLUST_INDEX", 1, 0, 5⟩
      Keyless.consistent (by decide) (by decide)
  rw [hlayout] at hlookup
  have htable := Keyless.consistent.tableColumns
  have hlisted : Arranged (·.position) (Keyless.contents.columnsOf 7)
      [⟨7, 0, "DB_ROW_ID", 6, 256, 4⟩, ⟨7, 1, "note", 14, 0, 9⟩] := ⟨by decide, by decide⟩
  have hnone : Keyless.contents.fieldsOf 20 = [] := rfl
  have hkeys := hclustered.keys.eq_rowNumber hnone
  refine ⟨layout, _, hlookup, htable, hkeys, ?_, ?_⟩
  · rw [hclustered.rows, hkeys, Visits.map_name_filter, htable.map_name hlisted]
    decide
  · obtain ⟨listed, harranged, hdescribes⟩ := htable
    rw [harranged.unique hlisted] at hdescribes
    obtain ⟨column, rest, hcolumn, -, hcolumns⟩ := List.forall₂_cons_left_iff.1 hdescribes
    have hinteger : DataType.ofCatalog 6 256 4 = .ok (.integer 4 false) := rfl
    have htype : column.type = .integer 4 false := by
      rcases hcolumn.type with hread | ⟨⟨e, hread⟩, -⟩
      · exact (Except.ok.inj (hinteger.symm.trans hread)).symm
      · cases hinteger.symm.trans hread
    have hne : column ≠ TableSchema.rowNumber := by
      rintro rfl
      cases htype
    refine ⟨column, hcolumns ▸ List.mem_cons_self, hcolumn.name, htype, ?_⟩
    exact hclustered.not_mem_of_rowNumber hnone hcolumn.name hne

end Tablespace
