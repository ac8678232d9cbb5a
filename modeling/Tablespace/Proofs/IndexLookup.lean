import Tablespace.Proofs.TableLayout

/-!
# Indexes by number and by name

The catalog is asked for an index by its number, which gives the names of its table and itself, and
by these names. Each lookup takes the first row that fits. `indexById?_agrees` says that both find
the same row where the names in the catalog are different, that a layout found by number has the key
of that very index, and when there is none.

The lookups are first compared with those in the listed entries (`Catalog.indexById?_eq_contents`
and the like); the rest is about lists of entries.
-/

namespace Tablespace

/-! ## The indexes of the catalog itself -/

theorem CatalogIndex.ofNames?_eq_none {table : String} (h : isTable table = false)
    (index : String) : ofNames? table index = none := by
  rw [isTable, List.any_eq_false] at h
  rw [ofNames?, List.find?_eq_none]
  intro builtin hbuiltin hnames
  exact h builtin hbuiltin (Bool.and_eq_true_iff.1 hnames).1

theorem lookup_cons_eq_ite {α : Type} (number other : Nat) (value : α) (rest : List (Nat × α)) :
    ((number, value) :: rest).lookup other =
      if other = number then some value else rest.lookup other := by
  by_cases h : other = number
  · rw [if_pos h, h, List.lookup_cons_self]
  · rw [if_neg h, List.lookup_cons, beq_false_of_ne h]

namespace Catalog

variable {catalog : Catalog} {contents : CatalogContents} {id : Nat}

theorem lookup_putById (number other : Nat) (index : CatalogIndex)
    (ids : List (Nat × CatalogIndex)) :
    (putById number index ids).lookup other =
      if other = number then some index else ids.lookup other := by
  induction ids with
  | nil => exact lookup_cons_eq_ite number other index []
  | cons entry ids ih =>
    obtain ⟨n, found⟩ := entry
    rw [putById]
    by_cases hlt : number < n
    · rw [if_pos hlt, lookup_cons_eq_ite]
    by_cases hsame : number = n
    · rw [if_neg hlt, if_pos hsame, lookup_cons_eq_ite, lookup_cons_eq_ite, ← hsame]
      split_ifs <;> rfl
    · rw [if_neg hlt, if_neg hsame, lookup_cons_eq_ite, ih, lookup_cons_eq_ite]
      by_cases hn : other = n
      · rw [if_pos hn, if_pos hn, if_neg]
        rintro rfl
        exact hsame hn
      · rw [if_neg hn, if_neg hn]

theorem exists_index_of_tree {index : CatalogIndex} {tree : Tree}
    (h : catalog.tree index = .ok tree) : ∃ number, tree.index = .ok number := by
  obtain ⟨node, hnode⟩ := Tree.rootNode_of_atRoot h
  exact ⟨node.index, by rw [Tree.index, hnode]; rfl⟩

/-- Where all indexes of the catalog itself can be opened, their numbers are known, and a number
that none of them has is not among these. -/
theorem exists_indexIds (hopen : ∀ index, ∃ tree, catalog.tree index = .ok tree)
    (hother : ∀ index tree, catalog.tree index = .ok tree → tree.index ≠ .ok id) :
    ∃ ids, catalog.indexIds = .ok ids ∧ ids.lookup id = none := by
  have hall : ∀ (indexes : List CatalogIndex) (ids : List (Nat × CatalogIndex)),
      ids.lookup id = none →
      ∃ all, (indexes.foldlM (fun ids index => do
          let id ← (← catalog.tree index).index
          return putById id index ids) ids : Except Error _) = .ok all ∧
        all.lookup id = none := by
    intro indexes
    induction indexes with
    | nil => exact fun ids hids => ⟨ids, rfl, hids⟩
    | cons index indexes ih =>
      intro ids hids
      obtain ⟨tree, htree⟩ := hopen index
      obtain ⟨number, hnumber⟩ := exists_index_of_tree htree
      have hne : id ≠ number := by
        rintro rfl
        exact hother index tree htree hnumber
      have hput : (putById number index ids).lookup id = none := by
        rw [lookup_putById, if_neg hne, hids]
      obtain ⟨all, hrest, hlookup⟩ := ih _ hput
      refine ⟨all, ?_, hlookup⟩
      rw [List.foldlM_cons, htree, ok_bind, hnumber]
      exact hrest
  exact hall CatalogIndex.all [] rfl

end Catalog

/-! ## Lookups in the listed entries -/

namespace CatalogContents

/-- What the entries say of the index with a number. -/
def indexById? (contents : CatalogContents) (id : Nat) : Option IndexEntry :=
  (contents.indexes.find? (·.id = id)).bind fun index =>
    (contents.tables.find? (·.id = index.tableId)).map fun table => index.entry table.name

/-- What the entries say of the index with a name of the table with a name. -/
def indexByName? (contents : CatalogContents) (table index : String) : Option IndexEntry :=
  (contents.tables.find? (·.name = table)).bind fun listed =>
    ((contents.indexesOf listed.id).find? (·.name = index)).map (·.entry table)

/-- The layout that the entries give for the index with a number. -/
def layoutById? (contents : CatalogContents) (id : Nat) : Except Error (Option Layout) :=
  match contents.indexById? id with
  | some entry => contents.layoutByName? entry.table entry.name
  | none => .ok none

variable {contents : CatalogContents} {id : Nat}

/-- An index found by its number is the first one with it, of the first table with its number. -/
theorem indexById?_eq_some_iff {entry : IndexEntry} :
    contents.indexById? id = some entry ↔ ∃ index table,
      contents.indexes.find? (·.id = id) = some index ∧
        contents.tables.find? (·.id = index.tableId) = some table ∧
        index.entry table.name = entry := by
  simp only [indexById?, Option.bind_eq_some_iff, Option.map_eq_some_iff]
  constructor
  · rintro ⟨index, hindex, table, htable, hentry⟩
    exact ⟨index, table, hindex, htable, hentry⟩
  · rintro ⟨index, table, hindex, htable, hentry⟩
    exact ⟨index, hindex, table, htable, hentry⟩

end CatalogContents

namespace Catalog

variable {catalog : Catalog} {contents : CatalogContents} {id : Nat}

theorem tableById?_of_holds (h : catalog.Holds contents) (id : Nat) :
    ∃ found, catalog.tableById? id = .ok found ∧
      Option.Rel CatalogRow.IsTable found (contents.tables.find? (·.id = id)) := by
  obtain ⟨rows, hrows, htables⟩ := h.tables
  rw [tableById?, hrows, ok_bind]
  refine CatalogRow.first?_eq htables ?_
  intro row table hrow
  rw [hrow.2, ok_bind, pure_eq_ok, beq_eq_decide]

theorem indexById?_eq_contents (hholds : catalog.Holds contents)
    (hopen : ∀ index, ∃ tree, catalog.tree index = .ok tree)
    (hother : ∀ index tree, catalog.tree index = .ok tree → tree.index ≠ .ok id) :
    catalog.indexById? id = .ok (contents.indexById? id) := by
  obtain ⟨ids, hids, hlookup⟩ := exists_indexIds hopen hother
  obtain ⟨rows, hrows, hindexes⟩ := hholds.indexes
  obtain ⟨found, hfound, hrow⟩ :=
    CatalogRow.first?_eq (p := fun row => return (← row.nat "ID") == id)
      (q := fun index => decide (index.id = id)) hindexes fun row index hrow => by
        rw [hrow.2.1, ok_bind, pure_eq_ok, beq_eq_decide]
  simp only [indexById?, hids, ok_bind, hlookup, hrows, hfound, CatalogContents.indexById?]
  generalize contents.indexes.find? _ = listed at hrow
  cases hrow with
  | none => rfl
  | @some row index hrow =>
    obtain ⟨foundTable, hfoundTable, htable⟩ := tableById?_of_holds hholds index.tableId
    simp only [hrow.1, ok_bind, hfoundTable, Option.bind_some]
    generalize contents.tables.find? _ = listedTable at htable
    cases htable with
    | none => rfl
    | @some tableRow table htable =>
      simp only [htable.1, ok_bind, ofRow_of_isIndex table.name hrow]
      rfl

theorem indexByName?_eq_contents (hholds : catalog.Holds contents) (table index : String) :
    catalog.indexByName? table index = .ok (contents.indexByName? table index) := by
  obtain ⟨foundTable, hfoundTable, htable⟩ := tableByName?_of_holds hholds table
  obtain ⟨rows, hrows, hindexes⟩ := hholds.indexes
  simp only [indexByName?, hfoundTable, ok_bind, CatalogContents.indexByName?]
  generalize contents.tables.find? _ = listedTable at htable
  cases htable with
  | none => rfl
  | @some tableRow listed htable =>
    obtain ⟨found, hfound, hrow⟩ :=
      CatalogRow.first?_eq (p := isIndexOf listed.id index)
        (q := fun i => decide (i.tableId = listed.id) && decide (i.name = index))
        hindexes fun row entry hrow => by
          rw [isIndexOf, hrow.1, ok_bind, hrow.2.2.1]
          by_cases h : entry.tableId = listed.id <;> simp [h, beq_eq_decide]
    have htarget : (contents.indexesOf listed.id).find? (·.name = index) =
        contents.indexes.find? fun i =>
          decide (i.tableId = listed.id) && decide (i.name = index) := by
      simp [CatalogContents.indexesOf, List.find?_filter]
    simp only [htable.2, ok_bind, hrows, hfound, Option.bind_some, htarget]
    generalize contents.indexes.find? _ = target at hrow
    cases hrow with
    | none => rfl
    | @some row entry hrow =>
      simp only [ofRow_of_isIndex table hrow]
      rfl

theorem layoutById?_eq_contents (hholds : catalog.Holds contents)
    (hopen : ∀ index, ∃ tree, catalog.tree index = .ok tree)
    (hother : ∀ index tree, catalog.tree index = .ok tree → tree.index ≠ .ok id)
    (huser : ∀ table ∈ contents.tables, CatalogIndex.isTable table.name = false) :
    catalog.layoutById? id = contents.layoutById? id := by
  obtain ⟨ids, hids, hlookup⟩ := exists_indexIds hopen hother
  simp only [layoutById?, hids, ok_bind, hlookup, indexById?_eq_contents hholds hopen hother,
    CatalogContents.layoutById?]
  cases hentry : contents.indexById? id with
  | none => rfl
  | some entry =>
    obtain ⟨index, table, -, htable, rfl⟩ := CatalogContents.indexById?_eq_some_iff.1 hentry
    have hname := huser table (List.mem_of_find?_eq_some htable)
    exact layoutByName?_eq_contents hholds (CatalogIndex.ofNames?_eq_none hname index.name)

end Catalog

/-! ## What number and names lead to -/

namespace TableSchema

variable {schema : TableSchema}

/-- The key columns are the first columns of the table with their names. -/
theorem forall₂_of_keys {index : Nat} {key : List ColumnSpec} (h : schema.keys index = .ok key) :
    List.Forall₂ (fun name column => schema.columns.find? (·.name = name) = some column)
      (schema.keyNames index) key := by
  rw [keys, mapM_eq_ok_iff] at h
  refine h.imp ?_
  intro name column hstep
  split at hstep
  · next found hfound =>
    cases hstep
    exact hfound
  · cases hstep

/-- Key columns cannot be looked up only where the table lacks one. -/
theorem keys_eq_error {index : Nat} {e : Error} (h : schema.keys index = .error e) :
    ∃ name, e = .format (.indexFieldUnknown name schema.name) := by
  obtain ⟨name, -, hstep⟩ := exists_of_mapM_eq_error h
  split at hstep
  · cases hstep
  · cases hstep
    exact ⟨name, rfl⟩

theorem clusteredKeys_eq_error {e : Error} (h : schema.clusteredKeys = .error e) :
    ∃ name, e = .format (.indexFieldUnknown name schema.name) := by
  unfold clusteredKeys at h
  simp only at h
  split at h
  · rcases bind_eq_error_iff.1 h with hkeys | ⟨key, -, h⟩
    · exact keys_eq_error hkeys
    · cases h
  · cases h

theorem layout_eq_error {index : IndexEntry} {e : Error} (h : schema.layout index = .error e) :
    ∃ name, e = .format (.indexFieldUnknown name schema.name) := by
  unfold layout at h
  split at h
  · rcases bind_eq_error_iff.1 h with hkeys | ⟨key, -, h⟩
    · exact clusteredKeys_eq_error hkeys
    · cases h
  · rcases bind_eq_error_iff.1 h with hkeys | ⟨key, -, h⟩
    · exact keys_eq_error hkeys
    · rcases bind_eq_error_iff.1 h with horder | ⟨order, -, h⟩
      · exact clusteredKeys_eq_error horder
      · cases h

end TableSchema

namespace CatalogContents

variable (contents : CatalogContents)

/-- The catalog tells tables apart by their names and the indexes of a table by theirs, has no more
than one clustered index for a table, and lists none of its own tables. -/
structure Distinct : Prop where
  tables : (contents.tables.map (·.name)).Nodup
  indexes : (contents.indexes.map fun index => (index.tableId, index.name)).Nodup
  clustered : ∀ tableId, ((contents.indexesOf tableId).filter (·.clustered)).length ≤ 1
  user : ∀ table ∈ contents.tables, CatalogIndex.isTable table.name = false

/-- The key that the listed key columns give an index, each as the columns of the table have it. -/
inductive LayoutKey (columns : List ColumnSpec) (entry : IndexEntry) : List ColumnSpec → Prop
  /-- The listed key columns by their positions. -/
  | fields {fields : List ListedField} {key : List ColumnSpec} :
      Ordered (·.position) (contents.fieldsOf entry.id) fields →
      List.Forall₂ (fun field column => columns.find? (·.name = field.name) = some column)
        fields key →
      (entry.kind = .clustered → fields ≠ []) → LayoutKey columns entry key
  /-- A row number, for a clustered index without any. -/
  | rowNumber : entry.kind = .clustered → contents.fieldsOf entry.id = [] →
      LayoutKey columns entry [TableSchema.rowNumber]

/-- The catalog does not tell the layout of the index with a number. -/
inductive Undescribed (id : Nat) : Prop
  | noIndex : (∀ index ∈ contents.indexes, index.id ≠ id) → Undescribed id
  | noTable {index : ListedIndex} : contents.indexes.find? (·.id = id) = some index →
      (∀ table ∈ contents.tables, table.id ≠ index.tableId) → Undescribed id
  | noColumns {index : ListedIndex} : contents.indexes.find? (·.id = id) = some index →
      (∀ column ∈ contents.columns, column.tableId ≠ index.tableId) → Undescribed id

variable {contents} {id : Nat}

namespace Distinct

theorem nodup_names (h : contents.Distinct) (tableId : Nat) :
    ((contents.indexesOf tableId).map (·.name)).Nodup := by
  have hpairs : ((contents.indexesOf tableId).map fun i => (i.tableId, i.name)).Nodup :=
    (List.filter_sublist.map _).nodup h.indexes
  refine List.Nodup.map_on ?_ hpairs.of_map
  intro first hfirst second hsecond hname
  have hfirstId : first.tableId = tableId := of_decide_eq_true (List.mem_filter.1 hfirst).2
  have hsecondId : second.tableId = tableId := of_decide_eq_true (List.mem_filter.1 hsecond).2
  exact List.inj_on_of_nodup_map hpairs hfirst hsecond
    (Prod.ext (hfirstId.trans hsecondId.symm) hname)

variable {index : ListedIndex} {table : ListedTable}

/-- The names of an index that was found by its number lead back to it. -/
theorem find?_name (h : contents.Distinct)
    (hindex : contents.indexes.find? (·.id = id) = some index)
    (htable : contents.tables.find? (·.id = index.tableId) = some table) :
    contents.tables.find? (·.name = table.name) = some table ∧
      (contents.indexesOf table.id).find? (·.name = index.name) = some index := by
  have hid : table.id = index.tableId := by simpa using List.find?_some htable
  have hmem : index ∈ contents.indexesOf table.id :=
    List.mem_filter.2 ⟨List.mem_of_find?_eq_some hindex, decide_eq_true hid.symm⟩
  exact ⟨find?_eq_some_self h.tables (List.mem_of_find?_eq_some htable),
    find?_eq_some_self (h.nodup_names table.id) hmem⟩

theorem indexByName?_of_indexById? (h : contents.Distinct) {entry : IndexEntry}
    (hentry : contents.indexById? id = some entry) :
    entry.id = id ∧ contents.indexByName? entry.table entry.name = some entry := by
  obtain ⟨index, table, hindex, htable, rfl⟩ := indexById?_eq_some_iff.1 hentry
  obtain ⟨hlisted, htarget⟩ := h.find?_name hindex htable
  have hid : index.id = id := by simpa using List.find?_some hindex
  refine ⟨hid, ?_⟩
  show contents.indexByName? table.name index.name = some (index.entry table.name)
  simp only [indexByName?, hlisted, Option.bind_some, htarget, Option.map_some]

/-- The key columns of an index of the table are looked up by their positions. -/
theorem exists_fields_of_keys {index : ListedIndex} {table : ListedTable} {key : List ColumnSpec}
    (h : (contents.schema table).keys index.id = .ok key) :
    ∃ fields, Ordered (·.position) (contents.fieldsOf index.id) fields ∧
      List.Forall₂ (fun field column =>
        (contents.schema table).columns.find? (·.name = field.name) = some column) fields key := by
  obtain ⟨fields, hordered, hnames⟩ :=
    exists_ordered ListedField.position (contents.fieldsOf index.id) ListedField.name
  have hkey := TableSchema.forall₂_of_keys h
  have hkeyNames : (contents.schema table).keyNames index.id = fields.map (·.name) := hnames
  rw [hkeyNames, List.forall₂_map_left_iff] at hkey
  exact ⟨fields, hordered, hkey⟩

/-- A layout of an index of a table has its kind and its key. -/
theorem layoutKey_of_layout (h : contents.Distinct) (hindex : index ∈ contents.indexesOf table.id)
    {layout : Layout}
    (hlayout : (contents.schema table).layout (index.entry table.name) = .ok layout) :
    layout.kind = (index.entry table.name).kind ∧
      contents.LayoutKey (contents.schema table).columns (index.entry table.name) layout.keys := by
  unfold TableSchema.layout at hlayout
  cases hkind : (index.entry table.name).kind with
  | secondary =>
    simp only [hkind] at hlayout
    obtain ⟨key, hkey, hlayout⟩ := bind_eq_ok_iff.1 hlayout
    obtain ⟨order, -, hlayout⟩ := bind_eq_ok_iff.1 hlayout
    cases hlayout
    obtain ⟨fields, hordered, hfound⟩ := exists_fields_of_keys hkey
    refine ⟨rfl, .fields hordered hfound ?_⟩
    intro hclustered
    rw [hkind] at hclustered
    cases hclustered
  | clustered =>
    simp only [hkind] at hlayout
    obtain ⟨order, horder, hlayout⟩ := bind_eq_ok_iff.1 hlayout
    cases hlayout
    have hclustered : index.clustered = true := by
      by_contra hother
      rw [ListedIndex.entry, if_neg hother] at hkind
      cases hkind
    -- the only clustered index of the table is this one
    have hfirst := find?_eq_some_of_length_filter_le (h.clustered table.id) hindex hclustered
    rw [TableSchema.clusteredKeys, find?_clustered, hfirst] at horder
    obtain ⟨key, hkey, horder⟩ := bind_eq_ok_iff.1 horder
    cases horder
    obtain ⟨fields, hordered, hfound⟩ := @exists_fields_of_keys _ index _ _ hkey
    refine ⟨rfl, ?_⟩
    cases hfound with
    | nil => exact .rowNumber hkind hordered.perm.nil_eq.symm
    | cons hcolumn hrest =>
      exact .fields hordered (.cons hcolumn hrest) fun _ => List.cons_ne_nil _ _

/-- Where the layout is told, it is that of the first index with the number, of the first table with
the number that the index has. -/
theorem layoutById?_of_find? (h : contents.Distinct)
    (hindex : contents.indexes.find? (·.id = id) = some index)
    (htable : contents.tables.find? (·.id = index.tableId) = some table) :
    contents.layoutById? id =
      if contents.columnsOf table.id = [] then .ok none
      else some <$> (contents.schema table).layout (index.entry table.name) := by
  have hentry := indexById?_eq_some_iff.2 ⟨index, table, hindex, htable, rfl⟩
  obtain ⟨hlisted, htarget⟩ := h.find?_name hindex htable
  simp only [layoutById?, hentry]
  show contents.layoutByName? table.name index.name = _
  simp only [layoutByName?, hlisted, htarget]

theorem layoutById?_of_undescribed (h : contents.Distinct) (hnone : contents.Undescribed id) :
    contents.layoutById? id = .ok none := by
  have hmissing : contents.indexById? id = none → contents.layoutById? id = .ok none := by
    intro hentry
    simp only [layoutById?, hentry]
  cases hnone with
  | noIndex hnone =>
    refine hmissing ?_
    rw [indexById?, List.find?_eq_none.2 (by simpa using hnone)]
    rfl
  | noTable hindex hnone =>
    refine hmissing ?_
    rw [indexById?, hindex, Option.bind_some, List.find?_eq_none.2 (by simpa using hnone)]
    rfl
  | @noColumns index hindex hnone =>
    cases htable : contents.tables.find? (·.id = index.tableId) with
    | none =>
      refine hmissing ?_
      rw [indexById?, hindex, Option.bind_some, htable]
      rfl
    | some table =>
      have hid : table.id = index.tableId := by simpa using List.find?_some htable
      have hcolumns : contents.columnsOf table.id = [] := by
        rw [columnsOf, List.filter_eq_nil_iff, hid]
        simpa using hnone
      rw [h.layoutById?_of_find? hindex htable, if_pos hcolumns]

/-- A number without layout is that of no index, or of one that lacks its table or columns. -/
theorem layoutById?_eq_none_iff (h : contents.Distinct) :
    contents.layoutById? id = .ok none ↔ contents.Undescribed id := by
  constructor
  · intro hnone
    cases hindex : contents.indexes.find? (·.id = id) with
    | none => exact .noIndex (by simpa using hindex)
    | some index =>
      cases htable : contents.tables.find? (·.id = index.tableId) with
      | none => exact .noTable hindex (by simpa using htable)
      | some table =>
        have hid : table.id = index.tableId := by simpa using List.find?_some htable
        rw [h.layoutById?_of_find? hindex htable] at hnone
        by_cases hcolumns : contents.columnsOf table.id = []
        · rw [columnsOf, List.filter_eq_nil_iff, hid] at hcolumns
          exact .noColumns hindex (by simpa using hcolumns)
        · rw [if_neg hcolumns] at hnone
          cases hlayout : (contents.schema table).layout (index.entry table.name) with
          | error e => rw [hlayout] at hnone; cases hnone
          | ok layout => rw [hlayout] at hnone; cases hnone
  · exact h.layoutById?_of_undescribed

/-- Where a layout is told, it has the kind and the key of the index with the number. -/
theorem exists_of_layoutById? (h : contents.Distinct) {layout : Layout}
    (hlayout : contents.layoutById? id = .ok (some layout)) :
    ∃ entry, contents.indexById? id = some entry ∧ layout.kind = entry.kind ∧
      contents.LayoutKey
        (inOrder ((contents.columnsOf entry.tableId).map fun c => (c.position, c.spec)))
        entry layout.keys := by
  cases hentry : contents.indexById? id with
  | none =>
    simp only [layoutById?, hentry] at hlayout
    cases hlayout
  | some entry =>
    obtain ⟨index, table, hindex, htable, rfl⟩ := indexById?_eq_some_iff.1 hentry
    have hid : table.id = index.tableId := by simpa using List.find?_some htable
    have hmem : index ∈ contents.indexesOf table.id :=
      List.mem_filter.2 ⟨List.mem_of_find?_eq_some hindex, decide_eq_true hid.symm⟩
    rw [h.layoutById?_of_find? hindex htable] at hlayout
    split at hlayout
    · cases hlayout
    · cases hfound : (contents.schema table).layout (index.entry table.name) with
      | error e => rw [hfound] at hlayout; cases hlayout
      | ok found =>
        rw [hfound] at hlayout
        cases hlayout
        obtain ⟨hkind, hkey⟩ := h.layoutKey_of_layout hmem hfound
        rw [schema, hid] at hkey
        exact ⟨_, rfl, hkind, hkey⟩

/-- Whatever fails, it is not that the number is unknown. -/
theorem layoutById?_ne_unresolved (h : contents.Distinct) (other : Nat) :
    contents.layoutById? id ≠ .error (.unresolved other) := by
  cases hentry : contents.indexById? id with
  | none =>
    simp only [layoutById?, hentry]
    exact nofun
  | some entry =>
    obtain ⟨index, table, hindex, htable, rfl⟩ := indexById?_eq_some_iff.1 hentry
    rw [h.layoutById?_of_find? hindex htable]
    split
    · exact nofun
    · cases hlayout : (contents.schema table).layout (index.entry table.name) with
      | ok layout => exact nofun
      | error e =>
        obtain ⟨name, rfl⟩ := TableSchema.layout_eq_error hlayout
        exact nofun

end Distinct

end CatalogContents

/-- Where a catalog can be read and its names are different, an index that it gives for a number has
the number and is found again by its names, and a layout that it gives for the number has the kind
and the key of that index. No layout is told exactly where the catalog lists no such index, or lists
it without its table or without columns, and asking for one that has to be there fails with this
number. -/
theorem indexById?_agrees {catalog : Catalog} {contents : CatalogContents} {id : Nat}
    (hholds : catalog.Holds contents) (hdistinct : contents.Distinct)
    (hopen : ∀ index, ∃ tree, catalog.tree index = .ok tree)
    (hother : ∀ index tree, catalog.tree index = .ok tree → tree.index ≠ .ok id) :
    (∃ found, catalog.indexById? id = .ok found) ∧
      (∀ entry, catalog.indexById? id = .ok (some entry) →
        entry.id = id ∧ catalog.indexByName? entry.table entry.name = .ok (some entry)) ∧
      (∀ layout, catalog.layoutById? id = .ok (some layout) →
        ∃ entry columns, catalog.indexById? id = .ok (some entry) ∧
          catalog.tableColumns entry.tableId = .ok columns ∧ layout.kind = entry.kind ∧
          contents.LayoutKey columns entry layout.keys) ∧
      (catalog.layoutById? id = .ok none ↔ contents.Undescribed id) ∧
      (catalog.layoutById id = .error (.unresolved id) ↔ contents.Undescribed id) := by
  have hindex := Catalog.indexById?_eq_contents hholds hopen hother
  have hlayout := Catalog.layoutById?_eq_contents hholds hopen hother hdistinct.user
  refine ⟨⟨_, hindex⟩, ?_, ?_, ?_, ?_⟩
  · intro entry hentry
    rw [hindex, Except.ok.injEq] at hentry
    obtain ⟨hid, hname⟩ := hdistinct.indexByName?_of_indexById? hentry
    exact ⟨hid, by rw [Catalog.indexByName?_eq_contents hholds, hname]⟩
  · intro layout htold
    rw [hlayout] at htold
    obtain ⟨entry, hentry, hkind, hkey⟩ := hdistinct.exists_of_layoutById? htold
    exact ⟨entry, _, by rw [hindex, hentry], Catalog.tableColumns_of_holds hholds entry.tableId,
      hkind, hkey⟩
  · rw [hlayout, hdistinct.layoutById?_eq_none_iff]
  · rw [← hdistinct.layoutById?_eq_none_iff, Catalog.layoutById, hlayout]
    constructor
    · intro hunresolved
      cases htold : contents.layoutById? id with
      | error e =>
        rw [htold] at hunresolved
        cases hunresolved
        exact absurd htold (hdistinct.layoutById?_ne_unresolved id)
      | ok found =>
        rw [htold] at hunresolved
        cases found with
        | none => rfl
        | some layout => cases hunresolved
    · intro hnone
      rw [hnone]
      rfl

/-! ## A table with two indexes, by number -/

namespace Visits

theorem distinct : contents.Distinct where
  tables := by decide
  indexes := by decide
  clustered := by
    intro tableId
    have hall : (contents.indexes.filter (·.clustered)).length ≤ 1 := by decide
    exact Nat.le_trans (List.filter_sublist.filter _).length_le hall
  user := by decide

/-- The index of the table that is not clustered. -/
def byDay : ListedIndex := ⟨7, 21, "by_day", 0, 0, 6⟩

theorem find?_byDay : contents.indexes.find? (·.id = 21) = some byDay ∧
    contents.tables.find? (·.id = byDay.tableId) = some ⟨"visits", 7⟩ := by decide

/-- A layout is told for the number of the index. -/
theorem exists_layoutById?_byDay :
    ∃ layout, catalog.layoutById? 21 = .ok (some layout) := by
  obtain ⟨layout, hlayout, -⟩ := CatalogContents.exists_secondaryLayout consistent
    (by decide : byDay ∈ contents.indexesOf 7) rfl
  refine ⟨layout, ?_⟩
  rw [Catalog.layoutById?_eq_contents holds small.exists_tree
      (small.index_ne (by decide)) distinct.user,
    distinct.layoutById?_of_find? find?_byDay.1 find?_byDay.2, if_neg (by decide), hlayout]
  rfl

end Visits

/-- The index that is not clustered is found by its number and by its names, and the layout for its
number has its key alone. There is no layout for the number of no index. -/
theorem indexById?_agrees_visits :
    ∃ layout, Visits.catalog.indexById? 21 = .ok (some (Visits.byDay.entry "visits")) ∧
      Visits.catalog.indexByName? "visits" "by_day" =
        .ok (some (Visits.byDay.entry "visits")) ∧
      Visits.catalog.layoutById? 21 = .ok (some layout) ∧
      layout.kind = .secondary ∧ layout.keys.map (·.name) = ["day"] ∧
      Visits.catalog.layoutById 22 = .error (.unresolved 22) := by
  obtain ⟨layout, hlayout⟩ := Visits.exists_layoutById?_byDay
  obtain ⟨-, hnames, hlayouts, -, -⟩ := indexById?_agrees Visits.holds
    Visits.distinct Visits.small.exists_tree
    (Visits.small.index_ne (by decide : 21 ≠ 0))
  obtain ⟨-, -, -, -, hunresolved⟩ := indexById?_agrees Visits.holds
    Visits.distinct Visits.small.exists_tree
    (Visits.small.index_ne (by decide : 22 ≠ 0))
  obtain ⟨entry, columns, hentry, -, hkind, hkey⟩ := hlayouts layout hlayout
  have hsame : entry = Visits.byDay.entry "visits" := by
    rw [Catalog.indexById?_eq_contents Visits.holds Visits.small.exists_tree
      (Visits.small.index_ne (by decide))] at hentry
    have hlisted : Visits.contents.indexById? 21 = some (Visits.byDay.entry "visits") := by decide
    rw [hlisted] at hentry
    cases hentry
    rfl
  subst hsame
  obtain ⟨-, hname⟩ := hnames _ hentry
  refine ⟨layout, hentry, hname, hlayout, hkind, ?_, hunresolved.2 (.noIndex (by decide))⟩
  generalize layout.keys = key at hkey
  cases hkey with
  | rowNumber hclustered _ => cases hclustered
  | fields hordered hcolumns _ =>
    have hfields : _ = [(⟨21, 0, "day"⟩ : ListedField)] := List.perm_singleton.1 hordered.perm
    rw [hfields] at hcolumns
    obtain ⟨column, rest, hcolumn, hrest, rfl⟩ := List.forall₂_cons_left_iff.1 hcolumns
    cases hrest
    have hday : column.name = "day" := by simpa using List.find?_some hcolumn
    rw [List.map_singleton, hday]

end Tablespace
