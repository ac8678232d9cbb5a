import Tablespace.Proofs.IndexLookup

/-!
# Delete marks in the catalog

A row that was deleted stays in the catalog with a mark until it is purged. The lookups take no
notice of the mark, so two catalogs with the same live rows may give different answers:
`indexByName?_leftover` shows the marked row of an index that was dropped, which hides the index
that has its name now. `sameAnswers_of_liveRows` says when they give the same: if no marked row is
one that the lookup asks for. What a lookup asks for is stated by one predicate each, such as
`Catalog.NameUnmarked`.
-/

namespace Tablespace

/-- The records that are not marked. -/
def liveRecords (records : List Record) : List Record := records.filter (!·.header.isDeleted)

/-- The rows that are not marked. -/
def liveRows (records : List Record) : List CatalogRow := (liveRecords records).map (·.values)

namespace CatalogRow

/-- The number in the column can be read, and it is another one. -/
def HasOtherNat (row : CatalogRow) (column : String) (number : Nat) : Prop :=
  ∃ n, row.nat column = .ok n ∧ n ≠ number

/-- The text in the column can be read, and it is another one. -/
def HasOtherText (row : CatalogRow) (column name : String) : Prop :=
  ∃ s, row.text column = .ok s ∧ s ≠ name

variable {row : CatalogRow} {column name : String} {number : Nat}

theorem HasOtherNat.ask (h : row.HasOtherNat column number) :
    (do return (← row.nat column) == number : Except Error Bool) = .ok false := by
  obtain ⟨n, hread, hne⟩ := h
  rw [hread, ok_bind, beq_false_of_ne hne]
  rfl

theorem HasOtherText.ask (h : row.HasOtherText column name) :
    (do return (← row.text column) == name : Except Error Bool) = .ok false := by
  obtain ⟨s, hread, hne⟩ := h
  rw [hread, ok_bind, beq_false_of_ne hne]
  rfl

theorem eq_of_ask_nat
    (h : (do return (← row.nat column) == number : Except Error Bool) = .ok true) :
    row.nat column = .ok number := by
  obtain ⟨n, hread, hsame⟩ := bind_eq_ok_iff.1 h
  rw [hread, eq_of_beq (Except.ok.inj hsame)]

theorem eq_of_ask_text
    (h : (do return (← row.text column) == name : Except Error Bool) = .ok true) :
    row.text column = .ok name := by
  obtain ⟨s, hread, hsame⟩ := bind_eq_ok_iff.1 h
  rw [hread, eq_of_beq (Except.ok.inj hsame)]

end CatalogRow

/-! ## Rows that are passed over -/

section Live

variable {records : List Record}

theorem liveRows_cons_of_marked {record : Record} (h : record.header.isDeleted = true) :
    liveRows (record :: records) = liveRows records := by
  rw [liveRows, liveRecords, List.filter_cons_of_neg (by simp [h])]
  rfl

theorem liveRows_cons_of_live {record : Record} (h : record.header.isDeleted = false) :
    liveRows (record :: records) = record.values :: liveRows records := by
  rw [liveRows, liveRecords, List.filter_cons_of_pos (by simp [h])]
  rfl

/-- Marked rows without the property do not matter for the first row with it. -/
theorem CatalogRow.first?_live {p : CatalogRow → Except Error Bool}
    (h : ∀ record ∈ records, record.header.isDeleted = true → p record.values = .ok false) :
    first? p (records.map Record.values) = first? p (liveRows records) := by
  induction records with
  | nil => rfl
  | cons record records ih =>
    obtain ⟨hrecord, hrest⟩ := List.forall_mem_cons.1 h
    cases hmark : record.header.isDeleted with
    | true =>
      rw [liveRows_cons_of_marked hmark, List.map_cons, first?, hrecord hmark, ok_bind]
      exact ih hrest
    | false =>
      rw [liveRows_cons_of_live hmark, List.map_cons, first?, first?, ih hrest]

/-- The first row with a property is one of the rows, and has it. -/
theorem CatalogRow.mem_of_first? {p : CatalogRow → Except Error Bool} {rows : List CatalogRow}
    {row : CatalogRow} (h : first? p rows = .ok (some row)) : row ∈ rows ∧ p row = .ok true := by
  induction rows with
  | nil => cases h
  | cons first rows ih =>
    obtain ⟨found, hfound, hrow⟩ := bind_eq_ok_iff.1 h
    cases found with
    | true =>
      cases hrow
      exact ⟨List.mem_cons_self, hfound⟩
    | false =>
      obtain ⟨hmem, hproperty⟩ := ih hrow
      exact ⟨List.mem_cons_of_mem _ hmem, hproperty⟩

theorem CatalogRow.first?_append {p : CatalogRow → Except Error Bool} {before : List CatalogRow}
    (hbefore : ∀ row ∈ before, p row = .ok false) (rows : List CatalogRow) :
    first? p (before ++ rows) = first? p rows := by
  induction before with
  | nil => rfl
  | cons row before ih =>
    rw [List.cons_append, first?, hbefore row List.mem_cons_self, ok_bind]
    exact ih fun other hother => hbefore other (List.mem_cons_of_mem _ hother)

/-- Marked rows of other tables do not matter for the columns of a table. -/
theorem Catalog.columnsOfRows_live {tableId : Nat} (h : ∀ record ∈ records,
      record.header.isDeleted = true → CatalogRow.HasOtherNat record.values "TABLE_ID" tableId) :
    columnsOfRows tableId (records.map Record.values) =
      columnsOfRows tableId (liveRows records) := by
  induction records with
  | nil => rfl
  | cons record records ih =>
    obtain ⟨hrecord, hrest⟩ := List.forall_mem_cons.1 h
    cases hmark : record.header.isDeleted with
    | true =>
      obtain ⟨other, hother, hne⟩ := hrecord hmark
      rw [liveRows_cons_of_marked hmark, List.map_cons, columnsOfRows, hother, ok_bind, if_neg hne]
      exact ih hrest
    | false =>
      rw [liveRows_cons_of_live hmark, List.map_cons, columnsOfRows, columnsOfRows, ih hrest]

/-- Where each marked row among those selected gives an answer that does not matter, those that do
are the answers of the live rows, and there is an error just where these have one. -/
theorem mapM_live {β : Type} {f : CatalogRow → Except Error β} {select : CatalogRow → Bool}
    {matters : β → Bool} (h : ∀ record ∈ records, record.header.isDeleted = true →
      select record.values = true → ∃ b, f record.values = .ok b ∧ matters b = false) :
    List.filter matters <$> ((records.map Record.values).filter select).mapM f =
      List.filter matters <$> ((liveRows records).filter select).mapM f := by
  induction records with
  | nil => rfl
  | cons record records ih =>
    obtain ⟨hrecord, hrest⟩ := List.forall_mem_cons.1 h
    have ih := ih hrest
    rw [List.map_cons]
    cases hselect : select record.values with
    | false =>
      rw [List.filter_cons_of_neg (by simp [hselect])]
      cases hmark : record.header.isDeleted with
      | true => rw [liveRows_cons_of_marked hmark, ih]
      | false =>
        rw [liveRows_cons_of_live hmark, List.filter_cons_of_neg (by simp [hselect]), ih]
    | true =>
      rw [List.filter_cons_of_pos hselect, List.mapM_cons]
      cases hmark : record.header.isDeleted with
      | true =>
        obtain ⟨b, hb, hother⟩ := hrecord hmark hselect
        rw [liveRows_cons_of_marked hmark, ← ih, hb, ok_bind]
        cases ((records.map Record.values).filter select).mapM f with
        | error e => rfl
        | ok bs => exact congrArg Except.ok (List.filter_cons_of_neg (by simp [hother]))
      | false =>
        rw [liveRows_cons_of_live hmark, List.filter_cons_of_pos hselect, List.mapM_cons]
        cases f record.values with
        | error e => rfl
        | ok b =>
          -- what is put before both lists is the same
          have hcons : ∀ answers : Except Error (List β),
              List.filter matters <$> (answers >>= fun bs => pure (b :: bs)) =
                (List.filter matters [b] ++ ·) <$> List.filter matters <$> answers := by
            intro answers
            cases answers with
            | error e => rfl
            | ok bs => exact congrArg Except.ok (List.filter_append [b] bs)
          rw [ok_bind, ok_bind, hcons, hcons, ih]

end Live

section Answers

variable {α : Type}

/-- Of those that matter, the first with a property is the first one with it. -/
theorem find?_of_filter_eq {matters p : α → Bool} {as bs : List α}
    (hp : ∀ a, p a = true → matters a = true) (h : as.filter matters = bs.filter matters) :
    as.find? p = bs.find? p := by
  have hall : ∀ list : List α, (list.filter matters).find? p = list.find? p := by
    intro list
    rw [List.find?_filter]
    congr 1
    funext a
    cases hproperty : p a with
    | false => simp
    | true => simp [hp a hproperty]
  rw [← hall as, h, hall bs]

/-- Of those that matter, the ones with a property are the ones with it. -/
theorem filter_of_filter_eq {matters p : α → Bool} {as bs : List α}
    (hp : ∀ a, p a = true → matters a = true) (h : as.filter matters = bs.filter matters) :
    as.filter p = bs.filter p := by
  have hall : ∀ list : List α, (list.filter matters).filter p = list.filter p := by
    intro list
    rw [List.filter_filter]
    refine List.filter_congr fun a _ => ?_
    cases hproperty : p a with
    | false => simp
    | true => simp [hp a hproperty]
  rw [← hall as, h, hall bs]

end Answers

namespace IndexEntry

/-- The layout of the index with a name depends on what is said of it and of the clustered index. -/
def mattersTo (index : String) (entry : IndexEntry) : Bool :=
  entry.name = index || entry.kind = .clustered

variable {index : String} {entry : IndexEntry}

theorem mattersTo_of_name (h : decide (entry.name = index) = true) :
    entry.mattersTo index = true := by
  rw [mattersTo, h, Bool.true_or]

theorem mattersTo_of_clustered (h : decide (entry.kind = .clustered) = true) :
    entry.mattersTo index = true := by
  rw [mattersTo, h, Bool.or_true]

theorem nat_id_of_ofRow {table : String} {row : CatalogRow}
    (h : ofRow table row = .ok entry) : row.nat "ID" = .ok entry.id := by
  obtain ⟨type, -, h⟩ := bind_eq_ok_iff.1 h
  obtain ⟨name, -, h⟩ := bind_eq_ok_iff.1 h
  obtain ⟨tableId, -, h⟩ := bind_eq_ok_iff.1 h
  obtain ⟨id, hid, h⟩ := bind_eq_ok_iff.1 h
  obtain ⟨space, -, h⟩ := bind_eq_ok_iff.1 h
  obtain ⟨root, -, h⟩ := bind_eq_ok_iff.1 h
  cases h
  exact hid

end IndexEntry

theorem Catalog.nat_of_isOfTable {tableId : Nat} {row : CatalogRow}
    (h : isOfTable tableId row = true) : row.nat "TABLE_ID" = .ok tableId := by
  rw [isOfTable] at h
  split at h
  · next id hread => rw [hread, of_decide_eq_true h]
  · cases h

namespace TableSchema

/-- A layout depends on the columns of the table, its clustered index, and the key columns of that
and of the index itself. -/
theorem layout_congr {first second : TableSchema} {index : IndexEntry}
    (hname : first.name = second.name) (hcolumns : first.columns = second.columns)
    (hclustered : first.indexes.find? (·.kind = .clustered) =
      second.indexes.find? (·.kind = .clustered))
    (hindex : first.keyNames index.id = second.keyNames index.id)
    (hkeys : ∀ other ∈ second.indexes, other.kind = .clustered →
      first.keyNames other.id = second.keyNames other.id) :
    first.layout index = second.layout index := by
  have hsame : ∀ id, first.keyNames id = second.keyNames id → first.keys id = second.keys id := by
    intro id hid
    rw [keys, keys, hid, hcolumns, hname]
  have horder : first.clusteredKeys = second.clusteredKeys := by
    rw [clusteredKeys, clusteredKeys, hclustered]
    cases hfind : second.indexes.find? (·.kind = .clustered) with
    | none => rfl
    | some other =>
      have hkind : other.kind = .clustered := by simpa using List.find?_some hfind
      simp only [hsame _ (hkeys other (List.mem_of_find?_eq_some hfind) hkind)]
  rw [layout, layout, horder, hsame _ hindex, hcolumns]

/-- A layout depends on the entries that matter to it, and on the key columns of their indexes. -/
theorem layout_of_filter_eq {name index : String} {columns : List ColumnSpec}
    {entries others : List IndexEntry} {fields otherFields : List (Nat × Nat × String)}
    {target : IndexEntry}
    (hentries : others.filter (·.mattersTo index) = entries.filter (·.mattersTo index))
    (hfields : otherFields.filter (fun field => decide (field.1 ∈ entries.map (·.id))) =
      fields.filter fun field => decide (field.1 ∈ entries.map (·.id)))
    (htarget : target ∈ entries) :
    layout ⟨name, columns, others, Catalog.keyNamesOf otherFields⟩ target =
      layout ⟨name, columns, entries, Catalog.keyNamesOf fields⟩ target := by
  have hkeys : ∀ entry ∈ entries,
      Catalog.keyNamesOf otherFields entry.id = Catalog.keyNamesOf fields entry.id := by
    intro entry hentry
    have hsame : otherFields.filter (·.1 = entry.id) = fields.filter (·.1 = entry.id) := by
      refine filter_of_filter_eq (fun field hfield => ?_) hfields
      rw [of_decide_eq_true hfield]
      exact decide_eq_true (List.mem_map_of_mem hentry)
    rw [Catalog.keyNamesOf, Catalog.keyNamesOf, hsame]
  have hclustered := find?_of_filter_eq (fun _ => IndexEntry.mattersTo_of_clustered) hentries
  exact layout_congr rfl rfl hclustered (hkeys target htarget) fun entry hentry _ =>
    hkeys entry hentry

end TableSchema

/-! ## What lookups ask for -/

namespace Catalog

/-- The marked rows of an index have a property. -/
def Marked (catalog : Catalog) (index : CatalogIndex) (p : CatalogRow → Prop) : Prop :=
  ∀ records, catalog.records index = .ok records →
    ∀ record ∈ records, record.header.isDeleted = true → p record.values

/-- The live rows of an index have a property. -/
def Live (catalog : Catalog) (index : CatalogIndex) (p : CatalogRow → Prop) : Prop :=
  ∀ records, catalog.records index = .ok records → ∀ row ∈ liveRows records, p row

theorem Marked.imp {catalog : Catalog} {index : CatalogIndex} {p q : CatalogRow → Prop}
    (h : catalog.Marked index p) (hpq : ∀ row, p row → q row) : catalog.Marked index q :=
  fun records hrecords record hmem hmark => hpq _ (h records hrecords record hmem hmark)

variable (catalog : Catalog)

/-- No marked row is that of the table with a number. -/
def TableUnmarked (id : Nat) : Prop := catalog.Marked .tables (·.HasOtherNat "ID" id)

/-- No marked row is that of the index with a number, or that of its table. -/
structure IndexUnmarked (id : Nat) : Prop where
  indexes : catalog.Marked .indexes (·.HasOtherNat "ID" id)
  tables : catalog.Live .indexes fun row => row.nat "ID" = .ok id →
    ∀ tableId, row.nat "TABLE_ID" = .ok tableId → catalog.TableUnmarked tableId

/-- The row is not that of the index with a name of the table with a number. -/
def OtherIndex (tableId : Nat) (name : String) (row : CatalogRow) : Prop :=
  row.HasOtherNat "TABLE_ID" tableId ∨
    row.nat "TABLE_ID" = .ok tableId ∧ row.HasOtherText "NAME" name

/-- Asking such a row gives that it is not. -/
theorem OtherIndex.ask {tableId : Nat} {name : String} {row : CatalogRow}
    (h : OtherIndex tableId name row) : isIndexOf tableId name row = .ok false := by
  rw [isIndexOf]
  rcases h with ⟨other, hread, hne⟩ | ⟨hread, hname⟩
  · rw [hread, ok_bind, if_neg hne]
    rfl
  · rw [hread, ok_bind, if_pos rfl, hname.ask]

/-- No marked row is that of the index with a name, or that of the table with a name to which it
belongs. -/
structure NameUnmarked (table index : String) : Prop where
  tables : catalog.Marked .tables (·.HasOtherText "NAME" table)
  indexes : catalog.Live .tables fun row => row.text "NAME" = .ok table →
    ∀ tableId, row.nat "ID" = .ok tableId → catalog.Marked .indexes (OtherIndex tableId index)

/-- No marked row is that of the index with a name or of the clustered index of the table with a
number, of a column of the table, or of a key column of one of its live indexes. -/
structure PartsUnmarked (table index : String) (tableId : Nat) : Prop where
  indexes : catalog.Marked .indexes fun row => row.nat "TABLE_ID" = .ok tableId →
    ∃ entry, IndexEntry.ofRow table row = .ok entry ∧ entry.name ≠ index ∧ entry.kind = .secondary
  columns : catalog.Marked .columns (·.HasOtherNat "TABLE_ID" tableId)
  fields : catalog.Marked .fields fun row => ∃ field, fieldOfRow row = .ok field ∧
    catalog.Live .indexes fun other => other.nat "TABLE_ID" = .ok tableId →
      other.nat "ID" ≠ .ok field.1

variable {catalog} in
/-- What a marked row says of an index of the table does not matter. -/
theorem PartsUnmarked.answer_indexes {table index : String} {tableId : Nat}
    (h : catalog.PartsUnmarked table index tableId) :
    catalog.Marked .indexes fun row => isOfTable tableId row = true →
      ∃ entry, IndexEntry.ofRow table row = .ok entry ∧ entry.mattersTo index = false := by
  refine h.indexes.imp fun row hrow htable => ?_
  obtain ⟨entry, hentry, hname, hkind⟩ := hrow (nat_of_isOfTable htable)
  refine ⟨entry, hentry, ?_⟩
  rw [IndexEntry.mattersTo, decide_eq_false hname, hkind]
  rfl

variable {catalog} in
/-- A marked row of a key column says nothing of a live index of the table. -/
theorem PartsUnmarked.answer_fields {table index : String} {tableId : Nat} {ids : List Nat}
    (h : catalog.PartsUnmarked table index tableId)
    (hids : ∀ q, catalog.Live .indexes q → ∀ id ∈ ids, ∃ row : CatalogRow,
      row.nat "TABLE_ID" = .ok tableId ∧ row.nat "ID" = .ok id ∧ q row) :
    catalog.Marked .fields fun row => true = true →
      ∃ field, fieldOfRow row = .ok field ∧ decide (field.1 ∈ ids) = false := by
  refine h.fields.imp ?_
  rintro row ⟨field, hfield, hother⟩ -
  refine ⟨field, hfield, decide_eq_false fun hmem => ?_⟩
  obtain ⟨other, htable, hid, hne⟩ := hids _ hother field.1 hmem
  exact hne htable hid

/-- No marked row is one from which the layout of the index with a name of the table with a name is
put together, or that of the table. -/
structure LayoutUnmarked (table index : String) : Prop where
  tables : catalog.Marked .tables (·.HasOtherText "NAME" table)
  parts : catalog.Live .tables fun row => row.text "NAME" = .ok table →
    ∀ tableId, row.nat "ID" = .ok tableId → catalog.PartsUnmarked table index tableId

/-- The catalogs have the same header, their own indexes have the same numbers, and their records,
which can be read, are the same as far as `view` shows. -/
structure SameUpTo {β : Type} (view : List Record → β) (a b : Catalog) : Prop where
  header : a.header = b.header
  ids : ∀ index, ∃ first second number, a.tree index = .ok first ∧ b.tree index = .ok second ∧
    first.index = .ok number ∧ second.index = .ok number
  records : ∀ index ∈ [CatalogIndex.tables, .columns, .indexes, .fields],
    ∃ as bs, a.records index = .ok as ∧ b.records index = .ok bs ∧ view as = view bs

namespace SameUpTo

variable {a b : Catalog}

/-- Catalogs with the same live records have the same live rows. -/
theorem toLiveRows (h : a.SameUpTo liveRecords b) : a.SameUpTo liveRows b where
  header := h.header
  ids := h.ids
  records index hindex := by
    obtain ⟨as, bs, has, hbs, hsame⟩ := h.records index hindex
    exact ⟨as, bs, has, hbs, congrArg (List.map Record.values) hsame⟩

section Live

variable (h : a.SameUpTo liveRows b)
include h

theorem indexIds : a.indexIds = b.indexIds := by
  unfold Catalog.indexIds
  congr 1
  funext ids index
  obtain ⟨first, second, number, hfirst, hsecond, hnumber, hsame⟩ := h.ids index
  rw [hfirst, hsecond, ok_bind, ok_bind, hnumber, hsame]

/-- The live rows are the same. -/
theorem live {index : CatalogIndex}
    (hindex : index ∈ [CatalogIndex.tables, .columns, .indexes, .fields]) {p : CatalogRow → Prop}
    (hp : b.Live index p) : a.Live index p := by
  obtain ⟨as, bs, has, hbs, hsame⟩ := h.records index hindex
  intro records hrecords
  rw [has] at hrecords
  cases hrecords
  rw [hsame]
  exact hp bs hbs

/-- Where no marked row has a property, the first row with it is the same, and it is live. -/
theorem exists_first? {index : CatalogIndex}
    (hindex : index ∈ [CatalogIndex.tables, .columns, .indexes, .fields])
    {p : CatalogRow → Except Error Bool} (ha : a.Marked index (p · = .ok false))
    (hb : b.Marked index (p · = .ok false)) :
    ∃ found, (a.rows index >>= CatalogRow.first? p) = found ∧
      (b.rows index >>= CatalogRow.first? p) = found ∧
      ∀ row, found = .ok (some row) → p row = .ok true ∧ ∀ q, a.Live index q → q row := by
  obtain ⟨as, bs, has, hbs, hsame⟩ := h.records index hindex
  rw [rows_of_records has, rows_of_records hbs, ok_bind, ok_bind,
    CatalogRow.first?_live (ha as has), CatalogRow.first?_live (hb bs hbs), ← hsame]
  refine ⟨_, rfl, rfl, ?_⟩
  intro row hrow
  obtain ⟨hmem, hproperty⟩ := CatalogRow.mem_of_first? hrow
  exact ⟨hproperty, fun q hq => hq as has row hmem⟩

/-- Where each marked row among those selected gives an answer that does not matter, those that do
are the same, and they come from live rows. -/
theorem exists_mapM {index : CatalogIndex}
    (hindex : index ∈ [CatalogIndex.tables, .columns, .indexes, .fields]) {β : Type}
    {f : CatalogRow → Except Error β} {select : CatalogRow → Bool} {matters : β → Bool}
    (ha : a.Marked index fun row => select row = true → ∃ x, f row = .ok x ∧ matters x = false)
    (hb : b.Marked index fun row => select row = true → ∃ x, f row = .ok x ∧ matters x = false) :
    ∃ as bs found, a.rows index = .ok as ∧ b.rows index = .ok bs ∧
      List.filter matters <$> (as.filter select).mapM f = List.filter matters <$> found ∧
      List.filter matters <$> (bs.filter select).mapM f = List.filter matters <$> found ∧
      ∀ answers, found = .ok answers → ∀ x ∈ answers,
        ∃ row, select row = true ∧ f row = .ok x ∧ ∀ q, a.Live index q → q row := by
  obtain ⟨as, bs, has, hbs, hsame⟩ := h.records index hindex
  refine ⟨_, _, ((liveRows as).filter select).mapM f, rows_of_records has,
    rows_of_records hbs, mapM_live (ha as has), ?_, ?_⟩
  · rw [mapM_live (hb bs hbs), hsame]
  · intro answers hanswers x hx
    obtain ⟨row, hrow, hanswer⟩ := exists_of_mem_of_mapM_eq_ok hanswers hx
    obtain ⟨hlive, hselect⟩ := List.mem_filter.1 hrow
    exact ⟨row, hselect, hanswer, fun q hq => hq as has row hlive⟩

theorem tableById? {id : Nat} (ha : a.TableUnmarked id)
    (hb : b.TableUnmarked id) : a.tableById? id = b.tableById? id := by
  obtain ⟨found, hfirst, hsecond, -⟩ := h.exists_first? (by simp)
    (ha.imp fun row => CatalogRow.HasOtherNat.ask) (hb.imp fun row => CatalogRow.HasOtherNat.ask)
  exact hfirst.trans hsecond.symm

theorem exists_tableByName? {table : String}
    (ha : a.Marked .tables (·.HasOtherText "NAME" table))
    (hb : b.Marked .tables (·.HasOtherText "NAME" table)) :
    ∃ found, a.tableByName? table = found ∧ b.tableByName? table = found ∧
      ∀ row, found = .ok (some row) → row.text "NAME" = .ok table ∧
        ∀ q, a.Live .tables q → q row := by
  obtain ⟨found, hfirst, hsecond, hlive⟩ := h.exists_first? (by simp)
    (ha.imp fun row => CatalogRow.HasOtherText.ask) (hb.imp fun row => CatalogRow.HasOtherText.ask)
  refine ⟨found, hfirst, hsecond, fun row hrow => ?_⟩
  obtain ⟨hname, hrow⟩ := hlive row hrow
  exact ⟨CatalogRow.eq_of_ask_text hname, hrow⟩

theorem indexById? {id : Nat}
    (hunmarked : ∀ ids, a.indexIds = .ok ids → ids.lookup id = none →
      a.IndexUnmarked id ∧ b.IndexUnmarked id) : a.indexById? id = b.indexById? id := by
  unfold Catalog.indexById?
  rw [← h.indexIds, ← h.header]
  cases hids : a.indexIds with
  | error e => rfl
  | ok ids =>
    rw [ok_bind, ok_bind]
    cases hlookup : ids.lookup id with
    | some index => rfl
    | none =>
      obtain ⟨ha, hb⟩ := hunmarked ids hids hlookup
      obtain ⟨found, hfirst, hsecond, hlive⟩ := h.exists_first? (by simp)
        (ha.indexes.imp fun row => CatalogRow.HasOtherNat.ask)
        (hb.indexes.imp fun row => CatalogRow.HasOtherNat.ask)
      simp only [← bind_assoc]
      rw [hfirst, hsecond]
      rcases found with e | (_ | row)
      · rfl
      · rfl
      obtain ⟨hid, hrow⟩ := hlive row rfl
      have hid := CatalogRow.eq_of_ask_nat hid
      have htables : (row.nat "TABLE_ID" >>= a.tableById?) =
          row.nat "TABLE_ID" >>= b.tableById? := by
        cases htable : row.nat "TABLE_ID" with
        | error e => rfl
        | ok tableId =>
          exact h.tableById? (hrow _ ha.tables hid tableId htable)
            (hrow _ (h.live (by simp) hb.tables) hid tableId htable)
      simp only [ok_bind, htables]

theorem indexByName? {table index : String} (ha : a.NameUnmarked table index)
    (hb : b.NameUnmarked table index) :
    a.indexByName? table index = b.indexByName? table index := by
  obtain ⟨found, hfirst, hsecond, hlive⟩ := h.exists_tableByName? ha.tables hb.tables
  unfold Catalog.indexByName?
  rw [hfirst, hsecond]
  rcases found with e | (_ | row)
  · rfl
  · rfl
  obtain ⟨hname, hrow⟩ := hlive row rfl
  cases hid : row.nat "ID" with
  | error e => simp only [ok_bind, hid, error_bind]
  | ok tableId =>
    have ha := hrow _ ha.indexes hname tableId hid
    have hb := hrow _ (h.live (by simp) hb.indexes) hname tableId hid
    obtain ⟨found, hfirst, hsecond, -⟩ := h.exists_first? (by simp)
      (ha.imp fun row => OtherIndex.ask) (hb.imp fun row => OtherIndex.ask)
    simp only [← bind_assoc, ok_bind, hid, hfirst, hsecond]

/-- The columns of a table are the same if no marked row describes one. -/
theorem tableColumns {tableId : Nat}
    (ha : a.Marked .columns (·.HasOtherNat "TABLE_ID" tableId))
    (hb : b.Marked .columns (·.HasOtherNat "TABLE_ID" tableId)) :
    a.tableColumns tableId = b.tableColumns tableId := by
  obtain ⟨as, bs, has, hbs, hsame⟩ := h.records .columns (by simp)
  rw [Catalog.tableColumns, Catalog.tableColumns, rows_of_records has, rows_of_records hbs,
    ok_bind, ok_bind, columnsOfRows_live (ha as has), columnsOfRows_live (hb bs hbs), hsame]

/-- What the rows say of the indexes of a table is the same as far as it matters, and said by live
rows. -/
theorem exists_entries {table index : String} {tableId : Nat}
    (ha : a.PartsUnmarked table index tableId) (hb : b.PartsUnmarked table index tableId) :
    ∃ as bs found, a.rows .indexes = .ok as ∧ b.rows .indexes = .ok bs ∧
      List.filter (IndexEntry.mattersTo index) <$>
          (as.filter (isOfTable tableId)).mapM (IndexEntry.ofRow table) =
        List.filter (IndexEntry.mattersTo index) <$> found ∧
      List.filter (IndexEntry.mattersTo index) <$>
          (bs.filter (isOfTable tableId)).mapM (IndexEntry.ofRow table) =
        List.filter (IndexEntry.mattersTo index) <$> found ∧
      ∀ entries, found = .ok entries → ∀ q, a.Live .indexes q → ∀ id ∈ entries.map (·.id),
        ∃ row, row.nat "TABLE_ID" = .ok tableId ∧ row.nat "ID" = .ok id ∧ q row := by
  obtain ⟨as, bs, found, has, hbs, hfirst, hsecond, hlive⟩ :=
    h.exists_mapM (by simp) ha.answer_indexes hb.answer_indexes
  refine ⟨as, bs, found, has, hbs, hfirst, hsecond, ?_⟩
  intro entries hentries q hq
  rw [List.forall_mem_map]
  intro entry hentry
  obtain ⟨row, htable, hof, hrow⟩ := hlive entries hentries entry hentry
  exact ⟨row, nat_of_isOfTable htable, IndexEntry.nat_id_of_ofRow hof, hrow q hq⟩

/-- What the rows say of the key columns of live indexes of a table is the same. -/
theorem exists_fields {table index : String} {tableId : Nat} {ids : List Nat}
    (ha : a.PartsUnmarked table index tableId) (hb : b.PartsUnmarked table index tableId)
    (hids : ∀ q, a.Live .indexes q → ∀ id ∈ ids, ∃ row : CatalogRow,
      row.nat "TABLE_ID" = .ok tableId ∧ row.nat "ID" = .ok id ∧ q row) :
    ∃ as bs found, a.rows .fields = .ok as ∧ b.rows .fields = .ok bs ∧
      List.filter (fun field => decide (field.1 ∈ ids)) <$> as.mapM fieldOfRow =
        List.filter (fun field => decide (field.1 ∈ ids)) <$> found ∧
      List.filter (fun field => decide (field.1 ∈ ids)) <$> bs.mapM fieldOfRow =
        List.filter (fun field => decide (field.1 ∈ ids)) <$> found := by
  obtain ⟨as, bs, found, has, hbs, hfirst, hsecond, -⟩ := h.exists_mapM (by simp)
    (ha.answer_fields hids) (hb.answer_fields fun q hq => hids q (h.live (by simp) hq))
  rw [List.filter_true] at hfirst hsecond
  exact ⟨as, bs, found, has, hbs, hfirst, hsecond⟩

theorem layoutByName? {table index : String}
    (hunmarked : CatalogIndex.ofNames? table index = none →
      a.LayoutUnmarked table index ∧ b.LayoutUnmarked table index) :
    a.layoutByName? table index = b.layoutByName? table index := by
  unfold Catalog.layoutByName?
  cases huser : CatalogIndex.ofNames? table index with
  | some builtin => rfl
  | none =>
    obtain ⟨ha, hb⟩ := hunmarked huser
    obtain ⟨found, hfirst, hsecond, hlive⟩ := h.exists_tableByName? ha.tables hb.tables
    rw [hfirst, hsecond]
    rcases found with e | (_ | row)
    · rfl
    · rfl
    obtain ⟨hname, hrow⟩ := hlive row rfl
    cases hid : row.nat "ID" with
    | error e => simp only [ok_bind, hid, error_bind]
    | ok tableId =>
      have ha := hrow _ ha.parts hname tableId hid
      have hb := hrow _ (h.live (by simp) hb.parts) hname tableId hid
      obtain ⟨as, bs, entries, has, hbs, hfirst, hsecond, hids⟩ := h.exists_entries ha hb
      simp only [ok_bind, hid, has, hbs]
      rcases entries with e | entries
      · simp only [eq_error_of_map_eq hfirst, eq_error_of_map_eq hsecond, error_bind]
      obtain ⟨first, hfirst, hentries⟩ := exists_of_map_eq hfirst
      obtain ⟨second, hsecond, hothers⟩ := exists_of_map_eq hsecond
      simp only [hfirst, hsecond, ok_bind, h.tableColumns ha.columns hb.columns,
        find?_of_filter_eq (fun _ => IndexEntry.mattersTo_of_name) hentries,
        find?_of_filter_eq (fun _ => IndexEntry.mattersTo_of_name) hothers]
      cases htarget : entries.find? (·.name = index) with
      | none => rfl
      | some target =>
        obtain ⟨as, bs, fields, has, hbs, hfirst, hsecond⟩ :=
          h.exists_fields ha hb (hids entries rfl)
        simp only [has, hbs, ok_bind]
        rcases fields with e | fields
        · simp only [eq_error_of_map_eq hfirst, eq_error_of_map_eq hsecond, error_bind]
        obtain ⟨firstFields, hfirst, hfields⟩ := exists_of_map_eq hfirst
        obtain ⟨secondFields, hsecond, hotherFields⟩ := exists_of_map_eq hsecond
        have hmem := List.mem_of_find?_eq_some htarget
        simp only [hfirst, hsecond, ok_bind, TableSchema.layout_of_filter_eq hentries hfields hmem,
          TableSchema.layout_of_filter_eq hothers hotherFields hmem]

end Live

end SameUpTo

/-- The answer for the name of an index is the first row with the name, marked or not. -/
theorem indexByName?_of_first {catalog : Catalog} {table : String} {row : CatalogRow}
    {before after : List Record} {first : Record} {entry : ListedIndex}
    (htable : catalog.tableByName? table = .ok (some row))
    (hid : row.nat "ID" = .ok entry.tableId)
    (hrecords : catalog.records .indexes = .ok (before ++ first :: after))
    (hfirst : CatalogRow.IsIndex first.values entry)
    (hbefore : ∀ record ∈ before, OtherIndex entry.tableId entry.name record.values) :
    catalog.indexByName? table entry.name = .ok (some (entry.entry table)) := by
  have hskip : ∀ other ∈ before.map Record.values,
      isIndexOf entry.tableId entry.name other = .ok false := by
    rw [List.forall_mem_map]
    exact fun record hrecord => (hbefore record hrecord).ask
  have hfound : isIndexOf entry.tableId entry.name first.values = .ok true := by
    rw [isIndexOf, hfirst.1, ok_bind, if_pos rfl, hfirst.2.2.1, ok_bind, beq_self_eq_true]
    rfl
  simp only [Catalog.indexByName?, htable, ok_bind, hid, rows_of_records hrecords, List.map_append,
    List.map_cons, CatalogRow.first?_append hskip, CatalogRow.first?, hfound, if_true, pure_eq_ok,
    ofRow_of_isIndex table hfirst]
  rfl

end Catalog

/-- Catalogs with the same live rows give the same answers to a lookup if no marked row is one
that it asks for. Otherwise marked rows count like live ones: the answer for the name of an index
is the first row with the name, marked or not, whatever rows come after it. -/
theorem sameAnswers_of_liveRows {a b : Catalog} (h : a.SameUpTo liveRows b) :
    (∀ id, a.TableUnmarked id → b.TableUnmarked id → a.tableById? id = b.tableById? id) ∧
      (∀ id, (∀ ids, a.indexIds = .ok ids → ids.lookup id = none →
        a.IndexUnmarked id ∧ b.IndexUnmarked id) → a.indexById? id = b.indexById? id) ∧
      (∀ table index, a.NameUnmarked table index → b.NameUnmarked table index →
        a.indexByName? table index = b.indexByName? table index) ∧
      (∀ table index, (CatalogIndex.ofNames? table index = none →
        a.LayoutUnmarked table index ∧ b.LayoutUnmarked table index) →
        a.layoutByName? table index = b.layoutByName? table index) ∧
      ∀ (table : String) (row : CatalogRow) (before after : List Record) (first : Record)
        (entry : ListedIndex), a.tableByName? table = .ok (some row) →
        row.nat "ID" = .ok entry.tableId → a.records .indexes = .ok (before ++ first :: after) →
        CatalogRow.IsIndex first.values entry →
        (∀ record ∈ before, Catalog.OtherIndex entry.tableId entry.name record.values) →
        a.indexByName? table entry.name = .ok (some (entry.entry table)) := by
  refine ⟨fun id ha hb => h.tableById? ha hb, fun id hunmarked => h.indexById? hunmarked,
    fun table index ha hb => h.indexByName? ha hb,
    fun table index hunmarked => h.layoutByName? hunmarked, ?_⟩
  intro table row before after first entry htable hid hrecords hfirst hbefore
  exact Catalog.indexByName?_of_first htable hid hrecords hfirst hbefore

/-! ## A row that is left over -/

namespace Leftover

open SmallCatalog

/-- How the row of an index that was dropped is still there, when another has its name. -/
inductive Trace where
  /-- With a delete mark. -/
  | marked
  /-- In the bytes of the page alone, for no link leads to it. -/
  | purged

def dropped : ListedIndex := ⟨7, 20, "by_day", 0, 0, 6⟩

def primary : ListedIndex := ⟨7, 21, "PRIMARY", 3, 0, 5⟩

def present : ListedIndex := ⟨7, 22, "by_day", 0, 0, 8⟩

/-- The row with a delete mark. -/
def deleted (row : StoredRecord) : StoredRecord :=
  { row with mark := { row.mark with flags := ⟨2, by decide⟩ } }

def indexRow (distance : Nat) (index : ListedIndex) : StoredRecord :=
  row .indexes distance [toBigEndian 8 index.tableId, toBigEndian 8 index.id, text index.name,
    toBigEndian 4 1, toBigEndian 4 index.type, toBigEndian 4 index.space, toBigEndian 4 index.root]

def fieldRow (distance : Nat) (field : ListedField) : StoredRecord :=
  row .fields distance [toBigEndian 8 field.index, toBigEndian 4 field.position, text field.name]

/-- The rows of the indexes and of the key columns with their origins. The first ones are those of
the index that was dropped. -/
def placed : CatalogIndex → List (Nat × StoredRecord)
  | .indexes => [(126, deleted (indexRow 57 dropped)), (183, indexRow 58 primary),
    (241, indexRow 65407 present)]
  | .fields => [(126, deleted (fieldRow 34 ⟨20, 0, "day"⟩)), (160, fieldRow 33 ⟨21, 0, "id"⟩),
    (193, fieldRow 65455 ⟨22, 0, "day"⟩)]
  | .tables | .columns | .tableIds => []

/-- Those of them that are linked. -/
def linked (index : CatalogIndex) : Trace → List (Nat × StoredRecord)
  | .marked => placed index
  | .purged => (placed index).tail

def small (trace : Trace) : SmallCatalog where
  heap
    | .tables => [Visits.tableRow]
    | .columns => Visits.columnRows
    | index => (placed index).map (·.2)
  first
    | .tables => 28
    | .columns => 76
    | .indexes => match trace with | .marked => 27 | .purged => 84
    | .fields => match trace with | .marked => 27 | .purged => 61
    | .tableIds => 13
  fits index := by cases index <;> decide +kernel

def catalog (trace : Trace) : Catalog := (small trace).catalog

theorem held (trace : Trace) {index : CatalogIndex} (h : index = .indexes ∨ index = .fields) :
    StoredLeaf.Held ⟨(small trace).leaf index, linked index trace⟩ index.layout := by
  rcases h with rfl | rfl <;> cases trace <;> decide +kernel

/-- The rows of the indexes and of the key columns, as they are read. -/
def records (trace : Trace) (index : CatalogIndex) : List Record :=
  (linked index trace).map fun r => r.2.decoded (index.layout.columns true) r.1

theorem records_eq (trace : Trace) {index : CatalogIndex}
    (h : index = .indexes ∨ index = .fields) :
    (catalog trace).records index = .ok (records trace index) :=
  SmallCatalog.records_of_held (held trace h)

/-- The records of tables and columns do not depend on the trace, and none of them is marked. -/
theorem exists_records {index : CatalogIndex} (h : index = .tables ∨ index = .columns) :
    ∃ records, (∀ trace, (catalog trace).records index = .ok records) ∧
      ∀ record ∈ records, record.header.isDeleted = false := by
  have hpage : ∃ records ∈ ((small .marked).leaf index).records.toOption,
      ∀ record ∈ records, record.header.isDeleted = false := by
    rcases h with rfl | rfl <;> decide +kernel
  have hsame : ∀ trace, (small trace).leaf index = (small .marked).leaf index := by
    intro trace
    rcases h with rfl | rfl <;> cases trace <;> rfl
  obtain ⟨records, hrecords, hlive⟩ := hpage
  refine ⟨records.filter (·.kind = .conventional), fun trace => ?_, fun record hrecord => ?_⟩
  · refine SmallCatalog.records_eq ?_
    rw [hsame trace, mem_toOption_iff.1 hrecords]
  · exact hlive record (List.mem_filter.1 hrecord).1

/-- The live records do not depend on the trace. -/
theorem sameUpTo_liveRecords : (catalog .marked).SameUpTo liveRecords (catalog .purged) where
  header := rfl
  ids index :=
    ⟨_, _, 0, (small .marked).tree_eq index, (small .purged).tree_eq index,
      (small .marked).index_tree index, (small .purged).index_tree index⟩
  records index hindex := by
    have hcases : (index = .tables ∨ index = .columns) ∨ index = .indexes ∨ index = .fields := by
      simpa [or_assoc] using hindex
    rcases hcases with h | h
    · obtain ⟨records, hrecords, -⟩ := exists_records h
      exact ⟨records, records, hrecords .marked, hrecords .purged, rfl⟩
    · refine ⟨_, _, records_eq .marked h, records_eq .purged h, ?_⟩
      rcases h with rfl | rfl <;> decide +kernel

/-- What the catalog lists. -/
def contents (trace : Trace) : CatalogContents :=
  { Visits.contents with
    indexes := match trace with
      | .marked => [dropped, primary, present]
      | .purged => [primary, present]
    fields := match trace with
      | .marked => [⟨20, 0, "day"⟩, ⟨21, 0, "id"⟩, ⟨22, 0, "day"⟩]
      | .purged => [⟨21, 0, "id"⟩, ⟨22, 0, "day"⟩] }

theorem isIndex_records (trace : Trace) : List.Forall₂ CatalogRow.IsIndex
    ((records trace .indexes).map Record.values) (contents trace).indexes := by
  cases trace <;> decide +kernel

theorem isField_records (trace : Trace) : List.Forall₂ CatalogRow.IsField
    ((records trace .fields).map Record.values) (contents trace).fields := by
  cases trace <;> decide +kernel

theorem holds (trace : Trace) : (catalog trace).Holds (contents trace) where
  tables := @SmallCatalog.Lists.exists_rows (small trace) _ _ _ _ Visits.tables_listed
  columns := @SmallCatalog.Lists.exists_rows (small trace) _ _ _ _ Visits.columns_listed
  indexes := ⟨_, Catalog.rows_of_records (records_eq trace (.inl rfl)), isIndex_records trace⟩
  fields := ⟨_, Catalog.rows_of_records (records_eq trace (.inr rfl)), isField_records trace⟩

/-- The table that the indexes belong to is found. -/
theorem exists_tableRow (trace : Trace) :
    ∃ row, (catalog trace).tableByName? "visits" = .ok (some row) ∧
      CatalogRow.nat row "ID" = .ok 7 := by
  obtain ⟨found, hfound, hrow⟩ := Catalog.tableByName?_of_holds (holds trace) "visits"
  have hlisted : (contents trace).tables.find? (·.name = "visits") = some ⟨"visits", 7⟩ := rfl
  rw [hlisted] at hrow
  cases hrow with
  | some htable => exact ⟨_, hfound, htable.2⟩

/-! ### Marked rows -/

/-- No row of a table or column is marked. -/
theorem marked_of_absent (trace : Trace) {index : CatalogIndex}
    (h : index = .tables ∨ index = .columns) (p : CatalogRow → Prop) :
    (catalog trace).Marked index p := by
  obtain ⟨found, hfound, hlive⟩ := exists_records h
  intro records hrecords record hrecord hmark
  rw [hfound, Except.ok.injEq] at hrecords
  rw [hlive record (hrecords ▸ hrecord)] at hmark
  cases hmark

/-- The only marked row of an index is that of the dropped one. -/
theorem marked_indexes (trace : Trace) :
    (catalog trace).Marked .indexes (CatalogRow.IsIndex · dropped) := by
  intro records hrecords
  rw [records_eq trace (.inl rfl), Except.ok.injEq] at hrecords
  rw [← hrecords]
  cases trace <;> decide +kernel

/-- The only marked row of a key column is that of the dropped index. -/
theorem marked_fields (trace : Trace) :
    (catalog trace).Marked .fields (CatalogRow.IsField · ⟨20, 0, "day"⟩) := by
  intro records hrecords
  rw [records_eq trace (.inr rfl), Except.ok.injEq] at hrecords
  rw [← hrecords]
  cases trace <;> decide +kernel

/-- The other rows are those of the other indexes. -/
theorem live_indexes (trace : Trace) :
    (catalog trace).Live .indexes fun row => row.IsIndex primary ∨ row.IsIndex present := by
  intro records hrecords
  rw [records_eq trace (.inl rfl), Except.ok.injEq] at hrecords
  rw [← hrecords]
  cases trace <;> decide +kernel

theorem indexUnmarked (trace : Trace) : (catalog trace).IndexUnmarked 22 where
  indexes := (marked_indexes trace).imp fun row hrow => ⟨20, hrow.2.1, by decide⟩
  tables _ _ _ _ _ _ _ := marked_of_absent trace (.inl rfl) _

theorem nameUnmarked (trace : Trace) : (catalog trace).NameUnmarked "visits" "PRIMARY" where
  tables := marked_of_absent trace (.inl rfl) _
  indexes _ _ _ _ _ tableId _ := by
    refine (marked_indexes trace).imp fun row hrow => ?_
    by_cases htable : 7 = tableId
    · exact .inr ⟨htable ▸ hrow.1, "by_day", hrow.2.2.1, by decide⟩
    · exact .inl ⟨7, hrow.1, htable⟩

theorem layoutUnmarked (trace : Trace) : (catalog trace).LayoutUnmarked "visits" "PRIMARY" where
  tables := marked_of_absent trace (.inl rfl) _
  parts _ _ _ _ _ tableId _ := {
    indexes := (marked_indexes trace).imp fun row hrow _ =>
      ⟨_, ofRow_of_isIndex "visits" hrow, by decide, rfl⟩
    columns := marked_of_absent trace (.inr rfl) _
    fields := by
      refine (marked_fields trace).imp fun row hrow => ⟨_, fieldOfRow_of_isField hrow, ?_⟩
      intro records hrecords other hother _ hid
      rcases live_indexes trace records hrecords other hother with hlisted | hlisted
      · cases hlisted.2.1.symm.trans hid
      · cases hlisted.2.1.symm.trans hid }

end Leftover

/-- The row of the dropped index is not asked for by the number or the name of another one, and so
the answers are those without it. It is the answer for the name that it has, though another row with
the name comes after it. -/
theorem sameAnswers_of_liveRows_leftover :
    (Leftover.catalog .marked).tableById? 7 = (Leftover.catalog .purged).tableById? 7 ∧
      (Leftover.catalog .marked).indexById? 22 = (Leftover.catalog .purged).indexById? 22 ∧
      (Leftover.catalog .marked).indexByName? "visits" "PRIMARY" =
        (Leftover.catalog .purged).indexByName? "visits" "PRIMARY" ∧
      (Leftover.catalog .marked).layoutByName? "visits" "PRIMARY" =
        (Leftover.catalog .purged).layoutByName? "visits" "PRIMARY" ∧
      (Leftover.catalog .marked).indexByName? "visits" "by_day" =
        .ok (some (Leftover.dropped.entry "visits")) := by
  obtain ⟨htable, hid, hname, hlayout, hfirst⟩ :=
    sameAnswers_of_liveRows Leftover.sameUpTo_liveRecords.toLiveRows
  obtain ⟨row, hrow, hnumber⟩ := Leftover.exists_tableRow .marked
  have hlisted := Leftover.isIndex_records .marked
  refine ⟨htable 7 ?_ ?_, hid 22 fun _ _ _ => ⟨Leftover.indexUnmarked .marked,
    Leftover.indexUnmarked .purged⟩, hname "visits" "PRIMARY" (Leftover.nameUnmarked .marked)
    (Leftover.nameUnmarked .purged), hlayout "visits" "PRIMARY" fun _ =>
    ⟨Leftover.layoutUnmarked .marked, Leftover.layoutUnmarked .purged⟩, ?_⟩
  · exact Leftover.marked_of_absent .marked (.inl rfl) _
  · exact Leftover.marked_of_absent .purged (.inl rfl) _
  · exact hfirst "visits" row [] _ _ Leftover.dropped hrow hnumber
      (Leftover.records_eq .marked (.inl rfl)) (List.forall₂_cons.1 hlisted).1 nofun

/-- Two system spaces with the same catalog header, the same numbers of the catalog's own indexes
and the same records that are not marked give different answers for the name of an index: a marked
row of an index that was dropped is taken for the one that has its name now. -/
theorem indexByName?_leftover :
    Catalog.ofSpace (Leftover.small .marked).space = .ok (Leftover.catalog .marked) ∧
      Catalog.ofSpace (Leftover.small .purged).space = .ok (Leftover.catalog .purged) ∧
      (Leftover.catalog .marked).SameUpTo liveRecords (Leftover.catalog .purged) ∧
      (Leftover.catalog .marked).indexByName? "visits" "by_day" =
        .ok (some (Leftover.dropped.entry "visits")) ∧
      (Leftover.catalog .purged).indexByName? "visits" "by_day" =
        .ok (some (Leftover.present.entry "visits")) ∧
      Leftover.dropped.entry "visits" ≠ Leftover.present.entry "visits" := by
  refine ⟨(Leftover.small .marked).ofSpace_space, (Leftover.small .purged).ofSpace_space,
    Leftover.sameUpTo_liveRecords, ?_, ?_, by decide⟩
  · rw [Catalog.indexByName?_eq_contents (Leftover.holds .marked)]
    exact congrArg Except.ok (by decide)
  · rw [Catalog.indexByName?_eq_contents (Leftover.holds .purged)]
    exact congrArg Except.ok (by decide)

end Tablespace
