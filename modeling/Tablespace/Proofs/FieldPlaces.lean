import Tablespace.Proofs.NodeRecord
import Tablespace.Proofs.RecordParts

/-!
# The fields of a record fill it without a gap

The value of a column, the reference to the rest of a value and the number of the child are each
looked for at a place of their own. The header alone says how long a column is, and it may say so in
strange ways: a NULL that takes up bytes or is marked as stored elsewhere, ends of redundant fields
that go down. Whatever it says, each field of a record that can be read stands where the field
before it ends, and the child where the last field ends.

Main statement: `Node.fields_fill_record`.
-/

namespace Tablespace

/-! ## Places -/

namespace Extent

variable {extents : List Extent} {extent : Extent}

/-- Where the bytes of the field with index `i` begin, counted from the first field. -/
def place (extents : List Extent) (i : Nat) : Nat := ((extents.take i).map (·.length)).sum

theorem place_zero (extents : List Extent) : place extents 0 = 0 := rfl

theorem place_cons_succ (extent : Extent) (extents : List Extent) (i : Nat) :
    place (extent :: extents) (i + 1) = extent.length + place extents i := by
  simp [place]

theorem place_succ {i : Nat} (h : extents[i]? = some extent) :
    place extents (i + 1) = place extents i + extent.length := by
  obtain ⟨hlt, rfl⟩ := List.getElem?_eq_some_iff.1 h
  unfold place
  rw [List.take_succ_eq_append_getElem hlt, List.map_append, List.sum_append]
  simp

theorem place_mono (extents : List Extent) {i j : Nat} (h : i ≤ j) :
    place extents i ≤ place extents j := by
  induction extents generalizing i j with
  | nil => simp [place]
  | cons extent extents ih =>
    cases i with
    | zero =>
      rw [place_zero]
      exact Nat.zero_le _
    | succ i =>
      cases j with
      | zero => omega
      | succ j =>
        have hrest := ih (Nat.le_of_succ_le_succ h)
        rw [place_cons_succ, place_cons_succ]
        omega

/-- The bytes of a field end before those of any later field begin. -/
theorem place_add_length_le {i j : Nat} (hij : i < j) (h : extents[i]? = some extent) :
    place extents i + extent.length ≤ place extents j := by
  rw [← place_succ h]
  exact place_mono extents hij

end Extent

/-! ## Fields in turn -/

/-- What the bytes of a column from `offset` on are read as. Of a value that is stored elsewhere the
last twenty bytes are the reference, four numbers of which the last is reduced to thirty bits, and
only the bytes before it are decoded. -/
inductive Field.StandsAt (page : Page) (offset : Nat) (column : Column) :
    Extent → Field → Prop where
  /-- No value, however many bytes there are. -/
  | null {extent : Extent} (hnull : extent.null = true) :
      StandsAt page offset column extent ⟨column, .null, none⟩
  /-- A value that is stored here. -/
  | here {extent : Extent} {bytes : List UInt8} (hvalue : extent.null = false)
      (hhere : extent.external = false) (hbytes : page.read offset extent.length = .ok bytes) :
      StandsAt page offset column extent ⟨column, .decode column.type bytes, none⟩
  /-- A value that is stored elsewhere. -/
  | elsewhere {extent : Extent} {bytes : List UInt8} {reference : ExternalReference} {length : Nat}
      (hvalue : extent.null = false) (helsewhere : extent.external = true)
      (hroom : 20 ≤ extent.length)
      (hbytes : page.read offset (extent.length - 20) = .ok bytes)
      (hspace : page.uint (offset + (extent.length - 20)) 4 = .ok reference.space)
      (hpage : page.uint (offset + (extent.length - 20) + 4) 4 = .ok reference.page)
      (hoffset : page.uint (offset + (extent.length - 20) + 8) 4 = .ok reference.offset)
      (hlength : page.uint (offset + (extent.length - 20) + 12) 8 = .ok length)
      (hmask : reference.length = length % 2 ^ 30) :
      StandsAt page offset column extent
        ⟨column, .decode column.type bytes, some reference⟩

section Fields

variable {page : Page} {header : RecordHeader} {column : Column} {offset : Nat}

/-- A reference is read number by number. -/
theorem ExternalReference.uint_of_read {reference : ExternalReference}
    (h : read page offset = .ok reference) :
    page.uint offset 4 = .ok reference.space ∧ page.uint (offset + 4) 4 = .ok reference.page ∧
      page.uint (offset + 8) 4 = .ok reference.offset ∧
      ∃ length, page.uint (offset + 12) 8 = .ok length ∧ reference.length = length % 2 ^ 30 := by
  cases hread : page.read offset size with
  | error e =>
    rw [read, hread] at h
    cases h
  | ok bytes =>
    rw [read, hread] at h
    cases h
    obtain ⟨hfits, hslice⟩ := Page.read_eq_ok_iff.1 hread
    have hlength : bytes.length = 20 := by
      rw [← hslice]
      exact length_slice hfits
    obtain ⟨stored, rfl⟩ := StoredReference.exists_bytes_eq hlength
    have hholds : page.Holds offset stored.bytes := by
      rw [Page.Holds, stored.length_bytes]
      exact hread
    obtain ⟨hparts, hlengthAt⟩ := Page.holds_append.1 hholds
    obtain ⟨hparts, hoffsetAt⟩ := Page.holds_append.1 hparts
    obtain ⟨hspaceAt, hpageAt⟩ := Page.holds_append.1 hparts
    simp only [List.length_append, length_toBigEndian] at hpageAt hoffsetAt hlengthAt
    rw [stored.ofBytes_bytes]
    exact ⟨hspaceAt.uint_toBigEndian stored.space.isLt, hpageAt.uint_toBigEndian stored.page.isLt,
      hoffsetAt.uint_toBigEndian stored.offset.isLt, _,
      hlengthAt.uint_toBigEndian stored.length.isLt, rfl⟩

theorem Column.exists_extent_of_value {value : FieldValue} {consumed : Nat}
    (h : column.value page header offset = .ok (value, consumed)) :
    ∃ extent, header.fields.get? column.name = some extent := by
  cases hextent : header.fields.get? column.name with
  | some extent => exact ⟨extent, rfl⟩
  | none =>
    unfold Column.value at h
    rw [hextent] at h
    cases h

/-- The value and the reference are read at the same column, and all its bytes are passed. -/
theorem Column.standsAt_of_value {extent : Extent} {value : FieldValue} {consumed : Nat}
    {external : Option ExternalReference} (hextent : header.fields.get? column.name = some extent)
    (hvalue : column.value page header offset = .ok (value, consumed))
    (hexternal : column.external page header offset = .ok external) :
    consumed = extent.length ∧
      Field.StandsAt page offset column extent ⟨column, value, external⟩ := by
  have hsize : ExternalReference.size = 20 := rfl
  unfold Column.value at hvalue
  unfold Column.external at hexternal
  rw [hextent] at hvalue hexternal
  simp only at hvalue hexternal
  rcases hnull : extent.null with _ | _
  · rcases helsewhere : extent.external with _ | _
    · simp only [hnull, helsewhere, Bool.false_and, Bool.false_eq_true, if_false]
        at hvalue hexternal
      obtain ⟨bytes, hbytes, hvalue⟩ := bind_eq_ok_iff.1 hvalue
      cases hvalue
      cases hexternal
      exact ⟨rfl, .here hnull helsewhere hbytes⟩
    · simp only [hnull, helsewhere, Bool.true_and, Bool.not_false, Bool.false_eq_true, if_false,
        decide_eq_true_eq, if_true] at hvalue hexternal
      by_cases hshort : extent.length < ExternalReference.size
      · rw [if_pos hshort] at hvalue
        cases hvalue
      · rw [if_neg hshort] at hvalue
        rw [if_pos (Nat.not_lt.1 hshort), Nat.add_sub_assoc (Nat.not_lt.1 hshort)] at hexternal
        obtain ⟨bytes, hbytes, hvalue⟩ := bind_eq_ok_iff.1 hvalue
        cases hvalue
        cases hreference : ExternalReference.read page
            (offset + (extent.length - ExternalReference.size)) with
        | error e =>
          rw [hreference] at hexternal
          cases hexternal
        | ok reference =>
          rw [hreference] at hexternal
          cases hexternal
          obtain ⟨hspace, hpage, hoffset, length, hlength, hmask⟩ :=
            ExternalReference.uint_of_read hreference
          exact ⟨rfl, .elsewhere hnull helsewhere (Nat.not_lt.1 hshort) hbytes hspace hpage
            hoffset hlength hmask⟩
  · simp only [hnull, Bool.not_true, Bool.and_false, Bool.false_and, if_true, Bool.false_eq_true,
      if_false] at hvalue hexternal
    cases hvalue
    cases hexternal
    exact ⟨rfl, .null hnull⟩

/-- Fields are read in turn: each where the lengths of those before it add up to. -/
theorem standsAt_of_readFields {columns : List Column} {fields : List Field} {finish : Nat}
    (h : readFields page header columns offset = .ok (fields, finish)) :
    fields.map (·.column) = columns ∧
      ∃ extents,
        List.Forall₂ (fun column extent => header.fields.get? column.name = some extent)
          columns extents ∧
        finish = offset + (extents.map (·.length)).sum ∧
        ∀ i column extent, columns[i]? = some column → extents[i]? = some extent →
          ∃ field : Field, fields[i]? = some field ∧
            field.StandsAt page (offset + Extent.place extents i) column extent := by
  induction columns generalizing offset fields with
  | nil =>
    cases h
    refine ⟨rfl, [], .nil, rfl, ?_⟩
    intro i column extent hcolumn
    simp at hcolumn
  | cons column columns ih =>
    unfold readFields at h
    obtain ⟨⟨value, consumed⟩, hvalue, h⟩ := bind_eq_ok_iff.1 h
    obtain ⟨external, hexternal, h⟩ := bind_eq_ok_iff.1 h
    obtain ⟨⟨rest, last⟩, hrest, h⟩ := bind_eq_ok_iff.1 h
    cases h
    obtain ⟨extent, hextent⟩ := Column.exists_extent_of_value hvalue
    obtain ⟨rfl, hfirst⟩ := Column.standsAt_of_value hextent hvalue hexternal
    obtain ⟨hcolumns, extents, hextents, hfinish, hfields⟩ := ih hrest
    refine ⟨by rw [List.map_cons, hcolumns], extent :: extents, .cons hextent hextents, ?_, ?_⟩
    · rw [hfinish, List.map_cons, List.sum_cons, Nat.add_assoc]
    · intro i other e hother he
      cases i with
      | zero =>
        cases hother
        cases he
        exact ⟨_, rfl, hfirst⟩
      | succ i =>
        rw [Extent.place_cons_succ, ← Nat.add_assoc]
        exact hfields i other e hother he

end Fields

/-! ## The header of a record with columns -/

/-- Where names are different and each has its entry, the table has just these entries. -/
theorem NameTable.map_snd_of_get? {α : Type} {table : NameTable α} {names : List String}
    {as : List α} (hnodup : names.Nodup) (hnames : table.map Prod.fst = names)
    (h : List.Forall₂ (fun name a => table.get? name = some a) names as) :
    table.map Prod.snd = as := by
  have hown : List.Forall₂ (fun name a => table.get? name = some a) names
      (table.map Prod.snd) := by
    subst hnames
    rw [List.forall₂_map_left_iff, List.forall₂_map_right_iff, List.forall₂_same]
    rintro ⟨name, a⟩ hmem
    exact get?_of_mem hnodup hmem
  refine List.right_unique_forall₂' ?_ hown h
  intro name a b ha hb
  rw [ha] at hb
  exact Option.some.inj hb

section Header

variable {page : Page} {origin : Nat} {header : RecordHeader} {columns : List Column}

theorem Compact.names_of_fields {fields : NameTable Extent} {length : Nat}
    (hnames : (columns.map (·.name)).Nodup)
    (h : Compact.fields page origin columns = .ok (fields, length)) :
    fields.map Prod.fst = columns.map (·.name) := by
  unfold Compact.fields at h
  split at h
  · cases h
  · obtain ⟨⟨extents, bottom⟩, hextents, h⟩ := bind_eq_ok_iff.1 h
    cases h
    have hlength : columns.length = extents.length := (length_extents hextents).1.symm
    rw [NameTable.ofList_eq_self (nodup_named hnames hlength),
      List.map_fst_zip (by rw [List.length_map]; exact Nat.le_of_eq hlength)]

theorem Redundant.names_of_fields {ends : EndTable} {fields : NameTable Extent}
    (hnames : (columns.map (·.name)).Nodup)
    (h : Redundant.fields page origin ends columns = .ok fields) :
    fields.map Prod.fst = columns.map (·.name) := by
  unfold Redundant.fields at h
  obtain ⟨extents, -, h⟩ := bind_eq_ok_iff.1 h
  obtain ⟨entries, hentries, h⟩ := bind_eq_ok_iff.1 h
  cases h
  have hfirst : entries.map Prod.fst = columns.map (·.name) := by
    refine map_eq_map_of_forall₂ (mapM_eq_ok_iff.1 hentries) ?_
    intro column entry hentry
    unfold extentOf at hentry
    split at hentry
    · cases hentry
      rfl
    · cases hentry
  rw [NameTable.ofList_eq_self (by rwa [hfirst]), hfirst]

theorem RecordHeader.names_of_read {format : RowFormat} (hnames : (columns.map (·.name)).Nodup)
    (h : RecordHeader.read page format (some columns) origin = .ok header)
    (hkind : header.kind.isSentinel = false) :
    header.fields.map Prod.fst = columns.map (·.name) := by
  obtain ⟨-, -, hcompact, hredundant⟩ := RecordHeader.read_eq_ok_iff.1 h
  cases format with
  | compact =>
    obtain ⟨_, _, _, fields, length, -, -, -, -, hfields, rfl⟩ :=
      Compact.header_eq_ok_iff.1 ⟨hcompact rfl, hkind⟩
    exact Compact.names_of_fields hnames hfields
  | redundant =>
    obtain ⟨_, _, _, _, _, fields, -, -, -, -, -, -, hfields, rfl⟩ :=
      Redundant.header_eq_ok_iff.1 ⟨hredundant rfl, hkind⟩
    exact Redundant.names_of_fields hnames hfields

theorem RecordHeader.map_snd_fields {extents : List Extent}
    (hnodup : (columns.map (·.name)).Nodup)
    (hnames : header.fields.map Prod.fst = columns.map (·.name))
    (hextents : List.Forall₂ (fun column extent =>
      header.fields.get? column.name = some extent) columns extents) :
    header.fields.map Prod.snd = extents := by
  refine NameTable.map_snd_of_get? hnodup hnames ?_
  rwa [List.forall₂_map_left_iff]

theorem RecordHeader.dataLength_eq_sum (header : RecordHeader) :
    header.dataLength = ((header.fields.map Prod.snd).map (·.length)).sum := by
  rw [RecordHeader.dataLength, List.map_map]
  rfl

end Header

/-! ## Fields by role -/

/-- In every layout the columns of the key come first, then the hidden ones, then the others. -/
theorem Layout.exists_roles_columns (layout : Layout) (leaf : Bool) :
    ∃ keys hidden rows, (layout.columns leaf).map (·.role) =
      List.replicate keys .key ++ (List.replicate hidden .system ++ List.replicate rows .row) := by
  have hroles : (layout.columns leaf).map (·.role) = (layout.stored leaf).map Prod.snd := by
    rw [← layout.map_columns leaf, List.map_map]
    rfl
  rw [hroles]
  obtain ⟨kind, keys, rows⟩ := layout
  cases kind with
  | clustered =>
    cases leaf with
    | true =>
      refine ⟨keys.length, hidden.length, rows.length, ?_⟩
      simp [stored, Function.comp_def, List.map_const']
    | false =>
      refine ⟨keys.length, 0, 0, ?_⟩
      simp [stored, Function.comp_def, List.map_const']
  | secondary =>
    refine ⟨keys.length, 0, rows.length, ?_⟩
    simp [stored, Function.comp_def, List.map_const']

/-- Of fields with one role all or none have a given role. -/
theorem filter_of_role {fields : List Field} {count : Nat} {role : ColumnRole}
    (h : fields.map (·.column.role) = List.replicate count role) (other : ColumnRole) :
    fields.filter (·.column.role = other) = if role = other then fields else [] := by
  have hall : ∀ field ∈ fields, field.column.role = role := by
    intro field hfield
    exact (List.eq_replicate_iff.1 h).2 _ (List.mem_map_of_mem hfield)
  by_cases hrole : role = other
  · rw [if_pos hrole, List.filter_eq_self]
    intro field hfield
    rw [hall field hfield, hrole, decide_eq_true rfl]
  · rw [if_neg hrole, List.filter_eq_nil_iff]
    intro field hfield
    rw [hall field hfield]
    simpa using hrole

theorem Record.withRole_append {record : Record} {layout : Layout} {leaf : Bool}
    (h : record.fields.map (·.column) = layout.columns leaf) :
    record.withRole .key ++ record.withRole .system ++ record.withRole .row = record.fields := by
  obtain ⟨keys, hidden, rows, hroles⟩ := layout.exists_roles_columns leaf
  rw [← h, List.map_map] at hroles
  obtain ⟨first, rest, hfields, hfirst, hrest⟩ := List.map_eq_append_iff.1 hroles
  obtain ⟨second, third, rfl, hsecond, hthird⟩ := List.map_eq_append_iff.1 hrest
  unfold withRole
  rw [hfields]
  simp only [List.filter_append, filter_of_role hfirst, filter_of_role hsecond,
    filter_of_role hthird, reduceCtorEq, if_true, if_false, List.append_nil, List.nil_append,
    List.append_assoc]

/-- The fields of a record fill it without a gap. The header says of every column of the layout how
many bytes it has; each field is read where the lengths of the fields before it add up to, so that
no two fields share a byte, and the number of the child, which only a record that points to a page
has, is read where all lengths add up to. The fields come in the order of the layout: those of the
key, the hidden ones and the others. -/
theorem Node.fields_fill_record {node : Node} {layout : Layout} {origin : Nat} {record : Record}
    (hlayout : node.layout = some layout)
    (hnames : ((layout.columns node.isLeaf).map (·.name)).Nodup)
    (hread : node.recordAt origin = .ok record) (hkind : record.kind.isSentinel = false) :
    record.fields.map (·.column) = layout.columns node.isLeaf ∧
      record.withRole .key ++ record.withRole .system ++ record.withRole .row = record.fields ∧
      (∃ extents : List Extent,
        List.Forall₂ (fun column extent => record.header.fields.get? column.name = some extent)
          (layout.columns node.isLeaf) extents ∧
        (∀ i column extent, (layout.columns node.isLeaf)[i]? = some column →
          extents[i]? = some extent →
          ∃ field : Field, record.fields[i]? = some field ∧
            field.StandsAt node.page (origin + Extent.place extents i) column extent) ∧
        (∀ i j extent, i < j → extents[i]? = some extent →
          Extent.place extents i + extent.length ≤ Extent.place extents j) ∧
        (extents.map (·.length)).sum = record.header.dataLength) ∧
      (record.kind = .nodePointer → ∃ child, record.child = some child ∧
        node.page.uint (origin + record.header.dataLength) 4 = .ok child) ∧
      (record.kind ≠ .nodePointer → record.child = none) := by
  have hcolumns : node.columns = some (layout.columns node.isLeaf) := by
    rw [columns, hlayout]
    rfl
  rw [recordAt, hcolumns] at hread
  obtain ⟨hheader, finish, hfields, hpointer, hother⟩ := Record.parts_of_read hread hkind
  obtain ⟨hmap, extents, hextents, hfinish, hplaces⟩ := standsAt_of_readFields hfields
  have hlength : record.header.dataLength = (extents.map (·.length)).sum := by
    rw [record.header.dataLength_eq_sum, RecordHeader.map_snd_fields hnames
      (RecordHeader.names_of_read hnames hheader hkind) hextents]
  refine ⟨hmap, Record.withRole_append hmap, ⟨extents, hextents, hplaces, ?_, hlength.symm⟩, ?_,
    hother⟩
  · intro i j extent hij hextent
    exact Extent.place_add_length_le hij hextent
  · intro hkind
    obtain ⟨child, hchild, hsome⟩ := hpointer hkind
    rw [hfinish, ← hlength] at hchild
    exact ⟨child, hsome, hchild⟩

/-! ## A record with an uneven header -/

namespace Uneven

/-- The columns of a record above the leaves. -/
def layout : Layout where
  kind := .secondary
  keys := [{ name := "id", type := .integer 4 true }]
  rows := [{ name := "note", type := .varChar 20, nullable := true },
    { name := "skip", type := .blob }, { name := "body", type := .blob }]

/-- Four fields with the ends 4, 7, 5 and 27: the second is a NULL of three bytes that is marked as
stored elsewhere, and the third ends before it. After the fields comes the child. -/
def record : List UInt8 :=
  [64, 27, 0, 5, 192, 7, 0, 4, 16, 0, 16, 8, 0, 116] ++ [0, 0, 0, 7] ++ [32, 32, 32] ++
    [104, 105] ++ [0, 0, 0, 5, 0, 0, 1, 0, 0, 0, 0, 38, 128, 0, 0, 0, 192, 0, 2, 1] ++
    [0, 0, 1, 44]

def node : Node :=
  ⟨innerPage.write 146 record, some layout, by decide +kernel, by decide +kernel⟩

theorem fields_record :
    (node.recordAt 160).toOption.map (fun record => (record.kind, record.header.fields)) =
      some (.nodePointer,
        [("id", { length := 4 }), ("note", { length := 3, null := true, external := true }),
          ("skip", { length := 0 }), ("body", { length := 22, external := true })]) := by
  decide +kernel

/-- The numbers of the reference at the end of the last field. -/
theorem reference_record :
    node.page.uint 169 4 = .ok 5 ∧ node.page.uint 173 4 = .ok 256 ∧
      node.page.uint 177 4 = .ok 38 ∧ node.page.uint 181 8 = .ok (2 ^ 63 + 3 * 2 ^ 30 + 513) := by
  decide +kernel

end Uneven

/-- The last field stands where the lengths 4, 3 and 0 add up to, and the child 22 bytes later. The
length in its reference has bits beyond the thirty that count. -/
theorem Node.fields_fill_record_uneven :
    ∃ record, Uneven.node.recordAt 160 = .ok record ∧ record.kind.isSentinel = false ∧
      (∃ field column, record.fields[3]? = some field ∧
        field.StandsAt Uneven.node.page 167 column { length := 22, external := true } ∧
        field.external = some { space := 5, page := 256, offset := 38, length := 513 }) ∧
      ∃ child, record.child = some child ∧ Uneven.node.page.uint 189 4 = .ok child := by
  obtain ⟨record, hread, hparts⟩ := map_toOption_eq_some_iff.1 Uneven.fields_record
  obtain ⟨hkind, hfields⟩ := Prod.mk.inj hparts
  have hsentinel : record.kind.isSentinel = false := by
    rw [hkind]
    rfl
  have hlength : record.header.dataLength = 29 := by
    rw [RecordHeader.dataLength, hfields]
    rfl
  have hnames : ((Uneven.layout.columns Uneven.node.isLeaf).map (·.name)).Nodup := by
    decide +kernel
  have hnamed : record.header.fields.map Prod.fst =
      (Uneven.layout.columns Uneven.node.isLeaf).map (·.name) := by
    rw [hfields]
    decide +kernel
  obtain ⟨-, -, ⟨extents, hextents, hplaces, -⟩, hchild, -⟩ :=
    fields_fill_record rfl hnames hread hsentinel
  have hlist := RecordHeader.map_snd_fields hnames hnamed hextents
  rw [hfields] at hlist
  subst hlist
  obtain ⟨column, hcolumn⟩ : ∃ column,
      (Uneven.layout.columns Uneven.node.isLeaf)[3]? = some column := ⟨_, rfl⟩
  obtain ⟨field, hfield, hstands⟩ := hplaces 3 column _ hcolumn rfl
  rw [hlength] at hchild
  refine ⟨record, hread, hsentinel, ⟨field, column, hfield, hstands, ?_⟩, hchild hkind⟩
  obtain ⟨hspaceAt, hpageAt, hoffsetAt, hlengthAt⟩ := Uneven.reference_record
  cases hstands with
  | null hnull => cases hnull
  | here _ hhere _ => cases hhere
  | elsewhere _ _ _ _ hspace hpage hoffset hlength hmask =>
    have hspace := hspaceAt.symm.trans hspace
    have hpage := hpageAt.symm.trans hpage
    have hoffset := hoffsetAt.symm.trans hoffset
    have hlength := hlengthAt.symm.trans hlength
    rw [Except.ok.injEq] at hspace hpage hoffset hlength
    rw [← hlength] at hmask
    exact congrArg some (ExternalReference.ext hspace.symm hpage.symm hoffset.symm hmask)

end Tablespace
