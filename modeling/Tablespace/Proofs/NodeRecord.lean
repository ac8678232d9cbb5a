import Tablespace.Proofs.StoredRecord

/-!
# Records of a node are read as they were stored

A node knows the format of its records, the layout of its index and whether it is a leaf. With these
it reads a stored record back: the columns in the order of the layout, each with its value or with
no value, and the child of a record that has one. `Node.Stores` says what the page must hold, and
`read_written_record` that it suffices to write the bytes of the record onto the page.
-/

namespace Tablespace

/-! ## The columns by role -/

namespace Layout

variable (layout : Layout) (leaf : Bool)

theorem map_columns :
    ((layout.columns leaf).map fun column => (column.toColumnSpec, column.role)) =
      layout.stored leaf := by
  apply List.ext_getElem?
  intro i
  rw [List.getElem?_map, columns, List.getElem?_mapIdx]
  cases (layout.stored leaf)[i]? <;> rfl

theorem columns_withRole (role : ColumnRole) :
    ((layout.columns leaf).filter (·.role = role)).map (·.toColumnSpec) =
      ((layout.stored leaf).filter (·.2 = role)).map (·.1) := by
  rw [← map_columns, List.filter_map, List.map_map]
  rfl

/-- The columns of the key come first and are all there. -/
theorem stored_key : ((layout.stored leaf).filter (·.2 = .key)).map (·.1) = layout.keys := by
  obtain ⟨kind, keys, rows⟩ := layout
  cases kind <;> cases leaf <;> simp [stored, List.filter_map, Function.comp_def]

/-- Only the leaves of a clustered index have the hidden columns. -/
theorem stored_system :
    ((layout.stored leaf).filter (·.2 = .system)).map (·.1) =
      if layout.kind = .clustered ∧ leaf = true then hidden else [] := by
  obtain ⟨kind, keys, rows⟩ := layout
  cases kind <;> cases leaf <;> simp [stored, List.filter_map, Function.comp_def]

/-- The other columns are missing only above the leaves of a clustered index. -/
theorem stored_row :
    ((layout.stored leaf).filter (·.2 = .row)).map (·.1) =
      if layout.kind = .clustered ∧ leaf = false then [] else layout.rows := by
  obtain ⟨kind, keys, rows⟩ := layout
  cases kind <;> cases leaf <;> simp [stored, List.filter_map, Function.comp_def]

theorem map_name_columns :
    (layout.columns leaf).map (·.name) = (layout.stored leaf).map (·.1.name) := by
  rw [← map_columns, List.map_map]
  rfl

/-- Above the leaves there are no columns that the leaves do not have. -/
theorem nodup_names {layout : Layout} (h : ((layout.columns true).map (·.name)).Nodup)
    (leaf : Bool) : ((layout.columns leaf).map (·.name)).Nodup := by
  rw [map_name_columns] at h ⊢
  obtain ⟨kind, keys, rows⟩ := layout
  cases kind <;> cases leaf
  · -- the key alone
    simp only [stored, List.append_assoc, List.map_append] at h ⊢
    exact (List.nodup_append.1 h).1
  all_goals exact h

theorem inPlace_columns : InPlace (layout.columns leaf) := fun _ _ => getElem?_columns_position

end Layout

/-! ## Records on nodes -/

/-- The node has the record at `origin`. The kind of a redundant record is not in its header: its
place says that it is no sentinel, and the level of the node whether it has a child. -/
structure Node.Stores (node : Node) (layout : Layout) (origin : Nat) (record : StoredRecord) :
    Prop where
  /-- The record is in the format of the node. -/
  format_eq : record.form.format = node.format
  /-- The record has a written form. -/
  writable : record.Writable (layout.columns node.isLeaf)
  /-- The origin lies on the page. -/
  origin_lt : origin < node.page.size
  /-- The header stands before the origin. -/
  header : node.page.HoldsBefore origin (record.headerBytes (layout.columns node.isLeaf))
  /-- The data begins at the origin. -/
  data : node.page.Holds origin record.dataBytes
  /-- A redundant record does not stand where the sentinels do. -/
  place : node.format = .redundant →
    origin ≠ RowFormat.redundant.infimum ∧ origin ≠ RowFormat.redundant.supremum
  /-- A redundant record has a child above the leaves only. -/
  child : node.format = .redundant → record.child.isSome = !node.isLeaf

/-- Whether a page has a record can be computed. -/
instance (node : Node) (layout : Layout) (origin : Nat) (record : StoredRecord) :
    Decidable (node.Stores layout origin record) :=
  decidable_of_iff (record.form.format = node.format ∧
      record.Writable (layout.columns node.isLeaf) ∧ origin < node.page.size ∧
      node.page.HoldsBefore origin (record.headerBytes (layout.columns node.isLeaf)) ∧
      node.page.Holds origin record.dataBytes ∧
      (node.format = .redundant →
        origin ≠ RowFormat.redundant.infimum ∧ origin ≠ RowFormat.redundant.supremum) ∧
      (node.format = .redundant → record.child.isSome = !node.isLeaf))
    ⟨fun ⟨hformat, hwritable, horigin, hheader, hdata, hplace, hchild⟩ =>
      ⟨hformat, hwritable, horigin, hheader, hdata, hplace, hchild⟩,
    fun h => ⟨h.format_eq, h.writable, h.origin_lt, h.header, h.data, h.place, h.child⟩⟩

namespace Node

variable {node : Node} {layout : Layout} {origin : Nat} {record : StoredRecord}

theorem isLeaf_iff : node.isLeaf = true ↔ node.level = 0 := beq_iff_eq

theorem Stores.kind_eq (hstores : node.Stores layout origin record)
    (hformat : record.form.format = .redundant) :
    Redundant.kind node.page origin = .ok record.kind := by
  rw [hstores.format_eq] at hformat
  obtain ⟨hinfimum, hsupremum⟩ := hstores.place hformat
  have hchild := hstores.child hformat
  have hfits := node.headerFits
  have hlevel : node.page.uint Redundant.levelOffset 2 = .ok node.level :=
    Page.uint_eq_ok (Nat.le_trans (by decide) hfits)
  rw [Redundant.kind_of_level hinfimum hsupremum hlevel, StoredRecord.kind, hchild]
  by_cases hzero : node.level = 0
  · simp [isLeaf_iff.2 hzero, hzero]
  · have hleaf : node.isLeaf = false := by
      rw [← Bool.not_eq_true, isLeaf_iff]
      exact hzero
    simp [hleaf, Nat.pos_of_ne_zero hzero]

/-- A node reads the record that it has. -/
theorem recordAt_of_stores (hlayout : node.layout = some layout)
    (hnames : ((layout.columns node.isLeaf).map (·.name)).Nodup)
    (hstores : node.Stores layout origin record) :
    node.recordAt origin = .ok (record.decoded (layout.columns node.isLeaf) origin) := by
  have hcolumns : node.columns = some (layout.columns node.isLeaf) := by rw [columns, hlayout]; rfl
  have hpage : node.page.Stores (layout.columns node.isLeaf) origin record :=
    ⟨hstores.origin_lt, hstores.header, hstores.data, hstores.kind_eq⟩
  rw [recordAt, hcolumns, ← hstores.format_eq]
  have hplaces := layout.inPlace_columns node.isLeaf
  exact StoredRecord.read_of_stores hnames hplaces hstores.writable hpage

end Node

/-- The page with a record whose header ends, and whose data begins, at `origin`. -/
def Page.writeRecord (page : Page) (columns : List Column) (origin : Nat) (record : StoredRecord) :
    Page :=
  page.write (origin - (record.headerBytes columns).length)
    (record.headerBytes columns ++ record.dataBytes)

theorem Page.holds_writeRecord {page : Page} {columns : List Column} {origin : Nat}
    {record : StoredRecord} (hheader : (record.headerBytes columns).length ≤ origin)
    (hdata : origin + record.dataBytes.length ≤ page.size) :
    (page.writeRecord columns origin record).HoldsBefore origin (record.headerBytes columns) ∧
      (page.writeRecord columns origin record).Holds origin record.dataBytes := by
  have hfits : origin - (record.headerBytes columns).length +
      (record.headerBytes columns ++ record.dataBytes).length ≤ page.size := by
    rw [List.length_append]
    omega
  obtain ⟨hbefore, hfrom⟩ := Page.holds_append.1 (Page.holds_write hfits)
  rw [Nat.sub_add_cancel hheader] at hfrom
  exact ⟨⟨hheader, hbefore⟩, hfrom⟩

/-- A page that says it belongs to an index and is long enough to is a node. -/
theorem Node.ofPage_eq_ok {page : Page} (layout : Option Layout) (hkind : page.kind = .index)
    (hfits : IndexHeader.extent ≤ page.size) :
    Node.ofPage page layout = .ok ⟨page, layout, hkind, hfits⟩ := by
  rw [Node.ofPage, dif_pos hkind, dif_pos hfits]

theorem Node.page_of_ofPage {page : Page} {layout : Option Layout} {node : Node}
    (h : Node.ofPage page layout = .ok node) : node.page = page ∧ node.layout = layout := by
  unfold Node.ofPage at h
  split at h
  · split at h
    · cases h
      exact ⟨rfl, rfl⟩
    · cases h
  · cases h

/-- A record that was written onto a page of an index, in the format of the page, is read back
whole. The columns come in the order of the layout, by role, with the values that the stored bytes
decode to. A value that is stored elsewhere is decoded up to the reference at its end, and the field
has the numbers of the reference, with the lowest thirty bits of its length. -/
theorem read_written_record (page : Page) {layout : Layout} {leaf : Bool} {record : StoredRecord}
    {origin : Nat} {node : Node} (hnames : ((layout.columns leaf).map (·.name)).Nodup)
    (hwritable : record.Writable (layout.columns leaf))
    (hheader : (record.headerBytes (layout.columns leaf)).length ≤ origin)
    (hdata : origin + record.dataBytes.length ≤ page.size) (horigin : origin < page.size)
    (hnode : Node.ofPage (page.writeRecord (layout.columns leaf) origin record) (some layout) =
      .ok node)
    (hformat : record.form.format = node.format) (hleaf : node.isLeaf = leaf)
    (hplace : node.format = .redundant →
      origin ≠ RowFormat.redundant.infimum ∧ origin ≠ RowFormat.redundant.supremum)
    (hchild : node.format = .redundant → record.child.isSome = !leaf) :
    ∃ result, node.recordAt origin = .ok result ∧
      result.header = record.header (layout.columns leaf) origin ∧
      result.fields.map (·.column) = layout.columns leaf ∧
      (∀ (i : Nat) (column : Column) (stored : StoredField),
        (layout.columns leaf)[i]? = some column → record.row[i]? = some stored →
        ∃ field, result.fields[i]? = some field ∧ field.column = column ∧
          (stored.null = true → field.value = .null ∧ field.external = none) ∧
          (stored.null = false → stored.external = false →
            field.value = .decode column.type stored.bytes ∧ field.external = none) ∧
          (stored.null = false → stored.external = true →
            ∃ before reference, stored.bytes = before ++ StoredReference.bytes reference ∧
              field.value = .decode column.type before ∧
              field.external = some {
                space := reference.space
                page := reference.page
                offset := reference.offset
                length := reference.length % 2 ^ 30 })) ∧
      (result.withRole .key).map (·.column.toColumnSpec) = layout.keys ∧
      (result.withRole .system).map (·.column.toColumnSpec) =
        (if layout.kind = .clustered ∧ leaf = true then Layout.hidden else []) ∧
      (result.withRole .row).map (·.column.toColumnSpec) =
        (if layout.kind = .clustered ∧ leaf = false then [] else layout.rows) ∧
      result.child = record.child.map (·.val) := by
  subst hleaf
  obtain ⟨hpage, hlayout⟩ := Node.page_of_ofPage hnode
  obtain ⟨hbefore, hfrom⟩ := Page.holds_writeRecord hheader hdata
  have hstores : node.Stores layout origin record :=
    { format_eq := hformat
      writable := hwritable
      origin_lt := by rwa [hpage, Page.writeRecord, Page.size_write]
      header := by rwa [hpage]
      data := by rwa [hpage]
      place := hplace
      child := hchild }
  have hcolumns : (record.fields (layout.columns node.isLeaf)).map (·.column) =
      layout.columns node.isLeaf := StoredRecord.map_column_fields hwritable.length_eq
  have hroles (role : ColumnRole) :
      ((record.decoded (layout.columns node.isLeaf) origin).withRole role).map
          (·.column.toColumnSpec) =
        ((layout.stored node.isLeaf).filter (·.2 = role)).map (·.1) := by
    rw [← Layout.columns_withRole]
    conv_rhs => rw [← hcolumns, List.filter_map, List.map_map]
    rfl
  refine ⟨_, Node.recordAt_of_stores hlayout hnames hstores, rfl, hcolumns, ?_, ?_, ?_, ?_, rfl⟩
  · intro i column stored hcolumn hstored
    refine ⟨stored.field column, ?_, rfl, ?_, ?_, ?_⟩
    · simp [StoredRecord.decoded, StoredRecord.fields, List.getElem?_zipWith, hcolumn, hstored]
    · intro hnull
      simp [StoredField.field, hnull]
    · intro hnull hinline
      simp [StoredField.field, StoredField.inlineBytes, hnull, hinline]
    · intro hnull hexternal
      exact StoredField.exists_reference (hwritable.hasRoom stored (List.mem_of_getElem? hstored))
        column hnull hexternal
  · rw [hroles, Layout.stored_key]
  · rw [hroles, Layout.stored_system]
  · rw [hroles, Layout.stored_row]

/-- A page of 256 bytes above the leaves of an index with redundant records. -/
def innerPage : Page where
  number := 9
  bytes := ⟨⟨List.replicate 24 0 ++ [69, 191] ++ List.replicate 38 0 ++ [0, 1] ++
    List.replicate 190 0⟩⟩
  headerFits := by decide +kernel

/-- A record above the leaves: a number, a NULL that takes up bytes, a value of which two bytes
are stored here, and the child. The length in the reference has its highest bit set. -/
theorem read_written_record_innerPage :
    let layout : Layout := {
      kind := .secondary
      keys := [{ name := "id", type := .integer 4 true }]
      rows := [{ name := "note", type := .varChar 20, nullable := true },
        { name := "body", type := .blob }] }
    let record : StoredRecord := {
      form := .redundant 2
      mark := ⟨1, 0, 2, 116⟩
      row := [{ bytes := [0, 0, 0, 7] }, { bytes := [32, 32], null := true },
        { bytes := [104, 105] ++
            [0, 0, 0, 5, 0, 0, 1, 0, 0, 0, 0, 38, 128, 0, 0, 0, 192, 0, 2, 1],
          external := true }]
      child := some 300 }
    let written := innerPage.writeRecord (layout.columns false) 160 record
    ∃ node result, Node.ofPage written (some layout) = .ok node ∧
      node.recordAt 160 = .ok result ∧
      result.fields[2]?.map (·.value) = some (.decode .blob [104, 105]) ∧
      result.fields[2]?.map (·.external) =
        some (some { space := 5, page := 256, offset := 38, length := 513 }) ∧
      result.child = some 300 := by
  intro layout record written
  have hkind : written.kind = .index := by decide +kernel
  have hsize : IndexHeader.extent ≤ written.size := by decide +kernel
  have hnode : Node.ofPage written (some layout) = .ok ⟨written, some layout, hkind, hsize⟩ := by
    rw [Node.ofPage, dif_pos hkind, dif_pos hsize]
  have hwritable : record.Writable (layout.columns false) :=
    ⟨by decide, ⟨by decide, .two (by decide +kernel)⟩, by decide +kernel⟩
  have hformat : (IndexHeader.ofBytes written.bytes).format = .redundant := by decide +kernel
  have hleaf : (IndexHeader.ofBytes written.bytes).isLeaf = false := by decide +kernel
  obtain ⟨result, hread, -, -, hfields, -, -, -, hchild⟩ :=
    read_written_record innerPage (by decide +kernel) hwritable (by decide +kernel)
      (by decide +kernel) (by decide +kernel) hnode hformat.symm hleaf (fun _ => by decide)
      (fun _ => rfl)
  obtain ⟨field, hfield, -, -, -, hexternal⟩ := hfields 2 _ _ rfl rfl
  obtain ⟨before, reference, hbytes, hvalue, hreference⟩ := hexternal rfl rfl
  obtain ⟨hbefore, hend⟩ := List.append_inj' hbytes (by
    rw [reference.length_bytes]
    rfl)
  rw [← reference.ofBytes_bytes, ← hend] at hreference
  rw [← hbefore] at hvalue
  refine ⟨_, result, hnode, hread, ?_, ?_, hchild⟩
  · rw [hfield, Option.map_some, hvalue]
  · rw [hfield, Option.map_some, hreference]
    rfl

end Tablespace
