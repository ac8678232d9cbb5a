import Tablespace.Index.Node
import Tablespace.Proofs.CompactHeader
import Tablespace.Proofs.RedundantHeader

/-!
# Records are read as they were stored

A stored record is a header and the bytes of its columns one after another, after which a record
that points to a lower page has the number of that page. Header and columns are read by different
functions: the header says how long each column is, and the columns are taken from the data in turn.
`Page.Stores` is what a page must hold for both to agree, and `StoredRecord.read_of_stores` says
that the record is then read as it was stored, whichever format it is in.

A value that is stored elsewhere ends with a reference, which is a `StoredReference`: any twenty
bytes are one, and `ofBytes_bytes` says what is read of it.
-/

namespace Tablespace

/-! ## Stored references -/

/-- A reference as it is stored: four numbers, the last of them in eight bytes. -/
structure StoredReference where
  /-- The space. -/
  space : Fin (2 ^ 32)
  /-- The first page. -/
  page : Fin (2 ^ 32)
  /-- The offset on that page. -/
  offset : Fin (2 ^ 32)
  /-- The number of bytes stored there, below two bits and a word that have other uses. -/
  length : Fin (2 ^ 64)
  deriving DecidableEq, Repr

namespace StoredReference

/-- The twenty bytes of the reference. -/
def bytes (stored : StoredReference) : List UInt8 :=
  toBigEndian 4 stored.space ++ toBigEndian 4 stored.page ++ toBigEndian 4 stored.offset ++
    toBigEndian 8 stored.length

@[simp]
theorem length_bytes (stored : StoredReference) : stored.bytes.length = 20 := by
  simp [bytes]

/-- Any twenty bytes are those of a reference. -/
theorem exists_bytes_eq {bytes : List UInt8} (h : bytes.length = 20) :
    ∃ stored : StoredReference, stored.bytes = bytes := by
  have hlength (start width : Nat) (hfits : start + width ≤ 20) :
      ((bytes.drop start).take width).length = width := by
    rw [List.length_take, List.length_drop]
    omega
  have hlt (start width : Nat) (hfits : start + width ≤ 20) :
      bigEndian ((bytes.drop start).take width) < 256 ^ width := by
    have hbound := bigEndian_lt ((bytes.drop start).take width)
    rwa [hlength start width hfits] at hbound
  refine ⟨⟨⟨_, hlt 0 4 (by decide)⟩, ⟨_, hlt 4 4 (by decide)⟩, ⟨_, hlt 8 4 (by decide)⟩,
    ⟨_, hlt 12 8 (by decide)⟩⟩, ?_⟩
  rw [StoredReference.bytes, toBigEndian_bigEndian (hlength 0 4 (by decide)),
    toBigEndian_bigEndian (hlength 4 4 (by decide)),
    toBigEndian_bigEndian (hlength 8 4 (by decide)),
    toBigEndian_bigEndian (hlength 12 8 (by decide)), List.drop_zero, ← List.take_add,
    ← List.take_add, ← List.take_add, List.take_of_length_le (Nat.le_of_eq h)]

/-- A stored reference is read number by number; of the length thirty bits count. -/
theorem ofBytes_bytes (stored : StoredReference) :
    ExternalReference.ofBytes stored.bytes =
      { space := stored.space
        page := stored.page
        offset := stored.offset
        length := stored.length % 2 ^ 30 } := by
  have hspace := stored.space.isLt
  have hpage := stored.page.isLt
  have hoffset := stored.offset.isLt
  -- the lower four of the eight bytes have all the bits of the length that count
  have hlow : toBigEndian 8 stored.length =
      toBigEndian 4 (stored.length / 256 ^ 4) ++ toBigEndian 4 stored.length :=
    toBigEndian_add 4 4 _
  have hpageAt : stored.bytes.drop 4 = toBigEndian 4 stored.page ++
      (toBigEndian 4 stored.offset ++ toBigEndian 8 stored.length) := by
    rw [bytes, List.append_assoc, List.append_assoc, List.drop_left' (length_toBigEndian 4 _)]
  have hoffsetAt : stored.bytes.drop 8 =
      toBigEndian 4 stored.offset ++ toBigEndian 8 stored.length := by
    rw [bytes, List.append_assoc, List.drop_left' (by simp)]
  have hlengthAt : stored.bytes.drop 16 = toBigEndian 4 stored.length := by
    rw [bytes, hlow, ← List.append_assoc, List.drop_left' (by simp)]
  have hspaceAt : stored.bytes.take 4 = toBigEndian 4 stored.space := by
    rw [bytes, List.append_assoc, List.append_assoc, List.take_left' (length_toBigEndian 4 _)]
  rw [ExternalReference.ofBytes, hspaceAt, hpageAt, hoffsetAt, hlengthAt,
    List.take_left' (length_toBigEndian 4 _), List.take_left' (length_toBigEndian 4 _),
    List.take_of_length_le (Nat.le_of_eq (length_toBigEndian 4 _))]
  simp only [bigEndian_toBigEndian, ExternalReference.mk.injEq]
  omega

end StoredReference

/-! ## Stored columns -/

/-- What a record stores for one column. -/
structure StoredField where
  /-- The stored bytes; those of a NULL have no meaning. -/
  bytes : List UInt8
  /-- Whether there is no value. -/
  null : Bool := false
  /-- Whether the value is stored elsewhere and the bytes end with a reference. -/
  external : Bool := false
  deriving DecidableEq, Repr

namespace StoredField

/-- What the header says of the column. -/
def extent (stored : StoredField) : Extent where
  length := stored.bytes.length
  null := stored.null
  external := stored.external

/-- The bytes of the value that are stored here: all but a reference at the end. -/
def inlineBytes (stored : StoredField) : List UInt8 :=
  if stored.external then stored.bytes.take (stored.bytes.length - ExternalReference.size)
  else stored.bytes

/-- The field that the column is read as. -/
def field (stored : StoredField) (column : Column) : Field where
  column
  value := if stored.null then .null else .decode column.type stored.inlineBytes
  external :=
    if stored.external && !stored.null then
      some (.ofBytes (stored.bytes.drop (stored.bytes.length - ExternalReference.size)))
    else none

/-- A value that is stored elsewhere has room for the reference. -/
def HasRoom (stored : StoredField) : Prop :=
  stored.external = true → stored.null = false → ExternalReference.size ≤ stored.bytes.length

instance (stored : StoredField) : Decidable stored.HasRoom :=
  inferInstanceAs (Decidable (_ = true → _ = false → _ ≤ _))

variable {page : Page} {header : RecordHeader} {column : Column} {stored : StoredField}
  {offset : Nat}

/-- The bytes of a value that is stored elsewhere, and after them the reference. -/
theorem holds_parts (hdata : page.Holds offset stored.bytes)
    (hroom : ExternalReference.size ≤ stored.bytes.length) :
    page.read offset (stored.bytes.length - ExternalReference.size) =
        .ok (stored.bytes.take (stored.bytes.length - ExternalReference.size)) ∧
      page.read (offset + stored.bytes.length - ExternalReference.size) ExternalReference.size =
        .ok (stored.bytes.drop (stored.bytes.length - ExternalReference.size)) := by
  have hparts : page.Holds offset
      (stored.bytes.take (stored.bytes.length - ExternalReference.size) ++
        stored.bytes.drop (stored.bytes.length - ExternalReference.size)) := by
    rwa [List.take_append_drop]
  obtain ⟨hbefore, hreference⟩ := Page.holds_append.1 hparts
  have htake : (stored.bytes.take (stored.bytes.length - ExternalReference.size)).length =
      stored.bytes.length - ExternalReference.size := by
    rw [List.length_take]
    omega
  have hdrop : (stored.bytes.drop (stored.bytes.length - ExternalReference.size)).length =
      ExternalReference.size := by
    rw [List.length_drop]
    omega
  unfold Page.Holds at hbefore hreference
  rw [htake] at hbefore
  rw [htake, hdrop, ← Nat.add_sub_assoc hroom] at hreference
  exact ⟨hbefore, hreference⟩

/-- A value that is stored elsewhere ends with a reference, which is what the field refers to; only
the bytes before it are decoded. -/
theorem exists_reference (hroom : stored.HasRoom) (column : Column) (hvalue : stored.null = false)
    (helsewhere : stored.external = true) :
    ∃ before reference, stored.bytes = before ++ StoredReference.bytes reference ∧
      (stored.field column).value = .decode column.type before ∧
      (stored.field column).external = some {
        space := reference.space
        page := reference.page
        offset := reference.offset
        length := reference.length % 2 ^ 30 } := by
  have hlength : 20 ≤ stored.bytes.length := hroom helsewhere hvalue
  have hend : (stored.bytes.drop (stored.bytes.length - 20)).length = 20 := by
    rw [List.length_drop]
    omega
  obtain ⟨reference, hreference⟩ := StoredReference.exists_bytes_eq hend
  refine ⟨stored.bytes.take (stored.bytes.length - 20), reference, ?_, ?_, ?_⟩
  · rw [hreference, List.take_append_drop]
  · simp [field, inlineBytes, ExternalReference.size, hvalue, helsewhere]
  · rw [← StoredReference.ofBytes_bytes, hreference]
    simp [field, ExternalReference.size, hvalue, helsewhere]

/-- The value of a column is decoded from its bytes, and all of them are passed. -/
theorem value_of_holds (hextent : header.fields.get? column.name = some stored.extent)
    (hroom : stored.HasRoom) (hdata : page.Holds offset stored.bytes) :
    column.value page header offset =
      .ok ((stored.field column).value, stored.bytes.length) := by
  obtain ⟨bytes, null, external⟩ := stored
  rw [Column.value, hextent]
  cases null with
  | true => rfl
  | false =>
    cases external with
    | true =>
      have hlength := hroom rfl rfl
      have hparts := (holds_parts hdata hlength).1
      simp only at hlength hparts
      simp [extent, field, inlineBytes, hparts, Nat.not_lt.2 hlength]
    | false =>
      have hread : page.read offset bytes.length = .ok bytes := hdata
      simp [extent, field, inlineBytes, hread]

/-- The reference of a column is read from the end of its bytes. -/
theorem external_of_holds (hextent : header.fields.get? column.name = some stored.extent)
    (hroom : stored.HasRoom) (hdata : page.Holds offset stored.bytes) :
    column.external page header offset = .ok (stored.field column).external := by
  obtain ⟨bytes, null, external⟩ := stored
  rw [Column.external, hextent]
  cases external with
  | false => rfl
  | true =>
    cases null with
    | true => rfl
    | false =>
      have hlength := hroom rfl rfl
      have hparts := (holds_parts hdata hlength).2
      simp only at hlength hparts
      simp [extent, field, ExternalReference.read, hparts, hlength, Except.map]

/-- Columns whose bytes follow one another are read in turn, each from where the one before it
ended. -/
theorem readFields_of_holds {columns : List Column} {row : List StoredField}
    (hextents : List.Forall₂ (fun column stored =>
      header.fields.get? column.name = some stored.extent) columns row)
    (hroom : ∀ stored ∈ row, stored.HasRoom) (hdata : page.Holds offset (row.flatMap (·.bytes))) :
    readFields page header columns offset =
      .ok (List.zipWith (fun column stored => stored.field column) columns row,
        offset + (row.flatMap (·.bytes)).length) := by
  induction hextents generalizing offset with
  | nil => rfl
  | @cons column stored columns row hfirst hrest ih =>
    rw [List.flatMap_cons] at hdata
    obtain ⟨hbytes, hdata⟩ := Page.holds_append.1 hdata
    have hfirstRoom := hroom stored List.mem_cons_self
    have hrestRoom : ∀ stored ∈ row, stored.HasRoom := fun stored hstored =>
      hroom stored (List.mem_cons_of_mem _ hstored)
    rw [readFields, value_of_holds hfirst hfirstRoom hbytes, ok_bind]
    simp only
    rw [external_of_holds hfirst hfirstRoom hbytes, ok_bind, ih hrestRoom hdata, ok_bind]
    simp [field, Nat.add_assoc]

end StoredField

/-! ## Stored records -/

/-- How the header of a record is written. -/
inductive RecordForm where
  /-- As a compact header. -/
  | compact
  /-- As a redundant header with table entries of this width. -/
  | redundant (width : Nat)
  deriving DecidableEq, Repr

/-- The format of records that are written so. -/
def RecordForm.format : RecordForm → RowFormat
  | compact => .compact
  | redundant _ => .redundant

/-- A record to be stored. -/
structure StoredRecord where
  /-- How the header is written. -/
  form : RecordForm
  /-- The fixed part of the header. -/
  mark : HeaderMark
  /-- The columns. -/
  row : List StoredField
  /-- The page that the record points to. -/
  child : Option (Fin (2 ^ 32)) := none
  deriving DecidableEq, Repr

namespace StoredRecord

/-- What the header says of the columns. -/
def extents (record : StoredRecord) : List Extent := record.row.map (·.extent)

/-- A record that has a child points to it. -/
def kind (record : StoredRecord) : RecordKind :=
  if record.child.isSome then .nodePointer else .conventional

/-- The bytes before the origin. -/
def headerBytes (record : StoredRecord) (columns : List Column) : List UInt8 :=
  match record.form with
  | .compact => Compact.headerBytes columns record.extents record.kind record.mark
  | .redundant width => Redundant.headerBytes width record.extents record.mark

/-- The bytes from the origin on: the columns, and the number of the child. -/
def dataBytes (record : StoredRecord) : List UInt8 :=
  record.row.flatMap (·.bytes) ++ record.child.toList.flatMap fun child => toBigEndian 4 child.val

/-- What the header says, read at `origin`. -/
def header (record : StoredRecord) (columns : List Column) (origin : Nat) : RecordHeader :=
  match record.form with
  | .compact => Compact.headerOf columns record.extents record.kind record.mark origin
  | .redundant width =>
    Redundant.headerOf columns width record.extents record.kind record.mark origin

/-- The fields that the columns are read as. -/
def fields (record : StoredRecord) (columns : List Column) : List Field :=
  List.zipWith (fun column stored => stored.field column) columns record.row

/-- The record that is read at `origin`. -/
def decoded (record : StoredRecord) (columns : List Column) (origin : Nat) : Record where
  header := record.header columns origin
  fields := record.fields columns
  child := record.child.map (·.val)

/-- The record has a written form: one stored field a column, each of which the header can describe,
and a reference wherever a value is stored elsewhere. -/
structure Writable (record : StoredRecord) (columns : List Column) : Prop where
  /-- There is one stored field for each column. -/
  length_eq : columns.length = record.row.length
  /-- The header can say what the record stores. -/
  described : match record.form with
    | .compact => List.Forall₂ Compact.Admits columns record.extents
    | .redundant width => record.row.length ≤ 1023 ∧ Redundant.Fits width 0 record.extents
  /-- Values stored elsewhere have their references. -/
  hasRoom : ∀ stored ∈ record.row, stored.HasRoom

/-- Whether a record has a written form can be computed. -/
instance (record : StoredRecord) (columns : List Column) : Decidable (record.Writable columns) :=
  match record with
  | ⟨.compact, _, row, _⟩ =>
    decidable_of_iff (columns.length = row.length ∧
        List.Forall₂ Compact.Admits columns (row.map StoredField.extent) ∧
        ∀ stored ∈ row, stored.HasRoom)
      ⟨fun h => ⟨h.1, h.2.1, h.2.2⟩, fun h => ⟨h.length_eq, h.described, h.hasRoom⟩⟩
  | ⟨.redundant width, _, row, _⟩ =>
    decidable_of_iff (columns.length = row.length ∧
        (row.length ≤ 1023 ∧ Redundant.Fits width 0 (row.map StoredField.extent)) ∧
        ∀ stored ∈ row, stored.HasRoom)
      ⟨fun h => ⟨h.1, h.2.1, h.2.2⟩, fun h => ⟨h.length_eq, h.described, h.hasRoom⟩⟩

end StoredRecord

/-- Every column is where its position says. -/
def InPlace (columns : List Column) : Prop :=
  ∀ (i : Nat) (column : Column), columns[i]? = some column → column.position = i

/-- The page has the record at `origin`. The kind of a redundant record is not in its header: the
record is no sentinel, and it has a child just if the page is above the leaves. -/
structure Page.Stores (page : Page) (columns : List Column) (origin : Nat)
    (record : StoredRecord) : Prop where
  /-- The origin lies on the page. -/
  origin_lt : origin < page.size
  /-- The header stands before the origin. -/
  header : page.HoldsBefore origin (record.headerBytes columns)
  /-- The data begins at the origin. -/
  data : page.Holds origin record.dataBytes
  /-- Place and page agree with the kind of the record. -/
  kind : record.form.format = .redundant → Redundant.kind page origin = .ok record.kind

namespace StoredRecord

variable {page : Page} {columns : List Column} {origin : Nat} {record : StoredRecord}

theorem isSentinel_kind (record : StoredRecord) : record.kind.isSentinel = false := by
  unfold kind
  split <;> rfl

@[simp]
theorem kind_decoded (record : StoredRecord) (columns : List Column) (origin : Nat) :
    (record.decoded columns origin).kind = record.kind := by
  obtain ⟨form, mark, row, child⟩ := record
  cases form <;> rfl

@[simp]
theorem origin_decoded (record : StoredRecord) (columns : List Column) (origin : Nat) :
    (record.decoded columns origin).origin = origin := by
  obtain ⟨form, mark, row, child⟩ := record
  cases form <;> rfl

theorem map_column_fields (hlength : columns.length = record.row.length) :
    (record.fields columns).map (·.column) = columns := by
  have hfields : (record.fields columns).map (·.column) =
      (columns.zip record.row).map Prod.fst := by
    rw [fields, List.map_zipWith, List.map_zip_eq_zipWith]
    rfl
  rw [hfields, List.map_fst_zip (Nat.le_of_eq hlength)]

theorem length_headerBytes (hwritable : record.Writable columns) :
    (record.headerBytes columns).length = (record.header columns origin).length := by
  obtain ⟨form, mark, row, child⟩ := record
  cases form with
  | compact => exact Compact.length_headerBytes hwritable.described _ mark
  | redundant width => exact Redundant.length_headerBytes width _ mark

/-- The header is read as it was written, whatever the format. -/
theorem header_of_stores (hnames : (columns.map (·.name)).Nodup)
    (hplaces : InPlace columns)
    (hwritable : record.Writable columns) (hstores : page.Stores columns origin record) :
    RecordHeader.read page record.form.format (some columns) origin =
      .ok (record.header columns origin) := by
  have hlength : _ = (record.header columns origin).length := length_headerBytes hwritable
  have hroom := hstores.header.1
  have hlt := hstores.origin_lt
  have hsentinel := record.isSentinel_kind
  obtain ⟨form, mark, row, child⟩ := record
  cases form with
  | compact =>
    have hadmits : List.Forall₂ Compact.Admits columns _ := hwritable.described
    simp only [header, Compact.headerOf] at hlength
    show RecordHeader.read page .compact _ origin = _
    rw [RecordHeader.read, RowFormat.fixedSize, if_neg (by omega)]
    exact Compact.header_of_holdsBefore hnames hadmits hsentinel hstores.header
  | redundant width =>
    obtain ⟨hcount, hfits⟩ := hwritable.described
    have hkind := hstores.kind rfl
    simp only [header, Redundant.headerOf] at hlength
    have htable := (Page.holdsBefore_append.1 hstores.header).2
    rw [Redundant.length_fixedPart] at htable
    have hall : ∀ column ∈ columns, column.position < (row.map StoredField.extent).length := by
      intro column hcolumn
      obtain ⟨i, hi⟩ := List.mem_iff_getElem?.1 hcolumn
      rw [hplaces i column hi, List.length_map, ← hwritable.length_eq]
      exact (List.getElem?_eq_some_iff.1 hi).1
    have hbound : (row.map StoredField.extent).length < 2 ^ 10 := by
      rw [List.length_map]
      exact Nat.lt_succ_of_le hcount
    have hfields : Redundant.fields page origin ⟨(row.map StoredField.extent).length, width⟩
        columns = _ :=
      Redundant.fields_of_table (Redundant.table_of_holdsBefore hfits htable) hnames hall
    have hheader := Redundant.header_of_holdsBefore columns hbound hfits hkind hsentinel
      hstores.header
    show RecordHeader.read page .redundant _ origin = _
    rw [RecordHeader.read, RowFormat.fixedSize, if_neg (by omega)]
    show Redundant.header _ _ _ = _
    rw [hheader, hfields]
    rfl

/-- Every column finds in the header what the record stores for it. -/
theorem get?_header (hnames : (columns.map (·.name)).Nodup)
    (hplaces : InPlace columns)
    (hlength : columns.length = record.row.length) :
    List.Forall₂ (fun column stored =>
      (record.header columns origin).fields.get? column.name = some stored.extent)
      columns record.row := by
  refine List.forall₂_iff_zip.2 ⟨hlength, fun {column stored} hmem => ?_⟩
  obtain ⟨form, mark, row, child⟩ := record
  cases form with
  | compact =>
    have hextents : columns.length = (row.map StoredField.extent).length := by rwa [List.length_map]
    refine get?_named hnames hextents ?_
    rw [List.zip_map_right]
    exact List.mem_map.2 ⟨_, hmem, rfl⟩
  | redundant width =>
    obtain ⟨i, hi⟩ := List.mem_iff_getElem?.1 hmem
    obtain ⟨hcolumn, hstored⟩ := List.getElem?_zip_eq_some.1 hi
    have hposition := hplaces i column hcolumn
    have hlt : column.position < (row.map StoredField.extent).length := by
      rw [hposition, List.length_map]
      exact (List.getElem?_eq_some_iff.1 hstored).1
    have hextent : (row.map StoredField.extent)[column.position]? = some stored.extent := by
      rw [hposition, List.getElem?_map, hstored]
      rfl
    rw [← hextent]
    exact Redundant.get?_headerOf hnames (List.mem_of_getElem? hcolumn) hlt

/-- A record that a page has at `origin` is read there as it was stored. -/
theorem read_of_stores (hnames : (columns.map (·.name)).Nodup)
    (hplaces : InPlace columns)
    (hwritable : record.Writable columns) (hstores : page.Stores columns origin record) :
    Record.read page record.form.format (some columns) origin =
      .ok (record.decoded columns origin) := by
  obtain ⟨hrow, hchild⟩ := Page.holds_append.1 hstores.data
  have hextents : List.Forall₂ (fun column stored =>
      (record.header columns origin).fields.get? column.name = some stored.extent)
      columns record.row := get?_header hnames hplaces hwritable.length_eq
  have hfields := StoredField.readFields_of_holds hextents hwritable.hasRoom hrow
  have hkind : (record.header columns origin).kind = record.kind :=
    record.kind_decoded columns origin
  rw [Record.read, header_of_stores hnames hplaces hwritable hstores, ok_bind]
  simp only [hkind, record.isSentinel_kind, Bool.false_eq_true, if_false]
  rw [hfields, ok_bind]
  simp only
  cases hnone : record.child with
  | none =>
    have hconventional : record.kind ≠ .nodePointer := by simp [kind, hnone]
    rw [if_neg hconventional]
    simp [decoded, fields, hnone]
  | some child =>
    have hpointer : record.kind = .nodePointer := by simp [kind, hnone]
    have hnumber : page.Holds (origin + (record.row.flatMap (·.bytes)).length)
        (toBigEndian 4 child.val) := by simpa [hnone] using hchild
    have hlt := child.isLt
    rw [if_pos hpointer, hnumber.uint_toBigEndian (by omega)]
    simp [decoded, fields, hnone]

end StoredRecord

end Tablespace
