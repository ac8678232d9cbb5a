import Mathlib.Data.List.Forall2
import Mathlib.Data.Nat.Init
import Tablespace.Proofs.PageContents
import Tablespace.Record.Compact
import Tablespace.Record.Redundant

/-!
# Written headers

The bytes of record headers in both formats, written out from what the header is to say. A compact
header is listed downward: from the fixed part to the bitmap and on to the lengths. A redundant
header has the end of its first field next to the fixed part and the end of its last field at the
lowest offset.

Not every extent has a written form. `Compact.Admits` says what a compact header can say of a
column, and `Redundant.Fits` which fields a table of one or two bytes an entry has room for.
-/

namespace Tablespace

/-- What the fixed part of a header says, each number within its bits. -/
structure HeaderMark where
  /-- The info flags. -/
  flags : Fin (2 ^ 4)
  /-- The number of records that the directory reaches through this one. -/
  owned : Fin (2 ^ 4)
  /-- The number of the record in the heap of the page. -/
  heapNumber : Fin (2 ^ 13)
  /-- The link: in a compact header the distance to the next record, in a redundant one the origin
  of the next record. -/
  link : Fin (2 ^ 16)
  deriving DecidableEq, Repr

/-- The byte of info flags and owned count. -/
def HeaderMark.info (mark : HeaderMark) : UInt8 := .ofNat (2 ^ 4 * mark.flags + mark.owned)

theorem HeaderMark.toNat_info (mark : HeaderMark) :
    mark.info.toNat = 2 ^ 4 * mark.flags + mark.owned := by
  have hflags := mark.flags.isLt
  have howned := mark.owned.isLt
  rw [HeaderMark.info, UInt8.toNat_ofNat']
  omega

/-- The lowest three bits of the status of a compact record. -/
def RecordKind.code : RecordKind → Nat
  | conventional => 0
  | nodePointer => 1
  | infimum => 2
  | supremum => 3

/-- In both formats the fixed part is the byte of flags and owned count, a number of some bytes and
the link, and each is read where it was written. -/
theorem reads_of_parts {page : Page} {origin width n : Nat} {mark : HeaderMark}
    (h : page.HoldsBefore origin
      ([mark.info] ++ toBigEndian width n ++ toBigEndian 2 mark.link)) (hn : n < 256 ^ width) :
    page.byte (origin - (width + 3)) = .ok (2 ^ 4 * mark.flags + mark.owned) ∧
      page.uint (origin - (width + 2)) width = .ok n ∧
      page.uint (origin - 2) 2 = .ok mark.link := by
  have hlink := mark.link.isLt
  obtain ⟨hinner, houter⟩ := Page.holdsBefore_append.1 h
  obtain ⟨hnumber, hinfo⟩ := Page.holdsBefore_append.1 houter
  rw [length_toBigEndian] at hnumber hinfo
  rw [length_toBigEndian] at hinfo
  have hlinkAt := hinner.2
  have hnumberAt := hnumber.2
  have hinfoAt := hinfo.2
  rw [length_toBigEndian] at hlinkAt hnumberAt
  rw [List.length_singleton, show origin - 2 - width - 1 = origin - (width + 3) by omega] at hinfoAt
  rw [show origin - 2 - width = origin - (width + 2) by omega] at hnumberAt
  refine ⟨?_, hnumberAt.uint_toBigEndian hn, hlinkAt.uint_toBigEndian (by omega)⟩
  rw [hinfoAt.byte, mark.toNat_info]

/-! ## Extents by column -/

theorem nodup_named {columns : List Column} {extents : List Extent}
    (hnames : (columns.map (·.name)).Nodup) (hlength : columns.length = extents.length) :
    (((columns.map (·.name)).zip extents).map Prod.fst).Nodup := by
  have hle : (columns.map (·.name)).length ≤ extents.length := by
    rw [List.length_map]
    exact Nat.le_of_eq hlength
  rwa [List.map_fst_zip hle]

/-- Every column finds the extent in its own place. -/
theorem get?_named {columns : List Column} {extents : List Extent}
    (hnames : (columns.map (·.name)).Nodup) (hlength : columns.length = extents.length)
    {column : Column} {extent : Extent} (hmem : (column, extent) ∈ columns.zip extents) :
    NameTable.get? ((columns.map (·.name)).zip extents) column.name = some extent := by
  refine NameTable.get?_of_mem (nodup_named hnames hlength) ?_
  rw [List.zip_map_left]
  exact List.mem_map.2 ⟨_, hmem, rfl⟩

/-! ## Compact headers -/

namespace Compact

/-- What a compact header can say of a column. -/
inductive Admits (column : Column) : Extent → Prop where
  /-- Only a nullable column is NULL, and then it has no bytes. -/
  | null (hnullable : column.nullable = true) : Admits column { length := 0, null := true }
  /-- A column of fixed width has just so many bytes. -/
  | fixed {width : Nat} (hwidth : column.type.fixedWidth = some width) :
      Admits column { length := width }
  /-- A length of one byte. -/
  | short {length : Nat} (hvariable : column.type.fixedWidth = none)
      (hshort : column.type.allowsLongLength = false) (hlength : length < 2 ^ 8) :
      Admits column { length }
  /-- A length that may take two bytes, of which fourteen bits count. -/
  | long {length : Nat} {external : Bool} (hlong : column.type.allowsLongLength = true)
      (hlength : length < 2 ^ 14) : Admits column { length, external }

theorem admits_iff {column : Column} {extent : Extent} :
    Admits column extent ↔
      column.nullable = true ∧ extent = { length := 0, null := true } ∨
        extent.null = false ∧
          (column.type.fixedWidth = some extent.length ∧ extent.external = false ∨
            column.type.fixedWidth = none ∧ column.type.allowsLongLength = false ∧
              extent.length < 2 ^ 8 ∧ extent.external = false ∨
            column.type.allowsLongLength = true ∧ extent.length < 2 ^ 14) := by
  constructor
  · rintro (hnullable | hwidth | ⟨hvariable, hshort, hlength⟩ | ⟨hlong, hlength⟩)
    · exact .inl ⟨hnullable, rfl⟩
    · exact .inr ⟨rfl, .inl ⟨hwidth, rfl⟩⟩
    · exact .inr ⟨rfl, .inr (.inl ⟨hvariable, hshort, hlength, rfl⟩)⟩
    · exact .inr ⟨rfl, .inr (.inr ⟨hlong, hlength⟩)⟩
  · obtain ⟨length, null, external⟩ := extent
    rintro (⟨hnullable, hextent⟩ | ⟨hnull, ⟨hwidth, hinline⟩ |
      ⟨hvariable, hshort, hlength, hinline⟩ | ⟨hlong, hlength⟩⟩)
    · rw [hextent]
      exact .null hnullable
    · cases hnull
      cases hinline
      exact .fixed hwidth
    · cases hnull
      cases hinline
      exact .short hvariable hshort hlength
    · cases hnull
      exact .long hlong hlength

instance (column : Column) : DecidablePred (Admits column) :=
  fun _ => decidable_of_iff _ admits_iff.symm

/-- The NULL marks of the columns that may be NULL. -/
def nullMarks (columns : List Column) (extents : List Extent) : List Bool :=
  ((columns.zip extents).filter (·.1.nullable)).map (·.2.null)

/-- The bitmap of NULL marks, downward: eight marks a byte, the first at the lowest bit. -/
def bitmap (marks : List Bool) : List UInt8 :=
  (List.range ((marks.length + 7) / 8)).map fun k =>
    .ofNat (Nat.ofBits fun j : Fin 8 => marks.getD (8 * k + j) false)

/-- The bytes of the length of a column, downward. There are none for a NULL and for a column of
fixed width. -/
def lengthBytes (column : Column) (extent : Extent) : List UInt8 :=
  if extent.null || column.type.fixedWidth.isSome then []
  else if column.type.allowsLongLength && (extent.external || decide (127 < extent.length)) then
    [.ofNat (2 ^ 7 + (if extent.external then 2 ^ 6 else 0) + extent.length / 2 ^ 8),
      .ofNat (extent.length % 2 ^ 8)]
  else [.ofNat extent.length]

/-- The lengths of all columns, downward. -/
def lengthTable (columns : List Column) (extents : List Extent) : List UInt8 :=
  (columns.zip extents).flatMap fun e => lengthBytes e.1 e.2

/-- The fixed part of a header. -/
def fixedPart (kind : RecordKind) (mark : HeaderMark) : List UInt8 :=
  [mark.info] ++ toBigEndian 2 (2 ^ 3 * mark.heapNumber + kind.code) ++ toBigEndian 2 mark.link

/-- The bytes of a header, which end at the origin of the record. -/
def headerBytes (columns : List Column) (extents : List Extent) (kind : RecordKind)
    (mark : HeaderMark) : List UInt8 :=
  (lengthTable columns extents).reverse ++ (bitmap (nullMarks columns extents)).reverse ++
    fixedPart kind mark

/-- What the header says, read at the origin of its record. -/
def headerOf (columns : List Column) (extents : List Extent) (kind : RecordKind)
    (mark : HeaderMark) (origin : Nat) : RecordHeader where
  origin
  format := .compact
  next := target origin mark.link
  kind
  heapNumber := mark.heapNumber
  owned := mark.owned
  flags := 2 ^ 4 * mark.flags
  ends := none
  fields := (columns.map (·.name)).zip extents
  length := 5 + bitmapSize columns + (lengthTable columns extents).length

@[simp]
theorem length_bitmap (marks : List Bool) : (bitmap marks).length = (marks.length + 7) / 8 := by
  simp [bitmap]

@[simp]
theorem length_fixedPart (kind : RecordKind) (mark : HeaderMark) :
    (fixedPart kind mark).length = 5 := by
  simp [fixedPart]

@[simp]
theorem lengthTable_cons (column : Column) (columns : List Column) (extent : Extent)
    (extents : List Extent) :
    lengthTable (column :: columns) (extent :: extents) =
      lengthBytes column extent ++ lengthTable columns extents := by
  simp [lengthTable]

theorem nullMarks_cons (column : Column) (columns : List Column) (extent : Extent)
    (extents : List Extent) :
    nullMarks (column :: columns) (extent :: extents) =
      if column.nullable then extent.null :: nullMarks columns extents
      else nullMarks columns extents := by
  by_cases h : column.nullable = true <;> simp [nullMarks, h]

/-- The bitmap has a mark for every column that may be NULL. -/
theorem length_nullMarks {columns : List Column} {extents : List Extent}
    (h : List.Forall₂ Admits columns extents) :
    (nullMarks columns extents).length = columns.countP (·.nullable) := by
  induction h with
  | nil => rfl
  | @cons column extent columns extents _ _ ih =>
    rw [nullMarks_cons, List.countP_cons]
    by_cases hnullable : column.nullable = true
    · rw [if_pos hnullable, if_pos hnullable, List.length_cons, ih]
    · rw [if_neg hnullable, if_neg hnullable, ih, Nat.add_zero]

theorem length_headerBytes {columns : List Column} {extents : List Extent}
    (h : List.Forall₂ Admits columns extents) (kind : RecordKind) (mark : HeaderMark) :
    (headerBytes columns extents kind mark).length =
      5 + bitmapSize columns + (lengthTable columns extents).length := by
  simp only [headerBytes, List.length_append, List.length_reverse, length_bitmap,
    length_nullMarks h, length_fixedPart, bitmapSize]
  omega

end Compact

/-! ## Redundant headers -/

namespace Redundant

/-- The number of bytes of fields together. -/
def total (extents : List Extent) : Nat := (extents.map (·.length)).sum

/-- The width of table entries is enough for fields the first of which begins at `start`. -/
inductive Fits : (width start : Nat) → List Extent → Prop where
  /-- An entry of one byte has seven bits for the end and a NULL mark. -/
  | one {start : Nat} {extents : List Extent} (hend : start + total extents < 2 ^ 7)
      (hinline : ∀ e ∈ extents, e.external = false) : Fits 1 start extents
  /-- An entry of two bytes has fourteen bits for the end and both marks. -/
  | two {start : Nat} {extents : List Extent} (hend : start + total extents < 2 ^ 14) :
      Fits 2 start extents

theorem fits_iff {width start : Nat} {extents : List Extent} :
    Fits width start extents ↔
      width = 1 ∧ start + total extents < 2 ^ 7 ∧ (∀ e ∈ extents, e.external = false) ∨
        width = 2 ∧ start + total extents < 2 ^ 14 := by
  constructor
  · rintro (⟨hend, hinline⟩ | hend)
    · exact .inl ⟨rfl, hend, hinline⟩
    · exact .inr ⟨rfl, hend⟩
  · rintro (⟨rfl, hend, hinline⟩ | ⟨rfl, hend⟩)
    · exact .one hend hinline
    · exact .two hend

instance (width start : Nat) (extents : List Extent) : Decidable (Fits width start extents) :=
  decidable_of_iff _ fits_iff.symm

/-- The entry for a field that ends at `fieldEnd`. -/
def entryNumber (width fieldEnd : Nat) (extent : Extent) : Nat :=
  if width = 1 then fieldEnd + if extent.null then 2 ^ 7 else 0
  else fieldEnd + (if extent.null then 2 ^ 15 else 0) + if extent.external then 2 ^ 14 else 0

/-- The table of fields the first of which begins at `start`, counted from the origin. -/
def endTable (width : Nat) : (start : Nat) → List Extent → List UInt8
  | _, [] => []
  | start, extent :: extents =>
    let fieldEnd := start + extent.length
    endTable width fieldEnd extents ++ toBigEndian width (entryNumber width fieldEnd extent)

/-- The fixed part of a header. -/
def fixedPart (ends : EndTable) (mark : HeaderMark) : List UInt8 :=
  [mark.info] ++
    toBigEndian 3 (2 ^ 11 * mark.heapNumber + 2 * ends.count + if ends.width = 1 then 1 else 0) ++
    toBigEndian 2 mark.link

/-- The bytes of a header, which end at the origin of the record. -/
def headerBytes (width : Nat) (extents : List Extent) (mark : HeaderMark) : List UInt8 :=
  endTable width 0 extents ++ fixedPart ⟨extents.length, width⟩ mark

/-- What the header says, read at the origin of its record. -/
def headerOf (columns : List Column) (width : Nat) (extents : List Extent) (kind : RecordKind)
    (mark : HeaderMark) (origin : Nat) : RecordHeader where
  origin
  format := .redundant
  next := mark.link
  kind
  heapNumber := mark.heapNumber
  owned := mark.owned
  flags := 2 ^ 4 * mark.flags
  ends := some ⟨extents.length, width⟩
  fields := columns.map fun column => (column.name, extents.getD column.position default)
  length := 6 + extents.length * width

@[simp]
theorem total_cons (extent : Extent) (extents : List Extent) :
    total (extent :: extents) = extent.length + total extents := by
  simp [total]

@[simp]
theorem length_fixedPart (ends : EndTable) (mark : HeaderMark) :
    (fixedPart ends mark).length = 6 := by
  simp [fixedPart]

@[simp]
theorem length_endTable (width start : Nat) (extents : List Extent) :
    (endTable width start extents).length = extents.length * width := by
  induction extents generalizing start with
  | nil => simp [endTable]
  | cons extent extents ih =>
    rw [endTable, List.length_append, ih, length_toBigEndian, List.length_cons, Nat.succ_mul]

theorem length_headerBytes (width : Nat) (extents : List Extent) (mark : HeaderMark) :
    (headerBytes width extents mark).length = 6 + extents.length * width := by
  rw [headerBytes, List.length_append, length_endTable, length_fixedPart, Nat.add_comm]

end Redundant

end Tablespace
