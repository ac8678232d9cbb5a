import Tablespace.Proofs.PageContents
import Tablespace.Proofs.RecordWriter
import Tablespace.Proofs.Steps
import Tablespace.Record.Decode

/-!
# Compact headers are read as they were written

The bitmap and the length table are two downward streams: a column that may be NULL takes the next
bit, and a column with a written length takes the next one or two bytes. The main step,
`extents_of_holdsBefore`, follows the columns with both places in hand, the index of the next bit
and the bottom of the bytes read so far; what is left of the streams is what was written for the
columns that are left.
-/

namespace Tablespace

variable {page : Page} {origin : Nat}

/-! ## The fixed part -/

/-- The heap number does not touch the three bits of the kind. -/
theorem RecordKind.ofStatus_code (n : Nat) (kind : RecordKind) :
    RecordKind.ofStatus (2 ^ 3 * n + kind.code) = kind := by
  have hmod : (2 ^ 3 * n + kind.code) % 8 = kind.code % 8 := by omega
  unfold RecordKind.ofStatus
  rw [hmod]
  cases kind <;> rfl

theorem RecordKind.code_lt (kind : RecordKind) : kind.code < 2 ^ 3 := by cases kind <;> decide

namespace Compact

/-! ## The bitmap -/

/-- The mark of the column with index `i` is the bit `i % 8` of the byte `i / 8`. -/
theorem testBit_bitmap {marks : List Bool} {i : Nat} {mark : Bool} (h : marks[i]? = some mark) :
    ∃ b, (bitmap marks)[i / 8]? = some b ∧ b.toNat.testBit (i % 8) = mark := by
  obtain ⟨hlt, hget⟩ := List.getElem?_eq_some_iff.1 h
  have hbyte : i / 8 < (marks.length + 7) / 8 := by omega
  have hindex : 8 * (i / 8) + i % 8 = i := by omega
  refine ⟨.ofNat (Nat.ofBits fun j : Fin 8 => marks.getD (8 * (i / 8) + j) false), ?_, ?_⟩
  · simp [bitmap, hbyte]
  · have hbits := Nat.ofBits_lt_two_pow fun j : Fin 8 => marks.getD (8 * (i / 8) + j) false
    have hwithin : i % 8 < 8 := Nat.mod_lt _ (by decide)
    rw [UInt8.toNat_ofNat', Nat.mod_eq_of_lt hbits, Nat.testBit_ofBits_lt _ _ hwithin]
    simp only [hindex]
    rw [List.getD_eq_getElem?_getD, h]
    rfl

theorem isNull_of_holdsBefore {marks : List Bool} {i : Nat} {mark : Bool}
    (h : page.HoldsBefore (origin - 5) (bitmap marks).reverse) (hi : marks[i]? = some mark) :
    isNull page origin i = .ok mark := by
  obtain ⟨b, hb, hbit⟩ := testBit_bitmap hi
  rw [isNull, h.byte_reverse hb, ok_bind, hbit]
  rfl

/-! ## The length table -/

theorem lengthByte_of_holdsBefore {b : UInt8} {bottom : Nat} (h : page.HoldsBefore bottom [b]) :
    lengthByte page origin bottom = .ok (b.toNat, bottom - 1) := by
  obtain ⟨hlength, hholds⟩ := h
  cases bottom with
  | zero => simp at hlength
  | succ bottom =>
    have hbyte : page.byte bottom = .ok b.toNat := hholds.byte
    rw [lengthByte, hbyte]
    rfl

/-- A length in one byte: the column has no longer lengths, or this one leaves the highest bit of
the byte free. -/
theorem variableExtent_one {type : DataType} {length bottom : Nat}
    (hlength : length < 2 ^ 8) (hshort : type.allowsLongLength = false ∨ length < 2 ^ 7)
    (h : page.HoldsBefore bottom [.ofNat length]) :
    variableExtent page origin type bottom = .ok ({ length }, bottom - 1) := by
  have hbyte : (UInt8.ofNat length).toNat = length := by
    rw [UInt8.toNat_ofNat', Nat.mod_eq_of_lt hlength]
  have hlong : (type.allowsLongLength && length.testBit 7) = false := by
    rcases hshort with hshort | hshort
    · rw [hshort, Bool.false_and]
    · rw [Nat.testBit_lt_two_pow hshort, Bool.and_false]
  rw [variableExtent, lengthByte_of_holdsBefore h, ok_bind, hbyte]
  simp [hlong]

/-- A length in two bytes, with the mark of a value that is stored elsewhere. -/
theorem variableExtent_two {type : DataType} {length bottom : Nat} {external : Bool}
    (hlong : type.allowsLongLength = true) (hlength : length < 2 ^ 14)
    (h : page.HoldsBefore bottom [.ofNat (length % 2 ^ 8),
      .ofNat (2 ^ 7 + (if external then 2 ^ 6 else 0) + length / 2 ^ 8)]) :
    variableExtent page origin type bottom = .ok ({ length, external }, bottom - 2) := by
  set first := 2 ^ 7 + (if external then 2 ^ 6 else 0) + length / 2 ^ 8 with hfirst
  rw [← List.singleton_append, Page.holdsBefore_append] at h
  obtain ⟨hholdsFirst, hholdsSecond⟩ := h
  rw [List.length_singleton] at hholdsSecond
  have hmark : (if external then 2 ^ 6 else 0) ≤ 2 ^ 6 := by split <;> omega
  have hbyteFirst : (UInt8.ofNat first).toNat = first := by
    rw [UInt8.toNat_ofNat', Nat.mod_eq_of_lt (by omega)]
  have hbyteSecond : (UInt8.ofNat (length % 2 ^ 8)).toNat = length % 2 ^ 8 := by
    rw [UInt8.toNat_ofNat', Nat.mod_mod]
  have htwo : first.testBit 7 = true := by
    rw [Nat.testBit_eq_decide_div_mod_eq, decide_eq_true_eq]
    omega
  have hexternal : first.testBit 6 = external := by
    rw [Nat.testBit_eq_decide_div_mod_eq]
    cases external <;> simp at hfirst ⊢ <;> omega
  have hvalue : 256 * (first % 64) + length % 2 ^ 8 = length := by
    cases external <;> simp at hfirst ⊢ <;> omega
  rw [variableExtent, lengthByte_of_holdsBefore hholdsFirst, ok_bind, hbyteFirst]
  simp only [hlong, htwo, Bool.and_self, if_true]
  rw [lengthByte_of_holdsBefore hholdsSecond, ok_bind, hbyteSecond, hvalue, hexternal]
  rfl

theorem extent_of_not_null {column : Column} {nullIndex bottom : Nat}
    (hnull : column.nullable = true → isNull page origin nullIndex = .ok false) :
    extent page origin column nullIndex bottom =
      match column.type.fixedWidth with
      | some width => .ok ({ length := width }, bottom)
      | none => variableExtent page origin column.type bottom := by
  by_cases hnullable : column.nullable = true
  · simp only [extent, hnullable, hnull hnullable, if_true, ok_bind]
    cases column.type.fixedWidth <;> rfl
  · simp only [extent, hnullable]
    cases column.type.fixedWidth <;> rfl

/-- One column: it takes the mark of its index, and from the table what was written for it. -/
theorem extent_of_holdsBefore {column : Column} {e : Extent} {nullIndex bottom : Nat}
    (hadmits : Admits column e)
    (hnull : column.nullable = true → isNull page origin nullIndex = .ok e.null)
    (htable : page.HoldsBefore bottom (lengthBytes column e).reverse) :
    extent page origin column nullIndex bottom =
      .ok (e, bottom - (lengthBytes column e).length) := by
  cases hadmits with
  | null hnullable => simp [extent, hnullable, hnull hnullable, lengthBytes]
  | @fixed width hwidth =>
    rw [extent_of_not_null hnull, hwidth]
    simp [lengthBytes, hwidth]
  | @short length hvariable hshort hlength =>
    have hbytes : lengthBytes column { length } = [.ofNat length] := by
      simp [lengthBytes, hvariable, hshort]
    rw [hbytes] at htable ⊢
    rw [extent_of_not_null hnull, hvariable]
    exact variableExtent_one hlength (.inl hshort) htable
  | @long length external hlong hlength =>
    have hvariable : column.type.fixedWidth = none := by
      simpa [DataType.isVariable] using DataType.isVariable_of_allowsLongLength hlong
    rw [extent_of_not_null hnull, hvariable]
    -- one byte is enough where neither the mark nor the length needs the second
    by_cases htwo : external = true ∨ 127 < length
    · have hbytes : lengthBytes column { length, external } =
          [.ofNat (2 ^ 7 + (if external then 2 ^ 6 else 0) + length / 2 ^ 8),
            .ofNat (length % 2 ^ 8)] := by
        simp [lengthBytes, hvariable, hlong, htwo]
      rw [hbytes] at htable ⊢
      exact variableExtent_two hlong hlength htable
    · obtain ⟨hinline, hlength⟩ := not_or.1 htwo
      rw [Bool.not_eq_true] at hinline
      subst hinline
      have hbytes : lengthBytes column { length } = [.ofNat length] := by
        simp [lengthBytes, hvariable, hlength]
      rw [hbytes] at htable ⊢
      exact variableExtent_one (by omega) (.inr (by omega)) htable

/-- All columns: from the index of the next bit and the bottom of the bytes read so far, the rest of
both streams gives the rest of the columns. -/
theorem extents_of_holdsBefore {columns : List Column} {es : List Extent} {nullIndex bottom : Nat}
    (hadmits : List.Forall₂ Admits columns es)
    (hnull : ∀ i mark, (nullMarks columns es)[i]? = some mark →
      isNull page origin (nullIndex + i) = .ok mark)
    (htable : page.HoldsBefore bottom (lengthTable columns es).reverse) :
    extents page origin columns nullIndex bottom =
      .ok (es, bottom - (lengthTable columns es).length) := by
  induction hadmits generalizing nullIndex bottom with
  | nil => rfl
  | @cons column e columns es hfirst hrest ih =>
    rw [nullMarks_cons] at hnull
    rw [lengthTable_cons, List.reverse_append, Page.holdsBefore_append] at htable
    obtain ⟨htableFirst, htableRest⟩ := htable
    rw [List.length_reverse] at htableRest
    have hnullFirst : column.nullable = true → isNull page origin nullIndex = .ok e.null := by
      intro hnullable
      exact hnull 0 e.null (by simp [hnullable])
    have hnullRest : ∀ i mark, (nullMarks columns es)[i]? = some mark →
        isNull page origin ((if column.nullable then nullIndex + 1 else nullIndex) + i) =
          .ok mark := by
      intro i mark hmark
      by_cases hnullable : column.nullable = true
      · rw [if_pos hnullable, Nat.add_assoc, Nat.add_comm 1]
        exact hnull (i + 1) mark (by simpa [hnullable] using hmark)
      · rw [if_neg hnullable]
        exact hnull i mark (by simpa [hnullable] using hmark)
    rw [extents, extent_of_holdsBefore hfirst hnullFirst htableFirst, ok_bind]
    simp only
    rw [ih hnullRest htableRest, lengthTable_cons, List.length_append, ← Nat.sub_sub]
    rfl

/-! ## The header -/

/-- The extents under the names of their columns, and the number of bytes that both streams take. -/
theorem fields_of_holdsBefore {columns : List Column} {es : List Extent}
    (hnames : (columns.map (·.name)).Nodup) (hadmits : List.Forall₂ Admits columns es)
    (h : page.HoldsBefore (origin - 5)
      ((lengthTable columns es).reverse ++ (bitmap (nullMarks columns es)).reverse)) :
    fields page origin columns =
      .ok ((columns.map (·.name)).zip es,
        bitmapSize columns + (lengthTable columns es).length) := by
  obtain ⟨hbitmap, htable⟩ := Page.holdsBefore_append.1 h
  have hsize : (bitmap (nullMarks columns es)).reverse.length = bitmapSize columns := by
    rw [List.length_reverse, length_bitmap, length_nullMarks hadmits, bitmapSize]
  rw [hsize] at htable
  have hroomBitmap := hbitmap.1
  have hroomTable := htable.1
  rw [hsize] at hroomBitmap
  rw [List.length_reverse] at hroomTable
  have hextents : extents page origin columns 0 (origin - 5 - bitmapSize columns) =
      .ok (es, origin - 5 - bitmapSize columns - (lengthTable columns es).length) := by
    refine extents_of_holdsBefore hadmits (fun i mark hmark => ?_) htable
    rw [Nat.zero_add]
    exact isNull_of_holdsBefore hbitmap hmark
  have hzip := nodup_named hnames hadmits.length_eq
  rw [fields, if_neg (by omega)]
  simp only [hextents, ok_bind, NameTable.ofList_eq_self hzip, pure_eq_ok, Except.ok.injEq,
    Prod.mk.injEq, true_and]
  omega

/-- A record whose header was written before `origin` has just what was written. -/
theorem header_of_holdsBefore {columns : List Column} {es : List Extent} {kind : RecordKind}
    {mark : HeaderMark} (hnames : (columns.map (·.name)).Nodup)
    (hadmits : List.Forall₂ Admits columns es) (hkind : kind.isSentinel = false)
    (h : page.HoldsBefore origin (headerBytes columns es kind mark)) :
    header page (some columns) origin = .ok (headerOf columns es kind mark origin) := by
  have howned := mark.owned.isLt
  have hheap := mark.heapNumber.isLt
  have hcode := kind.code_lt
  obtain ⟨hfixed, hstreams⟩ := Page.holdsBefore_append.1 h
  rw [length_fixedPart] at hstreams
  obtain ⟨hinfo, hstatus, hdistance⟩ := reads_of_parts hfixed (by omega)
  have hownedOf : (2 ^ 4 * mark.flags.val + mark.owned.val) % 16 = mark.owned := by omega
  have hflagsOf : (2 ^ 4 * mark.flags.val + mark.owned.val) / 16 * 16 = 2 ^ 4 * mark.flags := by
    omega
  have hheapOf : (2 ^ 3 * mark.heapNumber.val + kind.code) / 8 = mark.heapNumber := by omega
  rw [header, hinfo, ok_bind, hstatus, ok_bind, hdistance, ok_bind]
  simp only [RecordKind.ofStatus_code, hkind, Bool.false_eq_true, if_false,
    fields_of_holdsBefore hnames hadmits hstreams, ok_bind, hownedOf, hflagsOf, hheapOf]
  rw [headerOf, Nat.add_assoc]
  rfl

end Compact

/-- A compact header that was written onto a page is read back whole: every column has the extent
that was written for it, and the fixed part says what it was to say. -/
theorem read_written_compactHeader (page : Page) {columns : List Column} {extents : List Extent}
    {kind : RecordKind} (mark : HeaderMark) {origin : Nat}
    (hnames : (columns.map (·.name)).Nodup)
    (hadmits : List.Forall₂ Compact.Admits columns extents) (hkind : kind.isSentinel = false)
    (hroom : (Compact.headerBytes columns extents kind mark).length ≤ origin)
    (horigin : origin < page.size) :
    let bytes := Compact.headerBytes columns extents kind mark
    let written := page.write (origin - bytes.length) bytes
    let header : RecordHeader := {
      origin
      format := .compact
      next := Compact.target origin mark.link
      kind
      heapNumber := mark.heapNumber
      owned := mark.owned
      flags := 16 * mark.flags
      ends := none
      fields := (columns.map (·.name)).zip extents
      length := 5 + (columns.countP (·.nullable) + 7) / 8 +
        (Compact.lengthTable columns extents).length }
    RecordHeader.read written .compact (some columns) origin = .ok header ∧
      header.length = bytes.length ∧
      ∀ e ∈ columns.zip extents, header.fields.get? e.1.name = some e.2 := by
  intro bytes written header
  have hlength := Compact.length_headerBytes hadmits kind mark
  have hholds : written.HoldsBefore origin bytes := Page.holdsBefore_write hroom (by omega)
  refine ⟨?_, hlength.symm, ?_⟩
  · rw [RecordHeader.read, if_neg (by rw [Page.size_write, RowFormat.fixedSize]; omega)]
    exact Compact.header_of_holdsBefore hnames hadmits hkind hholds
  · rintro ⟨column, extent⟩ hmem
    exact get?_named hnames hadmits.length_eq hmem

/-- Nine columns that may be NULL. -/
def Compact.nineTexts : List Column :=
  ["a", "b", "c", "d", "e", "f", "g", "h", "i"].mapIdx fun position name =>
    { name, type := .blob, nullable := true, role := .row, position }

/-- The marks of eight NULLs fill a byte of the bitmap, and the last column has a mark in a second
byte and a length in two bytes. -/
theorem read_written_compactHeader_nineTexts :
    let page : Page := ⟨7, ⟨Array.replicate 64 0⟩, by decide⟩
    let extents : List Extent := List.replicate 8 { length := 0, null := true } ++
      [{ length := 300, external := true }]
    let mark : HeaderMark := ⟨2, 1, 9, 40⟩
    let bytes := Compact.headerBytes Compact.nineTexts extents .conventional mark
    bytes = [44, 193, 0, 255, 33, 0, 72, 0, 40] ∧
      ∃ header, RecordHeader.read (page.write (32 - bytes.length) bytes) .compact
          (some Compact.nineTexts) 32 = .ok header ∧
        header.fields.get? "i" = some { length := 300, external := true } := by
  intro page extents mark bytes
  have hadmits : List.Forall₂ Compact.Admits Compact.nineTexts extents :=
    .cons (.null rfl) <| .cons (.null rfl) <| .cons (.null rfl) <| .cons (.null rfl) <|
    .cons (.null rfl) <| .cons (.null rfl) <| .cons (.null rfl) <| .cons (.null rfl) <|
    .cons (.long rfl (by decide)) .nil
  have hbytes : bytes = [44, 193, 0, 255, 33, 0, 72, 0, 40] := by decide +kernel
  have hnames : (Compact.nineTexts.map (·.name)).Nodup := by decide +kernel
  have hroom : bytes.length ≤ 32 := by decide +kernel
  obtain ⟨hread, -, hfields⟩ :=
    read_written_compactHeader page mark hnames hadmits rfl hroom (by decide)
  exact ⟨hbytes, _, hread, hfields ⟨⟨⟨"i", .blob, true⟩, .row, 8⟩, _⟩ (by decide +kernel)⟩

end Tablespace
