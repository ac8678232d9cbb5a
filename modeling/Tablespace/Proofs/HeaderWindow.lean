import Mathlib.Data.Nat.Init
import Tablespace.Proofs.CheckedHeader
import Tablespace.Proofs.CompactHeader
import Tablespace.Proofs.RecordFaults
import Tablespace.Proofs.RecordParts

/-!
# The bytes of a header

How long the header of a record is follows from the bytes of the header: how many lengths are stored
depends on the bitmap, how long the table of field ends is on the number of fields. Whatever these
bytes are, the header is read from as many bytes before the origin as it says it has, and a page
with the same bytes there has the same header: `RecordHeader.read_window`.
-/

namespace Tablespace

/-! ## Pages with the same bytes -/

/-- The other page is as long and has the same bytes from `start` to before `stop`. -/
def Page.AgreesOn (page other : Page) (start stop : Nat) : Prop :=
  other.size = page.size ∧ ∀ i, start ≤ i → i < stop → byteAt other.bytes i = byteAt page.bytes i

namespace Page.AgreesOn

variable {page other : Page} {start stop : Nat}

theorem uint {offset width n : Nat} (h : page.AgreesOn other start stop)
    (hread : page.uint offset width = .ok n) (hstart : start ≤ offset)
    (hstop : offset + width ≤ stop) : other.uint offset width = .ok n := by
  by_cases hinside : offset + width ≤ page.size
  · have hslice : slice other.bytes offset width = slice page.bytes offset width :=
      slice_congr h.1 fun i hoffset hlen => h.2 i (by omega) (by omega)
    rw [Page.uint_eq_ok hinside] at hread
    rw [Page.uint_eq_ok (by rw [h.1]; exact hinside), fieldAt, hslice]
    exact hread
  · rw [Page.uint, Page.read, if_neg hinside] at hread
    cases hread

end Page.AgreesOn

/-! ## Compact headers -/

namespace Compact

variable {page other : Page} {origin start : Nat}

theorem isNull_of_agreesOn {index : Nat} {null : Bool} (hagree : page.AgreesOn other start origin)
    (hread : isNull page origin index = .ok null)
    (hstart : start + (5 + (index / 8 + 1)) ≤ origin) : isNull other origin index = .ok null := by
  obtain ⟨bits, hbits, hnull⟩ := bind_eq_ok_iff.1 hread
  exact bind_eq_ok_iff.2 ⟨bits, hagree.uint hbits (by omega) (by omega), hnull⟩

theorem lengthByte_of_agreesOn {bottom first rest : Nat} (hagree : page.AgreesOn other start origin)
    (hread : lengthByte page origin bottom = .ok (first, rest)) (hstart : start ≤ rest)
    (hbottom : bottom ≤ origin) : lengthByte other origin bottom = .ok (first, rest) := by
  cases bottom with
  | zero => cases hread
  | succ below =>
    obtain ⟨byte, hbyte, hread⟩ := bind_eq_ok_iff.1 hread
    cases hread
    exact bind_eq_ok_iff.2 ⟨_, hagree.uint hbyte hstart hbottom, rfl⟩

theorem variableExtent_of_agreesOn {type : DataType} {bottom rest : Nat} {e : Extent}
    (hagree : page.AgreesOn other start origin)
    (hread : variableExtent page origin type bottom = .ok (e, rest)) (hstart : start ≤ rest)
    (hbottom : bottom ≤ origin) : variableExtent other origin type bottom = .ok (e, rest) := by
  obtain ⟨⟨first, middle⟩, hfirst, hread⟩ := bind_eq_ok_iff.1 hread
  have hmiddle := lengthByte_bottom_le hfirst
  unfold variableExtent
  simp only at hread
  split at hread
  · rename_i hlong
    obtain ⟨⟨second, last⟩, hsecond, hread⟩ := bind_eq_ok_iff.1 hread
    have hlast := lengthByte_bottom_le hsecond
    cases hread
    rw [lengthByte_of_agreesOn hagree hfirst (by omega) hbottom, ok_bind]
    simp only [hlong, if_true]
    rw [lengthByte_of_agreesOn hagree hsecond hstart (by omega)]
    rfl
  · rename_i hshort
    cases hread
    rw [lengthByte_of_agreesOn hagree hfirst hstart hbottom, ok_bind]
    simp only [hshort]
    rfl

theorem extent_of_agreesOn {column : Column} {nullIndex bottom rest : Nat} {e : Extent}
    (hagree : page.AgreesOn other start origin)
    (hread : extent page origin column nullIndex bottom = .ok (e, rest)) (hstart : start ≤ rest)
    (hbottom : bottom ≤ origin)
    (hbit : column.nullable = true → start + (5 + (nullIndex / 8 + 1)) ≤ origin) :
    extent other origin column nullIndex bottom = .ok (e, rest) := by
  by_cases hpresent : column.nullable = true → isNull page origin nullIndex = .ok false
  · have hother : column.nullable = true → isNull other origin nullIndex = .ok false :=
      fun hnullable => isNull_of_agreesOn hagree (hpresent hnullable) (hbit hnullable)
    rw [extent_of_not_null hpresent] at hread
    rw [extent_of_not_null hother]
    cases hwidth : column.type.fixedWidth with
    | some width =>
      rw [hwidth] at hread
      exact hread
    | none =>
      rw [hwidth] at hread
      exact variableExtent_of_agreesOn hagree hread hstart hbottom
  · obtain ⟨hnullable, hnull⟩ := Classical.not_imp.1 hpresent
    unfold extent at hread ⊢
    simp only [hnullable, if_true] at hread ⊢
    obtain ⟨null, hbits, hread⟩ := bind_eq_ok_iff.1 hread
    cases null with
    | true =>
      rw [isNull_of_agreesOn hagree hbits (hbit hnullable), ok_bind]
      exact hread
    | false => exact absurd hbits hnull

theorem extents_of_agreesOn {columns : List Column} {bitmap nullIndex bottom rest : Nat}
    {es : List Extent} (hagree : page.AgreesOn other start origin)
    (hread : extents page origin columns nullIndex bottom = .ok (es, rest)) (hstart : start ≤ rest)
    (hroom : bottom + bitmap + 5 ≤ origin)
    (hbits : nullIndex + columns.countP (·.nullable) ≤ 8 * bitmap) :
    extents other origin columns nullIndex bottom = .ok (es, rest) := by
  induction columns generalizing nullIndex bottom es with
  | nil => exact hread
  | cons column columns ih =>
    obtain ⟨hbit, hnext⟩ := nullIndex_step hbits
    obtain ⟨⟨first, middle⟩, hfirst, hread⟩ := bind_eq_ok_iff.1 hread
    obtain ⟨⟨tail, last⟩, hrest, hread⟩ := bind_eq_ok_iff.1 hread
    cases hread
    have hmiddle := extent_bottom_le hfirst
    have hlast := (length_extents hrest).2
    unfold extents
    rw [extent_of_agreesOn hagree hfirst (by omega) (by omega)
      (fun hnullable => by have := hbit hnullable; omega), ok_bind]
    simp only
    rw [ih hrest (by omega) hnext]
    rfl

/-- The bitmap and the length table are as many bytes as they are said to be, and these tell all
that they say. -/
theorem fields_window {columns : List Column} {table : NameTable Extent} {length : Nat}
    (hroom : 5 ≤ origin) (hread : fields page origin columns = .ok (table, length)) :
    5 + length ≤ origin ∧ ∀ other, page.AgreesOn other (origin - (5 + length)) origin →
      fields other origin columns = .ok (table, length) := by
  unfold fields at hread
  split at hread
  · cases hread
  · rename_i hfits
    obtain ⟨⟨es, bottom⟩, hextents, hread⟩ := bind_eq_ok_iff.1 hread
    cases hread
    have hbottom := (length_extents hextents).2
    refine ⟨by omega, fun other hagree => ?_⟩
    unfold fields
    rw [if_neg hfits]
    simp only
    rw [extents_of_agreesOn hagree hextents (by omega) (by omega)
      (countP_le_bitmapSize columns)]
    rfl

theorem header_window {columns : List Column} {header : RecordHeader} (hroom : 5 ≤ origin)
    (hread : Compact.header page (some columns) origin = .ok header)
    (hkind : header.kind.isSentinel = false) :
    header.length ≤ origin ∧ ∀ other, page.AgreesOn other (origin - header.length) origin →
      Compact.header other (some columns) origin = .ok header := by
  obtain ⟨info, status, distance, table, length, hinfo, hstatus, hdistance, hsentinel, hfields,
    hheader⟩ := header_eq_ok_iff.1 ⟨hread, hkind⟩
  have hlength : header.length = 5 + length := by rw [hheader]
  rw [hlength]
  obtain ⟨hle, hlocal⟩ := fields_window hroom hfields
  refine ⟨hle, fun other hagree => (header_eq_ok_iff.2 ?_).1⟩
  exact ⟨info, status, distance, table, length, hagree.uint hinfo (by omega) (by omega),
    hagree.uint hstatus (by omega) (by omega), hagree.uint hdistance (by omega) (by omega),
    hsentinel, hlocal other hagree, hheader⟩

end Compact

/-! ## Redundant headers -/

namespace Redundant

variable {page other : Page} {origin start : Nat}

theorem extents_of_agreesOn {width count index previous : Nat} {es : List Extent}
    (hagree : page.AgreesOn other start origin)
    (hread : extents page origin width count index previous = .ok es)
    (hroom : start + (index + count) * width + 6 ≤ origin) :
    extents other origin width count index previous = .ok es := by
  induction count generalizing index previous es with
  | zero => exact hread
  | succ count ih =>
    obtain ⟨hentry, hwidth⟩ := entry_bounds index count width
    have hnext : index + 1 + count = index + (count + 1) := by omega
    obtain ⟨raw, hraw, hread⟩ := bind_eq_ok_iff.1 hread
    obtain ⟨rest, hrest, hread⟩ := bind_eq_ok_iff.1 hread
    unfold extents
    rw [hagree.uint hraw (by omega) (by omega), ok_bind]
    exact bind_eq_ok_iff.2 ⟨rest, ih hrest (by rw [hnext]; exact hroom), hread⟩

/-- The table of field ends is as many bytes as it has entries of its width, and these tell all that
it says. -/
theorem fields_window {ends : EndTable} {columns : List Column} {table : NameTable Extent}
    (hroom : 6 ≤ origin) (hread : fields page origin ends columns = .ok table) :
    6 + ends.count * ends.width ≤ origin ∧
      ∀ other, page.AgreesOn other (origin - (6 + ends.count * ends.width)) origin →
        fields other origin ends columns = .ok table := by
  obtain ⟨es, hes, hread⟩ := bind_eq_ok_iff.1 hread
  unfold Redundant.table at hes
  split at hes
  · cases hes
  · rename_i hfits
    refine ⟨by omega, fun other hagree => ?_⟩
    have htable : Redundant.table other origin ends = .ok es := by
      unfold Redundant.table
      rw [if_neg hfits]
      exact extents_of_agreesOn hagree hes (by rw [Nat.zero_add]; omega)
    obtain ⟨entries, hentries, hread⟩ := bind_eq_ok_iff.1 hread
    unfold fields
    rw [htable, ok_bind]
    refine bind_eq_ok_iff.2 ⟨entries, ?_, hread⟩
    rw [mapM_eq_ok_iff] at hentries ⊢
    -- A column without a field is the one thing that is reported with the page.
    refine hentries.imp fun column entry hentry => ?_
    unfold extentOf at hentry ⊢
    split at hentry
    · exact hentry
    · cases hentry

theorem kind_of_agreesOn {kind : RecordKind}
    (hagree : page.AgreesOn other levelOffset (levelOffset + 2))
    (hread : Redundant.kind page origin = .ok kind) : Redundant.kind other origin = .ok kind := by
  unfold Redundant.kind at hread ⊢
  cases hlevel : page.uint levelOffset 2 with
  | error e =>
    rw [hlevel] at hread
    split_ifs at hread ⊢ with hfirst hlast
    · exact hread
    · exact hread
    · cases hread
  | ok level => rwa [hagree.uint hlevel (Nat.le_refl _) (Nat.le_refl _), ← hlevel]

theorem header_window {columns : List Column} {header : RecordHeader} (hroom : 6 ≤ origin)
    (hread : Redundant.header page (some columns) origin = .ok header)
    (hsentinel : header.kind.isSentinel = false) :
    header.length ≤ origin ∧ ∀ other, page.AgreesOn other (origin - header.length) origin →
      page.AgreesOn other levelOffset (levelOffset + 2) →
        Redundant.header other (some columns) origin = .ok header := by
  obtain ⟨info, bits, next, kind, ends, table, hinfo, hbits, hnext, hkind, hother, hends, hfields,
    hheader⟩ := header_eq_ok_iff.1 ⟨hread, hsentinel⟩
  have hlength : header.length = 6 + ends.count * ends.width := by rw [hheader]
  rw [hlength]
  obtain ⟨hle, hlocal⟩ := fields_window hroom hfields
  refine ⟨hle, fun other hagree hlevel => (header_eq_ok_iff.2 ?_).1⟩
  exact ⟨info, bits, next, kind, ends, table, hagree.uint hinfo (by omega) (by omega),
    hagree.uint hbits (by omega) (by omega), hagree.uint hnext (by omega) (by omega),
    kind_of_agreesOn hlevel hkind, hother, hends, hlocal other hagree, hheader⟩

end Redundant

/-! ## Headers -/

/-- A header can be read at every place of every page, or is reported as a fault of the page, and on
the way no difference is below zero and no read leaves the page. The header of a record with columns
lies on the page, and it is read from its own bytes, and in the redundant format from the level of
the page: where another page of the same length has these bytes, it has the same header. -/
theorem RecordHeader.read_window (page : Page) (format : RowFormat)
    (columns : Option (List Column)) (origin : Nat) :
    Checked.header page format columns origin =
        Checked.lift (RecordHeader.read page format columns origin) ∧
      (∀ e, RecordHeader.read page format columns origin = .error e → ∃ fault, e = .format fault) ∧
      ∀ header, RecordHeader.read page format columns origin = .ok header →
        columns.isSome = true → header.kind.isSentinel = false →
          header.length ≤ origin ∧
          ∀ other, page.AgreesOn other (origin - header.length) origin →
            (format = .redundant →
              page.AgreesOn other Redundant.levelOffset (Redundant.levelOffset + 2)) →
            RecordHeader.read other format columns origin = .ok header := by
  refine ⟨Checked.header_eq page format columns origin, read_formal page origin format columns, ?_⟩
  intro header hread hsome hkind
  obtain ⟨listed, rfl⟩ := Option.isSome_iff_exists.1 hsome
  obtain ⟨hroom, hinside, hcompact, hredundant⟩ := read_eq_ok_iff.1 hread
  cases format with
  | compact =>
    obtain ⟨hle, hlocal⟩ := Compact.header_window hroom (hcompact rfl) hkind
    refine ⟨hle, fun other hagree _ =>
      read_eq_ok_iff.2 ⟨hroom, ?_, fun _ => hlocal other hagree, ?_⟩⟩
    · rw [hagree.1]
      exact hinside
    · intro hformat
      cases hformat
  | redundant =>
    obtain ⟨hle, hlocal⟩ := Redundant.header_window hroom (hredundant rfl) hkind
    refine ⟨hle, fun other hagree hlevel =>
      read_eq_ok_iff.2 ⟨hroom, ?_, ?_, fun _ => hlocal other hagree (hlevel rfl)⟩⟩
    · rw [hagree.1]
      exact hinside
    · intro hformat
      cases hformat

namespace Filled

/-- A page of one byte over and over, but for a compact header of eight bytes before offset 70. -/
def page (number : Nat) (filler : UInt8) : Page where
  number := number
  bytes := ⟨⟨List.replicate 62 filler ++ [200, 128, 2, 0, 0, 16, 0, 0] ++ List.replicate 10 filler⟩⟩
  headerFits := by simp [ByteArray.size, PageHeader.size]

/-- A variable column and one of a fixed width, both of which may be NULL. -/
def columns : List Column :=
  [{ name := "bio", type := .varChar 300, nullable := true, role := .row, position := 0 },
    { name := "code", type := .char 4, nullable := true, role := .row, position := 1 }]

theorem parts_header :
    (RecordHeader.read (page 4 0) .compact (some columns) 70).toOption.map
        (fun header => (header.fields, header.length, header.kind)) =
      some ([("bio", { length := 200 }), ("code", { length := 0, null := true })], 8,
        .conventional) := by
  decide +kernel

end Filled

/-- The bitmap says that the second column is NULL, so one length is stored, and it takes two bytes.
What stands on the page before and after these eight bytes makes no difference. -/
theorem RecordHeader.read_window_filled :
    ∃ header, RecordHeader.read (Filled.page 4 0) .compact (some Filled.columns) 70 = .ok header ∧
      header.fields = [("bio", { length := 200 }), ("code", { length := 0, null := true })] ∧
      header.length = 8 ∧
      RecordHeader.read (Filled.page 9 255) .compact (some Filled.columns) 70 = .ok header := by
  obtain ⟨header, hread, hparts⟩ := map_toOption_eq_some_iff.1 Filled.parts_header
  obtain ⟨hfields, hparts⟩ := Prod.mk.inj hparts
  obtain ⟨hlength, hkind⟩ := Prod.mk.inj hparts
  have hagree : (Filled.page 4 0).AgreesOn (Filled.page 9 255) 62 70 :=
    ⟨by decide +kernel, by decide +kernel⟩
  obtain ⟨-, -, hwindow⟩ := read_window (Filled.page 4 0) .compact (some Filled.columns) 70
  obtain ⟨-, hlocal⟩ := hwindow header hread rfl (by rw [hkind]; rfl)
  refine ⟨header, hread, hfields, hlength, hlocal _ (by rw [hlength]; exact hagree) ?_⟩
  intro hformat
  cases hformat

end Tablespace
