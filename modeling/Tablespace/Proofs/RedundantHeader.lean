import Tablespace.Proofs.PageContents
import Tablespace.Proofs.RecordWriter
import Tablespace.Proofs.Steps
import Tablespace.Record.Decode

/-!
# Redundant headers are read as they were written

A redundant header says where each field ends, counted from the origin, and the length of a field is
the difference to the end before. Reading goes down the table with the index of the next entry and
the end of the field before it, so the induction of `extents_of_holdsBefore` is over the fields that
are left, the first of which begins at that end. The columns then find their extents by position.
-/

namespace Tablespace

variable {page : Page} {origin : Nat}

namespace Redundant

/-! ## The table of field ends -/

/-- An entry of one byte has the end in seven bits and the NULL mark above them. -/
theorem entry_one {fieldEnd : Nat} {e : Extent} (hend : fieldEnd < 2 ^ 7)
    (hinline : e.external = false) :
    entry 1 (entryNumber 1 fieldEnd e) = (fieldEnd, e.null, e.external) ∧
      entryNumber 1 fieldEnd e < 256 ^ 1 := by
  obtain ⟨length, null, external⟩ := e
  simp only at hinline
  subst hinline
  cases null <;>
    simp only [entry, entryNumber, Nat.testBit_eq_decide_div_mod_eq, if_true, if_false,
      Bool.false_eq_true, Prod.mk.injEq, decide_eq_true_eq, decide_eq_false_iff_not, and_true] <;>
    omega

/-- An entry of two bytes has the end in fourteen bits and both marks above them. -/
theorem entry_two {fieldEnd : Nat} {e : Extent} (hend : fieldEnd < 2 ^ 14) :
    entry 2 (entryNumber 2 fieldEnd e) = (fieldEnd, e.null, e.external) ∧
      entryNumber 2 fieldEnd e < 256 ^ 2 := by
  obtain ⟨length, null, external⟩ := e
  cases null <;> cases external <;>
    simp only [entry, entryNumber, Nat.testBit_eq_decide_div_mod_eq, if_true, if_false,
      Bool.false_eq_true, Prod.mk.injEq, decide_eq_true_eq, decide_eq_false_iff_not,
      Nat.reduceEqDiff] <;>
    omega

/-- Where the fields fit, the entry of the first gives back its end and both marks. -/
theorem Fits.entry_eq {width start : Nat} {e : Extent} {es : List Extent}
    (hfits : Fits width start (e :: es)) :
    entry width (entryNumber width (start + e.length) e) =
        (start + e.length, e.null, e.external) ∧
      entryNumber width (start + e.length) e < 256 ^ width := by
  cases hfits with
  | one hend hinline =>
    rw [total_cons] at hend
    exact entry_one (by omega) (hinline e List.mem_cons_self)
  | two hend =>
    rw [total_cons] at hend
    exact entry_two (by omega)

theorem Fits.tail {width start : Nat} {e : Extent} {es : List Extent}
    (hfits : Fits width start (e :: es)) : Fits width (start + e.length) es := by
  cases hfits with
  | one hend hinline =>
    rw [total_cons, ← Nat.add_assoc] at hend
    exact .one hend fun e he => hinline e (List.mem_cons_of_mem _ he)
  | two hend =>
    rw [total_cons, ← Nat.add_assoc] at hend
    exact .two hend

theorem Fits.width_eq {width start : Nat} {es : List Extent} (hfits : Fits width start es) :
    width = 1 ∨ width = 2 := by
  cases hfits with
  | one => exact .inl rfl
  | two => exact .inr rfl

/-- All fields: from the index of the next entry and the end before it, what is left of the table
gives the fields that are left. -/
theorem extents_of_holdsBefore {width index previous : Nat} {es : List Extent}
    (hfits : Fits width previous es)
    (h : page.HoldsBefore (origin - 6 - index * width) (endTable width previous es)) :
    extents page origin width es.length index previous = .ok es := by
  induction es generalizing index previous with
  | nil => rfl
  | cons e es ih =>
    obtain ⟨hentry, hbound⟩ := hfits.entry_eq
    obtain ⟨hfirst, hrest⟩ := Page.holdsBefore_append.1 h
    have hplace : origin - 6 - index * width - width = origin - 6 - (index + 1) * width := by
      rw [Nat.succ_mul]
      omega
    rw [length_toBigEndian, hplace] at hrest
    have hraw := hfirst.2
    rw [length_toBigEndian, hplace] at hraw
    rw [List.length_cons, extents, hraw.uint_toBigEndian hbound, ok_bind]
    simp only [hentry]
    rw [ih hfits.tail hrest, ok_bind, Nat.add_sub_cancel_left]
    rfl

/-- The table of a written header gives the fields it was written for. -/
theorem table_of_holdsBefore {width : Nat} {es : List Extent} (hfits : Fits width 0 es)
    (h : page.HoldsBefore (origin - 6) (endTable width 0 es)) :
    table page origin ⟨es.length, width⟩ = .ok es := by
  have hroom := h.1
  rw [length_endTable] at hroom
  have hall : page.HoldsBefore (origin - 6 - 0 * width) (endTable width 0 es) := by
    rwa [Nat.zero_mul]
  rw [table, if_neg (by simp only; omega)]
  exact extents_of_holdsBefore hfits hall

/-- The entry at the lowest offset is the end of all fields together. -/
theorem lastEntry_of_holdsBefore {width start : Nat} {es : List Extent} {stop : Nat}
    (hfits : Fits width start es) (hne : es ≠ [])
    (h : page.HoldsBefore stop (endTable width start es)) :
    (page.uint (stop - es.length * width) width).map (fun raw => (entry width raw).1) =
      .ok (start + total es) := by
  induction es generalizing start stop with
  | nil => exact absurd rfl hne
  | cons e es ih =>
    obtain ⟨hfirst, hrest⟩ := Page.holdsBefore_append.1 h
    rw [length_toBigEndian] at hrest
    by_cases hlast : es = []
    · subst hlast
      obtain ⟨hentry, hbound⟩ := hfits.entry_eq
      have hraw := hfirst.2
      rw [length_toBigEndian] at hraw
      rw [List.length_singleton, Nat.one_mul, hraw.uint_toBigEndian hbound, Except.map, hentry]
      simp [total]
    · have hplace : stop - (e :: es).length * width = stop - width - es.length * width := by
        rw [List.length_cons, Nat.succ_mul]
        omega
      rw [hplace, ih hfits.tail hlast hrest, total_cons, Nat.add_assoc]

/-! ## The columns -/

theorem fields_of_table {ends : EndTable} {es : List Extent} {columns : List Column}
    (htable : table page origin ends = .ok es) (hnames : (columns.map (·.name)).Nodup)
    (hpositions : ∀ column ∈ columns, column.position < es.length) :
    fields page origin ends columns =
      .ok (columns.map fun column => (column.name, es.getD column.position default)) := by
  have hentries : columns.mapM (extentOf page origin ends es) =
      .ok (columns.map fun column => (column.name, es.getD column.position default)) := by
    refine mapM_eq_ok fun column hcolumn => ?_
    have hlt := hpositions column hcolumn
    simp [extentOf, hlt]
  have hkeys : ((columns.map fun column =>
      (column.name, es.getD column.position default)).map Prod.fst).Nodup := by
    rw [List.map_map]
    exact hnames
  rw [fields, htable, ok_bind, hentries, ok_bind, NameTable.ofList_eq_self hkeys]
  rfl

theorem fields_of_missing {ends : EndTable} {es : List Extent} {columns : List Column}
    {column : Column} (htable : table page origin ends = .ok es)
    (hfind : columns.find? (es.length ≤ ·.position) = some column) :
    fields page origin ends columns =
      .error (.format
        (.fieldMissing origin page.number ends.count column.name column.position)) := by
  obtain ⟨hmissing, before, after, rfl, hbefore⟩ := List.find?_eq_some_iff_append.1 hfind
  have hentries : (before ++ column :: after).mapM (extentOf page origin ends es) =
      .error (.format
        (.fieldMissing origin page.number ends.count column.name column.position)) := by
    refine mapM_eq_error (g := fun column => (column.name, es.getD column.position default))
      (fun b hb => ?_) ?_
    · have hlt : b.position < es.length := by simpa using hbefore b hb
      simp [extentOf, hlt]
    · have hle : es.length ≤ column.position := by simpa using hmissing
      simp [extentOf, hle]
  rw [fields, htable, ok_bind, hentries, error_bind]

/-! ## The header -/

theorem kind_of_level {level : Nat} (hinfimum : origin ≠ RowFormat.redundant.infimum)
    (hsupremum : origin ≠ RowFormat.redundant.supremum)
    (hlevel : page.uint levelOffset 2 = .ok level) :
    kind page origin = .ok (if 0 < level then .nodePointer else .conventional) := by
  rw [kind, if_neg hinfimum, if_neg hsupremum, hlevel]
  rfl

/-- A record whose header was written before `origin` has just what was written, and the columns
have what the table says. -/
theorem header_of_holdsBefore (columns : List Column) {width : Nat} {es : List Extent}
    {kind : RecordKind} {mark : HeaderMark} (hcount : es.length < 2 ^ 10)
    (hfits : Fits width 0 es) (hkind : Redundant.kind page origin = .ok kind)
    (hsentinel : kind.isSentinel = false)
    (h : page.HoldsBefore origin (headerBytes width es mark)) :
    header page (some columns) origin =
      (fields page origin ⟨es.length, width⟩ columns).map fun fields =>
        { headerOf columns width es kind mark origin with fields } := by
  have howned := mark.owned.isLt
  have hheap := mark.heapNumber.isLt
  have hwidth := hfits.width_eq
  obtain ⟨hfixed, -⟩ := Page.holdsBefore_append.1 h
  obtain ⟨hinfo, hbits, hnext⟩ := reads_of_parts hfixed (by simp only; split <;> omega)
  have hownedOf : (2 ^ 4 * mark.flags.val + mark.owned.val) % 16 = mark.owned := by omega
  have hflagsOf : (2 ^ 4 * mark.flags.val + mark.owned.val) / 16 * 16 = 2 ^ 4 * mark.flags := by
    omega
  set bits := 2 ^ 11 * mark.heapNumber.val + 2 * es.length + if width = 1 then 1 else 0
  have hheapOf : bits / 2 ^ 11 = mark.heapNumber := by grind
  have hcountOf : bits / 2 % 2 ^ 10 = es.length := by grind
  have hwidthOf : (if bits % 2 = 1 then 1 else 2) = width := by grind
  rw [header, hinfo, ok_bind, hbits, ok_bind, hnext, ok_bind]
  simp only [hkind, ok_bind, hsentinel, hownedOf, hflagsOf, hheapOf, hcountOf, hwidthOf,
    Bool.false_eq_true, if_false]
  cases fields page origin ⟨es.length, width⟩ columns <;> rfl

/-- The extents that the header holds are found under the names of the columns. -/
theorem get?_headerOf {columns : List Column} {width : Nat} {es : List Extent} {kind : RecordKind}
    {mark : HeaderMark} (hnames : (columns.map (·.name)).Nodup) {column : Column}
    (hcolumn : column ∈ columns) (hposition : column.position < es.length) :
    (headerOf columns width es kind mark origin).fields.get? column.name =
      es[column.position]? := by
  rw [List.getElem?_eq_getElem hposition]
  refine NameTable.get?_of_mem ?_ (List.mem_map.2 ⟨column, hcolumn, ?_⟩)
  · rw [headerOf, List.map_map]
    exact hnames
  · simp [hposition]

end Redundant

/-- A redundant header that was written onto a page is read back whole. Every column has the extent
of the field at its position, and a column without a field is an error. Whether the record points to
a lower page is not in the header: the level of the page says it, so the page has to be long enough
to have one (`hlevel`). Every page of a node is (`Node.headerFits`); only pages of less than 66
bytes are not, and on these reading the kind of a record fails. -/
theorem read_written_redundantHeader (page : Page) {columns : List Column} {width : Nat}
    {extents : List Extent} (mark : HeaderMark) {origin : Nat}
    (hcount : extents.length ≤ 1023) (hfits : Redundant.Fits width 0 extents)
    (hnames : (columns.map (·.name)).Nodup)
    (hinfimum : origin ≠ RowFormat.redundant.infimum)
    (hsupremum : origin ≠ RowFormat.redundant.supremum)
    (hroom : (Redundant.headerBytes width extents mark).length ≤ origin)
    (horigin : origin < page.size) (hlevel : Redundant.levelOffset + 2 ≤ page.size) :
    let bytes := Redundant.headerBytes width extents mark
    let written := page.write (origin - bytes.length) bytes
    let read := RecordHeader.read written .redundant (some columns) origin
    let header : RecordHeader := {
      origin
      format := .redundant
      next := mark.link
      kind := if 0 < fieldAt written.bytes Redundant.levelOffset 2 then .nodePointer
        else .conventional
      heapNumber := mark.heapNumber
      owned := mark.owned
      flags := 16 * mark.flags
      ends := some { count := extents.length, width }
      fields := columns.map fun column => (column.name, extents.getD column.position default)
      length := 6 + extents.length * width }
    ((∀ column ∈ columns, column.position < extents.length) →
      read = .ok header ∧
        ∀ column ∈ columns, header.fields.get? column.name = extents[column.position]?) ∧
    ((∃ column ∈ columns, extents.length ≤ column.position) →
      ∃ column, columns.find? (extents.length ≤ ·.position) = some column ∧
        read = .error (.format
          (.fieldMissing origin page.number extents.length column.name column.position))) ∧
    Redundant.table written origin { count := extents.length, width } = .ok extents ∧
    (extents ≠ [] →
      (written.uint (origin - 6 - extents.length * width) width).map
          (fun raw => (Redundant.entry width raw).1) =
        .ok (extents.map (·.length)).sum) := by
  intro bytes written read header
  have hlength := Redundant.length_headerBytes width extents mark
  have hholds : written.HoldsBefore origin bytes := Page.holdsBefore_write hroom (by omega)
  have htableBytes := (Page.holdsBefore_append.1 hholds).2
  rw [Redundant.length_fixedPart] at htableBytes
  have htable := Redundant.table_of_holdsBefore hfits htableBytes
  have hlevelRead : written.uint Redundant.levelOffset 2 =
      .ok (fieldAt written.bytes Redundant.levelOffset 2) :=
    Page.uint_eq_ok (by rwa [Page.size_write])
  have hkind := Redundant.kind_of_level hinfimum hsupremum hlevelRead
  have hread : read = (Redundant.fields written origin ⟨extents.length, width⟩ columns).map
      fun fields => { header with fields } := by
    have hsentinel : header.kind.isSentinel = false := by
      simp only [header]
      split <;> rfl
    simp only [read, RecordHeader.read]
    rw [if_neg (by rw [Page.size_write, RowFormat.fixedSize]; omega)]
    exact Redundant.header_of_holdsBefore columns (by omega) hfits hkind hsentinel hholds
  refine ⟨fun hpositions => ⟨?_, fun column hcolumn => ?_⟩, ?_, htable, fun hne => ?_⟩
  · rw [hread, Redundant.fields_of_table htable hnames hpositions]
    rfl
  · exact Redundant.get?_headerOf hnames hcolumn (hpositions column hcolumn)
  · rintro ⟨missing, hmissing, hposition⟩
    have hsome : (columns.find? (extents.length ≤ ·.position)).isSome :=
      List.find?_isSome.2 ⟨missing, hmissing, by simpa using hposition⟩
    obtain ⟨column, hfind⟩ := Option.isSome_iff_exists.1 hsome
    refine ⟨column, hfind, ?_⟩
    rw [hread, Redundant.fields_of_missing htable hfind]
    rfl
  · have hlast := Redundant.lastEntry_of_holdsBefore hfits hne htableBytes
    rwa [Nat.zero_add] at hlast

/-- Entries of two bytes with both marks: a NULL that takes up bytes and a value that is stored
elsewhere. Columns find their fields by position, and one past the last field is an error. -/
theorem read_written_redundantHeader_marked :
    let page : Page := ⟨7, ⟨Array.replicate 128 0⟩, by decide +kernel⟩
    let extents : List Extent :=
      [{ length := 3 }, { length := 200, null := true }, { length := 40, external := true }]
    let column (name : String) (position : Nat) : Column :=
      { name, type := .blob, role := .row, position }
    let bytes := Redundant.headerBytes 2 extents ⟨0, 1, 5, 116⟩
    let written := page.write (120 - bytes.length) bytes
    bytes = [64, 243, 128, 203, 0, 3, 1, 0, 40, 6, 0, 116] ∧
      (∃ header, RecordHeader.read written .redundant (some [column "b" 2, column "a" 0]) 120 =
          .ok header ∧
        header.fields.get? "b" = some { length := 40, external := true }) ∧
      RecordHeader.read written .redundant (some [column "a" 0, column "z" 3]) 120 =
        .error (.format (.fieldMissing 120 7 3 "z" 3)) := by
  intro page extents column bytes written
  have hfits : Redundant.Fits 2 0 extents := .two (by decide)
  have hbytes : bytes = [64, 243, 128, 203, 0, 3, 1, 0, 40, 6, 0, 116] := by decide +kernel
  have hroom : bytes.length ≤ 120 := by rw [hbytes]; decide
  have hcolumns (columns : List Column) (hnames : (columns.map (·.name)).Nodup) :=
    read_written_redundantHeader page ⟨0, 1, 5, 116⟩ (by decide) hfits hnames (by decide)
      (by decide) hroom (by decide +kernel) (by decide +kernel)
  have hfound := (hcolumns [column "b" 2, column "a" 0] (by decide +kernel)).1
  have hmissing := (hcolumns [column "a" 0, column "z" 3] (by decide +kernel)).2.1
  obtain ⟨hread, hfields⟩ := hfound (by decide +kernel)
  obtain ⟨missing, hfind, herror⟩ := hmissing (by decide +kernel)
  have hz : some (column "z" 3) = some missing := by
    rw [← hfind]
    decide +kernel
  cases hz
  exact ⟨hbytes, ⟨_, hread, hfields (column "b" 2) (by decide +kernel)⟩, herror⟩

end Tablespace
