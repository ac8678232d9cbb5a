import Tablespace.Proofs.Steps
import Tablespace.Record.Decode

/-!
# The parts of a record

A record that can be read comes from parts that can be read one after the other: the numbers of the
fixed header, what the header says of the columns, the columns, and the child. For records that hold
columns the parts are listed here, so that what holds of each part can be put together.
-/

namespace Tablespace

variable {page : Page} {origin : Nat} {header : RecordHeader}

theorem Compact.header_eq_ok_iff {columns : List Column} :
    Compact.header page (some columns) origin = .ok header ∧ header.kind.isSentinel = false ↔
      ∃ info status distance fields length,
        page.byte (origin - 5) = .ok info ∧ page.uint (origin - 4) 2 = .ok status ∧
        page.uint (origin - 2) 2 = .ok distance ∧
        (RecordKind.ofStatus status).isSentinel = false ∧
        Compact.fields page origin columns = .ok (fields, length) ∧
        header =
          { origin, format := .compact, next := target origin distance,
            kind := .ofStatus status, heapNumber := status / 8, owned := info % 16,
            flags := info / 16 * 16, ends := none, fields, length := 5 + length } := by
  constructor
  · rintro ⟨h, hkind⟩
    unfold Compact.header at h
    obtain ⟨info, hinfo, h⟩ := bind_eq_ok_iff.1 h
    obtain ⟨status, hstatus, h⟩ := bind_eq_ok_iff.1 h
    obtain ⟨distance, hdistance, h⟩ := bind_eq_ok_iff.1 h
    simp only at h
    split at h
    · rename_i hsentinel
      cases h
      exact absurd hsentinel (by simpa using hkind)
    · obtain ⟨⟨fields, length⟩, hfields, h⟩ := bind_eq_ok_iff.1 h
      cases h
      exact ⟨info, status, distance, fields, length, hinfo, hstatus, hdistance, hkind, hfields,
        rfl⟩
  · rintro ⟨info, status, distance, fields, length, hinfo, hstatus, hdistance, hkind, hfields, rfl⟩
    refine ⟨?_, hkind⟩
    unfold Compact.header
    rw [hinfo, ok_bind, hstatus, ok_bind, hdistance, ok_bind]
    simp only [hkind, Bool.false_eq_true, if_false]
    rw [hfields, ok_bind]
    rfl

theorem Redundant.header_eq_ok_iff {columns : List Column} :
    Redundant.header page (some columns) origin = .ok header ∧ header.kind.isSentinel = false ↔
      ∃ info bits next kind ends fields,
        page.byte (origin - 6) = .ok info ∧ page.uint (origin - 5) 3 = .ok bits ∧
        page.uint (origin - 2) 2 = .ok next ∧ Redundant.kind page origin = .ok kind ∧
        kind.isSentinel = false ∧
        ends = { count := bits / 2 % 2 ^ 10, width := if bits % 2 = 1 then 1 else 2 } ∧
        Redundant.fields page origin ends columns = .ok fields ∧
        header =
          { origin, format := .redundant, next, kind, heapNumber := bits / 2 ^ 11,
            owned := info % 16, flags := info / 16 * 16, ends := some ends, fields,
            length := 6 + ends.count * ends.width } := by
  constructor
  · rintro ⟨h, hsentinel⟩
    unfold Redundant.header at h
    obtain ⟨info, hinfo, h⟩ := bind_eq_ok_iff.1 h
    obtain ⟨bits, hbits, h⟩ := bind_eq_ok_iff.1 h
    obtain ⟨next, hnext, h⟩ := bind_eq_ok_iff.1 h
    obtain ⟨kind, hkind, h⟩ := bind_eq_ok_iff.1 h
    simp only at h
    split at h
    · rename_i hother
      cases h
      exact absurd hother (by simpa using hsentinel)
    · obtain ⟨fields, hfields, h⟩ := bind_eq_ok_iff.1 h
      cases h
      exact ⟨info, bits, next, kind, _, fields, hinfo, hbits, hnext, hkind, hsentinel, rfl,
        hfields, rfl⟩
  · rintro ⟨info, bits, next, kind, ends, fields, hinfo, hbits, hnext, hkind, hsentinel, rfl,
      hfields, rfl⟩
    refine ⟨?_, hsentinel⟩
    unfold Redundant.header
    rw [hinfo, ok_bind, hbits, ok_bind, hnext, ok_bind]
    simp only
    rw [hkind, ok_bind]
    simp only [hsentinel, Bool.false_eq_true, if_false]
    rw [hfields, ok_bind]
    rfl

theorem RecordHeader.read_eq_ok_iff {format : RowFormat} {columns : Option (List Column)} :
    RecordHeader.read page format columns origin = .ok header ↔
      format.fixedSize ≤ origin ∧ origin < page.size ∧
        (format = .compact → Compact.header page columns origin = .ok header) ∧
        (format = .redundant → Redundant.header page columns origin = .ok header) := by
  unfold RecordHeader.read
  by_cases houtside : origin < format.fixedSize ∨ page.size ≤ origin
  · rw [if_pos houtside]
    constructor
    · intro h
      cases h
    · rintro ⟨hroom, hinside, -⟩
      omega
  · rw [if_neg houtside]
    have hroom : format.fixedSize ≤ origin := by omega
    have hinside : origin < page.size := by omega
    cases format <;> simp [hroom, hinside]

/-- A record with columns: its header, its fields, and the child of one that points to a page. -/
theorem Record.parts_of_read {format : RowFormat} {columns : List Column} {record : Record}
    (h : Record.read page format (some columns) origin = .ok record)
    (hkind : record.kind.isSentinel = false) :
    RecordHeader.read page format (some columns) origin = .ok record.header ∧
      ∃ finish, readFields page record.header columns origin = .ok (record.fields, finish) ∧
        (record.kind = .nodePointer →
          ∃ child, page.uint finish 4 = .ok child ∧ record.child = some child) ∧
        (record.kind ≠ .nodePointer → record.child = none) := by
  unfold Record.read at h
  obtain ⟨header, hheader, h⟩ := bind_eq_ok_iff.1 h
  simp only at h
  split at h
  · rename_i hsentinel
    cases h
    exact absurd hsentinel (by simpa [Record.kind] using hkind)
  · obtain ⟨⟨fields, finish⟩, hfields, h⟩ := bind_eq_ok_iff.1 h
    simp only at h
    split at h
    · rename_i hpointer
      cases hread : page.uint finish 4 with
      | error e =>
        rw [hread] at h
        cases h
      | ok child =>
        rw [hread] at h
        cases h
        exact ⟨hheader, finish, hfields, fun _ => ⟨child, hread, rfl⟩,
          fun hother => absurd hpointer hother⟩
    · rename_i hother
      cases h
      exact ⟨hheader, finish, hfields, fun hpointer => absurd hpointer hother, fun _ => rfl⟩

end Tablespace
