import Tablespace.Proofs.RecordChain

/-!
# Walks over arbitrary bytes

The fixed part of a header can be read wherever it lies on the page, and a link to anywhere else
ends the chain. So whatever the bytes are, a walk that starts at a record is never kept from going
on: it comes to an end of the chain, or it goes in a circle until it is broken off.

Main statements: `Node.successor_of_endsAt` and `Node.successor_of_not_endsAt`, the link of a record
alone decides what follows on it; `Node.eq_loopAt_of_walk`, a circle is the only error of a walk;
`Node.walk_of_closed`, a walk that comes to no end is broken off when its budget is spent.
-/

namespace Tablespace

/-! ## Headers without columns -/

section Headers

variable {page : Page} {origin : Nat}

theorem Compact.exists_header (hroom : 5 ≤ origin) (hinside : origin < page.size) :
    ∃ header, Compact.header page none origin = .ok header ∧ header.origin = origin ∧
      header.next = target origin (fieldAt page.bytes (origin - 2) 2) := by
  have hinfo : page.byte (origin - 5) = .ok (fieldAt page.bytes (origin - 5) 1) :=
    Page.uint_eq_ok (by omega)
  have hstatus : page.uint (origin - 4) 2 = .ok (fieldAt page.bytes (origin - 4) 2) :=
    Page.uint_eq_ok (by omega)
  have hdistance : page.uint (origin - 2) 2 = .ok (fieldAt page.bytes (origin - 2) 2) :=
    Page.uint_eq_ok (by omega)
  rw [Compact.header, hinfo, ok_bind, hstatus, ok_bind, hdistance, ok_bind]
  exact ⟨_, rfl, rfl, rfl⟩

/-- The kind of a record is known on every page that is long enough to have a level. -/
theorem Redundant.exists_kind (hlong : IndexHeader.extent ≤ page.size) (origin : Nat) :
    ∃ kind, Redundant.kind page origin = .ok kind := by
  have hextent : IndexHeader.extent = 74 := rfl
  have hoffset : levelOffset = 64 := rfl
  have hlevel : page.uint levelOffset 2 = .ok (fieldAt page.bytes levelOffset 2) :=
    Page.uint_eq_ok (by omega)
  unfold Redundant.kind
  split
  · exact ⟨_, rfl⟩
  · split
    · exact ⟨_, rfl⟩
    · rw [hlevel]
      exact ⟨_, rfl⟩

theorem Redundant.exists_header (hlong : IndexHeader.extent ≤ page.size) (hroom : 6 ≤ origin)
    (hinside : origin < page.size) :
    ∃ header, Redundant.header page none origin = .ok header ∧ header.origin = origin ∧
      header.next = fieldAt page.bytes (origin - 2) 2 := by
  have hinfo : page.byte (origin - 6) = .ok (fieldAt page.bytes (origin - 6) 1) :=
    Page.uint_eq_ok (by omega)
  have hbits : page.uint (origin - 5) 3 = .ok (fieldAt page.bytes (origin - 5) 3) :=
    Page.uint_eq_ok (by omega)
  have hnext : page.uint (origin - 2) 2 = .ok (fieldAt page.bytes (origin - 2) 2) :=
    Page.uint_eq_ok (by omega)
  obtain ⟨kind, hkind⟩ := Redundant.exists_kind hlong origin
  rw [Redundant.header, hinfo, ok_bind, hbits, ok_bind, hnext, ok_bind, hkind, ok_bind]
  exact ⟨_, rfl, rfl, rfl⟩

end Headers

namespace Node

variable {node : Node} {origin : Nat}

/-! ## Links -/

/-- Where the record at `origin` links to: a compact record has the distance, a redundant one the
place. -/
def linkAt (node : Node) (origin : Nat) : Nat :=
  let stored := fieldAt node.page.bytes (origin - 2) 2
  match node.format with
  | .compact => Compact.target origin stored
  | .redundant => stored

/-- The offset lies on the page and has room for the fixed part of a header before it. -/
def HasRoomAt (node : Node) (origin : Nat) : Prop :=
  node.format.fixedSize ≤ origin ∧ origin < node.page.size

/-- The link of the record at `origin` ends the chain: it leads to the supremum, to the record
itself or to where there is no room for a record. -/
def EndsAt (node : Node) (origin : Nat) : Prop :=
  node.linkAt origin = node.format.supremum ∨ node.linkAt origin = origin ∨
    ¬ node.HasRoomAt (node.linkAt origin)

/-- The header of a record can be read wherever there is room for it. -/
theorem exists_headerAt (h : node.HasRoomAt origin) :
    ∃ header, node.headerAt origin = .ok header ∧ header.origin = origin ∧
      header.next = node.linkAt origin := by
  obtain ⟨hroom, hinside⟩ := h
  unfold headerAt linkAt RecordHeader.read
  rw [if_neg (by omega)]
  cases hformat : node.format with
  | compact =>
    rw [hformat] at hroom
    exact Compact.exists_header hroom hinside
  | redundant =>
    rw [hformat] at hroom
    exact Redundant.exists_header node.headerFits hroom hinside

theorem successor_of_endsAt (h : node.HasRoomAt origin) (hends : node.EndsAt origin) :
    node.successor origin = .ok none := by
  obtain ⟨header, hread, -, hnext⟩ := exists_headerAt h
  rw [successor, hread, ok_bind, hnext]
  by_cases hstop : node.linkAt origin = node.format.supremum ∨ node.linkAt origin = origin
  · rw [if_pos hstop]
    rfl
  · have hout : ¬ node.HasRoomAt (node.linkAt origin) := by
      rcases hends with hsupremum | hself | hout
      · exact absurd (.inl hsupremum) hstop
      · exact absurd (.inr hself) hstop
      · exact hout
    unfold HasRoomAt at hout
    rw [if_neg hstop, if_pos (by omega)]
    rfl

theorem successor_of_not_endsAt (h : node.HasRoomAt origin) (hlink : ¬ node.EndsAt origin) :
    node.successor origin = .ok (some (node.linkAt origin)) := by
  obtain ⟨header, hread, -, hnext⟩ := exists_headerAt h
  unfold EndsAt at hlink
  rw [not_or, not_or, not_not] at hlink
  obtain ⟨hsupremum, hself, hroom, hinside⟩ := hlink
  rw [successor, hread, ok_bind, hnext, if_neg (not_or.2 ⟨hsupremum, hself⟩), if_neg (by omega)]
  rfl

/-! ## Walks -/

/-- A walk that starts at a record has no error but that of a circle. -/
theorem eq_loopAt_of_walk {budget : Nat} {e : Error} (h : node.HasRoomAt origin)
    (hwalk : (node.walk budget origin).2 = some e) : ∃ last, e = node.loopAt last := by
  induction budget generalizing origin with
  | zero =>
    by_cases hends : node.EndsAt origin
    · rw [walk_of_none (successor_of_endsAt h hends)] at hwalk
      cases hwalk
    · rw [walk_zero_of_some (successor_of_not_endsAt h hends)] at hwalk
      cases hwalk
      exact ⟨_, rfl⟩
  | succ budget ih =>
    by_cases hends : node.EndsAt origin
    · rw [walk_of_none (successor_of_endsAt h hends)] at hwalk
      cases hwalk
    · have hnext : node.HasRoomAt (node.linkAt origin) := by
        by_contra hout
        exact hends (.inr (.inr hout))
      rw [walk_succ_of_some (successor_of_not_endsAt h hends)] at hwalk
      exact ih hnext hwalk

/-- A walk among records whose links lead to each other comes to no end: it is broken off when its
budget is spent. -/
theorem walk_of_closed {among : Nat → Prop}
    (hclosed : ∀ origin, among origin →
      ∃ next, node.successor origin = .ok (some next) ∧ among next)
    (budget : Nat) (hstart : among origin) :
    (node.walk budget origin).1.length = budget ∧
      ∃ last, (node.walk budget origin).2 = some (node.loopAt last) := by
  induction budget generalizing origin with
  | zero =>
    obtain ⟨next, hsuccessor, -⟩ := hclosed origin hstart
    rw [walk_zero_of_some hsuccessor]
    exact ⟨rfl, next, rfl⟩
  | succ budget ih =>
    obtain ⟨next, hsuccessor, hnext⟩ := hclosed origin hstart
    obtain ⟨hlength, hfault⟩ := ih hnext
    rw [walk_succ_of_some hsuccessor, List.length_cons, hlength]
    exact ⟨rfl, hfault⟩

/-! ## The sentinels -/

/-- There is room for both sentinels on every page that reaches beyond the supremum. -/
theorem hasRoomAt_sentinels (h : node.format.supremum < node.page.size) :
    node.HasRoomAt node.format.infimum ∧ node.HasRoomAt node.format.supremum := by
  unfold HasRoomAt
  cases hformat : node.format with
  | compact =>
    rw [hformat, RowFormat.supremum] at h
    simp only [RowFormat.fixedSize, RowFormat.infimum, RowFormat.supremum]
    omega
  | redundant =>
    rw [hformat, RowFormat.supremum] at h
    simp only [RowFormat.fixedSize, RowFormat.infimum, RowFormat.supremum]
    omega

theorem infimum_ne_supremum (node : Node) : node.format.infimum ≠ node.format.supremum := by
  cases node.format <;> decide

end Node

end Tablespace
