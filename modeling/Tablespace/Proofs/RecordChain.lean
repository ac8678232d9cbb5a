import Mathlib.Data.List.Nodup
import Tablespace.Index.Cursor
import Tablespace.Proofs.Steps

/-!
# Chains that end are walked to their end

`Node.Linked` says that the links of a node lead through given records to the supremum. Where no two
of these records share a byte of their fixed headers there are no more of them than the page has
room for, so the walk is not taken for a loop: `cursor_items_of_linked` says that the cursor meets
each record of the chain once and in order.
-/

namespace Tablespace

/-! ## Room for headers -/

/-- The `width` bytes before one place and those before another have no byte in common. -/
def Apart (width a b : Nat) : Prop := a + width ≤ b ∨ b + width ≤ a

instance (width a b : Nat) : Decidable (Apart width a b) := instDecidableOr

theorem Apart.ne {width a b : Nat} (hwidth : 0 < width) (h : Apart width a b) : a ≠ b := by
  unfold Apart at h
  omega

/-- Headers that are apart do not take up more bytes than there are. -/
theorem length_mul_le_of_apart {width size : Nat} {stops : List Nat}
    (hapart : stops.Pairwise (Apart width)) (hrange : ∀ stop ∈ stops, width ≤ stop ∧ stop ≤ size) :
    stops.length * width ≤ size := by
  -- each stop stands for the offsets of the bytes before it, all of them different
  have hnodup : (stops.flatMap fun stop => List.range' (stop - width) width).Nodup := by
    rw [List.nodup_flatMap]
    refine ⟨fun stop _ => List.nodup_range', hapart.imp_of_mem ?_⟩
    intro a b ha hb hab i hia hib
    have hafits := (hrange a ha).1
    have hbfits := (hrange b hb).1
    simp only [List.mem_range'_1] at hia hib
    unfold Apart at hab
    omega
  have hsubset : (stops.flatMap fun stop => List.range' (stop - width) width) ⊆
      List.range size := by
    intro i hi
    obtain ⟨stop, hstop, hmem⟩ := List.mem_flatMap.1 hi
    obtain ⟨hfits, hsize⟩ := hrange stop hstop
    rw [List.mem_range'_1] at hmem
    rw [List.mem_range]
    omega
  have hlength := hnodup.length_le_of_subset hsubset
  simpa [List.length_flatMap] using hlength

/-! ## The chain -/

/-- A record whose header can be read lies on the page and has room for the fixed part. -/
theorem RecordHeader.bounds_of_read {page : Page} {format : RowFormat}
    {columns : Option (List Column)} {origin : Nat} {header : RecordHeader}
    (h : RecordHeader.read page format columns origin = .ok header) :
    format.fixedSize ≤ origin ∧ origin < page.size := by
  unfold RecordHeader.read at h
  split at h
  · cases h
  · omega

namespace Node

/-- The links lead from `origin` through just these records to the supremum. -/
inductive Linked (node : Node) : (origin : Nat) → List Nat → Prop where
  /-- The supremum comes next. -/
  | last {origin : Nat} {header : RecordHeader} (hread : node.headerAt origin = .ok header)
      (hnext : header.next = node.format.supremum) : Linked node origin []
  /-- Another record comes next. -/
  | link {origin next : Nat} {rest : List Nat} {header : RecordHeader}
      (hread : node.headerAt origin = .ok header) (hnext : header.next = next)
      (hne : next ≠ node.format.supremum) (hrest : Linked node next rest) :
      Linked node origin (next :: rest)

variable {node : Node} {origin : Nat} {origins : List Nat}

theorem linked_nil_iff :
    node.Linked origin [] ↔
      (node.headerAt origin).toOption.map (·.next) = some node.format.supremum := by
  rw [map_toOption_eq_some_iff]
  constructor
  · rintro (⟨hread, hnext⟩ | _)
    exact ⟨_, hread, hnext⟩
  · rintro ⟨header, hread, hnext⟩
    exact .last hread hnext

theorem linked_cons_iff {next : Nat} :
    node.Linked origin (next :: origins) ↔
      (node.headerAt origin).toOption.map (·.next) = some next ∧
        next ≠ node.format.supremum ∧ node.Linked next origins := by
  rw [map_toOption_eq_some_iff]
  constructor
  · rintro (_ | ⟨hread, hnext, hne, hrest⟩)
    exact ⟨⟨_, hread, hnext⟩, hne, hrest⟩
  · rintro ⟨⟨header, hread, hnext⟩, hne, hrest⟩
    exact .link hread hnext hne hrest

/-- Whether the links lead through given records can be computed. -/
instance decidableLinked (node : Node) :
    (origin : Nat) → (origins : List Nat) → Decidable (node.Linked origin origins)
  | _, [] => decidable_of_iff _ linked_nil_iff.symm
  | _, next :: rest =>
    have := decidableLinked node next rest
    decidable_of_iff _ linked_cons_iff.symm

theorem Linked.exists_header {next : Nat} (h : node.Linked origin (next :: origins)) :
    ∃ header, node.headerAt origin = .ok header ∧ header.next = next ∧
      next ≠ node.format.supremum := by
  cases h with
  | link hread hnext hne => exact ⟨_, hread, hnext, hne⟩

theorem Linked.bounds (h : node.Linked origin origins) :
    node.format.fixedSize ≤ origin ∧ origin < node.page.size := by
  cases h with
  | last hread => exact RecordHeader.bounds_of_read hread
  | link hread => exact RecordHeader.bounds_of_read hread

theorem Linked.bounds_of_mem (h : node.Linked origin origins) :
    ∀ next ∈ origins, node.format.fixedSize ≤ next ∧ next < node.page.size := by
  induction h with
  | last => simp
  | link _ _ _ hrest ih =>
    intro next hmem
    rcases List.mem_cons.1 hmem with rfl | hmem
    · exact hrest.bounds
    · exact ih next hmem

/-- A record of a chain whose records are apart is not the one before it. From the infimum the chain
could only lead to the infimum again, which would be next once more. -/
theorem Linked.next_ne {next : Nat} (h : node.Linked origin (next :: origins))
    (hapart : (next :: origins).Pairwise (Apart node.format.fixedSize)) : next ≠ origin := by
  rintro rfl
  cases h with
  | link hread hnext hne hrest =>
    cases hrest with
    | last hreadNext hlast =>
      rw [hread, Except.ok.injEq] at hreadNext
      exact hne (by rw [← hnext, hreadNext, hlast])
    | link hreadNext hnextNext =>
      rw [hread, Except.ok.injEq] at hreadNext
      have heads := (List.pairwise_cons.1 hapart).1 _ List.mem_cons_self
      exact heads.ne node.format.fixedSize_pos (by rw [← hnext, hreadNext, hnextNext])

theorem successor_of_last {header : RecordHeader} (hread : node.headerAt origin = .ok header)
    (hnext : header.next = node.format.supremum) : node.successor origin = .ok none := by
  rw [successor, hread, ok_bind, if_pos (.inl hnext)]
  rfl

theorem successor_of_link {next : Nat} (h : node.Linked origin (next :: origins))
    (hdifferent : next ≠ origin) : node.successor origin = .ok (some next) := by
  cases h with
  | link hread hnext hne hrest =>
    obtain ⟨hfits, hlt⟩ := hrest.bounds
    subst hnext
    rw [successor, hread, ok_bind, if_neg (not_or.2 ⟨hne, hdifferent⟩), if_neg (by omega)]
    rfl

/-- A walk with enough links meets the records of the chain and ends without an error. -/
theorem walk_of_linked {budget : Nat} (h : node.Linked origin origins)
    (hapart : origins.Pairwise (Apart node.format.fixedSize)) (hbudget : origins.length ≤ budget) :
    node.walk budget origin = (origins, none) := by
  induction h generalizing budget with
  | last hread hnext => exact walk_of_none (successor_of_last hread hnext) budget
  | link hread hnext hne hrest ih =>
    have hlink := Linked.link hread hnext hne hrest
    have hsuccessor := successor_of_link hlink (hlink.next_ne hapart)
    cases budget with
    | zero => cases hbudget
    | succ budget =>
      have hwalk := ih (List.pairwise_cons.1 hapart).2 (Nat.le_of_succ_le_succ hbudget)
      rw [walk_succ_of_some hsuccessor, hwalk]

/-- A chain of records that are apart has no more of them than the page has room for. -/
theorem Linked.length_le (h : node.Linked origin origins)
    (hapart : origins.Pairwise (Apart node.format.fixedSize)) :
    origins.length ≤ node.stepLimit := by
  have hroom : origins.length * node.format.fixedSize ≤ node.page.size := by
    refine length_mul_le_of_apart hapart fun next hmem => ?_
    obtain ⟨hfits, hlt⟩ := h.bounds_of_mem next hmem
    exact ⟨hfits, Nat.le_of_lt hlt⟩
  exact (Nat.le_div_iff_mul_le node.format.fixedSize_pos).2 hroom

/-- The cursor of a node meets every record of the chain once, in the order of the links. -/
theorem cursor_items_of_linked (h : node.Linked node.format.infimum origins)
    (hapart : origins.Pairwise (Apart node.format.fixedSize)) :
    node.cursor.items = origins.map node.recordAt := by
  rw [cursor, Cursor.items_forward, walk_of_linked h hapart (h.length_le hapart), Cursor.ofWalk]
  simp

end Node

end Tablespace
