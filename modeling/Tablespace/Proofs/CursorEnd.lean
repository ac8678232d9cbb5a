import Mathlib.Data.List.Chain
import Tablespace.Proofs.CursorCalls
import Tablespace.Proofs.RecordWalk

/-!
# Cursors come to an end

Links are not trusted: they may lead back to the infimum, or into the header of another record. A
forward cursor still answers only so often, and its last answer tells whether the links go round in
a circle.

A record has one link. So if the links come to a record for the second time, the records between the
two visits lead to each other for ever (`Node.exists_closed_of_not_nodup`), and none of them ends
the chain; where a walk ends, it has met no record twice.

Main statement: `Cursor.forward_ends`.
-/

namespace Tablespace

namespace Node

variable {node : Node} {origin next : Nat}

/-- The record at `origin` links to the record at `next`, which is another one. -/
def LinksTo (node : Node) (origin next : Nat) : Prop :=
  node.HasRoomAt origin ∧ ¬ node.EndsAt origin ∧ node.linkAt origin = next

instance (node : Node) (origin : Nat) : Decidable (node.HasRoomAt origin) := instDecidableAnd

instance (node : Node) (origin : Nat) : Decidable (node.EndsAt origin) := instDecidableOr

instance (node : Node) : DecidableRel node.LinksTo := fun _ _ => instDecidableAnd

/-! ## One link -/

theorem readHeader_of_no_room (h : ¬ node.HasRoomAt origin) (columns : Option (List Column)) :
    RecordHeader.read node.page node.format columns origin =
      .error (.format (.recordOutside origin node.number)) := by
  unfold HasRoomAt at h
  unfold RecordHeader.read
  rw [if_pos (by omega)]
  rfl

theorem headerAt_of_no_room (h : ¬ node.HasRoomAt origin) :
    node.headerAt origin = .error (.format (.recordOutside origin node.number)) :=
  readHeader_of_no_room h none

theorem LinksTo.successor (h : node.LinksTo origin next) :
    node.successor origin = .ok (some next) := by
  obtain ⟨hroom, hlink, rfl⟩ := h
  exact successor_of_not_endsAt hroom hlink

/-- There is no record at an offset, or its link ends the chain, or it leads to another record. -/
theorem successor_cases (node : Node) (origin : Nat) :
    (∃ e, node.headerAt origin = .error e ∧ node.successor origin = .error e) ∨
      (node.HasRoomAt origin ∧ node.EndsAt origin ∧ node.successor origin = .ok none) ∨
      ∃ next, node.LinksTo origin next ∧ node.successor origin = .ok (some next) := by
  by_cases hroom : node.HasRoomAt origin
  · by_cases hends : node.EndsAt origin
    · exact .inr (.inl ⟨hroom, hends, successor_of_endsAt hroom hends⟩)
    · have hlink : node.LinksTo origin (node.linkAt origin) := ⟨hroom, hends, rfl⟩
      exact .inr (.inr ⟨_, hlink, hlink.successor⟩)
  · have hread := headerAt_of_no_room hroom
    refine .inl ⟨_, hread, ?_⟩
    rw [successor, hread, error_bind]

/-! ## The walk -/

/-- A walk goes along the links. -/
theorem isChain_walk (node : Node) (budget origin : Nat) :
    (origin :: (node.walk budget origin).1).IsChain node.LinksTo := by
  induction budget generalizing origin with
  | zero =>
    have hnone : (node.walk 0 origin).1 = [] := by
      have hlength := node.length_walk_le 0 origin
      exact List.length_eq_zero_iff.1 (Nat.le_zero.1 hlength)
    rw [hnone]
    exact .singleton origin
  | succ budget ih =>
    rcases node.successor_cases origin with ⟨e, -, h⟩ | ⟨-, -, h⟩ | ⟨next, hlink, h⟩
    · rw [walk_of_error h]
      exact .singleton origin
    · rw [walk_of_none h]
      exact .singleton origin
    · rw [walk_succ_of_some h]
      exact .cons_cons hlink (ih next)

/-- A walk that is not broken off stands at a record whose link ends the chain. -/
theorem exists_endsAt_of_walk {budget : Nat} (h : (node.walk budget origin).2 = none) :
    ∃ last, (origin :: (node.walk budget origin).1).getLast? = some last ∧
      node.HasRoomAt last ∧ node.EndsAt last := by
  induction budget generalizing origin with
  | zero =>
    rcases node.successor_cases origin with ⟨e, -, hnext⟩ | ⟨hroom, hends, hnext⟩ | ⟨next, -, hnext⟩
    · rw [walk_of_error hnext] at h
      cases h
    · rw [walk_of_none hnext]
      exact ⟨origin, rfl, hroom, hends⟩
    · rw [walk_zero_of_some hnext] at h
      cases h
  | succ budget ih =>
    rcases node.successor_cases origin with ⟨e, -, hnext⟩ | ⟨hroom, hends, hnext⟩ | ⟨next, -, hnext⟩
    · rw [walk_of_error hnext] at h
      cases h
    · rw [walk_of_none hnext]
      exact ⟨origin, rfl, hroom, hends⟩
    · rw [walk_succ_of_some hnext] at h ⊢
      rw [List.getLast?_cons_cons]
      exact ih h

/-- What breaks a walk off is a circle, unless there is no record where it starts. -/
theorem fault_of_walk {budget : Nat} {e : Error} (h : (node.walk budget origin).2 = some e) :
    (∃ last, e = node.loopAt last) ∨
      ((node.walk budget origin).1 = [] ∧ node.headerAt origin = .error e) := by
  rcases node.successor_cases origin with ⟨cause, hread, hnext⟩ | ⟨hroom, -, -⟩ | ⟨-, ⟨hroom, -⟩, -⟩
  · rw [walk_of_error hnext] at h ⊢
    cases h
    exact .inr ⟨rfl, hread⟩
  · exact .inl (eq_loopAt_of_walk hroom h)
  · exact .inl (eq_loopAt_of_walk hroom h)

/-! ## Circles -/

/-- Where steps come to a place for the second time, the places between the two visits lead to each
other. -/
theorem exists_closed_of_not_nodup {step : Nat → Nat → Prop} {places : List Nat} {start : Nat}
    (hchain : (start :: places).IsChain step) (hagain : ¬ (start :: places).Nodup) :
    ∃ among : Nat → Prop, among start ∧
      ∀ place, among place → ∃ next, step place next ∧ among next := by
  rw [List.nodup_iff_getElem?_ne_getElem?] at hagain
  simp only [not_forall, not_not] at hagain
  obtain ⟨first, second, hbefore, hlength, hsame⟩ := hagain
  -- the places before the second visit; the last of them leads to the first visit
  refine ⟨fun place => ∃ n < second, (start :: places)[n]? = some place,
    ⟨0, Nat.zero_lt_of_lt hbefore, rfl⟩, ?_⟩
  rintro place ⟨n, hn, hplace⟩
  obtain ⟨hinside, rfl⟩ := List.getElem?_eq_some_iff.1 hplace
  have hstep := List.isChain_iff_getElem.1 hchain n (by omega)
  refine ⟨_, hstep, ?_⟩
  rcases Nat.lt_or_ge (n + 1) second with hlt | hge
  · exact ⟨n + 1, hlt, List.getElem?_eq_getElem _⟩
  · obtain rfl : n + 1 = second := by omega
    exact ⟨first, hbefore, hsame.trans (List.getElem?_eq_getElem hlength)⟩

/-- Links that come to a record for the second time break every walk off. -/
theorem loop_of_not_nodup {visited : List Nat}
    (hlinks : (origin :: visited).IsChain node.LinksTo) (hagain : ¬ (origin :: visited).Nodup)
    (budget : Nat) : ∃ last, (node.walk budget origin).2 = some (node.loopAt last) := by
  obtain ⟨among, hstart, hclosed⟩ := exists_closed_of_not_nodup hlinks hagain
  have hsuccessor : ∀ place, among place →
      ∃ next, node.successor place = .ok (some next) ∧ among next := by
    intro place hplace
    obtain ⟨next, hlink, hnext⟩ := hclosed place hplace
    exact ⟨next, hlink.successor, hnext⟩
  exact (walk_of_closed hsuccessor budget hstart).2

end Node

namespace Cursor

/-- From whatever place it starts and whatever the bytes of the page are, a forward cursor meets no
more records than the page has room for, then at most one error, and then nothing for ever. It goes
along the links. If these come to a record for the second time without an end of the chain before,
the last answer is that the records of this page are linked in a circle. If no answer says so, the
cursor has met no record twice and stands at the end of the chain, unless it did not start at a
record and its only answer is that. -/
theorem forward_ends (node : Node) (place : Nat) :
    ∃ (origins : List Nat) (fault : Option Error),
      (start node place .forward).items = origins.map node.recordAt ++ fault.toList.map .error ∧
      origins.length ≤ node.page.size / node.format.fixedSize ∧
      (∀ n, ((start node place .forward).after n).next.1 = (start node place .forward).items[n]?) ∧
      (∀ n, (place :: origins)[min n origins.length]? =
        some ((start node place .forward).after n).position) ∧
      (place :: origins).IsChain node.LinksTo ∧
      (∀ visited, (place :: visited).IsChain node.LinksTo → ¬ (place :: visited).Nodup →
        ∃ last, (start node place .forward).items.getLast? =
          some (.error (.link node.number (.recordLoop last)))) ∧
      ((∀ page cause, .error (.link page cause) ∉ (start node place .forward).items) →
        (place :: origins).Nodup ∧
          ((∃ last, (place :: origins).getLast? = some last ∧ node.HasRoomAt last ∧
              node.EndsAt last) ∨
            ∃ e, node.headerAt place = .error e ∧ origins = [] ∧ fault = some e)) := by
  have hitems := items_forward node place
  rw [ofWalk] at hitems
  refine ⟨_, _, hitems, node.length_walk_le node.stepLimit place, next_after_start node place,
    position_after_start node place, node.isChain_walk node.stepLimit place, ?_, ?_⟩
  · intro visited hlinks hagain
    obtain ⟨last, hloop⟩ := Node.loop_of_not_nodup hlinks hagain node.stepLimit
    refine ⟨last, ?_⟩
    rw [hitems, hloop]
    exact List.getLast?_concat
  · intro hnoLoop
    have hends : ∀ last, (node.walk node.stepLimit place).2 ≠ some (node.loopAt last) := by
      intro last hloop
      refine hnoLoop node.number (.recordLoop last) ?_
      rw [hitems, hloop]
      exact List.mem_append_right _ List.mem_cons_self
    constructor
    · by_contra hagain
      obtain ⟨last, hloop⟩ :=
        Node.loop_of_not_nodup (node.isChain_walk node.stepLimit place) hagain node.stepLimit
      exact hends last hloop
    · cases hfault : (node.walk node.stepLimit place).2 with
      | none => exact .inl (Node.exists_endsAt_of_walk hfault)
      | some e =>
        rcases Node.fault_of_walk hfault with ⟨last, rfl⟩ | ⟨hnone, hread⟩
        · exact absurd hfault (hends last)
        · exact .inr ⟨e, hread, hnone, rfl⟩

end Cursor

/-! ## Two records that link to each other -/

namespace Circle

/-- The infimum links to the record at 117, which links to the one at 119, which links back. The
header of the second takes in the link of the first. -/
def image : ByteArray :=
  ⟨⟨List.replicate 24 0 ++ [69, 191] ++ List.replicate 16 0 ++ [128, 4] ++ List.replicate 53 0 ++
    [0, 18] ++ List.replicate 16 0 ++ [0, 2, 255, 254, 0]⟩⟩

def node : Node := ⟨⟨5, image, by decide +kernel⟩, none, by decide +kernel, by decide +kernel⟩

end Circle

/-- The links come back to the first record without having met an end. The page has room for 24
headers: a cursor answers 24 times with one of the two records, then reports the circle, and then
nothing more. -/
theorem Cursor.forward_ends_circle :
    [Circle.node.format.infimum, 117, 119, 117].IsChain Circle.node.LinksTo ∧
      Circle.node.cursor.items.length = 25 ∧
      (∃ last, (Circle.node.cursor.after 24).next.1 =
        some (.error (.link 5 (.recordLoop last)))) ∧
      ∀ n, 25 ≤ n → (Circle.node.cursor.after n).next.1 = none := by
  obtain ⟨origins, fault, -, -, hcalls, -, -, hloop, -⟩ :=
    forward_ends Circle.node Circle.node.format.infimum
  have hcursor : start Circle.node Circle.node.format.infimum .forward = Circle.node.cursor := rfl
  rw [hcursor] at hcalls
  have hlinks : [Circle.node.format.infimum, 117, 119, 117].IsChain Circle.node.LinksTo := by
    decide +kernel
  have hlength : Circle.node.cursor.items.length = 25 := by decide +kernel
  refine ⟨hlinks, hlength, ?_, ?_⟩
  · obtain ⟨last, hlast⟩ := hloop [117, 119, 117] hlinks (by decide +kernel)
    refine ⟨last, ?_⟩
    rw [hcursor, List.getLast?_eq_getElem?, hlength] at hlast
    rw [hcalls]
    exact hlast
  · intro n hn
    rw [hcalls]
    exact List.getElem?_eq_none (by omega)

end Tablespace
