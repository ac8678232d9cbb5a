import Tablespace.Proofs.CursorEnd

/-!
# The two directions of a cursor

Records are linked in one direction only. A backward cursor walks from the infimum to the place from
which it starts and then goes back through the records that it passed. So from the supremum it meets
what a forward cursor meets from the infimum, in reverse; where the links go in a circle, both come
to the same error.

The place itself counts in neither direction. A walk from the infimum passes every record of the
chain and ends before the supremum, but it does not come to the infimum again: for a backward cursor
that starts there nothing says where to stop, and it goes through all records of the page.

Main statements: `Cursor.backward_mirrors_forward` and `Cursor.exclusive_of_linked`.
-/

namespace Tablespace

namespace Node

variable {node : Node} {origin place : Nat} {origins before after : List Nat}

/-! ## Records before a place -/

theorem LinksTo.ne_supremum {next : Nat} (h : node.LinksTo origin next) :
    next ≠ node.format.supremum := by
  obtain ⟨-, hlink, rfl⟩ := h
  intro hsupremum
  exact hlink (.inl hsupremum)

/-- No walk comes to the supremum: the link to it ends the chain. -/
theorem supremum_notMem_walk (node : Node) (budget origin : Nat) :
    node.format.supremum ∉ (node.walk budget origin).1 := by
  have hchain := node.isChain_walk budget origin
  generalize (node.walk budget origin).1 = origins at hchain ⊢
  induction origins generalizing origin with
  | nil => exact List.not_mem_nil
  | cons next origins ih =>
    obtain ⟨hlink, hrest⟩ := List.isChain_cons_cons.1 hchain
    intro hmem
    rcases List.mem_cons.1 hmem with hnext | hmem
    · exact hlink.ne_supremum hnext.symm
    · exact ih next hrest hmem

/-- Where the walk does not come to the place, all its records count as being before it. -/
theorem recordsBefore_of_notMem
    (h : place ∉ (node.walk node.stepLimit node.format.infimum).1) :
    node.recordsBefore place =
      match (node.walk node.stepLimit node.format.infimum).2 with
      | some e => .error e
      | none => .ok (node.walk node.stepLimit node.format.infimum).1 := by
  unfold recordsBefore
  exact if_neg h

/-! ## Places of a chain -/

theorem Linked.rest (h : node.Linked origin (before ++ place :: after)) :
    node.Linked place after := by
  induction before generalizing origin with
  | nil =>
    cases h with
    | link hread hnext hne hrest => exact hrest
  | cons next before ih =>
    cases h with
    | link hread hnext hne hrest => exact ih hrest

/-- A chain of records that are apart comes to none of them twice, and not back to its beginning. -/
theorem Linked.nodup (h : node.Linked origin origins)
    (hapart : origins.Pairwise (Apart node.format.fixedSize)) : (origin :: origins).Nodup := by
  have hwalk := walk_of_linked h hapart (h.length_le hapart)
  have hchain := node.isChain_walk node.stepLimit origin
  rw [hwalk] at hchain
  by_contra hagain
  obtain ⟨last, hloop⟩ := loop_of_not_nodup hchain hagain node.stepLimit
  rw [hwalk] at hloop
  cases hloop

theorem Linked.supremum_notMem (h : node.Linked origin origins)
    (hapart : origins.Pairwise (Apart node.format.fixedSize)) :
    node.format.supremum ∉ origins := by
  have hwalk := walk_of_linked h hapart (h.length_le hapart)
  have hnever := node.supremum_notMem_walk node.stepLimit origin
  rwa [hwalk] at hnever

/-- A link field of the supremum that is zero leads to no record, in neither format. -/
theorem endsAt_supremum (h : fieldAt node.page.bytes (node.format.supremum - 2) 2 = 0) :
    node.EndsAt node.format.supremum := by
  unfold EndsAt linkAt
  rw [h]
  cases hformat : node.format with
  | compact =>
    have hself : Compact.target RowFormat.compact.supremum 0 = RowFormat.compact.supremum := rfl
    exact .inl hself
  | redundant =>
    refine .inr (.inr ?_)
    intro hroom
    have hfits := hroom.1
    rw [hformat] at hfits
    exact absurd hfits (by decide)

/-- A place of a chain from the infimum to the supremum, the records before it and the ones
after it. -/
inductive Divides (node : Node) (origins : List Nat) :
    (place : Nat) → (before after : List Nat) → Prop where
  /-- All records are after the infimum. -/
  | infimum : node.Divides origins node.format.infimum [] origins
  /-- A record has those before it and those after it. -/
  | record {place : Nat} {before after : List Nat} (h : origins = before ++ place :: after) :
      node.Divides origins place before after
  /-- All records are before the supremum. -/
  | supremum : node.Divides origins node.format.supremum origins []

section Divides

variable (hlinked : node.Linked node.format.infimum origins)
  (hapart : origins.Pairwise (Apart node.format.fixedSize))

include hlinked hapart

theorem recordsBefore_of_linked_of_notMem (h : place ∉ origins) :
    node.recordsBefore place = .ok origins := by
  have hwalk := walk_of_linked hlinked hapart (hlinked.length_le hapart)
  have hnever : place ∉ (node.walk node.stepLimit node.format.infimum).1 := by rwa [hwalk]
  rw [recordsBefore_of_notMem hnever, hwalk]

theorem recordsBefore_of_linked (h : origins = before ++ place :: after) (hfirst : place ∉ before) :
    node.recordsBefore place = .ok before := by
  have hwalk := walk_of_linked hlinked hapart (hlinked.length_le hapart)
  have hmem : place ∈ origins := by
    rw [h]
    exact List.mem_append_right before List.mem_cons_self
  have htake : origins.takeWhile (· ≠ place) = before := by
    have hdifferent : ∀ other ∈ before, decide (other ≠ place) = true := by
      intro other hother
      refine decide_eq_true ?_
      rintro rfl
      exact hfirst hother
    rw [h, List.takeWhile_append_of_pos hdifferent, List.takeWhile_cons_of_neg (by simp),
      List.append_nil]
  unfold recordsBefore
  rw [hwalk]
  simp only [hmem, if_true, htake]

theorem notMem_of_linked (h : origins = before ++ place :: after) :
    place ∉ before ∧ place ≠ node.format.infimum := by
  obtain ⟨hinfimum, hnodup⟩ := List.nodup_cons.1 (hlinked.nodup hapart)
  rw [h] at hinfimum hnodup
  constructor
  · intro hbefore
    exact (List.nodup_append.1 hnodup).2.2 place hbefore place List.mem_cons_self rfl
  · rintro rfl
    exact hinfimum (List.mem_append_right before List.mem_cons_self)

/-- From every place of the chain the links lead through the records after it. -/
theorem Divides.walk_eq (hplace : node.Divides origins place before after)
    (hroom : node.format.supremum < node.page.size)
    (hunlinked : fieldAt node.page.bytes (node.format.supremum - 2) 2 = 0) :
    node.walk node.stepLimit place = (after, none) := by
  cases hplace with
  | infimum => exact walk_of_linked hlinked hapart (hlinked.length_le hapart)
  | record h =>
    rw [h] at hlinked hapart
    have hrest := hlinked.rest
    have hapartRest := (List.pairwise_cons.1 (List.pairwise_append.1 hapart).2.1).2
    exact walk_of_linked hrest hapartRest (hrest.length_le hapartRest)
  | supremum =>
    have hsupremum := (hasRoomAt_sentinels hroom).2
    exact walk_of_none (successor_of_endsAt hsupremum (endsAt_supremum hunlinked)) node.stepLimit

/-- The walk from the infimum finds the records before every place but the infimum, to which it
does not come. -/
theorem Divides.recordsBefore_eq (hplace : node.Divides origins place before after) :
    node.recordsBefore place =
      .ok (if place = node.format.infimum then origins else before) := by
  cases hplace with
  | infimum =>
    have hinfimum := (List.nodup_cons.1 (hlinked.nodup hapart)).1
    rw [if_pos rfl, recordsBefore_of_linked_of_notMem hlinked hapart hinfimum]
  | record h =>
    obtain ⟨hfirst, hother⟩ := notMem_of_linked hlinked hapart h
    rw [if_neg hother, recordsBefore_of_linked hlinked hapart h hfirst]
  | supremum =>
    have hsupremum := hlinked.supremum_notMem hapart
    rw [if_neg node.infimum_ne_supremum.symm,
      recordsBefore_of_linked_of_notMem hlinked hapart hsupremum]

/-- The records before a place and those after it are all records but the one at the place. -/
theorem Divides.append_eq_erase (hplace : node.Divides origins place before after) :
    before ++ after = origins.erase place := by
  cases hplace with
  | infimum =>
    have hinfimum := (List.nodup_cons.1 (hlinked.nodup hapart)).1
    rw [List.erase_of_not_mem hinfimum, List.nil_append]
  | record h =>
    have hfirst := (notMem_of_linked hlinked hapart h).1
    rw [h, List.erase_append_right _ hfirst, List.erase_cons_head]
  | supremum =>
    rw [List.erase_of_not_mem (hlinked.supremum_notMem hapart), List.append_nil]

theorem Divides.before_eq_nil (hplace : node.Divides origins place before after)
    (h : place = node.format.infimum) : before = [] := by
  cases hplace with
  | infimum => rfl
  | record hsplit => exact absurd h (notMem_of_linked hlinked hapart hsplit).2
  | supremum => exact absurd h.symm node.infimum_ne_supremum

end Divides

end Node

namespace Cursor

variable {node : Node} {place : Nat} {origins before after : List Nat}

/-! ## What a cursor yields -/

theorem yields_of_recordsBefore (h : node.recordsBefore place = .ok origins) :
    (start node place .backward).Yields (origins.reverse.map node.recordAt) := by
  have hyields := yields_items node place .backward
  rwa [items_backward, h] at hyields

theorem yields_of_recordsBefore_error {e : Error} (h : node.recordsBefore place = .error e) :
    (start node place .backward).Yields [.error e] := by
  have hyields := yields_items node place .backward
  rwa [items_backward, h] at hyields

/-- That links are broken is never said of a record: only of the walk, where it breaks off. -/
theorem link_mem_ofWalk_iff {walked : List Nat × Option Error} {page : Nat} {fault : LinkFault} :
    .error (.link page fault) ∈ ofWalk node walked ↔ walked.2 = some (.link page fault) := by
  rw [ofWalk, List.mem_append]
  constructor
  · rintro (hrecord | hwalk)
    · obtain ⟨origin, -, hread⟩ := List.mem_map.1 hrecord
      exact absurd hread (node.recordAt_ne_link origin page fault)
    · obtain ⟨e, he, hsame⟩ := List.mem_map.1 hwalk
      rw [Except.error.injEq] at hsame
      rwa [hsame, Option.mem_toList] at he
  · intro hwalk
    rw [hwalk]
    exact .inr List.mem_cons_self

/-- Whatever the bytes of the page are: if no answer of a forward cursor over all records is that
they are linked in a circle, a backward cursor from the supremum gives the same answers in reverse,
those about records that cannot be decoded among them. If one is, it is the only answer of the
backward cursor. -/
theorem backward_mirrors_forward (node : Node) :
    node.cursor.Yields node.cursor.items ∧
      ((∀ page fault, .error (.link page fault) ∉ node.cursor.items) →
        (start node node.format.supremum .backward).Yields node.cursor.items.reverse) ∧
      ∀ page fault, .error (.link page fault) ∈ node.cursor.items →
        (start node node.format.supremum .backward).Yields [.error (.link page fault)] := by
  have hitems : node.cursor.items =
      ofWalk node (node.walk node.stepLimit node.format.infimum) := items_forward node _
  have hbefore := Node.recordsBefore_of_notMem
    (node.supremum_notMem_walk node.stepLimit node.format.infimum)
  refine ⟨yields_items node node.format.infimum .forward, ?_⟩
  simp only [hitems, link_mem_ofWalk_iff]
  cases hfault : (node.walk node.stepLimit node.format.infimum).2 with
  | none =>
    rw [hfault] at hbefore
    have hbackward := yields_of_recordsBefore hbefore
    constructor
    · intro _
      rw [ofWalk, hfault, Option.toList_none, List.map_nil, List.append_nil, ← List.map_reverse]
      exact hbackward
    · intro page fault hlink
      cases hlink
  | some e =>
    rw [hfault] at hbefore
    have hbackward := yields_of_recordsBefore_error hbefore
    constructor
    · intro hnoLink
      -- no circle: there is no record where the walk starts, and both directions say only that
      rcases Node.fault_of_walk hfault with ⟨last, rfl⟩ | ⟨hnone, -⟩
      · exact absurd rfl (hnoLink node.number (.recordLoop last))
      · rw [ofWalk, hfault, hnone]
        exact hbackward
    · intro page fault hlink
      rw [← Option.some.inj hlink]
      exact hbackward

/-- On the crowded page the third of seven records cannot be decoded: backward this is the fifth
answer. On the page whose records link to each other the circle is the only answer. -/
theorem backward_mirrors_forward_crowded :
    ((start Crowded.node Crowded.node.format.supremum .backward).after 4).next.1 =
        some (.error (.format (.readOverrun 4 147 4 148))) ∧
      (start Circle.node Circle.node.format.supremum .backward).Yields
        [.error (.link 5 (.recordLoop 117))] := by
  obtain ⟨-, hreverse, -⟩ := backward_mirrors_forward Crowded.node
  obtain ⟨-, -, honly⟩ := backward_mirrors_forward Circle.node
  constructor
  · have hlinked : Crowded.node.Linked Crowded.node.format.infimum Crowded.origins := by
      decide +kernel
    have hapart : Crowded.origins.Pairwise (Apart Crowded.node.format.fixedSize) := by
      decide +kernel
    rw [hreverse]
    · decide +kernel
    · intro page fault hmem
      rw [Node.cursor_items_of_linked hlinked hapart] at hmem
      obtain ⟨origin, -, hread⟩ := List.mem_map.1 hmem
      exact Crowded.node.recordAt_ne_link origin page fault hread
  · refine honly 5 (.recordLoop 117) (List.mem_iff_getElem?.2 ⟨24, ?_⟩)
    decide +kernel

/-- A cursor that starts at a place of a chain of records that are apart does not count the place
itself. Forward it yields the records after the place, backward those before it, the nearest first:
together every record but that at the place, each once. Only a backward cursor from the infimum does
not: it yields all records, the last first. -/
theorem exclusive_of_linked (hlinked : node.Linked node.format.infimum origins)
    (hapart : origins.Pairwise (Apart node.format.fixedSize))
    (hroom : node.format.supremum < node.page.size)
    (hunlinked : fieldAt node.page.bytes (node.format.supremum - 2) 2 = 0)
    (hplace : node.Divides origins place before after) :
    (start node place .forward).Yields (after.map node.recordAt) ∧
      ((start node place .backward).Yields (before.reverse.map node.recordAt) ↔
        place ≠ node.format.infimum ∨ origins = []) ∧
      (place = node.format.infimum →
        (start node place .backward).Yields (origins.reverse.map node.recordAt)) ∧
      origins.Nodup ∧ before ++ after = origins.erase place := by
  have hnodup := (List.nodup_cons.1 (hlinked.nodup hapart)).2
  have hbackward := yields_of_recordsBefore (hplace.recordsBefore_eq hlinked hapart)
  refine ⟨yields_of_walk (hplace.walk_eq hlinked hapart hroom hunlinked), ?_, ?_, hnodup,
    hplace.append_eq_erase hlinked hapart⟩
  · by_cases hinfimum : place = node.format.infimum
    -- the walk does not come back to the infimum, so that all records count as being before it
    · rw [if_pos hinfimum] at hbackward
      rw [hplace.before_eq_nil hlinked hapart hinfimum]
      constructor
      · intro hnone
        exact .inr (by simpa using hbackward.eq hnone)
      · rintro (hother | hempty)
        · exact absurd hinfimum hother
        · rwa [hempty] at hbackward
    · rw [if_neg hinfimum] at hbackward
      exact iff_of_true hbackward (.inl hinfimum)
  · intro hinfimum
    rwa [if_pos hinfimum] at hbackward

end Cursor

/-! ## A page with three records -/

namespace ThreeRecords

/-- Three compact records in the order in which they lie on the page, the last of them linked to the
supremum. -/
def image : ByteArray :=
  ⟨⟨List.replicate 24 0 ++ [69, 191] ++ List.replicate 16 0 ++ [128, 5] ++ List.replicate 52 0 ++
    [2, 0, 31] ++ List.replicate 10 0 ++ [11] ++ List.replicate 18 0 ++ [0, 30] ++
    List.replicate 28 0 ++ [0, 30] ++ List.replicate 28 0 ++ [255, 178] ++
    List.replicate 3906 0⟩⟩

def node : Node := ⟨⟨3, image, by decide +kernel⟩, none, by decide +kernel, by decide +kernel⟩

def origins : List Nat := [130, 160, 190]

theorem linked : node.Linked node.format.infimum origins := by decide +kernel

theorem apart : origins.Pairwise (Apart node.format.fixedSize) := by decide +kernel

end ThreeRecords

/-- From the second record on there is the third, and before it the first. -/
theorem Cursor.exclusive_of_linked_threeRecords :
    ThreeRecords.node.format.supremum < ThreeRecords.node.page.size ∧
      fieldAt ThreeRecords.node.page.bytes (ThreeRecords.node.format.supremum - 2) 2 = 0 ∧
      ThreeRecords.node.Divides ThreeRecords.origins 160 [130] [190] ∧
      (start ThreeRecords.node 160 .forward).Yields [ThreeRecords.node.recordAt 190] ∧
      (start ThreeRecords.node 160 .backward).Yields [ThreeRecords.node.recordAt 130] := by
  have hroom : ThreeRecords.node.format.supremum < ThreeRecords.node.page.size := by
    decide +kernel
  have hunlinked : fieldAt ThreeRecords.node.page.bytes
      (ThreeRecords.node.format.supremum - 2) 2 = 0 := by
    decide +kernel
  have hplace : ThreeRecords.node.Divides ThreeRecords.origins 160 [130] [190] := .record rfl
  obtain ⟨hforward, hbackward, -⟩ := exclusive_of_linked ThreeRecords.linked ThreeRecords.apart
    hroom hunlinked hplace
  have hother : 160 ≠ ThreeRecords.node.format.infimum := by decide +kernel
  exact ⟨hroom, hunlinked, hplace, hforward, hbackward.2 (.inl hother)⟩

/-- Before the infimum there is no record, but a backward cursor that starts there yields all three.
-/
theorem Cursor.backward_of_infimum_threeRecords :
    ThreeRecords.node.Linked ThreeRecords.node.format.infimum ThreeRecords.origins ∧
      ThreeRecords.origins.Pairwise (Apart ThreeRecords.node.format.fixedSize) ∧
      ThreeRecords.node.format.supremum < ThreeRecords.node.page.size ∧
      fieldAt ThreeRecords.node.page.bytes (ThreeRecords.node.format.supremum - 2) 2 = 0 ∧
      (start ThreeRecords.node ThreeRecords.node.format.infimum .backward).Yields
        ([190, 160, 130].map ThreeRecords.node.recordAt) ∧
      ¬ (start ThreeRecords.node ThreeRecords.node.format.infimum .backward).Yields [] := by
  have hinfimum : ThreeRecords.node.format.infimum ∉ ThreeRecords.origins := by decide +kernel
  have hbefore := Node.recordsBefore_of_linked_of_notMem ThreeRecords.linked ThreeRecords.apart
    hinfimum
  have hall := yields_of_recordsBefore hbefore
  refine ⟨ThreeRecords.linked, ThreeRecords.apart, by decide +kernel, by decide +kernel, hall, ?_⟩
  intro hnone
  cases hall.eq hnone

end Tablespace
