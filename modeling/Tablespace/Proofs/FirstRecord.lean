import Tablespace.Proofs.CursorEnd

/-!
# The first record of a node

`Node.firstRecord` and a cursor over all records both begin with the link of the infimum. The cursor
takes a link that leads to the infimum itself or out of the page for the end of the chain;
`firstRecord` knows no end but the supremum and reads whatever record the link leads to. So the two
agree but for these links, where the cursor finds the page empty and `firstRecord` answers with the
infimum or with an error.

Main statement: `Node.firstRecord_agrees`.
-/

namespace Tablespace

namespace Node

variable {node : Node} {origin : Nat}

theorem recordAt_of_no_room (h : ¬ node.HasRoomAt origin) :
    node.recordAt origin = .error (.format (.recordOutside origin node.number)) := by
  rw [recordAt, Record.read, readHeader_of_no_room h, error_bind]

variable (h : node.HasRoomAt node.format.infimum)

include h

/-- The link of the infimum alone decides what the first record is. -/
theorem firstRecord_eq :
    node.firstRecord =
      if node.linkAt node.format.infimum = node.format.supremum then .ok none
      else some <$> node.recordAt (node.linkAt node.format.infimum) := by
  obtain ⟨header, hread, -, hnext⟩ := exists_headerAt h
  rw [firstRecord, infimum, hread, ok_bind, hnext]
  rfl

theorem firstRecord_of_ne (hlink : node.linkAt node.format.infimum ≠ node.format.supremum) :
    node.firstRecord = some <$> node.recordAt (node.linkAt node.format.infimum) := by
  rw [firstRecord_eq h, if_neg hlink]

theorem firstRecord_eq_none_iff :
    node.firstRecord = .ok none ↔
      node.linkAt node.format.infimum = node.format.supremum := by
  constructor
  · intro hnone
    by_contra hlink
    rw [firstRecord_of_ne h hlink] at hnone
    cases hrecord : node.recordAt (node.linkAt node.format.infimum) with
    | error e =>
      rw [hrecord] at hnone
      cases hnone
    | ok record =>
      rw [hrecord] at hnone
      cases hnone
  · intro hlink
    rw [firstRecord_eq h, if_pos hlink]

theorem cursor_yields_nil (hends : node.EndsAt node.format.infimum) : node.cursor.Yields [] :=
  Cursor.yields_of_walk (walk_of_none (successor_of_endsAt h hends) node.stepLimit)

/-- A cursor begins with the record that the infimum links to, unless the chain ends there. -/
theorem cursor_next_of_not_endsAt (hlink : ¬ node.EndsAt node.format.infimum) :
    node.cursor.next.1 = some (node.recordAt (node.linkAt node.format.infimum)) := by
  rw [cursor, Cursor.next_start_of_link (successor_of_not_endsAt h hlink)]

theorem cursor_yields_nil_iff : node.cursor.Yields [] ↔ node.EndsAt node.format.infimum := by
  constructor
  · intro hnone
    by_contra hlink
    have hfirst : node.cursor.next.1 = none := hnone 0
    rw [cursor_next_of_not_endsAt h hlink] at hfirst
    cases hfirst
  · exact cursor_yields_nil h

theorem firstRecord_of_next {item : Except Error Record}
    (hitem : node.cursor.next.1 = some item) : node.firstRecord = some <$> item := by
  have hlink : ¬ node.EndsAt node.format.infimum := by
    intro hends
    have hnone : node.cursor.next.1 = none := cursor_yields_nil h hends 0
    rw [hnone] at hitem
    cases hitem
  rw [cursor_next_of_not_endsAt h hlink, Option.some.injEq] at hitem
  rw [← hitem]
  exact firstRecord_of_ne h fun hlast => hlink (.inl hlast)

omit h

theorem link_eq_supremum_iff_endsAt_iff (hsupremum : node.HasRoomAt node.format.supremum) :
    (node.linkAt node.format.infimum = node.format.supremum ↔
        node.EndsAt node.format.infimum) ↔
      node.linkAt node.format.infimum ≠ node.format.infimum ∧
        node.HasRoomAt (node.linkAt node.format.infimum) := by
  constructor
  · intro hsame
    -- both other ends of the chain would be the supremum, which is neither
    constructor
    · intro hself
      exact node.infimum_ne_supremum (hself.symm.trans (hsame.2 (.inr (.inl hself))))
    · by_contra hout
      refine hout ?_
      rw [hsame.2 (.inr (.inr hout))]
      exact hsupremum
  · rintro ⟨hother, hroom⟩
    constructor
    · exact .inl
    · rintro (hlast | hself | hout)
      · exact hlast
      · exact absurd hself hother
      · exact absurd hroom hout

/-- On a page that has room for both sentinels, what a cursor meets first is the first record, or
what is wrong with it. That there is no first record and that the cursor meets none is the same just
if the link of the infimum leads to another place where there is room for a record. If it leads back
to the infimum, that is taken for the first record; if it leads out of the page, there is an error
instead of a first record; in both cases the cursor meets nothing. -/
theorem firstRecord_agrees (h : 120 ≤ node.page.size) :
    ((node.firstRecord = .ok none ↔ node.cursor.Yields []) ↔
        node.linkAt node.format.infimum ≠ node.format.infimum ∧
          node.HasRoomAt (node.linkAt node.format.infimum)) ∧
      (∀ record, node.cursor.next.1 = some (.ok record) →
        node.firstRecord = .ok (some record)) ∧
      (∀ e, node.cursor.next.1 = some (.error e) → node.firstRecord = .error e) ∧
      (node.linkAt node.format.infimum = node.format.infimum →
        node.cursor.Yields [] ∧
          node.firstRecord = some <$> node.recordAt node.format.infimum) ∧
      (¬ node.HasRoomAt (node.linkAt node.format.infimum) →
        node.cursor.Yields [] ∧ node.firstRecord = .error (.format
          (.recordOutside (node.linkAt node.format.infimum) node.number))) := by
  have hsize : node.format.supremum < node.page.size := by
    have hsupremum : node.format.supremum < 120 := by cases node.format <;> decide
    omega
  obtain ⟨hinfimum, hsupremum⟩ := hasRoomAt_sentinels hsize
  refine ⟨?_, ?_, ?_, ?_, ?_⟩
  · rw [firstRecord_eq_none_iff hinfimum, cursor_yields_nil_iff hinfimum]
    exact link_eq_supremum_iff_endsAt_iff hsupremum
  · intro record hrecord
    exact firstRecord_of_next hinfimum hrecord
  · intro e he
    exact firstRecord_of_next hinfimum he
  · intro hself
    refine ⟨cursor_yields_nil hinfimum (.inr (.inl hself)), ?_⟩
    rw [firstRecord_of_ne hinfimum (by rw [hself]; exact node.infimum_ne_supremum), hself]
  · intro hout
    refine ⟨cursor_yields_nil hinfimum (.inr (.inr hout)), ?_⟩
    have hother : node.linkAt node.format.infimum ≠ node.format.supremum := by
      intro hlast
      rw [hlast] at hout
      exact hout hsupremum
    rw [firstRecord_of_ne hinfimum hother, recordAt_of_no_room hout, map_error]

end Node

/-! ## A page whose infimum links to itself -/

namespace SelfLinked

/-- An empty page on which the link of the infimum is zero: no distance. -/
def image : ByteArray :=
  ⟨⟨List.replicate 24 0 ++ [69, 191] ++ List.replicate 16 0 ++ [128, 2] ++ List.replicate 50 0 ++
    [1, 0, 2, 0, 0] ++ List.replicate 8 0 ++ [1, 0, 11, 0, 0] ++ List.replicate 3984 0⟩⟩

def node : Node := ⟨⟨3, image, by decide +kernel⟩, none, by decide +kernel, by decide +kernel⟩

end SelfLinked

/-- The first record of the crowded page is what its cursor meets first. -/
theorem Node.firstRecord_agrees_crowded :
    120 ≤ Crowded.node.page.size ∧
      (Crowded.node.firstRecord = .ok none ↔ Crowded.node.cursor.Yields []) ∧
      ∃ record, record.origin = 132 ∧ Crowded.node.cursor.next.1 = some (.ok record) ∧
        Crowded.node.firstRecord = .ok (some record) := by
  have hsize : 120 ≤ Crowded.node.page.size := by decide +kernel
  obtain ⟨hnone, hrecord, -⟩ := firstRecord_agrees hsize
  have hfirst : (Crowded.node.cursor.next.1.bind Except.toOption).map (·.origin) = some 132 := by
    decide +kernel
  obtain ⟨record, hmet, horigin⟩ := Option.map_eq_some_iff.1 hfirst
  obtain ⟨item, hitem, hok⟩ := Option.bind_eq_some_iff.1 hmet
  cases item with
  | error e => cases hok
  | ok same =>
    obtain rfl := Option.some.inj hok
    exact ⟨hsize, hnone.2 (by decide +kernel), same, horigin, hitem, hrecord same hitem⟩

/-- A cursor finds the page empty, and yet the infimum is said to be its first record. -/
theorem Node.firstRecord_selfLinked :
    120 ≤ SelfLinked.node.page.size ∧ SelfLinked.node.cursor.Yields [] ∧
      SelfLinked.node.firstRecord ≠ .ok none ∧
      SelfLinked.node.firstRecord.toOption.map (·.map (·.kind)) = some (some .infimum) := by
  refine ⟨by decide +kernel, ?_, by decide +kernel, by decide +kernel⟩
  exact cursor_yields_nil (by decide +kernel) (by decide +kernel)

end Tablespace
