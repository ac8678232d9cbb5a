import Tablespace.Proofs.CursorCalls
import Tablespace.Proofs.RecordWalk

/-!
# A walk does not depend on the layout

Links are followed by the fixed parts of headers, and these are read without the columns of the
index. So whatever layout a node is given, and be it none, its cursors go through the same records:
a record whose columns cannot be decoded stands where it would stand if they could.

The two runs are compared call by call: `Cursor.withLayout` changes the layout of a cursor, and a
call before the change comes to the same place as a call after it (`Cursor.next_withLayout`). What a
run reads of a record agrees with the header that is read without columns
(`Node.header_of_recordAt`).

Main statement: `Cursor.walks_agree`.
-/

namespace Tablespace

/-! ## Headers with columns and without -/

section Headers

variable {page : Page} {origin : Nat} {header : RecordHeader}

/-- The headers say the same of the record and may differ in what they say of its columns. -/
def RecordHeader.AgreesWith (header bare : RecordHeader) : Prop :=
  header = { bare with fields := header.fields, length := header.length }

theorem Compact.exists_header_of_header {columns : Option (List Column)}
    (h : Compact.header page columns origin = .ok header) :
    ∃ bare, Compact.header page none origin = .ok bare ∧ header.AgreesWith bare := by
  rw [Compact.header, bind_eq_ok_iff] at h
  obtain ⟨info, hinfo, h⟩ := h
  rw [bind_eq_ok_iff] at h
  obtain ⟨status, hstatus, h⟩ := h
  rw [bind_eq_ok_iff] at h
  obtain ⟨distance, hdistance, h⟩ := h
  rw [Compact.header, hinfo, ok_bind, hstatus, ok_bind, hdistance, ok_bind]
  refine ⟨_, rfl, ?_⟩
  cases columns with
  | none =>
    cases h
    rfl
  | some columns =>
    simp only at h
    split at h
    · cases h
      rfl
    · obtain ⟨fields, -, h⟩ := bind_eq_ok_iff.1 h
      cases h
      rfl

theorem Redundant.exists_header_of_header {columns : Option (List Column)}
    (h : Redundant.header page columns origin = .ok header) :
    ∃ bare, Redundant.header page none origin = .ok bare ∧ header.AgreesWith bare := by
  rw [Redundant.header, bind_eq_ok_iff] at h
  obtain ⟨info, hinfo, h⟩ := h
  rw [bind_eq_ok_iff] at h
  obtain ⟨bits, hbits, h⟩ := h
  rw [bind_eq_ok_iff] at h
  obtain ⟨next, hnext, h⟩ := h
  simp only at h
  rw [bind_eq_ok_iff] at h
  obtain ⟨kind, hkind, h⟩ := h
  rw [Redundant.header, hinfo, ok_bind, hbits, ok_bind, hnext, ok_bind]
  simp only
  rw [hkind, ok_bind]
  refine ⟨_, rfl, ?_⟩
  cases columns with
  | none =>
    cases h
    rfl
  | some columns =>
    simp only at h
    split at h
    · cases h
      rfl
    · obtain ⟨fields, -, h⟩ := bind_eq_ok_iff.1 h
      cases h
      rfl

theorem RecordHeader.exists_bare_of_read {format : RowFormat} {columns : Option (List Column)}
    (h : RecordHeader.read page format columns origin = .ok header) :
    ∃ bare, RecordHeader.read page format none origin = .ok bare ∧ header.AgreesWith bare := by
  unfold RecordHeader.read at h ⊢
  split at h
  · cases h
  · rename_i hinside
    rw [if_neg hinside]
    cases format with
    | compact => exact Compact.exists_header_of_header h
    | redundant => exact Redundant.exists_header_of_header h

theorem Record.header_of_read {format : RowFormat} {columns : Option (List Column)}
    {record : Record} (h : Record.read page format columns origin = .ok record) :
    RecordHeader.read page format columns origin = .ok record.header := by
  rw [Record.read, bind_eq_ok_iff] at h
  obtain ⟨header, hread, h⟩ := h
  rw [hread]
  cases columns with
  | none =>
    cases h
    rfl
  | some columns =>
    simp only at h
    split at h
    · cases h
      rfl
    · obtain ⟨fields, -, h⟩ := bind_eq_ok_iff.1 h
      split at h
      · obtain ⟨child, -, h⟩ := bind_eq_ok_iff.1 h
        cases h
        rfl
      · cases h
        rfl

end Headers

namespace Node

variable {node : Node} {origin : Nat} {record : Record}

/-- What is read of a record has its origin and agrees with its header. -/
theorem header_of_recordAt (h : node.recordAt origin = .ok record) :
    record.origin = origin ∧
      ∃ bare, node.headerAt origin = .ok bare ∧ record.header.AgreesWith bare := by
  have hread := Record.header_of_read h
  obtain ⟨bare, hbare, hagrees⟩ := RecordHeader.exists_bare_of_read hread
  obtain ⟨same, hsame, horigin, -⟩ := exists_headerAt (RecordHeader.bounds_of_read hread)
  have hheader : node.headerAt origin = .ok bare := hbare
  rw [hheader, Except.ok.injEq] at hsame
  subst hsame
  refine ⟨?_, bare, hheader, hagrees⟩
  rw [Record.origin, hagrees]
  exact horigin

/-! ## The walk -/

/-- The node with another layout of its index, or with none. -/
def withLayout (node : Node) (layout : Option Layout) : Node := { node with layout }

theorem walk_withLayout (node : Node) (layout : Option Layout) (budget origin : Nat) :
    (node.withLayout layout).walk budget origin = node.walk budget origin := by
  induction budget generalizing origin with
  | zero =>
    rcases h : node.successor origin with e | _ | next
    · have hlayout : (node.withLayout layout).successor origin = .error e := h
      rw [walk_of_error h, walk_of_error hlayout]
    · have hlayout : (node.withLayout layout).successor origin = .ok none := h
      rw [walk_of_none h, walk_of_none hlayout]
    · have hlayout : (node.withLayout layout).successor origin = .ok (some next) := h
      rw [walk_zero_of_some h, walk_zero_of_some hlayout]
      rfl
  | succ budget ih =>
    rcases h : node.successor origin with e | _ | next
    · have hlayout : (node.withLayout layout).successor origin = .error e := h
      rw [walk_of_error h, walk_of_error hlayout]
    · have hlayout : (node.withLayout layout).successor origin = .ok none := h
      rw [walk_of_none h, walk_of_none hlayout]
    · have hlayout : (node.withLayout layout).successor origin = .ok (some next) := h
      rw [walk_succ_of_some h, walk_succ_of_some hlayout, ih]

theorem recordsBefore_withLayout (node : Node) (layout : Option Layout) (stop : Nat) :
    (node.withLayout layout).recordsBefore stop = node.recordsBefore stop := by
  have hwalk : (node.withLayout layout).walk (node.withLayout layout).stepLimit
      (node.withLayout layout).format.infimum = node.walk node.stepLimit node.format.infimum :=
    node.walk_withLayout layout node.stepLimit node.format.infimum
  rw [recordsBefore, recordsBefore, hwalk]

end Node

/-! ## The runs of two cursors -/

namespace Cursor

/-- The cursor over the same node with another layout. -/
def withLayout (cursor : Cursor) (layout : Option Layout) : Cursor :=
  { cursor with node := cursor.node.withLayout layout }

/-- The cursors go through the same records: call for call both answer or neither does, both come to
the same place, and what keeps one of them from finding a record keeps the other from it too. -/
structure InStep (one other : Cursor) : Prop where
  length_items : one.items.length = other.items.length
  answers (n : Nat) : (one.after n).next.1.isSome = (other.after n).next.1.isSome
  position (n : Nat) : (one.after n).position = (other.after n).position
  chainError (n : Nat) : (one.after n).chainError? = (other.after n).chainError?

theorem pop_withLayout (cursor : Cursor) (layout : Option Layout) (origins : List Nat) :
    ((cursor.withLayout layout).pop origins).2 = (cursor.pop origins).2.withLayout layout ∧
      ((cursor.withLayout layout).pop origins).1.isSome = (cursor.pop origins).1.isSome := by
  cases origins with
  | nil => exact ⟨rfl, rfl⟩
  | cons origin rest => exact ⟨rfl, rfl⟩

theorem chainError?_withLayout (cursor : Cursor) (layout : Option Layout) :
    (cursor.withLayout layout).chainError? = cursor.chainError? := by
  obtain ⟨node, position, course⟩ := cursor
  cases course with
  | finished => rfl
  | remaining origins => rfl
  | forward budget => rfl
  | backward => simp only [withLayout, chainError?, Node.recordsBefore_withLayout]

/-- One call, before the layout is changed and after. -/
theorem next_withLayout (cursor : Cursor) (layout : Option Layout) :
    (cursor.withLayout layout).next.2 = cursor.next.2.withLayout layout ∧
      (cursor.withLayout layout).next.1.isSome = cursor.next.1.isSome := by
  obtain ⟨node, position, course⟩ := cursor
  cases course with
  | finished => exact ⟨rfl, rfl⟩
  | remaining origins => exact pop_withLayout ⟨node, position, .remaining origins⟩ layout origins
  | forward budget =>
    have hadvance : (node.withLayout layout).advance position budget =
        node.advance position budget := rfl
    simp only [withLayout, next, hadvance]
    rcases node.advance position budget with e | _ | ⟨origin, rest⟩
    · exact ⟨rfl, rfl⟩
    · exact ⟨rfl, rfl⟩
    · exact ⟨rfl, rfl⟩
  | backward =>
    simp only [withLayout, next, Node.recordsBefore_withLayout]
    rcases node.recordsBefore position with e | origins
    · exact ⟨rfl, rfl⟩
    · exact pop_withLayout ⟨node, position, .backward⟩ layout origins.reverse

theorem after_withLayout (cursor : Cursor) (layout : Option Layout) (n : Nat) :
    (cursor.withLayout layout).after n = (cursor.after n).withLayout layout := by
  induction n generalizing cursor with
  | zero => rfl
  | succ n ih => rw [after, (next_withLayout cursor layout).1, ih, after]

theorem length_take_withLayout (cursor : Cursor) (layout : Option Layout) (count : Nat) :
    (take count (cursor.withLayout layout)).length = (take count cursor).length := by
  induction count generalizing cursor with
  | zero => rfl
  | succ count ih =>
    obtain ⟨hplace, hanswer⟩ := next_withLayout cursor layout
    rcases hnext : cursor.next with ⟨_ | item, rest⟩
    · rcases hother : (cursor.withLayout layout).next with ⟨_ | other, place⟩
      · rw [take, take, hnext, hother]
      · rw [hnext, hother] at hanswer
        cases hanswer
    · rcases hother : (cursor.withLayout layout).next with ⟨_ | other, place⟩
      · rw [hnext, hother] at hanswer
        cases hanswer
      · rw [hnext, hother] at hplace
        have hplace : place = rest.withLayout layout := hplace
        rw [take, take, hnext, hother, List.length_cons, List.length_cons, hplace, ih]

theorem inStep_withLayout (cursor : Cursor) (first second : Option Layout) :
    InStep (cursor.withLayout first) (cursor.withLayout second) where
  length_items := by
    have hlength (layout : Option Layout) :
        (cursor.withLayout layout).items.length = cursor.items.length :=
      length_take_withLayout cursor layout _
    rw [hlength, hlength]
  answers n := by
    rw [after_withLayout, after_withLayout, (next_withLayout _ first).2,
      (next_withLayout _ second).2]
  position n := by rw [after_withLayout, after_withLayout]; rfl
  chainError n := by
    rw [after_withLayout, after_withLayout, chainError?_withLayout, chainError?_withLayout]

/-! ## What a run reads -/

/-- What the calls of a cursor answer: an error of the chain, or what is read at the record that the
cursor has moved to. Of a record that is read, the header without columns says the same. -/
structure ReadsInPlace (cursor : Cursor) : Prop where
  chainError (n : Nat) (e : Error) (h : (cursor.after n).chainError? = some e) :
    (cursor.after n).next.1 = some (.error e)
  item (n : Nat) (item : Except Error Record) (hchain : (cursor.after n).chainError? = none)
    (h : (cursor.after n).next.1 = some item) :
    item = cursor.node.recordAt (cursor.after (n + 1)).position
  header (n : Nat) (record : Record) (h : (cursor.after n).next.1 = some (.ok record)) :
    record.origin = (cursor.after (n + 1)).position ∧
      ∃ bare, cursor.node.headerAt record.origin = .ok bare ∧
        record.header.next = bare.next ∧ record.header.kind = bare.kind ∧
        record.header.heapNumber = bare.heapNumber ∧ record.header.owned = bare.owned ∧
        record.header.flags = bare.flags

theorem readsInPlace (cursor : Cursor) : cursor.ReadsInPlace where
  chainError n e h := by
    rcases (cursor.after n).next_cases with ⟨same, hsame, hnext⟩ | ⟨hnone, -⟩
    · rw [hsame] at h
      cases h
      rw [hnext]
    · rw [hnone] at h
      cases h
  item n item hchain h := by
    rcases (cursor.after n).next_cases with ⟨e, he, -⟩ | ⟨-, hnext | ⟨origin, course, hnext⟩⟩
    · rw [hchain] at he
      cases he
    · rw [hnext] at h
      cases h
    · rw [hnext] at h
      cases h
      rw [after_succ, hnext, node_after]
  header n record h := by
    rcases (cursor.after n).next_cases with ⟨e, -, hnext⟩ | ⟨-, hnext | ⟨origin, course, hnext⟩⟩
    · rw [hnext] at h
      cases h
    · rw [hnext] at h
      cases h
    · rw [hnext, node_after] at h
      have hread : cursor.node.recordAt origin = .ok record := Option.some.inj h
      obtain ⟨rfl, bare, hbare, hagrees⟩ := Node.header_of_recordAt hread
      rw [after_succ, hnext]
      refine ⟨rfl, bare, hbare, ?_⟩
      rw [hagrees]
      exact ⟨rfl, rfl, rfl, rfl, rfl⟩

/-- Two cursors over one node that differ in nothing but the layout go through the same records,
from whatever place they start and whatever the bytes of the page are. An error of the chain is
reported by both or by neither; any other answer is what is read at the place where both stand, and
where that is a record, its header says of the record what the header says that is read without
columns. -/
theorem walks_agree (node : Node) (place : Nat) (direction : Direction)
    (first second : Option Layout) :
    InStep (start (node.withLayout first) place direction)
        (start (node.withLayout second) place direction) ∧
      ReadsInPlace (start (node.withLayout first) place direction) ∧
      ReadsInPlace (start (node.withLayout second) place direction) := by
  have hstart (layout : Option Layout) : start (node.withLayout layout) place direction =
      (start node place direction).withLayout layout := by
    cases direction with
    | forward => rfl
    | backward => rfl
  refine ⟨?_, readsInPlace _, readsInPlace _⟩
  rw [hstart, hstart]
  exact inStep_withLayout (start node place direction) first second

/-- With its layout a cursor over the crowded page cannot decode the third record, and without it
can. Both go on to the fourth record, and from there through the same places. -/
theorem walks_agree_crowded :
    ((start (Crowded.node.withLayout none) 99 .forward).after 2).next.1.map
        (fun item => item.toOption.map (·.origin)) = some (some 147) ∧
      ((start (Crowded.node.withLayout (some Crowded.layout)) 99 .forward).after 2).next.1 =
        some (.error (.format (.readOverrun 4 147 4 148))) ∧
      ((start (Crowded.node.withLayout (some Crowded.layout)) 99 .forward).after 4).position = 122 ∧
      ∀ n, ((start (Crowded.node.withLayout none) 99 .forward).after n).position =
        ((start (Crowded.node.withLayout (some Crowded.layout)) 99 .forward).after n).position := by
  obtain ⟨hstep, -, -⟩ := walks_agree Crowded.node 99 .forward none (some Crowded.layout)
  exact ⟨by decide +kernel, by decide +kernel, by decide +kernel, hstep.position⟩

end Cursor

end Tablespace
