import Tablespace.Proofs.RecordChain
import Tablespace.Proofs.RecordFaults

/-!
# Calls of a cursor

A cursor is asked for one record after the other. A call does one of three things: it reports that
the chain cannot be followed, it finds the end, or it moves to another record and answers with what
is read there. `Cursor.next_cases` says so for both directions.

Main statements: `Cursor.next_after_start` and `Cursor.position_after_start`, the calls of a forward
cursor answer with what the walk comes to, one item a call; `Node.calls_of_linked`, on a chain whose
records are apart they answer with the records of the chain and then with nothing, for ever.
-/

namespace Tablespace

namespace Cursor

/-- The cursor after `n` calls of `next`. -/
def after (cursor : Cursor) : (n : Nat) → Cursor
  | 0 => cursor
  | n + 1 => cursor.next.2.after n

/-- The error that keeps the next call from finding a record. What is wrong with a record that was
found is no error of the chain. -/
def chainError? (cursor : Cursor) : Option Error :=
  match cursor.course with
  | .finished | .remaining _ => none
  | .forward budget =>
    match cursor.node.advance cursor.position budget with
    | .error e => some e
    | .ok _ => none
  | .backward =>
    match cursor.node.recordsBefore cursor.position with
    | .error e => some e
    | .ok _ => none

variable {node : Node} {start position budget origin : Nat}

/-! ## One call -/

theorem pop_cases (cursor : Cursor) (origins : List Nat) :
    cursor.pop origins = (none, cursor.finish) ∨
      ∃ origin course, cursor.pop origins =
        (some (cursor.node.recordAt origin), ⟨cursor.node, origin, course⟩) := by
  cases origins with
  | nil => exact .inl rfl
  | cons origin rest => exact .inr ⟨origin, .remaining rest, rfl⟩

/-- A call reports an error of the chain, finds the end, or moves to a record and reads it. -/
theorem next_cases (cursor : Cursor) :
    (∃ e, cursor.chainError? = some e ∧ cursor.next = (some (.error e), cursor.finish)) ∨
      (cursor.chainError? = none ∧
        (cursor.next = (none, cursor.finish) ∨
          ∃ origin course, cursor.next =
            (some (cursor.node.recordAt origin), ⟨cursor.node, origin, course⟩))) := by
  obtain ⟨node, position, course⟩ := cursor
  cases course with
  | finished => exact .inr ⟨rfl, .inl rfl⟩
  | remaining origins => exact .inr ⟨rfl, pop_cases _ origins⟩
  | forward budget =>
    rcases hstep : node.advance position budget with e | _ | ⟨origin, rest⟩
    · exact .inl ⟨e, by simp only [chainError?, hstep], by simp only [next, hstep]⟩
    · exact .inr ⟨by simp only [chainError?, hstep], .inl (by simp only [next, hstep])⟩
    · exact .inr ⟨by simp only [chainError?, hstep], .inr ⟨origin, .forward rest, by
        simp only [next, hstep]⟩⟩
  | backward =>
    rcases hbefore : node.recordsBefore position with e | origins
    · exact .inl ⟨e, by simp only [chainError?, hbefore], by simp only [next, hbefore]⟩
    · have hnext : next ⟨node, position, .backward⟩ =
          pop ⟨node, position, .backward⟩ origins.reverse := by simp only [next, hbefore]
      refine .inr ⟨by simp only [chainError?, hbefore], ?_⟩
      rw [hnext]
      exact pop_cases _ origins.reverse

/-! ## Many calls -/

theorem after_succ (cursor : Cursor) (n : Nat) :
    cursor.after (n + 1) = (cursor.after n).next.2 := by
  induction n generalizing cursor with
  | zero => rfl
  | succ n ih => exact ih cursor.next.2

theorem node_next (cursor : Cursor) : cursor.next.2.node = cursor.node := by
  rcases cursor.next_cases with ⟨e, -, h⟩ | ⟨-, h | ⟨origin, course, h⟩⟩
  · rw [h]; rfl
  · rw [h]; rfl
  · rw [h]

theorem node_after (cursor : Cursor) (n : Nat) : (cursor.after n).node = cursor.node := by
  induction n generalizing cursor with
  | zero => rfl
  | succ n ih => rw [after, ih, node_next]

theorem after_finished (n : Nat) :
    after ⟨node, position, .finished⟩ n = ⟨node, position, .finished⟩ := by
  induction n with
  | zero => rfl
  | succ n ih => exact ih

/-- Each call of a cursor that follows links answers with what stands in its place in the walk. -/
theorem next_after_forward (node : Node) (position budget n : Nat) :
    (after ⟨node, position, .forward budget⟩ n).next.1 =
      (ofWalk node (node.walk budget position))[n]? := by
  induction n generalizing position budget with
  | zero =>
    rcases h : node.successor position with e | _ | origin
    · rw [after, next_of_error h, Node.walk_of_error h]
      rfl
    · rw [after, next_of_end h, Node.walk_of_none h]
      rfl
    · cases budget with
      | zero =>
        rw [after, next_of_spent h, Node.walk_zero_of_some h]
        rfl
      | succ budget =>
        rw [after, next_of_link h, Node.walk_succ_of_some h]
        rfl
  | succ n ih =>
    rcases h : node.successor position with e | _ | origin
    · rw [after, next_of_error h, after_finished, Node.walk_of_error h]
      rfl
    · rw [after, next_of_end h, after_finished, Node.walk_of_none h]
      rfl
    · cases budget with
      | zero =>
        rw [after, next_of_spent h, after_finished, Node.walk_zero_of_some h]
        rfl
      | succ budget =>
        rw [after, next_of_link h, ih, Node.walk_succ_of_some h]
        rfl

/-- After each call the cursor stands at the record that the walk has come to, and after the last
record it stays there. -/
theorem position_after_forward (node : Node) (position budget n : Nat) :
    (position :: (node.walk budget position).1)[min n (node.walk budget position).1.length]? =
      some (after ⟨node, position, .forward budget⟩ n).position := by
  induction n generalizing position budget with
  | zero => rw [Nat.zero_min]; rfl
  | succ n ih =>
    rcases h : node.successor position with e | _ | origin
    · rw [after, next_of_error h, after_finished, Node.walk_of_error h]
      rfl
    · rw [after, next_of_end h, after_finished, Node.walk_of_none h]
      rfl
    · cases budget with
      | zero =>
        rw [after, next_of_spent h, after_finished, Node.walk_zero_of_some h]
        rfl
      | succ budget =>
        rw [after, next_of_link h, Node.walk_succ_of_some h, List.length_cons,
          Nat.add_min_add_right, List.getElem?_cons_succ]
        exact ih origin budget

theorem next_after_start (node : Node) (start n : Nat) :
    ((Cursor.start node start .forward).after n).next.1 =
      (Cursor.start node start .forward).items[n]? := by
  rw [items_forward]
  exact next_after_forward node start node.stepLimit n

theorem position_after_start (node : Node) (start n : Nat) :
    (start :: (node.walk node.stepLimit start).1)[
        min n (node.walk node.stepLimit start).1.length]? =
      some ((Cursor.start node start .forward).after n).position :=
  position_after_forward node start node.stepLimit n

/-! ## All calls -/

/-- The calls of a cursor answer with these items, one a call, and then with nothing for ever. -/
def Yields (cursor : Cursor) (items : List (Except Error Record)) : Prop :=
  ∀ n, (cursor.after n).next.1 = items[n]?

theorem Yields.eq {cursor : Cursor} {items others : List (Except Error Record)}
    (h : cursor.Yields items) (hother : cursor.Yields others) : items = others := by
  apply List.ext_getElem?
  intro n
  rw [← h n, ← hother n]

theorem yields_of_next_eq_pop {cursor : Cursor} {origins : List Nat}
    (h : cursor.next = cursor.pop origins) :
    cursor.Yields (origins.map cursor.node.recordAt) := by
  intro n
  induction n generalizing cursor origins with
  | zero =>
    rw [after, h]
    cases origins with
    | nil => rfl
    | cons origin rest => rfl
  | succ n ih =>
    rw [after, h]
    cases origins with
    | nil =>
      rw [pop, finish, after_finished]
      rfl
    | cons origin rest =>
      have hrest := @ih ⟨cursor.node, origin, .remaining rest⟩ rest rfl
      rw [List.map_cons, List.getElem?_cons_succ]
      exact hrest

theorem yields_of_next_eq_error {cursor : Cursor} {e : Error}
    (h : cursor.next = (some (.error e), cursor.finish)) : cursor.Yields [.error e] := by
  intro n
  cases n with
  | zero => rw [after, h]; rfl
  | succ n => rw [after, h, finish, after_finished]; rfl

/-- Call by call a cursor answers with all that it meets, in both directions. -/
theorem yields_items (node : Node) (place : Nat) (direction : Direction) :
    (Cursor.start node place direction).Yields (Cursor.start node place direction).items := by
  cases direction with
  | forward => exact next_after_start node place
  | backward =>
    rw [items_backward]
    cases h : node.recordsBefore place with
    | error e =>
      have hnext : (Cursor.start node place .backward).next =
          (some (.error e), (Cursor.start node place .backward).finish) := by
        simp only [Cursor.start, next, h]
      exact yields_of_next_eq_error hnext
    | ok origins =>
      have hnext : (Cursor.start node place .backward).next =
          (Cursor.start node place .backward).pop origins.reverse := by
        simp only [Cursor.start, next, h]
      exact yields_of_next_eq_pop hnext

theorem yields_of_walk {place : Nat} {origins : List Nat}
    (h : node.walk node.stepLimit place = (origins, none)) :
    (Cursor.start node place .forward).Yields (origins.map node.recordAt) := by
  have hyields := yields_items node place .forward
  rw [items_forward, h, ofWalk] at hyields
  simpa using hyields

/-- A page of an index has room for more than one header. -/
theorem stepLimit_pos (node : Node) : 0 < node.stepLimit := by
  have hlong : 74 ≤ node.page.size := node.headerFits
  have hshort : node.format.fixedSize ≤ 6 := by cases node.format <;> decide
  exact Nat.div_pos (by omega) node.format.fixedSize_pos

theorem next_start_of_link (h : node.successor position = .ok (some origin)) :
    (Cursor.start node position .forward).next =
      (some (node.recordAt origin), ⟨node, origin, .forward (node.stepLimit - 1)⟩) := by
  have hlimit := Nat.sub_add_cancel (stepLimit_pos node)
  rw [Cursor.start, ← hlimit, next_of_link h, hlimit]

end Cursor

namespace Node

/-- On a chain of records that are apart, in whatever order they lie on the page, a cursor meets
each record of the chain once: call after call it reads the next one and stands there, whether the
record can be decoded or not. After the last record every call finds the end. No call ever reports a
circle, as there are no more records than the page has room for. -/
theorem calls_of_linked {node : Node} {origins : List Nat}
    (hlinked : node.Linked node.format.infimum origins)
    (hapart : origins.Pairwise (Apart node.format.fixedSize)) :
    node.cursor.items = origins.map node.recordAt ∧
      origins.length ≤ node.page.size / node.format.fixedSize ∧
      (∀ n (h : n < origins.length),
        (node.cursor.after n).next.1 = some (node.recordAt origins[n]) ∧
          (node.cursor.after (n + 1)).position = origins[n]) ∧
      (∀ n, origins.length ≤ n → (node.cursor.after n).next.1 = none) ∧
      ∀ n page fault, (node.cursor.after n).next.1 ≠ some (.error (.link page fault)) := by
  have hlength := hlinked.length_le hapart
  have hitems := cursor_items_of_linked hlinked hapart
  have hwalk := walk_of_linked hlinked hapart hlength
  have hcalls (n : Nat) : (node.cursor.after n).next.1 = (origins.map node.recordAt)[n]? := by
    rw [← hitems]
    exact Cursor.next_after_start node node.format.infimum n
  refine ⟨hitems, hlength, ?_, ?_, ?_⟩
  · intro n hn
    constructor
    · rw [hcalls, List.getElem?_map, List.getElem?_eq_getElem hn]
      rfl
    · have hposition := Cursor.position_after_start node node.format.infimum (n + 1)
      rw [hwalk, Nat.min_eq_left (Nat.succ_le_of_lt hn), List.getElem?_cons_succ,
        List.getElem?_eq_getElem hn] at hposition
      exact (Option.some.inj hposition).symm
  · intro n hn
    rw [hcalls]
    exact List.getElem?_eq_none (by rwa [List.length_map])
  · intro n page fault h
    rw [hcalls, List.getElem?_map] at h
    obtain ⟨origin, -, hread⟩ := Option.map_eq_some_iff.1 h
    exact recordAt_ne_link node origin page fault hread

end Node

/-! ## A page without a free byte between its records -/

namespace Crowded

def layout : Layout where
  kind := .secondary
  keys := [{ name := "id", type := .integer 4 true }]
  rows := []

/-- Behind the supremum seven headers follow on each other. The last one stands before the last byte
of the page, so its record has no room for the column. -/
def image : ByteArray :=
  ⟨⟨List.replicate 24 0 ++ [69, 191] ++ List.replicate 16 0 ++ [128, 9] ++ List.replicate 53 0 ++
    [0, 33] ++ List.replicate 13 0 ++
    [30, 20, 10, 65521, 65511, 65521, 65511].flatMap
      (fun link => [0, 0, 0] ++ toBigEndian 2 link) ++ [0]⟩⟩

def node : Node :=
  ⟨⟨4, image, by decide +kernel⟩, some layout, by decide +kernel, by decide +kernel⟩

/-- The records in the order of their links. -/
def origins : List Nat := [132, 117, 147, 122, 142, 127, 137]

end Crowded

/-- The cursor meets the seven records in the order of their links. The third cannot be decoded,
which is the answer of the third call and keeps none of the others from being found. -/
theorem Node.calls_of_linked_crowded :
    Crowded.node.Linked Crowded.node.format.infimum Crowded.origins ∧
      Crowded.origins.Pairwise (Apart Crowded.node.format.fixedSize) ∧
      (Crowded.node.cursor.after 2).next.1 =
        some (.error (.format (.readOverrun 4 147 4 148))) ∧
      (Crowded.node.cursor.after 3).position = 147 ∧
      (Crowded.node.cursor.after 7).position = 137 ∧
      ∀ n, 7 ≤ n → (Crowded.node.cursor.after n).next.1 = none := by
  have hlinked : Crowded.node.Linked Crowded.node.format.infimum Crowded.origins := by
    decide +kernel
  have hapart : Crowded.origins.Pairwise (Apart Crowded.node.format.fixedSize) := by
    decide +kernel
  obtain ⟨-, -, hcalls, hend, -⟩ := calls_of_linked hlinked hapart
  obtain ⟨hthird, hposition⟩ := hcalls 2 (by decide)
  obtain ⟨-, hlast⟩ := hcalls 6 (by decide)
  have hread : Crowded.node.recordAt 147 = .error (.format (.readOverrun 4 147 4 148)) := by
    decide +kernel
  exact ⟨hlinked, hapart, hthird.trans (congrArg some hread), hposition, hlast, hend⟩

end Tablespace
