import Tablespace.Index.Node

/-!
# Chains of records

The records of a node are linked from the infimum to the supremum. A link also ends the chain if it
leads to the record itself or out of the page. Every record takes up the fixed part of its header,
so a page has room for `stepLimit` records at most; whoever follows more links goes in a circle.

`walk` follows the chain for a whole stretch, a `Cursor` one record at a time, forward or backward,
and decodes the records on the way. Which records a cursor meets depends on the fixed headers alone:
a record that cannot be decoded is reported in its place and the walk goes on.

Main statements: `Cursor.items_forward` and `Cursor.items_backward`, a cursor meets the records of
the walk, in order or in reverse.
-/

namespace Tablespace

namespace Node

/-- The number of records that a page has room for at most. -/
def stepLimit (node : Node) : Nat := node.page.size / node.format.fixedSize

/-- The record that the one at `origin` links to, `none` at the end of the chain. -/
def successor (node : Node) (origin : Nat) : Except Error (Option Nat) := do
  let next := (← node.headerAt origin).next
  if next = node.format.supremum ∨ next = origin then return none
  else if next < node.format.fixedSize ∨ node.page.size ≤ next then return none
  else return some next

/-- The error of a chain that is longer than the page has room for. -/
def loopAt (node : Node) (origin : Nat) : Error := .link node.number (.recordLoop origin)

/-- One link further, where `budget` more links may be followed: the next record and what is left of
the budget. -/
def advance (node : Node) (origin budget : Nat) : Except Error (Option (Nat × Nat)) := do
  match ← node.successor origin, budget with
  | none, _ => return none
  | some next, 0 => .error (node.loopAt next)
  | some next, budget + 1 => return some (next, budget)

/-- The records after `origin` as far as `budget` links lead, and the error that ends the walk if it
does not end at the end of the chain. -/
def walk (node : Node) (budget origin : Nat) : List Nat × Option Error :=
  match node.successor origin, budget with
  | .error e, _ => ([], some e)
  | .ok none, _ => ([], none)
  | .ok (some next), 0 => ([], some (node.loopAt next))
  | .ok (some next), budget + 1 =>
    let (rest, fault) := node.walk budget next
    (next :: rest, fault)

/-- The records before `stop`, from the infimum on; an error after `stop` does not count. -/
def recordsBefore (node : Node) (stop : Nat) : Except Error (List Nat) :=
  let walked := node.walk node.stepLimit node.format.infimum
  if stop ∈ walked.1 then .ok (walked.1.takeWhile (· ≠ stop))
  else
    match walked.2 with
    | some e => .error e
    | none => .ok walked.1

end Node

/-- The directions of a cursor. -/
inductive Direction where
  /-- Along the links. -/
  | forward
  /-- Against the links. -/
  | backward
  deriving DecidableEq, Repr

/-- What a cursor has still before it. -/
inductive Course where
  /-- So many links may still be followed. -/
  | forward (budget : Nat)
  /-- The records before the position have not been looked up. -/
  | backward
  /-- These records are left, nearest first. -/
  | remaining (origins : List Nat)
  /-- Nothing. -/
  | finished
  deriving DecidableEq, Repr

/-- A cursor over the records of a node. -/
structure Cursor where
  /-- The node. -/
  node : Node
  /-- The record met last, or the place from which the cursor started. -/
  position : Nat
  /-- What is still before the cursor. -/
  course : Course

namespace Cursor

/-- A cursor that starts after or before `origin`. -/
def start (node : Node) (origin : Nat) : Direction → Cursor
  | .forward => ⟨node, origin, .forward node.stepLimit⟩
  | .backward => ⟨node, origin, .backward⟩

/-- The cursor at the end of its course. -/
def finish (cursor : Cursor) : Cursor := { cursor with course := .finished }

/-- The nearest of the records left, and the cursor there. -/
def pop (cursor : Cursor) : List Nat → Option (Except Error Record) × Cursor
  | [] => (none, cursor.finish)
  | origin :: rest =>
    (some (cursor.node.recordAt origin), ⟨cursor.node, origin, .remaining rest⟩)

/-- The next record or error, and the cursor there; `none` at the end. -/
def next (cursor : Cursor) : Option (Except Error Record) × Cursor :=
  match cursor.course with
  | .finished => (none, cursor)
  | .forward budget =>
    match cursor.node.advance cursor.position budget with
    | .error e => (some (.error e), cursor.finish)
    | .ok none => (none, cursor.finish)
    | .ok (some (origin, budget)) =>
      (some (cursor.node.recordAt origin), ⟨cursor.node, origin, .forward budget⟩)
  | .backward =>
    match cursor.node.recordsBefore cursor.position with
    | .error e => (some (.error e), cursor.finish)
    | .ok origins => cursor.pop origins.reverse
  | .remaining origins => cursor.pop origins

/-- What the cursor meets in `count` calls of `next`, up to the end. -/
def take : (count : Nat) → Cursor → List (Except Error Record)
  | 0, _ => []
  | count + 1, cursor =>
    match cursor.next with
    | (none, _) => []
    | (some item, cursor) => item :: take count cursor

/-- All that the cursor meets: no course is longer than the page has room for, and one error. -/
def items (cursor : Cursor) : List (Except Error Record) := cursor.take (cursor.node.stepLimit + 2)

end Cursor

namespace Node

/-- A cursor over all records of the node. -/
def cursor (node : Node) : Cursor := .start node node.format.infimum .forward

/-- All records of the node, or the first error on the way. -/
def records (node : Node) : Except Error (List Record) := node.cursor.items.mapM id

/-! ## A cursor meets the records of the walk -/

theorem walk_of_error {node : Node} {origin : Nat} {e : Error}
    (h : node.successor origin = .error e) (budget : Nat) :
    node.walk budget origin = ([], some e) := by
  rw [walk.eq_def, h]

theorem walk_of_none {node : Node} {origin : Nat} (h : node.successor origin = .ok none)
    (budget : Nat) : node.walk budget origin = ([], none) := by
  rw [walk.eq_def, h]

theorem walk_zero_of_some {node : Node} {origin next : Nat}
    (h : node.successor origin = .ok (some next)) :
    node.walk 0 origin = ([], some (node.loopAt next)) := by
  rw [walk.eq_def, h]

theorem walk_succ_of_some {node : Node} {origin next : Nat}
    (h : node.successor origin = .ok (some next)) (budget : Nat) :
    node.walk (budget + 1) origin =
      (next :: (node.walk budget next).1, (node.walk budget next).2) := by
  rw [walk.eq_def, h]

/-- A walk follows no more links than its budget. -/
theorem length_walk_le (node : Node) (budget origin : Nat) :
    (node.walk budget origin).1.length ≤ budget := by
  induction budget generalizing origin with
  | zero =>
    rcases h : node.successor origin with e | _ | next
    · simp [walk_of_error h]
    · simp [walk_of_none h]
    · simp [walk_zero_of_some h]
  | succ budget ih =>
    rcases h : node.successor origin with e | _ | next
    · simp [walk_of_error h]
    · simp [walk_of_none h]
    · simpa [walk_succ_of_some h] using ih next

end Node

namespace Cursor

/-- What a walk comes to, record by record and with the error that ends it. -/
def ofWalk (node : Node) (walked : List Nat × Option Error) : List (Except Error Record) :=
  walked.1.map node.recordAt ++ walked.2.toList.map .error

theorem take_finished (node : Node) (position count : Nat) :
    take count ⟨node, position, .finished⟩ = [] := by
  cases count <;> rfl

section Forward

variable {node : Node} {position budget origin : Nat}

theorem next_of_error {e : Error} (h : node.successor position = .error e) :
    next ⟨node, position, .forward budget⟩ =
      (some (.error e), ⟨node, position, .finished⟩) := by
  simp only [next, Node.advance, h, finish, bind, Except.bind]

theorem next_of_end (h : node.successor position = .ok none) :
    next ⟨node, position, .forward budget⟩ = (none, ⟨node, position, .finished⟩) := by
  simp only [next, Node.advance, h, finish, bind, Except.bind, pure, Except.pure]

theorem next_of_spent (h : node.successor position = .ok (some origin)) :
    next ⟨node, position, .forward 0⟩ =
      (some (.error (node.loopAt origin)), ⟨node, position, .finished⟩) := by
  simp only [next, Node.advance, h, finish, bind, Except.bind]

theorem next_of_link (h : node.successor position = .ok (some origin)) :
    next ⟨node, position, .forward (budget + 1)⟩ =
      (some (node.recordAt origin), ⟨node, origin, .forward budget⟩) := by
  simp only [next, Node.advance, h, bind, Except.bind, pure, Except.pure]

end Forward

/-- A cursor that still follows links meets the records of the walk. -/
theorem take_forward (node : Node) (position budget count : Nat) :
    take count ⟨node, position, .forward budget⟩ =
      (ofWalk node (node.walk budget position)).take count := by
  induction count generalizing position budget with
  | zero => rfl
  | succ count ih =>
    rcases h : node.successor position with e | _ | origin
    · rw [take, next_of_error h, Node.walk_of_error h]
      simp only [take_finished, ofWalk, List.map_nil, List.nil_append, Option.toList_some,
        List.map_cons, List.take_succ_cons, List.take_nil]
    · rw [take, next_of_end h, Node.walk_of_none h]
      rfl
    · cases budget with
      | zero =>
        rw [take, next_of_spent h, Node.walk_zero_of_some h]
        simp only [take_finished, ofWalk, List.map_nil, List.nil_append, Option.toList_some,
          List.map_cons, List.take_succ_cons, List.take_nil]
      | succ budget =>
        rw [take, next_of_link h, Node.walk_succ_of_some h]
        simp only [ih, ofWalk, List.map_cons, List.cons_append, List.take_succ_cons]

/-- A cursor that takes its next records from a list meets just these. -/
theorem take_of_next_eq_pop {cursor : Cursor} {origins : List Nat}
    (h : cursor.next = cursor.pop origins) (count : Nat) :
    take count cursor = (origins.map cursor.node.recordAt).take count := by
  induction count generalizing cursor origins with
  | zero => simp [take]
  | succ count ih =>
    cases origins with
    | nil => simp [take, h, pop]
    | cons origin rest =>
      have hrest := @ih ⟨cursor.node, origin, .remaining rest⟩ rest rfl
      simp [take, h, pop, hrest]

/-- All that a forward cursor meets is all that the walk comes to. -/
theorem items_forward (node : Node) (origin : Nat) :
    (start node origin .forward).items = ofWalk node (node.walk node.stepLimit origin) := by
  rw [items, start, take_forward, List.take_of_length_le]
  have hwalk := node.length_walk_le node.stepLimit origin
  have hfault : (node.walk node.stepLimit origin).2.toList.length ≤ 1 := by
    cases (node.walk node.stepLimit origin).2 <;> simp
  simp only [ofWalk, List.length_append, List.length_map]
  omega

/-- The records before a place are no more than the page has room for. -/
theorem length_recordsBefore_le {node : Node} {stop : Nat} {origins : List Nat}
    (h : node.recordsBefore stop = .ok origins) : origins.length ≤ node.stepLimit := by
  have hwalk := node.length_walk_le node.stepLimit node.format.infimum
  unfold Node.recordsBefore at h
  by_cases hstop : stop ∈ (node.walk node.stepLimit node.format.infimum).1
  · simp only [hstop, if_true, Except.ok.injEq] at h
    exact h ▸ Nat.le_trans (List.takeWhile_sublist _).length_le hwalk
  · cases hfault : (node.walk node.stepLimit node.format.infimum).2 with
    | some e => simp [hstop, hfault] at h
    | none =>
      simp only [hstop, hfault, if_false, Except.ok.injEq] at h
      exact h ▸ hwalk

/-- All that a backward cursor meets is the records before its start, nearest first, or the error
that keeps them from being found. -/
theorem items_backward (node : Node) (origin : Nat) :
    (start node origin .backward).items =
      match node.recordsBefore origin with
      | .error e => [.error e]
      | .ok origins => origins.reverse.map node.recordAt := by
  rw [items, start]
  cases h : node.recordsBefore origin with
  | error e => simp [take, next, h, finish]
  | ok origins =>
    have hlen := length_recordsBefore_le h
    have hnext : next ⟨node, origin, .backward⟩ =
        pop ⟨node, origin, .backward⟩ origins.reverse := by simp [next, h]
    rw [take_of_next_eq_pop hnext, List.take_of_length_le]
    simp only [List.length_map, List.length_reverse]
    omega

end Cursor

end Tablespace
