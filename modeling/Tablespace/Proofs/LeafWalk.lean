import Tablespace.Proofs.TreeScan

/-!
# Walks along the leaves end on any image

Nothing is known here of the pages of a space: links may lead anywhere. A walk along the leaves of a
tree still meets each page at most once and comes to an end, with an error or without. What ends it
is told by the last leaf and its link alone: `Tree.LeafRun` says which leaves a walk meets and where
it stops, without a walk, and `LeafWalk.exists_leafRun` that every walk meets just these.

The invariant of a walk is `LeafWalk.Sound`: the pages met so far are different pages of the space.
It leaves room for one more page whenever a link leads to a page that was not met.
-/

namespace Tablespace

/-! ## Pages that can be read -/

namespace Tree

variable {tree : Tree} {number : Nat}

/-- A page of the space is a node if it says so. -/
theorem exists_node {page : Page} (hpage : tree.space.page number = .ok page)
    (hkind : page.kind = .index) : ∃ node, tree.node number = .ok node := by
  refine ⟨⟨page, tree.layout, hkind, Space.indexHeader_fits hpage⟩, ?_⟩
  rw [node, hpage, ok_bind, Node.ofPage_eq_ok]

/-! ## The leftmost node -/

/-- The leftmost node of a level is a node of the tree and on that level. -/
theorem node_of_leftmost {level : Nat} {node : Node} (h : tree.leftmost level = .ok node) :
    tree.node node.number = .ok node ∧ node.level = level := by
  rw [leftmost, bind_eq_ok_iff] at h
  obtain ⟨root, hroot, h⟩ := h
  split at h
  · cases h
  · rename_i hlevel
    obtain ⟨path, hlength, hpath⟩ :=
      (leftmostBelow_eq_ok_iff (Nat.sub_le _ _) (passedAbove_root hroot)).1 h
    have hnode : tree.node root.number = .ok root := by rwa [(number_of_node hroot).1]
    have hfall := hpath.level_add_length
    exact ⟨hpath.nodes hnode node (List.mem_of_getLast? hpath.ends), by omega⟩

/-! ## Where links lead -/

/-- Where the link of the leaf `origin` to the page `number` leads, if the pages `visited` were met
before: to an error, to the end of the level, or to the next leaf. -/
inductive Leads (tree : Tree) (visited : List Nat) (origin number : Nat) :
    Except Error (Option Node) → Prop where
  | outside (hrange : tree.space.pageCount ≤ number) :
      Leads tree visited origin number
        (.error (.link origin (.nextOutOfRange number tree.space.pageCount)))
  | met (hmet : number ∈ visited) :
      Leads tree visited origin number (.error (.link origin (.nextVisited number)))
  | inner {node : Node} (hnode : tree.node number = .ok node) (hlevel : node.level ≠ 0) :
      Leads tree visited origin number (.error (.link origin (.siblingLevel number node.level)))
  | other {page : Page} (hnew : number ∉ visited) (hpage : tree.space.page number = .ok page)
      (hkind : page.kind ≠ .index) : Leads tree visited origin number (.ok none)
  | leaf {node : Node} (hnew : number ∉ visited) (hnode : tree.node number = .ok node)
      (hleaf : node.isLeaf = true) : Leads tree visited origin number (.ok (some node))

/-- After the leaf `last` the level ends, with a fault or without. -/
inductive LevelEnd (tree : Tree) (visited : List Nat) (last : Node) : Option Error → Prop where
  | noLink (hlink : last.next? = none) : LevelEnd tree visited last none
  | noLeaf {number : Nat} (hlink : last.next? = some number)
      (hleads : tree.Leads visited last.number number (.ok none)) : LevelEnd tree visited last none
  | fault {number : Nat} {e : Error} (hlink : last.next? = some number)
      (hleads : tree.Leads visited last.number number (.error e)) :
      LevelEnd tree visited last (some e)

/-- After the leaf `last` the links lead through the leaves of a list, and there the level ends. -/
inductive LeafRun (tree : Tree) : (visited : List Nat) → (last : Node) → List Node →
    Option Error → Prop where
  | stop {visited : List Nat} {last : Node} {fault : Option Error}
      (hend : tree.LevelEnd visited last fault) : LeafRun tree visited last [] fault
  | link {visited : List Nat} {last leaf : Node} {number : Nat} {rest : List Node}
      {fault : Option Error} (hlink : last.next? = some number)
      (hleads : tree.Leads visited last.number number (.ok (some leaf)))
      (hrest : LeafRun tree (number :: visited) leaf rest fault) :
      LeafRun tree visited last (leaf :: rest) fault

end Tree

/-! ## Links of a page -/

namespace Node

variable {node : Node} {number : Nat}

theorem next?_eq_none_iff :
    node.next? = none ↔ node.page.header.next = noPage ∨ node.page.header.next = 0 := by
  unfold next? PageHeader.next? PageHeader.link?
  split
  · rename_i hlink
    exact ⟨fun _ => hlink, fun _ => rfl⟩
  · rename_i hlink
    constructor
    · intro hnone
      cases hnone
    · intro hnoLink
      exact absurd hnoLink hlink

theorem next_of_next?_eq_some (h : node.next? = some number) :
    node.page.header.next = number ∧ number ≠ noPage ∧ number ≠ 0 := by
  unfold next? PageHeader.next? PageHeader.link? at h
  split at h
  · cases h
  · rename_i hlink
    cases h
    exact ⟨rfl, not_or.1 hlink⟩

end Node

namespace Tree

variable {tree : Tree} {visited : List Nat} {last leaf : Node} {rest : List Node}
  {fault : Option Error}

theorem node_of_leads {origin number : Nat}
    (h : tree.Leads visited origin number (.ok (some leaf))) :
    leaf.number = number ∧ number ∉ visited ∧ tree.node leaf.number = .ok leaf ∧
      leaf.isLeaf = true := by
  cases h with
  | leaf hnew hnode hleaf =>
    have hnumber := (number_of_node hnode).1
    exact ⟨hnumber, hnew, by rwa [hnumber], hleaf⟩

/-- A level ends without a fault if its last leaf has no link, or one to a new page of the space
that is no node. -/
theorem LevelEnd.eq_none_iff (h : tree.LevelEnd visited last fault) :
    fault = none ↔
      last.page.header.next = noPage ∨ last.page.header.next = 0 ∨
        (last.page.header.next < tree.space.pageCount ∧ last.page.header.next ∉ visited ∧
          ∃ page, tree.space.page last.page.header.next = .ok page ∧ page.kind ≠ .index) := by
  rw [← or_assoc, ← Node.next?_eq_none_iff]
  cases h with
  | noLink hlink => exact ⟨fun _ => .inl hlink, fun _ => rfl⟩
  | noLeaf hlink hleads =>
    obtain ⟨rfl, -, -⟩ := Node.next_of_next?_eq_some hlink
    cases hleads with
    | other hnew hpage hkind =>
      have hrange := (Space.number_of_page hpage).2
      exact ⟨fun _ => .inr ⟨hrange, hnew, _, hpage, hkind⟩, fun _ => rfl⟩
  | fault hlink hleads =>
    obtain ⟨rfl, -, -⟩ := Node.next_of_next?_eq_some hlink
    constructor
    · intro hnone
      cases hnone
    · rintro (hnone | ⟨hrange, hnew, page, hpage, hkind⟩)
      · rw [hlink] at hnone
        cases hnone
      · -- each fault contradicts one part of what is said of the link
        exfalso
        cases hleads with
        | outside hout => omega
        | met hmet => exact hnew hmet
        | inner hnode _ =>
          have hsame := (page_of_node hnode).1
          rw [hpage, Except.ok.injEq] at hsame
          rename_i node _
          exact hkind (hsame ▸ node.kindIsIndex)

/-- A level ends with a fault if the link of its last leaf leads out of the space, to a page that
was met, or to a node that is no leaf. -/
theorem LevelEnd.ne_none_iff (h : tree.LevelEnd visited last fault) :
    fault ≠ none ↔
      last.page.header.next ≠ noPage ∧ last.page.header.next ≠ 0 ∧
        (tree.space.pageCount ≤ last.page.header.next ∨ last.page.header.next ∈ visited ∨
          ∃ node, tree.node last.page.header.next = .ok node ∧ node.level ≠ 0) := by
  cases h with
  | noLink hlink =>
    rw [Node.next?_eq_none_iff] at hlink
    constructor
    · intro hfault
      exact absurd rfl hfault
    · rintro ⟨hpage, hzero, -⟩
      exact (hlink.elim hpage hzero).elim
  | noLeaf hlink hleads =>
    obtain ⟨rfl, -, -⟩ := Node.next_of_next?_eq_some hlink
    constructor
    · intro hfault
      exact absurd rfl hfault
    · rintro ⟨-, -, hcause⟩
      exfalso
      cases hleads with
      | other hnew hpage hkind =>
        rcases hcause with hrange | hmet | ⟨node, hnode, -⟩
        · have hinside := (Space.number_of_page hpage).2
          omega
        · exact hnew hmet
        · have hsame := (page_of_node hnode).1
          rw [hpage, Except.ok.injEq] at hsame
          exact hkind (hsame ▸ node.kindIsIndex)
  | fault hlink hleads =>
    obtain ⟨rfl, hnoPage, hzero⟩ := Node.next_of_next?_eq_some hlink
    constructor
    · rintro -
      refine ⟨hnoPage, hzero, ?_⟩
      cases hleads with
      | outside hrange => exact .inl hrange
      | met hmet => exact .inr (.inl hmet)
      | inner hnode hlevel => exact .inr (.inr ⟨_, hnode, hlevel⟩)
    · rintro - hnone
      cases hnone

/-! ## Leaves of a run -/

namespace LeafRun

theorem isChain (h : tree.LeafRun visited last rest fault) :
    (last :: rest).IsChain fun leaf next => leaf.next? = some next.number := by
  induction h with
  | stop => exact .singleton _
  | link hlink hleads _ ih =>
    obtain ⟨rfl, -⟩ := node_of_leads hleads
    exact .cons_cons hlink ih

theorem nodes (h : tree.LeafRun visited last rest fault) :
    ∀ leaf ∈ rest, tree.node leaf.number = .ok leaf ∧ leaf.isLeaf = true := by
  induction h with
  | stop => simp
  | link _ hleads _ ih =>
    obtain ⟨-, -, hnode, hleaf⟩ := node_of_leads hleads
    exact List.forall_mem_cons.2 ⟨⟨hnode, hleaf⟩, ih⟩

/-- The leaves of a run are on pages that are different from each other and from those met before.
-/
theorem nodup (h : tree.LeafRun visited last rest fault) (hvisited : visited.Nodup) :
    (visited ++ rest.map (·.number)).Nodup := by
  induction h with
  | stop => simpa using hvisited
  | link _ hleads _ ih =>
    obtain ⟨rfl, hnew, -, -⟩ := node_of_leads hleads
    rw [List.map_cons]
    exact List.perm_middle.nodup_iff.2 (ih (List.nodup_cons.2 ⟨hnew, hvisited⟩))

/-- A run ends after its last leaf. -/
theorem levelEnd (h : tree.LeafRun visited last rest fault) :
    ∃ final, (last :: rest).getLast? = some final ∧
      tree.LevelEnd ((rest.map (·.number)).reverse ++ visited) final fault := by
  induction h with
  | stop hend => exact ⟨_, rfl, hend⟩
  | link _ hleads _ ih =>
    obtain ⟨rfl, -⟩ := node_of_leads hleads
    obtain ⟨final, hfinal, hend⟩ := ih
    refine ⟨final, by rwa [List.getLast?_cons_cons], ?_⟩
    rwa [List.map_cons, List.reverse_cons, List.append_assoc]

end LeafRun

end Tree

/-! ## The walk -/

namespace LeafWalk

/-- The walk after `n` calls of `next`. -/
def after (walk : LeafWalk) : (n : Nat) → LeafWalk
  | 0 => walk
  | n + 1 => walk.next.2.after n

/-- Nothing is left of the walk, and a call of `next` changes nothing. -/
def Over (walk : LeafWalk) : Prop := walk.next = (none, walk)

variable {walk rest : LeafWalk} {tree : Tree} {leaf : Node} {visited : List Nat}
  {origin number : Nat} {item : Except Error Node}

theorem over_finished (tree : Tree) (visited : List Nat) : Over ⟨tree, .finished, visited⟩ := rfl

theorem over_of_noLink (tree : Tree) (origin : Nat) (visited : List Nat) :
    Over ⟨tree, .after origin none, visited⟩ := rfl

/-! One call of `next`, by where the walk stands. -/

theorem next_before (tree : Tree) (first : Node) (visited : List Nat) :
    next ⟨tree, .before first, visited⟩ =
      (some (.ok first), ⟨tree, .after first.number first.next?, visited⟩) := rfl

theorem next_of_leaf
    (h : follow ⟨tree, .after origin (some number), visited⟩ origin number = .ok (some leaf)) :
    next ⟨tree, .after origin (some number), visited⟩ =
      (some (.ok leaf), ⟨tree, .after leaf.number leaf.next?, number :: visited⟩) := by
  simp only [next, h]

theorem next_of_none
    (h : follow ⟨tree, .after origin (some number), visited⟩ origin number = .ok none) :
    next ⟨tree, .after origin (some number), visited⟩ = (none, ⟨tree, .finished, visited⟩) := by
  simp only [next, h, finish]

theorem next_of_error {e : Error}
    (h : follow ⟨tree, .after origin (some number), visited⟩ origin number = .error e) :
    next ⟨tree, .after origin (some number), visited⟩ =
      (some (.error e), ⟨tree, .finished, visited⟩) := by
  simp only [next, h, finish]

/-- A walk that comes to an end stays there. -/
theorem over_of_next_eq_none (h : walk.next.1 = none) : walk.next.2.Over := by
  obtain ⟨tree, place, visited⟩ := walk
  cases place with
  | before first => cases h
  | finished => exact over_finished tree visited
  | after origin link =>
    cases link with
    | none => exact over_of_noLink tree origin visited
    | some number =>
      rcases hfollow : follow ⟨tree, .after origin (some number), visited⟩ origin number with
        e | _ | leaf
      · rw [next_of_error hfollow] at h
        cases h
      · rw [next_of_none hfollow]
        exact over_finished tree visited
      · rw [next_of_leaf hfollow] at h
        cases h

theorem tree_next (walk : LeafWalk) : walk.next.2.tree = walk.tree := by
  obtain ⟨tree, place, visited⟩ := walk
  cases place with
  | before first => rfl
  | finished => rfl
  | after origin link =>
    cases link with
    | none => rfl
    | some number =>
      rcases hfollow : follow ⟨tree, .after origin (some number), visited⟩ origin number with
        e | _ | leaf
      · rw [next_of_error hfollow]
      · rw [next_of_none hfollow]
      · rw [next_of_leaf hfollow]

theorem tree_after (walk : LeafWalk) (n : Nat) : (walk.after n).tree = walk.tree := by
  induction n generalizing walk with
  | zero => rfl
  | succ n ih => rw [after, ih, tree_next]

/-! Many calls of `next`. -/

theorem take_of_none (h : walk.next = (none, rest)) (count : Nat) : take count walk = [] := by
  cases count with
  | zero => rfl
  | succ count => rw [take, h]

theorem take_of_some (h : walk.next = (some item, rest)) (count : Nat) :
    take (count + 1) walk = item :: take count rest := by
  rw [take, h]

theorem Over.after_eq (h : walk.Over) (n : Nat) : walk.after n = walk := by
  induction n with
  | zero => rfl
  | succ n ih => rw [after, h, ih]

/-- Up to the end, what a walk meets is what the calls of `next` give one after the other. -/
theorem next_after_eq {n count : Nat} (h : n < count) :
    (walk.after n).next.1 = (take count walk)[n]? := by
  induction count generalizing walk n with
  | zero => cases h
  | succ count ih =>
    rcases hnext : walk.next with ⟨_ | item, rest⟩
    · rw [take_of_none hnext]
      cases n with
      | zero => rw [after, hnext]; rfl
      | succ n =>
        have hover : walk.next.2.Over := over_of_next_eq_none (by rw [hnext])
        rw [after, hover.after_eq, hover]
        rfl
    · rw [take_of_some hnext]
      cases n with
      | zero => rw [after, hnext]; rfl
      | succ n =>
        rw [after, hnext, ih (Nat.lt_of_succ_lt_succ h)]
        rfl

/-- A walk that ends before the calls are used up meets no more in further calls. -/
theorem take_add_of_length_lt {count : Nat} (h : (take count walk).length < count) (more : Nat) :
    take (count + more) walk = take count walk := by
  induction count generalizing walk with
  | zero => cases h
  | succ count ih =>
    rcases hnext : walk.next with ⟨_ | item, rest⟩
    · rw [take_of_none hnext, take_of_none hnext]
    · rw [take_of_some hnext, List.length_cons] at h
      rw [Nat.add_right_comm, take_of_some hnext, take_of_some hnext,
        ih (Nat.lt_of_succ_lt_succ h)]

/-! ## The invariant -/

/-- The pages that the walk has met are different pages of the space. -/
structure Sound (walk : LeafWalk) : Prop where
  different : walk.visited.Nodup
  inside : ∀ number ∈ walk.visited, number < walk.tree.space.pageCount

namespace Sound

/-- There is room for a page of the space that was not met. -/
theorem length_lt (h : walk.Sound) (hrange : number < walk.tree.space.pageCount)
    (hnew : number ∉ walk.visited) : walk.visited.length < walk.tree.space.pageCount := by
  have hdifferent : (number :: walk.visited).Nodup := List.nodup_cons.2 ⟨hnew, h.different⟩
  have hinside : ∀ n ∈ number :: walk.visited, n < walk.tree.space.pageCount :=
    List.forall_mem_cons.2 ⟨hrange, h.inside⟩
  exact Space.length_le_pageCount hdifferent hinside

/-- A sound walk follows a link to where it leads; that there be more pages met than the space has
is no case of its own. -/
theorem leads_follow (h : walk.Sound) (origin number : Nat) :
    walk.tree.Leads walk.visited origin number (walk.follow origin number) := by
  rw [follow]
  split
  · rename_i hrange
    exact .outside hrange
  rename_i hrange
  rw [Nat.not_le] at hrange
  split
  · rename_i hmet
    rcases hmet with hmet | hfull
    · exact .met hmet
    · -- there is room for a new page, so this one was met
      by_cases hnew : number ∈ walk.visited
      · exact .met hnew
      · have hroom := h.length_lt hrange hnew
        omega
  rename_i hnew
  rw [not_or] at hnew
  obtain ⟨page, hpage, -⟩ := Space.page_eq_ok hrange
  rw [hpage, ok_bind]
  split
  · rename_i hkind
    exact .other hnew.1 hpage hkind
  rename_i hkind
  rw [not_not] at hkind
  obtain ⟨node, hnode⟩ := Tree.exists_node hpage hkind
  have hofPage : Node.ofPage page walk.tree.layout = .ok node := by
    rwa [Tree.node, hpage, ok_bind] at hnode
  rw [hofPage, ok_bind]
  split
  · rename_i hleaf
    exact .leaf hnew.1 hnode hleaf
  · rename_i hleaf
    rw [Node.isLeaf_iff] at hleaf
    exact .inner hnode hleaf

/-- A sound walk stays sound. -/
theorem next (h : walk.Sound) : walk.next.2.Sound := by
  obtain ⟨tree, place, visited⟩ := walk
  cases place with
  | before first => exact ⟨h.different, h.inside⟩
  | finished => exact h
  | after origin link =>
    cases link with
    | none => exact h
    | some number =>
      rcases hfollow : follow ⟨tree, .after origin (some number), visited⟩ origin number with
        e | _ | leaf
      · rw [next_of_error hfollow]
        exact ⟨h.different, h.inside⟩
      · rw [next_of_none hfollow]
        exact ⟨h.different, h.inside⟩
      · have hleads := h.leads_follow origin number
        rw [hfollow] at hleads
        obtain ⟨rfl, hnew, hnode, -⟩ := Tree.node_of_leads hleads
        have hrange := (Tree.number_of_node hnode).2
        rw [next_of_leaf hfollow]
        exact ⟨List.nodup_cons.2 ⟨hnew, h.different⟩, List.forall_mem_cons.2 ⟨hrange, h.inside⟩⟩

theorem after (h : walk.Sound) (n : Nat) : (walk.after n).Sound := by
  induction n generalizing walk with
  | zero => exact h
  | succ n ih => exact ih h.next

end Sound

/-! ## What a walk meets -/

/-- After a leaf a sound walk meets the run that its links lead through, to the end. As no more
pages are met than the space has, the calls last. -/
theorem exists_leafRun {last : Node} {count : Nat}
    (hsound : Sound ⟨tree, .after last.number last.next?, visited⟩)
    (hcount : tree.space.pageCount < count + visited.length) :
    ∃ rest fault, tree.LeafRun visited last rest fault ∧
      take count ⟨tree, .after last.number last.next?, visited⟩ =
        rest.map .ok ++ fault.toList.map .error := by
  induction count generalizing last visited with
  | zero =>
    have hlength := Space.length_le_pageCount hsound.different hsound.inside
    simp only at hlength
    omega
  | succ count ih =>
    cases hlink : last.next? with
    | none =>
      refine ⟨[], none, .stop (.noLink hlink), ?_⟩
      rw [take_of_none (over_of_noLink tree last.number visited)]
      rfl
    | some number =>
      rw [hlink] at hsound
      have hleads := hsound.leads_follow last.number number
      rcases hfollow : follow ⟨tree, .after last.number (some number), visited⟩ last.number number
        with e | _ | leaf
      · rw [hfollow] at hleads
        refine ⟨[], some e, .stop (.fault hlink hleads), ?_⟩
        rw [take_of_some (next_of_error hfollow), take_of_none (over_finished tree visited)]
        rfl
      · rw [hfollow] at hleads
        refine ⟨[], none, .stop (.noLeaf hlink hleads), ?_⟩
        rw [take_of_none (next_of_none hfollow)]
        rfl
      · rw [hfollow] at hleads
        have hstep := hsound.next
        rw [next_of_leaf hfollow] at hstep
        obtain ⟨rest, fault, hrun, hitems⟩ := ih hstep (by rw [List.length_cons]; omega)
        refine ⟨leaf :: rest, fault, .link hlink hleads hrun, ?_⟩
        rw [take_of_some (next_of_leaf hfollow), hitems]
        rfl

/-- A walk from the first leaf is sound and meets the run after this leaf. -/
theorem exists_leafRun_of_start (hstart : start tree = .ok walk) :
    ∃ first rest fault, tree.leftmost 0 = .ok first ∧ walk.tree = tree ∧ walk.Sound ∧
      tree.LeafRun [first.number] first rest fault ∧
      walk.items = (first :: rest).map .ok ++ fault.toList.map .error := by
  obtain ⟨first, hfirst, hwalk⟩ := bind_eq_ok_iff.1 hstart
  cases hwalk
  obtain ⟨hnode, -⟩ := Tree.node_of_leftmost hfirst
  have hrange := (Tree.number_of_node hnode).2
  have hsound : Sound ⟨tree, .before first, [first.number]⟩ :=
    ⟨List.nodup_singleton _, by simpa using hrange⟩
  have hcount : tree.space.pageCount < tree.space.pageCount + 1 + [first.number].length := by
    rw [List.length_singleton]
    omega
  obtain ⟨rest, fault, hrun, hrest⟩ := exists_leafRun hsound.next hcount
  refine ⟨first, rest, fault, hfirst, rfl, hsound, hrun, ?_⟩
  rw [items, take_of_some (next_before tree first _), hrest]
  rfl

/-- If the walk ends within the calls of `items`, every call of `next` gives what stands in its
place there, and none after the end. -/
theorem next_after_eq_items (h : walk.items.length < walk.tree.space.pageCount + 2) (n : Nat) :
    (walk.after n).next.1 = walk.items[n]? := by
  have hcalls : n < walk.tree.space.pageCount + 2 + (n + 1) := by omega
  rw [next_after_eq hcalls, take_add_of_length_lt h, items]

end LeafWalk

/-- The leaves of a run after a leaf of the tree are different pages of its space and are all on the
lowest level. -/
theorem Tree.LeafRun.leaves {tree : Tree} {first : Node} {rest : List Node} {fault : Option Error}
    (hfirst : tree.leftmost 0 = .ok first) (h : tree.LeafRun [first.number] first rest fault) :
    ((first :: rest).map (·.number)).Nodup ∧
      ∀ leaf ∈ first :: rest, tree.node leaf.number = .ok leaf ∧ leaf.level = 0 := by
  refine ⟨h.nodup (List.nodup_singleton _), List.forall_mem_cons.2 ⟨node_of_leftmost hfirst, ?_⟩⟩
  intro leaf hleaf
  obtain ⟨hnode, hlowest⟩ := h.nodes leaf hleaf
  exact ⟨hnode, Node.isLeaf_iff.1 hlowest⟩

/-- A walk along the leaves of a tree, whatever its space holds, meets leaves and then at most one
fault, and after that nothing. The leaves are different nodes of the lowest level; the first is the
leftmost one, and each links to the next. The walk ends without a fault if the last leaf links to
nothing or to a new page that is no node, and with one if the link leads out of the space, to a leaf
that was met, or to a node of a higher level. A new page of the space is never refused for the
number of pages met. -/
theorem items_eq_leaves_append_fault {tree : Tree} {walk : LeafWalk}
    (hstart : LeafWalk.start tree = .ok walk) :
    ∃ (first last : Node) (rest : List Node) (fault : Option Error),
      walk.items = (first :: rest).map .ok ++ fault.toList.map .error ∧
      (∀ n, (walk.after n).next.1 = walk.items[n]?) ∧
      tree.leftmost 0 = .ok first ∧
      (first :: rest).getLast? = some last ∧
      ((first :: rest).IsChain fun leaf next => leaf.next? = some next.number) ∧
      ((first :: rest).map (·.number)).Nodup ∧
      (first :: rest).length ≤ tree.space.pageCount ∧
      (∀ leaf ∈ first :: rest, leaf.number < tree.space.pageCount ∧
        tree.node leaf.number = .ok leaf ∧ leaf.page.kind = .index ∧ leaf.level = 0) ∧
      (fault = none ↔
        last.page.header.next = noPage ∨ last.page.header.next = 0 ∨
          (last.page.header.next < tree.space.pageCount ∧
            last.page.header.next ∉ (first :: rest).map (·.number) ∧
            ∃ page, tree.space.page last.page.header.next = .ok page ∧ page.kind ≠ .index)) ∧
      (fault ≠ none ↔
        last.page.header.next ≠ noPage ∧ last.page.header.next ≠ 0 ∧
          (tree.space.pageCount ≤ last.page.header.next ∨
            last.page.header.next ∈ (first :: rest).map (·.number) ∨
            ∃ node, tree.node last.page.header.next = .ok node ∧ node.level ≠ 0)) ∧
      ∀ n number, number < tree.space.pageCount → number ∉ (walk.after n).visited →
        (walk.after n).visited.length + 1 ≤ tree.space.pageCount := by
  obtain ⟨first, rest, fault, hfirst, rfl, hsound, hrun, hitems⟩ :=
    LeafWalk.exists_leafRun_of_start hstart
  obtain ⟨hdifferent, hleaves⟩ := hrun.leaves hfirst
  obtain ⟨last, hlast, hend⟩ := hrun.levelEnd
  have hinside : ∀ leaf ∈ first :: rest, leaf.number < walk.tree.space.pageCount :=
    fun leaf hleaf => (Tree.number_of_node (hleaves leaf hleaf).1).2
  have hcount : (first :: rest).length ≤ walk.tree.space.pageCount := by
    rw [← List.length_map (·.number)]
    exact Space.length_le_pageCount hdifferent (List.forall_mem_map.2 hinside)
  have hlength : walk.items.length < walk.tree.space.pageCount + 2 := by
    have hfault : fault.toList.length ≤ 1 := by cases fault <;> simp
    rw [hitems, List.length_append, List.length_map, List.length_map]
    omega
  have hmet (number : Nat) : number ∈ (rest.map (·.number)).reverse ++ [first.number] ↔
      number ∈ (first :: rest).map (·.number) := by
    rw [← List.reverse_cons, List.mem_reverse, List.map_cons]
  refine ⟨first, last, rest, fault, hitems, LeafWalk.next_after_eq_items hlength, hfirst, hlast,
    hrun.isChain, hdifferent, hcount, ?_, ?_, ?_, ?_⟩
  · intro leaf hleaf
    obtain ⟨hnode, hlevel⟩ := hleaves leaf hleaf
    exact ⟨hinside leaf hleaf, hnode, leaf.kindIsIndex, hlevel⟩
  · rw [hend.eq_none_iff, hmet]
  · rw [hend.ne_none_iff, hmet]
  · intro n number hrange hnew
    have htree : (walk.after n).tree = walk.tree := walk.tree_after n
    have hroom := (hsound.after n).length_lt (htree ▸ hrange) hnew
    rwa [htree] at hroom

/-! ## An index whose leaves link in a circle -/

namespace TwoLeaves

/-- A distance as a link. -/
def link (distance : Nat) : Fin (2 ^ 16) :=
  ⟨distance % 2 ^ 16, Nat.mod_lt distance (Nat.two_pow_pos 16)⟩

/-- The first leaf with its second record linked to the last bytes of the page. -/
def straying : Node :=
  ⟨⟨2, image 3 0 39 [record (link 3967) 2 (some 9), noteless], by decide +kernel⟩, some layout,
    by decide +kernel, by decide +kernel⟩

/-- The second leaf, linked to the first. -/
def returning : Node :=
  ⟨⟨3, image 2 0 28 [last], by decide +kernel⟩, some layout, by decide +kernel, by decide +kernel⟩

/-- A space like `space`, with these leaves. -/
def tangled : Space :=
  { space with
    files := [⟨"0", ⟨Array.replicate 4096 0⟩⟩, ⟨"1", root.page.bytes⟩,
      ⟨"2", straying.page.bytes⟩, ⟨"3", returning.page.bytes⟩]
    headerFits := by decide +kernel }

/-- Its tree. -/
def tangledTree : Tree := ⟨tangled, 1, some layout⟩

theorem tangledTree_node {node : Node} {name : String} (hlayout : node.layout = some layout)
    (hfile : tangled.files[node.number]? = some ⟨name, node.page.bytes⟩) :
    tangledTree.node node.number = .ok node := by
  have hsizes : ∀ file ∈ tangled.files, file.bytes.size = tangled.pageSize := by decide +kernel
  exact Tree.node_of_file hlayout hfile hsizes

theorem node_straying : tangledTree.node 2 = .ok straying := @tangledTree_node straying "2" rfl rfl

theorem node_returning : tangledTree.node 3 = .ok returning :=
  @tangledTree_node returning "3" rfl rfl

theorem leftmost_tangledTree : tangledTree.leftmost 0 = .ok straying := by
  have hroot : tangledTree.rootNode = .ok root := @tangledTree_node root "1" rfl rfl
  have hlevel : root.level = 1 := by decide +kernel
  have hchild : Tree.firstChild root = .ok 2 := by decide +kernel
  have hdescend : tangledTree.descend root [tangledTree.root] = .ok straying :=
    Tree.descend_of_firstChild hchild node_straying (by decide) (by decide +kernel)
  rw [Tree.leftmost, hroot, ok_bind, if_neg (Nat.not_lt_zero _), hlevel, Tree.leftmostBelow,
    hdescend]
  rfl

/-- The walk meets both leaves and is then sent back to the first. -/
theorem items_tangledTree :
    LeafWalk.items ⟨tangledTree, .before straying, [2]⟩ =
      [.ok straying, .ok returning, .error (.link 3 (.nextVisited 2))] := by
  have hcount : tangledTree.space.pageCount = 4 := by decide +kernel
  have hright : straying.next? = some 3 := by decide +kernel
  have hleft : returning.next? = some 2 := by decide +kernel
  have hthere : LeafWalk.follow ⟨tangledTree, .after 2 (some 3), [2]⟩ 2 3 = .ok (some returning) :=
    LeafWalk.follow_of_node node_returning (by decide +kernel) (by decide) (by
      rw [hcount]
      decide)
  have hback : LeafWalk.follow ⟨tangledTree, .after 3 (some 2), [3, 2]⟩ 3 2 =
      .error (.link 3 (.nextVisited 2)) := by
    rw [LeafWalk.follow, if_neg (by rw [hcount]; decide), if_pos (.inl (by decide))]
  have hfirst : straying.number = 2 := rfl
  have hsecond : returning.number = 3 := rfl
  have hcircle := LeafWalk.next_of_error hback
  rw [LeafWalk.items, hcount, LeafWalk.take_of_some (LeafWalk.next_before _ _ _), hright, hfirst,
    LeafWalk.take_of_some (LeafWalk.next_of_leaf hthere), hleft, hsecond,
    LeafWalk.take_of_some hcircle, LeafWalk.take_of_none (LeafWalk.over_finished _ _)]

end TwoLeaves

/-- The walk along two leaves that link in a circle meets each of them, then a fault, and then
nothing for ever. -/
theorem items_eq_leaves_append_fault_tangled :
    ∃ walk, LeafWalk.start TwoLeaves.tangledTree = .ok walk ∧
      walk.items =
        [.ok TwoLeaves.straying, .ok TwoLeaves.returning, .error (.link 3 (.nextVisited 2))] ∧
      ∀ n, (walk.after (n + 3)).next.1 = none := by
  have hstart : LeafWalk.start TwoLeaves.tangledTree =
      .ok ⟨TwoLeaves.tangledTree, .before TwoLeaves.straying, [2]⟩ := by
    rw [LeafWalk.start, TwoLeaves.leftmost_tangledTree]
    rfl
  obtain ⟨first, last, rest, fault, -, hcalls, -⟩ := items_eq_leaves_append_fault hstart
  refine ⟨_, hstart, TwoLeaves.items_tangledTree, fun n => ?_⟩
  rw [hcalls, TwoLeaves.items_tangledTree]
  rfl

end Tablespace
