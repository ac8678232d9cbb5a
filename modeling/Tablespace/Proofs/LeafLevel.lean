import Tablespace.Proofs.LeftEdge

/-!
# The leaves are walked from left to right

`Tree.LeafChain` says that from one leaf the links to the right lead through given leaves and end.
Where these are on different pages of the space, the walk meets each of them and no error: a page is
refused only if it was met before or if there were more leaves than pages.
-/

namespace Tablespace

/-- Different pages of a space are not more than it has. -/
theorem Space.length_le_pageCount {space : Space} {numbers : List Nat} (hdifferent : numbers.Nodup)
    (hrange : ∀ number ∈ numbers, number < space.pageCount) :
    numbers.length ≤ space.pageCount := by
  have hsubset : numbers ⊆ List.range space.pageCount := fun number hnumber =>
    List.mem_range.2 (hrange number hnumber)
  have hlength := hdifferent.length_le_of_subset hsubset
  rwa [List.length_range] at hlength

namespace Tree

/-- From `leaf` the links to the right lead through just these leaves and end. No link leads to page
zero, which has the header of the space. -/
inductive LeafChain (tree : Tree) : (leaf : Node) → List Node → Prop where
  /-- There is no further leaf. -/
  | last {leaf : Node} (hend : leaf.next? = none) : LeafChain tree leaf []
  /-- There is another leaf. -/
  | link {leaf next : Node} {number : Nat} {rest : List Node} (hnext : leaf.next? = some number)
      (hnode : tree.node number = .ok next) (hleaf : next.isLeaf = true)
      (hrest : LeafChain tree next rest) : LeafChain tree leaf (next :: rest)

variable {tree : Tree} {leaf : Node} {leaves : List Node}

theorem LeafChain.lt_pageCount (h : tree.LeafChain leaf leaves) :
    ∀ next ∈ leaves, next.number < tree.space.pageCount := by
  induction h with
  | last => simp
  | link _ hnode _ _ ih =>
    intro next hmem
    rcases List.mem_cons.1 hmem with rfl | hmem
    · obtain ⟨hnumber, hlt⟩ := number_of_node hnode
      rwa [hnumber]
    · exact ih next hmem

theorem LeafChain.layout_eq (h : tree.LeafChain leaf leaves) :
    ∀ next ∈ leaves, next.layout = tree.layout := by
  induction h with
  | last => simp
  | link _ hnode _ _ ih => exact List.forall_mem_cons.2 ⟨(page_of_node hnode).2, ih⟩

end Tree

namespace LeafWalk

variable {tree : Tree} {leaf : Node} {leaves : List Node}

/-- A leaf on a page that was not met before is followed. -/
theorem follow_of_node {walk : LeafWalk} {origin number : Nat}
    (hnode : walk.tree.node number = .ok leaf) (hleaf : leaf.isLeaf = true)
    (hnew : number ∉ walk.visited) (hroom : walk.visited.length < walk.tree.space.pageCount) :
    walk.follow origin number = .ok (some leaf) := by
  obtain ⟨hpage, hlayout⟩ := Tree.page_of_node hnode
  have hrange := (Tree.number_of_node hnode).2
  have hofPage : Node.ofPage leaf.page walk.tree.layout = .ok leaf := by
    rwa [Tree.node, hpage, ok_bind] at hnode
  rw [follow, if_neg (Nat.not_le.2 hrange), if_neg (not_or.2 ⟨hnew, Nat.not_lt.2 hroom⟩), hpage,
    ok_bind, if_neg (not_not.2 leaf.kindIsIndex), hofPage, ok_bind, if_pos hleaf]
  rfl

/-- After a leaf the walk meets the leaves of the chain, if they and those met before are all on
different pages. -/
theorem take_of_leafChain {visited : List Nat} {count : Nat} (hchain : tree.LeafChain leaf leaves)
    (hdifferent : (visited ++ leaves.map (·.number)).Nodup)
    (hrange : ∀ number ∈ visited, number < tree.space.pageCount) (hcount : leaves.length ≤ count) :
    take count ⟨tree, .after leaf.number leaf.next?, visited⟩ = leaves.map .ok := by
  induction hchain generalizing visited count with
  | @last leaf hend =>
    cases count with
    | zero => rfl
    | succ count => simp [take, next, hend]
  | @link leaf next number rest hnext hnode hleaf hrest ih =>
    cases count with
    | zero => cases hcount
    | succ count =>
      obtain ⟨hnumber, hlt⟩ := Tree.number_of_node hnode
      rw [List.map_cons, hnumber] at hdifferent
      have hdifferent' : (number :: visited ++ rest.map (·.number)).Nodup :=
        List.perm_middle.nodup_iff.1 hdifferent
      have hrange' : ∀ passed ∈ number :: visited, passed < tree.space.pageCount :=
        List.forall_mem_cons.2 ⟨hlt, hrange⟩
      obtain ⟨hvisited, -⟩ := List.nodup_append.1 hdifferent'
      have hroom : (number :: visited).length ≤ tree.space.pageCount :=
        Space.length_le_pageCount hvisited hrange'
      have hnew : number ∉ visited := (List.nodup_cons.1 hvisited).1
      have hfollow : follow ⟨tree, .after leaf.number (some number), visited⟩ leaf.number number =
          .ok (some next) := follow_of_node hnode hleaf hnew hroom
      have hitems := ih hdifferent' hrange' (Nat.le_of_succ_le_succ hcount)
      rw [hnext, take, LeafWalk.next]
      simp only [hfollow]
      rw [hitems]
      rfl

end LeafWalk

namespace Tree

/-- The walk along the leaves of a tree meets the leaf at the left edge and those that its links
lead to. -/
theorem leafItems_of_leafChain {tree : Tree} {first : Node} {leaves : List Node}
    (hfirst : tree.leftmost 0 = .ok first) (hrange : first.number < tree.space.pageCount)
    (hchain : tree.LeafChain first leaves)
    (hdifferent : ((first :: leaves).map (·.number)).Nodup) :
    tree.leafItems = .ok ((first :: leaves).map .ok) := by
  have hall : ∀ number ∈ (first :: leaves).map (·.number), number < tree.space.pageCount := by
    rw [List.forall_mem_map]
    exact List.forall_mem_cons.2 ⟨hrange, hchain.lt_pageCount⟩
  have hcount := Space.length_le_pageCount hdifferent hall
  rw [List.length_map, List.length_cons] at hcount
  have hitems : LeafWalk.take (tree.space.pageCount + 1)
      ⟨tree, .after first.number first.next?, [first.number]⟩ = leaves.map .ok :=
    LeafWalk.take_of_leafChain hchain hdifferent (by simpa using hrange) (by omega)
  rw [leafItems, LeafWalk.start, hfirst, ok_bind, pure_eq_ok, map_eq_ok, LeafWalk.items,
    LeafWalk.take, LeafWalk.next]
  simp only
  rw [hitems]
  rfl

end Tree

end Tablespace
