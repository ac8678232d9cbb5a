import Tablespace.Proofs.TreeScan

/-!
# The descent on any image

Nothing is known here of the pages of a space: first records may lead anywhere, and levels may be
any numbers of two bytes. `Tree.Descent` takes a descent apart, with the pages that it reads. It
comes to an end everywhere, because a step that succeeds lowers the level, and it reads at most one
page a level.

Main statement: `Tree.leftmost_of_atRoot`.
-/

namespace Tablespace

namespace Tree

variable {tree : Tree} {top node last : Node} {visited reads : List Nat} {level : Nat}
  {path : List Node} {result : Except Error Node}

/-- Levels fall along a path, so no page is on it twice. -/
theorem LeadsDownTo.nodup (h : tree.LeadsDownTo top path last)
    (htop : tree.node top.number = .ok top) : ((top :: path).map Node.number).Nodup := by
  have hlevels : ((top :: path).map Node.level).Pairwise (· > ·) := by
    rw [← List.isChain_iff_pairwise]
    refine List.isChain_map_of_isChain Node.level ?_ h.steps
    intro above below hleads
    have hlevel := hleads.level
    omega
  rw [List.pairwise_map] at hlevels
  refine List.pairwise_map.2 (hlevels.imp_of_mem ?_)
  intro above below habove hbelow hlevel hsame
  have hread := h.nodes htop below hbelow
  rw [← hsame, h.nodes htop above habove, Except.ok.injEq] at hread
  subst hread
  omega

/-! ## Pages read -/

/-- What a descent from `node` to a level reads and gives, if the pages `visited` were passed: while
it is above the level, it looks for a page to read, reads it, and goes on from there. -/
inductive Descent (tree : Tree) (level : Nat) : Node → (visited : List Nat) → (reads : List Nat) →
    Except Error Node → Prop where
  | arrived {node : Node} {visited : List Nat} (hlevel : ¬ level < node.level) :
      Descent tree level node visited [] (.ok node)
  | stopped {node : Node} {visited : List Nat} {e : Error} (hlevel : level < node.level)
      (hpage : tree.pageBelow node visited = .error e) :
      Descent tree level node visited [] (.error e)
  | refused {node : Node} {visited : List Nat} {child : Nat} {e : Error}
      (hlevel : level < node.level) (hpage : tree.pageBelow node visited = .ok child)
      (hnode : tree.nodeBelow node child = .error e) :
      Descent tree level node visited [child] (.error e)
  | down {node next : Node} {visited reads : List Nat} {child : Nat} {result : Except Error Node}
      (hlevel : level < node.level) (hpage : tree.pageBelow node visited = .ok child)
      (hnode : tree.nodeBelow node child = .ok next)
      (hrest : Descent tree level next (child :: visited) reads result) :
      Descent tree level node visited (child :: reads) result

/-- A descent comes to an end from every node, as each step lowers the level. -/
theorem exists_descent (tree : Tree) (level : Nat) (node : Node) (visited : List Nat) :
    ∃ reads result, tree.Descent level node visited reads result := by
  induction hdepth : node.level - level generalizing node visited with
  | zero => exact ⟨[], .ok node, .arrived (by omega)⟩
  | succ depth ih =>
    have hlevel : level < node.level := by omega
    cases hpage : tree.pageBelow node visited with
    | error e => exact ⟨[], .error e, .stopped hlevel hpage⟩
    | ok child =>
      cases hnode : tree.nodeBelow node child with
      | error e => exact ⟨[child], .error e, .refused hlevel hpage hnode⟩
      | ok next =>
        obtain ⟨-, hnext⟩ := (nodeBelow_eq_ok_iff (Nat.zero_lt_of_lt hlevel)).1 hnode
        obtain ⟨reads, result, hrest⟩ := ih next (child :: visited) (by omega)
        exact ⟨child :: reads, result, .down hlevel hpage hnode hrest⟩

theorem leftmostBelow_of_lt (h : level < node.level) :
    tree.leftmostBelow (node.level - level) node visited =
      (do
        let next ← tree.descend node visited
        tree.leftmostBelow (node.level - level - 1) next (next.number :: visited)) := by
  obtain ⟨depth, hdepth⟩ : ∃ depth, node.level - level = depth + 1 :=
    ⟨node.level - level - 1, by omega⟩
  rw [hdepth]
  rfl

namespace Descent

theorem length_le (h : tree.Descent level node visited reads result) :
    reads.length ≤ node.level - level := by
  induction h with
  | arrived => exact Nat.zero_le _
  | stopped => exact Nat.zero_le _
  | refused hlevel =>
    rw [List.length_singleton]
    omega
  | down hlevel _ hnode _ ih =>
    obtain ⟨-, hnext⟩ := (nodeBelow_eq_ok_iff (Nat.zero_lt_of_lt hlevel)).1 hnode
    rw [List.length_cons]
    omega

/-- Whatever a descent takes, its result is that of `leftmostBelow`. -/
theorem result_eq (h : tree.Descent level node visited reads result) :
    result = tree.leftmostBelow (node.level - level) node visited := by
  induction h with
  | arrived hlevel =>
    rw [Nat.sub_eq_zero_of_le (Nat.not_lt.1 hlevel)]
    rfl
  | @stopped node visited e hlevel hpage =>
    rw [leftmostBelow_of_lt hlevel, descend_eq, hpage]
    rfl
  | @refused node visited child e hlevel hpage hnode =>
    rw [leftmostBelow_of_lt hlevel, descend_eq, hpage, ok_bind, hnode]
    rfl
  | @down node next visited reads child result hlevel hpage hnode _ ih =>
    obtain ⟨hread, hnext⟩ := (nodeBelow_eq_ok_iff (Nat.zero_lt_of_lt hlevel)).1 hnode
    obtain ⟨rfl, -⟩ := number_of_node hread
    have hdepth : node.level - level - 1 = next.level - level := by omega
    rw [leftmostBelow_of_lt hlevel, descend_eq, hpage, ok_bind, hnode, ok_bind, hdepth]
    exact ih

end Descent

/-! ## The leftmost node of a level -/

/-- In a tree that was opened, whatever its pages are, a level above the root is refused. On any
other level the descent finds a node if and only if a path of first records leads there from the
root, each to a node one level lower; the end of such a path is on the level that was asked for, and
the path has no page twice, so no path is given up because of the pages passed. Where there is no
path the descent ends as well: with the root it never reads more pages than there are levels from
the root to the leaves. It makes no difference that the level above another is a sum of sixteen
bits, which may go round to zero: above the level asked for, zero is not the level of a node. -/
theorem leftmost_of_atRoot {space : Space} {root : Nat} {layout : Option Layout}
    (hopen : atRoot space root layout = .ok tree) (level : Nat) :
    ∃ top, tree.rootNode = .ok top ∧
      (top.level < level →
        tree.leftmost level = .error (.request (.levelAboveRoot level tree.root top.level))) ∧
      (level ≤ top.level →
        (∀ node, tree.leftmost level = .ok node ↔
          ∃ path : List Node, path.length = top.level - level ∧
            tree.LeadsDownTo top path node) ∧
        (∀ path node, path.length = top.level - level → tree.LeadsDownTo top path node →
          node.level = level ∧ ((top :: path).map Node.number).Nodup) ∧
        (∃ reads, tree.Descent level top [tree.root] reads (tree.leftmost level)) ∧
        ∀ reads result, tree.Descent level top [tree.root] reads result →
          result = tree.leftmost level ∧ (tree.root :: reads).length ≤ top.level + 1) ∧
      ∀ above below : Node, level < above.level →
        (levelAbove below.level = above.level ↔ below.level + 1 = above.level) := by
  obtain ⟨top, htop⟩ := rootNode_of_atRoot hopen
  refine ⟨top, htop, ?_, ?_, ?_⟩
  · intro hlevel
    rw [leftmost, htop, ok_bind, if_pos hlevel]
  · intro hlevel
    have hleftmost :
        tree.leftmost level = tree.leftmostBelow (top.level - level) top [tree.root] := by
      rw [leftmost, htop, ok_bind, if_neg (Nat.not_lt.2 hlevel)]
    rw [hleftmost]
    refine ⟨?_, ?_, ?_, ?_⟩
    · intro node
      exact leftmostBelow_eq_ok_iff (Nat.sub_le _ _) (passedAbove_root htop)
    · intro path node hlength hpath
      have hnode : tree.node top.number = .ok top := by rwa [(number_of_node htop).1]
      have hfall := hpath.level_add_length
      exact ⟨by omega, hpath.nodup hnode⟩
    · obtain ⟨reads, result, hdescent⟩ := tree.exists_descent level top [tree.root]
      exact ⟨reads, hdescent.result_eq ▸ hdescent⟩
    · intro reads result hdescent
      have hlength := hdescent.length_le
      refine ⟨hdescent.result_eq, ?_⟩
      rw [List.length_cons]
      omega
  · intro above below hlevel
    exact levelAbove_eq_iff below (Nat.zero_lt_of_lt hlevel)

end Tree

/-- From the root of a tree of two levels the first record leads to the first leaf, and there is no
level above the root. -/
theorem Tree.leftmost_of_atRoot_twoLeaves :
    Tree.atRoot TwoLeaves.space 1 (some TwoLeaves.layout) =
        .ok ⟨TwoLeaves.space, 1, some TwoLeaves.layout⟩ ∧
      leftmost ⟨TwoLeaves.space, 1, some TwoLeaves.layout⟩ 0 = .ok TwoLeaves.left ∧
      leftmost ⟨TwoLeaves.space, 1, some TwoLeaves.layout⟩ 65535 =
        .error (.request (.levelAboveRoot 65535 1 1)) := by
  have hopen := TwoLeaves.holdsTree.atRoot_eq
  have hroot : Tree.node ⟨TwoLeaves.space, 1, some TwoLeaves.layout⟩ 1 = .ok TwoLeaves.root :=
    @TwoLeaves.tree_node TwoLeaves.root "1" rfl rfl
  have hleft : Tree.node ⟨TwoLeaves.space, 1, some TwoLeaves.layout⟩ 2 = .ok TwoLeaves.left :=
    @TwoLeaves.tree_node TwoLeaves.left "2" rfl rfl
  have hchild : firstChild TwoLeaves.root = .ok 2 := by decide +kernel
  have hlevel : TwoLeaves.root.level = 1 := by decide +kernel
  refine ⟨hopen, ?_, ?_⟩
  · obtain ⟨top, htop, -, hreached, -⟩ := leftmost_of_atRoot hopen 0
    rw [rootNode, hroot, Except.ok.injEq] at htop
    subst htop
    obtain ⟨hiff, -⟩ := hreached (Nat.zero_le _)
    have hleads : LeadsDown ⟨TwoLeaves.space, 1, some TwoLeaves.layout⟩ TwoLeaves.root
        TwoLeaves.left := {
      pointer := firstChild_eq_ok_iff.1 hchild
      inside := (number_of_node hleft).2
      node := hleft
      level := by decide +kernel }
    refine (hiff TwoLeaves.left).2 ⟨[TwoLeaves.left], ?_, ?_⟩
    · rw [hlevel]
      rfl
    · exact leadsDownTo_cons_iff.2 ⟨hleads, leadsDownTo_nil_iff.2 rfl⟩
  · obtain ⟨top, htop, habove, -⟩ := leftmost_of_atRoot hopen 65535
    rw [rootNode, hroot, Except.ok.injEq] at htop
    subst htop
    rw [hlevel] at habove
    exact habove (by decide)

end Tablespace
