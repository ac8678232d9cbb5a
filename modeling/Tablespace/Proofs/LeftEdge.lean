import Mathlib.Data.List.Chain
import Tablespace.Index.Tree
import Tablespace.Proofs.NodeRecord

/-!
# The leftmost leaf is found

From the root the first record of every node leads one level down. `Tree.LeadsDown` says, without a
descent, when it does, and `Tree.leftmostBelow_eq_ok_iff` that a descent finds the node to which a
path of such steps leads. The pages passed play no part in it: they lie on higher levels, so no step
leads to one of them.

`Tree.LeftEdge` says that the first records are stored node pointers and where they lead;
`leftmost_of_leftEdge` says that the descent then ends at the leaf.
-/

namespace Tablespace

/-! ## Nodes of a space -/

/-- A page that can be read has its number, which lies inside the space. -/
theorem Space.number_of_page {space : Space} {number : Nat} {page : Page}
    (h : space.page number = .ok page) : page.number = number ∧ number < space.pageCount := by
  rcases Nat.lt_or_ge number space.pageCount with hrange | hpast
  · obtain ⟨same, hsame, hnumber, -⟩ := page_eq_ok hrange
    rw [h] at hsame
    cases hsame
    exact ⟨hnumber, hrange⟩
  · rw [Space.page, if_pos hpast] at h
    cases h

theorem Space.size_of_page {space : Space} {number : Nat} {page : Page}
    (h : space.page number = .ok page) : page.size = space.pageSize := by
  obtain ⟨same, hsame, -, -, hsize⟩ := page_eq_ok (number_of_page h).2
  rw [h] at hsame
  cases hsame
  exact hsize

/-- Every page of a space is long enough for an index header. -/
theorem Space.indexHeader_fits {space : Space} {number : Nat} {page : Page}
    (h : space.page number = .ok page) : IndexHeader.extent ≤ page.size := by
  rw [size_of_page h]
  exact Nat.le_trans (by decide) space.le_pageSize

/-- Where every file is one page, a page has the bytes of its file. -/
theorem Space.page_of_file {space : Space} {file : DataFile} {number : Nat}
    (hfile : space.files[number]? = some file)
    (hsizes : ∀ file ∈ space.files, file.bytes.size = space.pageSize)
    (hfits : PageHeader.size ≤ file.bytes.size) :
    space.page number = .ok ⟨number, file.bytes, hfits⟩ := by
  obtain ⟨before, after, hfiles, rfl⟩ : ∃ before after,
      space.files = before ++ file :: after ∧ before.length = number := by
    obtain ⟨hlt, rfl⟩ := List.getElem?_eq_some_iff.1 hfile
    refine ⟨space.files.take number, space.files.drop (number + 1), ?_,
      List.length_take_of_le (Nat.le_of_lt hlt)⟩
    rw [List.getElem_cons_drop, List.take_append_drop]
  have hsize : file.bytes.size = space.pageSize := hsizes file (List.mem_of_getElem? hfile)
  have hbefore : totalSize before = before.length * space.pageSize := by
    have hpages : before.map (·.bytes.size) = List.replicate before.length space.pageSize :=
      List.map_eq_replicate_iff.2 fun file hmem => hsizes file (by simp [hfiles, hmem])
    rw [totalSize, hpages, List.sum_replicate_nat]
  have hend : before.length * space.pageSize + space.pageSize =
      totalSize before + file.bytes.size := by rw [hbefore, hsize]
  have hcount : before.length < space.pageCount := by
    have htotal : before.length * space.pageSize + space.pageSize ≤ space.size := by
      rw [hend, Space.size, hfiles]
      simp only [totalSize, List.map_append, List.map_cons, List.sum_append, List.sum_cons]
      omega
    rw [← Nat.succ_mul] at htotal
    exact (Nat.le_div_iff_mul_le (Nat.lt_of_lt_of_le (by decide) space.le_pageSize)).2 htotal
  have hbytes : (joined space.files).extract (before.length * space.pageSize)
      (before.length * space.pageSize + space.pageSize) = file.bytes := by
    rw [hend, ← hbefore, ← size_joined, hfiles, joined_append, joined, ← ByteArray.append_assoc,
      ← ByteArray.size_append, ByteArray.extract_append_size_left,
      ByteArray.extract_append_eq_right rfl ByteArray.size_append]
  obtain ⟨page, hpage, hnumber, hcontents, -⟩ := page_eq_ok hcount
  rw [hpage]
  exact congrArg Except.ok (Page.ext hnumber (hcontents.trans hbytes))

theorem Node.level_lt (node : Node) : node.level < 2 ^ 16 := by
  have hfits : 74 ≤ node.page.bytes.size := node.headerFits
  have hlt : fieldAt node.page.bytes 64 2 < 256 ^ 2 := fieldAt_lt (by omega)
  exact hlt

namespace Tree

variable {tree : Tree} {number depth : Nat} {visited : List Nat} {node next last : Node}
  {path : List Node} {layout : Layout}

theorem page_of_node (h : tree.node number = .ok node) :
    tree.space.page number = .ok node.page ∧ node.layout = tree.layout := by
  unfold Tree.node at h
  cases hpage : tree.space.page number with
  | error e => rw [hpage, error_bind] at h; cases h
  | ok page =>
    rw [hpage, ok_bind] at h
    obtain ⟨hsame, hlayout⟩ := Node.page_of_ofPage h
    exact ⟨by rw [hsame], hlayout⟩

/-- The number of a node is that of its page. -/
theorem number_of_node (h : tree.node number = .ok node) :
    node.number = number ∧ number < tree.space.pageCount :=
  Space.number_of_page (page_of_node h).1

/-- Where every file is one page, a node is read from the file of its page. -/
theorem node_of_file {name : String} (hlayout : node.layout = tree.layout)
    (hfile : tree.space.files[node.number]? = some ⟨name, node.page.bytes⟩)
    (hsizes : ∀ file ∈ tree.space.files, file.bytes.size = tree.space.pageSize) :
    tree.node node.number = .ok node := by
  have hpage : tree.space.page node.number = .ok node.page :=
    Space.page_of_file hfile hsizes node.page.headerFits
  rw [Tree.node, hpage, ok_bind, ← hlayout, Node.ofPage_eq_ok _ node.kindIsIndex node.headerFits]

/-- A tree can be opened if its root can be read. -/
theorem atRoot_of_rootNode (h : tree.rootNode = .ok node) :
    atRoot tree.space tree.root tree.layout = .ok tree := by
  have hrange := (number_of_node h).2
  rw [atRoot, if_neg (Nat.not_le.2 hrange)]
  simp only
  rw [h]
  rfl

theorem rootNode_of_atRoot {space : Space} {root : Nat} {layout : Option Layout}
    (h : atRoot space root layout = .ok tree) : ∃ top, tree.rootNode = .ok top := by
  unfold atRoot at h
  split at h
  · cases h
  · obtain ⟨top, htop, h⟩ := bind_eq_ok_iff.1 h
    cases h
    exact ⟨top, htop⟩

/-! ## One level down -/

/-- The sum of a level and one may go round to zero. That is the level of no node above another, so
comparing sums of sixteen bits is comparing numbers. -/
theorem levelAbove_eq_iff (below : Node) {above : Node} (h : 0 < above.level) :
    levelAbove below.level = above.level ↔ below.level + 1 = above.level := by
  have habove := above.level_lt
  have hbelow := below.level_lt
  rw [levelAbove, UInt16.toNat_add, UInt16.toNat_ofNat', Nat.mod_eq_of_lt hbelow]
  change (below.level + 1) % 2 ^ 16 = above.level ↔ _
  omega

/-- The first record of the node `above` points to the node `below`, which is one level lower. -/
structure LeadsDown (tree : Tree) (above below : Node) : Prop where
  pointer : ∃ record, above.firstRecord = .ok (some record) ∧ record.kind = .nodePointer ∧
    record.child = some below.number
  inside : below.number < tree.space.pageCount
  node : tree.node below.number = .ok below
  level : below.level + 1 = above.level

theorem firstChild_eq_ok_iff :
    firstChild node = .ok number ↔
      ∃ record, node.firstRecord = .ok (some record) ∧ record.kind = .nodePointer ∧
        record.child = some number := by
  unfold firstChild
  constructor
  · intro h
    obtain ⟨first, hfirst, h⟩ := bind_eq_ok_iff.1 h
    cases first with
    | none => cases h
    | some record =>
      by_cases hkind : record.kind = .nodePointer
      · simp only [hkind, if_true] at h
        cases hchild : record.child with
        | none =>
          rw [hchild] at h
          cases h
        | some child =>
          rw [hchild] at h
          cases h
          exact ⟨record, hfirst, hkind, hchild⟩
      · simp only [hkind, if_false] at h
        cases h
  · rintro ⟨record, hfirst, hkind, hchild⟩
    rw [hfirst, ok_bind]
    simp only [hkind, if_true, hchild]

/-- The page that a descent reads next: the first record of the node points to it, and it lies
inside the space and was not passed before. -/
def pageBelow (tree : Tree) (node : Node) (visited : List Nat) : Except Error Nat := do
  let child ← firstChild node
  if tree.space.pageCount ≤ child then
    .error (.link node.number (.childOutOfRange child tree.space.pageCount))
  else if child ∈ visited then .error (.link node.number (.childVisited child))
  else return child

/-- The node on that page, if it is one level lower. -/
def nodeBelow (tree : Tree) (node : Node) (child : Nat) : Except Error Node := do
  let next ← tree.node child
  if levelAbove next.level = node.level then .ok next
  else .error (.link node.number (.childLevel child next.level (node.level - 1)))

theorem descend_eq (tree : Tree) (node : Node) (visited : List Nat) :
    tree.descend node visited =
      (do let child ← tree.pageBelow node visited; tree.nodeBelow node child) := by
  unfold descend pageBelow nodeBelow
  cases firstChild node with
  | error e => rfl
  | ok child =>
    simp only [ok_bind]
    split
    · rfl
    · split
      · rfl
      · rfl

theorem pageBelow_eq_ok_iff :
    tree.pageBelow node visited = .ok number ↔
      firstChild node = .ok number ∧ number < tree.space.pageCount ∧ number ∉ visited := by
  unfold pageBelow
  rw [bind_eq_ok_iff]
  constructor
  · rintro ⟨child, hchild, h⟩
    split at h
    · cases h
    split at h
    · cases h
    · rename_i hrange hnew
      cases h
      exact ⟨hchild, Nat.not_le.1 hrange, hnew⟩
  · rintro ⟨hchild, hrange, hnew⟩
    refine ⟨number, hchild, ?_⟩
    rw [if_neg (Nat.not_le.2 hrange), if_neg hnew]
    rfl

theorem nodeBelow_eq_ok_iff (h : 0 < node.level) :
    tree.nodeBelow node number = .ok next ↔
      tree.node number = .ok next ∧ next.level + 1 = node.level := by
  unfold nodeBelow
  rw [bind_eq_ok_iff, ← levelAbove_eq_iff next h]
  constructor
  · rintro ⟨found, hfound, h⟩
    split at h
    · rename_i hlevel
      cases h
      exact ⟨hfound, hlevel⟩
    · cases h
  · rintro ⟨hfound, hlevel⟩
    exact ⟨next, hfound, if_pos hlevel⟩

/-- A node one level lower that was not passed before is where the descent goes on. -/
theorem descend_of_firstChild (hfirst : firstChild node = .ok number)
    (hnode : tree.node number = .ok next) (hnew : number ∉ visited)
    (hlevel : next.level + 1 = node.level) : tree.descend node visited = .ok next := by
  have hpage := pageBelow_eq_ok_iff.2 ⟨hfirst, (number_of_node hnode).2, hnew⟩
  rw [descend_eq, hpage, ok_bind]
  exact (nodeBelow_eq_ok_iff (by omega)).2 ⟨hnode, hlevel⟩

theorem descend_eq_ok_iff (h : 0 < node.level) :
    tree.descend node visited = .ok next ↔ tree.LeadsDown node next ∧ next.number ∉ visited := by
  constructor
  · intro hnext
    rw [descend_eq, bind_eq_ok_iff] at hnext
    obtain ⟨child, hchild, hnext⟩ := hnext
    obtain ⟨hfirst, hrange, hnew⟩ := pageBelow_eq_ok_iff.1 hchild
    obtain ⟨hnode, hlevel⟩ := (nodeBelow_eq_ok_iff h).1 hnext
    obtain ⟨rfl, -⟩ := number_of_node hnode
    exact ⟨⟨firstChild_eq_ok_iff.1 hfirst, hrange, hnode, hlevel⟩, hnew⟩
  · rintro ⟨⟨hpointer, -, hnode, hlevel⟩, hnew⟩
    exact descend_of_firstChild (firstChild_eq_ok_iff.2 hpointer) hnode hnew hlevel

/-! ## All the way down -/

/-- Every page passed holds a node that is not below `node`. -/
def PassedAbove (tree : Tree) (node : Node) (visited : List Nat) : Prop :=
  ∀ passed ∈ visited, ∃ above, tree.node passed = .ok above ∧ node.level ≤ above.level

theorem passedAbove_root {top : Node} (h : tree.rootNode = .ok top) :
    tree.PassedAbove top [tree.root] := by
  intro passed hpassed
  rw [List.mem_singleton.1 hpassed]
  exact ⟨top, h, Nat.le_refl _⟩

theorem PassedAbove.descend (hvisited : tree.PassedAbove node visited)
    (h : tree.LeadsDown node next) : tree.PassedAbove next (next.number :: visited) := by
  have hlevel := h.level
  intro passed hpassed
  rcases List.mem_cons.1 hpassed with rfl | hpassed
  · exact ⟨next, h.node, Nat.le_refl _⟩
  · obtain ⟨above, habove, hle⟩ := hvisited passed hpassed
    exact ⟨above, habove, by omega⟩

theorem LeadsDown.number_notMem (h : tree.LeadsDown node next)
    (hvisited : tree.PassedAbove node visited) : next.number ∉ visited := by
  intro hpassed
  obtain ⟨above, habove, hle⟩ := hvisited _ hpassed
  rw [h.node, Except.ok.injEq] at habove
  subst habove
  have hlevel := h.level
  omega

/-- From `top` the nodes of `path` lead down to `last`, each to the next one. -/
structure LeadsDownTo (tree : Tree) (top : Node) (path : List Node) (last : Node) : Prop where
  steps : (top :: path).IsChain tree.LeadsDown
  ends : (top :: path).getLast? = some last

theorem leadsDownTo_nil_iff : tree.LeadsDownTo node [] last ↔ last = node := by
  constructor
  · rintro ⟨-, hends⟩
    cases hends
    rfl
  · rintro rfl
    exact ⟨.singleton _, rfl⟩

theorem leadsDownTo_cons_iff :
    tree.LeadsDownTo node (next :: path) last ↔
      tree.LeadsDown node next ∧ tree.LeadsDownTo next path last := by
  constructor
  · rintro ⟨hsteps, hends⟩
    obtain ⟨hleads, hsteps⟩ := List.isChain_cons_cons.1 hsteps
    rw [List.getLast?_cons_cons] at hends
    exact ⟨hleads, hsteps, hends⟩
  · rintro ⟨hleads, hsteps, hends⟩
    refine ⟨.cons_cons hleads hsteps, ?_⟩
    rwa [List.getLast?_cons_cons]

theorem LeadsDownTo.level_add_length (h : tree.LeadsDownTo node path last) :
    last.level + path.length = node.level := by
  induction path generalizing node with
  | nil =>
    rw [leadsDownTo_nil_iff] at h
    subst h
    rfl
  | cons next path ih =>
    obtain ⟨hleads, hrest⟩ := leadsDownTo_cons_iff.1 h
    have hlevel := hleads.level
    have hpath := ih hrest
    rw [List.length_cons]
    omega

theorem LeadsDownTo.nodes (h : tree.LeadsDownTo node path last)
    (hnode : tree.node node.number = .ok node) :
    ∀ below ∈ node :: path, tree.node below.number = .ok below := by
  induction path generalizing node with
  | nil => exact List.forall_mem_singleton.2 hnode
  | cons next path ih =>
    obtain ⟨hleads, hrest⟩ := leadsDownTo_cons_iff.1 h
    exact List.forall_mem_cons.2 ⟨hnode, ih hrest hleads.node⟩

/-- A descent of no more levels than there are finds a node if and only if a path leads there. -/
theorem leftmostBelow_eq_ok_iff (hdepth : depth ≤ node.level)
    (hvisited : tree.PassedAbove node visited) :
    tree.leftmostBelow depth node visited = .ok last ↔
      ∃ path : List Node, path.length = depth ∧ tree.LeadsDownTo node path last := by
  induction depth generalizing node visited with
  | zero =>
    rw [leftmostBelow]
    constructor
    · intro h
      cases h
      exact ⟨[], rfl, leadsDownTo_nil_iff.2 rfl⟩
    · rintro ⟨path, hlength, hpath⟩
      rw [List.length_eq_zero_iff] at hlength
      subst hlength
      rw [leadsDownTo_nil_iff.1 hpath]
  | succ depth ih =>
    have habove : 0 < node.level := Nat.zero_lt_of_lt hdepth
    rw [leftmostBelow, bind_eq_ok_iff]
    constructor
    · rintro ⟨next, hnext, h⟩
      obtain ⟨hleads, -⟩ := (descend_eq_ok_iff habove).1 hnext
      have hlevel := hleads.level
      obtain ⟨path, rfl, hpath⟩ := (ih (by omega) (hvisited.descend hleads)).1 h
      exact ⟨next :: path, rfl, leadsDownTo_cons_iff.2 ⟨hleads, hpath⟩⟩
    · rintro ⟨path, hlength, hpath⟩
      cases path with
      | nil => cases hlength
      | cons next path =>
        obtain ⟨hleads, hpath⟩ := leadsDownTo_cons_iff.1 hpath
        have hlevel := hleads.level
        have hnext := (descend_eq_ok_iff habove).2 ⟨hleads, hleads.number_notMem hvisited⟩
        refine ⟨next, hnext, ?_⟩
        exact (ih (by omega) (hvisited.descend hleads)).2 ⟨path, Nat.succ.inj hlength, hpath⟩

/-! ## The left edge -/

/-- From `node` the first records lead down to `leaf`: each is a stored record with a child, which
is a node of the tree one level lower. -/
inductive LeftEdge (tree : Tree) (layout : Layout) : (node leaf : Node) → Prop where
  /-- A leaf ends the edge. -/
  | leaf {node : Node} (hleaf : node.isLeaf = true) : LeftEdge tree layout node node
  /-- The first record leads down. -/
  | inner {node child leaf : Node} {infimum : RecordHeader} {record : StoredRecord}
      {number : Fin (2 ^ 32)} (hinfimum : node.infimum = .ok infimum)
      (hfirst : infimum.next ≠ node.format.supremum)
      (hstores : node.Stores layout infimum.next record) (hchild : record.child = some number)
      (hnode : tree.node number = .ok child) (hlevel : child.level + 1 = node.level)
      (hrest : LeftEdge tree layout child leaf) : LeftEdge tree layout node leaf

/-- The first record of a node leads to its child. -/
theorem leadsDown_of_stores {infimum : RecordHeader} {record : StoredRecord}
    {child : Fin (2 ^ 32)} (hlayout : node.layout = some layout)
    (hnames : ((layout.columns true).map (·.name)).Nodup)
    (hinfimum : node.infimum = .ok infimum) (hfirst : infimum.next ≠ node.format.supremum)
    (hstores : node.Stores layout infimum.next record) (hchild : record.child = some child)
    (hnode : tree.node child = .ok next) (hlevel : next.level + 1 = node.level) :
    tree.LeadsDown node next := by
  have hread := Node.recordAt_of_stores hlayout (Layout.nodup_names hnames _) hstores
  have hfirstRecord : node.firstRecord =
      .ok (some (record.decoded (layout.columns node.isLeaf) infimum.next)) := by
    rw [Node.firstRecord, hinfimum, ok_bind, if_neg hfirst, hread]
    rfl
  have hkind : (record.decoded (layout.columns node.isLeaf) infimum.next).kind =
      .nodePointer := by
    simp [StoredRecord.kind_decoded, StoredRecord.kind, hchild]
  obtain ⟨hnumber, hrange⟩ := number_of_node hnode
  have hdecoded : (record.decoded (layout.columns node.isLeaf) infimum.next).child =
      some next.number := by
    simp [StoredRecord.decoded, hchild, hnumber]
  exact {
    pointer := ⟨_, hfirstRecord, hkind, hdecoded⟩
    inside := hnumber ▸ hrange
    node := hnumber ▸ hnode
    level := hlevel }

/-- The left edge is a path of first records. -/
theorem LeftEdge.exists_path {leaf : Node} (h : tree.LeftEdge layout node leaf)
    (hlayout : tree.layout = some layout) (hnames : ((layout.columns true).map (·.name)).Nodup)
    (hnode : tree.node number = .ok node) :
    ∃ path : List Node, path.length = node.level ∧ tree.LeadsDownTo node path leaf := by
  induction h generalizing number with
  | leaf hleaf => exact ⟨[], (Node.isLeaf_iff.1 hleaf).symm, leadsDownTo_nil_iff.2 rfl⟩
  | @inner node child leaf infimum record _ hinfimum hfirst hstores hchild hbelow hlevel _ ih =>
    have hleads := leadsDown_of_stores ((page_of_node hnode).2.trans hlayout) hnames hinfimum
      hfirst hstores hchild hbelow hlevel
    obtain ⟨path, hlength, hpath⟩ := ih hbelow
    refine ⟨child :: path, ?_, leadsDownTo_cons_iff.2 ⟨hleads, hpath⟩⟩
    rw [List.length_cons, hlength, hlevel]

/-- The leftmost node of the lowest level is the end of the left edge. -/
theorem leftmost_of_leftEdge {root leaf : Node} (hlayout : tree.layout = some layout)
    (hnames : ((layout.columns true).map (·.name)).Nodup) (hroot : tree.rootNode = .ok root)
    (hedge : tree.LeftEdge layout root leaf) : tree.leftmost 0 = .ok leaf := by
  have hpath := hedge.exists_path hlayout hnames hroot
  rw [leftmost, hroot, ok_bind, if_neg (Nat.not_lt_zero _), Nat.sub_zero]
  exact (leftmostBelow_eq_ok_iff (Nat.le_refl _) (passedAbove_root hroot)).2 hpath

theorem LeftEdge.exists_node {leaf : Node} (h : tree.LeftEdge layout node leaf)
    (hnode : tree.node number = .ok node) : ∃ last, tree.node last = .ok leaf := by
  induction h generalizing number with
  | leaf => exact ⟨number, hnode⟩
  | inner _ _ _ _ hbelow _ _ ih => exact ih hbelow

end Tree

end Tablespace
