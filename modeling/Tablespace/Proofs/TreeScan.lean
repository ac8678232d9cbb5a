import Tablespace.Index.Scan
import Tablespace.Proofs.LeafLevel
import Tablespace.Proofs.RecordChain

/-!
# A scan gives the stored rows

`Space.HoldsTree` says that the pages of a space are a tree of nodes whose leaves hold given
records: the left edge leads to the first leaf, the leaves are linked, and on each leaf the chain of
records is the list of the stored ones. `rows_of_holdsTree` puts the descent, the walk along the
leaves, the cursors and the decoding of records together: the scan gives every stored row once, in
order.
-/

namespace Tablespace

/-! ## What steps that succeed lead to -/

namespace Findings

/-- Steps that all succeed lead to their findings one after the other. -/
theorem collect_map_eq_ok {α β : Type} {step : β → Except Error Findings} {item : α → β}
    {found : α → Findings} {as : List α} (h : ∀ a ∈ as, step (item a) = .ok (found a)) :
    collect step (as.map item) = .ok {
      leaves := as.flatMap fun a => (found a).leaves
      records := as.flatMap fun a => (found a).records
      errors := as.flatMap fun a => (found a).errors } := by
  induction as with
  | nil => rfl
  | cons a as ih =>
    have hfirst := h a List.mem_cons_self
    have hrest := ih fun a ha => h a (List.mem_cons_of_mem _ ha)
    rw [List.map_cons, collect, hfirst, ok_bind, hrest, ok_bind]
    rfl

end Findings

/-! ## Stored leaves -/

/-- A leaf with the records that are stored on it, each with its origin, in the order in which they
are linked. -/
structure StoredLeaf where
  /-- The node. -/
  node : Node
  /-- The records and where they are. -/
  records : List (Nat × StoredRecord)

namespace StoredLeaf

/-- The leaf holds its records: they are what the links lead through, their fixed headers have no
byte in common, each is stored at its origin, and each is a row. -/
structure Held (leaf : StoredLeaf) (layout : Layout) : Prop where
  /-- The node is a leaf. -/
  isLeaf : leaf.node.isLeaf = true
  /-- The links lead from the infimum through the records to the supremum. -/
  linked : leaf.node.Linked leaf.node.format.infimum (leaf.records.map (·.1))
  /-- No two fixed headers share a byte. -/
  apart : (leaf.records.map (·.1)).Pairwise (Apart leaf.node.format.fixedSize)
  /-- The records are stored at their origins. -/
  stores : ∀ r ∈ leaf.records, leaf.node.Stores layout r.1 r.2
  /-- The records are rows. -/
  rows : ∀ r ∈ leaf.records, r.2.child = none

/-- Whether a leaf holds its records can be computed. -/
instance (leaf : StoredLeaf) (layout : Layout) : Decidable (leaf.Held layout) :=
  decidable_of_iff (leaf.node.isLeaf = true ∧
      leaf.node.Linked leaf.node.format.infimum (leaf.records.map (·.1)) ∧
      (leaf.records.map (·.1)).Pairwise (Apart leaf.node.format.fixedSize) ∧
      (∀ r ∈ leaf.records, leaf.node.Stores layout r.1 r.2) ∧ ∀ r ∈ leaf.records, r.2.child = none)
    ⟨fun ⟨hleaf, hlinked, hapart, hstores, hrows⟩ => ⟨hleaf, hlinked, hapart, hstores, hrows⟩,
    fun h => ⟨h.isLeaf, h.linked, h.apart, h.stores, h.rows⟩⟩

/-- The rows of a leaf, as they are read. -/
def rows (leaf : StoredLeaf) (layout : Layout) : List Record :=
  leaf.records.map fun r => r.2.decoded (layout.columns true) r.1

variable {leaf : StoredLeaf} {layout : Layout}

/-- The cursor of a leaf meets every stored record once, in order, and reads it. -/
theorem cursor_items_of_held (hlayout : leaf.node.layout = some layout)
    (hnames : ((layout.columns true).map (·.name)).Nodup) (hheld : leaf.Held layout) :
    leaf.node.cursor.items = (leaf.rows layout).map .ok := by
  rw [Node.cursor_items_of_linked hheld.linked hheld.apart, rows, List.map_map, List.map_map]
  refine List.map_congr_left fun r hr => ?_
  have hread := Node.recordAt_of_stores hlayout (Layout.nodup_names hnames _) (hheld.stores r hr)
  rwa [hheld.isLeaf] at hread

/-- What a scan finds on a leaf is its rows. -/
theorem ofLeaf_of_held (hlayout : leaf.node.layout = some layout)
    (hnames : ((layout.columns true).map (·.name)).Nodup) (hheld : leaf.Held layout) :
    Findings.ofLeaf .abort leaf.node =
      .ok { leaves := [leaf.node.number], records := leaf.rows layout } := by
  have hrecords : ∀ record ∈ leaf.rows layout,
      Findings.ofRecord .abort (.ok record) = .ok { records := [record] } := by
    intro record hrecord
    obtain ⟨r, hr, rfl⟩ := List.mem_map.1 hrecord
    have hkind : r.2.kind = .conventional := by simp [StoredRecord.kind, hheld.rows r hr]
    simp [Findings.ofRecord, hkind]
  rw [Findings.ofLeaf, cursor_items_of_held hlayout hnames hheld,
    Findings.collect_map_eq_ok hrecords, ok_bind]
  show Except.ok (Findings.mk (_ ++ [_]) (_ ++ []) (_ ++ [])) = _
  simp

end StoredLeaf

/-! ## Stored trees -/

/-- The space holds the tree of an index: from the root a left edge of stored node pointers leads to
the first leaf, the links of the leaves lead through all the others, no two leaves are on the same
page, and each leaf holds its records. -/
structure Space.HoldsTree (space : Space) (root : Nat) (layout : Layout) (first : StoredLeaf)
    (rest : List StoredLeaf) : Prop where
  /-- The first leaf is at the left edge. -/
  edge : ∃ top, Tree.node ⟨space, root, some layout⟩ root = .ok top ∧
    Tree.LeftEdge ⟨space, root, some layout⟩ layout top first.node
  /-- The other leaves follow. -/
  chain : Tree.LeafChain ⟨space, root, some layout⟩ first.node (rest.map (·.node))
  /-- The leaves are on different pages. -/
  different : ((first :: rest).map (·.node.number)).Nodup
  /-- Each leaf holds its records. -/
  held : ∀ leaf ∈ first :: rest, leaf.Held layout

/-- The scan of a tree finds the rows of its leaves, leaf after leaf. -/
theorem Tree.rows_of_leafItems {tree : Tree} {layout : Layout} {leaves : List StoredLeaf}
    (hitems : tree.leafItems = .ok (leaves.map fun leaf => .ok leaf.node))
    (hlayouts : ∀ leaf ∈ leaves, leaf.node.layout = some layout)
    (hnames : ((layout.columns true).map (·.name)).Nodup)
    (hheld : ∀ leaf ∈ leaves, leaf.Held layout) :
    tree.rows = .ok (leaves.flatMap fun leaf => leaf.rows layout) := by
  have hleaves : ∀ leaf ∈ leaves, Findings.ofLeafItem .abort (.ok leaf.node) =
      .ok { leaves := [leaf.node.number], records := leaf.rows layout } := fun leaf hleaf =>
    StoredLeaf.ofLeaf_of_held (hlayouts leaf hleaf) hnames (hheld leaf hleaf)
  rw [Tree.rows, Tree.scan, hitems, ok_bind, Findings.collect_map_eq_ok hleaves, ok_bind]
  rfl

namespace Space.HoldsTree

variable {space : Space} {root : Nat} {layout : Layout} {first : StoredLeaf}
  {rest : List StoredLeaf}

theorem atRoot_eq (h : space.HoldsTree root layout first rest) :
    Tree.atRoot space root (some layout) = .ok ⟨space, root, some layout⟩ := by
  obtain ⟨top, htop, -⟩ := h.edge
  exact Tree.atRoot_of_rootNode htop

theorem node_first (h : space.HoldsTree root layout first rest) :
    ∃ number, Tree.node ⟨space, root, some layout⟩ number = .ok first.node := by
  obtain ⟨top, htop, hedge⟩ := h.edge
  exact hedge.exists_node htop

theorem leafItems_eq (h : space.HoldsTree root layout first rest)
    (hnames : ((layout.columns true).map (·.name)).Nodup) :
    Tree.leafItems ⟨space, root, some layout⟩ =
      .ok ((first :: rest).map fun leaf => .ok leaf.node) := by
  obtain ⟨top, htop, hedge⟩ := h.edge
  obtain ⟨number, hnode⟩ := h.node_first
  have hfirst : Tree.leftmost ⟨space, root, some layout⟩ 0 = .ok first.node :=
    Tree.leftmost_of_leftEdge rfl hnames htop hedge
  obtain ⟨hnumber, hrange⟩ := Tree.number_of_node hnode
  have hdifferent : ((first.node :: rest.map (·.node)).map (·.number)).Nodup := by
    rw [← List.map_cons, List.map_map]
    exact h.different
  rw [Tree.leafItems_of_leafChain hfirst (by rwa [hnumber]) h.chain hdifferent, ← List.map_cons,
    List.map_map]
  rfl

theorem layout_eq (h : space.HoldsTree root layout first rest) :
    ∀ leaf ∈ first :: rest, leaf.node.layout = some layout := by
  obtain ⟨number, hnode⟩ := h.node_first
  rw [List.forall_mem_cons]
  refine ⟨(Tree.page_of_node hnode).2, fun leaf hleaf => ?_⟩
  exact h.chain.layout_eq leaf.node (List.mem_map_of_mem hleaf)

end Space.HoldsTree

/-- The tree of an index that a space holds can be opened and scanned, and the scan gives the rows
that its leaves hold: leaf after leaf, on each leaf in the order of the links, every row once and as
it was stored. Every column has the value that its bytes decode to, or none if it is NULL. -/
theorem rows_of_holdsTree {space : Space} {root : Nat} {layout : Layout} {first : StoredLeaf}
    {rest : List StoredLeaf} (hnames : ((layout.columns true).map (·.name)).Nodup)
    (htree : space.HoldsTree root layout first rest) :
    ∃ tree rows, Tree.atRoot space root (some layout) = .ok tree ∧ tree.rows = .ok rows ∧
      rows = ((first :: rest).flatMap fun leaf => leaf.records.map fun r =>
        r.2.decoded (layout.columns true) r.1) ∧
      rows.map (·.origin) = ((first :: rest).flatMap (·.records)).map (·.1) ∧
      rows.map (fun row => row.fields.map fun field => (field.column, field.value)) =
        ((first :: rest).flatMap (·.records)).map fun r =>
          List.zipWith (fun column stored => (column,
            if stored.null then .null else .decode column.type stored.inlineBytes))
            (layout.columns true) r.2.row := by
  have hrows := Tree.rows_of_leafItems (htree.leafItems_eq hnames) htree.layout_eq hnames htree.held
  have hall : ((first :: rest).flatMap fun leaf => leaf.rows layout) =
      ((first :: rest).flatMap (·.records)).map fun r =>
        r.2.decoded (layout.columns true) r.1 := by
    rw [List.map_flatMap]
    rfl
  refine ⟨_, _, htree.atRoot_eq, hrows, rfl, ?_, ?_⟩
  · rw [hall, List.map_map]
    exact List.map_congr_left fun r _ => r.2.origin_decoded _ _
  · rw [hall, List.map_map]
    refine List.map_congr_left fun r _ => ?_
    show (List.zipWith _ _ _).map _ = _
    rw [List.map_zipWith]
    rfl

/-! ## An index with two leaves -/

namespace TwoLeaves

/-- A number, and bytes that may be NULL. -/
def layout : Layout where
  kind := .secondary
  keys := [{ name := "id", type := .integer 4 true }]
  rows := [{ name := "note", type := .varBinary 20, nullable := true }]

/-- A record with a number and a note of one byte or none. -/
def record (link : Fin (2 ^ 16)) (id : UInt8) (note : Option UInt8)
    (child : Option (Fin (2 ^ 32)) := none) : StoredRecord where
  form := .compact
  mark := ⟨0, 0, 2, link⟩
  row := [{ bytes := [0, 0, 0, id] }, { bytes := note.toList, null := note.isNone }]
  child

/-- A page of the index: the next page, the level, the distance from the infimum to the first
record, and the records in the order in which they lie on the page. -/
def image (next level first : Nat) (heap : List StoredRecord) : ByteArray :=
  let bytes := List.replicate 12 0 ++ toBigEndian 4 next ++ List.replicate 8 0 ++ [69, 191] ++
    List.replicate 16 0 ++ [128, 2] ++ List.replicate 20 0 ++ toBigEndian 2 level ++
    List.replicate 28 0 ++ [0, 0, 2] ++ toBigEndian 2 first ++ List.replicate 8 0 ++
    [0, 0, 11, 0, 0] ++ List.replicate 8 0 ++
    heap.flatMap fun record => record.headerBytes (layout.columns true) ++ record.dataBytes
  ⟨⟨bytes ++ List.replicate (4096 - bytes.length) 0⟩⟩

/-- The record of the root, which points to the first leaf. -/
def pointer : StoredRecord := record 65522 1 none (some 2)

/-- The records of the first leaf. Their links go against their order on the page. -/
def noteless : StoredRecord := record 65525 1 none
def noted : StoredRecord := record 65521 2 (some 9)

/-- The record of the second leaf. -/
def last : StoredRecord := record 65521 3 (some 8)

/-- A space with an empty page, the root and two leaves, each in a file of its own. -/
def space : Space where
  files := [⟨"0", ⟨Array.replicate 4096 0⟩⟩, ⟨"1", image noPage 1 27 [pointer]⟩,
    ⟨"2", image 3 0 39 [noted, noteless]⟩, ⟨"3", image noPage 0 28 [last]⟩]
  pageSize := 4096
  headerFits := by decide +kernel

/-- The nodes. -/
def root : Node :=
  ⟨⟨1, image noPage 1 27 [pointer], by decide +kernel⟩, some layout, by decide +kernel,
    by decide +kernel⟩

def left : Node :=
  ⟨⟨2, image 3 0 39 [noted, noteless], by decide +kernel⟩, some layout, by decide +kernel,
    by decide +kernel⟩

def right : Node :=
  ⟨⟨3, image noPage 0 28 [last], by decide +kernel⟩, some layout, by decide +kernel,
    by decide +kernel⟩

theorem tree_node {node : Node} {name : String} (hlayout : node.layout = some layout)
    (hfile : space.files[node.number]? = some ⟨name, node.page.bytes⟩) :
    Tree.node ⟨space, 1, some layout⟩ node.number = .ok node := by
  have hsizes : ∀ file ∈ space.files, file.bytes.size = space.pageSize := by decide +kernel
  exact Tree.node_of_file hlayout hfile hsizes

theorem stores {node : Node} {origin : Nat} (link : Fin (2 ^ 16)) (id : UInt8)
    (note : Option UInt8) (child : Option (Fin (2 ^ 32))) (hformat : node.format = .compact)
    (hlt : origin < node.page.size)
    (hheader : node.page.HoldsBefore origin
      ((record link id note child).headerBytes (layout.columns true)))
    (hdata : node.page.Holds origin (record link id note child).dataBytes) :
    node.Stores layout origin (record link id note child) := by
  have hcolumns : layout.columns node.isLeaf = layout.columns true := by cases node.isLeaf <;> rfl
  have hadmits : List.Forall₂ Compact.Admits (layout.columns true)
      (record link id note child).extents := by
    cases note with
    | none => exact .cons (.fixed rfl) (.cons (.null rfl) .nil)
    | some b => exact .cons (.fixed rfl) (.cons (.short rfl rfl (by decide : 1 < 2 ^ 8)) .nil)
  have hroom : ∀ stored ∈ (record link id note child).row, stored.HasRoom := by
    simp [record, StoredField.HasRoom]
  exact {
    format_eq := hformat.symm
    writable := by
      rw [hcolumns]
      exact ⟨rfl, hadmits, hroom⟩
    origin_lt := hlt
    header := by rwa [hcolumns]
    data := hdata
    place := by simp [hformat]
    child := by simp [hformat] }

theorem held_left : StoredLeaf.Held ⟨left, [(138, noteless), (127, noted)]⟩ layout where
  isLeaf := by decide +kernel
  linked := by decide +kernel
  apart := by decide +kernel
  stores := by
    have hformat : left.format = .compact := by decide +kernel
    refine List.forall_mem_cons.2 ⟨?_, List.forall_mem_singleton.2 ?_⟩
    · exact stores _ _ _ _ hformat (by decide +kernel) (by decide +kernel) (by decide +kernel)
    · exact stores _ _ _ _ hformat (by decide +kernel) (by decide +kernel) (by decide +kernel)
  rows := by decide

theorem held_right : StoredLeaf.Held ⟨right, [(127, last)]⟩ layout where
  isLeaf := by decide +kernel
  linked := by decide +kernel
  apart := by decide +kernel
  stores := List.forall_mem_singleton.2 (stores _ _ _ _ (by decide +kernel) (by decide +kernel)
    (by decide +kernel) (by decide +kernel))
  rows := by decide

theorem holdsTree :
    space.HoldsTree 1 layout ⟨left, [(138, noteless), (127, noted)]⟩ [⟨right, [(127, last)]⟩] where
  edge := by
    have hroot : Tree.node ⟨space, 1, some layout⟩ 1 = .ok root := @tree_node root "1" rfl rfl
    have hleft : Tree.node ⟨space, 1, some layout⟩ 2 = .ok left := @tree_node left "2" rfl rfl
    have hformat : root.format = .compact := by decide +kernel
    have hlinked : root.Linked root.format.infimum [126] := by decide +kernel
    obtain ⟨infimum, hread, hnext, hne⟩ := hlinked.exists_header
    have hstores : root.Stores layout infimum.next pointer := by
      rw [hnext]
      exact stores _ _ _ _ hformat (by decide +kernel) (by decide +kernel) (by decide +kernel)
    exact ⟨root, hroot, .inner hread (hnext ▸ hne) hstores rfl hleft (by decide +kernel)
      (.leaf (by decide +kernel))⟩
  chain := .link (by decide +kernel) (@tree_node right "3" rfl rfl) (by decide +kernel)
    (.last (by decide +kernel))
  different := by decide +kernel
  held := List.forall_mem_cons.2 ⟨held_left, List.forall_mem_singleton.2 held_right⟩

end TwoLeaves

/-- The scan of an index of two levels with two leaves gives the rows of the first leaf in the order
of their links, and then the row of the second. -/
theorem rows_of_holdsTree_twoLeaves :
    ∃ tree rows, Tree.atRoot TwoLeaves.space 1 (some TwoLeaves.layout) = .ok tree ∧
      tree.rows = .ok rows ∧ rows.map (·.origin) = [138, 127, 127] ∧
      rows.map (fun row => row.fields.map (·.value)) =
        [[.uint 1, .null], [.uint 2, .raw [9]], [.uint 3, .raw [8]]] := by
  obtain ⟨tree, rows, hopen, hrows, -, horigins, hfields⟩ :=
    rows_of_holdsTree (by decide +kernel) TwoLeaves.holdsTree
  refine ⟨tree, rows, hopen, hrows, horigins, ?_⟩
  have hvalues : rows.map (fun row => row.fields.map (·.value)) =
      (rows.map fun row => row.fields.map fun field => (field.column, field.value)).map
        (List.map Prod.snd) := by
    simp [Function.comp_def]
  rw [hvalues, hfields]
  decide +kernel

end Tablespace
