import Tablespace.Proofs.ScanModes

/-!
# A scan reads the leaves one by one

A scan goes from leaf to leaf and decodes records on the way. Here it is compared with a reader who
first collects all leaves and then all records of each: the scan succeeds if both steps do, and
gives the rows among these records, leaf after leaf. Where one of them fails the errors may differ,
because the scan meets a bad record before a bad link further on.
-/

namespace Tablespace

namespace Findings

/-- What the rows among records lead to. -/
def ofRows (records : List Record) : Findings :=
  { records := records.filter (·.kind = .conventional) }

theorem ofRows_cons (record : Record) (records : List Record) :
    (if record.kind = .conventional then { records := [record] } else {}) ++ ofRows records =
      ofRows (record :: records) := by
  unfold ofRows
  by_cases hrow : record.kind = .conventional
  · rw [if_pos hrow, List.filter_cons_of_pos (by simpa using hrow)]
    rfl
  · rw [if_neg hrow, List.filter_cons_of_neg (by simpa using hrow), empty_append]

/-- Strictly, the items of a cursor lead to the rows among all its records. -/
theorem collect_ofRecord_abort (items : List (Except Error Record)) :
    collect (ofRecord .abort) items = ofRows <$> items.mapM id := by
  induction items with
  | nil => rfl
  | cons item items ih =>
    rw [collect, List.mapM_cons, ih]
    cases item with
    | error e => rfl
    | ok record =>
      rw [ofRecord, ok_bind, id, ok_bind]
      cases hrest : items.mapM id with
      | error e => rfl
      | ok records =>
        rw [map_eq_ok, ok_bind, ofRows_cons]
        rfl

/-- What a leaf leads to if all its records can be read. -/
def ofLeafRecords (leaf : Node) (records : List Record) : Findings :=
  ofRows records ++ { leaves := [leaf.number] }

theorem ofLeaf_abort (leaf : Node) :
    ofLeaf .abort leaf = ofLeafRecords leaf <$> leaf.records := by
  rw [ofLeaf, collect_ofRecord_abort, Node.records]
  cases leaf.cursor.items.mapM id with
  | error e => rfl
  | ok records => rfl

/-- Strictly, the items of a walk lead to something if they are leaves all of whose records can be
read, and then to the rows among these records. -/
theorem collect_ofLeafItem_abort_eq_ok_iff {items : List (Except Error Node)} {found : Findings} :
    collect (ofLeafItem .abort) items = .ok found ↔
      ∃ leaves contents, items = leaves.map .ok ∧
        List.Forall₂ (fun leaf records => leaf.records = .ok records) leaves contents ∧
        found = {
          leaves := leaves.map (·.number)
          records := contents.flatMap fun records => records.filter (·.kind = .conventional) } := by
  constructor
  · intro h
    induction items generalizing found with
    | nil =>
      cases h
      exact ⟨[], [], rfl, .nil, rfl⟩
    | cons item items ih =>
      rw [collect, bind_eq_ok_iff] at h
      obtain ⟨first, hfirst, h⟩ := h
      obtain ⟨rest, hrest, h⟩ := bind_eq_ok_iff.1 h
      cases h
      obtain ⟨leaves, contents, rfl, hcontents, rfl⟩ := ih hrest
      cases item with
      | error e => cases hfirst
      | ok leaf =>
        rw [ofLeafItem, ofLeaf_abort] at hfirst
        cases hrecords : leaf.records with
        | error e =>
          rw [hrecords] at hfirst
          cases hfirst
        | ok records =>
          rw [hrecords, map_eq_ok, Except.ok.injEq] at hfirst
          subst hfirst
          refine ⟨leaf :: leaves, records :: contents, rfl, .cons hrecords hcontents, ?_⟩
          show Findings.mk _ ((_ ++ []) ++ _) _ = _
          rw [List.append_nil]
          rfl
  · rintro ⟨leaves, contents, rfl, hcontents, rfl⟩
    induction hcontents with
    | nil => rfl
    | cons hrecords _ ih =>
      rw [List.map_cons, collect, ofLeafItem, ofLeaf_abort, hrecords, map_eq_ok, ok_bind, ih,
        ok_bind]
      show Except.ok (Findings.mk _ ((_ ++ []) ++ _) _) = _
      rw [List.append_nil]
      rfl

end Findings

namespace Tree

variable {tree : Tree} {leaves : List Node}

theorem leaves_eq_ok_iff : tree.leaves = .ok leaves ↔ tree.leafItems = .ok (leaves.map .ok) := by
  rw [Tree.leaves, bind_eq_ok_iff]
  constructor
  · rintro ⟨items, hitems, hleaves⟩
    rw [hitems, mapM_id_eq_ok_iff.1 hleaves]
  · intro hitems
    exact ⟨_, hitems, mapM_id_eq_ok_iff.2 rfl⟩

/-- A strict scan succeeds if all leaves can be collected and all records of each can be read. -/
theorem scan_abort_eq_ok_iff {found : Findings} :
    tree.scan .abort = .ok found ↔
      ∃ leaves contents, tree.leaves = .ok leaves ∧
        List.Forall₂ (fun leaf records => leaf.records = .ok records) leaves contents ∧
        found = {
          leaves := leaves.map (·.number)
          records := contents.flatMap fun records => records.filter (·.kind = .conventional) } := by
  rw [scan, bind_eq_ok_iff]
  constructor
  · rintro ⟨items, hitems, hfound⟩
    obtain ⟨leaves, contents, rfl, hcontents, rfl⟩ :=
      Findings.collect_ofLeafItem_abort_eq_ok_iff.1 hfound
    exact ⟨leaves, contents, leaves_eq_ok_iff.2 hitems, hcontents, rfl⟩
  · rintro ⟨leaves, contents, hleaves, hcontents, rfl⟩
    refine ⟨_, leaves_eq_ok_iff.1 hleaves, ?_⟩
    exact Findings.collect_ofLeafItem_abort_eq_ok_iff.2 ⟨leaves, contents, rfl, hcontents, rfl⟩

/-- Where the root is the only leaf, the rows of the tree are those of the root. -/
theorem rows_of_onlyLeaf {leaf : Node} {records : List Record} (hroot : tree.rootNode = .ok leaf)
    (hlevel : leaf.level = 0) (hlast : leaf.next? = none) (hrecords : leaf.records = .ok records) :
    tree.rows = .ok (records.filter (·.kind = .conventional)) := by
  have hfirst : tree.leftmost 0 = .ok leaf := by
    rw [leftmost, hroot, ok_bind, if_neg (Nat.not_lt_zero _), hlevel]
    rfl
  obtain ⟨hnumber, hrange⟩ := number_of_node hroot
  have hitems : tree.leafItems = .ok [.ok leaf] :=
    leafItems_of_leafChain hfirst (by rwa [hnumber]) (.last hlast) (List.nodup_singleton _)
  have hscan := scan_abort_eq_ok_iff.2
    ⟨[leaf], [records], leaves_eq_ok_iff.2 hitems, .cons hrecords .nil, rfl⟩
  rw [Tree.rows, hscan, ok_bind, List.flatMap_singleton]
  rfl

/-- The leaves that were collected are different pages of the space. -/
theorem nodup_of_leaves (h : tree.leaves = .ok leaves) :
    (leaves.map (·.number)).Nodup ∧ ∀ leaf ∈ leaves, tree.node leaf.number = .ok leaf := by
  have hitems := leaves_eq_ok_iff.1 h
  rw [leafItems] at hitems
  cases hstart : LeafWalk.start tree with
  | error e =>
    rw [hstart] at hitems
    cases hitems
  | ok walk =>
    rw [hstart, map_eq_ok, Except.ok.injEq] at hitems
    obtain ⟨first, rest, fault, hfirst, -, -, hrun, hwalk⟩ :=
      LeafWalk.exists_leafRun_of_start hstart
    rw [hitems] at hwalk
    have hall : (leaves.map .ok : List (Except Error Node)).mapM id = .ok leaves :=
      mapM_id_eq_ok_iff.2 rfl
    cases fault with
    | some e =>
      -- an error is no leaf
      have hmem : Except.error e ∈ leaves.map Except.ok := by
        rw [hwalk]
        exact List.mem_append_right _ List.mem_cons_self
      obtain ⟨leaf, -, hleaf⟩ := List.mem_map.1 hmem
      cases hleaf
    | none =>
      have hrest : (leaves.map Except.ok).mapM id = .ok (first :: rest) :=
        mapM_id_eq_ok_iff.2 (hwalk.trans (List.append_nil _))
      rw [hall, Except.ok.injEq] at hrest
      obtain ⟨hdifferent, hnodes⟩ := hrun.leaves hfirst
      rw [hrest]
      exact ⟨hdifferent, fun leaf hleaf => (hnodes leaf hleaf).1⟩

end Tree

/-- The rows of a tree can be read if all its leaves can be collected and all records of each leaf
can be read. Then the rows are those among these records, leaf after leaf, and in either mode a scan
finds them and reads each leaf once, in the order in which the leaves were collected. -/
theorem rows_eq_ok_iff (tree : Tree) :
    (∀ rows, tree.rows = .ok rows ↔
      ∃ leaves contents, tree.leaves = .ok leaves ∧
        List.Forall₂ (fun leaf records => leaf.records = .ok records) leaves contents ∧
        rows = contents.flatMap fun records => records.filter (·.kind = .conventional)) ∧
    ∀ leaves rows, tree.leaves = .ok leaves → tree.rows = .ok rows →
      (leaves.map (·.number)).Nodup ∧ (∀ leaf ∈ leaves, tree.node leaf.number = .ok leaf) ∧
      ∀ mode, tree.scan mode = .ok { leaves := leaves.map (·.number), records := rows } := by
  constructor
  · intro rows
    rw [Tree.rows, bind_eq_ok_iff]
    constructor
    · rintro ⟨found, hscan, hrows⟩
      obtain ⟨leaves, contents, hleaves, hcontents, rfl⟩ := Tree.scan_abort_eq_ok_iff.1 hscan
      cases hrows
      exact ⟨leaves, contents, hleaves, hcontents, rfl⟩
    · rintro ⟨leaves, contents, hleaves, hcontents, rfl⟩
      have hscan := Tree.scan_abort_eq_ok_iff.2 ⟨leaves, contents, hleaves, hcontents, rfl⟩
      exact ⟨_, hscan, rfl⟩
  · intro leaves rows hleaves hrows
    obtain ⟨hdifferent, hnodes⟩ := Tree.nodup_of_leaves hleaves
    obtain ⟨found, hscan, hfound⟩ := bind_eq_ok_iff.1 hrows
    obtain ⟨same, contents, hsame, -, rfl⟩ := Tree.scan_abort_eq_ok_iff.1 hscan
    rw [hleaves, Except.ok.injEq] at hsame
    subst hsame
    cases hfound
    exact ⟨hdifferent, hnodes, Tree.scan_of_abort_ok hscan⟩

/-- The leaves of an index with two of them are read one by one, each once, in either mode. -/
theorem rows_eq_ok_iff_twoLeaves :
    ∃ rows, Tree.rows ⟨TwoLeaves.space, 1, some TwoLeaves.layout⟩ = .ok rows ∧
      rows.map (·.origin) = [138, 127, 127] ∧
      ∀ mode, Tree.scan ⟨TwoLeaves.space, 1, some TwoLeaves.layout⟩ mode =
        .ok { leaves := [2, 3], records := rows } := by
  have hitems : Tree.leafItems ⟨TwoLeaves.space, 1, some TwoLeaves.layout⟩ =
      .ok [.ok TwoLeaves.left, .ok TwoLeaves.right] :=
    TwoLeaves.holdsTree.leafItems_eq (by decide +kernel)
  have hleaves : Tree.leaves ⟨TwoLeaves.space, 1, some TwoLeaves.layout⟩ =
      .ok [TwoLeaves.left, TwoLeaves.right] := Tree.leaves_eq_ok_iff.2 hitems
  have hleft : TwoLeaves.left.records.toOption.map
      (fun records => (records.filter (·.kind = .conventional)).map (·.origin)) =
        some [138, 127] := by decide +kernel
  have hright : TwoLeaves.right.records.toOption.map
      (fun records => (records.filter (·.kind = .conventional)).map (·.origin)) =
        some [127] := by decide +kernel
  cases hfirst : TwoLeaves.left.records with
  | error e =>
    rw [hfirst] at hleft
    cases hleft
  | ok first =>
    cases hsecond : TwoLeaves.right.records with
    | error e =>
      rw [hsecond] at hright
      cases hright
    | ok second =>
      rw [hfirst] at hleft
      rw [hsecond] at hright
      obtain ⟨hrows, hscans⟩ := rows_eq_ok_iff ⟨TwoLeaves.space, 1, some TwoLeaves.layout⟩
      have hread := (hrows _).2
        ⟨_, [first, second], hleaves, .cons hfirst (.cons hsecond .nil), rfl⟩
      refine ⟨_, hread, ?_, (hscans _ _ hleaves hread).2.2⟩
      have hfirst : (first.filter (·.kind = .conventional)).map (·.origin) = [138, 127] :=
        Option.some.inj hleft
      have hsecond : (second.filter (·.kind = .conventional)).map (·.origin) = [127] :=
        Option.some.inj hright
      rw [List.flatMap_cons, List.flatMap_singleton, List.map_append, hfirst, hsecond]
      rfl

end Tablespace
