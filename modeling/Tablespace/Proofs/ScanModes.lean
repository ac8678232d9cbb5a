import Tablespace.Proofs.LeafWalk

/-!
# The two modes of a scan

A scan that keeps errors meets the same records and leaves as one that stops at the first error. It
fails only where the first leaf cannot be found. What the strict scan gives is told by what the
lenient one finds: `Findings.strict` gives the findings if no error was kept, and else the first
kept error. This holds item by item and is kept when findings are joined, so it holds of the records
of a leaf, of the leaves of a tree and of the whole scan.
-/

namespace Tablespace

namespace Findings

/-- The outcome for a reader who wants no errors: the findings, or the first error among them. -/
def strict (found : Findings) : Except Error Findings :=
  match found.errors with
  | [] => .ok found
  | e :: _ => .error e

theorem strict_of_nil {found : Findings} (h : found.errors = []) : found.strict = .ok found := by
  rw [strict, h]

theorem strict_of_cons {found : Findings} {e : Error} {rest : List Error}
    (h : found.errors = e :: rest) : found.strict = .error e := by
  rw [strict, h]

theorem strict_eq_ok_iff {found result : Findings} :
    found.strict = .ok result ↔ found.errors = [] ∧ result = found := by
  constructor
  · intro h
    cases herrors : found.errors with
    | nil =>
      rw [strict_of_nil herrors, Except.ok.injEq] at h
      exact ⟨rfl, h.symm⟩
    | cons e rest =>
      rw [strict_of_cons herrors] at h
      cases h
  · rintro ⟨herrors, rfl⟩
    exact strict_of_nil herrors

theorem errors_append (first second : Findings) :
    (first ++ second).errors = first.errors ++ second.errors := rfl

/-- The first error of joined findings is that of the first part, if it has one. -/
theorem strict_append (first second : Findings) :
    (first ++ second).strict = do
      let found ← first.strict
      let rest ← second.strict
      return found ++ rest := by
  cases hfirst : first.errors with
  | cons e rest =>
    have herrors : (first ++ second).errors = e :: (rest ++ second.errors) := by
      rw [errors_append, hfirst]
      rfl
    rw [strict_of_cons herrors, strict_of_cons hfirst]
    rfl
  | nil =>
    rw [strict_of_nil hfirst, ok_bind]
    cases hsecond : second.errors with
    | cons e rest =>
      have herrors : (first ++ second).errors = e :: rest := by
        rw [errors_append, hfirst, hsecond]
        rfl
      rw [strict_of_cons herrors, strict_of_cons hsecond]
      rfl
    | nil =>
      have herrors : (first ++ second).errors = [] := by
        rw [errors_append, hfirst, hsecond]
        rfl
      rw [strict_of_nil herrors, strict_of_nil hsecond]
      rfl

/-! ## Steps in both modes -/

/-- A lenient step succeeds, and the strict step gives what its findings tell. -/
def Agree (lenient strictly : Except Error Findings) : Prop :=
  ∃ found, lenient = .ok found ∧ strictly = found.strict

theorem Agree.ok {found : Findings} (h : found.errors = []) : Agree (.ok found) (.ok found) :=
  ⟨found, rfl, (strict_of_nil h).symm⟩

/-- Steps that agree still agree when they are taken one after the other. -/
theorem Agree.append {lenient strictly lenient' strictly' : Except Error Findings}
    (h : Agree lenient strictly) (h' : Agree lenient' strictly') :
    Agree (do let found ← lenient; let rest ← lenient'; return found ++ rest)
      (do let found ← strictly; let rest ← strictly'; return found ++ rest) := by
  obtain ⟨found, rfl, rfl⟩ := h
  obtain ⟨rest, rfl, rfl⟩ := h'
  exact ⟨found ++ rest, rfl, (strict_append found rest).symm⟩

theorem agree_collect {α : Type} {lenient strictly : α → Except Error Findings}
    (h : ∀ a, Agree (lenient a) (strictly a)) (as : List α) :
    Agree (collect lenient as) (collect strictly as) := by
  induction as with
  | nil => exact .ok rfl
  | cons a as ih => exact (h a).append ih

theorem agree_ofError (e : Error) : Agree (ofError .keepErrors e) (ofError .abort e) :=
  ⟨{ errors := [e] }, rfl, rfl⟩

theorem agree_ofRecord (item : Except Error Record) :
    Agree (ofRecord .keepErrors item) (ofRecord .abort item) := by
  cases item with
  | error e => exact agree_ofError e
  | ok record =>
    refine .ok ?_
    split
    · rfl
    · rfl

theorem agree_ofLeaf (leaf : Node) : Agree (ofLeaf .keepErrors leaf) (ofLeaf .abort leaf) := by
  have hrecords := agree_collect agree_ofRecord leaf.cursor.items
  have hleaf : Agree (.ok { leaves := [leaf.number] }) (.ok { leaves := [leaf.number] }) := .ok rfl
  exact hrecords.append hleaf

theorem agree_ofLeafItem (item : Except Error Node) :
    Agree (ofLeafItem .keepErrors item) (ofLeafItem .abort item) := by
  cases item with
  | error e => exact agree_ofError e
  | ok leaf => exact agree_ofLeaf leaf

end Findings

/-! ## Scans in both modes -/

namespace Tree

variable {tree : Tree}

theorem leafItems_eq_error_iff {e : Error} :
    tree.leafItems = .error e ↔ LeafWalk.start tree = .error e := by
  rw [leafItems]
  cases LeafWalk.start tree with
  | error e' =>
    rw [map_error, Except.error.injEq, Except.error.injEq]
  | ok walk =>
    constructor
    · intro h
      cases h
    · intro h
      cases h

/-- With the leaves that the walk meets, the scans in both modes agree. -/
theorem agree_scan {items : List (Except Error Node)} (hitems : tree.leafItems = .ok items) :
    Findings.Agree (tree.scan .keepErrors) (tree.scan .abort) := by
  rw [scan, scan, hitems]
  exact Findings.agree_collect Findings.agree_ofLeafItem items

theorem scan_of_start_error {e : Error} (h : LeafWalk.start tree = .error e) (mode : ScanMode) :
    tree.scan mode = .error e := by
  rw [scan, leafItems_eq_error_iff.2 h]
  rfl

/-- The strict scan gives what the findings of the lenient one tell. -/
theorem scan_abort_eq (tree : Tree) :
    tree.scan .abort = tree.scan .keepErrors >>= Findings.strict := by
  cases hitems : tree.leafItems with
  | error e =>
    have hstart := leafItems_eq_error_iff.1 hitems
    rw [scan_of_start_error hstart, scan_of_start_error hstart]
    rfl
  | ok items =>
    obtain ⟨found, hkept, habort⟩ := agree_scan hitems
    rw [hkept, habort]
    rfl

/-- Where the strict scan succeeds, the lenient one finds the same and keeps no error. -/
theorem scan_of_abort_ok {found : Findings} (h : tree.scan .abort = .ok found) (mode : ScanMode) :
    tree.scan mode = .ok found := by
  cases mode with
  | abort => exact h
  | keepErrors =>
    rw [scan_abort_eq] at h
    cases hkept : tree.scan .keepErrors with
    | error e =>
      rw [hkept] at h
      cases h
    | ok kept =>
      rw [hkept, ok_bind, Findings.strict_eq_ok_iff] at h
      rw [h.2]

/-- A scan that keeps errors fails only if there is no way to the first leaf. -/
theorem scan_keepErrors_eq_error_iff {e : Error} :
    tree.scan .keepErrors = .error e ↔ LeafWalk.start tree = .error e := by
  constructor
  · intro h
    cases hitems : tree.leafItems with
    | error e' =>
      rw [scan, hitems, error_bind, Except.error.injEq] at h
      rw [leafItems_eq_error_iff.1 hitems, h]
    | ok items =>
      obtain ⟨found, hkept, -⟩ := agree_scan hitems
      rw [hkept] at h
      cases h
  · intro h
    exact scan_of_start_error h .keepErrors

end Tree

/-- The two modes of a scan agree. A scan that keeps errors fails only if there is no way to the
first leaf, and then the strict scan fails in the same way. If it keeps no error the strict scan
finds the same, and if it keeps some the strict scan fails with the first of them. -/
theorem scan_abort_of_scan_keepErrors (tree : Tree) :
    (∀ e, tree.scan .keepErrors = .error e ↔ LeafWalk.start tree = .error e) ∧
    (∀ e, LeafWalk.start tree = .error e → tree.scan .abort = .error e) ∧
    (∀ found, tree.scan .keepErrors = .ok found → found.errors = [] →
      tree.scan .abort = .ok found ∧ tree.rows = .ok found.records) ∧
    ∀ found e rest, tree.scan .keepErrors = .ok found → found.errors = e :: rest →
      tree.scan .abort = .error e := by
  refine ⟨fun e => Tree.scan_keepErrors_eq_error_iff, ?_, ?_, ?_⟩
  · intro e hstart
    exact Tree.scan_of_start_error hstart .abort
  · intro found hkept herrors
    have habort : tree.scan .abort = .ok found := by
      rw [Tree.scan_abort_eq, hkept, ok_bind, Findings.strict_of_nil herrors]
    refine ⟨habort, ?_⟩
    rw [Tree.rows, habort]
    rfl
  · intro found e rest hkept herrors
    rw [Tree.scan_abort_eq, hkept, ok_bind, Findings.strict_of_cons herrors]

/-! ## Scans of two leaves -/

namespace TwoLeaves

/-- Of the leaves that link in a circle both are read. The records met are kept but for the one that
does not fit on its page. -/
theorem exists_scan_tangledTree :
    ∃ found, tangledTree.scan .keepErrors = .ok found ∧
      found.records.map (·.origin) = [138, 127, 127] ∧
      found.errors = [.format (.readOverrun 4 4094 2 4096), .link 3 (.nextVisited 2)] := by
  have hitems : tangledTree.leafItems =
      .ok [.ok straying, .ok returning, .error (.link 3 (.nextVisited 2))] := by
    rw [Tree.leafItems, LeafWalk.start, leftmost_tangledTree, ok_bind, pure_eq_ok, map_eq_ok]
    exact congrArg _ items_tangledTree
  have hfound : (Findings.collect (Findings.ofLeafItem .keepErrors)
      [.ok straying, .ok returning, .error (.link 3 (.nextVisited 2))]).toOption.map
        (fun found => (found.records.map (·.origin), found.errors)) =
      some ([138, 127, 127], [.format (.readOverrun 4 4094 2 4096), .link 3 (.nextVisited 2)]) := by
    decide +kernel
  obtain ⟨found, hok, -⟩ := Tree.agree_scan hitems
  refine ⟨found, hok, ?_⟩
  rw [Tree.scan, hitems, ok_bind] at hok
  rw [hok] at hfound
  exact Prod.ext_iff.1 (Option.some.inj hfound)

/-- The leaves that link to an end keep no error. -/
theorem exists_scan_space :
    ∃ found, Tree.scan ⟨space, 1, some layout⟩ .keepErrors = .ok found ∧ found.errors = [] := by
  have hitems : Tree.leafItems ⟨space, 1, some layout⟩ = .ok [.ok left, .ok right] :=
    holdsTree.leafItems_eq (by decide +kernel)
  have hfound : (Findings.collect (Findings.ofLeafItem .keepErrors)
      [.ok left, .ok right]).toOption.map (·.errors) = some [] := by decide +kernel
  obtain ⟨found, hok, -⟩ := Tree.agree_scan hitems
  refine ⟨found, hok, ?_⟩
  rw [Tree.scan, hitems, ok_bind] at hok
  rw [hok] at hfound
  exact Option.some.inj hfound

/-- Without the columns of the index there is no way to its leaves. -/
theorem start_of_noLayout :
    LeafWalk.start ⟨space, 1, none⟩ = .error (.layoutRequired 1 126) := by
  have hsizes : ∀ file ∈ space.files, file.bytes.size = space.pageSize := by decide +kernel
  have hroot : Tree.rootNode ⟨space, 1, none⟩ = .ok { root with layout := none } :=
    @Tree.node_of_file ⟨space, 1, none⟩ { root with layout := none } "1" rfl rfl hsizes
  have hlevel : Node.level { root with layout := none } = 1 := by decide +kernel
  have hchild : Tree.firstChild { root with layout := none } = .error (.layoutRequired 1 126) := by
    decide +kernel
  rw [LeafWalk.start, Tree.leftmost, hroot, ok_bind, if_neg (Nat.not_lt_zero _), hlevel,
    Tree.leftmostBelow, Tree.descend, hchild]
  rfl

end TwoLeaves

/-- The strict scan of two leaves that link in a circle fails with the record that does not fit on
its page, not with the circle that is met later. Leaves that link to an end are scanned alike in
both modes, and without columns no scan finds them. -/
theorem scan_abort_of_scan_keepErrors_twoLeaves :
    TwoLeaves.tangledTree.scan .abort = .error (.format (.readOverrun 4 4094 2 4096)) ∧
    (∃ found, Tree.scan ⟨TwoLeaves.space, 1, some TwoLeaves.layout⟩ .keepErrors = .ok found ∧
      Tree.scan ⟨TwoLeaves.space, 1, some TwoLeaves.layout⟩ .abort = .ok found) ∧
    Tree.scan ⟨TwoLeaves.space, 1, none⟩ .abort = .error (.layoutRequired 1 126) := by
  obtain ⟨tangled, htangled, -, herrors⟩ := TwoLeaves.exists_scan_tangledTree
  obtain ⟨found, hfound, hnone⟩ := TwoLeaves.exists_scan_space
  refine ⟨?_, ⟨found, hfound, ?_⟩, ?_⟩
  · exact (scan_abort_of_scan_keepErrors _).2.2.2 tangled _ _ htangled herrors
  · exact ((scan_abort_of_scan_keepErrors _).2.2.1 found hfound hnone).1
  · exact (scan_abort_of_scan_keepErrors _).2.1 _ TwoLeaves.start_of_noLayout

end Tablespace
