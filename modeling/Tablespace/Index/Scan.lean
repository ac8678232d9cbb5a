import Tablespace.Index.Tree

/-!
# Scans

A scan collects the records of all leaves of a tree, leaf after leaf and on each leaf in the order
of the chain. Records that are no rows are left out. A scan either stops at the first error or keeps
the errors and goes on: a record that cannot be read is passed over, while an error on the way to
the next leaf ends the level.
-/

namespace Tablespace

/-- What a scan does about errors. -/
inductive ScanMode where
  /-- Stop at the first. -/
  | abort
  /-- Keep them and go on. -/
  | keepErrors
  deriving DecidableEq, Repr

/-- What a scan has found. -/
structure Findings where
  /-- The pages of the leaves that were read to their end. -/
  leaves : List Nat := []
  /-- The records. -/
  records : List Record := []
  /-- The errors that were kept. -/
  errors : List Error := []

namespace Findings

/-- Findings followed by further ones. -/
def append (first second : Findings) : Findings where
  leaves := first.leaves ++ second.leaves
  records := first.records ++ second.records
  errors := first.errors ++ second.errors

instance : Append Findings := ⟨append⟩

/-- What an error leads to. -/
def ofError : ScanMode → Error → Except Error Findings
  | .abort, e => .error e
  | .keepErrors, e => .ok { errors := [e] }

/-- What one item of a cursor leads to; only rows are kept. -/
def ofRecord (mode : ScanMode) : Except Error Record → Except Error Findings
  | .ok record => .ok (if record.kind = .conventional then { records := [record] } else {})
  | .error e => ofError mode e

/-- What several steps lead to, one after the other. -/
def collect {α : Type} (step : α → Except Error Findings) : List α → Except Error Findings
  | [] => .ok {}
  | a :: as => do
    let first ← step a
    let rest ← collect step as
    return first ++ rest

/-- What the records of a leaf lead to. -/
def ofLeaf (mode : ScanMode) (leaf : Node) : Except Error Findings := do
  let findings ← collect (ofRecord mode) leaf.cursor.items
  return findings ++ { leaves := [leaf.number] }

/-- What one item of a walk along the leaves leads to. -/
def ofLeafItem (mode : ScanMode) : Except Error Node → Except Error Findings
  | .ok leaf => ofLeaf mode leaf
  | .error e => ofError mode e

/-! ## Collecting -/

@[simp]
theorem empty_append (findings : Findings) : ({} : Findings) ++ findings = findings := by
  cases findings
  rfl

end Findings

namespace Tree

/-- The findings of a scan. An error on the way to the first leaf is never kept. -/
def scan (tree : Tree) (mode : ScanMode) : Except Error Findings := do
  Findings.collect (Findings.ofLeafItem mode) (← tree.leafItems)

/-- All rows of the tree, or the first error. -/
def rows (tree : Tree) : Except Error (List Record) := do return (← tree.scan .abort).records

end Tree

end Tablespace
