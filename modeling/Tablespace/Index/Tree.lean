import Tablespace.Index.Cursor
import Tablespace.Space

/-!
# Index trees

An index is a tree of nodes in a space. From the root the first record of every node leads one level
down, to the leftmost node of each level; the nodes of a level are linked from left to right.

A link is followed only if it leads to a node inside the space that was not passed before and that
is on the right level, so no descent and no walk along the leaves goes on for ever.

Levels are numbers of sixteen bits and are added as such, without a check for overflow: the sum goes
round to zero past the highest level. `Tree.levelAbove_eq_iff` says that this makes no difference to
a descent.
-/

namespace Tablespace

/-- The tree of an index. -/
structure Tree where
  /-- The space that holds the nodes. -/
  space : Space
  /-- The page of the root. -/
  root : Nat
  /-- The columns of the index, if they are known. -/
  layout : Option Layout

namespace Tree

/-- The node on a page of the space. -/
def node (tree : Tree) (number : Nat) : Except Error Node := do
  Node.ofPage (← tree.space.page number) tree.layout

/-- The root. -/
def rootNode (tree : Tree) : Except Error Node := tree.node tree.root

/-- The tree with its root on a page of the space. -/
def atRoot (space : Space) (root : Nat) (layout : Option Layout) : Except Error Tree := do
  if space.pageCount ≤ root then
    .error (.request (.rootOutOfRange root space.pageCount))
  else
    let tree : Tree := ⟨space, root, layout⟩
    let _ ← tree.rootNode
    return tree

/-- The number of the index. -/
def index (tree : Tree) : Except Error Nat := do return (← tree.rootNode).index

/-! ## The leftmost node of a level -/

/-- The page that the first record of a node points to. -/
def firstChild (node : Node) : Except Error Nat := do
  match ← node.firstRecord with
  | none => .error (.link node.number .noRecords)
  | some record =>
    if record.kind = .nodePointer then
      match record.child with
      | some child => .ok child
      | none => .error (.layoutRequired node.number record.origin)
    else .error (.link node.number (.notANodePointer record.origin record.kind.name))

/-- The level above a level, as sixteen bits hold it. -/
def levelAbove (level : Nat) : Nat := (UInt16.ofNat level + 1).toNat

/-- The node one level below `node` on its left edge, if the pages `visited` were passed before. -/
def descend (tree : Tree) (node : Node) (visited : List Nat) : Except Error Node := do
  let child ← firstChild node
  if tree.space.pageCount ≤ child then
    .error (.link node.number (.childOutOfRange child tree.space.pageCount))
  else if child ∈ visited then
    .error (.link node.number (.childVisited child))
  else
    let next ← tree.node child
    if levelAbove next.level = node.level then .ok next
    else .error (.link node.number (.childLevel child next.level (node.level - 1)))

/-- The node `depth` levels below `node` on its left edge. -/
def leftmostBelow (tree : Tree) : (depth : Nat) → Node → (visited : List Nat) → Except Error Node
  | 0, node, _ => .ok node
  | depth + 1, node, visited => do
    let next ← tree.descend node visited
    tree.leftmostBelow depth next (next.number :: visited)

/-- The leftmost node of a level. -/
def leftmost (tree : Tree) (level : Nat) : Except Error Node := do
  let root ← tree.rootNode
  if root.level < level then
    .error (.request (.levelAboveRoot level tree.root root.level))
  else tree.leftmostBelow (root.level - level) root [tree.root]

end Tree

/-! ## The leaves -/

/-- How far a walk along the leaves has come. -/
inductive LeafPlace where
  /-- Before the first leaf. -/
  | before (first : Node)
  /-- After a leaf, with the page of its next link. -/
  | after (leaf : Nat) (next : Option Nat)
  /-- After the last leaf or an error. -/
  | finished

/-- A walk along the leaves of a tree from left to right. -/
structure LeafWalk where
  /-- The tree. -/
  tree : Tree
  /-- How far the walk has come. -/
  place : LeafPlace
  /-- The pages of the leaves so far, the last one first. -/
  visited : List Nat

namespace LeafWalk

/-- The walk before the first leaf. -/
def start (tree : Tree) : Except Error LeafWalk := do
  let first ← tree.leftmost 0
  return ⟨tree, .before first, [first.number]⟩

/-- The walk after its end. -/
def finish (walk : LeafWalk) : LeafWalk := { walk with place := .finished }

/-- The leaf on a page that the leaf `origin` links to; `none` where the page is no node, which ends
the level. -/
def follow (walk : LeafWalk) (origin number : Nat) : Except Error (Option Node) := do
  let count := walk.tree.space.pageCount
  if count ≤ number then .error (.link origin (.nextOutOfRange number count))
  else if number ∈ walk.visited ∨ count < walk.visited.length + 1 then
    .error (.link origin (.nextVisited number))
  else
    let page ← walk.tree.space.page number
    if page.kind ≠ .index then return none
    else
      let leaf ← Node.ofPage page walk.tree.layout
      if leaf.isLeaf then return some leaf
      else .error (.link origin (.siblingLevel number leaf.level))

/-- The next leaf or error, and the walk there; `none` at the end. -/
def next (walk : LeafWalk) : Option (Except Error Node) × LeafWalk :=
  match walk.place with
  | .finished => (none, walk)
  | .before first => (some (.ok first), { walk with place := .after first.number first.next? })
  | .after _ none => (none, walk)
  | .after origin (some number) =>
    match walk.follow origin number with
    | .error e => (some (.error e), walk.finish)
    | .ok none => (none, walk.finish)
    | .ok (some leaf) =>
      (some (.ok leaf), ⟨walk.tree, .after leaf.number leaf.next?, number :: walk.visited⟩)

/-- What the walk meets in `count` calls of `next`, up to the end. -/
def take : (count : Nat) → LeafWalk → List (Except Error Node)
  | 0, _ => []
  | count + 1, walk =>
    match walk.next with
    | (none, _) => []
    | (some item, walk) => item :: take count walk

/-- All that the walk meets: each page at most once, and one error. -/
def items (walk : LeafWalk) : List (Except Error Node) := walk.take (walk.tree.space.pageCount + 2)

end LeafWalk

namespace Tree

/-- The leaves from left to right, and perhaps an error that ends the level. -/
def leafItems (tree : Tree) : Except Error (List (Except Error Node)) :=
  LeafWalk.items <$> LeafWalk.start tree

/-- The leaves from left to right. -/
def leaves (tree : Tree) : Except Error (List Node) := do (← tree.leafItems).mapM id

end Tree

end Tablespace
