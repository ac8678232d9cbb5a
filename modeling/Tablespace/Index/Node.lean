import Tablespace.Index.Header
import Tablespace.Record.Decode

/-!
# Nodes of an index

A node is a page that says it belongs to an index and that is long enough to, together with the
layout of the index where it is known. It answers for the records at given offsets of the page; the
chain in which the records are linked is walked elsewhere.
-/

namespace Tablespace

/-- A node of an index. -/
structure Node where
  /-- The page. -/
  page : Page
  /-- The columns of the index, if they are known. -/
  layout : Option Layout
  /-- The page says that it belongs to an index. -/
  kindIsIndex : page.kind = .index
  /-- The page is long enough for an index header. -/
  headerFits : IndexHeader.extent ≤ page.size

/-- The accounting of the bytes of a node. -/
structure SpaceUsage where
  /-- The bytes before the heap of records. -/
  header : Nat
  /-- The bytes of the heap, deleted records included. -/
  records : Nat
  /-- The bytes of deleted records. -/
  garbage : Nat
  /-- The bytes of the directory. -/
  directory : Nat
  /-- The bytes of the trailer. -/
  trailer : Nat
  /-- The bytes between heap and directory. -/
  free : Nat
  deriving DecidableEq, Repr

/-- The bytes of records that are not deleted. -/
def SpaceUsage.used (usage : SpaceUsage) : Nat := usage.records - usage.garbage

namespace Node

/-- The node on a page, if the page is one. -/
def ofPage (page : Page) (layout : Option Layout) : Except Error Node :=
  if hkind : page.kind = .index then
    if hfits : IndexHeader.extent ≤ page.size then .ok ⟨page, layout, hkind, hfits⟩
    else .error (.format (.indexHeaderTooShort page.number))
  else .error (.format (.notAnIndexPage page.number page.kind))

/-- The place of the node in its space. -/
def number (node : Node) : Nat := node.page.number

/-- The index header. -/
def header (node : Node) : IndexHeader := .ofBytes node.page.bytes

/-- The format of the records. -/
def format (node : Node) : RowFormat := node.header.format

/-- The level of the node. -/
def level (node : Node) : Nat := node.header.level

/-- Whether the node is a leaf. -/
def isLeaf (node : Node) : Bool := node.header.isLeaf

/-- The number of the index. -/
def index (node : Node) : Nat := node.header.index

/-- The next node on the level. -/
def next? (node : Node) : Option Nat := node.page.header.next?

/-- The previous node on the level. -/
def previous? (node : Node) : Option Nat := node.page.header.previous?

/-- Whether the node has no neighbour, so that it is the only one on its level. -/
def isAlone (node : Node) : Bool := node.previous?.isNone && node.next?.isNone

/-- The columns of the records of this node. -/
def columns (node : Node) : Option (List Column) := node.layout.map (·.columns node.isLeaf)

/-- The header of the record at `origin`, without its columns. -/
def headerAt (node : Node) (origin : Nat) : Except Error RecordHeader :=
  RecordHeader.read node.page node.format none origin

/-- The record at `origin`. -/
def recordAt (node : Node) (origin : Nat) : Except Error Record :=
  Record.read node.page node.format node.columns origin

/-- The header of the record before all others. -/
def infimum (node : Node) : Except Error RecordHeader := node.headerAt node.format.infimum

/-- The header of the record after all others. -/
def supremum (node : Node) : Except Error RecordHeader := node.headerAt node.format.supremum

/-- The first record, unless the supremum follows on the infimum. -/
def firstRecord (node : Node) : Except Error (Option Record) := do
  let infimum ← node.infimum
  if infimum.next = node.format.supremum then return none
  else some <$> node.recordAt infimum.next

/-- The accounting of the bytes of the node. -/
def usage (node : Node) : SpaceUsage :=
  let start := node.format.heapStart
  let top := min (max node.header.heapTop start) node.page.size
  let directory := 2 * node.header.directorySlots
  { header := start
    records := top - start
    garbage := node.header.garbage
    directory
    trailer := PageTrailer.size
    free := node.page.size - (top + directory + PageTrailer.size) }

end Node

end Tablespace
