import Tablespace.Page.Header
import Tablespace.Record.Header

/-!
# Index headers

A page that is a node of an index goes on after the header of the page with an index header of 36
bytes and the headers of two file segments.
-/

namespace Tablespace

/-- The header of an index page. -/
structure IndexHeader where
  /-- The number of slots in the directory of the page. -/
  directorySlots : Nat
  /-- The offset at which the heap of records ends. -/
  heapTop : Nat
  /-- The number of records in the heap; the highest of sixteen bits marks compact records. -/
  heapCount : Nat
  /-- The first record of the free list. -/
  free : Nat
  /-- The number of bytes in deleted records. -/
  garbage : Nat
  /-- The record inserted last. -/
  lastInsert : Nat
  /-- The direction of the last inserts. -/
  direction : Nat
  /-- The number of inserts in that direction. -/
  directionCount : Nat
  /-- The number of records. -/
  recordCount : Nat
  /-- The highest transaction that may have changed the page. -/
  maxTransaction : Nat
  /-- The level of the page; the leaves are at level zero. -/
  level : Nat
  /-- The number of the index. -/
  index : Nat
  deriving DecidableEq, Repr

namespace IndexHeader

/-- Where on the page the header ends. -/
def extent : Nat := 74

/-- The header of an index page. -/
def ofBytes (image : ByteArray) : IndexHeader where
  directorySlots := fieldAt image 38 2
  heapTop := fieldAt image 40 2
  heapCount := fieldAt image 42 2
  free := fieldAt image 44 2
  garbage := fieldAt image 46 2
  lastInsert := fieldAt image 48 2
  direction := fieldAt image 50 2
  directionCount := fieldAt image 52 2
  recordCount := fieldAt image 54 2
  maxTransaction := fieldAt image 56 8
  level := fieldAt image 64 2
  index := fieldAt image 66 8

/-- The header of an index page, if the image is long enough. -/
def ofBytes? (image : ByteArray) : Option IndexHeader :=
  if extent ≤ image.size then some (ofBytes image) else none

/-- The number of records in the heap. -/
def heapSize (header : IndexHeader) : Nat := header.heapCount % 2 ^ 15

/-- The format of the records. -/
def format (header : IndexHeader) : RowFormat := .ofHeapCount header.heapCount

/-- Whether the page is a leaf. -/
def isLeaf (header : IndexHeader) : Bool := header.level == 0

/-- The name of the direction of the last inserts. -/
def directionName (header : IndexHeader) : String :=
  match header.direction with
  | 1 => "Left"
  | 2 => "Right"
  | 3 => "Same Record"
  | 4 => "Same Page"
  | 5 => "No Direction"
  | _ => "Unknown"

/-- The segment of the leaves, which the header of the root says. -/
def leafSegment? (image : ByteArray) : Option SegmentHeader := SegmentHeader.ofBytes? image extent

/-- The segment of the pages above the leaves, which the header of the root says. -/
def innerSegment? (image : ByteArray) : Option SegmentHeader :=
  SegmentHeader.ofBytes? image (extent + SegmentHeader.size)

end IndexHeader

end Tablespace
