import Tablespace.Page.Basic

/-!
# The header of the data dictionary

Page seven of the system space tells the highest numbers given out so far and the root pages of the
indexes in which the data dictionary is stored.
-/

namespace Tablespace

/-- The root pages of the indexes of the data dictionary. -/
structure CatalogRoots where
  /-- The tables by name. -/
  tables : Nat
  /-- The tables by number. -/
  tableIds : Nat
  /-- The columns. -/
  columns : Nat
  /-- The indexes. -/
  indexes : Nat
  /-- The columns of the indexes. -/
  fields : Nat
  deriving DecidableEq, Repr

/-- The header of the data dictionary. -/
structure CatalogHeader where
  /-- The highest number of a row. -/
  maxRow : Nat
  /-- The highest number of a table. -/
  maxTable : Nat
  /-- The highest number of an index. -/
  maxIndex : Nat
  /-- The highest number of a space. -/
  maxSpace : Nat
  /-- The number of mixed tables. -/
  mixLow : Nat
  /-- The root pages. -/
  roots : CatalogRoots
  /-- Bytes that are not used. -/
  unused : Nat
  /-- The segment of the data dictionary. -/
  segment : Option SegmentHeader
  deriving DecidableEq, Repr

namespace CatalogHeader

/-- The header on a page. -/
def read (page : Page) : Except Error CatalogHeader := do
  let maxRow ← page.uint 38 8
  let maxTable ← page.uint 46 8
  let maxIndex ← page.uint 54 8
  let maxSpace ← page.uint 62 4
  let mixLow ← page.uint 66 4
  let tables ← page.uint 70 4
  let tableIds ← page.uint 74 4
  let columns ← page.uint 78 4
  let indexes ← page.uint 82 4
  let fields ← page.uint 86 4
  let unused ← page.uint 90 4
  let _ ← page.read 94 SegmentHeader.size
  return {
    maxRow, maxTable, maxIndex, maxSpace, mixLow
    roots := { tables, tableIds, columns, indexes, fields }
    unused
    segment := SegmentHeader.ofBytes? page.bytes 94 }

end CatalogHeader

end Tablespace
