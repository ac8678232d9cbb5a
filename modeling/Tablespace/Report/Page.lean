import Tablespace.Catalog.Schema
import Tablespace.Report.Structure
import Tablespace.Report.Transcript
import Tablespace.Text.HexDump
import Tablespace.Text.Styled

/-!
# The report on a page

The report shows the header and the trailer of a page and whatever else a page of its kind holds:
the header of the space, the header of the data dictionary, or an index header with the accounting
of the bytes and the records. On index pages of the system space the catalog is asked for the
columns; where it cannot tell them the records are shown without.

A report is put together first, as a value, and then written as text or as JSON. As text it is
written from the top, and where the first or the last record of an index page cannot be read it ends
there.
-/

namespace Tablespace

open Text (Painter)

/-- A record of the report. -/
inductive RecordLine where
  /-- A record with its fields. -/
  | decoded (record : Record)
  /-- A record of which only the header is known. -/
  | headerOnly (header : RecordHeader)
  /-- A record that could not be read. -/
  | failed (error : Error)

namespace RecordLine

/-- What is shown of an item of a cursor. -/
def ofItem : Except Error Record → RecordLine
  | .ok record => if record.isHeaderOnly then headerOnly record.header else decoded record
  | .error e => failed e

/-- The JSON form. -/
def toJson : RecordLine → Json
  | decoded record => record.toJson
  | headerOnly header => .obj [("header", header.toJson)]
  | failed e => .obj [("error", e.message)]

/-- The columns at the left of a line: where the record is and what it is. -/
def columns (origin kind : String) : String :=
  Text.alignRight 6 origin ++ " " ++ Text.alignLeft 12 kind ++ " "

/-- The line of text. -/
def text (paint : Painter) : RecordLine → String
  | decoded record =>
    let fields := record.fields.map fun f => f.column.name ++ "=" ++ f.value.display
    let child :=
      match record.child with
      | some child => s!" -> page {child}"
      | none => ""
    let deleted := if record.header.isDeleted then paint .yellow " (deleted)" else ""
    columns (toString record.origin) record.kind.name ++ " ".intercalate fields ++ child ++ deleted
  | headerOnly header =>
    let deleted := if header.isDeleted then " (deleted)" else ""
    columns (toString header.origin) header.kind.name ++
      s!"heap {header.heapNumber} next {header.next}" ++ deleted
  | failed e => Text.alignRight 6 "?" ++ " " ++ paint .red e.message

end RecordLine

/-- What the report shows of an index page. -/
structure NodeReport where
  /-- The node. -/
  node : Node
  /-- The headers of the record before all others and of the record after them. -/
  sentinels : Except Error (RecordHeader × RecordHeader)
  /-- The records in the order of the chain. -/
  records : List RecordLine

namespace NodeReport

/-- The report on a node. -/
def ofNode (node : Node) : NodeReport :=
  { node
    sentinels := do return (← node.infimum, ← node.supremum)
    records := node.cursor.items.map .ofItem }

/-- The segment of the leaves. -/
def leafSegment? (report : NodeReport) : Option SegmentHeader :=
  IndexHeader.leafSegment? report.node.page.bytes

/-- The segment of the pages above the leaves. -/
def innerSegment? (report : NodeReport) : Option SegmentHeader :=
  IndexHeader.innerSegment? report.node.page.bytes

/-- The JSON form. -/
def toJson (report : NodeReport) : Except Error Json := do
  let (infimum, supremum) ← report.sentinels
  return .obj ([
    ("header", report.node.header.toJson), ("row_format", .str report.node.format.name)] ++
    Json.member? "leaf_segment" SegmentHeader.toJson report.leafSegment? ++
    Json.member? "internal_segment" SegmentHeader.toJson report.innerSegment? ++ [
    ("infimum", infimum.toJson), ("supremum", supremum.toJson),
    ("space_usage", report.node.usage.toJson),
    ("records", .ofList RecordLine.toJson report.records)])

/-- The line for a segment. -/
def segmentLine (label : String) (segment : Option SegmentHeader) : List String :=
  segment.toList.map fun s => s!"{label}: space {s.space} page {s.page} offset {s.offset}"

/-- The lines with a heading. -/
def titled (paint : Painter) (title : String) (lines : List String) : List String :=
  "" :: paint .bold title :: lines

/-- The lines on the index header. -/
def headerLines (paint : Painter) (report : NodeReport) : List String :=
  let header := report.node.header
  titled paint s!"=== INDEX Header: Page {report.node.number}" ([
    s!"Index ID: {header.index}",
    s!"Node Level: {header.level}",
    s!"Row Format: {header.format.name}"] ++
  (if 0 < header.maxTransaction then [s!"Max Transaction ID: {header.maxTransaction}"] else []) ++ [
    s!"Directory Slots: {header.directorySlots}",
    s!"Heap Top: {header.heapTop}",
    s!"Records in Page: {header.recordCount}",
    s!"Records in Heap: {header.heapSize}",
    s!"Start of Free Record List: {header.free}",
    s!"Garbage Bytes: {header.garbage}",
    s!"Last Insert: {header.lastInsert}",
    s!"Last Insert Direction: {header.direction} - {header.directionName}",
    s!"Inserts in this direction: {header.directionCount}"])

/-- The lines on the segments of the index, which the only page of a level shows. -/
def segmentLines (paint : Painter) (report : NodeReport) : List String :=
  if report.node.isAlone then
    titled paint "=== FSEG_HDR - File Segment Headers" (
      segmentLine "Leaf segment" report.leafSegment? ++
      segmentLine "Non-leaf segment" report.innerSegment?)
  else []

/-- The lines on the first and the last record. -/
def sentinelLines (paint : Painter) (infimum supremum : RecordHeader) : List String :=
  titled paint "=== System Records" [
    s!"Infimum: offset {infimum.origin} next {infimum.next} owned {infimum.owned}",
    s!"Supremum: offset {supremum.origin} owned {supremum.owned}"]

/-- The lines on the accounting of the bytes. -/
def usageLines (paint : Painter) (report : NodeReport) : List String :=
  let usage := report.node.usage
  titled paint "=== Space Usage" [
    s!"Header: {usage.header}",
    s!"Records: {usage.records} ({usage.garbage} garbage)",
    s!"Directory: {usage.directory}",
    s!"Trailer: {usage.trailer}",
    s!"Free: {usage.free}"]

/-- The lines on the records. -/
def recordLines (paint : Painter) (report : NodeReport) : List String :=
  titled paint "=== Records" (report.records.map (·.text paint))

/-- What is written about an index page. -/
def transcript (paint : Painter) (report : NodeReport) : Transcript :=
  .ofLines (report.headerLines paint ++ report.segmentLines paint) ++
  .about report.sentinels fun (infimum, supremum) =>
    .ofLines (sentinelLines paint infimum supremum ++ report.usageLines paint ++
      report.recordLines paint)

end NodeReport

/-- The report on a page. -/
structure PageReport where
  /-- The page. -/
  page : Page
  /-- Where in its space the page begins. -/
  start : Nat
  /-- What the checksum of the page turned out to be. -/
  checksum : Checksum
  /-- The header of the space, on a page of that kind. -/
  spaceHeader : Option SpaceHeader
  /-- The header of the data dictionary, on its page. -/
  catalogHeader : Option CatalogHeader
  /-- What an index page holds. -/
  node : Option NodeReport

namespace PageReport

/-- The columns of the records on a page, if the page is in the system space and its data dictionary
tells them. Errors of the data dictionary are no errors of the page. -/
def layout? (space : Space) (page : Page) : Option Layout :=
  if page.kind = .index ∧ space.isSystem then do
    let header ← IndexHeader.ofBytes? page.bytes
    let catalog ← (Catalog.ofSpace space).toOption
    (← (catalog.layoutById? header.index).toOption)
  else none

/-- The header of the data dictionary, if the page holds it. -/
def catalogHeader? (space : Space) (page : Page) : Option CatalogHeader :=
  if space.isSystem ∧ page.number = Space.dictionaryPageNumber ∧ page.kind = .system then
    (CatalogHeader.read page).toOption
  else none

/-- The report on a page of a space. -/
def ofPage (space : Space) (page : Page) : Except Error PageReport := do
  let node ←
    if page.kind = .index then
      pure (some (NodeReport.ofNode (← Node.ofPage page (layout? space page))))
    else pure none
  return {
    page
    start := page.number * space.pageSize
    checksum := .inspect page.bytes
    spaceHeader := if page.kind = .spaceHeader then page.spaceHeader? else none
    catalogHeader := catalogHeader? space page
    node }

/-- The report on the page with a number. -/
def ofSpace (space : Space) (number : Nat) : Except Error PageReport := do
  ofPage space (← space.page number)

/-- The JSON form. -/
def toJson (report : PageReport) : Except Error Json := do
  let kind := report.page.kind
  let node ← report.node.mapM NodeReport.toJson
  return .obj ([
    ("page_number", .nat report.page.number), ("header", report.page.header.toJson),
    ("page_type_name", .str kind.name), ("page_type_description", .str kind.description),
    ("byte_start", .nat report.start), ("checksum", report.checksum.toJson),
    ("trailer", report.page.trailer.toJson)] ++
    Json.member? "fsp_header" SpaceHeader.toJson report.spaceHeader ++
    Json.member? "dictionary_header" CatalogHeader.toJson report.catalogHeader ++
    Json.member? "index" id node)

/-- The word for what the checksum turned out to be. -/
def checksumLabel (paint : Painter) : Checksum → String
  | .valid _ => paint .green "OK (crc32c)"
  | .empty => paint .green "EMPTY"
  | .disabled => paint .yellow "DISABLED"
  | .truncated => paint .red "TRUNCATED"
  | .mismatch _ computed =>
    paint .red ("MISMATCH (crc32c " ++ Text.Hex.word computed ++ ")")

/-- A linked page in words. -/
def linkText (link : Option Nat) : String :=
  match link with
  | some page => toString page
  | none => "none"

/-- The lines on the header of the page. -/
def headerLines (paint : Painter) (report : PageReport) : List String :=
  let header := report.page.header
  let kind := header.kind
  [ paint .bold s!"=== HEADER: Page {report.page.number}",
    "Byte Start: " ++ Text.Hex.offset report.start,
    s!"Page Type: {kind.name} ({kind.code}) - {kind.description}",
    s!"Space ID: {header.space}",
    s!"Page Number: {header.pageNumber}",
    "Prev Page: " ++ linkText header.previous?,
    "Next Page: " ++ linkText header.next?,
    s!"LSN: {header.lsn}",
    "Checksum: " ++ Text.Hex.word header.checksum ++ " " ++ checksumLabel paint report.checksum ]

/-- The lines on the header of a space. -/
def spaceLines (paint : Painter) (header : SpaceHeader) : List String :=
  [ "",
    paint .bold "=== FSP_HDR - Filespace Header",
    s!"Space ID: {header.space}",
    s!"Size (pages): {header.size}",
    s!"Page Free Limit: {header.freeLimit}",
    "Flags: " ++ Text.Hex.word header.flags,
    s!"Fragment Pages Used: {header.fragmentsUsed}" ]

/-- The lines on the header of the data dictionary. -/
def catalogLines (paint : Painter) (header : CatalogHeader) : List String :=
  [ "",
    paint .bold "=== Data Dictionary Header",
    s!"Max Row ID: {header.maxRow}",
    s!"Max Table ID: {header.maxTable}",
    s!"Max Index ID: {header.maxIndex}",
    s!"Max Space ID: {header.maxSpace}",
    s!"SYS_TABLES root: {header.roots.tables}",
    s!"SYS_TABLE_IDS root: {header.roots.tableIds}",
    s!"SYS_COLUMNS root: {header.roots.columns}",
    s!"SYS_INDEXES root: {header.roots.indexes}",
    s!"SYS_FIELDS root: {header.roots.fields}" ]

/-- The lines on the trailer of the page. -/
def trailerLines (paint : Painter) (report : PageReport) : List String :=
  let trailer := report.page.trailer
  let consistent :=
    if trailer.lsnLow = report.page.header.lsn % 2 ^ 32 then paint .green "OK"
    else paint .red "MISMATCH"
  [ "",
    paint .bold s!"=== TRAILER: Page {report.page.number}",
    "Old-style Checksum: " ++ Text.Hex.word trailer.checksum,
    s!"Low 32 bits of LSN: {trailer.lsnLow}",
    "LSN Consistency: " ++ consistent ]

/-- The hex dump of the page, as one line that holds line ends. -/
def dumpLines (report : PageReport) : List String :=
  let bytes := slice report.page.bytes 0 report.page.size
  ["", Text.HexDump.text report.start bytes]

/-- What is written about the page, with a hex dump if asked for. -/
def transcript (paint : Painter) (hex : Bool) (report : PageReport) : Transcript :=
  .ofLines (report.headerLines paint ++
    ((report.spaceHeader.map (spaceLines paint)).getD []) ++
    ((report.catalogHeader.map (catalogLines paint)).getD [])) ++
  ((report.node.map (NodeReport.transcript paint)).getD {}) ++
  .ofLines (report.trailerLines paint ++ (if hex then report.dumpLines else []))

end PageReport

end Tablespace
