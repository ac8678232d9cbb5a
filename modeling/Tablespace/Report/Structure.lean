import Tablespace.Catalog.Header
import Tablespace.Index.Node
import Tablespace.Json
import Tablespace.Page.Checksum
import Tablespace.Column.TypeName

/-!
# Stored structures as JSON

The JSON form of each structure that a page holds. Members stand in the order of the bytes they come
from; a member without a value is left out where the structure may lack it, and a map is given in
the order of its names.
-/

namespace Tablespace

/-- The name of a kind in JSON, with the code where the name does not tell it. -/
def PageKind.toJson : PageKind → Json
  | .allocated => "Allocated"
  | .undoLog => "UndoLog"
  | .inode => "Inode"
  | .insertBufferFreeList => "IbufFreeList"
  | .insertBufferBitmap => "IbufBitmap"
  | .system => "Sys"
  | .transactionSystem => "TrxSys"
  | .spaceHeader => "FspHdr"
  | .extentDescriptor => "Xdes"
  | .blob => "Blob"
  | .compressedBlob => "ZBlob"
  | .compressedBlobRest => "ZBlob2"
  | .index => "Index"
  | .unknown code => .obj [("Unknown", code)]

/-- The header of a page. -/
def PageHeader.toJson (header : PageHeader) : Json :=
  .obj [
    ("checksum", header.checksum), ("page_number", header.pageNumber),
    ("prev_page", header.previous), ("next_page", header.next), ("lsn", header.lsn),
    ("page_type", header.kind.toJson), ("flush_lsn", header.flushLsn),
    ("space_id", header.space)]

/-- The trailer of a page. -/
def PageTrailer.toJson (trailer : PageTrailer) : Json :=
  .obj [("checksum", trailer.checksum), ("lsn_low32", trailer.lsnLow)]

/-- The header of a space. -/
def SpaceHeader.toJson (header : SpaceHeader) : Json :=
  .obj [
    ("space_id", header.space), ("size", header.size), ("free_limit", header.freeLimit),
    ("flags", header.flags), ("frag_n_used", header.fragmentsUsed)]

/-- The place of the inode of a segment. -/
def SegmentHeader.toJson (header : SegmentHeader) : Json :=
  .obj [("space_id", header.space), ("page_no", header.page), ("offset", header.offset)]

/-- What the checksum of a page turned out to be. -/
def Checksum.toJson : Checksum → Json
  | .empty => .obj [("status", "empty")]
  | .disabled => .obj [("status", "disabled")]
  | .valid stored => .obj [("status", "crc32c"), ("stored", stored)]
  | .mismatch stored computed =>
    .obj [("status", "mismatch"), ("stored", stored), ("crc32c", computed)]
  | .truncated => .obj [("status", "truncated")]

/-- The header of the data dictionary. -/
def CatalogHeader.toJson (header : CatalogHeader) : Json :=
  .obj [
    ("max_row_id", header.maxRow), ("max_table_id", header.maxTable),
    ("max_index_id", header.maxIndex), ("max_space_id", header.maxSpace),
    ("mix_id_low", header.mixLow),
    ("roots", .obj [
      ("sys_tables", header.roots.tables), ("sys_table_ids", header.roots.tableIds),
      ("sys_columns", header.roots.columns), ("sys_indexes", header.roots.indexes),
      ("sys_fields", header.roots.fields)]),
    ("unused_space", header.unused), ("fseg", .ofOption SegmentHeader.toJson header.segment)]

/-- The header of an index page. -/
def IndexHeader.toJson (header : IndexHeader) : Json :=
  .obj [
    ("n_dir_slots", header.directorySlots), ("heap_top", header.heapTop),
    ("n_heap_raw", header.heapCount), ("free", header.free), ("garbage", header.garbage),
    ("last_insert", header.lastInsert), ("direction", header.direction),
    ("n_direction", header.directionCount), ("n_recs", header.recordCount),
    ("max_trx_id", header.maxTransaction), ("level", header.level), ("index_id", header.index)]

/-- The accounting of the bytes of a node. -/
def SpaceUsage.toJson (usage : SpaceUsage) : Json :=
  .obj [
    ("header", usage.header), ("records", usage.records), ("garbage", usage.garbage),
    ("directory", usage.directory), ("trailer", usage.trailer), ("free", usage.free)]

/-- The place of a previous version. -/
def RollPointer.toJson (p : RollPointer) : Json :=
  .obj [
    ("is_insert", p.isInsert), ("rollback_segment_id", p.segment), ("undo_log_page", p.page),
    ("undo_log_offset", p.offset)]

/-- The place of a value that is stored elsewhere. -/
def ExternalReference.toJson (r : ExternalReference) : Json :=
  .obj [
    ("space_id", r.space), ("page_number", r.page), ("offset", r.offset), ("length", r.length)]

/-- The value of a column; uninterpreted bytes as their digits. -/
def FieldValue.toJson : FieldValue → Json
  | .null => .null
  | .int n => .int n
  | .uint n => n
  | .text s => s
  | .rollPointer p => p.toJson
  | .raw bytes => Text.Hex.text bytes

/-- Values by name. -/
def NameTable.toJson {α : Type} (f : α → Json) (table : NameTable α) : Json :=
  .obj (table.sorted.map fun e => (e.1, f e.2))

/-- What the header of a record says of a column. -/
def Extent.toJson (extent : Extent) : Json :=
  .obj [("length", extent.length), ("null", extent.null), ("external", extent.external)]

/-- The header of a record. -/
def RecordHeader.toJson (header : RecordHeader) : Json :=
  .obj ([
    ("offset", .nat header.origin), ("format", .str header.format.name),
    ("next", .nat header.next), ("record_type", .str header.kind.name),
    ("heap_number", .nat header.heapNumber), ("n_owned", .nat header.owned),
    ("info_flags", .nat header.flags)] ++
    Json.member? "n_fields" (.nat ·.count) header.ends ++
    Json.member? "offset_size" (.nat ·.width) header.ends ++
    (if header.fields.isEmpty then []
      else [("fields", NameTable.toJson Extent.toJson header.fields)]) ++
    [("length", .nat header.length)])

/-- A field of a record. -/
def Field.toJson (field : Field) : Json :=
  .obj ([
    ("name", .str field.column.name), ("position", .nat field.column.position),
    ("type", .str field.column.type.name), ("value", field.value.toJson)] ++
    Json.member? "external" ExternalReference.toJson field.external)

/-- A record, with its fields by the roles of their columns. -/
def Record.toJson (record : Record) : Json :=
  let fields (role : ColumnRole) : Json := .ofList Field.toJson (record.withRole role)
  let unlessNone (name : String) (role : ColumnRole) : List (String × Json) :=
    if (record.withRole role).isEmpty then [] else [(name, fields role)]
  .obj ([
    ("offset", .nat record.origin), ("header", record.header.toJson), ("keys", fields .key)] ++
    unlessNone "system" .system ++ unlessNone "rows" .row ++
    Json.member? "child_page_number" .nat record.child)

end Tablespace
