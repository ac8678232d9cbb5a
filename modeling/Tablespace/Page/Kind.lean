/-!
# Page kinds

Every page says in its header what it is used for, as a 16-bit code. `PageKind.ofCode` reads the
code and `PageKind.code` gives it back; a code without a meaning is kept as `unknown`.

Main statement: `PageKind.code_ofCode`, no code is lost in reading.
-/

namespace Tablespace

/-- What a page is used for. -/
inductive PageKind where
  /-- Allocated and not used yet. -/
  | allocated
  /-- A segment of the undo log. -/
  | undoLog
  /-- Inodes of file segments. -/
  | inode
  /-- A free list of the insert buffer. -/
  | insertBufferFreeList
  /-- A bitmap of the insert buffer. -/
  | insertBufferBitmap
  /-- Internal data of the system space, such as the header of the data dictionary. -/
  | system
  /-- The header of the transaction system. -/
  | transactionSystem
  /-- The header of a file space, on its first page. -/
  | spaceHeader
  /-- Descriptors of extents. -/
  | extentDescriptor
  /-- A long column value, uncompressed. -/
  | blob
  /-- The first page of a compressed long column value. -/
  | compressedBlob
  /-- A later page of a compressed long column value. -/
  | compressedBlobRest
  /-- A node of an index tree. -/
  | index
  /-- A code that stands for none of these. -/
  | unknown (code : Nat)
  deriving DecidableEq, Repr, Inhabited

namespace PageKind

/-- The kind that a code stands for. -/
def ofCode : Nat → PageKind
  | 0 => allocated
  | 2 => undoLog
  | 3 => inode
  | 4 => insertBufferFreeList
  | 5 => insertBufferBitmap
  | 6 => system
  | 7 => transactionSystem
  | 8 => spaceHeader
  | 9 => extentDescriptor
  | 10 => blob
  | 11 => compressedBlob
  | 12 => compressedBlobRest
  | 17855 => index
  | code => unknown code

/-- The code of a kind. -/
def code : PageKind → Nat
  | allocated => 0
  | undoLog => 2
  | inode => 3
  | insertBufferFreeList => 4
  | insertBufferBitmap => 5
  | system => 6
  | transactionSystem => 7
  | spaceHeader => 8
  | extentDescriptor => 9
  | blob => 10
  | compressedBlob => 11
  | compressedBlobRest => 12
  | index => 17855
  | unknown code => code

/-- The name of a kind, one for all unknown codes. -/
def name : PageKind → String
  | allocated => "ALLOCATED"
  | undoLog => "UNDO_LOG"
  | inode => "INODE"
  | insertBufferFreeList => "IBUF_FREE_LIST"
  | insertBufferBitmap => "IBUF_BITMAP"
  | system => "SYS"
  | transactionSystem => "TRX_SYS"
  | spaceHeader => "FSP_HDR"
  | extentDescriptor => "XDES"
  | blob => "BLOB"
  | compressedBlob => "ZBLOB"
  | compressedBlobRest => "ZBLOB2"
  | index => "INDEX"
  | unknown _ => "UNKNOWN"

/-- A few words on what a kind is used for. -/
def description : PageKind → String
  | allocated => "Freshly allocated"
  | undoLog => "Undo log"
  | inode => "File segment inode"
  | insertBufferFreeList => "Insert buffer free list"
  | insertBufferBitmap => "Insert buffer bitmap"
  | system => "System internal"
  | transactionSystem => "Transaction system header"
  | spaceHeader => "File space header"
  | extentDescriptor => "Extent descriptor"
  | blob => "Uncompressed BLOB"
  | compressedBlob => "First compressed BLOB"
  | compressedBlobRest => "Subsequent compressed BLOB"
  | index => "B+Tree index"
  | unknown _ => "Unrecognized page type"

/-- The name of a kind, with the code where the name does not tell it. -/
def label : PageKind → String
  | unknown code => s!"UNKNOWN({code})"
  | kind => kind.name

/-- No code is lost in reading. -/
theorem code_ofCode (n : Nat) : (ofCode n).code = n := by
  unfold ofCode
  split <;> rfl

end PageKind

end Tablespace
