import Tablespace.Bytes
import Tablespace.Page.Kind

/-!
# Headers and trailers of pages

Every page begins with a header of 38 bytes and ends with a trailer of 8. The first page of a space
continues with the header of the space. Other pages hold segment headers, which say where the inode
of a file segment is stored.

Each of these is read from an image by a function `ofBytes?` that answers `none` where the image is
too short.
-/

namespace Tablespace

/-- The number of `width` bytes at `offset` in an image that has them. -/
def fieldAt (image : ByteArray) (offset width : Nat) : Nat := bigEndian (slice image offset width)

theorem fieldAt_lt {image : ByteArray} {offset width : Nat} (h : offset + width ≤ image.size) :
    fieldAt image offset width < 256 ^ width := by
  have := bigEndian_lt (slice image offset width)
  rwa [length_slice h] at this

/-- The page number that stands for no page. -/
def noPage : Nat := 0xFFFFFFFF

/-- The header of a page. -/
structure PageHeader where
  /-- The stored checksum. -/
  checksum : Nat
  /-- The stored number of the page. -/
  pageNumber : Nat
  /-- The previous page on the same level of an index. -/
  previous : Nat
  /-- The next page on the same level of an index. -/
  next : Nat
  /-- The log sequence number of the last change. -/
  lsn : Nat
  /-- What the page is used for. -/
  kind : PageKind
  /-- The log sequence number up to which the space was flushed, on the first page of the system
  space. -/
  flushLsn : Nat
  /-- The space that the page belongs to. -/
  space : Nat
  deriving DecidableEq, Repr

namespace PageHeader

/-- The size of the header in bytes. -/
def size : Nat := 38

/-- The header that an image begins with. -/
def ofBytes (image : ByteArray) : PageHeader where
  checksum := fieldAt image 0 4
  pageNumber := fieldAt image 4 4
  previous := fieldAt image 8 4
  next := fieldAt image 12 4
  lsn := fieldAt image 16 8
  kind := .ofCode (fieldAt image 24 2)
  flushLsn := fieldAt image 26 8
  space := fieldAt image 34 4

/-- The header that an image begins with, if it is long enough. -/
def ofBytes? (image : ByteArray) : Option PageHeader :=
  if size ≤ image.size then some (ofBytes image) else none

/-- The number of a linked page; zero and `noPage` link to none. -/
def link? (page : Nat) : Option Nat := if page = noPage ∨ page = 0 then none else some page

/-- The linked page before this one. -/
def previous? (header : PageHeader) : Option Nat := link? header.previous

/-- The linked page after this one. -/
def next? (header : PageHeader) : Option Nat := link? header.next

end PageHeader

/-- The trailer of a page. -/
structure PageTrailer where
  /-- The checksum of older formats. -/
  checksum : Nat
  /-- The low 32 bits of the log sequence number. -/
  lsnLow : Nat
  deriving DecidableEq, Repr

namespace PageTrailer

/-- The size of the trailer in bytes. -/
def size : Nat := 8

/-- The trailer at `offset`. -/
def ofBytes (image : ByteArray) (offset : Nat) : PageTrailer where
  checksum := fieldAt image offset 4
  lsnLow := fieldAt image (offset + 4) 4

/-- The trailer that an image begins with, if it is long enough. -/
def ofBytes? (image : ByteArray) : Option PageTrailer :=
  if size ≤ image.size then some (ofBytes image 0) else none

end PageTrailer

/-- The header of a space, on its first page. -/
structure SpaceHeader where
  /-- The number of the space; the system space is number zero. -/
  space : Nat
  /-- The size in pages. -/
  size : Nat
  /-- The first page that was never used. -/
  freeLimit : Nat
  /-- The flags of the space. -/
  flags : Nat
  /-- The number of pages used in fragmented extents. -/
  fragmentsUsed : Nat
  deriving DecidableEq, Repr

namespace SpaceHeader

/-- Where on the first page the header ends. -/
def extent : Nat := 150

/-- The header on the first page of an image. -/
def ofBytes (image : ByteArray) : SpaceHeader where
  space := fieldAt image 38 4
  size := fieldAt image 46 4
  freeLimit := fieldAt image 50 4
  flags := fieldAt image 54 4
  fragmentsUsed := fieldAt image 58 4

/-- The header on the first page of an image, if it is long enough. -/
def ofBytes? (image : ByteArray) : Option SpaceHeader :=
  if extent ≤ image.size then some (ofBytes image) else none

end SpaceHeader

/-- Where the inode of a file segment is stored. -/
structure SegmentHeader where
  /-- The space of the inode. -/
  space : Nat
  /-- The page of the inode. -/
  page : Nat
  /-- The offset of the inode on its page. -/
  offset : Nat
  deriving DecidableEq, Repr

namespace SegmentHeader

/-- The size of the header in bytes. -/
def size : Nat := 10

/-- The header at `offset`, if the image is long enough. -/
def ofBytes? (image : ByteArray) (offset : Nat) : Option SegmentHeader :=
  if offset + size ≤ image.size then
    some {
      space := fieldAt image offset 4
      page := fieldAt image (offset + 4) 4
      offset := fieldAt image (offset + 8) 2 }
  else none

end SegmentHeader

end Tablespace
