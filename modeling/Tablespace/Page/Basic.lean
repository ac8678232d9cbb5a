import Tablespace.Error
import Tablespace.Page.Header

/-!
# Pages

A page is an image that is long enough for the header of a page, together with the place at which it
was found. All later reading goes through `Page.read`, which answers with the bytes that were asked
for or with an error that names the page; a read never leaves the page.
-/

namespace Tablespace

/-- A page. -/
@[ext]
structure Page where
  /-- The place of the page in its space, whatever number it has stored. -/
  number : Nat
  /-- The bytes of the page. -/
  bytes : ByteArray
  /-- The page is long enough for its header. -/
  headerFits : PageHeader.size ≤ bytes.size

namespace Page

/-- The page with the given bytes, if they are long enough. -/
def ofBytes (number : Nat) (bytes : ByteArray) : Except Error Page :=
  if h : PageHeader.size ≤ bytes.size then .ok ⟨number, bytes, h⟩
  else .error (.format (.pageTooShort number bytes.size))

/-- The length of the page in bytes. -/
def size (page : Page) : Nat := page.bytes.size

/-- The header of the page. -/
def header (page : Page) : PageHeader := .ofBytes page.bytes

/-- What the page is used for. -/
def kind (page : Page) : PageKind := page.header.kind

/-- The trailer of the page. -/
def trailer (page : Page) : PageTrailer := .ofBytes page.bytes (page.size - PageTrailer.size)

/-- The header of the space, if the page is long enough for one. -/
def spaceHeader? (page : Page) : Option SpaceHeader := SpaceHeader.ofBytes? page.bytes

/-- The `len` bytes at `offset`. -/
def read (page : Page) (offset len : Nat) : Except Error (List UInt8) :=
  if offset + len ≤ page.size then .ok (slice page.bytes offset len)
  else .error (.format (.readOverrun len offset page.number page.size))

/-- The number of `width` bytes at `offset`. -/
def uint (page : Page) (offset width : Nat) : Except Error Nat :=
  (page.read offset width).map bigEndian

/-- The number of `width` bytes at `offset`, for the widths from one to eight. -/
def integer (page : Page) (offset width : Nat) : Except Error Nat :=
  if width = 0 ∨ 8 < width then .error (.request (.integerWidth width))
  else page.uint offset width

/-- The byte at `offset`. -/
def byte (page : Page) (offset : Nat) : Except Error Nat := page.uint offset 1

/-! ## Reads inside the page -/

theorem read_eq_ok {page : Page} {offset len : Nat} (h : offset + len ≤ page.size) :
    page.read offset len = .ok (slice page.bytes offset len) := if_pos h

theorem read_eq_ok_iff {page : Page} {offset len : Nat} {bs : List UInt8} :
    page.read offset len = .ok bs ↔
      offset + len ≤ page.size ∧ slice page.bytes offset len = bs := by
  by_cases h : offset + len ≤ page.size <;> simp [read, h]

theorem uint_eq_ok {page : Page} {offset width : Nat} (h : offset + width ≤ page.size) :
    page.uint offset width = .ok (fieldAt page.bytes offset width) := by
  rw [uint, read_eq_ok h]
  rfl

end Page

end Tablespace
