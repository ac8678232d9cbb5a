import Tablespace.Page.Crc32c
import Tablespace.Page.Header

/-!
# Page checksums

A page stores a CRC-32C of itself. The check covers the page but for the stored checksum, the part
of the header that changes after the page was written, and the trailer. A mark in place of the
checksum says that none was computed, and a page that was never written is all zeros.

Checksums are reported and never enforced, so `Checksum.inspect` answers for any image.

Main statement: `Checksum.compute_eq`, the checksum is the check of all covered bytes.
-/

namespace Tablespace

/-- What the stored checksum of a page turned out to be. -/
inductive Checksum where
  /-- No checksum on a page of zeros. -/
  | empty
  /-- The mark of a page without checksum. -/
  | disabled
  /-- The stored checksum is right. -/
  | valid (stored : Nat)
  /-- The stored checksum differs from the computed one. -/
  | mismatch (stored computed : Nat)
  /-- The image is too short for a page. -/
  | truncated
  deriving DecidableEq, Repr

namespace Checksum

/-- The mark that stands in place of a checksum that was not computed. -/
def disabledMark : Nat := 0xDEADBEEF

/-- The first covered stretch begins after the stored checksum and ends before the flush number, the
second lies between the header and the trailer. -/
def covered (image : ByteArray) : List UInt8 :=
  slice image 4 22 ++ slice image 38 (image.size - 8 - 38)

/-- The checksum of an image: the check of the first covered stretch, carried on over the second. -/
def compute (image : ByteArray) (crc : Crc32c.Functions := Crc32c.bitwise) : Nat :=
  let first := crc.check (slice image 4 22)
  (crc.append first (slice image 38 (image.size - 8 - 38))).toNat

/-- The two stretches are checked as if they were joined. -/
theorem compute_eq {crc : Crc32c.Functions} (h : crc.Castagnoli) (image : ByteArray) :
    compute image crc = (Crc32c.check (covered image)).toNat := by
  rw [compute, h.append_check, h.check_eq, covered]

/-- Whether an image holds nothing but zeros. -/
def isBlank (image : ByteArray) : Bool := (slice image 0 image.size).all (· == 0)

/-- What the stored checksum of an image is. -/
def inspect (image : ByteArray) (crc : Crc32c.Functions := Crc32c.bitwise) : Checksum :=
  if image.size < PageHeader.size + PageTrailer.size then truncated
  else
    let stored := fieldAt image 0 4
    if stored = disabledMark then disabled
    else if stored = 0 ∧ isBlank image then empty
    else
      let computed := compute image crc
      if computed = stored then valid stored else mismatch stored computed

/-- Whether the page is to be trusted. -/
def isMatch : Checksum → Bool
  | empty | disabled | valid _ => true
  | mismatch _ _ | truncated => false

end Checksum

end Tablespace
