import Tablespace.Page.Basic

/-!
# What a page holds

A page holds a byte string at an offset if reading as many bytes there gives them back. Parts of
records are found by the offset at which they begin or, below the origin of a record, by the offset
at which they end; both views split along an append. `Page.write` puts bytes onto a page, and what
was written is held.
-/

namespace Tablespace

theorem slice_add (image : ByteArray) (offset m n : Nat) :
    slice image offset (m + n) = slice image offset m ++ slice image (offset + m) n := by
  rw [slice_eq, slice_eq, slice_eq, List.take_add, List.drop_drop]

/-- The image with `bytes` in the place of what it has from `offset` on. Bytes for which the image
has no place are left out. -/
def overwrite (image : ByteArray) (offset : Nat) (bytes : List UInt8) : ByteArray :=
  ⟨image.data.mapIdx fun i b => if offset ≤ i then bytes[i - offset]?.getD b else b⟩

@[simp]
theorem size_overwrite (image : ByteArray) (offset : Nat) (bytes : List UInt8) :
    (overwrite image offset bytes).size = image.size := Array.size_mapIdx

theorem slice_overwrite {image : ByteArray} {offset : Nat} {bytes : List UInt8}
    (h : offset + bytes.length ≤ image.size) :
    slice (overwrite image offset bytes) offset bytes.length = bytes := by
  have hsize : image.data.size = image.size := rfl
  rw [slice_eq]
  apply List.ext_getElem
  · simp only [overwrite, List.length_take, List.length_drop, Array.length_toList,
      Array.size_mapIdx]
    omega
  · intro i hi hbytes
    simp [overwrite, hbytes]

namespace Page

/-- The page has `bytes` from `offset` on. -/
def Holds (page : Page) (offset : Nat) (bytes : List UInt8) : Prop :=
  page.read offset bytes.length = .ok bytes

/-- The page has `bytes` right before `stop`. -/
def HoldsBefore (page : Page) (stop : Nat) (bytes : List UInt8) : Prop :=
  bytes.length ≤ stop ∧ page.Holds (stop - bytes.length) bytes

/-- The page with `bytes` in the place of what it has from `offset` on. -/
def write (page : Page) (offset : Nat) (bytes : List UInt8) : Page where
  number := page.number
  bytes := overwrite page.bytes offset bytes
  headerFits := by
    rw [size_overwrite]
    exact page.headerFits

@[simp]
theorem size_write (page : Page) (offset : Nat) (bytes : List UInt8) :
    (page.write offset bytes).size = page.size := size_overwrite _ _ _

variable {page : Page} {offset stop : Nat} {bytes xs ys : List UInt8}

theorem holds_iff :
    page.Holds offset bytes ↔
      offset + bytes.length ≤ page.size ∧ slice page.bytes offset bytes.length = bytes :=
  read_eq_ok_iff

instance : Decidable (page.Holds offset bytes) := decidable_of_iff _ holds_iff.symm

instance : Decidable (page.HoldsBefore stop bytes) := instDecidableAnd

theorem holds_write (h : offset + bytes.length ≤ page.size) :
    (page.write offset bytes).Holds offset bytes :=
  holds_iff.2 ⟨by rwa [size_write], slice_overwrite h⟩

theorem holdsBefore_write (hlength : bytes.length ≤ stop) (hstop : stop ≤ page.size) :
    (page.write (stop - bytes.length) bytes).HoldsBefore stop bytes :=
  ⟨hlength, holds_write (by omega)⟩

/-- A page holds two byte strings one after the other if it holds each in its place. -/
theorem holds_append :
    page.Holds offset (xs ++ ys) ↔
      page.Holds offset xs ∧ page.Holds (offset + xs.length) ys := by
  rw [holds_iff, holds_iff, holds_iff, List.length_append, slice_add]
  constructor
  · rintro ⟨hsize, hslice⟩
    have hlength : (slice page.bytes offset xs.length).length = xs.length := by
      have : offset + xs.length ≤ page.bytes.size := by
        have : page.size = page.bytes.size := rfl
        omega
      exact length_slice this
    obtain ⟨hxs, hys⟩ := List.append_inj hslice hlength
    exact ⟨⟨by omega, hxs⟩, by omega, hys⟩
  · rintro ⟨⟨-, hxs⟩, hsize, hys⟩
    exact ⟨by omega, by rw [hxs, hys]⟩

/-- Two byte strings before an offset: the second ends there and the first where the second begins.
-/
theorem holdsBefore_append :
    page.HoldsBefore stop (xs ++ ys) ↔
      page.HoldsBefore stop ys ∧ page.HoldsBefore (stop - ys.length) xs := by
  unfold HoldsBefore
  rw [holds_append, List.length_append]
  constructor
  · rintro ⟨hlength, hxs, hys⟩
    have hbegin : stop - (xs.length + ys.length) + xs.length = stop - ys.length := by omega
    have hbegin' : stop - (xs.length + ys.length) = stop - ys.length - xs.length := by omega
    rw [hbegin] at hys
    rw [hbegin'] at hxs
    exact ⟨⟨by omega, hys⟩, by omega, hxs⟩
  · rintro ⟨⟨hylength, hys⟩, hxlength, hxs⟩
    have hbegin : stop - (xs.length + ys.length) + xs.length = stop - ys.length := by omega
    have hbegin' : stop - (xs.length + ys.length) = stop - ys.length - xs.length := by omega
    rw [hbegin, hbegin']
    exact ⟨by omega, hxs, hys⟩

theorem Holds.uint (h : page.Holds offset bytes) :
    page.uint offset bytes.length = .ok (bigEndian bytes) := by
  rw [Page.uint, show page.read offset bytes.length = .ok bytes from h]
  rfl

theorem Holds.byte {b : UInt8} (h : page.Holds offset [b]) : page.byte offset = .ok b.toNat := by
  have hbyte : bigEndian [b] = b.toNat := by simp [bigEndian]
  rw [← hbyte]
  exact h.uint

theorem Holds.uint_toBigEndian {width n : Nat} (h : page.Holds offset (toBigEndian width n))
    (hn : n < 256 ^ width) : page.uint offset width = .ok n := by
  have huint := h.uint
  rwa [length_toBigEndian, bigEndian_toBigEndian, Nat.mod_eq_of_lt hn] at huint

/-- Of bytes that are listed downward from `stop`, each is read in its place. -/
theorem HoldsBefore.byte_reverse (h : page.HoldsBefore stop bytes.reverse) {i : Nat} {b : UInt8}
    (hi : bytes[i]? = some b) : page.byte (stop - 1 - i) = .ok b.toNat := by
  obtain ⟨hlt, rfl⟩ := List.getElem?_eq_some_iff.1 hi
  -- the bytes above the one asked for, then that one, then those below it
  have hsplit : bytes.reverse =
      (bytes.drop (i + 1)).reverse ++ ([bytes[i]] ++ (bytes.take i).reverse) := by
    have hbytes : bytes.take i ++ bytes[i] :: bytes.drop (i + 1) = bytes := by simp
    rw [← List.append_assoc, ← List.reverse_cons, ← List.reverse_append, hbytes]
  rw [hsplit, holdsBefore_append, holdsBefore_append] at h
  obtain ⟨⟨-, habove, hbyte⟩, -⟩ := h
  have hplace : stop - (bytes.take i).reverse.length - [bytes[i]].length = stop - 1 - i := by
    simp only [List.length_reverse, List.length_take, List.length_singleton]
    omega
  rw [hplace] at hbyte
  exact hbyte.byte

end Page

end Tablespace
