import Tablespace.Numeral

/-!
# Byte strings

A tablespace is a sequence of bytes in which every number is stored with its most significant byte
first. This file has the two views everything else is built on: `slice` turns a part of a stored
image into a list of bytes, and `bigEndian` turns a list of bytes into the number it spells.

Main statements: `slice_eq` says that a slice is the evident part of the image's list of bytes, and
`bigEndian_toBigEndian` and `toBigEndian_bigEndian` that writing a number and reading it back gives
the number, and the other way round.
-/

namespace Tablespace

/-- The byte of `image` at position `i`, zero past the end. -/
def byteAt (image : ByteArray) (i : Nat) : UInt8 :=
  if h : i < image.size then image[i] else 0

/-- The `len` bytes of `image` from `offset` on, put in front of `rest`. -/
def sliceOnto (image : ByteArray) (offset : Nat) : (len : Nat) → (rest : List UInt8) → List UInt8
  | 0, rest => rest
  | len + 1, rest => sliceOnto image offset len (byteAt image (offset + len) :: rest)

/-- The bytes of `image` at the positions `offset ≤ i < offset + len` that it has. -/
def slice (image : ByteArray) (offset len : Nat) : List UInt8 :=
  sliceOnto image offset (min len (image.size - offset)) []

/-- The number that a byte string spells with its most significant byte first. -/
def bigEndian (bytes : List UInt8) : Nat :=
  bytes.foldl (fun n b => 256 * n + b.toNat) 0

/-- The `width` bytes that spell `n` modulo `256 ^ width`, most significant byte first. -/
def toBigEndian : (width : Nat) → (n : Nat) → List UInt8
  | 0, _ => []
  | width + 1, n => toBigEndian width (n / 256) ++ [UInt8.ofNat (n % 256)]

/-! ## Slices -/

theorem sliceOnto_eq (image : ByteArray) (offset len : Nat) (rest : List UInt8)
    (h : offset + len ≤ image.size) :
    sliceOnto image offset len rest = (image.data.toList.drop offset).take len ++ rest := by
  induction len generalizing rest with
  | zero => simp [sliceOnto]
  | succ len ih =>
    have hlt : offset + len < image.size := by omega
    have hlist : offset + len < image.data.toList.length := by
      simpa [ByteArray.size_data] using hlt
    have hdrop : len < (image.data.toList.drop offset).length := by
      simp only [List.length_drop]; omega
    rw [sliceOnto, ih _ (by omega), List.take_succ_eq_append_getElem hdrop]
    simp [byteAt, hlt, ByteArray.getElem_eq_getElem_data]

/-- A slice is the evident part of the image's list of bytes. -/
theorem slice_eq (image : ByteArray) (offset len : Nat) :
    slice image offset len = (image.data.toList.drop offset).take len := by
  have hsize : image.data.toList.length = image.size := by simp [ByteArray.size_data]
  rw [slice]
  by_cases h : offset ≤ image.size
  · rw [sliceOnto_eq _ _ _ _ (by omega), List.append_nil]
    by_cases hl : len ≤ image.size - offset
    · rw [Nat.min_eq_left hl]
    · rw [Nat.min_eq_right (by omega), List.take_of_length_le (by simp [hsize]),
        List.take_of_length_le (by simp [hsize]; omega)]
  · have : image.size - offset = 0 := by omega
    rw [this, Nat.min_zero, sliceOnto, List.drop_of_length_le (by omega)]
    simp

/-- A slice within the image has the length that was asked for. -/
theorem length_slice {image : ByteArray} {offset len : Nat} (h : offset + len ≤ image.size) :
    (slice image offset len).length = len := by
  have hsize : image.data.toList.length = image.size := by simp [ByteArray.size_data]
  simp only [slice_eq, List.length_take, List.length_drop]
  omega

theorem sliceOnto_congr {image other : ByteArray} {offset len : Nat} (rest : List UInt8)
    (h : ∀ i, offset ≤ i → i < offset + len → byteAt other i = byteAt image i) :
    sliceOnto other offset len rest = sliceOnto image offset len rest := by
  induction len generalizing rest with
  | zero => rfl
  | succ len ih =>
    rw [sliceOnto, sliceOnto, h (offset + len) (by omega) (by omega)]
    exact ih _ fun i hstart hstop => h i hstart (by omega)

/-- Images of one size that agree in the bytes of a slice have the same slice. -/
theorem slice_congr {image other : ByteArray} {offset len : Nat} (hsize : other.size = image.size)
    (h : ∀ i, offset ≤ i → i < offset + len → byteAt other i = byteAt image i) :
    slice other offset len = slice image offset len := by
  unfold slice
  rw [hsize]
  exact sliceOnto_congr [] fun i hstart hstop => h i hstart (by omega)

/-! ## Numbers -/

@[simp]
theorem bigEndian_nil : bigEndian [] = 0 := rfl

theorem bigEndian_append_singleton (bytes : List UInt8) (b : UInt8) :
    bigEndian (bytes ++ [b]) = 256 * bigEndian bytes + b.toNat := by
  simp [bigEndian]

/-- Reading on from a number `n` stays below `n + 1` shifted by the bytes read. -/
theorem foldl_bigEndian_lt (bytes : List UInt8) (n : Nat) :
    bytes.foldl (fun n b => 256 * n + b.toNat) n < (n + 1) * 256 ^ bytes.length := by
  induction bytes generalizing n with
  | nil => simp
  | cons b bytes ih =>
    have hb : b.toNat < 256 := b.toNat_lt
    have hstep : (256 * n + b.toNat + 1) * 256 ^ bytes.length
        ≤ (256 * (n + 1)) * 256 ^ bytes.length := Nat.mul_le_mul_right _ (by omega)
    rw [List.foldl_cons, List.length_cons, Nat.pow_succ, Nat.mul_comm (256 ^ _) 256,
      ← Nat.mul_assoc, Nat.mul_comm (n + 1) 256]
    exact Nat.lt_of_lt_of_le (ih _) hstep

/-- A byte string spells a number below `256` to the power of its length. -/
theorem bigEndian_lt (bytes : List UInt8) : bigEndian bytes < 256 ^ bytes.length := by
  simpa [bigEndian] using foldl_bigEndian_lt bytes 0

@[simp]
theorem length_toBigEndian (width n : Nat) : (toBigEndian width n).length = width := by
  induction width generalizing n with
  | zero => rfl
  | succ width ih => simp [toBigEndian, ih]

/-- A number is written in two parts, the higher one first. -/
theorem toBigEndian_add (high low n : Nat) :
    toBigEndian (high + low) n = toBigEndian high (n / 256 ^ low) ++ toBigEndian low n := by
  induction low generalizing n with
  | zero => simp [toBigEndian]
  | succ low ih =>
    rw [← Nat.add_assoc, toBigEndian, ih, toBigEndian, Nat.div_div_eq_div_mul, ← Nat.pow_succ',
      List.append_assoc]

/-- Reading back what was written gives the number, reduced to the width. -/
theorem bigEndian_toBigEndian (width n : Nat) :
    bigEndian (toBigEndian width n) = n % 256 ^ width := by
  induction width generalizing n with
  | zero => simp [toBigEndian, Nat.mod_one]
  | succ width ih =>
    have hb : (UInt8.ofNat (n % 256)).toNat = n % 256 := by
      simp
    rw [toBigEndian, bigEndian_append_singleton, ih, hb, Nat.pow_succ, Nat.mul_comm (256 ^ width),
      Nat.mod_mul]
    omega

/-- The number that bytes spell, written as wide as they are, gives the bytes. -/
theorem toBigEndian_bigEndian {width : Nat} {bytes : List UInt8} (h : bytes.length = width) :
    toBigEndian width (bigEndian bytes) = bytes := by
  induction width generalizing bytes with
  | zero =>
    rw [List.length_eq_zero_iff.1 h]
    rfl
  | succ width ih =>
    rcases List.eq_nil_or_concat bytes with rfl | ⟨before, last, rfl⟩
    · cases h
    · have hlast : last.toNat < 256 := last.toNat_lt
      have hbefore : before.length = width := by simpa using h
      have hquotient : (256 * bigEndian before + last.toNat) / 256 = bigEndian before := by omega
      have hrest : (256 * bigEndian before + last.toNat) % 256 = last.toNat := by omega
      rw [List.concat_eq_append, toBigEndian, bigEndian_append_singleton, hquotient, hrest,
        ih hbefore, UInt8.ofNat_toNat]

end Tablespace
