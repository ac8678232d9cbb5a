import Mathlib.Logic.Function.Iterate
import Tablespace.Page.Checksum

/-!
# Damage that a checksum detects

A step of the CRC-32C register is linear under exclusive or and never maps two registers to one. Up
to four bytes therefore leave their trace in the register as the number that they spell, and no
bytes that follow remove it. Main statement: `Checksum.compute_of_burst`, the checksum depends on
the covered bytes of the page only and is another one after any damage inside four of them that are
consecutive, the last ones before the gap in the header and the first ones after it included.
-/

namespace Tablespace

namespace Crc32c

variable {a b start : UInt32}

/-! ## One bit -/

/-- What a step adds to the register that it has shifted. -/
def feedback (a : UInt32) : UInt32 := if a.toNat % 2 = 1 then polynomial else 0

theorem shift_eq (a : UInt32) : shift a = (a >>> 1) ^^^ feedback a := by
  have hbit : a &&& 1 = 1 ↔ a.toNat % 2 = 1 := by
    rw [← UInt32.toNat_inj, UInt32.toNat_and]
    exact iff_of_eq (congrArg (· = 1) (Nat.and_one_is_mod a.toNat))
  unfold shift feedback
  by_cases hodd : a.toNat % 2 = 1
  · rw [if_pos (hbit.2 hodd), if_pos hodd]
  · rw [if_neg (mt hbit.1 hodd), if_neg hodd, UInt32.xor_zero]

theorem feedback_xor (a b : UInt32) : feedback (a ^^^ b) = feedback a ^^^ feedback b := by
  unfold feedback
  rw [UInt32.toNat_xor, if_congr Nat.xor_mod_two_eq_one rfl rfl]
  by_cases ha : a.toNat % 2 = 1
  · by_cases hb : b.toNat % 2 = 1 <;> simp [ha, hb]
  · by_cases hb : b.toNat % 2 = 1 <;> simp [ha, hb]

theorem shift_xor (a b : UInt32) : shift (a ^^^ b) = shift a ^^^ shift b := by
  rw [shift_eq, shift_eq, shift_eq, UInt32.shiftRight_xor, feedback_xor]
  ac_rfl

/-- The highest bit of the polynomial shows that it was added. -/
theorem eq_zero_of_shift (h : shift a = 0) : a = 0 := by
  rw [shift_eq, UInt32.xor_eq_zero_iff, ← UInt32.toNat_inj, UInt32.toNat_shiftRight] at h
  have hhalf : a.toNat >>> 1 = a.toNat / 2 := Nat.shiftRight_eq_div_pow a.toNat 1
  have hlt : a.toNat < 2 ^ 32 := a.toNat_lt
  unfold feedback at h
  apply UInt32.toNat_inj.1
  by_cases hodd : a.toNat % 2 = 1
  · rw [if_pos hodd] at h
    change a.toNat >>> 1 = 0x82F63B78 at h
    omega
  · rw [if_neg hodd] at h
    change a.toNat >>> 1 = 0 at h
    change a.toNat = 0
    omega

theorem shift_injective : Function.Injective shift := by
  intro a b h
  rw [← UInt32.xor_eq_zero_iff] at h ⊢
  exact eq_zero_of_shift ((shift_xor a b).trans h)

/-- An even register is halved. -/
theorem shift_double {n : Nat} (h : 2 * n < 2 ^ 32) : shift (.ofNat (2 * n)) = .ofNat n := by
  have hdouble : (UInt32.ofNat (2 * n)).toNat = 2 * n := UInt32.toNat_ofNat_of_lt h
  have hsingle : (UInt32.ofNat n).toNat = n :=
    UInt32.toNat_ofNat_of_lt (Nat.lt_of_le_of_lt (by omega) h)
  rw [shift_eq, feedback, hdouble, if_neg (by omega), UInt32.xor_zero, ← UInt32.toNat_inj,
    UInt32.toNat_shiftRight, hdouble, hsingle]
  change (2 * n) >>> 1 = n
  rw [Nat.shiftRight_eq_div_pow]
  omega

/-! ## Several bits -/

variable {k n : Nat}

theorem shifts_xor (k : Nat) (a b : UInt32) :
    shift^[k] (a ^^^ b) = shift^[k] a ^^^ shift^[k] b :=
  Function.Semiconj₂.iterate shift_xor k a b

/-- A register whose lowest bits are zero moves down by as many. -/
theorem shifts_mul (h : 2 ^ k * n < 2 ^ 32) : shift^[k] (.ofNat (2 ^ k * n)) = .ofNat n := by
  induction k with
  | zero => simp
  | succ k ih =>
    rw [Nat.pow_succ', Nat.mul_assoc] at h ⊢
    rw [Function.iterate_succ_apply, shift_double h]
    exact ih (by omega)

/-! ## Bytes -/

/-- The number that a byte string spells with its least significant byte first. -/
def littleEndian : List UInt8 → Nat
  | [] => 0
  | b :: bytes => b.toNat + 2 ^ 8 * littleEndian bytes

theorem littleEndian_lt (bytes : List UInt8) : littleEndian bytes < 2 ^ (8 * bytes.length) := by
  induction bytes with
  | nil => decide
  | cons b bytes ih =>
    have hb : b.toNat < 2 ^ 8 := b.toNat_lt
    have hpow : 2 ^ (8 * (bytes.length + 1)) = 2 ^ 8 * 2 ^ (8 * bytes.length) := by
      rw [← Nat.pow_add]
      congr 1
      omega
    rw [littleEndian, List.length_cons, hpow]
    omega

theorem littleEndian_inj {xs ys : List UInt8} (hlength : xs.length = ys.length)
    (h : littleEndian xs = littleEndian ys) : xs = ys := by
  induction xs generalizing ys with
  | nil => exact (List.length_eq_zero_iff.1 hlength.symm).symm
  | cons x xs ih =>
    cases ys with
    | nil => cases hlength
    | cons y ys =>
      have hx : x.toNat < 2 ^ 8 := x.toNat_lt
      have hy : y.toNat < 2 ^ 8 := y.toNat_lt
      rw [littleEndian, littleEndian] at h
      rw [ih (Nat.succ.inj hlength) (by omega), UInt8.toNat_inj.1 (show x.toNat = y.toNat by omega)]

/-- The first byte is in bits that the others leave free. -/
theorem ofNat_littleEndian_cons (b : UInt8) (bytes : List UInt8) :
    UInt32.ofNat (littleEndian (b :: bytes)) =
      b.toUInt32 ^^^ .ofNat (2 ^ 8 * littleEndian bytes) := by
  have hb : b.toNat < 2 ^ 8 := b.toNat_lt
  have hxor : b.toNat + 2 ^ 8 * littleEndian bytes = b.toNat ^^^ (2 ^ 8 * littleEndian bytes) := by
    apply Nat.eq_of_testBit_eq
    intro i
    rw [Nat.add_comm, Nat.testBit_two_pow_mul_add _ hb, Nat.testBit_xor, Nat.testBit_two_pow_mul]
    by_cases hi : i < 8
    · simp [hi, Nat.not_le.2 hi]
    · have hhigh : b.toNat.testBit i = false :=
        Nat.testBit_lt_two_pow (Nat.lt_of_lt_of_le hb (Nat.pow_le_pow_right (by decide) (by omega)))
      simp [hi, hhigh, Nat.le_of_not_lt hi]
  have hword : UInt32.ofNat b.toNat = b.toUInt32 := UInt32.toNat_inj.1 (by simp)
  rw [littleEndian, hxor, UInt32.ofNat_xor, hword]

theorem step_eq (a : UInt32) (b : UInt8) : step a b = shift^[8] (a ^^^ b.toUInt32) := rfl

/-- The register after the same bytes shows where it began. -/
theorem register_injective (bytes : List UInt8) : Function.Injective (register · bytes) := by
  induction bytes with
  | nil => exact Function.injective_id
  | cons b bytes ih =>
    intro a a' h
    have hstep : step a b = step a' b := ih h
    rw [step_eq, step_eq] at hstep
    exact (UInt32.xor_left_inj _).1 (shift_injective.iterate 8 hstep)

/-- Up to four bytes are in the register as the number that they spell. -/
theorem register_eq {bytes : List UInt8} (h : bytes.length ≤ 4) (start : UInt32) :
    register start bytes = shift^[8 * bytes.length] (start ^^^ .ofNat (littleEndian bytes)) := by
  induction bytes generalizing start with
  | nil => exact UInt32.xor_zero.symm
  | cons b bytes ih =>
    rw [List.length_cons] at h
    have hlt : 2 ^ 8 * littleEndian bytes < 2 ^ 32 := by
      have := littleEndian_lt bytes
      have hpow : 2 ^ (8 * bytes.length) ≤ 2 ^ 24 := Nat.pow_le_pow_right (by decide) (by omega)
      omega
    calc register start (b :: bytes)
        = shift^[8 * bytes.length] (step start b ^^^ .ofNat (littleEndian bytes)) :=
          ih (by omega) (step start b)
      _ = shift^[8 * bytes.length]
            (shift^[8] (start ^^^ b.toUInt32 ^^^ .ofNat (2 ^ 8 * littleEndian bytes))) := by
          rw [step_eq, shifts_xor 8 (start ^^^ b.toUInt32), shifts_mul hlt]
      _ = shift^[8 * (bytes.length + 1)] (start ^^^ .ofNat (littleEndian (b :: bytes))) := by
          rw [ofNat_littleEndian_cons, ← UInt32.xor_assoc, ← Function.iterate_add_apply,
            Nat.mul_succ]

/-! ## Bursts -/

/-- Byte strings of one length that differ, but only in the four bytes from a position on. -/
structure Burst (start : Nat) (xs ys : List UInt8) : Prop where
  length_eq : xs.length = ys.length
  ne : xs ≠ ys
  agree : ∀ i, i < start ∨ start + 4 ≤ i → xs[i]? = ys[i]?

/-- Bytes that differ in up to four consecutive ones have different checks. -/
theorem check_ne_of_parts {before after xs ys : List UInt8} (hlength : xs.length = ys.length)
    (hle : xs.length ≤ 4) (hne : xs ≠ ys) :
    check (before ++ xs ++ after) ≠ check (before ++ ys ++ after) := by
  have hle' : ys.length ≤ 4 := hlength ▸ hle
  have hlt {bytes : List UInt8} (h : bytes.length ≤ 4) : littleEndian bytes < 2 ^ 32 :=
    Nat.lt_of_lt_of_le (littleEndian_lt bytes) (Nat.pow_le_pow_right (by decide) (by omega))
  intro h
  have hregister := UInt32.not_inj.1 h
  rw [register_append, register_append, register_append, register_append] at hregister
  have hmiddle := register_injective after hregister
  generalize register 0xFFFFFFFF before = start at hmiddle
  rw [register_eq hle, register_eq hle', hlength] at hmiddle
  have hwords := (UInt32.xor_right_inj start).1 (shift_injective.iterate _ hmiddle)
  rw [← UInt32.toNat_inj, UInt32.toNat_ofNat_of_lt' (hlt hle),
    UInt32.toNat_ofNat_of_lt' (hlt hle')] at hwords
  exact hne (littleEndian_inj hlength hwords)

/-- A byte string before, inside and after four of its positions. -/
theorem eq_parts (first : Nat) (xs : List UInt8) :
    xs = xs.take first ++ (xs.drop first).take 4 ++ xs.drop (first + 4) := by
  rw [List.append_assoc, ← List.drop_drop, List.take_append_drop, List.take_append_drop]

theorem check_ne_of_burst {first : Nat} {xs ys : List UInt8} (h : Burst first xs ys) :
    check xs ≠ check ys := by
  obtain ⟨hlength, hne, hagree⟩ := h
  have hbefore : ys.take first = xs.take first := by
    apply List.ext_getElem?
    intro i
    rw [List.getElem?_take, List.getElem?_take]
    by_cases hi : i < first
    · rw [if_pos hi, if_pos hi, hagree i (.inl hi)]
    · rw [if_neg hi, if_neg hi]
  have hafter : ys.drop (first + 4) = xs.drop (first + 4) := by
    apply List.ext_getElem?
    intro i
    rw [List.getElem?_drop, List.getElem?_drop, hagree _ (.inr (Nat.le_add_right _ i))]
  have hxs := eq_parts first xs
  have hys := eq_parts first ys
  rw [hbefore, hafter] at hys
  have hinside : (xs.drop first).take 4 ≠ (ys.drop first).take 4 := by
    intro heq
    rw [← heq] at hys
    exact hne (hxs.trans hys.symm)
  rw [hxs, hys]
  refine check_ne_of_parts ?_ (List.length_take_le 4 _) hinside
  rw [List.length_take, List.length_take, List.length_drop, List.length_drop, hlength]

/-- Up to four bytes that are put in place of others. -/
theorem burst_of_parts {before xs ys : List UInt8} (after : List UInt8)
    (hlength : xs.length = ys.length) (hle : xs.length ≤ 4) (hne : xs ≠ ys) :
    Burst before.length (before ++ xs ++ after) (before ++ ys ++ after) := by
  refine ⟨?_, ?_, ?_⟩
  · simp only [List.length_append, hlength]
  · intro h
    rw [List.append_left_inj, List.append_right_inj] at h
    exact hne h
  · intro i hi
    rw [List.append_assoc, List.append_assoc]
    rcases hi with hbefore | hafter
    · rw [List.getElem?_append_left hbefore, List.getElem?_append_left hbefore]
    · rw [List.getElem?_append_right (by omega), List.getElem?_append_right (by omega),
        List.getElem?_append_right (by omega), List.getElem?_append_right (by omega), hlength]

end Crc32c

/-! ## Images -/

namespace Checksum

variable {image other : ByteArray} {crc : Crc32c.Functions}

/-- A checksum that is right is the one that is stored. -/
theorem compute_of_inspect {stored : Nat} (h : inspect image crc = .valid stored) :
    fieldAt image 0 4 = stored ∧ compute image crc = stored := by
  unfold inspect at h
  split at h
  · cases h
  · simp only at h
    split at h
    · cases h
    · split at h
      · cases h
      · split at h
        next heq =>
          cases h
          exact ⟨rfl, heq⟩
        next => cases h

/-- The covered bytes are those from 4 to 25 and from 38 to the trailer. -/
theorem covered_congr (hsize : 46 ≤ image.size) (hother : other.size = image.size)
    (h : ∀ i, 4 ≤ i ∧ i < 26 ∨ 38 ≤ i ∧ i < image.size - 8 → byteAt other i = byteAt image i) :
    covered other = covered image := by
  unfold covered
  rw [hother, slice_congr hother fun i hstart hstop => h i (.inl ⟨hstart, hstop⟩),
    slice_congr hother fun i hstart hstop => h i (.inr ⟨hstart, by omega⟩)]

/-- Whatever functions a page is checked with, if they compute the CRC-32C and carry it on from one
part to the next, the checksum of the page is that of its bytes from 4 to 25 joined with those from
38 to the trailer, and depends on no other bytes. A page that differs from it in these bytes, but
only within four that are consecutive once they are joined, has another checksum. If the first page
stores the right checksum and the second stores the same, the second is therefore not found
right. -/
theorem compute_of_burst (hcrc : crc.Castagnoli) (hsize : 46 ≤ image.size)
    (hother : other.size = image.size) :
    compute image crc =
        (Crc32c.check (slice image 4 22 ++ slice image 38 (image.size - 46))).toNat ∧
      ((∀ i, 4 ≤ i ∧ i < 26 ∨ 38 ≤ i ∧ i < image.size - 8 → byteAt other i = byteAt image i) →
        compute other crc = compute image crc) ∧
      ∀ first, Crc32c.Burst first (covered image) (covered other) →
        compute other crc ≠ compute image crc ∧
          ∀ stored, inspect image crc = .valid stored → slice other 0 4 = slice image 0 4 →
            ∀ found, inspect other crc ≠ .valid found := by
  refine ⟨?_, ?_, ?_⟩
  · rw [compute_eq hcrc, covered, Nat.sub_sub]
  · intro h
    rw [compute_eq hcrc, compute_eq hcrc, covered_congr hsize hother h]
  · intro first hburst
    have hcompute : compute other crc ≠ compute image crc := by
      rw [compute_eq hcrc, compute_eq hcrc]
      exact fun h => Crc32c.check_ne_of_burst hburst (UInt32.toNat_inj.1 h.symm)
    refine ⟨hcompute, ?_⟩
    intro stored hvalid hstored found hfound
    obtain ⟨hfield, hright⟩ := compute_of_inspect hvalid
    obtain ⟨hfield', hright'⟩ := compute_of_inspect hfound
    have hsame : fieldAt other 0 4 = fieldAt image 0 4 := congrArg bigEndian hstored
    exact hcompute (by rw [hright', ← hfield', hsame, hfield, hright])

/-- An image of 48 bytes that stores a checksum. Two of its covered bytes are given, the last one
before the gap in the header and the first one after it. -/
def gapImage (before after : UInt8) : ByteArray :=
  ⟨([0x0E, 0xF4, 0x1A, 0x30, 0, 0, 0, 7] ++ List.replicate 16 0 ++ [0x45, before] ++
    List.replicate 12 0 ++ [after, 2] ++ List.replicate 8 0).toArray⟩

/-- Damage on both sides of the gap is found. -/
theorem compute_of_burst_gap :
    inspect (gapImage 0xBF 1) = .valid 0x0EF41A30 ∧
      ∀ found, inspect (gapImage 0xBE 0x81) ≠ .valid found := by
  have hvalid : inspect (gapImage 0xBF 1) = .valid 0x0EF41A30 := by decide +kernel
  obtain ⟨-, -, hbursts⟩ :=
    @compute_of_burst (gapImage 0xBF 1) (gapImage 0xBE 0x81) _ Crc32c.bitwise_castagnoli
      (by decide +kernel) (by decide +kernel)
  have hburst : Crc32c.Burst 21 (covered (gapImage 0xBF 1)) (covered (gapImage 0xBE 0x81)) := by
    have hright : covered (gapImage 0xBF 1) =
        [0, 0, 0, 7] ++ List.replicate 16 0 ++ [0x45] ++ [0xBF, 1] ++ [2] := by
      decide +kernel
    have hdamaged : covered (gapImage 0xBE 0x81) =
        [0, 0, 0, 7] ++ List.replicate 16 0 ++ [0x45] ++ [0xBE, 0x81] ++ [2] := by
      decide +kernel
    rw [hright, hdamaged]
    exact @Crc32c.burst_of_parts ([0, 0, 0, 7] ++ List.replicate 16 0 ++ [0x45]) [0xBF, 1]
      [0xBE, 0x81] [2] rfl (by decide) (by decide)
  obtain ⟨-, hdetected⟩ := hbursts 21 hburst
  exact ⟨hvalid, hdetected _ hvalid (by decide +kernel)⟩

end Checksum

end Tablespace
