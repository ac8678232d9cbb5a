import Mathlib.Algebra.Order.Group.Unbundled.Int
import Mathlib.Data.List.Induction
import Mathlib.Tactic.IntervalCases
import Mathlib.Tactic.NormNum
import Mathlib.Tactic.Ring
import Tablespace.Value.Decode

/-!
# Numbers of a fixed width

Integers, numbers of transactions and rows, and roll pointers are stored in a fixed number of bytes.
Reading and writing them are inverse to each other, and the bytes of signed integers are in the
order of the integers, which is what they are stored in excess for: `FieldValue.fixedWidth_codec`.

The excess is written and taken away by turning one bit round in a word of 64 bits, masking the word
and shifting it there and back. That this is what `Signed.encode` and `Signed.decode` say with
remainders is part of the statement, since for eight bytes the mask and the shifts come to nothing.
-/

namespace Tablespace

/-! ## Byte strings in order -/

section Bytes

variable {xs ys : List UInt8}

theorem bigEndian_append (xs ys : List UInt8) :
    bigEndian (xs ++ ys) = bigEndian xs * 256 ^ ys.length + bigEndian ys := by
  induction ys using List.reverseRecOn with
  | nil => simp
  | append_singleton ys last ih =>
    rw [← List.append_assoc, bigEndian_append_singleton, ih, bigEndian_append_singleton,
      List.length_append, List.length_singleton]
    ring

theorem bigEndian_cons (b : UInt8) (bytes : List UInt8) :
    bigEndian (b :: bytes) = b.toNat * 256 ^ bytes.length + bigEndian bytes := by
  rw [← List.singleton_append, bigEndian_append]
  simp [bigEndian]

/-- Byte strings of one length are in the order of the numbers that they spell. -/
theorem bigEndian_lt_iff (h : xs.length = ys.length) : bigEndian xs < bigEndian ys ↔ xs < ys := by
  induction xs generalizing ys with
  | nil =>
    obtain rfl := List.length_eq_zero_iff.1 h.symm
    simp
  | cons x xs ih =>
    cases ys with
    | nil => cases h
    | cons y ys =>
      have hlength : xs.length = ys.length := Nat.succ.inj h
      have hxs := bigEndian_lt xs
      have hys := bigEndian_lt ys
      rw [hlength] at hxs
      rw [bigEndian_cons, bigEndian_cons, hlength, List.cons_lt_cons_iff, ← ih hlength,
        UInt8.lt_iff_toNat_lt, ← UInt8.toNat_inj]
      rcases Nat.lt_trichotomy x.toNat y.toNat with hlt | heq | hgt
      · have := Nat.mul_le_mul_right (256 ^ ys.length) hlt
        rw [Nat.succ_mul] at this
        exact iff_of_true (by omega) (.inl hlt)
      · rw [heq]
        simp
      · have := Nat.mul_le_mul_right (256 ^ ys.length) hgt
        rw [Nat.succ_mul] at this
        exact iff_of_false (by omega) (by omega)

theorem bigEndian_inj (hlength : xs.length = ys.length) (h : bigEndian xs = bigEndian ys) :
    xs = ys := by
  rw [← toBigEndian_bigEndian hlength, h, toBigEndian_bigEndian rfl]

end Bytes

/-! ## Signed integers -/

namespace Signed

variable {width : Nat}

theorem pow_eq_two_mul_bias (hpos : 1 ≤ width) : 256 ^ width = 2 * bias width := by
  rw [bias, ← Nat.pow_succ', show (256 : Nat) = 2 ^ 8 by rfl, ← Nat.pow_mul]
  congr 1
  omega

theorem decode_mem_range (hpos : 1 ≤ width) (raw : Nat) :
    -(bias width : Int) ≤ decode width raw ∧ decode width raw < bias width := by
  have hlt : raw % 256 ^ width < 256 ^ width := Nat.mod_lt _ (Nat.pow_pos (by decide))
  rw [pow_eq_two_mul_bias hpos] at hlt
  unfold decode
  rw [pow_eq_two_mul_bias hpos]
  omega

/-- What is read back is the one integer of the width that differs by a multiple of
`256 ^ width`. -/
theorem decode_encode_eq_iff (hpos : 1 ≤ width) (value decoded : Int) :
    decode width (encode width value) = decoded ↔
      -(bias width : Int) ≤ decoded ∧ decoded < bias width ∧
        ((256 ^ width : Nat) : Int) ∣ decoded - value := by
  have hdvd := Int.dvd_of_emod_eq_zero (decode_encode width value)
  obtain ⟨hleast, hmost⟩ := decode_mem_range hpos (encode width value)
  constructor
  · rintro rfl
    exact ⟨hleast, hmost, hdvd⟩
  · rintro ⟨hleast', hmost', hdvd'⟩
    have hdifference : ((256 ^ width : Nat) : Int) ∣
        decode width (encode width value) - decoded := by
      have := Int.dvd_sub hdvd hdvd'
      rwa [sub_sub_sub_cancel_right] at this
    have hzero := Int.eq_zero_of_abs_lt_dvd hdifference (by
      rw [pow_eq_two_mul_bias hpos, abs_lt]
      omega)
    omega

theorem decode_bigEndian_lt_iff {xs ys : List UInt8} (hxs : xs.length = width)
    (hys : ys.length = width) :
    decode width (bigEndian xs) < decode width (bigEndian ys) ↔ xs < ys := by
  have hx := bigEndian_lt xs
  have hy := bigEndian_lt ys
  rw [hxs] at hx
  rw [hys] at hy
  rw [← bigEndian_lt_iff (hxs.trans hys.symm), decode, decode, Nat.mod_eq_of_lt hx,
    Nat.mod_eq_of_lt hy]
  omega

theorem ofBytes?_toBigEndian {value : Int} (hpos : 1 ≤ width) (hfits : width ≤ 8)
    (hleast : -(bias width : Int) ≤ value) (hmost : value < bias width) :
    ofBytes? (toBigEndian width (encode width value)) = some value := by
  unfold ofBytes?
  rw [length_toBigEndian, if_pos ⟨hpos, hfits⟩, bigEndian_toBigEndian,
    Nat.mod_eq_of_lt (encode_lt width value)]
  exact congrArg some ((decode_encode_eq_iff hpos value value).2
    ⟨hleast, hmost, by rw [sub_self]; exact Int.dvd_zero _⟩)

/-! ### Words of 64 bits -/

/-- Reading in a word: the highest bit of the width is turned round, and shifting there and back
puts it into all bits above. -/
def readWord (width : Nat) (raw : BitVec 64) : BitVec 64 :=
  ((raw ^^^ 1#64 <<< (8 * width - 1)) <<< (64 - 8 * width)).sshiftRight (64 - 8 * width)

/-- Writing in a word: the bits above the width are masked out, and the highest bit of the width is
turned round. -/
def writeWord (width : Nat) (value : BitVec 64) : BitVec 64 :=
  (value &&& if 8 * width = 64 then .allOnes 64 else 1#64 <<< (8 * width) - 1#64) ^^^
    1#64 <<< (8 * width - 1)

/-- Below the next power of two, turning a bit round is adding it. -/
theorem xor_two_pow_mod (n k : Nat) : (n ^^^ 2 ^ k) % 2 ^ (k + 1) = (n + 2 ^ k) % 2 ^ (k + 1) := by
  have hpos : 0 < 2 ^ k := Nat.two_pow_pos k
  have hbit : (n / 2 ^ k ^^^ 1) % 2 = (n / 2 ^ k + 1) % 2 := by
    have := Nat.xor_mod_two_eq_one (a := n / 2 ^ k) (b := 1)
    omega
  rw [Nat.pow_succ, Nat.mod_mul, Nat.mod_mul, Nat.xor_mod_two_pow, Nat.xor_div_two_pow,
    Nat.mod_self, Nat.div_self hpos, Nat.xor_zero, hbit, Nat.add_mod_right,
    Nat.add_div_right n hpos]

theorem toNat_one_shiftLeft {k : Nat} (h : k < 64) : (1#64 <<< k).toNat = 2 ^ k := by
  rw [BitVec.toNat_shiftLeft, BitVec.toNat_ofNat, Nat.shiftLeft_eq]
  have : 2 ^ k < 2 ^ 64 := Nat.pow_lt_pow_right (by decide) h
  rw [Nat.mod_eq_of_lt (by omega)]
  omega

theorem toInt_readWord (hpos : 1 ≤ width) (hfits : width ≤ 8) (raw : BitVec 64) :
    (readWord width raw).toInt = decode width raw.toNat := by
  have hflip := xor_two_pow_mod raw.toNat (8 * width - 1)
  unfold readWord decode bias
  rw [BitVec.toInt_sshiftRight, BitVec.toInt_shiftLeft, BitVec.toNat_xor,
    toNat_one_shiftLeft (by omega), Int.shiftRight_eq_div_pow, Nat.shiftLeft_eq, Int.bmod_def]
  generalize raw.toNat ^^^ 2 ^ (8 * width - 1) = flipped at hflip ⊢
  interval_cases width <;> norm_num at hflip ⊢ <;> split <;> omega

theorem toNat_writeWord (hpos : 1 ≤ width) (hfits : width ≤ 8) (value : BitVec 64) :
    (writeWord width value).toNat = encode width value.toInt := by
  have hmask : (if 8 * width = 64 then .allOnes 64 else 1#64 <<< (8 * width) - 1#64).toNat =
      2 ^ (8 * width) - 1 := by
    interval_cases width <;> rfl
  have hflip := xor_two_pow_mod (value.toNat % 2 ^ (8 * width)) (8 * width - 1)
  have hlt : value.toNat % 2 ^ (8 * width) ^^^ 2 ^ (8 * width - 1) < 2 ^ (8 * width) :=
    Nat.xor_lt_two_pow (Nat.mod_lt _ (Nat.two_pow_pos _))
      (Nat.pow_lt_pow_right (by decide) (by omega))
  unfold writeWord encode bias
  rw [BitVec.toNat_xor, BitVec.toNat_and, hmask, Nat.and_two_pow_sub_one_eq_mod,
    toNat_one_shiftLeft (by omega), BitVec.toInt_eq_toNat_cond]
  generalize value.toNat % 2 ^ (8 * width) ^^^ 2 ^ (8 * width - 1) = flipped at hflip hlt ⊢
  interval_cases width <;> norm_num at hflip hlt ⊢ <;> split <;> omega

end Signed

/-! ## Roll pointers -/

namespace RollPointer

theorem toNat_lt {p : RollPointer} (hsegment : p.segment < 2 ^ 7) (hpage : p.page < 2 ^ 32)
    (hoffset : p.offset < 2 ^ 16) : p.toNat < 256 ^ 7 := by
  unfold toNat
  split <;> omega

/-- The parts of a number of seven bytes are the whole of it. -/
theorem toNat_ofNat {n : Nat} (h : n < 256 ^ 7) : (ofNat n).toNat = n := by
  unfold ofNat toNat
  simp only [Nat.testBit_eq_decide_div_mod_eq, decide_eq_true_eq]
  split <;> omega

end RollPointer

/-! ## Values -/

/-- Whether the values of a type are numbers of a fixed width. -/
def DataType.isNumeric : DataType → Bool
  | .integer _ _ | .transactionId | .rowId | .rollPointer => true
  | _ => false

namespace FieldValue

theorem uint?_toBigEndian {width n : Nat} (hpos : 1 ≤ width) (hfits : width ≤ 8)
    (hn : n < 256 ^ width) : uint? (toBigEndian width n) = some (uint n) := by
  unfold uint?
  rw [length_toBigEndian, if_pos ⟨hpos, hfits⟩, bigEndian_toBigEndian, Nat.mod_eq_of_lt hn]

/-- Bytes that are either read as a number or kept as they are can be told from the value, if
numbers of one width can. -/
theorem eq_of_getD_eq (fits : Nat → Prop) [DecidablePred fits] (value : Nat → Nat → FieldValue)
    {xs ys : List UInt8}
    (hvalue : ∀ width m n, fits width → m < 256 ^ width → n < 256 ^ width →
      value width m = value width n → m = n)
    (hlength : xs.length = ys.length)
    (h : (if fits xs.length then some (value xs.length (bigEndian xs)) else none).getD (raw xs) =
      (if fits ys.length then some (value ys.length (bigEndian ys)) else none).getD (raw ys)) :
    xs = ys := by
  have hxs := bigEndian_lt xs
  rw [hlength] at h hxs
  by_cases hfits : fits ys.length
  · rw [if_pos hfits, if_pos hfits] at h
    exact bigEndian_inj hlength (hvalue ys.length _ _ hfits hxs (bigEndian_lt ys) h)
  · rw [if_neg hfits, if_neg hfits] at h
    exact raw.inj h

/-- Under a type of numbers, bytes of one length are told apart by their values. -/
theorem decode_inj {type : DataType} {xs ys : List UInt8} (htype : type.isNumeric = true)
    (hlength : xs.length = ys.length) (h : decode type xs = decode type ys) : xs = ys := by
  have huint (h : (uint? xs).getD (raw xs) = (uint? ys).getD (raw ys)) : xs = ys :=
    eq_of_getD_eq (fun width => 1 ≤ width ∧ width ≤ 8) (fun _ => uint)
      (fun _ _ _ _ _ _ heq => uint.inj heq) hlength h
  cases type with
  | integer declared unsigned =>
    cases unsigned with
    | true => exact huint h
    | false =>
      unfold decode decode? Signed.ofBytes? at h
      simp only [apply_ite (Option.map int), Option.map_some, Option.map_none] at h
      refine eq_of_getD_eq (fun width => 1 ≤ width ∧ width ≤ 8)
        (fun width n => int (Signed.decode width n)) (fun width m n _ hm hn heq => ?_) hlength h
      have hdecode := int.inj heq
      unfold Signed.decode at hdecode
      rw [Nat.mod_eq_of_lt hm, Nat.mod_eq_of_lt hn] at hdecode
      omega
  | transactionId => exact huint h
  | rowId => exact huint h
  | rollPointer =>
    refine eq_of_getD_eq (fun width => width = 7) (fun _ n => rollPointer (.ofNat n))
      (fun width m n hwidth hm hn heq => ?_) hlength h
    subst hwidth
    rw [← RollPointer.toNat_ofNat hm, ← RollPointer.toNat_ofNat hn, rollPointer.inj heq]
  | _ => cases htype

/-- For every width of one to eight bytes, reading a signed integer that was written gives the one
integer of that width that differs from it by a multiple of the number of byte strings, and writing
one that was read gives the lowest bytes. In a word of 64 bits both are done with the bits. Byte
strings are in the order of the signed integers that they stand for. The value of a column is the
signed or unsigned integer, the number of the transaction or row or the roll pointer that was
stored, and different bytes of one length have different values. -/
theorem fixedWidth_codec {width : Nat} (hpos : 1 ≤ width) (hfits : width ≤ 8) :
    (∀ value decoded : Int, Signed.decode width (Signed.encode width value) = decoded ↔
      -2 ^ (8 * width - 1) ≤ decoded ∧ decoded < 2 ^ (8 * width - 1) ∧
        2 ^ (8 * width) ∣ decoded - value) ∧
      (∀ raw, Signed.encode width (Signed.decode width raw) = raw % 2 ^ (8 * width)) ∧
      (∀ word : BitVec 64, (Signed.readWord width word).toInt = Signed.decode width word.toNat ∧
        (Signed.writeWord width word).toNat = Signed.encode width word.toInt) ∧
      (∀ xs ys : List UInt8, xs.length = width → ys.length = width →
        (xs < ys ↔ Signed.decode width (bigEndian xs) < Signed.decode width (bigEndian ys))) ∧
      (∀ declared (value : Int), -2 ^ (8 * width - 1) ≤ value → value < 2 ^ (8 * width - 1) →
        decode (.integer declared false) (toBigEndian width (Signed.encode width value)) =
          .int value) ∧
      (∀ declared n, n < 2 ^ (8 * width) →
        decode (.integer declared true) (toBigEndian width n) = .uint n ∧
        decode .transactionId (toBigEndian width n) = .uint n ∧
        decode .rowId (toBigEndian width n) = .uint n) ∧
      (∀ p : RollPointer, p.segment < 2 ^ 7 → p.page < 2 ^ 32 → p.offset < 2 ^ 16 →
        decode .rollPointer (toBigEndian 7 p.toNat) = .rollPointer p) ∧
      ∀ type xs ys, type.isNumeric = true → xs.length = ys.length → xs ≠ ys →
        decode type xs ≠ decode type ys := by
  have hpow : 256 ^ width = 2 ^ (8 * width) := by
    rw [show (256 : Nat) = 2 ^ 8 by rfl, ← Nat.pow_mul]
  have hbias : (Signed.bias width : Int) = 2 ^ (8 * width - 1) := by
    rw [Signed.bias]
    norm_cast
  refine ⟨fun value decoded => ?_, fun raw => ?_, fun word => ?_, fun xs ys hxs hys => ?_,
    fun declared value hleast hmost => ?_, fun declared n hn => ?_,
    fun p hsegment hpage hoffset => ?_, fun type xs ys htype hlength hne heq => ?_⟩
  · rw [Signed.decode_encode_eq_iff hpos, hbias, hpow]
    norm_cast
  · rw [Signed.encode_decode, hpow]
  · exact ⟨Signed.toInt_readWord hpos hfits word, Signed.toNat_writeWord hpos hfits word⟩
  · exact (Signed.decode_bigEndian_lt_iff hxs hys).symm
  · rw [← hbias] at hleast hmost
    unfold decode decode?
    rw [Signed.ofBytes?_toBigEndian hpos hfits hleast hmost]
    rfl
  · rw [← hpow] at hn
    unfold decode decode?
    rw [uint?_toBigEndian hpos hfits hn]
    exact ⟨rfl, rfl, rfl⟩
  · unfold decode decode?
    rw [length_toBigEndian, if_pos rfl, bigEndian_toBigEndian,
      Nat.mod_eq_of_lt (RollPointer.toNat_lt hsegment hpage hoffset),
      RollPointer.ofNat_toNat hsegment hpage hoffset]
    rfl
  · exact hne (decode_inj htype hlength heq)

/-- Three bytes: an integer that is one too large comes back as the least one, the bytes of `-1` are
the last ones before the bytes of `0`, and a roll pointer is told from its neighbour. -/
theorem fixedWidth_codec_three :
    Signed.decode 3 (Signed.encode 3 (2 ^ 23)) = -2 ^ 23 ∧
      decode (.integer 3 false) [127, 255, 255] = .int (-1) ∧
      Signed.decode 3 (bigEndian [127, 255, 255]) < Signed.decode 3 (bigEndian [128, 0, 0]) ∧
      decode .rollPointer [133, 0, 0, 1, 44, 1, 16] =
        .rollPointer { isInsert := true, segment := 5, page := 300, offset := 272 } ∧
      decode .rollPointer [133, 0, 0, 1, 44, 1, 17] ≠
        decode .rollPointer [133, 0, 0, 1, 44, 1, 16] := by
  obtain ⟨hround, -, -, horder, hint, -, hpointer, hinj⟩ :=
    @fixedWidth_codec 3 (by decide) (by decide)
  have hminus : toBigEndian 3 (Signed.encode 3 (-1)) = [127, 255, 255] := by decide +kernel
  have hpacked : toBigEndian 7 (RollPointer.toNat ⟨true, 5, 300, 272⟩) =
      [133, 0, 0, 1, 44, 1, 16] := by decide +kernel
  refine ⟨(hround _ _).2 (by decide), ?_, (horder _ _ rfl rfl).1 (by decide), ?_, ?_⟩
  · rw [← hminus]
    exact hint 3 (-1) (by decide) (by decide)
  · rw [← hpacked]
    exact hpointer ⟨true, 5, 300, 272⟩ (by decide) (by decide) (by decide)
  · exact hinj _ _ _ rfl rfl (by decide)

end FieldValue

end Tablespace
