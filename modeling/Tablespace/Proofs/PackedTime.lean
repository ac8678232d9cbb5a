import Mathlib.Tactic.IntervalCases
import Tablespace.Proofs.DecimalDigits
import Tablespace.Proofs.FixedWidth
import Tablespace.Value.DateTime

/-!
# Dates and times of every precision

A date and time is stored with a fraction of no, two, four or six decimal digits, in as many bytes
as there are pairs of digits. The bytes are shown with the fraction as the number that it would be
in three bytes. For six digits these are the microseconds that were stored, but a number of one or
two bytes is moved up by bytes and not by digits: `DateTime.ofPacked?_stored` says what is shown,
and that it is the time that was stored only if there are six digits or the fraction is zero.
-/

namespace Tablespace

namespace DateTime

/-- Every part but the fraction is one that a date or a time of day can have, or zero. -/
structure InRange (t : DateTime) : Prop where
  year : t.year ≤ 9999
  month : t.month ≤ 12
  day : t.day ≤ 31
  hour : t.hour ≤ 23
  minute : t.minute ≤ 59
  second : t.second ≤ 59

/-- The bytes of a date and time whose fraction has `2 * k` decimal digits: a set bit for the sign
with the thirty-nine bits of the other parts, and the fraction in `k` bytes. -/
def stored (t : DateTime) (k : Nat) : List UInt8 :=
  toBigEndian 5 (2 ^ 39 + (13 * t.year + t.month) * 2 ^ 22 + t.day * 2 ^ 17 + t.hour * 2 ^ 12 +
    t.minute * 2 ^ 6 + t.second) ++ toBigEndian k t.fraction

/-- The date and time with the fraction of `2 * k` digits in microseconds. -/
def inMicroseconds (t : DateTime) (k : Nat) : DateTime :=
  { t with fraction := t.fraction * 100 ^ (3 - k) }

theorem length_text {t : DateTime} (ht : t.InRange) (hfraction : t.fraction < 10 ^ 6) :
    t.text.length = if t.fraction = 0 then 19 else 26 := by
  obtain ⟨hyear, hmonth, hday, hhour, hminute, hsecond⟩ := ht
  unfold text
  simp only [String.length_append]
  rw [Text.length_decimal (by decide) (by omega), Text.length_decimal (by decide) (by omega),
    Text.length_decimal (by decide) (by omega), Text.length_decimal (by decide) (by omega),
    Text.length_decimal (by decide) (by omega), Text.length_decimal (by decide) (by omega)]
  split
  · rfl
  · rw [String.length_append, Text.length_decimal (by decide) hfraction]
    rfl

/-- Texts that agree in all parts but the fraction agree in the fraction. -/
theorem text_inj {t : DateTime} {m n : Nat} :
    ({ t with fraction := m } : DateTime).text = ({ t with fraction := n } : DateTime).text ↔
      m = n := by
  have hdot (s : String) : "." ++ s ≠ "" := by
    intro h
    exact absurd (congrArg String.length h) (by simp)
  constructor
  · intro h
    unfold text at h
    simp only [String.append_right_inj] at h
    by_cases hm : m = 0
    · by_cases hn : n = 0
      · rw [hm, hn]
      · rw [if_pos hm, if_neg hn] at h
        exact absurd h.symm (hdot _)
    · by_cases hn : n = 0
      · rw [if_neg hm, if_pos hn] at h
        exact absurd h (hdot _)
      · rw [if_neg hm, if_neg hn] at h
        exact Text.decimal_inj ((String.append_right_inj ".").1 h)
  · rintro rfl
    rfl

/-- The fraction is read as if it had three bytes. -/
theorem ofPacked?_stored_eq {t : DateTime} {k : Nat} (ht : t.InRange) (hk : k ≤ 3)
    (hfraction : t.fraction < 100 ^ k) :
    ofPacked? (t.stored k) = some { t with fraction := t.fraction * 256 ^ (3 - k) } := by
  obtain ⟨hyear, hmonth, hday, hhour, hminute, hsecond⟩ := ht
  have hbytes : t.fraction < 256 ^ k :=
    Nat.lt_of_lt_of_le hfraction (Nat.pow_le_pow_left (by decide) k)
  have hpow : 256 ^ k * 256 ^ (3 - k) = 2 ^ 24 := (pow_mul_pow_sub 256 hk).trans (by decide)
  have hshift : t.fraction * 256 ^ (3 - k) < 2 ^ 24 := by
    rw [← hpow]
    exact Nat.mul_lt_mul_of_pos_right hbytes (Nat.pow_pos (by decide))
  have hlength : (t.stored k).length = 5 + k := by
    rw [stored, List.length_append, length_toBigEndian, length_toBigEndian]
  have hpacked : bigEndian (t.stored k) * 256 ^ (3 - k) =
      pack { t with fraction := t.fraction * 256 ^ (3 - k) } := by
    rw [stored, bigEndian_append, length_toBigEndian, bigEndian_toBigEndian, bigEndian_toBigEndian,
      Nat.mod_eq_of_lt hbytes, Nat.mod_eq_of_lt (by omega), Nat.add_mul, Nat.mul_assoc, hpow, pack]
    simp only
    omega
  rw [ofPacked?, hlength, if_pos (by omega), show 8 - (5 + k) = 3 - k by omega, hpacked]
  refine congrArg some (unpack_pack ?_ ?_ ?_ ?_ ?_ ?_ hshift) <;> simp only <;> omega

/-- A number that is moved up by bytes is the one that is moved up by pairs of digits only if it is
not moved at all or is zero. -/
theorem fraction_shift_eq_iff {k n : Nat} (hk : k ≤ 3) :
    n * 256 ^ (3 - k) = n * 100 ^ (3 - k) ↔ k = 3 ∨ n = 0 := by
  constructor
  · intro h
    rcases Nat.eq_zero_or_pos n with rfl | hpos
    · exact .inr rfl
    · have hpow : 256 ^ (3 - k) = 100 ^ (3 - k) := Nat.eq_of_mul_eq_mul_left hpos h
      interval_cases k <;> simp_all
  · rintro (rfl | rfl)
    · rfl
    · rw [Nat.zero_mul, Nat.zero_mul]

/-- A date and time that is stored with a fraction of no, two, four or six digits is read with the
number that the bytes of the fraction make as the highest of three bytes. The microseconds that were
stored, which take six digits or are left out, are shown for a fraction of six digits, and for a
shorter one only if it is zero. -/
theorem ofPacked?_stored {t : DateTime} {k : Nat} (ht : t.InRange) (hk : k ≤ 3)
    (hfraction : t.fraction < 100 ^ k) :
    ofPacked? (t.stored k) = some { t with fraction := t.fraction * 256 ^ (3 - k) } ∧
      ((ofPacked? (t.stored k)).map text = some (t.inMicroseconds k).text ↔
        k = 3 ∨ t.fraction = 0) ∧
      (t.inMicroseconds k).text.length = if t.fraction = 0 then 19 else 26 := by
  have hread := ofPacked?_stored_eq ht hk hfraction
  have hmicroseconds : t.fraction * 100 ^ (3 - k) < 10 ^ 6 := by
    have hpow : 100 ^ k * 100 ^ (3 - k) = 10 ^ 6 := (pow_mul_pow_sub 100 hk).trans (by decide)
    rw [← hpow]
    exact Nat.mul_lt_mul_of_pos_right hfraction (Nat.pow_pos (by decide))
  have hzero : t.fraction * 100 ^ (3 - k) = 0 ↔ t.fraction = 0 := by
    rw [Nat.mul_eq_zero, or_iff_left (Nat.pos_iff_ne_zero.1 (Nat.pow_pos (by decide)))]
  refine ⟨hread, ?_, ?_⟩
  · rw [hread, Option.map_some, Option.some.injEq, inMicroseconds, text_inj]
    exact fraction_shift_eq_iff hk
  · rw [@length_text (t.inMicroseconds k)
      ⟨ht.year, ht.month, ht.day, ht.hour, ht.minute, ht.second⟩ hmicroseconds]
    exact if_congr hzero rfl rfl

/-- Six digits are shown as they were stored. -/
theorem ofPacked?_stored_six :
    (ofPacked? (stored ⟨1999, 12, 31, 23, 59, 58, 123456⟩ 3)).map text =
      some "1999-12-31 23:59:58.123456" := by
  have hrange : InRange ⟨1999, 12, 31, 23, 59, 58, 123456⟩ := by constructor <;> decide
  obtain ⟨-, hshown, -⟩ := ofPacked?_stored hrange (Nat.le_refl 3) (by decide)
  rw [hshown.2 (.inl rfl)]
  decide +kernel

/-- Half a second in one byte is shown with seven digits that are not those of half a second. -/
theorem ofPacked?_stored_hundredths :
    (ofPacked? (stored ⟨2024, 3, 15, 10, 20, 30, 50⟩ 1)).map text =
        some "2024-03-15 10:20:30.3276800" ∧
      (inMicroseconds ⟨2024, 3, 15, 10, 20, 30, 50⟩ 1).text = "2024-03-15 10:20:30.500000" := by
  decide +kernel

end DateTime

end Tablespace
