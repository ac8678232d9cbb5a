import Tablespace.Text.Align
import Tablespace.Text.Number

/-!
# Numbers in decimal digits

Numbers that are written with decimal digits are read back as they were, whether or not zeros stand
before them, and written with the same number of digits they are in the order of their texts. Main
statements: `Number.read?_toDigits`, `Number.digits?_decimal` and `decimal_lt_decimal`.
-/

namespace Tablespace.Text

/-! ## Reading -/

namespace Number

theorem digit?_of_isDigit {c : Char} (h : c.isDigit = true) :
    digit? c = some (c.toNat - '0'.toNat) := by
  unfold Char.isDigit at h
  rw [Bool.and_eq_true, decide_eq_true_eq, decide_eq_true_eq] at h
  exact if_pos h

/-- Digits are read as the number that they are the digits of. -/
theorem digitsFrom_eq {cs : List Char} (h : ∀ c ∈ cs, c.isDigit = true) (n : Nat) :
    digitsFrom n cs = some (Nat.ofDigitChars 10 cs n) := by
  induction cs generalizing n with
  | nil => rfl
  | cons c cs ih =>
    have hfirst := digit?_of_isDigit (h c List.mem_cons_self)
    have hrest := ih fun d hd => h d (List.mem_cons_of_mem c hd)
    rw [digitsFrom, hfirst, Nat.ofDigitChars_cons]
    exact hrest _

theorem digits?_eq {cs : List Char} (hne : cs ≠ []) (h : ∀ c ∈ cs, c.isDigit = true) :
    digits? cs = some (Nat.ofDigitChars 10 cs 0) := by
  cases cs with
  | nil => exact absurd rfl hne
  | cons c cs => exact digitsFrom_eq h 0

theorem digits?_toDigits (n : Nat) : digits? (Nat.toDigits 10 n) = some n := by
  have hdigits : ∀ c ∈ Nat.toDigits 10 n, c.isDigit = true := by
    intro c hc
    exact Nat.isDigit_of_mem_toDigits (by decide) (by decide) hc
  rw [digits?_eq Nat.toDigits_ne_nil hdigits, Nat.ofDigitChars_ten_toDigits]

/-- A plus sign is passed over. -/
theorem read?_plus (cs : List Char) : read? ('+' :: cs) = (digits? cs).filter (· < 2 ^ 64) := rfl

/-- A text without a plus sign is read as its digits. -/
theorem read?_of_not_plus {cs : List Char} (h : ∀ rest, cs ≠ '+' :: rest) :
    read? cs = (digits? cs).filter (· < 2 ^ 64) := by
  unfold read?
  split
  next => exact absurd rfl (h _)
  next => rfl

/-- A number that fits into 64 bits is read back. -/
theorem read?_toDigits {n : Nat} (h : n < 2 ^ 64) : read? (Nat.toDigits 10 n) = some n := by
  have hplus : ∀ rest, Nat.toDigits 10 n ≠ '+' :: rest := by
    intro rest heq
    have hdigit : '+'.isDigit = true :=
      Nat.isDigit_of_mem_toDigits (by decide) (by decide) (heq ▸ List.mem_cons_self)
    exact absurd hdigit (by decide)
  rw [read?_of_not_plus hplus, digits?_toDigits]
  exact Option.filter_some_pos (decide_eq_true h)

theorem lt_of_read? {cs : List Char} {n : Nat} (h : read? cs = some n) : n < 2 ^ 64 := by
  have := (Option.filter_eq_some_iff.1 h).2
  exact of_decide_eq_true this

/-- Zeros before a number do not change it. -/
theorem digits?_decimal (width n : Nat) : digits? (decimal width n).toList = some n := by
  have hne : (decimal width n).toList ≠ [] := by
    rw [decimal, String.toList_ofList, List.leftpad]
    exact List.append_ne_nil_of_right_ne_nil _ Nat.toDigits_ne_nil
  have hdigits : ∀ c ∈ (decimal width n).toList, c.isDigit = true := by
    intro c hc
    rw [decimal, String.toList_ofList, List.leftpad, List.mem_append] at hc
    rcases hc with hzero | hdigit
    · rw [List.eq_of_mem_replicate hzero]
      rfl
    · exact Nat.isDigit_of_mem_toDigits (by decide) (by decide) hdigit
  rw [digits?_eq hne hdigits, decimal, String.toList_ofList, List.leftpad, Nat.ofDigitChars_append,
    Nat.ofDigitChars_replicate_zero, Nat.mul_zero, Nat.ofDigitChars_ten_toDigits]

end Number

/-! ## Width and order -/

variable {width m n : Nat}

theorem length_decimal (hpos : 0 < width) (h : n < 10 ^ width) :
    (decimal width n).length = width := by
  have := (Nat.length_toDigits_le_iff (by decide) hpos).2 h
  rw [decimal, String.length_ofList, List.length_leftpad]
  exact Nat.max_eq_left this

theorem decimal_inj (h : decimal width m = decimal width n) : m = n := by
  have hread := Number.digits?_decimal width m
  rw [h, Number.digits?_decimal] at hread
  exact (Option.some.inj hread).symm

/-- The last digit of a number is the one that comes last. -/
theorem toList_decimal_succ (hpos : 0 < width) (h : n < 10 ^ (width + 1)) :
    (decimal (width + 1) n).toList =
      (decimal width (n / 10)).toList ++ [Nat.digitChar (n % 10)] := by
  unfold decimal
  rw [String.toList_ofList, String.toList_ofList, Nat.toDigits_eq_if (b := 10) (n := n) (by decide)]
  by_cases hsmall : n < 10
  · rw [if_pos hsmall, Nat.div_eq_of_lt hsmall, Nat.mod_eq_of_lt hsmall, Nat.toDigits_zero]
    obtain ⟨zeros, rfl⟩ := Nat.exists_eq_succ_of_ne_zero (Nat.pos_iff_ne_zero.1 hpos)
    simp [List.leftpad, List.replicate_succ']
  · rw [if_neg hsmall]
    simp [List.leftpad]

theorem digitChar_lt_digitChar {d e : Nat} (h : d < e) (he : e < 10) :
    Nat.digitChar d < Nat.digitChar e := by
  have hd := Nat.toNat_digitChar_of_lt_ten (Nat.lt_trans h he)
  have he := Nat.toNat_digitChar_of_lt_ten he
  rw [Char.lt_def, UInt32.lt_iff_toNat_lt]
  change (Nat.digitChar d).toNat < (Nat.digitChar e).toNat
  omega

/-- Where texts of the same length come first, they decide the order. -/
theorem append_lt_append {xs ys xs' ys' : List Char} (hlength : xs.length = ys.length)
    (h : xs < ys) : xs ++ xs' < ys ++ ys' := by
  induction xs generalizing ys with
  | nil =>
    obtain rfl := List.length_eq_zero_iff.1 hlength.symm
    exact absurd h (List.lt_irrefl [])
  | cons x xs ih =>
    cases ys with
    | nil => cases hlength
    | cons y ys =>
      rw [List.cons_append, List.cons_append, List.cons_lt_cons_iff]
      rcases List.cons_lt_cons_iff.1 h with hfirst | ⟨hfirst, hrest⟩
      · exact .inl hfirst
      · exact .inr ⟨hfirst, ih (Nat.succ.inj hlength) hrest⟩

/-- Numbers that are written with as many digits are in the order of their texts. -/
theorem decimal_lt_decimal (h : m < n) (hn : n < 10 ^ width) :
    (decimal width m).toList < (decimal width n).toList := by
  induction width generalizing m n with
  | zero =>
    rw [Nat.pow_zero] at hn
    omega
  | succ width ih =>
    rcases Nat.eq_zero_or_pos width with rfl | hpos
    · simp only [decimal, String.toList_ofList]
      rw [Nat.toDigits_of_lt_base hn, Nat.toDigits_of_lt_base (Nat.lt_trans h hn)]
      exact List.cons_lt_cons_iff.2 (.inl (digitChar_lt_digitChar h hn))
    · rw [toList_decimal_succ hpos hn, toList_decimal_succ hpos (Nat.lt_trans h hn)]
      rw [Nat.pow_succ] at hn
      rcases Nat.lt_or_ge (m / 10) (n / 10) with hlt | hge
      · have hlengths : (decimal width (m / 10)).toList.length =
            (decimal width (n / 10)).toList.length := by
          rw [String.length_toList, String.length_toList, length_decimal hpos (by omega),
            length_decimal hpos (by omega)]
        exact append_lt_append hlengths (ih hlt (by omega))
      · rw [show m / 10 = n / 10 by omega]
        exact List.append_left_lt
          (List.cons_lt_cons_iff.2 (.inl (digitChar_lt_digitChar (by omega) (by omega))))

end Tablespace.Text
