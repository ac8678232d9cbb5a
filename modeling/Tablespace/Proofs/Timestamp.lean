import Mathlib.Data.List.Basic
import Tablespace.Proofs.Calendar
import Tablespace.Proofs.DecimalDigits
import Tablespace.Proofs.FixedWidth

/-!
# Timestamps

A timestamp of four bytes counts the seconds since the first day of 1970. Main statement:
`DateTime.ofTimestamp?_since_1970`, every such count but zero is read as a date of the calendar with
a time of day that come so many seconds after the beginning of 1970, and later timestamps have later
texts.

In natural numbers no difference is below zero and no sum is too large. `Calendar.civilWord?` works
the date out once more in numbers of 32 bits, in steps that stop where either would happen. That it
does not stop for a timestamp is part of the statement.
-/

namespace Tablespace

/-! ## Numbers of 32 bits -/

namespace Word

variable {a b : Nat}

/-- The sum of two numbers, if it has no more than 32 bits. -/
def plus? (a b : Nat) : Option Nat := if a + b < 2 ^ 32 then some (a + b) else none

/-- The difference of two numbers, if it is not below zero. -/
def minus? (a b : Nat) : Option Nat := if b ≤ a then some (a - b) else none

/-- The product of two numbers, if it has no more than 32 bits. -/
def times? (a b : Nat) : Option Nat := if a * b < 2 ^ 32 then some (a * b) else none

theorem plus?_eq (h : a + b < 2 ^ 32) : plus? a b = some (a + b) := if_pos h

theorem minus?_eq (h : b ≤ a) : minus? a b = some (a - b) := if_pos h

theorem times?_eq (h : a * b < 2 ^ 32) : times? a b = some (a * b) := if_pos h

end Word

namespace Calendar

open Word

/-- The year of a cycle of four hundred years in which a day of the cycle is. -/
def yearOfEraWord? (dayOfEra : Nat) : Option Nat := do
  let withoutFours ← minus? dayOfEra (dayOfEra / 1460)
  let withCenturies ← plus? withoutFours (dayOfEra / 36524)
  let withoutEra ← minus? withCenturies (dayOfEra / 146096)
  return withoutEra / 365

/-- The day of a year that begins with March, for a day and a year of the cycle. -/
def dayOfYearWord? (dayOfEra yearOfEra : Nat) : Option Nat := do
  let days ← times? 365 yearOfEra
  let withFours ← plus? days (yearOfEra / 4)
  let before ← minus? withFours (yearOfEra / 100)
  minus? dayOfEra before

/-- The date of a day of a year that begins with March. -/
def ofMarchWord? (year dayOfYear : Nat) : Option (Nat × Nat × Nat) := do
  let fifths ← plus? (← times? 5 dayOfYear) 2
  let monthFromMarch := fifths / 153
  let before ← plus? (← times? 153 monthFromMarch) 2
  let day ← plus? (← minus? dayOfYear (before / 5)) 1
  let month ← if monthFromMarch < 10 then plus? monthFromMarch 3 else minus? monthFromMarch 9
  let year ← plus? year (if month ≤ 2 then 1 else 0)
  return (year, month, day)

/-- The date as in `DateTime.civil`, worked out in numbers of 32 bits. -/
def civilWord? (days : Nat) : Option (Nat × Nat × Nat) := do
  let shifted ← plus? days 719468
  let cycles ← times? (shifted / 146097) 146097
  let dayOfEra ← minus? shifted cycles
  let yearOfEra ← yearOfEraWord? dayOfEra
  let dayOfYear ← dayOfYearWord? dayOfEra yearOfEra
  let yearsBefore ← times? (shifted / 146097) 400
  let year ← plus? yearOfEra yearsBefore
  ofMarchWord? year dayOfYear

theorem yearOfEraWord?_eq {dayOfEra : Nat} (h : dayOfEra < 146097) :
    yearOfEraWord? dayOfEra = some (yearOfEra dayOfEra) := by
  unfold yearOfEraWord?
  simp (disch := omega) only [minus?_eq, plus?_eq, Option.bind_eq_bind, Option.bind_some]
  rfl

theorem dayOfYearWord?_eq {dayOfEra year : Nat} (hyear : year ≤ 399)
    (h : daysBeforeYearOfEra year ≤ dayOfEra) :
    dayOfYearWord? dayOfEra year = some (dayOfEra - daysBeforeYearOfEra year) := by
  unfold dayOfYearWord?
  simp (disch := omega) only [times?_eq, plus?_eq, minus?_eq, Option.bind_eq_bind, Option.bind_some]
  exact minus?_eq h

theorem ofMarchWord?_eq {year dayOfYear : Nat} (hyear : year + 1 < 2 ^ 32)
    (hday : dayOfYear ≤ 365) : ofMarchWord? year dayOfYear = some (ofMarch year dayOfYear) := by
  have hfifths : 5 * dayOfYear + 2 < 2 ^ 32 := by omega
  obtain ⟨m, hm⟩ : ∃ m, m = (5 * dayOfYear + 2) / 153 := ⟨_, rfl⟩
  have hmonth : m ≤ 11 := by omega
  have hstart : (153 * m + 2) / 5 ≤ dayOfYear := by omega
  have hnumber : 153 * m + 2 < 2 ^ 32 := by omega
  have hdays : dayOfYear - (153 * m + 2) / 5 + 1 < 2 ^ 32 := by omega
  have hyears (month : Nat) : year + (if month ≤ 2 then 1 else 0) < 2 ^ 32 := by
    split <;> omega
  unfold ofMarchWord? ofMarch
  simp only [times?_eq (Nat.lt_of_le_of_lt (Nat.le_add_right _ 2) hfifths), plus?_eq hfifths,
    Option.bind_eq_bind, Option.bind_some, ← hm,
    times?_eq (Nat.lt_of_le_of_lt (Nat.le_add_right _ 2) hnumber), plus?_eq hnumber,
    minus?_eq hstart, plus?_eq hdays]
  by_cases hdecember : m < 10
  · rw [if_pos hdecember, if_pos hdecember, plus?_eq (by omega), Option.bind_some,
      plus?_eq (hyears _)]
    rfl
  · rw [if_neg hdecember, if_neg hdecember, minus?_eq (by omega), Option.bind_some,
      plus?_eq (hyears _)]
    rfl

/-- The date of a day is worked out in 32 bits where the day itself, counted from the first of March
of year zero, has no more. -/
theorem civilWord?_eq {days : Nat} (h : days + 719468 < 2 ^ 32) :
    civilWord? days = some (DateTime.civil days) := by
  unfold civilWord?
  rw [civil_eq, plus?_eq h, Option.bind_eq_bind, Option.bind_some]
  generalize days + 719468 = shifted at h
  obtain ⟨era, hera⟩ : ∃ era, era = shifted / 146097 := ⟨_, rfl⟩
  obtain ⟨dayOfEra, hday⟩ : ∃ dayOfEra, dayOfEra = shifted % 146097 := ⟨_, rfl⟩
  have hdayOfEra : dayOfEra < 146097 := by omega
  have hproduct : era * 146097 ≤ shifted := by omega
  have hdifference : shifted - era * 146097 = dayOfEra := by omega
  obtain ⟨hyear, hbefore, hlast⟩ := yearOfEra_spec hdayOfEra
  have hlength := yearLength_le (yearOfEra dayOfEra + 1)
  have hcycles : era * 400 < 2 ^ 32 := by omega
  have hyears : yearOfEra dayOfEra + era * 400 < 2 ^ 32 := by omega
  rw [← hera, ← hday, times?_eq (Nat.lt_of_le_of_lt hproduct h), Option.bind_some,
    minus?_eq hproduct, Option.bind_some, hdifference, yearOfEraWord?_eq hdayOfEra,
    Option.bind_some, dayOfYearWord?_eq hyear hbefore, Option.bind_some, times?_eq hcycles,
    Option.bind_some, plus?_eq hyears, Option.bind_some, ofMarchWord?_eq (by omega) (by omega),
    Nat.mul_comm 400]

end Calendar

/-! ## Dates with a time of day -/

namespace DateTime

open Calendar

/-- A date of the calendar with a time of day in whole seconds. -/
structure IsCivil (t : DateTime) : Prop where
  date : IsDate t.year t.month t.day
  hour_lt : t.hour < 24
  minute_lt : t.minute < 60
  second_lt : t.second < 60
  fraction : t.fraction = 0

/-- The number of seconds from the beginning of 1970. -/
def secondsSince1970 (t : DateTime) : Int :=
  dayNumber t.year t.month t.day * 86400 + (t.hour * 3600 + t.minute * 60 + t.second : Nat)

/-- The order of dates and times part by part, the year first and the second last. -/
def Precedes (t u : DateTime) : Prop :=
  t.year < u.year ∨ t.year = u.year ∧ (t.month < u.month ∨ t.month = u.month ∧
    (t.day < u.day ∨ t.day = u.day ∧ (t.hour < u.hour ∨ t.hour = u.hour ∧
      (t.minute < u.minute ∨ t.minute = u.minute ∧ t.second < u.second))))

variable {t u : DateTime}

/-- What a number of seconds is read as. -/
theorem ofSeconds_isCivil (seconds : Nat) :
    (ofSeconds seconds).IsCivil ∧ (ofSeconds seconds).secondsSince1970 = seconds := by
  obtain ⟨year, month, day, hcivil, hdate, hnumber⟩ := exists_civil (seconds / 86400)
  unfold ofSeconds
  rw [hcivil]
  refine ⟨⟨hdate, ?_, ?_, ?_, rfl⟩, ?_⟩
  · simp only
    omega
  · simp only
    omega
  · simp only
    omega
  · simp only [secondsSince1970, hnumber]
    omega

/-- Of two dates and times the one that comes first has the smaller number of seconds. -/
theorem IsCivil.precedes (ht : t.IsCivil) (hu : u.IsCivil)
    (h : t.secondsSince1970 < u.secondsSince1970) : t.Precedes u := by
  obtain ⟨htdate, hthour, htminute, htsecond, -⟩ := ht
  obtain ⟨hudate, huhour, huminute, husecond, -⟩ := hu
  unfold secondsSince1970 at h
  have hdays : dayNumber t.year t.month t.day ≤ dayNumber u.year u.month u.day := by omega
  rcases Nat.lt_trichotomy t.year u.year with hyear | hyear | hyear
  · exact .inl hyear
  · refine .inr ⟨hyear, ?_⟩
    rw [hyear] at htdate hdays h
    rcases Nat.lt_trichotomy t.month u.month with hmonth | hmonth | hmonth
    · exact .inl hmonth
    · refine .inr ⟨hmonth, ?_⟩
      rw [hmonth] at h
      unfold dayNumber at h
      omega
    · exact absurd (dayNumber_lt_of_month hudate htdate hmonth) (Int.not_lt.2 hdays)
  · exact absurd (dayNumber_lt_of_year hudate htdate hyear) (Int.not_lt.2 hdays)

/-! ## Texts in order -/

/-- The parts of a text with a whole number of seconds. -/
theorem toList_text (h : t.fraction = 0) :
    t.text.toList = (Text.decimal 4 t.year).toList ++ '-' :: ((Text.decimal 2 t.month).toList ++
      '-' :: ((Text.decimal 2 t.day).toList ++ ' ' :: ((Text.decimal 2 t.hour).toList ++
        ':' :: ((Text.decimal 2 t.minute).toList ++
          ':' :: (Text.decimal 2 t.second).toList)))) := by
  simp [text, h]

/-- Texts that begin with a number are in the order of the numbers, and where these are equal in the
order of what follows. -/
theorem decimal_append_lt {width m n : Nat} {xs ys : List Char} (hpos : 0 < width)
    (hm : m < 10 ^ width) (hn : n < 10 ^ width) (h : m < n ∨ m = n ∧ xs < ys) :
    (Text.decimal width m).toList ++ xs < (Text.decimal width n).toList ++ ys := by
  rcases h with hlt | ⟨rfl, hrest⟩
  · have hlengths :
        (Text.decimal width m).toList.length = (Text.decimal width n).toList.length := by
      rw [String.length_toList, String.length_toList, Text.length_decimal hpos hm,
        Text.length_decimal hpos hn]
    exact Text.append_lt_append hlengths (Text.decimal_lt_decimal hlt hn)
  · exact List.append_left_lt hrest

theorem cons_lt_cons {c : Char} {xs ys : List Char} (h : xs < ys) : c :: xs < c :: ys :=
  List.cons_lt_cons_self.2 h

/-- All parts but the year have two digits. -/
theorem IsCivil.lt_hundred (h : t.IsCivil) :
    t.month < 10 ^ 2 ∧ t.day < 10 ^ 2 ∧ t.hour < 10 ^ 2 ∧ t.minute < 10 ^ 2 ∧
      t.second < 10 ^ 2 := by
  have hmonth := h.date.month_le
  have hday := h.date.day_le
  have hlength := monthLength_le t.year t.month
  have hhour := h.hour_lt
  have hminute := h.minute_lt
  have hsecond := h.second_lt
  exact ⟨by omega, by omega, by omega, by omega, by omega⟩

/-- Dates and times with years of four digits are in the order of their texts. -/
theorem text_lt_text (ht : t.IsCivil) (hu : u.IsCivil) (htyear : t.year ≤ 9999)
    (huyear : u.year ≤ 9999) (h : t.Precedes u) : t.text < u.text := by
  obtain ⟨htmonth, htday, hthour, htminute, htsecond⟩ := ht.lt_hundred
  obtain ⟨humonth, huday, huhour, huminute, husecond⟩ := hu.lt_hundred
  rw [String.lt_iff, toList_text ht.fraction, toList_text hu.fraction]
  refine decimal_append_lt (by decide) (by omega) (by omega) (h.imp_right fun h => ⟨h.1, ?_⟩)
  refine cons_lt_cons
    (decimal_append_lt (by decide) htmonth humonth (h.2.imp_right fun h => ⟨h.1, ?_⟩))
  refine cons_lt_cons
    (decimal_append_lt (by decide) htday huday (h.2.imp_right fun h => ⟨h.1, ?_⟩))
  refine cons_lt_cons
    (decimal_append_lt (by decide) hthour huhour (h.2.imp_right fun h => ⟨h.1, ?_⟩))
  refine cons_lt_cons
    (decimal_append_lt (by decide) htminute huminute (h.2.imp_right fun h => ⟨h.1, ?_⟩))
  exact cons_lt_cons (Text.decimal_lt_decimal h.2 husecond)

/-! ## Reading texts -/

/-- The date and time in a text of the form `YYYY-MM-DD HH:MM:SS`. -/
def ofText? : List Char → Option DateTime
  | [y₁, y₂, y₃, y₄, '-', n₁, n₂, '-', d₁, d₂, ' ', h₁, h₂, ':', m₁, m₂, ':', s₁, s₂] => do
    return {
      year := ← Text.Number.digits? [y₁, y₂, y₃, y₄]
      month := ← Text.Number.digits? [n₁, n₂]
      day := ← Text.Number.digits? [d₁, d₂]
      hour := ← Text.Number.digits? [h₁, h₂]
      minute := ← Text.Number.digits? [m₁, m₂]
      second := ← Text.Number.digits? [s₁, s₂] }
  | _ => none

theorem exists_four_digits {n : Nat} (h : n < 10 ^ 4) :
    ∃ a b c d, (Text.decimal 4 n).toList = [a, b, c, d] ∧
      Text.Number.digits? [a, b, c, d] = some n := by
  have hlength := Text.length_decimal (by decide) h
  rw [← String.length_toList] at hlength
  obtain ⟨a, b, c, d, hdigits⟩ := List.length_eq_four.1 hlength
  exact ⟨a, b, c, d, hdigits, hdigits ▸ Text.Number.digits?_decimal 4 n⟩

theorem exists_two_digits {n : Nat} (h : n < 10 ^ 2) :
    ∃ a b, (Text.decimal 2 n).toList = [a, b] ∧ Text.Number.digits? [a, b] = some n := by
  have hlength := Text.length_decimal (by decide) h
  rw [← String.length_toList] at hlength
  obtain ⟨a, b, hdigits⟩ := List.length_eq_two.1 hlength
  exact ⟨a, b, hdigits, hdigits ▸ Text.Number.digits?_decimal 2 n⟩

/-- What is written has the form that is read, and is read as what it was. -/
theorem ofText?_text (ht : t.IsCivil) (hyear : t.year ≤ 9999) : ofText? t.text.toList = some t := by
  obtain ⟨hmonth, hday, hhour, hminute, hsecond⟩ := ht.lt_hundred
  obtain ⟨y₁, y₂, y₃, y₄, htextYear, hreadYear⟩ := exists_four_digits (Nat.lt_succ_of_le hyear)
  obtain ⟨n₁, n₂, htextMonth, hreadMonth⟩ := exists_two_digits hmonth
  obtain ⟨d₁, d₂, htextDay, hreadDay⟩ := exists_two_digits hday
  obtain ⟨h₁, h₂, htextHour, hreadHour⟩ := exists_two_digits hhour
  obtain ⟨m₁, m₂, htextMinute, hreadMinute⟩ := exists_two_digits hminute
  obtain ⟨s₁, s₂, htextSecond, hreadSecond⟩ := exists_two_digits hsecond
  have htext : t.text.toList =
      [y₁, y₂, y₃, y₄, '-', n₁, n₂, '-', d₁, d₂, ' ', h₁, h₂, ':', m₁, m₂, ':', s₁, s₂] := by
    rw [toList_text ht.fraction, htextYear, htextMonth, htextDay, htextHour, htextMinute,
      htextSecond]
    rfl
  rw [htext, ofText?, hreadYear, hreadMonth, hreadDay, hreadHour, hreadMinute, hreadSecond]
  simp only [Option.bind_eq_bind, Option.bind_some, ← ht.fraction]
  rfl

/-! ## Timestamps of four bytes -/

theorem IsCivil.year_le (h : t.IsCivil) (hseconds : t.secondsSince1970 < 2 ^ 32) :
    t.year ≤ 9999 := by
  by_contra hyear
  have hyears : daysBeforeYear 10000 ≤ daysBeforeYear t.year := daysBeforeYear_mono (by omega)
  have hday := h.date.day_pos
  rw [daysBeforeYear_succ_eq] at hyears
  unfold secondsSince1970 dayNumber at hseconds
  rw [daysBeforeYear_1970] at hseconds
  omega

theorem ofTimestamp?_eq {bytes : List UInt8} (hlength : bytes.length = 4)
    (hpos : 0 < bigEndian bytes) : ofTimestamp? bytes = some (ofSeconds (bigEndian bytes)) := by
  have htake : bytes.take 4 = bytes := List.take_of_length_le (Nat.le_of_eq hlength)
  rw [ofTimestamp?, if_neg (by omega), htake]
  exact if_neg (Nat.pos_iff_ne_zero.1 hpos)

/-- A timestamp that is not zero is read as the date of the calendar and the time of day that come
so many seconds after the beginning of 1970. The date is worked out in 32 bits, the text has the
form `YYYY-MM-DD HH:MM:SS` and is read back as what it was, and later timestamps have later
texts. -/
theorem ofTimestamp?_since_1970 {bytes : List UInt8} (hlength : bytes.length = 4)
    (hpos : 0 < bigEndian bytes) :
    ∃ t, ofTimestamp? bytes = some t ∧ t.IsCivil ∧ t.secondsSince1970 = bigEndian bytes ∧
      civilWord? (bigEndian bytes / 86400) = some (t.year, t.month, t.day) ∧
      ofText? t.text.toList = some t ∧
      ∀ later : List UInt8, later.length = 4 → bigEndian bytes < bigEndian later →
        ∃ u, ofTimestamp? later = some u ∧ t.text < u.text := by
  have hbound {bytes : List UInt8} (hlength : bytes.length = 4) : bigEndian bytes < 2 ^ 32 := by
    have := bigEndian_lt bytes
    rwa [hlength] at this
  have hyear {bytes : List UInt8} (hlength : bytes.length = 4) :
      (ofSeconds (bigEndian bytes)).year ≤ 9999 := by
    obtain ⟨hcivil, hseconds⟩ := ofSeconds_isCivil (bigEndian bytes)
    refine hcivil.year_le ?_
    rw [hseconds]
    exact_mod_cast hbound hlength
  obtain ⟨hcivil, hseconds⟩ := ofSeconds_isCivil (bigEndian bytes)
  refine ⟨_, ofTimestamp?_eq hlength hpos, hcivil, hseconds, ?_,
    ofText?_text hcivil (hyear hlength), ?_⟩
  · have := hbound hlength
    rw [civilWord?_eq (by omega)]
    rfl
  · intro later hlater hlt
    obtain ⟨hlaterCivil, hlaterSeconds⟩ := ofSeconds_isCivil (bigEndian later)
    refine ⟨_, ofTimestamp?_eq hlater (Nat.lt_of_le_of_lt (Nat.zero_le _) hlt), ?_⟩
    have hprecedes := hcivil.precedes hlaterCivil (by omega)
    exact text_lt_text hcivil hlaterCivil (hyear hlength) (hyear hlater) hprecedes

/-- The last second of a leap day comes before the first one of March. -/
theorem ofTimestamp?_since_1970_leapDay :
    ∃ t u, ofTimestamp? [0x65, 0xE1, 0x1A, 0x7F] = some t ∧ t.text = "2024-02-29 23:59:59" ∧
      ofTimestamp? [0x65, 0xE1, 0x1A, 0x80] = some u ∧ t.text < u.text := by
  obtain ⟨t, hread, -, -, -, -, hlater⟩ :=
    @ofTimestamp?_since_1970 [0x65, 0xE1, 0x1A, 0x7F] rfl (by decide)
  obtain ⟨u, hnext, hlt⟩ := hlater [0x65, 0xE1, 0x1A, 0x80] rfl (by decide)
  refine ⟨t, u, hread, ?_, hnext, hlt⟩
  have htext : (ofTimestamp? [0x65, 0xE1, 0x1A, 0x7F]).map text = some "2024-02-29 23:59:59" := by
    decide +kernel
  rw [hread] at htext
  exact Option.some.inj htext

end DateTime

end Tablespace
