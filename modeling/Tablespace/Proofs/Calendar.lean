import Mathlib.Order.Monotone.Basic
import Mathlib.Tactic.IntervalCases
import Tablespace.Value.DateTime

/-!
# The calendar behind a count of days

`DateTime.civil` finds the date of a day by divisions alone, in years that begin with March. The
calendar itself is said here in the plain way: which years are leap years, how long each month is,
and that a day comes after all the years, months and days before it. Main statement:
`Calendar.exists_civil`, the date that is found is a date of the calendar, and so many days after
the first day of 1970 as were counted.

Days are told apart by their dates in the order of the calendar: `Calendar.dayNumber_lt_of_year`
and `Calendar.dayNumber_lt_of_month`.
-/

namespace Tablespace

namespace Calendar

/-- A leap year is a multiple of four, and of the full centuries one of four hundred. -/
def IsLeap (year : Nat) : Prop := year % 4 = 0 ∧ (year % 100 ≠ 0 ∨ year % 400 = 0)

instance (year : Nat) : Decidable (IsLeap year) := inferInstanceAs (Decidable (_ ∧ _))

/-- The number of days of a year. -/
def yearLength (year : Nat) : Nat := if IsLeap year then 366 else 365

/-- The number of days of a month, none for a number that is not of a month. -/
def monthLength (year : Nat) : (month : Nat) → Nat
  | 1 | 3 | 5 | 7 | 8 | 10 | 12 => 31
  | 4 | 6 | 9 | 11 => 30
  | 2 => if IsLeap year then 29 else 28
  | _ => 0

/-- The number of days of all years before a year, from year zero on. -/
def daysBeforeYear : (year : Nat) → Nat
  | 0 => 0
  | year + 1 => daysBeforeYear year + yearLength year

/-- The number of days of a year before one of its months. -/
def daysBeforeMonth (year : Nat) : (month : Nat) → Nat
  | 0 => 0
  | month + 1 => daysBeforeMonth year month + monthLength year month

/-- A year, a month and a day that make a date. -/
structure IsDate (year month day : Nat) : Prop where
  month_pos : 1 ≤ month
  month_le : month ≤ 12
  day_pos : 1 ≤ day
  day_le : day ≤ monthLength year month

/-- The number of days from the first day of 1970 to a date. -/
def dayNumber (year month day : Nat) : Int :=
  daysBeforeYear year + daysBeforeMonth year month + day - 1 - daysBeforeYear 1970

variable {year month day : Nat}

theorem monthLength_le (year month : Nat) : monthLength year month ≤ 31 := by
  unfold monthLength
  split
  any_goals decide
  split <;> decide

/-! ## Dates in order -/

theorem daysBeforeYear_mono : Monotone daysBeforeYear :=
  monotone_nat_of_le_succ fun _ => Nat.le_add_right _ _

theorem daysBeforeMonth_mono (year : Nat) : Monotone (daysBeforeMonth year) :=
  monotone_nat_of_le_succ fun _ => Nat.le_add_right _ _

/-- A date lies in its year. -/
theorem IsDate.le_yearLength (h : IsDate year month day) :
    daysBeforeMonth year month + day ≤ yearLength year := by
  obtain ⟨hpos, hle, -, hday⟩ := h
  have hthirteen : daysBeforeMonth year 13 = yearLength year := by
    simp only [daysBeforeMonth, monthLength, yearLength]
    split <;> rfl
  have hnext : daysBeforeMonth year (month + 1) ≤ daysBeforeMonth year 13 :=
    daysBeforeMonth_mono year (by omega)
  rw [daysBeforeMonth] at hnext
  omega

/-- A date of an earlier year comes first. -/
theorem dayNumber_lt_of_year {year' month' day' : Nat} (h : IsDate year month day)
    (h' : IsDate year' month' day') (hyear : year < year') :
    dayNumber year month day < dayNumber year' month' day' := by
  have hlast := h.le_yearLength
  have hfirst := h'.day_pos
  have hyears : daysBeforeYear (year + 1) ≤ daysBeforeYear year' := daysBeforeYear_mono hyear
  rw [daysBeforeYear] at hyears
  unfold dayNumber
  omega

/-- A date of an earlier month of the same year comes first. -/
theorem dayNumber_lt_of_month {month' day' : Nat} (h : IsDate year month day)
    (h' : IsDate year month' day') (hmonth : month < month') :
    dayNumber year month day < dayNumber year month' day' := by
  have hlast := h.day_le
  have hfirst := h'.day_pos
  have hmonths : daysBeforeMonth year (month + 1) ≤ daysBeforeMonth year month' :=
    daysBeforeMonth_mono year hmonth
  rw [daysBeforeMonth] at hmonths
  unfold dayNumber
  omega

/-! ## Years that begin with March -/

/-- The number of days before a year, which has a leap day more for each leap year. -/
theorem daysBeforeYear_succ_eq (year : Nat) :
    daysBeforeYear (year + 1) = 366 + 365 * year + year / 4 - year / 100 + year / 400 := by
  induction year with
  | zero => rfl
  | succ year ih =>
    rw [daysBeforeYear, ih, yearLength]
    by_cases hleap : IsLeap (year + 1)
    · rw [if_pos hleap]
      unfold IsLeap at hleap
      omega
    · rw [if_neg hleap]
      unfold IsLeap at hleap
      omega

/-- The first day of 1970, counted from year zero. -/
theorem daysBeforeYear_1970 : daysBeforeYear 1970 = 719528 := daysBeforeYear_succ_eq 1969

/-- The year of a cycle of four hundred years in which a day of the cycle is. -/
def yearOfEra (dayOfEra : Nat) : Nat :=
  (dayOfEra - dayOfEra / 1460 + dayOfEra / 36524 - dayOfEra / 146096) / 365

/-- The number of days of such a cycle before one of its years. -/
def daysBeforeYearOfEra (year : Nat) : Nat := 365 * year + year / 4 - year / 100

/-- The date of a day of a year that begins with March. -/
def ofMarch (year dayOfYear : Nat) : Nat × Nat × Nat :=
  let monthFromMarch := (5 * dayOfYear + 2) / 153
  let day := dayOfYear - (153 * monthFromMarch + 2) / 5 + 1
  let month := if monthFromMarch < 10 then monthFromMarch + 3 else monthFromMarch - 9
  (year + (if month ≤ 2 then 1 else 0), month, day)

theorem civil_eq (days : Nat) :
    DateTime.civil days =
      let dayOfEra := (days + 719468) % 146097
      ofMarch (yearOfEra dayOfEra + 400 * ((days + 719468) / 146097))
        (dayOfEra - daysBeforeYearOfEra (yearOfEra dayOfEra)) := rfl

theorem yearLength_le (year : Nat) : yearLength year ≤ 366 := by
  unfold yearLength
  split <;> omega

/-- The years are as long as those of four hundred years before. -/
theorem yearLength_add_era (year era : Nat) :
    yearLength (year + 400 * era) = yearLength year := by
  have hleap : IsLeap (year + 400 * era) ↔ IsLeap year := by
    unfold IsLeap
    omega
  unfold yearLength
  rw [if_congr hleap rfl rfl]

/-- A day of a cycle is a day of one of its four centuries, one of the twenty-five times four years
of the century, and one of these four years. Only the last of the four years has a day more, and not
at the end of the first three centuries. -/
theorem exists_cycles {dayOfEra : Nat} (h : dayOfEra < 146097) :
    ∃ century four year day, dayOfEra = 36524 * century + 1461 * four + 365 * year + day ∧
      century ≤ 3 ∧ four ≤ 24 ∧ year ≤ 3 ∧
      (day ≤ 364 ∨ day = 365 ∧ year = 3 ∧ (four < 24 ∨ century = 3)) := by
  obtain ⟨century, hcentury, hcenturies, hincentury⟩ : ∃ century, century ≤ 3 ∧
      36524 * century ≤ dayOfEra ∧
        (dayOfEra - 36524 * century < 36524 ∨
          century = 3 ∧ dayOfEra - 36524 * century = 36524) :=
    ⟨min (dayOfEra / 36524) 3, by omega, by omega, by omega⟩
  obtain ⟨dayOfCentury, rfl⟩ := Nat.exists_eq_add_of_le hcenturies
  rw [Nat.add_sub_cancel_left] at hincentury
  obtain ⟨year, hyear, hyears, hinyear⟩ : ∃ year, year ≤ 3 ∧
      365 * year ≤ dayOfCentury % 1461 ∧
        (dayOfCentury % 1461 - 365 * year ≤ 364 ∨
          year = 3 ∧ dayOfCentury % 1461 - 365 * year = 365) :=
    ⟨min (dayOfCentury % 1461 / 365) 3, by omega, by omega, by omega⟩
  refine ⟨century, dayOfCentury / 1461, year, dayOfCentury % 1461 - 365 * year, ?_, hcentury, ?_,
    hyear, ?_⟩
  · omega
  · omega
  · rcases hinyear with hday | ⟨hlast, hday⟩
    · exact .inl hday
    · exact .inr ⟨hday, hlast, by omega⟩

/-- The year that the divisions give is the one that the day is in. -/
theorem yearOfEra_spec {dayOfEra : Nat} (h : dayOfEra < 146097) :
    yearOfEra dayOfEra ≤ 399 ∧
      daysBeforeYearOfEra (yearOfEra dayOfEra) ≤ dayOfEra ∧
      dayOfEra - daysBeforeYearOfEra (yearOfEra dayOfEra) <
        yearLength (yearOfEra dayOfEra + 1) := by
  obtain ⟨century, four, year, day, hsum, hcentury, hfour, hyear, hday⟩ := exists_cycles h
  have hyearOfEra : yearOfEra dayOfEra = 100 * century + 4 * four + year := by
    unfold yearOfEra
    have hcenturies : dayOfEra / 36524 = century ∨
        dayOfEra / 36524 = century + 1 ∧ dayOfEra = 146096 := by omega
    have hfours : dayOfEra / 1460 = 25 * century + four ∧ day ≤ 364 ∨
        dayOfEra / 1460 = 25 * century + four + 1 ∧ 1 ≤ day := by omega
    omega
  have hbefore : daysBeforeYearOfEra (yearOfEra dayOfEra) =
      36524 * century + 1461 * four + 365 * year := by
    have hfours : (100 * century + 4 * four + year) / 4 = 25 * century + four := by omega
    have hcenturies : (100 * century + 4 * four + year) / 100 = century := by omega
    rw [hyearOfEra, daysBeforeYearOfEra, hfours, hcenturies]
    omega
  refine ⟨by omega, by omega, ?_⟩
  rw [hbefore, hyearOfEra, yearLength]
  by_cases hleap : IsLeap (100 * century + 4 * four + year + 1)
  · rw [if_pos hleap]
    omega
  · rw [if_neg hleap]
    unfold IsLeap at hleap
    omega

/-- From March to December a month begins and ends as the multiples of 153 fifths say, 306 days
before the end of the year. -/
theorem months_before_january (year : Nat) {monthFromMarch : Nat} (h : monthFromMarch < 10) :
    daysBeforeMonth year (monthFromMarch + 3) + 306 =
        yearLength year + (153 * monthFromMarch + 2) / 5 ∧
      monthLength year (monthFromMarch + 3) + (153 * monthFromMarch + 2) / 5 =
        (153 * (monthFromMarch + 1) + 2) / 5 := by
  by_cases hleap : IsLeap year
  · interval_cases monthFromMarch <;> simp [daysBeforeMonth, monthLength, yearLength, hleap]
  · interval_cases monthFromMarch <;> simp [daysBeforeMonth, monthLength, yearLength, hleap]

/-- January and February come 306 days after the first of March before them, and only February is
cut off where the year ends. -/
theorem months_from_january (year : Nat) {monthFromMarch : Nat} (hfrom : 10 ≤ monthFromMarch)
    (hto : monthFromMarch ≤ 11) :
    daysBeforeMonth year (monthFromMarch - 9) + 306 = (153 * monthFromMarch + 2) / 5 ∧
      monthLength year (monthFromMarch - 9) + (153 * monthFromMarch + 2) / 5 =
        min ((153 * (monthFromMarch + 1) + 2) / 5) (yearLength year) := by
  by_cases hleap : IsLeap year
  · interval_cases monthFromMarch <;> simp [daysBeforeMonth, monthLength, yearLength, hleap]
  · interval_cases monthFromMarch <;> simp [daysBeforeMonth, monthLength, yearLength, hleap]

/-- A day of a year that begins with March is a date, and so many days after the first of March. -/
theorem exists_ofMarch {year dayOfYear : Nat} (hlast : dayOfYear < yearLength (year + 1)) :
    ∃ y m d, ofMarch year dayOfYear = (y, m, d) ∧ IsDate y m d ∧
      dayNumber y m d = 365 * year + year / 4 - year / 100 + year / 400 + dayOfYear - 719468 := by
  have hyears := daysBeforeYear_succ_eq year
  have hleast : 365 ≤ yearLength (year + 1) ∧ yearLength (year + 1) ≤ 366 := by
    unfold yearLength
    split <;> omega
  obtain ⟨m, hm⟩ : ∃ m, m = (5 * dayOfYear + 2) / 153 := ⟨_, rfl⟩
  have hmonth : (153 * m + 2) / 5 ≤ dayOfYear ∧ dayOfYear < (153 * (m + 1) + 2) / 5 := by omega
  unfold dayNumber
  rw [daysBeforeYear_1970]
  by_cases hdecember : m < 10
  · obtain ⟨hbefore, hlength⟩ := months_before_january year hdecember
    have hdate : ofMarch year dayOfYear = (year, m + 3, dayOfYear - (153 * m + 2) / 5 + 1) := by
      simp only [ofMarch, ← hm, if_pos hdecember, if_neg (show ¬ m + 3 ≤ 2 by omega), Nat.add_zero]
    rw [daysBeforeYear] at hyears
    exact ⟨_, _, _, hdate, ⟨by omega, by omega, by omega, by omega⟩, by omega⟩
  · obtain ⟨hbefore, hlength⟩ := months_from_january (year + 1) (Nat.not_lt.1 hdecember) (by omega)
    have hdate : ofMarch year dayOfYear = (year + 1, m - 9, dayOfYear - (153 * m + 2) / 5 + 1) := by
      simp only [ofMarch, ← hm, if_neg hdecember, if_pos (show m - 9 ≤ 2 by omega)]
    exact ⟨_, _, _, hdate, ⟨by omega, by omega, by omega, by omega⟩, by omega⟩

/-- The date that the divisions give is a date of the calendar, so many days after the first day of
1970. -/
theorem exists_civil (days : Nat) :
    ∃ year month day, DateTime.civil days = (year, month, day) ∧ IsDate year month day ∧
      dayNumber year month day = days := by
  obtain ⟨era, hera⟩ : ∃ era, era = (days + 719468) / 146097 := ⟨_, rfl⟩
  obtain ⟨dayOfEra, hday⟩ : ∃ dayOfEra, dayOfEra = (days + 719468) % 146097 := ⟨_, rfl⟩
  obtain ⟨hyear, hbefore, hlast⟩ := yearOfEra_spec (show dayOfEra < 146097 by omega)
  rw [civil_eq, ← hera, ← hday]
  rw [← yearLength_add_era _ era, Nat.add_right_comm] at hlast
  obtain ⟨y, m, d, hdate, hisDate, hnumber⟩ := exists_ofMarch hlast
  refine ⟨y, m, d, hdate, hisDate, ?_⟩
  have hfours : (yearOfEra dayOfEra + 400 * era) / 4 = yearOfEra dayOfEra / 4 + 100 * era := by
    omega
  have hcenturies :
      (yearOfEra dayOfEra + 400 * era) / 100 = yearOfEra dayOfEra / 100 + 4 * era := by
    omega
  have heras : (yearOfEra dayOfEra + 400 * era) / 400 = era := by omega
  unfold daysBeforeYearOfEra at hbefore hnumber
  omega

end Calendar

end Tablespace
