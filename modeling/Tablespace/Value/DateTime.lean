import Tablespace.Bytes
import Tablespace.Text.Align

/-!
# Stored dates and times

A date and time of day is packed into bits: seventeen for the months since year zero, counted
thirteen to a year, five for the day, five for the hour, six for the minute, six for the second and
twenty-four for the fraction. The bytes hold the first forty of these bits after one bit for the
sign, and as many bits of the fraction as there are further bytes. A timestamp counts the seconds
since the first day of 1970, and its date follows from the length of the Gregorian cycle of four
hundred years.
-/

namespace Tablespace

/-- A date and a time of day. -/
structure DateTime where
  /-- The year. -/
  year : Nat
  /-- The month, counted from one. -/
  month : Nat
  /-- The day of the month, counted from one. -/
  day : Nat
  /-- The hour. -/
  hour : Nat
  /-- The minute. -/
  minute : Nat
  /-- The second. -/
  second : Nat
  /-- The fraction of the second. -/
  fraction : Nat := 0
  deriving DecidableEq, Repr

namespace DateTime

/-- The written form, with the fraction only where it is not zero. -/
def text (t : DateTime) : String :=
  let date := Text.decimal 4 t.year ++ "-" ++ Text.decimal 2 t.month ++ "-" ++ Text.decimal 2 t.day
  let time := Text.decimal 2 t.hour ++ ":" ++ Text.decimal 2 t.minute ++ ":" ++
    Text.decimal 2 t.second
  let fraction := if t.fraction = 0 then "" else "." ++ Text.decimal 6 t.fraction
  date ++ " " ++ time ++ fraction

/-- The date and time in a packed number of eight bytes, whatever the sign. -/
def unpack (packed : Nat) : DateTime where
  year := packed / 2 ^ 46 % 2 ^ 17 / 13
  month := packed / 2 ^ 46 % 2 ^ 17 % 13
  day := packed / 2 ^ 41 % 2 ^ 5
  hour := packed / 2 ^ 36 % 2 ^ 5
  minute := packed / 2 ^ 30 % 2 ^ 6
  second := packed / 2 ^ 24 % 2 ^ 6
  fraction := packed % 2 ^ 24

/-- The packed number of eight bytes, with the sign of a date after year zero. -/
def pack (t : DateTime) : Nat :=
  2 ^ 63 + (13 * t.year + t.month) * 2 ^ 46 + t.day * 2 ^ 41 + t.hour * 2 ^ 36 +
    t.minute * 2 ^ 30 + t.second * 2 ^ 24 + t.fraction

/-- What was packed is read again, where every part fits into its bits. -/
theorem unpack_pack {t : DateTime} (hyear : 13 * t.year + t.month < 2 ^ 17) (hmonth : t.month < 13)
    (hday : t.day < 2 ^ 5) (hhour : t.hour < 2 ^ 5) (hminute : t.minute < 2 ^ 6)
    (hsecond : t.second < 2 ^ 6) (hfraction : t.fraction < 2 ^ 24) : unpack (pack t) = t := by
  obtain ⟨year, month, day, hour, minute, second, fraction⟩ := t
  simp only at hyear hmonth hday hhour hminute hsecond hfraction
  simp only [unpack, pack, DateTime.mk.injEq]
  omega

/-- The date and time in five to eight bytes. -/
def ofPacked? (bytes : List UInt8) : Option DateTime :=
  if 5 ≤ bytes.length ∧ bytes.length ≤ 8 then
    some (unpack (bigEndian bytes * 256 ^ (8 - bytes.length)))
  else none

/-- The year, the month and the day that come so many days after the first day of 1970.

Days are counted from the first of March of year zero, so that a leap day is the last day of its
year: `era` is the cycle of four hundred years and `dayOfEra` the day in it. -/
def civil (days : Nat) : Nat × Nat × Nat :=
  let shifted := days + 719468
  let era := shifted / 146097
  let dayOfEra := shifted % 146097
  let yearOfEra := (dayOfEra - dayOfEra / 1460 + dayOfEra / 36524 - dayOfEra / 146096) / 365
  let dayOfYear := dayOfEra - (365 * yearOfEra + yearOfEra / 4 - yearOfEra / 100)
  let monthFromMarch := (5 * dayOfYear + 2) / 153
  let day := dayOfYear - (153 * monthFromMarch + 2) / 5 + 1
  let month := if monthFromMarch < 10 then monthFromMarch + 3 else monthFromMarch - 9
  let year := yearOfEra + 400 * era + (if month ≤ 2 then 1 else 0)
  (year, month, day)

/-- The date and time so many seconds after the beginning of 1970. -/
def ofSeconds (seconds : Nat) : DateTime :=
  let (year, month, day) := civil (seconds / 86400)
  let rest := seconds % 86400
  { year, month, day, hour := rest / 3600, minute := rest % 3600 / 60, second := rest % 60 }

/-- The date and time in the first four of at least four bytes; zero stands for no date. -/
def ofTimestamp? (bytes : List UInt8) : Option DateTime :=
  if bytes.length < 4 then none
  else
    let seconds := bigEndian (bytes.take 4)
    if seconds = 0 then some ⟨0, 0, 0, 0, 0, 0, 0⟩ else some (ofSeconds seconds)

end DateTime

end Tablespace
