/-
  The Gregorian calendar, extended to all years.

  Days are counted from the first of January 1970. `dayNumber` is the count of
  a date; `ofDayNumber` finds the date of a count by way of years that begin
  in March, so that the leap day is a year's last, in eras of 400 years. A date
  is written with at least four digits for its year, and with a sign for years
  outside 0 to 9999.
-/
import MetricIngest.Time.Timestamp

namespace MetricIngest

/-- A date of the Gregorian calendar. -/
structure Date where
  year : Int
  month : Nat
  day : Nat
deriving Repr, DecidableEq

namespace Date

/-- Whether a year has a leap day. -/
def isLeap (year : Int) : Bool :=
  year % 4 = 0 && (year % 100 ≠ 0 || year % 400 = 0)

/-- The number of days of a month. -/
def monthLength (year : Int) (month : Nat) : Nat :=
  if month = 2 then (if isLeap year then 29 else 28)
  else if month = 4 ∨ month = 6 ∨ month = 9 ∨ month = 11 then 30
  else 31

/-- Whether the month and the day exist. -/
def Valid (d : Date) : Prop :=
  1 ≤ d.month ∧ d.month ≤ 12 ∧ 1 ≤ d.day ∧ d.day ≤ monthLength d.year d.month

/-- The days from the start of 1970 to the start of a year. -/
def yearStart (year : Int) : Int :=
  let y := year - 1
  365 * (year - 1970) + (y / 4 - y / 100 + y / 400) - 477

/-- The days of a year before a month. -/
def monthStart (year : Int) (month : Nat) : Nat :=
  (List.range (month - 1)).foldr (fun m rest => monthLength year (m + 1) + rest) 0

/-- The number of a date, counted from the first of January 1970. -/
def dayNumber (d : Date) : Int :=
  yearStart d.year + monthStart d.year d.month + d.day - 1

/-- The date with a given number. -/
def ofDayNumber (n : Int) : Date :=
  let z := n + 719468
  let era := z / 146097
  let dayOfEra := z % 146097
  let yearOfEra := (dayOfEra - dayOfEra / 1460 + dayOfEra / 36524 - dayOfEra / 146096) / 365
  let dayOfYear := dayOfEra - (365 * yearOfEra + yearOfEra / 4 - yearOfEra / 100)
  let monthFromMarch := (5 * dayOfYear + 2) / 153
  let day := dayOfYear - (153 * monthFromMarch + 2) / 5 + 1
  let month := if monthFromMarch < 10 then monthFromMarch + 3 else monthFromMarch - 9
  let year := yearOfEra + era * 400 + (if month ≤ 2 then 1 else 0)
  ⟨year, month.toNat, day.toNat⟩

/-- The seconds of a day. -/
def secondsPerDay : Nat := 86400

/-- The number of the day that holds a millisecond. -/
def dayOfMillis (millis : Int) : Int :=
  millis / 1000 / secondsPerDay

/-- The years for which a date is shown. -/
def firstYear : Int := -262143

/-- The last year for which a date is shown. -/
def lastYear : Int := 262142

/-- A number with zeros in front up to a number of digits. -/
def padded (width n : Nat) : List Char :=
  let digits := Nat.toDigits 10 n
  List.replicate (width - digits.length) '0' ++ digits

/-- The written year. -/
def yearText (year : Int) : List Char :=
  if year < 0 then '-' :: padded 4 year.natAbs
  else if 9999 < year then '+' :: padded 4 year.natAbs
  else padded 4 year.natAbs

/-- The date as year, month and day with points between them. -/
def dotted (d : Date) : List Char :=
  yearText d.year ++ '.' :: padded 2 d.month ++ '.' :: padded 2 d.day

end Date

end MetricIngest
