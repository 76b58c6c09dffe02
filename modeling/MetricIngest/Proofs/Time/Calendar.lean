/-
  Days and dates of the Gregorian calendar.

  Every day has exactly one valid date (`Valid.eq_of_dayNumber_eq`), and `ofDayNumber` finds it
  (`ofDayNumber_spec`). A date is found in two steps: a day of an
  era of 400 years that begin in March is split into centuries, cycles of four years, years
  and days (`EraDay`), and a day of such a year into months, whose lengths repeat in groups of
  153 days. That there is no other date is because a date lies in its year and its month.
-/
import Mathlib.Tactic.IntervalCases
import MetricIngest.Time.Calendar

namespace MetricIngest.Date

/-! ### Years -/

theorem isLeap_iff {year : Int} :
    isLeap year = true ↔ year % 4 = 0 ∧ (year % 100 ≠ 0 ∨ year % 400 = 0) := by
  simp [isLeap]

/-- The leap day of a year, if it has one. -/
def leapDay (year : Int) : Nat := if isLeap year then 1 else 0

/-- **A year has 365 days**, and a leap year one more. -/
theorem yearStart_succ (year : Int) :
    yearStart (year + 1) = yearStart year + 365 + leapDay year := by
  simp only [yearStart, leapDay, isLeap_iff]
  split <;> omega

/-- The count of days begins with the year 1970. -/
example : yearStart 1970 = 0 := by decide

theorem yearStart_le {year later : Int} (h : year ≤ later) : yearStart year ≤ yearStart later := by
  rcases h.eq_or_lt with rfl | hlt
  · exact le_refl _
  · simp only [yearStart]
    omega

/-! ### Months -/

theorem monthStart_eq_sum (year : Int) (month : Nat) :
    monthStart year month =
      ((List.range (month - 1)).map fun m => monthLength year (m + 1)).sum := by
  rw [monthStart, List.sum, List.foldr_map]

/-- A month begins after the days of the month before. -/
theorem monthStart_succ (year : Int) {month : Nat} (h : 1 ≤ month) :
    monthStart year (month + 1) = monthStart year month + monthLength year month := by
  obtain ⟨m, rfl⟩ := Nat.exists_eq_add_of_le' h
  rw [monthStart_eq_sum, monthStart_eq_sum, Nat.add_sub_cancel, Nat.add_sub_cancel,
    List.range_succ, List.map_append, List.sum_append]
  simp

theorem monthStart_le (year : Int) {month later : Nat} (h : 1 ≤ month) (hle : month ≤ later) :
    monthStart year month ≤ monthStart year later := by
  induction later, hle using Nat.le_induction with
  | base => exact le_refl _
  | succ later hle ih =>
    rw [monthStart_succ year (h.trans hle)]
    exact ih.trans (Nat.le_add_right _ _)

/-- From March on the months before make up groups of five with 153 days. -/
theorem monthStart_march (year : Int) {k : Nat} (h : k < 10) :
    monthStart year (k + 3) = 59 + leapDay year + (153 * k + 2) / 5 := by
  unfold leapDay
  cases hleap : isLeap year
  all_goals interval_cases k <;> simp [monthStart, monthLength, List.range_succ, hleap]

/-- The days of a month in terms of these groups. -/
theorem monthLength_march (year : Int) {k : Nat} (h : k < 10) :
    monthLength year (k + 3) = (153 * (k + 1) + 2) / 5 - (153 * k + 2) / 5 := by
  interval_cases k <;> simp [monthLength]

theorem monthStart_january (year : Int) : monthStart year 1 = 0 := rfl

theorem monthStart_february (year : Int) : monthStart year 2 = 31 := rfl

theorem monthStart_thirteen (year : Int) : monthStart year 13 = 365 + leapDay year := by
  unfold leapDay
  cases hleap : isLeap year <;> simp [monthStart, monthLength, List.range_succ, hleap]

/-! ### A date lies in its year and its month -/

variable {d d' : Date}

theorem Valid.dayNumber_lt (h : d.Valid) :
    d.dayNumber < yearStart d.year + monthStart d.year (d.month + 1) := by
  obtain ⟨hmonth, -, -, hday⟩ := h
  rw [dayNumber, monthStart_succ _ hmonth]
  omega

theorem Valid.dayNumber_lt_yearStart (h : d.Valid) : d.dayNumber < yearStart (d.year + 1) := by
  have hlt := h.dayNumber_lt
  have hle := monthStart_le d.year (Nat.le_add_left 1 d.month) (Nat.succ_le_succ h.2.1)
  rw [monthStart_thirteen] at hle
  rw [yearStart_succ]
  omega

theorem Valid.yearStart_le_dayNumber (h : d.Valid) : yearStart d.year ≤ d.dayNumber := by
  have hday := h.2.2.1
  rw [dayNumber]
  omega

/-- **A day has one date.** -/
theorem Valid.eq_of_dayNumber_eq (h : d.Valid) (h' : d'.Valid)
    (heq : d.dayNumber = d'.dayNumber) : d = d' := by
  -- A later year begins after all days of an earlier one, and so do the months of a year.
  have hyear : d.year = d'.year := by
    have := h.yearStart_le_dayNumber
    have := h'.yearStart_le_dayNumber
    have := h.dayNumber_lt_yearStart
    have := h'.dayNumber_lt_yearStart
    rcases lt_trichotomy d.year d'.year with hlt | heq' | hlt
    · have := yearStart_le (show d.year + 1 ≤ d'.year by omega)
      omega
    · exact heq'
    · have := yearStart_le (show d'.year + 1 ≤ d.year by omega)
      omega
  have hmonth : d.month = d'.month := by
    have hlt := h.dayNumber_lt
    have hlt' := h'.dayNumber_lt
    have hday := h.2.2.1
    have hday' := h'.2.2.1
    rw [hyear] at hlt
    simp only [dayNumber, hyear] at heq hlt hlt'
    rcases lt_trichotomy d.month d'.month with hbefore | heq' | hbefore
    · have := monthStart_le d'.year (Nat.le_add_left 1 d.month) hbefore
      omega
    · exact heq'
    · have := monthStart_le d'.year (Nat.le_add_left 1 d'.month) hbefore
      omega
  have hday : d.day = d'.day := by
    simp only [dayNumber, hyear, hmonth] at heq
    omega
  cases d
  cases d'
  simp_all

/-! ### Days of an era -/

/-- A day of an era of 400 years that begin in March: the centuries before it, the cycles of
four years since then, the years since then, and the days since then. A year has a last day
beyond the 365th if it ends a cycle, and the last cycle of a century has such a year only in
the last century. -/
structure EraDay where
  century : Int
  cycle : Int
  year : Int
  day : Int
  century_mem : 0 ≤ century ∧ century ≤ 3
  cycle_mem : 0 ≤ cycle ∧ cycle ≤ 24
  year_mem : 0 ≤ year ∧ year ≤ 3
  day_mem : 0 ≤ day ∧ day ≤ 365
  leap : day = 365 → year = 3 ∧ (cycle = 24 → century = 3)

namespace EraDay

/-- The number of the day in the era. -/
def number (e : EraDay) : Int := 36524 * e.century + 1461 * e.cycle + 365 * e.year + e.day

/-- The number of the year in the era. -/
def yearOfEra (e : EraDay) : Int := 100 * e.century + 4 * e.cycle + e.year

theorem exists_number_eq {n : Int} (h : 0 ≤ n) (hlt : n < 146097) :
    ∃ e : EraDay, e.number = n := by
  -- The last century and the last year of a cycle may be a day longer than the others.
  obtain ⟨c, hc⟩ : ∃ c, c = min (n / 36524) 3 := ⟨_, rfl⟩
  obtain ⟨q, hq⟩ : ∃ q, q = (n - 36524 * c) / 1461 := ⟨_, rfl⟩
  obtain ⟨y, hy⟩ : ∃ y, y = min ((n - 36524 * c - 1461 * q) / 365) 3 := ⟨_, rfl⟩
  refine ⟨⟨c, q, y, n - 36524 * c - 1461 * q - 365 * y, by omega, by omega, by omega, by omega,
    by omega⟩, ?_⟩
  simp only [number]
  omega

variable (e : EraDay)

/-- The year is found by leaving out the leap days before it. -/
theorem yearOfEra_eq :
    (e.number - e.number / 1460 + e.number / 36524 - e.number / 146096) / 365 = e.yearOfEra := by
  obtain ⟨c, q, y, d, hc, hq, hy, hd, hleap⟩ := e
  simp only [number, yearOfEra]
  -- One quotient at a time: the centuries first, then the cycles, then the years.
  obtain ⟨r, hr⟩ : ∃ r, r = 1461 * q + 365 * y + d := ⟨_, rfl⟩
  obtain ⟨n, hn⟩ : ∃ n, n = 36524 * c + 1461 * q + 365 * y + d := ⟨_, rfl⟩
  rw [← hn]
  have hrest : 0 ≤ r ∧ r ≤ 36523 ∨ c = 3 ∧ r = 36524 := by omega
  have hcentury : n / 36524 - n / 146096 = c := by omega
  have hcycle : n / 1460 = 25 * c + q + (24 * c + q + 365 * y + d) / 1460 := by omega
  omega

theorem dayOfYear_eq :
    e.number - (365 * e.yearOfEra + e.yearOfEra / 4 - e.yearOfEra / 100) = e.day := by
  obtain ⟨c, q, y, d, hc, hq, hy, -⟩ := e
  simp only [number, yearOfEra]
  omega

/-- The last day beyond the 365th is the leap day of the year that begins before it ends. -/
theorem isLeap_of_last (era : Int) (h : e.day = 365) :
    isLeap (e.yearOfEra + era * 400 + 1) = true := by
  obtain ⟨hyear, hcentury⟩ := e.leap h
  have hcycle := e.cycle_mem
  have hrange := e.century_mem
  rw [isLeap_iff, yearOfEra]
  omega

/-- A day in terms of the year that begins in the January after. -/
theorem number_eq_yearStart (era : Int) :
    e.number + era * 146097 - 719468 = yearStart (e.yearOfEra + era * 400 + 1) + e.day - 306 := by
  obtain ⟨c, q, y, d, hc, hq, hy, -⟩ := e
  simp only [number, yearOfEra, yearStart]
  omega

end EraDay

/-! ### The date of a day -/

/-- The date of a day of an era, by the months since the March before it. -/
theorem ofDayNumber_eq (e : EraDay) (era : Int) {m k : Nat} (hm : (m : Int) = e.day)
    (hk : (5 * m + 2) / 153 = k) :
    ofDayNumber (e.number + era * 146097 - 719468) =
      if k < 10 then ⟨e.yearOfEra + era * 400, k + 3, m - (153 * k + 2) / 5 + 1⟩
      else ⟨e.yearOfEra + era * 400 + 1, k - 9, m - (153 * k + 2) / 5 + 1⟩ := by
  have hnumber : 0 ≤ e.number ∧ e.number < 146097 := by
    have := e.century_mem
    have := e.cycle_mem
    have := e.year_mem
    have := e.day_mem
    have := e.leap
    rw [EraDay.number]
    omega
  have hera : (e.number + era * 146097 - 719468 + 719468) / 146097 = era := by omega
  have hday : (e.number + era * 146097 - 719468 + 719468) % 146097 = e.number := by omega
  have hmonths : (5 * e.day + 2) / 153 = k := by omega
  simp only [ofDayNumber, hera, hday, e.yearOfEra_eq, e.dayOfYear_eq, hmonths]
  by_cases hbefore : k < 10
  · have hint : (k : Int) < 10 := by omega
    have hlate : ¬(k : Int) + 3 ≤ 2 := by omega
    simp only [hbefore, hint, hlate, if_true, if_false, mk.injEq]
    omega
  · have hint : ¬(k : Int) < 10 := by omega
    have hearly : (k : Int) - 9 ≤ 2 := by
      have := e.day_mem
      omega
    simp only [hbefore, hint, hearly, if_true, if_false, mk.injEq, true_and]
    omega

theorem exists_eraDay (n : Int) : ∃ (e : EraDay) (era : Int),
    n = e.number + era * 146097 - 719468 := by
  have hpos : 0 ≤ (n + 719468) % 146097 := by omega
  have hlt : (n + 719468) % 146097 < 146097 := by omega
  obtain ⟨e, he⟩ := EraDay.exists_number_eq hpos hlt
  exact ⟨e, (n + 719468) / 146097, by omega⟩

/-- **The date that is found** exists and is that of the day. -/
theorem ofDayNumber_spec (n : Int) : (ofDayNumber n).Valid ∧ (ofDayNumber n).dayNumber = n := by
  obtain ⟨e, era, rfl⟩ := exists_eraDay n
  obtain ⟨hday, hlast⟩ := e.day_mem
  obtain ⟨m, hm⟩ : ∃ m : Nat, (m : Int) = e.day := ⟨_, Int.toNat_of_nonneg hday⟩
  obtain ⟨k, hk⟩ : ∃ k, (5 * m + 2) / 153 = k := ⟨_, rfl⟩
  rw [ofDayNumber_eq e era hm hk, e.number_eq_yearStart, ← hm]
  by_cases hbefore : k < 10
  · -- The rest of the year that the era counts from March.
    have hlength := monthLength_march (e.yearOfEra + era * 400) hbefore
    have hday : m - (153 * k + 2) / 5 + 1 ≤ monthLength (e.yearOfEra + era * 400) (k + 3) := by
      omega
    rw [if_pos hbefore]
    refine ⟨⟨Nat.le_add_left 1 (k + 2), Nat.add_le_add_right (Nat.le_of_lt_succ hbefore) 3,
      Nat.le_add_left 1 _, hday⟩, ?_⟩
    simp only [dayNumber, monthStart_march _ hbefore, yearStart_succ]
    omega
  · -- January and February of the year after.
    rw [if_neg hbefore]
    obtain rfl | rfl : k = 10 ∨ k = 11 := by omega
    · have hday : m - 306 + 1 ≤ 31 := by omega
      refine ⟨⟨by simp, by simp, Nat.le_add_left 1 _, hday⟩, ?_⟩
      simp only [dayNumber, Nat.reduceSub, monthStart_january]
      omega
    · have hday : m - 337 + 1 ≤ monthLength (e.yearOfEra + era * 400 + 1) 2 := by
        by_cases hend : m = 365
        · rw [monthLength, if_pos rfl, if_pos (e.isLeap_of_last era (by omega))]
          omega
        · rw [monthLength, if_pos rfl]
          split <;> omega
      refine ⟨⟨by simp, by simp, Nat.le_add_left 1 _, hday⟩, ?_⟩
      simp only [dayNumber, Nat.reduceSub, monthStart_february]
      omega

end MetricIngest.Date
