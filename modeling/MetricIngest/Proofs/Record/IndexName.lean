/-
  The index of a record is that of a day.

  `indexName_eq_ofShownDay` says which day this is, for every time. It is the UTC day of the
  time, but for two kinds of times: one inside the last millisecond of a day before the epoch
  is counted to the next day, and one whose milliseconds are more than a word holds has the day
  of what is left of them. Only times outside the years that are shown are of the second kind.
-/
import MetricIngest.Proofs.Time.Calendar
import MetricIngest.Record.Document
import MetricIngest.Time.Day

namespace MetricIngest

namespace Timestamp

variable (t : Timestamp)

/-! ### The count of milliseconds -/

theorem wholeMillis_of_nonneg {t : Timestamp} (h : 0 ≤ t.nanos) :
    t.wholeMillis = t.nanos / perMilli :=
  Int.tdiv_eq_ediv_of_nonneg h

theorem wholeMillis_of_neg {t : Timestamp} (h : t.nanos < 0) :
    t.wholeMillis = -(-t.nanos / perMilli) := by
  have hpos : 0 ≤ -t.nanos := by omega
  rw [← Int.tdiv_eq_ediv_of_nonneg hpos, Int.neg_tdiv, neg_neg, wholeMillis]

/-- The count in a word is the whole count, reduced once: negation and reduction commute. -/
theorem millis_eq_word : t.millis = word t.wholeMillis := by
  unfold millis
  split
  · rename_i h
    rw [wholeMillis_of_nonneg h]
  · rename_i h
    rw [wholeMillis_of_neg (by omega), word, word, word, Int.bmod_neg_bmod]

theorem MillisFit.word_eq {t : Timestamp} (h : t.MillisFit) :
    word t.wholeMillis = t.wholeMillis := by
  obtain ⟨hlo, hhi⟩ := h
  have hmin : -((UInt64.size : Int) / 2) = Int64.minValue.toInt := by decide
  have hmax : ((UInt64.size : Int) + 1) / 2 = Int64.maxValue.toInt + 1 := by decide
  exact Int.bmod_eq_of_le (by omega) (by omega)

/-! ### The day of the count -/

theorem day_eq : t.day = t.nanos / perDay := by
  simp only [day, seconds, perDay, perSecond, Date.secondsPerDay]
  omega

theorem dayOfMillis_wholeMillis :
    Date.dayOfMillis t.wholeMillis = if t.RoundsToMidnight then t.day + 1 else t.day := by
  have hmidnight : t.RoundsToMidnight ↔ t.nanos < 0 ∧ 86399999000000 < t.nanos % 86400000000000 :=
    Iff.rfl
  have hday : t.day = t.nanos / 86400000000000 := t.day_eq
  rcases lt_or_ge t.nanos 0 with h | h
  · -- The count is rounded up, which reaches the next midnight from the last millisecond.
    have hmillis := wholeMillis_of_neg h
    simp only [Date.dayOfMillis, perMilli, Date.secondsPerDay] at hmillis ⊢
    by_cases hnext : t.RoundsToMidnight
    · have := hmidnight.mp hnext
      rw [if_pos hnext]
      omega
    · have := mt hmidnight.mpr hnext
      rw [if_neg hnext]
      omega
  · have hmillis := wholeMillis_of_nonneg h
    have hnever : ¬t.RoundsToMidnight := fun hnext => absurd hnext.1 (not_lt.mpr h)
    simp only [Date.dayOfMillis, perMilli, Date.secondsPerDay] at hmillis ⊢
    rw [if_neg hnever]
    omega

theorem dayOfMillis_millis : Date.dayOfMillis t.millis = t.shownDay := by
  rw [millis_eq_word, shownDay]
  by_cases hfit : t.MillisFit
  · rw [if_neg (not_not.mpr hfit), hfit.word_eq, dayOfMillis_wholeMillis]
  · rw [if_pos hfit]

end Timestamp

/-! ### The date of the day -/

namespace Date

variable {d : Date}

theorem isDateOf_ofDayNumber (n : Int) : (ofDayNumber n).IsDateOf n := by
  have hspec := ofDayNumber_spec n
  refine ⟨hspec, fun d' hvalid hnumber => ?_⟩
  exact hvalid.eq_of_dayNumber_eq hspec.1 (hnumber.trans hspec.2.symm)

/-- The milliseconds of the days that are shown are few. -/
theorem IsDateOf.millisFit {t : Timestamp} (h : d.IsDateOf t.day) (hshown : d.IsShown) :
    t.MillisFit := by
  obtain ⟨⟨hvalid, hnumber⟩, -⟩ := h
  have hfirst : yearStart firstYear ≤ t.day :=
    hnumber ▸ (yearStart_le hshown.1).trans hvalid.yearStart_le_dayNumber
  have hlast : t.day < yearStart (lastYear + 1) :=
    hnumber ▸ hvalid.dayNumber_lt_yearStart.trans_le (yearStart_le (by have := hshown.2; omega))
  rw [Timestamp.day_eq] at hfirst hlast
  simp only [yearStart, firstYear, lastYear, Timestamp.perDay, Timestamp.perSecond,
    secondsPerDay] at hfirst hlast
  rw [Timestamp.MillisFit, Int64.toInt_minValue, Int64.toInt_maxValue]
  rcases lt_or_ge t.nanos 0 with h | h
  · rw [Timestamp.wholeMillis_of_neg h, Timestamp.perMilli]
    omega
  · rw [Timestamp.wholeMillis_of_nonneg h, Timestamp.perMilli]
    omega

end Date

namespace Record

/-- **The index of a record** is named after one date, that of the day the record's time is
shown under. A time whose own date is among those that are shown has a count of milliseconds
that fits a word, so it is shown under its own day or, right before a midnight before the
epoch, under the next. -/
theorem indexName_eq_ofShownDay (r : Record) (lead : String) : ∃ own shown : Date,
    own.IsDateOf r.timestamp.day ∧ shown.IsDateOf r.timestamp.shownDay ∧
      r.indexName lead = shown.indexName lead ∧ (own.IsShown → r.timestamp.MillisFit) := by
  refine ⟨_, _, Date.isDateOf_ofDayNumber _, Date.isDateOf_ofDayNumber _, ?_,
    (Date.isDateOf_ofDayNumber _).millisFit⟩
  rw [indexName, Timestamp.dayOfMillis_millis]
  rfl

/-- A record of the last nanosecond before the epoch. -/
def lastNanosecond : Record :=
  { (default : Record) with timestamp := .ofSeconds (-1) 999999999 }

theorem indexName_lastNanosecond :
    (⟨1969, 12, 31⟩ : Date).IsDateOf lastNanosecond.timestamp.day ∧
      lastNanosecond.indexName "metrics" = "metrics-1970.01.01" ∧
      (⟨1969, 12, 31⟩ : Date).indexName "metrics" = "metrics-1969.12.31" := by
  have hdate : Date.ofDayNumber lastNanosecond.timestamp.day = ⟨1969, 12, 31⟩ := by decide +kernel
  exact ⟨hdate ▸ Date.isDateOf_ofDayNumber _, by decide +kernel, by decide +kernel⟩

/-- A time after all the dates that are shown, whose milliseconds come round to 1970. -/
example : ¬(Date.ofDayNumber (Timestamp.ofSeconds 18446744073709552).day).IsShown ∧
    (⟨"m", .ofSeconds 18446744073709552, .zero, .empty, by decide⟩ : Record).indexName "metrics" =
      "metrics-1970.01.01" := by
  decide +kernel

end Record

end MetricIngest
