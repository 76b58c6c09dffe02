/-
  Records of lines have dated indices.

  The clock and the texts of lines show only times from the epoch on that are less than twice
  ten digits of seconds after it (`Timestamp.Near`). So many milliseconds fit a word, and the
  day is in a year of four digits (`Date.IsDateOf.dotted`). What decodes is thus kept under
  the day of its own time, and never under the bare prefix of its index.
-/
import MetricIngest.Proofs.Line.Outcome
import MetricIngest.Proofs.Line.TimeSteps
import MetricIngest.Proofs.Record.IndexName
import MetricIngest.Time.ManualClock

namespace MetricIngest

/-! ### Numbers with a fixed number of digits -/

/-- A number that is written with a fixed number of digits. -/
structure Numeral.Figures (width n : Nat) (cs : List Char) : Prop where
  length_eq : cs.length = width
  digits : ∀ c ∈ cs, Text.IsDigit c
  value_eq : digitsValue cs = n

theorem Date.figures_padded {width n : Nat} (hwidth : 0 < width) (h : n < 10 ^ width) :
    Numeral.Figures width n (padded width n) where
  length_eq := by
    have hlength := (Nat.length_toDigits_le_iff (by decide) hwidth).mpr h
    rw [padded, List.length_append, List.length_replicate, Nat.sub_add_cancel hlength]
  digits := by
    intro c hc
    rcases List.mem_append.mp hc with hc | hc
    · exact Numeral.digits_zeros _ c hc
    · exact Text.numeral_isDigit_iff.mp (Numeral.isDigit_of_mem_toDigits c hc)
  value_eq := by rw [padded, Numeral.digitsValue_zeros_append, Numeral.digitsValue_toDigits]

/-! ### The times of lines -/

namespace Timestamp

variable {t : Timestamp}

/-- A time from the epoch on, less than twice ten digits of seconds after it. -/
structure Near (t : Timestamp) : Prop where
  nonneg : 0 ≤ t.nanos
  lt : t.nanos < 2 * 10 ^ 10 * perSecond

theorem near_ofSeconds {whole nanos : Nat} (hwhole : whole < 10 ^ 10)
    (hnanos : nanos ≤ FractionMode.wordMax) : (ofSeconds whole nanos).Near := by
  constructor
  all_goals
    simp only [ofSeconds, perSecond, FractionMode.wordMax] at hnanos ⊢
    omega

theorem near_now (clock : ManualClock) : clock.now.Near := by
  have hlt := clock.nanos.toNat_lt
  constructor
  all_goals
    simp only [ManualClock.now, perSecond]
    omega

/-- **The time of a text** is near if the current one is. -/
theorem Near.timestamp {now : Timestamp} (h : now.Near) (mode : FractionMode) (cs : List Char) :
    (mode.timestamp cs now).Near := by
  rw [FractionMode.timestamp]
  rcases FractionMode.digits_cases cs with hnone | ⟨hne, hdigits, hten⟩ | ⟨first, rest, hfraction⟩
  · rw [FractionMode.timestamp?_of_not_digits hnone]
    exact h
  · rw [FractionMode.timestamp?_of_seconds hne hdigits hten]
    exact near_ofSeconds (FractionMode.digitsValue_lt_ten hten hdigits) (Nat.zero_le _)
  · have hfirst := FractionMode.digitsValue_lt_ten hfraction.ten.le hfraction.isDigit_of_mem_first
    rw [FractionMode.timestamp?_of_fractional hfraction]
    obtain ⟨nanos, hle, -, hoffset⟩ | ⟨-, hoffset, -⟩ :=
      FractionMode.readFraction_cases mode hfraction.isDigit_of_mem_rest
    · rw [hoffset]
      exact near_ofSeconds hfirst hle
    · rw [hoffset]
      exact h

/-- So few milliseconds fit a word. -/
theorem Near.millisFit (h : t.Near) : t.MillisFit := by
  obtain ⟨hnonneg, hlt⟩ := h
  rw [MillisFit, wholeMillis_of_nonneg hnonneg, Int64.toInt_minValue, Int64.toInt_maxValue]
  simp only [perMilli, perSecond] at hlt ⊢
  omega

theorem Near.millis_eq (h : t.Near) : t.millis = t.nanos / perMilli := by
  rw [millis_eq_word, h.millisFit.word_eq, wholeMillis_of_nonneg h.nonneg]

theorem Near.shownDay_eq (h : t.Near) : t.shownDay = t.day := by
  have hnever : ¬t.RoundsToMidnight := fun hnext => absurd hnext.1 (not_lt.mpr h.nonneg)
  rw [shownDay, if_neg (not_not.mpr h.millisFit), if_neg hnever]

end Timestamp

/-! ### The index of a day -/

namespace Date

variable {d : Date} {t : Timestamp}

theorem IsDateOf.year_mem (h : d.IsDateOf t.day) (hnear : t.Near) :
    1970 ≤ d.year ∧ d.year ≤ 9999 := by
  obtain ⟨⟨hvalid, hnumber⟩, -⟩ := h
  obtain ⟨hnonneg, hlt⟩ := hnear
  have hday := t.day_eq
  simp only [Timestamp.perDay, Timestamp.perSecond, secondsPerDay] at hday hlt
  constructor
  · -- All days of a year before 1970 are before the epoch.
    by_contra hbefore
    have hstart : yearStart (d.year + 1) ≤ yearStart 1970 := yearStart_le (by omega)
    have hepoch : yearStart 1970 = 0 := by decide
    have := hvalid.dayNumber_lt_yearStart
    omega
  · by_contra hafter
    have hstart : yearStart 10000 ≤ yearStart d.year := yearStart_le (by omega)
    have hlast : yearStart 10000 = 2932897 := by decide
    have := hvalid.yearStart_le_dayNumber
    omega

theorem Valid.day_le (h : d.Valid) : d.day ≤ 31 := by
  refine h.2.2.2.trans ?_
  unfold monthLength
  split_ifs <;> decide

/-- **A date of these times** is written with four digits for its year and two for its month and its
day. -/
theorem IsDateOf.dotted_eq (h : d.IsDateOf t.day) (hnear : t.Near) :
    ∃ year month day, Numeral.Figures 4 d.year.toNat year ∧ Numeral.Figures 2 d.month month ∧
      Numeral.Figures 2 d.day day ∧ d.dotted = year ++ '.' :: month ++ '.' :: day := by
  obtain ⟨hfirst, hlast⟩ := h.year_mem hnear
  have hmonth := h.1.1.2.1
  have hday := h.1.1.day_le
  have hyear : yearText d.year = padded 4 d.year.toNat := by
    rw [yearText, if_neg (by omega), if_neg (by omega)]
    congr 1
    omega
  exact ⟨_, _, _, figures_padded (by decide) (by omega), figures_padded (by decide) (by omega),
    figures_padded (by decide) (by omega), by rw [dotted, hyear]⟩

end Date

/-! ### The index of what decodes -/

namespace Decoder

variable {d : Decoder} {cs : List Char} {record : Record} {now : Timestamp}

theorem near_of_decode (hnow : now.Near) (h : d.decode now cs = some (.ok record)) :
    record.timestamp.Near := by
  obtain ⟨line, -, hrecord⟩ := Option.map_eq_some_iff.mp h
  cases line with
  | dotted path valueText time =>
    rw [(record_of_dotted hrecord).2]
    exact hnow.timestamp d.mode time
  | tagged name fields valueText =>
    rw [(record_of_tagged hrecord).2.2]
    exact hnow

/-- **What decodes has a dated index**, whatever the line, the rules and the way to read fractions,
and whatever a clock of 64 bits shows. Its time is not before the epoch, and its milliseconds are
all the whole ones since then. Its index is the prefix, a dash and the date of the UTC day of its
time, with four digits for the year and two for the month and the day, and never the bare
prefix. -/
theorem dated_index_of_decode {clock : ManualClock}
    (h : d.decode clock.now cs = some (.ok record)) (lead : String) :
    0 ≤ record.timestamp.nanos ∧
    record.timestamp.millis = record.timestamp.nanos / Timestamp.perMilli ∧
    (∃ date : Date, date.IsDateOf record.timestamp.day ∧ 1970 ≤ date.year ∧
      ∃ year month day, Numeral.Figures 4 date.year.toNat year ∧
        Numeral.Figures 2 date.month month ∧ Numeral.Figures 2 date.day day ∧
        record.indexName lead =
          lead ++ "-" ++ String.ofList (year ++ '.' :: month ++ '.' :: day)) ∧
    record.indexName lead ≠ lead := by
  have hnear := near_of_decode (Timestamp.near_now clock) h
  have hdate := Date.isDateOf_ofDayNumber record.timestamp.day
  obtain ⟨hfirst, hlast⟩ := hdate.year_mem hnear
  obtain ⟨year, month, day, hyear, hmonth, hday, hdotted⟩ := hdate.dotted_eq hnear
  have hindex : record.indexName lead =
      lead ++ "-" ++ String.ofList (year ++ '.' :: month ++ '.' :: day) := by
    have hshown : Date.firstYear ≤ (Date.ofDayNumber record.timestamp.day).year ∧
        (Date.ofDayNumber record.timestamp.day).year ≤ Date.lastYear := by
      simp only [Date.firstYear, Date.lastYear]
      omega
    rw [Record.indexName, Timestamp.dayOfMillis_millis, hnear.shownDay_eq, if_pos hshown, hdotted]
  refine ⟨hnear.nonneg, hnear.millis_eq,
    ⟨_, hdate, hfirst, year, month, day, hyear, hmonth, hday, hindex⟩, ?_⟩
  -- The index is longer than its prefix.
  rw [hindex]
  intro hbare
  have hlength := congrArg String.length hbare
  simp only [String.length_append] at hlength
  have hdash : "-".length = 1 := rfl
  omega

/-- The last second that ten digits say and the greatest fraction of the compatible way, read when
the clock has come to its end. -/
theorem dated_index_of_decode_atLimits :
    let d : Decoder := ⟨⟨[]⟩, .compat⟩
    let clock : ManualClock := ⟨0xFFFFFFFFFFFFFFFF⟩
    (∃ record, d.decode clock.now "m 1 99999999990922337".toList = some (.ok record) ∧
      record.timestamp.millis = 19223369999000 ∧ record.indexName "metrics" ≠ "metrics") ∧
    ∃ record, d.decode clock.now "m 1 99999999990922338".toList = some (.ok record) ∧
      record.timestamp.millis = 18446744073709 ∧ record.indexName "metrics" ≠ "metrics" := by
  intro d clock
  have hfits : ∃ record, d.decode clock.now "m 1 99999999990922337".toList = some (.ok record) ∧
      record.timestamp.nanos = 19223369999000000000 :=
    ⟨⟨"m", ⟨19223369999000000000⟩, .ofNat 1, .empty, by decide⟩, by decide +kernel, rfl⟩
  have hexceeds : ∃ record, d.decode clock.now "m 1 99999999990922338".toList = some (.ok record) ∧
      record.timestamp.nanos = 18446744073709551615 :=
    ⟨⟨"m", clock.now, .ofNat 1, .empty, by decide⟩, by decide +kernel, by decide⟩
  obtain ⟨record, hdecode, hnanos⟩ := hfits
  obtain ⟨last, hdecodeLast, hnanosLast⟩ := hexceeds
  obtain ⟨-, hmillis, -, hindex⟩ := dated_index_of_decode hdecode "metrics"
  obtain ⟨-, hmillisLast, -, hindexLast⟩ := dated_index_of_decode hdecodeLast "metrics"
  rw [hnanos] at hmillis
  rw [hnanosLast] at hmillisLast
  exact ⟨⟨record, hdecode, hmillis.trans (by decide), hindex⟩,
    ⟨last, hdecodeLast, hmillisLast.trans (by decide), hindexLast⟩⟩

end Decoder

end MetricIngest
