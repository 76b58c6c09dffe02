/-
  The day of a point in time, and the index that a date names.

  A day is counted in UTC by rounding the time down, also before the epoch. The day that a time
  is shown under is found from its count of milliseconds instead: that count is rounded toward
  the epoch, so before the epoch it may be that of the midnight after the time, and it is
  reduced to a word.
-/
import MetricIngest.Time.Calendar

namespace MetricIngest

namespace Timestamp

/-- The nanoseconds of a day. -/
def perDay : Nat := Date.secondsPerDay * perSecond

/-- The number of the UTC day that holds the time. -/
def day (t : Timestamp) : Int := t.seconds / Date.secondsPerDay

/-- The whole milliseconds of the distance to the epoch, negative before it. -/
def wholeMillis (t : Timestamp) : Int := t.nanos.tdiv perMilli

/-- Whether this count is a signed word. -/
def MillisFit (t : Timestamp) : Prop :=
  Int64.minValue.toInt ≤ t.wholeMillis ∧ t.wholeMillis ≤ Int64.maxValue.toInt

/-- Whether the time is before the epoch and inside the last millisecond of its day. The
whole milliseconds from it to the epoch then begin at the next midnight. -/
def RoundsToMidnight (t : Timestamp) : Prop :=
  t.nanos < 0 ∧ (perDay : Int) - perMilli < t.nanos % perDay

instance (t : Timestamp) : Decidable t.MillisFit := inferInstanceAs (Decidable (_ ∧ _))

instance (t : Timestamp) : Decidable t.RoundsToMidnight := inferInstanceAs (Decidable (_ ∧ _))

/-- The number of the day that the time is shown under. -/
def shownDay (t : Timestamp) : Int :=
  if ¬t.MillisFit then Date.dayOfMillis (word t.wholeMillis)
  else if t.RoundsToMidnight then t.day + 1
  else t.day

end Timestamp

namespace Date

/-- Whether this is the date with a number, and there is no other. -/
def IsDateOf (d : Date) (n : Int) : Prop :=
  (d.Valid ∧ d.dayNumber = n) ∧ ∀ d' : Date, d'.Valid → d'.dayNumber = n → d' = d

/-- Whether the date is shown. -/
def IsShown (d : Date) : Prop := firstYear ≤ d.year ∧ d.year ≤ lastYear

instance (d : Date) : Decidable d.IsShown := inferInstanceAs (Decidable (_ ∧ _))

/-- The index that a date names: a prefix, a dash and the date, or the bare prefix for a date
that is not shown. -/
def indexName (d : Date) (lead : String) : String :=
  if d.IsShown then lead ++ "-" ++ String.ofList d.dotted else lead

end Date

end MetricIngest
