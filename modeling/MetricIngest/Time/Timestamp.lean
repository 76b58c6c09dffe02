/-
  Points in time, counted in nanoseconds from the start of 1970 in UTC.

  `seconds` and `subsecond` are the whole seconds, rounded down, and what is
  left. `millis` is the count of whole milliseconds in a 64-bit word: the
  distance to the epoch rounded toward zero, reduced to the word, and negated
  for a time before the epoch.
-/

namespace MetricIngest

/-- A point in time. -/
structure Timestamp where
  nanos : Int
deriving Repr, DecidableEq, Inhabited

namespace Timestamp

/-- The start of 1970. -/
def epoch : Timestamp := ⟨0⟩

/-- The nanoseconds of a second. -/
def perSecond : Nat := 1000000000

/-- The nanoseconds of a millisecond. -/
def perMilli : Nat := 1000000

/-- The time that is `seconds` and `nanos` after the epoch. -/
def ofSeconds (seconds : Int) (nanos : Nat := 0) : Timestamp :=
  ⟨seconds * perSecond + nanos⟩

/-- The whole seconds since the epoch, rounded down. -/
def seconds (t : Timestamp) : Int := t.nanos / perSecond

/-- The nanoseconds after the whole second. -/
def subsecond (t : Timestamp) : Nat := (t.nanos % perSecond).toNat

theorem ofSeconds_seconds (t : Timestamp) : ofSeconds t.seconds t.subsecond = t := by
  cases t with
  | mk n =>
    simp only [ofSeconds, seconds, subsecond, perSecond, mk.injEq]
    omega

/-- A whole number reduced to a signed word of 64 bits. -/
def word (n : Int) : Int := n.bmod UInt64.size

/-- The whole milliseconds since the epoch as a signed word. -/
def millis (t : Timestamp) : Int :=
  if 0 ≤ t.nanos then word (t.nanos / perMilli)
  else word (-word (-t.nanos / perMilli))

end Timestamp

end MetricIngest
