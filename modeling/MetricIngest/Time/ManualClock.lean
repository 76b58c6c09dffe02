/-
  A clock that stands still until it is moved.

  It counts nanoseconds since the epoch in a 64-bit word. Setting it to a
  second past the end of the word leaves it at the end; advancing it wraps.
-/
import MetricIngest.Time.Timestamp

namespace MetricIngest

/-- A clock that only moves when told to. -/
structure ManualClock where
  nanos : UInt64
deriving Repr, DecidableEq, Inhabited

namespace ManualClock

/-- The clock at a second since the epoch, or at the last time it can show. -/
def ofSeconds (seconds : Nat) : ManualClock :=
  ⟨UInt64.ofNat (min (seconds * Timestamp.perSecond) 0xFFFFFFFFFFFFFFFF)⟩

/-- The clock some nanoseconds later, modulo the word. -/
def advance (c : ManualClock) (nanos : Nat) : ManualClock :=
  ⟨c.nanos + UInt64.ofNat nanos⟩

/-- The time that the clock shows. -/
def now (c : ManualClock) : Timestamp := ⟨(c.nanos.toNat : Int)⟩

end ManualClock

end MetricIngest
