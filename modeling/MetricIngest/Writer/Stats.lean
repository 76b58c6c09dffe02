/-
  What a writer counts.

  Each record that was taken from the buffer is in the end committed, refused by
  the sink or lost with its batch.
-/
import MetricIngest.Sink.Outcome

namespace MetricIngest

/-- The counters of a writer. -/
structure WriterStats where
  recordsPopped : Nat := 0
  popErrors : Nat := 0
  batchesFlushed : Nat := 0
  recordsCommitted : Nat := 0
  recordsFailed : Nat := 0
  recordsLost : Nat := 0
  submitErrors : Nat := 0
deriving Repr, DecidableEq, Inhabited

namespace WriterStats

/-- The records whose fate is known. -/
def settled (s : WriterStats) : Nat := s.recordsCommitted + s.recordsFailed + s.recordsLost

/-- Count a record that was taken. -/
def popped (s : WriterStats) : WriterStats := { s with recordsPopped := s.recordsPopped + 1 }

/-- Count a pop that failed. -/
def popFailed (s : WriterStats) : WriterStats := { s with popErrors := s.popErrors + 1 }

/-- Count records that were given up before they were submitted. -/
def lost (s : WriterStats) (size : Nat) : WriterStats :=
  { s with recordsLost := s.recordsLost + size }

/-- Count what became of a batch of some size. -/
def submitted (s : WriterStats) (size : Nat) : Except SinkError SubmitOutcome → WriterStats
  | .ok o => { s with
      batchesFlushed := s.batchesFlushed + 1
      recordsCommitted := s.recordsCommitted + o.succeeded
      recordsFailed := s.recordsFailed + o.failed }
  | .error _ => { s with
      submitErrors := s.submitErrors + 1
      recordsLost := s.recordsLost + size }

end WriterStats

end MetricIngest
