/-
  Trials of the writer with injected failures.

  A trial fills a buffer with numbered records, runs the writer on it with a
  buffer and a sink that fail now and then, and checks that the books balance:
  what was pushed was taken or is still there, what was taken is settled, the
  sink holds what was committed and nothing twice, and both sides counted the
  same losses and failed pops. Everything that is left to chance comes from the
  seed.
-/
import MetricIngest.Writer.Session

namespace MetricIngest

/-- What a trial is made of: the range of the number of records, the settings of
the writer, the rates of failures, and whether the writer is cancelled instead of
the buffer closed. -/
structure TrialPlan where
  records : Nat × Nat := (50, 500)
  writer : Settings.Batching :=
    { concurrency := 3, bulkMax := 16, flushInterval := 5, pipeFactor := 2 }
  buffer : BufferRates := .usual
  sink : SinkRates := .usual
  cancelEarly : Bool := false
deriving Repr, DecidableEq, Inhabited

namespace TrialPlan

/-- Nothing fails. -/
def baseline : TrialPlan := { buffer := .none, sink := .none }

/-- Every fifth pop fails, and submissions and records often. -/
def chaos : TrialPlan := { buffer := ⟨Binary64.ofDecimal false 1 2 (-1), .zero⟩, sink := .high }

end TrialPlan

/-! ### What can be found wrong -/

/-- A way in which the books of a trial do not balance. -/
inductive TrialFault where
  | unaccounted (popped left pushed : Nat)
  | unsettled (stats : WriterStats)
  | storedDiffers (stored committed : Nat)
  | lostDiffers (writer sink : Nat)
  | popErrorsDiffer (writer buffer : Nat)
  | storedTwice (name : String)
deriving Repr, DecidableEq

/-- The wording of what was found wrong. -/
def TrialFault.message : TrialFault → String
  | .unaccounted popped left pushed =>
    "popped " ++ toString popped ++ " + buffered " ++ toString left ++ " != pushed "
      ++ toString pushed
  | .unsettled stats =>
    "settled " ++ toString stats.settled ++ " (committed " ++ toString stats.recordsCommitted
      ++ " + failed " ++ toString stats.recordsFailed ++ " + lost " ++ toString stats.recordsLost
      ++ ") != popped " ++ toString stats.recordsPopped
  | .storedDiffers stored committed =>
    "sink holds " ++ toString stored ++ " records but " ++ toString committed
      ++ " were committed"
  | .lostDiffers writer sink =>
    "writer counted " ++ toString writer ++ " lost, sink dropped " ++ toString sink
  | .popErrorsDiffer writer buffer =>
    "writer counted " ++ toString writer ++ " pop errors, buffer injected " ++ toString buffer
  | .storedTwice name => "record " ++ name ++ " committed twice"

/-- The books of a trial. -/
structure TrialResult where
  seed : UInt64
  pushed : Nat
  left : Nat
  stats : WriterStats
  buffer : BufferCounts
  sink : SinkCounts
  stored : List String
deriving Repr, DecidableEq

namespace TrialResult

/-- The first name that stands in a list for the second time. -/
def repeated? : List String → Option String
  | [] => none
  | names => go [] names
where
  /-- The first name that is among those seen or stands for the second time. -/
  go (seen : List String) : List String → Option String
    | [] => none
    | name :: rest => if name ∈ seen then some name else go (name :: seen) rest

/-- The first thing that is wrong with the books. -/
def fault? (r : TrialResult) : Option TrialFault :=
  if r.stats.recordsPopped + r.left ≠ r.pushed then
    some (.unaccounted r.stats.recordsPopped r.left r.pushed)
  else if r.stats.settled ≠ r.stats.recordsPopped then some (.unsettled r.stats)
  else if r.stored.length ≠ r.stats.recordsCommitted then
    some (.storedDiffers r.stored.length r.stats.recordsCommitted)
  else if r.stats.recordsLost ≠ r.sink.recordsLost then
    some (.lostDiffers r.stats.recordsLost r.sink.recordsLost)
  else if r.stats.popErrors ≠ r.buffer.popFailures then
    some (.popErrorsDiffer r.stats.popErrors r.buffer.popFailures)
  else (repeated? r.stored).map .storedTwice

end TrialResult

/-! ### Running a trial -/

namespace Trial

/-- The number of records of a trial, and the generator after it was drawn. -/
def size (plan : TrialPlan) (seed : UInt64) : Nat × Random.Generator :=
  let (low, high) := plan.records
  (Random.Generator.ofSeed seed).nextBetween low (max high (low + 1))

/-- The milliseconds after which the writer is cancelled, from a draw of
microseconds. -/
def cancelDelay (g : Random.Generator) : Nat := ((g.nextBetween 0 2000).1 + 999) / 1000

/-- A buffer that holds numbered records. -/
def filledBuffer (count : Nat) : Buffer Record :=
  (List.range count).foldl (fun b i =>
    match b.push (Record.numbered i) with
    | .ok b => b
    | .error _ => b) .empty

/-- The buffer of a trial, which is closed unless the writer is cancelled. -/
def buffer (plan : TrialPlan) (seed : UInt64) : Buffer Record :=
  let filled := filledBuffer (size plan seed).1
  if plan.cancelEarly then filled else filled.close

/-- What makes the pops of a trial fail. -/
def faults (plan : TrialPlan) (seed : UInt64) : BufferFaults := .ofSeed (seed + 1) plan.buffer

/-- The sink of a trial. -/
def sink (plan : TrialPlan) (seed : UInt64) : FaultySink Record :=
  .ofSeed (.ofPredicate fun _ => false) (seed + 2) plan.sink

/-- The books of a trial, from the writer and what both sides have counted. -/
def books (plan : TrialPlan) (seed : UInt64) (writer : Writer Record) (faults : BufferFaults)
    (sink : FaultySink Record) : TrialResult where
  seed := seed
  pushed := (size plan seed).1
  left := writer.buffer.records.length
  stats := writer.final?.getD {}
  buffer := faults.counts
  sink := sink.counts
  stored := sink.inner.records.map (·.name)

/-- The writer at the end of a trial that is run in the fixed order. -/
def session (plan : TrialPlan) (seed : UInt64) : WriterSession :=
  let started := WriterSession.start plan.writer (buffer plan seed) (faults plan seed)
    (.faulty (sink plan seed)) default 0 false
  if plan.cancelEarly then (started.advance (cancelDelay (size plan seed).2)).shutdown
  else started

/-- The books of a trial that is run in the fixed order. Its sink is of one kind all the
time. -/
def run (plan : TrialPlan) (seed : UInt64) : TrialResult :=
  let s := session plan seed
  books plan seed s.writer s.faults <| match s.sink with
    | .faulty f => f
    | _ => sink plan seed

end Trial

/-! ### Reporting -/

/-- What a report says about a trial. -/
structure TrialReport where
  seed : Nat
  pushed : Nat
  committed : Nat
  refused : Nat
  lost : Nat
  popErrors : Nat
  passed : Bool
  message : Option String
deriving Repr, DecidableEq, Inhabited

namespace TrialReport

/-- The report of a trial's books. -/
def ofResult (r : TrialResult) : TrialReport where
  seed := r.seed.toNat
  pushed := r.pushed
  committed := r.stats.recordsCommitted
  refused := r.stats.recordsFailed
  lost := r.stats.recordsLost
  popErrors := r.stats.popErrors
  passed := r.fault?.isNone
  message := r.fault?.map (·.message)

/-- The sum of a number over reports, in a 64-bit word. -/
def total (number : TrialReport → Nat) (reports : List TrialReport) : String :=
  toString (reports.foldr (fun r rest => number r + rest) 0 % UInt64.size)

/-- The line of a trial that failed. -/
def failureLine (r : TrialReport) : String :=
  "\n  Seed " ++ toString r.seed ++ ": " ++ r.message.getD "unknown error"

/-- The summary of several trials: how many passed, the sums of their numbers and
a line for each that failed. -/
def summary (reports : List TrialReport) : String :=
  let failures := reports.filter fun r => !r.passed
  let head := "Writer DST Batch: " ++ toString (reports.length - failures.length) ++ "/"
    ++ toString reports.length ++ " passed (" ++ toString failures.length ++ " failed)\n"
    ++ "Pushed: " ++ total (·.pushed) reports ++ ", Committed: " ++ total (·.committed) reports
    ++ ", Refused: " ++ total (·.refused) reports ++ ", Lost: " ++ total (·.lost) reports
    ++ ", Pop errors: " ++ total (·.popErrors) reports
  if failures.isEmpty then head
  else head ++ "\n\nFailed seeds:" ++ String.join (failures.map failureLine)

end TrialReport

end MetricIngest
