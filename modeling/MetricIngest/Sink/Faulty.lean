/-
  A sink that fails now and then.

  For each submission a generator decides whether it fails as a whole; if not, it
  decides for each record whether it is refused. The records that are left are
  submitted to the sink behind, whose own failures are passed on.
-/
import MetricIngest.Random.ChaCha
import MetricIngest.Sink.Memory

namespace MetricIngest

variable {α : Type}

/-- How likely submissions fail and records are refused. -/
structure SinkRates where
  submitFail : Binary64
  recordReject : Binary64
deriving Repr, DecidableEq, Inhabited

namespace SinkRates

/-- Nothing fails. -/
def none : SinkRates := ⟨.zero, .zero⟩

/-- Five submissions and one record of a hundred fail. -/
def usual : SinkRates :=
  ⟨Binary64.ofDecimal false 1 5 (-2), Binary64.ofDecimal false 1 1 (-2)⟩

/-- Every fourth submission and every tenth record fail. -/
def high : SinkRates :=
  ⟨Binary64.ofDecimal false 2 25 (-2), Binary64.ofDecimal false 1 1 (-1)⟩

end SinkRates

/-- What was tried and what became of it. -/
structure SinkCounts where
  submitAttempts : Nat := 0
  submitFailures : Nat := 0
  recordsLost : Nat := 0
  recordsRejected : Nat := 0
  recordsAccepted : Nat := 0
deriving Repr, DecidableEq, Inhabited

/-- A sink with a source of failures in front of it. -/
structure FaultySink (α : Type) where
  inner : MemorySink α
  generator : Random.Generator
  rates : SinkRates
  counts : SinkCounts

namespace FaultySink

/-- Failures drawn from a seed in front of a sink. -/
def ofSeed (inner : MemorySink α) (seed : UInt64) (rates : SinkRates) : FaultySink α :=
  ⟨inner, .ofSeed seed, rates, {}⟩

/-- Draw for each record whether it is refused; the records that are not. -/
def keep (rate : Binary64) : Random.Generator → List α → List α × Random.Generator
  | g, [] => ([], g)
  | g, a :: rest =>
    let (refused, g) := g.decide rate
    let (kept, g) := keep rate g rest
    (if refused then kept else a :: kept, g)

/-- Draw what becomes of a batch: nothing of it is left if the submission fails, and else
the records that are not refused. -/
def roll (s : FaultySink α) (batch : List α) : Option (List α) × FaultySink α :=
  let (fails, generator) := s.generator.decide s.rates.submitFail
  let counts := { s.counts with submitAttempts := s.counts.submitAttempts + 1 }
  if fails then
    (none, { s with
      generator
      counts := { counts with
        submitFailures := counts.submitFailures + 1
        recordsLost := counts.recordsLost + batch.length } })
  else
    let (kept, generator) := keep s.rates.recordReject generator batch
    (some kept, { s with
      generator
      counts := { counts with
        recordsRejected := counts.recordsRejected + (batch.length - kept.length) } })

/-- What a submission says that was drawn to fail. -/
def submitFault : SinkError := .transport "simulated submit failure"

/-- Pass what is left of a batch on to the sink behind. The records that were refused before
are refused for good. -/
def pass (s : FaultySink α) (rejected : Nat) (kept : List α) :
    Except SinkError SubmitOutcome × FaultySink α :=
  match s.inner.submit kept with
  | (.error e, inner) => (.error e, { s with inner })
  | (.ok o, inner) =>
    (.ok { o with failed := o.failed + rejected }, { s with
      inner
      counts := { s.counts with recordsAccepted := s.counts.recordsAccepted + o.succeeded } })

/-- Submit a batch. -/
def submit (s : FaultySink α) (batch : List α) :
    Except SinkError SubmitOutcome × FaultySink α :=
  match s.roll batch with
  | (none, s) => (.error submitFault, s)
  | (some kept, s) => s.pass (batch.length - kept.length) kept

/-- Close the sink behind. -/
def close (s : FaultySink α) : FaultySink α := { s with inner := s.inner.close }

end FaultySink

end MetricIngest
