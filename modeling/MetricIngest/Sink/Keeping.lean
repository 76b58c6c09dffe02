/-
  Calls of a sink that keeps batches, one after the other.

  There may be a source of failures in front of it. Batches are submitted, the sink is
  closed, and somebody makes its next submissions fail. What the sink says of each batch
  is kept.
-/
import Mathlib.Algebra.GroupWithZero.Nat
import MetricIngest.Sink.Faulty

namespace MetricIngest

variable {α : Type}

/-- A batch that was submitted, and what the sink said. -/
structure Submission (α : Type) where
  batch : List α
  result : Except SinkError SubmitOutcome

/-- The number of records that were accepted. -/
def Submission.succeeded (s : Submission α) : Nat :=
  match s.result with
  | .ok o => o.succeeded
  | .error _ => 0

/-- A sink that keeps batches, with or without a source of failures in front of it. -/
inductive Keeper (α : Type) where
  | plain (s : MemorySink α)
  | faulty (s : FaultySink α)

/-- A call of a sink that keeps batches. -/
inductive KeeperCall (α : Type) where
  | submit (batch : List α)
  | close
  /-- The next submissions are made to fail. -/
  | failNext (count : Nat)

namespace Keeper

/-- A sink with nothing stored. If failures are drawn, it is from a seed. -/
def start (refuses : α → Bool) : Option (UInt64 × SinkRates) → Keeper α
  | none => .plain (.ofPredicate refuses)
  | some (seed, rates) => .faulty (.ofSeed (.ofPredicate refuses) seed rates)

/-- The sink that keeps the batches. -/
def memory : Keeper α → MemorySink α
  | .plain s => s
  | .faulty s => s.inner

/-- What the source of failures counts. -/
def counts? : Keeper α → Option SinkCounts
  | .plain _ => none
  | .faulty s => some s.counts

/-- The number of records that the source of failures counts as accepted. -/
def accepted? (k : Keeper α) : Option Nat := k.counts?.map (·.recordsAccepted)

/-- Submit a batch. -/
def submit (k : Keeper α) (batch : List α) : Except SinkError SubmitOutcome × Keeper α :=
  match k with
  | .plain s => let (result, s) := s.submit batch; (result, .plain s)
  | .faulty s => let (result, s) := s.submit batch; (result, .faulty s)

/-- Close the sink. -/
def close : Keeper α → Keeper α
  | .plain s => .plain s.close
  | .faulty s => .faulty s.close

/-- Make the next submissions to the sink that keeps the batches fail. -/
def failNext (k : Keeper α) (count : Nat) : Keeper α :=
  match k with
  | .plain s => .plain (s.failNext count)
  | .faulty s => .faulty { s with inner := s.inner.failNext count }

/-- A single call, and the batch that it submitted. -/
def call (k : Keeper α) : KeeperCall α → List (Submission α) × Keeper α
  | .submit batch => let (result, k) := k.submit batch; ([⟨batch, result⟩], k)
  | .close => ([], k.close)
  | .failNext count => ([], k.failNext count)

/-- Calls one after the other, and the batches that they submitted. -/
def run (k : Keeper α) : List (KeeperCall α) → List (Submission α) × Keeper α
  | [] => ([], k)
  | next :: calls =>
    let (submitted, k) := k.call next
    let (more, k) := k.run calls
    (submitted ++ more, k)

/-- The number of records of some batches that were accepted. -/
def succeeded (past : List (Submission α)) : Nat := (past.map Submission.succeeded).sum

/-- **How a submission may end**, by what the sink says and by the batches that are stored
before and after: a part of the batch without records that are refused is stored behind the
others, and all of the batch is answered for, or the submission fails and nothing is stored. -/
inductive Keeps (refuses : α → Bool) (batch : List α) (before : List (List α)) :
    Except SinkError SubmitOutcome → List (List α) → Prop where
  | stored {o part} (sublist : part.Sublist batch) (accepted : ∀ a ∈ part, refuses a = false)
    (succeeded : o.succeeded = part.length) (total : o.succeeded + o.failed = batch.length) :
    Keeps refuses batch before (.ok o) (before ++ [part])
  | failed {e} : Keeps refuses batch before (.error e) before

end Keeper

end MetricIngest
