/-
  Batches on their way through a sink that fails now and then.

  A batch passes the draws in front and then the sink behind, and may fail at both. Of each
  batch that was submitted it is kept what was left of it after the draws, and what the sink
  said in the end.
-/
import MetricIngest.Sink.Keeping
import MetricIngest.Writer.Stats

namespace MetricIngest

variable {α : Type}

/-- A batch that was submitted to a sink with a source of failures in front of it: what was
left of it for the sink behind, unless the submission was drawn to fail, and what was said. -/
structure Passage (α : Type) where
  batch : List α
  left? : Option (List α)
  result : Except SinkError SubmitOutcome

namespace Passage

/-- The passage as it looks from the front. -/
def submission (p : Passage α) : Submission α := ⟨p.batch, p.result⟩

/-- The number of records that were submitted. -/
def size (p : Passage α) : Nat := p.batch.length

/-- The number of records that were lost to whom submitted them. -/
def lost : Passage α → Nat
  | ⟨batch, _, .error _⟩ => batch.length
  | ⟨_, _, .ok _⟩ => 0

/-- The number of records in a submission that was drawn to fail. -/
def drawn : Passage α → Nat
  | ⟨batch, none, _⟩ => batch.length
  | ⟨_, some _, _⟩ => 0

/-- The number of records in a submission that failed at the sink behind. -/
def lostBehind : Passage α → Nat
  | ⟨batch, some _, .error _⟩ => batch.length
  | _ => 0

/-- The number of records that came to the sink behind, where the submission failed. -/
def stranded : Passage α → Nat
  | ⟨_, some left, .error _⟩ => left.length
  | _ => 0

/-- The number of records that the sink behind refused. -/
def turnedDown : Passage α → Nat
  | ⟨_, some left, .ok o⟩ => left.length - o.succeeded
  | _ => 0

/-- The number of some records of all of some batches. -/
def total (count : Passage α → Nat) (past : List (Passage α)) : Nat := (past.map count).sum

@[simp]
theorem total_nil (count : Passage α → Nat) : total count [] = 0 := rfl

@[simp]
theorem total_append (count : Passage α → Nat) (past more : List (Passage α)) :
    total count (past ++ more) = total count past + total count more := by
  simp [total]

@[simp]
theorem total_singleton (count : Passage α → Nat) (p : Passage α) : total count [p] = count p := by
  simp [total]

/-- What a writer counts that submitted these batches. -/
def writerStats (past : List (Passage α)) : WriterStats :=
  past.foldl (fun stats p => stats.submitted p.size p.result) {}

end Passage

namespace FaultySink

/-- A single call, and the batch that it submitted. -/
def call (s : FaultySink α) : KeeperCall α → List (Passage α) × FaultySink α
  | .submit batch =>
    let (result, after) := s.submit batch
    ([⟨batch, (s.roll batch).1, result⟩], after)
  | .close => ([], s.close)
  | .failNext count => ([], { s with inner := s.inner.failNext count })

/-- Calls one after the other, and the batches that they submitted. -/
def run (s : FaultySink α) : List (KeeperCall α) → List (Passage α) × FaultySink α
  | [] => ([], s)
  | next :: calls =>
    let (past, s) := s.call next
    let (more, s) := s.run calls
    (past ++ more, s)

end FaultySink

end MetricIngest
