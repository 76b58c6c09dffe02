/-
  When a writer makes its batches.

  There are three occasions: a record completes a batch, the deadline comes, or the loop
  learns that no record will come. Each leaves a mark with its time; a deadline leaves one
  even if nothing has been collected, as the interval begins anew. Marks are in due time if
  batches that a record completes are full, the interval has passed at each deadline since
  the mark before it, and the batch for which no more records come is the last mark.
-/
import MetricIngest.Writer.History

namespace MetricIngest

variable {α : Type}

/-- An occasion on which a batch is made, and its time. -/
inductive Mark (α : Type) where
  /-- A record completes a batch. -/
  | filled (b : Batch α) (time : Nat)
  /-- The deadline comes, and whatever there is becomes a batch. -/
  | due (batch : Option (Batch α)) (time : Nat)
  /-- No record will come, and what is left becomes a batch while the workers are in some
  places. -/
  | last (b : Batch α) (workers : List (Worker α)) (time : Nat)
deriving Repr, DecidableEq

/-- The batch that is made on an occasion. -/
def Mark.batch : Mark α → Option (Batch α)
  | .filled b _ => some b
  | .due batch _ => batch
  | .last b _ _ => some b

/-- **Marks in due time** under some settings, if the interval began at some time. -/
inductive InDueTime (settings : Settings.Batching) : Nat → List (Mark α) → Prop where
  | nil {begun} : InDueTime settings begun []
  | filled {begun b time marks} (order : begun ≤ time) (size : b.size = max 1 settings.bulkMax)
    (rest : InDueTime settings time marks) : InDueTime settings begun (.filled b time :: marks)
  | due {begun batch time marks} (passed : begun + settings.flushInterval ≤ time)
    (rest : InDueTime settings time marks) : InDueTime settings begun (.due batch time :: marks)
  | last {begun b workers time} (order : begun ≤ time)
    (gone : workers = List.replicate settings.workers .gone) :
    InDueTime settings begun [.last b workers time]

namespace Writer

/-- The mark that a step leaves, after which some batches have been made. -/
def mark? (w : Writer α) : WriterStep α → List (Batch α) → Option (Mark α)
  | .receive, [b] => some (if w.pipe.isEmpty then .last b w.workers w.now else .filled b w.now)
  | .tick, batches => some (.due batches.head? w.now)
  | _, _ => none

/-- The marks that steps leave, as far as they are possible. -/
def marks (w : Writer α) : List (WriterStep α) → List (Mark α)
  | [] => []
  | next :: steps =>
    match w.step next with
    | none => []
    | some (after, events) =>
      (w.mark? next (History.collected events)).toList ++ after.marks steps

end Writer

end MetricIngest
