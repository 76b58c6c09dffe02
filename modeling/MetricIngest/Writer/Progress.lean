/-
  How far a writer is from its end.

  A writer is shut down when it is cancelled or its buffer is closed. From then on there
  is an end to what it has to do, and `Writer.remaining` is a number of steps that is
  enough for it. Two kinds of step lead nowhere: a pop that fails, and a deadline that
  comes while nothing is collected. All other steps of the writer's parties and of its
  sink are efforts.
-/
import Mathlib.Algebra.GroupWithZero.Nat
import MetricIngest.Writer.History

namespace MetricIngest

variable {α : Type}

/-- Who takes a step: one of the writer's own parties, the sink by an answer, or somebody
outside. -/
inductive Party where
  | worker
  | loop
  | task
  | sink
  | outside
deriving Repr, DecidableEq

/-- Who takes a step. -/
def WriterStep.party : WriterStep α → Party
  | .work .. => .worker
  | .receive | .tick | .dispatch | .finish => .loop
  | .submit _ => .task
  | .settle .. => .sink
  | .push _ | .closeBuffer | .cancel | .elapse _ => .outside

/-! ### What is left to do

The weight of a place is the number of steps that are enough for what is there: a batch
that is submitted is answered for; before that it is submitted, and before that it is
handed to a task; a record may become a batch of its own, and before that it is received,
put into the pipe and taken from the buffer. -/

/-- What a worker has to do: it leaves, after it got rid of its record. -/
def Worker.remaining : Worker α → Nat
  | .ready | .waiting => 1
  | .holding _ => 7
  | .gone => 0

/-- What the loop has to do: it learns that no record will come, hands over its batch, and
ends. -/
def Phase.remaining : Phase α → Nat
  | .collecting => 2
  | .dispatching _ last => if last then 4 else 5
  | .joining => 1
  | .finished _ => 0

/-- What is to be done about a batch that has a task. -/
def Flush.remaining (f : Flush α) : Nat := if f.since.isSome then 1 else 2

namespace Writer

/-- Whether nobody will bring records that the writer takes: it is cancelled, or its buffer
is closed. -/
def ShutDown (w : Writer α) : Prop := w.cancelled = true ∨ w.buffer.closed = true

instance (w : Writer α) : Decidable w.ShutDown := inferInstanceAs (Decidable (_ ∨ _))

/-- A number of efforts that is enough for a writer that is shut down. A cancelled writer
leaves the records in its buffer alone. -/
def remaining (w : Writer α) : Nat :=
  (if w.cancelled then 0 else 7 * w.buffer.records.length)
    + (w.workers.map Worker.remaining).sum + 5 * w.pipe.length
    + 4 * w.accumulator.records.length + w.phase.remaining
    + (w.flushes.map Flush.remaining).sum

/-- Whether a step, if it is possible, leads nowhere: it is a pop that fails, or the deadline
comes while nothing is collected. -/
def isFutile (w : Writer α) : WriterStep α → Bool
  | .work i (some (.unavailable _)) =>
    match w.workers[i]? with
    | some .ready => !w.cancelled
    | _ => false
  | .tick => w.accumulator.records.isEmpty
  | _ => false

/-- Whether a step, if it is possible, is an effort. -/
def isEffort (w : Writer α) (next : WriterStep α) : Bool :=
  next.party ≠ .outside && !w.isFutile next

/-- The number of efforts in a run. -/
def efforts (w : Writer α) : List (WriterStep α) → Nat
  | [] => 0
  | next :: steps =>
    match w.step next with
    | none => 0
    | some (w', _) => (w.isEffort next).toNat + w'.efforts steps

end Writer

end MetricIngest
