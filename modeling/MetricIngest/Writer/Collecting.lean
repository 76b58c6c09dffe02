/-
  Calls of an accumulator, one after the other.

  A record is added or whatever there is is taken, each at some time. What a call
  returns is kept. The interval begins anew when a batch is returned and whenever
  somebody takes what there is.
-/
import MetricIngest.Writer.Batch

namespace MetricIngest

variable {α : Type}

/-- A call of an accumulator, at some time. -/
inductive AccumulatorCall (α : Type) where
  | add (a : α) (now : Nat)
  | take (now : Nat)
deriving Repr, DecidableEq

namespace AccumulatorCall

/-- The time of a call. -/
def time : AccumulatorCall α → Nat
  | .add _ now => now
  | .take now => now

/-- The record that a call adds. -/
def added : AccumulatorCall α → List α
  | .add a _ => [a]
  | .take _ => []

end AccumulatorCall

/-- A call, and the batch that it returns. -/
structure AccumulatorEvent (α : Type) where
  call : AccumulatorCall α
  batch : Option (Batch α)
deriving Repr, DecidableEq

/-- The time at which a call makes the interval begin anew. -/
def AccumulatorEvent.restart? (e : AccumulatorEvent α) : Option Nat :=
  match e.call, e.batch with
  | .add _ _, none => none
  | .add _ now, some _ => some now
  | .take now, _ => some now

namespace Accumulator

/-- The batches that were returned, in their order. -/
def batches (events : List (AccumulatorEvent α)) : List (Batch α) :=
  events.filterMap AccumulatorEvent.batch

/-- The time at which the interval last began, if it first did so at some start. -/
def lastRestart (start : Nat) (events : List (AccumulatorEvent α)) : Nat :=
  (events.filterMap AccumulatorEvent.restart?).getLastD start

/-- A single call, and what it returns. -/
def call (acc : Accumulator α) : AccumulatorCall α → Option (Batch α) × Accumulator α
  | .add a now => acc.add a now
  | .take now => acc.take now

/-- Calls one after the other, and what they return. -/
def run (acc : Accumulator α) :
    List (AccumulatorCall α) → List (AccumulatorEvent α) × Accumulator α
  | [] => ([], acc)
  | next :: calls =>
    let (batch, acc) := acc.call next
    let (events, acc) := acc.run calls
    (⟨next, batch⟩ :: events, acc)

end Accumulator

end MetricIngest
