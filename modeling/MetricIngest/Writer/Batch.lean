/-
  Collecting records into batches.

  Records pile up until there are enough for a batch or somebody asks for what
  there is. Batches are numbered from zero. The flush interval runs from the last
  time that records were taken, even if there were none. Times are in
  milliseconds. A clock can tell times up to some horizon; a deadline that lies
  beyond it is none.
-/

namespace MetricIngest

variable {α : Type}

/-- Records that are submitted together. -/
structure Batch (α : Type) where
  id : Nat
  records : List α
deriving Repr, DecidableEq, Inhabited

/-- The number of records of a batch. -/
def Batch.size (b : Batch α) : Nat := b.records.length

/-- The records of the batch that is being collected. -/
structure Accumulator (α : Type) where
  bulkMax : Nat
  interval : Nat
  records : List α
  lastFlush : Nat
  nextId : Nat
deriving Repr, DecidableEq, Inhabited

namespace Accumulator

/-- Nothing collected yet at some time. -/
def start (bulkMax interval now : Nat) : Accumulator α := ⟨bulkMax, interval, [], now, 0⟩

/-- Take what there is as a batch. The interval begins anew in any case. -/
def take (acc : Accumulator α) (now : Nat) : Option (Batch α) × Accumulator α :=
  if acc.records.isEmpty then (none, { acc with lastFlush := now })
  else
    (some ⟨acc.nextId, acc.records⟩,
      { acc with records := [], lastFlush := now, nextId := acc.nextId + 1 })

/-- Add a record; when there are enough, take them as a batch. -/
def add (acc : Accumulator α) (a : α) (now : Nat) : Option (Batch α) × Accumulator α :=
  let fuller := { acc with records := acc.records ++ [a] }
  if acc.bulkMax ≤ fuller.records.length then fuller.take now else (none, fuller)

/-- The time at which a batch is due whatever its size. -/
def deadline (acc : Accumulator α) : Nat := acc.lastFlush + acc.interval

/-- The deadline as a clock tells it, if it can. -/
def deadline? (acc : Accumulator α) (horizon : Nat) : Option Nat :=
  if acc.deadline ≤ horizon then some acc.deadline else none

end Accumulator

end MetricIngest
