/-
  Calls of a buffer, one after the other.

  Those who share a buffer call it at any moment, and every call is a single step. A pop
  has a number from its first look on until it has its answer or is abandoned. While it
  waits it may look again at any time, which tells it nothing new before it is woken, and
  it may be abandoned, woken or not. What happens in a call is kept.
-/
import MetricIngest.Buffer.Queue
import MetricIngest.Runs

namespace MetricIngest

variable {α : Type}

/-- A call of a buffer. -/
inductive BufferCall (α : Type) where
  | push (a : α)
  /-- A pop looks for the first time. -/
  | start (id : Nat)
  /-- A pop that waits looks again. -/
  | poll (id : Nat)
  /-- A pop that waits is abandoned. -/
  | cancel (id : Nat)
  | drain
  | close
deriving Repr, DecidableEq

/-- What happens in a call. -/
inductive BufferEvent (α : Type) where
  /-- A record is offered. -/
  | pushed (a : α) (result : Except BufferError Unit)
  /-- A pop looks. -/
  | looked (id : Nat) (pop : Pop α)
  /-- A pop is abandoned. -/
  | cancelled (id : Nat)
  /-- All records are taken. -/
  | drained (records : List α)
  /-- The buffer is closed. -/
  | closed

namespace BufferEvent

/-- The record that a call brought into the buffer. -/
def accepted : BufferEvent α → List α
  | .pushed a (.ok ()) => [a]
  | _ => []

/-- The records that a call took out of the buffer. -/
def taken : BufferEvent α → List α
  | .looked _ (.record a) => [a]
  | .drained records => records
  | _ => []

end BufferEvent

namespace Buffer

/-- The records that the buffer accepted, the oldest first. -/
def accepted (events : List (BufferEvent α)) : List α := events.flatMap BufferEvent.accepted

/-- The records that pops and drains got, in the order they were taken. -/
def taken (events : List (BufferEvent α)) : List α := events.flatMap BufferEvent.taken

@[simp]
theorem accepted_append (p q : List (BufferEvent α)) :
    accepted (p ++ q) = accepted p ++ accepted q := List.flatMap_append

@[simp]
theorem accepted_singleton (e : BufferEvent α) : accepted [e] = e.accepted :=
  List.flatMap_singleton ..

@[simp]
theorem taken_append (p q : List (BufferEvent α)) : taken (p ++ q) = taken p ++ taken q :=
  List.flatMap_append

@[simp]
theorem taken_singleton (e : BufferEvent α) : taken [e] = e.taken := List.flatMap_singleton ..

/-- A single call: the buffer after it and what happens, if the call is possible. A pop
begins under a number that no waiting pop has, and only one that waits looks again or is
abandoned. -/
def step (b : Buffer α) : BufferCall α → Option (Buffer α × BufferEvent α)
  | .push a =>
    match b.push a with
    | .error e => some (b, .pushed a (.error e))
    | .ok after => some (after, .pushed a (.ok ()))
  | .start id =>
    if b.notifier.Absent id then
      let (pop, after) := b.beginPop id
      some (after, .looked id pop)
    else none
  | .poll id =>
    if b.notifier.isWoken id then
      let (pop, after) := b.resumePop id
      some (after, .looked id pop)
    else if id ∈ b.notifier.waiting then some (b, .looked id .waiting)
    else none
  | .cancel id =>
    if b.notifier.Absent id then none else some (b.cancelPop id, .cancelled id)
  | .drain =>
    let (records, after) := b.drain
    some (after, .drained records)
  | .close => some (b.close, .closed)

/-- Calls one after the other: the buffer after them and what happens, if each call is
possible. -/
def run (b : Buffer α) : List (BufferCall α) → Option (Buffer α × List (BufferEvent α)) :=
  Steps.run (fun event => [event]) step b

end Buffer

end MetricIngest
