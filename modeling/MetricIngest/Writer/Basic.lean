/-
  The writer: moving records from the buffer to the sink in batches.

  Workers take records from the buffer and put them into a bounded pipe. A loop
  takes them from the pipe, collects them into batches and hands each batch to a
  task of its own, of which there are at most as many as workers. When the writer
  is cancelled or the buffer is closed and empty the workers leave; the loop then
  empties the pipe, hands over what is left as a last batch, waits for the tasks
  and closes the sink. A record for which there is no pipe, and a batch for which
  there are no slots any more, would be given up and counted as lost.

  `Writer.step` is a single step of one of these parties, of those who use the
  buffer, or of time. Which step is taken next, whether a pop fails and with which
  error, and what becomes of a submission is left open, so the runs of steps are all
  the orders in which things can happen. A batch is submitted once, whatever becomes
  of it. A buffer of another kind shows itself to the writer by the records that it
  gives and the errors of its pops; a push right before a pop and a pop that fails
  stand for these, so runs over such a buffer are among the runs of steps.
-/
import MetricIngest.Buffer.Queue
import MetricIngest.Runs
import MetricIngest.Settings.Basic
import MetricIngest.Writer.Batch
import MetricIngest.Writer.Stats

namespace MetricIngest

variable {α : Type}

/-! ### Parties -/

/-- Where a worker is: before a pop, in a pop that waits, with a record in hand
for which the pipe may have no room, or gone. -/
inductive Worker (α : Type) where
  | ready
  | waiting
  | holding (a : α)
  | gone
deriving Repr, DecidableEq, Inhabited

/-- Where the loop is: between two records, with a batch for which there may be
no task, past the last batch, or at its end with the final counts. -/
inductive Phase (α : Type) where
  | collecting
  | dispatching (b : Batch α) (last : Bool)
  | joining
  | finished (stats : WriterStats)
deriving Repr, DecidableEq, Inhabited

/-- The task of a batch, and since when the batch is submitted. -/
structure Flush (α : Type) where
  batch : Batch α
  since : Option Nat
deriving Repr, DecidableEq, Inhabited

/-- The slots for tasks: how many there are, and whether none is given out any
more. -/
structure Slots where
  count : Nat
  closed : Bool
deriving Repr, DecidableEq, Inhabited

/-- The state of a writer and of the buffer that it empties. Workers are known by
their place in the list. -/
structure Writer (α : Type) where
  settings : Settings.Batching
  buffer : Buffer α
  workers : List (Worker α)
  pipe : List α
  accumulator : Accumulator α
  phase : Phase α
  slots : Slots
  flushes : List (Flush α)
  stats : WriterStats
  cancelled : Bool
  now : Nat
deriving Repr, DecidableEq, Inhabited

/-- What happens at a writer and around it. -/
inductive WriterEvent (α : Type) where
  /-- The buffer accepts a record. -/
  | pushed (a : α)
  /-- A worker takes a record from the buffer. -/
  | popped (a : α)
  /-- The loop takes a record from the pipe. -/
  | received (a : α)
  /-- The loop makes a batch of what it has collected. -/
  | collected (b : Batch α)
  /-- A batch is submitted to the sink. -/
  | submitted (b : Batch α)
  /-- The submission of a batch is over. -/
  | returned (b : Batch α) (result : Except SinkError SubmitOutcome)
  /-- Records are given up without a submission. -/
  | discarded (records : List α)
  /-- The sink is closed. -/
  | closed

/-- A choice of what is done next. -/
inductive WriterStep (α : Type) where
  /-- A worker goes on; if it begins a pop, the pop may fail. -/
  | work (worker : Nat) (fault : Option BufferError)
  /-- The loop takes a record from the pipe, or learns that none will come. -/
  | receive
  /-- The loop's deadline has come. -/
  | tick
  /-- The loop hands its batch to a task. -/
  | dispatch
  /-- The loop closes the sink and ends. -/
  | finish
  /-- The task of a batch submits it. -/
  | submit (id : Nat)
  /-- The submission of a batch is over. -/
  | settle (id : Nat) (result : Except SinkError SubmitOutcome)
  /-- Somebody pushes a record into the buffer. -/
  | push (a : α)
  /-- Somebody closes the buffer. -/
  | closeBuffer
  /-- Somebody cancels the writer. -/
  | cancel
  /-- Time passes. -/
  | elapse (ms : Nat)

namespace Writer

/-- A writer that starts on a buffer. -/
def start (settings : Settings.Batching) (buffer : Buffer α) (cancelled : Bool) : Writer α where
  settings := settings
  buffer := buffer
  workers := List.replicate settings.workers .ready
  pipe := []
  accumulator := .start (max 1 settings.bulkMax) settings.flushInterval 0
  phase := .collecting
  slots := ⟨settings.workers, false⟩
  flushes := []
  stats := {}
  cancelled := cancelled
  now := 0

/-- What a step gives: the state after it and what happened. -/
abbrev Outcome (α : Type) := Option (Writer α × List (WriterEvent α))

/-! ### Workers -/

/-- The state with a worker in another place. -/
def setWorker (w : Writer α) (i : Nat) (place : Worker α) : Writer α :=
  { w with workers := w.workers.set i place }

/-- Whether every worker is gone, so that the pipe has no end to fill it. -/
def allGone (w : Writer α) : Bool := w.workers.all fun
  | .gone => true
  | _ => false

/-- Whether the loop has not ended, so that somebody holds the pipe's other end. -/
def hasPipe (w : Writer α) : Bool := match w.phase with
  | .finished _ => false
  | _ => true

/-- The state after a worker has looked at the buffer. -/
def afterPop (w : Writer α) (i : Nat) : Pop α × Buffer α → Writer α × List (WriterEvent α)
  | (.record a, buffer) =>
    ({ w with buffer, stats := w.stats.popped }.setWorker i (.holding a), [.popped a])
  | (.closed, buffer) => ({ w with buffer }.setWorker i .gone, [])
  | (.waiting, buffer) => ({ w with buffer }.setWorker i .waiting, [])

/-- A worker goes on. Cancelling is noticed before a pop and while it waits; a
worker whose pop says that the buffer is closed leaves, and tries again after any
other error. A record in hand is always put into the pipe. Without a pipe the
worker gives it up and leaves. -/
def work (w : Writer α) (i : Nat) (fault : Option BufferError) : Outcome α :=
  match w.workers[i]? with
  | some .ready =>
    if w.cancelled then some (w.setWorker i .gone, [])
    else
      match fault with
      | some .closed => some (w.setWorker i .gone, [])
      | some (.unavailable _) => some ({ w with stats := w.stats.popFailed }, [])
      | none => some (w.afterPop i (w.buffer.beginPop i))
  | some .waiting =>
    if w.cancelled then
      some ({ w with buffer := w.buffer.cancelPop i }.setWorker i .gone, [])
    else if w.buffer.notifier.isWoken i then some (w.afterPop i (w.buffer.resumePop i))
    else none
  | some (.holding a) =>
    if ¬ w.hasPipe then
      some ({ w with stats := w.stats.lost 1 }.setWorker i .gone, [.discarded [a]])
    else if w.pipe.length < w.settings.pipeCapacity then
      some ({ w with pipe := w.pipe ++ [a] }.setWorker i .ready, [])
    else none
  | _ => none

/-! ### The loop -/

/-- The state after the loop's records may have become a batch. -/
def afterTake (w : Writer α) (last : Bool) (phase : Phase α) :
    Option (Batch α) × Accumulator α → Writer α × List (WriterEvent α)
  | (some b, accumulator) =>
    ({ w with accumulator, phase := .dispatching b last }, [.collected b])
  | (none, accumulator) => ({ w with accumulator, phase }, [])

/-- The loop takes a record, or learns that the pipe is empty for good. -/
def receive (w : Writer α) : Outcome α :=
  match w.phase, w.pipe with
  | .collecting, a :: pipe =>
    let (w, events) := { w with pipe }.afterTake false .collecting (w.accumulator.add a w.now)
    some (w, .received a :: events)
  | .collecting, [] =>
    if w.allGone then some (w.afterTake true .joining (w.accumulator.take w.now)) else none
  | _, _ => none

/-- The loop's deadline has come. -/
def tick (w : Writer α) : Outcome α :=
  match w.phase with
  | .collecting =>
    if w.accumulator.deadline ≤ w.now then
      some (w.afterTake false .collecting (w.accumulator.take w.now))
    else none
  | _ => none

/-- The loop hands its batch to a task, of which there may not be more than slots.
When no slot is given out any more the batch is given up. -/
def dispatch (w : Writer α) : Outcome α :=
  match w.phase with
  | .dispatching b last =>
    let phase := if last then .joining else .collecting
    if w.slots.closed then
      some ({ w with phase, stats := w.stats.lost b.size }, [.discarded b.records])
    else if w.flushes.length < w.slots.count then
      some ({ w with phase, flushes := w.flushes ++ [⟨b, none⟩] }, [])
    else none
  | _ => none

/-- The loop closes the sink after the last task and ends. -/
def finish (w : Writer α) : Outcome α :=
  match w.phase with
  | .joining =>
    if w.allGone ∧ w.flushes.isEmpty then
      some ({ w with phase := .finished w.stats }, [.closed])
    else none
  | _ => none

/-! ### Tasks -/

/-- The task of a batch. -/
def flush? (w : Writer α) (id : Nat) : Option (Flush α) :=
  w.flushes.find? fun f => f.batch.id = id

/-- The task of a batch submits it. -/
def submit (w : Writer α) (id : Nat) : Outcome α :=
  match w.flush? id with
  | some ⟨b, none⟩ =>
    some ({ w with
      flushes := w.flushes.map fun f => if f.batch.id = id then ⟨f.batch, some w.now⟩ else f },
      [.submitted b])
  | _ => none

/-- The submission of a batch is over: it is counted and its task ends. -/
def settle (w : Writer α) (id : Nat) (result : Except SinkError SubmitOutcome) : Outcome α :=
  match w.flush? id with
  | some ⟨b, some _⟩ =>
    some ({ w with
      flushes := w.flushes.filter fun f => f.batch.id ≠ id
      stats := w.stats.submitted b.size result }, [.returned b result])
  | _ => none

/-! ### Steps and runs -/

/-- A single step, if it is possible. -/
def step (w : Writer α) : WriterStep α → Outcome α
  | .work i fault => w.work i fault
  | .receive => w.receive
  | .tick => w.tick
  | .dispatch => w.dispatch
  | .finish => w.finish
  | .submit id => w.submit id
  | .settle id result => w.settle id result
  | .push a =>
    match w.buffer.push a with
    | .ok buffer => some ({ w with buffer }, [.pushed a])
    | .error _ => some (w, [])
  | .closeBuffer => some ({ w with buffer := w.buffer.close }, [])
  | .cancel => some ({ w with cancelled := true }, [])
  | .elapse ms => some ({ w with now := w.now + ms }, [])

/-- A run of steps: the state after it and all that happened, if each step is
possible. -/
def run (w : Writer α) : List (WriterStep α) → Outcome α :=
  Steps.run (fun events => events) step w

/-- The final counts, once the writer has ended. -/
def final? (w : Writer α) : Option WriterStats :=
  match w.phase with
  | .finished stats => some stats
  | _ => none

end Writer

end MetricIngest
