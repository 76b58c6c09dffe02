/-
  A stream whose workers share one lock on the queue of lines.

  A worker that wants a line takes the lock first and keeps it while it waits. It lets go of
  it as soon as it has a line or learns that none will come, so it decodes and sends without
  the lock. `LockedStream.step` is the taking of the lock or a step of the stream that the
  lock permits. A receiver leaves at most once, and a stream is cancelled at most once.

  `LockedStream.remaining` is a number of steps that is enough for all that is left to do.
-/
import Mathlib.Algebra.GroupWithZero.Nat
import MetricIngest.Stream.History

namespace MetricIngest

namespace LineStream

/-- Whether a worker is before a line. -/
def isIdle (s : LineStream) (i : Nat) : Bool :=
  match s.workers[i]? with
  | some .idle => true
  | _ => false

/-- How many can still send: each worker that is not gone has a sender for either channel. A
channel is closed when there are none. -/
def senders (s : LineStream) : Nat :=
  (s.workers.filter fun
    | .gone => false
    | _ => true).length

end LineStream

/-- A stream with the worker that has the lock, if one has it. -/
structure LockedStream where
  stream : LineStream
  holder : Option Nat

/-- A choice of what is done next. -/
inductive LockedStep where
  /-- A worker takes the lock. -/
  | lock (worker : Nat)
  /-- A step of the stream. -/
  | stream (next : StreamStep)

/-- The step of the stream. -/
def LockedStep.stream? : LockedStep → Option StreamStep
  | .lock _ => none
  | .stream next => some next

namespace LockedStream

/-- A stream that starts on an input; nobody has the lock. -/
def start (decoder : Decoder) (settings : Settings.Decoding) (pieces : List (List UInt8))
    (fails cancelled : Bool) : LockedStream where
  stream := .start decoder settings pieces fails cancelled
  holder := none

/-- Whether a step of the stream is permitted: a worker takes a line only with the lock. -/
def permits (s : LockedStream) : StreamStep → Bool
  | .work i _ => !s.stream.isIdle i || s.holder == some i
  | .dropRecords => s.stream.records.isOpen
  | .dropErrors => s.stream.errors.isOpen
  | .cancel => !s.stream.cancelled
  | _ => true

/-- Who has the lock after a step: nobody if a worker got a line, or learned that there is none. -/
def holderAfter (s : LockedStream) : StreamStep → Option Nat
  | .work i _ => if s.stream.isIdle i then none else s.holder
  | _ => s.holder

/-- A single step, if it is possible. -/
def step (s : LockedStream) : LockedStep → Option LockedStream
  | .lock i =>
    if s.holder = none ∧ s.stream.isIdle i then some { s with holder := some i } else none
  | .stream next =>
    if s.permits next then
      (s.stream.step next).map fun stream => { stream, holder := s.holderAfter next }
    else none

/-- A run of steps, if each is possible. -/
def run (s : LockedStream) (steps : List LockedStep) : Option LockedStream :=
  steps.foldlM step s

end LockedStream

/-! ### What is left to do

The weight of a place is the number of steps that are enough for what is there. A result in a
channel is received. A worker that has one sends it before; to leave, a worker takes the lock
first. A line in the queue needs a worker that takes the lock, decodes it and sends what it
gives. A line that was not read is cut off and put into the queue. -/

/-- What a worker has to do. -/
def DecodeWorker.remaining : DecodeWorker → Nat
  | .idle => 2
  | .holding _ => 4
  | .gone => 0

/-- What there is to be done about the lines that were not read, and by the reader. -/
def LineStream.toRead (s : LineStream) : Nat :=
  6 * s.unread.length + match s.reader with
    | .reading _ => s.pieces.length + 1
    | .sending _ => s.pieces.length
    | .gone => 0

/-- A number of steps that is enough. -/
def LockedStream.remaining (s : LockedStream) : Nat :=
  s.stream.toRead + 4 * s.stream.lines.length + (s.stream.workers.map DecodeWorker.remaining).sum
    + s.stream.records.queue.length + s.stream.errors.queue.length
    + s.stream.records.isOpen.toNat + s.stream.errors.isOpen.toNat
    + (!s.stream.cancelled).toNat + s.holder.isNone.toNat

end MetricIngest
