/-
  Calls of a buffer that fails now and then, one after the other.

  A push and the beginning of a pop go by way of the source of failures. All other calls reach
  the buffer behind at once: a pop that waits looks again or is abandoned there, and those who
  have the buffer behind in hand drain or close it, or push and pop past the failures. What
  happens in a call is kept.
-/
import MetricIngest.Buffer.Calls
import MetricIngest.Buffer.Faulty

namespace MetricIngest

variable {α : Type}

/-- A call of a buffer with a source of failures in front of it. -/
inductive FaultyCall (α : Type) where
  | push (a : α)
  /-- A pop looks for the first time. -/
  | start (id : Nat)
  /-- A call of the buffer behind. -/
  | behind (call : BufferCall α)
deriving Repr, DecidableEq

/-- What happens in a call. -/
inductive FaultyEvent (α : Type) where
  /-- A record is offered. -/
  | pushed (a : α) (result : Except BufferError Unit)
  /-- A pop looks for the first time, if it does not fail. -/
  | began (id : Nat) (result : Except BufferError (Pop α))
  /-- Something happens at the buffer behind. -/
  | behind (event : BufferEvent α)

namespace FaultyCall

/-- The call without the source of failures. -/
def plain : FaultyCall α → BufferCall α
  | .push a => .push a
  | .start id => .start id
  | .behind call => call

/-- Whether a push is tried by way of the source of failures. -/
def isPush : FaultyCall α → Bool
  | .push _ => true
  | _ => false

/-- Whether a pop is begun by way of the source of failures. -/
def isPop : FaultyCall α → Bool
  | .start _ => true
  | _ => false

end FaultyCall

namespace FaultyEvent

/-- Whether a push was told that the buffer is unavailable. -/
def isFailedPush : FaultyEvent α → Bool
  | .pushed _ (.error (.unavailable _)) => true
  | _ => false

/-- Whether a pop was told that the buffer is unavailable. -/
def isFailedPop : FaultyEvent α → Bool
  | .began _ (.error (.unavailable _)) => true
  | _ => false

/-- Whether an operation was told that the buffer is unavailable. -/
def isFailed (event : FaultyEvent α) : Bool := event.isFailedPush || event.isFailedPop

/-- What happened without the source of failures: nothing if the operation failed. -/
def plain? : FaultyEvent α → Option (BufferEvent α)
  | .pushed _ (.error (.unavailable _)) => none
  | .pushed a (.error .closed) => some (.pushed a (.error .closed))
  | .pushed a (.ok ()) => some (.pushed a (.ok ()))
  | .began _ (.error (.unavailable _)) => none
  | .began id (.error .closed) => some (.looked id .closed)
  | .began id (.ok pop) => some (.looked id pop)
  | .behind event => some event

end FaultyEvent

/-- What is left of some calls without those of operations that failed. -/
def FaultyCall.unfailed (calls : List (FaultyCall α)) (events : List (FaultyEvent α)) :
    List (BufferCall α) :=
  ((calls.zip events).filter fun happened => !happened.2.isFailed).map (·.1.plain)

namespace FaultyBuffer

/-- A buffer behind a source of failures that has drawn nothing. -/
def ofSeed (inner : Buffer α) (seed : UInt64) (rates : BufferRates) : FaultyBuffer α :=
  ⟨inner, .ofSeed seed rates⟩

/-- A single call: the buffer after it and what happens, if the call is possible. -/
def step (b : FaultyBuffer α) : FaultyCall α → Option (FaultyBuffer α × FaultyEvent α)
  | .push a =>
    let (result, after) := b.push a
    some (after, .pushed a result)
  | .start id =>
    if b.inner.notifier.Absent id then
      let (result, after) := b.beginPop id
      some (after, .began id result)
    else none
  | .behind call => (b.inner.step call).map fun (inner, event) => ({ b with inner }, .behind event)

/-- A pop that was woken looks again. -/
theorem step_poll {b : FaultyBuffer α} {id : Nat} (h : b.inner.notifier.isWoken id = true) :
    b.step (.behind (.poll id)) =
      some ((b.resumePop id).2, .behind (.looked id (b.resumePop id).1)) := by
  simp [step, Buffer.step, h, resumePop]

/-- A pop that waits is abandoned. -/
theorem step_cancel {b : FaultyBuffer α} {id : Nat} (h : ¬b.inner.notifier.Absent id) :
    b.step (.behind (.cancel id)) = some (b.cancelPop id, .behind (.cancelled id)) := by
  simp [step, Buffer.step, h, cancelPop]

/-- Calls one after the other: the buffer after them and what happens, if each call is
possible. -/
def run (b : FaultyBuffer α) :
    List (FaultyCall α) → Option (FaultyBuffer α × List (FaultyEvent α)) :=
  Steps.run (fun event => [event]) step b

end FaultyBuffer

end MetricIngest
