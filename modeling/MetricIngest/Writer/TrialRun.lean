/-
  Trials of the writer in any order of its steps.

  The writer moves as it does anywhere, but what its buffer and its sink say is drawn
  from the seed: a pop when it begins, a batch at some moment while it is being
  submitted. What is left of a batch is passed on to the sink behind at a later
  moment, so the batches need not arrive there in the order in which they were drawn.
  Nobody pushes records or closes the buffer, and only some trials are cancelled.
-/
import MetricIngest.Writer.History
import MetricIngest.Writer.Trial

namespace MetricIngest

/-- Whether a step of a writer concerns neither its buffer nor an answer of its sink. -/
def WriterStep.isOwn {α : Type} : WriterStep α → Bool
  | .receive | .tick | .dispatch | .finish | .submit _ | .elapse _ => true
  | .work .. | .settle .. | .push _ | .closeBuffer | .cancel => false

/-- A trial under way. `passing` are the batches that were drawn and have not arrived at the
sink behind, each with what is left of it. -/
structure TrialState where
  writer : Writer Record
  faults : BufferFaults
  sink : FaultySink Record
  passing : List (Batch Record × List Record)
  cancellable : Bool

/-- A choice of what is done next. -/
inductive TrialStep where
  /-- A step of the writer alone. -/
  | write (next : WriterStep Record)
  /-- A worker goes on; if it begins a pop, it is drawn whether the pop fails. -/
  | work (worker : Nat)
  /-- It is drawn what becomes of a batch that is being submitted. -/
  | roll (id : Nat)
  /-- What is left of a batch arrives at the sink behind, which ends its submission. -/
  | pass (id : Nat)
  /-- The early cancelling takes effect. -/
  | cancel

namespace TrialState

/-- A trial before its first step. Its sink has been given a schema. -/
def start (plan : TrialPlan) (seed : UInt64) : TrialState where
  writer := .start plan.writer (Trial.buffer plan seed) false
  faults := Trial.faults plan seed
  sink :=
    let sink := Trial.sink plan seed
    { sink with inner := sink.inner.createSchema }
  passing := []
  cancellable := plan.cancelEarly

/-- What a step gives: the state after it and what happened at the writer. -/
abbrev Outcome := Option (TrialState × History Record)

/-- The state after a step of the writer. When the writer closes its sink, the sink is
closed. -/
def take (t : TrialState) (next : WriterStep Record) : Outcome :=
  (t.writer.step next).map fun (writer, events) =>
    ({ t with writer, sink := if History.isClosed events then t.sink.close else t.sink }, events)

/-- Draw whether the next step of a worker is a pop that fails. -/
def drawFault (t : TrialState) (i : Nat) : Option BufferError × TrialState :=
  match t.writer.workers[i]? with
  | some .ready =>
    if t.writer.cancelled then (none, t)
    else
      let (fails, faults) := t.faults.drawPop
      (if fails then some BufferFaults.popFault else none, { t with faults })
  | _ => (none, t)

/-- Draw what becomes of a batch, once for each batch. If the submission fails, it is over. -/
def roll (t : TrialState) (id : Nat) : Outcome :=
  match t.writer.flush? id with
  | some ⟨b, some _⟩ =>
    if t.passing.any fun p => p.1 = b then none
    else
      match t.sink.roll b.records with
      | (none, sink) => { t with sink }.take (.settle id (.error FaultySink.submitFault))
      | (some kept, sink) => some ({ t with sink, passing := t.passing ++ [(b, kept)] }, [])
  | _ => none

/-- Pass on what is left of a batch. -/
def pass (t : TrialState) (id : Nat) : Outcome :=
  match t.writer.flush? id with
  | some ⟨b, some _⟩ =>
    match t.passing.find? fun p => p.1 = b with
    | some (_, kept) =>
      let (result, sink) := t.sink.pass (b.size - kept.length) kept
      let passing := t.passing.filter fun p => p.1 ≠ b
      { t with sink, passing }.take (.settle id result)
    | none => none
  | _ => none

/-- A single step, if it is possible. -/
def step (t : TrialState) : TrialStep → Outcome
  | .write next => if next.isOwn then t.take next else none
  | .work i => let (fault, t) := t.drawFault i; t.take (.work i fault)
  | .roll id => t.roll id
  | .pass id => t.pass id
  | .cancel => if t.cancellable then t.take .cancel else none

/-- A run of steps, if each is possible, and what happened at the writer. -/
def run (t : TrialState) : List TrialStep → Outcome :=
  Steps.run (fun events => events) step t

/-- The books of a trial under way. -/
def books (t : TrialState) (plan : TrialPlan) (seed : UInt64) : TrialResult :=
  Trial.books plan seed t.writer t.faults t.sink

end TrialState

end MetricIngest
