/-
  A writer over a sink that keeps batches in memory.

  The sink decides on a batch at some moment while it is being submitted, and is
  closed when the writer closes it. Somebody may make its next submissions fail at
  any time. All else is left to the steps of the writer, which may come in any
  order.
-/
import MetricIngest.Sink.Memory
import MetricIngest.Writer.History

namespace MetricIngest

variable {α : Type}

/-- A writer and the sink that it writes to. -/
structure Delivery (α : Type) where
  writer : Writer α
  sink : MemorySink α

/-- A choice of what is done next. -/
inductive DeliveryStep (α : Type) where
  /-- A step of the writer that is not the end of a submission. -/
  | write (next : WriterStep α)
  /-- The sink decides on a batch, which ends its submission. -/
  | answer (id : Nat)
  /-- Somebody makes the next submissions fail. -/
  | failNext (count : Nat)

namespace Delivery

/-- A writer that starts on a buffer and gives its sink a schema if it has none. -/
def start (settings : Settings.Batching) (buffer : Buffer α) (sink : MemorySink α)
    (cancelled : Bool) : Delivery α where
  writer := .start settings buffer cancelled
  sink := if sink.hasSchema then sink else sink.createSchema

/-- A single step, if it is possible, and what happened at the writer. -/
def step (d : Delivery α) : DeliveryStep α → Option (Delivery α × History α)
  | .write (.settle _ _) => none
  | .write next =>
    (d.writer.step next).map fun (writer, events) =>
      (⟨writer, if History.isClosed events then d.sink.close else d.sink⟩, events)
  | .answer id =>
    match d.writer.flush? id with
    | some f =>
      let (result, sink) := d.sink.submit f.batch.records
      (d.writer.step (.settle id result)).map fun (writer, events) => (⟨writer, sink⟩, events)
    | none => none
  | .failNext count => some ({ d with sink := d.sink.failNext count }, [])

/-- A run of steps, if each is possible, and what happened at the writer. -/
def run (d : Delivery α) : List (DeliveryStep α) → Option (Delivery α × History α) :=
  Steps.run (fun events => events) step d

end Delivery

end MetricIngest
