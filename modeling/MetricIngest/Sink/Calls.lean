/-
  Calls of a sink that writes lines, one after the other.

  The device may fail in each call. What happens in a call is kept: what came back, and
  which text the device took of a batch.
-/
import MetricIngest.Sink.Lines

namespace MetricIngest

/-- A call of a sink that writes lines, and how the device fails in it. -/
inductive LinesCall where
  | submit (faults : DeviceFaults) (batch : List Record)
  | close (faults : DeviceFaults)

/-- What happens in a call. -/
inductive LinesEvent where
  /-- A batch is submitted, of which the device takes some text. -/
  | submitted (batch : List Record) (result : Except SinkError SubmitOutcome)
    (taken : List Char)
  /-- The sink is closed. -/
  | closed (result : Except SinkError Unit)

/-- The text that the device took in a call. -/
def LinesEvent.taken : LinesEvent → List Char
  | .submitted _ _ taken => taken
  | .closed _ => []

namespace LinesSink

/-- The lines of the batch of a call, if the call took the batch. -/
def acceptedLines (s : LinesSink) : LinesEvent → List Char
  | .submitted batch (.ok _) _ => s.lines batch
  | _ => []

/-- A single call, and what happens in it. -/
def call (s : LinesSink) : LinesCall → LinesEvent × LinesSink
  | .submit f batch =>
    let (result, after) := s.submit f batch
    (.submitted batch result (after.device.text.drop s.device.text.length), after)
  | .close f =>
    let (result, after) := s.close f
    (.closed result, after)

/-- Calls one after the other, and what happens in them. -/
def run (s : LinesSink) : List LinesCall → List LinesEvent × LinesSink
  | [] => ([], s)
  | next :: calls =>
    let (event, s) := s.call next
    let (events, s) := s.run calls
    (event :: events, s)

end LinesSink

end MetricIngest
