/-
  Batches whose records may fail to be encoded.

  `submitWith` writes what an encoder makes of the records of a batch. A record that cannot be
  encoded is left out and counts as failed, which does not stop the others. The encoder of a
  sink is `encode?`.
-/
import MetricIngest.Sink.Lines

namespace MetricIngest.LinesSink

/-- The lines of the records that can be encoded, and how many can and how many cannot. -/
def encodeBatch (encode? : Record → Option (List Char)) : List Record → List Char × SubmitOutcome
  | [] => ([], ⟨0, 0⟩)
  | r :: batch =>
    let (lines, outcome) := encodeBatch encode? batch
    match encode? r with
    | some text => (text ++ '\n' :: lines, { outcome with succeeded := outcome.succeeded + 1 })
    | none => (lines, { outcome with failed := outcome.failed + 1 })

/-- Write lines together and flush them, for an outcome that is known before. -/
def deliver (s : LinesSink) (f : DeviceFaults) (lines : List Char) (outcome : SubmitOutcome) :
    Except SinkError SubmitOutcome × LinesSink :=
  if s.closed then (.error .closed, s)
  else
    match s.device.write f lines with
    | (.error e, device) => (.error (.io e), { s with device })
    | (.ok (), device) =>
      match device.flush f with
      | (.error e, device) => (.error (.io e), { s with device })
      | (.ok (), device) => (.ok outcome, { s with device })

/-- Submit a batch by way of an encoder. -/
def submitWith (s : LinesSink) (encode? : Record → Option (List Char)) (f : DeviceFaults)
    (batch : List Record) : Except SinkError SubmitOutcome × LinesSink :=
  let encoded := encodeBatch encode? batch
  s.deliver f encoded.1 encoded.2

/-- The text of a record's document, in which every key is a string and every number has a
text. -/
def encode? (s : LinesSink) (r : Record) : Option (List Char) :=
  some (r.document s.index s.docType).compactChars

end MetricIngest.LinesSink
