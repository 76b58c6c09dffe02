/-
  A sink that writes a document on a line for each record.

  The lines of a batch are written together and then flushed. Both calls of the
  device can fail, and a write can fail after a part of its text was taken. The
  first call to close flushes; later ones do nothing.

  The template of the indices is kept in a file, which is made once and never
  written over.
-/
import MetricIngest.Record.Document
import MetricIngest.Sink.Outcome
import MetricIngest.Sink.Template
import MetricIngest.Storage.FileTree

namespace MetricIngest

/-! ### The device that text is written to -/

/-- The text that a device has taken, and how much of it has been flushed. -/
structure Device where
  text : List Char
  flushed : Nat
deriving Repr, DecidableEq, Inhabited

/-- How the next calls of a device fail: a write after so many characters, and
every flush. -/
structure DeviceFaults where
  writeLimit : Option Nat := none
  flushFails : Bool := false
deriving Repr, DecidableEq, Inhabited

namespace Device

/-- A device that has taken nothing. -/
def empty : Device := ⟨[], 0⟩

/-- Write a text. -/
def write (d : Device) (f : DeviceFaults) (text : List Char) : Except IoError Unit × Device :=
  match f.writeLimit with
  | none => (.ok (), { d with text := d.text ++ text })
  | some limit =>
    if text.length ≤ limit then (.ok (), { d with text := d.text ++ text })
    else (.error .writeRefused, { d with text := d.text ++ text.take limit })

/-- Flush what was written. -/
def flush (d : Device) (f : DeviceFaults) : Except IoError Unit × Device :=
  if f.flushFails then (.error .flushRefused, d) else (.ok (), { d with flushed := d.text.length })

end Device

/-! ### The sink -/

/-- A device with the names that documents carry and the place of the template. -/
structure LinesSink where
  index : String := "metrics"
  docType : String := "raw"
  templatePath : Option String := none
  device : Device := .empty
  closed : Bool := false
deriving Repr, DecidableEq, Inhabited

namespace LinesSink

/-- The lines of a batch. -/
def lines (s : LinesSink) (batch : List Record) : List Char :=
  batch.flatMap fun r => r.documentChars s.index s.docType

/-- Submit a batch. -/
def submit (s : LinesSink) (f : DeviceFaults) (batch : List Record) :
    Except SinkError SubmitOutcome × LinesSink :=
  if s.closed then (.error .closed, s)
  else
    match s.device.write f (s.lines batch) with
    | (.error e, device) => (.error (.io e), { s with device })
    | (.ok (), device) =>
      match device.flush f with
      | (.error e, device) => (.error (.io e), { s with device })
      | (.ok (), device) => (.ok ⟨batch.length, 0⟩, { s with device })

/-- Close the sink. -/
def close (s : LinesSink) (f : DeviceFaults) : Except SinkError Unit × LinesSink :=
  if s.closed then (.ok (), s)
  else
    match s.device.flush f with
    | (.error e, device) => (.error (.io e), { s with device, closed := true })
    | (.ok (), device) => (.ok (), { s with device, closed := true })

/-! ### Closed sinks -/

theorem submit_of_closed {s : LinesSink} (h : s.closed = true) (f : DeviceFaults)
    (batch : List Record) : s.submit f batch = (.error .closed, s) := by
  rw [submit, if_pos h]

theorem close_of_closed {s : LinesSink} (h : s.closed = true) (f : DeviceFaults) :
    s.close f = (.ok (), s) := by
  rw [close, if_pos h]

/-! ### The template -/

/-- The text of the template. -/
def templateText (s : LinesSink) : List Char := (indexTemplate s.index s.docType).prettyChars 0

/-- Whether the template is there. Without a place for it nothing is missing. -/
def schemaExists (s : LinesSink) (files : FileTree) : Except SinkError Bool :=
  match s.templatePath with
  | none => .ok true
  | some path => (files.exists? path).mapError .io

/-- Make the template unless something is at its place. -/
def createSchema (s : LinesSink) (files : FileTree) : Except SinkError FileTree :=
  match s.templatePath with
  | none => .ok files
  | some path => (files.createNew path s.templateText).mapError .io

end LinesSink

end MetricIngest
