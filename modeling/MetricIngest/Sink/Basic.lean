/-
  The destinations of batches.

  A sink keeps batches, with or without injected failures, or writes lines to a
  device or to a file. Operations on a sink that uses files also give the files
  as they are afterwards.
-/
import MetricIngest.Sink.Faulty
import MetricIngest.Sink.Lines

namespace MetricIngest

/-- A destination of batches. -/
inductive Sink where
  | memory (s : MemorySink Record)
  | faulty (s : FaultySink Record)
  | lines (s : LinesSink)
  | file (s : LinesSink) (path : List String)
deriving Inhabited

namespace Sink

/-- A sink that writes lines at the end of a file. -/
def openFile (s : LinesSink) (path : String) (files : FileTree) :
    Except SinkError (Sink × FileTree) :=
  match files.openAtEnd path with
  | .error e => .error (.io e)
  | .ok (full, files) => .ok (.file s full, files)

/-- The files after a sink's device has taken more text. -/
def follow (files : FileTree) (path : List String) (before after : LinesSink) : FileTree :=
  files.append path (after.device.text.drop before.device.text.length)

/-- Submit a batch. -/
def submit (s : Sink) (files : FileTree) (f : DeviceFaults) (batch : List Record) :
    Except SinkError SubmitOutcome × Sink × FileTree :=
  match s with
  | .memory m => let (r, m) := m.submit batch; (r, .memory m, files)
  | .faulty m => let (r, m) := m.submit batch; (r, .faulty m, files)
  | .lines l => let (r, l) := l.submit f batch; (r, .lines l, files)
  | .file l path =>
    let (r, after) := l.submit {} batch
    (r, .file after path, follow files path l after)

/-- Close the sink. -/
def close (s : Sink) (f : DeviceFaults) : Except SinkError Unit × Sink :=
  match s with
  | .memory m => (.ok (), .memory m.close)
  | .faulty m => (.ok (), .faulty m.close)
  | .lines l => let (r, l) := l.close f; (r, .lines l)
  | .file l path => let (r, l) := l.close {}; (r, .file l path)

/-- Whether the schema is in place. -/
def schemaExists (s : Sink) (files : FileTree) : Except SinkError Bool :=
  match s with
  | .memory m => .ok m.hasSchema
  | .faulty m => .ok m.inner.hasSchema
  | .lines l => l.schemaExists files
  | .file l _ => l.schemaExists files

/-- Put the schema in place. -/
def createSchema (s : Sink) (files : FileTree) : Except SinkError (Sink × FileTree) :=
  match s with
  | .memory m => .ok (.memory m.createSchema, files)
  | .faulty m => .ok (.faulty { m with inner := m.inner.createSchema }, files)
  | .lines l => (l.createSchema files).map fun files => (s, files)
  | .file l _ => (l.createSchema files).map fun files => (s, files)

/-- Put the schema in place unless it is there. A failure leaves all as it is. -/
def ensureSchema (s : Sink) (files : FileTree) : Sink × FileTree :=
  match s.schemaExists files with
  | .ok false =>
    match s.createSchema files with
    | .ok after => after
    | .error _ => (s, files)
  | _ => (s, files)

end Sink

end MetricIngest
