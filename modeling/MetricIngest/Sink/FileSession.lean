/-
  Calls of a sink on one file, which may be opened again at any time.

  A session has a path, the files and the sink that was opened on the path last, with the names
  that its documents carry. What happens in a call is kept. The calls are those of the program,
  on a file that does not fail.
-/
import MetricIngest.Sink.Basic

namespace MetricIngest

/-- A call of a sink on a file. -/
inductive FileCall where
  | submit (batch : List Record)
  | close
  /-- The path is opened anew, by a sink with names and a template of its own. -/
  | reopen (index docType : String) (templatePath : Option String)

/-- What happens in a call. -/
inductive FileEvent where
  /-- A batch is submitted, for documents with these names. -/
  | submitted (index docType : String) (batch : List Record)
    (result : Except SinkError SubmitOutcome)
  | closed (result : Except SinkError Unit)
  | reopened (index docType : String) (templatePath : Option String)
    (result : Except SinkError Unit)

/-- What calls leave of a sink: whether it is open, and the names that its documents carry. -/
structure FileStatus where
  isOpen : Bool
  index : String
  docType : String

namespace FileEvent

/-- The call. -/
def call : FileEvent → FileCall
  | .submitted _ _ batch _ => .submit batch
  | .closed _ => .close
  | .reopened index docType templatePath _ => .reopen index docType templatePath

/-- The documents of a batch that was taken. -/
def accepted : FileEvent → List (List Char)
  | .submitted index docType batch (.ok _) =>
    batch.map fun r => (r.document index docType).compactChars
  | _ => []

/-- How many records the sink says that it took. -/
def succeeded : FileEvent → Nat
  | .submitted _ _ _ (.ok outcome) => outcome.succeeded
  | _ => 0

/-- What has to happen in a call: an open sink takes the whole batch, a closed one refuses it,
and closing and opening succeed. -/
def Expected (status : FileStatus) : FileEvent → Prop
  | .submitted index docType batch result =>
    index = status.index ∧ docType = status.docType ∧
      result = if status.isOpen then .ok ⟨batch.length, 0⟩ else .error .closed
  | .closed result => result = .ok ()
  | .reopened _ _ _ result => result = .ok ()

end FileEvent

namespace FileStatus

/-- What one call leaves. -/
def after (status : FileStatus) : FileEvent → FileStatus
  | .submitted .. => status
  | .closed _ => { status with isOpen := false }
  | .reopened index docType _ _ => ⟨true, index, docType⟩

/-- What calls leave one after the other. -/
def afterAll (status : FileStatus) (events : List FileEvent) : FileStatus :=
  events.foldl after status

end FileStatus

/-- Documents one on a line, each with its line break. -/
def asLines (documents : List (List Char)) : List Char := documents.flatMap fun d => d ++ ['\n']

/-- A path, the files, and the sink that was opened on the path. -/
structure FileSession where
  path : String
  files : FileTree
  index : String
  docType : String
  sink : Sink

namespace FileSession

/-- The session of a sink that is opened on a path. -/
def start (index docType : String) (templatePath : Option String) (path : String)
    (files : FileTree) : Except SinkError FileSession :=
  (Sink.openFile { index, docType, templatePath } path files).map fun (sink, files) =>
    { path, files, index, docType, sink }

/-- A single call, and what happens in it. -/
def step (s : FileSession) : FileCall → FileEvent × FileSession
  | .submit batch =>
    let (result, sink, files) := s.sink.submit s.files {} batch
    (.submitted s.index s.docType batch result, { s with sink, files })
  | .close =>
    let (result, sink) := s.sink.close {}
    (.closed result, { s with sink })
  | .reopen index docType templatePath =>
    match start index docType templatePath s.path s.files with
    | .error e => (.reopened index docType templatePath (.error e), s)
    | .ok s => (.reopened index docType templatePath (.ok ()), s)

theorem call_step (s : FileSession) (next : FileCall) : (s.step next).1.call = next := by
  cases next with
  | submit batch => rfl
  | close => rfl
  | reopen index docType templatePath =>
    simp only [step]
    split <;> rfl

/-- Calls one after the other, and what happens in them. -/
def run (s : FileSession) : List FileCall → List FileEvent × FileSession
  | [] => ([], s)
  | next :: calls =>
    let (event, s) := s.step next
    let (events, s) := s.run calls
    (event :: events, s)

end FileSession

end MetricIngest
