/-
  The template of the indices at a path that sinks share.

  Any number of sinks keep their template at one path, and they and the writers in front of them
  may be called at any moment. Whether the template is there is one look. To make it, the file is
  opened anew, which works for one caller only, and is written later; a writer looks first and
  goes on only if nothing is there. Between these steps others take theirs, and somebody else may
  rewrite the file. What happens in a step is kept.
-/
import MetricIngest.Runs
import MetricIngest.Sink.Lines
import MetricIngest.Storage.Making

namespace MetricIngest

/-- How far a call has come that may make the template. -/
inductive TemplateStage where
  /-- It has seen that nothing is there. -/
  | missing
  /-- It has made the file, which it will write. -/
  | made (full : List String)
deriving Repr, DecidableEq

/-- A call under way, which makes the template of a sink. -/
structure TemplateTask where
  id : Nat
  sink : LinesSink
  stage : TemplateStage
deriving Repr, DecidableEq

/-- What is done next. -/
inductive TemplateStep where
  /-- A sink is asked whether the template is there. -/
  | ask (sink : LinesSink)
  /-- A sink is called to make the template, and opens the file. -/
  | create (id : Nat) (sink : LinesSink)
  /-- A writer is called to put its sink's template in place, and looks whether it is there. -/
  | ensure (id : Nat) (sink : LinesSink)
  /-- A call under way goes on. -/
  | proceed (id : Nat)
  /-- Somebody else gives the file another text. -/
  | rewrite (text : List Char)

/-- What happens in a step. -/
inductive TemplateEvent where
  | asked (sink : LinesSink) (result : Except SinkError Bool)
  /-- A writer's look. -/
  | looked (id : Nat) (sink : LinesSink) (result : Except SinkError Bool)
  /-- The file is opened anew: whether that has made it. If something is there already, the call
  is over. -/
  | opened (id : Nat) (sink : LinesSink) (result : Except SinkError Bool)
  /-- The file is written, which ends the call. -/
  | written (id : Nat) (sink : LinesSink) (text : List Char)
  | rewritten (text : List Char)

namespace TemplateEvent

/-- Whether no call makes or writes the file: one looks, with success, or finds the file when it
opens it anew, or the file is rewritten by somebody else. -/
inductive Spares : TemplateEvent → Prop where
  | asked {sink found} : Spares (.asked sink (.ok found))
  | looked {id sink found} : Spares (.looked id sink (.ok found))
  | opened {id sink} : Spares (.opened id sink (.ok false))
  | rewritten {text} : Spares (.rewritten text)

/-- Whether a call finds the file and leaves it as it is, or the file is rewritten by somebody
else. -/
inductive Finds : TemplateEvent → Prop where
  | asked {sink} : Finds (.asked sink (.ok true))
  | looked {id sink} : Finds (.looked id sink (.ok true))
  | opened {id sink} : Finds (.opened id sink (.ok false))
  | rewritten {text} : Finds (.rewritten text)

/-- The text of the file after an event, if there is a file. -/
def leaves (before : Option (List Char)) : TemplateEvent → Option (List Char)
  | .opened _ _ (.ok true) => some []
  | .written _ _ text => some (FileTree.writtenOver text (before.getD []))
  | .rewritten text => some text
  | _ => before

end TemplateEvent

/-- **How a template comes about**, by what has happened so far, the text that was at its place
before, and the calls that have made the file and not written it yet: no call has made it; or one
has, which found nothing there, and will write it; or one has and has written the template of its
own sink. All calls later than that find the file. -/
inductive TemplateEvent.Course (before : Option (List Char)) :
    List TemplateEvent → List TemplateTask → Prop where
  | unmade {past} (hpast : ∀ event ∈ past, event.Spares) : Course before past []
  | made {first id sink full since} (hfirst : ∀ event ∈ first, event.Spares)
    (hmissing : first.foldl leaves before = none) (hsince : ∀ event ∈ since, event.Finds) :
    Course before (first ++ .opened id sink (.ok true) :: since) [⟨id, sink, .made full⟩]
  | written {first id sink since after} (hfirst : ∀ event ∈ first, event.Spares)
    (hmissing : first.foldl leaves before = none) (hsince : ∀ event ∈ since, event.Finds)
    (hafter : ∀ event ∈ after, event.Finds) :
    Course before (first ++ .opened id sink (.ok true) ::
      (since ++ .written id sink sink.templateText :: after)) []

/-- A path, the files, and the calls under way. -/
structure SharedTemplate where
  path : String
  files : FileTree
  tasks : List TemplateTask

namespace SharedTemplate

/-- The calls that have made the file and are still to write it. -/
def makers (t : SharedTemplate) : List TemplateTask := t.tasks.filter (·.stage ≠ .missing)

/-- Nobody has called yet. -/
def start (path : String) (files : FileTree) : SharedTemplate := ⟨path, files, []⟩

/-- Open the file anew for a call. If that makes it, the call is still to write it. -/
def openFor (t : SharedTemplate) (id : Nat) (sink : LinesSink) : SharedTemplate × TemplateEvent :=
  match t.files.openNew t.path with
  | .error e => (t, .opened id sink (.error (.io e)))
  | .ok none => (t, .opened id sink (.ok false))
  | .ok (some (full, files)) =>
    ({ t with files, tasks := t.tasks ++ [⟨id, sink, .made full⟩] }, .opened id sink (.ok true))

/-- A single step and what happens in it, if it is possible. A call is for a sink with the path of
the template, and has a number that no call under way has. -/
def step (t : SharedTemplate) : TemplateStep → Option (SharedTemplate × TemplateEvent)
  | .ask sink =>
    if sink.templatePath = some t.path then some (t, .asked sink (sink.schemaExists t.files))
    else none
  | .create id sink =>
    if sink.templatePath = some t.path ∧ t.tasks.all (·.id ≠ id) then some (t.openFor id sink)
    else none
  | .ensure id sink =>
    if sink.templatePath = some t.path ∧ t.tasks.all (·.id ≠ id) then
      match sink.schemaExists t.files with
      | .ok false =>
        some ({ t with tasks := t.tasks ++ [⟨id, sink, .missing⟩] }, .looked id sink (.ok false))
      | result => some (t, .looked id sink result)
    else none
  | .proceed id =>
    match t.tasks.find? (·.id = id) with
    | none => none
    | some ⟨id, sink, stage⟩ =>
      let rest : SharedTemplate := { t with tasks := t.tasks.eraseP (·.id = id) }
      match stage with
      | .missing => some (rest.openFor id sink)
      | .made full =>
        some ({ rest with files := t.files.writeOver full sink.templateText },
          .written id sink sink.templateText)
  | .rewrite text =>
    match t.files.overwrite t.path text with
    | .error _ => none
    | .ok files => some ({ t with files }, .rewritten text)

/-- Steps one after the other and what happens in them, if each is possible. -/
def run (t : SharedTemplate) :
    List TemplateStep → Option (SharedTemplate × List TemplateEvent) :=
  Steps.run (fun event => [event]) step t

end SharedTemplate

end MetricIngest
