/-
  The program as a function of its surroundings.

  The settings are loaded first, then the rules, then the sink is opened; the
  first failure ends the program. Otherwise all lines of the standard input go
  through the pipeline. Lines of the sink go to the standard output or to the end
  of a file. Rules may have patterns of any language; those of `Pattern.ofText?`
  are the ones at hand.
-/
import MetricIngest.Pattern.Reader
import MetricIngest.Pipeline
import MetricIngest.Rules.Source
import MetricIngest.Settings.Source

namespace MetricIngest

/-- Why the program ends at once. -/
inductive ProgramError where
  | settings (e : SettingsError)
  | rules (e : RuleError)
  | sink (e : SinkError)
  /-- The sink is a file of which the settings give no path. -/
  | missingPath
deriving Repr, DecidableEq

namespace ProgramError

/-- The wording of an error. -/
def message : ProgramError → String
  | .settings e => e.message
  | .rules e => e.message
  | .sink e => e.message
  | .missingPath => "sink.path is required for the file sink"

/-- The word for the kind of an error; a missing path has none. -/
def label : ProgramError → String
  | .settings (.io _) => "Io"
  | .settings .unreadable => "Parse"
  | .settings (.invalid _) => "Invalid"
  | .rules (.io _) => "Io"
  | .rules (.missingDelimiter _) => "MissingDelimiter"
  | .rules (.invalidPattern _ _) => "InvalidPattern"
  | .sink (.io _) => "Io"
  | .sink (.transport _) => "Transport"
  | .sink .closed => "Closed"
  | .missingPath => ""

end ProgramError

namespace Program

variable [PatternLanguage]

/-- The rules of the file that the settings name, or none. -/
def loadRules (settings : Settings) (readFile : String → Except IoError (List UInt8)) :
    Except RuleError RuleTable :=
  match settings.decoder.rulesFile with
  | none => .ok .empty
  | some path =>
    match readFile path with
    | .error cause => .error (.io cause)
    | .ok bytes => RuleTable.ofBytes bytes

/-- The sink that the settings describe, with nothing written yet. -/
def linesSink (o : Settings.Output) : LinesSink :=
  { index := o.index, docType := o.docType, templatePath := o.templatePath }

/-- Open the sink that the settings describe. A sink that is a file must have a path. -/
def openSink (o : Settings.Output) (files : FileTree) : Except ProgramError (Sink × FileTree) :=
  match o.kind, o.path with
  | .file, some path => (Sink.openFile (linesSink o) path files).mapError .sink
  | .file, none => .error .missingPath
  | .stdout, _ => .ok (.lines (linesSink o), files)

/-- The text that a sink wrote to the standard output. -/
def standardOutput : Sink → List Char
  | .lines l => l.device.text
  | _ => []

/-- Run the program: what it writes to the standard output, and the files after
it. -/
def run (env : Settings.Environment) (files : FileTree) (input : List UInt8) (now : Timestamp) :
    Except ProgramError (List Char × FileTree) := do
  let settings ← (Settings.load env files.readBytes).mapError .settings
  let rules ← (loadRules settings files.readBytes).mapError .rules
  let (sink, files) ← openSink settings.sink files
  let (_, sink, files) := Pipeline.finish rules settings sink files [input] false false now
  return (standardOutput sink, files)

end Program

end MetricIngest
