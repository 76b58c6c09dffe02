/-
  Where the values of settings come from.

  There are three layers. A document gives a setting what it holds at the setting's place, and a
  setting of which it holds nothing has its default (`Given`). Above these stands the environment,
  which gives five of the settings (`Overridden`). `Described` and `Overrides` say so of all
  settings, each at its own place and with its own default or its own variable.
-/
import MetricIngest.Settings.Source
import MetricIngest.Text.Ascii
import MetricIngest.Text.Parts

namespace MetricIngest.Settings

open Toml (Value Members)

variable {α : Type}

/-! ### What a document gives -/

/-- The document that settings are read from: that of the file that the environment names, or
one that holds nothing. -/
inductive Document (env : Environment) (readFile : String → Except IoError (List UInt8)) :
    Members → Prop where
  | unnamed (h : env Environment.file = none) : Document env readFile []
  | named {path text : String} {doc : Members} (h : env Environment.file = some path)
      (holds : readFile path = .ok (Text.Utf8.encode text)) (reads : Toml.read? text = some doc) :
      Document env readFile doc

/-- What a document holds at the places of a section. It holds nothing at those of a section
that it does not have. -/
def sectionOf (doc : Members) (name : String) : Section :=
  fun slot => ((doc.get? name).bind section?).bind fun sec => sec slot

/-- The value of a setting: what `read` makes of that which its place holds, or else the
default. -/
inductive Given (place : Option Value) (read : Value → Option α) (default : α) : α → Prop where
  | held {v : Value} {x : α} (h : place = some v) (hread : read v = some x) :
      Given place read default x
  | absent (h : place = none) : Given place read default default

/-- The settings for decoding that a section gives. -/
structure Decoding.Described (sec : Section) (d : Decoding) : Prop where
  rulesFile : Given (sec ⟨"rules_file", 0⟩) (fun v => (text v).map some) none d.rulesFile
  workers : Given (sec ⟨"workers", 1⟩) count 8 d.workers
  channelCapacity : Given (sec ⟨"channel_capacity", 2⟩) count 1024 d.channelCapacity
  mode : Given (sec ⟨"fractional_timestamps", 3⟩)
    (choice [("compat", .compat), ("exact", .exact)]) .compat d.mode

/-- The settings for batching that a section gives. -/
structure Batching.Described (sec : Section) (b : Batching) : Prop where
  concurrency : Given (sec ⟨"concurrency", 0⟩) count 4 b.concurrency
  bulkMax : Given (sec ⟨"bulk_max", 1⟩) count 1000 b.bulkMax
  flushInterval : Given (sec ⟨"flush_interval", 2⟩) count 5000 b.flushInterval
  pipeFactor : Given (sec ⟨"pipe_factor", 3⟩) count 100 b.pipeFactor

/-- The settings for the output that a section gives. -/
structure Output.Described (sec : Section) (o : Output) : Prop where
  kind : Given (sec ⟨"kind", 0⟩) (choice [("stdout", .stdout), ("file", .file)]) .stdout o.kind
  path : Given (sec ⟨"path", 1⟩) (fun v => (text v).map some) none o.path
  index : Given (sec ⟨"index", 2⟩) text "metrics" o.index
  docType : Given (sec ⟨"doc_type", 3⟩) text "raw" o.docType
  templatePath : Given (sec ⟨"template_path", 4⟩) (fun v => (text v).map some) none o.templatePath

/-- The settings for logging that a section gives. -/
structure Logging.Described (sec : Section) (l : Logging) : Prop where
  level : Given (sec ⟨"level", 0⟩) text "info" l.level
  json : Given (sec ⟨"json", 1⟩) flag false l.json

/-- The settings that a document gives. -/
structure Described (doc : Members) (s : Settings) : Prop where
  decoder : s.decoder.Described (sectionOf doc "decoder")
  writer : s.writer.Described (sectionOf doc "writer")
  sink : s.sink.Described (sectionOf doc "sink")
  logging : s.logging.Described (sectionOf doc "logging")

/-! ### What the environment gives -/

/-- A text that writes a count: digits, perhaps with a plus in front of them and with white
space around, for a number that a 64-bit word holds. -/
def WritesCount (value : String) (n : Nat) : Prop :=
  ∃ digits : List Char,
    (Text.TrimsTo value.toList digits ∨ Text.TrimsTo value.toList ('+' :: digits)) ∧
      digits ≠ [] ∧ (∀ c ∈ digits, Text.IsDigit c) ∧ Numeral.digitsValue digits = n ∧ n ≤ wordLimit

/-- The value of a setting under a variable: what the variable says if it is set, and else the
value that there is below. -/
inductive Overridden (given : Option String) (means : String → α → Prop) (below : α) : α → Prop where
  | set {value : String} {x : α} (h : given = some value) (hmeans : means value x) :
      Overridden given means below x
  | unset (h : given = none) : Overridden given means below below

/-- The settings `s` are the settings `below` under those of the environment. -/
structure Overrides (env : Environment) (below s : Settings) : Prop where
  rulesFile : Overridden (env Environment.rulesFile) (fun value path => path = some value)
    below.decoder.rulesFile s.decoder.rulesFile
  level : Overridden (env Environment.logLevel) (fun value level => level = value)
    below.logging.level s.logging.level
  concurrency : Overridden (env Environment.concurrency) WritesCount
    below.writer.concurrency s.writer.concurrency
  bulkMax : Overridden (env Environment.bulkMax) WritesCount
    below.writer.bulkMax s.writer.bulkMax
  index : Overridden (env Environment.index) (fun value index => index = value)
    below.sink.index s.sink.index
  /-- Nothing else is changed. -/
  others : s = { below with
    decoder.rulesFile := s.decoder.rulesFile
    logging.level := s.logging.level
    writer.concurrency := s.writer.concurrency
    writer.bulkMax := s.writer.bulkMax
    sink.index := s.sink.index }

end MetricIngest.Settings
