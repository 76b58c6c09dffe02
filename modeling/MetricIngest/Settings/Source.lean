/-
  Settings as a TOML text, and where they are loaded from.

  A section is a table; what is missing in it has its default and what is
  unknown is passed over. A section may also be an array with its settings in
  order. A choice is its name, or a table with its name as the only key and
  nothing under it.
-/
import MetricIngest.Settings.Check
import MetricIngest.Settings.Environment
import MetricIngest.Text.Utf8
import MetricIngest.Toml.Reader

namespace MetricIngest.Settings

open Toml (Value Members)

/-! ### Single settings -/

/-- A setting's place in its section: its name, and its position in an array. -/
structure Slot where
  name : String
  position : Nat

/-- The values of a section's settings. -/
abbrev Section := Slot → Option Value

/-- The section that a value describes. A date has no settings in it. -/
def section? : Value → Option Section
  | .table _ members => some fun s => Members.get? members s.name
  | .array items => some fun s => items[s.position]?
  | .tables elements => some fun s => (elements[s.position]?).map (.table .header)
  | .moment _ => some fun _ => none
  | _ => none

/-- The value of a setting as `read` understands it, or its default. -/
def setting {α : Type} (sec : Section) (name : String) (position : Nat) (default : α)
    (read : Value → Option α) : Option α :=
  match sec ⟨name, position⟩ with
  | none => some default
  | some v => read v

/-- A count. -/
def count : Value → Option Nat
  | .integer n => if 0 ≤ n then some n.toNat else none
  | _ => none

/-- A text. -/
def text : Value → Option String
  | .string s => some s
  | _ => none

/-- A flag. -/
def flag : Value → Option Bool
  | .boolean b => some b
  | _ => none

/-- Whether nothing is in an array or a table. -/
def isHollow : Value → Bool
  | .array items => items.isEmpty
  | .table _ members => members.isEmpty
  | .tables elements => elements.isEmpty
  | _ => false

/-- One of several choices. -/
def choice {α : Type} (choices : List (String × α)) : Value → Option α
  | .string s => choices.lookup s
  | .table _ [(name, v)] => if isHollow v then choices.lookup name else none
  | _ => none

/-! ### Sections -/

/-- The settings for decoding. -/
def Decoding.ofValue? (v : Value) : Option Decoding := do
  let sec ← section? v
  let base : Decoding := {}
  return {
    rulesFile := ← setting sec "rules_file" 0 base.rulesFile fun v => (text v).map some
    workers := ← setting sec "workers" 1 base.workers count
    channelCapacity := ← setting sec "channel_capacity" 2 base.channelCapacity count
    mode := ← setting sec "fractional_timestamps" 3 base.mode
      (choice [("compat", .compat), ("exact", .exact)]) }

/-- The settings for batching. -/
def Batching.ofValue? (v : Value) : Option Batching := do
  let sec ← section? v
  let base : Batching := {}
  return {
    concurrency := ← setting sec "concurrency" 0 base.concurrency count
    bulkMax := ← setting sec "bulk_max" 1 base.bulkMax count
    flushInterval := ← setting sec "flush_interval" 2 base.flushInterval count
    pipeFactor := ← setting sec "pipe_factor" 3 base.pipeFactor count }

/-- The settings for the output. -/
def Output.ofValue? (v : Value) : Option Output := do
  let sec ← section? v
  let base : Output := {}
  return {
    kind := ← setting sec "kind" 0 base.kind (choice [("stdout", .stdout), ("file", .file)])
    path := ← setting sec "path" 1 base.path fun v => (text v).map some
    index := ← setting sec "index" 2 base.index text
    docType := ← setting sec "doc_type" 3 base.docType text
    templatePath := ← setting sec "template_path" 4 base.templatePath fun v => (text v).map some }

/-- The settings for logging. -/
def Logging.ofValue? (v : Value) : Option Logging := do
  let sec ← section? v
  let base : Logging := {}
  return {
    level := ← setting sec "level" 0 base.level text
    json := ← setting sec "json" 1 base.json flag }

/-- The settings of a document. -/
def ofMembers? (members : Members) : Option Settings := do
  let sec ← section? (.table .header members)
  return {
    decoder := ← setting sec "decoder" 0 {} Decoding.ofValue?
    writer := ← setting sec "writer" 1 {} Batching.ofValue?
    sink := ← setting sec "sink" 2 {} Output.ofValue?
    logging := ← setting sec "logging" 3 {} Logging.ofValue? }

/-! ### Loading -/

/-- The settings of a text. -/
def ofText (text : String) : Except SettingsError Settings :=
  match (Toml.read? text).bind ofMembers? with
  | none => .error .unreadable
  | some s => .ok s

/-- The settings of a text given as bytes. -/
def ofBytes (bytes : List UInt8) : Except SettingsError Settings :=
  match Text.Utf8.decode? bytes with
  | none => .error (.io .invalidUtf8)
  | some cs => ofText (String.ofList cs)

/-- The settings of the file that the environment names, or the defaults. -/
def base (env : Environment) (readFile : String → Except IoError (List UInt8)) :
    Except SettingsError Settings :=
  match env Environment.file with
  | none => .ok {}
  | some path =>
    match readFile path with
    | .error cause => .error (.io cause)
    | .ok bytes => ofBytes bytes

/-- Load the settings: those of the file, or the defaults, with those of the
environment, if they break no rule. -/
def load (env : Environment) (readFile : String → Except IoError (List UInt8)) :
    Except SettingsError Settings := do
  let s ← base env readFile
  let s ← s.override env
  s.check
  return s

end MetricIngest.Settings
