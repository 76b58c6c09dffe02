/-
  Settings from environment variables.

  Five settings can be given in the environment, where they win over those of
  the file. A count may have blanks around it and a plus in front of it.
-/
import MetricIngest.Number.Numeral
import MetricIngest.Settings.Basic
import MetricIngest.Settings.Fault
import MetricIngest.Text.WhiteSpace

namespace MetricIngest.Settings

/-- The values of environment variables. One whose value is no text counts as not set. -/
abbrev Environment := String → Option String

namespace Environment

/-- The variable that names the file with the settings. -/
def file : String := "METCAP_CONFIG"

/-- The variable of the file with the rules. -/
def rulesFile : String := "METCAP_RULES_FILE"

/-- The variable of the logging level. -/
def logLevel : String := "METCAP_LOG_LEVEL"

/-- The variable of the writer's concurrency. -/
def concurrency : String := "METCAP_WRITER_CONCURRENCY"

/-- The variable of the size of a batch. -/
def bulkMax : String := "METCAP_BULK_MAX"

/-- The variable of the index. -/
def index : String := "METCAP_INDEX"

end Environment

/-- A count that a 64-bit word holds. -/
def count? (text : String) : Option Nat :=
  let digits := match Text.trim text.toList with
    | '+' :: cs => cs
    | cs => cs
  (Numeral.natural? digits).bind fun n => if n ≤ wordLimit then some n else none

/-- The count that a variable gives, or the one there is. -/
def overriddenCount (env : Environment) (key : String) (old : Nat) :
    Except SettingsError Nat :=
  match env key with
  | none => .ok old
  | some value =>
    match count? value with
    | none => .error (.invalid (.badCount key value))
    | some n => .ok n

/-- The settings with those that the environment gives. -/
def override (s : Settings) (env : Environment) : Except SettingsError Settings := do
  let concurrency ← overriddenCount env Environment.concurrency s.writer.concurrency
  let bulkMax ← overriddenCount env Environment.bulkMax s.writer.bulkMax
  return { s with
    decoder.rulesFile := (env Environment.rulesFile).or s.decoder.rulesFile
    logging.level := (env Environment.logLevel).getD s.logging.level
    writer.concurrency := concurrency
    writer.bulkMax := bulkMax
    sink.index := (env Environment.index).getD s.sink.index }

end MetricIngest.Settings
