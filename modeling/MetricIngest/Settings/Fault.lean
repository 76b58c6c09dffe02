/-
  What can be wrong with settings: the file cannot be read, its text does not
  describe settings, a value from the environment is no count, or a value is out
  of the range that it must lie in.
-/
import MetricIngest.Storage.IoError
import MetricIngest.Text.Quoted

namespace MetricIngest

namespace Settings

/-- A setting that must be a count between one and a limit. -/
inductive Limited where
  | decoderWorkers
  | channelCapacity
  | concurrency
  | bulkMax
deriving Repr, DecidableEq

/-- The name under which a count is set. -/
def Limited.name : Limited → String
  | .decoderWorkers => "decoder.workers"
  | .channelCapacity => "decoder.channel_capacity"
  | .concurrency => "writer.concurrency"
  | .bulkMax => "writer.bulk_max"

/-- The greatest count that is allowed. -/
def Limited.limit : Limited → Nat
  | .decoderWorkers => 1024
  | .channelCapacity => 0x1000000
  | .concurrency => 1024
  | .bulkMax => 0x100000

/-- A value that settings must not have. -/
inductive Fault where
  | badCount (key value : String)
  | outOfRange (setting : Limited)
  | noPipeFactor
  | noFlushInterval
  | badIndex
  | emptyDocType
  | missingPath
deriving Repr, DecidableEq

/-- The wording of a fault. -/
def Fault.message : Fault → String
  | .badCount key value =>
    key ++ " must be a positive integer, got " ++ Text.Quoted.encode value
  | .outOfRange s => s.name ++ " must be between 1 and " ++ toString s.limit
  | .noPipeFactor => "writer.pipe_factor must be at least 1"
  | .noFlushInterval => "writer.flush_interval must be greater than zero"
  | .badIndex => "sink.index must be non-empty and contain no whitespace"
  | .emptyDocType => "sink.doc_type must not be empty"
  | .missingPath => "sink.path is required when sink.kind = \"file\""

end Settings

/-- Why settings cannot be loaded. -/
inductive SettingsError where
  | io (cause : IoError)
  | unreadable
  | invalid (fault : Settings.Fault)
deriving Repr, DecidableEq

namespace SettingsError

/-- The wording of an error. That of an unreadable text is followed by what is
wrong with it. -/
def message : SettingsError → String
  | .io cause => "failed to read config: " ++ cause.message
  | .unreadable => "failed to parse config: "
  | .invalid fault => "invalid config: " ++ fault.message

/-- Whether the error has a cause of its own. -/
def hasCause : SettingsError → Bool
  | .invalid _ => false
  | _ => true

end SettingsError

end MetricIngest
