/-
  Checking that settings are safe to run with.

  `Settings.fault?` is the first rule that settings break, in a fixed order, and
  `Settings.check` refuses settings that break one. `Settings.Valid` is the rules together.
-/
import MetricIngest.Settings.Basic
import MetricIngest.Settings.Fault
import MetricIngest.Text.WhiteSpace

namespace MetricIngest.Settings

/-- The fault of a count, if it is none that is allowed. -/
def Limited.fault? (s : Limited) (n : Nat) : Option Fault :=
  if 1 ≤ n ∧ n ≤ s.limit then none else some (.outOfRange s)

/-- A fault, if a rule does not hold. -/
def faultUnless (rule : Prop) [Decidable rule] (fault : Fault) : Option Fault :=
  if rule then none else some fault

/-- The first rule that the settings for decoding break. -/
def Decoding.fault? (d : Decoding) : Option Fault :=
  (Limited.decoderWorkers.fault? d.workers).or (Limited.channelCapacity.fault? d.channelCapacity)

/-- The first rule that the settings for batching break. -/
def Batching.fault? (b : Batching) : Option Fault :=
  (Limited.concurrency.fault? b.concurrency).or <|
  (Limited.bulkMax.fault? b.bulkMax).or <|
  (faultUnless (b.pipeFactor ≠ 0) .noPipeFactor).or <|
  faultUnless (b.flushInterval ≠ 0) .noFlushInterval

/-- The first rule that the settings for the output break. -/
def Output.fault? (o : Output) : Option Fault :=
  (faultUnless (o.index ≠ "" ∧ ¬ o.index.toList.any Text.isWhiteSpace) .badIndex).or <|
  (faultUnless (o.docType ≠ "") .emptyDocType).or <|
  faultUnless (o.kind = .file → o.path ≠ none) .missingPath

/-- The first rule that the settings break. -/
def fault? (s : Settings) : Option Fault :=
  s.decoder.fault?.or <| s.writer.fault?.or s.sink.fault?

/-- Refuse settings that break a rule. -/
def check (s : Settings) : Except SettingsError Unit :=
  match s.fault? with
  | none => .ok ()
  | some fault => .error (.invalid fault)

/-- Settings that break no rule. -/
structure Valid (s : Settings) : Prop where
  workers : 1 ≤ s.decoder.workers ∧ s.decoder.workers ≤ 1024
  channelCapacity : 1 ≤ s.decoder.channelCapacity ∧ s.decoder.channelCapacity ≤ 0x1000000
  concurrency : 1 ≤ s.writer.concurrency ∧ s.writer.concurrency ≤ 1024
  bulkMax : 1 ≤ s.writer.bulkMax ∧ s.writer.bulkMax ≤ 0x100000
  pipeFactor : 0 < s.writer.pipeFactor
  flushInterval : 0 < s.writer.flushInterval
  index_ne_empty : s.sink.index ≠ ""
  index_unbroken : ∀ c ∈ s.sink.index.toList, Text.isWhiteSpace c = false
  docType_ne_empty : s.sink.docType ≠ ""
  path : s.sink.kind = .file → ∃ path, s.sink.path = some path

end MetricIngest.Settings
