/-
  The settings of the program, one section for each part.

  Every setting has a default. Counts are those of a 64-bit word; the flush
  interval is in milliseconds.
-/
import MetricIngest.Line.Time

namespace MetricIngest

namespace Settings

/-- How lines are decoded. -/
structure Decoding where
  rulesFile : Option String := none
  workers : Nat := 8
  channelCapacity : Nat := 1024
  mode : FractionMode := .compat
deriving Repr, DecidableEq, Inhabited

/-- How records are written in batches. -/
structure Batching where
  concurrency : Nat := 4
  bulkMax : Nat := 1000
  flushInterval : Nat := 5000
  pipeFactor : Nat := 100
deriving Repr, DecidableEq, Inhabited

/-- Where batches go. -/
inductive Destination where
  | stdout
  | file
deriving Repr, DecidableEq, Inhabited

/-- The destination of the batches and the names of their documents. -/
structure Output where
  kind : Destination := .stdout
  path : Option String := none
  index : String := "metrics"
  docType : String := "raw"
  templatePath : Option String := none
deriving Repr, DecidableEq, Inhabited

/-- What is logged and in which form. -/
structure Logging where
  level : String := "info"
  json : Bool := false
deriving Repr, DecidableEq, Inhabited

end Settings

open Settings in
/-- The settings of the program. -/
structure Settings where
  decoder : Decoding := {}
  writer : Batching := {}
  sink : Output := {}
  logging : Logging := {}
deriving Repr, DecidableEq, Inhabited

namespace Settings

/-! ### Settings for small runs -/

/-- Few workers and narrow channels. -/
def Decoding.small : Decoding := { workers := 2, channelCapacity := 4 }

/-- Small batches and short waits. -/
def Batching.small : Batching :=
  { concurrency := 2, bulkMax := 10, flushInterval := 50, pipeFactor := 4 }

/-- Small numbers throughout, and verbose logging. -/
def small : Settings :=
  { decoder := .small, writer := .small, logging := { level := "debug" } }

/-! ### Capacities -/

/-- The greatest number of a 64-bit word. -/
def wordLimit : Nat := 0xFFFFFFFFFFFFFFFF

/-- A product that stops at the greatest number of a 64-bit word. -/
def boundedProduct (a b : Nat) : Nat := min (a * b) wordLimit

/-- A number brought into a range. -/
def clamp (low high n : Nat) : Nat := max low (min high n)

/-- The largest pipe there is, whatever the settings say. -/
def Batching.maxPipeCapacity : Nat := 0x1000000

/-- The number of records between the workers that take them from the buffer and
the loop that batches them: some batches for each worker. -/
def Batching.pipeCapacity (b : Batching) : Nat :=
  clamp 1 maxPipeCapacity (boundedProduct (boundedProduct b.bulkMax b.concurrency) b.pipeFactor)

/-- The number of workers that take records, and of batches that are submitted
at the same time. -/
def Batching.workers (b : Batching) : Nat := max 1 b.concurrency

/-- The number of decoding workers that run. -/
def Decoding.poolSize (d : Decoding) : Nat := max 1 d.workers

/-- The number of records, and of faults, between the decoding workers and the
receivers. -/
def Decoding.outputCapacity (d : Decoding) : Nat := max 1 d.channelCapacity

/-- The number of lines that may wait for each decoding worker. -/
def Decoding.linesPerWorker : Nat := 16

/-- The number of lines between the reader and the decoding workers. -/
def Decoding.lineCapacity (d : Decoding) : Nat := boundedProduct d.poolSize linesPerWorker

end Settings

end MetricIngest
