/-
  Writers one after the other over a sink that keeps batches in memory.

  Each has its own settings and its own buffer. It gives the sink a schema if there is none and
  then takes its steps; it may be given up before it has ended.
-/
import MetricIngest.Writer.Delivery

namespace MetricIngest

variable {α : Type}

/-- A writer's settings, its buffer, whether it is cancelled beforehand, and the steps that are
taken. -/
structure WriterJob (α : Type) where
  settings : Settings.Batching
  buffer : Buffer α
  cancelled : Bool
  steps : List (DeliveryStep α)

namespace MemorySink

end MemorySink

end MetricIngest
