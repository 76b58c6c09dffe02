/-
  Text that a sink has given to its device and that waits to be flushed.

  A submission that fails may leave text on the device. It waits there until a later submission
  succeeds or the sink is closed, either of which flushes the device. If that flush of the close
  fails, the sink is closed all the same and never flushes again.
-/
import MetricIngest.Sink.Calls

namespace MetricIngest

/-- Whether a flush succeeded after the last text that the device took. -/
def Device.Flushed (d : Device) : Prop := d.flushed = d.text.length

instance (d : Device) : Decidable d.Flushed := inferInstanceAs (Decidable (_ = _))

namespace LinesEvent

/-- Whether a batch was submitted, of which the device took some text before the submission
failed. -/
def LeavesText (event : LinesEvent) : Prop :=
  ∃ batch e taken, event = .submitted batch (.error e) taken ∧ taken ≠ []

/-- Whether a batch was submitted and taken. -/
def TakesBatch (event : LinesEvent) : Prop :=
  ∃ batch o taken, event = .submitted batch (.ok o) taken

/-- Whether the sink was closed without a flush. -/
def ClosesUnflushed (event : LinesEvent) : Prop := ∃ e, event = .closed (.error e)

/-- Whether text waits after these events: some was left by a submission that failed, and none
has succeeded since. -/
def TextWaits (past : List LinesEvent) : Prop :=
  ∃ before event after, past = before ++ event :: after ∧ event.LeavesText ∧
    ∀ later ∈ after, ¬later.TakesBatch

/-- Whether text waits for good: some waited when the sink was closed without a flush. -/
def TextAbandoned (past : List LinesEvent) : Prop :=
  ∃ before event after, past = before ++ event :: after ∧ event.ClosesUnflushed ∧
    TextWaits before

end LinesEvent

end MetricIngest
