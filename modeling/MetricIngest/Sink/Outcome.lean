/-
  What becomes of a batch that is submitted to a sink.

  Either the sink takes the batch and says how many of its records it accepted
  and how many it refused, or the submission fails and the whole batch is lost.
-/
import MetricIngest.Storage.IoError

namespace MetricIngest

/-- How many records of a batch were accepted and how many were refused. -/
structure SubmitOutcome where
  succeeded : Nat
  failed : Nat
deriving Repr, DecidableEq, Inhabited

/-- The number of records that the outcome is about. -/
def SubmitOutcome.total (o : SubmitOutcome) : Nat := o.succeeded + o.failed

/-- Why a sink failed. -/
inductive SinkError where
  | transport (reason : String)
  | io (cause : IoError)
  | closed
deriving Repr, DecidableEq

namespace SinkError

/-- The wording of a sink's error. -/
def message : SinkError → String
  | .transport reason => "sink transport error: " ++ reason
  | .io cause => "sink I/O error: " ++ cause.message
  | .closed => "sink closed"

/-- Whether the error has a cause of its own. -/
def hasCause : SinkError → Bool
  | .io _ => true
  | _ => false

end SinkError

end MetricIngest
