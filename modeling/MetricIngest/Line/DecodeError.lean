/-
  Faults of lines that have the form of a sample but give no record.

  The value may be no number, or the path may give no name. A value that is made
  of digits and points only, and still is no number, has the failed reading as
  its cause. Where a name was found and no record could be made under it, that is
  the cause.
-/
import MetricIngest.Record.Basic
import MetricIngest.Text.Quoted

namespace MetricIngest

/-- A path or a name that gives no record, and why no record could be made if it came to
that. -/
structure NameFault where
  fragment : String
  cause : Option RecordError := none
deriving Repr, DecidableEq

instance : Coe String NameFault := ⟨fun fragment => { fragment }⟩

/-- Why a line gives no record. The fragment is the text of the value or the path. -/
inductive DecodeError where
  | invalidValue (fragment : String) (malformed : Bool)
  | nameResolutionFailed (fault : NameFault)
deriving Repr, DecidableEq

namespace DecodeError

/-- The name of the kind of fault. -/
def kind : DecodeError → String
  | .invalidValue _ _ => "invalid value"
  | .nameResolutionFailed _ => "name resolution failed"

/-- What could not be done. -/
def summary : DecodeError → String
  | .invalidValue _ _ => "Failed to read value"
  | .nameResolutionFailed _ => "Failed to read name/fields"

/-- The offending text. -/
def fragment : DecodeError → String
  | .invalidValue text _ => text
  | .nameResolutionFailed fault => fault.fragment

/-- The wording of the cause, if there is one. -/
def cause : DecodeError → Option String
  | .invalidValue _ true => some "invalid float literal"
  | .invalidValue _ false => none
  | .nameResolutionFailed fault => fault.cause.map RecordError.message

/-- The wording of the fault. -/
def message (e : DecodeError) : String :=
  let base := e.summary ++ " (" ++ e.kind ++ "): " ++ Text.Quoted.encode e.fragment
  match e.cause with
  | some cause => base ++ ": " ++ cause
  | none => base

end DecodeError

end MetricIngest
