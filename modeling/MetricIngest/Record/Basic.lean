/-
  Metric records: one named sample with a time, a value and tag fields.

  A record's name is never empty; that is part of the type, and `ofName` is the
  way to build one. A name may have several components, joined by colons.
-/
import MetricIngest.Number.Binary64
import MetricIngest.Record.FieldMap
import MetricIngest.Text.Split
import MetricIngest.Time.Timestamp

namespace MetricIngest

/-- A single sample. -/
structure Record where
  name : String
  timestamp : Timestamp
  value : Binary64
  fields : FieldMap
  name_ne_empty : name ≠ ""
deriving DecidableEq

/-- Why a record cannot be built. -/
inductive RecordError where
  | emptyName
deriving Repr, DecidableEq

namespace RecordError

/-- The wording of the error. -/
def message : RecordError → String
  | .emptyName => "metric name must not be empty"

end RecordError

namespace Record

instance : Inhabited Record := ⟨⟨"m", .epoch, .zero, .empty, by decide⟩⟩

instance : Repr Record := ⟨fun r n => reprPrec (r.name, r.timestamp, r.value, r.fields) n⟩

/-- The character between the components of a name. -/
def nameSeparator : Char := ':'

/-- The record of a name, unless the name is empty. -/
def ofName (name : String) (timestamp : Timestamp) (value : Binary64) (fields : FieldMap) :
    Except RecordError Record :=
  if h : name = "" then .error .emptyName else .ok ⟨name, timestamp, value, fields, h⟩

/-- The record whose name is made of components. -/
def ofComponents (components : List String) (timestamp : Timestamp) (value : Binary64)
    (fields : FieldMap) : Except RecordError Record :=
  ofName (Text.join nameSeparator components) timestamp value fields

/-- The record of a number: named after it, at the epoch, with it as its value. -/
def numbered (i : Nat) : Record :=
  ⟨"m" ++ toString i, .epoch, .ofNat i, .empty, by
    intro h
    have := congrArg String.length h
    simp [String.length_append] at this⟩

end Record

end MetricIngest
