/-
  What a document tells its reader.

  `Document.ofChars?` reads a text as JSON and looks up the members of a document by their keys.
  The value is missing where the text has `null` for it.
-/
import MetricIngest.Json.Reader
import MetricIngest.Record.Document

namespace MetricIngest

/-- The contents of a document. -/
structure Document where
  index : String
  docType : String
  millis : Int
  name : String
  value : Option Binary64
  fields : FieldMap
deriving DecidableEq

namespace Document

open Json

/-- The keys of a document, in the order in which they are written. -/
def keys : List String := ["_index", "_type", "@timestamp", "name", "value", "fields"]

/-- The value of a key among the members of an object. -/
def member? (members : List (String × Value)) (key : String) : Option Value :=
  (members.find? fun m => m.1 = key).map (·.2)

/-- The value as a string. -/
def string? : Value → Option String
  | .string s => some s
  | _ => none

/-- The value as a whole number. -/
def int? : Value → Option Int
  | .int n => some n
  | _ => none

/-- The value as a number that may be missing. -/
def number? : Value → Option (Option Binary64)
  | .number x => some (some x)
  | .null => some none
  | _ => none

/-- The members as entries of strings. -/
def entries? : List (String × Value) → Option (List (String × String))
  | [] => some []
  | (k, v) :: ms => do
    let s ← string? v
    let rest ← entries? ms
    return (k, s) :: rest

/-- The value as a map of strings. -/
def fields? : Value → Option FieldMap
  | .object members => (entries? members).map FieldMap.ofList
  | _ => none

/-- Look up the members of a document. -/
def ofMembers? (members : List (String × Value)) : Option Document := do
  let index ← (member? members "_index").bind string?
  let docType ← (member? members "_type").bind string?
  let millis ← (member? members "@timestamp").bind int?
  let name ← (member? members "name").bind string?
  let value ← (member? members "value").bind number?
  let fields ← (member? members "fields").bind fields?
  return ⟨index, docType, millis, name, value, fields⟩

/-- Read a text as a document. -/
def ofChars? (cs : List Char) : Option Document :=
  match Value.read? cs with
  | some (.object members) => ofMembers? members
  | _ => none

/-- What the document of a record tells: everything but the nanoseconds of the time, and the
value only if it is finite. -/
def ofRecord (r : Record) (index docType : String) : Document :=
  ⟨r.indexName index, docType, r.timestamp.millis, r.name,
    if r.value.isFinite then some r.value else none, r.fields⟩

end Document

end MetricIngest
