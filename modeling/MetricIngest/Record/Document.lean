/-
  The written forms of a record.

  A record is kept as a JSON object with its time in milliseconds, its name,
  its value and its fields. In an index it also carries the name of the index,
  a prefix and the UTC day of its time, and a document type.
-/
import MetricIngest.Json.Value
import MetricIngest.Record.Basic
import MetricIngest.Time.Calendar

namespace MetricIngest.Record

open Json

/-- The members of a record's JSON object. -/
def members (r : Record) : List (String × Value) :=
  [("@timestamp", .int r.timestamp.millis), ("name", .string r.name), ("value", .number r.value),
    ("fields", .object (r.fields.entries.map fun (k, v) => (k, .string v)))]

/-- The record as a JSON object. -/
def toJson (r : Record) : Value := .object r.members

/-- The index of the record's day: the prefix, a dash and the date. A day
outside the years that are shown has the bare prefix. -/
def indexName (r : Record) (lead : String) : String :=
  let date := Date.ofDayNumber (Date.dayOfMillis r.timestamp.millis)
  if Date.firstYear ≤ date.year ∧ date.year ≤ Date.lastYear then
    lead ++ "-" ++ String.ofList date.dotted
  else lead

/-- The record as a document of an index. -/
def document (r : Record) (index docType : String) : Value :=
  .object (("_index", .string (r.indexName index)) :: ("_type", .string docType) :: r.members)

/-- The line of a record in an index, with its line break. -/
def documentChars (r : Record) (index docType : String) : List Char :=
  (r.document index docType).compactChars ++ ['\n']

end MetricIngest.Record
