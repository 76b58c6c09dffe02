/-
  The template of the indices that documents go to.

  It matches every index whose name begins with the prefix. Fields are kept as
  exact text and copied to one common field; the name and the value are not
  analysed. Members of an object are in the order of their keys.
-/
import MetricIngest.Json.Value

namespace MetricIngest

open Json

namespace IndexTemplate

/-- The mapping of a text that is kept as it is. -/
def exactText : List (String × Value) :=
  [("index", .string "not_analyzed"), ("type", .string "string")]

/-- The mapping of every field. -/
def fieldMapping : Value :=
  .object [("mapping", .object (("copy_to", .string "@uniq") :: exactText)),
    ("path_match", .string "fields.*")]

/-- The mapping of the members that every document has. -/
def properties : Value :=
  .object [
    ("@timestamp", .object [("format", .string "strict_date_optional_time||epoch_millis"),
      ("type", .string "date")]),
    ("@uniq", .object exactText),
    ("name", .object exactText),
    ("value", .object [("index", .string "not_analyzed"), ("type", .string "double")])]

end IndexTemplate

open IndexTemplate in
/-- The template for the indices of a prefix and documents of a type. -/
def indexTemplate (lead docType : String) : Value :=
  .object [
    ("mappings", .object [(docType, .object [
      ("_source", .object [("enabled", .bool false)]),
      ("dynamic_templates", .array [.object [("fields", fieldMapping)]]),
      ("properties", properties)])]),
    ("order", .int 0),
    ("template", .string (lead ++ "*"))]

end MetricIngest
