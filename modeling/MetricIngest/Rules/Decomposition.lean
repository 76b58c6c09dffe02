/-
  Decomposing a path into a name and tag fields.

  The path is cut at its points into segments, which are matched one by one with
  the tokens of the first rule that applies; a token that takes everything ends
  the walk, and so does the end of either list. The name components are joined
  by colons. A path without a rule is its own name, with underscores for points.
-/
import MetricIngest.Line.DecodeError
import MetricIngest.Record.Basic
import MetricIngest.Rules.Table

namespace MetricIngest

/-- What a path is decomposed into. -/
structure Decomposition where
  name : String
  fields : FieldMap
deriving Repr, DecidableEq

namespace Decomposition

/-- The character between segments that are folded into one text. -/
def foldSeparator : Char := '_'

/-- The name components and the fields collected on the walk. -/
structure Parts where
  components : List String
  fields : FieldMap
deriving Repr, DecidableEq

/-- Segments folded into one text. -/
def fold (segments : List (List Char)) : String :=
  String.ofList (Text.glue foldSeparator segments)

/-- Walk along tokens and segments. Fields are set as they come, so that the last
one wins for a repeated key. -/
def walk (parts : Parts) : List Token → List (List Char) → Parts
  | [], _ => parts
  | _, [] => parts
  | token :: tokens, segment :: segments =>
    match token with
    | .catchAllName => { parts with components := parts.components ++ [fold (segment :: segments)] }
    | .catchAllField key =>
      { parts with fields := parts.fields.insert key (fold (segment :: segments)) }
    | .skip => walk parts tokens segments
    | .name =>
      walk { parts with components := parts.components ++ [String.ofList segment] } tokens segments
    | .field key =>
      walk { parts with fields := parts.fields.insert key (String.ofList segment) } tokens segments

/-- The parts of a path that a rule applies to. -/
def partsOf (tokens : List Token) (path : String) : Parts :=
  walk ⟨[], .empty⟩ tokens (Text.pieces '.' path.toList)

/-- The parts of a path that no rule applies to. -/
def plainParts (path : String) : Parts :=
  ⟨[String.ofList (path.toList.map fun c => if c = '.' then foldSeparator else c)], .empty⟩

end Decomposition

namespace RuleTable

/-- The parts of a path. -/
def parts (t : RuleTable) (path : String) : Decomposition.Parts :=
  match t.firstMatch path with
  | some rule => Decomposition.partsOf rule.tokens path
  | none => Decomposition.plainParts path

/-- Decompose a path; it fails when no name results. -/
def decompose (t : RuleTable) (path : String) : Except DecodeError Decomposition :=
  let parts := t.parts path
  let name := Text.join Record.nameSeparator parts.components
  if name = "" then .error (.nameResolutionFailed path) else .ok ⟨name, parts.fields⟩

end RuleTable

end MetricIngest
