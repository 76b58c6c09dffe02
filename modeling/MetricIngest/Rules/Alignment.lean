/-
  A template laid beside a path.

  `Token.Stands` says which token a piece of a template stands for. The tokens of a
  template and the segments of a path are laid side by side as far as both go, and what
  counts ends at the first token that takes everything: `Stops` says where that is.
  `components` and `Sets` say which segments become name components and field values.
-/
import MetricIngest.Rules.Decomposition
import MetricIngest.Text.Ascii

namespace MetricIngest

namespace Token

open Text

/-- The token that a piece of a template stands for. Letters and digits are those of ASCII. -/
inductive Stands : List Char → Token → Prop where
  /-- A plus alone. -/
  | plus : Stands ['+'] .catchAllName
  /-- A number with a plus at its end. -/
  | names {cs} (digit : ∃ c ∈ cs, IsDigit c) (noLetter : ∀ c ∈ cs, ¬ IsLetter c)
    (final : ∃ lead, cs = lead ++ ['+']) : Stands cs .catchAllName
  /-- A number. -/
  | name {cs} (digit : ∃ c ∈ cs, IsDigit c) (noLetter : ∀ c ∈ cs, ¬ IsLetter c)
    (noFinal : ∀ lead, cs ≠ lead ++ ['+']) : Stands cs .name
  /-- A word with pluses at its end, which are not part of the key. -/
  | fields {key n} (letter : ∃ c ∈ key, IsLetter c) (noFinal : ∀ lead, key ≠ lead ++ ['+']) :
    Stands (key ++ List.replicate (n + 1) '+') (.catchAllField (String.ofList key))
  /-- A word. -/
  | field {cs} (letter : ∃ c ∈ cs, IsLetter c) (noFinal : ∀ lead, cs ≠ lead ++ ['+']) :
    Stands cs (.field (String.ofList cs))
  /-- Anything else. -/
  | skip {cs} (notPlus : cs ≠ ['+']) (noLetter : ∀ c ∈ cs, ¬ IsLetter c)
    (noDigit : ∀ c ∈ cs, ¬ IsDigit c) : Stands cs .skip

/-- The key of a token that sets a field. -/
def key? : Token → Option String
  | .field key => some key
  | .catchAllField key => some key
  | _ => none

end Token

namespace Decomposition

variable (tokens : List Token) (segments : List (List Char))

/-- How far tokens and segments stand side by side. -/
def overlap : Nat := min tokens.length segments.length

/-- The first place with a token that takes everything, or the end of both lists. -/
structure Stops (k : Nat) : Prop where
  le_overlap : k ≤ overlap tokens segments
  before : ∀ i < k, ∀ token, tokens[i]? = some token → token.isCatchAll = false
  here : k < overlap tokens segments → ∃ token, tokens[k]? = some token ∧ token.isCatchAll = true

/-- The segment of a name token, and nothing for others. -/
def nameAt (i : Nat) : Option String :=
  if tokens[i]? = some .name then segments[i]?.map String.ofList else none

/-- The name components up to a stop: the segments of name tokens before it, and all
segments from it on if a token stands there that makes them one. -/
def components (k : Nat) : List String :=
  (List.range k).filterMap (nameAt tokens segments) ++
    if k < overlap tokens segments ∧ tokens[k]? = some .catchAllName then [fold (segments.drop k)]
    else []

/-- The field that the token at a place sets: to its segment, or to all from there on. -/
def entryAt (i : Nat) : Option (String × String) :=
  match tokens[i]? with
  | some (.field key) => segments[i]?.map fun segment => (key, String.ofList segment)
  | some (.catchAllField key) => some (key, fold (segments.drop i))
  | _ => none

/-- A field has the value that is set at the last place, up to a stop, whose token has its
key. -/
def Sets (k : Nat) (key value : String) : Prop :=
  ∃ i, i < overlap tokens segments ∧ i ≤ k ∧ entryAt tokens segments i = some (key, value) ∧
    ∀ j token, i < j → j < overlap tokens segments → j ≤ k → tokens[j]? = some token →
      token.key? ≠ some key

end Decomposition

end MetricIngest
