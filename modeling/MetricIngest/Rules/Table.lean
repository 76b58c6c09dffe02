/-
  Rules and tables of rules.

  A rule is a pattern and a template; it applies to the paths in which its
  pattern is found. A table is an ordered list of rules, of which the first
  that applies counts. Which texts are patterns is up to a language.
-/
import MetricIngest.Pattern.Language
import MetricIngest.Rules.Token
import MetricIngest.Text.Split

namespace MetricIngest

/-- A pattern with the paths it is found in and the template for these. -/
structure Rule where
  patternText : String
  template : String
  applies : String → Bool

namespace Rule

/-- The rule of a pattern and a template, if the text is a pattern. -/
def of? [PatternLanguage] (patternText template : String) : Option Rule :=
  (PatternLanguage.finder? patternText).map fun applies => ⟨patternText, template, applies⟩

/-- The rule applies to the paths in which its text is found as a pattern. -/
def IsRead [PatternLanguage] (r : Rule) : Prop :=
  PatternLanguage.finder? r.patternText = some r.applies

/-- The tokens of the rule's template. -/
def tokens (r : Rule) : List Token :=
  (Text.pieces '.' r.template.toList).map Token.ofChars

end Rule

/-- An ordered list of rules. -/
structure RuleTable where
  rules : List Rule

namespace RuleTable

/-- The table without rules. -/
def empty : RuleTable := ⟨[]⟩

instance : Inhabited RuleTable := ⟨empty⟩

/-- The first rule that applies to a path. -/
def firstMatch (t : RuleTable) (path : String) : Option Rule :=
  t.rules.find? fun r => r.applies path

/-- The place of the first rule that applies to a path. -/
def firstMatchIndex (t : RuleTable) (path : String) : Option Nat :=
  t.rules.findIdx? fun r => r.applies path

/-- The table of pairs of pattern and template, or the place of the first pair
whose pattern is none. -/
def ofPairs [PatternLanguage] (pairs : List (String × String)) : Except Nat RuleTable :=
  go 0 pairs
where
  go (index : Nat) : List (String × String) → Except Nat RuleTable
    | [] => .ok empty
    | (pattern, template) :: rest =>
      match Rule.of? pattern template with
      | none => .error index
      | some rule => (go (index + 1) rest).map fun t => ⟨rule :: t.rules⟩

end RuleTable

end MetricIngest
