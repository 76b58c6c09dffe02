/-
  Rules written as text.

  A pair of pattern and template is written as a line, with the delimiter between the two. In a
  `Plain` pair neither of the two, by itself, has anything that the form of the text would take
  for its own.
-/
import MetricIngest.Rules.Source
import MetricIngest.Text.Parts

namespace MetricIngest

/-- The pattern and the template of a rule. -/
def Rule.pair (r : Rule) : String × String := (r.patternText, r.template)

namespace RuleTable

open Text

/-- The line of a pair of pattern and template. -/
def lineOf (pair : String × String) : List Char :=
  pair.1.toList ++ delimiter ++ pair.2.toList

/-- A text with a line for each pair, the last one with a line feed at its end or without. -/
def textOf (ended : Bool) (pairs : List (String × String)) : String :=
  String.ofList (glue '\n' (pairs.map lineOf ++ if ended then [[]] else []))

/-- A half of a line, without white space around it, on one line and without a delimiter in it. -/
structure PlainHalf (half : String) : Prop where
  trimmed : TrimsTo half.toList half.toList
  newline_notMem : '\n' ∉ half.toList
  undelimited : ¬ delimiter <:+: half.toList

/-- A pattern and a template of this kind. The pattern can be read, is not empty and does not begin
like a comment. -/
structure Plain [PatternLanguage] (pair : String × String) : Prop where
  pattern : PlainHalf pair.1
  template : PlainHalf pair.2
  ne_nil : pair.1.toList ≠ []
  head_ne : pair.1.toList.head? ≠ some '#'
  accepted : PatternLanguage.finder? pair.1 ≠ none

/-- The pattern of a pair ends in the character that the delimiter is made of. -/
def EndsInBar (pair : String × String) : Prop :=
  pair.1.toList.getLast? = some '|'

instance (pair : String × String) : Decidable (EndsInBar pair) :=
  inferInstanceAs (Decidable (_ = _))

end RuleTable

end MetricIngest
