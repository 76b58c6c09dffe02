/-
  Rules as text.

  A line of a rule text holds a pattern and a template with three bars between
  them. Blanks around either are dropped, a blank line and a line that begins
  with a number sign are skipped, and what follows a second delimiter is
  ignored. Lines are counted from one. The first line at fault is the one that
  is reported.
-/
import MetricIngest.Rules.Table
import MetricIngest.Storage.IoError
import MetricIngest.Text.Lines
import MetricIngest.Text.Quoted
import MetricIngest.Text.Utf8

namespace MetricIngest

/-- Why a rule text cannot be loaded. -/
inductive RuleError where
  | io (cause : IoError)
  | missingDelimiter (line : Nat)
  | invalidPattern (line : Nat) (pattern : String)
deriving Repr, DecidableEq

namespace RuleTable

/-- The text between pattern and template. -/
def delimiter : List Char := ['|', '|', '|']

end RuleTable

namespace RuleError

/-- The wording of a fault. For a pattern that is none it is followed by what is
wrong with it. -/
def message : RuleError → String
  | .io cause => "failed to read mutator rules: " ++ cause.message
  | .missingDelimiter line =>
    "mutator rule on line " ++ toString line ++ " has no '"
      ++ String.ofList RuleTable.delimiter ++ "' delimiter"
  | .invalidPattern line pattern =>
    "mutator rule on line " ++ toString line ++ " has invalid pattern "
      ++ Text.Quoted.encode pattern ++ ": "

/-- Whether the fault has a cause of its own. -/
def hasCause : RuleError → Bool
  | .missingDelimiter _ => false
  | _ => true

end RuleError

namespace RuleTable

/-- The pattern and the template of a line that has both: the text before the
first delimiter, and the text after it up to the next. -/
def halves? (cs : List Char) : Option (List Char × List Char) :=
  (Text.cutAt delimiter cs).map fun (pattern, rest) =>
    (Text.trim pattern, Text.trim (((Text.cutAt delimiter rest).map (·.1)).getD rest))

/-- The rule of a line, if it holds one. -/
def ofLine [PatternLanguage] (number : Nat) (cs : List Char) : Except RuleError (Option Rule) :=
  let trimmed := Text.trim cs
  if trimmed = [] ∨ trimmed.head? = some '#' then .ok none
  else
    match halves? trimmed with
    | none => .error (.missingDelimiter number)
    | some (pattern, template) =>
      match Rule.of? (String.ofList pattern) (String.ofList template) with
      | none => .error (.invalidPattern number (String.ofList pattern))
      | some rule => .ok (some rule)

/-- The rules of lines that are numbered from `number` on. -/
def ofLines [PatternLanguage] (number : Nat) : List (List UInt8) → Except RuleError (List Rule)
  | [] => .ok []
  | line :: rest =>
    match Text.Utf8.decode? line with
    | none => .error (.io .invalidUtf8)
    | some cs =>
      match ofLine number cs with
      | .error e => .error e
      | .ok rule => (ofLines (number + 1) rest).map fun rules => rule.toList ++ rules

/-- The table of a rule text given as bytes. -/
def ofBytes [PatternLanguage] (bytes : List UInt8) : Except RuleError RuleTable :=
  (ofLines 1 (Text.lines bytes)).map fun rules => ⟨rules⟩

/-- The table of a rule text. -/
def ofText [PatternLanguage] (text : String) : Except RuleError RuleTable :=
  ofBytes (Text.Utf8.encode text)

end RuleTable

end MetricIngest
