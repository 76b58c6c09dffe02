/-
  What the lines of a rule text say.

  A line is the bytes of a text or it cannot be read. White space around the text is no part of what
  it says. A line that is blank or a comment says nothing; any other one is an
  entry, which gives a rule or is at fault. `Gives` and `Faults` say which, in terms of how the
  entry is glued together. What a pattern is, is up to the language.
-/
import MetricIngest.Rules.Source
import MetricIngest.Text.Parts
import Mathlib.Data.List.Forall2
import Mathlib.Data.List.ReduceOption

namespace MetricIngest.RuleTable

open Text

variable [PatternLanguage]

/-- A line is the bytes of a text that trims to `part`. -/
def Shows (line : List UInt8) (part : List Char) : Prop :=
  ∃ cs, Utf8.encode (String.ofList cs) = line ∧ TrimsTo cs part

/-- A line that shows neither nothing nor a comment. -/
structure IsEntry (line : List UInt8) (entry : List Char) : Prop where
  shows : Shows line entry
  ne_nil : entry ≠ []
  head_ne : entry.head? ≠ some '#'

/-- What a line gives that is not at fault. -/
inductive Gives (line : List UInt8) : Option Rule → Prop where
  | blank (h : Shows line []) : Gives line none
  | comment {rest : List Char} (h : Shows line ('#' :: rest)) : Gives line none
  /-- The pattern stands before the first delimiter, the template behind it and before the next. -/
  | rule {entry before after upToNext : List Char} {r : Rule} (isEntry : IsEntry line entry)
      (cut : CutsAt delimiter entry before after) (pattern : TrimsTo before r.patternText.toList)
      (next : UpTo delimiter after upToNext) (template : TrimsTo upToNext r.template.toList)
      (isRead : r.IsRead) : Gives line (some r)

/-- What is wrong with a line that has this number. -/
inductive Faults (number : Nat) (line : List UInt8) : RuleError → Prop where
  /-- The line is the bytes of no text. -/
  | unreadable (h : ∀ cs, Utf8.encode (String.ofList cs) ≠ line) :
      Faults number line (.io .invalidUtf8)
  | undelimited {entry : List Char} (isEntry : IsEntry line entry) (h : ¬ delimiter <:+: entry) :
      Faults number line (.missingDelimiter number)
  | refused {entry before after : List Char} {pattern : String} (isEntry : IsEntry line entry)
      (cut : CutsAt delimiter entry before after) (trims : TrimsTo before pattern.toList)
      (h : PatternLanguage.finder? pattern = none) :
      Faults number line (.invalidPattern number pattern)

/-- A line that can be read and, if it is an entry, has a delimiter and before it a pattern. -/
structure Sound (line : List UInt8) : Prop where
  readable : ∃ cs, Utf8.encode (String.ofList cs) = line
  accepted : ∀ entry, IsEntry line entry → ∃ before after pattern,
    CutsAt delimiter entry before after ∧ TrimsTo before (String.toList pattern) ∧
      PatternLanguage.finder? pattern ≠ none

end MetricIngest.RuleTable
