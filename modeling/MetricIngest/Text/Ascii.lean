/-
  Letters and digits of ASCII, as ranges of characters.

  The tests of the core library for letters and digits know these and no others;
  `isAlpha_iff` and `isDigit_iff` say so.
-/
import MetricIngest.Number.Numeral

namespace MetricIngest.Text

variable {c : Char}

/-- A letter of ASCII. -/
def IsLetter (c : Char) : Prop := ('A' ≤ c ∧ c ≤ 'Z') ∨ ('a' ≤ c ∧ c ≤ 'z')

/-- A digit of ASCII. -/
def IsDigit (c : Char) : Prop := '0' ≤ c ∧ c ≤ '9'

theorem isAlpha_iff : c.isAlpha = true ↔ IsLetter c := by
  have hupper : c.isUpper = true ↔ 'A' ≤ c ∧ c ≤ 'Z' := decide_eq_true_iff
  have hlower : c.isLower = true ↔ 'a' ≤ c ∧ c ≤ 'z' :=
    Bool.and_eq_true_iff.trans (and_congr decide_eq_true_iff decide_eq_true_iff)
  exact Bool.or_eq_true_iff.trans (or_congr hupper hlower)

theorem isDigit_iff : c.isDigit = true ↔ IsDigit c := by
  simp [Char.isDigit, IsDigit, Char.le_def]

theorem numeral_isDigit_iff : Numeral.isDigit c = true ↔ IsDigit c := by
  simp [Numeral.isDigit, IsDigit]

end MetricIngest.Text
