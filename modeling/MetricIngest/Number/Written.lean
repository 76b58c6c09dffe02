/-
  Numerals written out.

  A `Written` numeral is an optional minus, digits, and perhaps a point with digits after it;
  there is a digit before the point or after it. `Written.text` is the text that results and
  `Written.toBinary64` the number that it is read as.
-/
import MetricIngest.Text.Ascii

namespace MetricIngest.Numeral

/-- A numeral as it is written. -/
structure Written where
  negative : Bool
  /-- The digits before the point. -/
  whole : List Char
  /-- The digits after the point, if there is a point. -/
  part : Option (List Char)
  isDigit_of_mem : ∀ c ∈ whole ++ part.getD [], Text.IsDigit c
  ne_nil : whole ++ part.getD [] ≠ []

namespace Written

/-- The text of the numeral without its sign. -/
def unsigned (w : Written) : List Char :=
  match w.part with
  | none => w.whole
  | some part => w.whole ++ '.' :: part

/-- The text of the numeral. -/
def text (w : Written) : List Char := if w.negative then '-' :: w.unsigned else w.unsigned

/-- All digits. -/
def figures (w : Written) : List Char := w.whole ++ w.part.getD []

/-- How many of the digits stand after the point. -/
def places (w : Written) : Nat := (w.part.getD []).length

/-- The decimal without its sign. -/
def decimal (w : Written) : Decimal :=
  ⟨w.figures.length, digitsValue w.figures, -(w.places : Int)⟩

/-- The numeral rounded to a 64-bit number. -/
def toBinary64 (w : Written) : Binary64 := w.decimal.toBinary64 w.negative

/-- Whether the magnitude is at least a whole number. -/
def AtLeast (w : Written) (bound : Nat) : Prop :=
  bound * Nat.pow 10 w.places ≤ digitsValue w.figures

instance (w : Written) (bound : Nat) : Decidable (w.AtLeast bound) :=
  inferInstanceAs (Decidable (_ ≤ _))

end Written

end MetricIngest.Numeral
