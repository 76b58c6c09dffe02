/-
  Numbers in decimal notation.

  A plain numeral is a run of digits with at most one point and at least one
  digit; `plain?` reads it. `general?` reads what number fields elsewhere may
  hold as well: a sign, an exponent and the names of the values that no digits
  can write.
-/
import MetricIngest.Number.Binary64

namespace MetricIngest.Numeral

/-- Whether a character is a decimal digit of ASCII. -/
def isDigit (c : Char) : Bool := '0' ≤ c && c ≤ '9'

/-- The value of a run of ASCII digits. -/
def digitsValue (cs : List Char) : Nat :=
  cs.foldl (fun n c => n * 10 + (c.toNat - 0x30)) 0

/-- The value of a non-empty run of ASCII digits. -/
def natural? (cs : List Char) : Option Nat :=
  if cs ≠ [] ∧ cs.all isDigit then some (digitsValue cs) else none

/-- A decimal: `digits * 10 ^ exponent`, with the number of digits written. -/
structure Decimal where
  size : Nat
  digits : Nat
  exponent : Int
deriving Repr, DecidableEq

/-- The nearest 64-bit number with a sign. -/
def Decimal.toBinary64 (d : Decimal) (negative : Bool) : Binary64 :=
  Binary64.ofDecimal negative d.size d.digits d.exponent

/-- Read digits with at most one point among them and at least one digit. -/
def plain? (cs : List Char) : Option Decimal :=
  let whole := cs.takeWhile isDigit
  match cs.dropWhile isDigit with
  | [] => if whole = [] then none else some ⟨whole.length, digitsValue whole, 0⟩
  | c :: part =>
    if c = '.' ∧ part.all isDigit ∧ ¬ (whole = [] ∧ part = []) then
      some ⟨(whole ++ part).length, digitsValue (whole ++ part), -(part.length : Int)⟩
    else none

/-- A sign in front of a text: whether it is a minus, and the rest. -/
def takeSign : List Char → Bool × List Char
  | '-' :: cs => (true, cs)
  | '+' :: cs => (false, cs)
  | cs => (false, cs)

/-- Read a whole number with an optional sign. -/
def integer? (cs : List Char) : Option Int :=
  let (negative, digits) := takeSign cs
  (natural? digits).map fun n => if negative then -(n : Int) else n

/-- Read a plain numeral that may be followed by `e` and an exponent. -/
def scientific? (cs : List Char) : Option Decimal :=
  let isMark (c : Char) : Bool := c = 'e' || c = 'E'
  let mantissa := cs.takeWhile fun c => !isMark c
  match cs.dropWhile fun c => !isMark c with
  | [] => plain? mantissa
  | _ :: exponent => do
    let d ← plain? mantissa
    let e ← integer? exponent
    return { d with exponent := d.exponent + e }

/-- Read a number in any notation: signed, with an exponent, or by name. -/
def general? (cs : List Char) : Option Binary64 :=
  let (negative, rest) := takeSign cs
  let name := (String.ofList rest).toLower
  if name = "inf" ∨ name = "infinity" then some (.infinity negative)
  else if name = "nan" then some { Binary64.nan with negative }
  else (scientific? rest).map (·.toBinary64 negative)

end MetricIngest.Numeral
