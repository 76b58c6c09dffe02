/-
  Binary floating-point numbers of 64 bits.

  `Binary64` is a sign and a position on the line of non-negative numbers: the
  encodings of non-negative numbers are ordered as their values are, so one
  natural number below 2^63 gives exponent and fraction together. A finite
  number has the value `significand * 2 ^ scale`. `roundRatio` is the nearest
  such number to a quotient, the one with the even encoding of two that are
  equally near, and `ofDecimal` applies it to a decimal.
-/

namespace MetricIngest

/-- A 64-bit binary floating-point number. -/
structure Binary64 where
  negative : Bool
  magnitude : Fin 0x8000000000000000
deriving Repr, DecidableEq

namespace Binary64

/-! ### Encoding -/

/-- The magnitude of the infinities; the magnitudes above it are those of NaN. -/
def infinityMagnitude : Nat := 0x7FF0000000000000

/-- The number of fraction bits as a power: the distance of neighbouring exponents. -/
def exponentUnit : Nat := 0x10000000000000

/-- The value zero. -/
def zero : Binary64 := ⟨false, 0⟩

instance : Inhabited Binary64 := ⟨zero⟩

/-- An infinity. -/
def infinity (negative : Bool) : Binary64 := ⟨negative, 0x7FF0000000000000⟩

/-- The value that is no number. -/
def nan : Binary64 := ⟨false, 0x7FF8000000000000⟩

/-- Whether the value is a number other than the infinities. -/
def isFinite (x : Binary64) : Bool := x.magnitude.val < infinityMagnitude

/-- Whether the value is no number. -/
def isNaN (x : Binary64) : Bool := infinityMagnitude < x.magnitude.val

/-- The 64 bits of the encoding. -/
def bits (x : Binary64) : Nat :=
  (if x.negative then 0x8000000000000000 else 0) + x.magnitude.val

/-- The value with its sign turned. -/
def negate (x : Binary64) : Binary64 := { x with negative := !x.negative }

/-! ### Value -/

/-- The whole number that is scaled by a power of two. -/
def significand (x : Binary64) : Nat :=
  if x.magnitude.val < exponentUnit then x.magnitude.val
  else exponentUnit + x.magnitude.val % exponentUnit

/-- The exponent of the power of two. -/
def scale (x : Binary64) : Int :=
  (max (x.magnitude.val / exponentUnit) 1 : Nat) - 1075

/-- A power of two as a quotient. -/
def twoPower (e : Int) : Nat × Nat :=
  (Nat.pow 2 e.toNat, Nat.pow 2 (-e).toNat)

/-- The absolute value of a finite number as a quotient. -/
def ratio (x : Binary64) : Nat × Nat :=
  (x.significand * (twoPower x.scale).1, (twoPower x.scale).2)

/-! ### Rounding -/

/-- The least magnitude that is rounded to an infinity, `2 ^ 1024 - 2 ^ 970`. It lies in the
middle between the greatest finite number and the power of two after it, of which the power of
two is the even one. -/
def overflow : Nat := (Nat.pow 2 54 - 1) * (twoPower 970).1

/-- The whole number nearest to a quotient, the even one of two that are equally near. -/
def divNearest (num den : Nat) : Nat :=
  let q := num / den
  let r := num % den
  if 2 * r < den then q
  else if den < 2 * r then q + 1
  else q + q % 2

/-- The exponent of the greatest power of two not above a positive quotient. -/
def floorLog (num den : Nat) : Int :=
  let k : Int := (num.log2 : Int) - den.log2
  if num * (twoPower k).2 < den * (twoPower k).1 then k - 1 else k

/-- The magnitude nearest to a quotient; that of infinity when the quotient is
too large. A significand that rounds up to the next power of two carries into
the exponent by itself. -/
def roundRatio (num den : Nat) : Fin 0x8000000000000000 :=
  if num = 0 then 0
  else
    let e := max (floorLog num den - 52) (-1074)
    let m := divNearest (num * (twoPower e).2) (den * (twoPower e).1)
    Fin.ofNat _ (min ((e + 1074).toNat * exponentUnit + m) infinityMagnitude)

/-- The number nearest to a quotient with a sign. -/
def ofRatio (negative : Bool) (num den : Nat) : Binary64 :=
  ⟨negative, roundRatio num den⟩

/-- The number nearest to a natural number. -/
def ofNat (n : Nat) : Binary64 := ofRatio false n 1

/-- The number nearest to `digits * 10 ^ exponent` with a sign. `size` is the
number of decimal digits; quotients far outside the range of the type are not
computed, they are infinite or zero. -/
def ofDecimal (negative : Bool) (size digits : Nat) (exponent : Int) : Binary64 :=
  if digits = 0 then ⟨negative, 0⟩
  else if (size : Int) + exponent < -330 then ⟨negative, 0⟩
  else if 0 ≤ exponent then
    if 400 < exponent then infinity negative
    else ofRatio negative (digits * Nat.pow 10 exponent.toNat) 1
  else ofRatio negative digits (Nat.pow 10 (-exponent).toNat)

/-! ### Order -/

/-- The place of a number other than NaN on the line, with both zeros at zero. -/
def position (x : Binary64) : Int :=
  if x.negative then -(x.magnitude.val : Int) else x.magnitude.val

/-- Whether one number is below another; NaN is below and above nothing. -/
def lt (x y : Binary64) : Bool :=
  !x.isNaN && !y.isNaN && x.position < y.position

/-- Whether one number is not above another; false when either is NaN. -/
def le (x y : Binary64) : Bool :=
  !x.isNaN && !y.isNaN && x.position ≤ y.position

end Binary64

end MetricIngest
