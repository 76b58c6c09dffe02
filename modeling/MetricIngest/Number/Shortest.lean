/-
  The shortest decimal that reads back to a given number.

  A finite number is the nearest one to every real in an interval around it;
  the ends of the interval belong to it when the significand is even.
  `digits` takes the coarsest decimal grid with a point in that interval, and of
  the points there the one nearest to the number, the even one of two that are
  equally near. If a grid has a point in the interval, one of the number's
  two neighbours on that grid is such a point, so only those are tried.
-/
import MetricIngest.Number.Binary64

namespace MetricIngest.Shortest

/-- The interval of reals that round to a number, and the number itself, in
quarters of `2 ^ scale`. -/
structure Interval where
  low : Nat
  centre : Nat
  high : Nat
  closed : Bool
  scale : Int
deriving Repr

/-- The interval of a finite number. Below a power of two the neighbours are
half as far apart as above it. -/
def Interval.of (x : Binary64) : Interval :=
  let m := x.significand
  let narrow := m = Binary64.exponentUnit ∧ x.scale > -1074
  ⟨4 * m - (if narrow then 1 else 2), 4 * m, 4 * m + 2, m % 2 = 0, x.scale - 2⟩

/-- A power of ten as a quotient. -/
def tenPower (k : Int) : Nat × Nat :=
  (Nat.pow 10 k.toNat, Nat.pow 10 (-k).toNat)

/-- Whether the decimal `d * 10 ^ k` lies in the interval. -/
def Interval.holds (i : Interval) (d : Nat) (k : Int) : Bool :=
  let unit := Binary64.twoPower i.scale
  let ten := tenPower k
  let point := d * ten.1 * unit.2
  let low := i.low * unit.1 * ten.2
  let high := i.high * unit.1 * ten.2
  if i.closed then low ≤ point && point ≤ high else low < point && point < high

/-- The exponent of the greatest power of ten not above the centre. -/
def Interval.magnitude (i : Interval) : Int :=
  let unit := Binary64.twoPower i.scale
  let estimate : Int := (((i.centre.log2 : Int) + i.scale) * 1233) / 4096
  let reaches (p : Int) : Bool := (tenPower p).1 * unit.2 ≤ i.centre * unit.1 * (tenPower p).2
  if reaches (estimate + 1) then estimate + 1
  else if reaches estimate then estimate
  else estimate - 1

/-- A whole number of powers of ten. -/
structure Digits where
  digits : Nat
  exponent : Int
deriving Repr, DecidableEq

/-- Of the centre's two neighbours on the grid of multiples of `10 ^ k`, the
nearest that lies in the interval. -/
def Interval.onGrid? (i : Interval) (k : Int) : Option Digits :=
  let unit := Binary64.twoPower i.scale
  let ten := tenPower k
  let num := i.centre * unit.1 * ten.2
  let den := unit.2 * ten.1
  let near := Binary64.divNearest num den
  let far := if near = num / den then num / den + 1 else num / den
  if i.holds near k then some ⟨near, k⟩
  else if i.holds far k then some ⟨far, k⟩
  else none

/-- The first grid with a point in the interval, from the one that keeps
`places` digits on to finer ones. -/
def Interval.search (i : Interval) (top : Int) : (fuel : Nat) → (places : Int) → Digits
  | 0, places => ⟨Binary64.divNearest (i.centre * (Binary64.twoPower i.scale).1
      * (tenPower (top - places)).2)
      ((Binary64.twoPower i.scale).2 * (tenPower (top - places)).1), top - places⟩
  | fuel + 1, places =>
    match i.onGrid? (top - places) with
    | some d => d
    | none => i.search top fuel (places + 1)

/-- Take the zeros off the end of the digits. -/
def Digits.trim (d : Digits) : Digits :=
  if _h : d.digits ≠ 0 ∧ d.digits % 10 = 0 then trim ⟨d.digits / 10, d.exponent + 1⟩ else d
termination_by d.digits
decreasing_by omega

/-- The shortest decimal that reads back to the absolute value of a finite
number; seventeen digits are always enough. -/
def digits (x : Binary64) : Digits :=
  if x.significand = 0 then ⟨0, 0⟩
  else
    let i := Interval.of x
    (i.search i.magnitude 17 0).trim

end MetricIngest.Shortest
