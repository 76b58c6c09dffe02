/-
  The times that lines carry.

  The first ten digits of a time are whole seconds since the epoch. What follows
  is read in one of two ways. In the exact way it is a decimal fraction of a
  second, cut to nanoseconds. In the compatible way it is followed by as many
  zeros as it has digits and read as a count of milliseconds, which must fit a
  64-bit word when counted in nanoseconds. A text that cannot be read gives the
  current time.
-/
import MetricIngest.Number.Numeral
import MetricIngest.Time.Timestamp

namespace MetricIngest

/-- How the digits after the tenth are read. -/
inductive FractionMode where
  | compat
  | exact
deriving Repr, DecidableEq, Inhabited

namespace FractionMode

/-- The number of digits that hold whole seconds. -/
def secondsDigits : Nat := 10

/-- The number of digits of a nanosecond. -/
def nanosDigits : Nat := 9

/-- The greatest value of a signed 64-bit word. -/
def wordMax : Nat := 0x7FFFFFFFFFFFFFFF

/-- The nanoseconds of a fraction in the compatible way. -/
def compatOffset? (fraction : List Char) : Option Nat :=
  let count := Numeral.digitsValue (fraction ++ List.replicate fraction.length '0')
  if wordMax < count then none
  else if wordMax < count * Timestamp.perMilli then none
  else some (count * Timestamp.perMilli)

/-- The nanoseconds of a fraction in the exact way. -/
def exactOffset (fraction : List Char) : Nat :=
  let kept := fraction.take nanosDigits
  Numeral.digitsValue (kept ++ List.replicate (nanosDigits - kept.length) '0')

/-- The nanoseconds that the digits after the tenth stand for. -/
def offset? (mode : FractionMode) (fraction : List Char) : Option Nat :=
  match mode with
  | .compat => compatOffset? fraction
  | .exact => some (exactOffset fraction)

/-- The time of a text of digits, if it can be read. -/
def timestamp? (mode : FractionMode) (cs : List Char) : Option Timestamp :=
  if cs = [] ∨ ¬ cs.all Numeral.isDigit then none
  else if cs.length ≤ secondsDigits then some (.ofSeconds (Numeral.digitsValue cs))
  else
    (mode.offset? (cs.drop secondsDigits)).map fun nanos =>
      .ofSeconds (Numeral.digitsValue (cs.take secondsDigits)) nanos

/-- The time of a text, or the current time. -/
def timestamp (mode : FractionMode) (cs : List Char) (now : Timestamp) : Timestamp :=
  (mode.timestamp? cs).getD now

end FractionMode

end MetricIngest
