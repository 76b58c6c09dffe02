/-
  The texts of times, and the way from a text to a time.

  `Line.secondsOf` is the number of seconds that a text of ten digits or more says, with a point
  behind the tenth.

  `FractionMode.timestamp?` says which time a text has; `FractionMode.readTime` goes there step by
  step, in bytes and machine words. It looks at each byte, cuts the text behind its tenth byte and
  reads the parts digit by digit, with the zeros that a fraction needs behind it. Every number has
  to fit its word, every cut has to be between two characters, and the whole seconds of every time
  have to fit a word. The first step that fails ends the way, and its fault says which it was.
-/
import Mathlib.Data.Rat.Defs
import MetricIngest.Line.Time
import MetricIngest.Text.Ascii

namespace MetricIngest

/-! ### What a text says -/

namespace Line

/-- Ten digits for whole seconds and at least one digit behind them. -/
structure Fractional (cs first rest : List Char) : Prop where
  glued : cs = first ++ rest
  digits : ∀ c ∈ cs, Text.IsDigit c
  ten : first.length = 10
  ne_nil : rest ≠ []

/-- The seconds that a text of digits says when a point is put behind the tenth. -/
def secondsOf (cs : List Char) : ℚ := Numeral.digitsValue cs / 10 ^ (cs.length - 10)

end Line

/-! ### Steps that may fail -/

/-- What a step on the way to a time fails at. -/
inductive TimeFault where
  /-- The text is empty, or not all of its bytes are digits. -/
  | text
  /-- A cut would be inside a character or behind the text. -/
  | cut
  /-- The whole seconds that the text says do not fit an unsigned word of 64 bits. -/
  | seconds
  /-- The digits of a fraction and the zeros behind them do not fit their word. -/
  | fraction
  /-- The nanoseconds of a fraction do not fit a signed word of 64 bits. -/
  | nanos
  /-- The whole seconds of a time do not fit a signed word of 64 bits. -/
  | sum
deriving Repr, DecidableEq

namespace FractionMode

/-- A number that has to fit a word. -/
def fit (fault : TimeFault) (most n : Nat) : Except TimeFault Nat :=
  if n ≤ most then .ok n else .error fault

/-- Whether a byte is a digit of ASCII. -/
def isDigitByte (b : UInt8) : Bool := 0x30 ≤ b && b ≤ 0x39

/-- The byte of the digit zero. -/
def zeroByte : UInt8 := 0x30

/-- Whether a byte goes on with a character that began before it. -/
def isContinuation (b : UInt8) : Bool := 0x80 ≤ b && b < 0xC0

/-- The bytes before a place and those behind it. -/
def cut (place : Nat) (bytes : List UInt8) : Except TimeFault (List UInt8 × List UInt8) :=
  match bytes[place]? with
  | some b =>
    if isContinuation b then .error .cut else .ok (bytes.take place, bytes.drop place)
  | none => if place = bytes.length then .ok (bytes, []) else .error .cut

/-- The number of a run of digits, which has to fit a word after each digit. -/
def readWord (fault : TimeFault) (most : Nat) (bytes : List UInt8) : Except TimeFault Nat :=
  bytes.foldlM (fun n b => fit fault most (n * 10 + (b.toNat - 0x30))) 0

/-- The time some nanoseconds later. -/
def later (t : Timestamp) (nanos : Nat) : Except TimeFault Timestamp :=
  let sum : Timestamp := ⟨t.nanos + nanos⟩
  if Int64.minValue.toInt ≤ sum.seconds ∧ sum.seconds ≤ Int64.maxValue.toInt then .ok sum
  else .error .sum

/-! ### The way to a time -/

/-- The nanoseconds of the digits behind the tenth. -/
def readFraction (mode : FractionMode) (fraction : List UInt8) : Except TimeFault Nat :=
  match mode with
  | .compat => do
    let padded := fraction ++ List.replicate fraction.length zeroByte
    let count ← readWord .fraction wordMax padded
    fit .nanos wordMax (count * Timestamp.perMilli)
  | .exact => do
    let (kept, _) ← cut (min fraction.length nanosDigits) fraction
    let padded := kept ++ List.replicate (nanosDigits - kept.length) zeroByte
    readWord .fraction (UInt32.size - 1) padded

/-- The time of a text that is given as bytes. -/
def readTime (mode : FractionMode) (bytes : List UInt8) : Except TimeFault Timestamp :=
  if bytes = [] ∨ ¬ bytes.all isDigitByte then .error .text
  else if bytes.length ≤ secondsDigits then do
    let whole ← readWord .seconds (UInt64.size - 1) bytes
    later .epoch (whole * Timestamp.perSecond)
  else do
    let (first, fraction) ← cut secondsDigits bytes
    let nanos := mode.readFraction fraction
    let whole ← readWord .seconds (UInt64.size - 1) first
    let start ← later .epoch (whole * Timestamp.perSecond)
    later start (← nanos)

end FractionMode

end MetricIngest
