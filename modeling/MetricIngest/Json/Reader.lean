/-
  Reading JSON text.

  `Value.read?` reads a whole text as one value with blanks around it, after the grammar of
  JSON: literals, numbers, strings with their escapes, arrays and objects. A number with a point
  or an exponent is the nearest 64-bit one, another is whole. A string is read as code points
  first, of which an escape gives one; two of them that are the halves of a surrogate pair are
  then one character. The members of an object stay in the order of the text, repeated keys
  included.

  The functions take the value off the front of a text and return what follows it. Those that
  call each other take a bound on the length of the text, which no value exceeds.
-/
import MetricIngest.Json.Value
import MetricIngest.Number.Numeral
import MetricIngest.Text.Split

namespace MetricIngest.Json

/-! ### Blanks -/

/-- Whether a character may stand between tokens. -/
def isBlank (c : Char) : Bool := c = ' ' || c = '\t' || c = '\n' || c = '\r'

/-- The text after its blanks. -/
def skipBlanks (cs : List Char) : List Char := cs.dropWhile isBlank

/-! ### Numbers -/

/-- Read a run of digits, at least one. -/
def readDigits? (cs : List Char) : Option (List Char × List Char) :=
  let digits := cs.takeWhile Numeral.isDigit
  if digits = [] then none else some (digits, cs.dropWhile Numeral.isDigit)

/-- Read the digits before the point: a zero, or digits that do not begin with one. -/
def readWhole? (cs : List Char) : Option (List Char × List Char) :=
  (readDigits? cs).filter fun (digits, _) => digits = ['0'] || digits.head? ≠ some '0'

/-- Read a point and the digits after it, if there is a point. -/
def readFraction? : List Char → Option (Option (List Char) × List Char)
  | [] => some (none, [])
  | c :: cs =>
    if c = '.' then (readDigits? cs).map fun (digits, rest) => (some digits, rest)
    else some (none, c :: cs)

/-- Read an exponent with its mark and perhaps a sign, if there is a mark. -/
def readExponent? : List Char → Option (Option Int × List Char)
  | [] => some (none, [])
  | c :: cs =>
    if c = 'e' ∨ c = 'E' then
      let (negative, cs) := Numeral.takeSign cs
      (readDigits? cs).map fun (digits, rest) =>
        let n : Int := Numeral.digitsValue digits
        (some (if negative then -n else n), rest)
    else some (none, c :: cs)

/-- The number with these parts. -/
def numberOf (negative : Bool) (whole : List Char) (fraction : Option (List Char))
    (exponent : Option Int) : Value :=
  if fraction = none ∧ exponent = none then
    let n : Int := Numeral.digitsValue whole
    .int (if negative then -n else n)
  else
    let part := fraction.getD []
    .number (Binary64.ofDecimal negative (whole ++ part).length
      (Numeral.digitsValue (whole ++ part)) (exponent.getD 0 - part.length))

/-- Take a minus off the front of a text, if there is one. -/
def takeMinus : List Char → Bool × List Char
  | [] => (false, [])
  | c :: cs => if c = '-' then (true, cs) else (false, c :: cs)

/-- Read a number. -/
def readNumber? (cs : List Char) : Option (Value × List Char) := do
  let (negative, cs) := takeMinus cs
  let (whole, cs) ← readWhole? cs
  let (fraction, cs) ← readFraction? cs
  let (exponent, cs) ← readExponent? cs
  return (numberOf negative whole fraction exponent, cs)

/-! ### Strings -/

/-- The value of a digit in base sixteen. -/
def hexValue? (c : Char) : Option Nat :=
  if '0' ≤ c ∧ c ≤ '9' then some (c.toNat - 0x30)
  else if 'a' ≤ c ∧ c ≤ 'f' then some (c.toNat - 0x57)
  else if 'A' ≤ c ∧ c ≤ 'F' then some (c.toNat - 0x37)
  else none

/-- The value of four such digits. -/
def hexCode? (a b c d : Char) : Option Nat := do
  let a ← hexValue? a
  let b ← hexValue? b
  let c ← hexValue? c
  let d ← hexValue? d
  return ((a * 16 + b) * 16 + c) * 16 + d

/-- The code point that a letter after a backslash stands for. -/
def escapeCode? (c : Char) : Option Nat :=
  if c = '"' ∨ c = '\\' ∨ c = '/' then some c.toNat
  else if c = 'b' then some 0x08
  else if c = 'f' then some 0x0C
  else if c = 'n' then some 0x0A
  else if c = 'r' then some 0x0D
  else if c = 't' then some 0x09
  else none

/-- Read the code points of a string up to the quote that ends it. -/
def readCodes? : List Char → Option (List Nat × List Char)
  | [] => none
  | c :: cs =>
    if c = '"' then some ([], cs)
    else if c = '\\' then
      match cs with
      | [] => none
      | e :: cs =>
        if e = 'u' then
          match cs with
          | a :: b :: c :: d :: cs =>
            (hexCode? a b c d).bind fun code => (readCodes? cs).map fun (codes, rest) =>
              (code :: codes, rest)
          | _ => none
        else
          (escapeCode? e).bind fun code => (readCodes? cs).map fun (codes, rest) =>
            (code :: codes, rest)
    else if c.toNat < 0x20 then none
    else (readCodes? cs).map fun (codes, rest) => (c.toNat :: codes, rest)

theorem readCodes?_quote (cs : List Char) : readCodes? ('"' :: cs) = some ([], cs) := by
  rw [readCodes?.eq_def]
  rfl

/-- Whether a code point is the first half of a surrogate pair. -/
def IsHighSurrogate (code : Nat) : Prop := 0xD800 ≤ code ∧ code < 0xDC00

/-- Whether a code point is the second half of a surrogate pair. -/
def IsLowSurrogate (code : Nat) : Prop := 0xDC00 ≤ code ∧ code < 0xE000

instance (code : Nat) : Decidable (IsHighSurrogate code) := inferInstanceAs (Decidable (_ ∧ _))

instance (code : Nat) : Decidable (IsLowSurrogate code) := inferInstanceAs (Decidable (_ ∧ _))

/-- The characters of code points, unless there is half of a pair without the other. -/
def ofCodes? : List Nat → Option (List Char)
  | [] => some []
  | code :: codes =>
    if IsHighSurrogate code then
      match codes with
      | [] => none
      | low :: codes =>
        if IsLowSurrogate low then
          (ofCodes? codes).map fun cs =>
            Char.ofNat (0x10000 + (code - 0xD800) * 0x400 + (low - 0xDC00)) :: cs
        else none
    else if IsLowSurrogate code then none
    else (ofCodes? codes).map fun cs => Char.ofNat code :: cs

/-- Read the rest of a string after the quote that begins it. -/
def readString? (cs : List Char) : Option (String × List Char) := do
  let (codes, rest) ← readCodes? cs
  let chars ← ofCodes? codes
  return (String.ofList chars, rest)

/-! ### Values -/

/-- Take a character off the front of a text, after blanks. -/
def readMark? (mark : Char) (cs : List Char) : Option (List Char) :=
  Text.dropLead? [mark] (skipBlanks cs)

/-- Read a key and the colon after it. -/
def readKey? (cs : List Char) : Option (String × List Char) := do
  let cs ← readMark? '"' cs
  let (key, cs) ← readString? cs
  let cs ← readMark? ':' cs
  return (key, cs)

/-- Read a literal or a number. -/
def readPlain? (cs : List Char) : Option (Value × List Char) :=
  match Text.dropLead? ['n', 'u', 'l', 'l'] cs with
  | some rest => some (.null, rest)
  | none =>
    match Text.dropLead? ['t', 'r', 'u', 'e'] cs with
    | some rest => some (.bool true, rest)
    | none =>
      match Text.dropLead? ['f', 'a', 'l', 's', 'e'] cs with
      | some rest => some (.bool false, rest)
      | none => readNumber? cs

mutual

/-- Read a value. -/
def readValue? : (bound : Nat) → List Char → Option (Value × List Char)
  | 0, _ => none
  | bound + 1, cs =>
    match skipBlanks cs with
    | [] => none
    | c :: cs =>
      if c = '"' then (readString? cs).map fun (s, rest) => (.string s, rest)
      else if c = '[' then
        match readMark? ']' cs with
        | some rest => some (.array [], rest)
        | none => do
          let (v, rest) ← readValue? bound cs
          let (vs, rest) ← readItems? bound rest
          return (.array (v :: vs), rest)
      else if c = '\x7b' then
        match readMark? '\x7d' cs with
        | some rest => some (.object [], rest)
        | none => do
          let (k, rest) ← readKey? cs
          let (v, rest) ← readValue? bound rest
          let (ms, rest) ← readMembers? bound rest
          return (.object ((k, v) :: ms), rest)
      else readPlain? (c :: cs)

/-- Read the rest of an array after its first item. -/
def readItems? : (bound : Nat) → List Char → Option (List Value × List Char)
  | 0, _ => none
  | bound + 1, cs =>
    match readMark? ']' cs with
    | some rest => some ([], rest)
    | none => do
      let rest ← readMark? ',' cs
      let (v, rest) ← readValue? bound rest
      let (vs, rest) ← readItems? bound rest
      return (v :: vs, rest)

/-- Read the rest of an object after its first member. -/
def readMembers? : (bound : Nat) → List Char → Option (List (String × Value) × List Char)
  | 0, _ => none
  | bound + 1, cs =>
    match readMark? '\x7d' cs with
    | some rest => some ([], rest)
    | none => do
      let rest ← readMark? ',' cs
      let (k, rest) ← readKey? rest
      let (v, rest) ← readValue? bound rest
      let (ms, rest) ← readMembers? bound rest
      return ((k, v) :: ms, rest)

end

mutual

/-- What the text of a value says: a number that is not finite is `null` there. -/
def Value.shown : Value → Value
  | .number x => if x.isFinite then .number x else .null
  | .array items => .array (shownItems items)
  | .object members => .object (shownMembers members)
  | v => v

/-- What the texts of items say. -/
def shownItems : List Value → List Value
  | [] => []
  | v :: vs => v.shown :: shownItems vs

/-- What the texts of members say. -/
def shownMembers : List (String × Value) → List (String × Value)
  | [] => []
  | (k, v) :: ms => (k, v.shown) :: shownMembers ms

end

/-- Read a text as one value. -/
def Value.read? (cs : List Char) : Option Value :=
  match readValue? cs.length cs with
  | some (v, rest) => if rest.all isBlank then some v else none
  | none => none

end MetricIngest.Json
