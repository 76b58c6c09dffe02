/-
  JSON values and their text.

  `Value.compact` writes a value on one line without spaces, `Value.pretty`
  with a line for each member and two spaces of indentation per level. Members
  of an object are written in the order they are listed. A 64-bit number is
  written with the fewest digits that read back to it, in the layout of
  `numberLayout`; a number that is infinite or no number is written `null`.
-/
import MetricIngest.Number.Shortest

namespace MetricIngest.Json

/-- A JSON value. Whole numbers are kept apart from 64-bit ones. -/
inductive Value where
  | null
  | bool (b : Bool)
  | int (n : Int)
  | number (x : Binary64)
  | string (s : String)
  | array (items : List Value)
  | object (members : List (String × Value))
deriving Repr, Inhabited

/-! ### Numbers -/

/-- The decimal digits of a natural number. -/
def digitsOf (n : Nat) : List Char := Nat.toDigits 10 n

/-- How a decimal is laid out: the places of the decimal point, counted from
the first digit, for which no exponent is written. -/
structure NumberLayout where
  lowest : Int
  highest : Int

/-- The point stands up to five places before the first digit and up to sixteen
after it; beyond that there is an exponent, with its sign. -/
def numberLayout : NumberLayout := ⟨-4, 16⟩

/-- The text of a positive decimal. -/
def NumberLayout.render (layout : NumberLayout) (d : Shortest.Digits) : List Char :=
  let digits := digitsOf d.digits
  let point : Int := digits.length + d.exponent
  if layout.lowest ≤ point ∧ point ≤ layout.highest then
    if point ≤ 0 then
      ['0', '.'] ++ List.replicate (-point).toNat '0' ++ digits
    else if 0 ≤ d.exponent then
      digits ++ List.replicate d.exponent.toNat '0' ++ ['.', '0']
    else
      digits.take point.toNat ++ '.' :: digits.drop point.toNat
  else
    let fraction := match digits.drop 1 with
      | [] => []
      | rest => '.' :: rest
    let exponent := point - 1
    digits.take 1 ++ fraction ++ 'e' :: (if exponent < 0 then '-' else '+')
      :: digitsOf exponent.natAbs

/-- The text of a number: zero keeps its sign, what is not finite is `null`. -/
def numberText (x : Binary64) : List Char :=
  if x.isFinite then
    (if x.negative then ['-'] else [])
      ++ (if x.magnitude.val = 0 then ['0', '.', '0']
          else numberLayout.render (Shortest.digits x))
  else ['n', 'u', 'l', 'l']

/-- The text of a whole number. -/
def intText (n : Int) : List Char :=
  if n < 0 then '-' :: digitsOf n.natAbs else digitsOf n.natAbs

/-! ### Strings -/

/-- A digit of a number written in base sixteen, in lower case. -/
def hexDigit (d : Nat) : Char :=
  if d < 10 then Char.ofNat (0x30 + d) else Char.ofNat (0x57 + d)

/-- The written form of a character inside a string: quote, backslash and the
controls below the space are escaped, everything else stands for itself. -/
def escapeChar (c : Char) : List Char :=
  if c = '"' then ['\\', '"']
  else if c = '\\' then ['\\', '\\']
  else if c.toNat = 0x08 then ['\\', 'b']
  else if c.toNat = 0x0C then ['\\', 'f']
  else if c = '\n' then ['\\', 'n']
  else if c = '\r' then ['\\', 'r']
  else if c = '\t' then ['\\', 't']
  else if c.toNat < 0x20 then
    ['\\', 'u', '0', '0', hexDigit (c.toNat / 16), hexDigit (c.toNat % 16)]
  else [c]

/-- The written form of a string. -/
def stringText (s : String) : List Char :=
  '"' :: s.toList.flatMap escapeChar ++ ['"']

/-! ### Values -/

mutual

/-- The text of a value on one line. -/
def Value.compactChars : Value → List Char
  | .null => ['n', 'u', 'l', 'l']
  | .bool true => ['t', 'r', 'u', 'e']
  | .bool false => ['f', 'a', 'l', 's', 'e']
  | .int n => intText n
  | .number x => numberText x
  | .string s => stringText s
  | .array [] => ['[', ']']
  | .array (v :: vs) => '[' :: v.compactChars ++ compactItems vs
  | .object [] => ['\x7b', '\x7d']
  | .object ((k, v) :: ms) => '\x7b' :: stringText k ++ ':' :: v.compactChars ++ compactMembers ms

/-- The rest of an array after its first item. -/
def compactItems : List Value → List Char
  | [] => [']']
  | v :: vs => ',' :: v.compactChars ++ compactItems vs

/-- The rest of an object after its first member. -/
def compactMembers : List (String × Value) → List Char
  | [] => ['\x7d']
  | (k, v) :: ms => ',' :: stringText k ++ ':' :: v.compactChars ++ compactMembers ms

end

/-- A line break and the indentation of a level. -/
def newLine (level : Nat) : List Char :=
  '\n' :: List.replicate (2 * level) ' '

mutual

/-- The text of a value over several lines, at a level of indentation. -/
def Value.prettyChars (level : Nat) : Value → List Char
  | .array [] => ['[', ']']
  | .array (v :: vs) =>
    '[' :: newLine (level + 1) ++ v.prettyChars (level + 1) ++ prettyItems level vs
  | .object [] => ['\x7b', '\x7d']
  | .object ((k, v) :: ms) =>
    '\x7b' :: newLine (level + 1) ++ stringText k ++ ':' :: ' ' :: v.prettyChars (level + 1)
      ++ prettyMembers level ms
  | v => v.compactChars

/-- The rest of an array after its first item. -/
def prettyItems (level : Nat) : List Value → List Char
  | [] => newLine level ++ [']']
  | v :: vs =>
    ',' :: newLine (level + 1) ++ v.prettyChars (level + 1) ++ prettyItems level vs

/-- The rest of an object after its first member. -/
def prettyMembers (level : Nat) : List (String × Value) → List Char
  | [] => newLine level ++ ['\x7d']
  | (k, v) :: ms =>
    ',' :: newLine (level + 1) ++ stringText k ++ ':' :: ' ' :: v.prettyChars (level + 1)
      ++ prettyMembers level ms

end

/-- The text of a value on one line without spaces. -/
def Value.compact (v : Value) : String := String.ofList v.compactChars

/-- The text of a value with a line for each member. -/
def Value.pretty (v : Value) : String := String.ofList (v.prettyChars 0)

end MetricIngest.Json
