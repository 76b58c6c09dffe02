/-
  Texts in quotation marks, as messages show them.

  A quoted text stands between double quotes. The quote, the backslash and the
  common controls are written as two characters; whatever would not be seen as
  a character of its own is written as its code point in braces; everything
  else stands for itself.
-/
import MetricIngest.Unicode.Property

namespace MetricIngest.Text.Quoted

open MetricIngest.Unicode

/-- The characters without a visible form of their own: controls, formats,
surrogates, private and unassigned code points, and all separators. -/
def unprintable : CodePoints :=
  CodePoints.ofRanges
    (([Category.control, .format, .surrogate, .privateUse, .unassigned, .lineSeparator,
        .paragraphSeparator, .spaceSeparator].map fun c => c.members.ranges).flatten)

/-- The characters that attach themselves to the one before. -/
def extending : CodePoints := Property.graphemeExtend.members

/-- Whether a character is written as its code point. -/
def isHidden (c : Char) : Bool :=
  if c = ' ' then false
  else if c.toNat < 0x7F then c.toNat < 0x20
  else extending.contains c.toNat || unprintable.contains c.toNat

/-- A digit of a number written in base sixteen, in lower case. -/
def hexChar (d : Nat) : Char :=
  if d < 10 then Char.ofNat (0x30 + d) else Char.ofNat (0x57 + d)

/-- A number in base sixteen, without leading zeros. -/
def hex (n : Nat) : List Char :=
  if n < 16 then [hexChar n] else hex (n / 16) ++ [hexChar (n % 16)]

/-- The written form of one character. -/
def encodeChar (c : Char) : List Char :=
  if c = '"' then ['\\', '"']
  else if c = '\\' then ['\\', '\\']
  else if c = '\n' then ['\\', 'n']
  else if c = '\r' then ['\\', 'r']
  else if c = '\t' then ['\\', 't']
  else if c.toNat = 0 then ['\\', '0']
  else if isHidden c then ['\\', 'u', '\x7b'] ++ hex c.toNat ++ ['\x7d']
  else [c]

/-- The written form of a text, with its quotes. -/
def encode (s : String) : String :=
  String.ofList ('"' :: s.toList.flatMap encodeChar ++ ['"'])

end MetricIngest.Text.Quoted
