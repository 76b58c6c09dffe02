/-
  The two forms of a line.

  A line is either a path, a value and perhaps a time with single spaces
  between them, or a name, a comma, tag fields, a space and a value that may be
  marked as such. Names and paths are made of ASCII letters, digits,
  underscores, points and dashes; values and fields hold no white space; a time
  has at least ten digits. Line ends are not part of the line.
-/
import MetricIngest.Number.Numeral
import MetricIngest.Text.Split
import MetricIngest.Text.WhiteSpace

namespace MetricIngest

/-- A line that has one of the two forms, cut into its parts. -/
inductive Line where
  /-- A path, a value and a time, which is empty when the line has none. -/
  | dotted (path value time : List Char)
  /-- A name, tag fields and a value. -/
  | tagged (name fields value : List Char)
deriving Repr, DecidableEq

namespace Line

/-- The text without the line ends after it. -/
def body (cs : List Char) : List Char :=
  Text.dropEndWhile (fun c => c == '\r' || c == '\n') cs

/-- Whether a character can stand in a name or a path. -/
def isNameChar (c : Char) : Bool :=
  c.isAlphanum || c == '_' || c == '.' || c == '-'

/-- Whether a text is a name or a path. -/
def isName (cs : List Char) : Bool := cs ≠ [] && cs.all isNameChar

/-- Whether a text holds no white space. -/
def isSolid (cs : List Char) : Bool := cs.all fun c => !Text.isWhiteSpace c

/-- The least number of digits of a time. -/
def leastTimeDigits : Nat := 10

/-- Whether a text is a time. -/
def isTime (cs : List Char) : Bool :=
  leastTimeDigits ≤ cs.length && cs.all Numeral.isDigit

/-- The text that may stand before the value of a tagged line. -/
def valueMark : List Char := ['v', 'a', 'l', 'u', 'e', '=']

/-- The value of a tagged line without its mark, unless nothing else is left. -/
def unmarked (cs : List Char) : List Char :=
  match Text.dropLead? valueMark cs with
  | some (c :: rest) => c :: rest
  | _ => cs

/-- The line of two or three texts with spaces between them. -/
def ofPieces? : List (List Char) → Option Line
  | [head, value] =>
    if value = [] ∨ ¬ isSolid value then none
    else if isName head then some (.dotted head value [])
    else
      match Text.cutFirst ',' head with
      | some (name, fields) =>
        if isName name ∧ isSolid fields then some (.tagged name fields (unmarked value)) else none
      | none => none
  | [path, value, time] =>
    if isName path ∧ value ≠ [] ∧ isSolid value ∧ isTime time then some (.dotted path value time)
    else none
  | _ => none

/-- The line of a text, if it has one of the two forms. -/
def ofChars? (cs : List Char) : Option Line :=
  ofPieces? (Text.pieces ' ' (body cs))

end Line

end MetricIngest
