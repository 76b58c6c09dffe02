/-
  The forms of a line, written out.

  A `Form` is a line with the texts it is made of, each of its kind, and `Form.text` is the
  text that results. `Form.Reads` says which parts are read off it; a value that has a mark
  before it is read without the mark. `Line.layout` describes the same lines as one layout,
  in which the dotted form comes first.
-/
import MetricIngest.Line.Grammar
import MetricIngest.Text.Ascii
import MetricIngest.Text.Layout
import MetricIngest.Unicode.Property

namespace MetricIngest.Line

/-! ### Texts of a kind -/

/-- A name: not empty, and made of ASCII letters and digits, underscores, points and dashes. -/
structure Nameable (cs : List Char) : Prop where
  ne_nil : cs ≠ []
  chars : ∀ c ∈ cs, Text.IsLetter c ∨ Text.IsDigit c ∨ c = '_' ∨ c = '.' ∨ c = '-'

/-- A text without white space of any script. -/
def Unbroken (cs : List Char) : Prop := ∀ c ∈ cs, Unicode.whiteSpaces.contains c.toNat = false

/-- A value as it is written: not empty, and without white space. -/
structure Writable (cs : List Char) : Prop where
  ne_nil : cs ≠ []
  unbroken : Unbroken cs

/-- A time: ten ASCII digits or more. -/
structure Dated (cs : List Char) : Prop where
  ten : 10 ≤ cs.length
  digits : ∀ c ∈ cs, Text.IsDigit c

/-- The text of the value of a line. -/
def valueText : Line → List Char
  | dotted _ value _ => value
  | tagged _ _ value => value

/-! ### Lines of a form -/

/-- A line of one of the forms. -/
inductive Form where
  /-- A path and a value. -/
  | dotted (path value : List Char) (hpath : Nameable path) (hvalue : Writable value)
  /-- A path, a value and a time. -/
  | timed (path value time : List Char) (hpath : Nameable path) (hvalue : Writable value)
    (htime : Dated time)
  /-- A name, tag fields and a value. -/
  | tagged (name fields value : List Char) (hname : Nameable name) (hfields : Unbroken fields)
    (hvalue : Writable value)

/-- The text of a value: what follows the mark if something does, else all of it. -/
def ValueOf (written value : List Char) : Prop :=
  (value ≠ [] ∧ written = valueMark ++ value) ∨
    (written = value ∧ ∀ rest, rest ≠ [] → written ≠ valueMark ++ rest)

namespace Form

/-- The text of a line. -/
def text : Form → List Char
  | dotted path value _ _ => path ++ ' ' :: value
  | timed path value time _ _ _ => path ++ ' ' :: (value ++ ' ' :: time)
  | tagged name fields value _ _ _ => name ++ ',' :: (fields ++ ' ' :: value)

/-- The parts that are read off a line. -/
def Reads : Form → Line → Prop
  | dotted path value _ _, line => line = .dotted path value []
  | timed path value time _ _ _, line => line = .dotted path value time
  | tagged name fields written _ _ _, line =>
    ∃ value, ValueOf written value ∧ line = .tagged name fields value

end Form

/-! ### The layout of lines -/

/-- The parts of a line. -/
inductive Part where
  | path
  | value
  | time
  | name
  | fields
  | tagValue
deriving Repr, DecidableEq

/-- Whether a character can stand in a value or a field. -/
def isSolidChar (c : Char) : Bool := !Text.isWhiteSpace c

/-- The layout of a value and perhaps a time. -/
def valueLayout : Text.Layout Part :=
  .sequence (.part .value (.run isSolidChar 1))
    (.optional (.sequence (.chars [' ']) (.part .time (.run Numeral.isDigit leastTimeDigits))))

/-- The layout of a dotted line. -/
def dottedLayout : Text.Layout Part :=
  .sequence (.part .path (.run isNameChar 1)) (.sequence (.chars [' ']) valueLayout)

/-- The layout of a value that may be marked. -/
def tagValueLayout : Text.Layout Part :=
  .sequence (.optional (.chars valueMark)) (.part .tagValue (.run isSolidChar 1))

/-- The layout of fields and a value. -/
def fieldsLayout : Text.Layout Part :=
  .sequence (.part .fields (.run isSolidChar 0)) (.sequence (.chars [' ']) tagValueLayout)

/-- The layout of a tagged line. -/
def taggedLayout : Text.Layout Part :=
  .sequence (.part .name (.run isNameChar 1)) (.sequence (.chars [',']) fieldsLayout)

/-- The layout of lines, of which the dotted form is preferred. -/
def layout : Text.Layout Part :=
  .sequence (.either dottedLayout taggedLayout) .finish

/-- The line of parts: a dotted one if there is a path. -/
def ofParts (parts : List (Part × List Char)) : Line :=
  let part (key : Part) : List Char := (parts.lookup key).getD []
  if (parts.lookup .path).isSome then .dotted (part .path) (part .value) (part .time)
  else .tagged (part .name) (part .fields) (part .tagValue)

end MetricIngest.Line
