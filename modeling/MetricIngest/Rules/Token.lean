/-
  The positions of a rule's template.

  A template is cut at its points into tokens, and each token says what becomes
  of the path segment at its place: it is dropped, becomes a name component or
  becomes the value of a tag. A token that ends in a plus takes all segments
  from its place on. Only letters and digits of ASCII count.
-/
import MetricIngest.Text.WhiteSpace

namespace MetricIngest

/-- What becomes of a path segment. -/
inductive Token where
  /-- This and all later segments are one name component. -/
  | catchAllName
  /-- The segment is a name component. -/
  | name
  /-- The segment is the value of the tag. -/
  | field (key : String)
  /-- This and all later segments are the value of the tag. -/
  | catchAllField (key : String)
  /-- The segment is dropped. -/
  | skip
deriving Repr, DecidableEq

namespace Token

/-- Whether a token takes all segments from its place on. -/
def isCatchAll : Token → Bool
  | .catchAllName => true
  | .catchAllField _ => true
  | _ => false

/-- Whether a character is a letter of ASCII. -/
def isLetter (c : Char) : Bool := c.isAlpha

/-- Whether a character is a digit of ASCII. -/
def isDigit (c : Char) : Bool := c.isDigit

/-- Whether the text ends in a plus. -/
def endsInPlus (cs : List Char) : Bool := cs.getLast? == some '+'

/-- The token that a piece of a template stands for. -/
def ofChars (cs : List Char) : Token :=
  if cs = ['+'] then .catchAllName
  else if cs = ['_'] then .skip
  else if cs.any isLetter then
    if endsInPlus cs then .catchAllField (String.ofList (Text.dropEndWhile (· == '+') cs))
    else .field (String.ofList cs)
  else if cs.any isDigit then
    if endsInPlus cs then .catchAllName else .name
  else .skip

/-- The token that a piece of a template stands for. -/
def ofString (piece : String) : Token := ofChars piece.toList

end Token

end MetricIngest
