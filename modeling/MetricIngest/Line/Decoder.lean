/-
  Turning lines into records.

  A decoder has a table of rules, a way to read fractions of seconds and the
  current time. A text that is not a line of either form gives nothing. The
  value is read first, so a line with a bad value and a bad path has a bad
  value. A dotted line is decomposed by the rules; a tagged line carries its
  name and its fields itself, and its time is the current one.
-/
import MetricIngest.Line.Grammar
import MetricIngest.Line.Time
import MetricIngest.Rules.Decomposition
import MetricIngest.Text.Lines
import MetricIngest.Text.Utf8

namespace MetricIngest

/-- What lines are decoded with, the current time apart. -/
structure Decoder where
  rules : RuleTable
  mode : FractionMode
deriving Inhabited

namespace Decoder

/-- Whether a character can stand in a value. -/
def isValueChar (c : Char) : Bool := Numeral.isDigit c || c == '.'

/-- A minus in front of a value, and the rest. -/
def takeMinus : List Char → Bool × List Char
  | '-' :: cs => (true, cs)
  | cs => (false, cs)

/-- Read a value: an optional minus and a plain numeral. -/
def value (cs : List Char) : Except DecodeError Binary64 :=
  let (negative, digits) := takeMinus cs
  if digits = [] ∨ ¬ digits.all isValueChar then .error (.invalidValue (String.ofList cs) false)
  else
    match Numeral.plain? digits with
    | none => .error (.invalidValue (String.ofList cs) true)
    | some d => .ok (d.toBinary64 negative)

/-- The key and the value of a tag, cut at the first equals sign; nothing when
there is none or no key before it. -/
def tag? (cs : List Char) : Option (String × String) :=
  match Text.cutFirst '=' cs with
  | some (c :: key, value) => some (String.ofList (c :: key), String.ofList value)
  | _ => none

/-- The fields of a tagged line. -/
def tagFields (cs : List Char) : FieldMap :=
  FieldMap.ofList ((Text.pieces ',' cs).filterMap tag?)

/-- Decode a line that is cut into its parts. -/
def decodeParts (d : Decoder) (now : Timestamp) : Line → Except DecodeError Record
  | .dotted path valueText time =>
    match value valueText with
    | .error e => .error e
    | .ok v =>
      match d.rules.decompose (String.ofList path) with
      | .error e => .error e
      | .ok parts =>
        match Record.ofName parts.name (d.mode.timestamp time now) v parts.fields with
        | .error e => .error (.nameResolutionFailed ⟨String.ofList path, some e⟩)
        | .ok record => .ok record
  | .tagged name fields valueText =>
    match value valueText with
    | .error e => .error e
    | .ok v =>
      match Record.ofName (String.ofList name) now v (tagFields fields) with
      | .error e => .error (.nameResolutionFailed ⟨String.ofList name, some e⟩)
      | .ok record => .ok record

/-- Decode a line; nothing when it has neither form. -/
def decode (d : Decoder) (now : Timestamp) (cs : List Char) :
    Option (Except DecodeError Record) :=
  (Line.ofChars? cs).map (d.decodeParts now)

/-- Decode a line given as bytes. -/
def decodeBytes (d : Decoder) (now : Timestamp) (line : List UInt8) :
    Option (Except DecodeError Record) :=
  d.decode now (Text.Utf8.decodeLossy line)

/-- The record of a result. -/
def record? : Except DecodeError Record → Option Record
  | .ok r => some r
  | .error _ => none

/-- The fault of a result. -/
def fault? : Except DecodeError Record → Option DecodeError
  | .ok _ => none
  | .error e => some e

/-- Decode lines one after the other: the records and the faults, each in order. -/
def decodeAll (d : Decoder) (now : Timestamp) (lines : List (List Char)) :
    List Record × List DecodeError :=
  let results := lines.filterMap (d.decode now)
  (results.filterMap record?, results.filterMap fault?)

end Decoder

end MetricIngest
