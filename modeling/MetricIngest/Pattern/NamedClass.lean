/-
  The sets of characters that patterns refer to by name.

  Unicode names are compared without regard to case, spaces, dashes,
  underscores and a leading `is`. A name alone is looked up among the
  yes-or-no properties, then the general categories, then the scripts; with an
  equals sign it gives a property and its value. Properties of other kinds, which
  are the age of a character and those by which texts are broken into words and
  sentences, are not in the tables, and a name of one is that of no set.
-/
import MetricIngest.Unicode.Script
import MetricIngest.Unicode.Property

namespace MetricIngest.Pattern.NamedClass

open Unicode

/-- A name in lower case, without separators and characters outside ASCII. -/
def plainName (name : List Char) : String :=
  String.ofList ((name.filter fun c => c.toNat < 0x80 && c != ' ' && c != '_' && c != '-').map
    Char.toLower)

/-- A name in the form in which the tables list it: also without a leading `is`. -/
def normalize (name : List Char) : String :=
  match name with
  | i :: s :: rest =>
    if (i = 'i' ∨ i = 'I') ∧ (s = 's' ∨ s = 'S') then
      let plain := plainName rest
      if plain = "c" then "isc" else plain
    else plainName name
  | _ => plainName name

/-- The code points of ASCII. -/
def ascii : CodePoints := CodePoints.range 0 0x7F

/-- The set of a general category or of a name for several. -/
def category? (name : String) : Option CodePoints :=
  if name = "any" then some (CodePoints.range 0 CodePoints.last)
  else if name = "assigned" then some Category.assigned
  else if name = "ascii" then some ascii
  else
    match Category.every.find? fun c => c.names.contains name with
    | some c => some c.members
    | none => (Group.every.find? fun g => g.names.contains name).map (·.members)

/-- The set of a name alone. Three abbreviations of properties are kept for the
categories of the same name. -/
def ofName? (name : List Char) : Option CodePoints :=
  let plain := normalize name
  let property := if plain = "cf" ∨ plain = "sc" ∨ plain = "lc" then none
    else Property.ofName? plain
  match property with
  | some p => some p.members
  | none =>
    match category? plain with
    | some s => some s
    | none => (Script.ofName? plain).map (·.members)

/-- The set of a property with a value. -/
def ofValue? (property value : List Char) : Option CodePoints :=
  let value := normalize value
  match normalize property with
  | "gc" | "generalcategory" => category? value
  | "sc" | "script" => (Script.ofName? value).map (·.members)
  | "scx" | "scriptextensions" => (Script.ofName? value).map (·.extensions)
  | _ => none

/-- The ASCII sets that are written between colons. -/
def posix? (name : String) : Option CodePoints :=
  match name with
  | "alnum" => some (.ofRanges [(0x30, 0x39), (0x41, 0x5A), (0x61, 0x7A)])
  | "alpha" => some (.ofRanges [(0x41, 0x5A), (0x61, 0x7A)])
  | "ascii" => some ascii
  | "blank" => some (.ofRanges [(0x09, 0x09), (0x20, 0x20)])
  | "cntrl" => some (.ofRanges [(0x00, 0x1F), (0x7F, 0x7F)])
  | "digit" => some (.range 0x30 0x39)
  | "graph" => some (.range 0x21 0x7E)
  | "lower" => some (.range 0x61 0x7A)
  | "print" => some (.range 0x20 0x7E)
  | "punct" => some (.ofRanges [(0x21, 0x2F), (0x3A, 0x40), (0x5B, 0x60), (0x7B, 0x7E)])
  | "space" => some (.ofRanges [(0x09, 0x0D), (0x20, 0x20)])
  | "upper" => some (.range 0x41 0x5A)
  | "word" => some (.ofRanges [(0x30, 0x39), (0x41, 0x5A), (0x5F, 0x5F), (0x61, 0x7A)])
  | "xdigit" => some (.ofRanges [(0x30, 0x39), (0x41, 0x46), (0x61, 0x66)])
  | _ => none

/-- The sets of the letters `d`, `s` and `w` after a backslash. -/
def ofLetter? (unicode : Bool) : Char → Option CodePoints
  | 'd' => some (if unicode then decimalDigits else .range 0x30 0x39)
  | 's' => some (if unicode then whiteSpaces else .ofRanges [(0x09, 0x0D), (0x20, 0x20)])
  | 'w' => some (if unicode then wordCharacters
      else .ofRanges [(0x30, 0x39), (0x41, 0x5A), (0x5F, 0x5F), (0x61, 0x7A)])
  | _ => none

end MetricIngest.Pattern.NamedClass
