/-
  Reading a TOML text.

  `Toml.read?` gives the members of the document, or nothing when the text is no
  TOML. Values nest to a fixed depth, and a key has a bounded number of parts;
  the first bound is what the recursion goes by.
-/
import MetricIngest.Toml.Scalar

namespace MetricIngest.Toml

/-- The number of levels to which values nest, and of parts that a key may have. -/
def maxDepth : Nat := 79

/-! ### Keys -/

/-- Whether a character may stand in a key without quotes. -/
def isKeyChar (c : Char) : Bool :=
  ('a' ≤ c && c ≤ 'z') || ('A' ≤ c && c ≤ 'Z') || Numeral.isDigit c || c = '_' || c = '-'

/-- A single part of a key. -/
def keyPart : Reader String
  | '"' :: cs => shortString ('"' :: cs)
  | '\'' :: cs => shortString ('\'' :: cs)
  | cs =>
    let name := cs.takeWhile isKeyChar
    if name = [] then none else some (String.ofList name, cs.dropWhile isKeyChar)

/-- The parts of a key with points between them: those before the last, and the
last. -/
def keyParts : Nat → Reader (List String × String)
  | 0, _ => none
  | n + 1, cs =>
    match keyPart (skipBlanks cs) with
    | none => none
    | some (part, rest) =>
      match skipBlanks rest with
      | '.' :: rest => (keyParts n rest).map fun ((path, last), rest) => ((part :: path, last), rest)
      | rest => some (([], part), rest)

/-- A key. -/
def key : Reader (List String × String) := keyParts maxDepth

/-! ### Values -/

/-- A key with its value. -/
structure Pair where
  path : List String
  key : String
  value : Value

/-- A key, an equals sign and a value. -/
def pair (value : Reader Value) : Reader Pair := fun cs => do
  let ((path, last), rest) ← key cs
  let (v, rest) ← value (skipBlanks (← expect '=' rest))
  return (⟨path, last, v⟩, rest)

/-- An item of an array and the comma after it, unless it is the last one. -/
def arrayPiece (value : Reader Value) : Reader Value := fun cs => do
  let (v, rest) ← value cs
  match ← skipFiller (rest.length + 1) rest with
  | ',' :: rest => return (v, ← skipFiller (rest.length + 1) rest)
  | ']' :: rest => return (v, ']' :: rest)
  | _ => none

/-- The items of an array, read after its opening bracket. -/
def arrayBody (value : Reader Value) : Reader Value := fun cs => do
  let start ← skipFiller (cs.length + 1) cs
  let ((items, _), rest) ←
    piecesUntil (quoteEnd ']') (arrayPiece value) (start.length + 1) start
  return (.array items, rest)

/-- The members of a table in braces, each after a comma or the opening brace. -/
def inlineMembers (value : Reader Value) : Nat → Reader (List Pair)
  | 0, _ => none
  | n + 1, cs =>
    match pair value cs with
    | none => none
    | some (p, rest) =>
      match skipBlanks rest with
      | ',' :: rest => (inlineMembers value n rest).map fun (ps, rest) => (p :: ps, rest)
      | '\x7d' :: rest => some ([p], rest)
      | _ => none

/-- A table in braces, read after its opening brace. -/
def inlineBody (value : Reader Value) : Reader Value := fun cs =>
  match skipBlanks cs with
  | '\x7d' :: rest => some (.table .inline [], rest)
  | start => do
    let (pairs, rest) ← inlineMembers value (start.length + 1) start
    let members ← pairs.foldlM
      (fun (ms : Members) p => ms.addPair p.path p.key p.value .inline) ([] : Members)
    return (.table .inline members, rest)

/-- Whether a number, a date or a time may begin with a character. -/
def isNumberStart (c : Char) : Bool :=
  Numeral.isDigit c || c = '+' || c = '-' || c = 'i' || c = 'n'

/-- A value that holds fewer levels of other values than a bound. -/
def value : Nat → Reader Value
  | _, '"' :: cs => (string ('"' :: cs)).map fun (s, rest) => (.string s, rest)
  | _, '\'' :: cs => (string ('\'' :: cs)).map fun (s, rest) => (.string s, rest)
  | depth + 1, '[' :: cs => arrayBody (value depth) cs
  | depth + 1, '\x7b' :: cs => inlineBody (value depth) cs
  | _, 't' :: 'r' :: 'u' :: 'e' :: cs => some (.boolean true, cs)
  | _, 'f' :: 'a' :: 'l' :: 's' :: 'e' :: cs => some (.boolean false, cs)
  | _, c :: cs =>
    if isNumberStart c then (moment (c :: cs)).orElse fun _ => number (c :: cs) else none
  | _, [] => none

/-! ### Documents -/

/-- What a line of a document says. -/
inductive Statement where
  | pair (p : Pair)
  | table (path : List String) (key : String)
  | element (path : List String) (key : String)

/-- A key in brackets, read after the opening ones, and the rest after the
closing ones. -/
def headerKey (closing : List Char) : Reader (List String × String) := fun cs => do
  let (k, rest) ← key cs
  if closing.isPrefixOf rest then some (k, rest.drop closing.length) else none

/-- The statement at the beginning of a line that holds one. -/
def statement : Reader Statement
  | '[' :: '[' :: cs =>
    (headerKey [']', ']'] cs).map fun ((path, last), rest) => (.element path last, rest)
  | '[' :: cs => (headerKey [']'] cs).map fun ((path, last), rest) => (.table path last, rest)
  | cs => (pair (value maxDepth) cs).map fun (p, rest) => (.pair p, rest)

/-- The statements of a text with a bounded number of lines. -/
def statements : Nat → List Char → Option (List Statement)
  | 0, _ => none
  | n + 1, cs =>
    match skipBlanks cs with
    | [] => some []
    | start =>
      match afterLine? start with
      | some rest => statements n rest
      | none => do
        let (s, rest) ← statement start
        return s :: (← statements n (← afterLine? rest))

/-- A document that is being built: its members and the path of the table that
pairs go to. -/
structure Draft where
  members : Members
  current : List String

/-- The draft after one more statement. -/
def Draft.apply (d : Draft) : Statement → Option Draft
  | .pair p =>
    (d.members.atHeader d.current (Members.addPair p.path p.key p.value)).map fun ms =>
      { d with members := ms }
  | .table path key =>
    (d.members.atHeader path (Members.openTable key)).map fun ms => ⟨ms, path ++ [key]⟩
  | .element path key =>
    (d.members.atHeader path (Members.openElement key)).map fun ms => ⟨ms, path ++ [key]⟩

/-- The mark that may stand at the very beginning of a text. -/
def byteOrderMark : Char := '\uFEFF'

/-- The members of the document that a text holds. -/
def read? (text : String) : Option Members := do
  let cs := match text.toList with
    | c :: cs => if c = byteOrderMark then cs else c :: cs
    | [] => []
  let draft ← (← statements (cs.length + 1) cs).foldlM Draft.apply ⟨[], []⟩
  return draft.members

end MetricIngest.Toml
