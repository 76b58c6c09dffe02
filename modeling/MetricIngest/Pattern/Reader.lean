/-
  Reading the text of a pattern.

  The reader walks through the text with a stack of open groups; what has been
  read of the innermost group is kept as the alternatives that are complete and
  the items of the one that is being read. Flags such as `(?i)` hold from where
  they stand to the end of the innermost group. Every step takes at least one
  character, so the length of the text bounds their number. A text that is no
  pattern, whose groups nest too deeply or whose pattern is too large has none.

  This is one language of patterns, with the classes that `NamedClass` has names
  for; with more tables there would be more patterns. What holds of rules holds
  of any language and does not rest on this one.
-/
import MetricIngest.Pattern.Basic
import MetricIngest.Pattern.Language
import MetricIngest.Pattern.NamedClass
import MetricIngest.Text.WhiteSpace
import MetricIngest.Unicode.CaseFolding

namespace MetricIngest.Pattern

open Unicode

namespace Reader

/-! ### Flags and items -/

/-- The flags in force at a place of the text. -/
structure Flags where
  ignoreCase : Bool := false
  multiLine : Bool := false
  dotAll : Bool := false
  swapGreed : Bool := false
  unicode : Bool := true
  carriageReturn : Bool := false
  ignoreSpace : Bool := false
deriving Repr, DecidableEq

/-- The letters of the flags. -/
inductive FlagName where
  | ignoreCase | multiLine | dotAll | swapGreed | unicode | carriageReturn | ignoreSpace
deriving Repr, DecidableEq

/-- The flag of a letter. -/
def FlagName.ofChar? : Char → Option FlagName
  | 'i' => some .ignoreCase
  | 'm' => some .multiLine
  | 's' => some .dotAll
  | 'U' => some .swapGreed
  | 'u' => some .unicode
  | 'R' => some .carriageReturn
  | 'x' => some .ignoreSpace
  | _ => none

/-- The flags with one of them set or cleared. -/
def Flags.set (f : Flags) (on : Bool) : FlagName → Flags
  | .ignoreCase => { f with ignoreCase := on }
  | .multiLine => { f with multiLine := on }
  | .dotAll => { f with dotAll := on }
  | .swapGreed => { f with swapGreed := on }
  | .unicode => { f with unicode := on }
  | .carriageReturn => { f with carriageReturn := on }
  | .ignoreSpace => { f with ignoreSpace := on }

/-- A part of an alternative: a pattern with the depth of its nesting, or flags
that were set, which cannot be repeated. -/
inductive Item where
  | pattern (p : Pattern) (depth : Nat)
  | flags

/-- The nesting depth of an item. -/
def Item.depth : Item → Nat
  | .pattern _ d => d
  | .flags => 0

/-- A group that is open around the one being read: its flags, its complete
alternatives and the items of its current one, the latest first. -/
structure Frame where
  flags : Flags
  alternatives : List (Pattern × Nat)
  items : List Item

/-- The state of the reader: what is left of the text, the innermost group, the
groups around it and the names of groups so far. -/
structure State where
  rest : List Char
  flags : Flags
  alternatives : List (Pattern × Nat)
  items : List Item
  stack : List Frame
  names : List String

/-- The items of an alternative as one pattern. -/
def joinItems (items : List Item) : Pattern × Nat :=
  let patterns := items.filterMap fun i => match i with
    | .pattern p _ => some p
    | .flags => none
  let body := match patterns with
    | [] => Pattern.empty
    | p :: ps => ps.foldl (fun acc q => .sequence q acc) p
  let depth := (items.map Item.depth).foldl max 0
  (body, if 2 ≤ items.length then depth + 1 else depth)

/-- The alternatives of a group as one pattern. -/
def joinAlternatives : List (Pattern × Nat) → Pattern × Nat
  | [] => (.empty, 0)
  | [a] => a
  | (p, d) :: rest =>
    (rest.foldl (fun acc (q, _) => .either q acc) p, (rest.map (·.2)).foldl max d + 1)

/-- The innermost group as one pattern. -/
def State.joined (s : State) : Pattern × Nat :=
  joinAlternatives (joinItems s.items :: s.alternatives)

/-- The state with one more item. -/
def State.add (s : State) (rest : List Char) (i : Item) : State :=
  { s with rest, items := i :: s.items }

/-! ### Blanks -/

/-- Skip white space and comments that run to the end of a line. -/
def skipBlanks (comment : Bool) : List Char → List Char
  | [] => []
  | c :: cs =>
    if comment then skipBlanks (c != '\n') cs
    else if Text.isWhiteSpace c then skipBlanks false cs
    else if c = '#' then skipBlanks true cs
    else c :: cs

/-- What follows, without blanks where the flags ignore them. -/
def skip (f : Flags) (cs : List Char) : List Char :=
  if f.ignoreSpace then skipBlanks false cs else cs

/-! ### Escapes -/

/-- What an escape stands for. -/
inductive Escape where
  | literal (c : Char) (byte : Bool)
  | set (s : CodePoints)
  | place (p : Place)

/-- The characters with a meaning of their own in patterns. -/
def isMeta (c : Char) : Bool :=
  ['\\', '.', '+', '*', '?', '(', ')', '|', '[', ']', '\x7b', '\x7d', '^', '$', '#', '&', '-',
    '~'].contains c

/-- Whether a backslash before the character takes its meaning away. -/
def isEscapable (c : Char) : Bool :=
  isMeta c || (c.toNat < 0x80 && !c.isAlphanum && c != '<' && c != '>')

/-- The character of a code point, if there is one. -/
def charOf? (n : Nat) : Option Char :=
  if n < 0xD800 ∨ (0xDFFF < n ∧ n ≤ CodePoints.last) then some (Char.ofNat n) else none

/-- The hexadecimal value of digits. -/
def hexValue (ds : List Nat) : Nat := ds.foldl (fun n d => n * 16 + d) 0

/-- Read a fixed number of hexadecimal digits. -/
def fixedHex (f : Flags) : (count : Nat) → List Nat → List Char → Option (Nat × List Char)
  | 0, digits, cs => some (hexValue digits, cs)
  | n + 1, digits, c :: cs => do
    let d ← CodePoints.hexDigit? c
    fixedHex f n (digits ++ [d]) (skip f cs)
  | _ + 1, _, [] => none

/-- Read hexadecimal digits up to the closing brace. -/
def bracedHex (f : Flags) : (fuel : Nat) → List Nat → List Char → Option (Nat × List Char)
  | 0, _, _ => none
  | fuel + 1, digits, cs =>
    match skip f cs with
    | [] => none
    | c :: cs =>
      if c = '\x7d' then
        if digits = [] then none else some (hexValue digits, skip f cs)
      else do
        let d ← CodePoints.hexDigit? c
        bracedHex f fuel (digits ++ [d]) cs

/-- Read the code point after `x`, `u` or `U`, which is followed by `count` digits
or by digits in braces. -/
def hexEscape (f : Flags) (count : Nat) (cs : List Char) : Option (Escape × List Char) := do
  match skip f cs with
  | [] => none
  | '\x7b' :: cs =>
    let (n, rest) ← bracedHex f (cs.length + 1) [] cs
    return (.literal (← charOf? n) false, rest)
  | cs =>
    let (n, rest) ← fixedHex f count [] cs
    return (.literal (← charOf? n) (count = 2), rest)

/-- The text up to the closing brace, and what follows it. -/
def untilBrace (f : Flags) : (fuel : Nat) → List Char → Option (List Char × List Char)
  | 0, _ => none
  | fuel + 1, cs =>
    match skip f cs with
    | [] => none
    | c :: cs =>
      if c = '\x7d' then some ([], cs)
      else (untilBrace f fuel cs).map fun (name, rest) => (c :: name, rest)

/-- Cut a text at the first occurrence of a mark. -/
def cut (mark : List Char) : List Char → Option (List Char × List Char)
  | [] => none
  | c :: cs =>
    if mark.isPrefixOf (c :: cs) then some ([], (c :: cs).drop mark.length)
    else (cut mark cs).map fun (before, after) => (c :: before, after)

/-- The set that stands between the braces of a class escape, and whether it is
the complement of it that is meant. -/
def classOfName? (name : List Char) : Option (CodePoints × Bool) :=
  match cut ['!', '='] name with
  | some (property, value) => (NamedClass.ofValue? property value).map (·, true)
  | none =>
    match cut [':'] name with
    | some (property, value) => (NamedClass.ofValue? property value).map (·, false)
    | none =>
      match cut ['='] name with
      | some (property, value) => (NamedClass.ofValue? property value).map (·, false)
      | none => (NamedClass.ofName? name).map (·, false)

/-- A set that is allowed: where Unicode is off it must stay within ASCII, as other
bytes are no characters. -/
def allowed? (f : Flags) (s : CodePoints) : Option CodePoints :=
  if f.unicode || s.ranges.all fun (_, high) => high < 0x80 then some s else none

/-- A set as the flags and a negation change it. -/
def finishSet (f : Flags) (negated : Bool) (s : CodePoints) : CodePoints :=
  let s := if !f.ignoreCase then s
    else if f.unicode then CaseFolding.closure s
    else
      let shifted := s.ranges.flatMap fun (low, high) =>
        [(max low 0x41 + 0x20, min high 0x5A + 0x20), (max low 0x61 - 0x20, min high 0x7A - 0x20)]
      s.union (.ofRanges (shifted.filter fun (low, high) => low ≤ high
        && ((0x41 ≤ low && high ≤ 0x5A) || (0x61 ≤ low && high ≤ 0x7A))))
  if !negated then s
  else if f.unicode then s.complement
  else s.complement.inter (.range 0 0xFF)

/-- Read the class after `p` or `P`. -/
def classEscape (f : Flags) (negated : Bool) (cs : List Char) : Option (Escape × List Char) := do
  if !f.unicode then none
  else
    match skip f cs with
    | [] => none
    | '\x7b' :: cs =>
      let (name, rest) ← untilBrace f (cs.length + 1) cs
      let (s, unequal) ← classOfName? name
      return (.set (finishSet f (negated != unequal) s), rest)
    | c :: cs =>
      if c = '\\' then none
      else
        let s ← NamedClass.ofName? [c]
        return (.set (finishSet f negated s), skip f cs)

/-- Whether a character can stand in the name of a word boundary. -/
def isBoundaryChar (c : Char) : Bool := c.isAlpha || c = '-'

/-- The place of a word boundary's name. -/
def boundary? (ascii : Bool) : String → Option Place
  | "start" => some (.wordStart ascii)
  | "end" => some (.wordEnd ascii)
  | "start-half" => some (.afterNoWord ascii)
  | "end-half" => some (.beforeNoWord ascii)
  | _ => none

/-- Read what follows the `b` of a word boundary: a name in braces, unless the
braces hold the bounds of a repetition. -/
def boundaryEscape (f : Flags) (cs : List Char) : Option (Escape × List Char) :=
  let plain : Escape × List Char := (.place (.wordBoundary (!f.unicode)), cs)
  match cs with
  | '\x7b' :: inside =>
    match skip f inside with
    | [] => none
    | c :: _ =>
      if !isBoundaryChar c then some plain
      else do
        let (name, rest) ← untilBrace f (inside.length + 1) inside
        let p ← boundary? (!f.unicode) (String.ofList name)
        return (.place p, rest)
  | _ => some plain

/-- Read what follows a backslash. -/
def escape (f : Flags) : List Char → Option (Escape × List Char)
  | [] => none
  | c :: cs =>
    if isEscapable c then some (.literal c false, cs)
    else
      match c with
      | 'x' => hexEscape f 2 cs
      | 'u' => hexEscape f 4 cs
      | 'U' => hexEscape f 8 cs
      | 'p' => classEscape f false cs
      | 'P' => classEscape f true cs
      | 'd' | 's' | 'w' =>
        (NamedClass.ofLetter? f.unicode c).map fun s => (.set s, cs)
      | 'D' | 'S' | 'W' => do
        let s ← NamedClass.ofLetter? f.unicode c.toLower
        return (.set (← allowed? f (finishSet { f with ignoreCase := false } true s)), cs)
      | 'a' => some (.literal '\x07' false, cs)
      | 'f' => some (.literal '\x0C' false, cs)
      | 't' => some (.literal '\t' false, cs)
      | 'n' => some (.literal '\n' false, cs)
      | 'r' => some (.literal '\r' false, cs)
      | 'v' => some (.literal '\x0B' false, cs)
      | 'A' => some (.place .textStart, cs)
      | 'z' => some (.place .textEnd, cs)
      | 'b' => boundaryEscape f cs
      | 'B' => some (.place (.noWordBoundary (!f.unicode)), cs)
      | '<' => some (.place (.wordStart (!f.unicode)), cs)
      | '>' => some (.place (.wordEnd (!f.unicode)), cs)
      | _ => none

/-! ### Sets in brackets -/

/-- How two sets are combined inside brackets. -/
inductive SetOp where
  | intersection | difference | symmetricDifference

/-- The set that an operator gives. -/
def SetOp.apply : SetOp → CodePoints → CodePoints → CodePoints
  | .intersection => CodePoints.inter
  | .difference => CodePoints.diff
  | .symmetricDifference => CodePoints.symmDiff

/-- An open bracket: whether its set is negated, the operator that waits for its
right side with its left side, and the members read so far. `items` counts
them for the nesting depth. -/
structure Bracket where
  negated : Bool
  left : Option (SetOp × CodePoints)
  members : CodePoints
  items : Nat
  depth : Nat

/-- The set of an open bracket up to this place, before its negation. -/
def Bracket.value (f : Flags) (b : Bracket) : CodePoints :=
  match b.left with
  | none => b.members
  | some (op, left) => op.apply (finishSet f false left) (finishSet f false b.members)

/-- The bracket with more members. -/
def Bracket.add (b : Bracket) (s : CodePoints) (depth : Nat := 0) : Bracket :=
  { b with members := b.members.union s, items := b.items + 1, depth := max b.depth depth }

/-- The nesting depth of a bracket's set. -/
def Bracket.nesting (b : Bracket) : Nat :=
  b.depth + (if 2 ≤ b.items then 1 else 0) + (if b.left.isSome then 1 else 0) + 1

/-- Dashes at the start of a bracket are members. -/
def leadingDashes (f : Flags) (b : Bracket) : (fuel : Nat) → List Char → Bracket × List Char
  | 0, cs => (b, cs)
  | fuel + 1, cs =>
    match cs with
    | '-' :: cs => leadingDashes f (b.add (.singleton 0x2D)) fuel (skip f cs)
    | cs => (b, cs)

/-- Read the start of a bracket, after the bracket itself: a caret negates, and a
closing bracket that comes first is a member. -/
def openBracket (f : Flags) (cs : List Char) : Bracket × List Char :=
  let (negated, cs) := match skip f cs with
    | '^' :: cs => (true, skip f cs)
    | cs => (false, cs)
  let (b, cs) := leadingDashes f ⟨negated, none, .empty, 0, 0⟩ (cs.length + 1) cs
  match cs with
  | ']' :: rest => if b.items = 0 then (b.add (.singleton 0x5D), skip f rest) else (b, cs)
  | cs => (b, cs)

/-- Read an ASCII set between colons, after the opening bracket, and whether it is
negated. -/
def posixClass? (cs : List Char) : Option (CodePoints × Bool × List Char) := do
  match cs with
  | ':' :: cs =>
    let (negated, cs) := match cs with
      | '^' :: cs => (true, cs)
      | cs => (false, cs)
    let (name, rest) ← cut [':', ']'] cs
    if name.contains ':' then none
    else
      return (← NamedClass.posix? (String.ofList name), negated, rest)
  | _ => none

/-- A member of a bracket before it is known whether a range begins with it. -/
inductive Member where
  | single (n : Nat)
  | set (s : CodePoints)

/-- The code point of a literal, which must be in ASCII where Unicode is off. -/
def literalPoint? (f : Flags) (c : Char) : Option Nat :=
  if f.unicode || c.toNat < 0x80 then some c.toNat else none

/-- Read one character or escape inside a bracket. -/
def member? (f : Flags) : List Char → Option (Member × List Char)
  | [] => none
  | '\\' :: cs => do
    let (e, rest) ← escape f cs
    match e with
    | .literal c _ => return (.single (← literalPoint? f c), rest)
    | .set s => return (.set s, rest)
    | .place _ => none
  | c :: cs => (literalPoint? f c).map fun n => (.single n, skip f cs)

/-- The members that a member stands for by itself. -/
def Member.points : Member → CodePoints
  | .single n => .singleton n
  | .set s => s

/-- Read a member or a range of a bracket. -/
def range? (f : Flags) (cs : List Char) : Option (CodePoints × List Char) := do
  let (first, rest) ← member? f cs
  match skip f rest with
  | [] => none
  | '-' :: after =>
    match skip f after with
    | ']' :: _ => return (first.points, '-' :: after)
    | '-' :: _ => return (first.points, '-' :: after)
    | [] => none
    | more =>
      let (last, rest) ← member? f more
      match first, last with
      | .single low, .single high => if low ≤ high then some (.range low high, rest) else none
      | _, _ => none
  | rest => return (first.points, rest)

/-- Read a set in brackets, after the opening bracket, with the brackets that
are open around the innermost one. -/
def bracket (f : Flags) : (fuel : Nat) → (stack : List Bracket) → Bracket → List Char →
    Option (CodePoints × Nat × List Char)
  | 0, _, _, _ => none
  | fuel + 1, stack, b, cs =>
    let operator (op : SetOp) (rest : List Char) :=
      bracket f fuel stack
        { b with left := some (op, b.value f), members := .empty, items := 0,
                 depth := b.depth + (if b.left.isSome then 1 else 0) } rest
    match skip f cs with
    | [] => none
    | '[' :: rest =>
      match posixClass? rest with
      | some (s, negated, rest) =>
        (allowed? f (finishSet f negated s)).bind fun s => bracket f fuel stack (b.add s) rest
      | none =>
        let (inner, rest) := openBracket f rest
        bracket f fuel (b :: stack) inner rest
    | ']' :: rest =>
      match allowed? f (finishSet f b.negated (b.value f)), stack with
      | none, _ => none
      | some s, [] => some (s, b.nesting, rest)
      | some s, outer :: stack => bracket f fuel stack (outer.add s b.nesting) rest
    | '&' :: '&' :: rest => operator .intersection rest
    | '-' :: '-' :: rest => operator .difference rest
    | '~' :: '~' :: rest => operator .symmetricDifference rest
    | cs =>
      match range? f cs with
      | none => none
      | some (s, rest) => bracket f fuel stack (b.add s) rest

/-! ### Groups and repetitions -/

/-- Whether a character can stand in a group's name. -/
def isNameChar (first : Bool) (c : Char) : Bool :=
  let n := c.toNat
  let letter := Property.alphabetic.members.contains n
  if first then c = '_' || letter
  else c = '_' || c = '.' || c = '[' || c = ']' || letter
    || decimalDigits.contains n || Category.letterNumber.members.contains n
    || Category.otherNumber.members.contains n

/-- Read a group's name up to the closing angle bracket. -/
def groupName? (cs : List Char) : Option (String × List Char) :=
  match cs.span (· != '>') with
  | (name, _ :: rest) =>
    match name with
    | [] => none
    | c :: more =>
      if isNameChar true c && more.all (isNameChar false) then some (String.ofList name, rest)
      else none
  | (_, []) => none

/-- Read the flags of a group up to the colon or the closing parenthesis, which
is the last part of the result. `seen` holds the letters so far, and nothing
for a minus. -/
def groupFlags (f : Flags) (negative : Bool) (dangling : Bool) (seen : List (Option FlagName)) :
    List Char → Option (Flags × Bool × Char × List Char)
  | [] => none
  | c :: cs =>
    if c = ':' ∨ c = ')' then
      if dangling then none else some (f, seen = [], c, cs)
    else if c = '-' then
      if seen.contains none then none else groupFlags f true true (none :: seen) cs
    else
      match FlagName.ofChar? c with
      | none => none
      | some name =>
        if seen.contains (some name) then none
        else groupFlags (f.set (!negative) name) negative false (some name :: seen) cs

/-- The state inside a group that opens here. -/
def State.enter (s : State) (rest : List Char) (flags : Flags) (names : List String) : State :=
  { rest, flags, alternatives := [], items := [],
    stack := ⟨s.flags, s.alternatives, s.items⟩ :: s.stack, names }

/-- Read the start of a group, after its parenthesis. -/
def openGroup (s : State) (cs : List Char) : Option State := do
  match skip s.flags cs with
  | '?' :: '=' :: _ => none
  | '?' :: '!' :: _ => none
  | '?' :: '<' :: '=' :: _ => none
  | '?' :: '<' :: '!' :: _ => none
  | '?' :: 'P' :: '<' :: cs => named cs
  | '?' :: '<' :: cs => named cs
  | '?' :: cs =>
    let (flags, bare, mark, rest) ← groupFlags s.flags false false [] cs
    if mark = ':' then return s.enter rest flags s.names
    else if bare then none
    else return { s.add rest .flags with flags }
  | cs => return s.enter cs s.flags s.names
where
  named (cs : List Char) : Option State := do
    let (name, rest) ← groupName? cs
    if s.names.contains name then none
    else return s.enter rest s.flags (name :: s.names)

/-- Close the innermost group. -/
def closeGroup (s : State) (rest : List Char) : Option State :=
  match s.stack with
  | [] => none
  | outer :: stack =>
    let (p, depth) := s.joined
    some { s with rest, flags := outer.flags, alternatives := outer.alternatives,
                  items := .pattern p (depth + 1) :: outer.items, stack }

/-- Begin the next alternative of the innermost group. -/
def nextAlternative (s : State) (rest : List Char) : State :=
  { s with rest, alternatives := joinItems s.items :: s.alternatives, items := [] }

/-- Repeat the latest item. A question mark after the sign prefers few repetitions,
which makes no difference to where the pattern is found. -/
def repeatLast (s : State) (rest : List Char) (least : Nat) (most : Option Nat) :
    Option State :=
  match s.items with
  | .pattern p depth :: items =>
    let rest := match rest with
      | '?' :: rest => rest
      | rest => rest
    some { s with rest, items := .pattern (.repeated p least most) (depth + 1) :: items }
  | _ => none

/-- The decimal digits that a text begins with, and what follows them. -/
def digitRun (f : Flags) : (fuel : Nat) → List Char → List Char × List Char
  | 0, cs => ([], cs)
  | _, [] => ([], [])
  | fuel + 1, c :: cs =>
    if '0' ≤ c ∧ c ≤ '9' then
      let (digits, rest) := digitRun f fuel (skip f cs)
      (c :: digits, rest)
    else ([], c :: cs)

/-- Read a number with blanks around it, below 2^32. -/
def bound? (f : Flags) (cs : List Char) : Option (Option Nat × List Char) :=
  let (digits, rest) := digitRun f cs.length (cs.dropWhile Text.isWhiteSpace)
  let rest := skip f (rest.dropWhile Text.isWhiteSpace)
  if digits = [] then some (none, rest)
  else
    let n := digits.foldl (fun n c => n * 10 + (c.toNat - 0x30)) 0
    if n < UInt32.size then some (some n, rest) else none

/-- Read the bounds of a repetition, after the opening brace. -/
def bounds? (f : Flags) (cs : List Char) : Option (Nat × Option Nat × List Char) := do
  let (least, rest) ← bound? f (skip f cs)
  let least ← least
  match rest with
  | '\x7d' :: rest => return (least, some least, rest)
  | ',' :: rest =>
    match skip f rest with
    | '\x7d' :: rest => return (least, none, rest)
    | rest =>
      let (most, rest) ← bound? f rest
      let most ← most
      match rest with
      | '\x7d' :: rest => if least ≤ most then some (least, some most, rest) else none
      | _ => none
  | _ => none

/-! ### The reader -/

/-- The pattern of a literal character. -/
def literal? (f : Flags) (c : Char) (byte : Bool) : Option Pattern :=
  if f.unicode then some (.character (finishSet f false (.singleton c.toNat)))
  else if byte ∧ 0x80 ≤ c.toNat then none
  else if c.toNat < 0x80 then some (.character (finishSet f false (.singleton c.toNat)))
  else some (.character (.singleton c.toNat))

/-- The pattern of a dot. -/
def dot? (f : Flags) : Option Pattern :=
  if !f.unicode then none
  else if f.dotAll then some (.character .all)
  else if f.carriageReturn then
    some (.character (CodePoints.ofRanges [(0x0A, 0x0A), (0x0D, 0x0D)]).complement)
  else some (.character (CodePoints.singleton 0x0A).complement)

/-- Read one item, group mark or repetition. -/
def advance (s : State) (c : Char) (cs : List Char) : Option State := do
  let f := s.flags
  match c with
  | '(' => openGroup s cs
  | ')' => closeGroup s cs
  | '|' => return nextAlternative s cs
  | '[' =>
    let (b, rest) := openBracket f cs
    let (set, depth, rest) ← bracket f (cs.length + 2) [] b rest
    return s.add rest (.pattern (.character set) depth)
  | '?' => repeatLast s cs 0 (some 1)
  | '*' => repeatLast s cs 0 none
  | '+' => repeatLast s cs 1 none
  | '\x7b' =>
    let (least, most, rest) ← bounds? f cs
    repeatLast s (skip f rest) least most
  | '\\' =>
    let (e, rest) ← escape f cs
    match e with
    | .literal c byte => return s.add rest (.pattern (← literal? f c byte) 0)
    | .set set => return s.add rest (.pattern (.character set) 0)
    | .place p => return s.add rest (.pattern (.place p) 0)
  | '.' => return s.add cs (.pattern (← dot? f) 0)
  | '^' =>
    return s.add cs (.pattern
      (.place (if f.multiLine then .lineStart f.carriageReturn else .textStart)) 0)
  | '$' =>
    return s.add cs (.pattern
      (.place (if f.multiLine then .lineEnd f.carriageReturn else .textEnd)) 0)
  | c => return s.add cs (.pattern (← literal? f c false) 0)

/-- Read to the end of the text. -/
def run : (fuel : Nat) → State → Option (Pattern × Nat)
  | 0, _ => none
  | fuel + 1, s =>
    match skip s.flags s.rest with
    | [] => if s.stack.isEmpty then some s.joined else none
    | c :: cs =>
      match advance s c cs with
      | none => none
      | some s => run fuel s

end Reader

/-! ### Limits -/

/-- The greatest nesting depth of a pattern. -/
def depthLimit : Nat := 250

/-- The greatest size of a pattern. -/
def sizeLimit : Nat := 10485760

/-- The bytes of a code point in UTF-8. -/
def encodedLength (n : Nat) : Nat :=
  if n < 0x80 then 1 else if n < 0x800 then 2 else if n < 0x10000 then 3 else 4

/-- Whether a pattern matches nothing but places between characters. -/
def isPlace : Pattern → Bool
  | .empty | .place _ => true
  | .character _ => false
  | .sequence a b => a.isPlace && b.isPlace
  | .either a b => a.isPlace && b.isPlace
  | .repeated body _ most => body.isPlace || most = some 0

/-- The size of a pattern with its repetitions written out: so much for each byte
of a literal and of the ends of a set's ranges. A place is not repeated. -/
def size : Pattern → Nat
  | .empty => 32
  | .character set =>
    set.ranges.foldr (fun (low, high) rest =>
      (if low = high then 32 else 24) * encodedLength high + rest) 0
  | .place _ => 32
  | .sequence a b => a.size + b.size
  | .either a b => a.size + b.size + 32
  | .repeated body least most =>
    if body.isPlace then body.size + 32
    else
      match most with
      | none => body.size * max least 1 + 32
      | some m => body.size * m + 32 * (m - least)

/-- Read a pattern: nothing when the text is none or exceeds the limits. -/
def ofText? (text : String) : Option Pattern :=
  let cs := text.toList
  match Reader.run (cs.length + 1)
      { rest := cs, flags := {}, alternatives := [], items := [], stack := [], names := [] } with
  | none => none
  | some (p, depth) => if depth ≤ depthLimit ∧ p.size ≤ sizeLimit then some p else none

/-- The language of the patterns that are read here. -/
instance : PatternLanguage where
  finder? text := (ofText? text).map fun p path => p.foundIn path.toList

end MetricIngest.Pattern
