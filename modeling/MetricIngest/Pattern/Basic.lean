/-
  Patterns and what they match.

  A pattern describes stretches of a text: one character of a set, a place
  between characters, one pattern after another, either of two, or a pattern
  several times over. `ends p text from` is the set of positions where a match
  of `p` can end that starts at a position in `from`; sets of positions are
  natural numbers read as bits. A pattern is found in a text when some match
  starts anywhere.
-/
import MetricIngest.Unicode.Property

namespace MetricIngest

open Unicode

/-- A condition on a place between two characters. -/
inductive Place where
  | textStart
  | textEnd
  | lineStart (carriageReturn : Bool)
  | lineEnd (carriageReturn : Bool)
  | wordBoundary (ascii : Bool)
  | noWordBoundary (ascii : Bool)
  | wordStart (ascii : Bool)
  | wordEnd (ascii : Bool)
  | afterNoWord (ascii : Bool)
  | beforeNoWord (ascii : Bool)
deriving Repr, DecidableEq

/-- A pattern. -/
inductive Pattern where
  | empty
  | character (set : CodePoints)
  | place (p : Place)
  | sequence (first second : Pattern)
  | either (first second : Pattern)
  | repeated (body : Pattern) (least : Nat) (most : Option Nat)
deriving Repr, Inhabited

namespace Pattern

/-! ### Places -/

/-- The ASCII characters of words. -/
def asciiWord : CodePoints :=
  CodePoints.ofRanges [(0x30, 0x39), (0x41, 0x5A), (0x5F, 0x5F), (0x61, 0x7A)]

/-- Whether a character, if there is one, belongs to a word. -/
def inWord (ascii : Bool) (c : Option Char) : Bool :=
  match c with
  | none => false
  | some c =>
    if c.toNat < 0x80 || ascii then asciiWord.contains c.toNat
    else wordCharacters.contains c.toNat

/-- Whether a place between two characters, either of which may be missing at an
end of the text, meets a condition. -/
def holdsAt (before after : Option Char) : Place → Bool
  | .textStart => before.isNone
  | .textEnd => after.isNone
  | .lineStart false => before.isNone || before == some '\n'
  | .lineStart true =>
    before.isNone || before == some '\n' || (before == some '\r' && after != some '\n')
  | .lineEnd false => after.isNone || after == some '\n'
  | .lineEnd true =>
    after.isNone || after == some '\r' || (after == some '\n' && before != some '\r')
  | .wordBoundary ascii => inWord ascii before != inWord ascii after
  | .noWordBoundary ascii => inWord ascii before == inWord ascii after
  | .wordStart ascii => !inWord ascii before && inWord ascii after
  | .wordEnd ascii => inWord ascii before && !inWord ascii after
  | .afterNoWord ascii => !inWord ascii before
  | .beforeNoWord ascii => !inWord ascii after

/-! ### Sets of positions -/

/-- A set of positions in a text: bit `i` is set when position `i` is in it. -/
abbrev Positions := Nat

/-- The positions of the characters that satisfy a condition. -/
def positionsWhere (p : Char → Bool) (text : List Char) : Positions :=
  go 1 text
where
  go (bit : Nat) : List Char → Positions
    | [] => 0
    | c :: cs => (if p c then bit else 0) ||| go (2 * bit) cs

/-- The places of a text that meet a condition. -/
def placesWhere (p : Place) (text : List Char) : Positions :=
  go 1 none text
where
  go (bit : Nat) (before : Option Char) : List Char → Positions
    | [] => if holdsAt before none p then bit else 0
    | c :: cs => (if holdsAt before (some c) p then bit else 0) ||| go (2 * bit) (some c) cs

/-- Apply a function a number of times, but not further once nothing changes. -/
def applyTimes (f : Positions → Positions) : Nat → Positions → Positions
  | 0, s => s
  | n + 1, s =>
    let t := f s
    if t = s then s else applyTimes f n t

/-- What is reached by applying a function up to a number of times, starting
positions included. -/
def reachWithin (f : Positions → Positions) : Nat → Positions → Positions
  | 0, s => s
  | n + 1, s =>
    let t := s ||| f s
    if t = s then s else reachWithin f n t

/-- The positions where a match ends that starts at one of `start`. -/
def ends (text : List Char) : Pattern → (start : Positions) → Positions
  | .empty, start => start
  | .character set, start =>
    2 * (start &&& positionsWhere (fun c => set.contains c.toNat) text)
  | .place p, start => start &&& placesWhere p text
  | .sequence a b, start => b.ends text (a.ends text start)
  | .either a b, start => a.ends text start ||| b.ends text start
  | .repeated body least most, start =>
    let once (s : Positions) := if s = 0 then 0 else body.ends text s
    let extra := match most with
      | none => text.length + 1
      | some m => m - least
    reachWithin once extra (applyTimes once least start)

/-- Whether the pattern is found somewhere in the text. -/
def foundIn (p : Pattern) (text : List Char) : Bool :=
  p.ends text (Nat.pow 2 (text.length + 1) - 1) != 0

end Pattern

end MetricIngest
