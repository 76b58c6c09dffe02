/-
  Parts of a text, said by gluing them again.

  A text trims to the part of it that white space surrounds, a mark cuts it where it
  occurs first, and a separator wherever it occurs. Bytes are cut at their line feeds, and a line
  is bare without the carriage return that stands before its line feed.
-/
import MetricIngest.Text.Lines
import MetricIngest.Text.Split
import MetricIngest.Text.WhiteSpace

namespace MetricIngest.Text

/-! ### Characters -/

/-- All of a text but white space around it. -/
structure TrimsTo (cs part : List Char) : Prop where
  glued : ∃ before after, cs = before ++ part ++ after ∧
    (∀ c ∈ before, isWhiteSpace c = true) ∧ ∀ c ∈ after, isWhiteSpace c = true
  first : ∀ c ∈ part.head?, isWhiteSpace c = false
  last : ∀ c ∈ part.getLast?, isWhiteSpace c = false

/-- What stands before and behind the first occurrence of a mark. -/
structure CutsAt (mark cs before after : List Char) : Prop where
  glued : cs = before ++ mark ++ after
  first : ∀ before' after', cs = before' ++ mark ++ after' → before.length ≤ before'.length

/-- The stretches of a text between all occurrences of a separator. -/
structure PiecesOf (sep : Char) (cs : List Char) (ps : List (List Char)) : Prop where
  ne_nil : ps ≠ []
  glued : glue sep ps = cs
  sep_notMem : ∀ p ∈ ps, sep ∉ p

/-- A text up to the first occurrence of a mark, or all of it if there is none. -/
def UpTo (mark cs part : List Char) : Prop :=
  (∃ after, CutsAt mark cs part after) ∨ ¬ mark <:+: cs ∧ part = cs

/-! ### Bytes -/

/-- The bytes are lines, each with a line feed behind it and none in it, and a rest without one. -/
structure CutsInto (bytes : List UInt8) (ended : List (List UInt8)) (rest : List UInt8) : Prop where
  glued : bytes = ended.flatMap (· ++ [newline]) ++ rest
  ended_notMem : ∀ line ∈ ended, newline ∉ line
  rest_notMem : newline ∉ rest

/-- The byte that may stand before the end of a line. -/
def carriageReturn : UInt8 := 0x0D

/-- A line without the carriage return at its end. -/
def dropReturn (line : List UInt8) : List UInt8 :=
  if line.getLast? = some carriageReturn then line.dropLast else line

/-- The lines without the carriage return before a line feed, and a rest that is not empty as the
last one. -/
def bareLines (ended : List (List UInt8)) (rest : List UInt8) : List (List UInt8) :=
  ended.map dropReturn ++ if rest = [] then [] else [rest]

end MetricIngest.Text
