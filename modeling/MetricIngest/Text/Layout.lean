/-
  Texts laid out in named parts.

  A layout says how a text is made up: of given characters, of runs of characters of a
  kind, of one layout after another, of either of two, of one that may be absent. Parts of
  it have names. A text may fit a layout in several ways. `fits` lists them in order of
  preference: a run is as long as it can be, what may be absent is there if it can be, the
  first of two comes before the second, and an earlier choice counts before a later one.
  `fit?` is the way that is preferred.
-/
import MetricIngest.Text.Split

namespace MetricIngest.Text

/-- How a text is made up, with the names of its parts. -/
inductive Layout (κ : Type) where
  /-- Given characters. -/
  | chars (cs : List Char)
  /-- Characters of a kind, as many as can be, but not less than `least`. -/
  | run (p : Char → Bool) (least : Nat)
  /-- The end of the text. -/
  | finish
  /-- A layout whose text is a part. -/
  | part (key : κ) (body : Layout κ)
  | sequence (first second : Layout κ)
  | either (first second : Layout κ)
  | optional (body : Layout κ)

/-- A way in which the beginning of a text fits a layout: the parts, all that was taken,
and what is left. -/
structure Fit (κ : Type) where
  parts : List (κ × List Char)
  taken : List Char
  rest : List Char
deriving DecidableEq

/-- The runs of characters of a kind with which a text begins, each with what follows it,
the longest one first. -/
def runs (p : Char → Bool) : List Char → List (List Char × List Char)
  | [] => [([], [])]
  | c :: cs =>
    (if p c then (runs p cs).map fun run => (c :: run.1, run.2) else []) ++ [([], c :: cs)]

namespace Layout

variable {κ : Type} {a b : Layout κ} {text : List Char} {f : Fit κ}

/-- The ways in which the beginning of a text fits, in order of preference. -/
def fits : Layout κ → List Char → List (Fit κ)
  | .chars cs, text => (dropLead? cs text).toList.map fun rest => ⟨[], cs, rest⟩
  | .run p least, text =>
    (runs p text).filterMap fun run =>
      if least ≤ run.1.length then some ⟨[], run.1, run.2⟩ else none
  | .finish, text => if text = [] then [⟨[], [], []⟩] else []
  | .part key body, text =>
    (body.fits text).map fun f => { f with parts := (key, f.taken) :: f.parts }
  | .sequence a b, text =>
    (a.fits text).flatMap fun f =>
      (b.fits f.rest).map fun g => ⟨f.parts ++ g.parts, f.taken ++ g.taken, g.rest⟩
  | .either a b, text => a.fits text ++ b.fits text
  | .optional body, text => body.fits text ++ [⟨[], [], text⟩]

theorem mem_fits_either : f ∈ (either a b).fits text ↔ f ∈ a.fits text ∨ f ∈ b.fits text := by
  rw [fits, List.mem_append]

theorem mem_fits_optional : f ∈ (optional a).fits text ↔
    f ∈ a.fits text ∨ f = ⟨[], [], text⟩ := by
  rw [fits, List.mem_append, List.mem_singleton]

/-- The parts of a text in the way that is preferred. -/
def fit? (l : Layout κ) (text : List Char) : Option (List (κ × List Char)) :=
  (l.fits text).head?.map Fit.parts

end Layout

end MetricIngest.Text
