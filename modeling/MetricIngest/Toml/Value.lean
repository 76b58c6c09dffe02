/-
  TOML values and how lines build up a table.

  A table remembers how it came about, because that decides what later lines may
  add to it. A table that a header names is complete with that header's lines; a
  table that is only on the way to another may still get a header of its own; a
  table made by a dotted key can be extended by dotted keys alone. `openTable`,
  `openElement` and `addPair` are the three changes that lines make. None of
  them replaces a value.
-/
import MetricIngest.Number.Binary64

namespace MetricIngest.Toml

/-- How a table came about: by its own header, on the way to the table of
another header, by a dotted key, or written in braces. -/
inductive Origin where
  | header
  | implied
  | dotted
  | inline
deriving Repr, DecidableEq

/-- A TOML value. A date or a time is kept as its text. -/
inductive Value where
  | string (s : String)
  | integer (n : Int)
  | float (x : Binary64)
  | boolean (b : Bool)
  | moment (text : String)
  | array (items : List Value)
  | table (origin : Origin) (members : List (String × Value))
  | tables (elements : List (List (String × Value)))
deriving Repr, Inhabited

/-- The members of a table in the order they were added. -/
abbrev Members := List (String × Value)

namespace Members

/-- The value of a key. -/
def get? (ms : Members) (key : String) : Option Value :=
  (ms.find? fun m => m.1 = key).map (·.2)

/-- The members with another value for a key that is there. -/
def replace (ms : Members) (key : String) (v : Value) : Members :=
  ms.map fun m => if m.1 = key then (key, v) else m

/-- The members with one more at the end. -/
def add (ms : Members) (key : String) (v : Value) : Members := ms ++ [(key, v)]

/-! ### The table at the end of a path -/

/-- Change the table that a path leads to from a table. Tables that are missing
on the way are made with origin `fresh`; a table can be entered only if `enters`
allows its origin. Of a list of tables the last one is entered. -/
def alter (fresh : Origin) (enters : Origin → Bool)
    (change : Origin → Members → Option Members) :
    List String → Origin → Members → Option Members
  | [], origin, ms => change origin ms
  | key :: path, _, ms =>
    match ms.get? key with
    | none =>
      (alter fresh enters change path fresh []).map fun inner => ms.add key (.table fresh inner)
    | some (.table origin inner) =>
      if enters origin then
        (alter fresh enters change path origin inner).map fun inner =>
          ms.replace key (.table origin inner)
      else none
    | some (.tables elements) =>
      match elements.getLast? with
      | none => none
      | some last =>
        (alter fresh enters change path .header last).map fun last =>
          ms.replace key (.tables (elements.dropLast ++ [last]))
    | some _ => none

/-- Change the table at the end of a header's path. A table in braces is closed. -/
def atHeader (path : List String) (change : Origin → Members → Option Members) (ms : Members) :
    Option Members :=
  alter .implied (· ≠ .inline) change path .header ms

/-! ### Changes -/

/-- Make a table for a header. It may be there already if no header named it. -/
def openTable (key : String) (_ : Origin) (ms : Members) : Option Members :=
  match ms.get? key with
  | none => some (ms.add key (.table .header []))
  | some (.table .implied inner) => some (ms.replace key (.table .header inner))
  | some _ => none

/-- Make one more element of a list of tables. -/
def openElement (key : String) (_ : Origin) (ms : Members) : Option Members :=
  match ms.get? key with
  | none => some (ms.add key (.tables [[]]))
  | some (.tables elements) => some (ms.replace key (.tables (elements ++ [[]])))
  | some _ => none

/-- Add a value under a key that is not taken, at the end of a dotted key if
`dotted` says so. -/
def addValue (dotted : Bool) (key : String) (v : Value) (origin : Origin) (ms : Members) :
    Option Members :=
  if decide (origin = .dotted) = dotted ∧ (ms.get? key).isNone then some (ms.add key v) else none

/-- Add a value under a dotted key, given as the keys before the last and the last. -/
def addPair (path : List String) (key : String) (v : Value) (origin : Origin) (ms : Members) :
    Option Members :=
  alter .dotted (fun o => o = .implied ∨ o = .dotted) (addValue (path ≠ []) key v) path origin ms

end Members

end MetricIngest.Toml
