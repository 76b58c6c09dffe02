/-
  Sets of code points, as ordered ranges.

  `CodePoints` is a list of closed ranges in ascending order that neither
  overlap nor touch, so equal sets have equal lists. `ofRanges` brings any list
  of ranges into that form; union, complement, intersection and difference are
  computed on it. `ofText` reads the written form of the property tables:
  hexadecimal ranges such as `41-5A B5` with a space between them.
-/

namespace MetricIngest.Unicode

/-- A set of code points: closed ranges, ascending, with gaps between them. -/
structure CodePoints where
  ranges : List (Nat × Nat)
deriving Repr, DecidableEq, Inhabited

namespace CodePoints

/-- The greatest code point. -/
def last : Nat := 0x10FFFF

/-- The set without members. -/
def empty : CodePoints := ⟨[]⟩

/-- Whether the set has no member. -/
def isEmpty (s : CodePoints) : Bool := s.ranges.isEmpty

/-- Whether the code point `n` is in the set. -/
def contains (s : CodePoints) (n : Nat) : Bool :=
  s.ranges.any fun (low, high) => low ≤ n && n ≤ high

/-- Put ranges that are sorted by their start into normal form: a range that
overlaps or touches the one before it is joined to it. -/
def merge : List (Nat × Nat) → List (Nat × Nat)
  | [] => []
  | (low, high) :: rest => go low high rest
where
  go (low high : Nat) : List (Nat × Nat) → List (Nat × Nat)
    | [] => [(low, high)]
    | (low', high') :: rest =>
      if low' ≤ high + 1 then go low (max high high') rest
      else (low, high) :: go low' high' rest

/-- The set of all members of the ranges; a range that ends before it starts
has none. -/
def ofRanges (ranges : List (Nat × Nat)) : CodePoints :=
  ⟨merge ((ranges.filter fun (low, high) => low ≤ high).mergeSort fun a b => a.1 ≤ b.1)⟩

/-- Ranges in order, none of which ends before it starts, only have to be joined. -/
theorem ranges_ofRanges {ranges : List (Nat × Nat)}
    (hsorted : ranges.Pairwise fun a b => a.1 ≤ b.1) (hproper : ∀ r ∈ ranges, r.1 ≤ r.2) :
    (ofRanges ranges).ranges = merge ranges := by
  have hfilter : ranges.filter (fun (low, high) => low ≤ high) = ranges :=
    List.filter_eq_self.mpr fun r hr => decide_eq_true (hproper r hr)
  have hsort : ranges.mergeSort (fun a b => a.1 ≤ b.1) = ranges :=
    List.mergeSort_of_pairwise (hsorted.imp decide_eq_true)
  rw [ofRanges, hfilter, hsort]

/-- The set with one member. -/
def singleton (n : Nat) : CodePoints := ⟨[(n, n)]⟩

/-- The set of the code points from `low` to `high`. -/
def range (low high : Nat) : CodePoints := ofRanges [(low, high)]

/-- The members of either set. -/
def union (s t : CodePoints) : CodePoints :=
  ofRanges (s.ranges ++ t.ranges)

/-- The gaps of ascending ranges between `start` and the last code point. -/
def gaps (start : Nat) : List (Nat × Nat) → List (Nat × Nat)
  | [] => if start ≤ last then [(start, last)] else []
  | (low, high) :: rest =>
    if start < low then (start, low - 1) :: gaps (high + 1) rest else gaps (high + 1) rest

/-- The code points outside the set. -/
def complement (s : CodePoints) : CodePoints := ⟨gaps 0 s.ranges⟩

/-- The members of both sets. -/
def inter (s t : CodePoints) : CodePoints :=
  (s.complement.union t.complement).complement

/-- The members of the first set outside the second. -/
def diff (s t : CodePoints) : CodePoints :=
  s.inter t.complement

/-- The members of exactly one of the sets. -/
def symmDiff (s t : CodePoints) : CodePoints :=
  (s.diff t).union (t.diff s)

/-- The set of all scalar values: every code point but the surrogates. -/
def all : CodePoints := ⟨[(0, 0xD7FF), (0xE000, last)]⟩

/-! ### Written tables -/

/-- The value of a hexadecimal digit. -/
def hexDigit? (c : Char) : Option Nat :=
  if '0' ≤ c ∧ c ≤ '9' then some (c.toNat - 0x30)
  else if 'A' ≤ c ∧ c ≤ 'F' then some (c.toNat - 0x37)
  else if 'a' ≤ c ∧ c ≤ 'f' then some (c.toNat - 0x57)
  else none

/-- A range being read: its start once the dash is passed, and the number read so far. -/
structure Reading where
  start : Option Nat
  value : Option Nat

/-- The range that is complete at the next space. -/
def Reading.range? (r : Reading) : Option (Nat × Nat) :=
  r.value.map fun high => (r.start.getD high, high)

/-- Read ranges written in hexadecimal, `low-high` or a single number, with
spaces between them. -/
def readRanges (r : Reading) : List Char → List (Nat × Nat)
  | [] => r.range?.toList
  | c :: cs =>
    if c = '-' then readRanges ⟨r.value, none⟩ cs
    else
      match hexDigit? c with
      | some d => readRanges ⟨r.start, some (r.value.getD 0 * 16 + d)⟩ cs
      | none => r.range?.toList ++ readRanges ⟨none, none⟩ cs

/-- The set written as lines of hexadecimal ranges. -/
def ofText (lines : List String) : CodePoints :=
  ofRanges (lines.flatMap fun line => readRanges ⟨none, none⟩ line.toList)

end CodePoints

end MetricIngest.Unicode
