/-
  A written number reads back to itself.

  `WrittenNumber` is a number in the grammar of JSON, and `readNumber?_text` says that exactly
  its text is taken off the front of a text that does not go on with it. Whole numbers and
  finite 64-bit ones are written so: `exists_written_int` and `exists_written_number` give the
  parts. That the decimal of a 64-bit number is read as this number is `ofDecimal_of_contains`;
  here it is written in one of four layouts, which all have its value.
-/
import Mathlib.Tactic.IntervalCases
import MetricIngest.Json.Reader
import MetricIngest.Proofs.Number.Numerals
import MetricIngest.Proofs.Number.Shortest

namespace MetricIngest.Json

open Numeral

variable {c : Char} {cs rest : List Char} {n : Nat}

/-! ### Digits -/

/-- A run of digits that is not empty. -/
def IsDigits (cs : List Char) : Prop := cs ≠ [] ∧ ∀ c ∈ cs, isDigit c = true

theorem digitsValue_digitsOf (n : Nat) : digitsValue (digitsOf n) = n :=
  digitsValue_toDigits n

theorem isDigits_digitsOf (n : Nat) : IsDigits (digitsOf n) :=
  ⟨Nat.toDigits_ne_nil, isDigit_of_mem_toDigits⟩

/-- The digits of a positive number do not begin with a zero. -/
theorem head?_digitsOf_ne (h : 0 < n) : (digitsOf n).head? ≠ some '0' := by
  induction n using Nat.strongRecOn with
  | _ n ih =>
    rw [digitsOf, Nat.toDigits_eq_if (by decide)]
    split
    · rename_i hlt
      interval_cases n <;> decide
    · rename_i hge
      have hne : Nat.toDigits 10 (n / 10) ≠ [] := Nat.toDigits_ne_nil
      rw [List.head?_append_of_ne_nil _ hne]
      exact ih (n / 10) (by omega) (by omega)

/-- The digits of a number before a point or at the beginning of a numeral. -/
theorem digitsOf_eq_or_head?_ne (n : Nat) : digitsOf n = ['0'] ∨ (digitsOf n).head? ≠ some '0' := by
  rcases n.eq_zero_or_pos with rfl | h
  · exact Or.inl rfl
  · exact Or.inr (head?_digitsOf_ne h)

/-! ### Taking digits -/

theorem readDigits?_append (h : IsDigits cs) (hrest : ∀ c ∈ rest.head?, isDigit c = false) :
    readDigits? (cs ++ rest) = some (cs, rest) := by
  have hstop : rest.takeWhile isDigit = [] ∧ rest.dropWhile isDigit = rest := by
    cases rest with
    | nil => exact ⟨rfl, rfl⟩
    | cons c rest =>
      have hc := hrest c rfl
      exact ⟨List.takeWhile_cons_of_neg (by simp [hc]), List.dropWhile_cons_of_neg (by simp [hc])⟩
  have htake : (cs ++ rest).takeWhile isDigit = cs := by
    rw [List.takeWhile_append_of_pos h.2, hstop.1, List.append_nil]
  have hdrop : (cs ++ rest).dropWhile isDigit = rest := by
    rw [List.dropWhile_append_of_pos h.2, hstop.2]
  rw [readDigits?, htake, hdrop]
  exact if_neg h.1

theorem readWhole?_append (h : IsDigits cs) (hlead : cs = ['0'] ∨ cs.head? ≠ some '0')
    (hrest : ∀ c ∈ rest.head?, isDigit c = false) : readWhole? (cs ++ rest) = some (cs, rest) := by
  rw [readWhole?, readDigits?_append h hrest]
  simpa using hlead

theorem takeMinus_append (negative : Bool) (h : ∀ c ∈ cs.head?, c ≠ '-') :
    takeMinus ((if negative then ['-'] else []) ++ cs) = (negative, cs) := by
  cases negative with
  | true => rfl
  | false =>
    cases cs with
    | nil => rfl
    | cons c cs => simp [takeMinus, h c rfl]

theorem IsDigits.head?_ne_minus (h : IsDigits cs) (rest : List Char) :
    ∀ c ∈ (cs ++ rest).head?, c ≠ '-' := by
  obtain ⟨hne, hall⟩ := h
  rw [List.head?_append_of_ne_nil _ hne]
  rintro c hc rfl
  exact absurd (hall '-' (List.mem_of_mem_head? hc)) (by decide)

/-! ### Numbers in parts -/

/-- A number as it is written. -/
structure WrittenNumber where
  negative : Bool
  /-- The digits before the point. -/
  whole : List Char
  /-- The digits after the point, if there is one. -/
  fraction : Option (List Char)
  /-- Whether the exponent is negative, and its digits, if there is one. -/
  exponent : Option (Bool × List Char)
  isDigits_whole : IsDigits whole
  whole_eq_or : whole = ['0'] ∨ whole.head? ≠ some '0'
  isDigits_fraction : ∀ ds ∈ fraction, IsDigits ds
  isDigits_exponent : ∀ e ∈ exponent, IsDigits e.2

namespace WrittenNumber

/-- The text of a fraction. -/
def fractionText : Option (List Char) → List Char
  | none => []
  | some ds => '.' :: ds

/-- The text of an exponent, which always has a sign. -/
def exponentText : Option (Bool × List Char) → List Char
  | none => []
  | some (negative, ds) => 'e' :: (if negative then '-' else '+') :: ds

/-- The value of an exponent. -/
def exponentValue : Bool × List Char → Int
  | (negative, ds) => if negative then -(digitsValue ds : Int) else digitsValue ds

/-- The text of the number. -/
def text (w : WrittenNumber) : List Char :=
  (if w.negative then ['-'] else []) ++
    (w.whole ++ (fractionText w.fraction ++ exponentText w.exponent))

/-- The value of the number. -/
def value (w : WrittenNumber) : Value :=
  numberOf w.negative w.whole w.fraction (w.exponent.map exponentValue)

end WrittenNumber

/-- Whether a text does not go on with a number. -/
def Ends (rest : List Char) : Prop :=
  ∀ c ∈ rest.head?, isDigit c = false ∧ c ≠ '.' ∧ c ≠ 'e' ∧ c ≠ 'E'

open WrittenNumber in
theorem readExponent?_append {e : Option (Bool × List Char)} (he : ∀ p ∈ e, IsDigits p.2)
    (hrest : Ends rest) :
    readExponent? (exponentText e ++ rest) = some (e.map exponentValue, rest) := by
  have hdigits : ∀ c ∈ rest.head?, isDigit c = false := fun c hc => (hrest c hc).1
  cases e with
  | none =>
    cases rest with
    | nil => rfl
    | cons c rest =>
      obtain ⟨-, -, hlower, hupper⟩ := hrest c rfl
      simp [exponentText, readExponent?, hlower, hupper]
  | some p =>
    obtain ⟨negative, ds⟩ := p
    have hread := readDigits?_append (he _ rfl) hdigits
    cases negative <;> simp [exponentText, exponentValue, readExponent?, takeSign, hread]

open WrittenNumber in
theorem readFraction?_append {f : Option (List Char)} (hf : ∀ ds ∈ f, IsDigits ds)
    (hrest : ∀ c ∈ rest.head?, isDigit c = false ∧ c ≠ '.') :
    readFraction? (fractionText f ++ rest) = some (f, rest) := by
  cases f with
  | none =>
    cases rest with
    | nil => rfl
    | cons c rest => simp [fractionText, readFraction?, (hrest c rfl).2]
  | some ds =>
    have hread := readDigits?_append (hf ds rfl) fun c hc => (hrest c hc).1
    simp [fractionText, readFraction?, hread]

/-- **A written number is read as its value**, up to where it ends. -/
theorem readNumber?_text (w : WrittenNumber) (hrest : Ends rest) :
    readNumber? (w.text ++ rest) = some (w.value, rest) := by
  obtain ⟨negative, whole, fraction, exponent, hwhole, hlead, hfraction, hexponent⟩ := w
  have hexp := readExponent?_append hexponent hrest
  -- No part goes on with the next.
  have hafter : ∀ c ∈ (WrittenNumber.exponentText exponent ++ rest).head?,
      isDigit c = false ∧ c ≠ '.' := by
    cases exponent with
    | none => exact fun c hc => ⟨(hrest c hc).1, (hrest c hc).2.1⟩
    | some p => simp [WrittenNumber.exponentText, isDigit]
  have hfrac := readFraction?_append hfraction hafter
  have hbefore : ∀ c ∈ (WrittenNumber.fractionText fraction ++
      (WrittenNumber.exponentText exponent ++ rest)).head?, isDigit c = false := by
    cases fraction with
    | none => exact fun c hc => (hafter c hc).1
    | some ds => simp [WrittenNumber.fractionText, isDigit]
  have hall := readWhole?_append hwhole hlead hbefore
  have hminus := takeMinus_append negative (hwhole.head?_ne_minus
    (WrittenNumber.fractionText fraction ++ (WrittenNumber.exponentText exponent ++ rest)))
  simp only [WrittenNumber.text, List.append_assoc, readNumber?, hminus, hall, hfrac, hexp,
    Option.bind_eq_bind, Option.bind_some, WrittenNumber.value]
  rfl

/-! ### Whole numbers -/

/-- **A whole number is written as such.** -/
theorem exists_written_int (n : Int) : ∃ w : WrittenNumber,
    w.text = intText n ∧ w.value = .int n := by
  refine ⟨⟨decide (n < 0), digitsOf n.natAbs, none, none, isDigits_digitsOf _,
    digitsOf_eq_or_head?_ne _, by simp, by simp⟩, ?_, ?_⟩
  · by_cases h : n < 0 <;>
      simp [WrittenNumber.text, WrittenNumber.fractionText, WrittenNumber.exponentText, intText, h]
  · simp only [WrittenNumber.value, numberOf, Option.map_none, digitsValue_digitsOf]
    by_cases h : n < 0
    · simp only [h, decide_true, and_self, if_true]
      congr 1
      omega
    · simp only [h, decide_false, and_self, if_true, Bool.false_eq_true, if_false]
      congr 1
      omega

/-! ### Decimals -/

namespace WrittenNumber

/-- The digits before and after the point. -/
def figures (w : WrittenNumber) : List Char := w.whole ++ w.fraction.getD []

/-- The power of ten of the last of them. -/
def power (w : WrittenNumber) : Int :=
  (w.exponent.map exponentValue).getD 0 - (w.fraction.getD []).length

/-- Whether the number has a point or an exponent. -/
def IsDecimal (w : WrittenNumber) : Prop := ¬(w.fraction = none ∧ w.exponent = none)

theorem value_of_isDecimal {w : WrittenNumber} (h : w.IsDecimal) :
    w.value = .number (Binary64.ofDecimal w.negative w.figures.length (digitsValue w.figures)
      w.power) := by
  have hnot : ¬(w.fraction = none ∧ w.exponent.map exponentValue = none) := by
    simpa [IsDecimal] using h
  rw [value, numberOf, if_neg hnot]
  rfl

theorem digitsValue_figures_lt (w : WrittenNumber) :
    digitsValue w.figures < 10 ^ w.figures.length := by
  refine digitsValue_lt fun c hc => Text.numeral_isDigit_iff.mp ?_
  rcases List.mem_append.mp hc with hc | hc
  · exact w.isDigits_whole.2 c hc
  · cases hfraction : w.fraction with
    | none => simp [hfraction] at hc
    | some ds =>
      rw [hfraction] at hc
      exact (w.isDigits_fraction ds hfraction).2 c hc

end WrittenNumber

/-- A beginning of the digits of a positive number, which does not begin with a zero. -/
theorem isDigits_take {k : Nat} (h : 0 < n) (hk : 0 < k) : IsDigits ((digitsOf n).take k) ∧
    ((digitsOf n).take k).head? ≠ some '0' := by
  obtain ⟨hne, hall⟩ := isDigits_digitsOf n
  refine ⟨⟨?_, fun c hc => hall c (List.mem_of_mem_take hc)⟩, ?_⟩
  · simp [hne, hk.ne']
  · rw [List.head?_take, if_neg hk.ne']
    exact head?_digitsOf_ne h

theorem isDigits_drop {k : Nat} (hk : k < (digitsOf n).length) :
    IsDigits ((digitsOf n).drop k) := by
  refine ⟨?_, fun c hc => (isDigits_digitsOf n).2 c (List.mem_of_mem_drop hc)⟩
  rw [Ne, List.drop_eq_nil_iff]
  omega

theorem isDigits_zeros_append (h : IsDigits cs) (k : Nat) :
    IsDigits (List.replicate k '0' ++ cs) :=
  ⟨by simp [h.1], List.forall_mem_append.mpr ⟨isDigit_of_mem_zeros k, h.2⟩⟩

theorem isDigits_append_zeros (h : IsDigits cs) (k : Nat) :
    IsDigits (cs ++ List.replicate k '0') :=
  ⟨by simp [h.1], List.forall_mem_append.mpr ⟨h.2, isDigit_of_mem_zeros k⟩⟩

/-- Whether a text is that of a decimal with a sign and a value. -/
def Writes (negative : Bool) (text : List Char) (q : ℚ) : Prop := ∃ w : WrittenNumber,
  w.negative = negative ∧ w.IsDecimal ∧ w.text = (if negative then ['-'] else []) ++ text ∧
    (digitsValue w.figures : ℚ) * 10 ^ w.power = q

section Layouts

variable (negative : Bool) {k : Nat}

/-- The point and zeros stand before all digits. -/
theorem writes_before (n k : Nat) :
    Writes negative (['0', '.'] ++ List.replicate k '0' ++ digitsOf n)
      (n * 10 ^ (-(k + (digitsOf n).length : Nat) : Int)) := by
  have hpart := isDigits_zeros_append (isDigits_digitsOf n) k
  refine ⟨⟨negative, ['0'], some (List.replicate k '0' ++ digitsOf n), none,
    by simp [IsDigits, isDigit], Or.inl rfl, by simpa using hpart, by simp⟩, rfl,
    by simp [WrittenNumber.IsDecimal],
    by simp [WrittenNumber.text, WrittenNumber.fractionText, WrittenNumber.exponentText], ?_⟩
  have hvalue : digitsValue ('0' :: (List.replicate k '0' ++ digitsOf n)) = n :=
    (digitsValue_zeros_append _ (k + 1)).trans (digitsValue_digitsOf n)
  simp [WrittenNumber.figures, WrittenNumber.power, hvalue]

/-- Zeros and the point stand after all digits. -/
theorem writes_after (h : 0 < n) (k : Nat) :
    Writes negative (digitsOf n ++ List.replicate k '0' ++ ['.', '0']) (n * 10 ^ (k : Int)) := by
  have hwhole := isDigits_append_zeros (isDigits_digitsOf n) k
  have hlead : (digitsOf n ++ List.replicate k '0').head? ≠ some '0' := by
    rw [List.head?_append_of_ne_nil _ (isDigits_digitsOf n).1]
    exact head?_digitsOf_ne h
  refine ⟨⟨negative, digitsOf n ++ List.replicate k '0', some ['0'], none, hwhole, Or.inr hlead,
    by simp [IsDigits, isDigit], by simp⟩, rfl, by simp [WrittenNumber.IsDecimal],
    by simp [WrittenNumber.text, WrittenNumber.fractionText, WrittenNumber.exponentText], ?_⟩
  have hvalue : digitsValue (digitsOf n ++ List.replicate k '0' ++ ['0']) = n * 10 ^ (k + 1) := by
    rw [List.append_assoc, ← List.replicate_succ', digitsValue_append_zeros, digitsValue_digitsOf]
  simp only [WrittenNumber.figures, WrittenNumber.power, Option.getD_some, hvalue, Option.map_none,
    Option.getD_none, List.length_singleton]
  push_cast
  rw [pow_succ, zpow_natCast]
  norm_num
  ring

/-- The point stands among the digits. -/
theorem writes_among (h : 0 < n) (hk : 0 < k) (hlt : k < (digitsOf n).length) :
    Writes negative ((digitsOf n).take k ++ '.' :: (digitsOf n).drop k)
      (n * 10 ^ ((k : Int) - (digitsOf n).length)) := by
  obtain ⟨hwhole, hlead⟩ := isDigits_take h hk
  refine ⟨⟨negative, (digitsOf n).take k, some ((digitsOf n).drop k), none, hwhole, Or.inr hlead,
    by simpa using isDigits_drop hlt, by simp⟩, rfl, by simp [WrittenNumber.IsDecimal],
    by simp [WrittenNumber.text, WrittenNumber.fractionText, WrittenNumber.exponentText], ?_⟩
  simp only [WrittenNumber.figures, WrittenNumber.power, Option.getD_some, List.take_append_drop,
    digitsValue_digitsOf, Option.map_none, Option.getD_none, List.length_drop]
  congr 2
  omega

/-- The point stands after the first digit, if there are more, and an exponent follows. -/
theorem writes_exponent (h : 0 < n) (e : Int) : Writes negative ((digitsOf n).take 1 ++
      (match (digitsOf n).drop 1 with
        | [] => []
        | rest => '.' :: rest) ++
      'e' :: (if e < 0 then '-' else '+') :: digitsOf e.natAbs)
    (n * 10 ^ (e + 1 - (digitsOf n).length)) := by
  obtain ⟨hwhole, hlead⟩ := isDigits_take h Nat.one_pos
  have hlength : 0 < (digitsOf n).length := List.length_pos_iff.mpr (isDigits_digitsOf n).1
  have hexponent : WrittenNumber.exponentValue (decide (e < 0), digitsOf e.natAbs) = e := by
    rw [WrittenNumber.exponentValue, digitsValue_digitsOf]
    by_cases he : e < 0
    · simp only [he, decide_true, if_true]
      omega
    · simp only [he, decide_false, Bool.false_eq_true, if_false]
      omega
  -- There is a fraction just if there is a second digit.
  obtain ⟨f, htext, hfraction, hrest⟩ : ∃ f : Option (List Char),
      WrittenNumber.fractionText f = (match (digitsOf n).drop 1 with
        | [] => []
        | rest => '.' :: rest) ∧
      (∀ ds ∈ f, IsDigits ds) ∧ f.getD [] = (digitsOf n).drop 1 := by
    cases hrest : (digitsOf n).drop 1 with
    | nil => exact ⟨none, rfl, by simp, rfl⟩
    | cons c rest =>
      have hpart : IsDigits (c :: rest) := by
        rw [← hrest]
        refine isDigits_drop ?_
        have := congrArg List.length hrest
        simp only [List.length_drop, List.length_cons] at this
        omega
      exact ⟨some (c :: rest), rfl, by simpa using hpart, rfl⟩
  rw [← htext]
  refine ⟨⟨negative, (digitsOf n).take 1, f, some (decide (e < 0), digitsOf e.natAbs), hwhole,
    Or.inr hlead, hfraction, by simpa using isDigits_digitsOf _⟩, rfl,
    by simp [WrittenNumber.IsDecimal], by simp [WrittenNumber.text, WrittenNumber.exponentText], ?_⟩
  simp only [WrittenNumber.figures, WrittenNumber.power, hrest, List.take_append_drop,
    digitsValue_digitsOf, Option.map_some, Option.getD_some, hexponent, List.length_drop]
  congr 2
  omega

end Layouts

/-- The text of a positive decimal is that of a number with its value. -/
theorem writes_render (layout : NumberLayout) (negative : Bool) {d : Shortest.Digits}
    (h : 0 < d.digits) : Writes negative (layout.render d) d.value := by
  have hlength : 0 < (digitsOf d.digits).length :=
    List.length_pos_iff.mpr (isDigits_digitsOf d.digits).1
  simp only [NumberLayout.render]
  split
  · split
    · rename_i hpoint
      have hwrites := writes_before negative d.digits
        (-((digitsOf d.digits).length + d.exponent : Int)).toNat
      rw [show (-((-((digitsOf d.digits).length + d.exponent : Int)).toNat +
        (digitsOf d.digits).length : Nat) : Int) = d.exponent by omega] at hwrites
      exact hwrites
    · split
      · rename_i hexponent
        have hwrites := writes_after negative h d.exponent.toNat
        rw [Int.toNat_of_nonneg hexponent] at hwrites
        exact hwrites
      · have hwrites := writes_among negative h
          (k := ((digitsOf d.digits).length + d.exponent : Int).toNat) (by omega) (by omega)
        rw [show ((((digitsOf d.digits).length + d.exponent : Int).toNat : Nat) : Int) -
          (digitsOf d.digits).length = d.exponent by omega] at hwrites
        exact hwrites
  · have hwrites := writes_exponent negative h ((digitsOf d.digits).length + d.exponent - 1)
    rw [show ((digitsOf d.digits).length : Int) + d.exponent - 1 + 1 - (digitsOf d.digits).length =
      d.exponent by omega] at hwrites
    exact hwrites

/-- **A finite number is written as a decimal that reads back to it.** -/
theorem exists_written_number {x : Binary64} (h : x.isFinite = true) : ∃ w : WrittenNumber,
    w.text = numberText x ∧ w.value = .number x := by
  by_cases hzero : x.magnitude.val = 0
  · obtain ⟨negative, magnitude⟩ := x
    obtain rfl : magnitude = 0 := Fin.ext hzero
    refine ⟨⟨negative, ['0'], some ['0'], none, by simp [IsDigits, isDigit], Or.inl rfl,
      by simp [IsDigits, isDigit], by simp⟩, ?_, rfl⟩
    cases negative <;> rfl
  · have hpos : 0 < x.significand := Binary64.significand_pos hzero
    have hcontains := Shortest.contains_digits hpos
    have hdigits : 0 < (Shortest.digits x).digits := by
      rw [Nat.pos_iff_ne_zero]
      intro hnone
      have hlow := (Shortest.bounds_of_contains h hpos hcontains).1
      rw [Shortest.Digits.value, hnone, Nat.cast_zero, zero_mul] at hlow
      exact absurd hlow (not_le.mpr (by positivity))
    obtain ⟨w, hnegative, hdecimal, htext, hvalue⟩ :=
      writes_render numberLayout x.negative hdigits
    refine ⟨w, ?_, ?_⟩
    · rw [numberText, if_pos h, if_neg hzero, htext]
    · rw [← hvalue] at hcontains
      rw [WrittenNumber.value_of_isDecimal hdecimal, hnegative,
        Shortest.ofDecimal_of_contains x.negative h hpos w.digitsValue_figures_lt hcontains]

end MetricIngest.Json
