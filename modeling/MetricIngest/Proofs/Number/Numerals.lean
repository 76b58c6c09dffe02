/-
  What numerals are read as.

  `isFinite_toBinary64_iff` says which numerals give a finite number: those whose magnitude
  is below `Binary64.overflow`. There are numerals of any length, so some do not; they give
  the infinity of their sign, and none gives NaN.
-/
import Mathlib.Data.List.TakeWhile
import MetricIngest.Number.Written
import MetricIngest.Proofs.Number.Digits
import MetricIngest.Proofs.Number.Rounding

namespace MetricIngest

namespace Binary64

variable {negative : Bool} {size digits : Nat}

/-! ### Decimals -/

/-- A magnitude that is at most that of the infinities is finite or theirs. -/
theorem isFinite_or_eq_infinity {x : Binary64} (h : x.magnitude.val ≤ infinityMagnitude) :
    x.isNaN = false ∧ (x.isFinite = false → x = infinity x.negative) := by
  refine ⟨by simpa [isNaN] using h, fun hfinite => ?_⟩
  have hval : x.magnitude.val = infinityMagnitude := by
    simp only [isFinite, decide_eq_false_iff_not, not_lt] at hfinite
    omega
  obtain ⟨negative, magnitude⟩ := x
  simp only [infinity, mk.injEq, true_and]
  exact Fin.ext hval

theorem ofDecimal_le_infinity (exponent : Int) :
    (ofDecimal negative size digits exponent).magnitude.val ≤ infinityMagnitude := by
  unfold ofDecimal
  split
  · exact Nat.zero_le _
  split
  · exact Nat.zero_le _
  split
  · split
    · exact le_refl _
    · exact roundRatio_le_infinity
  · exact roundRatio_le_infinity

theorem negative_ofDecimal (exponent : Int) :
    (ofDecimal negative size digits exponent).negative = negative := by
  unfold ofDecimal
  repeat' split
  all_goals rfl

/-- **A decimal without an exponent is finite** just if it is below `overflow`. -/
theorem isFinite_ofDecimal_iff (hsize : digits < 10 ^ size) (places : Nat) :
    (ofDecimal negative size digits (-(places : Int))).isFinite = true ↔
      digits < overflow * 10 ^ places := by
  have hten : 0 < 10 ^ places := Nat.pow_pos (by decide)
  have hzero : ∀ negative, (⟨negative, 0⟩ : Binary64).isFinite = true := by decide
  unfold ofDecimal
  split
  · rename_i hdigits
    rw [hdigits]
    exact iff_of_true (hzero _) (Nat.mul_pos overflow_pos hten)
  split
  · -- A decimal that is not computed because it is small has fewer digits than places.
    rename_i hsmall
    have hle : 10 ^ size ≤ 10 ^ places := Nat.pow_le_pow_right (by decide) (by omega)
    have hlt := Nat.le_mul_of_pos_left (10 ^ places) overflow_pos
    exact iff_of_true (hzero _) (by omega)
  split
  · obtain rfl : places = 0 := by omega
    rw [if_neg (by decide), isFinite_ofRatio_iff (by decide)]
    simp
  · rw [Int.neg_neg, Int.toNat_natCast]
    exact isFinite_ofRatio_iff hten

end Binary64

namespace Numeral

variable {cs whole part : List Char}

/-! ### Numerals written out -/

theorem plain?_of_whole (hwhole : ∀ c ∈ whole, Text.IsDigit c) (hne : whole ≠ []) :
    plain? whole = some ⟨whole.length, digitsValue whole, 0⟩ := by
  have hall : ∀ c ∈ whole, isDigit c = true := fun c hc =>
    Text.numeral_isDigit_iff.mpr (hwhole c hc)
  simp [plain?, List.takeWhile_eq_self_iff.mpr hall, List.dropWhile_eq_nil_iff.mpr hall, hne]

theorem plain?_of_point (hwhole : ∀ c ∈ whole, Text.IsDigit c)
    (hpart : ∀ c ∈ part, Text.IsDigit c) (hne : whole ++ part ≠ []) :
    plain? (whole ++ '.' :: part) =
      some ⟨(whole ++ part).length, digitsValue (whole ++ part), -(part.length : Int)⟩ := by
  have hall : ∀ c ∈ whole, isDigit c = true := fun c hc =>
    Text.numeral_isDigit_iff.mpr (hwhole c hc)
  have hpart' : part.all isDigit = true := by
    rw [List.all_eq_true]
    exact fun c hc => Text.numeral_isDigit_iff.mpr (hpart c hc)
  have hpoint : isDigit '.' = false := by decide
  have htake : (whole ++ '.' :: part).takeWhile isDigit = whole := by
    rw [List.takeWhile_append_of_pos hall, List.takeWhile_cons_of_neg (by simp [hpoint]),
      List.append_nil]
  have hdrop : (whole ++ '.' :: part).dropWhile isDigit = '.' :: part := by
    rw [List.dropWhile_append_of_pos hall, List.dropWhile_cons_of_neg (by simp [hpoint])]
  have hne' : ¬ (whole = [] ∧ part = []) := by simpa using hne
  simp only [plain?, htake, hdrop]
  rw [if_pos ⟨trivial, hpart', hne'⟩]

namespace Written

variable {w : Written} {negative : Bool} {d : Decimal}

/-- **A numeral is read as its decimal.** -/
theorem plain?_unsigned (w : Written) : plain? w.unsigned = some w.decimal := by
  obtain ⟨negative, whole, part, hdigits, hne⟩ := w
  cases part with
  | none =>
    simp only [Option.getD_none, List.append_nil] at hdigits hne
    simpa [unsigned, decimal, figures, places] using plain?_of_whole hdigits hne
  | some part =>
    simp only [Option.getD_some] at hdigits hne
    exact plain?_of_point (fun c hc => hdigits c (List.mem_append_left _ hc))
      (fun c hc => hdigits c (List.mem_append_right _ hc)) hne

/-- Nothing else is read. -/
theorem exists_of_plain? (negative : Bool) (h : plain? cs = some d) :
    ∃ w : Written, w.negative = negative ∧ w.unsigned = cs ∧ w.decimal = d := by
  have hcs := List.takeWhile_append_dropWhile (p := isDigit) (l := cs)
  have hwhole : ∀ c ∈ cs.takeWhile isDigit, Text.IsDigit c := fun c hc =>
    Text.numeral_isDigit_iff.mp (List.mem_takeWhile_imp hc)
  simp only [plain?] at h
  split at h
  · rename_i hrest
    split at h
    · cases h
    · rename_i hne
      rw [hrest, List.append_nil] at hcs
      rw [← Option.some.inj h]
      exact ⟨⟨negative, cs.takeWhile isDigit, none, by simpa using hwhole, by simpa using hne⟩,
        rfl, hcs, by simp [decimal, figures, places]⟩
  · rename_i c part hrest
    split at h
    · rename_i hpoint
      obtain ⟨rfl, hpart, hne⟩ := hpoint
      rw [hrest] at hcs
      rw [← Option.some.inj h]
      have hdigits : ∀ c ∈ cs.takeWhile isDigit ++ part, Text.IsDigit c := by
        intro c hc
        rcases List.mem_append.mp hc with hc | hc
        · exact hwhole c hc
        · exact Text.numeral_isDigit_iff.mp (List.all_eq_true.mp hpart c hc)
      exact ⟨⟨negative, cs.takeWhile isDigit, some part, hdigits, by simpa using hne⟩, rfl, hcs,
        rfl⟩
    · cases h

/-- The value of the digits is below the power of ten of their number. -/
theorem digitsValue_figures_lt (w : Written) : digitsValue w.figures < 10 ^ w.figures.length :=
  digitsValue_lt w.isDigit_of_mem

/-- **A numeral gives a finite number** just if its magnitude is below `Binary64.overflow`. -/
theorem isFinite_toBinary64_iff (w : Written) :
    w.toBinary64.isFinite = true ↔ ¬ w.AtLeast Binary64.overflow := by
  rw [AtLeast, not_le]
  exact Binary64.isFinite_ofDecimal_iff w.digitsValue_figures_lt w.places

theorem isNaN_toBinary64 (w : Written) : w.toBinary64.isNaN = false :=
  (Binary64.isFinite_or_eq_infinity (Binary64.ofDecimal_le_infinity _)).1

/-- A numeral that does not give a finite number gives the infinity of its sign. -/
theorem toBinary64_eq_infinity (h : w.AtLeast Binary64.overflow) :
    w.toBinary64 = .infinity w.negative := by
  have hnot : w.toBinary64.isFinite = false := by
    rw [← Bool.not_eq_true, isFinite_toBinary64_iff, not_not]
    exact h
  have hinf := (Binary64.isFinite_or_eq_infinity (Binary64.ofDecimal_le_infinity _)).2 hnot
  rwa [Binary64.negative_ofDecimal] at hinf

end Written

end Numeral

end MetricIngest
