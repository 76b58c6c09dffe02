/-
  What runs of digits stand for.

  The digits behind a run move what it stands for up by a power of ten
  (`digitsValue_append`), so zeros behind it multiply and zeros before it do nothing, and a run
  stands for less than the power of ten of its length. The digits of a number stand for that
  number.
-/
import Mathlib.Data.List.Induction
import Mathlib.Tactic.Ring
import MetricIngest.Text.Ascii

namespace MetricIngest.Numeral

variable {c : Char} {cs : List Char} {n : Nat}

/-! ### Runs of digits -/

theorem natural?_eq_some_iff :
    natural? cs = some n ↔ cs ≠ [] ∧ (∀ c ∈ cs, Text.IsDigit c) ∧ digitsValue cs = n := by
  simp only [natural?, Option.ite_none_right_eq_some, List.all_eq_true, Text.numeral_isDigit_iff,
    Option.some.injEq, and_assoc]

theorem digitsValue_append_singleton :
    digitsValue (cs ++ [c]) = digitsValue cs * 10 + (c.toNat - 0x30) := by
  simp [digitsValue]

/-- **Digits behind a run** move it up by the power of ten of their number. -/
theorem digitsValue_append (cs more : List Char) :
    digitsValue (cs ++ more) = digitsValue cs * 10 ^ more.length + digitsValue more := by
  induction more using List.reverseRecOn with
  | nil => simp [digitsValue]
  | append_singleton more c ih =>
    rw [← List.append_assoc, digitsValue_append_singleton, ih, digitsValue_append_singleton,
      List.length_append, List.length_singleton]
    ring

theorem digitsValue_lt (h : ∀ c ∈ cs, Text.IsDigit c) : digitsValue cs < 10 ^ cs.length := by
  induction cs using List.reverseRecOn with
  | nil => decide
  | append_singleton cs c ih =>
    have hcs := ih fun d hd => h d (List.mem_append_left _ hd)
    have hc : c.toNat ≤ '9'.toNat := (h c (by simp)).2
    rw [digitsValue_append_singleton, List.length_append, List.length_singleton, pow_succ]
    have hnine : '9'.toNat = 57 := rfl
    omega

theorem digitsValue_zeros (k : Nat) : digitsValue (List.replicate k '0') = 0 := by
  induction k with
  | zero => rfl
  | succ k ih => exact ih

theorem digitsValue_append_zeros (cs : List Char) (k : Nat) :
    digitsValue (cs ++ List.replicate k '0') = digitsValue cs * 10 ^ k := by
  rw [digitsValue_append, digitsValue_zeros, List.length_replicate, Nat.add_zero]

theorem digitsValue_zeros_append (cs : List Char) (k : Nat) :
    digitsValue (List.replicate k '0' ++ cs) = digitsValue cs := by
  rw [digitsValue_append, digitsValue_zeros, Nat.zero_mul, Nat.zero_add]

theorem isDigit_of_mem_zeros (k : Nat) : ∀ c ∈ List.replicate k '0', isDigit c = true := by
  intro c hc
  rw [List.eq_of_mem_replicate hc]
  decide

theorem digits_zeros (k : Nat) : ∀ c ∈ List.replicate k '0', Text.IsDigit c :=
  fun c hc => Text.numeral_isDigit_iff.mp (isDigit_of_mem_zeros k c hc)

/-! ### The digits of a number -/

/-- **A number is the value of its digits.** -/
theorem digitsValue_toDigits (n : Nat) : digitsValue (Nat.toDigits 10 n) = n := by
  have hfold : digitsValue (Nat.toDigits 10 n) = Nat.ofDigitChars 10 (Nat.toDigits 10 n) 0 := by
    simp only [digitsValue, Nat.ofDigitChars, Nat.mul_comm]
    rfl
  rw [hfold, Nat.ofDigitChars_toDigits (by decide) (by decide)]

theorem isDigit_of_mem_toDigits : ∀ c ∈ Nat.toDigits 10 n, isDigit c = true := by
  intro c hc
  have hdigit : c.isDigit = true := Nat.isDigit_of_mem_toDigits (by decide) (by decide) hc
  exact Text.numeral_isDigit_iff.mpr (Text.isDigit_iff.mp hdigit)

end MetricIngest.Numeral
