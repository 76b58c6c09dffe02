/-
  The text of a number in JSON.

  A finite number is written with digits, a point, signs and the mark of an exponent, and so
  never as `null`, which stands for the others (`numberText_eq_null_iff`).
-/
import MetricIngest.Json.Value

namespace MetricIngest.Json

/-- A character that the text of a finite number can hold. -/
def IsNumberChar (c : Char) : Prop := c.isDigit = true ∨ c ∈ ['.', '-', '+', 'e']

instance (c : Char) : Decidable (IsNumberChar c) := inferInstanceAs (Decidable (_ ∨ _))

theorem isNumberChar_of_mem_digitsOf (n : Nat) : ∀ c ∈ digitsOf n, IsNumberChar c :=
  fun _ hc => Or.inl (Nat.isDigit_of_mem_toDigits (by decide) (by decide) hc)

theorem isNumberChar_of_mem_zeros (n : Nat) : ∀ c ∈ List.replicate n '0', IsNumberChar c := by
  intro c hc
  rw [List.eq_of_mem_replicate hc]
  decide

theorem NumberLayout.isNumberChar_of_mem_render (layout : NumberLayout) (d : Shortest.Digits) :
    ∀ c ∈ layout.render d, IsNumberChar c := by
  have hdigits := isNumberChar_of_mem_digitsOf d.digits
  have htake : ∀ k, ∀ c ∈ (digitsOf d.digits).take k, IsNumberChar c := fun k c hc =>
    hdigits c (List.mem_of_mem_take hc)
  have hdrop : ∀ k, ∀ c ∈ (digitsOf d.digits).drop k, IsNumberChar c := fun k c hc =>
    hdigits c (List.mem_of_mem_drop hc)
  have hpoint : IsNumberChar '.' := by decide
  simp only [render]
  split
  · split
    · simp only [List.forall_mem_append, List.forall_mem_cons]
      exact ⟨⟨⟨by decide, hpoint, by simp⟩, isNumberChar_of_mem_zeros _⟩, hdigits⟩
    · split
      · simp only [List.forall_mem_append, List.forall_mem_cons]
        exact ⟨⟨hdigits, isNumberChar_of_mem_zeros _⟩, hpoint, by decide, by simp⟩
      · simp only [List.forall_mem_append, List.forall_mem_cons]
        exact ⟨htake _, hpoint, hdrop _⟩
  · simp only [List.forall_mem_append, List.forall_mem_cons]
    refine ⟨⟨htake 1, ?_⟩, by decide, ?_, isNumberChar_of_mem_digitsOf _⟩
    · split
      · simp
      · rw [List.forall_mem_cons]
        exact ⟨hpoint, hdrop 1⟩
    · split <;> decide

theorem isNumberChar_of_mem_numberText {x : Binary64} (h : x.isFinite = true) :
    ∀ c ∈ numberText x, IsNumberChar c := by
  rw [numberText, if_pos h, List.forall_mem_append]
  have hminus : IsNumberChar '-' := by decide
  have hzero : IsNumberChar '0' := by decide
  have hpoint : IsNumberChar '.' := by decide
  constructor
  · split <;> simp [hminus]
  · split
    · simp [hzero, hpoint]
    · exact numberLayout.isNumberChar_of_mem_render _

/-- **Only what is not finite is written as `null`.** -/
theorem numberText_eq_null_iff {x : Binary64} :
    numberText x = ['n', 'u', 'l', 'l'] ↔ x.isFinite = false := by
  constructor
  · intro hnull
    rw [← Bool.not_eq_true]
    intro hfinite
    have hchar := isNumberChar_of_mem_numberText hfinite 'n' (by simp [hnull])
    exact absurd hchar (by decide)
  · intro hfinite
    simp [numberText, hfinite]

end MetricIngest.Json
