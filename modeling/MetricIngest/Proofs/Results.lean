/-
  Results of steps that may fail.

  Steps one after the other give a value just when each gives one, and fail just when one of them
  fails and those before it did not. Wrapping an error changes nothing else.
-/

namespace MetricIngest.ResultFacts

variable {ε ε' α β : Type} {x : Except ε α} {f : α → Except ε β} {wrap : ε → ε'}

theorem bind_eq_ok_iff {b : β} : (x >>= f) = .ok b ↔ ∃ a, x = .ok a ∧ f a = .ok b := by
  cases x <;> simp [bind, Except.bind]

theorem bind_eq_error_iff {e : ε} :
    (x >>= f) = .error e ↔ x = .error e ∨ ∃ a, x = .ok a ∧ f a = .error e := by
  cases x <;> simp [bind, Except.bind]

theorem mapError_eq_ok_iff {a : α} : x.mapError wrap = .ok a ↔ x = .ok a := by
  cases x with
  | error e =>
    change Except.error (wrap e) = .ok a ↔ _
    simp
  | ok b =>
    change Except.ok b = .ok a ↔ _
    simp

theorem mapError_eq_error_iff {e' : ε'} :
    x.mapError wrap = .error e' ↔ ∃ e, x = .error e ∧ wrap e = e' := by
  cases x with
  | error e =>
    change Except.error (wrap e) = .error e' ↔ _
    simp
  | ok a =>
    change Except.ok a = .error e' ↔ _
    simp

end MetricIngest.ResultFacts
