/-
  Runs of steps.

  Whatever moves in steps has a function for a single step, which may be impossible, and tells
  what happens in it. A run takes steps one after the other and keeps all that was told. The
  lemmas take a run apart at its first step, put runs together, and bring what holds of every
  step to every run.
-/

namespace MetricIngest.Steps

variable {σ ι η ε : Type}

/-- A run of steps: the state after it and all that happened, if each step is
possible. What happens in a step is told as a list. -/
def run (tell : η → List ε) (step : σ → ι → Option (σ × η)) (s : σ) :
    List ι → Option (σ × List ε)
  | [] => some (s, [])
  | next :: steps =>
    match step s next with
    | none => none
    | some (after, happened) =>
      (run tell step after steps).map fun (last, more) => (last, tell happened ++ more)

variable {tell : η → List ε} {step : σ → ι → Option (σ × η)} {s s' last : σ} {next : ι}
  {steps others : List ι} {happened : η} {events more : List ε}

theorem run_cons (h : step s next = some (s', happened))
    (h' : run tell step s' steps = some (last, more)) :
    run tell step s (next :: steps) = some (last, tell happened ++ more) := by
  rw [run, h]
  exact Option.map_eq_some_iff.mpr ⟨_, h', rfl⟩

/-- **A run that begins with a step** is that step and the rest of the run. -/
theorem of_run_cons (h : run tell step s (next :: steps) = some (last, events)) :
    ∃ between happened rest, step s next = some (between, happened) ∧
      run tell step between steps = some (last, rest) ∧ events = tell happened ++ rest := by
  rw [run] at h
  split at h
  · cases h
  · rename_i between happened hstep
    obtain ⟨⟨_, rest⟩, hrest, heq⟩ := Option.map_eq_some_iff.mp h
    cases heq
    exact ⟨between, happened, rest, hstep, hrest, rfl⟩

/-- A single step is a run. -/
theorem run_singleton (h : step s next = some (s', happened)) :
    run tell step s [next] = some (s', tell happened) := by
  have hrun : run tell step s [next] = some (s', tell happened ++ []) := run_cons h rfl
  rwa [List.append_nil] at hrun

/-- A run that goes on is a run. -/
theorem run_append (h : run tell step s steps = some (s', events))
    (h' : run tell step s' others = some (last, more)) :
    run tell step s (steps ++ others) = some (last, events ++ more) := by
  induction steps generalizing s events with
  | nil =>
    cases h
    exact h'
  | cons next steps ih =>
    obtain ⟨between, happened, rest, hstep, hrest, rfl⟩ := of_run_cons h
    rw [List.append_assoc]
    exact run_cons hstep (ih hrest)

/-- **Induction over a run.** What holds of a state with its history, and is kept by every
step, holds after a run. -/
theorem run_induction {motive : List ε → σ → Prop} {past : List ε}
    (keep : ∀ {past s next s' happened}, motive past s → step s next = some (s', happened) →
      motive (past ++ tell happened) s')
    (h : motive past s) (hrun : run tell step s steps = some (last, events)) :
    motive (past ++ events) last := by
  induction steps generalizing past s events with
  | nil =>
    cases hrun
    rwa [List.append_nil]
  | cons next steps ih =>
    obtain ⟨between, happened, rest, hstep, hrest, rfl⟩ := of_run_cons hrun
    rw [← List.append_assoc]
    exact ih (keep h hstep) hrest

/-- **What relates the ends of a run.** A relation between two states with what happens between
them relates the ends of a run if it relates those of each step and can be put together. -/
theorem run_related {R : σ → List ε → σ → Prop} (refl : ∀ s, R s [] s)
    (trans : ∀ {s events s' more s''}, R s events s' → R s' more s'' → R s (events ++ more) s'')
    (single : ∀ {s next s' happened}, step s next = some (s', happened) → R s (tell happened) s')
    (hrun : run tell step s steps = some (last, events)) : R s events last := by
  have h := run_induction (motive := fun past v => R s past v)
    (fun hpast hstep => trans hpast (single hstep)) (refl s) hrun
  rwa [List.nil_append] at h

end MetricIngest.Steps
