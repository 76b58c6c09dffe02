/-
  When the task of a pipeline's writer fails.

  The loop of the writer asks for a deadline before each record, and its task fails where the clock
  cannot tell one. Until then the loop's clock is right, and a task that has failed stays where its
  loop was (`Clocked`), so less than an interval was left before the horizon (`late_of_failed`).
  Where the interval goes beyond the horizon from the start there is never a deadline, so nothing is
  submitted and no pipeline has a report (`fails_of_horizon_lt`).
-/
import MetricIngest.Proofs.Pipeline.Runs
import MetricIngest.Proofs.Writer.DueTime

namespace MetricIngest

open History

namespace Pipeline

variable {p p' : Pipeline} {next : PipelineStep} {steps : List PipelineStep}
  {past events : History Record} {rules : RuleTable} {settings : Settings}
  {pieces : List (List UInt8)} {fails cancelled : Bool} {horizon : Nat}

/-- Without a deadline the loop does nothing. -/
theorem not_loop_of_permits {taken : WriterStep Record} (h : p.permits taken = true)
    (hnone : p.writer.accumulator.deadline? p.horizon = none) :
    taken ≠ .receive ∧ taken ≠ .tick := by
  constructor <;>
    · rintro rfl
      simp [permits, hnone] at h

/-! ### The clock of the loop -/

/-- **What holds of every state**: the clock of the loop is right, and a task that has failed stays
where its loop found no deadline. -/
structure Clocked (settings : Settings.Batching) (past : History Record) (p : Pipeline) :
    Prop where
  bounded : p.writer.Bounded settings past
  timed : p.writer.Timed settings
  failed : p.failed = true → p.writer.phase = .collecting ∧
    p.writer.accumulator.deadline? p.horizon = none

theorem clocked_start :
    (start rules settings pieces fails cancelled horizon).Clocked settings.writer [] where
  bounded := Writer.bounded_start ..
  timed := Writer.timed_start ..
  failed := by simp [start]

/-- The writer goes on, and not its loop when there is no deadline. -/
theorem Clocked.write {taken : WriterStep Record} {writer : Writer Record} {stream : LineStream}
    (hc : p.Clocked settings.writer past)
    (hwriter : p.writer.step taken = some (writer, events))
    (hloop : p.writer.accumulator.deadline? p.horizon = none →
      taken ≠ .receive ∧ taken ≠ .tick) :
    ({ p with stream, writer } : Pipeline).Clocked settings.writer (past ++ events) := by
  have hmove := Writer.move_of_step hwriter
  refine ⟨hc.bounded.move hmove, hc.timed.move hc.bounded hmove, fun hfailed => ?_⟩
  -- Without a deadline only the other parties move, and they leave the loop where it was.
  obtain ⟨hphase, hdeadline⟩ := hc.failed hfailed
  obtain ⟨hreceive, htick⟩ := hloop hdeadline
  obtain ⟨hphase', haccumulator, -⟩ := Writer.loop_of_move hmove hphase hreceive htick
  exact ⟨hphase', haccumulator ▸ hdeadline⟩

theorem Clocked.step (hc : p.Clocked settings.writer past)
    (h : p.step next = some (p', events)) : p'.Clocked settings.writer (past ++ events) := by
  cases move_of_step h with
  | flow =>
    rw [List.append_nil]
    exact ⟨hc.bounded, hc.timed, hc.failed⟩
  | forward _ _ hwriter => exact hc.write hwriter fun _ => by simp
  | closeBuffer _ hwriter => exact hc.write hwriter fun _ => by simp
  | write _ hpermits hwriter => exact hc.write hwriter (not_loop_of_permits hpermits)
  | fail _ hphase hdeadline =>
    rw [List.append_nil]
    exact ⟨hc.bounded, hc.timed, fun _ => ⟨hphase, hdeadline⟩⟩
  | cancel _ hwriter => exact hc.write hwriter fun _ => by simp

theorem clocked_of_run (h : (start rules settings pieces fails cancelled horizon).run steps =
    some (p, events)) : p.Clocked settings.writer events :=
  Steps.run_induction (motive := fun past p => p.Clocked settings.writer past) Clocked.step
    clocked_start h

/-- Nothing changes the clock. -/
theorem horizon_of_run (h : p.run steps = some (p', events)) : p'.horizon = p.horizon :=
  Steps.run_related (R := fun (p : Pipeline) _ (p' : Pipeline) => p'.horizon = p.horizon)
    (fun _ => rfl) (fun h h' => h'.trans h) (fun hstep => by cases move_of_step hstep <;> rfl) h

/-- **A task fails late**: when it has failed, an interval goes beyond the horizon, and the writer
has not ended. -/
theorem late_of_failed (h : (start rules settings pieces fails cancelled horizon).run steps =
    some (p, events)) (hfailed : p.failed = true) :
    p.writer.phase = .collecting ∧ horizon < p.writer.now + settings.writer.flushInterval := by
  have hc := clocked_of_run h
  obtain ⟨hphase, hdeadline⟩ := hc.failed hfailed
  refine ⟨hphase, ?_⟩
  rw [Accumulator.deadline?_eq_none_iff, Accumulator.deadline, hc.timed.interval,
    horizon_of_run h] at hdeadline
  -- The interval began at a time that has come.
  exact Nat.lt_of_lt_of_le hdeadline (Nat.add_le_add_right hc.timed.begun _)

/-! ### No deadline from the start -/

/-- **What holds of every state when there is never a deadline**: the loop stays where it is, no
batch is made, and the sink is left alone. -/
structure Stalled (past : History Record) (p : Pipeline) : Prop where
  phase : p.writer.phase = .collecting
  flushes : p.writer.flushes = []
  deadline : p.writer.accumulator.deadline? p.horizon = none
  submitted : submitted past = []
  isClosed : isClosed past = false

theorem stalled_start (hlt : horizon < settings.writer.flushInterval) :
    (start rules settings pieces fails cancelled horizon).Stalled [] where
  phase := rfl
  flushes := rfl
  deadline := by
    rw [Accumulator.deadline?_eq_none_iff, Accumulator.deadline]
    exact Nat.lt_of_lt_of_le hlt (Nat.le_add_left _ _)
  submitted := rfl
  isClosed := rfl

/-- The writer goes on, but not its loop. -/
theorem Stalled.write {taken : WriterStep Record} {writer : Writer Record} {stream : LineStream}
    (hs : p.Stalled past) (hwriter : p.writer.step taken = some (writer, events))
    (hloop : taken ≠ .receive ∧ taken ≠ .tick) :
    ({ p with stream, writer } : Pipeline).Stalled (past ++ events) := by
  have hmove := Writer.move_of_step hwriter
  obtain ⟨hphase, haccumulator, hopen⟩ :=
    Writer.loop_of_move hmove hs.phase hloop.1 hloop.2
  obtain ⟨hflushes, hnone⟩ := Writer.flushes_of_move hmove hs.phase hs.flushes
  refine ⟨hphase, hflushes, haccumulator ▸ hs.deadline, ?_, ?_⟩
  · rw [submitted_append, hs.submitted, hnone, List.append_nil]
  · rw [isClosed_append, hs.isClosed, hopen, Bool.or_false]

theorem Stalled.step (hs : p.Stalled past) (h : p.step next = some (p', events)) :
    p'.Stalled (past ++ events) := by
  cases move_of_step h with
  | flow =>
    rw [List.append_nil]
    exact ⟨hs.phase, hs.flushes, hs.deadline, hs.submitted, hs.isClosed⟩
  | forward _ _ hwriter => exact hs.write hwriter (by simp)
  | closeBuffer _ hwriter => exact hs.write hwriter (by simp)
  | write _ hpermits hwriter => exact hs.write hwriter (not_loop_of_permits hpermits hs.deadline)
  | fail =>
    rw [List.append_nil]
    exact ⟨hs.phase, hs.flushes, hs.deadline, hs.submitted, hs.isClosed⟩
  | cancel _ hwriter => exact hs.write hwriter (by simp)

/-- **An interval beyond the horizon** leaves no deadline to ask for, whatever the input is and in
whatever order the parts move. Nothing is submitted and the sink is not closed; the task of the
writer has failed or is about to, and the only result that comes is that it has. -/
theorem fails_of_horizon_lt
    (h : (start rules settings pieces fails cancelled horizon).run steps = some (p, events))
    (hlt : horizon < settings.writer.flushInterval) :
    submitted events = [] ∧ isClosed events = false ∧ (p.failed = true ∨ p.isFailing = true) ∧
      ∀ result, p.result? = some result → result = .error .taskFailed := by
  have hs : p.Stalled events :=
    Steps.run_induction (motive := fun past p => p.Stalled past) Stalled.step (stalled_start hlt) h
  refine ⟨hs.submitted, hs.isClosed, ?_, fun result hresult => ?_⟩
  · cases hfailed : p.failed with
    | true => exact Or.inl rfl
    | false => exact Or.inr (isFailing_iff.mpr ⟨hfailed, hs.phase, hs.deadline⟩)
  · unfold result? at hresult
    split at hresult
    · split at hresult
      · exact (Option.some.inj hresult).symm
      · -- A report has the counts of a writer that has ended, and the loop is still there.
        simp [Writer.final?, hs.phase] at hresult
    · cases hresult

/-- The line is read and decoded all the same, but its record stays in the buffer. -/
example :
    let settings : Settings := { decoder := { workers := 1 }, writer := { flushInterval := 5 } }
    ((start .empty settings [Text.Utf8.encode "a 1"] false false 4).run
      [.fail, .read, .read, .read, .decode 0 .epoch, .read, .decode 0 .epoch, .forward,
        .decode 0 .epoch]).map
      (fun r => (r.1.result?, r.1.stream.summary.records, r.1.writer.buffer.records.length)) =
      some (some (.error .taskFailed), 1, 1) := by
  decide +kernel

end Pipeline

end MetricIngest
