/-
  What both sides of a trial count.

  In every run of a trial, in whatever order its steps come, the writer and what is
  around it count the same: as many failed pops as were drawn, as many lost records as
  were drawn to be, and as many committed records as the sink behind stores. `Agrees`
  says so of a state with its history, and `agrees_of_run` proves it step by step. Each
  step of a trial is a step of its writer or none, so the ledger of the writer's run
  speaks of the trial's buffer.
-/
import MetricIngest.Proofs.Sink.Answers
import MetricIngest.Proofs.Trial.Books
import MetricIngest.Proofs.Writer.Balance
import MetricIngest.Writer.TrialRun

namespace MetricIngest

open History

namespace TrialState

variable {plan : TrialPlan} {seed : UInt64} {t t' t'' : TrialState}
  {past events more : History Record} {next : WriterStep Record} {steps others : List TrialStep}

/-! ### The writer of a trial -/

/-- The steps that the writer of a trial makes: nobody pushes records or closes the buffer, no
pop says that the buffer is closed when it is not, and not every trial is cancelled. -/
def Permitted (cancellable : Bool) : WriterStep Record → Prop
  | .push _ | .closeBuffer | .work _ (some .closed) => False
  | .cancel => cancellable = true
  | _ => True

theorem permitted_of_isOwn {cancellable : Bool} (h : next.isOwn = true) :
    Permitted cancellable next := by
  cases next <;> trivial

/-- A trial goes on as its writer does. -/
theorem take_eq_some (h : t.take next = some (t', events)) :
    ∃ w, t.writer.step next = some (w, events) ∧
      t' = { t with writer := w, sink := if isClosed events then t.sink.close else t.sink } := by
  obtain ⟨⟨w, events'⟩, hstep, heq⟩ := Option.map_eq_some_iff.mp h
  simp only [Prod.mk.injEq] at heq
  obtain ⟨rfl, rfl⟩ := heq
  exact ⟨w, hstep, rfl⟩

theorem take_of_step {w : Writer Record}
    (hstep : t.writer.step next = some (w, events)) :
    t.take next = some ({ t with
      writer := w
      sink := if isClosed events then t.sink.close else t.sink }, events) := by
  simp [take, hstep]

/-! ### The two sides -/

/-- **What holds of every state** of a trial, with what has happened at its writer. The
counters of the writer are those of its surroundings; the sink behind stores, in the order in
which they were answered for, parts of batches that were taken, and is closed once the writer
has closed it; and what is on the way to it is part of its batch. -/
structure Agrees (plan : TrialPlan) (seed : UInt64) (past : History Record) (t : TrialState) :
    Prop where
  writer : ∃ steps, (Writer.start plan.writer (Trial.buffer plan seed) false).run steps =
    some (t.writer, past) ∧ ∀ next ∈ steps, Permitted plan.cancelEarly next
  cancellable : t.cancellable = plan.cancelEarly
  unpushed : pushed past = []
  balanced : Balanced past
  popErrors : t.writer.stats.popErrors = t.faults.counts.popFailures
  lost : t.writer.stats.recordsLost = t.sink.counts.recordsLost
  committed : t.writer.stats.recordsCommitted = t.sink.inner.records.length
  stored : t.sink.inner.records.Sublist ((accepted past).flatMap Batch.records)
  closed : t.sink.inner.closed = isClosed past
  willing : t.sink.inner.failures = 0
  passing : ∀ p ∈ t.passing, p.2.Sublist p.1.records

theorem agrees_start (plan : TrialPlan) (seed : UInt64) :
    (start plan seed).Agrees plan seed [] where
  writer := ⟨[], rfl, by simp⟩
  cancellable := rfl
  unpushed := rfl
  balanced := by simp [History.Balanced]
  popErrors := rfl
  lost := rfl
  committed := rfl
  stored := .slnil
  closed := rfl
  willing := rfl
  passing := by simp [start]

/-! ### Single steps -/

/-- The writer of a trial goes on with a step that it may make. -/
theorem Agrees.writer_step {w : Writer Record} (h : t.Agrees plan seed past)
    (hstep : t.writer.step next = some (w, events)) (hpermitted : Permitted t.cancellable next) :
    ∃ steps, (Writer.start plan.writer (Trial.buffer plan seed) false).run steps =
      some (w, past ++ events) ∧ ∀ next ∈ steps, Permitted plan.cancelEarly next := by
  obtain ⟨steps, hrun, hsteps⟩ := h.writer
  refine ⟨steps ++ [next], Steps.run_append hrun (Steps.run_singleton hstep), ?_⟩
  rw [h.cancellable] at hpermitted
  simpa [or_imp, forall_and] using ⟨hsteps, hpermitted⟩

/-- A step of the writer that is not an answer. Its failed pop, if it is one, was drawn. -/
theorem Agrees.take {faults : BufferFaults} (h : t.Agrees plan seed past)
    (htake : { t with faults }.take next = some (t', events))
    (hpermitted : Permitted t.cancellable next) (hnext : ∀ id result, next ≠ .settle id result)
    (hpop : t'.writer.stats.popErrors = faults.counts.popFailures) :
    t'.Agrees plan seed (past ++ events) := by
  obtain ⟨w, hstep, rfl⟩ := take_eq_some htake
  obtain ⟨steps, hrun, _⟩ := h.writer
  have hmove := Writer.move_of_step hstep
  -- No submission is over, so neither side counts a record.
  obtain ⟨haccepted, hfailed, hbalanced⟩ := unanswered (Writer.returned_of_move hmove hnext)
  have hlost := (hmove.booked (Writer.ledger_of_run hrun).sound).lost
  have hcommitted := Writer.recordsCommitted_of_move hmove hnext
  rw [hfailed] at hlost
  rw [FaultySink.close_if]
  exact
    { writer := h.writer_step hstep hpermitted
      cancellable := h.cancellable
      unpushed := by
        rw [pushed_append, h.unpushed, List.nil_append]
        refine Writer.pushed_of_move hmove ?_
        rintro a rfl
        exact hpermitted
      balanced := h.balanced.append hbalanced
      popErrors := hpop
      lost := hlost.trans h.lost
      committed := hcommitted.trans h.committed
      stored := by
        rw [accepted_append, haccepted, List.append_nil]
        exact h.stored
      closed := by rw [isClosed_append, ← h.closed]
      willing := h.willing
      passing := h.passing }

/-- **The end of a submission** is counted in the same way on both sides. -/
theorem Agrees.settle {sink : FaultySink Record} {passing : List (Batch Record × List Record)}
    {id : Nat} {f : Flush Record} {result : Except SinkError SubmitOutcome}
    (h : t.Agrees plan seed past) (hf : t.writer.flush? id = some f)
    (hserved : t.sink.Served f.batch.records result sink)
    (hpassing : ∀ p ∈ passing, p.2.Sublist p.1.records)
    (htake : { t with sink, passing }.take (.settle id result) = some (t', events)) :
    t'.Agrees plan seed (past ++ events) := by
  obtain ⟨w, hstep, rfl⟩ := take_eq_some htake
  have hwriter := h.writer_step hstep trivial
  obtain ⟨rfl, hstats⟩ := Writer.of_settle hf (Writer.move_of_step hstep)
  change Agrees plan seed _ { t with writer := w, sink, passing }
  exact
    { writer := hwriter
      cancellable := h.cancellable
      unpushed := by
        rw [pushed_append, h.unpushed]
        rfl
      balanced := by
        refine h.balanced.append fun b o hmem => ?_
        obtain ⟨rfl, rfl⟩ : b = f.batch ∧ .ok o = result := by simpa using hmem
        cases hserved with
        | stored _ _ _ _ htotal => exact htotal
      popErrors := by
        rw [hstats, ← h.popErrors]
        cases result <;> rfl
      lost := by
        rw [hstats]
        cases hserved with
        | lost _ hlost => rw [hlost, ← h.lost]; rfl
        | stored _ _ hlost => rw [hlost, ← h.lost]; rfl
      committed := by
        rw [hstats]
        cases hserved with
        | lost hinner => rw [hinner, ← h.committed]; rfl
        | stored _ hinner _ hsucceeded =>
          rw [hinner, MemorySink.records_store, List.length_append, ← h.committed, ← hsucceeded]
          rfl
      stored := by
        rw [accepted_append, List.flatMap_append]
        cases hserved with
        | lost hinner => simpa [hinner, accepted] using h.stored
        | stored hsub hinner =>
          rw [hinner, MemorySink.records_store]
          exact h.stored.append (by simpa [accepted] using hsub)
      closed := by
        rw [hserved.inner_eq.1, isClosed_append, h.closed]
        simp [isClosed]
      willing := hserved.inner_eq.2.trans h.willing
      passing := hpassing }

/-- A step of the writer for which nothing is drawn. -/
theorem Agrees.take_plain (h : t.Agrees plan seed past) (htake : t.take next = some (t', events))
    (hpermitted : Permitted t.cancellable next) (hsettle : ∀ id result, next ≠ .settle id result)
    (hfault : ∀ i reason, next ≠ .work i (some (.unavailable reason))) :
    t'.Agrees plan seed (past ++ events) := by
  refine h.take htake hpermitted hsettle ?_
  obtain ⟨w, hstep, rfl⟩ := take_eq_some htake
  exact (Writer.popErrors_of_move (Writer.move_of_step hstep) hfault).trans h.popErrors

/-- **A pop that is drawn to fail** is counted on both sides; cancelling before it draws
nothing. -/
theorem Agrees.work {i : Nat} (h : t.Agrees plan seed past)
    (hstep : t.step (.work i) = some (t', events)) : t'.Agrees plan seed (past ++ events) := by
  -- A worker that is cancelled, or that begins no pop, draws nothing.
  have hplain : t.take (.work i none) = some (t', events) →
      t'.Agrees plan seed (past ++ events) := by
    intro htake
    exact h.take_plain htake trivial (by simp) (by simp)
  simp only [step, drawFault] at hstep
  split at hstep
  · rename_i place
    split at hstep
    · exact hplain hstep
    · rename_i hc
      generalize hdraw : t.faults.drawPop = drawn at hstep
      obtain ⟨fails, faults⟩ := drawn
      have hcount : faults.counts.popFailures = t.faults.counts.popFailures + fails.toNat := by
        have hdrawn := BufferFaults.popFailures_drawPop t.faults
        rwa [hdraw] at hdrawn
      cases fails with
      | false =>
        refine h.take hstep trivial (by simp) ?_
        obtain ⟨w, hw, rfl⟩ := take_eq_some hstep
        rw [hcount]
        exact (Writer.popErrors_of_move (Writer.move_of_step hw) (by simp)).trans h.popErrors
      | true =>
        refine h.take hstep trivial (by simp) ?_
        obtain ⟨w, hw, rfl⟩ := take_eq_some hstep
        simp only [Writer.step, Writer.work, place, hc, BufferFaults.popFault] at hw
        cases hw
        rw [hcount, ← h.popErrors]
        rfl
  · exact hplain hstep

/-- **A batch that is drawn to be lost** is counted on both sides; what is left of another one
is on its way. -/
theorem Agrees.roll {id : Nat} (h : t.Agrees plan seed past)
    (hstep : t.roll id = some (t', events)) : t'.Agrees plan seed (past ++ events) := by
  unfold TrialState.roll at hstep
  split at hstep
  · rename_i b since hf
    split at hstep
    · cases hstep
    · have hrolled := t.sink.rolled_roll b.records
      generalize t.sink.roll b.records = drawn at hstep hrolled
      obtain ⟨left, sink⟩ := drawn
      cases left with
      | none => exact h.settle hf hrolled.served h.passing hstep
      | some kept =>
        cases hstep
        cases hrolled with
        | kept generator hsub =>
          rw [List.append_nil]
          exact { h with
            passing := by
              intro p hp
              rcases List.mem_append.mp hp with hp | hp
              · exact h.passing p hp
              · obtain rfl := List.mem_singleton.mp hp
                exact hsub }
  · cases hstep

/-- **What arrives at the sink behind** is taken, since the writer does not close it while a
batch is being submitted. -/
theorem Agrees.pass {id : Nat} (h : t.Agrees plan seed past)
    (hstep : t.pass id = some (t', events)) : t'.Agrees plan seed (past ++ events) := by
  unfold TrialState.pass at hstep
  split at hstep
  · rename_i b since hf
    split at hstep
    · rename_i b' kept hfind
      obtain rfl : b' = b := by simpa using List.find?_some hfind
      obtain ⟨steps, hrun, _⟩ := h.writer
      -- The task of this batch keeps the writer from ending, and so the sink from closing.
      have hopen : t.sink.inner.closed = false := by
        have hended := (Writer.ledger_of_run hrun).sound.final?_eq_none hf
        rw [h.closed, ← Writer.isSome_final?_of_run hrun, hended]
        rfl
      have hserved := FaultySink.served_pass (h.passing _ (List.mem_of_find?_eq_some hfind)) hopen
        h.willing
      refine h.settle hf hserved ?_ hstep
      exact fun p hp => h.passing p (List.mem_filter.mp hp).1
    · cases hstep
  · cases hstep

/-- **Each step of a trial** is counted in the same way on both sides. -/
theorem Agrees.step {next : TrialStep} (h : t.Agrees plan seed past)
    (hstep : t.step next = some (t', events)) : t'.Agrees plan seed (past ++ events) := by
  cases next with
  | write next =>
    simp only [TrialState.step] at hstep
    split at hstep
    · rename_i hown
      refine h.take_plain hstep (permitted_of_isOwn hown) ?_ ?_
      · rintro id result rfl
        cases hown
      · rintro i reason rfl
        cases hown
    · cases hstep
  | work i => exact h.work hstep
  | roll id => exact h.roll hstep
  | pass id => exact h.pass hstep
  | cancel =>
    simp only [TrialState.step] at hstep
    split at hstep
    · rename_i hcancellable
      exact h.take_plain hstep hcancellable (by simp) (by simp)
    · cases hstep

/-! ### Runs -/

/-- **The two sides agree** after every run of a trial. -/
theorem Agrees.run (h : t.Agrees plan seed past) (hrun : t.run steps = some (t', events)) :
    t'.Agrees plan seed (past ++ events) :=
  Steps.run_induction (motive := fun past t => t.Agrees plan seed past)
    (fun h hstep => h.step hstep) h hrun

theorem agrees_of_run (hrun : (start plan seed).run steps = some (t, events)) :
    t.Agrees plan seed events := (agrees_start plan seed).run hrun

/-! ### The end -/

variable {stats : WriterStats}

/-- No two of the records that are stored have the same name, as no two of those that the
buffer held have. -/
theorem Agrees.nodup_stored (h : t.Agrees plan seed past) :
    (t.sink.inner.records.map (·.name)).Nodup := by
  obtain ⟨steps, hrun, _⟩ := h.writer
  have hl := Writer.ledger_of_run hrun
  obtain ⟨taken, hperm, hsub⟩ := h.stored.subperm.trans hl.accepted_subperm
  have hnames := Trial.nodup_names_buffer plan seed
  rw [← List.append_nil (Trial.buffer plan seed).records, ← h.unpushed, hl.buffer,
    List.map_append] at hnames
  have htaken : (taken.map (·.name)).Nodup := hnames.of_append_left.sublist (hsub.map _)
  exact (hperm.map _).nodup_iff.mp htaken

/-- **The books of a trial that has ended balance.** -/
theorem Agrees.fault?_eq_none (h : t.Agrees plan seed past)
    (hfinal : t.writer.final? = some stats) : (t.books plan seed).fault? = none := by
  obtain ⟨steps, hrun, _⟩ := h.writer
  have hl := Writer.ledger_of_run hrun
  obtain ⟨hidle, rfl⟩ := hl.sound.final hfinal
  have hqueue := congrArg List.length hl.buffer
  rw [h.unpushed, List.append_nil, List.length_append, ← hl.recordsPopped_eq,
    Trial.length_buffer] at hqueue
  rw [TrialResult.fault?_eq_none_iff]
  simp only [books, Trial.books, hfinal, Option.getD_some, List.length_map]
  exact ⟨hqueue.symm, hl.settled_eq_popped hidle h.balanced, h.committed.symm, h.lost,
    h.popErrors, h.nodup_stored⟩

/-- Nothing is left in the buffer of a trial that was not cancelled. -/
theorem Agrees.records_eq_nil (h : t.Agrees plan seed past)
    (hfinal : t.writer.final? = some stats) (hplan : plan.cancelEarly = false) :
    t.writer.buffer.records = [] := by
  obtain ⟨steps, hrun, hsteps⟩ := h.writer
  have hcancel : .cancel ∉ steps := by
    intro hmem
    have hcancellable : plan.cancelEarly = true := hsteps _ hmem
    simp [hplan] at hcancellable
  exact (Writer.popped_of_run hrun hcancel (fun i hmem => hsteps _ hmem) hfinal).2.1

end TrialState

end MetricIngest
