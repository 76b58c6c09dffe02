/-
  Trials pass, in whatever order they are run.

  `Trial.passes` is the verdict on every trial: once its writer has ended, nothing is
  wrong with its books. It speaks of all orders in which the steps of a trial can come,
  and the fixed order is one of them. Where a session takes a step, so does a trial that
  stands where the session does; a batch that the session hands to its sink is drawn and
  passed on at once.
-/
import MetricIngest.Proofs.Trial.Runs

namespace MetricIngest

open History

/-- A session goes on as its writer does. -/
theorem WriterSession.take_eq_some {s s' : WriterSession} {next : WriterStep Record}
    (h : s.take next = some s') :
    ∃ w events, s.writer.step next = some (w, events) ∧
      s' = { s with
        writer := w
        sink := if isClosed events then (s.sink.close {}).2 else s.sink } := by
  obtain ⟨⟨w, events⟩, hstep, heq⟩ := Option.map_eq_some_iff.mp h
  exact ⟨w, events, hstep, heq.symm⟩

namespace TrialState

variable {plan : TrialPlan} {seed : UInt64} {t : TrialState} {s s' : WriterSession}

/-! ### A trial beside a session -/

/-- A trial stands where a session does. Of what it has drawn nothing is on its way. -/
structure Stands (t : TrialState) (s : WriterSession) : Prop where
  writer : s.writer = t.writer
  faults : s.faults = t.faults
  sink : s.sink = .faulty t.sink
  passing : t.passing = []

theorem Stands.take {next : WriterStep Record} (h : t.Stands s) (htake : s.take next = some s') :
    ∃ t' events, t.take next = some (t', events) ∧ t'.Stands s' := by
  obtain ⟨w, events, hstep, rfl⟩ := WriterSession.take_eq_some htake
  rw [h.writer] at hstep
  refine ⟨_, events, take_of_step hstep, rfl, h.faults, ?_, h.passing⟩
  dsimp only
  rw [h.sink]
  split <;> rfl

/-- A pop that begins is drawn. -/
theorem drawFault_of_begins {i : Nat} (place : t.writer.workers[i]? = some .ready)
    (hc : t.writer.cancelled = false) :
    t.drawFault i = (if t.faults.drawPop.1 then some BufferFaults.popFault else none,
      { t with faults := t.faults.drawPop.2 }) := by
  rw [drawFault, place]
  simp only [hc, Bool.false_eq_true, if_false]

/-- A batch that is drawn to be lost is over at once. -/
theorem roll_lost {b : Batch Record} {since : Nat} {sink : FaultySink Record}
    (hf : t.writer.flush? b.id = some ⟨b, some since⟩) (hpassing : t.passing = [])
    (hroll : t.sink.roll b.records = (none, sink)) :
    t.step (.roll b.id) =
      { t with sink }.take (.settle b.id (.error FaultySink.submitFault)) := by
  simp [step, roll, hf, hpassing, hroll]

/-- While nothing is on its way, any batch that is being submitted can be drawn. -/
theorem roll_kept {b : Batch Record} {since : Nat} {sink : FaultySink Record}
    {kept : List Record} (hf : t.writer.flush? b.id = some ⟨b, some since⟩)
    (hpassing : t.passing = []) (hroll : t.sink.roll b.records = (some kept, sink)) :
    t.step (.roll b.id) = some ({ t with sink, passing := [(b, kept)] }, []) := by
  simp [step, roll, hf, hpassing, hroll]

/-- What is left of a batch arrives, and nothing is on its way any more. -/
theorem pass_eq {b : Batch Record} {since : Nat} {kept : List Record}
    (hf : t.writer.flush? b.id = some ⟨b, some since⟩) (hpassing : t.passing = [(b, kept)]) :
    t.step (.pass b.id) =
      { t with
        sink := (t.sink.pass (b.size - kept.length) kept).2
        passing := [] }.take (.settle b.id (t.sink.pass (b.size - kept.length) kept).1) := by
  simp [step, pass, hf, hpassing]

/-- Where the workers stand in line is no part of a trial. -/
theorem Stands.with_line (h : t.Stands s) (line : List Nat) : t.Stands { s with line } :=
  ⟨h.writer, h.faults, h.sink, h.passing⟩

theorem Stands.standIn (h : t.Stands s) (i : Nat) : t.Stands (s.standIn i) := by
  unfold WriterSession.standIn
  split
  · exact h.with_line _
  · exact h

/-- **A worker of a session** makes a step that a trial can make. -/
theorem Stands.work (h : t.Stands s) {i : Nat} (hwork : s.work? i = some s') :
    ∃ t' events, t.step (.work i) = some (t', events) ∧ t'.Stands s' := by
  -- Where no pop begins, nothing is drawn.
  have hplain : ∀ {u : WriterSession}, t.drawFault i = (none, t) →
      s.take (.work i none) = some u →
      ∃ t' events, t.step (.work i) = some (t', events) ∧ t'.Stands u := by
    intro u hdraw htake
    obtain ⟨t', events, htake', hstands⟩ := h.take htake
    exact ⟨t', events, by simpa only [step, hdraw] using htake', hstands⟩
  unfold WriterSession.work? at hwork
  split at hwork
  · rename_i place
    rw [h.writer] at place
    split at hwork
    · rename_i hc
      rw [h.writer] at hc
      exact hplain (by simp [drawFault, place, hc]) hwork
    · rename_i hc
      rw [h.writer] at hc
      rw [h.faults] at hwork
      obtain ⟨u, htake, rfl⟩ := Option.map_eq_some_iff.mp hwork
      have hdrawn : { t with faults := t.faults.drawPop.2 }.Stands
          { s with faults := t.faults.drawPop.2 } := ⟨h.writer, rfl, h.sink, h.passing⟩
      obtain ⟨t', events, htake', hstands⟩ := hdrawn.take htake
      refine ⟨t', events, ?_, hstands.standIn i⟩
      rw [step, drawFault_of_begins place (by simpa using hc)]
      exact htake'
  · rename_i place
    rw [h.writer] at place
    obtain ⟨u, htake, rfl⟩ := Option.map_eq_some_iff.mp hwork
    obtain ⟨t', events, hstep, hstands⟩ := hplain (by simp [drawFault, place]) htake
    exact ⟨t', events, hstep, hstands.standIn i⟩
  · rename_i a place
    rw [h.writer] at place
    split at hwork
    · obtain ⟨u, htake, rfl⟩ := Option.map_eq_some_iff.mp hwork
      obtain ⟨t', events, hstep, hstands⟩ := hplain (by simp [drawFault, place]) htake
      exact ⟨t', events, hstep, hstands.with_line _⟩
    · cases hwork
  · cases hwork

/-- **A batch that a session hands to its sink** is drawn and, if something is left of it,
passed on at once. -/
theorem Stands.settle (h : t.Stands s) {b : Batch Record} {since : Nat} {files : FileTree}
    (hf : t.writer.flush? b.id = some ⟨b, some since⟩)
    (hsettle : { s with sink := .faulty (t.sink.submit b.records).2, files }.take
      (.settle b.id (t.sink.submit b.records).1) = some s') :
    ∃ steps t' events, t.run steps = some (t', events) ∧ t'.Stands s' := by
  rcases hroll : t.sink.roll b.records with ⟨left, sink⟩
  rw [FaultySink.submit, hroll] at hsettle
  cases left with
  | none =>
    have hlost : { t with sink }.Stands { s with sink := .faulty sink, files } :=
      ⟨h.writer, h.faults, rfl, h.passing⟩
    obtain ⟨t', events, htake, hstands⟩ := hlost.take hsettle
    have hstep := (roll_lost hf h.passing hroll).trans htake
    exact ⟨[.roll b.id], t', events, Steps.run_singleton hstep, hstands⟩
  | some kept =>
    have hpass : ({ t with sink, passing := [(b, kept)] } : TrialState).step (.pass b.id) = _ :=
      pass_eq hf rfl
    have hpassed : { t with sink := (sink.pass (b.size - kept.length) kept).2, passing := [] }.Stands
        { s with sink := .faulty (sink.pass (b.size - kept.length) kept).2, files } :=
      ⟨h.writer, h.faults, rfl, rfl⟩
    obtain ⟨t', events, htake, hstands⟩ := hpassed.take hsettle
    exact ⟨[.roll b.id, .pass b.id], t', events,
      Steps.run_append (Steps.run_singleton (roll_kept hf h.passing hroll))
        (Steps.run_singleton (hpass.trans htake)), hstands⟩

theorem Stands.flush (h : t.Stands s) (hs : t.writer.Sound) {f : Flush Record}
    (hf : f ∈ s.writer.flushes) (hflush : s.flush? f = some s') :
    ∃ steps t' events, t.run steps = some (t', events) ∧ t'.Stands s' := by
  rw [h.writer] at hf
  obtain ⟨b, since⟩ := f
  cases since with
  | none =>
    obtain ⟨t', events, htake, hstands⟩ := h.take hflush
    exact ⟨[.write (.submit b.id)], t', events, Steps.run_singleton htake, hstands⟩
  | some since =>
    simp only [WriterSession.flush?, h.sink, Sink.submit] at hflush
    split at hflush
    · exact h.settle (hs.flush?_eq hf) hflush
    · cases hflush

/-! ### The fixed order -/

/-- A run of the trial leads to where a session is. -/
def Follows (plan : TrialPlan) (seed : UInt64) (s : WriterSession) : Prop :=
  ∃ steps t events, (start plan seed).run steps = some (t, events) ∧ t.Stands s

/-- A session that makes steps that a trial can make follows it further. -/
theorem Follows.on (h : Follows plan seed s)
    (hon : ∀ {t : TrialState}, t.Stands s → t.writer.Sound → t.cancellable = plan.cancelEarly →
      ∃ steps t' events, t.run steps = some (t', events) ∧ t'.Stands s') :
    Follows plan seed s' := by
  obtain ⟨steps, t, events, hrun, hstands⟩ := h
  have hagrees := agrees_of_run hrun
  obtain ⟨_, hwriter, _⟩ := hagrees.writer
  obtain ⟨others, t', more, hrun', hstands'⟩ :=
    hon hstands (Writer.ledger_of_run hwriter).sound hagrees.cancellable
  exact ⟨steps ++ others, t', events ++ more, Steps.run_append hrun hrun', hstands'⟩

theorem Follows.take {next : WriterStep Record} (h : Follows plan seed s)
    (hown : next.isOwn = true) (htake : s.take next = some s') : Follows plan seed s' :=
  h.on fun {t} hstands _ _ => by
    obtain ⟨t', events, htake', hstands'⟩ := hstands.take htake
    exact ⟨[.write next], t', events, Steps.run_singleton (by simp [step, hown, htake']), hstands'⟩

/-- **The moves of a session** are steps that a trial can make. -/
theorem Follows.move (h : Follows plan seed s) (hmove : s.move? = some s') :
    Follows plan seed s' := by
  simp only [WriterSession.move?, Option.orElse_eq_or, Option.or_eq_some_iff] at hmove
  -- The workers come first, then the loop's three steps, the tasks and the deadline.
  obtain hwork | ⟨_, hmove | ⟨_, hmove | ⟨_, hmove | ⟨_, hflush | ⟨_, htick⟩⟩⟩⟩⟩ := hmove
  · obtain ⟨i, _, hwork⟩ := List.exists_of_findSome?_eq_some hwork
    refine h.on fun hstands _ _ => ?_
    obtain ⟨t', events, hstep, hstands'⟩ := hstands.work hwork
    exact ⟨[.work i], t', events, Steps.run_singleton hstep, hstands'⟩
  · exact h.take rfl hmove
  · exact h.take rfl hmove
  · exact h.take rfl hmove
  · obtain ⟨f, hf, hflush⟩ := List.exists_of_findSome?_eq_some hflush
    exact h.on fun hstands hs _ => hstands.flush hs hf hflush
  · unfold WriterSession.tick? at htick
    split at htick
    · exact h.take rfl htick
    · cases htick

theorem Follows.moves (h : Follows plan seed s) (n : Nat) :
    Follows plan seed (WriterSession.moves n s) := by
  induction n generalizing s with
  | zero => exact h
  | succ n ih =>
    rw [WriterSession.moves]
    split
    · exact h
    · exact ih (h.move ‹_›)

/-- Time passes in a trial too. -/
theorem Follows.passTo (h : Follows plan seed s) (time : Nat) :
    Follows plan seed (s.passTo time) := by
  have htake : s.take (.elapse (time - s.writer.now)) = some (s.passTo time) := rfl
  exact h.take rfl htake

theorem Follows.passUntil (h : Follows plan seed s) (stops : WriterSession → Bool)
    (time n : Nat) : Follows plan seed (WriterSession.passUntil stops time n s) := by
  induction n generalizing s with
  | zero => exact h
  | succ n ih =>
    rw [WriterSession.passUntil]
    split
    · exact h
    · split
      · exact h.passTo time
      · split
        · exact ih ((h.passTo _).moves _)
        · exact h.passTo time

/-- Cancelling is left to the trials that are cancelled. -/
theorem Follows.shutdown (h : Follows plan seed s) (hplan : plan.cancelEarly = true) :
    Follows plan seed s.shutdown := by
  have hcancelled : s.take .cancel = some ((s.take .cancel).getD s) := rfl
  refine Follows.moves (h.on fun hstands _ hcancellable => ?_) _
  obtain ⟨t', events, htake, hstands'⟩ := hstands.take hcancelled
  exact ⟨[.cancel], t', events, Steps.run_singleton (by simp [step, hcancellable, hplan, htake]),
    hstands'⟩

/-- **The fixed order is one of the orders**: some run of a trial leads to where the session of
that trial ends. -/
theorem follows_session (plan : TrialPlan) (seed : UInt64) :
    Follows plan seed (Trial.session plan seed) := by
  have hstart : Follows plan seed (WriterSession.start plan.writer (Trial.buffer plan seed)
      (Trial.faults plan seed) (.faulty (Trial.sink plan seed)) default 0 false) := by
    refine Follows.moves ?_ _
    exact ⟨[], start plan seed, [], rfl, rfl, rfl, rfl, rfl⟩
  unfold Trial.session
  dsimp only
  split
  · exact (hstart.passUntil _ _ _).shutdown ‹_›
  · exact hstart

end TrialState

/-! ### The verdict -/

namespace Trial

open TrialState

/-- **No trial finds anything wrong.** For every plan and every seed the records of the trial
can be built and the buffer takes them. In whatever order the steps then come, and whenever
the early cancelling takes effect, once the writer has ended the trial has passed: what was
taken and what is left make up for what was pushed, what was taken is settled, the sink stores
as many records as were committed, no two of the same name, and both sides have counted the
same losses and the same failed pops. Nothing is left if the writer was not to be cancelled.
The trial that is run in the fixed order is one of these. -/
theorem passes (plan : TrialPlan) (seed : UInt64) :
    (∀ i, Record.ofName ("m" ++ toString i) .epoch (.ofNat i) .empty = .ok (.numbered i) ∧
      (filledBuffer i).push (.numbered i) = .ok (filledBuffer (i + 1))) ∧
    (∀ steps t events stats, (start plan seed).run steps = some (t, events) →
      t.writer.final? = some stats →
      (TrialReport.ofResult (t.books plan seed)).passed = true ∧
      (t.books plan seed).stats = stats ∧
      stats.recordsPopped + t.writer.buffer.records.length = (size plan seed).1 ∧
      stats.settled = stats.recordsPopped ∧
      t.sink.inner.records.length = stats.recordsCommitted ∧
      (t.sink.inner.records.map (·.name)).Nodup ∧
      stats.recordsLost = t.sink.counts.recordsLost ∧
      stats.popErrors = t.faults.counts.popFailures ∧
      (plan.cancelEarly = false → t.writer.buffer.records = [])) ∧
    ∃ steps t events, (start plan seed).run steps = some (t, events) ∧
      (session plan seed).writer = t.writer ∧ run plan seed = t.books plan seed := by
  refine ⟨push_filledBuffer, ?_, ?_⟩
  · intro steps t events stats hrun hfinal
    have hagrees := agrees_of_run hrun
    have hfault := hagrees.fault?_eq_none hfinal
    have hstats : (t.books plan seed).stats = stats := by
      rw [TrialState.books, Trial.books, hfinal, Option.getD_some]
    obtain ⟨htaken, hsettled, hstored, hlost, herrors, _⟩ :=
      TrialResult.fault?_eq_none_iff.mp hfault
    rw [hstats] at htaken hsettled hstored hlost herrors
    refine ⟨TrialReport.passed_ofResult.mpr hfault, hstats, htaken, hsettled, ?_,
      hagrees.nodup_stored, hlost, herrors, hagrees.records_eq_nil hfinal⟩
    rw [← hstored]
    exact (List.length_map _).symm
  · obtain ⟨steps, t, events, hrun, hstands⟩ := follows_session plan seed
    refine ⟨steps, t, events, hrun, hstands.writer, ?_⟩
    simp only [run, TrialState.books, hstands.writer, hstands.faults, hstands.sink]

/-- A plan by which half of the pops and of the submissions fail, and which is cancelled
early. -/
def halfFails : TrialPlan where
  records := (3, 4)
  writer := { concurrency := 1, bulkMax := 1 }
  buffer := ⟨.ofDecimal false 1 5 (-1), .zero⟩
  sink := ⟨.ofDecimal false 1 5 (-1), .zero⟩
  cancelEarly := true

/-- Steps of a trial in which a pop fails, a batch is lost, and the cancelling leaves a record
in the buffer while the last batch is on its way. -/
def lastStays : List TrialStep :=
  [.work 0, .work 0, .work 0, .write .receive, .work 0, .work 0, .write .dispatch,
    .write (.submit 0), .roll 0, .write .receive, .write .dispatch, .write (.submit 1), .roll 1,
    .cancel, .work 0, .write .receive, .pass 1, .write .finish]

theorem passes_lastStays : ∃ t events,
    (start halfFails 3).run lastStays = some (t, events) ∧
    t.writer.final? = some ⟨2, 1, 1, 1, 0, 1, 1⟩ ∧
    (TrialReport.ofResult (t.books halfFails 3)).passed = true ∧
    t.faults.counts.popFailures = 1 ∧ t.sink.counts.recordsLost = 1 ∧
    t.writer.buffer.records.length = 1 := by
  have hend : ((start halfFails 3).run lastStays).bind (·.1.writer.final?) =
      some ⟨2, 1, 1, 1, 0, 1, 1⟩ := by decide +kernel
  obtain ⟨⟨t, events⟩, hrun, hfinal⟩ := Option.bind_eq_some_iff.mp hend
  have hsize : (size halfFails 3).1 = 3 := by decide +kernel
  obtain ⟨hpassed, _, htaken, _, _, _, hlost, herrors, _⟩ :=
    (passes halfFails 3).2.1 _ _ _ _ hrun hfinal
  refine ⟨t, events, hrun, hfinal, hpassed, herrors.symm, hlost.symm, ?_⟩
  rw [hsize] at htaken
  simp only at htaken
  omega

end Trial

end MetricIngest
