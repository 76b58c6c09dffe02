/-
  When a writer closes its sink.

  A writer ends with one step, which closes the sink. At that moment all workers are
  gone, nothing is in the pipe or in the accumulator, and each batch that was submitted
  has been answered for. After it records are still pushed, but nothing else happens and
  no counter moves.
-/
import MetricIngest.Proofs.Writer.Balance

namespace MetricIngest.Writer

open History

variable {α : Type} {settings : Settings.Batching} {buffer : Buffer α} {cancelled : Bool}
  {w w' : Writer α} {next : WriterStep α} {steps : List (WriterStep α)} {events : History α}
  {stats : WriterStats}

/-! ### After the end -/

/-- **A writer that has ended does nothing more**: its final counts stay, and all that
happens is that records are pushed. -/
theorem Move.of_final (hs : w.Sound) (hfinal : w.final? = some stats)
    (h : Move w next w' events) :
    w'.final? = some stats ∧ ∀ e ∈ events, ∃ a, e = .pushed a := by
  have hphase := final?_eq_some_iff.mp hfinal
  have hgone := (hs.past (by rw [hphase]; rfl)).1
  have hidle := (hs.ended stats hphase).1
  have hplace : ∀ {i : Nat} {place : Worker α}, w.workers[i]? = some place → place = .gone :=
    fun h => hgone _ (List.mem_of_getElem? h)
  rw [final?_eq_some_iff]
  cases h with
  | quit place | abandon place | popFails place | dismiss place | handOver place
  | giveUp place => cases hplace place
  | pop hc look | leave hc look | wait hc look =>
    rcases place_of_look? look with place | place
    · cases hplace place
    · cases hplace place
  | receive phase | drained phase | tick phase | dispatch phase | giveUpBatch phase
  | finish phase => simp [hphase] at phase
  | submit task | settle task => simp [flush?, hidle] at task
  | push => exact ⟨hphase, by simp⟩
  | _ => exact ⟨hphase, by simp⟩

theorem of_final_of_run (hs : w.Sound) (hfinal : w.final? = some stats)
    (h : w.run steps = some (w', events)) :
    w'.final? = some stats ∧ ∀ e ∈ events, ∃ a, e = .pushed a := by
  have hstart : w.Sound ∧ w.final? = some stats ∧ ∀ e ∈ ([] : History α), ∃ a, e = .pushed a :=
    ⟨hs, hfinal, by simp⟩
  have hrun := run_induction
    (motive := fun past v => v.Sound ∧ v.final? = some stats ∧ ∀ e ∈ past, ∃ a, e = .pushed a)
    (fun {past v next v' events} hv hmove => by
      obtain ⟨hsound, hended, hpast⟩ := hv
      obtain ⟨hended', hpushed⟩ := hmove.of_final hsound hended
      refine ⟨hsound.move hmove, hended', ?_⟩
      intro e he
      rcases List.mem_append.mp he with he | he
      · exact hpast e he
      · exact hpushed e he)
    hstart h
  exact hrun.2

/-! ### The end -/

/-- Only the step that closes the sink ends a writer. -/
theorem Move.closes (h : Move w next w' events) (hopen : w.final? = none)
    (hended : w'.final? = some stats) :
    next = .finish ∧ events = [.closed] ∧ w.phase = .joining ∧ w.allGone = true ∧
      w.flushes = [] ∧ stats = w.stats := by
  rw [final?_eq_some_iff] at hended
  cases h with
  | finish phase hgone idle =>
    cases hended
    exact ⟨rfl, rfl, phase, hgone, idle, rfl⟩
  | @receive a pipe batch | @tick batch => cases batch <;> cases hended
  | @drained batch => cases batch <;> cases hended
  | @dispatch b last | @giveUpBatch b last => cases last <;> cases hended
  | _ =>
    have hfinal : w.final? = some stats := final?_eq_some_iff.mpr hended
    simp [hopen] at hfinal

/-- **The step that ends a writer.** A run in which a writer ends is a run in which it does
not, a step that closes the sink, and a rest. -/
theorem exists_finish_of_run (h : w.run steps = some (w', events)) (hopen : w.final? = none)
    (hended : w'.final? = some stats) :
    ∃ before after v v' past future, steps = before ++ .finish :: after ∧
      w.run before = some (v, past) ∧ v.final? = none ∧ v.step .finish = some (v', [.closed]) ∧
      v'.run after = some (w', future) ∧ events = past ++ .closed :: future := by
  induction steps generalizing w events with
  | nil =>
    cases h
    simp [hopen] at hended
  | cons next steps ih =>
    obtain ⟨between, first, rest, hstep, hrest, rfl⟩ := Steps.of_run_cons h
    cases hbetween : between.final? with
    | none =>
      -- The writer has not ended yet, so the step comes later.
      obtain ⟨before, after, v, v', past, future, rfl, hbefore, hv, hfinish, hafter, rfl⟩ :=
        ih hrest hbetween
      have hfirst : w.run [next] = some (between, first) := Steps.run_singleton hstep
      exact ⟨next :: before, after, v, v', first ++ past, future, rfl,
        Steps.run_append hfirst hbefore, hv, hfinish, hafter, by rw [List.append_assoc]⟩
    | some early =>
      obtain ⟨rfl, rfl, _⟩ := (move_of_step hstep).closes hopen hbetween
      exact ⟨[], steps, w, between, [], rest, rfl, rfl, hopen, hstep, hrest, rfl⟩

/-- **Shutdown order.** As long as a writer has not ended its sink is open. Once it has, it
has closed the sink with one step: before that step the sink was open, at that step all
workers were gone, nothing was in their hands, in the pipe, in the accumulator or in a
task, and each batch that had been submitted had been answered for; after it nothing was
submitted, closed or counted any more. The final counts are those of the counters at that
step and ever after. -/
theorem closes_when_idle
    (h : (start settings buffer cancelled).run steps = some (w, events)) :
    (w.final? = none → isClosed events = false) ∧
    ∀ stats, w.final? = some stats →
      ∃ before after v v' past future, steps = before ++ .finish :: after ∧
        (start settings buffer cancelled).run before = some (v, past) ∧
        v.step .finish = some (v', [.closed]) ∧ v'.run after = some (w, future) ∧
        events = past ++ .closed :: future ∧
        isClosed past = false ∧ v.Idle ∧ (submitted past).Perm (returned past) ∧
        (∀ e ∈ future, ∃ a, e = .pushed a) ∧
        stats = v.stats ∧ v'.final? = some stats ∧ w.stats = stats := by
  have hclosed := isSome_final?_of_run h
  refine ⟨fun hopen => by rw [← hclosed, hopen]; rfl, ?_⟩
  intro stats hfinal
  have hopen : (start settings buffer cancelled).final? = none := rfl
  obtain ⟨before, after, v, v', past, future, hsteps, hbefore, hv, hfinish, hafter, hevents⟩ :=
    exists_finish_of_run h hopen hfinal
  have hlbefore := ledger_of_run hbefore
  have hmove := move_of_step hfinish
  -- What ended the writer are the counters at this step, and they stay.
  obtain ⟨early, hearly⟩ : ∃ early, v'.final? = some early := by
    rw [← Option.isSome_iff_exists, hmove.isSome_final?]
    simp [isClosed]
  obtain ⟨_, _, hphase, hgone, hflushes, hstats⟩ := hmove.closes hv hearly
  obtain ⟨hstay, hfuture⟩ := of_final_of_run (hlbefore.sound.move hmove) hearly hafter
  obtain rfl : early = stats := Option.some.inj (hstay.symm.trans hfinal)
  have hidle : v.Idle := hlbefore.sound.idle (by rw [hphase]; rfl) (by rw [sealed, hphase]; rfl)
    hflushes
  have hsubmitted := hlbefore.submissions
  rw [hidle.inSubmission, List.nil_append] at hsubmitted
  refine ⟨before, after, v, v', past, future, hsteps, hbefore, hfinish, hafter, hevents, ?_,
    hidle, hsubmitted, hfuture, hstats, hearly, ?_⟩
  · rw [← isSome_final?_of_run hbefore, hv]
    rfl
  · exact ((ledger_of_run h).sound.final hfinal).2.symm

/-- Steps of a writer with two workers that is cancelled while a batch is being submitted,
one worker has a record in hand and the other one waits. The batch fails, and a record is
pushed after the end. -/
def cancelledInFlight : List (WriterStep Nat) :=
  [.work 0 none, .work 1 none, .work 0 none, .receive, .work 1 none, .receive, .dispatch,
    .submit 0, .work 0 none, .work 1 none, .cancel, .work 1 none, .work 0 none, .receive,
    .work 0 none, .receive, .dispatch, .settle 0 (.error (.transport "")), .submit 1,
    .settle 1 (.ok ⟨1, 0⟩), .finish, .push 40]

theorem closes_when_idle_cancelledInFlight :
    ∃ (w v : Writer Nat) (events past future : History Nat), (start
      { concurrency := 2, bulkMax := 2 } ⟨[10, 20, 30], false, default⟩ false).run
        cancelledInFlight = some (w, events) ∧
    w.final? = some ⟨3, 0, 1, 1, 0, 2, 1⟩ ∧ events = past ++ .closed :: future ∧
    isClosed past = false ∧ v.Idle ∧ (submitted past).Perm (returned past) ∧
    (∀ e ∈ future, ∃ a, e = .pushed a) ∧ v.stats = ⟨3, 0, 1, 1, 0, 2, 1⟩ ∧
    w.stats = ⟨3, 0, 1, 1, 0, 2, 1⟩ ∧ w.buffer.records = [40] := by
  obtain ⟨w, events, h, hfinal, hleft⟩ : ∃ w events,
      (start { concurrency := 2, bulkMax := 2 } ⟨[10, 20, 30], false, default⟩ false).run
        cancelledInFlight = some (w, events) ∧
      w.final? = some ⟨3, 0, 1, 1, 0, 2, 1⟩ ∧ w.buffer.records = [40] := ⟨_, _, rfl, rfl, rfl⟩
  obtain ⟨_, _, v, _, past, future, _, _, _, _, hevents, hopen, hidle, hperm, hfuture, hv, _, hw⟩ :=
    (closes_when_idle h).2 _ hfinal
  exact ⟨w, v, events, past, future, h, hfinal, hevents, hopen, hidle, hperm, hfuture, hv.symm, hw,
    hleft⟩

end MetricIngest.Writer
