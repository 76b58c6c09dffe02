/-
  What cancelling does to a writer.

  From the moment at which a writer is cancelled on, none of its steps takes a record from
  the buffer or counts a failed pop; a pop that waits is abandoned, woken or not, and the
  buffer keeps its records. What was taken before is still submitted before the writer ends.
-/
import MetricIngest.Proofs.Writer.Balance

namespace MetricIngest

open History

variable {α : Type}

namespace Writer

variable {settings : Settings.Batching} {buffer : Buffer α} {cancelled : Bool}
  {w w' w'' : Writer α} {next : WriterStep α} {steps later : List (WriterStep α)}
  {events more : History α} {i : Nat}

/-- **What a cancelled writer leaves alone**, between two states with these events: nothing is
taken from the buffer, to which records still come, and neither pops nor their failures are
counted. -/
structure Abstains (w : Writer α) (events : History α) (w' : Writer α) : Prop where
  cancelled : w'.cancelled = true
  popped : popped events = []
  records : w'.buffer.records = w.buffer.records ++ pushed events
  recordsPopped : w'.stats.recordsPopped = w.stats.recordsPopped
  popErrors : w'.stats.popErrors = w.stats.popErrors

theorem Abstains.refl (hc : w.cancelled = true) : w.Abstains [] w where
  cancelled := hc
  popped := rfl
  records := (List.append_nil _).symm
  recordsPopped := rfl
  popErrors := rfl

theorem Abstains.trans (h : w.Abstains events w') (h' : w'.Abstains more w'') :
    w.Abstains (events ++ more) w'' where
  cancelled := h'.cancelled
  popped := by rw [popped_append, h.popped, h'.popped, List.append_nil]
  records := by rw [h'.records, h.records, pushed_append, List.append_assoc]
  recordsPopped := h'.recordsPopped.trans h.recordsPopped
  popErrors := h'.popErrors.trans h.popErrors

/-- A cancelled writer takes nothing. -/
theorem Move.popped_of_cancelled (hc : w.cancelled = true) (h : Move w next w' events) :
    popped events = [] := by
  cases h with
  | pop hc' => simp [hc] at hc'
  | receive | drained | tick => simp [popped, List.filterMap_map]
  | _ => rfl

/-- Pops are counted as failed only before the writer is cancelled. -/
theorem Move.popErrors_of_cancelled (hc : w.cancelled = true) (h : Move w next w' events) :
    w'.stats.popErrors = w.stats.popErrors := by
  cases h with
  | popFails place hc' => simp [hc] at hc'
  | @settle id b since result task => cases result <;> rfl
  | _ => rfl

theorem Move.abstains (hc : w.cancelled = true) (hs : w.Sound) (h : Move w next w' events) :
    w.Abstains events w' where
  cancelled := cancelled_of_move h hc
  popped := h.popped_of_cancelled hc
  records := by
    have hqueue := h.buffer_eq
    rw [h.popped_of_cancelled hc, List.nil_append] at hqueue
    exact hqueue.symm
  recordsPopped := by
    have hcount := (h.booked hs).popped
    rw [h.popped_of_cancelled hc] at hcount
    exact hcount
  popErrors := h.popErrors_of_cancelled hc

theorem abstains_of_run (hc : w.cancelled = true) (hs : w.Sound)
    (h : w.run steps = some (w', events)) : w.Abstains events w' := by
  have hrun := run_induction (motive := fun past v => v.Sound ∧ w.Abstains past v)
    (fun ⟨hsound, hpast⟩ hmove =>
      ⟨hsound.move hmove, hpast.trans (hmove.abstains hpast.cancelled hsound)⟩)
    (⟨hs, .refl hc⟩ : w.Sound ∧ w.Abstains [] w) h
  exact hrun.2

/-- **A worker that waits leaves** at its next step, with its pop abandoned. -/
theorem work_of_waiting (hc : w.cancelled = true) (fault : Option BufferError)
    (place : w.workers[i]? = some .waiting) :
    ∃ w', w.step (.work i fault) = some (w', []) ∧ w'.workers[i]? = some .gone ∧
      w'.buffer.records = w.buffer.records ∧ w'.buffer.notifier.Absent i := by
  have hi := (List.getElem?_eq_some_iff.mp place).1
  refine ⟨{ w with buffer := w.buffer.cancelPop i }.setWorker i .gone, ?_, ?_, rfl,
    w.buffer.notifier.absent_leave i⟩
  · simp [step, work, place, hc]
  · simp [setWorker, hi]

/-- A worker that would begin a pop leaves instead, and the buffer stays as it is. -/
theorem work_of_ready (hc : w.cancelled = true) (fault : Option BufferError)
    (place : w.workers[i]? = some .ready) :
    ∃ w', w.step (.work i fault) = some (w', []) ∧ w'.workers[i]? = some .gone ∧
      w'.buffer = w.buffer := by
  have hi := (List.getElem?_eq_some_iff.mp place).1
  refine ⟨w.setWorker i .gone, ?_, ?_, rfl⟩
  · simp [step, work, place, hc]
  · simp [setWorker, hi]

/-- **Cancelling.** From a state of a run in which the writer is cancelled, whatever fails and
in whatever order the parties move: nothing is taken from the buffer, which gains only what is
pushed, and neither records nor failed pops are counted any more. A step that is not a push
leaves the records as they are. A worker that waits leaves at its next step, woken or not, and
so does one that would begin a pop. Once the writer has ended, all that was taken has been
submitted, and what was in the buffer or came into it was taken or is still there. -/
theorem cancelled_takes_nothing
    (h : (start settings buffer cancelled).run steps = some (w, events))
    (hc : w.cancelled = true) (hlater : w.run later = some (w', more)) :
    popped more = [] ∧ w'.buffer.records = w.buffer.records ++ pushed more ∧
    w'.stats.recordsPopped = w.stats.recordsPopped ∧ w'.stats.popErrors = w.stats.popErrors ∧
    (∀ next w'' events', w'.step next = some (w'', events') → (∀ a, next ≠ .push a) →
      w''.buffer.records = w'.buffer.records) ∧
    (∀ i fault, w'.workers[i]? = some .waiting →
      ∃ w'', w'.step (.work i fault) = some (w'', []) ∧ w''.workers[i]? = some .gone ∧
        w''.buffer.records = w'.buffer.records ∧ w''.buffer.notifier.Absent i) ∧
    (∀ i fault, w'.workers[i]? = some .ready →
      ∃ w'', w'.step (.work i fault) = some (w'', []) ∧ w''.workers[i]? = some .gone ∧
        w''.buffer = w'.buffer) ∧
    ∀ stats, w'.final? = some stats →
      ((submitted (events ++ more)).flatMap Batch.records).Perm (popped events) ∧
      buffer.records.length + (pushed (events ++ more)).length =
        stats.recordsPopped + w'.buffer.records.length := by
  have hs := (ledger_of_run h).sound
  have ha := abstains_of_run hc hs hlater
  have hs' := (passed_of_run hs hlater).1
  have hl := ledger_of_run (Steps.run_append h hlater)
  refine ⟨ha.popped, ha.records, ha.recordsPopped, ha.popErrors, ?_, ?_, ?_, ?_⟩
  · intro next w'' events' hstep hnext
    have hmove := move_of_step hstep
    have hrecords := (hmove.abstains ha.cancelled hs').records
    rw [pushed_of_move hmove hnext, List.append_nil] at hrecords
    exact hrecords
  · intro i fault place
    exact work_of_waiting ha.cancelled fault place
  · intro i fault place
    exact work_of_ready ha.cancelled fault place
  · intro stats hfinal
    obtain ⟨hidle, rfl⟩ := hl.sound.final hfinal
    have hpopped : popped (events ++ more) = popped events := by
      rw [popped_append, ha.popped, List.append_nil]
    refine ⟨?_, ?_⟩
    · rw [← hpopped]
      exact hl.submitted_records_perm hidle
    · rw [hl.recordsPopped_eq, ← List.length_append, ← List.length_append, hl.buffer]

/-- Steps of a writer with four workers, up to its cancelling: one worker has seen its pop
fail, one has a record in hand for which there is no room in the pipe, one was woken by a push
and one waits. -/
def fourPlaces : List (WriterStep Nat) :=
  [.work 0 none, .work 1 none, .work 0 none, .work 2 none, .work 3 none,
    .work 0 (some (.unavailable "")), .push 30, .cancel]

/-- Steps after that up to the end. Another record is pushed on the way, and a batch fails. -/
def fourLeave : List (WriterStep Nat) :=
  [.work 2 none, .work 3 none, .work 0 none, .receive, .work 1 none, .push 40, .dispatch,
    .submit 0, .settle 0 (.ok ⟨1, 0⟩), .work 1 none, .receive, .dispatch, .submit 1,
    .settle 1 (.error (.transport "")), .receive, .finish]

theorem cancelled_takes_nothing_fourPlaces :
    ∃ (w w' : Writer Nat) (events more : History Nat),
      (start { concurrency := 4, bulkMax := 1, pipeFactor := 0 } ⟨[10, 20], false, .idle⟩
        false).run fourPlaces = some (w, events) ∧
      w.workers = [.ready, .holding 20, .waiting, .waiting] ∧ w.buffer.records = [30] ∧
      w.run fourLeave = some (w', more) ∧ w'.final? = some ⟨2, 1, 1, 1, 0, 1, 1⟩ ∧
      popped more = [] ∧ w'.buffer.records = [30] ++ pushed more ∧
      ((submitted (events ++ more)).flatMap Batch.records).Perm (popped events) ∧
      2 + (pushed (events ++ more)).length = 2 + w'.buffer.records.length := by
  obtain ⟨w, events, h, hc, hworkers, hrecords, w', more, hlater, hfinal⟩ : ∃ w events,
      (start { concurrency := 4, bulkMax := 1, pipeFactor := 0 } ⟨[10, 20], false, .idle⟩
        false).run fourPlaces = some (w, events) ∧ w.cancelled = true ∧
      w.workers = [.ready, .holding 20, .waiting, .waiting] ∧ w.buffer.records = [30] ∧
      ∃ w' more, w.run fourLeave = some (w', more) ∧
        w'.final? = some ⟨2, 1, 1, 1, 0, 1, 1⟩ :=
    ⟨_, _, rfl, rfl, rfl, rfl, _, _, rfl, rfl⟩
  obtain ⟨hpopped, hqueue, _, _, _, _, _, hend⟩ := cancelled_takes_nothing h hc hlater
  obtain ⟨hsubmitted, hbalance⟩ := hend _ hfinal
  rw [hrecords] at hqueue
  exact ⟨w, w', events, more, h, hworkers, hrecords, hlater, hfinal, hpopped, hqueue, hsubmitted,
    hbalance⟩

end Writer

end MetricIngest
