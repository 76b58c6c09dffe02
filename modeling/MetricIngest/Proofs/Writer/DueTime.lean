/-
  No batch is made before its time.

  The loop's clock is right in every state (`Writer.Timed`): the interval is the one of the
  settings and began in the past. `Move.inDueTime` goes through the ways in which a step can
  leave a mark, and `inDueTime_of_run` puts the marks of a run together, from the last one to
  the first.
-/
import MetricIngest.Proofs.Writer.Bounds
import MetricIngest.Writer.DueTime

namespace MetricIngest

open History

variable {α : Type}

/-- The interval goes on or begins anew at the time of a call. -/
theorem AccumulatorEvent.restart?_getD_le {e : AccumulatorEvent α} {begun now : Nat}
    (hbegun : begun ≤ now) (htime : e.call.time ≤ now) : e.restart?.getD begun ≤ now := by
  cases hrestart : e.restart? with
  | none => exact hbegun
  | some t =>
    rw [AccumulatorEvent.restart?_eq_some hrestart]
    exact htime

namespace Writer

variable {settings : Settings.Batching} {buffer : Buffer α} {cancelled : Bool}
  {w w' : Writer α} {next : WriterStep α} {steps : List (WriterStep α)} {events past : History α}
  {rest : List (Mark α)}

/-! ### The loop's clock -/

/-- **What holds of the loop's clock** with these settings. -/
structure Timed (settings : Settings.Batching) (w : Writer α) : Prop where
  interval : w.accumulator.interval = settings.flushInterval
  begun : w.accumulator.lastFlush ≤ w.now

theorem timed_start (settings : Settings.Batching) (buffer : Buffer α) (cancelled : Bool) :
    (start settings buffer cancelled).Timed settings := ⟨rfl, Nat.le_refl _⟩

/-- The clock is right after a call of the accumulator. -/
theorem Timed.answer {e : AccumulatorEvent α} (ht : w.Timed settings)
    (h : w.accumulator.Answer e w'.accumulator) (hcall : e.call.time = w.now)
    (hnow : w'.now = w.now) : w'.Timed settings := by
  refine ⟨h.interval.trans ht.interval, ?_⟩
  rw [h.lastFlush, hnow]
  exact AccumulatorEvent.restart?_getD_le ht.begun (Nat.le_of_eq hcall)

theorem Timed.move (ht : w.Timed settings) (hb : w.Bounded settings past)
    (h : Move w next w' events) : w'.Timed settings := by
  cases h with
  | receive phase hpipe hadd =>
    exact ht.answer (Accumulator.answer_add hb.lt_limit hadd) rfl rfl
  | drained phase hpipe hgone htake =>
    exact ht.answer (Accumulator.answer_take hb.lt_limit htake) rfl rfl
  | tick phase due htake => exact ht.answer (Accumulator.answer_take hb.lt_limit htake) rfl rfl
  | elapse => exact ⟨ht.interval, Nat.le_add_right_of_le ht.begun⟩
  | _ => exact ⟨ht.interval, ht.begun⟩

/-! ### The last batch -/

/-- **Once no record will come** no step leaves a mark. -/
theorem Move.mark?_eq_none (h : Move w next w' events) (hpast : w.phase.isPast = true) :
    w'.phase.isPast = true ∧ w.mark? next (collected events) = none := by
  cases h with
  | receive phase | drained phase | tick phase => simp [phase, Phase.isPast] at hpast
  | dispatch phase | giveUpBatch phase =>
    rw [phase] at hpast
    exact ⟨(Phase.isPast_after _).trans hpast, rfl⟩
  | finish => exact ⟨rfl, rfl⟩
  | _ => exact ⟨hpast, rfl⟩

theorem marks_eq_nil (hpast : w.phase.isPast = true) : w.marks steps = [] := by
  induction steps generalizing w with
  | nil => rfl
  | cons next steps ih =>
    rw [marks]
    split
    · rfl
    · rename_i hstep
      obtain ⟨hafter, hnone⟩ := (move_of_step hstep).mark?_eq_none hpast
      rw [hnone, ih hafter]
      rfl

/-! ### Marks of a step -/

section Marks

variable {batch : Option (Batch α)}

theorem mark?_receive {a : α} {pipe : List α} (hpipe : w.pipe = a :: pipe) :
    w.mark? .receive (collected (.received a :: batch.toList.map .collected)) =
      batch.map (.filled · w.now) := by
  cases batch with
  | none => rfl
  | some b => simp [mark?, collected, hpipe]

theorem mark?_drained (hpipe : w.pipe = []) :
    w.mark? .receive (collected (batch.toList.map .collected)) =
      batch.map (.last · w.workers w.now) := by
  cases batch with
  | none => rfl
  | some b => simp [mark?, collected, hpipe]

theorem mark?_tick :
    w.mark? .tick (collected (batch.toList.map .collected)) = some (.due batch w.now) := by
  cases batch with
  | none => rfl
  | some b => rfl

end Marks

/-- The batches of a step are those of its mark. -/
theorem Move.batch_mark? (h : Move w next w' events) :
    (w.mark? next (collected events)).toList.filterMap Mark.batch = collected events := by
  cases h with
  | @receive a pipe batch acc phase hpipe hadd =>
    rw [mark?_receive hpipe]
    cases batch <;> simp [collected, Mark.batch]
  | @drained batch acc phase hpipe hgone htake =>
    rw [mark?_drained hpipe]
    cases batch <;> simp [collected, Mark.batch]
  | @tick batch acc phase due htake =>
    rw [mark?_tick]
    cases batch <;> simp [collected, Mark.batch]
  | _ => rfl

/-- **A step leaves its mark in due time**, if those that come later are. -/
theorem Move.inDueTime (hb : w.Bounded settings past) (ht : w.Timed settings)
    (h : Move w next w' events)
    (hrest : InDueTime settings w'.accumulator.lastFlush rest)
    (hpast : w'.phase.isPast = true → rest = []) :
    InDueTime settings w.accumulator.lastFlush
      ((w.mark? next (collected events)).toList ++ rest) := by
  cases h with
  | @receive a pipe batch acc phase hpipe hadd =>
    have hanswer := Accumulator.answer_add hb.lt_limit hadd
    rw [mark?_receive hpipe]
    cases batch with
    | none =>
      have hlast : acc.lastFlush = w.accumulator.lastFlush := hanswer.lastFlush
      rw [hlast] at hrest
      exact hrest
    | some b =>
      have hlast : acc.lastFlush = w.now := hanswer.lastFlush
      have hsize : b.size = max 1 settings.bulkMax := by
        rw [hanswer.full a w.now rfl b rfl, hb.limit_eq]
      rw [hlast] at hrest
      exact .filled ht.begun hsize hrest
  | @drained batch acc phase hpipe hgone htake =>
    -- The interval begins anew, but no mark comes for which this matters.
    have hnil : rest = [] := hpast (by cases batch <;> rfl)
    rw [mark?_drained hpipe, hnil]
    cases batch with
    | none => exact .nil
    | some b =>
      have hall := List.eq_replicate_iff.mpr ⟨hb.crew, gone_of_allGone hgone⟩
      exact .last ht.begun hall
  | @tick batch acc phase due htake =>
    have hlast : acc.lastFlush = w.now := (Accumulator.answer_take hb.lt_limit htake).lastFlush
    rw [hlast] at hrest
    rw [Accumulator.deadline, ht.interval] at due
    rw [mark?_tick]
    exact .due due hrest
  | _ => exact hrest

/-! ### Marks of a run -/

theorem marks_cons (h : w.step next = some (w', events)) :
    w.marks (next :: steps) =
      (w.mark? next (collected events)).toList ++ w'.marks steps := by
  rw [marks, h]

theorem batch_marks (h : w.run steps = some (w', events)) :
    (w.marks steps).filterMap Mark.batch = collected events := by
  induction steps generalizing w events with
  | nil =>
    cases h
    rfl
  | cons next steps ih =>
    obtain ⟨between, first, rest, hstep, hrest, rfl⟩ := Steps.of_run_cons h
    rw [marks_cons hstep, List.filterMap_append, (move_of_step hstep).batch_mark?, ih hrest,
      collected_append]

theorem inDueTime_of_run (hb : w.Bounded settings past) (ht : w.Timed settings)
    (h : w.run steps = some (w', events)) :
    InDueTime settings w.accumulator.lastFlush (w.marks steps) := by
  induction steps generalizing past w events with
  | nil => exact .nil
  | cons next steps ih =>
    obtain ⟨between, first, rest, hstep, hrest, rfl⟩ := Steps.of_run_cons h
    have hmove := move_of_step hstep
    rw [marks_cons hstep]
    exact hmove.inDueTime hb ht (ih (hb.move hmove) (ht.move hb hmove) hrest) marks_eq_nil

/-- **No batch is made before its time.** Whatever the settings, in each run, whenever records
come, however long submissions take and in whatever order the parties move: the batches that
are submitted are batches that were made, and each of those has as many records as the settings
allow, or was made at a deadline, when the interval had passed since a batch was last made or a
deadline last came or since the start, or is the only one that was made when all workers were
gone, after which none is made. -/
theorem batches_in_due_time
    (h : (start settings buffer cancelled).run steps = some (w, events)) :
    (submitted events).Subperm (collected events) ∧
    ((start settings buffer cancelled).marks steps).filterMap Mark.batch = collected events ∧
    InDueTime settings 0 ((start settings buffer cancelled).marks steps) :=
  ⟨(ledger_of_run h).submitted_subperm, batch_marks h,
    inDueTime_of_run (bounded_start ..) (timed_start ..) h⟩

/-- Steps of a writer that makes a batch on each occasion: one is full, one is made when the
interval has passed, and one when the buffer was closed. -/
def threeOccasions : List (WriterStep Nat) :=
  [.work 0 none, .work 0 none, .receive, .work 0 none, .work 0 none, .receive, .dispatch,
    .submit 0, .elapse 3, .settle 0 (.ok ⟨2, 0⟩), .work 0 none, .work 0 none, .receive,
    .elapse 2, .tick, .dispatch, .submit 1, .work 0 none, .work 0 none, .receive, .closeBuffer,
    .work 0 none, .elapse 1, .receive]

theorem batches_in_due_time_threeOccasions : ∃ (w : Writer Nat) (events : History Nat),
    (start { concurrency := 1, bulkMax := 2, flushInterval := 5 } ⟨[10, 20, 30, 40], false, .idle⟩
      false).run threeOccasions = some (w, events) ∧
    collected events = [⟨0, [10, 20]⟩, ⟨1, [30]⟩, ⟨2, [40]⟩] ∧
    InDueTime (α := Nat) { concurrency := 1, bulkMax := 2, flushInterval := 5 } 0
      [.filled ⟨0, [10, 20]⟩ 0, .due (some ⟨1, [30]⟩) 5, .last ⟨2, [40]⟩ [.gone] 6] := by
  obtain ⟨w, events, h, hmarks⟩ : ∃ (w : Writer Nat) (events : History Nat),
      (start { concurrency := 1, bulkMax := 2, flushInterval := 5 }
        ⟨[10, 20, 30, 40], false, .idle⟩ false).run threeOccasions = some (w, events) ∧
      (start { concurrency := 1, bulkMax := 2, flushInterval := 5 }
        ⟨[10, 20, 30, 40], false, .idle⟩ false).marks threeOccasions =
        [.filled ⟨0, [10, 20]⟩ 0, .due (some ⟨1, [30]⟩) 5, .last ⟨2, [40]⟩ [.gone] 6] :=
    ⟨_, _, rfl, rfl⟩
  obtain ⟨_, hbatches, hdue⟩ := batches_in_due_time h
  rw [hmarks] at hbatches hdue
  exact ⟨w, events, h, hbatches.symm, hdue⟩

end Writer

end MetricIngest
