/-
  A writer with a single worker keeps the order of the records.

  One worker hands on what it took before it takes more, and the one slot is free only when the
  task before has ended. So batches are answered for in the order in which they were made
  (`Serial`), and what a sink in memory stores is what was taken from the buffer, in its order,
  without what failed and what the sink refuses (`delivers_in_order`).
-/
import MetricIngest.Proofs.Writer.Bounds
import MetricIngest.Proofs.Writer.Delivery

namespace MetricIngest

open History

variable {α : Type}

/-! ### Batches that did not fail -/

namespace History

variable {past : History α}

/-- A batch whose submission failed has been answered for. -/
theorem mem_returned_of_failed {id : Nat} (h : id ∈ (failed past).map Batch.id) :
    id ∈ (returned past).map Batch.id := by
  rw [((returned_perm (p := past)).map Batch.id).mem_iff, List.map_append]
  exact List.mem_append_right _ h

/-- **What the sink took** are the batches that were answered for without those that failed, if
no number is answered for twice. -/
theorem accepted_eq_filter (h : ((returned past).map Batch.id).Nodup) :
    accepted past = (returned past).filter fun b => b.id ∉ (failed past).map Batch.id := by
  induction past with
  | nil => rfl
  | cons e past ih =>
    cases e with
    | returned b result =>
      obtain ⟨hfresh, hnodup⟩ : b.id ∉ (returned past).map Batch.id ∧
          ((returned past).map Batch.id).Nodup := List.nodup_cons.mp h
      have htaken := ih hnodup
      cases result with
      | ok o =>
        have hkept : b.id ∉ (failed past).map Batch.id :=
          fun hmem => hfresh (mem_returned_of_failed hmem)
        change b :: accepted past =
          (b :: returned past).filter fun c => c.id ∉ (failed past).map Batch.id
        rw [List.filter_cons_of_pos (by simpa using hkept), htaken]
      | error e =>
        change accepted past =
          (b :: returned past).filter fun c => c.id ∉ b.id :: (failed past).map Batch.id
        rw [List.filter_cons_of_neg (by simp), htaken]
        -- No other batch has the number of the one that failed.
        refine List.filter_congr fun c hc => ?_
        have hother : c.id ≠ b.id := fun heq => hfresh (heq ▸ List.mem_map_of_mem hc)
        simp [hother]
    | _ => exact ih h

end History

namespace Writer

variable {settings : Settings.Batching} {buffer : Buffer α} {cancelled : Bool}
  {w w' : Writer α} {next : WriterStep α} {steps : List (WriterStep α)} {events past : History α}

/-! ### One task at a time -/

/-- A task that is found where there is no more than one is the only one. -/
theorem flushes_eq_of_flush? {id : Nat} {f : Flush α} (hone : w.flushes.length ≤ 1)
    (h : w.flush? id = some f) : w.flushes = [f] ∧ f.batch.id = id := by
  have hmem := List.mem_of_find?_eq_some h
  have hlength : w.flushes.length = 1 := Nat.le_antisymm hone (List.length_pos_of_mem hmem)
  obtain ⟨g, hg⟩ := List.length_eq_one_iff.mp hlength
  rw [hg, List.mem_singleton] at hmem
  exact ⟨hmem ▸ hg, by simpa using List.find?_some h⟩

/-- What is being submitted while there is no more than one task is the first of what is left
to be answered for. -/
theorem inSubmission_isPrefix (hone : w.flushes.length ≤ 1) :
    w.inSubmission <+: w.underway ++ w.sealed := by
  rw [inSubmission, underway]
  cases hflushes : w.flushes with
  | nil => exact List.nil_prefix
  | cons f rest =>
    rw [hflushes, List.length_cons] at hone
    obtain rfl : rest = [] := List.eq_nil_of_length_eq_zero (by omega)
    obtain ⟨b, since⟩ := f
    cases since with
    | none => exact List.nil_prefix
    | some t => exact List.prefix_append _ _

/-- **Answers come in the order of the batches**: those that are made get behind those that have
a task or wait for one, and the first of these is answered for. -/
theorem Move.tasks_eq (hs : w.Sound) (hone : w.flushes.length ≤ 1) (h : Move w next w' events) :
    w.underway ++ w.sealed ++ collected events =
      returned events ++ (w'.underway ++ w'.sealed) := by
  cases h with
  | receive phase | drained phase | tick phase =>
    simp [collected, returned, sealed, underway, phase, List.filterMap_map]
  | dispatch phase => simp [collected, returned, sealed, underway, phase]
  | giveUpBatch phase slots => exact absurd hs.slots (by simp [slots])
  | finish phase => simp [collected, returned, sealed, underway, phase]
  | submit =>
    simp [collected, returned, sealed, underway, Function.comp_def, apply_ite Flush.batch]
  | settle task =>
    obtain ⟨hflushes, rfl⟩ := flushes_eq_of_flush? hone task
    simp [collected, returned, sealed, underway, hflushes]
  | _ => simp [collected, returned, sealed, underway, setWorker]

/-- **Submissions do not overlap**: a batch is submitted while none is, and is answered for
before the next one. -/
theorem Move.submissions_eq (hone : w.flushes.length ≤ 1) (h : Move w next w' events) :
    w.inSubmission ++ submitted events = returned events ++ w'.inSubmission := by
  cases h with
  | receive | drained | tick =>
    simp [submitted, returned, inSubmission, List.filterMap_map]
  | dispatch => simp [submitted, returned, inSubmission]
  | submit task =>
    obtain ⟨hflushes, rfl⟩ := flushes_eq_of_flush? hone task
    simp [submitted, returned, inSubmission, hflushes]
  | settle task =>
    obtain ⟨hflushes, rfl⟩ := flushes_eq_of_flush? hone task
    simp [submitted, returned, inSubmission, hflushes]
  | _ => simp [submitted, returned, inSubmission, setWorker]

/-- **One batch after the other**: the batches that were made are those that were answered for
and then those that are in hand, and those that were submitted end with the one that is being
submitted. -/
structure Serial (past : History α) (w : Writer α) : Prop where
  batches : collected past = returned past ++ (w.underway ++ w.sealed)
  submissions : submitted past = returned past ++ w.inSubmission

theorem serial_start (settings : Settings.Batching) (buffer : Buffer α) (cancelled : Bool) :
    (start settings buffer cancelled).Serial [] := ⟨rfl, rfl⟩

theorem Serial.move (hserial : w.Serial past) (hs : w.Sound) (hone : w.flushes.length ≤ 1)
    (h : Move w next w' events) : w'.Serial (past ++ events) where
  batches := by
    rw [collected_append, hserial.batches, List.append_assoc, h.tasks_eq hs hone,
      returned_append, List.append_assoc]
  submissions := by
    rw [submitted_append, hserial.submissions, List.append_assoc, h.submissions_eq hone,
      returned_append, List.append_assoc]

theorem serial_of_run (hworkers : settings.workers = 1)
    (h : (start settings buffer cancelled).run steps = some (w, events)) : w.Serial events := by
  have hrun := run_induction
    (motive := fun past v => v.Sound ∧ v.Bounded settings past ∧ v.Serial past)
    (fun ⟨hs, hb, hserial⟩ hmove =>
      ⟨hs.move hmove, hb.move hmove, hserial.move hs (hworkers ▸ hb.tasks) hmove⟩)
    ⟨sound_start settings buffer cancelled, bounded_start settings buffer cancelled,
      serial_start settings buffer cancelled⟩ h
  exact hrun.2.2

/-- Batches are submitted in the order in which they were made. -/
theorem Serial.submitted_isPrefix (hserial : w.Serial past) (hone : w.flushes.length ≤ 1) :
    submitted past <+: collected past := by
  rw [hserial.submissions, hserial.batches]
  exact (List.prefix_append_right_inj _).mpr (inSubmission_isPrefix hone)

/-- Batches are submitted by their numbers, from zero. -/
theorem Serial.ids_submitted (hserial : w.Serial events) (hone : w.flushes.length ≤ 1)
    (hl : w.Ledger buffer events) :
    (submitted events).map Batch.id = List.range (submitted events).length := by
  have hprefix := (hserial.submitted_isPrefix hone).map Batch.id
  have hlength := (hserial.submitted_isPrefix hone).length_le
  rw [hl.ids_collected] at hprefix
  have htake := List.prefix_iff_eq_take.mp hprefix
  rwa [List.length_map, List.take_range, Nat.min_eq_left hlength] at htake

/-- Once nothing is in hand, each batch was submitted and answered for in its turn. -/
theorem Serial.of_idle (hserial : w.Serial past) (hidle : w.Idle) :
    submitted past = returned past ∧ collected past = returned past := by
  have hbatches := hserial.batches
  have hsubmissions := hserial.submissions
  rw [hidle.underway, hidle.sealed, List.append_nil, List.append_nil] at hbatches
  rw [hidle.inSubmission, List.append_nil] at hsubmissions
  exact ⟨hsubmissions, hbatches⟩

/-- A single worker hands on what it took in its order. -/
theorem Ledger.popped_eq (hl : w.Ledger buffer events) (hworkers : w.workers.length = 1)
    (hidle : w.Idle) : popped events = (collected events).flatMap Batch.records := by
  have hpipe := hl.pipe.eq hworkers
  rw [hl.records, hidle.records, hidle.pipe, hidle.held] at hpipe
  simpa using hpipe

end Writer

/-! ### What a sink in memory stores -/

namespace Delivery

variable {settings : Settings.Batching} {buffer : Buffer α} {sink : MemorySink α}
  {cancelled : Bool} {steps : List (DeliveryStep α)} {d : Delivery α} {events : History α}

/-- What a sink stores beyond what it had is what it keeps of the batches that it took. -/
theorem Kept.records_of_start (h : (start settings buffer sink cancelled).Kept events d) :
    d.sink.records = sink.records ++ (accepted events).flatMap sink.kept := by
  have hrecords := h.records
  unfold start at hrecords
  split at hrecords
  · exact hrecords
  · exact hrecords

/-- **In order.** A writer with a single worker takes the records in the order in which they were
pushed and never submits two batches at the same time: each one that was submitted is answered
for before the next, and they are submitted by their numbers, from zero. Once it has ended, the
batches together are what was taken, in its order, and what the sink has stored beyond what it
had is this without the batches that failed and the records that it refuses, whatever the sink
was made to fail, and whenever batches were due and the writer was cancelled. -/
theorem delivers_in_order (hone : settings.concurrency ≤ 1)
    (h : (start settings buffer sink cancelled).run steps = some (d, events)) :
    buffer.records ++ pushed events = popped events ++ d.writer.buffer.records ∧
    d.writer.inSubmission.length ≤ 1 ∧
    submitted events = returned events ++ d.writer.inSubmission ∧
    (submitted events).map Batch.id = List.range (submitted events).length ∧
    ∀ stats, d.writer.final? = some stats →
      popped events = (submitted events).flatMap Batch.records ∧
      d.sink.records = sink.records ++
        ((submitted events).filter fun b => b.id ∉ (failed events).map Batch.id).flatMap
          sink.kept := by
  have hkept := kept_of_run h
  obtain ⟨writes, hrun⟩ := hkept.writer
  have hworkers : settings.workers = 1 := Nat.max_eq_left hone
  have hl := Writer.ledger_of_run hrun
  have hb := Writer.bounded_of_run hrun
  have hserial := Writer.serial_of_run hworkers hrun
  have htasks : d.writer.flushes.length ≤ 1 := hworkers ▸ hb.tasks
  refine ⟨hl.buffer, Nat.le_trans d.writer.length_inSubmission_le htasks, hserial.submissions,
    hserial.ids_submitted htasks hl, ?_⟩
  intro stats hfinal
  have hidle := (hl.sound.final hfinal).1
  obtain ⟨hsubmitted, hcollected⟩ := hserial.of_idle hidle
  rw [hsubmitted]
  refine ⟨?_, ?_⟩
  · rw [← hcollected]
    exact hl.popped_eq (hb.crew.trans hworkers) hidle
  · have hnodup : ((returned events).map Batch.id).Nodup := by
      rw [← hsubmitted]
      exact hl.nodup_submitted
    rw [← accepted_eq_filter hnodup]
    exact hkept.records_of_start

/-- Steps of a writer with a single worker that takes four records: the first batch is one that
the sink is made to fail, the second one is due before it is full and has a record that the sink
refuses, and the third one is what is left when the writer is cancelled. -/
def oneByOne : List (DeliveryStep Nat) :=
  [.failNext 1, .write (.work 0 none), .write (.work 0 none), .write .receive,
    .write (.work 0 none), .write (.work 0 none), .write .receive, .write .dispatch,
    .write (.push 40), .write (.submit 0), .write (.work 0 none), .answer 0,
    .write (.work 0 none), .write .receive, .write (.elapse 10000), .write .tick,
    .write .dispatch, .write (.submit 1), .write (.work 0 none), .write (.work 0 none),
    .answer 1, .write .receive, .write .cancel, .write (.work 0 none), .write .receive,
    .write .dispatch, .write (.submit 2), .answer 2, .write .finish]

theorem delivers_in_order_oneByOne : ∃ d events,
    (start { concurrency := 0, bulkMax := 2 } ⟨[10, 20, 31], false, default⟩
      (.ofPredicate (· == 31)) false).run oneByOne = some (d, events) ∧
    submitted events = [⟨0, [10, 20]⟩, ⟨1, [31]⟩, ⟨2, [40]⟩] ∧
    (failed events).map Batch.id = [0] ∧ d.writer.final?.isSome ∧
    popped events = [10, 20, 31, 40] ∧ d.sink.records = [40] := by
  obtain ⟨d, events, stats, h, hsubmitted, hfailed, hfinal⟩ : ∃ d events stats,
      (start { concurrency := 0, bulkMax := 2 } ⟨[10, 20, 31], false, default⟩
        (.ofPredicate (· == 31)) false).run oneByOne = some (d, events) ∧
      submitted events = [⟨0, [10, 20]⟩, ⟨1, [31]⟩, ⟨2, [40]⟩] ∧
      (failed events).map Batch.id = [0] ∧ d.writer.final? = some stats :=
    ⟨_, _, _, rfl, rfl, rfl, rfl⟩
  obtain ⟨_, _, _, _, hend⟩ := delivers_in_order (by decide) h
  obtain ⟨hpopped, hrecords⟩ := hend stats hfinal
  rw [hsubmitted] at hpopped
  rw [hsubmitted, hfailed] at hrecords
  exact ⟨d, events, h, hsubmitted, hfailed, by rw [hfinal]; rfl, hpopped, hrecords⟩

end Delivery

end MetricIngest
