/-
  How much a writer can have in its hands.

  Four limits hold at once, each kept by another party (`Bounded`): a worker has one record in
  its hand, the pipe has a capacity, the loop collects no more than a batch, or has one that
  waits for a slot and collects nothing, and there are as many tasks as slots. `bounded_in_hand`
  adds them up.
-/
import MetricIngest.Proofs.Writer.Balance
import MetricIngest.Proofs.Writer.Collecting

namespace MetricIngest

open History

variable {α : Type}

/-! ### How an accumulator fills up -/

namespace Accumulator

variable {acc acc' : Accumulator α}

/-- **How an accumulator fills up**: it always has room for a record, and is emptied by a
batch, which is no larger than what it may hold. -/
structure Fill (acc : Accumulator α) (batch : Option (Batch α)) (acc' : Accumulator α) :
    Prop where
  bulkMax : acc'.bulkMax = acc.bulkMax
  room : acc'.records.length < acc.bulkMax
  size : ∀ b ∈ batch, b.size ≤ acc.bulkMax
  emptied : batch.isSome = true → acc'.records = []

theorem Answer.fill {e : AccumulatorEvent α} (h : acc.Answer e acc')
    (hroom : acc.records.length < acc.bulkMax) : acc.Fill e.batch acc' := by
  have hlimit : acc.limit = acc.bulkMax := Nat.max_eq_right (Nat.one_le_of_lt hroom)
  refine ⟨h.bulkMax, ?_, ?_, h.emptied⟩
  · rw [← hlimit]
    exact h.room
  · rw [← hlimit]
    exact h.size

end Accumulator

namespace Writer

variable {settings : Settings.Batching} {buffer : Buffer α} {cancelled : Bool}
  {w w' : Writer α} {next : WriterStep α} {steps : List (WriterStep α)} {events past : History α}

/-! ### The limits -/

/-- **The limits that a writer keeps** to with these settings. -/
structure Bounded (settings : Settings.Batching) (past : History α) (w : Writer α) : Prop where
  fixed : w.settings = settings
  slots : w.slots.count = settings.workers
  crew : w.workers.length = settings.workers
  pipe : w.pipe.length ≤ settings.pipeCapacity
  tasks : w.flushes.length ≤ settings.workers
  bulkMax : w.accumulator.bulkMax = max 1 settings.bulkMax
  room : w.accumulator.records.length < max 1 settings.bulkMax
  alone : w.sealed ≠ [] → w.accumulator.records = []
  sizes : ∀ b ∈ collected past, b.size ≤ max 1 settings.bulkMax

theorem bounded_start (settings : Settings.Batching) (buffer : Buffer α) (cancelled : Bool) :
    (start settings buffer cancelled).Bounded settings [] where
  fixed := rfl
  slots := rfl
  crew := List.length_replicate
  pipe := Nat.zero_le _
  tasks := Nat.zero_le _
  bulkMax := rfl
  room := Nat.lt_of_lt_of_le Nat.one_pos (Nat.le_max_left _ _)
  alone := fun _ => rfl
  sizes := by simp [collected]

/-- Records are put into the pipe only while it has room. -/
theorem Move.length_pipe_le (h : Move w next w' events)
    (hpipe : w.pipe.length ≤ w.settings.pipeCapacity) :
    w'.pipe.length ≤ w.settings.pipeCapacity := by
  cases h with
  | handOver place hp room =>
    simp only [setWorker, List.length_append, List.length_singleton]
    omega
  | receive phase hpipe' =>
    rw [hpipe', List.length_cons] at hpipe
    exact Nat.le_of_succ_le hpipe
  | _ => exact hpipe

/-- Tasks begin only while a slot is free. -/
theorem Move.length_flushes_le (h : Move w next w' events)
    (htasks : w.flushes.length ≤ w.slots.count) : w'.flushes.length ≤ w.slots.count := by
  cases h with
  | dispatch phase slots room =>
    simp only [List.length_append, List.length_singleton]
    omega
  | submit => simpa using htasks
  | settle => exact Nat.le_trans (List.length_filter_le _ _) htasks
  | _ => exact htasks

/-- The loop collects records only while no batch waits for a slot. -/
theorem Move.fill (h : Move w next w' events)
    (hroom : w.accumulator.records.length < w.accumulator.bulkMax)
    (halone : w.sealed ≠ [] → w.accumulator.records = []) :
    ∃ batch, collected events = batch.toList ∧ w.accumulator.Fill batch w'.accumulator ∧
      (w'.sealed ≠ [] → w'.accumulator.records = []) := by
  have hstill : w.accumulator.Fill none w.accumulator := ⟨rfl, hroom, by simp, by simp⟩
  have hlimit : w.accumulator.records.length < w.accumulator.limit :=
    Nat.lt_of_lt_of_le hroom (Nat.le_max_right _ _)
  -- The loop has a batch just when it made one.
  have hmade : ∀ {batch : Option (Batch α)} {acc : Accumulator α},
      w.accumulator.Fill batch acc → batch.toList ≠ [] → acc.records = [] := by
    intro batch acc hfill hne
    cases batch with
    | none => exact absurd rfl hne
    | some b => exact hfill.emptied rfl
  cases h with
  | @receive a pipe batch acc phase hpipe hadd =>
    have hfill := (Accumulator.answer_add hlimit hadd).fill hroom
    refine ⟨batch, by simp [collected, List.filterMap_map], hfill, ?_⟩
    simpa [sealed] using hmade hfill
  | @drained batch acc phase hpipe hgone htake | @tick batch acc phase due htake =>
    have hfill := (Accumulator.answer_take hlimit htake).fill hroom
    refine ⟨batch, by simp [collected, List.filterMap_map], hfill, ?_⟩
    simpa [sealed] using hmade hfill
  | dispatch phase | giveUpBatch phase => exact ⟨none, rfl, hstill, by simp [sealed]⟩
  | finish phase => exact ⟨none, rfl, hstill, by simp [sealed]⟩
  | _ => exact ⟨none, rfl, hstill, halone⟩

theorem Bounded.move (hb : w.Bounded settings past) (h : Move w next w' events) :
    w'.Bounded settings (past ++ events) := by
  obtain ⟨hsettings, hslots⟩ := settings_of_move h
  have hroom := hb.room
  rw [← hb.bulkMax] at hroom
  obtain ⟨batch, hcollected, hfill, halone⟩ := h.fill hroom hb.alone
  have hpipe := hb.pipe
  have htasks := hb.tasks
  rw [← hb.fixed] at hpipe
  rw [← hb.slots] at htasks
  refine ⟨hsettings.trans hb.fixed, ?_, ?_, ?_, ?_, ?_, ?_, halone, ?_⟩
  · rw [hslots, hb.slots]
  · rw [h.length_workers, hb.crew]
  · rw [← hb.fixed]
    exact h.length_pipe_le hpipe
  · rw [← hb.slots]
    exact h.length_flushes_le htasks
  · rw [hfill.bulkMax, hb.bulkMax]
  · rw [← hb.bulkMax]
    exact hfill.room
  · rw [collected_append, hcollected, ← hb.bulkMax]
    intro b hmem
    rcases List.mem_append.mp hmem with hmem | hmem
    · rw [hb.bulkMax]
      exact hb.sizes b hmem
    · exact hfill.size b (by simpa using hmem)

/-- A batch that is full has as many records as the settings allow. -/
theorem Bounded.limit_eq (hb : w.Bounded settings past) :
    w.accumulator.limit = max 1 settings.bulkMax := by
  rw [Accumulator.limit, hb.bulkMax]
  exact Nat.max_eq_right (Nat.le_max_left _ _)

/-- There is room for a record. -/
theorem Bounded.lt_limit (hb : w.Bounded settings past) :
    w.accumulator.records.length < w.accumulator.limit := by
  rw [hb.limit_eq]
  exact hb.room

theorem bounded_of_run (h : (start settings buffer cancelled).run steps = some (w, events)) :
    w.Bounded settings events :=
  run_induction (motive := fun past v => v.Bounded settings past)
    (fun hb hmove => hb.move hmove) (bounded_start settings buffer cancelled) h

/-! ### What the limits add up to -/

/-- A worker has no more than one record in its hand. -/
theorem length_held_le (w : Writer α) : w.held.length ≤ w.workers.length := by
  have hone : ∀ place ∈ w.workers, place.held.length ≤ 1 := by
    intro place _
    cases place <;> simp [Worker.held]
  simpa [held] using ListFacts.length_flatMap_le Worker.held hone

/-- As many batches are being submitted as there are tasks at the most. -/
theorem length_inSubmission_le (w : Writer α) : w.inSubmission.length ≤ w.flushes.length := by
  rw [inSubmission, List.length_map]
  exact List.length_filter_le _ _

/-- No more than one batch waits for a slot. -/
theorem length_sealed_le (w : Writer α) : w.sealed.length ≤ 1 := by
  rw [sealed]
  cases w.phase <;> simp

/-- Batches in hand are batches that were made. -/
theorem Ledger.mem_collected {b : Batch α} (hl : w.Ledger buffer events)
    (hmem : b ∈ w.sealed ++ w.underway) : b ∈ collected events :=
  hl.tasks.mem_iff.mpr (List.mem_append_left _ hmem)

/-- **What a writer has in its hands** is bounded. -/
theorem Bounded.inHand_le (hb : w.Bounded settings events) (hl : w.Ledger buffer events) :
    w.inHand ≤ settings.pipeCapacity + settings.workers +
      max 1 settings.bulkMax * (settings.workers + 1) := by
  have hheld := w.length_held_le
  have hsealed : load w.sealed ≤ max 1 settings.bulkMax * w.sealed.length :=
    ListFacts.length_flatMap_le Batch.records fun b hmem =>
      hb.sizes b (hl.mem_collected (List.mem_append_left _ hmem))
  have hunderway : load w.underway ≤ max 1 settings.bulkMax * w.underway.length :=
    ListFacts.length_flatMap_le Batch.records fun b hmem =>
      hb.sizes b (hl.mem_collected (List.mem_append_right _ hmem))
  have htasks : max 1 settings.bulkMax * w.underway.length ≤
      max 1 settings.bulkMax * settings.workers := by
    refine Nat.mul_le_mul_left _ ?_
    rw [underway, List.length_map]
    exact hb.tasks
  -- The loop has a part of a batch or a whole one, not both.
  have hloop : w.accumulator.records.length + load w.sealed ≤ max 1 settings.bulkMax := by
    by_cases hne : w.sealed = []
    · have hroom := hb.room
      rw [hne]
      simp only [load, List.flatMap_nil, List.length_nil]
      omega
    · have hone := Nat.mul_le_mul_left (max 1 settings.bulkMax) w.length_sealed_le
      rw [hb.alone hne, List.length_nil]
      omega
  have hcrew := hb.crew
  have hpipe := hb.pipe
  rw [Nat.mul_succ, inHand]
  omega

/-- What the sink took is counted, but for the records of which its answers say nothing. -/
theorem Move.load_accepted_le (h : Move w next w' events) :
    w.stats.recordsCommitted + w.stats.recordsFailed + load (accepted events) ≤
      w'.stats.recordsCommitted + w'.stats.recordsFailed + unreported events := by
  cases h with
  | @settle id b since result task =>
    cases result with
    | error e => simp [accepted, unreported, load, WriterStats.submitted]
    | ok o =>
      simp only [accepted, unreported, WriterStats.submitted, List.filterMap_cons,
        List.filterMap_nil, load_singleton, SubmitOutcome.total]
      omega
  | receive | drained | tick =>
    simp [accepted, unreported, load, List.filterMap_map]
  | _ => exact Nat.le_add_right _ _

theorem load_accepted_le (h : (start settings buffer cancelled).run steps = some (w, events)) :
    load (accepted events) ≤
      w.stats.recordsCommitted + w.stats.recordsFailed + unreported events :=
  run_induction
    (motive := fun past v => load (accepted past) ≤
      v.stats.recordsCommitted + v.stats.recordsFailed + unreported past)
    (fun hpast hmove => by
      have hnext := hmove.load_accepted_le
      rw [accepted_append, load_append, unreported_append]
      omega) (Nat.zero_le _) h

/-- **Back-pressure.** In each state of a run, whatever the buffer and the sink do and in
whatever order the parties move: no more batches are being submitted than there are workers, no
batch is larger than the settings allow, and no more than one waits for a slot, during which
nothing is collected. So the records that were taken and are not settled are bounded, apart
from those that the sink took and of which its answers say nothing.

The bound by itself rests on the sink: an answer that is no failure has to tell of each record of
its batch whether it was accepted or refused (`Balanced`). A sink that answers `⟨0, 0⟩` leaves a
whole batch unsettled each time, and then no bound on the difference holds. -/
theorem bounded_in_hand
    (h : (start settings buffer cancelled).run steps = some (w, events)) :
    let workers := max 1 settings.concurrency
    let bulkMax := max 1 settings.bulkMax
    let limit := settings.pipeCapacity + workers + bulkMax * (workers + 1)
    w.inSubmission.length ≤ workers ∧ (∀ b ∈ collected events, b.size ≤ bulkMax) ∧
    w.sealed.length ≤ 1 ∧ (w.sealed ≠ [] → w.accumulator.records = []) ∧
    w.stats.recordsPopped ≤ w.stats.settled + unreported events + limit ∧
    (Balanced events → w.stats.recordsPopped - w.stats.settled ≤ limit) := by
  intro workers bulkMax limit
  have hb := bounded_of_run h
  have hl := ledger_of_run h
  have hpopped := hl.recordsPopped_eq
  have hlost := hl.recordsLost_eq
  have hlength := hl.length_popped
  have hhand : w.inHand ≤ limit := hb.inHand_le hl
  have haccepted := load_accepted_le h
  have hall : w.stats.recordsPopped ≤ w.stats.settled + unreported events + limit := by
    rw [WriterStats.settled]
    omega
  refine ⟨Nat.le_trans w.length_inSubmission_le hb.tasks, hb.sizes, w.length_sealed_le, hb.alone,
    hall, ?_⟩
  intro hbalanced
  rw [hbalanced.unreported_eq_zero] at hall
  omega

/-- Steps of a writer in which each party has as much in hand as it may: after the first batch
is settled, one is being submitted, one waits for the only slot, a record is in the pipe and
another one with the worker. -/
def filledUp : List (WriterStep Nat) :=
  [.work 0 none, .work 0 none, .receive, .dispatch, .submit 0, .settle 0 (.ok ⟨1, 0⟩),
    .work 0 none, .work 0 none, .receive, .dispatch, .submit 1, .work 0 none, .work 0 none,
    .receive, .work 0 none, .work 0 none, .work 0 none]

theorem bounded_in_hand_filledUp : ∃ (w : Writer Nat) (events : History Nat),
    (start { concurrency := 0, bulkMax := 0, pipeFactor := 0 } ⟨[10, 20, 30, 40, 50], false, .idle⟩
      false).run filledUp = some (w, events) ∧
    Balanced events ∧ w.inSubmission = [⟨1, [20]⟩] ∧ w.sealed = [⟨2, [30]⟩] ∧ w.pipe = [40] ∧
    w.stats.recordsPopped = 5 ∧ w.stats.settled = 1 ∧ w.accumulator.records = [] ∧
    w.stats.recordsPopped - w.stats.settled ≤ 4 := by
  obtain ⟨w, events, h, hbalanced, hsubmission, hsealed, hpipe, hpopped, hsettled⟩ :
      ∃ (w : Writer Nat) (events : History Nat),
      (start { concurrency := 0, bulkMax := 0, pipeFactor := 0 }
        ⟨[10, 20, 30, 40, 50], false, .idle⟩ false).run filledUp = some (w, events) ∧
      Balanced events ∧ w.inSubmission = [⟨1, [20]⟩] ∧ w.sealed = [⟨2, [30]⟩] ∧ w.pipe = [40] ∧
      w.stats.recordsPopped = 5 ∧ w.stats.settled = 1 :=
    ⟨_, _, rfl, by decide, rfl, rfl, rfl, rfl, rfl⟩
  obtain ⟨_, _, _, halone, _, hlimit⟩ := bounded_in_hand h
  exact ⟨w, events, h, hbalanced, hsubmission, hsealed, hpipe, hpopped, hsettled,
    halone (by simp [hsealed]), hlimit hbalanced⟩

end Writer

end MetricIngest
