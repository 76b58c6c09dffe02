/-
  What every run of a writer keeps.

  `Writer.Sound` is what holds of each state that a start can come to, and
  `Writer.Passed` says what happened between two states: nothing is lost between the
  buffer, the workers, the pipe, the accumulator, the slot and the tasks, and the
  counters follow the events. `passed_of_run` proves both of all runs from a sound
  state, move by move; `sound_start` says that writers start in one.
-/
import MetricIngest.Proofs.Lists
import MetricIngest.Proofs.Writer.Moves

namespace MetricIngest

open History

variable {α : Type}

/-! ### Cutting records into batches -/

namespace Accumulator

variable {acc acc' acc'' : Accumulator α} {given given' : List α}
  {batches batches' : List (Batch α)} {batch : Option (Batch α)} {a : α} {now : Nat}

/-- **How records are cut**: records that are given to an accumulator are in the batches
that come out of it or are still in it, in the same order; the batches are numbered on
from the number that was due, and none is empty. -/
structure Cut (acc : Accumulator α) (given : List α) (batches : List (Batch α))
    (acc' : Accumulator α) : Prop where
  records : acc.records ++ given = batches.flatMap Batch.records ++ acc'.records
  ids : List.range acc.nextId ++ batches.map Batch.id = List.range acc'.nextId
  filled : ∀ b ∈ batches, b.records ≠ []

theorem Cut.refl (acc : Accumulator α) : acc.Cut [] [] acc where
  records := by simp
  ids := by simp
  filled := by simp

theorem Cut.trans (h : acc.Cut given batches acc') (h' : acc'.Cut given' batches' acc'') :
    acc.Cut (given ++ given') (batches ++ batches') acc'' where
  records := by
    rw [← List.append_assoc, h.records, List.append_assoc, h'.records, List.flatMap_append,
      List.append_assoc]
  ids := by rw [List.map_append, ← List.append_assoc, h.ids, h'.ids]
  filled := by
    intro b hb
    rcases List.mem_append.mp hb with hb | hb
    · exact h.filled b hb
    · exact h'.filled b hb

theorem cut_take (h : acc.take now = (batch, acc')) : acc.Cut [] batch.toList acc' := by
  unfold take at h
  split at h
  · cases h
    exact ⟨by simp, by simp, by simp⟩
  · rename_i hne
    cases h
    exact ⟨by simp, by simp [List.range_succ], by simpa using hne⟩

/-- After taking nothing is left. -/
theorem records_take (h : acc.take now = (batch, acc')) : acc'.records = [] := by
  unfold take at h
  split at h
  · rename_i hempty
    cases h
    exact List.isEmpty_iff.mp hempty
  · cases h
    rfl

theorem cut_add (h : acc.add a now = (batch, acc')) : acc.Cut [a] batch.toList acc' := by
  unfold add at h
  dsimp only at h
  split at h
  · have hcut := cut_take h
    exact ⟨by simpa using hcut.records, hcut.ids, hcut.filled⟩
  · cases h
    exact ⟨by simp, by simp, by simp⟩

end Accumulator

/-! ### Counting -/

/-- **How counters move**: each event is counted once, and what the sink says of a
batch is about all of it. -/
structure WriterStats.Booked (s : WriterStats) (events : History α) (s' : WriterStats) : Prop where
  popped : s'.recordsPopped = s.recordsPopped + events.popped.length
  flushed : s'.batchesFlushed = s.batchesFlushed + events.accepted.length
  errors : s'.submitErrors = s.submitErrors + events.failed.length
  lost : s'.recordsLost = s.recordsLost + load events.failed
  settled : Balanced events → s'.recordsCommitted + s'.recordsFailed =
    s.recordsCommitted + s.recordsFailed + load events.accepted

namespace WriterStats

variable {s s' s'' : WriterStats} {p q : History α}

theorem Booked.refl (s : WriterStats) : s.Booked ([] : History α) s :=
  ⟨rfl, rfl, rfl, rfl, fun _ => rfl⟩

theorem Booked.trans (h : s.Booked p s') (h' : s'.Booked q s'') : s.Booked (p ++ q) s'' where
  popped := by rw [h'.popped, h.popped, popped_append, List.length_append, Nat.add_assoc]
  flushed := by rw [h'.flushed, h.flushed, accepted_append, List.length_append, Nat.add_assoc]
  errors := by rw [h'.errors, h.errors, failed_append, List.length_append, Nat.add_assoc]
  lost := by rw [h'.lost, h.lost, failed_append, load_append, Nat.add_assoc]
  settled := by
    intro hb
    rw [h'.settled hb.right, h.settled hb.left, accepted_append, load_append, Nat.add_assoc]

/-- Counting an answer of the sink. -/
theorem booked_submitted (s : WriterStats) (b : Batch α) (result : Except SinkError SubmitOutcome) :
    s.Booked [WriterEvent.returned b result] (s.submitted b.size result) := by
  cases result with
  | error e => exact ⟨rfl, rfl, rfl, by simp [WriterStats.submitted, failed], fun _ => rfl⟩
  | ok o =>
    refine ⟨rfl, rfl, rfl, rfl, fun hb => ?_⟩
    have htotal : o.succeeded + o.failed = b.size := hb b o (by simp)
    simp only [WriterStats.submitted, accepted, List.filterMap_cons, List.filterMap_nil,
      load_singleton]
    omega

end WriterStats

namespace Writer

variable {w w' w'' : Writer α} {next : WriterStep α} {steps : List (WriterStep α)}
  {events : History α} {i : Nat}

/-! ### Sound states -/

/-- **What holds of every state** that a start can come to. Slots are given out. Once
the loop knows that no record will come, none is left before it; once it has ended,
neither tasks are left nor does a counter move. There are workers. Batches are told
apart by their numbers, all of which have been given. -/
structure Sound (w : Writer α) : Prop where
  slots : w.slots.closed = false
  past : w.phase.isPast = true →
    (∀ place ∈ w.workers, place = .gone) ∧ w.pipe = [] ∧ w.accumulator.records = []
  ended : ∀ stats, w.phase = .finished stats → w.flushes = [] ∧ stats = w.stats
  staffed : w.workers ≠ []
  ids : ((w.sealed ++ w.underway).map Batch.id).Nodup
  below : ∀ b ∈ w.sealed ++ w.underway, b.id < w.accumulator.nextId

theorem sound_start (settings : Settings.Batching) (buffer : Buffer α) (cancelled : Bool) :
    (start settings buffer cancelled).Sound where
  slots := rfl
  past := by simp [start, Phase.isPast]
  ended := by simp [start]
  staffed := by simp [start, Settings.Batching.workers]
  ids := by simp [start, sealed, underway, Phase.sealed]
  below := by simp [start, sealed, underway, Phase.sealed]

/-- While a worker is not gone the loop does not know that no record will come. -/
theorem Sound.isPast_eq_false (hs : w.Sound) {place : Worker α}
    (h : w.workers[i]? = some place) (hne : place ≠ .gone) : w.phase.isPast = false := by
  by_contra hpast
  rw [Bool.not_eq_false] at hpast
  exact hne ((hs.past hpast).1 place (List.mem_of_getElem? h))

/-- While a worker looks at the buffer the loop does not know that no record will come. -/
theorem Sound.isPast_of_look? (hs : w.Sound) {seen : Pop α × Buffer α}
    (h : w.look? i = some seen) : w.phase.isPast = false := by
  rcases place_of_look? h with place | place
  · exact hs.isPast_eq_false place (by simp)
  · exact hs.isPast_eq_false place (by simp)

/-- A worker with a record in hand finds the pipe. -/
theorem Sound.hasPipe (hs : w.Sound) {a : α} (h : w.workers[i]? = some (.holding a)) :
    w.hasPipe = true := by
  have hpast := hs.isPast_eq_false h (by simp)
  unfold Writer.hasPipe
  split
  · rename_i hphase
    simp [hphase, Phase.isPast] at hpast
  · rfl

/-- No two tasks have the same number. -/
theorem Sound.nodup_flushes (hs : w.Sound) : (w.flushes.map fun f => f.batch.id).Nodup := by
  have hsub := hs.ids.sublist ((List.sublist_append_right w.sealed w.underway).map Batch.id)
  simpa [underway, Function.comp_def] using hsub

/-- The task of a number is the only one of its number. -/
theorem Sound.flushes_perm (hs : w.Sound) {id : Nat} {f : Flush α} (h : w.flush? id = some f) :
    w.flushes.Perm (f :: w.flushes.filter fun g => g.batch.id ≠ id) := by
  have hid : f.batch.id = id := by simpa using List.find?_some h
  simpa [hid] using ListFacts.perm_cons_filter_ne (fun g : Flush α => g.batch.id)
    (List.mem_of_find?_eq_some h) hs.nodup_flushes

/-- When a task submits its batch, only this task changes. -/
theorem Sound.submitted_perm (hs : w.Sound) {id : Nat} {b : Batch α} {since : Option Nat}
    (h : w.flush? id = some ⟨b, since⟩) :
    (w.flushes.map fun f => if f.batch.id = id then ⟨f.batch, some w.now⟩ else f).Perm
      (⟨b, some w.now⟩ :: w.flushes.filter fun g => g.batch.id ≠ id) := by
  have hid : b.id = id := by simpa using List.find?_some h
  have hothers : ∀ f ∈ w.flushes.filter fun f => f.batch.id ≠ id,
      (if f.batch.id = id then ⟨f.batch, some w.now⟩ else f : Flush α) = f := by
    intro f hf
    rw [if_neg (by simpa using (List.mem_filter.mp hf).2)]
  have hall := (hs.flushes_perm h).map fun f =>
    if f.batch.id = id then ⟨f.batch, some w.now⟩ else f
  rw [List.map_cons, List.map_congr_left hothers, List.map_id', if_pos hid] at hall
  exact hall

/-- A task that there is is found by its number. -/
theorem Sound.flush?_eq (hs : w.Sound) {f : Flush α} (hf : f ∈ w.flushes) :
    w.flush? f.batch.id = some f := by
  cases hfound : w.flush? f.batch.id with
  | none =>
    have hnone := List.find?_eq_none.mp hfound f hf
    simp at hnone
  | some g =>
    have hid : g.batch.id = f.batch.id := by simpa using List.find?_some hfound
    rw [List.inj_on_of_nodup_map hs.nodup_flushes (List.mem_of_find?_eq_some hfound) hf hid]

/-! ### What a move keeps -/

/-- **The buffer is a queue**: what is taken from it are its records, the oldest
first. -/
theorem Move.buffer_eq (h : Move w next w' events) :
    w.buffer.records ++ pushed events = popped events ++ w'.buffer.records := by
  cases h with
  | pop hc look => simp [pushed, popped, setWorker, (look?_record look).1]
  | leave hc look =>
    simp [pushed, popped, setWorker, (look?_closed look).1, (look?_closed look).2.2.1]
  | wait hc look =>
    simp [pushed, popped, setWorker, (look?_waiting look).1, (look?_waiting look).2.2.1]
  | push accepted => simp [pushed, popped, (Buffer.push_ok accepted).2.1]
  | receive | drained | tick => simp [pushed, popped, List.filterMap_map]
  | _ => simp [pushed, popped, setWorker, Buffer.cancelPop, Buffer.close]

/-- A worker that goes from one place to another: what it had in hand and took is in the
pipe or in its hand. -/
theorem same_of_worker {old new : Worker α} {put : List α} (place : w.workers[i]? = some old)
    (hworkers : w'.workers = w.workers.set i new) (hpipe : w'.pipe = w.pipe ++ put)
    (hhand : old.held ++ popped events = put ++ new.held) (hreceived : received events = []) :
    ListFacts.Same (w.workers.length = 1) (w.pipe ++ w.held ++ popped events)
      (received events ++ (w'.pipe ++ w'.held)) := by
  rw [hreceived, List.nil_append, held, held, hworkers, hpipe]
  exact ListFacts.same_of_set Worker.held place hhand

/-- **Between the buffer and the loop** each record is with a worker or in the pipe, and a
worker that is alone keeps their order. -/
theorem Move.pipe_same (hs : w.Sound) (h : Move w next w' events) :
    ListFacts.Same (w.workers.length = 1) (w.pipe ++ w.held ++ popped events)
      (received events ++ (w'.pipe ++ w'.held)) := by
  cases h with
  | quit place | abandon place | dismiss place =>
    exact same_of_worker place rfl (List.append_nil _).symm rfl rfl
  | pop hc look | leave hc look | wait hc look =>
    rcases place_of_look? look with place | place
    · exact same_of_worker place rfl (List.append_nil _).symm rfl rfl
    · exact same_of_worker place rfl (List.append_nil _).symm rfl rfl
  | handOver place => exact same_of_worker place rfl rfl rfl rfl
  | giveUp place hp => exact absurd (hs.hasPipe place) (by simp [hp])
  | receive phase hpipe =>
    exact .of_eq (by simp [popped, received, held, hpipe, List.filterMap_map])
  | drained | tick => exact .of_eq (by simp [popped, received, held, List.filterMap_map])
  | _ => exact .of_eq (by simp [popped, received, held])

/-- **Records are cut into batches** in the order in which the loop received them. -/
theorem Move.cut (h : Move w next w' events) :
    w.accumulator.Cut (received events) (collected events) w'.accumulator := by
  cases h with
  | receive phase hpipe hadd =>
    simpa [received, collected, List.filterMap_map, Function.comp_def] using
      Accumulator.cut_add hadd
  | drained phase hpipe hgone htake =>
    simpa [received, collected, List.filterMap_map, Function.comp_def] using
      Accumulator.cut_take htake
  | tick phase due htake =>
    simpa [received, collected, List.filterMap_map, Function.comp_def] using
      Accumulator.cut_take htake
  | _ => exact .refl _

/-- **Between the loop and the sink** each batch waits for a slot or has a task. -/
theorem Move.tasks_perm (hs : w.Sound) (h : Move w next w' events) :
    (collected events ++ (w.sealed ++ w.underway)).Perm
      (w'.sealed ++ w'.underway ++ returned events) := by
  cases h with
  | receive phase | drained phase | tick phase =>
    simp [collected, returned, sealed, underway, phase, List.filterMap_map]
  | @dispatch b last phase =>
    simpa [collected, returned, sealed, underway, phase] using
      (List.perm_append_singleton b w.underway).symm
  | giveUpBatch phase slots => exact absurd hs.slots (by simp [slots])
  | finish phase => simp [collected, returned, sealed, underway, phase]
  | submit task =>
    simp [collected, returned, sealed, underway, Function.comp_def, apply_ite Flush.batch]
  | @settle id b since result task =>
    have htasks : w.underway.Perm
        (b :: (w.flushes.filter fun f => f.batch.id ≠ id).map (·.batch)) :=
      (hs.flushes_perm task).map _
    simpa [collected, returned, sealed, underway] using
      (htasks.trans (List.perm_append_singleton b _).symm).append_left w.sealed
  | _ => simp [collected, returned, sealed, underway, setWorker]

/-- **At the sink** each batch that was submitted is being submitted until its
submission is over. -/
theorem Move.submissions_perm (hs : w.Sound) (h : Move w next w' events) :
    (submitted events ++ w.inSubmission).Perm (w'.inSubmission ++ returned events) := by
  cases h with
  | receive | drained | tick =>
    simp [submitted, returned, inSubmission, List.filterMap_map]
  | dispatch => simp [submitted, returned, inSubmission]
  | @submit id b task =>
    have hbefore := ((hs.flushes_perm task).filter (·.since.isSome)).map (·.batch)
    have hafter := ((hs.submitted_perm task).filter (·.since.isSome)).map (·.batch)
    simp only [Option.isSome_none, Bool.false_eq_true, not_false_eq_true,
      List.filter_cons_of_neg, Option.isSome_some, List.filter_cons_of_pos, List.map_cons]
      at hbefore hafter
    simpa [submitted, returned, inSubmission] using (hbefore.cons b).trans hafter.symm
  | @settle id b since result task =>
    have hbefore := ((hs.flushes_perm task).filter (·.since.isSome)).map (·.batch)
    simp only [Option.isSome_some, List.filter_cons_of_pos, List.map_cons] at hbefore
    simpa [submitted, returned, inSubmission] using
      hbefore.trans (List.perm_append_singleton b _).symm
  | _ => simp [submitted, returned, inSubmission, setWorker]

/-- **Counters follow the events.** -/
theorem Move.booked (hs : w.Sound) (h : Move w next w' events) :
    w.stats.Booked events w'.stats := by
  cases h with
  | pop => exact ⟨rfl, rfl, rfl, rfl, fun _ => rfl⟩
  | popFails => exact ⟨rfl, rfl, rfl, rfl, fun _ => rfl⟩
  | giveUp place hp => exact absurd (hs.hasPipe place) (by simp [hp])
  | giveUpBatch phase slots => exact absurd hs.slots (by simp [slots])
  | settle => exact WriterStats.booked_submitted _ _ _
  | receive | drained | tick =>
    constructor <;> simp [popped, accepted, failed, load, List.filterMap_map]
  | _ => exact ⟨rfl, rfl, rfl, rfl, fun _ => rfl⟩

/-- Nothing is given up without a submission. -/
theorem Move.discarded_eq_nil (hs : w.Sound) (h : Move w next w' events) :
    discarded events = [] := by
  cases h with
  | giveUp place hp => exact absurd (hs.hasPipe place) (by simp [hp])
  | giveUpBatch phase slots => exact absurd hs.slots (by simp [slots])
  | receive | drained | tick => simp [discarded, List.flatMap_map]
  | _ => rfl

/-- No worker comes or goes for good. -/
theorem Move.length_workers (h : Move w next w' events) :
    w'.workers.length = w.workers.length := by
  cases h <;> simp [setWorker]

/-! ### Moves from sound states -/

theorem gone_of_allGone (h : w.allGone = true) : ∀ place ∈ w.workers, place = .gone := by
  intro place hplace
  have hgone := List.all_eq_true.mp h place hplace
  cases place <;> simp_all

theorem Move.past (hs : w.Sound) (h : Move w next w' events) (hpast : w'.phase.isPast = true) :
    (∀ place ∈ w'.workers, place = .gone) ∧ w'.pipe = [] ∧ w'.accumulator.records = [] := by
  cases h with
  | quit place | abandon place | dismiss place | handOver place | giveUp place =>
    exact absurd hpast (by simp [setWorker, hs.isPast_eq_false place])
  | pop hc look | leave hc look | wait hc look =>
    exact absurd hpast (by simp [setWorker, hs.isPast_of_look? look])
  | receive | tick => simp at hpast
  | drained phase hpipe hgone htake =>
    exact ⟨gone_of_allGone hgone, hpipe, Accumulator.records_take htake⟩
  | dispatch phase | giveUpBatch phase =>
    rw [Phase.isPast_after] at hpast
    exact hs.past (by rw [phase, hpast]; rfl)
  | finish phase => exact hs.past (by rw [phase]; rfl)
  | _ => exact hs.past hpast

theorem Move.ended (hs : w.Sound) (h : Move w next w' events) {stats : WriterStats}
    (hended : w'.phase = .finished stats) : w'.flushes = [] ∧ stats = w'.stats := by
  have hpast : w'.phase.isPast = true := by rw [hended]; rfl
  cases h with
  | quit place | abandon place | popFails place | dismiss place | handOver place
  | giveUp place =>
    exact absurd hpast (by simp [setWorker, hs.isPast_eq_false place])
  | pop hc look | leave hc look | wait hc look =>
    exact absurd hpast (by simp [setWorker, hs.isPast_of_look? look])
  | receive | tick => simp at hpast
  | @drained batch => cases batch <;> simp at hended
  | @dispatch b last | @giveUpBatch b last => cases last <;> simp at hended
  | finish phase hgone idle => exact ⟨idle, by simpa using hended.symm⟩
  | submit task | settle task => simp [flush?, (hs.ended _ hended).1] at task
  | _ => exact hs.ended _ hended

theorem Move.ids (hs : w.Sound) (h : Move w next w' events) :
    ((w'.sealed ++ w'.underway).map Batch.id).Nodup ∧
      ∀ b ∈ w'.sealed ++ w'.underway, b.id < w'.accumulator.nextId := by
  have hperm := h.tasks_perm hs
  -- A batch that is made gets a number that none before it had.
  have hrange := h.cut.ids
  have hnew : (List.range w.accumulator.nextId ++ (collected events).map Batch.id).Nodup := by
    rw [hrange]
    exact List.nodup_range
  obtain ⟨_, hnodup, hdisjoint⟩ := List.nodup_append'.mp hnew
  have hall : ((collected events ++ (w.sealed ++ w.underway)).map Batch.id).Nodup := by
    rw [List.map_append]
    refine hnodup.append hs.ids ?_
    intro id hcollected hold
    obtain ⟨b, hb, rfl⟩ := List.mem_map.mp hold
    exact hdisjoint (List.mem_range.mpr (hs.below b hb)) hcollected
  refine ⟨((hperm.map _).nodup_iff.mp hall).sublist
    ((List.sublist_append_left _ _).map _), ?_⟩
  intro b hb
  rw [← List.mem_range, ← hrange]
  rcases List.mem_append.mp (hperm.mem_iff.mpr (List.mem_append_left _ hb)) with hb | hb
  · exact List.mem_append_right _ (List.mem_map_of_mem hb)
  · exact List.mem_append_left _ (List.mem_range.mpr (hs.below b hb))

/-- **Moves keep soundness.** -/
theorem Sound.move (hs : w.Sound) (h : Move w next w' events) : w'.Sound where
  slots := by cases h <;> exact hs.slots
  past := h.past hs
  ended := fun _ => h.ended hs
  staffed := by cases h <;> simpa [setWorker] using hs.staffed
  ids := (h.ids hs).1
  below := (h.ids hs).2

/-! ### Runs from sound states -/

/-- **What passes between two states** of a run with these events: what was in one
place before, or came there, went on to the next place or is still there. -/
structure Passed (w : Writer α) (events : History α) (w' : Writer α) : Prop where
  crew : w'.workers.length = w.workers.length
  buffer : w.buffer.records ++ pushed events = popped events ++ w'.buffer.records
  pipe : ListFacts.Same (w.workers.length = 1) (w.pipe ++ w.held ++ popped events)
    (received events ++ (w'.pipe ++ w'.held))
  cut : w.accumulator.Cut (received events) (collected events) w'.accumulator
  tasks : (collected events ++ (w.sealed ++ w.underway)).Perm
    (w'.sealed ++ w'.underway ++ returned events)
  submissions : (submitted events ++ w.inSubmission).Perm (w'.inSubmission ++ returned events)
  booked : w.stats.Booked events w'.stats
  discarded : discarded events = []

theorem Passed.refl (w : Writer α) : w.Passed [] w where
  crew := rfl
  buffer := by simp [pushed, popped]
  pipe := .of_eq (by simp [popped, received])
  cut := .refl _
  tasks := by simp [collected, returned]
  submissions := by simp [submitted, returned]
  booked := .refl _
  discarded := rfl

theorem Passed.trans {p q : History α} (h : w.Passed p w') (h' : w'.Passed q w'') :
    w.Passed (p ++ q) w'' where
  crew := h'.crew.trans h.crew
  buffer := by
    rw [pushed_append, ← List.append_assoc, h.buffer, List.append_assoc, h'.buffer,
      popped_append, List.append_assoc]
  pipe := by
    have hrest := h'.pipe
    rw [h.crew] at hrest
    -- What is taken in the second run stands behind what the first one left.
    rw [popped_append, received_append, ← List.append_assoc, List.append_assoc (received p)]
    refine (h.pipe.append_right _).trans ?_
    rw [List.append_assoc]
    exact hrest.append_left _
  cut := by simpa using h.cut.trans h'.cut
  tasks := by simpa using ListFacts.perm_append_trans h.tasks h'.tasks
  submissions := by simpa using ListFacts.perm_append_trans h.submissions h'.submissions
  booked := h.booked.trans h'.booked
  discarded := by rw [discarded_append, h.discarded, h'.discarded, List.append_nil]

theorem Move.passed (hs : w.Sound) (h : Move w next w' events) : w.Passed events w' where
  crew := h.length_workers
  buffer := h.buffer_eq
  pipe := h.pipe_same hs
  cut := h.cut
  tasks := h.tasks_perm hs
  submissions := h.submissions_perm hs
  booked := h.booked hs
  discarded := h.discarded_eq_nil hs

/-- From a sound state runs lead to sound states, and nothing is lost on the way. -/
theorem passed_of_run (hs : w.Sound) (h : w.run steps = some (w', events)) :
    w'.Sound ∧ w.Passed events w' :=
  run_induction (motive := fun past v => v.Sound ∧ w.Passed past v)
    (fun ⟨hsound, hpassed⟩ hmove => ⟨hsound.move hmove, hpassed.trans (hmove.passed hsound)⟩)
    ⟨hs, .refl w⟩ h

/-- **The ledger of a run** that begins with a writer that starts on a buffer: where all
records and batches are. -/
structure Ledger (buffer : Buffer α) (events : History α) (w : Writer α) : Prop where
  sound : w.Sound
  buffer : buffer.records ++ pushed events = popped events ++ w.buffer.records
  pipe : ListFacts.Same (w.workers.length = 1) (popped events) (received events ++ (w.pipe ++ w.held))
  records : received events = (collected events).flatMap Batch.records ++ w.accumulator.records
  ids : (collected events).map Batch.id = List.range w.accumulator.nextId
  filled : ∀ b ∈ collected events, b.records ≠ []
  tasks : (collected events).Perm (w.sealed ++ w.underway ++ returned events)
  submissions : (submitted events).Perm (w.inSubmission ++ returned events)
  booked : WriterStats.Booked {} events w.stats
  discarded : discarded events = []

theorem ledger_of_run {settings : Settings.Batching} {buffer : Buffer α} {cancelled : Bool}
    (h : (start settings buffer cancelled).run steps = some (w, events)) :
    w.Ledger buffer events := by
  obtain ⟨hsound, hpassed⟩ := passed_of_run (sound_start settings buffer cancelled) h
  have hhand : (start settings buffer cancelled).pipe ++ (start settings buffer cancelled).held
      = [] := by simp [start, held, Worker.held]
  refine ⟨hsound, hpassed.buffer, ?_, ?_, ?_, hpassed.cut.filled, ?_, ?_, hpassed.booked,
    hpassed.discarded⟩
  · have hpipe := hpassed.pipe
    rw [hhand, List.nil_append, ← hpassed.crew] at hpipe
    exact hpipe
  · simpa [start, Accumulator.start] using hpassed.cut.records
  · simpa [start, Accumulator.start] using hpassed.cut.ids
  · simpa [start, sealed, underway] using hpassed.tasks
  · simpa [start, inSubmission] using hpassed.submissions

/-! ### The end of a run -/

/-- **Once the writer has ended nothing is in hand**, and the final counts are those of
its counters. -/
structure Idle (w : Writer α) : Prop where
  gone : ∀ place ∈ w.workers, place = .gone
  held : w.held = []
  pipe : w.pipe = []
  records : w.accumulator.records = []
  sealed : w.sealed = []
  underway : w.underway = []
  inSubmission : w.inSubmission = []

/-- The final counts are there when the loop has ended. -/
theorem final?_eq_some_iff {stats : WriterStats} :
    w.final? = some stats ↔ w.phase = .finished stats := by
  unfold final?
  split <;> simp_all

/-- Once the loop has handed over its last batch and the last task has ended, nothing is in
hand. -/
theorem Sound.idle (hs : w.Sound) (hpast : w.phase.isPast = true) (hsealed : w.sealed = [])
    (hflushes : w.flushes = []) : w.Idle := by
  obtain ⟨hgone, hpipe, hrecords⟩ := hs.past hpast
  refine ⟨hgone, ?_, hpipe, hrecords, hsealed, by simp [Writer.underway, hflushes],
    by simp [Writer.inSubmission, hflushes]⟩
  rw [Writer.held, List.flatMap_eq_nil_iff]
  intro place hplace
  rw [hgone place hplace]
  rfl

theorem Sound.final (hs : w.Sound) {stats : WriterStats} (h : w.final? = some stats) :
    w.Idle ∧ stats = w.stats := by
  have hphase := final?_eq_some_iff.mp h
  obtain ⟨hflushes, hstats⟩ := hs.ended stats hphase
  exact ⟨hs.idle (by rw [hphase]; rfl) (by rw [Writer.sealed, hphase]; rfl) hflushes, hstats⟩

/-- While a batch has a task the writer has not ended. -/
theorem Sound.final?_eq_none (hs : w.Sound) {id : Nat} {f : Flush α} (h : w.flush? id = some f) :
    w.final? = none := by
  cases hfinal : w.final? with
  | none => rfl
  | some stats =>
    have hidle := (hs.ended stats (final?_eq_some_iff.mp hfinal)).1
    simp [flush?, hidle] at h

/-- The sink is closed by the move that ends the writer, and by no other. -/
theorem Move.isSome_final? (h : Move w next w' events) :
    w'.final?.isSome = (w.final?.isSome || isClosed events) := by
  cases h with
  | receive phase =>
    rename_i batch _ _ _
    cases batch <;> simp [final?, phase, isClosed]
  | drained phase =>
    rename_i batch _ _ _ _
    cases batch <;> simp [final?, phase, isClosed]
  | tick phase =>
    rename_i batch _ _ _
    cases batch <;> simp [final?, phase, isClosed]
  | @dispatch b last phase | @giveUpBatch b last phase =>
    cases last <;> simp [final?, phase, isClosed]
  | finish phase => simp [final?, isClosed]
  | _ => simp [final?, isClosed, setWorker]

/-- **The sink is closed** just when the writer has ended. -/
theorem isSome_final?_of_run {settings : Settings.Batching} {buffer : Buffer α} {cancelled : Bool}
    (h : (start settings buffer cancelled).run steps = some (w, events)) :
    w.final?.isSome = isClosed events :=
  run_induction (motive := fun past v => v.final?.isSome = isClosed past)
    (fun hpast hmove => by rw [hmove.isSome_final?, hpast, isClosed_append]) rfl h

/-! ### Runs that nobody cuts short -/

/-- **What holds while nobody cuts a run short**: a worker is gone only if the buffer is
closed and has nothing left. -/
structure Undisturbed (w : Writer α) : Prop where
  cancelled : w.cancelled = false
  exits : .gone ∈ w.workers → w.buffer.closed = true ∧ w.buffer.records = []

theorem undisturbed_start (settings : Settings.Batching) (buffer : Buffer α) :
    (start settings buffer false).Undisturbed where
  cancelled := rfl
  exits := by simp [start]

/-- A worker that stays leaves those that are gone as they were. -/
theorem gone_mem_of_set {place : Worker α} (h : .gone ∈ w.workers.set i place)
    (hne : place ≠ .gone) : .gone ∈ w.workers := by
  rcases List.mem_or_eq_of_mem_set h with hmem | heq
  · exact hmem
  · exact absurd heq.symm hne

/-- **Moves cut no run short**, apart from cancelling and from a pop that says that the
buffer is closed when it need not be. -/
theorem Undisturbed.move (hu : w.Undisturbed) (hs : w.Sound) (h : Move w next w' events)
    (hcancel : next ≠ .cancel) (hfault : ∀ i, next ≠ .work i (some .closed)) :
    w'.Undisturbed := by
  obtain ⟨hc, hexits⟩ := hu
  cases h with
  | quit place hc' | abandon place hc' => simp [hc] at hc'
  | dismiss => exact absurd rfl (hfault _)
  | pop hc' look =>
    refine ⟨hc, fun hgone => ?_⟩
    have hempty := (hexits (gone_mem_of_set hgone (by simp))).2
    simp [(look?_record look).1] at hempty
  | leave hc' look =>
    obtain ⟨_, _, hempty, hclosed⟩ := look?_closed look
    exact ⟨hc, fun _ => ⟨hclosed, hempty⟩⟩
  | wait hc' look =>
    refine ⟨hc, fun hgone => ?_⟩
    have hclosed := (hexits (gone_mem_of_set hgone (by simp))).1
    simp [(look?_waiting look).2.1] at hclosed
  | handOver => exact ⟨hc, fun hgone => hexits (gone_mem_of_set hgone (by simp))⟩
  | giveUp place hp => exact absurd (hs.hasPipe place) (by simp [hp])
  | push accepted =>
    refine ⟨hc, fun hgone => ?_⟩
    have hclosed := (hexits hgone).1
    simp [(Buffer.push_ok accepted).1] at hclosed
  | closeBuffer => exact ⟨hc, fun hgone => ⟨rfl, (hexits hgone).2⟩⟩
  | cancel => exact absurd rfl hcancel
  | _ => exact ⟨hc, hexits⟩

theorem undisturbed_of_run (hs : w.Sound) (hu : w.Undisturbed)
    (h : w.run steps = some (w', events)) (hcancel : .cancel ∉ steps)
    (hfault : ∀ i, .work i (some .closed) ∉ steps) : w'.Undisturbed := by
  induction steps generalizing w events with
  | nil =>
    cases h
    exact hu
  | cons next steps ih =>
    obtain ⟨between, first, rest, hstep, hrest, rfl⟩ := Steps.of_run_cons h
    have hmove := move_of_step hstep
    simp only [List.mem_cons, not_or] at hcancel hfault
    have hbetween := hu.move hs hmove (Ne.symm hcancel.1) fun i => Ne.symm (hfault i).1
    exact ih (hs.move hmove) hbetween hrest hcancel.2 fun i => (hfault i).2

/-- A writer that ends and was not cut short leaves a closed buffer with nothing in
it. -/
theorem Undisturbed.buffer_of_final (hu : w.Undisturbed) (hs : w.Sound) {stats : WriterStats}
    (h : w.final? = some stats) : w.buffer.closed = true ∧ w.buffer.records = [] := by
  obtain ⟨place, hplace⟩ := List.exists_mem_of_ne_nil _ hs.staffed
  exact hu.exits ((hs.final h).1.gone place hplace ▸ hplace)

end Writer

end MetricIngest
