/-
  A writer that is shut down comes to its end.

  `ends_once_shut_down` is about a writer that is cancelled or whose buffer is closed. It is
  put together from two parts. Nobody is stuck (`exists_step_of_shutDown`): the loop waits
  for workers or for a slot only while a worker or a task can go on, because a worker that
  waits for a record has been woken (`Heard`). And there is an end to it: each effort brings
  `Writer.remaining` down, and no step brings it up (`Move.remaining_le`).
-/
import MetricIngest.Proofs.Buffer.Wakeups
import MetricIngest.Proofs.Writer.Bounds
import MetricIngest.Writer.Progress

namespace MetricIngest

open History

variable {α : Type}

/-! ### Who waits for a record is woken -/

namespace Notifier

variable {n : Notifier} {i j : Nat}

theorem isWoken_signal (h : n.isWoken j = true) : n.signal.isWoken j = true := by
  rw [isWoken_iff] at h ⊢
  unfold signal
  split
  · exact h
  · simp [List.mem_map.mp h]

theorem isWoken_acknowledge (hne : j ≠ i) (h : n.isWoken j = true) :
    (n.acknowledge i).isWoken j = true := by
  rw [isWoken_iff, map_woken_acknowledge, List.mem_filter]
  exact ⟨isWoken_iff.mp h, by simpa using hne⟩

theorem isWoken_leave (hne : j ≠ i) (h : n.isWoken j = true) : (n.leave i).isWoken j = true :=
  leave_induction (motive := (·.isWoken j = true)) isWoken_signal (isWoken_acknowledge hne h)

theorem mem_present_acknowledge (hne : j ≠ i) (h : j ∈ n.present) :
    j ∈ (n.acknowledge i).present := by
  rw [present, List.mem_append] at h ⊢
  rw [map_woken_acknowledge, List.mem_filter]
  exact h.imp_left fun h => ⟨h, by simpa using hne⟩

end Notifier

namespace Buffer

variable {b b' : Buffer α} {i j : Nat} {a : α} {pop : Pop α}

/-- Whether a buffer has a pop in mind: it waits or was woken, and was woken if the buffer
is closed. -/
def Minds (b : Buffer α) (id : Nat) : Prop :=
  id ∈ b.notifier.present ∧ (b.closed = true → b.notifier.isWoken id = true)

theorem Minds.push (h : b.Minds j) (hpush : b.push a = .ok b') : b'.Minds j := by
  have hopen := (push_ok hpush).1
  simp only [Buffer.push, hopen, Bool.false_eq_true, ↓reduceIte, Except.ok.injEq] at hpush
  subst hpush
  exact ⟨by simpa using h.1, fun hclosed => by simp at hclosed⟩

/-- A buffer that is closed wakes all who wait. -/
theorem Minds.close (h : b.Minds j) : b.close.Minds j := by
  have hpresent : j ∈ b.notifier.signalAll.present := by simpa using h.1
  refine ⟨hpresent, fun _ => ?_⟩
  rw [Notifier.present, List.mem_append] at hpresent
  exact Notifier.isWoken_iff.mpr (hpresent.resolve_right List.not_mem_nil)

/-- A pop that is abandoned leaves the others. -/
theorem Minds.cancelPop (h : b.Minds j) (hne : j ≠ i) : (b.cancelPop i).Minds j := by
  refine ⟨?_, fun hclosed => Notifier.isWoken_leave hne (h.2 hclosed)⟩
  simp only [Buffer.cancelPop, Notifier.present_leave, List.mem_filter]
  exact ⟨h.1, by simpa using hne⟩

/-- A look leaves the others. -/
theorem Minds.beginPop (h : b.Minds j) (hpop : b.beginPop i = (pop, b')) : b'.Minds j := by
  obtain ⟨hpresent, hwoken⟩ := h
  unfold Buffer.beginPop at hpop
  dsimp only at hpop
  split at hpop
  · cases hpop
    exact ⟨hpresent, hwoken⟩
  · split at hpop
    · cases hpop
      exact ⟨hpresent, hwoken⟩
    · cases hpop
      refine ⟨?_, hwoken⟩
      rw [Notifier.present_enter, List.mem_append]
      exact Or.inl hpresent

/-- A pop that waits stands in the line of an open buffer. -/
theorem minds_of_waiting (hpop : b.beginPop i = (.waiting, b')) : b'.Minds i := by
  have hopen := (beginPop_waiting hpop).2.1
  unfold Buffer.beginPop at hpop
  dsimp only at hpop
  split at hpop
  · cases hpop
  · split at hpop
    · cases hpop
    · cases hpop
      exact ⟨by simp, fun hclosed => by simp [hopen] at hclosed⟩

end Buffer

namespace Writer

variable {settings : Settings.Batching} {buffer : Buffer α} {cancelled : Bool}
  {w w' : Writer α} {next : WriterStep α} {steps : List (WriterStep α)} {events : History α}
  {i j : Nat} {fault : Option BufferError}

theorem minds_of_look? {pop : Pop α} {b : Buffer α} (h : w.look? i = some (pop, b))
    (hne : j ≠ i) (hj : w.buffer.Minds j) : b.Minds j := by
  unfold look? at h
  split at h
  · exact hj.beginPop (Option.some.inj h)
  · split at h
    · have hleft : ({ w.buffer with notifier := w.buffer.notifier.acknowledge i }).Minds j :=
        ⟨Notifier.mem_present_acknowledge hne hj.1,
          fun hclosed => Notifier.isWoken_acknowledge hne (hj.2 hclosed)⟩
      exact hleft.beginPop (Option.some.inj h)
    · cases h
  · cases h

theorem minds_of_look?_waiting {b : Buffer α} (h : w.look? i = some (.waiting, b)) :
    b.Minds i := by
  unfold look? at h
  split at h
  · exact Buffer.minds_of_waiting (Option.some.inj h)
  · split at h
    · exact Buffer.minds_of_waiting (Option.some.inj h)
    · cases h
  · cases h

/-- **The buffer has all workers in mind** that wait. -/
def Heard (w : Writer α) : Prop := ∀ i, w.workers[i]? = some .waiting → w.buffer.Minds i

theorem heard_start (settings : Settings.Batching) (buffer : Buffer α) (cancelled : Bool) :
    (start settings buffer cancelled).Heard := by
  intro i hi
  have hmem := List.mem_of_getElem? hi
  simp [start] at hmem

/-- A worker that does not come to wait, and a buffer that keeps the others in mind. -/
theorem Heard.set (hh : w.Heard) {place : Worker α} (hworkers : w'.workers = w.workers.set i place)
    (hothers : ∀ j, j ≠ i → w.buffer.Minds j → w'.buffer.Minds j)
    (hplace : place = .waiting → w'.buffer.Minds i) : w'.Heard := by
  intro j hj
  rw [hworkers] at hj
  by_cases hne : j = i
  · subst hne
    simp only [List.getElem?_set, ↓reduceIte] at hj
    split at hj
    · exact hplace (Option.some.inj hj)
    · cases hj
  · rw [List.getElem?_set_ne (Ne.symm hne)] at hj
    exact hothers j hne (hh j hj)

theorem Heard.move (hh : w.Heard) (h : Move w next w' events) : w'.Heard := by
  cases h with
  | quit | dismiss | handOver | giveUp => exact hh.set rfl (fun _ _ hj => hj) (by simp)
  | abandon => exact hh.set rfl (fun _ hne hj => hj.cancelPop hne) (by simp)
  | pop hc look | leave hc look =>
    exact hh.set rfl (fun _ hne hj => minds_of_look? look hne hj) (by simp)
  | wait hc look =>
    exact hh.set rfl (fun _ hne hj => minds_of_look? look hne hj)
      fun _ => minds_of_look?_waiting look
  | push accepted => exact fun i hi => (hh i hi).push accepted
  | closeBuffer => exact fun i hi => (hh i hi).close
  | _ => exact hh

theorem heard_of_run (h : (start settings buffer cancelled).run steps = some (w, events)) :
    w.Heard :=
  run_induction (motive := fun _ v => v.Heard) (fun hh hmove => hh.move hmove)
    (heard_start settings buffer cancelled) h

/-! ### Nobody is stuck -/

/-- A worker that is ready can go on. -/
theorem isSome_work_of_ready (place : w.workers[i]? = some .ready) :
    (w.step (.work i none)).isSome := by
  by_cases hc : w.cancelled = true
  · simp [step, work, place, hc]
  · simp [step, work, place, hc]

/-- A worker that waits can go on once the writer is shut down. -/
theorem isSome_work_of_waiting (hh : w.Heard) (hshut : w.ShutDown)
    (place : w.workers[i]? = some .waiting) : (w.step (.work i none)).isSome := by
  by_cases hc : w.cancelled = true
  · simp [step, work, place, hc]
  · have hwoken := (hh i place).2 (hshut.resolve_left hc)
    simp [step, work, place, hc, hwoken]

/-- A worker with a record in hand can go on when the pipe is empty. -/
theorem isSome_work_of_holding {a : α} (hpipe : w.pipe = [])
    (place : w.workers[i]? = some (.holding a)) : (w.step (.work i none)).isSome := by
  have hroom : 0 < w.settings.pipeCapacity := by
    simp only [Settings.Batching.pipeCapacity, Settings.clamp]
    omega
  by_cases hp : w.hasPipe = true
  · simp [step, work, place, hp, hpipe, hroom]
  · simp [step, work, place, hp]

/-- **As long as a worker is not gone**, one can go on when the pipe is empty. -/
theorem exists_work_of_allGone (hh : w.Heard) (hshut : w.ShutDown) (hpipe : w.pipe = [])
    (hstaying : ¬ w.allGone = true) : ∃ i, (w.step (.work i none)).isSome := by
  obtain ⟨place, hmem, hplace⟩ : ∃ place ∈ w.workers, place ≠ .gone := by
    by_contra hnone
    push Not at hnone
    exact hstaying (List.all_eq_true.mpr fun place hmem => by rw [hnone place hmem])
  obtain ⟨i, hi⟩ := List.mem_iff_getElem?.mp hmem
  cases place with
  | ready => exact ⟨i, isSome_work_of_ready hi⟩
  | waiting => exact ⟨i, isSome_work_of_waiting hh hshut hi⟩
  | holding a => exact ⟨i, isSome_work_of_holding hpipe hi⟩
  | gone => exact absurd rfl hplace

/-- **As long as there is a task**, one can go on or waits for the sink. -/
theorem exists_submit_of_flushes (hs : w.Sound) (hne : w.flushes ≠ []) :
    (∃ id, (w.step (.submit id)).isSome) ∨ w.inSubmission ≠ [] := by
  obtain ⟨⟨b, since⟩, hf⟩ := List.exists_mem_of_ne_nil _ hne
  have htask := hs.flush?_eq hf
  cases since with
  | none => exact Or.inl ⟨b.id, by simp [step, submit, htask]⟩
  | some t =>
    refine Or.inr (List.ne_nil_of_mem (a := b) ?_)
    exact List.mem_map.mpr ⟨_, List.mem_filter.mpr ⟨hf, rfl⟩, rfl⟩

/-- **Nobody is stuck**: a writer that is shut down and has not ended can go on, or waits for
its sink. -/
theorem exists_step_of_shutDown (hs : w.Sound) (hh : w.Heard) (hshut : w.ShutDown)
    (hslots : 0 < w.slots.count) (hopen : w.final? = none) :
    (∃ next, next.party ∈ [.worker, .loop, .task] ∧ w.isFutile next = false ∧
      (w.step next).isSome) ∨ w.inSubmission ≠ [] := by
  have htasks : w.flushes ≠ [] → (∃ next, next.party ∈ [Party.worker, .loop, .task] ∧
      w.isFutile next = false ∧ (w.step next).isSome) ∨ w.inSubmission ≠ [] := by
    intro hne
    exact (exists_submit_of_flushes hs hne).imp_left fun ⟨id, hid⟩ =>
      ⟨.submit id, by simp [WriterStep.party], rfl, hid⟩
  cases hphase : w.phase with
  | collecting =>
    cases hpipe : w.pipe with
    | cons a pipe =>
      exact Or.inl ⟨.receive, by simp [WriterStep.party], rfl,
        by simp [step, receive, hphase, hpipe]⟩
    | nil =>
      by_cases hgone : w.allGone = true
      · exact Or.inl ⟨.receive, by simp [WriterStep.party], rfl,
          by simp [step, receive, hphase, hpipe, hgone]⟩
      · obtain ⟨i, hi⟩ := exists_work_of_allGone hh hshut hpipe hgone
        exact Or.inl ⟨.work i none, by simp [WriterStep.party], rfl, hi⟩
  | dispatching b last =>
    -- The batch waits for a slot only while all slots are taken, and then there is a task.
    by_cases hroom : w.flushes.length < w.slots.count
    · exact Or.inl ⟨.dispatch, by simp [WriterStep.party], rfl,
        by simp [step, dispatch, hphase, hs.slots, hroom]⟩
    · refine htasks fun hnil => hroom ?_
      rw [hnil]
      exact hslots
  | joining =>
    have hgone : w.allGone = true := by
      have hall := (hs.past (by rw [hphase]; rfl)).1
      exact List.all_eq_true.mpr fun place hmem => by rw [hall place hmem]
    by_cases hidle : w.flushes = []
    · exact Or.inl ⟨.finish, by simp [WriterStep.party], rfl,
        by simp [step, finish, hphase, hgone, hidle]⟩
    · exact htasks hidle
  | finished stats =>
    rw [final?_eq_some_iff.mpr hphase] at hopen
    cases hopen

/-! ### There is an end to it -/

/-- A batch is made of what is collected, unless there is nothing. -/
theorem isSome_take {acc acc' : Accumulator α} {batch : Option (Batch α)} {now : Nat}
    (h : acc.take now = (batch, acc')) : batch.isSome = !acc.records.isEmpty := by
  unfold Accumulator.take at h
  split at h
  · cases h
    simp_all
  · cases h
    simp_all

/-- **What the loop has to do** after it looked for a batch is no more than before, and less
if it found one, as a batch has a record. -/
theorem remaining_of_cut {acc acc' : Accumulator α} {given : List α} {batch : Option (Batch α)}
    (phase : Phase α) (last : Bool) (h : acc.Cut given batch.toList acc')
    (hphase : (if last then 1 else 2) ≤ phase.remaining) :
    4 * acc'.records.length + (batch.elim phase (.dispatching · last)).remaining
        + batch.isSome.toNat
      ≤ 4 * (acc.records.length + given.length) + phase.remaining := by
  have hrecords := congrArg List.length h.records
  cases batch with
  | none =>
    simp only [Option.toList_none, List.flatMap_nil, List.nil_append, List.length_append]
      at hrecords
    simp only [Option.elim_none, Option.isSome_none, Bool.toNat_false]
    omega
  | some b =>
    have hfilled := List.length_pos_iff.mpr (h.filled b (by simp))
    have hdispatching : (Phase.dispatching b last).remaining = if last then 4 else 5 := rfl
    simp only [Option.toList_some, List.flatMap_singleton, List.length_append] at hrecords
    simp only [Option.elim_some, hdispatching, Option.isSome_some, Bool.toNat_true]
    split at hphase <;> simp only [*, Bool.false_eq_true, ↓reduceIte] <;> omega

/-- Who looks at the buffer has nothing to do but leave. -/
theorem remaining_of_look? {seen : Pop α × Buffer α} (h : w.look? i = some seen) :
    ∃ old : Worker α, w.workers[i]? = some old ∧ old.remaining = 1 := by
  rcases place_of_look? h with place | place
  · exact ⟨_, place, rfl⟩
  · exact ⟨_, place, rfl⟩

/-- **Efforts bring a writer nearer to its end**, and no step takes it further away. -/
theorem Move.remaining_le (hs : w.Sound) (hshut : w.ShutDown) (h : Move w next w' events) :
    w'.remaining + (w.isEffort next).toNat ≤ w.remaining := by
  have heffort := Bool.toNat_le (w.isEffort next)
  cases h with
  | quit place | dismiss place | abandon place =>
    have hset := ListFacts.sum_map_set Worker.remaining .gone place
    dsimp only [remaining, setWorker, Worker.remaining, Buffer.cancelPop] at hset ⊢
    omega
  | @popFails i reason place hc =>
    have hfutile : w.isEffort (.work i (some (.unavailable reason))) = false := by
      simp [isEffort, isFutile, place, hc]
    rw [hfutile]
    exact Nat.le_refl _
  | @pop i fault a buffer hc look =>
    have hrecords := (look?_record look).1
    obtain ⟨old, place, hold⟩ := remaining_of_look? look
    have hset := ListFacts.sum_map_set Worker.remaining (.holding a) place
    rw [hold] at hset
    simp only [remaining, setWorker, Worker.remaining, hc, hrecords, Bool.false_eq_true,
      ↓reduceIte, List.length_cons] at hset ⊢
    omega
  | leave hc look =>
    obtain ⟨hbefore, -, hafter, -⟩ := look?_closed look
    obtain ⟨old, place, hold⟩ := remaining_of_look? look
    have hset := ListFacts.sum_map_set Worker.remaining .gone place
    rw [hold] at hset
    simp only [remaining, setWorker, Worker.remaining, hc, hbefore, hafter, Bool.false_eq_true,
      ↓reduceIte] at hset ⊢
    omega
  | wait hc look =>
    -- Nobody waits for the records of a buffer that is closed.
    have hclosed := hshut.resolve_left (by simp [hc])
    simp [(look?_waiting look).2.1] at hclosed
  | handOver place hp room =>
    have hset := ListFacts.sum_map_set Worker.remaining .ready place
    dsimp only [remaining, setWorker, Worker.remaining] at hset ⊢
    rw [List.length_append, List.length_singleton]
    omega
  | giveUp place hp => exact absurd (hs.hasPipe place) (by simp [hp])
  | receive phase hpipe hadd =>
    have hcut := remaining_of_cut .collecting false (Accumulator.cut_add hadd)
      (by simp [Phase.remaining])
    dsimp only [remaining]
    rw [phase, hpipe]
    simp only [List.length_cons, List.length_nil] at hcut ⊢
    omega
  | drained phase hpipe hgone htake =>
    have hcut := remaining_of_cut .joining true (Accumulator.cut_take htake)
      (by simp [Phase.remaining])
    dsimp only [remaining]
    rw [phase]
    simp only [Phase.remaining, List.length_nil] at hcut ⊢
    omega
  | tick phase due htake =>
    have hcut := remaining_of_cut .collecting false (Accumulator.cut_take htake)
      (by simp [Phase.remaining])
    have htick : w.isEffort .tick = _ := (isSome_take htake).symm
    rw [htick]
    dsimp only [remaining]
    rw [phase]
    simp only [List.length_nil] at hcut ⊢
    omega
  | @dispatch b last phase slots room =>
    dsimp only [remaining]
    rw [phase]
    cases last <;>
      simp only [List.map_append, List.sum_append, List.map_cons, List.map_nil, List.sum_cons,
        List.sum_nil, Flush.remaining, Phase.remaining, Option.isSome_none, Bool.false_eq_true,
        ↓reduceIte] <;>
      omega
  | giveUpBatch phase slots => exact absurd hs.slots (by simp [slots])
  | finish phase hgone idle =>
    dsimp only [remaining]
    rw [phase]
    dsimp only [Phase.remaining]
    omega
  | submit task =>
    have hbefore := ((hs.flushes_perm task).map Flush.remaining).sum_nat
    have hafter := ((hs.submitted_perm task).map Flush.remaining).sum_nat
    dsimp only [remaining]
    simp only [List.map_cons, List.sum_cons, Flush.remaining, Option.isSome_none,
      Option.isSome_some, Bool.false_eq_true, ↓reduceIte] at hbefore hafter ⊢
    omega
  | settle task =>
    have hbefore := ((hs.flushes_perm task).map Flush.remaining).sum_nat
    dsimp only [remaining]
    simp only [List.map_cons, List.sum_cons, Flush.remaining, Option.isSome_some,
      ↓reduceIte] at hbefore ⊢
    omega
  | push accepted =>
    -- What comes into the buffer comes only while it is open, and is not taken any more.
    have hc := hshut.resolve_right (by simp [(Buffer.push_ok accepted).1])
    simp [remaining, isEffort, WriterStep.party, hc]
  | cancel => simp [remaining, isEffort, WriterStep.party]
  | refuse | closeBuffer | elapse => exact Nat.le_refl _

/-- Each effort brings a writer nearer to its end. -/
theorem Move.remaining_lt (hs : w.Sound) (hshut : w.ShutDown) (h : Move w next w' events)
    (hparty : next.party ≠ .outside) (hfutile : w.isFutile next = false) :
    w'.remaining < w.remaining := by
  have hle := h.remaining_le hs hshut
  have heffort : w.isEffort next = true := by simp [isEffort, hparty, hfutile]
  rw [heffort, Bool.toNat_true] at hle
  exact hle

/-- A writer stays shut down. -/
theorem ShutDown.move (hshut : w.ShutDown) (h : Move w next w' events) : w'.ShutDown := by
  refine hshut.imp (cancelled_of_move h) fun hclosed => ?_
  by_cases hnext : next = .closeBuffer
  · subst hnext
    cases h
    rfl
  · rw [closed_of_move h hnext]
    exact hclosed

/-- **What a writer does once it is shut down** is no more than what it had to do then. -/
theorem efforts_le (hs : w.Sound) (hshut : w.ShutDown) (h : w.run steps = some (w', events)) :
    w.efforts steps + w'.remaining ≤ w.remaining := by
  induction steps generalizing w events with
  | nil =>
    cases h
    simp [efforts]
  | cons next steps ih =>
    obtain ⟨between, first, rest, hstep, hrest, rfl⟩ := Steps.of_run_cons h
    have hmove := move_of_step hstep
    have hfirst := hmove.remaining_le hs hshut
    have hlater := ih (hs.move hmove) (hshut.move hmove) hrest
    simp only [efforts, hstep]
    omega

/-- A submission that is under way can be answered. -/
theorem exists_settle_of_inSubmission (hs : w.Sound) (h : w.inSubmission ≠ []) :
    ∃ id, ∀ result, (w.step (.settle id result)).isSome := by
  obtain ⟨b, hb⟩ := List.exists_mem_of_ne_nil _ h
  obtain ⟨⟨b', since⟩, hf, rfl⟩ := List.mem_map.mp hb
  obtain ⟨hmem, hsince⟩ := List.mem_filter.mp hf
  have htask := hs.flush?_eq hmem
  cases since with
  | none => cases hsince
  | some t => exact ⟨b'.id, fun result => by simp [step, settle, htask]⟩

/-- **There is a way to the end** from each state in which nobody is stuck, whatever the sink
answers, and it is no longer than what the writer has to do. -/
theorem exists_run_to_final (answer : Nat → Except SinkError SubmitOutcome) (hs : w.Sound)
    (hh : w.Heard) (hshut : w.ShutDown) (hslots : 0 < w.slots.count) :
    ∃ later w' more, w.run later = some (w', more) ∧ later.length ≤ w.remaining ∧
      w'.final?.isSome ∧ ∀ next ∈ later, next.party ≠ .outside ∧
        ∀ id result, next = .settle id result → result = answer id := by
  induction hn : w.remaining using Nat.strongRecOn generalizing w with
  | _ n ih =>
    cases hfinal : w.final? with
    | some stats => exact ⟨[], w, [], rfl, Nat.zero_le _, by rw [hfinal]; rfl, by simp⟩
    | none =>
      obtain ⟨next, hparty, hfutile, hanswer, hstep⟩ : ∃ next, next.party ≠ .outside ∧
          w.isFutile next = false ∧ (∀ id result, next = .settle id result → result = answer id) ∧
          (w.step next).isSome := by
        rcases exists_step_of_shutDown hs hh hshut hslots hfinal with ⟨next, hparty, hfutile, h⟩ | h
        · refine ⟨next, ?_, hfutile, ?_, h⟩
          · rintro houtside
            simp [houtside] at hparty
          · rintro id result rfl
            simp [WriterStep.party] at hparty
        · obtain ⟨id, hid⟩ := exists_settle_of_inSubmission hs h
          exact ⟨.settle id (answer id), by simp [WriterStep.party], rfl, by simp_all, hid _⟩
      obtain ⟨⟨between, first⟩, hbetween⟩ := Option.isSome_iff_exists.mp hstep
      have hmove := move_of_step hbetween
      have hless := hmove.remaining_lt hs hshut hparty hfutile
      have hslots' : 0 < between.slots.count := by rwa [(settings_of_move hmove).2]
      obtain ⟨later, w', rest, hrun, hlength, hended, hsteps⟩ :=
        ih _ (by omega) (hs.move hmove) (hh.move hmove) (hshut.move hmove) hslots' rfl
      have hfirst : w.run [next] = some (between, first) := Steps.run_singleton hbetween
      refine ⟨next :: later, w', first ++ rest, Steps.run_append hfirst hrun, ?_, hended,
        List.forall_mem_cons.mpr ⟨⟨hparty, hanswer⟩, hsteps⟩⟩
      rw [List.length_cons]
      omega

/-! ### The end -/

/-- **Shutting down ends a writer.** Whatever the settings and the records in the buffer, in
each state of a run in which the writer is cancelled or its buffer is closed: unless it has
ended, a worker, the loop or a task can take a step that leads somewhere, or a submission
waits for its answer. What is left to do gets less with each step but those of others, pops
that fail and deadlines that come while nothing is collected, and it never gets more. So no
run makes more efforts than that from there on, however often pops fail; and whatever the
sink answers, there is a run of no more steps than that in which the writer ends. -/
theorem ends_once_shut_down
    (h : (start settings buffer cancelled).run steps = some (w, events)) (hshut : w.ShutDown) :
    (w.final? = none →
      (∃ next, next.party ∈ [.worker, .loop, .task] ∧ w.isFutile next = false ∧
        (w.step next).isSome) ∨ w.inSubmission ≠ []) ∧
    (∀ next w' events', w.step next = some (w', events') →
      w'.ShutDown ∧ w'.remaining ≤ w.remaining ∧
      (next.party ≠ .outside → w.isFutile next = false → w'.remaining < w.remaining)) ∧
    (∀ later w' more, w.run later = some (w', more) →
      w.efforts later + w'.remaining ≤ w.remaining) ∧
    ∀ answer : Nat → Except SinkError SubmitOutcome,
      ∃ later w' more, w.run later = some (w', more) ∧ later.length ≤ w.remaining ∧
        w'.final?.isSome ∧ ∀ next ∈ later, next.party ≠ .outside ∧
          ∀ id result, next = .settle id result → result = answer id := by
  have hs := (ledger_of_run h).sound
  have hh := heard_of_run h
  have hslots : 0 < w.slots.count := by
    rw [(bounded_of_run h).slots]
    exact Nat.lt_of_lt_of_le Nat.one_pos (Nat.le_max_left _ _)
  refine ⟨exists_step_of_shutDown hs hh hshut hslots, ?_, fun _ _ _ => efforts_le hs hshut,
    fun answer => exists_run_to_final answer hs hh hshut hslots⟩
  intro next w' events' hstep
  have hmove := move_of_step hstep
  have hle := hmove.remaining_le hs hshut
  exact ⟨hshut.move hmove, by omega, hmove.remaining_lt hs hshut⟩

/-- Steps of a writer that has a single slot and whose batches hold a single record, up to the
closing of its buffer: a batch is being submitted, and another one waits for the slot. -/
def slotTaken : List (WriterStep Nat) :=
  [.work 0 none, .work 0 none, .receive, .dispatch, .submit 0, .work 0 none, .work 0 none,
    .receive, .closeBuffer]

theorem ends_once_shut_down_slotTaken : ∃ (w : Writer Nat) (events : History Nat),
    (start { concurrency := 0, bulkMax := 0, pipeFactor := 0 } ⟨[10, 20], false, .idle⟩
      false).run slotTaken = some (w, events) ∧
    w.ShutDown ∧ w.final? = none ∧ w.step .dispatch = none ∧ w.remaining = 7 ∧
    (∀ later w' more, w.run later = some (w', more) → w.efforts later + w'.remaining ≤ 7) ∧
    ∃ later w' more, w.run later = some (w', more) ∧ later.length ≤ 7 ∧ w'.final?.isSome := by
  obtain ⟨w, events, h, hshut, hopen, hstuck, hremaining⟩ :
      ∃ (w : Writer Nat) (events : History Nat),
      (start { concurrency := 0, bulkMax := 0, pipeFactor := 0 } ⟨[10, 20], false, .idle⟩
        false).run slotTaken = some (w, events) ∧
      w.ShutDown ∧ w.final? = none ∧ w.step .dispatch = none ∧ w.remaining = 7 :=
    ⟨_, _, rfl, Or.inr rfl, rfl, rfl, rfl⟩
  obtain ⟨_, _, hefforts, hend⟩ := ends_once_shut_down h hshut
  rw [hremaining] at hefforts hend
  obtain ⟨later, w', more, hrun, hlength, hended, _⟩ := hend fun _ => .error .closed
  exact ⟨w, events, h, hshut, hopen, hstuck, hremaining, hefforts, later, w', more, hrun, hlength,
    hended⟩

end Writer

end MetricIngest
