/-
  What a single step of a writer can do.

  `Writer.Move` lists the ways in which a step can go, each with what it needs and
  what it leaves, and `move_of_step` says that there are no others. A law about
  steps is proved by cases on the move and a law about runs by `run_induction`, so
  nothing else opens `Writer.step`.
-/
import MetricIngest.Writer.History

namespace MetricIngest

open History

variable {α : Type}

/-! ### Looking at the buffer -/

namespace Buffer

variable {b rest : Buffer α} {i : Nat} {a : α}

/-- **A look that gives a record takes the oldest one** and leaves the others. -/
theorem beginPop_record (h : b.beginPop i = (.record a, rest)) :
    b.records = a :: rest.records ∧ rest.closed = b.closed := by
  unfold beginPop at h
  split at h
  · rename_i a' records hrecords
    simp only [Prod.mk.injEq, Pop.record.injEq] at h
    obtain ⟨rfl, rfl⟩ := h
    exact ⟨hrecords, rfl⟩
  · split at h <;> simp at h

/-- Only a closed buffer with nothing in it says that no record will come. -/
theorem beginPop_closed (h : b.beginPop i = (.closed, rest)) :
    b.records = [] ∧ b.closed = true ∧ rest.records = [] ∧ rest.closed = true := by
  unfold beginPop at h
  split at h
  · simp at h
  · rename_i hrecords
    split at h
    · rename_i hclosed
      simp only [Prod.mk.injEq, true_and] at h
      subst h
      exact ⟨hrecords, hclosed, hrecords, hclosed⟩
    · simp at h

/-- Only an open buffer with nothing in it makes one wait. -/
theorem beginPop_waiting (h : b.beginPop i = (.waiting, rest)) :
    b.records = [] ∧ b.closed = false ∧ rest.records = [] ∧ rest.closed = false := by
  unfold beginPop at h
  split at h
  · simp at h
  · rename_i hrecords
    split at h
    · simp at h
    · rename_i hopen
      simp only [Prod.mk.injEq, true_and] at h
      subst h
      exact ⟨hrecords, by simpa using hopen, hrecords, by simpa using hopen⟩

/-- A push that is accepted puts the record behind all others of an open buffer. -/
theorem push_ok (h : b.push a = .ok rest) :
    b.closed = false ∧ rest.records = b.records ++ [a] ∧ rest.closed = false := by
  unfold push at h
  split at h
  · cases h
  · rename_i hopen
    simp only [Except.ok.injEq] at h
    subst h
    exact ⟨by simpa using hopen, rfl, by simpa using hopen⟩

end Buffer

namespace Writer

/-- What a worker that may look at the buffer gets from it, and the buffer after
that. -/
def look? (w : Writer α) (i : Nat) : Option (Pop α × Buffer α) :=
  match w.workers[i]? with
  | some .ready => some (w.buffer.beginPop i)
  | some .waiting =>
    if w.buffer.notifier.isWoken i then some (w.buffer.resumePop i) else none
  | _ => none

section Looking

variable {w : Writer α} {i : Nat} {a : α} {b : Buffer α} {pop : Pop α}

/-- Who looks at the buffer has nothing in hand and is not gone. -/
theorem place_of_look? (h : w.look? i = some (pop, b)) :
    w.workers[i]? = some .ready ∨ w.workers[i]? = some .waiting := by
  unfold look? at h
  split at h
  · exact Or.inl ‹_›
  · exact Or.inr ‹_›
  · cases h

/-- A look is one at the buffer as it is, apart from those who wait. -/
theorem exists_beginPop_of_look? (h : w.look? i = some (pop, b)) :
    ∃ seen : Buffer α, seen.records = w.buffer.records ∧ seen.closed = w.buffer.closed ∧
      seen.beginPop i = (pop, b) := by
  unfold look? at h
  split at h
  · exact ⟨w.buffer, rfl, rfl, by simpa using h⟩
  · split at h
    · exact ⟨{ w.buffer with notifier := w.buffer.notifier.acknowledge i }, rfl, rfl,
        by simpa [Buffer.resumePop] using h⟩
    · cases h
  · cases h

theorem look?_record (h : w.look? i = some (.record a, b)) :
    w.buffer.records = a :: b.records ∧ b.closed = w.buffer.closed := by
  obtain ⟨seen, hrecords, hclosed, hb⟩ := exists_beginPop_of_look? h
  rw [← hrecords, ← hclosed]
  exact Buffer.beginPop_record hb

theorem look?_closed (h : w.look? i = some (.closed, b)) :
    w.buffer.records = [] ∧ w.buffer.closed = true ∧ b.records = [] ∧ b.closed = true := by
  obtain ⟨seen, hrecords, hclosed, hb⟩ := exists_beginPop_of_look? h
  rw [← hrecords, ← hclosed]
  exact Buffer.beginPop_closed hb

theorem look?_waiting (h : w.look? i = some (.waiting, b)) :
    w.buffer.records = [] ∧ w.buffer.closed = false ∧ b.records = [] ∧ b.closed = false := by
  obtain ⟨seen, hrecords, hclosed, hb⟩ := exists_beginPop_of_look? h
  rw [← hrecords, ← hclosed]
  exact Buffer.beginPop_waiting hb

end Looking

/-! ### The moves -/

/-- The ways in which a step can go: what a way needs, and the state and the events
that it leaves. -/
inductive Move (w : Writer α) : WriterStep α → Writer α → History α → Prop where
  /-- A worker notices that the writer is cancelled before it looks at the buffer. -/
  | quit {i fault} (place : w.workers[i]? = some .ready) (hc : w.cancelled = true) :
    Move w (.work i fault) (w.setWorker i .gone) []
  /-- A worker notices it while it waits. -/
  | abandon {i fault} (place : w.workers[i]? = some .waiting) (hc : w.cancelled = true) :
    Move w (.work i fault) ({ w with buffer := w.buffer.cancelPop i }.setWorker i .gone) []
  /-- A pop fails. -/
  | popFails {i reason} (place : w.workers[i]? = some .ready) (hc : w.cancelled = false) :
    Move w (.work i (some (.unavailable reason))) { w with stats := w.stats.popFailed } []
  /-- A pop says that the buffer is closed, whether it is or not. -/
  | dismiss {i} (place : w.workers[i]? = some .ready) (hc : w.cancelled = false) :
    Move w (.work i (some .closed)) (w.setWorker i .gone) []
  /-- A worker takes a record. -/
  | pop {i fault a buffer} (hc : w.cancelled = false)
    (look : w.look? i = some (.record a, buffer)) :
    Move w (.work i fault)
      ({ w with buffer, stats := w.stats.popped }.setWorker i (.holding a)) [.popped a]
  /-- A worker learns that no record will come. -/
  | leave {i fault buffer} (hc : w.cancelled = false)
    (look : w.look? i = some (.closed, buffer)) :
    Move w (.work i fault) ({ w with buffer }.setWorker i .gone) []
  /-- A worker begins to wait. -/
  | wait {i fault buffer} (hc : w.cancelled = false)
    (look : w.look? i = some (.waiting, buffer)) :
    Move w (.work i fault) ({ w with buffer }.setWorker i .waiting) []
  /-- A worker puts its record into the pipe. -/
  | handOver {i fault a} (place : w.workers[i]? = some (.holding a)) (hp : w.hasPipe = true)
    (room : w.pipe.length < w.settings.pipeCapacity) :
    Move w (.work i fault) ({ w with pipe := w.pipe ++ [a] }.setWorker i .ready) []
  /-- A worker finds no pipe for its record. -/
  | giveUp {i fault a} (place : w.workers[i]? = some (.holding a)) (hp : w.hasPipe = false) :
    Move w (.work i fault) ({ w with stats := w.stats.lost 1 }.setWorker i .gone)
      [.discarded [a]]
  /-- The loop takes a record from the pipe, which may complete a batch. -/
  | receive {a pipe batch acc} (phase : w.phase = .collecting) (hpipe : w.pipe = a :: pipe)
    (hadd : w.accumulator.add a w.now = (batch, acc)) :
    Move w .receive { w with
      pipe
      accumulator := acc
      phase := batch.elim .collecting (.dispatching · false) }
      (.received a :: batch.toList.map .collected)
  /-- The loop learns that no record will come, and makes a last batch of what there is. -/
  | drained {batch acc} (phase : w.phase = .collecting) (hpipe : w.pipe = [])
    (hgone : w.allGone = true) (htake : w.accumulator.take w.now = (batch, acc)) :
    Move w .receive { w with
      accumulator := acc
      phase := batch.elim .joining (.dispatching · true) } (batch.toList.map .collected)
  /-- The loop's deadline has come, and it makes a batch of what there is. -/
  | tick {batch acc} (phase : w.phase = .collecting) (due : w.accumulator.deadline ≤ w.now)
    (htake : w.accumulator.take w.now = (batch, acc)) :
    Move w .tick { w with
      accumulator := acc
      phase := batch.elim .collecting (.dispatching · false) } (batch.toList.map .collected)
  /-- The loop hands its batch to a task. -/
  | dispatch {b last} (phase : w.phase = .dispatching b last) (slots : w.slots.closed = false)
    (room : w.flushes.length < w.slots.count) :
    Move w .dispatch { w with
      phase := if last then .joining else .collecting
      flushes := w.flushes ++ [⟨b, none⟩] } []
  /-- The loop finds no slots for its batch. -/
  | giveUpBatch {b last} (phase : w.phase = .dispatching b last) (slots : w.slots.closed = true) :
    Move w .dispatch { w with
      phase := if last then .joining else .collecting
      stats := w.stats.lost b.size } [.discarded b.records]
  /-- The loop closes the sink and ends. -/
  | finish (phase : w.phase = .joining) (hgone : w.allGone = true) (idle : w.flushes = []) :
    Move w .finish { w with phase := .finished w.stats } [.closed]
  /-- A task submits its batch. -/
  | submit {id b} (task : w.flush? id = some ⟨b, none⟩) :
    Move w (.submit id) { w with
      flushes := w.flushes.map fun f => if f.batch.id = id then ⟨f.batch, some w.now⟩ else f }
      [.submitted b]
  /-- A submission is over. -/
  | settle {id b since result} (task : w.flush? id = some ⟨b, some since⟩) :
    Move w (.settle id result) { w with
      flushes := w.flushes.filter fun f => f.batch.id ≠ id
      stats := w.stats.submitted b.size result } [.returned b result]
  /-- The buffer accepts a record. -/
  | push {a buffer} (accepted : w.buffer.push a = .ok buffer) :
    Move w (.push a) { w with buffer } [.pushed a]
  /-- The buffer refuses a record. -/
  | refuse {a e} (refused : w.buffer.push a = .error e) : Move w (.push a) w []
  /-- The buffer is closed. -/
  | closeBuffer : Move w .closeBuffer { w with buffer := w.buffer.close } []
  /-- The writer is cancelled. -/
  | cancel : Move w .cancel { w with cancelled := true } []
  /-- Time passes. -/
  | elapse {ms} : Move w (.elapse ms) { w with now := w.now + ms } []

variable {w w' w'' : Writer α} {next : WriterStep α} {steps others : List (WriterStep α)}
  {past events more : History α} {i : Nat} {fault : Option BufferError}

/-- A worker that looks at the buffer makes one of the three moves of a look. -/
theorem move_of_look? {seen : Pop α × Buffer α} (hc : w.cancelled = false)
    (h : w.look? i = some seen) :
    Move w (.work i fault) (w.afterPop i seen).1 (w.afterPop i seen).2 := by
  obtain ⟨pop, buffer⟩ := seen
  cases pop with
  | record a => exact .pop hc h
  | closed => exact .leave hc h
  | waiting => exact .wait hc h

theorem move_of_work (h : w.work i fault = some (w', events)) :
    Move w (.work i fault) w' events := by
  unfold work at h
  split at h
  · rename_i place
    split at h
    · cases h
      exact .quit place ‹_›
    · have hc : w.cancelled = false := by simpa using ‹¬ w.cancelled = true›
      split at h
      · cases h
        exact .dismiss place hc
      · cases h
        exact .popFails place hc
      · obtain ⟨rfl, rfl⟩ := Prod.ext_iff.mp (Option.some.inj h)
        exact move_of_look? hc (by simp [look?, place])
  · rename_i place
    split at h
    · cases h
      exact .abandon place ‹_›
    · have hc : w.cancelled = false := by simpa using ‹¬ w.cancelled = true›
      split at h
      · obtain ⟨rfl, rfl⟩ := Prod.ext_iff.mp (Option.some.inj h)
        exact move_of_look? hc (by simp [look?, *])
      · cases h
  · rename_i a place
    split at h
    · cases h
      exact .giveUp place (by simpa using ‹¬ w.hasPipe = true›)
    · have hp : w.hasPipe = true := by simpa using ‹¬¬ w.hasPipe = true›
      split at h
      · cases h
        exact .handOver place hp ‹_›
      · cases h
  · cases h

/-- What is left after the loop has looked for a batch. -/
theorem afterTake_eq (w : Writer α) (last : Bool) (phase : Phase α)
    (taken : Option (Batch α) × Accumulator α) :
    w.afterTake last phase taken =
      ({ w with accumulator := taken.2, phase := taken.1.elim phase (.dispatching · last) },
        taken.1.toList.map .collected) := by
  obtain ⟨_ | b, acc⟩ := taken
  · rfl
  · rfl

theorem move_of_receive (h : w.receive = some (w', events)) : Move w .receive w' events := by
  unfold receive at h
  split at h
  · rw [afterTake_eq] at h
    cases h
    exact .receive ‹_› ‹_› rfl
  · split at h
    · rw [afterTake_eq] at h
      cases h
      exact .drained ‹_› ‹_› ‹_› rfl
    · cases h
  · cases h

theorem move_of_tick (h : w.tick = some (w', events)) : Move w .tick w' events := by
  unfold tick at h
  split at h
  · split at h
    · rw [afterTake_eq] at h
      cases h
      exact .tick ‹_› ‹_› rfl
    · cases h
  · cases h

theorem move_of_dispatch (h : w.dispatch = some (w', events)) : Move w .dispatch w' events := by
  unfold dispatch at h
  split at h
  · dsimp only at h
    split at h
    · cases h
      exact .giveUpBatch ‹_› ‹_›
    · have hs : w.slots.closed = false := by simpa using ‹¬ w.slots.closed = true›
      split at h
      · cases h
        exact .dispatch ‹_› hs ‹_›
      · cases h
  · cases h

theorem move_of_finish (h : w.finish = some (w', events)) : Move w .finish w' events := by
  unfold finish at h
  split at h
  · split at h
    · rename_i idle
      cases h
      exact .finish ‹_› idle.1 (List.isEmpty_iff.mp idle.2)
    · cases h
  · cases h

/-- **There are no other moves**: every step that is possible is one of them. -/
theorem move_of_step (h : w.step next = some (w', events)) : Move w next w' events := by
  cases next with
  | work i fault => exact move_of_work h
  | receive => exact move_of_receive h
  | tick => exact move_of_tick h
  | dispatch => exact move_of_dispatch h
  | finish => exact move_of_finish h
  | submit id =>
    simp only [step, submit] at h
    split at h
    · cases h
      exact .submit ‹_›
    · cases h
  | settle id result =>
    simp only [step, settle] at h
    split at h
    · cases h
      exact .settle ‹_›
    · cases h
  | push a =>
    simp only [step] at h
    split at h
    · cases h
      exact .push ‹_›
    · cases h
      exact .refuse ‹_›
  | closeBuffer => cases h; exact .closeBuffer
  | cancel => cases h; exact .cancel
  | elapse ms => cases h; exact .elapse

/-! ### The buffer -/

/-- Only a push brings a record into the buffer. -/
theorem pushed_of_move (h : Move w next w' events) (hnext : ∀ a, next ≠ .push a) :
    pushed events = [] := by
  cases h with
  | push => exact absurd rfl (hnext _)
  | receive | drained | tick => simp [pushed, List.filterMap_map]
  | _ => rfl

/-- Only closing the buffer closes it. -/
theorem closed_of_move (h : Move w next w' events) (hnext : next ≠ .closeBuffer) :
    w'.buffer.closed = w.buffer.closed := by
  cases h with
  | pop hc look => exact (look?_record look).2
  | leave hc look => rw [(look?_closed look).2.1]; exact (look?_closed look).2.2.2
  | wait hc look => rw [(look?_waiting look).2.1]; exact (look?_waiting look).2.2.2
  | push accepted => rw [(Buffer.push_ok accepted).1]; exact (Buffer.push_ok accepted).2.2
  | closeBuffer => exact absurd rfl hnext
  | _ => rfl

/-! ### What stays -/

/-- No step changes the settings or the slots. -/
theorem settings_of_move (h : Move w next w' events) :
    w'.settings = w.settings ∧ w'.slots = w.slots := by
  cases h <;> exact ⟨rfl, rfl⟩

/-- A writer stays cancelled. -/
theorem cancelled_of_move (h : Move w next w' events) (hc : w.cancelled = true) :
    w'.cancelled = true := by
  cases h <;> first | exact hc | rfl

/-! ### Answers and counters -/

/-- Only the end of a submission is an answer. -/
theorem returned_of_move (h : Move w next w' events)
    (hnext : ∀ id result, next ≠ .settle id result) : returned events = [] := by
  cases h with
  | settle => exact absurd rfl (hnext _ _)
  | receive | drained | tick => simp [returned, List.filterMap_map]
  | _ => rfl

/-- Only an answer counts records as committed. -/
theorem recordsCommitted_of_move (h : Move w next w' events)
    (hnext : ∀ id result, next ≠ .settle id result) :
    w'.stats.recordsCommitted = w.stats.recordsCommitted := by
  cases h with
  | settle => exact absurd rfl (hnext _ _)
  | _ => rfl

/-- **While the loop rests** between two records others leave it as it is. -/
theorem loop_of_move (h : Move w next w' events) (hphase : w.phase = .collecting)
    (hreceive : next ≠ .receive) (htick : next ≠ .tick) :
    w'.phase = .collecting ∧ w'.accumulator = w.accumulator ∧ isClosed events = false := by
  cases h with
  | receive | drained => exact absurd rfl hreceive
  | tick => exact absurd rfl htick
  | dispatch phase | giveUpBatch phase | finish phase => simp [hphase] at phase
  | _ => exact ⟨hphase, rfl, rfl⟩

/-- Without a batch to hand over no task begins, and without a task no batch is submitted. -/
theorem flushes_of_move (h : Move w next w' events) (hphase : w.phase = .collecting)
    (hflushes : w.flushes = []) : w'.flushes = [] ∧ submitted events = [] := by
  cases h with
  | dispatch phase | giveUpBatch phase | finish phase => simp [hphase] at phase
  | submit task | settle task => simp [flush?, hflushes] at task
  | @receive _ _ batch | @drained batch | @tick batch =>
    exact ⟨hflushes, by cases batch <;> rfl⟩
  | _ => exact ⟨hflushes, rfl⟩

/-- Only a pop that fails is counted as such. -/
theorem popErrors_of_move (h : Move w next w' events)
    (hnext : ∀ i reason, next ≠ .work i (some (.unavailable reason))) :
    w'.stats.popErrors = w.stats.popErrors := by
  cases h with
  | popFails => exact absurd rfl (hnext _ _)
  | @settle id b since result => cases result <;> rfl
  | _ => rfl

/-- An answer is about the batch of its number, counts it and is all that happens. -/
theorem of_settle {id : Nat} {result : Except SinkError SubmitOutcome} {f : Flush α}
    (hf : w.flush? id = some f) (h : Move w (.settle id result) w' events) :
    events = [.returned f.batch result] ∧
      w'.stats = w.stats.submitted f.batch.size result := by
  cases h with
  | settle task =>
    rw [task] at hf
    cases hf
    exact ⟨rfl, rfl⟩

/-! ### Runs -/

/-- **Induction over a run.** What holds of a state with its history, and is kept by
every move, holds after a run. -/
theorem run_induction {motive : History α → Writer α → Prop}
    (keep : ∀ {past w next w' events}, motive past w → Move w next w' events →
      motive (past ++ events) w')
    (h : motive [] w) (hrun : w.run steps = some (w', events)) : motive events w' :=
  Steps.run_induction (fun hpast hstep => keep hpast (move_of_step hstep)) h hrun

end Writer

end MetricIngest
