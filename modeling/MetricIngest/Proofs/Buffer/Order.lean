/-
  A buffer loses no record and keeps their order.

  `fifo_of_run` is about every sequence of calls, with pops that wait, are woken, miss their
  record, wait again or are abandoned: what was taken, followed by what is still there, is
  what was accepted. `Ledger` is what a run keeps, and `Exhausted` is what is kept from the
  moment on at which a pop learned that no record will come.
-/
import MetricIngest.Proofs.Buffer.Moves

namespace MetricIngest

namespace Buffer

variable {α : Type} {b b' after last : Buffer α} {call : BufferCall α}
  {calls : List (BufferCall α)} {event : BufferEvent α} {past events : List (BufferEvent α)}
  {id : Nat}

/-! ### What a run keeps -/

/-- What a run keeps between its history and the buffer. -/
structure Ledger (past : List (BufferEvent α)) (b : Buffer α) : Prop where
  /-- The queue is what was accepted and not taken. -/
  queue : accepted past = taken past ++ b.records
  /-- The buffer is closed by a call and stays closed. -/
  closed : b.closed = true ↔ .closed ∈ past
  /-- Nobody waits at a closed buffer. -/
  line : b.closed = true → b.notifier.waiting = []

theorem ledger_empty : Ledger [] (empty : Buffer α) where
  queue := rfl
  closed := by simp [empty]
  line := by simp [empty]

/-- A look leaves those in the line who stand there. -/
theorem Looks.waiting_eq {line : Notifier} (h : b.Looks call id line) :
    line.waiting = b.notifier.waiting := by
  cases h <;> rfl

theorem Ledger.move (hl : Ledger past b) (h : b.Move call b' event) :
    Ledger (past ++ [event]) b' where
  queue := by
    have hqueue := hl.queue
    -- A record comes by an accepted push, and goes by a look that finds it or by a drain.
    cases h with
    | take hlook hrecords =>
      simpa [BufferEvent.accepted, BufferEvent.taken, hrecords] using hqueue
    | miss hlook hrecords | wait hlook hrecords =>
      simpa [BufferEvent.accepted, BufferEvent.taken, hrecords] using hqueue
    | _ => simp [BufferEvent.accepted, BufferEvent.taken, hqueue, close, cancelPop]
  closed := by
    have hclosed := hl.closed
    cases h with
    | close => simp [Buffer.close]
    | put hopen | wait _ _ hopen => simpa [hopen] using hclosed
    | miss _ _ hshut => simpa [hshut] using hclosed
    | _ => simpa [cancelPop] using hclosed
  line := by
    have hline := hl.line
    -- A pop enters the line of an open buffer only, and a close empties it.
    cases h with
    | put => simp
    | take hlook => exact fun hshut => hlook.waiting_eq.trans (hline hshut)
    | miss hlook _ hshut => exact fun _ => hlook.waiting_eq.trans (hline hshut)
    | wait => simp
    | leave => exact fun hshut => Notifier.waiting_leave (hline hshut)
    | close => exact fun _ => rfl
    | _ => exact hline

/-- **Every run from the empty buffer keeps its ledger.** -/
theorem ledger_of_run (h : (empty : Buffer α).run calls = some (b, events)) : Ledger events b :=
  run_induction (motive := Ledger) .move ledger_empty h

/-! ### After the last record -/

/-- What holds from the moment on at which a pop learned that no record will come, with what
happened since then. -/
structure Exhausted (past : List (BufferEvent α)) (b : Buffer α) : Prop where
  closed : b.closed = true
  records : b.records = []
  line : b.notifier.waiting = []
  accepted : accepted past = []
  taken : taken past = []
  /-- Every pop that looks learns the same. -/
  answers : ∀ id pop, .looked id pop ∈ past → pop = .closed

theorem Exhausted.move (he : Exhausted past b) (h : b.Move call b' event) :
    Exhausted (past ++ [event]) b' := by
  obtain ⟨hclosed, hrecords, hline, haccepted, htaken, hanswers⟩ := he
  have hkeep : ∀ {after : Buffer α} {event : BufferEvent α}, after.closed = true →
      after.records = [] → after.notifier.waiting = [] → event.accepted = [] →
      event.taken = [] → (∀ id pop, event = .looked id pop → pop = .closed) →
      Exhausted (past ++ [event]) after := by
    intro after event hclosed' hrecords' hline' haccepted' htaken' hanswer
    refine ⟨hclosed', hrecords', hline', by simp [haccepted, haccepted'],
      by simp [htaken, htaken'], ?_⟩
    intro id pop hmem
    rcases List.mem_append.mp hmem with hmem | hmem
    · exact hanswers id pop hmem
    · exact hanswer id pop (List.mem_singleton.mp hmem).symm
  -- The buffer is closed, has nothing to give, and nobody waits: four ways are not open.
  cases h with
  | put hopen | wait _ _ hopen => simp [hclosed] at hopen
  | take _ hfull => simp [hrecords] at hfull
  | stay _ hwaits => simp [hline] at hwaits
  | refuse => exact hkeep hclosed hrecords hline rfl rfl (by simp)
  | miss hlook =>
    exact hkeep rfl rfl (hlook.waiting_eq.trans hline) rfl rfl (by simp)
  | leave => exact hkeep hclosed hrecords (Notifier.waiting_leave hline) rfl rfl (by simp)
  | drain => exact hkeep hclosed rfl hline rfl hrecords (by simp)
  | close => exact hkeep rfl hrecords rfl rfl rfl (by simp)

/-- A pop that learns that no record will come leaves an exhausted buffer. -/
theorem Ledger.exhausted (hl : Ledger past b) (h : b.Move call after (.looked id .closed)) :
    b.closed = true ∧ b.records = [] ∧ Exhausted [] after := by
  cases h with
  | miss hlook hrecords hclosed =>
    refine ⟨hclosed, hrecords, rfl, rfl, ?_, rfl, rfl, by simp⟩
    exact hlook.waiting_eq.trans (hl.line hclosed)

theorem Exhausted.run (he : Exhausted past b) (h : b.run calls = some (last, events)) :
    Exhausted (past ++ events) last :=
  run_induction (motive := Exhausted) .move he h

/-- A pop that looks at an exhausted buffer, if it may, learns that no record will come. -/
theorem Exhausted.look (he : Exhausted past b) (hcall : call = .start id ∨ call = .poll id)
    (hstep : b.step call ≠ none) : ∃ after, b.step call = some (after, .looked id .closed) := by
  obtain ⟨⟨after, event⟩, hafter⟩ := Option.ne_none_iff_exists'.mp hstep
  have hmove := move_of_step hafter
  have hpop : ∃ pop, event = .looked id pop := by
    rcases hcall with rfl | rfl
    all_goals
      cases hmove with
      | take hlook | miss hlook | wait hlook => cases hlook; exact ⟨_, rfl⟩
      | _ => exact ⟨_, rfl⟩
  obtain ⟨pop, rfl⟩ := hpop
  have hanswer := (he.move hmove).answers id pop (by simp)
  exact ⟨after, hanswer ▸ hafter⟩

/-! ### The order of the records -/

/-- What a push says depends on whether the buffer is closed, and a closed one stays as it
is. -/
theorem exists_step_push (b : Buffer α) (a : α) :
    ∃ result after, b.step (.push a) = some (after, .pushed a result) ∧
      (result = .error .closed ↔ b.closed = true) ∧ (result = .error .closed → after = b) ∧
      (result ≠ .error .closed → result = .ok () ∧ after.records = b.records ++ [a]) := by
  cases hclosed : b.closed with
  | true => exact ⟨.error .closed, b, by simp [step, push, hclosed]⟩
  | false =>
    exact ⟨.ok (), ⟨b.records ++ [a], false, b.notifier.signal⟩, by simp [step, push, hclosed]⟩

/-- **A lossless queue.** After any sequence of calls of an empty buffer, what pops and drains
got, in the order it was taken, followed by the records of the buffer, is what was accepted, in
the order of the pushes. A push is refused just if the buffer was closed before, and then
nothing changes. An abandoned pop takes nothing and is gone. A pop learns that no record will
come only at a closed buffer with nothing in it; everything that was accepted is taken then,
and whatever is called later, nothing is accepted or taken and every pop that looks learns the
same. A call is impossible only for the number of a pop that is not there, or for one that
is there and is to begin. -/
theorem fifo_of_run (h : (empty : Buffer α).run calls = some (b, events)) :
    accepted events = taken events ++ b.records ∧
    (∀ a, ∃ result after, b.step (.push a) = some (after, .pushed a result) ∧
      (result = .error .closed ↔ .closed ∈ events) ∧ (result = .error .closed → after = b) ∧
      (result ≠ .error .closed → result = .ok () ∧ after.records = b.records ++ [a])) ∧
    (∀ id, ¬ b.notifier.Absent id →
      ∃ after, b.step (.cancel id) = some (after, .cancelled id) ∧
        after.records = b.records ∧ after.closed = b.closed ∧ after.notifier.Absent id) ∧
    (∀ call id after, b.step call = some (after, .looked id .closed) →
      .closed ∈ events ∧ b.records = [] ∧ taken events = accepted events ∧
      ∀ later last more, after.run later = some (last, more) →
        last.records = [] ∧ accepted more = [] ∧ taken more = [] ∧
        (∀ i pop, .looked i pop ∈ more → pop = .closed) ∧
        (∀ i, last.notifier.Absent i →
          ∃ gone, last.step (.start i) = some (gone, .looked i .closed)) ∧
        ∀ i, ¬ last.notifier.Absent i →
          ∃ gone, last.step (.poll i) = some (gone, .looked i .closed)) ∧
    ∀ call, b.step call = none ↔
      (∃ id, call = .start id ∧ ¬ b.notifier.Absent id) ∨
      ∃ id, (call = .poll id ∨ call = .cancel id) ∧ b.notifier.Absent id := by
  have hl := ledger_of_run h
  refine ⟨hl.queue, ?_, ?_, ?_, fun call => step_eq_none_iff⟩
  · intro a
    rw [← hl.closed]
    exact exists_step_push b a
  · intro id hwaits
    exact ⟨b.cancelPop id, by simp [step, hwaits], rfl, rfl, b.notifier.absent_leave id⟩
  · intro call id after hstep
    obtain ⟨hclosed, hrecords, hafter⟩ := hl.exhausted (move_of_step hstep)
    refine ⟨hl.closed.mp hclosed, hrecords, by simp [hl.queue, hrecords], ?_⟩
    intro later last more hlater
    have he : Exhausted more last := hafter.run hlater
    refine ⟨he.records, he.accepted, he.taken, he.answers, ?_, ?_⟩
    · intro i habsent
      exact he.look (Or.inl rfl) (by simp [step, habsent])
    · intro i hwaits
      refine he.look (Or.inr rfl) ?_
      rw [Ne, step_eq_none_iff]
      simpa using hwaits

/-- Two pops wait and are woken by two pushes. The first is abandoned then, and a third one,
which never waits, gets the record it was woken for. A drain takes the record for which a
fourth one was woken, which waits again and gets the last record after the close. -/
def crossedPops : List (BufferCall Nat) :=
  [.start 1, .start 2, .push 10, .push 20, .cancel 1, .start 3, .poll 2, .start 4, .poll 4,
    .push 30, .drain, .poll 4, .push 40, .close, .push 50, .poll 4]

theorem fifo_of_crossedPops :
    ∃ (b after : Buffer Nat) (events : List (BufferEvent Nat)),
      (empty : Buffer Nat).run crossedPops = some (b, events) ∧
      accepted events = [10, 20, 30, 40] ∧ taken events = [10, 20, 30, 40] ∧ b.records = [] ∧
      b.step (.start 5) = some (after, .looked 5 .closed) ∧
      ∀ later last more, after.run later = some (last, more) →
        last.records = [] ∧ accepted more = [] ∧ taken more = [] := by
  obtain ⟨b, events, hrun, haccepted, after, hstep⟩ : ∃ b events,
      (empty : Buffer Nat).run crossedPops = some (b, events) ∧
      accepted events = [10, 20, 30, 40] ∧
      ∃ after, b.step (.start 5) = some (after, .looked 5 .closed) :=
    ⟨_, _, rfl, rfl, _, rfl⟩
  obtain ⟨hqueue, -, -, hclosed, -⟩ := fifo_of_run hrun
  obtain ⟨-, hrecords, htaken, hlater⟩ := hclosed _ _ _ hstep
  refine ⟨b, after, events, hrun, haccepted, htaken.trans haccepted, hrecords, hstep, ?_⟩
  intro later last more hmore
  obtain ⟨hlast, hnone, hgone, -⟩ := hlater later last more hmore
  exact ⟨hlast, hnone, hgone⟩

end Buffer

end MetricIngest
