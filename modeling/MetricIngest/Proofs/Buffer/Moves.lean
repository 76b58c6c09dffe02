/-
  What a single call of a buffer can do.

  `Buffer.Move` lists the ways in which a call can go, each with what it needs and what it
  leaves, and `move_of_step` says that there are no others. A law about calls is proved by
  cases on the move and a law about runs by `run_induction`, so nothing else opens
  `Buffer.step`. `step_eq_none_iff` says which calls are not possible.
-/
import MetricIngest.Buffer.Calls

namespace MetricIngest

namespace Buffer

variable {α : Type}

/-- A call by which a pop looks at the records: the number of the pop, and the line without
it. -/
inductive Looks (b : Buffer α) : BufferCall α → Nat → Notifier → Prop where
  /-- A pop begins. -/
  | first {id} (h : b.notifier.Absent id) : Looks b (.start id) id b.notifier
  /-- A pop was woken. -/
  | again {id} (h : b.notifier.isWoken id = true) :
    Looks b (.poll id) id (b.notifier.acknowledge id)

/-- The ways in which a call can go: what a way needs, and the buffer and the event that it
leaves. -/
inductive Move (b : Buffer α) : BufferCall α → Buffer α → BufferEvent α → Prop where
  /-- An open buffer takes a record and wakes one who waits. -/
  | put {a} (hopen : b.closed = false) :
    Move b (.push a) ⟨b.records ++ [a], false, b.notifier.signal⟩ (.pushed a (.ok ()))
  /-- A closed buffer takes no record. -/
  | refuse {a} (hclosed : b.closed = true) :
    Move b (.push a) b (.pushed a (.error .closed))
  /-- A pop gets the oldest record. -/
  | take {call id line a rest} (hlook : Looks b call id line) (hrecords : b.records = a :: rest) :
    Move b call ⟨rest, b.closed, line.usePermit⟩ (.looked id (.record a))
  /-- A pop learns that no record will come. -/
  | miss {call id line} (hlook : Looks b call id line) (hrecords : b.records = [])
    (hclosed : b.closed = true) :
    Move b call ⟨[], true, line.usePermit⟩ (.looked id .closed)
  /-- A pop begins to wait, or waits again. -/
  | wait {call id line} (hlook : Looks b call id line) (hrecords : b.records = [])
    (hopen : b.closed = false) :
    Move b call ⟨[], false, line.usePermit.enter id⟩ (.looked id .waiting)
  /-- A pop that was not woken waits on. -/
  | stay {id} (hasleep : b.notifier.isWoken id = false) (hwaits : id ∈ b.notifier.waiting) :
    Move b (.poll id) b (.looked id .waiting)
  /-- A waiting pop is abandoned. -/
  | leave {id} (hwaits : ¬ b.notifier.Absent id) :
    Move b (.cancel id) (b.cancelPop id) (.cancelled id)
  /-- All records are taken. -/
  | drain : Move b .drain { b with records := [] } (.drained b.records)
  /-- The buffer is closed, which wakes all who wait. -/
  | close : Move b .close b.close .closed

variable {b b' last : Buffer α} {call : BufferCall α} {calls : List (BufferCall α)}
  {event : BufferEvent α} {past events : List (BufferEvent α)} {id : Nat}

/-! ### A single call -/

theorem beginPop_of_cons {a : α} {rest : List α} (h : b.records = a :: rest) :
    b.beginPop id = (.record a, ⟨rest, b.closed, b.notifier.usePermit⟩) := by
  simp [beginPop, h]

theorem beginPop_of_closed (h : b.records = []) (hclosed : b.closed = true) :
    b.beginPop id = (.closed, ⟨[], true, b.notifier.usePermit⟩) := by
  simp [beginPop, h, hclosed]

theorem beginPop_of_open (h : b.records = []) (hopen : b.closed = false) :
    b.beginPop id = (.waiting, ⟨[], false, b.notifier.usePermit.enter id⟩) := by
  simp [beginPop, h, hopen]

/-- A look that is possible is a move. -/
theorem Looks.move {line : Notifier} (h : b.Looks call id line) :
    b.Move call ({ b with notifier := line }.beginPop id).2
      (.looked id ({ b with notifier := line }.beginPop id).1) := by
  -- What is looked at differs from the buffer in its line only.
  cases hrecords : b.records with
  | cons a rest =>
    rw [beginPop_of_cons (b := ⟨a :: rest, b.closed, line⟩) rfl]
    exact .take h hrecords
  | nil =>
    cases hclosed : b.closed with
    | true =>
      rw [beginPop_of_closed (b := ⟨[], true, line⟩) rfl rfl]
      exact .miss h hrecords hclosed
    | false =>
      rw [beginPop_of_open (b := ⟨[], false, line⟩) rfl rfl]
      exact .wait h hrecords hclosed

/-- **Each call is one of the moves.** -/
theorem move_of_step (h : b.step call = some (b', event)) : b.Move call b' event := by
  cases call with
  | push a =>
    cases hclosed : b.closed with
    | true =>
      simp only [step, push, hclosed, ↓reduceIte, Option.some.injEq, Prod.mk.injEq] at h
      obtain ⟨rfl, rfl⟩ := h
      exact .refuse hclosed
    | false =>
      simp only [step, push, hclosed, Bool.false_eq_true, ↓reduceIte, Option.some.injEq,
        Prod.mk.injEq] at h
      obtain ⟨rfl, rfl⟩ := h
      exact .put hclosed
  | start id =>
    simp only [step] at h
    split at h
    · cases h
      exact (Looks.first ‹_›).move
    · cases h
  | poll id =>
    simp only [step] at h
    split at h
    · cases h
      exact (Looks.again ‹_›).move
    · rename_i hasleep
      split at h
      · cases h
        exact .stay (by simpa using hasleep) ‹_›
      · cases h
  | cancel id =>
    simp only [step] at h
    split at h
    · cases h
    · cases h
      exact .leave ‹_›
  | drain =>
    cases h
    exact .drain
  | close =>
    cases h
    exact .close

/-- **A call is not possible** only if a pop is to begin under a number that a waiting pop
has, or one is to look again or to be abandoned that does not wait. -/
theorem step_eq_none_iff :
    b.step call = none ↔
      (∃ id, call = .start id ∧ ¬ b.notifier.Absent id) ∨
      ∃ id, (call = .poll id ∨ call = .cancel id) ∧ b.notifier.Absent id := by
  cases call with
  | push a => cases hclosed : b.closed <;> simp [step, push, hclosed]
  | start id => simp [step]
  | poll id =>
    cases hwoken : b.notifier.isWoken id <;> simp [step, Notifier.Absent, hwoken]
  | cancel id => simp [step]
  | drain => simp [step]
  | close => simp [step]

/-! ### Runs -/

/-- **Induction over a run.** What holds of a buffer with its history, and is kept by every
move, holds after a run. -/
theorem run_induction {motive : List (BufferEvent α) → Buffer α → Prop}
    (keep : ∀ {past b call b' event}, motive past b → Move b call b' event →
      motive (past ++ [event]) b')
    (h : motive past b) (hrun : b.run calls = some (b', events)) :
    motive (past ++ events) b' :=
  Steps.run_induction (fun hpast hstep => keep hpast (move_of_step hstep)) h hrun

end Buffer

end MetricIngest
