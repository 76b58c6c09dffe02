/-
  A stream whose results are received comes to its end.

  The workers share a lock, and whoever has it may wait for a line. `comes_to_its_end` says that
  nobody waits for ever all the same, as long as each receiver takes what is there or leaves. It
  is put together from two parts. Nobody is stuck (`exists_step_of_hasEnded`): the reader waits
  only while there are lines for the workers, a worker that has the lock can go on when there is
  a line or none will come, and who waits to send waits for a receiver. And there is an end to it:
  each step, of whomever, brings `LockedStream.remaining` down (`remaining_lt_of_step`).
-/
import MetricIngest.Proofs.Stream.Agreement
import MetricIngest.Stream.Lock

namespace MetricIngest

open Decoder

/-- A step that cuts nothing short. -/
def LockedStep.isSteady : LockedStep → Bool
  | .lock _ => true
  | .stream next => next.isSteady

/-- A channel with a receiver has room, or there is something to take. -/
theorem Outlet.isSome_send_or_receive {β : Type} (o : Outlet β) {capacity : Nat}
    (hcapacity : 0 < capacity) (b : β) :
    (o.send capacity b).isSome = true ∨ o.receive.isSome = true := by
  unfold send receive
  cases o.isOpen with
  | false => exact Or.inl rfl
  | true =>
    cases o.queue with
    | nil => exact Or.inl (by simp [hcapacity])
    | cons c queue => exact Or.inr rfl

/-- A receiver that finds nothing to take has an empty channel. -/
theorem Outlet.queue_eq_nil {β : Type} {o : Outlet β} (hopen : o.isOpen = true)
    (h : o.receive = none) : o.queue = [] := by
  unfold receive at h
  split at h
  · assumption
  · simp [hopen] at h

namespace LineStream

variable {s s' : LineStream} {next : StreamStep} {log : List Taking} {out : List Sending} {i : Nat}

theorem isIdle_iff : s.isIdle i = true ↔ s.workers[i]? = some .idle := by
  unfold isIdle
  split
  · simpa
  · rename_i hne
    simpa using hne

/-! ### Who can go on -/

/-- The reader can go on within a line. -/
theorem isSome_read_of_reading {part : List UInt8} (place : s.reader = .reading part) :
    (s.step .read).isSome = true := by
  by_cases hc : s.cancelled = true
  · simp [step, read, place, hc]
  · simp [step, read, place, hc]

/-- The reader can put its line into a queue that is empty, or leaves. -/
theorem isSome_read_of_sending {line : List UInt8} (place : s.reader = .sending line)
    (hlines : s.lines = []) : (s.step .read).isSome = true := by
  have hroom : 0 < s.settings.lineCapacity := by
    simp only [Settings.Decoding.lineCapacity, Settings.boundedProduct, Settings.wordLimit,
      Settings.Decoding.poolSize, Settings.Decoding.linesPerWorker]
    omega
  by_cases hleaves : s.cancelled ∨ s.allGone
  · simp [step, read, place, hleaves]
  · simp [step, read, place, hleaves, hlines, hroom]

/-- A worker can go on from before a line when there is one, or none will come. -/
theorem isSome_work_of_idle (now : Timestamp) (place : s.workers[i]? = some .idle)
    (h : s.lines ≠ [] ∨ s.reader = .gone) : (s.step (.work i now)).isSome = true := by
  cases hlines : s.lines with
  | cons line lines => simp [step, work, place, hlines]
  | nil =>
    have hgone := h.resolve_left (by simp [hlines])
    simp [step, work, place, hlines, hgone]

/-- A worker with a result in hand can send it, or the receiver can take something. -/
theorem isSome_work_of_holding (now : Timestamp) {result : Except DecodeError Record}
    (place : s.workers[i]? = some (.holding result)) :
    (s.step (.work i now)).isSome = true ∨ (s.step .receiveRecord).isSome = true ∨
      (s.step .receiveError).isSome = true := by
  have hroom : 0 < s.settings.outputCapacity := Nat.lt_of_lt_of_le Nat.one_pos (Nat.le_max_left _ _)
  cases result with
  | ok r =>
    have h := s.records.isSome_send_or_receive hroom r
    simp only [step, work, place, sendResult, Option.isSome_map]
    exact h.imp_right Or.inl
  | error e =>
    have h := s.errors.isSome_send_or_receive hroom e
    simp only [step, work, place, sendResult, Option.isSome_map]
    exact h.imp_right Or.inr

/-- As long as a stream has not ended, the reader or a worker is not gone. -/
theorem exists_staying_of_hasEnded (h : s.hasEnded = false) :
    s.reader ≠ .gone ∨
      ∃ (i : Nat) (place : DecodeWorker), s.workers[i]? = some place ∧ place ≠ .gone := by
  by_contra hnone
  push Not at hnone
  obtain ⟨hreader, hworkers⟩ := hnone
  simp only [hasEnded, hreader, Bool.true_and, allGone, List.all_eq_false] at h
  obtain ⟨place, hmem, hplace⟩ := h
  obtain ⟨i, hi⟩ := List.mem_iff_getElem?.mp hmem
  rw [hworkers i place hi] at hplace
  exact hplace rfl

/-! ### What a step of the reader leaves to do -/

theorem Move.length_unread (hs : s.Sound) (hlive : s.cancelled = false)
    (h : Move s next s' log out) :
    s.lines.length + s.unread.length = log.length + (s'.lines.length + s'.unread.length) := by
  have hlength := congrArg List.length (h.lines_eq hs hlive)
  simpa using hlength

/-- **Each step of the reader** brings the lines nearer to those who decode them. -/
theorem Move.toRead_lt (hs : s.Sound) (h : Move s .read s' log out) :
    s'.toRead + 4 * s'.lines.length < s.toRead + 4 * s.lines.length := by
  have hlength := fun hlive => h.length_unread hs hlive
  cases h with
  | stop place =>
    cases hreader : s.reader with
    | gone => exact absurd hreader place
    | reading part =>
      simp only [toRead, unread, hreader, List.length_nil]
      omega
    | sending line =>
      simp only [toRead, unread, hreader, List.length_cons, List.length_nil]
      omega
  | cut place hc | lastLine place hc | inputEnds place hc =>
    have hlength := hlength hc
    simp only [List.length_nil] at hlength
    simp only [toRead, place]
    omega
  | fetch place hc hbuffered hpieces =>
    have hlength := hlength hc
    simp only [List.length_nil] at hlength
    simp only [toRead, place, hpieces, List.length_cons]
    omega
  | enqueue place hc =>
    have hlength := hlength hc
    simp only [List.length_nil, List.length_append, List.length_singleton] at hlength
    simp only [toRead, place, List.length_append, List.length_singleton]
    omega
  | loseLine place =>
    simp only [toRead, unread, place, List.length_cons, List.length_nil]
    omega

/-- Who is not the reader leaves it as much to do. -/
theorem Move.toRead_eq (h : Move s next s' log out) (hnext : next ≠ .read) :
    s'.toRead = s.toRead := by
  cases h with
  | stop | cut | fetch | lastLine | inputEnds | enqueue | loseLine => exact absurd rfl hnext
  | _ => rfl

end LineStream

namespace LockedStream

variable {s s' : LockedStream} {next : LockedStep} {steps : List LockedStep} {i : Nat}
  {decoder : Decoder} {settings : Settings.Decoding}
  {pieces : List (List UInt8)} {fails cancelled : Bool}

/-! ### What a step can do -/

/-- A step is the taking of a lock that is free by a worker before a line, or a step of the
stream that is permitted. -/
theorem step_cases (h : s.step next = some s') :
    (∃ i, next = .lock i ∧ s.holder = none ∧ s.stream.workers[i]? = some .idle ∧
      s' = { s with holder := some i }) ∨
    ∃ move, next = .stream move ∧ s.permits move = true ∧ s.stream.step move = some s'.stream ∧
      s'.holder = s.holderAfter move := by
  cases next with
  | lock i =>
    simp only [step] at h
    split at h
    · rename_i hfree
      cases h
      exact Or.inl ⟨i, rfl, hfree.1, LineStream.isIdle_iff.mp hfree.2, rfl⟩
    · cases h
  | stream move =>
    simp only [step] at h
    split at h
    · obtain ⟨stream, hstream, rfl⟩ := Option.map_eq_some_iff.mp h
      exact Or.inr ⟨move, rfl, ‹_›, hstream, rfl⟩
    · cases h

/-- A worker goes on from before a line only with the lock, and lets go of it. -/
theorem holder_of_idle (now : Timestamp) (place : s.stream.workers[i]? = some .idle) :
    (s.permits (.work i now) = true ↔ s.holder = some i) ∧ s.holderAfter (.work i now) = none := by
  have hidle := LineStream.isIdle_iff.mpr place
  simp [permits, holderAfter, hidle]

/-- A worker with a result in hand has nothing to do with the lock. -/
theorem holder_of_holding (now : Timestamp) {result : Except DecodeError Record}
    (place : s.stream.workers[i]? = some (.holding result)) :
    s.permits (.work i now) = true ∧ s.holderAfter (.work i now) = s.holder := by
  have hbusy : s.stream.isIdle i = false := by
    rw [← Bool.not_eq_true, LineStream.isIdle_iff, place]
    simp
  simp [permits, holderAfter, hbusy]

/-! ### What every run keeps -/

/-- **What holds of every state** that a start can come to: the stream is sound, and who has the
lock is before a line. -/
structure Sound (s : LockedStream) : Prop where
  stream : s.stream.Sound
  holder : ∀ i, s.holder = some i → s.stream.workers[i]? = some .idle

theorem sound_start : (start decoder settings pieces fails cancelled).Sound where
  stream := LineStream.sound_start decoder settings pieces fails cancelled
  holder := by simp [start]

/-- A worker before a line stays there as long as others move. -/
theorem idle_of_move {stream stream' : LineStream} {move : StreamStep} {log : List Taking}
    {out : List Sending} (h : LineStream.Move stream move stream' log out)
    (place : stream.workers[i]? = some .idle) (hmove : ∀ now, move ≠ .work i now) :
    stream'.workers[i]? = some .idle := by
  cases h with
  | pass => exact place
  | @decode j now | @leave j now | @sendRecord j now | @sendError j now | @loseRecord j now
  | @loseError j now =>
    have hne : j ≠ i := fun heq => hmove now (heq ▸ rfl)
    simpa [LineStream.setWorker, List.getElem?_set_ne hne] using place
  | _ => exact place

theorem Sound.step (hs : s.Sound) (h : s.step next = some s') : s'.Sound := by
  obtain ⟨i, -, -, place, rfl⟩ | ⟨move, -, hpermits, hstep, hholder⟩ := step_cases h
  · refine ⟨hs.stream, ?_⟩
    rintro j ⟨⟩
    exact place
  · have hmove := LineStream.move_of_step hstep
    refine ⟨hs.stream.move hmove, fun i hi => ?_⟩
    rw [hholder] at hi
    -- Who has the lock had it before and did not move, or he would have let go of it.
    have hheld : s.holder = some i := by
      unfold holderAfter at hi
      split at hi
      · split at hi
        · cases hi
        · exact hi
      · exact hi
    have place := hs.holder i hheld
    refine idle_of_move hmove place ?_
    rintro now rfl
    rw [(holder_of_idle now place).2] at hi
    cases hi

/-- The steps of the stream in a run. -/
def streamSteps (steps : List LockedStep) : List StreamStep := steps.filterMap LockedStep.stream?

/-- **A run with the lock is a run of the stream.** -/
theorem run_stream (h : s.run steps = some s') :
    s.stream.run (streamSteps steps) = some s'.stream := by
  induction steps generalizing s with
  | nil =>
    cases h
    rfl
  | cons next steps ih =>
    obtain ⟨between, hstep, hrest⟩ := Option.bind_eq_some_iff.mp h
    obtain ⟨i, rfl, -, -, rfl⟩ | ⟨move, rfl, -, hstream, -⟩ := step_cases hstep
    · have hstream := ih hrest
      exact hstream
    · have hsteps : streamSteps (.stream move :: steps) = move :: streamSteps steps := rfl
      rw [hsteps, LineStream.run, List.foldlM_cons, hstream]
      exact ih hrest

/-! ### Nobody is stuck -/

/-- A worker with a result in hand can send it, or the receiver can take something. -/
theorem exists_step_of_holding {result : Except DecodeError Record}
    (place : s.stream.workers[i]? = some (.holding result)) :
    ∃ next, next.isSteady = true ∧ (s.step next).isSome = true := by
  rcases LineStream.isSome_work_of_holding .epoch place with h | h | h
  · have hpermits := (holder_of_holding .epoch place).1
    exact ⟨.stream (.work i .epoch), rfl, by simpa [step, hpermits] using h⟩
  · exact ⟨.stream .receiveRecord, rfl, by simpa [step, permits] using h⟩
  · exact ⟨.stream .receiveError, rfl, by simpa [step, permits] using h⟩

/-- When a worker is before a line, and there is one or none will come, somebody takes the lock
or has it and can go on. -/
theorem exists_step_of_idle (hs : s.Sound) (place : s.stream.workers[i]? = some .idle)
    (h : s.stream.lines ≠ [] ∨ s.stream.reader = .gone) :
    ∃ next, next.isSteady = true ∧ (s.step next).isSome = true := by
  cases hholder : s.holder with
  | none => exact ⟨.lock i, rfl, by simp [step, hholder, LineStream.isIdle_iff.mpr place]⟩
  | some j =>
    have hj := hs.holder j hholder
    have hwork := LineStream.isSome_work_of_idle .epoch hj h
    have hpermits := (holder_of_idle .epoch hj).1.mpr hholder
    exact ⟨.stream (.work j .epoch), rfl, by simpa [step, hpermits] using hwork⟩

/-- **Nobody is stuck**: a stream that has not ended can go on, or a receiver can take
something. -/
theorem exists_step_of_hasEnded (hs : s.Sound) (h : s.stream.hasEnded = false) :
    ∃ next, next.isSteady = true ∧ (s.step next).isSome = true := by
  -- A worker that is not gone goes on when the reader is gone or there is a line.
  have hworkers : ∀ (i : Nat) (place : DecodeWorker), s.stream.workers[i]? = some place →
      place ≠ .gone → s.stream.lines ≠ [] ∨ s.stream.reader = .gone →
      ∃ next, next.isSteady = true ∧ (s.step next).isSome = true := by
    intro i place hplace hstays hline
    cases place with
    | idle => exact exists_step_of_idle hs hplace hline
    | holding result => exact exists_step_of_holding hplace
    | gone => exact absurd rfl hstays
  have hread : (s.stream.step .read).isSome = true →
      ∃ next, next.isSteady = true ∧ (s.step next).isSome = true :=
    fun hread => ⟨.stream .read, rfl, by simpa [step, permits] using hread⟩
  cases hreader : s.stream.reader with
  | reading part => exact hread (LineStream.isSome_read_of_reading hreader)
  | sending line =>
    by_cases hlines : s.stream.lines = []
    · exact hread (LineStream.isSome_read_of_sending hreader hlines)
    · -- No worker is gone, for the reader is not.
      obtain ⟨place, hmem⟩ := List.exists_mem_of_ne_nil _ hs.stream.staffed
      obtain ⟨i, hi⟩ := List.mem_iff_getElem?.mp hmem
      refine hworkers i place hi ?_ (Or.inl hlines)
      rintro rfl
      simp [(hs.stream.exits hmem).1] at hreader
  | gone =>
    obtain hstays | ⟨i, place, hi, hstays⟩ := LineStream.exists_staying_of_hasEnded h
    · exact absurd hreader hstays
    · exact hworkers i place hi hstays (Or.inr hreader)

/-! ### There is an end to it -/

/-- The lock is taken before a worker goes on from before a line, and free after it. -/
theorem isNone_holder_of_idle (now : Timestamp) (place : s.stream.workers[i]? = some .idle)
    (hpermits : s.permits (.work i now) = true) :
    s.holder.isNone = false ∧ (s.holderAfter (.work i now)).isNone = true := by
  obtain ⟨hlock, hafter⟩ := holder_of_idle now place
  rw [hlock.mp hpermits, hafter]
  exact ⟨rfl, rfl⟩

/-- A permitted step of the stream brings it nearer to its end. -/
theorem remaining_lt_of_move (hs : s.Sound) {move : StreamStep} {stream' : LineStream}
    {log : List Taking} {out : List Sending} (hpermits : s.permits move = true)
    (h : LineStream.Move s.stream move stream' log out) :
    (⟨stream', s.holderAfter move⟩ : LockedStream).remaining < s.remaining := by
  by_cases hnext : move = .read
  · subst hnext
    have hread := h.toRead_lt hs.stream
    cases h with
    | stop | cut | fetch | lastLine | inputEnds | enqueue | loseLine =>
      simp only [remaining, holderAfter] at hread ⊢
      omega
  have hread := h.toRead_eq hnext
  cases h with
  | stop | cut | fetch | lastLine | inputEnds | enqueue | loseLine => exact absurd rfl hnext
  | @pass i now line lines place hlines =>
    obtain ⟨hheld, hfree⟩ := isNone_holder_of_idle now place hpermits
    simp only [remaining, hread, hheld, hfree, hlines, List.length_cons, Bool.toNat_true,
      Bool.toNat_false]
    omega
  | @decode i now line lines result place hlines =>
    have hset := ListFacts.sum_map_set DecodeWorker.remaining (.holding result) place
    obtain ⟨hheld, hfree⟩ := isNone_holder_of_idle now place hpermits
    simp only [remaining, LineStream.setWorker, DecodeWorker.remaining, hheld, hfree, hlines,
      List.length_cons, Bool.toNat_true, Bool.toNat_false] at hset hread ⊢
    omega
  | @leave i now place =>
    have hset := ListFacts.sum_map_set DecodeWorker.remaining .gone place
    obtain ⟨hheld, hfree⟩ := isNone_holder_of_idle now place hpermits
    simp only [remaining, LineStream.setWorker, DecodeWorker.remaining, hheld, hfree,
      Bool.toNat_true, Bool.toNat_false] at hset hread ⊢
    omega
  | @sendRecord i now _ place | @sendError i now _ place | @loseRecord i now _ place
  | @loseError i now _ place =>
    have hset := ListFacts.sum_map_set DecodeWorker.remaining .idle place
    have hafter := (holder_of_holding now place).2
    simp only [remaining, LineStream.setWorker, DecodeWorker.remaining, hafter,
      List.length_append, List.length_singleton] at hset hread ⊢
    omega
  | receiveRecord h | receiveError h =>
    obtain ⟨hopen, b, hqueue, -, hopen'⟩ := Outlet.receive_eq_some h
    simp only [remaining, hread, holderAfter, hqueue, hopen, hopen', List.length_cons]
    omega
  | dropRecords | dropErrors =>
    simp only [permits] at hpermits
    simp only [remaining, holderAfter, Outlet.drop, hpermits, List.length_nil, Bool.toNat_true,
      Bool.toNat_false] at hread ⊢
    omega
  | cancel =>
    simp only [permits, Bool.not_eq_true'] at hpermits
    simp only [remaining, hread, holderAfter, hpermits, Bool.not_true, Bool.not_false,
      Bool.toNat_true, Bool.toNat_false]
    omega

/-- **Each step brings a stream nearer to its end**, whoever takes it. -/
theorem remaining_lt_of_step (hs : s.Sound) (h : s.step next = some s') :
    s'.remaining < s.remaining := by
  obtain ⟨i, rfl, hfree, -, rfl⟩ | ⟨move, rfl, hpermits, hstep, hholder⟩ := step_cases h
  · simp [remaining, hfree]
  · have hmove := remaining_lt_of_move hs hpermits (LineStream.move_of_step hstep)
    rw [← hholder] at hmove
    exact hmove

/-! ### The end -/

/-- **Runs are finite**: a run has no more steps than its beginning had to do. -/
theorem sound_of_run (hs : s.Sound) (h : s.run steps = some s') :
    s'.Sound ∧ steps.length + s'.remaining ≤ s.remaining := by
  induction steps generalizing s with
  | nil =>
    cases h
    exact ⟨hs, by simp⟩
  | cons next steps ih =>
    obtain ⟨between, hstep, hrest⟩ := Option.bind_eq_some_iff.mp h
    have hless := remaining_lt_of_step hs hstep
    obtain ⟨hsound, hle⟩ := ih (hs.step hstep) hrest
    refine ⟨hsound, ?_⟩
    rw [List.length_cons]
    omega

/-- What there is to do at the start: six steps for each line, one for each piece, two for each
worker, and five for the reader, the lock, both receivers and who cancels. -/
theorem remaining_start : (start decoder settings pieces fails cancelled).remaining ≤
    6 * (Text.readLines fails pieces.flatten).length + pieces.length + 2 * settings.poolSize
      + 5 := by
  have hcancel := Bool.toNat_le (!cancelled)
  simp only [remaining, LineStream.toRead, LineStream.unread, start, LineStream.start, Outlet.empty,
    DecodeWorker.remaining, List.nil_append, List.length_nil, List.map_replicate,
    List.sum_replicate_nat, Option.isNone_none, Bool.toNat_true]
  omega

/-- A receiver with nothing to take has taken all that was sent to it. -/
theorem received_eq_sent {k : ResultKind} (hk : s.stream.hasReceiver k = true)
    (h : ∀ next : LockedStep, next.isSteady = true → s.step next = none) :
    s.stream.received k = s.stream.sent k := by
  cases k with
  | record =>
    have hreceive := Option.map_eq_none_iff.mp (h (.stream .receiveRecord) rfl)
    have hqueue := Outlet.queue_eq_nil hk (Option.map_eq_none_iff.mp hreceive)
    rw [LineStream.received, LineStream.sent, Outlet.sent, hqueue, List.append_nil]
  | fault =>
    have hreceive := Option.map_eq_none_iff.mp (h (.stream .receiveError) rfl)
    have hqueue := Outlet.queue_eq_nil hk (Option.map_eq_none_iff.mp hreceive)
    rw [LineStream.received, LineStream.sent, Outlet.sent, hqueue, List.append_nil]

/-- Who is gone neither sends nor has the lock. -/
theorem senders_eq_zero (hs : s.Sound) (hended : s.stream.hasEnded = true) :
    s.stream.senders = 0 ∧ s.holder = none := by
  obtain ⟨-, hgone, -⟩ := LineStream.held_of_hasEnded hended
  constructor
  · rw [LineStream.senders, List.length_eq_zero_iff, List.filter_eq_nil_iff]
    intro place hmem
    rw [hgone place hmem]
    exact Bool.false_ne_true
  · rw [Option.eq_none_iff_forall_ne_some]
    intro i hi
    have hmem := List.mem_of_getElem? (hs.holder i hi)
    cases hgone _ hmem

/-- **A stream comes to its end** while each receiver takes what is there or leaves. Take a state
of any run, for any input that ends or fails, with any number of workers and any room in the
channels. Unless the stream has ended, the reader, a worker or a receiver can go on. No run is
longer than six steps for each line, one for each piece of the input, two for each worker, and
five. When nobody can go on, the stream has ended and each receiver that is there has taken all
that was sent to it. At the end both channels are closed, for nobody is left who could send; the
lock is free, and every line that was put into the queue was taken from it, decoded and sent on.
These are all lines of the input if nobody cancelled the stream. -/
theorem comes_to_its_end
    (h : (start decoder settings pieces fails cancelled).run steps = some s) :
    let lines := Text.readLines fails pieces.flatten
    let taken := (LineStream.start decoder settings pieces fails cancelled).takings
      (streamSteps steps)
    (s.stream.hasEnded = false → ∃ next, next.isSteady = true ∧ (s.step next).isSome = true) ∧
    steps.length + s.remaining ≤ 6 * lines.length + pieces.length + 2 * settings.poolSize + 5 ∧
    ((∀ next : LockedStep, next.isSteady = true → s.step next = none) →
      s.stream.hasEnded = true ∧
        ∀ k, s.stream.hasReceiver k = true → s.stream.received k = s.stream.sent k) ∧
    (s.stream.hasEnded = true →
      s.stream.senders = 0 ∧ s.holder = none ∧ s.stream.lines = [] ∧ s.stream.held = [] ∧
      taken.length = s.stream.summary.lines ∧
      (cancelled = false → .stream .cancel ∉ steps → taken.map Taking.line = lines)) := by
  intro lines taken
  obtain ⟨hs, hle⟩ := sound_of_run sound_start h
  have hrun := run_stream h
  obtain ⟨-, hpassed⟩ := LineStream.passed_of_run
    (LineStream.sound_start decoder settings pieces fails cancelled) hrun
  have hgoes := exists_step_of_hasEnded hs
  refine ⟨hgoes, Nat.le_trans hle remaining_start,
    fun hnone => ⟨?_, fun k hk => received_eq_sent hk hnone⟩, fun hended => ?_⟩
  · by_contra hended
    obtain ⟨next, hsteady, hnext⟩ := hgoes (Bool.eq_false_iff.mpr hended)
    rw [hnone next hsteady] at hnext
    cases hnext
  · obtain ⟨hsenders, hfree⟩ := senders_eq_zero hs hended
    have hlines := hs.stream.lines_eq_nil hended
    refine ⟨hsenders, hfree, hlines, (LineStream.held_of_hasEnded hended).2.2, ?_, ?_⟩
    · rw [hpassed.lines_eq_length, hlines]
      rfl
    · rintro rfl hcancel
      refine hpassed.input_taken hs.stream hended (LineStream.live_of_run rfl hrun ?_)
      intro hmem
      obtain ⟨next, hnext, hstep⟩ := List.mem_filterMap.mp hmem
      cases next with
      | lock i => cases hstep
      | stream move =>
        cases hstep
        exact hcancel hnext

/-- Steps of two workers and three lines, with room for one record: in the end the channel is full
and both workers wait with a record in hand. -/
def channelFull : List LockedStep :=
  [.stream .read, .stream .read, .stream .read, .lock 1, .stream (.work 1 .epoch),
    .stream (.work 1 .epoch), .stream .read, .stream .read, .lock 0, .stream (.work 0 .epoch),
    .stream .read, .stream .read, .lock 1, .stream (.work 1 .epoch), .stream .read]

/-- Steps from there to the end. -/
def channelServed : List LockedStep :=
  [.stream .receiveRecord, .stream (.work 0 .epoch), .lock 0, .stream .receiveRecord,
    .stream (.work 1 .epoch), .stream (.work 0 .epoch), .lock 1, .stream (.work 1 .epoch),
    .stream .receiveRecord]

theorem comes_to_its_end_channelFull :
    let bytes : List UInt8 := [97, 32, 49, 10, 98, 32, 50, 10, 99, 32, 51]
    let first := start ⟨.empty, .compat⟩ { workers := 2, channelCapacity := 0 } [bytes] false false
    ∃ s s', first.run channelFull = some s ∧ s.stream.hasEnded = false ∧
      (s.step (.stream .read)).isSome = false ∧ (s.step (.lock 0)).isSome = false ∧
      (s.step (.stream (.work 0 .epoch))).isSome = false ∧
      (∃ next, next.isSteady = true ∧ (s.step next).isSome = true) ∧ s.remaining ≤ 13 ∧
      first.run (channelFull ++ channelServed) = some s' ∧ s'.stream.hasEnded = true ∧
      s'.stream.senders = 0 ∧
      (first.stream.takings (streamSteps (channelFull ++ channelServed))).map Taking.line =
        [[97, 32, 49], [98, 32, 50], [99, 32, 51]] := by
  intro bytes first
  have hfull : (first.run channelFull).map (fun s => (s.stream.hasEnded,
      (s.step (.stream .read)).isSome, (s.step (.lock 0)).isSome,
      (s.step (.stream (.work 0 .epoch))).isSome)) = some (false, false, false, false) := by
    decide +kernel
  have hserved : (first.run (channelFull ++ channelServed)).map (fun s => s.stream.hasEnded) =
      some true := by decide +kernel
  have hlines : Text.readLines false [bytes].flatten =
      [[97, 32, 49], [98, 32, 50], [99, 32, 51]] := by decide +kernel
  obtain ⟨s, h, heq⟩ := Option.map_eq_some_iff.mp hfull
  obtain ⟨s', h', hended⟩ := Option.map_eq_some_iff.mp hserved
  simp only [Prod.mk.injEq] at heq
  obtain ⟨hopen, hread, hlock, hwork⟩ := heq
  obtain ⟨hgoes, hbound, -⟩ := comes_to_its_end h
  obtain ⟨-, -, -, hend⟩ := comes_to_its_end h'
  obtain ⟨hsenders, -, -, -, -, htaken⟩ := hend hended
  have hcancel : .stream .cancel ∉ channelFull ++ channelServed := by
    simp [channelFull, channelServed]
  rw [hlines] at htaken hbound
  have hbound : 15 + s.remaining ≤ 28 := hbound
  exact ⟨s, s', h, hopen, hread, hlock, hwork, hgoes hopen, by omega, h', hended, hsenders,
    htaken rfl hcancel⟩

end LockedStream

end MetricIngest
