/-
  How a run of a pipeline splits.

  `Pipeline.Move` lists the ways in which a step can go, and `move_of_step` says that there are no
  others. A run of a pipeline that nobody cancels is a run of its stream and a run of its writer;
  what the stream's receiver of records takes in the one is what is pushed into the
  buffer in the other. `split_of_run` says so, move by move; the buffer is closed only
  when the stream has nothing more to give, so no push is ever refused.
-/
import MetricIngest.Pipeline
import MetricIngest.Proofs.Stream.Agreement
import MetricIngest.Proofs.Writer.Ledger

namespace MetricIngest

open History

/-! ### Moves of the parts -/

/-- Only a closed buffer refuses records. -/
theorem Buffer.closed_of_push {α : Type} {b : Buffer α} {a : α} {e : BufferError}
    (h : b.push a = .error e) : b.closed = true := by
  unfold push at h
  split at h
  · assumption
  · cases h

/-- A stream that has ended and has nothing left in its channels does nothing more. -/
theorem LineStream.not_move_of_served {s s' : LineStream} {next : StreamStep} {log : List Taking}
    {out : List Sending} (hended : s.hasEnded = true) (hrecords : s.records.queue = [])
    (herrors : s.errors.queue = []) (hnext : next.isSteady = true) : ¬ Move s next s' log out := by
  intro h
  obtain ⟨hreader, hgone, _⟩ := held_of_hasEnded hended
  have hplace : ∀ {i : Nat} {place : DecodeWorker}, s.workers[i]? = some place → place = .gone :=
    fun h => hgone _ (List.mem_of_getElem? h)
  cases h with
  | stop place => exact place hreader
  | cut place | fetch place | lastLine place | inputEnds place | enqueue place
  | loseLine place =>
    simp [hreader] at place
  | pass place | decode place | leave place | sendRecord place | sendError place
  | loseRecord place | loseError place => cases hplace place
  | receiveRecord hreceive =>
    obtain ⟨_, b, hqueue, _⟩ := Outlet.receive_eq_some hreceive
    simp [hrecords] at hqueue
  | receiveError hreceive =>
    obtain ⟨_, b, hqueue, _⟩ := Outlet.receive_eq_some hreceive
    simp [herrors] at hqueue
  | dropRecords | dropErrors | cancel => cases hnext

namespace Pipeline

variable {p p' p'' : Pipeline} {next : PipelineStep} {steps : List PipelineStep}
  {events more : History Record}

/-! ### The moves -/

/-- What a step of the pipeline is for the stream. -/
def streamStep? : PipelineStep → Option StreamStep
  | .read => some .read
  | .decode i now => some (.work i now)
  | .passOver => some .receiveError
  | .forward => some .receiveRecord
  | .cancel => some .cancel
  | .closeBuffer | .write _ | .fail => none

/-- The ways in which a step can go: what a way needs, the state that it leaves, and what happens
at the writer. -/
inductive Move (p : Pipeline) : PipelineStep → Pipeline → History Record → Prop where
  /-- The stream goes on, and the writer has no part in it. -/
  | flow {next taken stream} (hnext : streamStep? next = some taken)
    (hsteady : taken.isSteady = true) (hown : taken ≠ .receiveRecord)
    (hstream : p.stream.step taken = some stream) : Move p next { p with stream } []
  /-- The receiver of records pushes what it takes. -/
  | forward {r rest stream writer events} (hqueue : p.stream.records.queue = r :: rest)
    (hstream : p.stream.step .receiveRecord = some stream)
    (hwriter : p.writer.step (.push r) = some (writer, events)) :
    Move p .forward { p with stream, writer } events
  /-- The buffer is closed. -/
  | closeBuffer {writer events} (hserved : p.isServed = true)
    (hwriter : p.writer.step .closeBuffer = some (writer, events)) :
    Move p .closeBuffer { p with writer } events
  /-- The writer goes on. -/
  | write {next writer events} (hown : isOwn next = true) (hpermits : p.permits next = true)
    (hwriter : p.writer.step next = some (writer, events)) :
    Move p (.write next) { p with writer } events
  /-- The task of the writer fails. -/
  | fail (hlive : p.failed = false) (hphase : p.writer.phase = .collecting)
    (hdeadline : p.writer.accumulator.deadline? p.horizon = none) :
    Move p .fail { p with failed := true } []
  /-- Both parts are cancelled. -/
  | cancel {stream writer events} (hstream : p.stream.step .cancel = some stream)
    (hwriter : p.writer.step .cancel = some (writer, events)) :
    Move p .cancel { p with stream, writer } events

theorem isFailing_iff : p.isFailing = true ↔ p.failed = false ∧ p.writer.phase = .collecting ∧
    p.writer.accumulator.deadline? p.horizon = none := by
  unfold isFailing
  cases p.writer.phase <;> simp

/-- A step of the stream that nothing else has a part in. -/
theorem move_of_flow {taken : StreamStep} (hnext : streamStep? next = some taken)
    (hsteady : taken.isSteady = true) (hown : taken ≠ .receiveRecord)
    (h : (p.stream.step taken).map (fun stream => ({ p with stream }, ([] : History Record))) =
      some (p', events)) : Move p next p' events := by
  obtain ⟨stream, hstream, heq⟩ := Option.map_eq_some_iff.mp h
  cases heq
  exact .flow hnext hsteady hown hstream

/-- **No step goes in another way** than the moves. -/
theorem move_of_step (h : p.step next = some (p', events)) : Move p next p' events := by
  cases next with
  | read => exact move_of_flow rfl rfl (by simp) h
  | decode i now => exact move_of_flow rfl rfl (by simp) h
  | passOver => exact move_of_flow rfl rfl (by simp) h
  | forward =>
    simp only [step] at h
    split at h
    · rename_i r rest stream hqueue hstream
      obtain ⟨⟨writer, events'⟩, hwriter, heq⟩ := Option.map_eq_some_iff.mp h
      cases heq
      exact .forward hqueue hstream hwriter
    · cases h
  | closeBuffer =>
    simp only [step] at h
    split at h
    · obtain ⟨⟨writer, events'⟩, hwriter, heq⟩ := Option.map_eq_some_iff.mp h
      cases heq
      exact .closeBuffer ‹_› hwriter
    · cases h
  | write next =>
    simp only [step] at h
    split at h
    · rename_i hable
      obtain ⟨⟨writer, events'⟩, hwriter, heq⟩ := Option.map_eq_some_iff.mp h
      cases heq
      exact .write hable.1 hable.2 hwriter
    · cases h
  | fail =>
    simp only [step] at h
    split at h
    · rename_i hfailing
      obtain ⟨hlive, hphase, hdeadline⟩ := isFailing_iff.mp hfailing
      cases h
      exact .fail hlive hphase hdeadline
    · cases h
  | cancel =>
    simp only [step] at h
    split at h
    · rename_i hstream hwriter
      cases h
      exact .cancel hstream hwriter
    · cases h

/-! ### Splitting -/

/-- The buffer is closed only when the stream has nothing more to give. -/
def Orderly (p : Pipeline) : Prop := p.writer.buffer.closed = true → p.isServed = true

/-- **How steps split** that lead from one state to another, with these steps of the stream
and these events of the writer: each part makes a run of its own, and what is received of
the one is pushed into the other. -/
structure Split (p : Pipeline) (taken : List StreamStep) (events : History Record)
    (p' : Pipeline) : Prop where
  stream : p.stream.run taken = some p'.stream
  writer : ∃ steps, p.writer.run steps = some (p'.writer, events) ∧ .cancel ∉ steps ∧
    ∀ i, .work i (some .closed) ∉ steps
  received : p'.stream.records.received = p.stream.records.received ++ pushed events

theorem Split.refl (p : Pipeline) : p.Split [] [] p where
  stream := rfl
  writer := ⟨[], rfl, List.not_mem_nil, fun _ => List.not_mem_nil⟩
  received := (List.append_nil _).symm

theorem Split.trans {taken others : List StreamStep} (h : p.Split taken events p')
    (h' : p'.Split others more p'') : p.Split (taken ++ others) (events ++ more) p'' where
  stream := List.foldlM_append.trans (Option.bind_eq_some_iff.mpr ⟨_, h.stream, h'.stream⟩)
  writer := by
    obtain ⟨steps, hrun, hcancel, hfault⟩ := h.writer
    obtain ⟨steps', hrun', hcancel', hfault'⟩ := h'.writer
    refine ⟨steps ++ steps', Steps.run_append hrun hrun', ?_, ?_⟩
    · rw [List.mem_append, not_or]
      exact ⟨hcancel, hcancel'⟩
    · intro i
      rw [List.mem_append, not_or]
      exact ⟨hfault i, hfault' i⟩
  received := by rw [h'.received, h.received, pushed_append, List.append_assoc]

/-- Only the receiver of records takes records. -/
theorem received_of_move {s s' : LineStream} {taken : StreamStep} {log : List Taking}
    {out : List Sending} (h : LineStream.Move s taken s' log out)
    (htaken : taken ≠ .receiveRecord) : s'.records.received = s.records.received := by
  cases h with
  | receiveRecord => exact absurd rfl htaken
  | _ => rfl

/-- While the stream still does something the buffer is open. -/
theorem Orderly.closed_eq_false (ho : p.Orderly) {taken : StreamStep} {stream : LineStream}
    (h : p.stream.step taken = some stream) (htaken : taken.isSteady = true) :
    p.writer.buffer.closed = false := by
  by_contra hclosed
  rw [Bool.not_eq_false] at hclosed
  have hserved := ho hclosed
  unfold isServed at hserved
  simp only [Bool.and_eq_true, List.isEmpty_iff] at hserved
  exact LineStream.not_move_of_served hserved.1.1 hserved.1.2 hserved.2 htaken
    (LineStream.move_of_step h)

/-- A step of the stream alone comes while the buffer is open. -/
theorem split_of_flow {taken : StreamStep} {stream : LineStream} (ho : p.Orderly)
    (hsteady : taken.isSteady = true) (hown : taken ≠ .receiveRecord)
    (h : p.stream.step taken = some stream) :
    p.Split [taken] [] { p with stream } ∧ ({ p with stream } : Pipeline).Orderly := by
  refine ⟨⟨by simp [LineStream.run, h], ⟨[], rfl, List.not_mem_nil, fun _ => List.not_mem_nil⟩, ?_⟩,
    fun hclosed => ?_⟩
  · rw [received_of_move (LineStream.move_of_step h) hown]
    exact (List.append_nil _).symm
  · have hopen := ho.closed_eq_false h hsteady
    simp [hopen] at hclosed

/-- What the receiver of records takes is pushed into the buffer, which is open. -/
theorem split_of_forward {r : Record} {rest : List Record} {stream : LineStream}
    {writer : Writer Record} (ho : p.Orderly) (hqueue : p.stream.records.queue = r :: rest)
    (hstream : p.stream.step .receiveRecord = some stream)
    (hwriter : p.writer.step (.push r) = some (writer, events)) :
    p.Split [.receiveRecord] events { p with stream, writer } ∧
      ({ p with stream, writer } : Pipeline).Orderly := by
  -- The stream had something to give, so the buffer is open and takes the record.
  have hopen := ho.closed_eq_false hstream rfl
  have hreceived : stream.records.received = p.stream.records.received ++ [r] := by
    cases LineStream.move_of_step hstream with
    | receiveRecord hreceive =>
      obtain ⟨_, b, hb, hreceived, _⟩ := Outlet.receive_eq_some hreceive
      rw [hqueue, List.cons.injEq] at hb
      rw [hreceived, hb.1]
  cases Writer.move_of_step hwriter with
  | push accepted =>
    refine ⟨⟨by simp [LineStream.run, hstream], ?_, hreceived⟩, fun hclosed => ?_⟩
    · exact ⟨[.push r], Steps.run_singleton hwriter, by simp, by simp⟩
    · simp [(Buffer.push_ok accepted).2.2] at hclosed
  | refuse refused => simp [Buffer.closed_of_push refused] at hopen

/-- A step of the writer leaves the stream and the buffer's lid as they are. -/
theorem split_of_write {next : WriterStep Record} {writer : Writer Record} (ho : p.Orderly)
    (hown : isOwn next = true) (h : p.writer.step next = some (writer, events)) :
    p.Split [] events { p with writer } ∧ ({ p with writer } : Pipeline).Orderly := by
  have hmove := Writer.move_of_step h
  have hpushed : pushed events = [] := by
    apply Writer.pushed_of_move hmove
    rintro a rfl
    simp [isOwn] at hown
  have hclosed : writer.buffer.closed = p.writer.buffer.closed := by
    apply Writer.closed_of_move hmove
    rintro rfl
    simp [isOwn] at hown
  refine ⟨⟨rfl, ⟨[next], Steps.run_singleton h, ?_, ?_⟩, by simp [hpushed]⟩, ?_⟩
  · intro hmem
    obtain rfl := List.mem_singleton.mp hmem
    simp [isOwn] at hown
  · intro i hmem
    obtain rfl := List.mem_singleton.mp hmem
    simp [isOwn] at hown
  · intro hlid
    exact ho (hclosed.symm.trans hlid)

/-- **A move splits**, and it leaves the buffer open as long as the stream gives something. -/
theorem Move.split (h : Move p next p' events) (ho : p.Orderly) (hnext : next ≠ .cancel) :
    p.Split (streamStep? next).toList events p' ∧ p'.Orderly := by
  cases h with
  | flow hstep hsteady hown hstream =>
    rw [hstep]
    exact split_of_flow ho hsteady hown hstream
  | forward hqueue hstream hwriter => exact split_of_forward ho hqueue hstream hwriter
  | closeBuffer hserved hwriter =>
    have hpushed : pushed events = [] :=
      Writer.pushed_of_move (Writer.move_of_step hwriter) (by simp)
    exact ⟨⟨rfl, ⟨[.closeBuffer], Steps.run_singleton hwriter, by simp, by simp⟩,
      by simp [hpushed]⟩, fun _ => hserved⟩
  | write hown _ hwriter => exact split_of_write ho hown hwriter
  | fail => exact ⟨⟨rfl, (Split.refl p).writer, (Split.refl p).received⟩, ho⟩
  | cancel => exact absurd rfl hnext

/-- **A run splits** into a run of the stream and one of the writer, as long as nobody
cancels it. -/
theorem split_of_run (ho : p.Orderly) (h : p.run steps = some (p', events))
    (hcancel : .cancel ∉ steps) : p.Split (steps.filterMap streamStep?) events p' := by
  induction steps generalizing p events with
  | nil =>
    cases h
    exact .refl _
  | cons next steps ih =>
    obtain ⟨between, first, rest, hstep, hrest, rfl⟩ := Steps.of_run_cons h
    rw [List.mem_cons, not_or] at hcancel
    obtain ⟨hsplit, horderly⟩ := (move_of_step hstep).split ho (Ne.symm hcancel.1)
    have htaken : (next :: steps).filterMap streamStep? =
        (streamStep? next).toList ++ steps.filterMap streamStep? := by
      cases hnext : streamStep? next with
      | none => simp [hnext]
      | some taken => simp [hnext]
    rw [htaken]
    exact hsplit.trans (ih horderly hrest hcancel.2)

end Pipeline

end MetricIngest
