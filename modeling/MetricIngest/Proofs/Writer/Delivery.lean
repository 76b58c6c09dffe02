/-
  Nothing is delivered twice.

  The loop cuts the records that it receives into numbered batches, and each batch is
  submitted once, whatever the sink says. So what a sink in memory stores is part of
  what was taken from the buffer, and no record is there more often than it was taken.
-/
import Mathlib.Data.List.Flatten
import MetricIngest.Proofs.Writer.Balance
import MetricIngest.Writer.Delivery

namespace MetricIngest

open History

variable {α : Type}

/-- What the sink stores of a batch that it takes. -/
def MemorySink.kept (s : MemorySink α) (b : Batch α) : List α :=
  b.records.filter fun a => !s.refuses a

namespace Delivery

variable {d d' d'' : Delivery α} {events more : History α} {next : DeliveryStep α}
  {steps : List (DeliveryStep α)}

/-- **What a sink keeps** between two states with these events: the records that it does
not refuse of the batches that it took, behind those that it had. The events are those of
a run of the writer. -/
structure Kept (d : Delivery α) (events : History α) (d' : Delivery α) : Prop where
  writer : ∃ steps, d.writer.run steps = some (d'.writer, events)
  refuses : d'.sink.refuses = d.sink.refuses
  records : d'.sink.records = d.sink.records ++ (accepted events).flatMap d.sink.kept

theorem Kept.refl (d : Delivery α) : d.Kept [] d where
  writer := ⟨[], rfl⟩
  refuses := rfl
  records := by simp [accepted]

theorem Kept.trans (h : d.Kept events d') (h' : d'.Kept more d'') :
    d.Kept (events ++ more) d'' where
  writer := by
    obtain ⟨steps, hrun⟩ := h.writer
    obtain ⟨others, hrun'⟩ := h'.writer
    exact ⟨steps ++ others, Steps.run_append hrun hrun'⟩
  refuses := h'.refuses.trans h.refuses
  records := by
    have hkept : d'.sink.kept = d.sink.kept := by
      funext b
      simp only [MemorySink.kept, h.refuses]
    rw [h'.records, h.records, hkept, accepted_append, List.flatMap_append, List.append_assoc]

/-- A step of the writer that is not an answer closes the sink when the writer does, and leaves
it alone otherwise. -/
theorem writer_of_write {next : WriterStep α} (h : d.step (.write next) = some (d', events)) :
    (∀ id result, next ≠ .settle id result) ∧ d.writer.step next = some (d'.writer, events) ∧
      d'.sink = if isClosed events then d.sink.close else d.sink := by
  have hne : ∀ id result, next ≠ .settle id result := by
    rintro id result rfl
    simp [step] at h
  have hstep : (d.writer.step next).map (fun r =>
      (⟨r.1, if isClosed r.2 then d.sink.close else d.sink⟩, r.2)) = some (d', events) := by
    cases next with
    | settle id result => exact absurd rfl (hne id result)
    | _ => exact h
  obtain ⟨⟨writer, events'⟩, hwriter, heq⟩ := Option.map_eq_some_iff.mp hstep
  simp only [Prod.mk.injEq] at heq
  obtain ⟨rfl, rfl⟩ := heq
  exact ⟨hne, hwriter, rfl⟩

/-- A step of the writer that is not an answer leaves what the sink has stored. -/
theorem kept_of_write {next : WriterStep α} (h : d.step (.write next) = some (d', events)) :
    d.Kept events d' := by
  obtain ⟨hne, hwriter, hsink⟩ := writer_of_write h
  have haccepted :=
    (unanswered (Writer.returned_of_move (Writer.move_of_step hwriter) hne)).1
  refine ⟨⟨[next], Steps.run_singleton hwriter⟩, ?_, ?_⟩
  · rw [hsink]
    split <;> rfl
  · rw [haccepted, List.flatMap_nil, List.append_nil, hsink]
    split <;> rfl

/-- An answer of the sink is about the batch that is being submitted. -/
theorem kept_of_answer {id : Nat} (h : d.step (.answer id) = some (d', events)) :
    d.Kept events d' := by
  simp only [step] at h
  split at h
  · rename_i f hf
    obtain ⟨⟨writer, events'⟩, hwriter, heq⟩ := Option.map_eq_some_iff.mp h
    simp only [Prod.mk.injEq] at heq
    obtain ⟨rfl, rfl⟩ := heq
    refine ⟨⟨_, Steps.run_singleton hwriter⟩, ?_, ?_⟩
    · simp only [MemorySink.submit]
      split
      · rfl
      · split <;> rfl
    · have hmove := Writer.move_of_step hwriter
      cases hmove with
      | @settle _ b since _ task =>
        -- The batch that is answered for is the one that the sink was given.
        obtain rfl : f = ⟨b, some since⟩ := Option.some.inj (hf.symm.trans task)
        simp only [MemorySink.submit]
        split
        · simp [accepted]
        · split
          · simp [accepted, MemorySink.records]
          · simp [accepted, MemorySink.records, MemorySink.kept]
  · cases h

theorem kept_of_step (h : d.step next = some (d', events)) : d.Kept events d' := by
  cases next with
  | write next => exact kept_of_write h
  | answer id => exact kept_of_answer h
  | failNext count =>
    cases h
    exact ⟨⟨[], rfl⟩, rfl, by simp [accepted, MemorySink.records, MemorySink.failNext]⟩

theorem kept_of_run (h : d.run steps = some (d', events)) : d.Kept events d' :=
  Steps.run_related .refl .trans kept_of_step h

/-- What the sink has stored of a run was taken from the buffer. -/
theorem subperm_of_kept {buffer : Buffer α} (h : d.Kept events d')
    (hl : d'.writer.Ledger buffer events) :
    d'.sink.records.Subperm (d.sink.records ++ popped events) := by
  have hkept : ((accepted events).flatMap d.sink.kept).Sublist
      ((accepted events).flatMap Batch.records) :=
    List.Sublist.flatMap_right _ fun b _ => List.filter_sublist
  rw [h.records]
  exact (List.subperm_append_left _).mpr (hkept.subperm.trans hl.accepted_subperm)

/-- A writer over a sink in memory starts as any writer does. -/
theorem ledger_of_kept {settings : Settings.Batching} {buffer : Buffer α} {sink : MemorySink α}
    {cancelled : Bool} (h : (start settings buffer sink cancelled).Kept events d) :
    d.writer.Ledger buffer events := by
  obtain ⟨steps, hrun⟩ := h.writer
  exact Writer.ledger_of_run hrun

/-- **At most once.** Over any sink, whatever fails and in whatever order the parties move,
the records from the pipe are cut into batches that are not empty and are numbered from
zero, in the order of the pipe. Only these are submitted, none of them twice; and once the
writer has ended each of them has been, and together they hold just the records that were
taken from the buffer. So what a sink in memory has stored, beyond what it had, is no more
than what was taken. -/
theorem at_most_once (settings : Settings.Batching) (buffer : Buffer α) (cancelled : Bool) :
    (∀ steps w events, (Writer.start settings buffer cancelled).run steps = some (w, events) →
      received events = (collected events).flatMap Batch.records ++ w.accumulator.records ∧
      (collected events).map Batch.id = List.range (collected events).length ∧
      (∀ b ∈ collected events, b.records ≠ []) ∧
      (submitted events).Subperm (collected events) ∧
      ((submitted events).map Batch.id).Nodup ∧
      ∀ stats, w.final? = some stats →
        (popped events).Perm ((collected events).flatMap Batch.records) ∧
        (submitted events).Perm (collected events)) ∧
    ∀ sink steps d events, (start settings buffer sink cancelled).run steps = some (d, events) →
      d.sink.records.Subperm (sink.records ++ popped events) := by
  constructor
  · intro steps w events h
    have hl := Writer.ledger_of_run h
    refine ⟨hl.records, hl.ids_collected, hl.filled, hl.submitted_subperm, hl.nodup_submitted, ?_⟩
    intro stats hfinal
    obtain ⟨hidle, _⟩ := hl.sound.final hfinal
    exact ⟨hl.popped_perm hidle, hl.submitted_perm hidle⟩
  · intro sink steps d events h
    have hkept := kept_of_run h
    have hsub := subperm_of_kept hkept (ledger_of_kept hkept)
    have hrecords : (start settings buffer sink cancelled).sink.records = sink.records := by
      simp only [start]
      split <;> rfl
    rwa [hrecords] at hsub

/-- Steps that write four records in two batches, the first of which the sink is made to
fail. -/
def firstFails : List (DeliveryStep Nat) :=
  [.failNext 1, .write (.work 0 none), .write (.work 0 none), .write .receive,
    .write (.work 0 none), .write (.work 0 none), .write .receive, .write .dispatch,
    .write (.submit 0), .answer 0, .write (.work 0 none), .write (.work 0 none),
    .write .receive, .write (.work 0 none), .write (.work 0 none), .write .receive,
    .write .dispatch, .write (.submit 1), .answer 1, .write .closeBuffer,
    .write (.work 0 none), .write .receive, .write .finish]

theorem at_most_once_firstFails : ∃ d events,
    (start { concurrency := 1, bulkMax := 2 } ⟨[10, 20, 30, 31], false, default⟩
      (.ofPredicate (· == 31)) false).run firstFails = some (d, events) ∧
    d.sink.records = [30] ∧ popped events = [10, 20, 30, 31] ∧
    submitted events = [⟨0, [10, 20]⟩, ⟨1, [30, 31]⟩] ∧
    (submitted events).Perm (collected events) ∧ d.sink.records.Subperm (popped events) := by
  obtain ⟨d, events, stats, h, hfinal, hrecords, hpopped, hsubmitted⟩ : ∃ d events stats,
      (start { concurrency := 1, bulkMax := 2 } ⟨[10, 20, 30, 31], false, default⟩
        (.ofPredicate (· == 31)) false).run firstFails = some (d, events) ∧
      d.writer.final? = some stats ∧ d.sink.records = [30] ∧
      popped events = [10, 20, 30, 31] ∧
      submitted events = [⟨0, [10, 20]⟩, ⟨1, [30, 31]⟩] := ⟨_, _, _, rfl, rfl, rfl, rfl, rfl⟩
  obtain ⟨steps, hrun⟩ := (kept_of_run h).writer
  obtain ⟨hwriter, hsink⟩ :=
    at_most_once { concurrency := 1, bulkMax := 2 } ⟨[10, 20, 30, 31], false, default⟩ false
  have hperm := ((hwriter steps d.writer events hrun).2.2.2.2.2 stats hfinal).2
  exact ⟨d, events, h, hrecords, hpopped, hsubmitted, hperm, hsink _ _ d events h⟩

end Delivery

end MetricIngest
