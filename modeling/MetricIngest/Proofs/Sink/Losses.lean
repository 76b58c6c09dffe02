/-
  The books of a sink that fails now and then.

  A submission can fail in front of the sink behind and at it. In front, the batch is counted as
  lost; a failure behind is passed on and counted nowhere. `Booked` is what calls add to the
  counters, and `losses_of_run` compares the counters with what was submitted and with what those
  who submitted it were told: the two agree just when no submission failed behind.
-/
import MetricIngest.Proofs.Sink.Answers
import MetricIngest.Sink.Passage

namespace MetricIngest

variable {α : Type}

namespace Passage

theorem total_eq_zero_iff {count : Passage α → Nat} {past : List (Passage α)} :
    total count past = 0 ↔ ∀ p ∈ past, count p = 0 := by
  induction past with
  | nil => simp
  | cons p past ih =>
    rw [← List.singleton_append, total_append, total_singleton, Nat.add_eq_zero_iff, ih]
    simp

/-- A writer counts as lost what was lost to whom submitted it. -/
theorem recordsLost_writerStats (past : List (Passage α)) :
    (writerStats past).recordsLost = total lost past := by
  -- The induction is on the batches, with any counts to begin with.
  have hfold (stats : WriterStats) :
      (past.foldl (fun stats p => stats.submitted p.size p.result) stats).recordsLost =
        stats.recordsLost + total lost past := by
    induction past generalizing stats with
    | nil => rfl
    | cons p past ih =>
      obtain ⟨batch, left?, result⟩ := p
      rw [List.foldl_cons, ih, ← List.singleton_append, total_append, total_singleton]
      cases result with
      | error e => exact Nat.add_assoc ..
      | ok o => simp [WriterStats.submitted, lost]
  exact (hfold {}).trans (Nat.zero_add _)

end Passage

namespace FaultySink

open Passage

variable {s s' s'' : FaultySink α} {batch : List α} {past more : List (Passage α)}

/-- **What calls add to the counters** of a sink in which some batches were submitted. Every
record is counted, or came to the sink behind and was refused there or failed with the others. -/
structure Booked (s : FaultySink α) (past : List (Passage α)) (s' : FaultySink α) : Prop where
  refuses : s'.inner.refuses = s.inner.refuses
  drawn : s'.counts.recordsLost = s.counts.recordsLost + total drawn past
  lost : total lost past = total Passage.drawn past + total lostBehind past
  all : s'.counts.recordsAccepted + s'.counts.recordsRejected + s'.counts.recordsLost +
      total stranded past + total turnedDown past =
    s.counts.recordsAccepted + s.counts.recordsRejected + s.counts.recordsLost + total size past
  accepts : (∀ a, s.inner.refuses a = false) → total turnedDown past = 0

theorem Booked.refl (s : FaultySink α) : s.Booked [] s :=
  ⟨rfl, rfl, rfl, rfl, fun _ => rfl⟩

theorem Booked.trans (h : s.Booked past s') (h' : s'.Booked more s'') :
    s.Booked (past ++ more) s'' where
  refuses := h'.refuses.trans h.refuses
  drawn := by rw [h'.drawn, h.drawn, total_append, Nat.add_assoc]
  lost := by
    have hfirst := h.lost
    have hsecond := h'.lost
    simp only [total_append]
    omega
  all := by
    have hfirst := h.all
    have hsecond := h'.all
    simp only [total_append]
    omega
  accepts hnone := by
    rw [total_append, h.accepts hnone, h'.accepts (h.refuses ▸ hnone)]

/-- A sink that refuses nothing stores all that comes to it. -/
theorem stored_of_forall {m : MemorySink α} (h : ∀ a, m.refuses a = false) (batch : List α) :
    m.stored batch = batch := by
  simp [MemorySink.stored, h]

/-- A submission that is drawn to fail is counted as lost. -/
theorem booked_drawn (h : s.Rolled batch none s') :
    s.Booked [⟨batch, none, .error submitFault⟩] s' := by
  cases h
  constructor <;> simp [Passage.drawn, Passage.lost, lostBehind, stranded, turnedDown, size]
  omega

/-- What is left of a batch is counted as the sink behind answers for it, if it does. -/
theorem booked_kept {kept : List α} {result : Except SinkError SubmitOutcome}
    {inner : MemorySink α} (h : s.Rolled batch (some kept) s')
    (hbehind : s.inner.Answer kept result inner) :
    s.Booked
      [⟨batch, some kept, result.map fun o =>
        { o with failed := o.failed + (batch.length - kept.length) }⟩]
      { s' with
        inner
        counts := { s'.counts with
          recordsAccepted :=
            s'.counts.recordsAccepted + Submission.succeeded ⟨kept, result⟩ } } := by
  have hlength := h.sublist.length_le
  have hstored := (s.inner.stored_sublist kept).length_le
  cases h
  cases hbehind with
  | closed | forced =>
    constructor <;>
      simp [Except.map, Submission.succeeded, Passage.drawn, Passage.lost, lostBehind, stranded,
        turnedDown, size]
    omega
  | takes =>
    refine ⟨rfl, ?_, ?_, ?_, fun hnone => ?_⟩
    · simp [Passage.drawn]
    · simp [Except.map, Passage.drawn, Passage.lost, lostBehind]
    · simp only [Except.map, Submission.succeeded, total_singleton, stranded, turnedDown, size]
      omega
    · simp [Except.map, turnedDown, stored_of_forall hnone]

theorem booked_submit (s : FaultySink α) (batch : List α) :
    s.Booked [⟨batch, (s.roll batch).1, (s.submit batch).1⟩] (s.submit batch).2 := by
  have hrolled := s.rolled_roll batch
  unfold submit
  generalize s.roll batch = rolled at hrolled ⊢
  obtain ⟨left, s'⟩ := rolled
  cases left with
  | none => exact booked_drawn hrolled
  | some kept =>
    have hbooked := booked_kept hrolled (s.inner.answer_submit kept)
    dsimp only [pass]
    rw [hrolled.inner_eq.1]
    generalize s.inner.submit kept = answer at hbooked ⊢
    obtain ⟨result, inner⟩ := answer
    -- A failure comes back before anything is counted, an answer afterwards.
    cases result with
    | error e => exact hbooked
    | ok o => exact hbooked

theorem booked_call (s : FaultySink α) (next : KeeperCall α) :
    s.Booked (s.call next).1 (s.call next).2 := by
  cases next with
  | submit batch => exact s.booked_submit batch
  | close | failNext => exact ⟨rfl, rfl, rfl, rfl, fun _ => rfl⟩

theorem booked_run (s : FaultySink α) (calls : List (KeeperCall α)) :
    s.Booked (s.run calls).1 (s.run calls).2 := by
  induction calls generalizing s with
  | nil => exact .refl s
  | cons next calls ih => exact (s.booked_call next).trans (ih _)

/-- The batches on their way are those that are submitted to the sink. -/
theorem run_faulty (s : FaultySink α) (calls : List (KeeperCall α)) :
    (Keeper.faulty s).run calls =
      ((s.run calls).1.map Passage.submission, .faulty (s.run calls).2) := by
  induction calls generalizing s with
  | nil => rfl
  | cons next calls ih =>
    have hcall : (Keeper.faulty s).call next =
        ((s.call next).1.map Passage.submission, .faulty (s.call next).2) := by
      cases next <;> rfl
    simp only [Keeper.run, run, hcall, ih, List.map_append]

/-- **What is counted as lost** by a sink with failures in front of it, whatever the sink behind
was before and however it is called: the batches that were drawn to fail. Those who submitted
batches lost these and, besides, the batches that failed behind, so that both counts agree just
when no record was in such a batch. What is counted as accepted, refused or lost falls short of
what was submitted by the records that came to the sink behind and were refused or failed there;
if it refuses nothing, the counts make up all just when none failed there. -/
theorem losses_of_run (inner : MemorySink α) (seed : UInt64) (rates : SinkRates)
    (calls : List (KeeperCall α)) : ∃ past last,
    (ofSeed inner seed rates).run calls = (past, last) ∧
    (Keeper.faulty (ofSeed inner seed rates)).run calls =
      (past.map Passage.submission, .faulty last) ∧
    (let counts := last.counts
    let counted := counts.recordsAccepted + counts.recordsRejected + counts.recordsLost
    (writerStats past).recordsLost = total lost past ∧
    counts.recordsLost = total drawn past ∧
    total lost past = counts.recordsLost + total lostBehind past ∧
    (counts.recordsLost = total lost past ↔ ∀ p ∈ past, p.lostBehind = 0) ∧
    counted + total stranded past + total turnedDown past = total size past ∧
    ((∀ a, inner.refuses a = false) →
      (counted = total size past ↔ ∀ p ∈ past, p.stranded = 0))) := by
  have hbooked := (ofSeed inner seed rates).booked_run calls
  have hdrawn : ((ofSeed inner seed rates).run calls).2.counts.recordsLost =
      total drawn ((ofSeed inner seed rates).run calls).1 := by
    rw [hbooked.drawn]
    exact Nat.zero_add _
  have hall := hbooked.all
  have hlost := hbooked.lost
  simp only [ofSeed] at hall
  refine ⟨_, _, rfl, run_faulty _ calls, recordsLost_writerStats _, hdrawn, ?_, ?_, ?_, ?_⟩
  · omega
  · rw [← total_eq_zero_iff]
    omega
  · simp only [ofSeed]
    omega
  · intro hnone
    have hnothing := hbooked.accepts hnone
    rw [← total_eq_zero_iff]
    simp only [ofSeed] at hnothing ⊢
    omega

/-- A submission that is made to fail at the sink behind. -/
def forcedBehind : List (KeeperCall Nat) := [.failNext 1, .submit [1, 2]]

/-- A batch that fails behind is lost to whom submitted it and counted nowhere. -/
theorem forcedBehind_uncounted :
    let s : FaultySink Nat := .ofSeed (.ofPredicate fun _ => false) 1 .none
    let (past, last) := s.run forcedBehind
    last.counts.recordsLost = 0 ∧ (writerStats past).recordsLost = 2 ∧
      last.counts.recordsAccepted + last.counts.recordsRejected + last.counts.recordsLost = 0 ∧
      total size past = 2 := by
  decide +kernel

end FaultySink

end MetricIngest
