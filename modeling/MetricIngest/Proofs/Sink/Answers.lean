/-
  What a sink in memory answers, and what a sink that fails now and then draws.

  `MemorySink.Answer` lists the ways in which a submission to a sink in memory ends,
  `FaultySink.Rolled` what can be drawn for a batch, and `FaultySink.Answer` what both come
  to. What is left of a batch is a part of it in the same order, and so is what the sink
  behind stores of that.
-/
import Mathlib.Data.List.Basic
import MetricIngest.Sink.Faulty

namespace MetricIngest

variable {α : Type}

namespace MemorySink

variable {s : MemorySink α}

/-- What the sink stores of a batch that it takes. -/
def stored (s : MemorySink α) (batch : List α) : List α := batch.filter fun a => !s.refuses a

/-- The ways in which a submission ends: what the sink says, and how it is afterwards. -/
inductive Answer (s : MemorySink α) (batch : List α) :
    Except SinkError SubmitOutcome → MemorySink α → Prop where
  /-- The sink is closed. -/
  | closed (hclosed : s.closed = true) : Answer s batch (.error .closed) s
  /-- Somebody has made the submission fail. -/
  | forced (hopen : s.closed = false) (hfailures : s.failures ≠ 0) :
    Answer s batch (.error (.transport "forced submit failure"))
      { s with failures := s.failures - 1 }
  /-- The sink takes the batch. -/
  | takes (hopen : s.closed = false) (hfailures : s.failures = 0) :
    Answer s batch (.ok ⟨(s.stored batch).length, batch.length - (s.stored batch).length⟩)
      { s with batches := s.batches ++ [s.stored batch] }

/-- A batch that is stored stands behind all others. -/
theorem records_store (s : MemorySink α) (batch : List α) :
    ({ s with batches := s.batches ++ [batch] } : MemorySink α).records = s.records ++ batch := by
  simp [records]

theorem stored_sublist (s : MemorySink α) (batch : List α) :
    (s.stored batch).Sublist batch := List.filter_sublist

/-- The records that are refused are those that are not stored. -/
theorem length_refused (s : MemorySink α) (batch : List α) :
    (batch.filter s.refuses).length = batch.length - (s.stored batch).length := by
  have hsum := List.length_eq_length_filter_add (l := batch) s.refuses
  rw [stored]
  omega

theorem answer_submit (s : MemorySink α) (batch : List α) :
    s.Answer batch (s.submit batch).1 (s.submit batch).2 := by
  unfold submit
  split
  · exact .closed ‹_›
  · have hopen : s.closed = false := by simpa using ‹¬ s.closed = true›
    split
    · exact .forced hopen ‹_›
    · have hfailures : s.failures = 0 := by simpa using ‹¬ s.failures ≠ 0›
      rw [length_refused]
      exact .takes hopen hfailures

end MemorySink

namespace FaultySink

variable {s : FaultySink α}

/-- Closing leaves all that is stored and counted. -/
theorem close_if (s : FaultySink α) (closes : Bool) :
    (if closes then s.close else s) =
      { s with inner := { s.inner with closed := s.inner.closed || closes } } := by
  cases closes
  · simp
  · simp [close, MemorySink.close]

/-- What is left of a batch is a part of it. -/
theorem keep_sublist (rate : Binary64) (g : Random.Generator) (batch : List α) :
    (keep rate g batch).1.Sublist batch := by
  induction batch generalizing g with
  | nil => exact .slnil
  | cons a batch ih =>
    rw [keep]
    dsimp only
    split
    · exact (ih _).cons a
    · exact (ih _).cons_cons a

/-- What can be drawn for a batch, and how the sink is afterwards. The sink behind does not
learn of it. -/
inductive Rolled (s : FaultySink α) (batch : List α) : Option (List α) → FaultySink α → Prop where
  /-- The submission fails, and the batch is counted as lost. -/
  | lost (generator : Random.Generator) : Rolled s batch none
    { s with
      generator
      counts := { s.counts with
        submitAttempts := s.counts.submitAttempts + 1
        submitFailures := s.counts.submitFailures + 1
        recordsLost := s.counts.recordsLost + batch.length } }
  /-- Some of its records are left, and the others are counted as refused. -/
  | kept (generator : Random.Generator) {kept : List α} (hsub : kept.Sublist batch) :
    Rolled s batch (some kept)
      { s with
        generator
        counts := { s.counts with
          submitAttempts := s.counts.submitAttempts + 1
          recordsRejected := s.counts.recordsRejected + (batch.length - kept.length) } }

theorem rolled_roll (s : FaultySink α) (batch : List α) :
    s.Rolled batch (s.roll batch).1 (s.roll batch).2 := by
  unfold roll
  dsimp only
  split
  · exact .lost _
  · exact .kept _ (keep_sublist _ _ _)

/-- The sink behind does not learn of what is drawn, nor is a record counted as accepted. -/
theorem Rolled.inner_eq {s' : FaultySink α} {batch : List α} {left : Option (List α)}
    (h : s.Rolled batch left s') :
    s'.inner = s.inner ∧ s'.counts.recordsAccepted = s.counts.recordsAccepted := by
  cases h <;> exact ⟨rfl, rfl⟩

/-- What is left is a part of the batch. -/
theorem Rolled.sublist {s' : FaultySink α} {batch kept : List α}
    (h : s.Rolled batch (some kept) s') : kept.Sublist batch := by
  cases h with
  | kept generator hsub => exact hsub

/-- The ways in which a submission ends: what the sink says, and how it is afterwards. -/
inductive Answer (s : FaultySink α) (batch : List α) :
    Except SinkError SubmitOutcome → FaultySink α → Prop where
  /-- It is drawn that the submission fails. -/
  | drawn {s'} (rolled : s.Rolled batch none s') : Answer s batch (.error submitFault) s'
  /-- The sink behind fails. -/
  | fails {s' kept e inner} (rolled : s.Rolled batch (some kept) s')
    (behind : s.inner.Answer kept (.error e) inner) : Answer s batch (.error e) { s' with inner }
  /-- The sink behind takes what is left of the batch. -/
  | takes {s' kept o inner} (rolled : s.Rolled batch (some kept) s')
    (behind : s.inner.Answer kept (.ok o) inner) :
    Answer s batch (.ok { o with failed := o.failed + (batch.length - kept.length) })
      { s' with
        inner
        counts := { s'.counts with
          recordsAccepted := s'.counts.recordsAccepted + o.succeeded } }

theorem answer_submit (s : FaultySink α) (batch : List α) :
    s.Answer batch (s.submit batch).1 (s.submit batch).2 := by
  have hrolled := s.rolled_roll batch
  unfold submit
  generalize s.roll batch = rolled at hrolled ⊢
  obtain ⟨left, s'⟩ := rolled
  cases left with
  | none => exact .drawn hrolled
  | some kept =>
    have hanswer := s.inner.answer_submit kept
    dsimp only [pass]
    rw [hrolled.inner_eq.1]
    generalize s.inner.submit kept = answer at hanswer ⊢
    obtain ⟨result, inner⟩ := answer
    cases result with
    | error e => exact .fails hrolled hanswer
    | ok o => exact .takes hrolled hanswer

/-- **How a submission ends** while nobody makes the sink behind fail: the whole batch is
counted as lost, or a part of it is stored behind all that was there, and all of it is answered
for. -/
inductive Served (s : FaultySink α) (batch : List α) :
    Except SinkError SubmitOutcome → FaultySink α → Prop where
  | lost {e s'} (hinner : s'.inner = s.inner)
    (hlost : s'.counts.recordsLost = s.counts.recordsLost + batch.length) :
    Served s batch (.error e) s'
  | stored {o s'} {part : List α} (hsub : part.Sublist batch)
    (hinner : s'.inner = { s.inner with batches := s.inner.batches ++ [part] })
    (hlost : s'.counts.recordsLost = s.counts.recordsLost)
    (hsucceeded : o.succeeded = part.length) (htotal : o.total = batch.length) :
    Served s batch (.ok o) s'

/-- A sink that is open, or that nobody makes fail, stays so. -/
theorem Served.inner_eq {s' : FaultySink α} {batch : List α}
    {result : Except SinkError SubmitOutcome} (h : s.Served batch result s') :
    s'.inner.closed = s.inner.closed ∧ s'.inner.failures = s.inner.failures := by
  cases h with
  | lost hinner | stored _ hinner =>
    rw [hinner]
    exact ⟨rfl, rfl⟩

theorem Rolled.served {s' : FaultySink α} {batch : List α} (h : s.Rolled batch none s') :
    s.Served batch (.error submitFault) s' := by
  cases h
  exact .lost rfl rfl

/-- **What arrives at an open sink** that nobody makes fail is stored, apart from what it
refuses. -/
theorem served_pass {batch kept : List α} (hsub : kept.Sublist batch)
    (hopen : s.inner.closed = false) (hfailures : s.inner.failures = 0) :
    s.Served batch (s.pass (batch.length - kept.length) kept).1
      (s.pass (batch.length - kept.length) kept).2 := by
  have hanswer := s.inner.answer_submit kept
  unfold pass
  generalize s.inner.submit kept = answer at hanswer ⊢
  obtain ⟨result, inner⟩ := answer
  cases hanswer with
  | closed hclosed => simp [hopen] at hclosed
  | forced _ hforced => exact absurd hfailures hforced
  | takes =>
    refine .stored ((s.inner.stored_sublist kept).trans hsub) rfl rfl rfl ?_
    have hkept := hsub.length_le
    have hstored := (s.inner.stored_sublist kept).length_le
    simp only [SubmitOutcome.total]
    omega

end FaultySink

end MetricIngest
