/-
  What the ledger of a run says of all its records and batches.

  At every moment the records that were taken from the buffer are in hand or in a batch
  whose submission is over, and only batches that were made are submitted, none of them
  twice. Once the writer has ended nothing is in hand, so each batch was submitted and
  each record that was taken is in one of them.
-/
import Mathlib.Data.List.Flatten
import Mathlib.Data.List.Perm.Subperm
import MetricIngest.Proofs.Writer.Ledger

namespace MetricIngest.Writer

open History

variable {α : Type} {w : Writer α} {buffer : Buffer α} {events : History α}

/-! ### Numbers of records -/

/-- The number of records that are in hand: with workers, in the pipe, in the accumulator,
in the batch that waits for a slot and in those that have a task. -/
def inHand (w : Writer α) : Nat :=
  w.held.length + w.pipe.length + w.accumulator.records.length + load w.sealed + load w.underway

theorem Idle.inHand (h : w.Idle) : w.inHand = 0 := by
  simp [Writer.inHand, h.held, h.pipe, h.records, h.sealed, h.underway, load]

/-- The batches that were made are in hand, taken by the sink or failed. -/
theorem Ledger.load_collected (hl : w.Ledger buffer events) : load (collected events) =
    load w.sealed + load w.underway + (load (accepted events) + load (failed events)) := by
  have htasks := hl.tasks.trans ((returned_perm (p := events)).append_left _)
  have hload : load (collected events) =
      load (w.sealed ++ w.underway ++ (accepted events ++ failed events)) :=
    (htasks.flatMap_right Batch.records).length_eq
  rw [hload]
  simp only [load_append]

/-- **Where the records are** that were taken from the buffer: in hand, or in a batch
whose submission is over. -/
theorem Ledger.length_popped (hl : w.Ledger buffer events) : (popped events).length =
    w.inHand + (load (accepted events) + load (failed events)) := by
  have hpipe := hl.pipe.perm.length_eq
  have hrecords := congrArg List.length hl.records
  have hload := hl.load_collected
  rw [List.length_append, ← load] at hrecords
  simp only [List.length_append] at hpipe
  rw [inHand]
  omega

/-! ### Counters of a run -/

theorem Ledger.recordsPopped_eq (hl : w.Ledger buffer events) :
    w.stats.recordsPopped = (popped events).length := by
  simpa using hl.booked.popped

theorem Ledger.recordsLost_eq (hl : w.Ledger buffer events) :
    w.stats.recordsLost = load (failed events) := by
  simpa using hl.booked.lost

/-- **Each batch is counted once** when none is in hand. -/
theorem Ledger.batches_eq (hl : w.Ledger buffer events) (hidle : w.Idle) :
    w.stats.batchesFlushed + w.stats.submitErrors = (collected events).length := by
  have htasks := hl.tasks.length_eq
  have hreturned := (returned_perm (p := events)).length_eq
  have hflushed := hl.booked.flushed
  have herrors := hl.booked.errors
  simp only [List.length_append, hidle.sealed, hidle.underway, List.length_nil] at htasks hreturned
  simp only at hflushed herrors
  omega

/-- The counters of settled records are about the batches whose submission is over. -/
theorem Ledger.settled_eq (hl : w.Ledger buffer events) (hb : Balanced events) :
    w.stats.settled = load (accepted events) + load (failed events) := by
  have hsettled := hl.booked.settled hb
  have hlost := hl.booked.lost
  rw [WriterStats.settled]
  simp only at hsettled hlost
  omega

/-- **All that was taken is settled** when nothing is in hand. -/
theorem Ledger.settled_eq_popped (hl : w.Ledger buffer events) (hidle : w.Idle)
    (hb : Balanced events) : w.stats.settled = w.stats.recordsPopped := by
  rw [hl.settled_eq hb, hl.recordsPopped_eq, hl.length_popped, hidle.inHand, Nat.zero_add]

/-! ### Batches of a run -/

/-- Batches are numbered in the order in which they are made, from zero. -/
theorem Ledger.ids_collected (hl : w.Ledger buffer events) :
    (collected events).map Batch.id = List.range (collected events).length := by
  have hlength := congrArg List.length hl.ids
  rw [List.length_map, List.length_range] at hlength
  rw [hlength]
  exact hl.ids

/-- **Only batches that were made are submitted**, and none of them twice. -/
theorem Ledger.submitted_subperm (hl : w.Ledger buffer events) :
    (submitted events).Subperm (collected events) := by
  have hsub : (w.inSubmission ++ returned events).Sublist
      (w.sealed ++ w.underway ++ returned events) := by
    have hflushes : w.inSubmission.Sublist w.underway := List.filter_sublist.map _
    exact (hflushes.trans (List.sublist_append_right _ _)).append_right _
  exact hl.submissions.subperm.trans (hsub.subperm.trans hl.tasks.symm.subperm)

/-- No number is submitted twice. -/
theorem Ledger.nodup_submitted (hl : w.Ledger buffer events) :
    ((submitted events).map Batch.id).Nodup := by
  obtain ⟨batches, hperm, hsub⟩ := hl.submitted_subperm
  have hids := hsub.map Batch.id
  rw [hl.ids] at hids
  exact (hperm.map Batch.id).nodup_iff.mp (List.nodup_range.sublist hids)

/-- Once nothing is in hand, each batch that was made has been submitted. -/
theorem Ledger.submitted_perm (hl : w.Ledger buffer events) (hidle : w.Idle) :
    (submitted events).Perm (collected events) := by
  have hsubmitted := hl.submissions
  have hcollected := hl.tasks
  rw [hidle.inSubmission, List.nil_append] at hsubmitted
  rw [hidle.sealed, hidle.underway, List.nil_append, List.nil_append] at hcollected
  exact hsubmitted.trans hcollected.symm

/-- Once nothing is in hand, each record that was taken is in one batch. -/
theorem Ledger.popped_perm (hl : w.Ledger buffer events) (hidle : w.Idle) :
    (popped events).Perm ((collected events).flatMap Batch.records) := by
  have hpipe := hl.pipe.perm
  rw [hl.records, hidle.held, hidle.pipe, hidle.records] at hpipe
  simpa using hpipe

/-- **Once nothing is in hand**, the records of the batches that were submitted are those
that were taken. -/
theorem Ledger.submitted_records_perm (hl : w.Ledger buffer events) (hidle : w.Idle) :
    ((submitted events).flatMap Batch.records).Perm (popped events) :=
  ((hl.submitted_perm hidle).flatMap_right _).trans (hl.popped_perm hidle).symm

/-- **Records of the batches that were made were taken** from the buffer, each as often at the
least. -/
theorem Ledger.collected_records_subperm (hl : w.Ledger buffer events) :
    ((collected events).flatMap Batch.records).Subperm (popped events) := by
  -- Each is part of the next: what was made, received and taken.
  have hreceived : ((collected events).flatMap Batch.records).Subperm (received events) := by
    rw [hl.records]
    exact (List.sublist_append_left _ _).subperm
  have hpopped : (received events).Subperm (popped events) :=
    (List.sublist_append_left _ _).subperm.trans hl.pipe.perm.symm.subperm
  exact hreceived.trans hpopped

/-- **Records that were submitted were taken.** -/
theorem Ledger.submitted_records_subperm (hl : w.Ledger buffer events) :
    ((submitted events).flatMap Batch.records).Subperm (popped events) := by
  obtain ⟨batches, hperm, hsub⟩ := hl.submitted_subperm
  have hsubmitted : ((submitted events).flatMap Batch.records).Subperm
      ((collected events).flatMap Batch.records) :=
    (hperm.flatMap_right _).symm.subperm.trans (hsub.flatMap _).subperm
  exact hsubmitted.trans hl.collected_records_subperm

/-- **Records that were answered for were taken.** -/
theorem Ledger.returned_subperm (hl : w.Ledger buffer events) :
    ((returned events).flatMap Batch.records).Subperm (popped events) := by
  have hreturned : ((returned events).flatMap Batch.records).Subperm
      ((collected events).flatMap Batch.records) := by
    refine List.Subperm.trans ?_ (hl.tasks.flatMap_right Batch.records).symm.subperm
    rw [List.flatMap_append]
    exact (List.sublist_append_right _ _).subperm
  exact hreturned.trans hl.collected_records_subperm

/-- **Records of the batches that the sink took were taken** from the buffer. -/
theorem Ledger.accepted_subperm (hl : w.Ledger buffer events) :
    ((accepted events).flatMap Batch.records).Subperm (popped events) := by
  refine List.Subperm.trans ?_ hl.returned_subperm
  refine List.Subperm.trans ?_ (returned_perm.flatMap_right Batch.records).symm.subperm
  rw [List.flatMap_append]
  exact (List.sublist_append_left _ _).subperm

/-! ### The whole of a run -/

/-- **Nothing is left behind** by a writer that has ended and that nobody cut short: it has
taken, in their order, the records that were in the buffer and those that came into it. -/
theorem popped_of_run {settings : Settings.Batching} {steps : List (WriterStep α)}
    {stats : WriterStats} (h : (start settings buffer false).run steps = some (w, events))
    (hcancel : .cancel ∉ steps) (hfault : ∀ i, .work i (some .closed) ∉ steps)
    (hfinal : w.final? = some stats) : w.buffer.closed = true ∧ w.buffer.records = [] ∧
      popped events = buffer.records ++ pushed events := by
  have hl := ledger_of_run h
  have hu := undisturbed_of_run (sound_start settings buffer false)
    (undisturbed_start settings buffer) h hcancel hfault
  obtain ⟨hclosed, hempty⟩ := hu.buffer_of_final hl.sound hfinal
  refine ⟨hclosed, hempty, ?_⟩
  rw [hl.buffer, hempty, List.append_nil]

end MetricIngest.Writer
