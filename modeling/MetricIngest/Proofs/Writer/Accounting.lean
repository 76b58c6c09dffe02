/-
  The books of a writer balance.

  Every record that was taken from the buffer is committed, refused, lost with its
  batch or in hand, at every moment of every run. At the end nothing is in hand, so
  the three counters of settled records make up for all that were taken.
-/
import MetricIngest.Proofs.Writer.Balance

namespace MetricIngest.Writer

open History

variable {α : Type} {settings : Settings.Batching} {buffer : Buffer α} {cancelled : Bool}
  {steps : List (WriterStep α)} {w : Writer α} {events : History α}

/-- **Accounting.** At each moment of a run, whatever fails and in whatever order the
parties move, the records that were taken from the buffer are committed, refused, lost or
in hand, and none was given up before its submission. Once the writer has ended, all of
them are settled; those that are lost are the records of the batches whose submission
failed; and each batch is counted as flushed or as failed. If besides nobody cancelled the
writer, and no pop failed by saying that the buffer is closed, then the buffer is closed,
and whatever was in it or came into it was taken. -/
theorem accounting_of_run
    (h : (start settings buffer cancelled).run steps = some (w, events)) (hb : Balanced events) :
    w.stats.recordsPopped = (popped events).length ∧
    w.stats.recordsPopped = w.stats.recordsCommitted + w.stats.recordsFailed +
      w.stats.recordsLost + (w.held.length + w.pipe.length + w.accumulator.records.length +
        load w.sealed + load w.underway) ∧
    w.stats.recordsLost = load (failed events) ∧
    discarded events = [] ∧
    ∀ stats, w.final? = some stats →
      stats.settled = stats.recordsPopped ∧
      stats.recordsPopped = (popped events).length ∧
      stats.recordsLost = load (failed events) ∧
      stats.batchesFlushed + stats.submitErrors = (collected events).length ∧
      (cancelled = false → .cancel ∉ steps → (∀ i, .work i (some .closed) ∉ steps) →
        w.buffer.closed = true ∧ w.buffer.records = [] ∧
        stats.recordsPopped = buffer.records.length + (pushed events).length) := by
  have hl := ledger_of_run h
  have hpopped := hl.recordsPopped_eq
  have hlost := hl.recordsLost_eq
  have hsettled := hl.settled_eq hb
  have hlength := hl.length_popped
  refine ⟨hpopped, ?_, hlost, hl.discarded, ?_⟩
  · rw [WriterStats.settled] at hsettled
    rw [inHand] at hlength
    omega
  intro stats hfinal
  obtain ⟨hidle, rfl⟩ := hl.sound.final hfinal
  refine ⟨hl.settled_eq_popped hidle hb, hpopped, hlost, hl.batches_eq hidle, ?_⟩
  rintro rfl hcancel hfault
  obtain ⟨hclosed, hempty, hall⟩ := popped_of_run h hcancel hfault hfinal
  refine ⟨hclosed, hempty, ?_⟩
  rw [hpopped, hall, List.length_append]

/-- Steps that write two records and a third one that comes later: the batch of the first
two fails, and the third is written when the buffer is closed. -/
def twoBatches : List (WriterStep Nat) :=
  [.work 0 none, .work 0 none, .work 0 (some (.unavailable "")), .receive, .push 30,
    .work 0 none, .work 0 none, .receive, .dispatch, .submit 0, .settle 0 (.error .closed),
    .work 0 none, .work 0 none, .receive, .closeBuffer, .work 0 none, .receive, .dispatch,
    .submit 1, .settle 1 (.ok ⟨1, 0⟩), .finish]

theorem accounting_of_twoBatches : ∃ w events,
    (start { concurrency := 1, bulkMax := 2 } ⟨[10, 20], false, default⟩ false).run twoBatches
      = some (w, events) ∧
    Balanced events ∧ w.final? = some ⟨3, 1, 1, 1, 0, 2, 1⟩ ∧ load (failed events) = 2 ∧
    (collected events).length = 2 ∧ w.buffer.records = [] := by
  obtain ⟨w, events, h, hb, hfinal⟩ : ∃ w events,
      (start { concurrency := 1, bulkMax := 2 } ⟨[10, 20], false, default⟩ false).run twoBatches
        = some (w, events) ∧ Balanced events ∧ w.final? = some ⟨3, 1, 1, 1, 0, 2, 1⟩ := by
    exact ⟨_, _, rfl, by decide, rfl⟩
  obtain ⟨_, _, _, _, hend⟩ := accounting_of_run h hb
  obtain ⟨_, _, hlost, hcollected, hopen⟩ := hend _ hfinal
  have hempty := (hopen rfl (by simp [twoBatches]) (by simp [twoBatches])).2.1
  exact ⟨w, events, h, hb, hfinal, hlost.symm, hcollected.symm, hempty⟩

end MetricIngest.Writer
