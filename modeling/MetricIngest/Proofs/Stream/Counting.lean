/-
  Every line is counted once.

  A line that was put into the queue is counted then, and once more by what becomes of it: it
  gives nothing, or what it gives is put into a channel, or nobody is there to receive it.
  Until then it is in the queue or with a worker. `counts_each_line_once` says so of every run,
  also of those that are cancelled or whose receivers leave.
-/
import MetricIngest.Proofs.Stream.Agreement

namespace MetricIngest

open Sending

namespace ResultKind

/-- The receiver of a kind leaves before any worker does something. -/
def LeavesEarly (k : ResultKind) (steps : List StreamStep) : Prop :=
  ∃ early later, steps = early ++ k.drop :: later ∧ ∀ i now, .work i now ∉ early

end ResultKind

namespace LineStream

variable {s s' : LineStream} {next : StreamStep} {steps : List StreamStep} {log : List Taking}
  {out : List Sending} {k : ResultKind} {decoder : Decoder} {settings : Settings.Decoding}
  {pieces : List (List UInt8)} {fails cancelled : Bool}

/-! ### What is in a channel -/

/-- All results of a kind that were put into its channel are there or were received, while
there is a receiver. -/
theorem Passed.sent_eq (hpassed : s.Passed log out s') (hk : s'.hasReceiver k = true) :
    s'.sent k = s.sent k ++ k.among (Sending.delivered out) := by
  cases k with
  | record =>
    rw [sent, sent, hpassed.records.sent hk, List.map_append, ResultKind.map_record?]
  | fault =>
    rw [sent, sent, hpassed.errors.sent hk, List.map_append, ResultKind.map_fault?]

/-- A receiver takes the results of its kind from the beginning. -/
theorem Passed.received_isPrefix (hpassed : s.Passed log out s') (k : ResultKind) :
    s'.received k <+: s.sent k ++ k.among (Sending.delivered out) := by
  cases k with
  | record =>
    rw [received, sent, ← ResultKind.map_record?, ← List.map_append]
    exact hpassed.records.received.map _
  | fault =>
    rw [received, sent, ← ResultKind.map_fault?, ← List.map_append]
    exact hpassed.errors.received.map _

/-! ### Receivers that leave early -/

/-- Only workers send something. -/
theorem Move.out_eq_nil (h : Move s next s' log out) (hnext : ∀ i now, next ≠ .work i now) :
    out = [] := by
  cases h with
  | sendRecord | sendError | loseRecord | loseError => exact absurd rfl (hnext _ _)
  | _ => rfl

/-- A receiver that leaves is gone. -/
theorem Move.hasReceiver_of_drop (h : Move s k.drop s' log out) : s'.hasReceiver k = false := by
  cases k with
  | record =>
    cases h
    rfl
  | fault =>
    cases h
    rfl

/-- **Who leaves early gets nothing.** -/
theorem hasReceiver_eq_false_of_leavesEarly (hearly : k.LeavesEarly steps)
    (h : s.run steps = some s') :
    ∀ t ∈ s.sendings steps, ResultKind.of t.result = k → t.hasReceiver = false := by
  obtain ⟨early, later, rfl, hidle⟩ := hearly
  intro t ht hkind
  induction early generalizing s with
  | nil =>
    obtain ⟨between, taken, sent, hmove, hrest, _, hsendings⟩ := run_cons h
    have hnone : sent = [] := hmove.out_eq_nil fun i now => by cases k <;> simp [ResultKind.drop]
    rw [List.nil_append, hsendings, hnone, List.nil_append] at ht
    exact hasReceiver_eq_false_of_run hmove.hasReceiver_of_drop hrest t ht hkind
  | cons next early ih =>
    rw [List.cons_append] at h ht
    obtain ⟨between, taken, sent, hmove, hrest, _, hsendings⟩ := run_cons h
    simp only [List.mem_cons, not_or] at hidle
    have hnone : sent = [] := hmove.out_eq_nil fun i now => Ne.symm (hidle i now).1
    rw [hsendings, hnone, List.nil_append] at ht
    exact ih (fun i now => (hidle i now).2) hrest ht

/-- Results of a kind whose receiver leaves early are all undelivered. -/
theorem among_of_leavesEarly (hearly : k.LeavesEarly steps) (h : s.run steps = some s') :
    k.among (delivered (s.sendings steps)) = [] ∧
      k.among (undelivered (s.sendings steps)) =
        k.among ((s.sendings steps).map Sending.result) := by
  obtain ⟨hlost, hnone⟩ := filter_outcome (fun result => ResultKind.of result = k)
    fun t ht hkind => hasReceiver_eq_false_of_leavesEarly hearly h t ht (by simpa using hkind)
  exact ⟨hnone, hlost⟩

/-- Results of a kind whose receiver stays are all delivered. -/
theorem among_of_stays (hk : s.hasReceiver k = true) (h : s.run steps = some s')
    (hdrop : k.drop ∉ steps) :
    k.among (undelivered (s.sendings steps)) = [] ∧
      k.among (delivered (s.sendings steps)) =
        k.among ((s.sendings steps).map Sending.result) := by
  obtain ⟨hgot, hnone⟩ := filter_outcome (fun result => ResultKind.of result = k)
    fun t ht hkind => (hasReceiver_of_run hk h hdrop).2 t ht (by simpa using hkind)
  exact ⟨hnone, hgot⟩

/-! ### Counting -/

/-- **Each line is counted once** by what became of it, unless it is in the queue or with a
worker. -/
theorem Passed.lines_eq_counts
    (hpassed : (start decoder settings pieces fails cancelled).Passed log out s) :
    s.summary.lines = s.summary.records + s.summary.errors + s.summary.dropped +
      s.summary.undelivered + (s.lines.length + s.held.length) := by
  have hread := hpassed.lines_eq_length
  have hdropped := hpassed.dropped_eq_length
  have hrecords : s.summary.records = (ResultKind.record.among (Sending.delivered out)).length :=
    hpassed.delivered_eq_length .record
  have herrors : s.summary.errors = (ResultKind.fault.among (Sending.delivered out)).length :=
    hpassed.delivered_eq_length .fault
  have hundelivered := hpassed.undelivered_eq_length
  -- A line that was taken gave nothing, or a result that was sent or is in hand.
  have hgave : (decoder.unreadable log).length + (decoder.results log).length = log.length :=
    ListFacts.length_filter_isNone_add _ log
  have hresults : (decoder.results log).length = out.length + s.held.length := by
    rw [hpassed.results_eq.perm.length_eq, List.length_append, List.length_map]
  have hsent := length_delivered_add out
  have hkinds : (ResultKind.record.among (Sending.delivered out)).length +
      (ResultKind.fault.among (Sending.delivered out)).length = (Sending.delivered out).length :=
    ResultKind.record.length_among_add _
  omega

/-- At the end all results of a kind were sent. -/
theorem Passed.among_perm
    (hpassed : (start decoder settings pieces fails cancelled).Passed log out s)
    (hended : s.hasEnded = true) (k : ResultKind) :
    (k.among (out.map Sending.result)).Perm (k.among (decoder.results log)) := by
  have hperm := hpassed.results_eq.perm
  rw [(held_of_hasEnded hended).2.2, List.append_nil] at hperm
  exact (hperm.filter _).symm

/-- **Every line is counted once.** In each state of a run, whether or not the input can be
read to its end, somebody cancels the stream and receivers leave, and in whatever order the
parties move: each line that was put into the queue is counted as a record, a fault, dropped or
undelivered, or is in the queue or with a worker. The counts of records and of faults are those
of the results that were put into the channels; a receiver takes these from the beginning, and
finds all of them while it is there. Once the stream has ended all lines are counted, which are
those of the input if nobody cancelled it. All results of a kind whose receiver left before any
worker did something are undelivered; if the other receiver never leaves, no others are, and it
finds all results of its kind. -/
theorem counts_each_line_once
    (h : (start decoder settings pieces fails cancelled).run steps = some s) :
    let taken := (start decoder settings pieces fails cancelled).takings steps
    let sent := (start decoder settings pieces fails cancelled).sendings steps
    let results := decoder.results taken
    let counts := s.summary
    counts.lines = counts.records + counts.errors + counts.dropped + counts.undelivered +
      (s.lines.length + s.held.length) ∧
    (∀ k, counts.delivered k = (k.among (delivered sent)).length ∧
      s.received k <+: k.among (delivered sent) ∧
      (s.hasReceiver k = true → s.sent k = k.among (delivered sent))) ∧
    (s.hasEnded = true →
      counts.lines = counts.records + counts.errors + counts.dropped + counts.undelivered ∧
      counts.lines = taken.length ∧
      (cancelled = false → .cancel ∉ steps →
        taken.map Taking.line = Text.readLines fails pieces.flatten) ∧
      ∀ k : ResultKind, k.LeavesEarly steps →
        k.among (delivered sent) = [] ∧
        (k.among (undelivered sent)).Perm (k.among results) ∧
        (k.other.drop ∉ steps → counts.undelivered = (k.among results).length ∧
          (s.sent k.other).Perm (k.other.among results))) := by
  intro taken sent results counts
  obtain ⟨hs, hpassed⟩ := passed_of_run (sound_start decoder settings pieces fails cancelled) h
  have hcounts := hpassed.lines_eq_counts
  have hchannel : ∀ k, counts.delivered k = (k.among (delivered sent)).length ∧
      s.received k <+: k.among (delivered sent) ∧
      (s.hasReceiver k = true → s.sent k = k.among (delivered sent)) := by
    intro k
    refine ⟨hpassed.delivered_eq_length k, ?_, fun hk => ?_⟩
    · simpa [sent_start] using hpassed.received_isPrefix k
    · simpa [sent_start] using hpassed.sent_eq hk
  refine ⟨hcounts, hchannel, fun hended => ?_⟩
  have hlines := hs.lines_eq_nil hended
  refine ⟨?_, ?_, ?_, ?_⟩
  · rw [hlines, (held_of_hasEnded hended).2.2] at hcounts
    exact hcounts
  · rw [hpassed.lines_eq_length, hlines]
    rfl
  · rintro rfl hcancel
    exact hpassed.input_taken hs hended (live_of_run rfl h hcancel)
  intro k hearly
  have hall := hpassed.among_perm hended
  obtain ⟨hnone, hlost⟩ := among_of_leavesEarly hearly h
  refine ⟨hnone, hlost ▸ hall k, fun hother => ?_⟩
  have hopen : (start decoder settings pieces fails cancelled).hasReceiver k.other = true := by
    cases k <;> rfl
  obtain ⟨hnothing, hgot⟩ := among_of_stays hopen h hother
  constructor
  · -- What is undelivered is all of the one kind and nothing of the other.
    rw [hpassed.undelivered_eq_length, ← k.length_among_add, hnothing, hlost, (hall k).length_eq]
    rfl
  · rw [(hchannel k.other).2.2 (hasReceiver_of_run hopen h hother).1, hgot]
    exact hall k.other

/-- Steps of a single worker whose receiver of records leaves first, for a line that gives a
record, one that gives a fault and one that gives nothing. -/
def recordsDropped : List StreamStep :=
  [.dropRecords, .read, .read, .read, .work 0 .epoch, .read, .read, .work 0 .epoch, .work 0 .epoch,
    .read, .read, .work 0 .epoch, .receiveError, .work 0 .epoch, .read, .work 0 .epoch]

theorem counts_each_line_once_recordsDropped :
    let decoder : Decoder := ⟨.empty, .compat⟩
    let first := start decoder { workers := 1 } [[97, 32, 49, 10, 98, 32, 120, 10, 99]] false false
    let taken := first.takings recordsDropped
    ∃ s, first.run recordsDropped = some s ∧ s.hasEnded = true ∧ s.summary = ⟨3, 0, 1, 1, 1⟩ ∧
      taken.map Taking.line = [[97, 32, 49], [98, 32, 120], [99]] ∧
      (ResultKind.record.among (decoder.results taken)).length = 1 ∧
      (s.sent .fault).Perm (ResultKind.fault.among (decoder.results taken)) := by
  intro decoder first taken
  have hrun : (first.run recordsDropped).map (fun s => (s.hasEnded, s.summary)) =
      some (true, ⟨3, 0, 1, 1, 1⟩) := by decide +kernel
  obtain ⟨s, h, heq⟩ := Option.map_eq_some_iff.mp hrun
  obtain ⟨hended, hsummary⟩ := Prod.mk.inj heq
  obtain ⟨_, _, hend⟩ := counts_each_line_once h
  obtain ⟨_, _, hlines, hearly⟩ := hend hended
  have hleft : ResultKind.record.LeavesEarly recordsDropped := ⟨[], _, rfl, by simp⟩
  obtain ⟨_, _, hother⟩ := hearly .record hleft
  have hstays : ResultKind.record.other.drop ∉ recordsDropped := by
    simp [recordsDropped, ResultKind.other, ResultKind.drop]
  obtain ⟨hundelivered, hsent⟩ := hother hstays
  rw [hsummary] at hundelivered
  refine ⟨s, h, hended, hsummary, ?_, hundelivered.symm, hsent⟩
  rw [hlines rfl (by simp [recordsDropped])]
  decide +kernel

end LineStream

end MetricIngest
