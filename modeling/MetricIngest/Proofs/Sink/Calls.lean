/-
  What a sink that writes lines leaves on its device.

  The device takes text only while a batch is submitted: all lines of a batch that is
  taken, none of a batch that comes after closing, and of a batch whose write or flush
  fails what had been written by then. So the text is that of the batches that were taken
  just when nothing of a failed batch had been written.
-/
import MetricIngest.Proofs.Lists
import MetricIngest.Sink.Calls

namespace MetricIngest

/-! ### The device -/

namespace Device

variable {d d' : Device} {f : DeviceFaults} {text : List Char} {e : IoError}

theorem write_ok (h : d.write f text = (.ok (), d')) : d'.text = d.text ++ text := by
  unfold write at h
  split at h
  · cases h
    rfl
  · split at h
    · cases h
      rfl
    · cases h

/-- A write that fails has taken a part of the text, but not all. -/
theorem write_error (h : d.write f text = (.error e, d')) :
    e = .writeRefused ∧ ∃ limit < text.length, d'.text = d.text ++ text.take limit := by
  unfold write at h
  split at h
  · cases h
  · rename_i limit _
    split at h
    · cases h
    · cases h
      exact ⟨rfl, limit, by omega, rfl⟩

theorem text_flush (d : Device) (f : DeviceFaults) : (d.flush f).2.text = d.text := by
  unfold flush
  split <;> rfl

theorem flush_error (h : d.flush f = (.error e, d')) : e = .flushRefused := by
  unfold flush at h
  split at h <;> cases h
  rfl

end Device

/-! ### Single calls -/

namespace LinesSink

variable {s s' : LinesSink} {f : DeviceFaults} {batch : List Record} {event : LinesEvent}
  {next : LinesCall}

/-- The ways in which a submission ends, with the text that the device takes. -/
inductive Submission (s : LinesSink) (batch : List Record) :
    Except SinkError SubmitOutcome → List Char → Prop where
  /-- All lines are written and flushed. -/
  | accepted : Submission s batch (.ok ⟨batch.length, 0⟩) (s.lines batch)
  /-- The sink is closed. -/
  | refused : Submission s batch (.error .closed) []
  /-- The write fails before the end of the lines. -/
  | cut {limit} (h : limit < (s.lines batch).length) :
    Submission s batch (.error (.io .writeRefused)) ((s.lines batch).take limit)
  /-- All lines are written, and then the flush fails. -/
  | unflushed : Submission s batch (.error (.io .flushRefused)) (s.lines batch)

/-- A submission ends in the same ways at any sink that writes the same lines. -/
theorem Submission.of_lines {result : Except SinkError SubmitOutcome} {taken : List Char}
    (hlines : s'.lines = s.lines) (h : s'.Submission batch result taken) :
    s.Submission batch result taken := by
  have heq : s'.lines batch = s.lines batch := congrFun hlines batch
  cases h with
  | accepted =>
    rw [heq]
    exact .accepted
  | refused => exact .refused
  | cut h =>
    rw [heq] at h ⊢
    exact .cut h
  | unflushed =>
    rw [heq]
    exact .unflushed

theorem submission_submit (s : LinesSink) (f : DeviceFaults) (batch : List Record) :
    ∃ taken, (s.submit f batch).2.device.text = s.device.text ++ taken ∧
      s.Submission batch (s.submit f batch).1 taken := by
  unfold submit
  split
  · exact ⟨[], by simp, .refused⟩
  · split
    · rename_i e device hwrite
      obtain ⟨rfl, limit, hlimit, htext⟩ := Device.write_error hwrite
      exact ⟨_, htext, .cut hlimit⟩
    · rename_i device hwrite
      have htext := Device.write_ok hwrite
      have hkeeps := Device.text_flush device f
      split
      · rename_i e device' hflush
        obtain rfl := Device.flush_error hflush
        rw [hflush] at hkeeps
        exact ⟨_, hkeeps.trans htext, .unflushed⟩
      · rename_i device' hflush
        rw [hflush] at hkeeps
        exact ⟨_, hkeeps.trans htext, .accepted⟩

/-- What documents carry does not change. -/
theorem lines_submit (s : LinesSink) (f : DeviceFaults) (batch : List Record) :
    (s.submit f batch).2.lines = s.lines := by
  unfold submit
  split
  · rfl
  · split
    · rfl
    · split <;> rfl

theorem close_eq (s : LinesSink) (f : DeviceFaults) :
    (s.close f).2.device.text = s.device.text ∧ (s.close f).2.lines = s.lines := by
  have hkeeps := Device.text_flush s.device f
  unfold close
  split
  · exact ⟨rfl, rfl⟩
  · split
    · rename_i hflush
      rw [hflush] at hkeeps
      exact ⟨hkeeps, rfl⟩
    · rename_i hflush
      rw [hflush] at hkeeps
      exact ⟨hkeeps, rfl⟩

/-- What the events of calls say of the batches that were submitted. -/
def Truthful (s : LinesSink) (event : LinesEvent) : Prop :=
  ∀ batch result taken, event = .submitted batch result taken → s.Submission batch result taken

/-- **A call** adds to the text what it says that the device took. -/
theorem call_spec (s : LinesSink) (next : LinesCall) :
    (s.call next).2.device.text = s.device.text ++ (s.call next).1.taken ∧
      (s.call next).2.lines = s.lines ∧ s.Truthful (s.call next).1 := by
  cases next with
  | submit f batch =>
    obtain ⟨taken, htext, hway⟩ := s.submission_submit f batch
    have hdrop : (s.submit f batch).2.device.text.drop s.device.text.length = taken := by
      rw [htext, List.drop_left]
    refine ⟨?_, s.lines_submit f batch, ?_⟩
    · simp only [call, LinesEvent.taken]
      rw [hdrop, htext]
    · rintro batch' result taken' heq
      simp only [call, hdrop, LinesEvent.submitted.injEq] at heq
      obtain ⟨rfl, rfl, rfl⟩ := heq
      exact hway
  | close f =>
    obtain ⟨htext, hlines⟩ := s.close_eq f
    refine ⟨by simpa [call, LinesEvent.taken] using htext, hlines, ?_⟩
    rintro batch result taken heq
    cases heq

/-! ### Calls one after the other -/

theorem run_spec (s : LinesSink) (calls : List LinesCall) :
    (s.run calls).2.device.text = s.device.text ++ (s.run calls).1.flatMap LinesEvent.taken ∧
      ∀ event ∈ (s.run calls).1, s.Truthful event := by
  induction calls generalizing s with
  | nil => simp [run]
  | cons next calls ih =>
    obtain ⟨htext, hlines, htrue⟩ := s.call_spec next
    obtain ⟨hrest, hothers⟩ := ih (s.call next).2
    constructor
    · simp only [run, List.flatMap_cons]
      rw [hrest, htext, List.append_assoc]
    · simp only [run, List.forall_mem_cons]
      refine ⟨htrue, ?_⟩
      intro event hevent batch result taken heq
      -- The lines of a batch are the same at any time.
      exact (hothers event hevent batch result taken heq).of_lines hlines

/-- A call gives the text all lines of a batch that it took. Only a batch that failed can
have left something else. -/
theorem Truthful.taken_eq_iff (h : s.Truthful event) :
    LinesEvent.taken event = s.acceptedLines event ↔
      ∀ batch e taken, event = .submitted batch (.error e) taken → taken = [] := by
  cases event with
  | closed result =>
    refine iff_of_true rfl ?_
    rintro batch e taken heq
    cases heq
  | submitted batch result taken =>
    cases h batch result taken rfl with
    | accepted =>
      refine iff_of_true rfl ?_
      rintro batch' e taken' heq
      cases heq
    | _ => simp [LinesEvent.taken, acceptedLines]

/-- **The text that calls leave** is what the device took in each of them. It is the text of
the batches that were taken just when the device took nothing of a batch that failed. -/
theorem text_of_run (s : LinesSink) (calls : List LinesCall) :
    (s.run calls).2.device.text = s.device.text ++ (s.run calls).1.flatMap LinesEvent.taken ∧
      (∀ batch result taken, .submitted batch result taken ∈ (s.run calls).1 →
        s.Submission batch result taken) ∧
      ((s.run calls).2.device.text = s.device.text ++ (s.run calls).1.flatMap s.acceptedLines ↔
        ∀ batch e taken, .submitted batch (.error e) taken ∈ (s.run calls).1 → taken = []) := by
  obtain ⟨htext, htrue⟩ := s.run_spec calls
  have hpart : ∀ event ∈ (s.run calls).1,
      s.acceptedLines event = event.taken ∨ s.acceptedLines event = [] := by
    intro event hevent
    cases event with
    | closed result => exact .inr rfl
    | submitted batch result taken =>
      cases htrue _ hevent batch result taken rfl with
      | accepted => exact .inl rfl
      | _ => exact .inr rfl
  refine ⟨htext, fun batch result taken hevent => htrue _ hevent batch result taken rfl, ?_⟩
  rw [htext, List.append_cancel_left_eq, ListFacts.flatMap_eq_flatMap_iff_of_part hpart]
  constructor
  · intro heq batch e taken hevent
    exact (htrue _ hevent).taken_eq_iff.mp (heq _ hevent) batch e taken rfl
  · intro hnone event hevent
    refine (htrue event hevent).taken_eq_iff.mpr fun batch e taken heq => ?_
    exact hnone batch e taken (heq ▸ hevent)

/-- A batch whose flush fails, and another one. -/
def unflushedFirst : List LinesCall :=
  [.submit { flushFails := true } [.numbered 0], .submit {} [.numbered 1]]

/-- The lines of a batch that failed stand before those of a batch that was taken. -/
theorem unflushedFirst_leaves_failed :
    let s : LinesSink := {}
    (s.run unflushedFirst).2.device.text = s.lines [.numbered 0, .numbered 1] ∧
      (s.run unflushedFirst).1.flatMap s.acceptedLines = s.lines [.numbered 1] ∧
      (s.run unflushedFirst).2.device.text ≠
        s.device.text ++ (s.run unflushedFirst).1.flatMap s.acceptedLines := by
  decide +kernel

end LinesSink

end MetricIngest
