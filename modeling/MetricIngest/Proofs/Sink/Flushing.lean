/-
  What is flushed when a sink that writes lines is closed.

  `Turn` lists the ways in which a call can end with what it leaves on the device, and `Standing`
  is what calls keep between their history and the device: as long as the sink is open, text
  waits to be flushed just if the events say so. The first close flushes or reports that it
  could not; a later one reports nothing, so it may leave text behind that waited before
  (`flushed_of_close`).
-/
import MetricIngest.Proofs.Lists
import MetricIngest.Sink.Flushing

namespace MetricIngest

/-! ### Text that waits -/

namespace LinesEvent

variable {past : List LinesEvent} {event : LinesEvent}

theorem textWaits_append_singleton_iff :
    TextWaits (past ++ [event]) ↔ event.LeavesText ∨ TextWaits past ∧ ¬event.TakesBatch := by
  constructor
  · rintro ⟨before, left, after, heq, hleaves, hafter⟩
    rcases ListFacts.append_singleton_eq_append_cons_iff.mp heq with
      ⟨-, rfl, -⟩ | ⟨rest, rfl, rfl⟩
    · exact .inl hleaves
    · rw [List.forall_mem_append, List.forall_mem_singleton] at hafter
      exact .inr ⟨⟨before, left, rest, rfl, hleaves, hafter.1⟩, hafter.2⟩
  · rintro (hleaves | ⟨⟨before, left, after, rfl, hleaves, hafter⟩, hevent⟩)
    · exact ⟨past, event, [], rfl, hleaves, by simp⟩
    · refine ⟨before, left, after ++ [event], by simp, hleaves, ?_⟩
      rw [List.forall_mem_append, List.forall_mem_singleton]
      exact ⟨hafter, hevent⟩

theorem textAbandoned_append_singleton_iff :
    TextAbandoned (past ++ [event]) ↔
      TextAbandoned past ∨ event.ClosesUnflushed ∧ TextWaits past := by
  constructor
  · rintro ⟨before, close, after, heq, hclose, hwaits⟩
    rcases ListFacts.append_singleton_eq_append_cons_iff.mp heq with
      ⟨rfl, rfl, -⟩ | ⟨rest, rfl, rfl⟩
    · exact .inr ⟨hclose, hwaits⟩
    · exact .inl ⟨before, close, rest, rfl, hclose, hwaits⟩
  · rintro (⟨before, close, after, rfl, hclose, hwaits⟩ | ⟨hclose, hwaits⟩)
    · exact ⟨before, close, after ++ [event], by simp, hclose, hwaits⟩
    · exact ⟨past, event, [], rfl, hclose, hwaits⟩

theorem not_textWaits_nil : ¬TextWaits [] := by
  rintro ⟨before, event, after, heq, -⟩
  simp at heq

theorem TextAbandoned.exists_closed (h : TextAbandoned past) : ∃ result, .closed result ∈ past := by
  obtain ⟨before, event, after, rfl, ⟨e, rfl⟩, -⟩ := h
  exact ⟨.error e, by simp⟩

end LinesEvent

/-! ### Single calls -/

namespace LinesSink

open LinesEvent

variable {s s' : LinesSink} {next : LinesCall} {past : List LinesEvent} {event : LinesEvent}

/-- The ways in which a call can end, with what it leaves on the device. -/
inductive Turn (s : LinesSink) : LinesEvent → LinesSink → Prop where
  /-- A batch is written and flushed. -/
  | taken {batch o text} (hopen : s.closed = false) :
    Turn s (.submitted batch (.ok o) text)
      { s with device := ⟨s.device.text ++ text, (s.device.text ++ text).length⟩ }
  /-- A batch is written in part, or not flushed. -/
  | left {batch e text} (hopen : s.closed = false) :
    Turn s (.submitted batch (.error e) text)
      { s with device := ⟨s.device.text ++ text, s.device.flushed⟩ }
  /-- A batch comes after the sink was closed. -/
  | refused {batch} (hclosed : s.closed = true) : Turn s (.submitted batch (.error .closed) []) s
  /-- The sink is closed, with a flush. -/
  | closed (hopen : s.closed = false) :
    Turn s (.closed (.ok ()))
      { s with device := ⟨s.device.text, s.device.text.length⟩, closed := true }
  /-- The sink is closed, and the flush fails. -/
  | unflushed {e} (hopen : s.closed = false) :
    Turn s (.closed (.error e)) { s with closed := true }
  /-- The sink was closed before. -/
  | again (hclosed : s.closed = true) : Turn s (.closed (.ok ())) s

theorem turn_submit (s : LinesSink) (f : DeviceFaults) (batch : List Record) :
    s.Turn (s.call (.submit f batch)).1 (s.call (.submit f batch)).2 := by
  cases hclosed : s.closed with
  | true =>
    simp only [call, submit_of_closed hclosed, List.drop_length]
    exact .refused hclosed
  | false =>
    have hpart : ∃ text device, (s.device.write f (s.lines batch)).2 = device ∧
        device = ⟨s.device.text ++ text, s.device.flushed⟩ := by
      unfold Device.write
      split
      · exact ⟨_, _, rfl, rfl⟩
      · split <;> exact ⟨_, _, rfl, rfl⟩
    obtain ⟨text, device, hwrite, rfl⟩ := hpart
    simp only [call]
    rw [submit, if_neg (by simp [hclosed])]
    generalize s.device.write f (s.lines batch) = written at hwrite ⊢
    obtain ⟨answer, device⟩ := written
    obtain rfl : device = _ := hwrite
    cases answer with
    | error e =>
      dsimp only
      rw [List.drop_left]
      exact .left hclosed
    | ok =>
      cases hflush : f.flushFails <;> simp only [Device.flush, hflush, Bool.false_eq_true,
        ↓reduceIte, List.drop_left]
      · exact .taken hclosed
      · exact .left hclosed

theorem turn_close (s : LinesSink) (f : DeviceFaults) :
    s.Turn (s.call (.close f)).1 (s.call (.close f)).2 := by
  cases hclosed : s.closed with
  | true =>
    simp only [call, close_of_closed hclosed]
    exact .again hclosed
  | false =>
    cases hflush : f.flushFails <;> simp only [call, close, hclosed, Device.flush, hflush,
      Bool.false_eq_true, ↓reduceIte]
    · exact .closed hclosed
    · exact .unflushed hclosed

/-- **Each call ends in one of these ways.** -/
theorem turn_call (s : LinesSink) (next : LinesCall) : s.Turn (s.call next).1 (s.call next).2 := by
  cases next with
  | submit f batch => exact s.turn_submit f batch
  | close f => exact s.turn_close f

/-! ### Calls one after the other -/

/-- What calls keep between their history and the sink. -/
structure Standing (past : List LinesEvent) (s : LinesSink) : Prop where
  flushed_le : s.device.flushed ≤ s.device.text.length
  closed_iff : s.closed = true ↔ ∃ result, .closed result ∈ past
  /-- As long as the sink is open, text waits that no submission has flushed. -/
  waits : s.closed = false → (s.device.Flushed ↔ ¬TextWaits past)
  /-- Once it is closed, no more text comes, and none is flushed. -/
  abandoned : s.closed = true → (s.device.Flushed ↔ ¬TextAbandoned past)

theorem Standing.turn (h : Standing past s) (hturn : s.Turn event s') :
    Standing (past ++ [event]) s' := by
  obtain ⟨hle, hclosed, hwaits, habandoned⟩ := h
  cases hturn with
  | taken hopen =>
    refine ⟨Nat.le_refl _, by simpa using hclosed, fun _ => ?_,
      fun hshut => by simp [hopen] at hshut⟩
    simp [Device.Flushed, textWaits_append_singleton_iff, LeavesText, TakesBatch]
  | @left _ _ text hopen =>
    refine ⟨by simp only [List.length_append]; omega, by simpa using hclosed, fun _ => ?_,
      fun hshut => by simp [hopen] at hshut⟩
    -- Without more text the device is as it was, and with some it is not flushed.
    cases text with
    | nil => simpa [textWaits_append_singleton_iff, LeavesText, TakesBatch] using hwaits hopen
    | cons c text =>
      simp only [Device.Flushed, textWaits_append_singleton_iff, LeavesText, TakesBatch,
        List.length_append, List.length_cons]
      refine iff_of_false (by omega) (not_not_intro (.inl ⟨_, _, _, rfl, by simp⟩))
  | refused hshut =>
    refine ⟨hle, by simpa using hclosed, fun hopen => by simp [hshut] at hopen, fun _ => ?_⟩
    simpa [textAbandoned_append_singleton_iff, ClosesUnflushed] using habandoned hshut
  | closed hopen =>
    refine ⟨Nat.le_refl _, by simp, fun hopen => by simp at hopen, fun _ => ?_⟩
    refine iff_of_true rfl ?_
    rw [textAbandoned_append_singleton_iff]
    rintro (habandoned | ⟨⟨e, heq⟩, -⟩)
    · simp [hclosed.mpr habandoned.exists_closed] at hopen
    · simp at heq
  | unflushed hopen =>
    refine ⟨hle, by simp, fun hopen => by simp at hopen, fun _ => ?_⟩
    have hnot : ¬TextAbandoned past := fun habandoned => by
      simp [hclosed.mpr habandoned.exists_closed] at hopen
    simpa [textAbandoned_append_singleton_iff, ClosesUnflushed, hnot] using hwaits hopen
  | again hshut =>
    refine ⟨hle, by simp [hshut], fun hopen => by simp [hshut] at hopen, fun _ => ?_⟩
    simpa [textAbandoned_append_singleton_iff, ClosesUnflushed] using habandoned hshut

theorem Standing.run (h : Standing past s) (calls : List LinesCall) :
    Standing (past ++ (s.run calls).1) (s.run calls).2 := by
  induction calls generalizing s past with
  | nil => simpa [LinesSink.run] using h
  | cons next calls ih =>
    simp only [LinesSink.run]
    rw [List.append_cons]
    exact ih (h.turn (s.turn_call next))

/-- **What a close says** of the text on the device. After any calls of an open sink, on whose
device no text waits, it succeeds if the sink was closed before or the flush does. If it succeeds,
then all text that the device took has been flushed since, unless an earlier close could not
flush text that waited: the sink is closed then, and that text stays unflushed. -/
theorem flushed_of_close (hopen : s.closed = false) (hflushed : s.device.Flushed)
    (calls : List LinesCall) : ∃ past last, s.run calls = (past, last) ∧ ∀ f,
      ((last.close f).1 = .ok () ↔ (∃ result, .closed result ∈ past) ∨ f.flushFails = false) ∧
      ((last.close f).1 = .ok () →
        ((last.close f).2.device.Flushed ↔ ¬TextAbandoned past)) := by
  have hstart : Standing [] s :=
    ⟨Nat.le_of_eq hflushed, by simp [hopen], fun _ => iff_of_true hflushed not_textWaits_nil,
      fun hshut => by simp [hopen] at hshut⟩
  have hlast := hstart.run calls
  rw [List.nil_append] at hlast
  refine ⟨_, _, rfl, fun f => ?_⟩
  generalize s.run calls = done at hlast
  obtain ⟨past, last⟩ := done
  dsimp only at hlast ⊢
  rw [← hlast.closed_iff]
  cases hclosed : last.closed with
  | true =>
    rw [close_of_closed hclosed]
    exact ⟨by simp, fun _ => hlast.abandoned hclosed⟩
  | false =>
    have hnot : ¬TextAbandoned past := fun habandoned => by
      simp [hlast.closed_iff.mpr habandoned.exists_closed] at hclosed
    cases hfails : f.flushFails <;>
      simp [close, hclosed, Device.flush, hfails, Device.Flushed, hnot]

theorem flushed_of_close_cutShort : let s : LinesSink := {}
    s.closed = false ∧ s.device.Flushed ∧ ∃ past last,
      s.run [.submit { writeLimit := some 3 } [.numbered 0]] = (past, last) ∧
      last.device.text.length = 3 ∧ ¬last.device.Flushed ∧
      (last.close {}).1 = .ok () ∧ (last.close {}).2.device.Flushed := by
  obtain ⟨past, last, hrun, hclose⟩ := flushed_of_close (s := {}) rfl rfl
    [.submit { writeLimit := some 3 } [.numbered 0]]
  obtain ⟨hok, hflushed⟩ := hclose {}
  have hnot : ¬TextAbandoned past := by
    intro habandoned
    obtain ⟨result, hmem⟩ := habandoned.exists_closed
    rw [← (Prod.mk.inj hrun).1] at hmem
    simp at hmem
  refine ⟨rfl, rfl, past, last, hrun, ?_, ?_, hok.mpr (.inr rfl),
    (hflushed (hok.mpr (.inr rfl))).mpr hnot⟩
  all_goals
    rw [← (Prod.mk.inj hrun).2]
    decide +kernel

/-- The flushes of a submission and of a close fail. -/
def twiceUnflushed : List LinesCall :=
  [.submit { flushFails := true } [.numbered 0], .close { flushFails := true }]

/-- The next close says that all is well, and the text is not flushed. -/
theorem twiceUnflushed_close :
    let s : LinesSink := {}
    ((s.run twiceUnflushed).2.close { flushFails := true }).1 = .ok () ∧
      ¬((s.run twiceUnflushed).2.close { flushFails := true }).2.device.Flushed := by
  decide +kernel

end LinesSink

end MetricIngest
