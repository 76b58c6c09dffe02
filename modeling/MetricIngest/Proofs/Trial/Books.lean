/-
  What the check of a trial's books looks at.

  A trial begins with as many records as it says, in a buffer that is closed unless the
  writer is cancelled, and no two of them have the same name. Nothing is found wrong just
  when the books balance: five pairs of numbers agree and no name is stored twice.
-/
import Mathlib.Data.List.Nodup
import MetricIngest.Writer.Trial

namespace MetricIngest

/-! ### What a trial begins with -/

/-- Numbered records are told apart by their names. -/
theorem Record.injective_name_numbered : Function.Injective fun i => (numbered i).name := by
  intro i j h
  have hrepr : i.repr = j.repr := (String.append_right_inj "m").mp h
  calc i = Nat.ofDigitChars 10 i.repr.toList 0 := by
        rw [Nat.toList_repr, Nat.ofDigitChars_ten_toDigits]
    _ = Nat.ofDigitChars 10 j.repr.toList 0 := by rw [hrepr]
    _ = j := by rw [Nat.toList_repr, Nat.ofDigitChars_ten_toDigits]

namespace Trial

theorem filledBuffer_succ (count : Nat) :
    filledBuffer (count + 1) = match (filledBuffer count).push (Record.numbered count) with
      | .ok b => b
      | .error _ => filledBuffer count := by
  rw [filledBuffer, List.range_succ, List.foldl_append]
  rfl

theorem filledBuffer_eq (count : Nat) :
    (filledBuffer count).records = (List.range count).map Record.numbered ∧
      (filledBuffer count).closed = false := by
  induction count with
  | zero => exact ⟨rfl, rfl⟩
  | succ count ih =>
    obtain ⟨hrecords, hopen⟩ := ih
    rw [filledBuffer_succ, List.range_succ, List.map_append, ← hrecords]
    simp [Buffer.push, hopen]

/-- **Nothing is wrong with the records** of a trial: each of them can be built, and the buffer
takes it behind the others. -/
theorem push_filledBuffer (i : Nat) :
    Record.ofName ("m" ++ toString i) .epoch (.ofNat i) .empty = .ok (Record.numbered i) ∧
      (filledBuffer i).push (Record.numbered i) = .ok (filledBuffer (i + 1)) := by
  constructor
  · simp [Record.ofName, Record.numbered]
  · rw [filledBuffer_succ]
    simp [Buffer.push, (filledBuffer_eq i).2]

theorem records_buffer (plan : TrialPlan) (seed : UInt64) :
    (buffer plan seed).records = (List.range (size plan seed).1).map Record.numbered := by
  unfold buffer
  dsimp only
  split <;> exact (filledBuffer_eq _).1

theorem length_buffer (plan : TrialPlan) (seed : UInt64) :
    (buffer plan seed).records.length = (size plan seed).1 := by
  rw [records_buffer, List.length_map, List.length_range]

/-- **No two records of a trial** have the same name. -/
theorem nodup_names_buffer (plan : TrialPlan) (seed : UInt64) :
    ((buffer plan seed).records.map (·.name)).Nodup := by
  rw [records_buffer, List.map_map]
  exact List.nodup_range.map Record.injective_name_numbered

end Trial

/-! ### What is found wrong -/

namespace TrialResult

theorem go_eq_none_iff {seen names : List String} :
    repeated?.go seen names = none ↔ names.Nodup ∧ ∀ name ∈ names, name ∉ seen := by
  induction names generalizing seen with
  | nil => simp [repeated?.go]
  | cons name names ih =>
    rw [repeated?.go]
    split
    · rename_i hseen
      simp [hseen]
    · rename_i hnew
      rw [ih, List.nodup_cons, List.forall_mem_cons]
      constructor
      · rintro ⟨hnodup, hothers⟩
        refine ⟨⟨fun hname => hothers name hname List.mem_cons_self, hnodup⟩, hnew, ?_⟩
        exact fun other hother hmem => hothers other hother (List.mem_cons_of_mem _ hmem)
      · rintro ⟨⟨hname, hnodup⟩, _, hothers⟩
        refine ⟨hnodup, fun other hother hmem => ?_⟩
        rcases List.mem_cons.mp hmem with rfl | hmem
        · exact hname hother
        · exact hothers other hother hmem

/-- No name stands in a list for the second time just when all are different. -/
theorem repeated?_eq_none_iff {names : List String} : repeated? names = none ↔ names.Nodup := by
  cases names with
  | nil => simp [repeated?]
  | cons name names =>
    simp [repeated?, go_eq_none_iff]

/-- **Nothing is found wrong** just when the books balance. -/
theorem fault?_eq_none_iff {r : TrialResult} :
    r.fault? = none ↔
      r.stats.recordsPopped + r.left = r.pushed ∧
      r.stats.settled = r.stats.recordsPopped ∧
      r.stored.length = r.stats.recordsCommitted ∧
      r.stats.recordsLost = r.sink.recordsLost ∧
      r.stats.popErrors = r.buffer.popFailures ∧
      r.stored.Nodup := by
  rw [← repeated?_eq_none_iff]
  unfold fault?
  repeat' split
  all_goals simp_all

end TrialResult

/-- A trial has passed just when nothing is found wrong. -/
theorem TrialReport.passed_ofResult {r : TrialResult} :
    (TrialReport.ofResult r).passed = true ↔ r.fault? = none := by
  simp [ofResult]

end MetricIngest
