/-
  How bytes are cut into lines.

  `cutLines_eq_iff` says it by gluing: each line with the line feed behind it, then the rest. A
  bare line differs from a line by the carriage return at its end alone
  (`forall₂_bareLines`). The lines of a text are cut at its line feeds, for no other character
  has a line feed among its bytes (`lines_encode_append`).
-/
import MetricIngest.Proofs.Text.Utf8
import MetricIngest.Text.Parts
import Mathlib.Data.List.Forall2

namespace MetricIngest.Text

variable {bytes rest : List UInt8} {ended : List (List UInt8)} {cs : List Char}

theorem cutLines_flatMap (hended : ∀ line ∈ ended, newline ∉ line) (hrest : newline ∉ rest) :
    cutLines (ended.flatMap (· ++ [newline]) ++ rest) = (ended, rest) := by
  induction ended with
  | nil => exact cutLines_of_notMem hrest
  | cons line ended ih =>
    rw [List.forall_mem_cons] at hended
    rw [List.flatMap_cons, List.append_assoc, List.append_assoc, List.singleton_append,
      cutLines_append_newline hended.1, ih hended.2]

/-- **The lines and the rest** glued together again. -/
theorem glue_cutLines (bytes : List UInt8) :
    (cutLines bytes).1.flatMap (· ++ [newline]) ++ (cutLines bytes).2 = bytes ∧
      (∀ line ∈ (cutLines bytes).1, newline ∉ line) ∧ newline ∉ (cutLines bytes).2 := by
  induction bytes with
  | nil => simp [cutLines]
  | cons b bytes ih =>
    obtain ⟨hglued, hended, hrest⟩ := ih
    cases hcut : cutLines bytes with
    | mk ended rest =>
      rw [hcut] at hglued hended hrest
      rw [cutLines, hcut]
      dsimp only
      split
      · rename_i hb
        subst hb
        exact ⟨congrArg (newline :: ·) hglued, List.forall_mem_cons.mpr ⟨by simp, hended⟩, hrest⟩
      · rename_i hb
        cases ended with
        | nil => exact ⟨congrArg (b :: ·) hglued, by simp,
            List.not_mem_cons_of_ne_of_not_mem (Ne.symm hb) hrest⟩
        | cons line ended =>
          rw [List.forall_mem_cons] at hended
          obtain ⟨hline, hended⟩ := hended
          have hcons : newline ∉ b :: line :=
            List.not_mem_cons_of_ne_of_not_mem (Ne.symm hb) hline
          exact ⟨congrArg (b :: ·) hglued, List.forall_mem_cons.mpr ⟨hcons, hended⟩, hrest⟩

/-- **The cut into lines** is the one way to glue the bytes together. -/
theorem cutLines_eq_iff : cutLines bytes = (ended, rest) ↔ CutsInto bytes ended rest := by
  constructor
  · intro h
    obtain ⟨hglued, hended, hrest⟩ := glue_cutLines bytes
    rw [h] at hglued hended hrest
    exact ⟨hglued.symm, hended, hrest⟩
  · rintro ⟨rfl, hended, hrest⟩
    exact cutLines_flatMap hended hrest

/-! ### Bare lines -/

theorem eq_dropReturn_or (line : List UInt8) :
    line = dropReturn line ∨ line = dropReturn line ++ [carriageReturn] := by
  unfold dropReturn
  split
  · rename_i hlast
    exact Or.inr (List.dropLast_append_getLast? _ hlast).symm
  · exact Or.inl rfl

/-- **A bare line** is the line without the carriage return at its end, if there is one. -/
theorem forall₂_bareLines (h : CutsInto bytes ended rest) :
    List.Forall₂ (fun bare line => line = bare ∨ line = bare ++ [carriageReturn])
      (bareLines ended rest) (lines bytes) := by
  rw [bareLines, lines, readLines, cutLines_eq_iff.mpr h]
  refine List.rel_append ?_ ?_
  · exact List.forall₂_map_left_iff.mpr (List.forall₂_same.mpr fun line _ => eq_dropReturn_or line)
  · simp only [Bool.false_eq_true, false_or]
    exact List.forall₂_same.mpr fun line _ => Or.inl rfl

/-! ### Lines of a text -/

theorem newline_notMem_encode (h : '\n' ∉ cs) :
    newline ∉ Utf8.encode (String.ofList cs) := by
  rw [Utf8.mem_encode_iff (by decide), String.toList_ofList]
  exact h

/-- A line of a text ends at its line feed. -/
theorem lines_encode_append (h : '\n' ∉ cs) (rest : List Char) :
    lines (Utf8.encode (String.ofList (cs ++ '\n' :: rest))) =
      Utf8.encode (String.ofList cs) :: lines (Utf8.encode (String.ofList rest)) := by
  have hencode : Utf8.encode (String.ofList (cs ++ '\n' :: rest)) =
      Utf8.encode (String.ofList cs) ++ newline :: Utf8.encode (String.ofList rest) := by
    simp only [Utf8.encode_ofList, List.flatMap_append, List.flatMap_cons]
    rfl
  rw [hencode, lines, readLines_append_newline false (newline_notMem_encode h)]
  rfl

/-- What no line feed ends is a line of its own, unless it is empty. -/
theorem lines_encode_of_notMem (h : '\n' ∉ cs) :
    lines (Utf8.encode (String.ofList cs)) =
      if cs = [] then [] else [Utf8.encode (String.ofList cs)] := by
  have hnil : Utf8.encode (String.ofList cs) = [] ↔ cs = [] := by
    rw [Utf8.encode_ofList]
    cases cs <;> simp [String.utf8EncodeChar_ne_nil]
  rw [lines, readLines_of_notMem false (newline_notMem_encode h)]
  simp only [Bool.false_eq_true, false_or, hnil]

end MetricIngest.Text
