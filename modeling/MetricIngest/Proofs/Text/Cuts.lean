/-
  What cutting a text leaves, said by gluing it again.

  `dropLead?` and `cutFirst` find the only way in which a text begins with a lead or has a
  first separator, and `dropEndWhile` takes away the longest end of characters of a kind. `trim`
  and `cutAt` find what a text trims to and where a mark cuts it.
-/
import Mathlib.Data.List.DropRight
import MetricIngest.Text.Parts
import MetricIngest.Text.Split
import MetricIngest.Unicode.Property

namespace MetricIngest.Text

variable {sep : Char} {cs lead mark part rest before after ends : List Char} {p : Char → Bool}

/-! ### Leads and separators -/

theorem dropLead?_eq_some_iff : dropLead? lead cs = some rest ↔ cs = lead ++ rest := by
  induction lead generalizing cs with
  | nil => simp [dropLead?]
  | cons l lead ih =>
    cases cs with
    | nil => simp [dropLead?]
    | cons c cs =>
      rw [dropLead?, List.cons_append, List.cons.injEq]
      by_cases h : l = c
      · rw [if_pos h, ih]
        simp [h]
      · rw [if_neg h]
        simp [Ne.symm h]

theorem cutFirst_append_cons (h : sep ∉ before) (after : List Char) :
    cutFirst sep (before ++ sep :: after) = some (before, after) := by
  induction before with
  | nil => simp [cutFirst]
  | cons c before ih =>
    simp only [List.mem_cons, not_or] at h
    rw [List.cons_append, cutFirst, if_neg (Ne.symm h.1), ih h.2]
    rfl

/-- **The first separator** is the one with none before it. -/
theorem cutFirst_eq_some_iff :
    cutFirst sep cs = some (before, after) ↔ sep ∉ before ∧ cs = before ++ sep :: after := by
  constructor
  · intro h
    induction cs generalizing before with
    | nil => simp [cutFirst] at h
    | cons c cs ih =>
      rw [cutFirst] at h
      split at h
      · rename_i hc
        simp only [Option.some.injEq, Prod.mk.injEq] at h
        obtain ⟨rfl, rfl⟩ := h
        simp [hc]
      · rename_i hc
        obtain ⟨⟨first, second⟩, hcut, heq⟩ := Option.map_eq_some_iff.mp h
        simp only [Prod.mk.injEq] at heq
        obtain ⟨rfl, rfl⟩ := heq
        obtain ⟨hnot, rfl⟩ := ih hcut
        exact ⟨List.not_mem_cons_of_ne_of_not_mem (Ne.symm hc) hnot, rfl⟩
  · rintro ⟨hnot, rfl⟩
    exact cutFirst_append_cons hnot _

/-! ### Pieces -/

theorem mem_glue_of_mem {ps : List (List Char)} (hpart : part ∈ ps) {c : Char} (hc : c ∈ part) :
    c ∈ glue sep ps := by
  induction ps using glue.induct with
  | case1 => cases hpart
  | case2 p =>
    rw [List.mem_singleton] at hpart
    rwa [glue, ← hpart]
  | case3 p q ps ih =>
    rw [glue, List.mem_append, List.mem_cons]
    rcases List.mem_cons.mp hpart with rfl | hpart
    · exact Or.inl hc
    · exact Or.inr (Or.inr (ih hpart))

/-- What is glued has the separator and the characters of the pieces. -/
theorem mem_glue {ps : List (List Char)} {c : Char} (hc : c ∈ glue sep ps) :
    c = sep ∨ ∃ part ∈ ps, c ∈ part := by
  induction ps using glue.induct with
  | case1 => cases hc
  | case2 p => exact Or.inr ⟨p, List.mem_singleton_self p, hc⟩
  | case3 p q ps ih =>
    rw [glue, List.mem_append, List.mem_cons] at hc
    rcases hc with hc | hc | hc
    · exact Or.inr ⟨p, List.mem_cons_self, hc⟩
    · exact Or.inl hc
    · obtain hsep | ⟨part, hpart, hmem⟩ := ih hc
      · exact Or.inl hsep
      · exact Or.inr ⟨part, List.mem_cons_of_mem p hpart, hmem⟩

/-- **The pieces of a text** are the only ones. -/
theorem piecesOf_iff {ps : List (List Char)} : PiecesOf sep cs ps ↔ pieces sep cs = ps := by
  constructor
  · rintro ⟨hne, rfl, hsep⟩
    exact pieces_glue hne hsep
  · rintro rfl
    exact ⟨pieces_ne_nil sep cs, glue_pieces sep cs, fun _ => not_mem_of_mem_pieces⟩

theorem mem_of_mem_pieces (hpart : part ∈ pieces sep cs) {c : Char} (hc : c ∈ part) : c ∈ cs := by
  rw [← glue_pieces sep cs]
  exact mem_glue_of_mem hpart hc

theorem join_split (sep : Char) (s : String) : join sep (split sep s) = s := by
  have htexts : (String.toList ∘ String.ofList) = (id : List Char → List Char) :=
    funext fun _ => String.toList_ofList
  rw [join, split, List.map_map, htexts, List.map_id, glue_pieces, String.ofList_toList]

/-- **Texts without the separator** are found again in what they are joined to. -/
theorem split_join {parts : List String} (hne : parts ≠ [])
    (h : ∀ part ∈ parts, sep ∉ part.toList) : split sep (join sep parts) = parts := by
  have hpieces : pieces sep (glue sep (parts.map String.toList)) = parts.map String.toList :=
    pieces_glue (by simpa using hne) (by simpa using h)
  rw [split, join, String.toList_ofList, hpieces, List.map_map]
  exact (List.map_congr_left fun _ _ => String.ofList_toList).trans (List.map_id parts)

/-! ### Ends -/

theorem dropEndWhile_append (hends : ∀ c ∈ ends, p c = true)
    (hrest : ∀ c ∈ rest.getLast?, p c = false) : dropEndWhile p (rest ++ ends) = rest := by
  have hself : rest.rdropWhile p = rest := by
    rw [List.rdropWhile_eq_self_iff]
    intro hne
    have hlast := hrest _ (List.getLast?_eq_getLast_of_ne_nil hne)
    simp [hlast]
  have hdrop : (ends.reverse ++ rest.reverse).dropWhile p = rest.reverse.dropWhile p :=
    List.dropWhile_append_of_pos (by simpa using hends)
  rw [dropEndWhile, List.reverse_append, hdrop]
  exact hself

/-- **What is dropped at the end** is of the kind, and what stays does not end in it. -/
theorem exists_eq_dropEndWhile_append (p : Char → Bool) (cs : List Char) :
    ∃ ends, cs = dropEndWhile p cs ++ ends ∧ (∀ c ∈ ends, p c = true) ∧
      ∀ c ∈ (dropEndWhile p cs).getLast?, p c = false := by
  refine ⟨cs.rtakeWhile p, List.rdropWhile_append_rtakeWhile.symm,
    fun c hc => List.mem_rtakeWhile_imp hc, ?_⟩
  intro c hc
  obtain ⟨hne, rfl⟩ := List.mem_getLast?_eq_getLast hc
  exact Bool.eq_false_iff.mpr (List.rdropWhile_last_not p cs hne)

/-! ### White space -/

/-- White space is what the Unicode property says. -/
theorem isWhiteSpace_eq_contains (c : Char) :
    isWhiteSpace c = Unicode.whiteSpaces.contains c.toNat := by
  have hranges : Unicode.whiteSpaces.ranges = [(0x09, 0x0D), (0x20, 0x20), (0x85, 0x85),
      (0xA0, 0xA0), (0x1680, 0x1680), (0x2000, 0x200A), (0x2028, 0x2029), (0x202F, 0x202F),
      (0x205F, 0x205F), (0x3000, 0x3000)] :=
    (Unicode.CodePoints.ranges_ofRanges (by decide +kernel) (by decide +kernel)).trans
      (by decide +kernel)
  rw [Bool.eq_iff_iff]
  simp only [isWhiteSpace, Unicode.CodePoints.contains, hranges, List.any_cons, List.any_nil,
    Bool.or_false, Bool.or_eq_true, Bool.and_eq_true, decide_eq_true_eq, beq_iff_eq]
  omega

/-! ### Trimming -/

/-- **What a text trims to** is what is left of it. -/
theorem trim_of_trimsTo (h : TrimsTo cs part) : trim cs = part := by
  obtain ⟨before, after, rfl, hbefore, hafter⟩ := h.glued
  rw [trim, List.append_assoc, List.dropWhile_append_of_pos hbefore]
  cases part with
  | nil =>
    rw [List.nil_append, List.dropWhile_eq_nil_iff.mpr hafter]
    rfl
  | cons c part =>
    rw [List.cons_append, List.dropWhile_cons_of_neg (by simp [h.first c rfl]), ← List.cons_append]
    exact dropEndWhile_append hafter h.last

theorem trimsTo_trim (cs : List Char) : TrimsTo cs (trim cs) := by
  obtain ⟨ends, heq, hends, hlast⟩ :=
    exists_eq_dropEndWhile_append isWhiteSpace (cs.dropWhile isWhiteSpace)
  refine ⟨⟨cs.takeWhile isWhiteSpace, ends, ?_, fun c hc => List.mem_takeWhile_imp hc, hends⟩, ?_,
    hlast⟩
  · rw [trim, List.append_assoc, ← heq, List.takeWhile_append_dropWhile]
  · -- What is left begins as it did before its end was dropped.
    intro c hc
    have hhead : c ∈ (cs.dropWhile isWhiteSpace).head? := by
      rw [heq]
      exact List.mem_head?_append_of_mem_head? hc
    have hnot := List.head?_dropWhile_not isWhiteSpace cs
    rw [Option.mem_def.mp hhead] at hnot
    simpa using hnot

theorem trimsTo_iff : TrimsTo cs part ↔ trim cs = part :=
  ⟨trim_of_trimsTo, fun h => h ▸ trimsTo_trim cs⟩

instance (cs part : List Char) : Decidable (TrimsTo cs part) :=
  decidable_of_iff _ trimsTo_iff.symm

/-- A text trims to one part. -/
theorem TrimsTo.unique (h : TrimsTo cs part) {part' : List Char} (h' : TrimsTo cs part') :
    part = part' :=
  (trim_of_trimsTo h).symm.trans (trim_of_trimsTo h')

/-- White space at the end is trimmed away. -/
theorem trim_append (hends : ∀ c ∈ ends, isWhiteSpace c = true) : trim (cs ++ ends) = trim cs := by
  obtain ⟨⟨before, after, hglued, hbefore, hafter⟩, hfirst, hlast⟩ := trimsTo_trim cs
  refine trim_of_trimsTo ⟨⟨before, after ++ ends, ?_, hbefore, ?_⟩, hfirst, hlast⟩
  · rw [← List.append_assoc, ← hglued]
  · exact List.forall_mem_append.mpr ⟨hafter, hends⟩

/-! ### The first occurrence of a mark -/

/-- **The cut at a mark** is where it occurs first. -/
theorem cutsAt_of_cutAt (h : cutAt mark cs = some (before, after)) : CutsAt mark cs before after := by
  induction cs generalizing before with
  | nil =>
    obtain ⟨rest, hrest, heq⟩ := Option.map_eq_some_iff.mp h
    cases heq
    exact ⟨dropLead?_eq_some_iff.mp hrest, fun _ _ _ => Nat.zero_le _⟩
  | cons c cs ih =>
    rw [cutAt] at h
    split at h
    · rename_i hlead
      cases h
      exact ⟨dropLead?_eq_some_iff.mp hlead, fun _ _ _ => Nat.zero_le _⟩
    · rename_i hlead
      obtain ⟨⟨first, second⟩, hcut, heq⟩ := Option.map_eq_some_iff.mp h
      cases heq
      obtain ⟨hglued, hfirst⟩ := ih hcut
      refine ⟨congrArg (c :: ·) hglued, fun before' after' hcs => ?_⟩
      cases before' with
      | nil =>
        rw [List.nil_append] at hcs
        rw [dropLead?_eq_some_iff.mpr hcs] at hlead
        cases hlead
      | cons c' before' =>
        have hrest := hfirst before' after' (List.cons.inj hcs).2
        exact Nat.succ_le_succ hrest

theorem isInfix_of_cutsAt (h : CutsAt mark cs before after) : mark <:+: cs :=
  ⟨before, after, h.glued.symm⟩

/-- There is one cut at a mark. -/
theorem CutsAt.unique (h : CutsAt mark cs before after) {before' after' : List Char}
    (h' : CutsAt mark cs before' after') : before = before' ∧ after = after' := by
  have hlength : before.length = before'.length :=
    Nat.le_antisymm (h.first _ _ h'.glued) (h'.first _ _ h.glued)
  have hglued : before ++ (mark ++ after) = before' ++ (mark ++ after') := by
    rw [← List.append_assoc, ← List.append_assoc, ← h.glued, ← h'.glued]
  obtain ⟨hbefore, hafter⟩ := List.append_inj hglued hlength
  exact ⟨hbefore, List.append_cancel_left hafter⟩

/-- A text is cut where it begins with the mark. -/
theorem cutAt_append (mark after : List Char) : cutAt mark (mark ++ after) = some ([], after) := by
  have hlead : dropLead? mark (mark ++ after) = some after := dropLead?_eq_some_iff.mpr rfl
  cases htext : mark ++ after with
  | nil =>
    rw [htext] at hlead
    rw [cutAt, hlead]
    rfl
  | cons c cs =>
    rw [htext] at hlead
    rw [cutAt, hlead]

/-- **A mark that occurs** is cut at. -/
theorem cutAt_eq_none_iff : cutAt mark cs = none ↔ ¬ mark <:+: cs := by
  constructor
  · rintro h ⟨before, after, rfl⟩
    induction before with
    | nil =>
      rw [List.nil_append, cutAt_append] at h
      cases h
    | cons c before ih =>
      rw [List.cons_append, List.cons_append, cutAt] at h
      split at h
      · cases h
      · exact ih (Option.map_eq_none_iff.mp h)
  · intro h
    cases hcut : cutAt mark cs with
    | none => rfl
    | some cut => exact absurd (isInfix_of_cutsAt (cutsAt_of_cutAt hcut)) h

theorem cutsAt_iff : CutsAt mark cs before after ↔ cutAt mark cs = some (before, after) := by
  refine ⟨fun h => ?_, cutsAt_of_cutAt⟩
  cases hcut : cutAt mark cs with
  | none => exact absurd (isInfix_of_cutsAt h) (cutAt_eq_none_iff.mp hcut)
  | some cut =>
    obtain ⟨rfl, rfl⟩ := h.unique (cutsAt_of_cutAt hcut)
    rfl

/-- **The text up to a mark.** -/
theorem upTo_iff : UpTo mark cs part ↔ ((cutAt mark cs).map (·.1)).getD cs = part := by
  rw [UpTo]
  simp only [cutsAt_iff, ← cutAt_eq_none_iff]
  cases cutAt mark cs with
  | none => simp [eq_comm]
  | some cut => simp [Prod.ext_iff]

end MetricIngest.Text
