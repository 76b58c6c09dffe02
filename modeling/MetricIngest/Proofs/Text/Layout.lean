/-
  The preferred way in which a text fits a layout.

  `fit?` follows the layout: what may be absent and the first of two are tried first, and a
  run before something that begins with no character of its kind has only one end that
  leads on, so that no shorter run has to be tried (`fit?_run_sequence`). `mem_fits_sequence`
  and its like say what any way looks like, preferred or not.
-/
import MetricIngest.Proofs.Text.Cuts
import MetricIngest.Text.Layout

namespace MetricIngest.Text

variable {κ β : Type} {p : Char → Bool} {c c' : Char} {cs text taken rest : List Char} {least : Nat}

/-! ### Runs -/

theorem mem_runs : (taken, rest) ∈ runs p text ↔ text = taken ++ rest ∧ ∀ c ∈ taken, p c = true := by
  induction text generalizing taken with
  | nil => cases taken <;> simp [runs]
  | cons c cs ih =>
    cases taken with
    | nil =>
      have hlonger : ([], rest) ∉ if p c then (runs p cs).map fun run => (c :: run.1, run.2)
          else [] := by split <;> simp
      simp only [runs, List.mem_append, hlonger, false_or, List.mem_singleton, Prod.mk.injEq,
        true_and, List.nil_append, List.not_mem_nil, false_implies, implies_true, and_true]
      exact eq_comm
    | cons d taken =>
      by_cases hc : p c = true
      · simp only [runs, hc, if_true, List.mem_append, List.mem_map, Prod.mk.injEq, List.cons.injEq,
          List.mem_singleton, reduceCtorEq, false_and, or_false, List.cons_append,
          List.forall_mem_cons]
        constructor
        · rintro ⟨⟨taken', rest'⟩, hmem, ⟨rfl, rfl⟩, rfl⟩
          obtain ⟨heq, hall⟩ := ih.mp hmem
          exact ⟨⟨rfl, heq⟩, hc, hall⟩
        · rintro ⟨⟨rfl, heq⟩, -, hall⟩
          exact ⟨(taken, rest), ih.mpr ⟨heq, hall⟩, ⟨rfl, rfl⟩, rfl⟩
      · simp only [runs, hc, Bool.false_eq_true, if_false, List.nil_append, List.mem_singleton,
          Prod.mk.injEq, reduceCtorEq, false_and, List.cons_append, List.cons.injEq,
          List.forall_mem_cons, false_iff]
        rintro ⟨⟨rfl, -⟩, hd, -⟩
        exact hc hd

/-- **Only the longest run leads on** where what comes next cannot begin with a character
of its kind. -/
theorem flatMap_runs {next : List Char × List Char → List β}
    (hnext : ∀ taken c rest, p c = true → next (taken, c :: rest) = [])
    (htaken : ∀ c ∈ taken, p c = true) (hrest : ∀ c ∈ rest.head?, p c = false) :
    (runs p (taken ++ rest)).flatMap next = next (taken, rest) := by
  induction taken generalizing next with
  | nil =>
    cases rest with
    | nil => simp [runs]
    | cons c rest =>
      have hc : p c = false := hrest c rfl
      simp [runs, hc]
  | cons c taken ih =>
    rw [List.forall_mem_cons] at htaken
    obtain ⟨hc, htaken⟩ := htaken
    have hshorter := hnext [] c (taken ++ rest) hc
    have hlonger := @ih (fun run => next (c :: run.1, run.2))
      (fun taken' c' rest' hc' => hnext (c :: taken') c' rest' hc') htaken
    rw [List.cons_append, runs, if_pos hc, List.flatMap_append, List.flatMap_map, hlonger,
      List.flatMap_singleton, hshorter, List.append_nil]

namespace Layout

variable {a b d : Layout κ} {key : κ} {f : Fit κ}

/-! ### All ways -/

theorem mem_fits_chars : f ∈ (chars cs : Layout κ).fits text ↔
    f.parts = [] ∧ f.taken = cs ∧ text = cs ++ f.rest := by
  obtain ⟨parts, taken, rest⟩ := f
  simp only [fits, List.mem_map, Option.mem_toList, Fit.mk.injEq,
    dropLead?_eq_some_iff]
  constructor
  · rintro ⟨_, heq, rfl, rfl, rfl⟩
    exact ⟨rfl, rfl, heq⟩
  · rintro ⟨rfl, rfl, heq⟩
    exact ⟨rest, heq, rfl, rfl, rfl⟩

theorem mem_fits_run : f ∈ (run p least : Layout κ).fits text ↔
    f.parts = [] ∧ text = f.taken ++ f.rest ∧ least ≤ f.taken.length ∧
      ∀ c ∈ f.taken, p c = true := by
  obtain ⟨parts, taken, rest⟩ := f
  simp only [fits, List.mem_filterMap, Option.ite_none_right_eq_some, Option.some.injEq,
    Fit.mk.injEq]
  constructor
  · rintro ⟨⟨taken', rest'⟩, hmem, hleast, rfl, rfl, rfl⟩
    obtain ⟨heq, hall⟩ := mem_runs.mp hmem
    exact ⟨rfl, heq, hleast, hall⟩
  · rintro ⟨rfl, heq, hleast, hall⟩
    exact ⟨(taken, rest), mem_runs.mpr ⟨heq, hall⟩, hleast, rfl, rfl, rfl⟩

theorem mem_fits_finish : f ∈ (finish : Layout κ).fits text ↔ f = ⟨[], [], []⟩ ∧ text = [] := by
  rw [fits]
  split <;> simp [*]

theorem mem_fits_part : f ∈ (part key a).fits text ↔
    ∃ g ∈ a.fits text, f = ⟨(key, g.taken) :: g.parts, g.taken, g.rest⟩ := by
  simp only [fits, List.mem_map, eq_comm]

/-- A run that is a part. -/
theorem eq_append_of_mem_fits_run (h : f ∈ (part key (run p least)).fits text) :
    text = f.taken ++ f.rest ∧ least ≤ f.taken.length ∧ ∀ c ∈ f.taken, p c = true := by
  obtain ⟨g, hg, rfl⟩ := mem_fits_part.mp h
  exact (mem_fits_run.mp hg).2

theorem mem_fits_sequence : f ∈ (sequence a b).fits text ↔
    ∃ g ∈ a.fits text, ∃ g' ∈ b.fits g.rest,
      f = ⟨g.parts ++ g'.parts, g.taken ++ g'.taken, g'.rest⟩ := by
  simp only [fits, List.mem_flatMap, List.mem_map, eq_comm]

/-! ### The preferred way -/

theorem fit?_eq_none_iff : a.fit? text = none ↔ a.fits text = [] := by
  simp [fit?]

theorem exists_mem_of_fit? {parts : List (κ × List Char)} (h : a.fit? text = some parts) :
    ∃ f ∈ a.fits text, f.parts = parts := by
  obtain ⟨f, hf, rfl⟩ := Option.map_eq_some_iff.mp h
  exact ⟨f, List.mem_of_mem_head? hf, rfl⟩

theorem fit?_finish : (finish : Layout κ).fit? text = if text = [] then some [] else none := by
  rw [fit?, fits]
  split <;> rfl

theorem fit?_either_sequence :
    (sequence (either a b) d).fit? text =
      ((sequence a d).fit? text).or ((sequence b d).fit? text) := by
  rw [fit?, fits, fits, List.flatMap_append, List.head?_append, Option.map_or]
  rfl

theorem fit?_optional_sequence :
    (sequence (optional a) b).fit? text = ((sequence a b).fit? text).or (b.fit? text) := by
  rw [fit?, fits, fits, List.flatMap_append, List.head?_append, Option.map_or,
    List.flatMap_singleton]
  simp [fit?, fits]

/-- What is laid out in three steps is laid out in the same ways if the last two are one. -/
theorem fit?_sequence_assoc :
    (sequence (sequence a b) d).fit? text = (sequence a (sequence b d)).fit? text := by
  have hfits : (sequence (sequence a b) d).fits text = (sequence a (sequence b d)).fits text := by
    simp only [fits, List.flatMap_assoc, List.map_flatMap, List.flatMap_map, List.map_map]
    refine List.flatMap_congr fun f _ => List.flatMap_congr fun g _ => List.map_congr_left ?_
    simp
  rw [fit?, fit?, hfits]

theorem fit?_chars_sequence (cs rest : List Char) :
    (sequence (chars cs) b).fit? (cs ++ rest) = b.fit? rest := by
  have hlead : dropLead? cs (cs ++ rest) = some rest := dropLead?_eq_some_iff.mpr rfl
  simp only [fit?, fits, hlead, Option.toList_some, List.map_cons, List.map_nil,
    List.flatMap_singleton, List.nil_append, List.head?_map, Option.map_map]
  rfl

theorem fit?_chars_sequence_of_ne (h : c ≠ c') :
    (sequence (chars (c' :: cs)) b).fit? (c :: rest) = none := by
  simp [fit?, fits, dropLead?, Ne.symm h]

theorem fit?_mark_sequence : (sequence (chars [c]) b).fit? (c :: rest) = b.fit? rest :=
  fit?_chars_sequence [c] rest

/-- A mark does not stand where a run could go on. -/
theorem fit?_mark_of_run (hmark : p c = false) (hc : p c' = true) :
    (sequence (sequence (chars [c]) b) d).fit? (c' :: rest) = none := by
  have hne : c' ≠ c := by
    rintro rfl
    rw [hc] at hmark
    cases hmark
  rw [fit?_sequence_assoc, fit?_chars_sequence_of_ne hne]

theorem fit?_chars_sequence_of_not_lead (h : ∀ rest, text ≠ cs ++ rest) :
    (sequence (chars cs) b).fit? text = none := by
  have hlead : dropLead? cs text = none := by
    rw [Option.eq_none_iff_forall_ne_some]
    exact fun rest hrest => h rest (dropLead?_eq_some_iff.mp hrest)
  simp [fit?, fits, hlead]

/-- **A run up to where it has to end**: no shorter run leads on. -/
theorem fit?_run_sequence (hb : ∀ c rest, p c = true → b.fit? (c :: rest) = none)
    (htaken : ∀ c ∈ taken, p c = true) (hrest : ∀ c ∈ rest.head?, p c = false) :
    (sequence (part key (run p least)) b).fit? (taken ++ rest) =
      if least ≤ taken.length then (b.fit? rest).map ((key, taken) :: ·) else none := by
  have hfits : (sequence (part key (run p least)) b).fits (taken ++ rest) =
      (runs p (taken ++ rest)).flatMap fun run =>
        if least ≤ run.1.length then
          (b.fits run.2).map fun g => ⟨(key, run.1) :: g.parts, run.1 ++ g.taken, g.rest⟩
        else [] := by
    simp only [fits, List.filterMap_eq_flatMap_toList, List.map_flatMap, List.flatMap_assoc]
    refine List.flatMap_congr fun run _ => ?_
    split <;> simp
  rw [fit?, hfits, flatMap_runs _ htaken hrest]
  · split
    · simp only [fit?, List.head?_map, Option.map_map]
      rfl
    · rfl
  · intro taken' c rest' hc
    simp [fit?_eq_none_iff.mp (hb c rest' hc)]

/-- **A run up to a mark** that is not of its kind. -/
theorem fit?_run_mark (hmark : p c = false) (htaken : ∀ c ∈ taken, p c = true) :
    (sequence (sequence (part key (run p least)) (sequence (chars [c]) b)) d).fit?
        (taken ++ c :: rest) =
      if least ≤ taken.length then ((sequence b d).fit? rest).map ((key, taken) :: ·)
      else none := by
  rw [fit?_sequence_assoc, fit?_run_sequence (fun _ _ => fit?_mark_of_run hmark) htaken
    (by simpa using hmark), fit?_sequence_assoc, fit?_mark_sequence]

/-- A run does not end at another mark than the one that has to follow. -/
theorem fit?_run_mark_of_ne (hmark : p c = false) (hother : p c' = false) (hne : c' ≠ c)
    (htaken : ∀ c ∈ taken, p c = true) :
    (sequence (sequence (part key (run p least)) (sequence (chars [c]) b)) d).fit?
      (taken ++ c' :: rest) = none := by
  rw [fit?_sequence_assoc, fit?_run_sequence (fun _ _ => fit?_mark_of_run hmark) htaken
    (by simpa using hother), fit?_sequence_assoc, fit?_chars_sequence_of_ne hne]
  split <;> rfl

/-- A run that is the last part takes the whole text. -/
theorem fit?_run_finish (htaken : ∀ c ∈ taken, p c = true) :
    (sequence (part key (run p least)) finish).fit? taken =
      if least ≤ taken.length then some [(key, taken)] else none := by
  have hlast : (sequence (part key (run p least)) finish).fit? (taken ++ []) =
      if least ≤ taken.length then (finish.fit? []).map ((key, taken) :: ·) else none :=
    fit?_run_sequence (fun c rest _ => fit?_finish.trans (if_neg (List.cons_ne_nil c rest))) htaken
      (by simp)
  rw [List.append_nil] at hlast
  rw [hlast, fit?_finish]
  rfl

end Layout

end MetricIngest.Text
