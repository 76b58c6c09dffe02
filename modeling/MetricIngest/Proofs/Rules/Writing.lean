/-
  Rules written as text and read again.

  The lines of a written text are those of its pairs (`lines_textOf`). A line is cut at the
  first delimiter in it, which is the one that was written unless the pattern ends in a bar
  (`cutsAt_lineOf`): then the delimiter that begins with this bar comes first, and the pattern
  that is read is a shorter one. So a text of plain pairs gives the table of the pairs just when
  no pattern ends in a bar (`ofText_textOf`).
-/
import MetricIngest.Pattern.Reader
import MetricIngest.Proofs.Rules.Entries
import MetricIngest.Rules.Writing

namespace MetricIngest

namespace RuleTable

open Text

section

variable [PatternLanguage] {pair : String × String} {pairs : List (String × String)} {r : Rule}
  {rules : List Rule} {table : RuleTable}

/-! ### Plain pairs -/

instance (half : String) : Decidable (PlainHalf half) :=
  decidable_of_iff (TrimsTo half.toList half.toList ∧ '\n' ∉ half.toList ∧
    ¬ delimiter <:+: half.toList) ⟨fun h => ⟨h.1, h.2.1, h.2.2⟩, fun h => ⟨h.1, h.2, h.3⟩⟩

theorem plain_iff : Plain pair ↔ PlainHalf pair.1 ∧ PlainHalf pair.2 ∧ pair.1.toList ≠ [] ∧
    pair.1.toList.head? ≠ some '#' ∧ (PatternLanguage.finder? pair.1).isSome = true := by
  rw [Option.isSome_iff_ne_none]
  exact ⟨fun h => ⟨h.pattern, h.template, h.ne_nil, h.head_ne, h.accepted⟩,
    fun h => ⟨h.1, h.2.1, h.2.2.1, h.2.2.2.1, h.2.2.2.2⟩⟩

instance (pair : String × String) : Decidable (Plain pair) :=
  decidable_of_iff _ plain_iff.symm

/-! ### Tables of pairs -/

theorem go_eq_ok_iff (index : Nat) : ofPairs.go index pairs = .ok table ↔
    table.rules.map Rule.pair = pairs ∧ ∀ r ∈ table.rules, r.IsRead := by
  induction pairs generalizing index table with
  | nil =>
    obtain ⟨rules⟩ := table
    rw [ofPairs.go, List.map_eq_nil_iff, Except.ok.injEq, empty, RuleTable.mk.injEq, eq_comm,
      iff_self_and]
    rintro rfl r hr
    cases hr
  | cons pair pairs ih =>
    obtain ⟨pattern, template⟩ := pair
    rw [ofPairs.go, List.map_eq_cons_iff]
    constructor
    · intro h
      split at h
      · cases h
      · rename_i rule hrule
        obtain ⟨rfl, rfl, hread⟩ := Rule.of?_eq_some_iff.mp hrule
        cases hrest : ofPairs.go (index + 1) pairs with
        | error e =>
          rw [hrest] at h
          cases h
        | ok rest =>
          rw [hrest] at h
          cases h
          obtain ⟨hpairs, hreads⟩ := (ih _).mp hrest
          exact ⟨⟨rule, rest.rules, rfl, rfl, hpairs⟩, List.forall_mem_cons.mpr ⟨hread, hreads⟩⟩
    · rintro ⟨⟨r, rest, hrules, hr, hrest⟩, hreads⟩
      obtain ⟨rfl, rfl⟩ := Prod.mk.inj hr
      rw [hrules, List.forall_mem_cons] at hreads
      have hgo : ofPairs.go (index + 1) pairs = .ok ⟨rest⟩ := (ih _).mpr ⟨hrest, hreads.2⟩
      rw [hreads.1.of?_self]
      dsimp only
      rw [hgo]
      exact congrArg Except.ok (congrArg RuleTable.mk hrules.symm)

/-- **A table of pairs** has a rule for each pair, as the pattern is read. -/
theorem ofPairs_eq_ok_iff : ofPairs pairs = .ok table ↔
    table.rules.map Rule.pair = pairs ∧ ∀ r ∈ table.rules, r.IsRead :=
  go_eq_ok_iff 0

/-- There are rules for pairs whose patterns can be read. -/
theorem exists_rules (h : ∀ pair ∈ pairs, PatternLanguage.finder? pair.1 ≠ none) :
    ∃ rules : List Rule, rules.map Rule.pair = pairs ∧ ∀ r ∈ rules, r.IsRead := by
  induction pairs with
  | nil => exact ⟨[], rfl, List.forall_mem_nil _⟩
  | cons pair pairs ih =>
    rw [List.forall_mem_cons] at h
    obtain ⟨applies, happlies⟩ := Option.ne_none_iff_exists'.mp h.1
    obtain ⟨rules, hrules, hreads⟩ := ih h.2
    exact ⟨⟨pair.1, pair.2, applies⟩ :: rules, congrArg (pair :: ·) hrules,
      List.forall_mem_cons.mpr ⟨happlies, hreads⟩⟩

/-! ### One line -/

/-- **A written line is cut** at the delimiter that was written. -/
theorem cutsAt_lineOf (h : Plain pair) (hbar : ¬ EndsInBar pair) :
    CutsAt delimiter (lineOf pair) pair.1.toList pair.2.toList := by
  refine ⟨rfl, fun before after hline => ?_⟩
  rw [lineOf, List.append_assoc, List.append_assoc, List.append_eq_append_iff] at hline
  obtain ⟨rest, hbefore, -⟩ | ⟨ending, hpattern, hending⟩ := hline
  · rw [hbefore, List.length_append]
    exact Nat.le_add_right _ _
  · -- A delimiter that comes earlier begins in the pattern, and lies in it or ends behind it.
    match ending with
    | [] => simp [hpattern]
    | [a] =>
      obtain ⟨rfl, -⟩ := List.cons.inj hending
      exact absurd (by simp [EndsInBar, hpattern]) hbar
    | [a, b] =>
      obtain ⟨rfl, rfl, -⟩ : '|' = a ∧ '|' = b ∧ _ := by simpa [delimiter] using hending
      exact absurd (by simp [EndsInBar, hpattern]) hbar
    | a :: b :: c :: rest =>
      obtain ⟨rfl, rfl, rfl, -⟩ : '|' = a ∧ '|' = b ∧ '|' = c ∧ _ := by
        simpa [delimiter] using hending
      exact absurd ⟨before, rest, by simp [delimiter, hpattern]⟩ h.pattern.undelimited

theorem trimsTo_lineOf (h : Plain pair) : TrimsTo (lineOf pair) (lineOf pair) := by
  refine ⟨⟨[], [], by simp, by simp, by simp⟩, fun c hc => ?_, fun c hc => ?_⟩
  · rw [lineOf, List.append_assoc, List.head?_append_of_ne_nil _ h.ne_nil] at hc
    exact h.pattern.trimmed.first c hc
  · by_cases hnil : pair.2.toList = []
    · rw [lineOf, hnil, List.append_nil, List.getLast?_append_of_ne_nil _ (by decide)] at hc
      obtain rfl : '|' = c := by simpa [delimiter] using hc
      decide
    · rw [lineOf, List.getLast?_append_of_ne_nil _ hnil] at hc
      exact h.template.trimmed.last c hc

theorem isEntry_lineOf (h : Plain pair) :
    IsEntry (Utf8.encode (String.ofList (lineOf pair))) (lineOf pair) where
  shows := ⟨_, rfl, trimsTo_lineOf h⟩
  ne_nil := by simp [lineOf, delimiter]
  head_ne := by
    rw [lineOf, List.append_assoc, List.head?_append_of_ne_nil _ h.ne_nil]
    exact h.head_ne

/-- **A written line gives its rule** unless the pattern ends in a bar. -/
theorem gives_lineOf_iff (h : Plain r.pair) (hread : r.IsRead) :
    Gives (Utf8.encode (String.ofList (lineOf r.pair))) (some r) ↔ ¬ EndsInBar r.pair := by
  constructor
  · intro hgives hbar
    cases hgives with
    | @rule entry before after upToNext r isEntry cut pattern =>
      obtain rfl := isEntry.shows.unique (isEntry_lineOf h).shows
      -- The delimiter that begins with the bar leaves less than the pattern before it.
      obtain ⟨start, hstart⟩ := List.getLast?_eq_some_iff.mp hbar
      have hearlier : lineOf r.pair = start ++ delimiter ++ '|' :: r.pair.2.toList := by
        simp [lineOf, hstart, delimiter]
      have hbefore := cut.first _ _ hearlier
      obtain ⟨blank, blank', hglued, -⟩ := pattern.glued
      have hlength := congrArg List.length hglued
      have hlength' := congrArg List.length hstart
      simp only [List.length_append, List.length_cons, List.length_nil, Rule.pair]
        at hlength hlength'
      omega
  · intro hbar
    exact .rule (isEntry_lineOf h) (cutsAt_lineOf h hbar) h.pattern.trimmed
      (Or.inr ⟨h.template.undelimited, rfl⟩) h.template.trimmed hread

/-! ### All lines -/

theorem newline_notMem_lineOf (h : Plain pair) : '\n' ∉ lineOf pair := by
  simp [lineOf, delimiter, h.pattern.newline_notMem, h.template.newline_notMem]

/-- **The lines of a written text** are those of its pairs. -/
theorem lines_textOf (ended : Bool) (h : ∀ pair ∈ pairs, Plain pair) :
    lines (Utf8.encode (textOf ended pairs)) =
      pairs.map fun pair => Utf8.encode (String.ofList (lineOf pair)) := by
  induction pairs with
  | nil =>
    have htext : textOf ended [] = String.ofList [] := by cases ended <;> rfl
    rw [htext, lines_encode_of_notMem List.not_mem_nil]
    rfl
  | cons pair pairs ih =>
    rw [List.forall_mem_cons] at h
    have hline := newline_notMem_lineOf h.1
    rw [textOf] at ih ⊢
    rw [List.map_cons, List.map_cons, List.cons_append, ← ih h.2]
    cases htail : pairs.map lineOf ++ if ended then [[]] else [] with
    | nil =>
      rw [glue, glue, lines_encode_of_notMem hline, lines_encode_of_notMem List.not_mem_nil,
        if_neg (isEntry_lineOf h.1).ne_nil]
      rfl
    | cons next tail => exact lines_encode_append hline _

/-- **The rules of the lines** are the rules written in them. -/
theorem forall₂_gives_iff (h : ∀ r ∈ rules, Plain r.pair) (hreads : ∀ r ∈ rules, r.IsRead) :
    (∃ givens, List.Forall₂ Gives
      (rules.map fun r => Utf8.encode (String.ofList (lineOf r.pair))) givens ∧
        givens.reduceOption = rules) ↔ ∀ r ∈ rules, ¬ EndsInBar r.pair := by
  induction rules with
  | nil => simp
  | cons r rules ih =>
    rw [List.forall_mem_cons] at h hreads
    rw [List.forall_mem_cons, ← ih h.2 hreads.2, ← gives_lineOf_iff h.1 hreads.1]
    constructor
    · rintro ⟨_, hgivens, heq⟩
      cases hgivens with
      | cons hgives hgivens =>
        obtain ⟨r', rfl⟩ := hgives.exists_rule (isEntry_lineOf h.1)
        obtain ⟨rfl, hrest⟩ := List.cons.inj heq
        exact ⟨hgives, _, hgivens, hrest⟩
    · rintro ⟨hgives, givens, hgivens, rfl⟩
      exact ⟨some r :: givens, .cons hgives hgivens, rfl⟩

/-- **Rules written as text** and rules built from pairs agree just when no pattern ends in a
bar. -/
theorem ofText_textOf (ended : Bool) (h : ∀ pair ∈ pairs, Plain pair) :
    ∃ table, ofPairs pairs = .ok table ∧ table.rules.map Rule.pair = pairs ∧
      (∀ r ∈ table.rules, r.IsRead) ∧
      (ofText (textOf ended pairs) = .ok table ↔ ∀ pair ∈ pairs, ¬ EndsInBar pair) := by
  obtain ⟨rules, rfl, hreads⟩ := exists_rules fun pair hpair => (h pair hpair).accepted
  refine ⟨⟨rules⟩, ofPairs_eq_ok_iff.mpr ⟨rfl, hreads⟩, rfl, hreads, ?_⟩
  have hlines := lines_textOf ended h
  rw [List.forall_mem_map] at h ⊢
  rw [List.map_map] at hlines
  rw [← forall₂_gives_iff h hreads, ofText, ofBytes_eq_ok_iff rfl, hlines]
  rfl

end

/-- A template may begin with a bar. -/
theorem ofText_textOf_two :
    let pairs := [("^a$", "x.+"), ("b", "|y")]
    textOf true pairs = "^a$|||x.+\nb||||y\n" ∧ ∃ table, ofPairs pairs = .ok table ∧
      table.rules.map Rule.pair = pairs ∧ ofText (textOf true pairs) = .ok table := by
  intro pairs
  have hplain : ∀ pair ∈ pairs, Plain pair := by decide +kernel
  have hbar : ∀ pair ∈ pairs, ¬ EndsInBar pair := by decide +kernel
  obtain ⟨table, htable, hrules, -, htext⟩ := ofText_textOf true hplain
  exact ⟨by decide +kernel, table, htable, hrules, htext.mpr hbar⟩

/-- **A pattern that ends in a bar** is read without it, and the template has the bar. -/
theorem ofText_textOf_barAtEnd :
    let pairs := [("a|", "x")]
    (∀ pair ∈ pairs, Plain pair) ∧ textOf false pairs = "a||||x" ∧
      ((ofText (textOf false pairs)).toOption.map fun table => table.rules.map Rule.pair) =
        some [("a", "|x")] ∧
      ¬ ∃ table, ofPairs pairs = .ok table ∧ ofText (textOf false pairs) = .ok table := by
  intro pairs
  have hread : ((ofText (textOf false pairs)).toOption.map fun table =>
      table.rules.map Rule.pair) = some [("a", "|x")] := by decide +kernel
  refine ⟨by decide +kernel, by decide +kernel, hread, ?_⟩
  rintro ⟨table, htable, htext⟩
  rw [htext, Except.toOption, Option.map_some, (ofPairs_eq_ok_iff.mp htable).1] at hread
  exact absurd hread (by decide)

end RuleTable

end MetricIngest
