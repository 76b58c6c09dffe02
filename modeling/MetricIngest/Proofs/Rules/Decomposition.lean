/-
  A path is decomposed as its template says.

  Each piece of a template stands for one token (`stands_iff`). The walk along tokens and
  segments does the same as visiting the places up to its stop one after the other
  (`walk_eq_foldl`), and what visits leave is known for every number of them: components
  come in the order of their places, and a field has the value that was set last.
  `decompose_of_first_rule` says what that makes of a path.
-/
import Mathlib.Data.List.Forall2
import MetricIngest.Proofs.Text.Cuts
import MetricIngest.Rules.Alignment

namespace MetricIngest

/-! ### Tokens -/

namespace Token

open Text

variable {cs : List Char} {token : Token}

theorem any_isLetter_iff : cs.any isLetter = true ↔ ∃ c ∈ cs, IsLetter c := by
  simp only [List.any_eq_true, isLetter, isAlpha_iff]

theorem any_isDigit_iff : cs.any isDigit = true ↔ ∃ c ∈ cs, IsDigit c := by
  simp only [List.any_eq_true, isDigit, Text.isDigit_iff]

theorem endsInPlus_iff : endsInPlus cs = true ↔ ∃ lead, cs = lead ++ ['+'] := by
  simp only [endsInPlus, beq_iff_eq, List.getLast?_eq_some_iff]

theorem not_isLetter_plus : ¬ IsLetter '+' := by
  unfold IsLetter
  decide

theorem ne_of_letter (letter : ∃ c ∈ cs, IsLetter c) : cs ≠ ['+'] ∧ cs ≠ ['_'] := by
  rw [← any_isLetter_iff] at letter
  constructor <;> rintro rfl <;> revert letter <;> decide

theorem ne_of_digit (digit : ∃ c ∈ cs, IsDigit c) : cs ≠ ['+'] ∧ cs ≠ ['_'] := by
  rw [← any_isDigit_iff] at digit
  constructor <;> rintro rfl <;> revert digit <;> decide

/-- The key of a word is what is left without the pluses at its end. -/
theorem exists_key_of_endsInPlus (letter : ∃ c ∈ cs, IsLetter c)
    (final : ∃ lead, cs = lead ++ ['+']) :
    ∃ n, cs = dropEndWhile (· == '+') cs ++ List.replicate (n + 1) '+' ∧
      (∃ c ∈ dropEndWhile (· == '+') cs, IsLetter c) ∧
      ∀ lead, dropEndWhile (· == '+') cs ≠ lead ++ ['+'] := by
  obtain ⟨ends, hcs, hends, hlast⟩ := exists_eq_dropEndWhile_append (· == '+') cs
  simp only [beq_iff_eq] at hends
  have hnoFinal : ∀ lead, dropEndWhile (· == '+') cs ≠ lead ++ ['+'] := by
    intro lead heq
    have hplus := hlast '+' (by rw [heq]; simp)
    simp at hplus
  have hreplicate : ends = List.replicate ends.length '+' := List.eq_replicate_iff.mpr ⟨rfl, hends⟩
  cases hlength : ends.length with
  | zero =>
    obtain ⟨lead, hlead⟩ := final
    rw [List.eq_nil_of_length_eq_zero hlength, List.append_nil] at hcs
    exact absurd (hcs.symm.trans hlead) (hnoFinal lead)
  | succ n =>
    rw [hlength] at hreplicate
    refine ⟨n, by rw [← hreplicate]; exact hcs, ?_, hnoFinal⟩
    obtain ⟨c, hc, hletter⟩ := letter
    rw [hcs] at hc
    rcases List.mem_append.mp hc with hc | hc
    · exact ⟨c, hc, hletter⟩
    · rw [hends c hc] at hletter
      exact absurd hletter not_isLetter_plus

theorem stands_ofChars (cs : List Char) : Stands cs (ofChars cs) := by
  unfold ofChars
  split
  · rename_i hplus
    rw [hplus]
    exact .plus
  · rename_i hplus
    split
    · rename_i hscore
      rw [hscore]
      refine .skip (by decide) ?_ ?_
      · rw [List.forall_mem_singleton, IsLetter]
        decide
      · rw [List.forall_mem_singleton, IsDigit]
        decide
    · split
      · rename_i hletter
        rw [any_isLetter_iff] at hletter
        split
        · rename_i hfinal
          rw [endsInPlus_iff] at hfinal
          obtain ⟨n, hcs, hkey, hnoFinal⟩ := exists_key_of_endsInPlus hletter hfinal
          have hstands := Stands.fields (n := n) hkey hnoFinal
          rwa [← hcs] at hstands
        · rename_i hnoFinal
          rw [endsInPlus_iff, not_exists] at hnoFinal
          exact .field hletter hnoFinal
      · rename_i hletter
        rw [any_isLetter_iff, not_exists] at hletter
        have hnoLetter : ∀ c ∈ cs, ¬ IsLetter c := fun c hc h => hletter c ⟨hc, h⟩
        split
        · rename_i hdigit
          rw [any_isDigit_iff] at hdigit
          split
          · rename_i hfinal
            exact .names hdigit hnoLetter (endsInPlus_iff.mp hfinal)
          · rename_i hnoFinal
            rw [endsInPlus_iff, not_exists] at hnoFinal
            exact .name hdigit hnoLetter hnoFinal
        · rename_i hdigit
          rw [any_isDigit_iff, not_exists] at hdigit
          exact .skip hplus hnoLetter fun c hc h => hdigit c ⟨hc, h⟩

/-- **A piece stands for one token only**, the one that is read. -/
theorem stands_iff : Stands cs token ↔ ofChars cs = token := by
  refine ⟨fun h => ?_, fun h => h ▸ stands_ofChars cs⟩
  have hnone : ∀ {cs : List Char}, (∀ c ∈ cs, ¬ IsLetter c) → ¬ cs.any isLetter = true :=
    fun hno h => (any_isLetter_iff.mp h).elim fun c hc => hno c hc.1 hc.2
  cases h with
  | plus => rfl
  | names digit noLetter final =>
    obtain ⟨hplus, hscore⟩ := ne_of_digit digit
    rw [ofChars, if_neg hplus, if_neg hscore, if_neg (hnone noLetter),
      if_pos (any_isDigit_iff.mpr digit), if_pos (endsInPlus_iff.mpr final)]
  | name digit noLetter noFinal =>
    obtain ⟨hplus, hscore⟩ := ne_of_digit digit
    rw [ofChars, if_neg hplus, if_neg hscore, if_neg (hnone noLetter),
      if_pos (any_isDigit_iff.mpr digit), if_neg]
    rw [endsInPlus_iff, not_exists]
    exact noFinal
  | @fields key n letter noFinal =>
    have hletter : ∃ c ∈ key ++ List.replicate (n + 1) '+', IsLetter c := by
      obtain ⟨c, hc, h⟩ := letter
      exact ⟨c, List.mem_append_left _ hc, h⟩
    have hfinal : ∃ lead, key ++ List.replicate (n + 1) '+' = lead ++ ['+'] :=
      ⟨key ++ List.replicate n '+', by rw [List.replicate_succ', List.append_assoc]⟩
    have hkey : dropEndWhile (· == '+') (key ++ List.replicate (n + 1) '+') = key := by
      refine dropEndWhile_append (by simp) fun c hc => ?_
      obtain ⟨lead, rfl⟩ := List.getLast?_eq_some_iff.mp hc
      exact beq_false_of_ne fun h => noFinal lead (by rw [h])
    obtain ⟨hplus, hscore⟩ := ne_of_letter hletter
    rw [ofChars, if_neg hplus, if_neg hscore, if_pos (any_isLetter_iff.mpr hletter),
      if_pos (endsInPlus_iff.mpr hfinal), hkey]
  | field letter noFinal =>
    obtain ⟨hplus, hscore⟩ := ne_of_letter letter
    rw [ofChars, if_neg hplus, if_neg hscore, if_pos (any_isLetter_iff.mpr letter), if_neg]
    rw [endsInPlus_iff, not_exists]
    exact noFinal
  | skip notPlus noLetter noDigit =>
    have hdigit : ¬ cs.any isDigit = true :=
      fun h => (any_isDigit_iff.mp h).elim fun c hc => noDigit c hc.1 hc.2
    rw [ofChars, if_neg notPlus, if_neg (hnone noLetter), if_neg hdigit, ite_self]

end Token

/-! ### Visiting places -/

namespace Decomposition

variable {tokens : List Token} {segments : List (List Char)} {parts : Parts} {k n i : Nat}
  {key value : String}

/-- What a place adds to the name components. -/
def componentAt (tokens : List Token) (segments : List (List Char)) (i : Nat) : Option String :=
  match tokens[i]? with
  | some .name => segments[i]?.map String.ofList
  | some .catchAllName => some (fold (segments.drop i))
  | _ => none

/-- What a visit to a place leaves. -/
def visit (tokens : List Token) (segments : List (List Char)) (parts : Parts) (i : Nat) : Parts where
  components := parts.components ++ (componentAt tokens segments i).toList
  fields := ((entryAt tokens segments i).map fun e => parts.fields.insert e.1 e.2).getD parts.fields

/-- The number of places that the walk visits. -/
def visits : List Token → List (List Char) → Nat
  | [], _ => 0
  | _, [] => 0
  | token :: tokens, _ :: segments => if token.isCatchAll then 1 else visits tokens segments + 1

theorem visit_succ (token : Token) (segment : List Char) :
    visit (token :: tokens) (segment :: segments) parts (i + 1) = visit tokens segments parts i := by
  simp [visit, componentAt, entryAt]

/-- **The walk visits one place after the other.** -/
theorem walk_eq_foldl (parts : Parts) (tokens : List Token) (segments : List (List Char)) :
    walk parts tokens segments =
      (List.range (visits tokens segments)).foldl (visit tokens segments) parts := by
  induction tokens generalizing parts segments with
  | nil => rfl
  | cons token tokens ih =>
    cases segments with
    | nil => rfl
    | cons segment segments =>
      have hrest : ∀ parts, (List.range (visits tokens segments + 1)).foldl
          (visit (token :: tokens) (segment :: segments)) parts =
            (List.range (visits tokens segments)).foldl (visit tokens segments)
              (visit (token :: tokens) (segment :: segments) parts 0) := by
        intro parts
        rw [List.range_succ_eq_map, List.foldl_cons, List.foldl_map]
        exact congrFun₂ (congrArg List.foldl (funext₂ fun parts i => visit_succ token segment)) _ _
      cases token with
      | catchAllName => simp [walk, visits, Token.isCatchAll, visit, componentAt, entryAt]
      | catchAllField key => simp [walk, visits, Token.isCatchAll, visit, componentAt, entryAt]
      | skip =>
        rw [walk, ih, visits, if_neg (by decide), hrest]
        simp [visit, componentAt, entryAt]
      | name =>
        rw [walk, ih, visits, if_neg (by decide), hrest]
        simp [visit, componentAt, entryAt]
      | field key =>
        rw [walk, ih, visits, if_neg (by simp [Token.isCatchAll]), hrest]
        simp [visit, componentAt, entryAt]

/-! ### What visits leave -/

theorem components_foldl (n : Nat) :
    ((List.range n).foldl (visit tokens segments) parts).components =
      parts.components ++ (List.range n).filterMap (componentAt tokens segments) := by
  induction n with
  | zero => simp
  | succ n ih =>
    rw [List.range_succ, List.foldl_append, List.foldl_cons, List.foldl_nil, visit, ih,
      List.filterMap_append, List.append_assoc]
    cases hcomponent : componentAt tokens segments n <;> simp [hcomponent]

/-- **The value that was set last** is the one that a field has. -/
theorem get?_fields_foldl (n : Nat) (hempty : parts.fields = .empty) :
    ((List.range n).foldl (visit tokens segments) parts).fields.get? key = some value ↔
      ∃ i < n, entryAt tokens segments i = some (key, value) ∧
        ∀ j, i < j → j < n → ∀ other, entryAt tokens segments j ≠ some (key, other) := by
  induction n with
  | zero => simp [hempty]
  | succ n ih =>
    rw [List.range_succ, List.foldl_append, List.foldl_cons, List.foldl_nil]
    -- What counts is whether the last place sets this very field.
    by_cases hsets : ∃ other, entryAt tokens segments n = some (key, other)
    · obtain ⟨other, hother⟩ := hsets
      simp only [visit, hother, Option.map_some, Option.getD_some, FieldMap.get?_insert, if_true,
        Option.some.injEq]
      constructor
      · rintro rfl
        exact ⟨n, by omega, hother, fun j hj hj' => by omega⟩
      · rintro ⟨i, hi, hentry, hlast⟩
        rcases Nat.lt_succ_iff_lt_or_eq.mp hi with hi | rfl
        · exact absurd hother (hlast n hi (by omega) other)
        · rw [hother] at hentry
          simpa using hentry
    · rw [not_exists] at hsets
      have hkeeps : (visit tokens segments ((List.range n).foldl (visit tokens segments) parts)
          n).fields.get? key =
            ((List.range n).foldl (visit tokens segments) parts).fields.get? key := by
        cases hentry : entryAt tokens segments n with
        | none => simp [visit, hentry]
        | some e =>
          have hne : e.1 ≠ key := fun h => hsets e.2 (by rw [hentry, ← h])
          simp [visit, hentry, hne]
      rw [hkeeps, ih]
      constructor
      · rintro ⟨i, hi, hentry, hlast⟩
        refine ⟨i, by omega, hentry, fun j hij hj => ?_⟩
        rcases Nat.lt_succ_iff_lt_or_eq.mp hj with hj | rfl
        · exact hlast j hij hj
        · exact hsets
      · rintro ⟨i, hi, hentry, hlast⟩
        rcases Nat.lt_succ_iff_lt_or_eq.mp hi with hi | rfl
        · exact ⟨i, hi, hentry, fun j hij hj => hlast j hij (by omega)⟩
        · exact absurd hentry (hsets value)

/-! ### Where the walk stops -/

/-- There is one stop only. -/
theorem Stops.unique {k' : Nat} (h : Stops tokens segments k) (h' : Stops tokens segments k') :
    k = k' := by
  have hnot : ∀ {i j}, Stops tokens segments i → Stops tokens segments j → ¬ i < j := by
    intro i j hi hj hlt
    obtain ⟨token, htoken, hcatch⟩ := hi.here (Nat.lt_of_lt_of_le hlt hj.le_overlap)
    rw [hj.before i hlt token htoken] at hcatch
    cases hcatch
  exact Nat.le_antisymm (Nat.not_lt.mp (hnot h' h)) (Nat.not_lt.mp (hnot h h'))

/-- The walk goes on up to the stop, and visits it if it is a place. -/
theorem exists_stops (tokens : List Token) (segments : List (List Char)) :
    ∃ k, Stops tokens segments k ∧
      visits tokens segments = min (k + 1) (overlap tokens segments) := by
  induction tokens generalizing segments with
  | nil => exact ⟨0, ⟨Nat.zero_le _, by simp, by simp [overlap]⟩, by simp [visits, overlap]⟩
  | cons token tokens ih =>
    cases segments with
    | nil => exact ⟨0, ⟨Nat.zero_le _, by simp, by simp [overlap]⟩, by simp [visits, overlap]⟩
    | cons segment segments =>
      have hoverlap : overlap (token :: tokens) (segment :: segments) =
          overlap tokens segments + 1 := by simp [overlap, Nat.add_min_add_right]
      cases htoken : token.isCatchAll with
      | true =>
        refine ⟨0, ⟨Nat.zero_le _, by simp, fun _ => ⟨token, rfl, htoken⟩⟩, ?_⟩
        rw [visits, if_pos htoken, hoverlap]
        omega
      | false =>
        obtain ⟨k, hk, hvisits⟩ := ih segments
        refine ⟨k + 1, ⟨?_, ?_, ?_⟩, ?_⟩
        · have := hk.le_overlap
          omega
        · intro i hi t ht
          cases i with
          | zero =>
            obtain rfl : token = t := by simpa using ht
            exact htoken
          | succ i => exact hk.before i (by omega) t (by simpa using ht)
        · intro hlt
          obtain ⟨t, ht, hcatch⟩ := hk.here (by omega)
          exact ⟨t, by simpa using ht, hcatch⟩
        · rw [visits, if_neg (by simp [htoken]), hvisits, hoverlap]
          omega

/-- Before a stop only name tokens add a component. -/
theorem filterMap_componentAt (h : Stops tokens segments k) :
    (List.range (min (k + 1) (overlap tokens segments))).filterMap
      (componentAt tokens segments) = components tokens segments k := by
  have hbefore : (List.range k).filterMap (componentAt tokens segments) =
      (List.range k).filterMap (nameAt tokens segments) := by
    refine List.filterMap_congr fun i hi => ?_
    have hcatch := h.before i (List.mem_range.mp hi)
    unfold componentAt nameAt
    cases htoken : tokens[i]? with
    | none => simp
    | some token =>
      have hplain := hcatch token htoken
      cases token with
      | catchAllName | catchAllField key => simp [Token.isCatchAll] at hplain
      | name | field key | skip => simp
  rw [components]
  by_cases hlt : k < overlap tokens segments
  · obtain ⟨token, htoken, hcatch⟩ := h.here hlt
    rw [Nat.min_eq_left hlt, List.range_succ, List.filterMap_append, hbefore]
    cases token with
    | catchAllName => simp [componentAt, htoken, hlt]
    | catchAllField key => simp [componentAt, htoken]
    | name | field key | skip => simp [Token.isCatchAll] at hcatch
  · obtain rfl : k = overlap tokens segments := Nat.le_antisymm h.le_overlap (by omega)
    rw [Nat.min_eq_right (by omega), hbefore, if_neg (by omega), List.append_nil]

/-- A token that stands beside a segment sets a field just when it has its key. -/
theorem exists_entryAt_iff (hi : i < overlap tokens segments) :
    (∃ other, entryAt tokens segments i = some (key, other)) ↔
      ∃ token, tokens[i]? = some token ∧ token.key? = some key := by
  have hsegment : ∃ segment, segments[i]? = some segment :=
    ⟨_, List.getElem?_eq_getElem (by unfold overlap at hi; omega)⟩
  obtain ⟨segment, hsegment⟩ := hsegment
  unfold entryAt
  cases htoken : tokens[i]? with
  | none => simp
  | some token => cases token <;> simp [hsegment, Token.key?]

theorem sets_iff : Sets tokens segments k key value ↔
    ∃ i < min (k + 1) (overlap tokens segments), entryAt tokens segments i = some (key, value) ∧
      ∀ j, i < j → j < min (k + 1) (overlap tokens segments) →
        ∀ other, entryAt tokens segments j ≠ some (key, other) := by
  constructor
  · rintro ⟨i, hi, hik, hentry, hlast⟩
    refine ⟨i, by omega, hentry, fun j hij hj other hother => ?_⟩
    obtain ⟨token, htoken, hkey⟩ := (exists_entryAt_iff (by omega)).mp ⟨other, hother⟩
    exact hlast j token hij (by omega) (by omega) htoken hkey
  · rintro ⟨i, hi, hentry, hlast⟩
    refine ⟨i, by omega, by omega, hentry, fun j token hij hj hjk htoken hkey => ?_⟩
    obtain ⟨other, hother⟩ := (exists_entryAt_iff hj).mpr ⟨token, htoken, hkey⟩
    exact hlast j hij (by omega) other hother

/-- **The walk** gives the components up to its stop, and the fields that are set up to
there. -/
theorem walk_spec (tokens : List Token) (segments : List (List Char)) :
    ∃ k, Stops tokens segments k ∧
      (walk ⟨[], .empty⟩ tokens segments).components = components tokens segments k ∧
      ∀ key value, (walk ⟨[], .empty⟩ tokens segments).fields.get? key = some value ↔
        Sets tokens segments k key value := by
  obtain ⟨k, hk, hvisits⟩ := exists_stops tokens segments
  refine ⟨k, hk, ?_, fun key value => ?_⟩
  · rw [walk_eq_foldl, components_foldl, List.nil_append, hvisits, filterMap_componentAt hk]
  · rw [walk_eq_foldl, get?_fields_foldl _ rfl, hvisits, sets_iff]

end Decomposition

/-! ### The first rule that applies -/

namespace RuleTable

open Decomposition

theorem firstMatch_of_first {t : RuleTable} {path : String} {before after : List Rule} {rule : Rule}
    (hrules : t.rules = before ++ rule :: after)
    (hbefore : ∀ r ∈ before, r.applies path = false) (happlies : rule.applies path = true) :
    t.firstMatch path = some rule := by
  have hnone : before.find? (fun r => r.applies path) = none := by
    rw [List.find?_eq_none]
    intro r hr
    simp [hbefore r hr]
  rw [firstMatch, hrules, List.find?_append, hnone, Option.none_or, List.find?_cons, happlies]

/-- **A path decomposes** as the template of the first rule that applies to it says. The
tokens of the rule are those that the pieces of the template stand for. They are laid beside
the segments of the path, and there is one place where the walk stops: at the first token that
takes everything, or where one side ends. The name components up to there are joined by
colons, and without a name the path fails. The fields are those that are set up to there, the
last one for each key. -/
theorem decompose_of_first_rule {t : RuleTable} {path : String} {before after : List Rule}
    {rule : Rule} (hrules : t.rules = before ++ rule :: after)
    (hbefore : ∀ r ∈ before, r.applies path = false) (happlies : rule.applies path = true) :
    (∀ tokens, List.Forall₂ Token.Stands (Text.pieces '.' rule.template.toList) tokens ↔
      tokens = rule.tokens) ∧
    ∃ k, (∀ stop, Stops rule.tokens (Text.pieces '.' path.toList) stop ↔ stop = k) ∧
      ∃ fields : FieldMap,
        (∀ key value, (key, value) ∈ fields.entries ↔
          Sets rule.tokens (Text.pieces '.' path.toList) k key value) ∧
        t.decompose path =
          let name := Text.join ':' (components rule.tokens (Text.pieces '.' path.toList) k)
          if name = "" then .error (.nameResolutionFailed path) else .ok ⟨name, fields⟩ := by
  refine ⟨?_, ?_⟩
  · intro tokens
    have hread : Token.Stands = fun piece token => Token.ofChars piece = token := by
      funext piece token
      exact propext Token.stands_iff
    rw [hread, ← List.forall₂_map_left_iff (f := Token.ofChars) (R := Eq), List.forall₂_eq_eq_eq,
      Rule.tokens, eq_comm]
  · obtain ⟨k, hk, hcomponents, hfields⟩ := walk_spec rule.tokens (Text.pieces '.' path.toList)
    refine ⟨k, fun stop => ⟨fun h => h.unique hk, fun h => h ▸ hk⟩, _,
      fun key value => FieldMap.get?_eq_some_iff.symm.trans (hfields key value), ?_⟩
    have hparts : t.parts path =
        walk ⟨[], .empty⟩ rule.tokens (Text.pieces '.' path.toList) := by
      rw [parts, firstMatch_of_first hrules hbefore happlies]
      rfl
    simp only [decompose, hparts, hcomponents]
    rfl

/-- A rule for paths that begin with a `b`. -/
def ruleOfB : Rule where
  patternText := "^b"
  template := "+"
  applies path := path.toList.head? = some 'b'

/-- A rule for paths that begin with an `a`, which sets a field twice. -/
def ruleOfA : Rule where
  patternText := "^a"
  template := "host.host.+"
  applies path := path.toList.head? = some 'a'

theorem decompose_of_first_rule_hostTwice :
    (∀ r ∈ [ruleOfB], r.applies "a.b.c.d" = false) ∧ ruleOfA.applies "a.b.c.d" = true ∧
      ∃ fields : FieldMap,
        (⟨[ruleOfB, ruleOfA]⟩ : RuleTable).decompose "a.b.c.d" = .ok ⟨"c_d", fields⟩ ∧
          ("host", "b") ∈ fields.entries := by
  have hbefore : ∀ r ∈ [ruleOfB], r.applies "a.b.c.d" = false := by
    rw [List.forall_mem_singleton]
    rfl
  have happlies : ruleOfA.applies "a.b.c.d" = true := rfl
  have htokens : ruleOfA.tokens = [.field "host", .field "host", .catchAllName] := rfl
  have hsegments : Text.pieces '.' "a.b.c.d".toList = [['a'], ['b'], ['c'], ['d']] := rfl
  have hrules : (⟨[ruleOfB, ruleOfA]⟩ : RuleTable).rules = [ruleOfB] ++ ruleOfA :: [] := rfl
  obtain ⟨-, k, hk, fields, hfields, hdecompose⟩ :=
    decompose_of_first_rule hrules hbefore happlies
  rw [htokens, hsegments] at hk hdecompose
  simp only [htokens, hsegments] at hfields
  obtain rfl : k = 2 := by
    refine ((hk 2).mp ⟨by decide, ?_, fun _ => ⟨_, rfl, rfl⟩⟩).symm
    intro i hi token htoken
    obtain rfl | rfl : i = 0 ∨ i = 1 := by omega
    all_goals
      obtain rfl := Option.some.inj htoken
      rfl
  refine ⟨hbefore, happlies, fields, ?_, ?_⟩
  · rw [hdecompose]
    rfl
  · rw [hfields]
    refine ⟨1, by decide, by decide, rfl, ?_⟩
    intro j token hj hoverlap hstop htoken
    obtain rfl : j = 2 := by omega
    obtain rfl := Option.some.inj htoken
    simp [Token.key?]

end RuleTable

end MetricIngest
