/-
  Facts about lists that the theory of the writer, of the stream and of the rules rests on.

  A state keeps its parties in a list, and a step puts one of them into another
  place or takes one of them out; `flatMap_set_perm` and `perm_cons_filter_ne` say
  what that does to what the parties have in hand.
-/
import Mathlib.Algebra.GroupWithZero.Nat
import Mathlib.Data.List.Flatten
import Mathlib.Data.List.Nodup
import Mathlib.Data.List.Perm.Basic

namespace MetricIngest.ListFacts

variable {β γ κ : Type}

/-- **One party in another place**: what it had in hand is exchanged for what it has
now, and all else stays. -/
theorem flatMap_set_perm (f : β → List γ) {l : List β} {i : Nat} {old : β} (new : β)
    (h : l[i]? = some old) : (f old ++ (l.set i new).flatMap f).Perm (f new ++ l.flatMap f) := by
  induction l generalizing i with
  | nil => simp at h
  | cons b l ih =>
    cases i with
    | zero =>
      simp only [List.getElem?_cons_zero, Option.some.injEq] at h
      subst h
      simp only [List.set_cons_zero, List.flatMap_cons]
      rw [← List.append_assoc, ← List.append_assoc]
      exact List.perm_append_comm.append_right _
    | succ i =>
      rw [List.getElem?_cons_succ] at h
      have hperm := (ih h).append_left (f b)
      simp only [List.set_cons_succ, List.flatMap_cons]
      calc (f old ++ (f b ++ (l.set i new).flatMap f)).Perm
            (f b ++ (f old ++ (l.set i new).flatMap f)) := List.perm_append_comm_assoc _ _ _
        _ |>.Perm (f b ++ (f new ++ l.flatMap f)) := hperm
        _ |>.Perm (f new ++ (f b ++ l.flatMap f)) := List.perm_append_comm_assoc _ _ _

/-- As many in all as each gives at the most, for each. -/
theorem length_flatMap_le (f : β → List γ) {n : Nat} {l : List β}
    (h : ∀ b ∈ l, (f b).length ≤ n) : (l.flatMap f).length ≤ n * l.length := by
  induction l with
  | nil => simp
  | cons b l ih =>
    rw [List.forall_mem_cons] at h
    have hrest := ih h.2
    rw [List.flatMap_cons, List.length_append, List.length_cons, Nat.mul_succ]
    omega

/-- One party in another place: its weight is exchanged for the one it has now. -/
theorem sum_map_set (f : β → Nat) {l : List β} {i : Nat} {old : β} (new : β)
    (h : l[i]? = some old) : f old + ((l.set i new).map f).sum = f new + (l.map f).sum := by
  induction l generalizing i with
  | nil => simp at h
  | cons b l ih =>
    cases i with
    | zero =>
      obtain rfl : b = old := by simpa using h
      simp only [List.set_cons_zero, List.map_cons, List.sum_cons]
      omega
    | succ i =>
      rw [List.getElem?_cons_succ] at h
      have hrest := ih h
      simp only [List.set_cons_succ, List.map_cons, List.sum_cons]
      omega

/-- **One party taken out**: where keys differ, an element and those with other keys
are all there is. -/
theorem perm_cons_filter_ne [DecidableEq κ] (key : β → κ) {l : List β} {b : β} (hb : b ∈ l)
    (hkeys : (l.map key).Nodup) : l.Perm (b :: l.filter fun c => key c ≠ key b) := by
  induction l with
  | nil => simp at hb
  | cons c l ih =>
    simp only [List.map_cons, List.nodup_cons, List.mem_map, not_exists, not_and] at hkeys
    rcases List.mem_cons.mp hb with rfl | hb
    · have hall : l.filter (fun c => key c ≠ key b) = l := by
        rw [List.filter_eq_self]
        intro c hc
        simpa using hkeys.1 c hc
      rw [List.filter_cons_of_neg (by simp), hall]
    · have hne : key c ≠ key b := fun h => hkeys.1 b hb h.symm
      rw [List.filter_cons_of_pos (by simpa using hne)]
      exact ((ih hb hkeys.2).cons c).trans (List.Perm.swap b c _)

/-- **What passes on composes**: what was there or came went out or is left, and what is
left then goes on further. -/
theorem perm_append_trans {first second before between after out out' : List β}
    (h : (first ++ before).Perm (between ++ out)) (h' : (second ++ between).Perm (after ++ out')) :
    ((first ++ second) ++ before).Perm (after ++ (out ++ out')) := by
  classical
  rw [List.perm_iff_count] at h h' ⊢
  intro b
  have hb := h b
  have hb' := h' b
  simp only [List.count_append] at hb hb' ⊢
  omega

/-- What a function gives nothing for and what it gives make up for all. -/
theorem length_filter_isNone_add (f : β → Option γ) (l : List β) :
    (l.filter fun b => (f b).isNone).length + (l.filterMap f).length = l.length := by
  induction l with
  | nil => rfl
  | cons b l ih =>
    cases hb : f b with
    | none =>
      rw [List.filter_cons_of_pos (by simp [hb]), List.filterMap_cons_none hb]
      simp only [List.length_cons]
      omega
    | some c =>
      rw [List.filter_cons_of_neg (by simp [hb]), List.filterMap_cons_some hb]
      simp only [List.length_cons]
      omega

/-- **Where an element stands** in a list that ends in another one: it is the last one, or it
stands before that. -/
theorem append_singleton_eq_append_cons_iff {l before after : List β} {b c : β} :
    l ++ [b] = before ++ c :: after ↔
      (l = before ∧ b = c ∧ after = []) ∨ ∃ rest, l = before ++ c :: rest ∧ after = rest ++ [b] := by
  constructor
  · intro h
    obtain rfl | ⟨rest, d, rfl⟩ := after.eq_nil_or_concat
    · obtain ⟨rfl, heq⟩ := List.append_inj' h rfl
      exact .inl ⟨rfl, List.head_eq_of_cons_eq heq, rfl⟩
    · rw [List.concat_eq_append, ← List.cons_append, ← List.append_assoc] at h
      obtain ⟨rfl, heq⟩ := List.append_inj' h rfl
      obtain rfl : b = d := List.head_eq_of_cons_eq heq
      exact .inr ⟨rest, rfl, List.concat_eq_append⟩
  · rintro (⟨rfl, rfl, rfl⟩ | ⟨rest, rfl, rfl⟩)
    · rfl
    · simp

/-- **What a function leaves out**: where one function gives the same as another or nothing,
both give the same of a whole list just when they agree on each element. -/
theorem flatMap_eq_flatMap_iff_of_part {f g : β → List γ} {l : List β}
    (hpart : ∀ b ∈ l, g b = f b ∨ g b = []) :
    l.flatMap f = l.flatMap g ↔ ∀ b ∈ l, f b = g b := by
  induction l with
  | nil => simp
  | cons b l ih =>
    rw [List.forall_mem_cons] at hpart
    obtain ⟨hb, hl⟩ := hpart
    rw [List.flatMap_cons, List.flatMap_cons, List.forall_mem_cons, ← ih hl]
    constructor
    · intro heq
      rcases hb with hb | hb
      · rw [hb] at heq ⊢
        exact ⟨rfl, List.append_cancel_left heq⟩
      · -- The rest of the shorter side cannot make up for what is left out here.
        have hsub : (l.flatMap g).Sublist (l.flatMap f) := by
          refine List.Sublist.flatMap_right l fun c hc => ?_
          rcases hl c hc with h | h
          · rw [h]
          · rw [h]
            exact List.nil_sublist _
        have hlength := hsub.length_le
        have hsum := congrArg List.length heq
        simp only [hb, List.nil_append, List.length_append] at hsum
        have hf : f b = [] := List.eq_nil_of_length_eq_zero (by omega)
        rw [hf, hb] at heq
        exact ⟨hf.trans hb.symm, heq⟩
    · rintro ⟨hb, hl⟩
      rw [hb, hl]

/-- **The first element of a kind**, with its place, is the head of a list or the first one behind
a head of the other kind. -/
theorem exists_first_cons_iff {P : Nat → β → Prop} {Q : β → Prop} {b : β} {l : List β} :
    (∃ before c after, b :: l = before ++ c :: after ∧ (∀ d ∈ before, Q d) ∧ P before.length c) ↔
      P 0 b ∨ Q b ∧ ∃ before c after, l = before ++ c :: after ∧ (∀ d ∈ before, Q d) ∧
        P (before.length + 1) c := by
  constructor
  · rintro ⟨before, c, after, heq, hQ, hP⟩
    cases before with
    | nil =>
      obtain ⟨rfl, rfl⟩ := List.cons.inj heq
      exact Or.inl hP
    | cons d before =>
      obtain ⟨rfl, rfl⟩ := List.cons.inj heq
      rw [List.forall_mem_cons] at hQ
      exact Or.inr ⟨hQ.1, before, c, after, rfl, hQ.2, hP⟩
  · rintro (hP | ⟨hb, before, c, after, rfl, hQ, hP⟩)
    · exact ⟨[], b, l, rfl, by simp, hP⟩
    · exact ⟨b :: before, c, after, rfl, List.forall_mem_cons.mpr ⟨hb, hQ⟩, hP⟩

/-! ### The same elements, and their order -/

/-- The same elements as often, and in the same order if `ordered`. -/
structure Same (ordered : Prop) (l l' : List β) : Prop where
  perm : l.Perm l'
  eq : ordered → l = l'

namespace Same

variable {ordered : Prop} {l l' l'' : List β}

theorem refl (ordered : Prop) (l : List β) : Same ordered l l := ⟨List.Perm.refl l, fun _ => rfl⟩

theorem of_eq (h : l = l') : Same ordered l l' := h ▸ refl ordered l

theorem trans (h : Same ordered l l') (h' : Same ordered l' l'') : Same ordered l l'' where
  perm := h.perm.trans h'.perm
  eq := fun hordered => (h.eq hordered).trans (h'.eq hordered)

theorem append_right (h : Same ordered l l') (rest : List β) :
    Same ordered (l ++ rest) (l' ++ rest) where
  perm := h.perm.append_right rest
  eq := fun hordered => by rw [h.eq hordered]

theorem append_left (h : Same ordered l l') (first : List β) :
    Same ordered (first ++ l) (first ++ l') where
  perm := h.perm.append_left first
  eq := fun hordered => by rw [h.eq hordered]

theorem filterMap (h : Same ordered l l') (f : β → Option γ) :
    Same ordered (l.filterMap f) (l'.filterMap f) where
  perm := h.perm.filterMap f
  eq := fun hordered => by rw [h.eq hordered]

end Same

/-- **One party in another place**, with what went out of its hand behind what was out
before: nothing else moves, and a party that is alone keeps the order. -/
theorem same_of_set (f : β → List γ) {l : List β} {i : Nat} {old new : β} {out put gained : List γ}
    (h : l[i]? = some old) (hhand : f old ++ gained = put ++ f new) :
    Same (l.length = 1) (out ++ l.flatMap f ++ gained) (out ++ put ++ (l.set i new).flatMap f) where
  perm := by
    classical
    have hset := flatMap_set_perm f new h
    rw [List.perm_iff_count]
    intro c
    have hcount := hset.count_eq c
    have hcount' := congrArg (List.count c) hhand
    simp only [List.count_append] at hcount hcount' ⊢
    omega
  eq := by
    intro hlength
    obtain ⟨b, rfl⟩ := List.length_eq_one_iff.mp hlength
    obtain rfl : i = 0 := by
      have hi := (List.getElem?_eq_some_iff.mp h).1
      rw [hlength] at hi
      omega
    obtain rfl : b = old := by simpa using h
    simp only [List.flatMap_cons, List.flatMap_nil, List.append_nil, List.set_cons_zero]
    rw [List.append_assoc, hhand, List.append_assoc]

end MetricIngest.ListFacts
