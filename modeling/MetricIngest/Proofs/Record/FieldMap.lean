/-
  The field map that a list of entries gives.

  The last entry of a key is the one that counts (`get?_ofList_eq_some_iff`), so where no key stands
  twice the order of the entries does not matter: `ofList_of_perm` says that the entries of a map
  give it back in any order.
-/
import Mathlib.Data.List.Induction
import MetricIngest.Record.FieldMap

namespace MetricIngest.FieldMap

variable {m m' : FieldMap} {entries : List (String × String)} {key value : String}

/-! ### Maps with the same entries -/

/-- No key stands twice in a map. -/
theorem distinct_entries (m : FieldMap) : m.entries.Pairwise fun a b => a.1 ≠ b.1 := by
  refine m.ordered.imp ?_
  intro a b hlt heq
  rw [heq] at hlt
  exact Std.lt_irrefl hlt

theorem nodup_entries (m : FieldMap) : m.entries.Nodup :=
  m.distinct_entries.imp fun hne heq => hne (congrArg Prod.fst heq)

/-- **Maps are equal** when they say the same of each key. -/
theorem ext_get? (h : ∀ key value, m.get? key = some value ↔ m'.get? key = some value) :
    m = m' := by
  have hmem : ∀ e, e ∈ m.entries ↔ e ∈ m'.entries := by
    rintro ⟨key, value⟩
    rw [← get?_eq_some_iff, ← get?_eq_some_iff]
    exact h key value
  have hperm : m.entries.Perm m'.entries :=
    (List.perm_ext_iff_of_nodup m.nodup_entries m'.nodup_entries).mpr hmem
  have heq : m.entries = m'.entries := by
    refine hperm.eq_of_pairwise ?_ m.ordered m'.ordered
    intro a b _ _ hab hba
    exact absurd (String.lt_trans hab hba) (Std.lt_irrefl)
  cases m
  cases m'
  simpa using heq

/-! ### The map of a list of entries -/

theorem ofList_append_singleton (entries : List (String × String)) (e : String × String) :
    ofList (entries ++ [e]) = (ofList entries).insert e.1 e.2 := by
  simp [ofList]

/-- **The last entry of a key** is what the key maps to. -/
theorem get?_ofList_eq_some_iff : (ofList entries).get? key = some value ↔
    ∃ before after, entries = before ++ (key, value) :: after ∧ ∀ e ∈ after, e.1 ≠ key := by
  induction entries using List.reverseRecOn with
  | nil => simp [ofList]
  | append_singleton entries e ih =>
    obtain ⟨k, v⟩ := e
    rw [ofList_append_singleton, get?_insert]
    constructor
    · intro h
      split at h
      · rename_i hk
        obtain rfl : k = key := hk
        obtain rfl : v = value := Option.some.inj h
        exact ⟨entries, [], rfl, by simp⟩
      · rename_i hk
        obtain ⟨before, after, rfl, hafter⟩ := ih.mp h
        refine ⟨before, after ++ [(k, v)], by simp, ?_⟩
        rw [List.forall_mem_append, List.forall_mem_singleton]
        exact ⟨hafter, hk⟩
    · rintro ⟨before, after, heq, hafter⟩
      -- The new entry is the one that counts or stands behind it.
      obtain rfl | ⟨after, e, rfl⟩ := after.eq_nil_or_concat
      · obtain ⟨-, heq⟩ := List.append_inj' heq rfl
        obtain ⟨rfl, rfl⟩ : k = key ∧ v = value := by simpa using heq
        rw [if_pos rfl]
      · rw [List.concat_eq_append, ← List.cons_append, ← List.append_assoc] at heq
        obtain ⟨rfl, heq⟩ := List.append_inj' heq rfl
        obtain rfl : (k, v) = e := by simpa using heq
        rw [List.concat_eq_append, List.forall_mem_append, List.forall_mem_singleton] at hafter
        rw [if_neg hafter.2]
        exact ih.mpr ⟨before, after, rfl, hafter.1⟩

/-- **The entries of a map** give it back in any order. -/
theorem ofList_of_perm (h : entries.Perm m.entries) : ofList entries = m := by
  have hdistinct : entries.Pairwise fun a b => a.1 ≠ b.1 :=
    (h.pairwise_iff Ne.symm).mpr m.distinct_entries
  refine ext_get? fun key value => ?_
  rw [get?_ofList_eq_some_iff, get?_eq_some_iff, ← h.mem_iff]
  constructor
  · rintro ⟨before, after, rfl, -⟩
    simp
  · intro hmem
    obtain ⟨before, after, rfl⟩ := List.append_of_mem hmem
    refine ⟨before, after, rfl, fun e he => Ne.symm ?_⟩
    exact (List.pairwise_cons.mp (List.pairwise_append.mp hdistinct).2.1).1 e he

/-- A field map is that of its entries. -/
theorem ofList_entries (m : FieldMap) : ofList m.entries = m := ofList_of_perm (.refl _)

end MetricIngest.FieldMap
