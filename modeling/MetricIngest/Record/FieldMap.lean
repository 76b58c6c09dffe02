/-
  Tag fields: a finite map from keys to values.

  The entries are kept in ascending order of their keys, compared by code
  points, with one entry per key; the order is part of the type. `get?` looks a
  key up and `insert` sets one: `get?_insert` says what a key maps to after
  setting another.
-/

namespace MetricIngest

namespace FieldMap

/-- Entries in ascending order of their keys, each key once. -/
def Ordered (entries : List (String × String)) : Prop :=
  entries.Pairwise fun a b => a.1 < b.1

end FieldMap

/-- A finite map from keys to values, listed in ascending order of the keys. -/
structure FieldMap where
  entries : List (String × String)
  ordered : FieldMap.Ordered entries

namespace FieldMap

/-- The map without entries. -/
def empty : FieldMap := ⟨[], List.Pairwise.nil⟩

instance : Inhabited FieldMap := ⟨empty⟩

instance : DecidableEq FieldMap := fun a b =>
  decidable_of_iff (a.entries = b.entries)
    ⟨fun h => by cases a; cases b; cases h; rfl, fun h => h ▸ rfl⟩

instance : Repr FieldMap := ⟨fun m n => reprPrec m.entries n⟩

/-- The value of a key in a list of entries. -/
def lookup (key : String) : List (String × String) → Option String
  | [] => none
  | (k, v) :: rest => if k = key then some v else lookup key rest

/-- The value of a key. -/
def get? (m : FieldMap) (key : String) : Option String := lookup key m.entries

/-- The keys in ascending order. -/
def keys (m : FieldMap) : List String := m.entries.map (·.1)

/-! ### Setting a key -/

/-- Put an entry in its place among ordered ones, in place of one with its key. -/
def place (key value : String) : List (String × String) → List (String × String)
  | [] => [(key, value)]
  | (k, v) :: rest =>
    if key < k then (key, value) :: (k, v) :: rest
    else if key = k then (key, value) :: rest
    else (k, v) :: place key value rest

theorem mem_place {key value : String} {entries : List (String × String)}
    {e : String × String} (h : e ∈ place key value entries) :
    e = (key, value) ∨ e ∈ entries := by
  induction entries with
  | nil => simp [place] at h; exact Or.inl h
  | cons a rest ih =>
    obtain ⟨k, v⟩ := a
    unfold place at h
    split at h
    · rcases List.mem_cons.1 h with h | h
      · exact Or.inl h
      · exact Or.inr h
    · split at h
      · rcases List.mem_cons.1 h with h | h
        · exact Or.inl h
        · exact Or.inr (List.mem_cons_of_mem _ h)
      · rcases List.mem_cons.1 h with h | h
        · exact Or.inr (h ▸ List.mem_cons_self)
        · exact (ih h).imp_right (List.mem_cons_of_mem _)

theorem lt_of_not_lt_of_ne {a b : String} (h : ¬ a < b) (hne : a ≠ b) : b < a :=
  Std.lt_of_le_of_ne (Std.not_lt.1 h) (Ne.symm hne)

theorem ordered_place {key value : String} {entries : List (String × String)}
    (h : Ordered entries) : Ordered (place key value entries) := by
  induction entries with
  | nil => simp [place, Ordered]
  | cons a rest ih =>
    obtain ⟨k, v⟩ := a
    obtain ⟨hlt, hrest⟩ := List.pairwise_cons.1 h
    unfold place
    split
    · next hk =>
      refine List.pairwise_cons.2 ⟨fun e he => ?_, h⟩
      rcases List.mem_cons.1 he with rfl | he
      · exact hk
      · exact String.lt_trans hk (hlt e he)
    · next hk =>
      split
      · next he => subst he; exact List.pairwise_cons.2 ⟨hlt, hrest⟩
      · next hne =>
        refine List.pairwise_cons.2 ⟨fun e he => ?_, ih hrest⟩
        rcases mem_place he with rfl | he
        · exact lt_of_not_lt_of_ne hk hne
        · exact hlt e he

/-- The map with a key set to a value. -/
def insert (m : FieldMap) (key value : String) : FieldMap :=
  ⟨place key value m.entries, ordered_place m.ordered⟩

/-- The map of a list of entries, the last one winning for a repeated key. -/
def ofList (entries : List (String × String)) : FieldMap :=
  entries.foldl (fun m (k, v) => m.insert k v) empty

/-! ### What setting does -/

theorem lookup_place (key value : String) (entries : List (String × String)) (other : String) :
    lookup other (place key value entries)
      = if key = other then some value else lookup other entries := by
  induction entries with
  | nil => simp [place, lookup]
  | cons a rest ih =>
    obtain ⟨k, v⟩ := a
    unfold place
    split
    · simp [lookup]
    · split
      · next h => subst h; simp only [lookup]; split <;> rfl
      · next hne =>
        simp only [lookup, ih]
        by_cases hk : k = other
        · subst hk; simp [hne]
        · simp [hk]

/-- **A set key maps to its value, every other key to what it mapped to.** -/
@[simp]
theorem get?_insert (m : FieldMap) (key value other : String) :
    (m.insert key value).get? other = if key = other then some value else m.get? other :=
  lookup_place key value m.entries other

@[simp]
theorem get?_empty (key : String) : empty.get? key = none := rfl

theorem lookup_eq_some_iff {key value : String} {entries : List (String × String)}
    (h : Ordered entries) : lookup key entries = some value ↔ (key, value) ∈ entries := by
  induction entries with
  | nil => simp [lookup]
  | cons a rest ih =>
    obtain ⟨k, v⟩ := a
    obtain ⟨hlt, hrest⟩ := List.pairwise_cons.1 h
    rw [lookup, List.mem_cons, Prod.mk.injEq]
    split
    · next hk =>
      subst hk
      have hnot : (k, value) ∉ rest := fun hmem => Std.lt_irrefl (a := k) (hlt (k, value) hmem)
      simp [hnot, eq_comm]
    · next hk => simp [ih hrest, Ne.symm hk]

/-- **A key maps to a value** just when the entries say so. -/
theorem get?_eq_some_iff {m : FieldMap} {key value : String} :
    m.get? key = some value ↔ (key, value) ∈ m.entries :=
  lookup_eq_some_iff m.ordered

end FieldMap

end MetricIngest
