/-
  The names and the fields of what a path decomposes into.

  All that the walk along a path collects is taken from the segments of the path: it is one of
  them, or the last ones folded (`Decomposition.Taken`). So there is no point in it, and but for
  the underscores of the fold it has only characters of the path. The paths of lines have no
  colons, which is why the colons of a name are those between its components. The keys of fields
  come from the pieces of a template, and a piece without a letter is no key.
-/
import MetricIngest.Proofs.Line.Outcome

namespace MetricIngest

/-! ### Keys -/

namespace Token

variable {cs : List Char} {token : Token} {key : String}

/-- A text that has a letter of ASCII but no point, and that does not end in a plus. -/
structure CleanKey (key : String) : Prop where
  ne_empty : key ≠ ""
  letter : ∃ c ∈ key.toList, Text.IsLetter c
  noPoint : '.' ∉ key.toList
  noFinal : ∀ lead, key.toList ≠ lead ++ ['+']

theorem cleanKey_ofList (letter : ∃ c ∈ cs, Text.IsLetter c) (noPoint : '.' ∉ cs)
    (noFinal : ∀ lead, cs ≠ lead ++ ['+']) : CleanKey (String.ofList cs) where
  ne_empty := by
    obtain ⟨c, hc, -⟩ := letter
    simpa using List.ne_nil_of_mem hc
  letter := by rwa [String.toList_ofList]
  noPoint := by rwa [String.toList_ofList]
  noFinal := by rwa [String.toList_ofList]

/-- **The key of a piece** of a template is clean. -/
theorem Stands.cleanKey (h : Stands cs token) (hpoint : '.' ∉ cs) (hkey : token.key? = some key) :
    CleanKey key := by
  cases h with
  | plus | names | name | skip => cases hkey
  | fields letter noFinal =>
    cases hkey
    exact cleanKey_ofList letter (fun hc => hpoint (List.mem_append_left _ hc)) noFinal
  | field letter noFinal =>
    cases hkey
    exact cleanKey_ofList letter hpoint noFinal

end Token

theorem Rule.cleanKey_of_mem_tokens {rule : Rule} {token : Token} {key : String}
    (h : token ∈ rule.tokens) (hkey : token.key? = some key) : Token.CleanKey key := by
  obtain ⟨piece, hpiece, rfl⟩ := List.mem_map.mp h
  exact (Token.stands_ofChars piece).cleanKey (Text.not_mem_of_mem_pieces hpiece) hkey

/-! ### What is taken from a path -/

namespace Decomposition

variable {tokens : List Token} {segments : List (List Char)} {cs : List Char} {c : Char}
  {path key value text : String} {k i : Nat}

/-- A text taken from segments: one of them, or the last ones folded. -/
def Taken (segments : List (List Char)) (text : String) : Prop :=
  (∃ segment ∈ segments, text = String.ofList segment) ∨ ∃ n, text = fold (segments.drop n)

theorem Taken.mem (h : Taken segments text) (hc : c ∈ text.toList) :
    c = foldSeparator ∨ ∃ segment ∈ segments, c ∈ segment := by
  obtain ⟨segment, hsegment, rfl⟩ | ⟨n, rfl⟩ := h
  · rw [String.toList_ofList] at hc
    exact Or.inr ⟨segment, hsegment, hc⟩
  · rw [fold, String.toList_ofList] at hc
    obtain hsep | ⟨segment, hsegment, hmem⟩ := Text.mem_glue hc
    · exact Or.inl hsep
    · exact Or.inr ⟨segment, List.mem_of_mem_drop hsegment, hmem⟩

/-- **There is no point** in what is taken from between points. -/
theorem Taken.point_not_mem (h : Taken (Text.pieces '.' cs) text) : '.' ∉ text.toList := by
  intro hc
  obtain hsep | ⟨segment, hsegment, hmem⟩ := h.mem hc
  · cases hsep
  · exact Text.not_mem_of_mem_pieces hsegment hmem

/-- But for the underscore, what is taken has only characters of the text. -/
theorem Taken.not_mem (h : Taken (Text.pieces '.' cs) text) (hc : c ∉ cs)
    (hsep : c ≠ foldSeparator) : c ∉ text.toList := by
  intro hmem
  obtain hfold | ⟨segment, hsegment, hmem⟩ := h.mem hmem
  · exact hsep hfold
  · exact hc (Text.mem_of_mem_pieces hsegment hmem)

theorem taken_of_getElem? {segment : List Char} (h : segments[i]? = some segment) :
    Taken segments (String.ofList segment) :=
  Or.inl ⟨segment, List.mem_of_getElem? h, rfl⟩

theorem taken_of_mem_components (h : text ∈ components tokens segments k) :
    Taken segments text := by
  rw [components, List.mem_append] at h
  rcases h with h | h
  · obtain ⟨i, -, hi⟩ := List.mem_filterMap.mp h
    unfold nameAt at hi
    split at hi
    · obtain ⟨segment, hsegment, rfl⟩ := Option.map_eq_some_iff.mp hi
      exact taken_of_getElem? hsegment
    · cases hi
  · split at h
    · rw [List.mem_singleton] at h
      exact Or.inr ⟨k, h⟩
    · cases h

theorem of_entryAt (h : entryAt tokens segments i = some (key, value)) :
    Taken segments value ∧ ∃ token ∈ tokens, token.key? = some key := by
  unfold entryAt at h
  split at h
  · rename_i key' htoken
    obtain ⟨segment, hsegment, heq⟩ := Option.map_eq_some_iff.mp h
    cases heq
    exact ⟨taken_of_getElem? hsegment, _, List.mem_of_getElem? htoken, rfl⟩
  · rename_i key' htoken
    cases h
    exact ⟨Or.inr ⟨i, rfl⟩, _, List.mem_of_getElem? htoken, rfl⟩
  · cases h

/-- **The name components of a path** are taken from its segments. -/
theorem taken_of_mem_partsOf (h : text ∈ (partsOf tokens path).components) :
    Taken (Text.pieces '.' path.toList) text := by
  obtain ⟨k, -, hcomponents, -⟩ := walk_spec tokens (Text.pieces '.' path.toList)
  rw [partsOf, hcomponents] at h
  exact taken_of_mem_components h

/-- **The fields of a path** have values taken from its segments and keys of tokens. -/
theorem of_mem_fields_partsOf (h : (key, value) ∈ (partsOf tokens path).fields.entries) :
    Taken (Text.pieces '.' path.toList) value ∧ ∃ token ∈ tokens, token.key? = some key := by
  obtain ⟨k, -, -, hfields⟩ := walk_spec tokens (Text.pieces '.' path.toList)
  rw [partsOf, ← FieldMap.get?_eq_some_iff, hfields] at h
  obtain ⟨i, -, -, hentry, -⟩ := h
  exact of_entryAt hentry

end Decomposition

/-! ### What a table makes of a path -/

namespace RuleTable

open Decomposition

variable {t : RuleTable} {path : String} {parts : Decomposition} {rule : Rule}

theorem point_not_mem_component {component : String} (h : component ∈ (t.parts path).components) :
    '.' ∉ component.toList := by
  unfold RuleTable.parts at h
  split at h
  · exact (taken_of_mem_partsOf h).point_not_mem
  · rw [plainParts, List.mem_singleton] at h
    -- Without a rule each point gives way to an underscore.
    rw [h, String.toList_ofList, List.mem_map]
    rintro ⟨c, -, hc⟩
    split at hc
    · cases hc
    · contradiction

theorem of_mem_fields {key value : String} (h : (key, value) ∈ (t.parts path).fields.entries) :
    '.' ∉ value.toList ∧ Token.CleanKey key := by
  unfold RuleTable.parts at h
  split at h
  · obtain ⟨htaken, token, htoken, hkey⟩ := of_mem_fields_partsOf h
    exact ⟨htaken.point_not_mem, Rule.cleanKey_of_mem_tokens htoken hkey⟩
  · cases h

/-- A path decomposes into its components, joined by colons, and its fields. -/
theorem decompose_eq_ok_iff : t.decompose path = .ok parts ↔
    parts.name ≠ "" ∧ parts.name = Text.join Record.nameSeparator (t.parts path).components ∧
      parts.fields = (t.parts path).fields := by
  obtain ⟨name, fields⟩ := parts
  simp only [decompose]
  by_cases hempty : Text.join Record.nameSeparator (t.parts path).components = ""
  · rw [if_pos hempty]
    simp only [reduceCtorEq, false_iff, not_and]
    rintro hne rfl
    exact absurd hempty hne
  · rw [if_neg hempty]
    simp only [Except.ok.injEq, Decomposition.mk.injEq]
    constructor
    · rintro ⟨rfl, rfl⟩
      exact ⟨hempty, rfl, rfl⟩
    · rintro ⟨-, rfl, rfl⟩
      exact ⟨rfl, rfl⟩

/-- **There is no point** in what a path decomposes into, and all keys are clean. -/
theorem decompose_clean (h : t.decompose path = .ok parts) :
    parts.name ≠ "" ∧ '.' ∉ parts.name.toList ∧
      ∀ key value, (key, value) ∈ parts.fields.entries →
        '.' ∉ value.toList ∧ Token.CleanKey key := by
  obtain ⟨hne, hname, hfields⟩ := decompose_eq_ok_iff.mp h
  refine ⟨hne, ?_, fun key value hmem => of_mem_fields (hfields ▸ hmem)⟩
  rw [hname, Text.join, String.toList_ofList]
  intro hc
  obtain hsep | ⟨part, hpart, hmem⟩ := Text.mem_glue hc
  · cases hsep
  · obtain ⟨component, hcomponent, rfl⟩ := List.mem_map.mp hpart
    exact point_not_mem_component hcomponent hmem

/-- **The components of a path without colons** are found again in its name. -/
theorem split_name (h : t.decompose path = .ok parts) (hrule : t.firstMatch path = some rule)
    (hcolon : Record.nameSeparator ∉ path.toList) :
    Text.split Record.nameSeparator parts.name = (partsOf rule.tokens path).components := by
  obtain ⟨hne, hname, -⟩ := decompose_eq_ok_iff.mp h
  have hparts : t.parts path = partsOf rule.tokens path := by rw [RuleTable.parts, hrule]
  rw [hparts] at hname
  rw [hname]
  refine Text.split_join ?_ fun component hcomponent => ?_
  · -- Without a component the name would be empty, and the path would not decompose.
    intro hnil
    rw [hnil] at hname
    exact hne hname
  · exact (taken_of_mem_partsOf hcomponent).not_mem hcolon (by decide)

end RuleTable

/-! ### The names of lines -/

namespace Decoder

variable {d d' : Decoder} {now now' : Timestamp} {cs cs' : List Char} {record record' : Record}
  {components components' : List String}

/-- A dotted line that gives a record by a rule, which collects these name components from its
path. -/
structure NamedBy (d : Decoder) (now : Timestamp) (cs : List Char) (record : Record)
    (components : List String) : Prop where
  decodes : d.decode now cs = some (.ok record)
  collected : ∃ path value time rule, Line.ofChars? cs = some (.dotted path value time) ∧
    d.rules.firstMatch (String.ofList path) = some rule ∧
    (Decomposition.partsOf rule.tokens (String.ofList path)).components = components

theorem NamedBy.split_name (h : d.NamedBy now cs record components) :
    Text.split ':' record.name = components := by
  obtain ⟨hdecode, path, value, time, rule, hline, hrule, rfl⟩ := h
  rw [decode, hline, Option.map_some, Option.some.injEq] at hdecode
  have hcolon : ':' ∉ (String.ofList path).toList := by
    rw [String.toList_ofList]
    exact (Line.nameable_of_dotted hline).not_mem (by decide)
  exact RuleTable.split_name (record_of_dotted hdecode).1 hrule hcolon

theorem NamedBy.name_eq_iff (h : d.NamedBy now cs record components)
    (h' : d'.NamedBy now' cs' record' components') :
    record.name = record'.name ↔ components = components' := by
  rw [← h.split_name, ← h'.split_name]
  refine ⟨congrArg _, fun hsplit => ?_⟩
  rw [← Text.join_split ':' record.name, hsplit, Text.join_split]

/-- **What a path decomposes into is clean**, whatever the table and the path are. It has a name,
and there is no point in the name nor in the value of a field. The key of a field has a letter of
ASCII but no point, and does not end in a plus. **And names can be taken apart**: the texts
between the colons of the name of a line are the name components that the rule has collected from
its path. So two lines, under any decoders, have the same name just when their components are the
same. -/
theorem clean_names_recoverable :
    (∀ (t : RuleTable) path parts, t.decompose path = .ok parts →
      parts.name ≠ "" ∧ '.' ∉ parts.name.toList ∧
        ∀ key value, (key, value) ∈ parts.fields.entries →
          '.' ∉ value.toList ∧ Token.CleanKey key) ∧
    (∀ (d : Decoder) now cs record components, d.NamedBy now cs record components →
      Text.split ':' record.name = components) ∧
    ∀ (d d' : Decoder) now now' cs cs' record record' components components',
      d.NamedBy now cs record components → d'.NamedBy now' cs' record' components' →
        (record.name = record'.name ↔ components = components') :=
  ⟨fun _ _ _ h => RuleTable.decompose_clean h, fun _ _ _ _ _ h => h.split_name,
    fun _ _ _ _ _ _ _ _ _ _ h h' => h.name_eq_iff h'⟩

/-- A rule for paths that begin with an `s`, with a field between its names. -/
def ruleOfNames : Rule where
  patternText := "^s"
  template := "1.host+x.2.+"
  applies path := path.toList.head? = some 's'

theorem clean_names_recoverable_fieldBetween :
    let d : Decoder := ⟨⟨[ruleOfNames]⟩, .compat⟩
    let components := ["site", "cpu-0", "user_ms"]
    ∃ record, d.NamedBy .epoch "site.db.cpu-0.user.ms 1".toList record components ∧
      record.name = "site:cpu-0:user_ms" ∧ Text.split ':' record.name = components ∧
      ("host+x", "db") ∈ record.fields.entries ∧ Token.CleanKey "host+x" := by
  intro d components
  have hdecode : ∃ fields, ("host+x", "db") ∈ FieldMap.entries fields ∧
      d.rules.decompose "site.db.cpu-0.user.ms" = .ok ⟨"site:cpu-0:user_ms", fields⟩ ∧
      d.decode .epoch "site.db.cpu-0.user.ms 1".toList =
        some (.ok ⟨"site:cpu-0:user_ms", .epoch, .ofNat 1, fields, by decide⟩) :=
    ⟨FieldMap.empty.insert "host+x" "db", by decide, by decide +kernel, by decide +kernel⟩
  obtain ⟨fields, hfield, hdecompose, hdecode⟩ := hdecode
  have hnamed : d.NamedBy .epoch "site.db.cpu-0.user.ms 1".toList _ components :=
    ⟨hdecode, "site.db.cpu-0.user.ms".toList, ['1'], [], ruleOfNames, by decide +kernel,
      List.find?_cons_of_pos (by decide), by decide +kernel⟩
  obtain ⟨hclean, hsplit, -⟩ := clean_names_recoverable
  obtain ⟨-, -, hkeys⟩ := hclean d.rules _ _ hdecompose
  exact ⟨_, hnamed, rfl, hsplit d _ _ _ _ hnamed, hfield, (hkeys _ _ hfield).2⟩

end Decoder

end MetricIngest
