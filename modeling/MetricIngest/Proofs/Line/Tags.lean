/-
  Tagged lines are read back.

  The fields of a line are cut at their commas and each tag at its first equals sign, so tags that
  are written in any order give the map that they were taken from (`tagFields_tagsText`), and what
  any fields give is what their last tags say (`get?_tagFields_eq_some_iff`). `decode_tags` puts
  this together with the name and the value of the line.
-/
import MetricIngest.Line.Tags
import MetricIngest.Proofs.Line.Outcome
import MetricIngest.Proofs.Record.FieldMap

namespace MetricIngest

namespace Line

variable {cs : List Char} {key value : String} {tag : String × String}
  {tags : List (String × String)}

/-! ### Written tags -/

theorem isTag_tagText (h : Taggable tag) : IsTag (tagText tag) tag.1 tag.2 :=
  ⟨h.key_ne, h.key_seps.2, rfl⟩

theorem comma_notMem_tagText (h : Taggable tag) : ',' ∉ tagText tag := by
  rw [tagText, List.mem_append, List.mem_cons, not_or, not_or]
  exact ⟨h.key_seps.1, by decide, h.value_sep⟩

theorem unbroken_append {first second : List Char} (hfirst : Unbroken first)
    (hsecond : Unbroken second) : Unbroken (first ++ second) :=
  List.forall_mem_append.mpr ⟨hfirst, hsecond⟩

theorem unbroken_tagText (h : Taggable tag) : Unbroken (tagText tag) := by
  have hequals : Unbroken ['='] := isSolid_iff.mp (by decide)
  exact unbroken_append h.key_unbroken (unbroken_append hequals h.value_unbroken)

theorem unbroken_tagsText (h : ∀ tag ∈ tags, Taggable tag) : Unbroken (tagsText tags) := by
  have hcomma : Unbroken [','] := isSolid_iff.mp (by decide)
  intro c hc
  rcases Text.mem_glue hc with rfl | ⟨part, hpart, hmem⟩
  · exact hcomma _ List.mem_cons_self
  · obtain ⟨tag, htag, rfl⟩ := List.mem_map.mp hpart
    exact unbroken_tagText (h tag htag) c hmem

/-! ### Written lines -/

theorem Unbroken.not_mem (h : Unbroken cs) {c : Char} (hc : Text.isWhiteSpace c = true) :
    c ∉ cs := by
  intro hmem
  rw [Text.isWhiteSpace_eq_contains, h c hmem] at hc
  cases hc

theorem Dated.not_mem (h : Dated cs) {c : Char} (hc : Numeral.isDigit c = false) : c ∉ cs := by
  intro hmem
  rw [Text.numeral_isDigit_iff.mpr (h.digits c hmem)] at hc
  cases hc

/-- No white space but the space is in a line. -/
theorem Form.not_mem_text (form : Form) {c : Char} (hc : Text.isWhiteSpace c = true)
    (hname : isNameChar c = false) (hdigit : Numeral.isDigit c = false) (hspace : c ≠ ' ')
    (hcomma : c ≠ ',') : c ∉ form.text := by
  cases form with
  | dotted path value hpath hvalue =>
    simp [text, hpath.not_mem hname, hvalue.unbroken.not_mem hc, hspace]
  | timed path value time hpath hvalue htime =>
    simp [text, hpath.not_mem hname, hvalue.unbroken.not_mem hc, htime.not_mem hdigit, hspace]
  | tagged name fields value hname' hfields hvalue =>
    simp [text, hname'.not_mem hname, hfields.not_mem hc, hvalue.unbroken.not_mem hc, hspace,
      hcomma]

/-- **A line has no line end**, so its body is all of it. -/
theorem Form.body_text (form : Form) : body form.text = form.text := by
  have hreturn : '\r' ∉ form.text :=
    form.not_mem_text (by decide) (by decide) (by decide) (by decide) (by decide)
  have hfeed : '\n' ∉ form.text :=
    form.not_mem_text (by decide) (by decide) (by decide) (by decide) (by decide)
  have hlast : ∀ c ∈ form.text.getLast?, (c == '\r' || c == '\n') = false := by
    intro c hc
    have hmem := List.mem_of_getLast? hc
    rw [Bool.or_eq_false_iff, beq_eq_false_iff_ne, beq_eq_false_iff_ne]
    exact ⟨ne_of_mem_of_not_mem hmem hreturn, ne_of_mem_of_not_mem hmem hfeed⟩
  have hdrop := Text.dropEndWhile_append (List.forall_mem_nil _) hlast
  rwa [List.append_nil] at hdrop

end Line

namespace Decoder

open Line Numeral

variable {cs name fields : List Char} {key value : String} {tags : List (String × String)}

/-! ### Tags that are read -/

theorem tag?_eq_some_iff : tag? cs = some (key, value) ↔ IsTag cs key value := by
  constructor
  · intro h
    unfold tag? at h
    split at h
    · rename_i c key' value' hcut
      obtain ⟨hnot, rfl⟩ := Text.cutFirst_eq_some_iff.mp hcut
      simp only [Option.some.injEq, Prod.mk.injEq] at h
      obtain ⟨rfl, rfl⟩ := h
      exact ⟨by simp, by rwa [String.toList_ofList], by simp⟩
    · cases h
  · rintro ⟨hne, hnot, rfl⟩
    rw [tag?, Text.cutFirst_append_cons hnot]
    cases hkey : key.toList with
    | nil => exact absurd (String.toList_eq_nil_iff.mp hkey) hne
    | cons c rest =>
      simp only [Option.some.injEq, Prod.mk.injEq]
      rw [← hkey]
      exact ⟨String.ofList_toList, String.ofList_toList⟩

/-- **What fields give** is what their last tags say. -/
theorem get?_tagFields_eq_some_iff :
    (tagFields fields).get? key = some value ↔ LastTag (Text.pieces ',' fields) key value := by
  rw [tagFields, FieldMap.get?_ofList_eq_some_iff]
  constructor
  · rintro ⟨before, after, heq, hafter⟩
    obtain ⟨l, l', hl, rfl, hcons⟩ := List.filterMap_eq_append_iff.mp heq
    obtain ⟨skipped, piece, rest, rfl, -, hpiece, rfl⟩ := List.filterMap_eq_cons_iff.mp hcons
    refine ⟨l ++ skipped, piece, rest, by rw [hl, List.append_assoc],
      tag?_eq_some_iff.mp hpiece, ?_⟩
    intro other hother value' htag
    exact hafter (key, value')
      (List.mem_filterMap.mpr ⟨other, hother, tag?_eq_some_iff.mpr htag⟩) rfl
  · rintro ⟨before, piece, after, heq, hpiece, hafter⟩
    refine ⟨before.filterMap tag?, after.filterMap tag?, ?_, ?_⟩
    · rw [heq, List.filterMap_append, List.filterMap_cons_some (tag?_eq_some_iff.mpr hpiece)]
    · rintro ⟨key', value'⟩ he rfl
      obtain ⟨other, hother, htag⟩ := List.mem_filterMap.mp he
      exact hafter other hother value' (tag?_eq_some_iff.mp htag)

/-- Tags that are written are read again. -/
theorem filterMap_tag?_tagsText (h : ∀ tag ∈ tags, Taggable tag) :
    (Text.pieces ',' (tagsText tags)).filterMap tag? = tags := by
  cases tags with
  | nil => rfl
  | cons first rest =>
    have hcommas : ∀ part ∈ (first :: rest).map tagText, ',' ∉ part := by
      intro part hpart
      obtain ⟨tag, htag, rfl⟩ := List.mem_map.mp hpart
      exact comma_notMem_tagText (h tag htag)
    have htags : ∀ tag ∈ first :: rest, tag? (tagText tag) = some tag :=
      fun tag htag => tag?_eq_some_iff.mpr (isTag_tagText (h tag htag))
    rw [tagsText, Text.pieces_glue (by simp) hcommas, List.filterMap_map]
    exact (List.filterMap_congr htags).trans List.filterMap_some

/-- **A map is read back** from its tags in any order. -/
theorem tagFields_tagsText {m : FieldMap} (hperm : tags.Perm m.entries)
    (h : ∀ tag ∈ tags, Taggable tag) : tagFields (tagsText tags) = m := by
  rw [tagFields, filterMap_tag?_tagsText h]
  exact FieldMap.ofList_of_perm hperm

/-! ### Lines with a numeral -/

/-- The characters of a numeral. -/
theorem isValueChar_of_mem_text (w : Written) : ∀ c ∈ w.text, isValueChar c = true ∨ c = '-' := by
  intro c hc
  rw [Written.text] at hc
  split at hc
  · rcases List.mem_cons.mp hc with rfl | hc
    · exact Or.inr rfl
    · exact Or.inl (isValueChar_of_mem_unsigned w c hc)
  · exact Or.inl (isValueChar_of_mem_unsigned w c hc)

theorem isWhiteSpace_eq_false {c : Char} (h : isValueChar c = true ∨ c = '-') :
    Text.isWhiteSpace c = false := by
  rw [isValueChar, Bool.or_eq_true, beq_iff_eq, Text.numeral_isDigit_iff] at h
  obtain (⟨hzero, hnine⟩ | rfl) | rfl := h
  · have hlow : 0x30 ≤ c.toNat := hzero
    have hhigh : c.toNat ≤ 0x39 := hnine
    simp only [Text.isWhiteSpace, Bool.or_eq_false_iff, Bool.and_eq_false_iff,
      decide_eq_false_iff_not, beq_eq_false_iff_ne]
    omega
  · decide
  · decide

theorem writable_text (w : Written) : Writable w.text := by
  constructor
  · intro hnil
    have hvalue := value_text w
    rw [hnil] at hvalue
    cases hvalue
  · intro c hc
    rw [← Text.isWhiteSpace_eq_contains]
    exact isWhiteSpace_eq_false (isValueChar_of_mem_text w c hc)

/-- A numeral does not begin with the mark of a value. -/
theorem valueOf_text (w : Written) (marked : Bool) :
    ValueOf ((if marked then valueMark else []) ++ w.text) w.text := by
  cases marked with
  | true => exact Or.inl ⟨(writable_text w).ne_nil, rfl⟩
  | false =>
    refine Or.inr ⟨rfl, ?_⟩
    intro rest _ heq
    have hmem : 'v' ∈ w.text := by
      rw [show w.text = valueMark ++ rest from heq]
      exact List.mem_cons_self
    rcases isValueChar_of_mem_text w 'v' hmem with h | h
    · exact absurd h (by decide)
    · exact absurd h (by decide)

/-- **A tagged line with a numeral** decodes, whatever its fields are. -/
theorem decode_taggedText (d : Decoder) (now : Timestamp) (hname : Nameable name)
    (hfields : Unbroken fields) (w : Written) (marked : Bool) :
    ∃ h, d.decode now (taggedText name fields w.text marked) =
      some (.ok ⟨String.ofList name, now, w.toBinary64, tagFields fields, h⟩) := by
  have hmark : Unbroken (if marked then valueMark else []) := by
    cases marked with
    | true => exact unbroken_valueMark
    | false => simp [Unbroken]
  have hvalue : Writable ((if marked then valueMark else []) ++ w.text) :=
    ⟨by simp [(writable_text w).ne_nil], unbroken_append hmark (writable_text w).unbroken⟩
  have hline : Line.ofChars? (taggedText name fields w.text marked) =
      some (.tagged name fields w.text) :=
    ofChars?_eq_some_iff.mpr ⟨.tagged name fields _ hname hfields hvalue,
      (Form.body_text _).symm, w.text, valueOf_text w marked, rfl⟩
  simp only [decode, hline, Option.map_some, Option.some.injEq]
  exact decodeParts_tagged hname.ne_nil w

/-- **Tagged lines round-trip** under any rules, in either mode and at any time. Tags of which
each can be written are read back from a line with a name and a numeral, in any order: the record
has that name, the map of the tags, the number of the numeral and the current time. Of other
fields those pieces between their commas count that are tags, and of those with the same key the
last. -/
theorem decode_tags (d : Decoder) (now : Timestamp) (hname : Nameable name) (w : Written)
    (marked : Bool) :
    (∀ (m : FieldMap) (tags : List (String × String)), tags.Perm m.entries →
      (∀ tag ∈ tags, Taggable tag) →
      ∃ h, d.decode now (taggedText name (tagsText tags) w.text marked) =
        some (.ok ⟨String.ofList name, now, w.toBinary64, m, h⟩)) ∧
    ∀ fields, (∃ pieces, Text.PiecesOf ',' fields pieces ∧ ∀ key value,
        (tagFields fields).get? key = some value ↔ LastTag pieces key value) ∧
      (Unbroken fields → ∃ h, d.decode now (taggedText name fields w.text marked) =
        some (.ok ⟨String.ofList name, now, w.toBinary64, tagFields fields, h⟩)) := by
  refine ⟨fun m tags hperm htags => ?_, fun fields => ⟨?_, fun hfields => ?_⟩⟩
  · rw [← tagFields_tagsText hperm htags]
    exact decode_taggedText d now hname (unbroken_tagsText htags) w marked
  · exact ⟨_, Text.piecesOf_iff.mpr rfl, fun _ _ => get?_tagFields_eq_some_iff⟩
  · exact decode_taggedText d now hname hfields w marked

/-- Two tags, not in the order of their keys. -/
def unsortedTags : List (String × String) := [("b", "x=y"), ("a", "")]

/-- Fields with a key that stands twice, a piece without an equals sign and one without a key. -/
def mixedFields : List Char := ['k', '=', '1', ',', 'j', ',', '=', 'x', ',', 'k', '=', '2']

theorem decode_tags_unsorted :
    let d : Decoder := ⟨.empty, .compat⟩
    (∃ r, d.decode .epoch (taggedText ['m'] (tagsText unsortedTags) minusHalf.text true) =
      some (.ok r) ∧ r.fields.entries = [("a", ""), ("b", "x=y")]) ∧
    ∃ r, d.decode .epoch (taggedText ['m'] mixedFields minusHalf.text false) = some (.ok r) ∧
      r.fields.get? "k" = some "2" ∧ r.value = minusHalf.toBinary64 := by
  intro d
  have hname : Nameable ['m'] := ⟨by simp, by simp [Text.IsLetter]⟩
  have hsolid : Unbroken mixedFields := isSolid_iff.mp (by decide)
  have htags : ∀ tag ∈ unsortedTags, Taggable tag := by
    rw [unsortedTags, List.forall_mem_cons, List.forall_mem_singleton]
    exact
      ⟨⟨by decide, isSolid_iff.mp (by decide), by decide, isSolid_iff.mp (by decide), by decide⟩,
      ⟨by decide, isSolid_iff.mp (by decide), by decide, isSolid_iff.mp (by decide), by decide⟩⟩
  have hentries : (FieldMap.ofList [("a", ""), ("b", "x=y")]).entries =
      [("a", ""), ("b", "x=y")] := by decide
  constructor
  · obtain ⟨hwritten, -⟩ := decode_tags d .epoch hname minusHalf true
    obtain ⟨_, hdecode⟩ :=
      hwritten (.ofList [("a", ""), ("b", "x=y")]) unsortedTags (by decide) htags
    exact ⟨_, hdecode, hentries⟩
  · obtain ⟨-, hfields⟩ := decode_tags d .epoch hname minusHalf false
    obtain ⟨⟨pieces, hpieces, hget⟩, hdecode⟩ := hfields mixedFields
    obtain ⟨_, hdecode⟩ := hdecode hsolid
    obtain rfl := Text.piecesOf_iff.mp hpieces
    refine ⟨_, hdecode, (hget "k" "2").mpr ?_, rfl⟩
    exact ⟨[['k', '=', '1'], ['j'], ['=', 'x']], ['k', '=', '2'], [], by decide,
      ⟨by decide, by decide, by decide⟩, by simp⟩

end Decoder

end MetricIngest
