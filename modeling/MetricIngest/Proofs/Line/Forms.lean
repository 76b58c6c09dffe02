/-
  The lines that decode are those of the two forms.

  A line is cut at its spaces, and the pieces of a text that has a form are its words
  (`pieces_text`). So a text has at most one form (`text_injective`), and what is read off
  it is what the form says (`ofChars?_eq_some_iff`). The layout of lines prefers the same
  parts (`ofChars?_eq_layout`). `decode_of_forms` puts this together.
-/
import MetricIngest.Line.Decoder
import MetricIngest.Line.Form
import MetricIngest.Proofs.Text.Layout

namespace MetricIngest

namespace Line

variable {c : Char} {cs cs' path name fields value written : List Char} {line : Line}

/-! ### Texts of a kind -/

theorem isNameChar_iff : isNameChar c = true ↔
    Text.IsLetter c ∨ Text.IsDigit c ∨ c = '_' ∨ c = '.' ∨ c = '-' := by
  simp only [isNameChar, Char.isAlphanum, Bool.or_eq_true, beq_iff_eq, Text.isAlpha_iff,
    Text.isDigit_iff, or_assoc]

theorem isName_iff : isName cs = true ↔ Nameable cs := by
  simp only [isName, Bool.and_eq_true, List.all_eq_true, isNameChar_iff, decide_eq_true_eq]
  exact ⟨fun ⟨hne, hall⟩ => ⟨hne, hall⟩, fun h => ⟨h.ne_nil, h.chars⟩⟩

theorem isSolid_iff : isSolid cs = true ↔ Unbroken cs := by
  simp only [isSolid, Unbroken, List.all_eq_true, Text.isWhiteSpace_eq_contains,
    Bool.not_eq_true']

theorem unbroken_valueMark : Unbroken valueMark := isSolid_iff.mp (by decide)

theorem isTime_iff : isTime cs = true ↔ Dated cs := by
  rw [isTime, leastTimeDigits, Bool.and_eq_true, decide_eq_true_eq, List.all_eq_true]
  simp only [Text.numeral_isDigit_iff]
  exact ⟨fun ⟨hten, hall⟩ => ⟨hten, hall⟩, fun h => ⟨h.ten, h.digits⟩⟩

theorem Nameable.not_mem (h : Nameable cs) (hc : isNameChar c = false) : c ∉ cs := by
  intro hmem
  rw [isNameChar_iff.mpr (h.chars c hmem)] at hc
  cases hc

theorem Nameable.one_le_length (h : Nameable cs) : 1 ≤ cs.length :=
  List.length_pos_of_ne_nil h.ne_nil

theorem Writable.one_le_length (h : Writable cs) : 1 ≤ cs.length :=
  List.length_pos_of_ne_nil h.ne_nil

theorem Unbroken.space_not_mem (h : Unbroken cs) : ' ' ∉ cs := by
  intro hmem
  have hspace := h _ hmem
  rw [← Text.isWhiteSpace_eq_contains] at hspace
  revert hspace
  decide

theorem Dated.space_not_mem (h : Dated cs) : ' ' ∉ cs := by
  intro hmem
  have hspace := h.digits _ hmem
  revert hspace
  unfold Text.IsDigit
  decide

theorem unmarked_eq_iff : unmarked written = value ↔ ValueOf written value := by
  unfold unmarked ValueOf
  split
  · rename_i c rest hlead
    rw [Text.dropLead?_eq_some_iff] at hlead
    subst hlead
    constructor
    · rintro rfl
      exact Or.inl ⟨List.cons_ne_nil _ _, rfl⟩
    · rintro (⟨-, heq⟩ | ⟨-, hnot⟩)
      · exact List.append_cancel_left heq
      · exact absurd rfl (hnot _ (List.cons_ne_nil c rest))
  · rename_i hlead
    have hnot : ∀ rest, rest ≠ [] → written ≠ valueMark ++ rest := by
      intro rest hne heq
      obtain ⟨c, rest, rfl⟩ := List.exists_cons_of_ne_nil hne
      exact hlead c rest (Text.dropLead?_eq_some_iff.mpr heq)
    constructor
    · rintro rfl
      exact Or.inr ⟨rfl, hnot⟩
    · rintro (⟨hne, heq⟩ | ⟨rfl, -⟩)
      · exact absurd heq (hnot value hne)
      · rfl

/-! ### The words of a line -/

namespace Form

variable {form form' : Form}

/-- The words of a line: what stands between its spaces. -/
def words : Form → List (List Char)
  | dotted path value _ _ => [path, value]
  | timed path value time _ _ _ => [path, value, time]
  | tagged name fields value _ _ _ => [name ++ ',' :: fields, value]

theorem pieces_text (form : Form) : Text.pieces ' ' form.text = form.words := by
  have hspace : isNameChar ' ' = false := by decide
  cases form with
  | dotted path value hpath hvalue =>
    rw [text, Text.pieces_append_cons (hpath.not_mem hspace),
      Text.pieces_of_not_mem hvalue.unbroken.space_not_mem, words]
  | timed path value time hpath hvalue htime =>
    rw [text, Text.pieces_append_cons (hpath.not_mem hspace),
      Text.pieces_append_cons hvalue.unbroken.space_not_mem,
      Text.pieces_of_not_mem htime.space_not_mem, words]
  | tagged name fields value hname hfields hvalue =>
    have hhead : ' ' ∉ name ++ ',' :: fields := by
      rw [List.mem_append, List.mem_cons, not_or, not_or]
      exact ⟨hname.not_mem hspace, by decide, hfields.space_not_mem⟩
    rw [text, ← List.cons_append, ← List.append_assoc, Text.pieces_append_cons hhead,
      Text.pieces_of_not_mem hvalue.unbroken.space_not_mem, words]

theorem text_eq_of_pieces (h : Text.pieces ' ' cs = form.words) : form.text = cs := by
  rw [← Text.glue_pieces ' ' cs, h, ← pieces_text, Text.glue_pieces]

/-- **A text has at most one form**, with the same parts. -/
theorem text_injective : Function.Injective text := by
  intro form form' heq
  have hcomma : isNameChar ',' = false := by decide
  have hwords : form.words = form'.words := by rw [← pieces_text, ← pieces_text, heq]
  -- A path holds no comma, so it is not the first word of a line with tags.
  have hapart : ∀ {path name fields : List Char}, Nameable path →
      path ≠ name ++ ',' :: fields := by
    rintro path name fields hpath rfl
    exact hpath.not_mem hcomma (by simp)
  cases form with
  | dotted path value hpath hvalue =>
    cases form' with
    | dotted path' value' =>
      simp only [words, List.cons.injEq, and_true] at hwords
      obtain ⟨rfl, rfl⟩ := hwords
      rfl
    | timed => simp [words] at hwords
    | tagged =>
      simp only [words, List.cons.injEq] at hwords
      exact absurd hwords.1 (hapart hpath)
  | timed path value time hpath hvalue htime =>
    cases form' with
    | timed =>
      simp only [words, List.cons.injEq, and_true] at hwords
      obtain ⟨rfl, rfl, rfl⟩ := hwords
      rfl
    | dotted | tagged => simp [words] at hwords
  | tagged name fields value hname hfields hvalue =>
    cases form' with
    | dotted path' value' hpath' =>
      simp only [words, List.cons.injEq] at hwords
      exact absurd hwords.1.symm (hapart hpath')
    | timed => simp [words] at hwords
    | tagged name' fields' value' hname' =>
      simp only [words, List.cons.injEq, and_true] at hwords
      obtain ⟨hhead, rfl⟩ := hwords
      have hcut := Text.cutFirst_append_cons (hname.not_mem hcomma) fields
      rw [hhead, Text.cutFirst_append_cons (hname'.not_mem hcomma) fields'] at hcut
      simp only [Option.some.injEq, Prod.mk.injEq] at hcut
      obtain ⟨rfl, rfl⟩ := hcut
      rfl

end Form

/-! ### What is read off a line -/

theorem Form.exists_reads (form : Form) : ∃ line, form.Reads line := by
  cases form with
  | dotted | timed => exact ⟨_, rfl⟩
  | tagged name fields written => exact ⟨_, _, unmarked_eq_iff.mp rfl, rfl⟩

theorem ofPieces?_words (form : Form) (line : Line) :
    ofPieces? form.words = some line ↔ form.Reads line := by
  cases form with
  | dotted path value hpath hvalue =>
    have hsolid := isSolid_iff.mpr hvalue.unbroken
    simp [Form.words, ofPieces?, Form.Reads, isName_iff.mpr hpath, hsolid, hvalue.ne_nil, eq_comm]
  | timed path value time hpath hvalue htime =>
    have hsolid := isSolid_iff.mpr hvalue.unbroken
    simp [Form.words, ofPieces?, Form.Reads, isName_iff.mpr hpath, isTime_iff.mpr htime, hsolid,
      hvalue.ne_nil, eq_comm]
  | tagged name fields written hname hfields hvalue =>
    have hcomma : isNameChar ',' = false := by decide
    have hsolid := isSolid_iff.mpr hvalue.unbroken
    have hhead : isName (name ++ ',' :: fields) = false := by
      rw [← Bool.not_eq_true, isName_iff]
      exact fun h => h.not_mem hcomma (by simp)
    have hcut := Text.cutFirst_append_cons (hname.not_mem hcomma) fields
    simp only [Form.words, ofPieces?, Form.Reads, hsolid, hvalue.ne_nil, hhead, hcut,
      isName_iff.mpr hname, isSolid_iff.mpr hfields, ← unmarked_eq_iff]
    simp [eq_comm]

/-- Pieces that are read as a line are the words of a form. -/
theorem exists_words_of_ofPieces? {pieces : List (List Char)} (h : ofPieces? pieces = some line) :
    ∃ form : Form, pieces = form.words := by
  unfold ofPieces? at h
  split at h
  · rename_i head value
    split at h
    · cases h
    · rename_i hvalue
      rw [not_or, not_not, isSolid_iff] at hvalue
      split at h
      · rename_i hname
        exact ⟨.dotted head value (isName_iff.mp hname) ⟨hvalue.1, hvalue.2⟩, rfl⟩
      · split at h
        · rename_i name fields hcut
          obtain ⟨-, rfl⟩ := Text.cutFirst_eq_some_iff.mp hcut
          split at h
          · rename_i hkinds
            rw [isName_iff, isSolid_iff] at hkinds
            exact ⟨.tagged name fields value hkinds.1 hkinds.2 ⟨hvalue.1, hvalue.2⟩, rfl⟩
          · cases h
        · cases h
  · rename_i path value time
    split at h
    · rename_i hkinds
      rw [isName_iff, isSolid_iff, isTime_iff] at hkinds
      obtain ⟨hpath, hne, hsolid, htime⟩ := hkinds
      exact ⟨.timed path value time hpath ⟨hne, hsolid⟩ htime, rfl⟩
    · cases h
  · cases h

/-- **What is read off a text** is what the form of its body says; without a form, nothing. -/
theorem ofChars?_eq_some_iff :
    ofChars? cs = some line ↔ ∃ form : Form, form.text = body cs ∧ form.Reads line := by
  constructor
  · intro h
    obtain ⟨form, hwords⟩ := exists_words_of_ofPieces? h
    refine ⟨form, Form.text_eq_of_pieces hwords, ?_⟩
    rw [← ofPieces?_words, ← hwords]
    exact h
  · rintro ⟨form, htext, hreads⟩
    rw [ofChars?, ← htext, Form.pieces_text, ofPieces?_words]
    exact hreads

-- A mark with nothing after it is the value itself, and a text of fields may be empty.
example : ofChars? ('m' :: ',' :: ' ' :: valueMark) = some (.tagged ['m'] [] valueMark) := by
  decide +kernel

/-- The path of a dotted line is a name. -/
theorem nameable_of_dotted {time : List Char}
    (h : ofChars? cs = some (.dotted path value time)) : Nameable path := by
  obtain ⟨form, -, hreads⟩ := ofChars?_eq_some_iff.mp h
  cases form with
  | dotted path' value' hpath =>
    cases hreads
    exact hpath
  | timed path' value' time' hpath =>
    cases hreads
    exact hpath
  | tagged =>
    obtain ⟨_, -, heq⟩ := hreads
    cases heq

/-! ### The layout of lines -/

section Layout

open Text Layout

theorem isSolidChar_of_mem (h : Unbroken cs) : ∀ c ∈ cs, isSolidChar c = true := by
  intro c hc
  rw [isSolidChar, isWhiteSpace_eq_contains, h c hc]
  rfl

theorem isNameChar_of_mem (h : Nameable cs) : ∀ c ∈ cs, isNameChar c = true :=
  fun c hc => isNameChar_iff.mpr (h.chars c hc)

theorem isDigit_of_mem (h : Dated cs) : ∀ c ∈ cs, Numeral.isDigit c = true :=
  fun c hc => numeral_isDigit_iff.mpr (h.digits c hc)

/-- A value ends the line, or a time does. -/
theorem fit?_valueLayout (rest : List Char) (hvalue : Writable value)
    (hrest : ∀ c ∈ rest.head?, isSolidChar c = false) :
    (sequence valueLayout finish).fit? (value ++ rest) =
      (((sequence (sequence (chars [' ']) (part .time (run Numeral.isDigit leastTimeDigits)))
        finish).fit? rest).or (finish.fit? rest)).map ((.value, value) :: ·) := by
  have hspace : isSolidChar ' ' = false := by decide
  rw [valueLayout, fit?_sequence_assoc, fit?_run_sequence _ (isSolidChar_of_mem hvalue.unbroken)
    hrest, if_pos hvalue.one_le_length, fit?_optional_sequence]
  intro c rest hc
  rw [fit?_optional_sequence, fit?_mark_of_run hspace hc, fit?_finish,
    if_neg (List.cons_ne_nil c rest)]
  rfl

/-- A mark is left out where something follows it. -/
theorem fit?_tagValueLayout (hwritten : Writable written) (hvalue : ValueOf written value) :
    (sequence tagValueLayout finish).fit? written = some [(.tagValue, value)] := by
  rw [tagValueLayout, fit?_sequence_assoc, fit?_optional_sequence]
  rcases hvalue with ⟨hne, rfl⟩ | ⟨rfl, hnot⟩
  · have hsolid : ∀ c ∈ value, isSolidChar c = true := fun c hc =>
      isSolidChar_of_mem hwritten.unbroken c (List.mem_append_right _ hc)
    have hone : 1 ≤ value.length := List.length_pos_of_ne_nil hne
    rw [fit?_chars_sequence, fit?_run_finish hsolid, if_pos hone]
    rfl
  · rw [fit?_run_finish (isSolidChar_of_mem hwritten.unbroken),
      if_pos hwritten.one_le_length]
    -- With the mark left out nothing would be there.
    have hmarked : (sequence (chars valueMark)
        (sequence (part Part.tagValue (run isSolidChar 1)) finish)).fit? written = none := by
      by_cases hlead : written = valueMark
      · have hnothing := fit?_chars_sequence valueMark []
          (b := sequence (part Part.tagValue (run isSolidChar 1)) finish)
        rw [List.append_nil, fit?_run_finish (by simp)] at hnothing
        rw [hlead, hnothing]
        rfl
      · refine fit?_chars_sequence_of_not_lead fun rest hrest => ?_
        cases rest with
        | nil => exact hlead (by simpa using hrest)
        | cons c rest => exact hnot _ (List.cons_ne_nil c rest) hrest
    rw [hmarked]
    rfl

/-- **The parts of a line of a form** in the way that its layout prefers. -/
theorem fit?_text {form : Form} (hreads : form.Reads line) :
    (layout.fit? form.text).map ofParts = some line := by
  have hspace : isSolidChar ' ' = false := by decide
  have hname : isNameChar ' ' = false := by decide
  have hcomma : isNameChar ',' = false := by decide
  rw [layout, fit?_either_sequence]
  cases form with
  | dotted path value hpath hvalue =>
    obtain rfl := hreads
    have hrest := fit?_valueLayout [] hvalue (by simp)
    rw [List.append_nil] at hrest
    rw [Form.text, dottedLayout, fit?_run_mark hname (isNameChar_of_mem hpath),
      if_pos hpath.one_le_length, hrest]
    rfl
  | timed path value time hpath hvalue htime =>
    obtain rfl := hreads
    rw [Form.text, dottedLayout, fit?_run_mark hname (isNameChar_of_mem hpath),
      if_pos hpath.one_le_length,
      fit?_valueLayout _ hvalue (by simpa using hspace), fit?_sequence_assoc]
    have hten : leastTimeDigits ≤ time.length := htime.ten
    rw [fit?_mark_sequence, fit?_run_finish (isDigit_of_mem htime), if_pos hten]
    rfl
  | tagged name fields written hname' hfields hwritten =>
    obtain ⟨value, hvalue, rfl⟩ := hreads
    rw [Form.text, dottedLayout,
      fit?_run_mark_of_ne hname hcomma (by decide) (isNameChar_of_mem hname'), Option.none_or,
      taggedLayout, fit?_run_mark hcomma (isNameChar_of_mem hname'),
      if_pos hname'.one_le_length, fieldsLayout,
      fit?_run_mark hspace (isSolidChar_of_mem hfields), if_pos (Nat.zero_le _),
      fit?_tagValueLayout hwritten hvalue]
    rfl

theorem nameable_of_forall (hone : 1 ≤ cs.length) (hall : ∀ c ∈ cs, isNameChar c = true) :
    Nameable cs :=
  ⟨List.ne_nil_of_length_pos hone, fun c hc => isNameChar_iff.mp (hall c hc)⟩

theorem unbroken_of_forall (hall : ∀ c ∈ cs, isSolidChar c = true) : Unbroken cs := by
  rw [← isSolid_iff, isSolid, List.all_eq_true]
  exact hall

theorem writable_of_forall (hone : 1 ≤ cs.length) (hall : ∀ c ∈ cs, isSolidChar c = true) :
    Writable cs :=
  ⟨List.ne_nil_of_length_pos hone, unbroken_of_forall hall⟩

/-- A text that fits the layout of a dotted line has that form. -/
theorem exists_form_of_mem_dottedLayout {f : Fit Part} (hf : f ∈ dottedLayout.fits cs)
    (hrest : f.rest = []) : ∃ form : Form, form.text = cs := by
  obtain ⟨path, hpath, mark, hmark, rfl⟩ := mem_fits_sequence.mp hf
  obtain ⟨hcs, hone, hnames⟩ := eq_append_of_mem_fits_run hpath
  obtain ⟨space, hspace, value, hvalue, rfl⟩ := mem_fits_sequence.mp hmark
  obtain ⟨-, -, hspace⟩ := mem_fits_chars.mp hspace
  obtain ⟨solid, hsolid, time, htime, rfl⟩ := mem_fits_sequence.mp hvalue
  obtain ⟨hvalue, hone', hsolids⟩ := eq_append_of_mem_fits_run hsolid
  have hpath := nameable_of_forall hone hnames
  have hwritable := writable_of_forall hone' hsolids
  rw [hcs, hspace, hvalue]
  rcases mem_fits_optional.mp htime with htime | rfl
  · obtain ⟨space', hspace', digits, hdigits, rfl⟩ := mem_fits_sequence.mp htime
    obtain ⟨-, -, hspace'⟩ := mem_fits_chars.mp hspace'
    obtain ⟨hdigits, hten, hall⟩ := eq_append_of_mem_fits_run hdigits
    rw [hspace', hdigits, show digits.rest = [] from hrest, List.append_nil]
    exact ⟨.timed _ _ _ hpath hwritable ⟨hten, fun c hc => numeral_isDigit_iff.mp (hall c hc)⟩, rfl⟩
  · rw [show solid.rest = [] from hrest, List.append_nil]
    exact ⟨.dotted _ _ hpath hwritable, rfl⟩

/-- A text that fits the layout of a tagged line has that form. -/
theorem exists_form_of_mem_taggedLayout {f : Fit Part} (hf : f ∈ taggedLayout.fits cs)
    (hrest : f.rest = []) : ∃ form : Form, form.text = cs := by
  obtain ⟨name, hname, mark, hmark, rfl⟩ := mem_fits_sequence.mp hf
  obtain ⟨hcs, hone, hnames⟩ := eq_append_of_mem_fits_run hname
  obtain ⟨comma, hcomma, fields, hfields, rfl⟩ := mem_fits_sequence.mp hmark
  obtain ⟨-, -, hcomma⟩ := mem_fits_chars.mp hcomma
  obtain ⟨solid, hsolid, space, hspace, rfl⟩ := mem_fits_sequence.mp hfields
  obtain ⟨hafter, -, hsolids⟩ := eq_append_of_mem_fits_run hsolid
  obtain ⟨gap, hgap, value, hvalue, rfl⟩ := mem_fits_sequence.mp hspace
  obtain ⟨-, -, hgap⟩ := mem_fits_chars.mp hgap
  obtain ⟨lead, hlead, written, hwritten, rfl⟩ := mem_fits_sequence.mp hvalue
  obtain ⟨hvalue, hone', hvalues⟩ := eq_append_of_mem_fits_run hwritten
  rw [show written.rest = [] from hrest, List.append_nil] at hvalue
  rw [hcs, hcomma, hafter, hgap]
  refine ⟨.tagged name.taken solid.taken gap.rest (nameable_of_forall hone hnames)
    (unbroken_of_forall hsolids) ?_, rfl⟩
  have hwritable := writable_of_forall hone' hvalues
  rw [← hvalue] at hwritable
  rcases mem_fits_optional.mp hlead with hlead | rfl
  · obtain ⟨-, -, hgaprest⟩ := mem_fits_chars.mp hlead
    rw [hgaprest]
    refine ⟨by simp [valueMark], fun c hc => ?_⟩
    rcases List.mem_append.mp hc with hc | hc
    · exact unbroken_valueMark c hc
    · exact hwritable.unbroken c hc
  · exact hwritable

/-- **The layout of lines** gives the parts that are read off a text. -/
theorem ofChars?_eq_layout (cs : List Char) :
    ofChars? cs = (layout.fit? (body cs)).map ofParts := by
  cases hfit : layout.fit? (body cs) with
  | some parts =>
    obtain ⟨f, hf, -⟩ := exists_mem_of_fit? hfit
    obtain ⟨g, hg, g', hg', rfl⟩ := mem_fits_sequence.mp hf
    obtain ⟨-, hrest⟩ := mem_fits_finish.mp hg'
    obtain ⟨form, htext⟩ : ∃ form : Form, form.text = body cs := by
      rcases mem_fits_either.mp hg with hg | hg
      · exact exists_form_of_mem_dottedLayout hg hrest
      · exact exists_form_of_mem_taggedLayout hg hrest
    obtain ⟨line, hreads⟩ := form.exists_reads
    have hparts := fit?_text hreads
    rw [htext, hfit] at hparts
    rw [hparts, ofChars?_eq_some_iff]
    exact ⟨form, htext, hreads⟩
  | none =>
    rw [Option.map_none, Option.eq_none_iff_forall_ne_some]
    intro line hline
    obtain ⟨form, htext, hreads⟩ := ofChars?_eq_some_iff.mp hline
    have hparts := fit?_text hreads
    rw [htext, hfit] at hparts
    cases hparts

end Layout

end Line

namespace Decoder

open Line

/-- **The lines that decode.** The body of a text is what is left of it without the line ends
at its end. A text decodes just when its body has a form, and a body has one form at most. Its
parts are those that the form says, the same that the layout of lines prefers. So the result
depends on the body alone. -/
theorem decode_of_forms (d : Decoder) (now : Timestamp) (cs : List Char) :
    (∃ ends, cs = body cs ++ ends ∧ ∀ c ∈ ends, c = '\r' ∨ c = '\n') ∧
    (∀ c ∈ (body cs).getLast?, c ≠ '\r' ∧ c ≠ '\n') ∧
    (d.decode now cs ≠ none ↔ ∃ form : Form, form.text = body cs) ∧
    Function.Injective Form.text ∧
    (∀ form : Form, form.text = body cs →
      (∀ line, ofChars? cs = some line ↔ form.Reads line) ∧
      ∃ line, form.Reads line ∧ d.decode now cs = some (d.decodeParts now line)) ∧
    ofChars? cs = (layout.fit? (body cs)).map ofParts ∧
    ∀ cs', body cs' = body cs → d.decode now cs' = d.decode now cs := by
  obtain ⟨ends, hcs, hends, hlast⟩ :=
    Text.exists_eq_dropEndWhile_append (fun c => c == '\r' || c == '\n') cs
  simp only [Bool.or_eq_true, beq_iff_eq, Bool.or_eq_false_iff, beq_eq_false_iff_ne] at hends hlast
  refine ⟨⟨ends, hcs, hends⟩, hlast, ?_, Form.text_injective, ?_, ofChars?_eq_layout cs, ?_⟩
  · rw [decode, Option.ne_none_iff_exists']
    constructor
    · rintro ⟨result, hresult⟩
      obtain ⟨line, hline, -⟩ := Option.map_eq_some_iff.mp hresult
      obtain ⟨form, htext, -⟩ := ofChars?_eq_some_iff.mp hline
      exact ⟨form, htext⟩
    · rintro ⟨form, htext⟩
      obtain ⟨line, hreads⟩ := form.exists_reads
      rw [ofChars?_eq_some_iff.mpr ⟨form, htext, hreads⟩]
      exact ⟨_, rfl⟩
  · intro form htext
    refine ⟨fun line => ?_, ?_⟩
    · rw [ofChars?_eq_some_iff]
      constructor
      · rintro ⟨form', htext', hreads⟩
        rwa [Form.text_injective (htext.trans htext'.symm)]
      · exact fun hreads => ⟨form, htext, hreads⟩
    · obtain ⟨line, hreads⟩ := form.exists_reads
      refine ⟨line, hreads, ?_⟩
      rw [decode, ofChars?_eq_some_iff.mpr ⟨form, htext, hreads⟩]
      rfl
  · intro cs' hbody
    rw [decode, decode, ofChars?, ofChars?, hbody]

end Decoder

end MetricIngest
