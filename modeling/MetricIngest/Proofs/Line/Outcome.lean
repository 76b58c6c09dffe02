/-
  What becomes of a line.

  The value of a line is looked at first, then its path or its name, so a line whose value is no
  numeral has an invalid value whatever its name is. The outcome of every line with a form is
  fixed by `decode_outcome`; the names under which records are made are never empty, so no
  record fails to be made.
-/
import MetricIngest.Proofs.Line.Forms
import MetricIngest.Proofs.Line.Values
import MetricIngest.Proofs.Rules.Decomposition

namespace MetricIngest

/-- A record can be made under each name that is not empty. -/
theorem Record.ofName_of_ne {name : String} (h : name ≠ "") (time : Timestamp) (value : Binary64)
    (fields : FieldMap) : ofName name time value fields = .ok ⟨name, time, value, fields, h⟩ :=
  dif_neg h

namespace RuleTable

variable {t : RuleTable} {path : String} {parts : Decomposition} {e : DecodeError}

/-- A path gives a name, and not an empty one, or it fails without a cause. -/
theorem decompose_cases (t : RuleTable) (path : String) :
    (∃ parts, t.decompose path = .ok parts ∧ parts.name ≠ "") ∨
      t.decompose path = .error (.nameResolutionFailed path) := by
  simp only [decompose]
  split
  · exact Or.inr rfl
  · exact Or.inl ⟨_, rfl, ‹_›⟩

end RuleTable

namespace Decoder

open Line Numeral

variable {cs : List Char} {d : Decoder} {now : Timestamp} {line : Line} {malformed : Bool}

/-! ### Values that are no numerals -/

/-- A text of digits and points. -/
structure Numeric (cs : List Char) : Prop where
  ne_nil : cs ≠ []
  chars : ∀ c ∈ cs, Text.IsDigit c ∨ c = '.'

theorem numeric_iff : Numeric cs ↔ cs ≠ [] ∧ cs.all isValueChar = true := by
  simp only [List.all_eq_true, isValueChar, Bool.or_eq_true, Text.numeral_isDigit_iff, beq_iff_eq]
  exact ⟨fun h => ⟨h.ne_nil, h.chars⟩, fun h => ⟨h.1, h.2⟩⟩

/-- A text of digits and points may follow a minus. -/
theorem numeric_takeMinus_iff :
    Numeric (takeMinus cs).2 ↔ ∃ rest, Numeric rest ∧ (cs = rest ∨ cs = '-' :: rest) := by
  constructor
  · intro h
    refine ⟨_, h, ?_⟩
    unfold takeMinus
    split
    · exact Or.inr rfl
    · exact Or.inl rfl
  · rintro ⟨rest, h, rfl | rfl⟩
    · -- The text does not begin with a minus, which is neither a digit nor a point.
      unfold takeMinus
      split
      · have hminus := h.chars '-' List.mem_cons_self
        simp [Text.IsDigit] at hminus
      · exact h
    · exact h

/-- **What is no numeral** has a cause just when it is made of digits and points. -/
theorem value_of_not_numeral (h : ∀ w : Written, w.text ≠ cs) :
    ∃ malformed, value cs = .error (.invalidValue (String.ofList cs) malformed) ∧
      (malformed = true ↔ ∃ rest, Numeric rest ∧ (cs = rest ∨ cs = '-' :: rest)) := by
  rw [← numeric_takeMinus_iff, numeric_iff]
  cases hvalue : value cs with
  | ok x =>
    obtain ⟨w, hw, -⟩ := value_eq_ok_iff.mp hvalue
    exact absurd hw (h w)
  | error e =>
    simp only [value] at hvalue
    split at hvalue
    · rename_i hchars
      cases hvalue
      refine ⟨false, rfl, ?_⟩
      simp only [Bool.false_eq_true, false_iff, not_and]
      exact fun hne => hchars.resolve_left hne
    · rename_i hchars
      rw [not_or, not_not] at hchars
      split at hvalue
      · cases hvalue
        exact ⟨true, rfl, iff_of_true rfl hchars⟩
      · cases hvalue

/-! ### Lines with a numeral -/

/-- **A dotted line with a numeral** gives a record of what its path decomposes into, or fails
like its path. -/
theorem decodeParts_dotted (d : Decoder) (now : Timestamp) (path time : List Char) (w : Written) :
    (∃ parts, ∃ h : parts.name ≠ "", d.rules.decompose (String.ofList path) = .ok parts ∧
      d.decodeParts now (.dotted path w.text time) =
        .ok ⟨parts.name, d.mode.timestamp time now, w.toBinary64, parts.fields, h⟩) ∨
    d.rules.decompose (String.ofList path) = .error (.nameResolutionFailed (String.ofList path)) ∧
      d.decodeParts now (.dotted path w.text time) =
        .error (.nameResolutionFailed (String.ofList path)) := by
  obtain ⟨parts, hparts, hname⟩ | hfails := d.rules.decompose_cases (String.ofList path)
  · refine Or.inl ⟨parts, hname, hparts, ?_⟩
    simp only [decodeParts, value_text, hparts, Record.ofName_of_ne hname]
  · refine Or.inr ⟨hfails, ?_⟩
    simp only [decodeParts, value_text, hfails]

/-- **A tagged line with a numeral** gives a record under its name. -/
theorem decodeParts_tagged {name fields : List Char} (hname : name ≠ []) (w : Written) :
    ∃ h : String.ofList name ≠ "", d.decodeParts now (.tagged name fields w.text) =
      .ok ⟨String.ofList name, now, w.toBinary64, tagFields fields, h⟩ := by
  have hne : String.ofList name ≠ "" := by simpa using hname
  refine ⟨hne, ?_⟩
  simp only [decodeParts, value_text, Record.ofName_of_ne hne]

/-- **A record of a dotted line** has the name and the fields that its path decomposes into, and the
time that the line says. -/
theorem record_of_dotted {path valueText time : List Char} {record : Record}
    (h : d.decodeParts now (.dotted path valueText time) = .ok record) :
    d.rules.decompose (String.ofList path) = .ok ⟨record.name, record.fields⟩ ∧
      record.timestamp = d.mode.timestamp time now := by
  cases hvalue : value valueText with
  | error e =>
    have herror : d.decodeParts now (.dotted path valueText time) = .error e :=
      decodeParts_of_error hvalue
    rw [herror] at h
    cases h
  | ok x =>
    obtain ⟨w, rfl, -⟩ := value_eq_ok_iff.mp hvalue
    obtain ⟨parts, hname, hparts, hrecord⟩ | ⟨-, hfails⟩ := decodeParts_dotted d now path time w
    · rw [hrecord] at h
      cases h
      exact ⟨hparts, rfl⟩
    · rw [hfails] at h
      cases h

/-- **A record of a tagged line** has the current time. -/
theorem record_of_tagged {name fields valueText : List Char} {record : Record}
    (h : d.decodeParts now (.tagged name fields valueText) = .ok record) :
    record.name = String.ofList name ∧ record.fields = tagFields fields ∧
      record.timestamp = now := by
  simp only [decodeParts] at h
  split at h
  · cases h
  · split at h
    · cases h
    · rename_i hrecord
      cases h
      obtain ⟨hname, htime, -, hfields⟩ := Record.of_ofName hrecord
      exact ⟨hname, hfields, htime⟩

/-- The name of a tagged line is the text before its first comma. -/
theorem name_of_reads {form : Form} {name fields value : List Char}
    (h : form.Reads (.tagged name fields value)) :
    name ≠ [] ∧ ',' ∉ name ∧ ∃ rest, form.text = name ++ ',' :: rest := by
  cases form with
  | dotted | timed => cases h
  | tagged name' fields' written hname =>
    obtain ⟨value', -, heq⟩ := h
    cases heq
    exact ⟨hname.ne_nil, hname.not_mem (by decide), _, rfl⟩

/-- **A name that does not resolve has no cause**: no record is refused, for none is made without a
name. -/
theorem cause_of_decodeParts {form : Form} {fault : NameFault} (hreads : form.Reads line)
    (h : d.decodeParts now line = .error (.nameResolutionFailed fault)) :
    (DecodeError.nameResolutionFailed fault).cause = none := by
  cases hvalue : value line.valueText with
  | error e =>
    obtain ⟨malformed, rfl⟩ := exists_malformed_of_value hvalue
    rw [decodeParts_of_error hvalue] at h
    cases h
  | ok x =>
    obtain ⟨w, hw, -⟩ := value_eq_ok_iff.mp hvalue
    cases line with
    | dotted path value time =>
      obtain rfl : w.text = value := hw
      obtain ⟨parts, hname, -, hrecord⟩ | ⟨-, hfails⟩ := decodeParts_dotted d now path time w
      · rw [hrecord] at h
        cases h
      · rw [hfails] at h
        cases h
        rfl
    | tagged name fields value =>
      obtain rfl : w.text = value := hw
      obtain ⟨_, hrecord⟩ := decodeParts_tagged (name_of_reads hreads).1 w
      rw [hrecord] at h
      cases h

/-- **The outcome of a line** with a form, under any rules, in either mode and at any time. If the
text of its value is no numeral, the value is invalid, whatever the name is; it has a cause just
when the text is made of digits and points, but for a minus before them. Else a dotted line
gives a record of what its path decomposes into, and fails with its path just when that fails; and a
tagged line gives a record under the text before its first comma. All records have a name, and a
name that does not resolve has no cause. -/
theorem decode_outcome {form : Form} (htext : form.text = body cs) (hreads : form.Reads line) :
    ((∀ w : Written, w.text ≠ line.valueText) →
      ∃ malformed, let e := DecodeError.invalidValue (String.ofList line.valueText) malformed
        d.decode now cs = some (.error e) ∧
        (e.cause ≠ none ↔ ∃ rest, Numeric rest ∧
          (line.valueText = rest ∨ line.valueText = '-' :: rest))) ∧
    (∀ w : Written, w.text = line.valueText →
      (∀ path value time, line = .dotted path value time →
        (∀ parts, d.rules.decompose (String.ofList path) = .ok parts →
          ∃ h, d.decode now cs = some (.ok
            ⟨parts.name, d.mode.timestamp time now, w.toBinary64, parts.fields, h⟩)) ∧
        ((∃ e, d.rules.decompose (String.ofList path) = .error e) ↔
          d.decode now cs = some (.error (.nameResolutionFailed (String.ofList path))))) ∧
      (∀ name fields value, line = .tagged name fields value →
        (',' ∉ name ∧ ∃ rest, body cs = name ++ ',' :: rest) ∧
        ∃ h, d.decode now cs =
          some (.ok ⟨String.ofList name, now, w.toBinary64, tagFields fields, h⟩))) ∧
    (∀ record, d.decode now cs = some (.ok record) → record.name ≠ "") ∧
    ∀ fault, d.decode now cs = some (.error (.nameResolutionFailed fault)) →
      (DecodeError.nameResolutionFailed fault).cause = none := by
  have hdecode : d.decode now cs = some (d.decodeParts now line) := by
    rw [decode, ofChars?_eq_some_iff.mpr ⟨form, htext, hreads⟩, Option.map_some]
  simp only [hdecode, Option.some.injEq]
  refine ⟨fun hnone => ?_, fun w hw => ⟨?_, ?_⟩, fun record _ => record.name_ne_empty, ?_⟩
  · obtain ⟨malformed, hvalue, hcause⟩ := value_of_not_numeral hnone
    refine ⟨malformed, decodeParts_of_error hvalue, Iff.trans ?_ hcause⟩
    cases malformed <;> simp [DecodeError.cause]
  · rintro path value time rfl
    obtain rfl : w.text = value := hw
    obtain ⟨parts, hname, hparts, hrecord⟩ | ⟨hfails, hfault⟩ := decodeParts_dotted d now path time w
    · rw [hrecord, hparts]
      simp [hname]
    · rw [hfault, hfails]
      simp
  · rintro name fields value rfl
    obtain rfl : w.text = value := hw
    obtain ⟨hname, hcomma, rest, hrest⟩ := name_of_reads hreads
    exact ⟨⟨hcomma, rest, htext ▸ hrest⟩, decodeParts_tagged hname w⟩
  · exact fun fault hfault => cause_of_decodeParts hreads hfault

/-- A dotted line with a value of two points. -/
def twoPointsLine : Form :=
  .dotted ['a'] ['1', '.', '2', '.'] ⟨by simp, by simp [Text.IsLetter]⟩
    ⟨by simp, isSolid_iff.mp (by decide)⟩

/-- The numeral `-.5`. -/
def pointFive : Written where
  negative := true
  whole := []
  part := some ['5']
  isDigit_of_mem := by simp [Text.IsDigit]
  ne_nil := by simp

/-- A dotted line with this numeral. -/
def pointFiveLine : Form :=
  .dotted ['a'] pointFive.text ⟨by simp, by simp [Text.IsLetter]⟩
    ⟨by simp [pointFive, Written.text], isSolid_iff.mp (by decide)⟩

theorem decode_outcome_nameless :
    let d : Decoder := ⟨⟨[RuleTable.ruleOfA]⟩, .compat⟩
    (∃ e, d.decode .epoch ['a', ' ', '1', '.', '2', '.', '\n'] = some (.error e) ∧
      e.fragment = "1.2." ∧ e.cause ≠ none) ∧
    d.decode .epoch ['a', ' ', '-', '.', '5'] = some (.error (.nameResolutionFailed "a")) := by
  intro d
  have hnone : ∀ w : Written, w.text ≠ ['1', '.', '2', '.'] := by
    intro w hw
    have hvalue := value_text w
    rw [hw] at hvalue
    cases hvalue
  have hfails : ∃ e, d.rules.decompose (String.ofList ['a']) = .error e := ⟨_, rfl⟩
  have htwoPoints : twoPointsLine.Reads (.dotted ['a'] ['1', '.', '2', '.'] []) := rfl
  have hpointFive : pointFiveLine.Reads (.dotted ['a'] pointFive.text []) := rfl
  have htwoPointsText : twoPointsLine.text = body ['a', ' ', '1', '.', '2', '.', '\n'] := by decide
  have hpointFiveText : pointFiveLine.text = body ['a', ' ', '-', '.', '5'] := by decide
  constructor
  · obtain ⟨hinvalid, -⟩ := decode_outcome htwoPointsText htwoPoints
    obtain ⟨malformed, hdecode, hcause⟩ := hinvalid hnone
    have hnumeric : Numeric ['1', '.', '2', '.'] := ⟨by simp, by simp [Text.IsDigit]⟩
    exact ⟨_, hdecode, rfl, hcause.mpr ⟨_, hnumeric, Or.inl rfl⟩⟩
  · obtain ⟨-, hnumeral, -⟩ := decode_outcome hpointFiveText hpointFive
    obtain ⟨hdotted, -⟩ := hnumeral pointFive rfl
    exact (hdotted _ _ _ rfl).2.mp hfails

end Decoder

end MetricIngest
