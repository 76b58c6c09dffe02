/-
  The values of the lines that decode.

  A value is read from its text alone, and the texts that are read are the numerals
  (`value_eq_ok_iff`). A numeral may have any number of digits, so a record may be infinite:
  `decode_value_of_line` says for each line what its value is, and when it is finite.
-/
import MetricIngest.Line.Decoder
import MetricIngest.Line.Form
import MetricIngest.Proofs.Json.Numbers
import MetricIngest.Proofs.Number.Numerals

namespace MetricIngest

/-- A record has what it is made of. -/
theorem Record.of_ofName {name : String} {time : Timestamp} {value : Binary64} {fields : FieldMap}
    {record : Record} (h : ofName name time value fields = .ok record) :
    record.name = name ∧ record.timestamp = time ∧ record.value = value ∧
      record.fields = fields := by
  unfold ofName at h
  split at h
  · cases h
  · cases h
    exact ⟨rfl, rfl, rfl, rfl⟩

namespace Decoder

open Numeral

variable {cs : List Char} {x : Binary64} {e : DecodeError} {d : Decoder} {now : Timestamp}
  {line : Line}

/-! ### Reading a value -/

theorem isValueChar_of_mem_unsigned (w : Written) : ∀ c ∈ w.unsigned, isValueChar c = true := by
  have hdigits : ∀ c ∈ w.figures, isValueChar c = true := fun c hc => by
    rw [isValueChar, Text.numeral_isDigit_iff.mpr (w.isDigit_of_mem c hc), Bool.true_or]
  have hpoint : isValueChar '.' = true := by decide
  obtain ⟨negative, whole, part, hmem, hne⟩ := w
  cases part with
  | none => simpa [Written.unsigned, Written.figures] using hdigits
  | some part =>
    simp only [Written.figures, Option.getD_some, List.forall_mem_append] at hdigits
    simp only [Written.unsigned, List.forall_mem_append, List.forall_mem_cons]
    exact ⟨hdigits.1, hpoint, hdigits.2⟩

theorem takeMinus_text (w : Written) : takeMinus w.text = (w.negative, w.unsigned) := by
  have hminus : isValueChar '-' = false := by decide
  have hchars := isValueChar_of_mem_unsigned w
  unfold Written.text
  cases w.negative with
  | true => rfl
  | false =>
    -- The text begins with a digit or a point, so that no minus is taken off it.
    rw [if_neg (by decide)]
    unfold takeMinus
    split
    · rename_i rest heq
      rw [heq, List.forall_mem_cons, hminus] at hchars
      exact absurd hchars.1 (by decide)
    · rfl

/-- **Every numeral is a value.** -/
theorem value_text (w : Written) : value w.text = .ok w.toBinary64 := by
  have hne : w.unsigned ≠ [] := by
    intro hnil
    have := w.plain?_unsigned
    rw [hnil] at this
    cases this
  have hall : w.unsigned.all isValueChar = true := by
    rw [List.all_eq_true]
    exact isValueChar_of_mem_unsigned w
  simp only [value, takeMinus_text]
  rw [if_neg (by simp [hne, hall]), w.plain?_unsigned]
  rfl

/-- **Only numerals are values.** -/
theorem value_eq_ok_iff : value cs = .ok x ↔ ∃ w : Written, w.text = cs ∧ w.toBinary64 = x := by
  constructor
  · intro h
    have hcs : cs = if (takeMinus cs).1 then '-' :: (takeMinus cs).2 else (takeMinus cs).2 := by
      unfold takeMinus
      split <;> rfl
    simp only [value] at h
    split at h
    · cases h
    · split at h
      · cases h
      · rename_i decimal hread
        cases h
        obtain ⟨w, hsign, hunsigned, hdecimal⟩ := Written.exists_of_plain? (takeMinus cs).1 hread
        refine ⟨w, ?_, ?_⟩
        · rw [hcs, Written.text, hsign, hunsigned]
        · rw [Written.toBinary64, hsign, hdecimal]
  · rintro ⟨w, rfl, rfl⟩
    exact value_text w

/-- What is no numeral is an invalid value, under its own text. -/
theorem exists_malformed_of_value (h : value cs = .error e) :
    ∃ malformed, e = .invalidValue (String.ofList cs) malformed := by
  simp only [value] at h
  split at h
  · cases h
    exact ⟨_, rfl⟩
  · split at h
    · cases h
      exact ⟨_, rfl⟩
    · cases h

/-! ### Decoding a line -/

theorem decodeParts_of_error (h : value line.valueText = .error e) :
    d.decodeParts now line = .error e := by
  cases line <;> simp only [Line.valueText] at h <;> simp only [decodeParts, h]

/-- A line with a value gives a record of this value, unless its name does not resolve. -/
theorem decodeParts_of_ok (h : value line.valueText = .ok x) :
    (∃ record, d.decodeParts now line = .ok record ∧ record.value = x) ∨
      ∃ fragment, d.decodeParts now line = .error (.nameResolutionFailed fragment) := by
  cases line with
  | dotted path valueText time =>
    simp only [Line.valueText] at h
    cases hparts : d.rules.decompose (String.ofList path) with
    | error fault =>
      have hfault : fault = .nameResolutionFailed (String.ofList path) := by
        simp only [RuleTable.decompose] at hparts
        split at hparts
        · cases hparts
          rfl
        · cases hparts
      exact Or.inr ⟨String.ofList path, by simp only [decodeParts, h, hparts, hfault]⟩
    | ok parts =>
      cases hname : Record.ofName parts.name (d.mode.timestamp time now) x parts.fields with
      | error fault =>
        exact Or.inr ⟨⟨String.ofList path, some fault⟩,
          by simp only [decodeParts, h, hparts, hname]⟩
      | ok record =>
        obtain ⟨-, -, hrecord, -⟩ := Record.of_ofName hname
        exact Or.inl ⟨record, by simp only [decodeParts, h, hparts, hname], hrecord⟩
  | tagged name fields valueText =>
    simp only [Line.valueText] at h
    cases hname : Record.ofName (String.ofList name) now x (tagFields fields) with
    | error fault =>
      exact Or.inr ⟨⟨String.ofList name, some fault⟩, by simp only [decodeParts, h, hname]⟩
    | ok record =>
      obtain ⟨-, -, hrecord, -⟩ := Record.of_ofName hname
      exact Or.inl ⟨record, by simp only [decodeParts, h, hname], hrecord⟩

/-- **Which values are finite.** Take a line with one of the forms. If the text of its value is
no numeral, the line has an invalid value. If it is one, however long, the line gives a record
whose value is that numeral rounded, unless its name does not resolve. The value is never NaN.
It is finite just if the magnitude of the numeral is below `Binary64.overflow`, else it is the
infinity of its sign, and then its text in JSON is `null`. -/
theorem decode_value_of_line (hline : Line.ofChars? cs = some line) :
    ((∀ w : Written, w.text ≠ line.valueText) → ∃ malformed, d.decode now cs =
      some (.error (.invalidValue (String.ofList line.valueText) malformed))) ∧
    ∀ w : Written, w.text = line.valueText →
      ((∃ record, d.decode now cs = some (.ok record)) ∨
        ∃ fragment, d.decode now cs = some (.error (.nameResolutionFailed fragment))) ∧
      ∀ record, d.decode now cs = some (.ok record) →
        record.value = w.toBinary64 ∧ record.value.isNaN = false ∧
        (record.value.isFinite = true ↔ ¬ w.AtLeast Binary64.overflow) ∧
        (w.AtLeast Binary64.overflow → record.value = .infinity w.negative) ∧
        (Json.numberText record.value = ['n', 'u', 'l', 'l'] ↔ w.AtLeast Binary64.overflow) := by
  rw [decode, hline, Option.map_some]
  constructor
  · intro hnone
    cases hvalue : value line.valueText with
    | ok x =>
      obtain ⟨w, hw, -⟩ := value_eq_ok_iff.mp hvalue
      exact absurd hw (hnone w)
    | error e =>
      obtain ⟨malformed, rfl⟩ := exists_malformed_of_value hvalue
      exact ⟨malformed, congrArg some (decodeParts_of_error hvalue)⟩
  · intro w hw
    have hvalue : value line.valueText = .ok w.toBinary64 := hw ▸ value_text w
    refine ⟨?_, ?_⟩
    · rcases decodeParts_of_ok hvalue with ⟨record, hrecord, -⟩ | ⟨fragment, hfault⟩
      · exact Or.inl ⟨record, congrArg some hrecord⟩
      · exact Or.inr ⟨fragment, congrArg some hfault⟩
    · intro record hrecord
      rw [Option.some.injEq] at hrecord
      have hx : record.value = w.toBinary64 := by
        rcases decodeParts_of_ok hvalue with ⟨record', hrecord', hx⟩ | ⟨fragment, hfault⟩
        · rw [hrecord'] at hrecord
          rw [← Except.ok.inj hrecord, hx]
        · rw [hfault] at hrecord
          cases hrecord
      have hfinite := w.isFinite_toBinary64_iff
      rw [hx, Json.numberText_eq_null_iff, ← Bool.not_eq_true (Binary64.isFinite _), hfinite,
        not_not]
      exact ⟨rfl, w.isNaN_toBinary64, Iff.rfl, fun h => w.toBinary64_eq_infinity h, Iff.rfl⟩

/-- The numeral `-0.5`. -/
def minusHalf : Written where
  negative := true
  whole := ['0']
  part := some ['5']
  isDigit_of_mem := by simp [Text.IsDigit]
  ne_nil := by simp

/-- A tagged line with this numeral after the mark of a value. -/
def minusHalfLine : List Char :=
  ['v', ',', 't', '=', '1', ' '] ++ (Line.valueMark ++ minusHalf.text)

theorem decode_value_of_minusHalfLine : ∃ record,
    ({ rules := .empty, mode := .compat } : Decoder).decode .epoch minusHalfLine =
        some (.ok record) ∧
      Line.ofChars? minusHalfLine = some (.tagged ['v'] ['t', '=', '1'] minusHalf.text) ∧
      record.value = minusHalf.toBinary64 ∧ record.value.isFinite = true ∧
      Json.numberText record.value ≠ ['n', 'u', 'l', 'l'] := by
  have hline : Line.ofChars? minusHalfLine =
      some (.tagged ['v'] ['t', '=', '1'] minusHalf.text) := by decide +kernel
  have hbelow : ¬ minusHalf.AtLeast Binary64.overflow := by decide +kernel
  obtain ⟨record, hrecord⟩ : ∃ record,
      ({ rules := .empty, mode := .compat } : Decoder).decode .epoch minusHalfLine =
        some (.ok record) :=
    ⟨⟨"v", .epoch, minusHalf.toBinary64, .ofList [("t", "1")], by decide⟩, by decide +kernel⟩
  obtain ⟨-, hvalue⟩ := (decode_value_of_line hline).2 minusHalf rfl
  obtain ⟨hx, -, hfinite, -, hnull⟩ := hvalue record hrecord
  exact ⟨record, hrecord, hline, hx, hfinite.mpr hbelow, fun h => hbelow (hnull.mp h)⟩

/-- A line with a numeral of 309 nines. -/
def ninesLine : List Char := 'v' :: ' ' :: List.replicate 309 '9'

theorem decode_ninesLine : ∃ record,
    ({ rules := .empty, mode := .compat } : Decoder).decode .epoch ninesLine =
        some (.ok record) ∧
      record.value = .infinity false ∧ Json.numberText record.value = ['n', 'u', 'l', 'l'] :=
  ⟨⟨"v", .epoch, .infinity false, .empty, by decide⟩, by decide +kernel, rfl, rfl⟩

end Decoder

end MetricIngest
