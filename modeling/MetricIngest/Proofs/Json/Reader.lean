/-
  A value is read back from its text.

  `read?_compactChars` says that a reader of the text of any value gets the value, but for
  numbers that are not finite, which the text shows as `null`. It goes by induction on the
  value, with any text behind that does not go on with a number. The text is on one line:
  it holds no control character (`isPrintable_of_mem_compactChars`).
-/
import MetricIngest.Proofs.Json.NumberText
import MetricIngest.Proofs.Json.Numbers
import MetricIngest.Proofs.Text.Cuts

namespace MetricIngest.Json

variable {c : Char} {cs rest : List Char} {bound : Nat}

/-- A character that is no control below the space. -/
def IsPrintable (c : Char) : Prop := 0x20 ≤ c.toNat

instance (c : Char) : Decidable (IsPrintable c) := inferInstanceAs (Decidable (_ ≤ _))

/-! ### Strings -/

theorem hexCode?_hexDigit {n : Nat} (h : n < 0x20) :
    hexCode? '0' '0' (hexDigit (n / 16)) (hexDigit (n % 16)) = some n := by
  revert n
  decide

/-- A code point in front of those that are read. -/
def addCode (code : Nat) (read : Option (List Nat × List Char)) : Option (List Nat × List Char) :=
  read.map fun (codes, rest) => (code :: codes, rest)

theorem readCodes?_self (hquote : c ≠ '"') (hslash : c ≠ '\\') (h : ¬c.toNat < 0x20)
    (cs : List Char) : readCodes? (c :: cs) = addCode c.toNat (readCodes? cs) := by
  rw [readCodes?.eq_def]
  simp [hquote, hslash, h, addCode]

theorem readCodes?_letter {code : Nat} (hne : c ≠ 'u') (h : escapeCode? c = some code)
    (cs : List Char) : readCodes? ('\\' :: c :: cs) = addCode code (readCodes? cs) := by
  rw [readCodes?.eq_def]
  simp [hne, h, addCode]

theorem readCodes?_hex {code : Nat} {a b c d : Char} (h : hexCode? a b c d = some code)
    (cs : List Char) :
    readCodes? ('\\' :: 'u' :: a :: b :: c :: d :: cs) = addCode code (readCodes? cs) := by
  rw [readCodes?.eq_def]
  simp [h, addCode]

/-- A character is written as a letter after a backslash, as a code in base sixteen, or as
itself. -/
theorem escapeChar_cases (c : Char) :
    (∃ e, escapeChar c = ['\\', e] ∧ IsPrintable e ∧ e ≠ 'u' ∧ escapeCode? e = some c.toNat) ∨
    (escapeChar c = ['\\', 'u', '0', '0', hexDigit (c.toNat / 16), hexDigit (c.toNat % 16)] ∧
      c.toNat < 0x20) ∨
    (escapeChar c = [c] ∧ c ≠ '"' ∧ c ≠ '\\' ∧ ¬c.toNat < 0x20) := by
  unfold escapeChar
  split_ifs with hquote hslash hback hfeed hline hreturn htab hlow
  · exact Or.inl ⟨_, rfl, by decide, by decide, by rw [hquote]; rfl⟩
  · exact Or.inl ⟨_, rfl, by decide, by decide, by rw [hslash]; rfl⟩
  · exact Or.inl ⟨_, rfl, by decide, by decide, by rw [hback]; rfl⟩
  · exact Or.inl ⟨_, rfl, by decide, by decide, by rw [hfeed]; rfl⟩
  · exact Or.inl ⟨_, rfl, by decide, by decide, by rw [hline]; rfl⟩
  · exact Or.inl ⟨_, rfl, by decide, by decide, by rw [hreturn]; rfl⟩
  · exact Or.inl ⟨_, rfl, by decide, by decide, by rw [htab]; rfl⟩
  · exact Or.inr (Or.inl ⟨rfl, hlow⟩)
  · exact Or.inr (Or.inr ⟨rfl, hquote, hslash, hlow⟩)

/-- The written form of a character is read as its code point. -/
theorem readCodes?_escapeChar (c : Char) (cs : List Char) :
    readCodes? (escapeChar c ++ cs) = addCode c.toNat (readCodes? cs) := by
  rcases escapeChar_cases c with ⟨e, heq, -, hne, hcode⟩ | ⟨heq, hlow⟩ | ⟨heq, hquote, hslash, hlow⟩
  · rw [heq]
    exact readCodes?_letter hne hcode cs
  · rw [heq]
    exact readCodes?_hex (hexCode?_hexDigit hlow) cs
  · rw [heq]
    exact readCodes?_self hquote hslash hlow cs

theorem readCodes?_flatMap (cs rest : List Char) :
    readCodes? (cs.flatMap escapeChar ++ '"' :: rest) = some (cs.map Char.toNat, rest) := by
  induction cs with
  | nil => exact readCodes?_quote rest
  | cons c cs ih =>
    rw [List.flatMap_cons, List.append_assoc, readCodes?_escapeChar, ih]
    rfl

/-- The code points of characters are those of no surrogates. -/
theorem ofCodes?_map (cs : List Char) : ofCodes? (cs.map Char.toNat) = some cs := by
  induction cs with
  | nil => rfl
  | cons c cs ih =>
    have hvalid : c.toNat < 0xD800 ∨ 0xDFFF < c.toNat ∧ c.toNat < 0x110000 := c.valid
    have hhigh : ¬IsHighSurrogate c.toNat := by
      unfold IsHighSurrogate
      omega
    have hlow : ¬IsLowSurrogate c.toNat := by
      unfold IsLowSurrogate
      omega
    rw [List.map_cons, ofCodes?.eq_def]
    dsimp only
    rw [if_neg hhigh, if_neg hlow, ih, Option.map_some, Char.ofNat_toNat]

/-- **A string is read back from its text.** -/
theorem readString?_flatMap (s : String) (rest : List Char) :
    readString? (s.toList.flatMap escapeChar ++ '"' :: rest) = some (s, rest) := by
  simp [readString?, readCodes?_flatMap, ofCodes?_map]

theorem stringText_append (s : String) (rest : List Char) :
    stringText s ++ rest = '"' :: (s.toList.flatMap escapeChar ++ '"' :: rest) := by
  simp [stringText]

/-! ### Marks -/

theorem skipBlanks_cons (h : isBlank c = false) : skipBlanks (c :: cs) = c :: cs :=
  List.dropWhile_cons_of_neg (by simp [h])

theorem readMark?_cons (h : isBlank c = false) : readMark? c (c :: cs) = some cs := by
  rw [readMark?, skipBlanks_cons h, Text.dropLead?_eq_some_iff]
  rfl

theorem readMark?_of_ne {mark : Char} (h : isBlank c = false) (hne : c ≠ mark) :
    readMark? mark (c :: cs) = none := by
  rw [readMark?, skipBlanks_cons h, Text.dropLead?, if_neg (Ne.symm hne)]

theorem readKey?_stringText (s : String) (rest : List Char) :
    readKey? (stringText s ++ ':' :: rest) = some (s, rest) := by
  have hcolon : readMark? ':' (':' :: rest) = some rest := readMark?_cons (by decide)
  rw [stringText_append, readKey?, readMark?_cons (by decide)]
  simp [readString?_flatMap, hcolon]

/-! ### Numbers and literals -/

theorem readPlain?_of_number (h : ∀ c ∈ cs.head?, Numeral.isDigit c = true ∨ c = '-') :
    readPlain? cs = readNumber? cs := by
  have hnone {mark : Char} {more : List Char} (hmark : Numeral.isDigit mark = false ∧ mark ≠ '-') :
      Text.dropLead? (mark :: more) cs = none := by
    cases cs with
    | nil => rfl
    | cons c cs =>
      have hne : mark ≠ c := by
        rintro rfl
        have := h mark rfl
        simp [hmark] at this
      rw [Text.dropLead?, if_neg hne]
  rw [readPlain?, hnone (by decide), hnone (by decide), hnone (by decide)]

/-- The first character of a number. -/
theorem WrittenNumber.exists_cons (w : WrittenNumber) : ∃ c cs, w.text = c :: cs ∧
    (Numeral.isDigit c = true ∨ c = '-') := by
  obtain ⟨hne, hall⟩ := w.isDigits_whole
  obtain ⟨c, cs, hwhole⟩ := List.exists_cons_of_ne_nil hne
  rw [text]
  cases w.negative with
  | true => exact ⟨'-', _, rfl, Or.inr rfl⟩
  | false =>
    refine ⟨c, cs ++ (fractionText w.fraction ++ exponentText w.exponent), ?_,
      Or.inl (hall c (by simp [hwhole]))⟩
    simp [hwhole]

/-- What begins a number begins nothing else. -/
theorem ne_of_begins_number (h : Numeral.isDigit c = true ∨ c = '-') : isBlank c = false ∧
    c ≠ '"' ∧ c ≠ '[' ∧ c ≠ ']' ∧ c ≠ '\x7b' := by
  have hne {d : Char} (hd : Numeral.isDigit d = false ∧ d ≠ '-') : c ≠ d := by
    rintro rfl
    simp [hd] at h
  refine ⟨?_, hne (by decide), hne (by decide), hne (by decide), hne (by decide)⟩
  simp [isBlank, hne (d := ' ') (by decide), hne (d := '\t') (by decide),
    hne (d := '\n') (by decide), hne (d := '\r') (by decide)]

theorem readValue?_written (w : WrittenNumber) (hrest : Ends rest) :
    readValue? (bound + 1) (w.text ++ rest) = some (w.value, rest) := by
  obtain ⟨c, cs, htext, hc⟩ := w.exists_cons
  obtain ⟨hblank, hquote, harray, -, hobject⟩ := ne_of_begins_number hc
  have hplain := readNumber?_text w hrest
  rw [htext, List.cons_append] at hplain ⊢
  rw [readValue?, skipBlanks_cons hblank]
  dsimp only
  rw [if_neg hquote, if_neg harray, if_neg hobject, readPlain?_of_number (by simpa using hc),
    hplain]

/-- A number is read back, or `null` in its place. -/
theorem readValue?_numberText (x : Binary64) (hrest : Ends rest) :
    readValue? (bound + 1) (numberText x ++ rest) = some (Value.shown (.number x), rest) := by
  rw [Value.shown]
  by_cases h : x.isFinite = true
  · obtain ⟨w, htext, hvalue⟩ := exists_written_number h
    rw [if_pos h, ← htext, readValue?_written w hrest, hvalue]
  · rw [if_neg h, numberText_eq_null_iff.mpr (Bool.eq_false_iff.mpr h)]
    rfl

/-! ### Values -/

/-- The text of a value begins with a character of its own. -/
theorem exists_cons_compactChars (v : Value) : ∃ c cs, v.compactChars = c :: cs ∧
    isBlank c = false ∧ c ≠ ']' := by
  have hnumber (w : WrittenNumber) : ∃ c cs, w.text = c :: cs ∧ isBlank c = false ∧ c ≠ ']' := by
    obtain ⟨c, cs, htext, hc⟩ := w.exists_cons
    obtain ⟨hblank, -, -, harray, -⟩ := ne_of_begins_number hc
    exact ⟨c, cs, htext, hblank, harray⟩
  cases v with
  | null => exact ⟨_, _, rfl, by decide, by decide⟩
  | bool b => cases b <;> exact ⟨_, _, rfl, by decide, by decide⟩
  | int n =>
    obtain ⟨w, htext, -⟩ := exists_written_int n
    rw [Value.compactChars, ← htext]
    exact hnumber w
  | number x =>
    rw [Value.compactChars]
    by_cases h : x.isFinite = true
    · obtain ⟨w, htext, -⟩ := exists_written_number h
      rw [← htext]
      exact hnumber w
    · rw [numberText_eq_null_iff.mpr (Bool.eq_false_iff.mpr h)]
      exact ⟨_, _, rfl, by decide, by decide⟩
  | string s => exact ⟨_, _, rfl, by decide, by decide⟩
  | array vs => cases vs <;> exact ⟨_, _, rfl, by decide, by decide⟩
  | object ms => cases ms <;> exact ⟨_, _, rfl, by decide, by decide⟩

theorem ends_compactItems (vs : List Value) (rest : List Char) :
    Ends (compactItems vs ++ rest) := by
  cases vs <;> simp [Ends, compactItems, Numeral.isDigit]

theorem ends_compactMembers (ms : List (String × Value)) (rest : List Char) :
    Ends (compactMembers ms ++ rest) := by
  cases ms <;> simp [Ends, compactMembers, Numeral.isDigit]

mutual

/-- **A value is read back from the front of a text** that does not go on with a number. -/
theorem readValue?_compactChars (v : Value) (bound : Nat) (rest : List Char)
    (hbound : v.compactChars.length ≤ bound) (hrest : Ends rest) :
    readValue? bound (v.compactChars ++ rest) = some (v.shown, rest) := by
  -- No text of a value is empty, so the bound allows a step, and one step less for its parts.
  obtain ⟨first, chars, htext, -⟩ := exists_cons_compactChars v
  obtain ⟨bound, rfl⟩ : ∃ b, bound = b + 1 := Nat.exists_eq_succ_of_ne_zero (by
    rw [htext, List.length_cons] at hbound
    omega)
  cases v with
  | null => rfl
  | bool b => cases b <;> rfl
  | int n =>
    obtain ⟨w, hw, hvalue⟩ := exists_written_int n
    rw [Value.compactChars, ← hw, readValue?_written w hrest, hvalue, Value.shown]
    all_goals simp
  | number x => exact readValue?_numberText x hrest
  | string s =>
    rw [Value.compactChars, stringText_append, readValue?, skipBlanks_cons (by decide)]
    dsimp only
    rw [if_pos rfl, readString?_flatMap]
    rfl
  | array vs =>
    cases vs with
    | nil => rfl
    | cons v vs =>
      -- The first item does not begin with the bracket that would end the array at once.
      obtain ⟨c, cs, hcons, hblank, hne⟩ := exists_cons_compactChars v
      rw [Value.compactChars, List.cons_append, List.length_cons, List.length_append] at hbound
      have hopen : readMark? ']' (v.compactChars ++ (compactItems vs ++ rest)) = none := by
        rw [hcons, List.cons_append]
        exact readMark?_of_ne hblank hne
      have hitem := readValue?_compactChars v bound (compactItems vs ++ rest) (by omega)
        (ends_compactItems vs rest)
      have hitems := readItems?_compactItems vs bound rest (by omega)
      rw [Value.compactChars, List.append_assoc, List.cons_append, readValue?,
        skipBlanks_cons (by decide)]
      dsimp only
      rw [if_neg (by decide), if_pos rfl, hopen, hitem]
      dsimp only [Option.bind_eq_bind, Option.bind_some]
      rw [hitems, Value.shown, shownItems]
      rfl
  | object ms =>
    cases ms with
    | nil => rfl
    | cons m ms =>
      obtain ⟨k, v⟩ := m
      rw [Value.compactChars, List.length_append, List.length_append, List.length_cons,
        List.length_cons] at hbound
      have hopen : readMark? '\x7d' (stringText k ++ ':' :: (v.compactChars ++
          (compactMembers ms ++ rest))) = none := by
        rw [stringText_append]
        exact readMark?_of_ne (by decide) (by decide)
      have hvalue := readValue?_compactChars v bound (compactMembers ms ++ rest) (by omega)
        (ends_compactMembers ms rest)
      have hmembers := readMembers?_compactMembers ms bound rest (by omega)
      rw [Value.compactChars, List.append_assoc, List.append_assoc, List.cons_append,
        List.cons_append, readValue?, skipBlanks_cons (by decide)]
      dsimp only
      rw [if_neg (by decide), if_neg (by decide), if_pos rfl, hopen, readKey?_stringText]
      dsimp only [Option.bind_eq_bind, Option.bind_some]
      rw [hvalue]
      dsimp only [Option.bind_eq_bind, Option.bind_some]
      rw [hmembers, Value.shown, shownMembers]
      rfl

/-- The rest of an array is read back. -/
theorem readItems?_compactItems (vs : List Value) (bound : Nat) (rest : List Char)
    (hbound : (compactItems vs).length ≤ bound) :
    readItems? bound (compactItems vs ++ rest) = some (shownItems vs, rest) := by
  cases vs with
  | nil =>
    obtain ⟨bound, rfl⟩ := Nat.exists_eq_succ_of_ne_zero (Nat.ne_of_gt hbound)
    rfl
  | cons v vs =>
    rw [compactItems, List.cons_append, List.length_cons, List.length_append] at hbound
    obtain ⟨bound, rfl⟩ : ∃ b, bound = b + 1 := Nat.exists_eq_succ_of_ne_zero (by omega)
    have hitem := readValue?_compactChars v bound (compactItems vs ++ rest) (by omega)
      (ends_compactItems vs rest)
    have hitems := readItems?_compactItems vs bound rest (by omega)
    rw [compactItems, List.append_assoc, List.cons_append, readItems?,
      readMark?_of_ne (by decide) (by decide), readMark?_cons (by decide)]
    dsimp only [Option.bind_eq_bind, Option.bind_some]
    rw [hitem]
    dsimp only [Option.bind_eq_bind, Option.bind_some]
    rw [hitems, shownItems]
    rfl

/-- The rest of an object is read back. -/
theorem readMembers?_compactMembers (ms : List (String × Value)) (bound : Nat) (rest : List Char)
    (hbound : (compactMembers ms).length ≤ bound) :
    readMembers? bound (compactMembers ms ++ rest) = some (shownMembers ms, rest) := by
  cases ms with
  | nil =>
    obtain ⟨bound, rfl⟩ := Nat.exists_eq_succ_of_ne_zero (Nat.ne_of_gt hbound)
    rfl
  | cons m ms =>
    obtain ⟨k, v⟩ := m
    rw [compactMembers, List.length_append, List.length_append, List.length_cons,
      List.length_cons] at hbound
    obtain ⟨bound, rfl⟩ : ∃ b, bound = b + 1 := Nat.exists_eq_succ_of_ne_zero (by omega)
    have hvalue := readValue?_compactChars v bound (compactMembers ms ++ rest) (by omega)
      (ends_compactMembers ms rest)
    have hmembers := readMembers?_compactMembers ms bound rest (by omega)
    rw [compactMembers, List.append_assoc, List.append_assoc, List.cons_append, List.cons_append,
      readMembers?, readMark?_of_ne (by decide) (by decide), readMark?_cons (by decide)]
    dsimp only [Option.bind_eq_bind, Option.bind_some]
    rw [readKey?_stringText]
    dsimp only [Option.bind_eq_bind, Option.bind_some]
    rw [hvalue]
    dsimp only [Option.bind_eq_bind, Option.bind_some]
    rw [hmembers, shownMembers]
    rfl

end

theorem ends_of_blank (h : rest.all isBlank = true) : Ends rest := by
  intro c hc
  have hblank : isBlank c = true := List.all_eq_true.mp h c (List.mem_of_mem_head? hc)
  simp only [isBlank, Bool.or_eq_true, decide_eq_true_eq] at hblank
  rcases hblank with ((rfl | rfl) | rfl) | rfl <;> decide

/-- **A text of a value, perhaps with blanks behind, is read as the value.** -/
theorem read?_compactChars (v : Value) (h : rest.all isBlank = true) :
    Value.read? (v.compactChars ++ rest) = some v.shown := by
  have hread := readValue?_compactChars v (v.compactChars ++ rest).length rest (by simp)
    (ends_of_blank h)
  simp only [Value.read?, hread, h, if_true]

/-! ### Texts on one line -/

theorem isPrintable_hexDigit {n : Nat} (h : n < 16) : IsPrintable (hexDigit n) := by
  revert n
  decide

theorem isPrintable_of_mem_escapeChar (c : Char) : ∀ d ∈ escapeChar c, IsPrintable d := by
  have hslash : IsPrintable '\\' := by decide
  rcases escapeChar_cases c with ⟨e, heq, hletter, -⟩ | ⟨heq, hlow⟩ | ⟨heq, -, -, hself⟩
  · simp [heq, hslash, hletter]
  · have hhigh : IsPrintable (hexDigit (c.toNat / 16)) := isPrintable_hexDigit (by omega)
    have hlast : IsPrintable (hexDigit (c.toNat % 16)) := isPrintable_hexDigit (by omega)
    have hmark : IsPrintable 'u' ∧ IsPrintable '0' := by decide
    simp [heq, hslash, hhigh, hlast, hmark]
  · simpa [heq, IsPrintable] using hself

theorem isPrintable_of_mem_stringText (s : String) : ∀ c ∈ stringText s, IsPrintable c := by
  have hquote : IsPrintable '"' := by decide
  simp only [stringText, List.forall_mem_append, List.forall_mem_cons, List.forall_mem_flatMap]
  exact ⟨⟨hquote, fun c _ => isPrintable_of_mem_escapeChar c⟩, hquote, by simp⟩

theorem isPrintable_of_isNumberChar (h : IsNumberChar c) : IsPrintable c := by
  rcases h with h | h
  · have hzero : '0' ≤ c := (Text.isDigit_iff.mp h).1
    have hnat : '0'.toNat ≤ c.toNat := hzero
    exact Nat.le_trans (by decide) hnat
  · simp only [List.mem_cons, List.not_mem_nil, or_false] at h
    rcases h with rfl | rfl | rfl | rfl <;> decide

theorem isPrintable_of_all (h : cs.all (fun c => decide (IsPrintable c)) = true) :
    ∀ c ∈ cs, IsPrintable c := fun c hc => of_decide_eq_true (List.all_eq_true.mp h c hc)

theorem isPrintable_of_mem_intText (n : Int) : ∀ c ∈ intText n, IsPrintable c := by
  have hdigits : ∀ c ∈ digitsOf n.natAbs, IsPrintable c := fun c hc =>
    isPrintable_of_isNumberChar (isNumberChar_of_mem_digitsOf _ c hc)
  have hminus : IsPrintable '-' := by decide
  rw [intText]
  split
  · exact List.forall_mem_cons.mpr ⟨hminus, hdigits⟩
  · exact hdigits

theorem isPrintable_of_mem_numberText (x : Binary64) : ∀ c ∈ numberText x, IsPrintable c := by
  by_cases h : x.isFinite = true
  · exact fun c hc => isPrintable_of_isNumberChar (isNumberChar_of_mem_numberText h c hc)
  · rw [numberText_eq_null_iff.mpr (Bool.eq_false_iff.mpr h)]
    exact isPrintable_of_all rfl

mutual

/-- **The text of a value is on one line**, without control characters. -/
theorem isPrintable_of_mem_compactChars (v : Value) : ∀ c ∈ v.compactChars, IsPrintable c := by
  have harray : IsPrintable '[' ∧ IsPrintable ']' := by decide
  have hobject : IsPrintable '\x7b' ∧ IsPrintable '\x7d' ∧ IsPrintable ':' := by decide
  cases v with
  | null => exact isPrintable_of_all rfl
  | bool b => cases b <;> exact isPrintable_of_all rfl
  | int n => exact isPrintable_of_mem_intText n
  | number x => exact isPrintable_of_mem_numberText x
  | string s => exact isPrintable_of_mem_stringText s
  | array vs =>
    cases vs with
    | nil => simp [Value.compactChars, harray]
    | cons v vs =>
      simp only [Value.compactChars, List.forall_mem_append, List.forall_mem_cons]
      exact ⟨⟨harray.1, isPrintable_of_mem_compactChars v⟩, isPrintable_of_mem_compactItems vs⟩
  | object ms =>
    cases ms with
    | nil => simp [Value.compactChars, hobject]
    | cons m ms =>
      obtain ⟨k, v⟩ := m
      simp only [Value.compactChars, List.forall_mem_append, List.forall_mem_cons]
      exact ⟨⟨⟨hobject.1, isPrintable_of_mem_stringText k⟩, hobject.2.2,
        isPrintable_of_mem_compactChars v⟩, isPrintable_of_mem_compactMembers ms⟩

theorem isPrintable_of_mem_compactItems (vs : List Value) :
    ∀ c ∈ compactItems vs, IsPrintable c := by
  have hmark : IsPrintable ',' ∧ IsPrintable ']' := by decide
  cases vs with
  | nil => simp [compactItems, hmark]
  | cons v vs =>
    simp only [compactItems, List.forall_mem_append, List.forall_mem_cons]
    exact ⟨⟨hmark.1, isPrintable_of_mem_compactChars v⟩, isPrintable_of_mem_compactItems vs⟩

theorem isPrintable_of_mem_compactMembers (ms : List (String × Value)) :
    ∀ c ∈ compactMembers ms, IsPrintable c := by
  have hmark : IsPrintable ',' ∧ IsPrintable ':' ∧ IsPrintable '\x7d' := by decide
  cases ms with
  | nil => simp [compactMembers, hmark]
  | cons m ms =>
    obtain ⟨k, v⟩ := m
    simp only [compactMembers, List.forall_mem_append, List.forall_mem_cons]
    exact ⟨⟨⟨hmark.1, isPrintable_of_mem_stringText k⟩, hmark.2.1,
      isPrintable_of_mem_compactChars v⟩, isPrintable_of_mem_compactMembers ms⟩

end

end MetricIngest.Json
