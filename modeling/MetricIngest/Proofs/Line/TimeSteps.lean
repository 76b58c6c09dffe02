/-
  The way to a time leads to the time.

  A text of digits has a byte for each digit, so each cut on the way is between two characters,
  and a word is read digit by digit just when the whole number fits (`readWord_digits`). The ten
  digits of the seconds fit their word, and no time that can come of them is too late for its
  own. So a text of digits fails at its fraction or nowhere (`readTime_of_fractional`), and the
  time that is found, or else the current one, is `timestamp` (`timestamp_eq_readTime`).
-/
import MetricIngest.Line.TimeText
import MetricIngest.Proofs.Number.Digits
import MetricIngest.Proofs.Text.Utf8

namespace MetricIngest

theorem Text.isDigit_iff_toNat {c : Char} : IsDigit c ↔ 0x30 ≤ c.toNat ∧ c.toNat ≤ 0x39 := Iff.rfl

namespace Line

open FractionMode (secondsDigits)

/-! ### Texts with a fraction -/

namespace Fractional

variable {cs first rest : List Char}

theorem length_gt (h : Fractional cs first rest) : secondsDigits < cs.length := by
  have hpos := List.length_pos_iff.mpr h.ne_nil
  rw [h.glued, List.length_append, h.ten, secondsDigits]
  omega

theorem cs_ne_nil (h : Fractional cs first rest) : cs ≠ [] :=
  List.length_pos_iff.mp (Nat.zero_lt_of_lt h.length_gt)

theorem take_eq (h : Fractional cs first rest) : cs.take secondsDigits = first := by
  rw [h.glued, secondsDigits, ← h.ten, List.take_left]

theorem drop_eq (h : Fractional cs first rest) : cs.drop secondsDigits = rest := by
  rw [h.glued, secondsDigits, ← h.ten, List.drop_left]

theorem isDigit_of_mem_first (h : Fractional cs first rest) : ∀ c ∈ first, Text.IsDigit c :=
  fun c hc => h.digits c (h.glued ▸ List.mem_append_left rest hc)

theorem isDigit_of_mem_rest (h : Fractional cs first rest) : ∀ c ∈ rest, Text.IsDigit c :=
  fun c hc => h.digits c (h.glued ▸ List.mem_append_right first hc)

/-- More digits belong to the fraction. -/
theorem append {more : List Char} (h : Fractional cs first rest)
    (hmore : ∀ c ∈ more, Text.IsDigit c) : Fractional (cs ++ more) first (rest ++ more) where
  glued := by rw [h.glued, List.append_assoc]
  digits := List.forall_mem_append.mpr ⟨h.digits, hmore⟩
  ten := h.ten
  ne_nil := List.append_ne_nil_of_left_ne_nil h.ne_nil more

end Fractional

/-- More than ten digits have a fraction. -/
theorem fractional_of_lt {cs : List Char} (hlong : secondsDigits < cs.length)
    (h : ∀ c ∈ cs, Text.IsDigit c) :
    Fractional cs (cs.take secondsDigits) (cs.drop secondsDigits) where
  glued := (List.take_append_drop _ cs).symm
  digits := h
  ten := List.length_take_of_le hlong.le
  ne_nil := by simpa using hlong

end Line

namespace FractionMode

open Numeral Text.Utf8

variable {mode : FractionMode} {cs first rest : List Char} {bytes : List UInt8}
  {fault : TimeFault} {most n : Nat} {t : Timestamp}

/-! ### Digits and their bytes -/

theorem isDigitByte_iff {b : UInt8} : isDigitByte b = true ↔ 0x30 ≤ b.toNat ∧ b.toNat ≤ 0x39 := by
  simp [isDigitByte, UInt8.le_iff_toNat_le]

theorem toNat_byteOf_digit {c : Char} (h : Text.IsDigit c) : (byteOf c).toNat = c.toNat :=
  toNat_byteOf (by have := Text.isDigit_iff_toNat.mp h; omega)

theorem encode_digits (h : ∀ c ∈ cs, Text.IsDigit c) :
    encode (String.ofList cs) = cs.map byteOf :=
  encode_of_forall_lt fun c hc => by have := Text.isDigit_iff_toNat.mp (h c hc); omega

/-- **All bytes of a text are digits** just when all its characters are. -/
theorem all_isDigitByte_iff (cs : List Char) :
    (encode (String.ofList cs)).all isDigitByte = true ↔ ∀ c ∈ cs, Text.IsDigit c := by
  rw [List.all_eq_true]
  constructor
  · intro h c hc
    rw [encode_ofList] at h
    -- A digit among the bytes of a character is a byte of ASCII, and so all of the character.
    obtain ⟨b, hb⟩ := List.exists_mem_of_ne_nil _ (String.utf8EncodeChar_ne_nil (c := c))
    have hdigit := isDigitByte_iff.mp (h b (List.mem_flatMap.mpr ⟨c, hc, hb⟩))
    have hlt : b.toNat < 0x80 := by omega
    rw [(utf8EncodeChar_eq_singleton_iff hlt).mp (utf8EncodeChar_of_mem hb hlt),
      Text.isDigit_iff_toNat, Char.toNat, toNat_ofNat (by omega)]
    exact hdigit
  · intro h b hb
    rw [encode_digits h, List.mem_map] at hb
    obtain ⟨c, hc, rfl⟩ := hb
    rw [isDigitByte_iff, toNat_byteOf_digit (h c hc)]
    exact Text.isDigit_iff_toNat.mp (h c hc)

theorem encode_eq_nil_iff : encode (String.ofList cs) = [] ↔ cs = [] := by
  rw [encode_ofList, List.flatMap_eq_nil_iff]
  constructor
  · intro h
    exact List.eq_nil_iff_forall_not_mem.mpr fun c hc => String.utf8EncodeChar_ne_nil (h c hc)
  · rintro rfl
    simp

/-- No text of digits is refused as it stands, neither in bytes nor in characters. -/
theorem bytes_pass (hne : cs ≠ []) (h : ∀ c ∈ cs, Text.IsDigit c) :
    ¬(encode (String.ofList cs) = [] ∨ ¬(encode (String.ofList cs)).all isDigitByte) := by
  rw [encode_eq_nil_iff, all_isDigitByte_iff, not_or, not_not]
  exact ⟨hne, h⟩

theorem chars_pass (hne : cs ≠ []) (h : ∀ c ∈ cs, Text.IsDigit c) :
    ¬(cs = [] ∨ ¬cs.all isDigit) := by
  simp only [List.all_eq_true, Text.numeral_isDigit_iff, not_or, not_not]
  exact ⟨hne, h⟩

/-- Every text is no run of digits, or one of seconds, or one with a fraction. -/
theorem digits_cases (cs : List Char) :
    (cs = [] ∨ ¬∀ c ∈ cs, Text.IsDigit c) ∨
    (cs ≠ [] ∧ (∀ c ∈ cs, Text.IsDigit c) ∧ cs.length ≤ secondsDigits) ∨
    ∃ first rest, Line.Fractional cs first rest := by
  by_cases htext : cs = [] ∨ ¬∀ c ∈ cs, Text.IsDigit c
  · exact Or.inl htext
  rw [not_or, not_not] at htext
  rcases Nat.lt_or_ge secondsDigits cs.length with hlong | hten
  · exact Or.inr (Or.inr ⟨_, _, Line.fractional_of_lt hlong htext.2⟩)
  · exact Or.inr (Or.inl ⟨htext.1, htext.2, hten⟩)

/-! ### Single steps -/

-- In parentheses the proofs are no rewriting by definition, after which a product with a large
-- number could be unfolded to check it.
@[simp] theorem bind_ok {α β : Type} (a : α) (f : α → Except TimeFault β) :
    (Except.ok a >>= f) = f a := (rfl)

@[simp] theorem bind_error {α β : Type} (fault : TimeFault) (f : α → Except TimeFault β) :
    (Except.error fault >>= f) = Except.error fault := (rfl)

theorem fit_of_le (h : n ≤ most) : fit fault most n = .ok n := if_pos h

theorem fit_of_lt (h : most < n) : fit fault most n = .error fault := if_neg (Nat.not_le.mpr h)

/-- **The check at each digit** comes to one check of the number. -/
theorem readWord_digits (h : ∀ c ∈ cs, Text.IsDigit c) :
    readWord fault most (cs.map byteOf) = fit fault most (digitsValue cs) := by
  induction cs using List.reverseRecOn with
  | nil => exact (fit_of_le (Nat.zero_le most)).symm
  | append_singleton cs c ih =>
    have hc : Text.IsDigit c := h c (by simp)
    rw [readWord] at ih
    rw [readWord, List.map_append, List.foldlM_append, ih fun d hd => h d (by simp [hd]),
      digitsValue_append_singleton]
    rcases Nat.lt_or_ge most (digitsValue cs) with hlt | hle
    · -- The digits so far are too many, and no digit makes the number smaller.
      rw [fit_of_lt hlt, fit_of_lt (by omega)]
      rfl
    · rw [fit_of_le hle, ← toNat_byteOf_digit hc]
      exact bind_pure (fit fault most (digitsValue cs * 10 + ((byteOf c).toNat - 0x30)))

theorem zeros_eq_map (k : Nat) : List.replicate k zeroByte = (List.replicate k '0').map byteOf := by
  rw [List.map_replicate]
  rfl

theorem isDigit_of_mem_padded {k : Nat} (h : ∀ c ∈ cs, Text.IsDigit c) :
    ∀ c ∈ cs ++ List.replicate k '0', Text.IsDigit c :=
  List.forall_mem_append.mpr ⟨h, digits_zeros k⟩

theorem isDigit_of_mem_kept {k : Nat} (h : ∀ c ∈ rest, Text.IsDigit c) :
    ∀ c ∈ rest.take nanosDigits ++ List.replicate k '0', Text.IsDigit c :=
  isDigit_of_mem_padded fun c hc => h c (List.mem_of_mem_take hc)

/-- Digits are cut at every place. -/
theorem cut_digits (h : ∀ c ∈ cs, Text.IsDigit c) {place : Nat} (hplace : place ≤ cs.length) :
    cut place (cs.map byteOf) = .ok ((cs.take place).map byteOf, (cs.drop place).map byteOf) := by
  unfold cut
  rw [List.getElem?_map]
  cases hc : cs[place]? with
  | none =>
    have hend : place = cs.length := Nat.le_antisymm hplace (List.getElem?_eq_none_iff.mp hc)
    simp [hend]
  | some c =>
    -- The byte at the place is that of a digit, which begins a character.
    have hdigit := h c (List.mem_of_getElem? hc)
    have hbounds := Text.isDigit_iff_toNat.mp hdigit
    have hcontinuation : isContinuation (byteOf c) = false := by
      simp only [isContinuation, UInt8.le_iff_toNat_le, toNat_byteOf_digit hdigit,
        UInt8.reduceToNat]
      simp only [Bool.and_eq_false_iff, decide_eq_false_iff_not]
      omega
    simp [hcontinuation, List.map_take, List.map_drop]

/-- Times of less than a word of seconds can be found. -/
theorem later_of_lt (hpos : 0 ≤ t.nanos) (h : t.nanos + n < 2 ^ 63 * Timestamp.perSecond) :
    later t n = .ok ⟨t.nanos + n⟩ := by
  refine if_pos ?_
  simp only [Timestamp.seconds, Timestamp.perSecond, Int64.toInt_minValue,
    Int64.toInt_maxValue] at h ⊢
  omega

/-- Ten digits of seconds and a word of nanoseconds are less than that. -/
theorem later_ofSeconds {whole nanos : Nat} (hwhole : whole < 10 ^ 10) (hnanos : nanos ≤ wordMax) :
    later (.ofSeconds whole) nanos = .ok (.ofSeconds whole nanos) := by
  refine (later_of_lt ?_ ?_).trans ?_
  · simp only [Timestamp.ofSeconds, Timestamp.perSecond]
    omega
  · simp only [Timestamp.ofSeconds, Timestamp.perSecond, wordMax] at hnanos ⊢
    omega
  · simp [Timestamp.ofSeconds]

/-! ### The way to the end -/

theorem digitsValue_lt_ten (hten : first.length ≤ secondsDigits) (h : ∀ c ∈ first, Text.IsDigit c) :
    digitsValue first < 10 ^ 10 :=
  (digitsValue_lt h).trans_le (Nat.pow_le_pow_right (by decide) hten)

/-- Ten digits or fewer are seconds that fit, and so does the time after them. -/
theorem readWord_seconds (hten : first.length ≤ secondsDigits) (h : ∀ c ∈ first, Text.IsDigit c) :
    readWord .seconds (UInt64.size - 1) (first.map byteOf) = .ok (digitsValue first) ∧
      later .epoch (digitsValue first * Timestamp.perSecond) =
        .ok (.ofSeconds (digitsValue first)) := by
  have hlt := digitsValue_lt_ten hten h
  constructor
  · rw [readWord_digits h]
    exact fit_of_le (by simp only [UInt64.size]; omega)
  · refine (later_of_lt (le_refl 0) ?_).trans ?_
    · simp only [Timestamp.perSecond]
      omega
    · simp [Timestamp.ofSeconds]

/-- A text that is no run of digits fails at once. -/
theorem readTime_of_not_digits (h : cs = [] ∨ ¬∀ c ∈ cs, Text.IsDigit c) :
    readTime mode (encode (String.ofList cs)) = .error .text :=
  if_pos (by rwa [encode_eq_nil_iff, all_isDigitByte_iff])

/-- Ten digits or fewer never fail. -/
theorem readTime_of_seconds (hne : cs ≠ []) (h : ∀ c ∈ cs, Text.IsDigit c)
    (hten : cs.length ≤ secondsDigits) :
    readTime mode (encode (String.ofList cs)) = .ok (.ofSeconds (digitsValue cs)) := by
  obtain ⟨hread, hlater⟩ := readWord_seconds hten h
  have hlength : (encode (String.ofList cs)).length ≤ secondsDigits := by
    rwa [encode_digits h, List.length_map]
  rw [readTime, if_neg (bytes_pass hne h), if_pos hlength, encode_digits h, hread, bind_ok, hlater]

/-- Ten digits and more go on with the fraction. -/
theorem readTime_of_fractional (h : Line.Fractional cs first rest) :
    readTime mode (encode (String.ofList cs)) =
      mode.readFraction (rest.map byteOf) >>= later (.ofSeconds (digitsValue first)) := by
  have hdigits := h.digits
  have hlength : ¬(encode (String.ofList cs)).length ≤ secondsDigits := by
    rw [encode_digits hdigits, List.length_map]
    exact Nat.not_le.mpr h.length_gt
  obtain ⟨hread, hlater⟩ := readWord_seconds h.ten.le h.isDigit_of_mem_first
  rw [readTime, if_neg (bytes_pass h.cs_ne_nil hdigits), if_neg hlength, encode_digits hdigits,
    cut_digits hdigits h.length_gt.le, h.take_eq, h.drop_eq]
  simp only [bind_ok, hread, hlater]

/-- The compatible way has a limit for the digits with their zeros, and one for the
nanoseconds. -/
theorem readFraction_compat (h : ∀ c ∈ rest, Text.IsDigit c) :
    readFraction .compat (rest.map byteOf) =
      fit .fraction wordMax (digitsValue rest * 10 ^ rest.length) >>= fun count =>
        fit .nanos wordMax (count * Timestamp.perMilli) := by
  rw [readFraction, List.length_map, zeros_eq_map, ← List.map_append,
    readWord_digits (isDigit_of_mem_padded h), digitsValue_append_zeros]

theorem offset?_compat {count : Nat} (h : digitsValue rest * 10 ^ rest.length = count) :
    offset? .compat rest =
      if wordMax < count then none
      else if wordMax < count * Timestamp.perMilli then none
      else some (count * Timestamp.perMilli) := by
  rw [offset?, compatOffset?, digitsValue_append_zeros, h]

/-- The exact way has nine digits, which are less than a second. -/
theorem exactOffset_lt (h : ∀ c ∈ rest, Text.IsDigit c) :
    exactOffset rest < Timestamp.perSecond := by
  refine (digitsValue_lt (isDigit_of_mem_kept h)).trans_eq ?_
  rw [List.length_append, List.length_replicate, Nat.add_sub_cancel' (List.length_take_le _ _)]
  rfl

/-- The exact way never fails. -/
theorem readFraction_exact (h : ∀ c ∈ rest, Text.IsDigit c) :
    readFraction .exact (rest.map byteOf) = .ok (exactOffset rest) := by
  have htake : rest.take (min rest.length nanosDigits) = rest.take nanosDigits := by
    rw [Nat.min_comm, ← List.take_take, List.take_length]
  have hfits : exactOffset rest ≤ UInt32.size - 1 := by
    have hlt := exactOffset_lt h
    simp only [Timestamp.perSecond] at hlt
    simp only [UInt32.size]
    omega
  rw [readFraction, List.length_map, cut_digits h (Nat.min_le_left _ _), htake]
  simp only [bind_ok, List.length_map]
  rw [zeros_eq_map, ← List.map_append, readWord_digits (isDigit_of_mem_kept h)]
  exact fit_of_le hfits

/-! ### The way and the time -/

theorem timestamp?_of_not_digits (h : cs = [] ∨ ¬∀ c ∈ cs, Text.IsDigit c) :
    mode.timestamp? cs = none := by
  refine if_pos ?_
  simpa only [List.all_eq_true, Text.numeral_isDigit_iff] using h

theorem timestamp?_of_seconds (hne : cs ≠ []) (h : ∀ c ∈ cs, Text.IsDigit c)
    (hten : cs.length ≤ secondsDigits) :
    mode.timestamp? cs = some (.ofSeconds (digitsValue cs)) := by
  rw [timestamp?, if_neg (chars_pass hne h), if_pos hten]

theorem timestamp?_of_fractional (h : Line.Fractional cs first rest) :
    mode.timestamp? cs =
      (mode.offset? rest).map fun nanos => .ofSeconds (digitsValue first) nanos := by
  rw [timestamp?, if_neg (chars_pass h.cs_ne_nil h.digits), if_neg (Nat.not_le.mpr h.length_gt),
    h.take_eq, h.drop_eq]

/-- **The steps of a fraction** lead to its nanoseconds, which fit a word; or there are none, and it
is a limit of the compatible way that is passed. -/
theorem readFraction_cases (mode : FractionMode) (h : ∀ c ∈ rest, Text.IsDigit c) :
    (∃ nanos ≤ wordMax, mode.readFraction (rest.map byteOf) = .ok nanos ∧
      mode.offset? rest = some nanos) ∨
    mode = .compat ∧ mode.offset? rest = none ∧ ∃ fault, (fault = .fraction ∨ fault = .nanos) ∧
      mode.readFraction (rest.map byteOf) = .error fault := by
  cases mode with
  | compat =>
    rw [readFraction_compat h, offset?_compat rfl]
    rcases Nat.lt_or_ge wordMax (digitsValue rest * 10 ^ rest.length) with hcount | hcount
    · exact Or.inr ⟨rfl, if_pos hcount, _, Or.inl rfl, by rw [fit_of_lt hcount, bind_error]⟩
    rw [fit_of_le hcount, bind_ok, if_neg (Nat.not_lt.mpr hcount)]
    rcases Nat.lt_or_ge wordMax
      (digitsValue rest * 10 ^ rest.length * Timestamp.perMilli) with hnanos | hnanos
    · exact Or.inr ⟨rfl, if_pos hnanos, _, Or.inr rfl, fit_of_lt hnanos⟩
    · exact Or.inl ⟨_, hnanos, fit_of_le hnanos, if_neg (Nat.not_lt.mpr hnanos)⟩
  | exact =>
    have hlt := exactOffset_lt h
    refine Or.inl ⟨_, ?_, readFraction_exact h, rfl⟩
    simp only [Timestamp.perSecond, wordMax] at hlt ⊢
    omega

/-- **The way leads to the time**, and fails just where there is none: at a text that is no run of
digits, or at a fraction that the compatible way has no room for. -/
theorem readTime_cases (mode : FractionMode) (cs : List Char) :
    (∃ t, readTime mode (encode (String.ofList cs)) = .ok t ∧ mode.timestamp? cs = some t) ∨
    mode.timestamp? cs = none ∧ ∃ fault, readTime mode (encode (String.ofList cs)) = .error fault ∧
      (fault = .text ∧ (cs = [] ∨ ¬∀ c ∈ cs, Text.IsDigit c) ∨
        mode = .compat ∧ (fault = .fraction ∨ fault = .nanos)) := by
  rcases digits_cases cs with htext | ⟨hne, hdigits, hten⟩ | ⟨first, rest, h⟩
  · exact Or.inr ⟨timestamp?_of_not_digits htext, _, readTime_of_not_digits htext,
      Or.inl ⟨rfl, htext⟩⟩
  · exact Or.inl ⟨_, readTime_of_seconds hne hdigits hten, timestamp?_of_seconds hne hdigits hten⟩
  · rw [readTime_of_fractional h, timestamp?_of_fractional h]
    obtain ⟨nanos, hle, hread, hoffset⟩ | ⟨hmode, hoffset, fault, hfault, hread⟩ :=
      readFraction_cases mode h.isDigit_of_mem_rest
    · have hlt := digitsValue_lt_ten h.ten.le h.isDigit_of_mem_first
      rw [hread, hoffset, bind_ok, later_ofSeconds hlt hle]
      exact Or.inl ⟨_, rfl, rfl⟩
    · rw [hread, hoffset]
      exact Or.inr ⟨rfl, fault, rfl, Or.inr ⟨hmode, hfault⟩⟩

/-- The time of a text is the one that the steps lead to, or else the current one. -/
theorem timestamp_eq_readTime (mode : FractionMode) (cs : List Char) (now : Timestamp) :
    mode.timestamp cs now = (readTime mode (encode (String.ofList cs))).toOption.getD now := by
  obtain ⟨t, hread, htime⟩ | ⟨htime, fault, hread, -⟩ := readTime_cases mode cs
  · rw [timestamp, htime, hread]
    rfl
  · rw [timestamp, htime, hread]
    rfl

end FractionMode

end MetricIngest
