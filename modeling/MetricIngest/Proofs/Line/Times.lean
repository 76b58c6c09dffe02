/-
  What the times of lines say.

  In the compatible way a fraction is a number of milliseconds. There are two limits on it, but
  the later one is the stricter: a fraction counts just when its nanoseconds fit a word
  (`compat_closed_form`). In the exact way the seconds that a text says are cut to nanoseconds
  (`exact_truncates`). How the numbers below the result lie is all that is needed of it: they are
  those that are not above what the text says (`le_nanos_iff`), so a text that says more has no
  earlier time, and texts that say the same have the same time.
-/
import Mathlib.Data.Rat.Cast.Order
import MetricIngest.Proofs.Line.Forms
import MetricIngest.Proofs.Line.TimeSteps

namespace MetricIngest.FractionMode

open Numeral Text.Utf8

variable {cs first rest more u v : List Char} {now now' : Timestamp}

/-! ### The compatible way -/

/-- **The two limits are one.** -/
theorem offset?_compat_eq (rest : List Char) :
    offset? .compat rest =
      if digitsValue rest * 10 ^ (rest.length + 6) ≤ 2 ^ 63 - 1 then
        some (digitsValue rest * 10 ^ rest.length * Timestamp.perMilli)
      else none := by
  obtain ⟨count, hcount⟩ : ∃ count, digitsValue rest * 10 ^ rest.length = count := ⟨_, rfl⟩
  have hnanos : digitsValue rest * 10 ^ (rest.length + 6) = count * Timestamp.perMilli := by
    rw [← hcount, pow_add, ← Nat.mul_assoc]
    rfl
  have hmost : 2 ^ 63 - 1 = wordMax := rfl
  -- What is too much for the first limit is too much for the second.
  have hle : count ≤ count * Timestamp.perMilli := Nat.le_mul_of_pos_right _ (by decide)
  rw [offset?_compat hcount, hcount, hnanos, hmost]
  by_cases hfits : count * Timestamp.perMilli ≤ wordMax
  · rw [if_pos hfits, if_neg (Nat.not_lt.mpr (hle.trans hfits)), if_neg (Nat.not_lt.mpr hfits)]
  · rw [if_neg hfits, if_pos (Nat.not_le.mp hfits), ite_self]

/-- **The time of a text in the compatible way**, for every text. A text that is empty or has
anything but digits has the current time. Up to ten digits are seconds. Of more digits the first
ten are seconds; the others are read as a number, moved up by as many places as they are, and count
milliseconds. If these are more nanoseconds than a signed word holds, the text has the current
time. The steps on the way lead there: no cut fails and no seconds or sums are too large for their
words, whatever the text is. -/
theorem compat_closed_form (cs : List Char) (now : Timestamp) :
    (cs = [] ∨ ¬(∀ c ∈ cs, Text.IsDigit c) → timestamp .compat cs now = now) ∧
    (cs ≠ [] → (∀ c ∈ cs, Text.IsDigit c) → cs.length ≤ 10 →
      timestamp .compat cs now = .ofSeconds (digitsValue cs)) ∧
    (∀ first rest, Line.Fractional cs first rest →
      timestamp .compat cs now =
        if digitsValue rest * 10 ^ (rest.length + 6) ≤ 2 ^ 63 - 1 then
          .ofSeconds (digitsValue first) (digitsValue rest * 10 ^ rest.length * Timestamp.perMilli)
        else now) ∧
    timestamp .compat cs now =
      (readTime .compat (encode (String.ofList cs))).toOption.getD now ∧
    ∀ fault, readTime .compat (encode (String.ofList cs)) = .error fault →
      fault = .text ∧ (cs = [] ∨ ¬∀ c ∈ cs, Text.IsDigit c) ∨
        fault = .fraction ∨ fault = .nanos := by
  refine ⟨fun htext => ?_, fun hne h hten => ?_, fun first rest h => ?_,
    timestamp_eq_readTime .compat cs now, fun fault hfault => ?_⟩
  · rw [timestamp, timestamp?_of_not_digits htext]
    rfl
  · rw [timestamp, timestamp?_of_seconds hne h hten]
    rfl
  · rw [timestamp, timestamp?_of_fractional h, offset?_compat_eq]
    split <;> rfl
  · obtain ⟨t, hread, -⟩ | ⟨-, fault', hread, hcases⟩ := readTime_cases .compat cs
    · rw [hread] at hfault
      cases hfault
    · obtain rfl : fault' = fault := Except.error.inj (hread.symm.trans hfault)
      exact hcases.imp_right And.right

theorem compat_closed_form_atLimit :
    timestamp .compat "17000000000922337".toList ⟨42⟩ = .ofSeconds 1700000000 9223370000000000000 ∧
    timestamp .compat "17000000000922338".toList ⟨42⟩ = ⟨42⟩ := by
  have hfits : Line.Dated "17000000000922337".toList := Line.isTime_iff.mp (by decide +kernel)
  have hexceeds : Line.Dated "17000000000922338".toList := Line.isTime_iff.mp (by decide +kernel)
  obtain ⟨-, -, hfirst, -⟩ := compat_closed_form "17000000000922337".toList ⟨42⟩
  obtain ⟨-, -, hsecond, -⟩ := compat_closed_form "17000000000922338".toList ⟨42⟩
  constructor
  · rw [hfirst _ _ (Line.fractional_of_lt (by decide +kernel) hfits.digits),
      if_pos (by decide +kernel)]
    decide +kernel
  · rw [hsecond _ _ (Line.fractional_of_lt (by decide +kernel) hexceeds.digits),
      if_neg (by decide +kernel)]

/-! ### The exact way -/

/-- **The digits that are kept** are a fraction cut to nanoseconds. -/
theorem exactOffset_eq (h : ∀ c ∈ rest, Text.IsDigit c) :
    exactOffset rest = digitsValue rest * Timestamp.perSecond / 10 ^ rest.length := by
  have hsecond : Timestamp.perSecond = 10 ^ nanosDigits := rfl
  have hpow : 0 < 10 ^ rest.length := Nat.pow_pos (by decide)
  rw [exactOffset, digitsValue_append_zeros, hsecond]
  rcases Nat.le_total rest.length nanosDigits with hshort | hlong
  · -- All digits are kept, and the zeros make up for those that are missing.
    have hnine : 10 ^ nanosDigits = 10 ^ (nanosDigits - rest.length) * 10 ^ rest.length := by
      rw [← pow_add, Nat.sub_add_cancel hshort]
    rw [List.take_of_length_le hshort, hnine, ← Nat.mul_assoc, Nat.mul_div_cancel _ hpow]
  · -- What is cut off is less than a nanosecond.
    have hkept : (rest.take nanosDigits).length = nanosDigits := List.length_take_of_le hlong
    have hlength : rest.length = (rest.drop nanosDigits).length + nanosDigits := by
      rw [List.length_drop, Nat.sub_add_cancel hlong]
    have hcut : digitsValue (rest.drop nanosDigits) < 10 ^ (rest.drop nanosDigits).length :=
      digitsValue_lt fun c hc => h c (List.mem_of_mem_drop hc)
    have hvalue := digitsValue_append (rest.take nanosDigits) (rest.drop nanosDigits)
    rw [List.take_append_drop] at hvalue
    rw [hkept, Nat.sub_self, pow_zero, Nat.mul_one, hlength, pow_add,
      Nat.mul_div_mul_right _ _ (Nat.pow_pos (by decide)), hvalue, Nat.mul_comm,
      Nat.mul_add_div (Nat.pow_pos (by decide)), Nat.div_eq_of_lt hcut, Nat.add_zero]

/-- Ten digits or more have a time in the exact way, whatever they are. -/
theorem timestamp?_exact (h : Line.Dated u) :
    timestamp? .exact u =
      some ⟨(digitsValue u * Timestamp.perSecond / 10 ^ (u.length - 10) : ℕ)⟩ := by
  have hne : u ≠ [] := List.ne_nil_of_length_pos (Nat.lt_of_lt_of_le (by decide) h.ten)
  rcases Nat.lt_or_ge secondsDigits u.length with hlong | hten
  · have hfraction := Line.fractional_of_lt hlong h.digits
    obtain ⟨first, rest, hglued⟩ : ∃ first rest, Line.Fractional u first rest :=
      ⟨_, _, hfraction⟩
    have hlength : u.length - 10 = rest.length := by
      rw [hglued.glued, List.length_append, hglued.ten, Nat.add_sub_cancel_left]
    have hpow : 0 < 10 ^ rest.length := Nat.pow_pos (by decide)
    -- The seconds stand before the fraction, moved up by its digits, and nothing of them is cut.
    have hvalue : digitsValue u * Timestamp.perSecond / 10 ^ rest.length =
        digitsValue first * Timestamp.perSecond + exactOffset rest := by
      rw [exactOffset_eq hglued.isDigit_of_mem_rest, hglued.glued, digitsValue_append, Nat.add_mul,
        Nat.mul_right_comm, Nat.mul_comm _ (10 ^ rest.length), Nat.mul_add_div hpow]
    rw [timestamp?_of_fractional hglued, hlength, hvalue, offset?, Option.map_some,
      Timestamp.ofSeconds]
    push_cast
    rfl
  · have hlength : u.length - 10 = 0 := Nat.sub_eq_zero_of_le hten
    rw [timestamp?_of_seconds hne h.digits hten, hlength, pow_zero, Nat.div_one,
      Timestamp.ofSeconds]
    simp

theorem timestamp_exact (h : Line.Dated u) (now : Timestamp) :
    (timestamp .exact u now).nanos =
      (digitsValue u * Timestamp.perSecond / 10 ^ (u.length - 10) : ℕ) := by
  rw [timestamp, timestamp?_exact h]
  rfl

theorem timestamp_exact_now (h : Line.Dated u) (now now' : Timestamp) :
    timestamp .exact u now' = timestamp .exact u now := by
  rw [timestamp, timestamp, timestamp?_exact h]
  rfl

/-- **The numbers up to the time** are those that are not above what the text says. -/
theorem le_nanos_iff (h : Line.Dated u) {n : ℤ} :
    n ≤ (timestamp .exact u now).nanos ↔ (n : ℚ) / Timestamp.perSecond ≤ Line.secondsOf u := by
  have hsecond : (0 : ℚ) < Timestamp.perSecond := by simp [Timestamp.perSecond]
  have hpow : (0 : ℚ) < 10 ^ (u.length - 10) := pow_pos (by norm_num) _
  have hpowInt : (0 : ℤ) < 10 ^ (u.length - 10) := pow_pos (by norm_num) _
  rw [timestamp_exact h, Line.secondsOf, div_le_div_iff₀ hsecond hpow, Int.natCast_ediv,
    Nat.cast_pow, Nat.cast_ofNat, Int.le_ediv_iff_mul_le hpowInt]
  norm_cast

theorem isGreatest_nanos (h : Line.Dated u) :
    IsGreatest {n : ℤ | (n : ℚ) / Timestamp.perSecond ≤ Line.secondsOf u}
      (timestamp .exact u now).nanos :=
  ⟨(le_nanos_iff h).mp le_rfl, fun _ hn => (le_nanos_iff h).mpr hn⟩

theorem nanos_mono (hu : Line.Dated u) (hv : Line.Dated v)
    (hle : Line.secondsOf u ≤ Line.secondsOf v) :
    (timestamp .exact u now).nanos ≤ (timestamp .exact v now').nanos :=
  (le_nanos_iff hv).mpr (((le_nanos_iff hu).mp le_rfl).trans hle)

/-! ### More digits -/

theorem dated_append (h : Line.Dated u) (hmore : ∀ c ∈ more, Text.IsDigit c) :
    Line.Dated (u ++ more) where
  ten := h.ten.trans (List.length_append ▸ Nat.le_add_right _ _)
  digits := List.forall_mem_append.mpr ⟨h.digits, hmore⟩

/-- Zeros behind a text say nothing. -/
theorem secondsOf_append_zeros (h : Line.Dated u) (k : ℕ) :
    Line.secondsOf (u ++ List.replicate k '0') = Line.secondsOf u := by
  have hlength : (u ++ List.replicate k '0').length - 10 = (u.length - 10) + k := by
    rw [List.length_append, List.length_replicate, Nat.sub_add_comm h.ten]
  have hpow : (10 : ℚ) ^ k ≠ 0 := pow_ne_zero k (by norm_num)
  rw [Line.secondsOf, Line.secondsOf, hlength, digitsValue_append_zeros, pow_add]
  push_cast
  exact mul_div_mul_right _ _ hpow

theorem timestamp_append_zeros (h : Line.Dated u) (k : ℕ) :
    timestamp .exact (u ++ List.replicate k '0') now' = timestamp .exact u now := by
  have hlonger := dated_append h (digits_zeros k)
  have hsame := secondsOf_append_zeros h k
  exact congrArg Timestamp.mk <|
    le_antisymm (nanos_mono hlonger h hsame.le) (nanos_mono h hlonger hsame.ge)

theorem exactOffset_append (hlong : nanosDigits ≤ rest.length) :
    exactOffset (rest ++ more) = exactOffset rest := by
  rw [exactOffset, exactOffset, List.take_append_of_le_length hlong]

/-- Nothing behind the nineteenth digit is read. -/
theorem timestamp_append_digits (h : Line.Dated u) (hlong : 19 ≤ u.length)
    (hmore : ∀ c ∈ more, Text.IsDigit c) :
    timestamp .exact (u ++ more) now' = timestamp .exact u now := by
  -- What is kept of the fraction, nine digits, is there already.
  have hfraction := Line.fractional_of_lt (Nat.lt_of_lt_of_le (by decide) hlong) h.digits
  have hnine : nanosDigits ≤ (u.drop secondsDigits).length := by
    rw [List.length_drop, nanosDigits, secondsDigits]
    omega
  rw [timestamp, timestamp, timestamp?_of_fractional (hfraction.append hmore),
    timestamp?_of_fractional hfraction, offset?, offset?, exactOffset_append hnine]
  rfl

/-- The steps of the exact way never fail. -/
theorem readTime_exact (h : Line.Dated u) (now : Timestamp) :
    readTime .exact (encode (String.ofList u)) = .ok (timestamp .exact u now) := by
  have htime := timestamp?_exact h
  obtain ⟨t, hread, hsome⟩ | ⟨hnone, -⟩ := readTime_cases .exact u
  · rw [timestamp, hsome, hread]
    rfl
  · rw [hnone] at htime
    cases htime

/-- **The time of a text of ten digits or more in the exact way** is what the text says, with a
point behind the tenth digit, cut to nanoseconds; what the current time is does not matter. What
says more is not earlier. Neither zeros behind the text nor any digits behind the nineteenth
change the time, and however long the text is, no step on the way fails. -/
theorem exact_truncates (hu : Line.Dated u) (hv : Line.Dated v) (now now' : Timestamp) :
    IsGreatest {n : ℤ | (n : ℚ) / Timestamp.perSecond ≤ Line.secondsOf u}
      (timestamp .exact u now).nanos ∧
    timestamp .exact u now' = timestamp .exact u now ∧
    (Line.secondsOf u ≤ Line.secondsOf v →
      (timestamp .exact u now).nanos ≤ (timestamp .exact v now').nanos) ∧
    (∀ k, timestamp .exact (u ++ List.replicate k '0') now' = timestamp .exact u now) ∧
    (19 ≤ u.length → ∀ more, (∀ c ∈ more, Text.IsDigit c) →
      timestamp .exact (u ++ more) now' = timestamp .exact u now) ∧
    readTime .exact (encode (String.ofList u)) = .ok (timestamp .exact u now) :=
  ⟨isGreatest_nanos hu, timestamp_exact_now hu now now', nanos_mono hu hv,
    timestamp_append_zeros hu, fun hlong _ hmore => timestamp_append_digits hu hlong hmore,
    readTime_exact hu now⟩

theorem exact_truncates_pastNanos :
    let u := "1700000000123456789".toList
    let v := "17000000001235".toList
    timestamp .exact u .epoch = ⟨1700000000123456789⟩ ∧
    timestamp .exact (u ++ ['9', '9', '9']) .epoch = ⟨1700000000123456789⟩ ∧
    (timestamp .exact u .epoch).nanos ≤ (timestamp .exact v .epoch).nanos := by
  intro u v
  have hu : Line.Dated u := Line.isTime_iff.mp (by decide +kernel)
  have hv : Line.Dated v := Line.isTime_iff.mp (by decide +kernel)
  have hnines : ∀ c ∈ ['9', '9', '9'], Text.IsDigit c := by simp [Text.IsDigit]
  have hle : Line.secondsOf u ≤ Line.secondsOf v := by decide +kernel
  have hnanos : timestamp .exact u .epoch = ⟨1700000000123456789⟩ := by decide +kernel
  obtain ⟨-, -, hmono, -, hmore, -⟩ := exact_truncates hu hv .epoch .epoch
  exact ⟨hnanos, (hmore (by decide +kernel) _ hnines).trans hnanos, hmono hle⟩

end MetricIngest.FractionMode
