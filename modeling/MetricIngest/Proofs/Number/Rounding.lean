/-
  How quotients round to 64-bit numbers.

  `floorLog_eq_log` says that the exponent of a quotient is its binary logarithm, and so
  the significand that is rounded lies between two neighbouring powers of two. From this
  follows which quotients round to a finite number: those below `overflow`
  (`roundRatio_lt_infinity_iff`). The others round to infinity, and none to NaN.
-/
import Mathlib.Algebra.Order.Field.Power
import Mathlib.Data.Int.Log
import Mathlib.Data.Rat.Floor
import Mathlib.Tactic.Linarith
import Mathlib.Tactic.Ring
import MetricIngest.Number.Binary64

namespace MetricIngest.Binary64

variable {num den : Nat}

/-! ### Quotients and powers of two -/

/-- A power with any exponent is a quotient of powers with exponents that are not negative. -/
theorem pow_toNat_eq {b : ℚ} (hb : b ≠ 0) (e : Int) : b ^ e.toNat = b ^ e * b ^ (-e).toNat := by
  rw [← zpow_natCast, ← zpow_natCast, ← zpow_add₀ hb]
  congr 1
  omega

theorem twoPower_fst (e : Int) : ((twoPower e).1 : ℚ) = 2 ^ e * (twoPower e).2 := by
  simp only [twoPower, Nat.pow_eq]
  push_cast
  exact pow_toNat_eq (by norm_num) e

theorem twoPower_fst_pos (e : Int) : 0 < (twoPower e).1 := Nat.pow_pos (by decide)

theorem twoPower_snd_pos (e : Int) : 0 < (twoPower e).2 := Nat.pow_pos (by decide)

theorem twoPower_of_nonneg {e : Int} (h : 0 ≤ e) : twoPower e = (2 ^ e.toNat, 1) := by
  simp [twoPower, h]

theorem twoPower_eq_fst {e : Int} (h : 0 ≤ e) : twoPower e = ((twoPower e).1, 1) := by
  rw [twoPower_of_nonneg h]

theorem twoPower_succ {e : Int} (h : 0 ≤ e) : twoPower (e + 1) = (2 * (twoPower e).1, 1) := by
  rw [twoPower_of_nonneg h, twoPower_of_nonneg (by omega), Int.toNat_add h (by decide)]
  simp [Nat.pow_succ']

/-- Multiples of a quotient and of a power of two over one denominator. -/
theorem exists_denominator (num : Nat) (hden : 0 < den) (e : Int) : ∃ c : ℚ, 0 < c ∧
    (∀ a : Nat, ((a * (num * (twoPower e).2) : Nat) : ℚ) = a * (num / den) * c) ∧
    ∀ b : Nat, ((b * (den * (twoPower e).1) : Nat) : ℚ) = b * 2 ^ e * c := by
  have hden' : (0 : ℚ) < den := by exact_mod_cast hden
  have hpos : (0 : ℚ) < (twoPower e).2 := by exact_mod_cast twoPower_snd_pos e
  refine ⟨den * (twoPower e).2, mul_pos hden' hpos, fun a => ?_, fun b => ?_⟩
  · push_cast
    field_simp
  · push_cast
    rw [twoPower_fst]
    ring

/-- Multiples of a quotient and of a power of two are compared without division. -/
theorem mul_twoPower_lt_iff (num : Nat) (hden : 0 < den) (e : Int) (a b : Nat) :
    a * (num * (twoPower e).2) < b * (den * (twoPower e).1) ↔
      (a : ℚ) * (num / den) < b * 2 ^ e := by
  obtain ⟨c, hc, hquot, htwo⟩ := exists_denominator num hden e
  rw [← Nat.cast_lt (α := ℚ), hquot, htwo, mul_lt_mul_iff_left₀ hc]

theorem lt_mul_twoPower_iff (num : Nat) (hden : 0 < den) (e : Int) (a b : Nat) :
    b * (den * (twoPower e).1) < a * (num * (twoPower e).2) ↔
      (b : ℚ) * 2 ^ e < a * (num / den) := by
  obtain ⟨c, hc, hquot, htwo⟩ := exists_denominator num hden e
  rw [← Nat.cast_lt (α := ℚ), hquot, htwo, mul_lt_mul_iff_left₀ hc]

theorem zpow_two_mul_pow (e : Int) (n : Nat) : (2 : ℚ) ^ e * 2 ^ n = 2 ^ (e + n) := by
  rw [← zpow_natCast, ← zpow_add₀ (by norm_num)]

/-- **The exponent of a positive quotient** is its binary logarithm. -/
theorem floorLog_eq_log (hnum : 0 < num) (hden : 0 < den) :
    floorLog num den = Int.log 2 ((num : ℚ) / den) := by
  have hnum' : (0 : ℚ) < num := by exact_mod_cast hnum
  have hden' : (0 : ℚ) < den := by exact_mod_cast hden
  have hquot : (0 : ℚ) < num / den := div_pos hnum' hden'
  -- The numbers of bits fix the logarithm up to one, and a comparison decides.
  set k : Int := (num.log2 : Int) - den.log2 with hk
  have hlow : k - 1 ≤ Int.log 2 ((num : ℚ) / den) := by
    rw [← Int.zpow_le_iff_le_log (by norm_num) hquot, le_div_iff₀ hden', Nat.cast_ofNat]
    have hnum_le : (2 : ℚ) ^ num.log2 ≤ num := by exact_mod_cast Nat.log2_self_le hnum.ne'
    have hden_lt : (den : ℚ) ≤ 2 ^ (den.log2 + 1) := by exact_mod_cast Nat.lt_log2_self.le
    calc (2 : ℚ) ^ (k - 1) * den ≤ 2 ^ (k - 1) * 2 ^ (den.log2 + 1) := by gcongr
      _ = 2 ^ ((num.log2 : Nat) : Int) := by
          rw [zpow_two_mul_pow]
          congr 1
          omega
      _ ≤ num := by rwa [zpow_natCast]
  have hhigh : Int.log 2 ((num : ℚ) / den) < k + 1 := by
    rw [← Int.lt_zpow_iff_log_lt (by norm_num) hquot, div_lt_iff₀ hden', Nat.cast_ofNat]
    have hnum_lt : (num : ℚ) < 2 ^ (num.log2 + 1) := by exact_mod_cast Nat.lt_log2_self
    have hden_le : (2 : ℚ) ^ den.log2 ≤ den := by exact_mod_cast Nat.log2_self_le hden.ne'
    calc (num : ℚ) < 2 ^ ((num.log2 + 1 : Nat) : Int) := by rwa [zpow_natCast]
      _ = (2 : ℚ) ^ (k + 1) * 2 ^ den.log2 := by
          rw [zpow_two_mul_pow]
          congr 1
          omega
      _ ≤ 2 ^ (k + 1) * den := by gcongr
  have hbelow : num * (twoPower k).2 < den * (twoPower k).1 ↔
      Int.log 2 ((num : ℚ) / den) < k := by
    rw [← Int.lt_zpow_iff_log_lt (by norm_num) hquot, Nat.cast_ofNat]
    simpa using mul_twoPower_lt_iff num hden k 1 1
  unfold floorLog
  simp only [← hk, hbelow]
  split <;> omega

/-! ### Rounding to a whole number -/

theorem le_divNearest {m : Nat} (hden : 0 < den) (h : m * den ≤ num) :
    m ≤ divNearest num den := by
  have hquot : m ≤ num / den := (Nat.le_div_iff_mul_le hden).mpr h
  simp only [divNearest]
  split
  · exact hquot
  · split <;> omega

theorem divNearest_le {m : Nat} (hden : 0 < den) (h : num < m * den) :
    divNearest num den ≤ m := by
  have hquot : num / den < m := (Nat.div_lt_iff_lt_mul hden).mpr h
  simp only [divNearest]
  split
  · omega
  · split <;> omega

/-- A quotient is rounded to less than an even number just if it is below the middle between
that number and the one before. -/
theorem divNearest_lt_iff {m : Nat} (num : Nat) (hden : 0 < den) (heven : m % 2 = 0) :
    divNearest num den < m ↔ 2 * num < (2 * m - 1) * den := by
  have hnum := Nat.div_add_mod num den
  have hrest := Nat.mod_lt num hden
  simp only [divNearest]
  -- Only a quotient between `m - 1` and `m` can go either way; a half goes to the even `m`.
  rcases lt_trichotomy (num / den + 1) m with h | h | h
  · obtain ⟨t, rfl⟩ := Nat.exists_eq_add_of_lt h
    have hmid : (2 * (num / den + 1 + t + 1) - 1) * den =
        2 * (den * (num / den)) + 2 * (den * t) + 3 * den := by
      rw [show 2 * (num / den + 1 + t + 1) - 1 = 2 * (num / den) + 2 * t + 3 by omega]
      ring
    rw [hmid]
    split
    · omega
    · split <;> omega
  · have hmid : (2 * m - 1) * den = 2 * (den * (num / den)) + den := by
      rw [← h, show 2 * (num / den + 1) - 1 = 2 * (num / den) + 1 by omega]
      ring
    rw [hmid]
    split
    · omega
    · split <;> omega
  · have hmid : (2 * m - 1) * den ≤ 2 * (den * (num / den)) := by
      calc (2 * m - 1) * den ≤ 2 * (num / den) * den := Nat.mul_le_mul_right den (by omega)
        _ = 2 * (den * (num / den)) := by ring
    split
    · omega
    · split <;> omega

/-! ### The quotients that are finite -/

section Significand

variable {e : Int}

/-- A quotient that is scaled down enough is below `2 ^ 53`. -/
theorem scaled_lt (hnum : 0 < num) (hden : 0 < den) (h : floorLog num den < e + 53) :
    num * (twoPower e).2 < 2 ^ 53 * (den * (twoPower e).1) := by
  rw [floorLog_eq_log hnum hden] at h
  have hlt := Int.lt_zpow_succ_log_self (R := ℚ) (b := 2) (by norm_num) ((num : ℚ) / den)
  have hpower : ((2 : ℕ) : ℚ) ^ (Int.log 2 ((num : ℚ) / den) + 1) ≤ 2 ^ (e + 53) := by
    rw [Nat.cast_ofNat]
    exact zpow_le_zpow_right₀ (by norm_num) (by omega)
  have hscaled : ((1 : ℕ) : ℚ) * (num / den) < (2 ^ 53 : ℕ) * 2 ^ e := by
    rw [Nat.cast_one, one_mul, Nat.cast_pow, Nat.cast_ofNat, mul_comm, zpow_two_mul_pow]
    exact lt_of_lt_of_le hlt hpower
  rw [← one_mul (num * _)]
  exact (mul_twoPower_lt_iff num hden e 1 (2 ^ 53)).mpr hscaled

/-- A quotient that is not scaled down too much is at least `2 ^ 52`. -/
theorem le_scaled (hnum : 0 < num) (hden : 0 < den) (h : e + 52 ≤ floorLog num den) :
    2 ^ 52 * (den * (twoPower e).1) ≤ num * (twoPower e).2 := by
  rw [floorLog_eq_log hnum hden] at h
  have hquot : (0 : ℚ) < num / den := by positivity
  have hle : (2 : ℚ) ^ (e + 52) ≤ num / den := by
    have := (Int.zpow_le_iff_le_log (b := 2) (by norm_num) hquot).mpr h
    rwa [Nat.cast_ofNat] at this
  have hscaled : ¬ ((1 : ℕ) : ℚ) * (num / den) < (2 ^ 52 : ℕ) * 2 ^ e := by
    rw [Nat.cast_one, one_mul, Nat.cast_pow, Nat.cast_ofNat, mul_comm, zpow_two_mul_pow, not_lt]
    exact hle
  rw [← not_lt, ← one_mul (num * _)]
  rwa [mul_twoPower_lt_iff num hden e 1 (2 ^ 52)]

end Significand

/-- The magnitude of a positive quotient: the place of its exponent and its significand, as far
as they are finite. -/
theorem roundRatio_val (hnum : 0 < num) (den : Nat) :
    ∃ e : Int, e = max (floorLog num den - 52) (-1074) ∧
      (roundRatio num den).val = min ((e + 1074).toNat * exponentUnit +
        divNearest (num * (twoPower e).2) (den * (twoPower e).1)) infinityMagnitude := by
  refine ⟨_, rfl, ?_⟩
  rw [roundRatio, if_neg hnum.ne']
  refine Nat.mod_eq_of_lt ?_
  have hlt : infinityMagnitude < 0x8000000000000000 := by decide
  exact lt_of_le_of_lt (min_le_right _ _) hlt

/-- No quotient rounds to NaN. -/
theorem roundRatio_le_infinity : (roundRatio num den).val ≤ infinityMagnitude := by
  rcases num.eq_zero_or_pos with rfl | hnum
  · exact Nat.zero_le _
  · obtain ⟨e, -, hval⟩ := roundRatio_val hnum den
    rw [hval]
    exact min_le_right _ _

/-- The powers around the last exponent, 971, in terms of the one before. -/
theorem exists_lastPowers : ∃ p, 0 < p ∧ overflow = (2 ^ 54 - 1) * p ∧ twoPower 970 = (p, 1) ∧
    twoPower 971 = (2 * p, 1) ∧ twoPower 972 = (2 * (2 * p), 1) := by
  have hlast : twoPower 971 = (2 * (twoPower 970).1, 1) := twoPower_succ (e := 970) (by decide)
  have hnext : twoPower 972 = (2 * (twoPower 971).1, 1) := twoPower_succ (e := 971) (by decide)
  rw [hlast] at hnext
  dsimp only at hnext
  exact ⟨_, twoPower_fst_pos 970, by rw [overflow, Nat.pow_eq], twoPower_eq_fst (by decide), hlast,
    hnext⟩

theorem overflow_pos : 0 < overflow := by
  obtain ⟨p, hpos, hoverflow, -⟩ := exists_lastPowers
  rw [hoverflow]
  exact Nat.mul_pos (by decide) hpos

/-- **A quotient rounds to a finite number** just if it is below `overflow`. -/
theorem roundRatio_lt_infinity_iff (hden : 0 < den) :
    (roundRatio num den).val < infinityMagnitude ↔ num < overflow * den := by
  have hunit : exponentUnit = 2 ^ 52 := by decide
  have hinf : infinityMagnitude = 2047 * 2 ^ 52 := by decide
  obtain ⟨p, hpos, hoverflow, h970, h971, h972⟩ := exists_lastPowers
  rw [hoverflow, hinf, Nat.mul_assoc, Nat.mul_comm p]
  rcases num.eq_zero_or_pos with rfl | hnum
  · exact iff_of_true (Nat.mul_pos (by decide) (by decide))
      (Nat.mul_pos (by decide) (Nat.mul_pos hden hpos))
  obtain ⟨e, he, hval⟩ := roundRatio_val hnum den
  have hdenom : 0 < den * (twoPower e).1 := Nat.mul_pos hden (twoPower_fst_pos e)
  have hm := divNearest_le hdenom (scaled_lt hnum hden (e := e) (by omega))
  rw [hval, hunit, hinf, min_lt_iff, or_iff_left (lt_irrefl _)]
  rcases lt_trichotomy e 971 with hsmall | rfl | hlarge
  · -- The exponent is at most the last but one, so that a carry leaves the number finite.
    have hbelow := scaled_lt hnum hden (e := 970) (by omega)
    rw [h970] at hbelow
    dsimp only at hbelow
    have hplace : (e + 1074).toNat ≤ 2044 := by omega
    omega
  · -- At the last exponent the significand decides, from which a carry gives infinity.
    have hcarry := divNearest_lt_iff (m := 2 ^ 53) (num * (twoPower 971).2) hdenom
      (by decide)
    rw [h971] at hcarry ⊢
    dsimp only at hcarry ⊢
    rw [show den * (2 * p) = 2 * (den * p) by ring] at hcarry ⊢
    rw [show (971 + 1074 : Int).toNat = 2045 by decide]
    omega
  · -- Beyond the last exponent every significand is too large.
    have habove := le_scaled hnum hden (e := 972) (by omega)
    have hm' := le_divNearest hdenom (le_scaled hnum hden (e := e) (by omega))
    rw [h972] at habove
    dsimp only at habove
    rw [show den * (2 * (2 * p)) = 4 * (den * p) by ring] at habove
    have hplace : 2046 ≤ (e + 1074).toNat := by omega
    omega

theorem isFinite_ofRatio_iff {negative : Bool} (hden : 0 < den) :
    (ofRatio negative num den).isFinite = true ↔ num < overflow * den := by
  rw [isFinite, decide_eq_true_eq]
  exact roundRatio_lt_infinity_iff hden

end MetricIngest.Binary64
