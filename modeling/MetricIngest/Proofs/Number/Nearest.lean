/-
  The quotients that round to a given number.

  A finite number other than zero is the rounding of every quotient in its interval
  (`roundRatio_of_contains`). The exponent of such a quotient is that of the number, or the one
  before if the number is a power of two and the quotient is below it, where the numbers are
  half as far apart; in both cases the whole number nearest to the scaled quotient has the
  place of the number.
-/
import MetricIngest.Number.Shortest
import MetricIngest.Proofs.Number.Rounding

namespace MetricIngest

namespace Binary64

variable {x : Binary64} {num den m : Nat} {e : Int}

/-! ### The parts of a number -/

theorem exponentUnit_eq : exponentUnit = 2 ^ 52 := by decide

/-- The place of a number on the line in terms of its significand and its scale. -/
theorem magnitude_eq (x : Binary64) :
    x.magnitude.val = (x.scale + 1074).toNat * exponentUnit + x.significand := by
  have hdiv := Nat.div_add_mod x.magnitude.val exponentUnit
  simp only [scale, significand, exponentUnit_eq] at hdiv ⊢
  split <;> omega

theorem scale_ge (x : Binary64) : -1074 ≤ x.scale := by
  simp only [scale]
  omega

theorem scale_le (h : x.isFinite = true) : x.scale ≤ 971 := by
  have hlt : x.magnitude.val < infinityMagnitude := of_decide_eq_true h
  have hdiv : x.magnitude.val / exponentUnit < 2047 := Nat.div_lt_of_lt_mul hlt
  simp only [scale]
  omega

theorem significand_lt (x : Binary64) : x.significand < 2 ^ 53 := by
  have hmod := Nat.mod_lt x.magnitude.val (show 0 < exponentUnit by decide)
  simp only [significand, exponentUnit_eq] at hmod ⊢
  split <;> omega

theorem significand_pos (h : x.magnitude.val ≠ 0) : 0 < x.significand := by
  simp only [significand, exponentUnit_eq]
  split <;> omega

/-- Numbers with the least scale aside, a significand has all its bits. -/
theorem le_significand (h : -1074 < x.scale) : 2 ^ 52 ≤ x.significand := by
  have hge : ¬x.magnitude.val < exponentUnit := by
    intro hlt
    rw [scale, Nat.div_eq_of_lt hlt] at h
    exact absurd h (by decide)
  rw [significand, if_neg hge, exponentUnit_eq]
  exact Nat.le_add_right _ _

/-! ### Rounding a scaled quotient -/

/-- A quotient is rounded to the whole number that is not more than a half away, if it is even
or nearer than that. -/
theorem divNearest_eq (hm : 0 < m) (hden : 0 < den) (hlow : (2 * m - 1) * den ≤ 2 * num)
    (hhigh : 2 * num ≤ (2 * m + 1) * den)
    (hodd : m % 2 = 1 → (2 * m - 1) * den ≠ 2 * num ∧ 2 * num ≠ (2 * m + 1) * den) :
    divNearest num den = m := by
  obtain ⟨k, rfl⟩ := Nat.exists_eq_add_of_lt hm
  have hrest := Nat.div_add_mod num den
  have hlt := Nat.mod_lt num hden
  have hlow' : (2 * (0 + k + 1) - 1) * den = 2 * (den * k) + den := by
    rw [show 2 * (0 + k + 1) - 1 = 2 * k + 1 by omega]
    ring
  have hhigh' : (2 * (0 + k + 1) + 1) * den = 2 * (den * k) + 3 * den := by ring
  rw [hlow'] at hlow hodd
  rw [hhigh'] at hhigh hodd
  -- The whole part of the quotient is the number itself or the one before.
  have hle : k ≤ num / den := by
    by_contra hk
    have : den * (num / den) + den ≤ den * k := by
      rw [← Nat.mul_succ]
      exact Nat.mul_le_mul_left den (by omega)
    omega
  have hge : num / den ≤ k + 1 := by
    by_contra hk
    have : den * k + 2 * den ≤ den * (num / den) := by
      calc den * k + 2 * den = den * (k + 2) := by ring
        _ ≤ den * (num / den) := Nat.mul_le_mul_left den (by omega)
    omega
  simp only [divNearest]
  obtain hquot | hquot : num / den = k ∨ num / den = k + 1 := by omega
  · rw [hquot] at hrest ⊢
    split
    · omega
    · split <;> omega
  · rw [hquot, Nat.mul_succ] at hrest
    rw [hquot]
    split
    · omega
    · split <;> omega

/-- A scaled quotient is rounded to the whole number that is not more than a half away. -/
theorem divNearest_scaled (hm : 0 < m) (hden : 0 < den)
    (hlow : ((2 * m - 1 : Nat) : ℚ) * 2 ^ e ≤ 2 * (num / den))
    (hhigh : 2 * ((num : ℚ) / den) ≤ (2 * m + 1 : Nat) * 2 ^ e)
    (hodd : m % 2 = 1 → ((2 * m - 1 : Nat) : ℚ) * 2 ^ e ≠ 2 * (num / den) ∧
      2 * ((num : ℚ) / den) ≠ (2 * m + 1 : Nat) * 2 ^ e) :
    divNearest (num * (twoPower e).2) (den * (twoPower e).1) = m := by
  have hbelow := mul_twoPower_lt_iff num hden e 2
  have habove := lt_mul_twoPower_iff num hden e 2
  rw [Nat.cast_ofNat] at hbelow habove
  refine divNearest_eq hm (Nat.mul_pos hden (twoPower_fst_pos e)) ?_ ?_ fun h => ⟨?_, ?_⟩
  · rw [← not_lt, hbelow, not_lt]
    exact hlow
  · rw [← not_lt, habove, not_lt]
    exact hhigh
  · have hlt := (habove _).mpr (lt_of_le_of_ne hlow (hodd h).1)
    exact hlt.ne
  · have hlt := (hbelow _).mpr (lt_of_le_of_ne hhigh (hodd h).2)
    exact hlt.ne

theorem floorLog_lt_iff (hnum : 0 < num) (hden : 0 < den) :
    floorLog num den < e ↔ (num : ℚ) / den < 2 ^ e := by
  have hquot : (0 : ℚ) < num / den := by positivity
  rw [floorLog_eq_log hnum hden, ← Int.lt_zpow_iff_log_lt (by norm_num) hquot, Nat.cast_ofNat]

/-- The exponent at which a quotient is rounded: the significand has all its bits, unless the
exponent is the least one. -/
theorem exponent_eq (hnum : 0 < num) (hden : 0 < den) (hge : -1074 ≤ e)
    (hlow : e = -1074 ∨ (2 : ℚ) ^ (e + 52) ≤ num / den) (hhigh : (num : ℚ) / den < 2 ^ (e + 53)) :
    max (floorLog num den - 52) (-1074) = e := by
  have hlt := (floorLog_lt_iff hnum hden).mpr hhigh
  rcases hlow with rfl | hlow
  · omega
  · have hle := mt (floorLog_lt_iff hnum hden).mp (not_lt.mpr hlow)
    omega

/-- The magnitude of a quotient, if its exponent and its significand are known. -/
theorem roundRatio_eq (hnum : 0 < num) (he : max (floorLog num den - 52) (-1074) = e)
    (hm : divNearest (num * (twoPower e).2) (den * (twoPower e).1) = m)
    (hplace : (e + 1074).toNat * exponentUnit + m = x.magnitude.val) (hfinite : x.isFinite = true) :
    roundRatio num den = x.magnitude := by
  have hlt : x.magnitude.val < infinityMagnitude := of_decide_eq_true hfinite
  obtain ⟨e', he', hval⟩ := roundRatio_val hnum den
  obtain rfl : e' = e := he'.trans he
  rw [hm, hplace] at hval
  exact Fin.ext (hval.trans (min_eq_left hlt.le))

end Binary64

namespace Shortest

open Binary64

variable {x : Binary64} {num den : Nat} {q : ℚ}

/-! ### The interval of a number -/

/-- Whether a number is among the reals of the interval. -/
def Interval.Contains (i : Interval) (q : ℚ) : Prop :=
  i.low * 2 ^ i.scale ≤ q ∧ q ≤ i.high * 2 ^ i.scale ∧
    (i.closed = false → (i.low : ℚ) * 2 ^ i.scale ≠ q ∧ q ≠ i.high * 2 ^ i.scale)

/-- The interval in terms of the parts of the number: its lower end is a half of a unit in the
last place below, or a quarter if the number is a power of two with others below it that are
half as far apart. -/
theorem interval_of (x : Binary64) : ∃ w : Nat, Interval.of x =
      ⟨4 * x.significand - w, 4 * x.significand, 4 * x.significand + 2,
        decide (x.significand % 2 = 0), x.scale - 2⟩ ∧
    (x.significand = 2 ^ 52 ∧ -1074 < x.scale ∧ w = 1 ∨
      ¬(x.significand = 2 ^ 52 ∧ -1074 < x.scale) ∧ w = 2) := by
  rw [← exponentUnit_eq]
  by_cases h : x.significand = exponentUnit ∧ -1074 < x.scale
  · exact ⟨1, by simp [Interval.of, h], Or.inl ⟨h.1, h.2, rfl⟩⟩
  · exact ⟨2, by simp [Interval.of, h], Or.inr ⟨h, rfl⟩⟩

/-- **A finite number is the rounding** of every quotient in its interval. -/
theorem roundRatio_of_contains (hfinite : x.isFinite = true) (hx : 0 < x.significand)
    (hden : 0 < den) (h : (Interval.of x).Contains (num / den)) :
    roundRatio num den = x.magnitude := by
  obtain ⟨w, hof, hw⟩ := interval_of x
  rw [hof] at h
  obtain ⟨hlow, hhigh, hends⟩ := h
  dsimp only at hlow hhigh hends
  have hlt := x.significand_lt
  have hscale := x.scale_ge
  have hplace := x.magnitude_eq
  have hsome : 0 < num := by
    rcases num.eq_zero_or_pos with rfl | hnum
    · rw [Nat.cast_zero, zero_div] at hlow
      have : (0 : ℚ) < (4 * x.significand - w : Nat) * 2 ^ (x.scale - 2) := by
        have : 0 < 4 * x.significand - w := by omega
        positivity
      exact absurd hlow (not_le.mpr this)
    · exact hnum
  -- Everything is compared in quarters of a unit in the last place.
  obtain ⟨u, hu⟩ : ∃ u : ℚ, (2 : ℚ) ^ (x.scale - 2) = u := ⟨_, rfl⟩
  obtain ⟨q, hq⟩ : ∃ q : ℚ, (num : ℚ) / den = q := ⟨_, rfl⟩
  have hpower (n : Nat) {e : Int} (he : e = x.scale - 2 + n) : (2 : ℚ) ^ e = (2 ^ n : Nat) * u := by
    rw [he, ← zpow_two_mul_pow, hu, mul_comm, Nat.cast_pow, Nat.cast_ofNat]
  have hpos : 0 < u := hu ▸ zpow_pos (by norm_num) _
  have hquarters {a b : Nat} (hab : a ≤ b) : (a : ℚ) * u ≤ b * u := by gcongr
  have hone : (2 : ℚ) ^ (x.scale - 1) = (2 ^ 1 : Nat) * u := hpower 1 (by push_cast; omega)
  have htwo : (2 : ℚ) ^ x.scale = (2 ^ 2 : Nat) * u := hpower 2 (by push_cast; omega)
  rw [hq, hu] at hlow hhigh hends
  by_cases hbelow : x.significand = 2 ^ 52 ∧ -1074 < x.scale ∧ q < (2 ^ 54 : Nat) * u
  · -- A quotient below a power of two has the exponent before, and is rounded up.
    obtain ⟨hm, hs, hq54⟩ := hbelow
    obtain rfl : w = 1 := by omega
    rw [hm] at hlow hhigh
    have heven : (2 ^ 53) % 2 ≠ 1 := by norm_num
    refine roundRatio_eq (m := 2 ^ 53) hsome (exponent_eq (e := x.scale - 1) hsome hden (by omega)
      (Or.inr ?_) ?_) (divNearest_scaled (by decide) hden ?_ ?_ fun h => absurd h heven) ?_ hfinite
    · rw [hpower 53 (by push_cast; omega), hq]
      exact (hquarters (by decide)).trans hlow
    · rw [hpower 54 (by push_cast; omega), hq]
      exact hq54
    · rw [hone, hq]
      norm_num at hlow ⊢
      linarith
    · rw [hone, hq]
      norm_num at hq54 ⊢
      linarith
    · rw [hplace, hm, exponentUnit_eq]
      omega
  · -- Otherwise the exponent is that of the number.
    have heven : x.significand % 2 = 1 → w = 2 := by omega
    have hfar : ((2 * x.significand - 1 : Nat) : ℚ) * 2 ^ x.scale =
        2 * ((4 * x.significand - 2 : Nat) * u) := by
      have hnat : (2 * x.significand - 1) * 2 ^ 2 = 2 * (4 * x.significand - 2) := by omega
      rw [htwo, ← mul_assoc, ← mul_assoc, ← Nat.cast_mul, hnat, Nat.cast_mul, Nat.cast_ofNat]
    have hnear : ((2 * x.significand + 1 : Nat) : ℚ) * 2 ^ x.scale =
        2 * ((4 * x.significand + 2 : Nat) * u) := by
      have hnat : (2 * x.significand + 1) * 2 ^ 2 = 2 * (4 * x.significand + 2) := by omega
      rw [htwo, ← mul_assoc, ← mul_assoc, ← Nat.cast_mul, hnat, Nat.cast_mul, Nat.cast_ofNat]
    refine roundRatio_eq (m := x.significand) hsome (exponent_eq (e := x.scale) hsome hden hscale
      ?_ ?_) (divNearest_scaled hx hden ?_ ?_ ?_) hplace.symm hfinite
    · rcases eq_or_lt_of_le hscale with hs | hs
      · exact Or.inl hs.symm
      · have hm := le_significand hs
        rw [hpower 54 (by push_cast; omega), hq]
        rcases eq_or_lt_of_le hm with hm | hm
        · exact Or.inr (not_lt.mp fun hlt => hbelow ⟨hm.symm, hs, hlt⟩)
        · exact Or.inr ((hquarters (by omega)).trans hlow)
    · rw [hpower 55 (by push_cast; omega), hq]
      refine lt_of_le_of_lt hhigh ?_
      have : 4 * x.significand + 2 < 2 ^ 55 := by omega
      gcongr
    · rw [hfar, hq, mul_le_mul_iff_right₀ (by norm_num)]
      exact (hquarters (by omega)).trans hlow
    · rw [hnear, hq, mul_le_mul_iff_right₀ (by norm_num)]
      exact hhigh
    · intro hodd
      obtain ⟨hlow', hhigh'⟩ := hends (by simp [hodd])
      rw [heven hodd] at hlow'
      rw [hfar, hnear, hq]
      exact ⟨fun h => hlow' (mul_left_cancel₀ (by norm_num) h),
        fun h => hhigh' (mul_left_cancel₀ (by norm_num) h)⟩

end Shortest

end MetricIngest
