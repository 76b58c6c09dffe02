/-
  The shortest decimal of a number reads back to it.

  Whatever grid the search ends on, its decimal lies in the interval of the number
  (`contains_digits`): either it was found to, or it is the nearest of seventeen places after
  the first digit, which is nearer than a quarter of a unit in the last place. A decimal in the
  interval is read as the number (`ofDecimal_of_contains`), however it is written.
-/
import MetricIngest.Proofs.Number.Nearest

namespace MetricIngest

namespace Shortest

open Binary64

variable {x : Binary64} {i : Interval} {q : ℚ}

/-! ### Powers of ten -/

theorem tenPower_fst (p : Int) : ((tenPower p).1 : ℚ) = 10 ^ p * (tenPower p).2 := by
  simp only [tenPower, Nat.pow_eq]
  push_cast
  exact pow_toNat_eq (by norm_num) p

theorem tenPower_fst_pos (p : Int) : 0 < (tenPower p).1 := Nat.pow_pos (by decide)

theorem tenPower_snd_pos (p : Int) : 0 < (tenPower p).2 := Nat.pow_pos (by decide)

/-- Multiples of a power of ten and of a power of two over one denominator. -/
theorem exists_common (p e : Int) : ∃ c : ℚ, 0 < c ∧
    (∀ a : Nat, ((a * (tenPower p).1 * (twoPower e).2 : Nat) : ℚ) = a * 10 ^ p * c) ∧
    ∀ b : Nat, ((b * (twoPower e).1 * (tenPower p).2 : Nat) : ℚ) = b * 2 ^ e * c := by
  have hten : (0 : ℚ) < (tenPower p).2 := by exact_mod_cast tenPower_snd_pos p
  have htwo : (0 : ℚ) < (twoPower e).2 := by exact_mod_cast twoPower_snd_pos e
  refine ⟨(tenPower p).2 * (twoPower e).2, mul_pos hten htwo, fun a => ?_, fun b => ?_⟩
  · push_cast
    rw [tenPower_fst]
    ring
  · push_cast
    rw [twoPower_fst]
    ring

/-- **A decimal is found to lie in the interval** just if it does. -/
theorem holds_iff (i : Interval) (d : Nat) (p : Int) :
    i.holds d p = true ↔ i.Contains (d * 10 ^ p) := by
  obtain ⟨c, hc, hten, htwo⟩ := exists_common p i.scale
  have hlow : i.low * (twoPower i.scale).1 * (tenPower p).2 ≤
      d * (tenPower p).1 * (twoPower i.scale).2 ↔ (i.low : ℚ) * 2 ^ i.scale ≤ d * 10 ^ p := by
    rw [← Nat.cast_le (α := ℚ), hten, htwo, mul_le_mul_iff_left₀ hc]
  have hhigh : d * (tenPower p).1 * (twoPower i.scale).2 ≤
      i.high * (twoPower i.scale).1 * (tenPower p).2 ↔ (d : ℚ) * 10 ^ p ≤ i.high * 2 ^ i.scale := by
    rw [← Nat.cast_le (α := ℚ), hten, htwo, mul_le_mul_iff_left₀ hc]
  simp only [Interval.holds, Interval.Contains]
  cases i.closed with
  | true => simp [hlow, hhigh]
  | false =>
    have hlow' : i.low * (twoPower i.scale).1 * (tenPower p).2 <
        d * (tenPower p).1 * (twoPower i.scale).2 ↔ (i.low : ℚ) * 2 ^ i.scale < d * 10 ^ p := by
      rw [← Nat.cast_lt (α := ℚ), hten, htwo, mul_lt_mul_iff_left₀ hc]
    have hhigh' : d * (tenPower p).1 * (twoPower i.scale).2 <
        i.high * (twoPower i.scale).1 * (tenPower p).2 ↔
          (d : ℚ) * 10 ^ p < i.high * 2 ^ i.scale := by
      rw [← Nat.cast_lt (α := ℚ), hten, htwo, mul_lt_mul_iff_left₀ hc]
    simp only [Bool.false_eq_true, if_false, Bool.and_eq_true, decide_eq_true_eq, hlow', hhigh',
      forall_const]
    constructor
    · exact fun h => ⟨h.1.le, h.2.le, h.1.ne, h.2.ne⟩
    · exact fun h => ⟨lt_of_le_of_ne h.1 h.2.2.1, lt_of_le_of_ne h.2.1 h.2.2.2⟩

/-! ### The magnitude of the centre -/

/-- An upper bound `n / k` of the binary logarithm of ten, for exponents that are not negative. -/
theorem tenPower_le_of_nonneg {n k : Nat} (hn : 0 < n) (hk : 10 ^ k ≤ 2 ^ n) {p e : Int}
    (he : 0 ≤ e) (hp : p * n ≤ k * e) : (10 : ℚ) ^ p ≤ 2 ^ e := by
  have hbase : (10 : ℚ) ^ k ≤ 2 ^ n := by exact_mod_cast hk
  obtain ⟨m, rfl⟩ := Int.eq_ofNat_of_zero_le he
  refine (pow_le_pow_iff_left₀ (by positivity) (by positivity) hn.ne').mp ?_
  calc ((10 : ℚ) ^ p) ^ n = 10 ^ (p * n) := by rw [zpow_mul, zpow_natCast]
    _ ≤ 10 ^ ((k : Int) * m) := zpow_le_zpow_right₀ (by norm_num) hp
    _ = (10 ^ k) ^ m := by rw [zpow_mul, zpow_natCast, zpow_natCast]
    _ ≤ (2 ^ n) ^ m := by gcongr
    _ = (2 ^ (m : Int)) ^ n := by rw [zpow_natCast, ← pow_mul, ← pow_mul, mul_comm]

/-- A lower bound of it, for exponents that are negative. -/
theorem tenPower_le_of_neg {n k : Nat} (hn : 0 < n) (hk : 2 ^ n ≤ 10 ^ k) {p e : Int} (he : e < 0)
    (hp : p * n ≤ k * e) : (10 : ℚ) ^ p ≤ 2 ^ e := by
  have hbase : (2 : ℚ) ^ n ≤ 10 ^ k := by exact_mod_cast hk
  obtain ⟨m, rfl⟩ : ∃ m : Nat, e = -(m : Int) := ⟨e.natAbs, by omega⟩
  refine (pow_le_pow_iff_left₀ (by positivity) (by positivity) hn.ne').mp ?_
  calc ((10 : ℚ) ^ p) ^ n = 10 ^ (p * n) := by rw [zpow_mul, zpow_natCast]
    _ ≤ 10 ^ ((k : Int) * -(m : Int)) := zpow_le_zpow_right₀ (by norm_num) hp
    _ = ((10 ^ k) ^ m)⁻¹ := by rw [zpow_mul, zpow_natCast, zpow_neg, zpow_natCast]
    _ ≤ ((2 ^ n) ^ m)⁻¹ := by gcongr
    _ = (2 ^ (-(m : Int))) ^ n := by
        rw [zpow_neg, zpow_natCast, inv_pow, ← pow_mul, ← pow_mul, mul_comm]

/-- The quotient 1233 / 4096 is just below the decimal logarithm of two, and near enough to it
for all exponents down to -4096. -/
theorem tenPower_le_twoPower {e p : Int} (he : -4096 ≤ e)
    (hp : p + 1 ≤ e * 1233 / 4096) : (10 : ℚ) ^ p ≤ 2 ^ e := by
  have hbelow : 10 ^ 1233 ≤ 2 ^ 4096 := by decide +kernel
  have habove : 2 ^ 4096 ≤ 10 ^ 1234 := by decide +kernel
  rcases lt_or_ge e 0 with hneg | hpos
  · refine tenPower_le_of_neg (by decide) habove hneg ?_
    push_cast
    omega
  · refine tenPower_le_of_nonneg (by decide) hbelow hpos ?_
    push_cast
    omega

/-- **The magnitude of an interval** is that of a power of ten not above the centre. -/
theorem tenPower_magnitude_le (hcentre : 0 < i.centre) (hscale : -4096 ≤ i.scale) :
    (10 : ℚ) ^ i.magnitude ≤ i.centre * 2 ^ i.scale := by
  have hreaches (p : Int) : (tenPower p).1 * (twoPower i.scale).2 ≤
      i.centre * (twoPower i.scale).1 * (tenPower p).2 ↔
        (10 : ℚ) ^ p ≤ i.centre * 2 ^ i.scale := by
    obtain ⟨c, hc, hten, htwo⟩ := exists_common p i.scale
    have hone := hten 1
    rw [one_mul, Nat.cast_one, one_mul] at hone
    rw [← Nat.cast_le (α := ℚ), hone, htwo, mul_le_mul_iff_left₀ hc]
  -- The estimate less one needs no comparison: it is below the power of two of the centre.
  have hestimate : (10 : ℚ) ^ ((i.centre.log2 + i.scale) * 1233 / 4096 - 1) ≤
      i.centre * 2 ^ i.scale := by
    have hlog : (2 : ℚ) ^ i.centre.log2 ≤ i.centre := by
      exact_mod_cast Nat.log2_self_le hcentre.ne'
    calc (10 : ℚ) ^ ((i.centre.log2 + i.scale) * 1233 / 4096 - 1)
        ≤ 2 ^ (i.centre.log2 + i.scale) := tenPower_le_twoPower (by omega) (by omega)
      _ = 2 ^ i.centre.log2 * 2 ^ i.scale := by rw [zpow_add₀ (by norm_num), zpow_natCast]
      _ ≤ i.centre * 2 ^ i.scale := by gcongr
  simp only [Interval.magnitude, decide_eq_true_eq, hreaches]
  split
  · assumption
  · split
    · assumption
    · exact hestimate

/-! ### The search -/

/-- The nearest whole number is not more than a half away. -/
theorem abs_divNearest_sub_le {den : Nat} (num : Nat) (hden : 0 < den) :
    |(divNearest num den : ℚ) - num / den| ≤ 1 / 2 := by
  have hden' : (0 : ℚ) < den := by exact_mod_cast hden
  have hrest := Nat.div_add_mod num den
  have hlt := Nat.mod_lt num hden
  have hnat : 2 * num ≤ 2 * (den * divNearest num den) + den ∧
      2 * (den * divNearest num den) ≤ 2 * num + den := by
    simp only [divNearest]
    split
    · omega
    · split
      · rw [Nat.mul_add]
        omega
      · rw [Nat.mul_add]
        obtain h | h : num / den % 2 = 0 ∨ num / den % 2 = 1 := by omega
        · rw [h]
          omega
        · rw [h]
          omega
  have hlow : (2 : ℚ) * num ≤ 2 * (den * divNearest num den) + den := by exact_mod_cast hnat.1
  have hhigh : (2 : ℚ) * (den * divNearest num den) ≤ 2 * num + den := by exact_mod_cast hnat.2
  rw [abs_le, neg_le_sub_iff_le_add, sub_le_iff_le_add, div_le_iff₀ hden', ← sub_le_iff_le_add',
    le_div_iff₀ hden']
  constructor <;> linarith

/-- The value of a decimal. -/
def Digits.value (d : Digits) : ℚ := d.digits * 10 ^ d.exponent

theorem contains_onGrid {p : Int} {d : Digits} (h : i.onGrid? p = some d) : i.Contains d.value := by
  unfold Interval.onGrid? at h
  extract_lets unit ten num den near far at h
  split at h
  · rename_i hholds
    cases h
    exact (holds_iff i near p).mp hholds
  · split at h
    · rename_i hholds
      cases h
      exact (holds_iff i far p).mp hholds
    · cases h

/-- The point of a grid that is nearest to the centre. -/
theorem abs_nearest_sub_le (i : Interval) (p : Int) :
    |(divNearest (i.centre * (twoPower i.scale).1 * (tenPower p).2)
        ((twoPower i.scale).2 * (tenPower p).1) : ℚ) * 10 ^ p - i.centre * 2 ^ i.scale| ≤
      10 ^ p / 2 := by
  obtain ⟨c, hc, hten, htwo⟩ := exists_common p i.scale
  have hgrid : (0 : ℚ) < 10 ^ p := by positivity
  have hone := hten 1
  rw [one_mul, Nat.cast_one, one_mul, Nat.mul_comm] at hone
  have hnear := abs_divNearest_sub_le (i.centre * (twoPower i.scale).1 * (tenPower p).2)
    (Nat.mul_pos (twoPower_snd_pos i.scale) (tenPower_fst_pos p))
  rw [hone, htwo, mul_div_mul_right _ _ hc.ne'] at hnear
  rw [abs_le] at hnear ⊢
  obtain ⟨hlow, hhigh⟩ := hnear
  have hcentre : (i.centre : ℚ) * 2 ^ i.scale / 10 ^ p * 10 ^ p = i.centre * 2 ^ i.scale :=
    div_mul_cancel₀ _ hgrid.ne'
  have hlow' := mul_le_mul_of_nonneg_right hlow hgrid.le
  have hhigh' := mul_le_mul_of_nonneg_right hhigh hgrid.le
  rw [sub_mul, hcentre] at hlow' hhigh'
  constructor <;> linarith

/-- **Seventeen places after the first digit are enough**: the grid is then so fine that its
point nearest to the number is in the interval. -/
theorem contains_nearest (hx : 0 < x.significand) :
    (Interval.of x).Contains (Digits.value ⟨divNearest
      ((Interval.of x).centre * (twoPower (Interval.of x).scale).1 *
        (tenPower ((Interval.of x).magnitude - 17)).2)
      ((twoPower (Interval.of x).scale).2 * (tenPower ((Interval.of x).magnitude - 17)).1),
      (Interval.of x).magnitude - 17⟩) := by
  obtain ⟨w, hof, hw⟩ := interval_of x
  have hlt := x.significand_lt
  have hscale := x.scale_ge
  have hnear := abs_nearest_sub_le (Interval.of x) ((Interval.of x).magnitude - 17)
  have htop : (10 : ℚ) ^ (Interval.of x).magnitude ≤
      (Interval.of x).centre * 2 ^ (Interval.of x).scale :=
    tenPower_magnitude_le (by rw [hof]; dsimp only; omega) (by rw [hof]; dsimp only; omega)
  rw [zpow_sub₀ (by norm_num)] at hnear
  rw [Digits.value, zpow_sub₀ (by norm_num)]
  generalize (Interval.of x).magnitude = top at hnear htop ⊢
  rw [hof] at hnear htop ⊢
  dsimp only at hnear htop ⊢
  obtain ⟨u, hu⟩ : ∃ u : ℚ, (2 : ℚ) ^ (x.scale - 2) = u := ⟨_, rfl⟩
  have hpos : 0 < u := hu ▸ zpow_pos (by norm_num) _
  rw [hu] at hnear htop
  obtain ⟨hlow, hhigh⟩ := abs_le.mp hnear
  -- Half a step of the grid is less than `u`, a quarter of a unit in the last place.
  have hgrid : (10 : ℚ) ^ top / 10 ^ (17 : Int) / 2 < u := by
    have hcentre : ((4 * x.significand : Nat) : ℚ) * u < (2 ^ 55 : Nat) * u := by
      have : 4 * x.significand < 2 ^ 55 := by omega
      gcongr
    norm_num at hcentre htop ⊢
    linarith
  have hlow' : ((4 * x.significand - w : Nat) : ℚ) * u ≤ (4 * x.significand : Nat) * u - u := by
    have hle : ((4 * x.significand - w + 1 : Nat) : ℚ) * u ≤ (4 * x.significand : Nat) * u := by
      have : 4 * x.significand - w + 1 ≤ 4 * x.significand := by omega
      gcongr
    rw [Nat.cast_add, Nat.cast_one, add_mul, one_mul] at hle
    linarith
  have hhigh' : ((4 * x.significand : Nat) : ℚ) * u + u ≤ (4 * x.significand + 2 : Nat) * u := by
    rw [Nat.cast_add, add_mul, Nat.cast_ofNat]
    linarith
  rw [Interval.Contains, hu]
  refine ⟨by linarith, by linarith, fun _ => ⟨?_, ?_⟩⟩
  · exact ne_of_lt (by linarith)
  · exact ne_of_lt (by linarith)

/-- **The search ends in the interval**, after at most seventeen places. -/
theorem contains_search (hx : 0 < x.significand) (fuel : Nat) (places : Int)
    (h : places + fuel = 17) :
    (Interval.of x).Contains
      ((Interval.of x).search (Interval.of x).magnitude fuel places).value := by
  induction fuel generalizing places with
  | zero =>
    obtain rfl : places = 17 := by omega
    exact contains_nearest hx
  | succ fuel ih =>
    rw [Interval.search]
    split
    · rename_i d hd
      exact contains_onGrid hd
    · exact ih (places + 1) (by push_cast at h; omega)

/-- Taking off zeros leaves the value. -/
theorem value_trim (d : Digits) : d.trim.value = d.value := by
  fun_induction Digits.trim d with
  | case1 d h ih =>
    rw [ih, Digits.value, Digits.value, zpow_add_one₀ (by norm_num)]
    have hten : d.digits / 10 * 10 = d.digits := Nat.div_mul_cancel (Nat.dvd_of_mod_eq_zero h.2)
    have hten' : ((d.digits / 10 : Nat) : ℚ) * 10 = d.digits := by exact_mod_cast hten
    rw [← hten']
    ring
  | case2 d h => rfl

/-- **The shortest decimal lies in the interval of its number.** -/
theorem contains_digits (hx : 0 < x.significand) : (Interval.of x).Contains (digits x).value := by
  rw [digits, if_neg hx.ne', value_trim]
  exact contains_search hx 17 0 (by decide)

/-! ### Reading a decimal of the interval -/

/-- The interval of a number is in the range of the finite numbers that are not zero. -/
theorem bounds_of_contains (hfinite : x.isFinite = true) (hx : 0 < x.significand)
    (h : (Interval.of x).Contains q) : (2 : ℚ) ^ (-1075 : Int) ≤ q ∧ q ≤ 2 ^ (1024 : Int) := by
  obtain ⟨w, hof, hw⟩ := interval_of x
  have hlt := x.significand_lt
  have hscale := x.scale_ge
  have hscale' := scale_le hfinite
  rw [hof] at h
  obtain ⟨hlow, hhigh, -⟩ := h
  dsimp only at hlow hhigh
  constructor
  · have hle : 2 ≤ 4 * x.significand - w := by omega
    calc (2 : ℚ) ^ (-1075 : Int) = (2 : Nat) * 2 ^ (-1076 : Int) := by
          rw [Nat.cast_ofNat, ← zpow_one_add₀ (by norm_num)]
          norm_num
      _ ≤ (4 * x.significand - w : Nat) * 2 ^ (x.scale - 2) := by
          gcongr
          · norm_num
          · omega
      _ ≤ q := hlow
  · have hle : 4 * x.significand + 2 ≤ 2 ^ 55 := by omega
    calc q ≤ (4 * x.significand + 2 : Nat) * 2 ^ (x.scale - 2) := hhigh
      _ ≤ (2 ^ 55 : Nat) * 2 ^ (969 : Int) := by
          gcongr
          · norm_num
          · omega
      _ = 2 ^ (1024 : Int) := by
          rw [Nat.cast_pow, Nat.cast_ofNat, ← zpow_natCast, ← zpow_add₀ (by norm_num)]
          norm_num

/-- **A decimal in the interval of a number is read as the number**, with whatever number of
digits it is written. -/
theorem ofDecimal_of_contains {size n : Nat} {e : Int} (negative : Bool)
    (hfinite : x.isFinite = true) (hx : 0 < x.significand) (hsize : n < 10 ^ size)
    (h : (Interval.of x).Contains (n * 10 ^ e)) :
    ofDecimal negative size n e = ⟨negative, x.magnitude⟩ := by
  obtain ⟨hlow, hhigh⟩ := bounds_of_contains hfinite hx h
  have hn : n ≠ 0 := by
    rintro rfl
    rw [Nat.cast_zero, zero_mul] at hlow
    exact absurd hlow (not_le.mpr (by positivity))
  -- The decimal is computed, since it is within the range of the finite numbers.
  have hsmall : ¬(size : Int) + e < -330 := by
    intro hlt
    have habove : (n : ℚ) * 10 ^ e < 2 ^ (-1075 : Int) := by
      calc (n : ℚ) * 10 ^ e < (10 ^ size : Nat) * 10 ^ e := by gcongr
        _ = 10 ^ ((size : Int) + e) := by
            rw [Nat.cast_pow, Nat.cast_ofNat, ← zpow_natCast, ← zpow_add₀ (by norm_num)]
        _ ≤ 10 ^ (-331 : Int) := zpow_le_zpow_right₀ (by norm_num) (by omega)
        _ ≤ 2 ^ (-1075 : Int) := tenPower_le_twoPower (by decide) (by decide)
    exact absurd hlow (not_le.mpr habove)
  have hlarge : ¬400 < e := by
    intro hlt
    have hbelow : (2 : ℚ) ^ (1024 : Int) < n * 10 ^ e := by
      calc (2 : ℚ) ^ (1024 : Int) ≤ 2 ^ (3 * 400 : Int) :=
            zpow_le_zpow_right₀ (by norm_num) (by decide)
        _ = (2 ^ (3 : Int)) ^ (400 : Int) := zpow_mul _ _ _
        _ ≤ 10 ^ (400 : Int) := zpow_le_zpow_left₀ (by norm_num) (by norm_num) (by norm_num)
        _ < 10 ^ e := zpow_lt_zpow_right₀ (by norm_num) hlt
        _ ≤ n * 10 ^ e := le_mul_of_one_le_left (by positivity) (by exact_mod_cast hn.bot_lt)
    exact absurd hhigh (not_le.mpr hbelow)
  rw [ofDecimal, if_neg hn, if_neg hsmall]
  by_cases hnonneg : 0 ≤ e
  · obtain ⟨k, rfl⟩ := Int.eq_ofNat_of_zero_le hnonneg
    have hvalue : ((n * Nat.pow 10 (k : Int).toNat : Nat) : ℚ) / (1 : Nat) =
        n * 10 ^ (k : Int) := by
      rw [Int.toNat_natCast, Nat.pow_eq, zpow_natCast]
      push_cast
      ring
    rw [if_pos hnonneg, if_neg hlarge, ofRatio]
    exact congrArg _ (roundRatio_of_contains hfinite hx (by decide) (hvalue ▸ h))
  · obtain ⟨k, rfl⟩ : ∃ k : Nat, e = -(k : Int) := ⟨e.natAbs, by omega⟩
    have hvalue : (n : ℚ) / (Nat.pow 10 (-(-(k : Int))).toNat : Nat) = n * 10 ^ (-(k : Int)) := by
      rw [Int.neg_neg, Int.toNat_natCast, Nat.pow_eq, zpow_neg, zpow_natCast]
      push_cast
      ring
    rw [if_neg hnonneg, ofRatio]
    exact congrArg _ (roundRatio_of_contains hfinite hx (Nat.pow_pos (by decide)) (hvalue ▸ h))

end Shortest

end MetricIngest
