import QuantumAnalytics.Foundations.DecimalLaws

/-!
# Decimals at a scale

Rounding a decimal to a number of decimal places denotes the rounding of the
number, and the rounding keeps the sign of the number.
-/

namespace QuantumAnalytics

namespace RoundingMode

/-- Every mode rounds to one of the two next integers. -/
theorem floor_le_toInt_le_ceil (mode : RoundingMode) (x : ℚ) :
    ⌊x⌋ ≤ mode.toInt x ∧ mode.toInt x ≤ ⌈x⌉ := by
  have between := Int.floor_le_ceil x
  have lower := Int.lt_floor_add_one x
  have next : (⌊x⌋ : ℚ) < x → ⌊x⌋ + 1 ≤ ⌈x⌉ := fun strict => Int.lt_ceil.mpr strict
  cases mode with
  | floor => exact ⟨le_rfl, between⟩
  | ceiling => exact ⟨between, le_rfl⟩
  | down =>
      simp only [toInt]
      split_ifs
      · exact ⟨le_rfl, between⟩
      · exact ⟨between, le_rfl⟩
  | up =>
      simp only [toInt]
      split_ifs
      · exact ⟨between, le_rfl⟩
      · exact ⟨le_rfl, between⟩
  | halfUp =>
      simp only [toInt]
      split_ifs
      · refine ⟨Int.floor_le_floor (by linarith), Int.lt_add_one_iff.mp (Int.floor_lt.mpr ?_)⟩
        have upper := Int.le_ceil x
        push_cast
        linarith
      · refine ⟨Int.sub_one_lt_iff.mp (Int.lt_ceil.mpr ?_), Int.ceil_le_ceil (by linarith)⟩
        have upper := Int.floor_le x
        push_cast
        linarith
  | halfEven =>
      simp only [toInt]
      split_ifs with below above even
      · exact ⟨le_rfl, between⟩
      · exact ⟨by omega, next (by linarith)⟩
      · exact ⟨le_rfl, between⟩
      · exact ⟨by omega, next (by linarith)⟩

/-- A number that is not negative is rounded to one that is not negative. -/
theorem toInt_nonneg
    (mode : RoundingMode)
    {x : ℚ}
    (nonnegative : 0 ≤ x) : 0 ≤ mode.toInt x :=
  (Int.floor_nonneg.mpr nonnegative).trans (mode.floor_le_toInt_le_ceil x).1

/-- Rounding keeps a number within an integer bound. -/
theorem abs_atScale_le
    (mode : RoundingMode)
    (scale : Nat)
    {x : ℚ}
    {n : ℤ}
    (small : |x| ≤ n) : |mode.atScale scale x| ≤ n := by
  have power : (0 : ℚ) < 10 ^ scale := by positivity
  obtain ⟨lower, upper⟩ := abs_le.mp small
  obtain ⟨floorLe, leCeil⟩ := mode.floor_le_toInt_le_ceil (x * 10 ^ scale)
  have above : mode.toInt (x * 10 ^ scale) ≤ n * 10 ^ scale := by
    refine leCeil.trans (Int.ceil_le.mpr ?_)
    push_cast
    exact mul_le_mul_of_nonneg_right upper power.le
  have below : -(n * 10 ^ scale) ≤ mode.toInt (x * 10 ^ scale) := by
    refine le_trans (Int.le_floor.mpr ?_) floorLe
    push_cast
    rw [← neg_mul]
    exact mul_le_mul_of_nonneg_right lower power.le
  rw [atScale, abs_div, abs_of_pos power, div_le_iff₀ power]
  exact_mod_cast abs_le.mpr ⟨below, above⟩

@[simp] theorem atScale_zero (mode : RoundingMode) (scale : Nat) : mode.atScale scale 0 = 0 :=
  mode.atScale_of_eq_intCast (n := 0) (by simp)

theorem atScale_nonneg
    (mode : RoundingMode)
    (scale : Nat)
    {x : ℚ}
    (nonnegative : 0 ≤ x) : 0 ≤ mode.atScale scale x := by
  have scaled : 0 ≤ mode.toInt (x * 10 ^ scale) := mode.toInt_nonneg (by positivity)
  have cast : (0 : ℚ) ≤ mode.toInt (x * 10 ^ scale) := by exact_mod_cast scaled
  exact div_nonneg cast (by positivity)

/-- An approximation rounds like a fraction with a known denominator, when it is
closer than the grid of that denominator and exact on half-integers. -/
theorem toInt_eq_of_close
    (mode : RoundingMode)
    {x near : ℚ}
    {denominator : ℕ}
    (positive : 0 < denominator)
    (onGrid : ∃ n : ℤ, 2 * x * denominator = n)
    (close : |2 * near - 2 * x| * denominator < 1)
    (exact : 2 * x = ⌊2 * x⌋ → near = x) : mode.toInt near = mode.toInt x := by
  by_cases half : 2 * x = ⌊2 * x⌋
  · rw [exact half]
  · obtain ⟨n, whole⟩ := onGrid
    have positiveRat : (0 : ℚ) < denominator := by exact_mod_cast positive
    have lower : (⌊2 * x⌋ : ℚ) < 2 * x := lt_of_le_of_ne (Int.floor_le _) (Ne.symm half)
    have upper : 2 * x < ⌊2 * x⌋ + 1 := Int.lt_floor_add_one _
    generalize ⌊2 * x⌋ = cell at *
    -- On the grid the number is at least one step away from both half-integers.
    have stepUp : (cell : ℚ) * denominator + 1 ≤ 2 * x * denominator := by
      have strict := mul_lt_mul_of_pos_right lower positiveRat
      rw [whole] at strict ⊢
      have integers : cell * denominator + 1 ≤ n := by
        have : cell * (denominator : ℤ) < n := by exact_mod_cast strict
        omega
      exact_mod_cast integers
    have stepDown : 2 * x * denominator + 1 ≤ ((cell : ℚ) + 1) * denominator := by
      have strict := mul_lt_mul_of_pos_right upper positiveRat
      rw [whole] at strict ⊢
      have integers : n + 1 ≤ (cell + 1) * denominator := by
        have : n < (cell + 1) * (denominator : ℤ) := by exact_mod_cast strict
        omega
      exact_mod_cast integers
    have distance : |(2 * near - 2 * x) * denominator| < 1 := by
      rwa [abs_mul, abs_of_pos positiveRat]
    rw [abs_lt] at distance
    have nearLower : (cell : ℚ) < 2 * near := by
      refine lt_of_mul_lt_mul_right ?_ positiveRat.le
      linarith
    have nearUpper : 2 * near < cell + 1 := by
      refine lt_of_mul_lt_mul_right ?_ positiveRat.le
      linarith
    have floorX : ⌊2 * x⌋ = cell := Int.floor_eq_iff.mpr ⟨lower.le, upper⟩
    have floorNear : ⌊2 * near⌋ = cell := Int.floor_eq_iff.mpr ⟨nearLower.le, nearUpper⟩
    refine mode.toInt_congr (floorNear.trans floorX.symm) ?_
    rw [floorX, floorNear]
    exact iff_of_false nearLower.ne' lower.ne'

end RoundingMode

namespace Decimal

/-- Rescaling to decimal places rounds the number to these places. -/
theorem toRat_rescale (mode : RoundingMode) (d : Decimal) (scale : Nat) :
    (rescale mode d (-scale)).toRat = mode.atScale scale d.toRat := by
  have power : (10 : ℚ) ^ (-(scale : ℤ)) = (10 ^ scale)⁻¹ := by
    rw [zpow_neg, zpow_natCast]
  have nonzero : (10 : ℚ) ^ scale ≠ 0 := pow_ne_zero _ (by norm_num)
  unfold rescale
  by_cases padded : -(scale : ℤ) ≤ d.exponent
  · rw [if_pos padded]
    have same := scaledTo_mul d padded
    rw [mode.atScale_of_eq_intCast (n := d.scaledTo (-scale)) (by
      rw [← same, power, mul_assoc, inv_mul_cancel₀ nonzero, mul_one]), ← same, toRat_eq_signed]
    simp only [scaledTo, signed]
    push_cast
    ring
  · rw [if_neg padded]
    have below : d.exponent ≤ -scale := by omega
    have positive : 0 < 10 ^ (-(scale : ℤ) - d.exponent).toNat := by positivity
    have shifted : d.toRat * 10 ^ scale =
        RoundingMode.sign d.negative *
          ((d.coefficient : ℚ) / ((10 ^ (-(scale : ℤ) - d.exponent).toNat : ℕ) : ℚ)) := by
      have split := ten_pow_toNat below
      rw [power] at split
      have divisor : (10 : ℚ) ^ d.exponent * 10 ^ scale =
          ((10 : ℚ) ^ (-(scale : ℤ) - d.exponent).toNat)⁻¹ := by
        rw [eq_comm, inv_eq_iff_eq_inv, mul_inv, ← split]
        field_simp
      rw [toRat, mul_assoc, mul_assoc, divisor]
      push_cast
      rw [div_eq_mul_inv]
    rw [RoundingMode.atScale, shifted, RoundingMode.toInt_quotient _ positive, toRat, power]
    push_cast
    rw [div_eq_mul_inv]

@[simp] theorem rescale_exponent (mode : RoundingMode) (d : Decimal) (exponent : Int) :
    (rescale mode d exponent).exponent = exponent := by
  unfold rescale
  split <;> rfl

/-- A successful rounding rescales. -/
theorem eq_rescale_of_quantize
    {ctx : DecimalContext}
    {mode : RoundingMode}
    {d rounded : Decimal}
    {exponent : Int}
    (succeeded : quantize ctx mode d exponent = .ok rounded) : rounded = rescale mode d exponent := by
  unfold quantize at succeeded
  simp only at succeeded
  split_ifs at succeeded <;> exact (Except.ok.inj succeeded).symm

end Decimal
end QuantumAnalytics
