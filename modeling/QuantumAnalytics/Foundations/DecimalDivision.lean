import Mathlib.Data.Nat.Cast.Field
import QuantumAnalytics.Foundations.DecimalExact

/-!
# Decimal division

A quotient is computed with one digit more than the precision and then fitted
into the context. The result differs from the quotient by less than a few units
of its last digit, and not at all when the context can represent the quotient.
-/

namespace QuantumAnalytics

/-! ### The error of a rounding -/

/-- A rounded quotient is the truncated one or the next number. -/
theorem RoundingMode.roundQuotient_bounds
    (mode : RoundingMode)
    (negative : Bool)
    (dividend divisor : Nat) :
    dividend / divisor ≤ roundQuotient mode negative dividend divisor ∧
      roundQuotient mode negative dividend divisor ≤ dividend / divisor + 1 := by
  unfold roundQuotient
  dsimp only
  split <;> omega

/-- A number next to a truncated quotient is less than one unit away from the
quotient. -/
theorem abs_sub_div_le_one
    {dividend divisor near : Nat}
    (positive : 0 < divisor)
    (lower : dividend / divisor ≤ near)
    (upper : near ≤ dividend / divisor + 1) :
    |(near : ℚ) - (dividend : ℚ) / divisor| ≤ 1 := by
  have positiveRat : (0 : ℚ) < divisor := by exact_mod_cast positive
  have below : ((dividend / divisor : ℕ) : ℚ) ≤ (dividend : ℚ) / divisor := by
    rw [le_div_iff₀ positiveRat]
    exact_mod_cast Nat.div_mul_le_self dividend divisor
  have above : (dividend : ℚ) / divisor < ((dividend / divisor : ℕ) : ℚ) + 1 := by
    rw [div_lt_iff₀ positiveRat]
    have split := Nat.lt_succ_self (dividend / divisor)
    have := (Nat.div_lt_iff_lt_mul positive).mp split
    exact_mod_cast this
  have lowerRat : ((dividend / divisor : ℕ) : ℚ) ≤ near := by exact_mod_cast lower
  have upperRat : (near : ℚ) ≤ ((dividend / divisor : ℕ) : ℚ) + 1 := by exact_mod_cast upper
  rw [abs_le]
  constructor <;> linarith

namespace Decimal

/-- Replacing the coefficient and the exponent of a decimal changes the number
by the difference of the magnitudes. -/
theorem abs_toRat_sub_toRat
    (negative : Bool)
    (coefficient other : Nat)
    (exponent otherExponent : Int) :
    |(⟨negative, coefficient, exponent⟩ : Decimal).toRat -
        (⟨negative, other, otherExponent⟩ : Decimal).toRat| =
      |(coefficient : ℚ) * 10 ^ exponent - (other : ℚ) * 10 ^ otherExponent| := by
  unfold toRat
  cases negative with
  | false => simp
  | true =>
      simp only [RoundingMode.sign_true]
      push_cast
      rw [← abs_neg]
      congr 1
      ring

/-- Keeping the digits above a target exponent changes the number by at most one
unit of the last kept digit. -/
theorem abs_sub_rounded_le
    (d : Decimal)
    {target : Int}
    (le : d.exponent ≤ target)
    {near : Nat}
    (lower : d.coefficient / 10 ^ (target - d.exponent).toNat ≤ near)
    (upper : near ≤ d.coefficient / 10 ^ (target - d.exponent).toNat + 1) :
    |(⟨d.negative, near, target⟩ : Decimal).toRat - d.toRat| ≤ 10 ^ target := by
  have positive : 0 < 10 ^ (target - d.exponent).toNat := by positivity
  have unit := ten_zpow_pos target
  have close := abs_sub_div_le_one positive lower upper
  have split := ten_pow_toNat le
  have magnitude : (d.coefficient : ℚ) * 10 ^ d.exponent =
      (d.coefficient : ℚ) / ((10 ^ (target - d.exponent).toNat : ℕ) : ℚ) * 10 ^ target := by
    rw [← split]
    push_cast
    field_simp
  calc |(⟨d.negative, near, target⟩ : Decimal).toRat - d.toRat|
      = |(near : ℚ) * 10 ^ target - (d.coefficient : ℚ) * 10 ^ d.exponent| :=
        abs_toRat_sub_toRat _ _ _ _ _
    _ = |(near : ℚ) - (d.coefficient : ℚ) / ((10 ^ (target - d.exponent).toNat : ℕ) : ℚ)| *
        10 ^ target := by
        rw [magnitude, ← sub_mul, abs_mul, abs_of_pos unit]
    _ ≤ 1 * 10 ^ target := mul_le_mul_of_nonneg_right close unit.le
    _ = 10 ^ target := one_mul _

/-- Fitting a number into a context changes it by at most one unit of the last
kept digit. -/
theorem abs_fix_sub_le
    {ctx : DecimalContext}
    {d fixed : Decimal}
    (fitted : fix ctx d = .ok fixed) :
    |fixed.toRat - d.toRat| ≤ 10 ^ max (d.adjusted + 1 - ctx.prec) ctx.etiny := by
  unfold fix at fitted
  have unit := ten_zpow_pos (max (d.adjusted + 1 - ctx.prec) ctx.etiny)
  by_cases zero : d.coefficient = 0
  · rw [if_pos zero] at fitted
    obtain rfl := Except.ok.inj fitted
    have left : (⟨d.negative, d.coefficient, min (max d.exponent ctx.etiny) ctx.emax⟩ :
        Decimal).toRat = 0 := toRat_eq_zero_iff.mpr zero
    rw [left, toRat_eq_zero_iff.mpr zero, sub_zero, abs_zero]
    exact unit.le
  · rw [if_neg zero] at fitted
    have targetEq : max ((digitCount d.coefficient : ℤ) + d.exponent - ctx.prec) ctx.etiny =
        max (d.adjusted + 1 - ctx.prec) ctx.etiny := by
      unfold adjusted
      congr 1
      omega
    dsimp only at fitted
    split at fitted
    · cases fitted
    rw [targetEq] at fitted
    generalize targetIs : max (d.adjusted + 1 - ctx.prec) ctx.etiny = target at *
    by_cases below : d.exponent < target
    · rw [if_pos below] at fitted
      obtain ⟨lower, upper⟩ := RoundingMode.roundQuotient_bounds .halfEven d.negative d.coefficient
        (10 ^ (target - d.exponent).toNat)
      have close := abs_sub_rounded_le d below.le lower upper
      generalize RoundingMode.roundQuotient .halfEven d.negative d.coefficient
        (10 ^ (target - d.exponent).toNat) = rounded at *
      split_ifs at fitted with carry
      · obtain rfl := Except.ok.inj fitted
        -- Only a carry into a new digit is longer than the precision.
        have short : d.coefficient / 10 ^ (target - d.exponent).toNat < 10 ^ ctx.prec := by
          rw [Nat.div_lt_iff_lt_mul (by positivity), ← pow_add]
          refine (lt_pow_digitCount _).trans_le (Nat.pow_le_pow_right (by decide) ?_)
          unfold adjusted at targetIs
          omega
        have long : 10 ^ ctx.prec ≤ rounded :=
          not_lt.mp (mt (digitCount_le_iff ctx.precPos).mpr (not_le.mpr carry))
        have carried : rounded = 10 ^ ctx.prec := by omega
        have multiple : rounded = rounded / 10 * 10 := by
          obtain ⟨k, precEq⟩ : ∃ k, ctx.prec = k + 1 := ⟨ctx.prec - 1, by have := ctx.precPos; omega⟩
          rw [carried, precEq, pow_succ, Nat.mul_div_cancel _ (by decide)]
        have same : (⟨d.negative, rounded / 10, target + 1⟩ : Decimal).toRat =
            (⟨d.negative, rounded, target⟩ : Decimal).toRat :=
          toRat_dropZeros ⟨d.negative, rounded, target⟩ (by simp) (by simpa using multiple)
        rwa [same]
      · obtain rfl := Except.ok.inj fitted
        exact close
    · rw [if_neg below] at fitted
      obtain rfl := Except.ok.inj fitted
      rw [sub_self, abs_zero]
      exact unit.le

/-! ### Quotients -/

/-- Dropping zeros of the coefficient does not change the number. -/
theorem stripZeros_value (fuel coefficient : Nat) (exponent ideal : Int) :
    ((stripZeros fuel coefficient exponent ideal).1 : ℚ) *
        10 ^ (stripZeros fuel coefficient exponent ideal).2 =
      (coefficient : ℚ) * 10 ^ exponent := by
  induction fuel generalizing coefficient exponent with
  | zero => rfl
  | succ fuel inductionHypothesis =>
      unfold stripZeros
      split_ifs with droppable
      · rw [inductionHypothesis]
        have multiple : coefficient = coefficient / 10 * 10 := by omega
        have cast : (coefficient : ℚ) = ((coefficient / 10 : ℕ) : ℚ) * 10 := by
          exact_mod_cast multiple
        rw [cast, zpow_add₀ (by norm_num), zpow_one]
        ring
      · rfl

/-- The shift that gives a quotient one digit more than the precision. -/
def quotientShift (ctx : DecimalContext) (left right : Decimal) : Int :=
  digitCount right.coefficient - digitCount left.coefficient + ctx.prec + 1

/-- The shifted dividend. -/
def shiftedDividend (ctx : DecimalContext) (left right : Decimal) : Nat :=
  left.coefficient * 10 ^ (quotientShift ctx left right).toNat

/-- The shifted divisor. -/
def shiftedDivisor (ctx : DecimalContext) (left right : Decimal) : Nat :=
  right.coefficient * 10 ^ (-quotientShift ctx left right).toNat

/-- The exponent of the quotient before it is fitted. -/
def quotientExponent (ctx : DecimalContext) (left right : Decimal) : Int :=
  left.exponent - right.exponent - quotientShift ctx left right

theorem quotientExponent_eq (ctx : DecimalContext) (left right : Decimal) :
    quotientExponent ctx left right = left.adjusted - right.adjusted - ctx.prec - 1 := by
  unfold quotientExponent quotientShift adjusted
  omega

section Quotient

variable
    (ctx : DecimalContext)
    {left right : Decimal}
    (leftNonzero : left.coefficient ≠ 0)
    (rightNonzero : right.coefficient ≠ 0)

include rightNonzero in
theorem shiftedDivisor_pos : 0 < shiftedDivisor ctx left right :=
  Nat.mul_pos (Nat.pos_of_ne_zero rightNonzero) (by positivity)

/-- The shift scales the quotient of the coefficients. -/
theorem shifted_ratio :
    (shiftedDividend ctx left right : ℚ) / shiftedDivisor ctx left right =
      (left.coefficient : ℚ) / right.coefficient * 10 ^ quotientShift ctx left right := by
  unfold shiftedDividend shiftedDivisor
  have powers : (10 : ℚ) ^ (quotientShift ctx left right).toNat /
      10 ^ (-quotientShift ctx left right).toNat = 10 ^ quotientShift ctx left right := by
    rw [← zpow_natCast, ← zpow_natCast, ← zpow_sub₀ (by norm_num)]
    congr 1
    omega
  rw [← powers]
  push_cast
  rw [mul_div_mul_comm]

/-- The quotient of two decimals has the quotient of their magnitudes. -/
theorem div_eq_sign_mul (left right : Decimal) :
    left.toRat / right.toRat =
      RoundingMode.sign (left.negative != right.negative) * |left.toRat / right.toRat| := by
  rw [abs_div, abs_toRat, abs_toRat]
  unfold toRat
  cases left.negative <;> cases right.negative <;> simp <;> ring

/-- The shifted operands have the quotient of the numbers. -/
theorem abs_div_eq :
    |left.toRat / right.toRat| =
      ((shiftedDividend ctx left right : ℚ) / shiftedDivisor ctx left right) *
        10 ^ quotientExponent ctx left right := by
  rw [abs_div, abs_toRat, abs_toRat, shifted_ratio, quotientExponent, mul_div_mul_comm,
    ← zpow_sub₀ (by norm_num), mul_assoc, ← zpow_add₀ (by norm_num)]
  congr 2
  omega

include leftNonzero rightNonzero in
/-- The shifted quotient has more digits than the precision. -/
theorem pow_prec_lt_ratio :
    (10 : ℚ) ^ ctx.prec < (shiftedDividend ctx left right : ℚ) / shiftedDivisor ctx left right := by
  have rightPos : (0 : ℚ) < right.coefficient := by exact_mod_cast Nat.pos_of_ne_zero rightNonzero
  have lower : (10 : ℚ) ^ (digitCount left.coefficient - 1) ≤ left.coefficient := by
    exact_mod_cast pow_digitCount_le (Nat.pos_of_ne_zero leftNonzero)
  have upper : (right.coefficient : ℚ) < 10 ^ digitCount right.coefficient := by
    exact_mod_cast lt_pow_digitCount right.coefficient
  have shift := ten_zpow_pos (quotientShift ctx left right)
  have digits := digitCount_pos left.coefficient
  rw [shifted_ratio, div_mul_eq_mul_div, lt_div_iff₀ rightPos]
  calc (10 : ℚ) ^ ctx.prec * right.coefficient
      < 10 ^ ctx.prec * 10 ^ digitCount right.coefficient :=
        mul_lt_mul_of_pos_left upper (by positivity)
    _ = 10 ^ (digitCount left.coefficient - 1) * 10 ^ quotientShift ctx left right := by
        rw [← zpow_natCast, ← zpow_natCast, ← zpow_natCast, ← zpow_add₀ (by norm_num),
          ← zpow_add₀ (by norm_num)]
        congr 1
        unfold quotientShift
        omega
    _ ≤ left.coefficient * 10 ^ quotientShift ctx left right :=
        mul_le_mul_of_nonneg_right lower shift.le

/-- The quotient before it is fitted. -/
theorem rawQuotient_eq :
    rawQuotient ctx left right =
      if shiftedDividend ctx left right % shiftedDivisor ctx left right ≠ 0 then
        ⟨left.negative != right.negative,
          if shiftedDividend ctx left right / shiftedDivisor ctx left right % 5 = 0 then
            shiftedDividend ctx left right / shiftedDivisor ctx left right + 1
          else shiftedDividend ctx left right / shiftedDivisor ctx left right,
          quotientExponent ctx left right⟩
      else
        let stripped := stripZeros
          (left.exponent - right.exponent - quotientExponent ctx left right).toNat
          (shiftedDividend ctx left right / shiftedDivisor ctx left right)
          (quotientExponent ctx left right) (left.exponent - right.exponent)
        ⟨left.negative != right.negative, stripped.1, stripped.2⟩ := rfl

include rightNonzero

/-- Without a remainder the quotient is exact. -/
theorem rawQuotient_of_dvd
    (whole : shiftedDivisor ctx left right ∣ shiftedDividend ctx left right) :
    (rawQuotient ctx left right).toRat = left.toRat / right.toRat := by
  have divisorRat : (shiftedDivisor ctx left right : ℚ) ≠ 0 := by
    exact_mod_cast (shiftedDivisor_pos ctx rightNonzero).ne'
  rw [rawQuotient_eq, if_neg (not_not.mpr (Nat.mod_eq_zero_of_dvd whole)), div_eq_sign_mul,
    abs_div_eq ctx, ← Nat.cast_div whole divisorRat, ← stripZeros_value
      (left.exponent - right.exponent - quotientExponent ctx left right).toNat _ _
      (left.exponent - right.exponent)]
  unfold toRat
  rw [mul_assoc]

/-- With a remainder the quotient is off by at most one unit. -/
theorem abs_rawQuotient_sub_le :
    |(rawQuotient ctx left right).toRat - left.toRat / right.toRat| ≤
      10 ^ quotientExponent ctx left right := by
  have unit := ten_zpow_pos (quotientExponent ctx left right)
  by_cases whole : shiftedDividend ctx left right % shiftedDivisor ctx left right = 0
  · rw [rawQuotient_of_dvd ctx rightNonzero (Nat.dvd_of_mod_eq_zero whole), sub_self, abs_zero]
    exact unit.le
  · rw [rawQuotient_eq, if_pos whole]
    generalize nearEq : (if shiftedDividend ctx left right / shiftedDivisor ctx left right % 5 = 0
      then shiftedDividend ctx left right / shiftedDivisor ctx left right + 1
      else shiftedDividend ctx left right / shiftedDivisor ctx left right) = near
    have bounds : shiftedDividend ctx left right / shiftedDivisor ctx left right ≤ near ∧
        near ≤ shiftedDividend ctx left right / shiftedDivisor ctx left right + 1 := by
      split at nearEq <;> omega
    have close := abs_sub_div_le_one (shiftedDivisor_pos ctx rightNonzero) bounds.1 bounds.2
    have signAbs : |(RoundingMode.sign (left.negative != right.negative) : ℚ)| = 1 := by
      cases left.negative != right.negative <;> simp
    rw [div_eq_sign_mul, abs_div_eq ctx]
    unfold toRat
    calc |(RoundingMode.sign (left.negative != right.negative) : ℚ) * near *
          10 ^ quotientExponent ctx left right -
          RoundingMode.sign (left.negative != right.negative) *
            ((shiftedDividend ctx left right : ℚ) / shiftedDivisor ctx left right *
              10 ^ quotientExponent ctx left right)|
        = |(RoundingMode.sign (left.negative != right.negative) : ℚ)| *
            |(near : ℚ) - (shiftedDividend ctx left right : ℚ) / shiftedDivisor ctx left right| *
              10 ^ quotientExponent ctx left right := by
          rw [← abs_of_pos unit, ← abs_mul, ← abs_mul, abs_of_pos unit]
          congr 1
          ring
      _ ≤ 1 * 1 * 10 ^ quotientExponent ctx left right := by
          rw [signAbs]
          gcongr
      _ = 10 ^ quotientExponent ctx left right := by ring

include leftNonzero

/-- A representable quotient leaves no remainder. -/
theorem dvd_of_representable_div
    (representable : Representable ctx (left.toRat / right.toRat)) :
    shiftedDivisor ctx left right ∣ shiftedDividend ctx left right := by
  obtain ⟨coefficient, exponent, shape, small, -, -⟩ := representable
  have divisorRat : (shiftedDivisor ctx left right : ℚ) ≠ 0 := by
    exact_mod_cast (shiftedDivisor_pos ctx rightNonzero).ne'
  have unit := ten_zpow_pos (quotientExponent ctx left right)
  have ratio : (shiftedDividend ctx left right : ℚ) / shiftedDivisor ctx left right =
      |(coefficient : ℚ)| * 10 ^ (exponent - quotientExponent ctx left right) := by
    have magnitude : |left.toRat / right.toRat| = _ := abs_div_eq ctx
    rw [shape, abs_mul, abs_of_pos (ten_zpow_pos exponent)] at magnitude
    rw [zpow_sub₀ (by norm_num), ← mul_div_assoc, magnitude, mul_div_cancel_right₀ _ unit.ne']
  have smallRat : |(coefficient : ℚ)| < 10 ^ ctx.prec := by exact_mod_cast small
  -- The quotient is longer than the coefficient, so zeros follow it.
  have above : quotientExponent ctx left right ≤ exponent := by
    by_contra below
    have long := pow_prec_lt_ratio ctx leftNonzero rightNonzero
    rw [ratio] at long
    have shrunk : (10 : ℚ) ^ (exponent - quotientExponent ctx left right) ≤ 1 :=
      zpow_le_one_of_nonpos₀ (by norm_num) (by omega)
    have bounded := mul_le_of_le_one_right (abs_nonneg (coefficient : ℚ)) shrunk
    linarith
  have natural : (10 : ℚ) ^ (exponent - quotientExponent ctx left right) =
      ((10 ^ (exponent - quotientExponent ctx left right).toNat : ℕ) : ℚ) := by
    push_cast
    rw [← zpow_natCast, Int.toNat_of_nonneg (by omega)]
  rw [natural, div_eq_iff divisorRat] at ratio
  have product : shiftedDividend ctx left right = coefficient.natAbs *
      10 ^ (exponent - quotientExponent ctx left right).toNat * shiftedDivisor ctx left right := by
    have cast : |(coefficient : ℚ)| = (coefficient.natAbs : ℚ) := by
      rw [Nat.cast_natAbs, Int.cast_abs]
    rw [cast] at ratio
    exact_mod_cast ratio
  exact Dvd.intro_left _ product.symm

/-- A representable quotient is computed exactly. -/
theorem div_of_representable
    (representable : Representable ctx (left.toRat / right.toRat)) :
    ∃ quotient, div ctx left right = .ok quotient ∧ quotient.toRat = left.toRat / right.toRat := by
  have whole := dvd_of_representable_div ctx leftNonzero rightNonzero representable
  have exact := rawQuotient_of_dvd ctx rightNonzero whole
  unfold div
  rw [if_neg (by simpa [isZero] using rightNonzero), if_neg (by simpa [isZero] using leftNonzero)]
  rw [← exact] at representable ⊢
  exact fix_of_representable representable

/-- The leading digit of the quotient before it is fitted. -/
theorem rawQuotient_adjusted_le :
    (rawQuotient ctx left right).adjusted ≤ left.adjusted - right.adjusted + 1 := by
  have ten : (1 : ℚ) < 10 := by norm_num
  have unit := ten_zpow_pos (quotientExponent ctx left right)
  have close : |(rawQuotient ctx left right).toRat - left.toRat / right.toRat| ≤ _ :=
    abs_rawQuotient_sub_le ctx rightNonzero
  have nonzero : (rawQuotient ctx left right).coefficient ≠ 0 := by
    intro zero
    rw [toRat_eq_zero_iff.mpr zero, zero_sub, abs_neg, abs_div_eq ctx] at close
    have long := pow_prec_lt_ratio ctx leftNonzero rightNonzero
    have one : (1 : ℚ) ≤ 10 ^ ctx.prec := one_le_pow₀ ten.le
    have small := le_of_mul_le_mul_right (close.trans_eq (one_mul _).symm) unit
    linarith
  have quotientBound : |left.toRat / right.toRat| < 10 ^ (left.adjusted - right.adjusted + 1) := by
    rw [abs_div, div_lt_iff₀ ((ten_zpow_pos _).trans_le (zpow_adjusted_le rightNonzero))]
    calc |left.toRat| < 10 ^ (left.adjusted + 1) := abs_lt_zpow_adjusted left
      _ = 10 ^ (left.adjusted - right.adjusted + 1) * 10 ^ right.adjusted := by
          rw [← zpow_add₀ (by norm_num)]
          congr 1
          omega
      _ ≤ 10 ^ (left.adjusted - right.adjusted + 1) * |right.toRat| :=
          mul_le_mul_of_nonneg_left (zpow_adjusted_le rightNonzero) (ten_zpow_pos _).le
  have unitBound : (10 : ℚ) ^ quotientExponent ctx left right ≤
      10 ^ (left.adjusted - right.adjusted + 1) :=
    zpow_le_zpow_right₀ ten.le (by rw [quotientExponent_eq]; omega)
  have bounded : |(rawQuotient ctx left right).toRat| <
      10 ^ (left.adjusted - right.adjusted + 1 + 1) := by
    have triangle := abs_sub_abs_le_abs_sub (rawQuotient ctx left right).toRat
      (left.toRat / right.toRat)
    rw [zpow_add_one₀ (by norm_num)]
    linarith
  have exponents := (zpow_lt_zpow_iff_right₀ ten).mp ((zpow_adjusted_le nonzero).trans_lt bounded)
  omega

/-- A computed quotient is off by a few units of its last digit. -/
theorem abs_div_sub_le
    {quotient : Decimal}
    (divided : div ctx left right = .ok quotient) :
    |quotient.toRat - left.toRat / right.toRat| ≤
      10 ^ max (left.adjusted - right.adjusted + 3 - ctx.prec) (ctx.etiny + 1) := by
  have ten : (1 : ℚ) ≤ 10 := by norm_num
  unfold div at divided
  rw [if_neg (by simpa [isZero] using rightNonzero),
    if_neg (by simpa [isZero] using leftNonzero)] at divided
  have digits := rawQuotient_adjusted_le ctx leftNonzero rightNonzero
  have fitted : |quotient.toRat - (rawQuotient ctx left right).toRat| ≤
      10 ^ max (left.adjusted - right.adjusted + 2 - ctx.prec) ctx.etiny :=
    (abs_fix_sub_le divided).trans (zpow_le_zpow_right₀ ten (by omega))
  have raw : |(rawQuotient ctx left right).toRat - left.toRat / right.toRat| ≤
      10 ^ max (left.adjusted - right.adjusted + 2 - ctx.prec) ctx.etiny :=
    (abs_rawQuotient_sub_le ctx rightNonzero).trans
      (zpow_le_zpow_right₀ ten (by rw [quotientExponent_eq]; omega))
  have triangle := abs_sub_le quotient.toRat (rawQuotient ctx left right).toRat
    (left.toRat / right.toRat)
  have carry : max (left.adjusted - right.adjusted + 3 - ctx.prec) (ctx.etiny + 1) =
      max (left.adjusted - right.adjusted + 2 - ctx.prec) ctx.etiny + 1 := by omega
  have unit := ten_zpow_pos (max (left.adjusted - right.adjusted + 2 - ctx.prec) ctx.etiny)
  rw [carry, zpow_add_one₀ (by norm_num)]
  linarith

end Quotient

/-! ### Rounding a quotient -/

/-- A computed zero quotient is zero. -/
theorem toRat_of_div_zero
    {ctx : DecimalContext}
    {left right quotient : Decimal}
    (zero : left.coefficient = 0)
    (divided : div ctx left right = .ok quotient) : quotient.toRat = 0 := by
  unfold div at divided
  split_ifs at divided with byZero isZero
  · unfold fix at divided
    rw [if_pos rfl] at divided
    obtain rfl := Except.ok.inj divided
    exact toRat_eq_zero_iff.mpr rfl
  · exact absurd (isZero_iff.mpr zero) isZero

/-- Rounding a computed quotient rounds the quotient, when the precision covers
the digits of the dividend and the divisor beside the scale. -/
theorem atScale_div
    (mode : RoundingMode)
    {ctx : DecimalContext}
    {left quotient : Decimal}
    {divisor : ℤ}
    {scale places whole digits : Nat}
    (positive : 0 < divisor)
    (divisorSmall : divisor ≤ 10 ^ digits)
    (onGrid : OnGrid places left.toRat)
    (small : |left.toRat| < 10 ^ whole)
    (precise : scale + places + whole + digits + 3 ≤ ctx.prec)
    (least : ctx.etiny + (scale + places + digits + 2 : ℕ) ≤ 0)
    (greatest : (whole : ℤ) ≤ ctx.emax + 1)
    (divided : div ctx left (ofInt divisor) = .ok quotient) :
    mode.atScale scale quotient.toRat = mode.atScale scale (left.toRat / divisor) := by
  have ten : (1 : ℚ) < 10 := by norm_num
  have positiveRat : (0 : ℚ) < divisor := by exact_mod_cast positive
  have oneLe : (1 : ℚ) ≤ divisor := by exact_mod_cast positive
  by_cases zero : left.coefficient = 0
  · rw [toRat_of_div_zero zero divided, toRat_eq_zero_iff.mpr zero, zero_div]
  have rightNonzero : (ofInt divisor).coefficient ≠ 0 := by
    intro absent
    rw [← toRat_eq_zero_iff, toRat_ofInt] at absent
    exact positiveRat.ne' absent
  have quotientSmall : |left.toRat / divisor| < 10 ^ whole := by
    rw [abs_div, abs_of_pos positiveRat]
    exact (div_le_self (abs_nonneg _) oneLe).trans_lt small
  obtain ⟨n, dividendWhole⟩ := onGrid
  obtain ⟨divisorNat, rfl⟩ := Int.eq_ofNat_of_zero_le positive.le
  have denominatorPos : 0 < 10 ^ places * divisorNat := by
    have : 0 < divisorNat := by exact_mod_cast positive
    positivity
  have scaledPos : (0 : ℚ) < 10 ^ scale := by positivity
  have gridded : ∃ n : ℤ, 2 * (left.toRat / ((divisorNat : ℤ) : ℚ) * 10 ^ scale) *
      ((10 ^ places * divisorNat : ℕ) : ℚ) = n := by
    refine ⟨2 * n * 10 ^ scale, ?_⟩
    push_cast at positiveRat dividendWhole ⊢
    rw [← dividendWhole]
    field_simp
  have close : |2 * (quotient.toRat * 10 ^ scale) -
      2 * (left.toRat / ((divisorNat : ℤ) : ℚ) * 10 ^ scale)| *
        ((10 ^ places * divisorNat : ℕ) : ℚ) < 1 := by
    have error := abs_div_sub_le ctx zero rightNonzero divided
    rw [toRat_ofInt] at error
    have leftDigits : left.adjusted < whole := (zpow_lt_zpow_iff_right₀ ten).mp
      ((zpow_adjusted_le zero).trans_lt (by rwa [zpow_natCast]))
    have rightDigits : 0 < (ofInt (divisorNat : ℤ)).adjusted + 1 := by
      refine (zpow_lt_zpow_iff_right₀ ten).mp (lt_of_le_of_lt ?_ (abs_lt_zpow_adjusted _))
      rwa [zpow_zero, toRat_ofInt, abs_of_pos positiveRat]
    have fine := error.trans (zpow_le_zpow_right₀ ten.le
      (show _ ≤ -(((scale + places + digits + 1 : ℕ)) : ℤ) by omega))
    rw [zpow_neg, zpow_natCast] at fine
    have bounded : ((10 ^ places * divisorNat : ℕ) : ℚ) ≤ 10 ^ (places + digits) := by
      rw [pow_add]
      push_cast
      refine mul_le_mul_of_nonneg_left ?_ (by positivity)
      exact_mod_cast divisorSmall
    rw [← mul_sub, ← sub_mul, abs_mul, abs_mul, abs_two, abs_of_pos scaledPos]
    calc 2 * (|quotient.toRat - left.toRat / ((divisorNat : ℤ) : ℚ)| * 10 ^ scale) *
          ((10 ^ places * divisorNat : ℕ) : ℚ)
        ≤ 2 * ((10 ^ (scale + places + digits + 1))⁻¹ * 10 ^ scale) * 10 ^ (places + digits) := by
          gcongr
      _ = 1 / 5 := by
          have nonzero : (10 : ℚ) ^ (scale + places + digits) ≠ 0 := by positivity
          rw [pow_succ]
          field_simp
          ring
      _ < 1 := by norm_num
  -- On half-integers the quotient has few places, and then it is exact.
  have exact : 2 * (left.toRat / ((divisorNat : ℤ) : ℚ) * 10 ^ scale) =
      ⌊2 * (left.toRat / ((divisorNat : ℤ) : ℚ) * 10 ^ scale)⌋ →
        quotient.toRat * 10 ^ scale = left.toRat / ((divisorNat : ℤ) : ℚ) * 10 ^ scale := by
    intro half
    generalize ⌊2 * (left.toRat / ((divisorNat : ℤ) : ℚ) * 10 ^ scale)⌋ = k at half
    have onGrid : OnGrid (scale + 1) (left.toRat / ((divisorNat : ℤ) : ℚ)) := by
      refine ⟨5 * k, ?_⟩
      push_cast at half ⊢
      rw [← half]
      ring
    have covers : Covers ctx (scale + 1) (10 ^ whole) :=
      covers_of_digits (by omega) (by omega) greatest
    have representable := covers _ onGrid quotientSmall
    rw [← toRat_ofInt] at representable
    obtain ⟨result, same, value⟩ := div_of_representable ctx zero rightNonzero representable
    obtain rfl := Except.ok.inj (divided.symm.trans same)
    rw [value, toRat_ofInt]
  rw [RoundingMode.atScale, RoundingMode.atScale,
    mode.toInt_eq_of_close denominatorPos gridded close exact]

end Decimal
end QuantumAnalytics
