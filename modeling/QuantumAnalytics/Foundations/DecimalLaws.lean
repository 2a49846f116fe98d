import Mathlib.Algebra.Order.Field.Power
import Mathlib.Tactic.Positivity
import QuantumAnalytics.Foundations.Decimal

/-!
# Laws of decimal arithmetic

Exact operations denote the operations on the rationals, comparison is
comparison of the denoted numbers, and `fix` changes nothing but the
representation of a number that the context can represent.
-/

namespace QuantumAnalytics
namespace Decimal

/-- The rational power of ten at a sum of exponents. -/
private theorem ten_zpow_add (m n : ℤ) : (10 : ℚ) ^ (m + n) = 10 ^ m * 10 ^ n :=
  zpow_add₀ (by norm_num) m n

theorem ten_zpow_pos (n : ℤ) : (0 : ℚ) < 10 ^ n := zpow_pos (by norm_num) n

theorem ten_zpow_ne_zero (n : ℤ) : (10 : ℚ) ^ n ≠ 0 := (ten_zpow_pos n).ne'

/-- A nonnegative exponent difference as a natural power. -/
theorem ten_pow_toNat {m n : ℤ} (le : n ≤ m) :
    (10 : ℚ) ^ (m - n).toNat * 10 ^ n = 10 ^ m := by
  rw [← zpow_natCast, Int.toNat_of_nonneg (by omega), ← ten_zpow_add, sub_add_cancel]

theorem toRat_eq_signed (d : Decimal) : d.toRat = d.signed * (10 : ℚ) ^ d.exponent := by
  simp [toRat, signed]

@[simp] theorem toRat_ofInt (value : Int) : (ofInt value).toRat = value := by
  have whole : (ofInt value).signed = value := by
    unfold ofInt signed
    by_cases negative : value < 0
    · simp only [negative, decide_true, RoundingMode.sign_true]
      omega
    · simp only [negative, decide_false, RoundingMode.sign_false]
      omega
  rw [toRat_eq_signed, whole]
  simp [ofInt]

/-- Padding with zeros does not change the number. -/
theorem scaledTo_mul
    (d : Decimal)
    {exponent : Int}
    (le : exponent ≤ d.exponent) :
    (d.scaledTo exponent : ℚ) * 10 ^ exponent = d.toRat := by
  rw [toRat_eq_signed, scaledTo]
  push_cast
  rw [mul_assoc, ten_pow_toNat le]

/-- Decimal comparison compares the numbers. -/
theorem lt_iff {left right : Decimal} : lt left right = true ↔ left.toRat < right.toRat := by
  unfold lt
  simp only [decide_eq_true_eq]
  rw [← scaledTo_mul left (min_le_left _ right.exponent),
    ← scaledTo_mul right (min_le_right left.exponent _),
    mul_lt_mul_iff_left₀ (ten_zpow_pos _)]
  exact Int.cast_lt.symm

/-- Decimal equality is equality of the numbers. -/
theorem eq_iff {left right : Decimal} : eq left right = true ↔ left.toRat = right.toRat := by
  unfold eq
  simp only [beq_iff_eq]
  rw [← scaledTo_mul left (min_le_left _ right.exponent),
    ← scaledTo_mul right (min_le_right left.exponent _),
    mul_left_inj' (ten_zpow_ne_zero _)]
  exact Int.cast_inj.symm

/-- Decimal comparison compares the numbers. -/
theorem le_iff {left right : Decimal} : le left right = true ↔ left.toRat ≤ right.toRat := by
  rw [le, Bool.or_eq_true, lt_iff, eq_iff, le_iff_lt_or_eq]

/-- A sign and a magnitude make the integer. -/
private theorem sign_mul_natAbs
    (total : Int)
    (negative : Bool)
    (signEq : total ≠ 0 → negative = decide (total < 0)) :
    RoundingMode.sign negative * (total.natAbs : ℤ) = total := by
  by_cases zero : total = 0
  · simp [zero]
  · rw [signEq zero]
    by_cases below : total < 0
    · simp only [below, decide_true, RoundingMode.sign_true]
      omega
    · simp only [below, decide_false, RoundingMode.sign_false]
      omega

/-- The exact sum denotes the sum. -/
@[simp] theorem toRat_exactAdd (left right : Decimal) :
    (exactAdd left right).toRat = left.toRat + right.toRat := by
  rw [← scaledTo_mul left (min_le_left _ right.exponent),
    ← scaledTo_mul right (min_le_right left.exponent _), ← add_mul, toRat_eq_signed]
  simp only [exactAdd, signed]
  rw [sign_mul_natAbs]
  · push_cast
    rfl
  · intro nonzero
    simp [nonzero]

/-- The exact product denotes the product. -/
@[simp] theorem toRat_exactMul (left right : Decimal) :
    (exactMul left right).toRat = left.toRat * right.toRat := by
  unfold exactMul toRat
  rw [ten_zpow_add]
  cases left.negative <;> cases right.negative <;> simp <;> ring

@[simp] theorem toRat_copyNegate (d : Decimal) : d.copyNegate.toRat = -d.toRat := by
  unfold copyNegate toRat
  cases d.negative <;> simp

@[simp] theorem isZero_iff {d : Decimal} : d.isZero = true ↔ d.coefficient = 0 := by
  simp [isZero]

theorem toRat_eq_zero_iff {d : Decimal} : d.toRat = 0 ↔ d.coefficient = 0 := by
  unfold toRat
  have signNonzero : (RoundingMode.sign d.negative : ℚ) ≠ 0 := by
    cases d.negative <;> simp
  simp [signNonzero, ten_zpow_ne_zero]

/-- The magnitude of a decimal. -/
theorem abs_toRat (d : Decimal) : |d.toRat| = d.coefficient * (10 : ℚ) ^ d.exponent := by
  have signAbs : |(RoundingMode.sign d.negative : ℚ)| = 1 := by
    cases d.negative <;> simp
  rw [toRat, abs_mul, abs_mul, signAbs, one_mul, abs_of_pos (ten_zpow_pos _)]
  simp

/-! ### Digits -/

/-- A positive number lies between consecutive powers of ten. -/
theorem pow_digitCount_le {n : Nat} (positive : 0 < n) : 10 ^ (digitCount n - 1) ≤ n := by
  simpa [digitCount] using Nat.pow_log_le_self 10 positive.ne'

theorem lt_pow_digitCount (n : Nat) : n < 10 ^ digitCount n :=
  Nat.lt_pow_succ_log_self (by decide) n

theorem digitCount_pos (n : Nat) : 0 < digitCount n := Nat.succ_pos _

/-- A number below a positive power of ten has at most that many digits. -/
theorem digitCount_le_iff {n k : Nat} (positive : 0 < k) : digitCount n ≤ k ↔ n < 10 ^ k := by
  constructor
  · intro le
    exact (lt_pow_digitCount n).trans_le (Nat.pow_le_pow_right (by decide) le)
  · intro below
    unfold digitCount
    exact Nat.succ_le_of_lt (Nat.log_lt_of_lt_pow' positive.ne' below)

/-- The leading digit of a nonzero decimal bounds the number from below. -/
theorem zpow_adjusted_le
    {d : Decimal}
    (nonzero : d.coefficient ≠ 0) :
    (10 : ℚ) ^ d.adjusted ≤ |d.toRat| := by
  have shape : d.adjusted = ((digitCount d.coefficient - 1 : ℕ) : ℤ) + d.exponent := by
    have := digitCount_pos d.coefficient
    unfold adjusted
    omega
  rw [abs_toRat, shape, ten_zpow_add, zpow_natCast]
  refine mul_le_mul_of_nonneg_right ?_ (ten_zpow_pos _).le
  exact_mod_cast pow_digitCount_le (Nat.pos_of_ne_zero nonzero)

/-- The leading digit of a decimal bounds the number from above. -/
theorem abs_lt_zpow_adjusted (d : Decimal) : |d.toRat| < (10 : ℚ) ^ (d.adjusted + 1) := by
  have shape : d.adjusted + 1 = (digitCount d.coefficient : ℤ) + d.exponent := by
    unfold adjusted
    omega
  rw [abs_toRat, shape, ten_zpow_add, zpow_natCast]
  refine mul_lt_mul_of_pos_right ?_ (ten_zpow_pos _)
  exact_mod_cast lt_pow_digitCount d.coefficient

/-! ### Representable numbers -/

/-- The context can represent the number without rounding. -/
def Representable (ctx : DecimalContext) (x : ℚ) : Prop :=
  ∃ coefficient exponent : ℤ, x = coefficient * (10 : ℚ) ^ exponent ∧
    |coefficient| < 10 ^ ctx.prec ∧ ctx.etiny ≤ exponent ∧ |x| < (10 : ℚ) ^ (ctx.emax + 1)

/-- Dropping digits that are all zero does not change the number. -/
theorem toRat_dropZeros
    (d : Decimal)
    {target : Int}
    (le : d.exponent ≤ target)
    {quotient : Nat}
    (whole : d.coefficient = quotient * 10 ^ (target - d.exponent).toNat) :
    (⟨d.negative, quotient, target⟩ : Decimal).toRat = d.toRat := by
  unfold toRat
  rw [whole]
  push_cast
  rw [mul_assoc _ (_ * _), mul_assoc (quotient : ℚ), ten_pow_toNat le, mul_assoc]

/-- The digits that `fix` would drop from a representable number are zeros. -/
private theorem dvd_of_representable
    {ctx : DecimalContext}
    {d : Decimal}
    (nonzero : d.coefficient ≠ 0)
    (representable : Representable ctx d.toRat)
    {target : Int}
    (targetEq : target = max (digitCount d.coefficient + d.exponent - ctx.prec) ctx.etiny)
    (below : d.exponent < target) :
    10 ^ (target - d.exponent).toNat ∣ d.coefficient := by
  obtain ⟨coefficient, exponent, shape, small, least, _⟩ := representable
  have magnitude : (d.coefficient : ℚ) * 10 ^ d.exponent = (coefficient.natAbs : ℚ) * 10 ^ exponent := by
    rw [← abs_toRat, shape, abs_mul, abs_of_pos (ten_zpow_pos exponent), Nat.cast_natAbs,
      Int.cast_abs]
  -- The leading digit puts the representing exponent at or above the target.
  have above : target ≤ exponent := by
    by_contra contrary
    have targetIs : target = digitCount d.coefficient + d.exponent - ctx.prec := by omega
    have lower := zpow_adjusted_le nonzero
    have upper : |d.toRat| < (10 : ℚ) ^ ((ctx.prec : ℤ) + exponent) := by
      rw [abs_toRat, magnitude, ten_zpow_add, zpow_natCast]
      refine mul_lt_mul_of_pos_right ?_ (ten_zpow_pos _)
      have natSmall : coefficient.natAbs < 10 ^ ctx.prec := by
        have cast : (coefficient.natAbs : ℤ) < (10 : ℤ) ^ ctx.prec := by
          rw [Int.natCast_natAbs]
          exact small
        exact_mod_cast cast
      exact_mod_cast natSmall
    have exponents : d.adjusted < (ctx.prec : ℤ) + exponent :=
      (zpow_lt_zpow_iff_right₀ (by norm_num : (1 : ℚ) < 10)).mp (lower.trans_lt upper)
    unfold adjusted at exponents
    omega
  -- Hence the coefficient is a multiple of the dropped power of ten.
  have multiple : (d.coefficient : ℚ) =
      ((coefficient.natAbs * 10 ^ (exponent - target).toNat * 10 ^ (target - d.exponent).toNat : ℕ) : ℚ) := by
    have cancel : (d.coefficient : ℚ) * 10 ^ d.exponent =
        ((coefficient.natAbs * 10 ^ (exponent - target).toNat *
          10 ^ (target - d.exponent).toNat : ℕ) : ℚ) * 10 ^ d.exponent := by
      rw [magnitude]
      push_cast
      rw [mul_assoc _ _ ((10 : ℚ) ^ d.exponent), ten_pow_toNat below.le, mul_assoc,
        ten_pow_toNat above]
    exact mul_right_cancel₀ (ten_zpow_ne_zero _) cancel
  exact Dvd.intro_left _ (by exact_mod_cast multiple.symm)

/-- Rounding an exact quotient does nothing. -/
theorem roundQuotient_of_dvd
    (mode : RoundingMode)
    (negative : Bool)
    {dividend divisor : Nat}
    (positive : 0 < divisor)
    (divides : divisor ∣ dividend) :
    RoundingMode.roundQuotient mode negative dividend divisor = dividend / divisor := by
  have whole : dividend % divisor = 0 := Nat.mod_eq_zero_of_dvd divides
  cases mode <;> simp [RoundingMode.roundQuotient, RoundingMode.roundsAway, whole, positive.ne']

/-- A representable result survives `fix` exactly. -/
theorem fix_of_representable
    {ctx : DecimalContext}
    {d : Decimal}
    (representable : Representable ctx d.toRat) :
    ∃ fixed, fix ctx d = .ok fixed ∧ fixed.toRat = d.toRat := by
  unfold fix
  by_cases zero : d.coefficient = 0
  · refine ⟨_, if_pos zero, ?_⟩
    rw [toRat_eq_zero_iff.mpr zero, toRat_eq_zero_iff]
    exact zero
  · rw [if_neg zero]
    obtain ⟨_, _, _, _, _, bounded⟩ := id representable
    have inRange : d.adjusted < ctx.emax + 1 :=
      (zpow_lt_zpow_iff_right₀ (by norm_num : (1 : ℚ) < 10)).mp
        ((zpow_adjusted_le zero).trans_lt bounded)
    have noOverflow : ¬ ctx.etop < digitCount d.coefficient + d.exponent - ctx.prec := by
      unfold DecimalContext.etop
      unfold adjusted at inRange
      omega
    simp only [if_neg noOverflow]
    generalize targetEq : max ((digitCount d.coefficient : ℤ) + d.exponent - ctx.prec) ctx.etiny = target
    by_cases below : d.exponent < target
    · have divides := dvd_of_representable zero representable targetEq.symm below
      have positive : 0 < 10 ^ (target - d.exponent).toNat := Nat.pos_of_ne_zero (by simp)
      rw [if_pos below, roundQuotient_of_dvd _ _ positive divides]
      obtain ⟨quotient, whole⟩ := divides
      have quotientEq : d.coefficient / 10 ^ (target - d.exponent).toNat = quotient := by
        rw [whole, Nat.mul_div_cancel_left _ positive]
      rw [quotientEq]
      have wholeComm : d.coefficient = quotient * 10 ^ (target - d.exponent).toNat := by
        rw [whole, mul_comm]
      -- The kept digits fit: dropping zeros does not lengthen the number.
      have fits : ¬ ctx.prec < digitCount quotient := by
        rw [not_lt, digitCount_le_iff ctx.precPos]
        by_contra contrary
        have long : 10 ^ (ctx.prec + (target - d.exponent).toNat) ≤ d.coefficient := by
          rw [wholeComm, pow_add]
          exact Nat.mul_le_mul_right _ (not_lt.mp contrary)
        have exceeded := (Nat.pow_lt_pow_iff_right (by decide : 1 < 10)).mp
          (long.trans_lt (lt_pow_digitCount d.coefficient))
        omega
      have notAbove : ¬ ctx.etop < target := by
        -- Above `etop` only `etiny` could be the target, and it lies below.
        have floorBelow : ctx.etiny ≤ ctx.etop := by
          have := ctx.eminLe
          unfold DecimalContext.etiny DecimalContext.etop
          omega
        omega
      rw [if_neg fits, if_neg notAbove]
      exact ⟨_, rfl, toRat_dropZeros d below.le wholeComm⟩
    · rw [if_neg below]
      exact ⟨d, rfl, rfl⟩

end Decimal
end QuantumAnalytics
