import QuantumAnalytics.Finance.PolicyClosure

/-!
# Rounding at a policy's points

The precision in which a value is rounded has room for its digits, its places, and
the digit that a carry adds. So rounding a number whose exponent and magnitude are
moderate never fails.
-/

namespace QuantumAnalytics

namespace Decimal

/-- The largest power of ten that a calculation meets. -/
def largestPower : Nat := 200000

/-- The exponent and the magnitude are at most those of the largest power of ten. -/
structure Moderate (d : Decimal) : Prop where
  exponent : |d.exponent| ≤ largestPower
  magnitude : |d.toRat| ≤ (10 : ℚ) ^ (largestPower : ℤ)

/-- The leading digit of a moderate number. -/
theorem Moderate.adjusted_le
    {d : Decimal}
    (moderate : d.Moderate)
    (nonzero : d.coefficient ≠ 0) : d.adjusted ≤ largestPower := by
  have leading : (10 : ℚ) ^ d.adjusted ≤ |d.toRat| := by
    have digits : ((10 ^ (digitCount d.coefficient - 1) : ℕ) : ℚ) ≤ d.coefficient := by
      exact_mod_cast pow_digitCount_le (Nat.pos_of_ne_zero nonzero)
    have split : d.adjusted = ((digitCount d.coefficient - 1 : ℕ) : ℤ) + d.exponent := by
      have positive := digitCount_pos d.coefficient
      unfold adjusted
      omega
    rw [abs_toRat, split, zpow_add₀ (by norm_num), zpow_natCast]
    push_cast at digits
    exact mul_le_mul_of_nonneg_right digits (ten_zpow_pos _).le
  exact (zpow_le_zpow_iff_right₀ (by norm_num)).mp (leading.trans moderate.magnitude)

@[simp] theorem rescale_negative (mode : RoundingMode) (d : Decimal) (exponent : Int) :
    (rescale mode d exponent).negative = d.negative := by
  unfold rescale
  split <;> rfl

/-- The rounding of a moderate number stays within the exponents of a context. -/
theorem Moderate.settled
    {d : Decimal}
    (moderate : d.Moderate) : d.Settled := by
  by_cases zero : d.coefficient = 0
  · exact .inl zero
  · have leading := moderate.adjusted_le zero
    unfold largestPower at leading
    exact .inr ⟨by omega, .inr (by omega)⟩

end Decimal

namespace Finance

/-- **Rounding is correct.** At every point of a policy a moderate number is rounded to
the scale of that point and value type, as the mode of that point rounds. -/
theorem quantize_eq_atScale
    {value : Decimal}
    (moderate : value.Moderate)
    (policy : RoundingPolicy)
    {point : ApplicationPoint}
    (allowed : point ∈ policy.applicationPoints)
    (valueType : ValueType) :
    ∃ rounded, quantize value policy point valueType =
        .ok (rounded, (policy.roundingAt point valueType).2) ∧
      rounded.exponent = -((policy.roundingAt point valueType).2 : ℤ) ∧
      rounded.negative = value.negative ∧
      rounded.toRat = (policy.roundingAt point valueType).1.atScale
        (policy.roundingAt point valueType).2 value.toRat := by
  obtain ⟨⟨rounded, scale⟩, isRounded⟩ := quantize_of_settled valueType moderate.settled allowed
  obtain ⟨-, rfl, rfl⟩ := quantize_result isRounded
  exact ⟨_, isRounded, Decimal.rescale_exponent _ _ _, Decimal.rescale_negative _ _ _,
    Decimal.toRat_rescale _ _ _⟩

/-- A policy that rounds inputs half up to one place. -/
def onePlacePolicy : RoundingPolicy where
  policyId := "rounding"
  version := 1
  contentHash := ""
  calculationMode := .halfUp
  calculationScale := 1
  moneyScale := 2
  rateScale := 4
  presentationMode := .halfEven
  presentationScale := 2
  applicationPoints := [.ruleInputNormalization]
  maxInputPrecision := 10
  maxInputScale := 4
  scalesBounded := by decide
  limitsBounded := by decide
  limitsAgree := by decide

/-- A carry adds a digit to 99.95. -/
theorem quantize_eq_atScale_carry :
    ∃ rounded, quantize ⟨false, 9995, -2⟩ onePlacePolicy .ruleInputNormalization .money =
        .ok (rounded, 1) ∧
      rounded.toRat = RoundingMode.halfUp.atScale 1 (Decimal.toRat ⟨false, 9995, -2⟩) := by
  have moderate : Decimal.Moderate ⟨false, 9995, -2⟩ := by
    refine ⟨by decide, ?_⟩
    have small : |Decimal.toRat ⟨false, 9995, -2⟩| ≤ (10 : ℚ) ^ (2 : ℤ) := by
      rw [Decimal.abs_toRat]
      norm_num
    exact small.trans (zpow_le_zpow_right₀ (by norm_num) (by decide))
  obtain ⟨rounded, isRounded, -, -, value⟩ :=
    quantize_eq_atScale moderate onePlacePolicy (List.mem_singleton_self _) .money
  exact ⟨rounded, isRounded, value⟩

end Finance
end QuantumAnalytics
