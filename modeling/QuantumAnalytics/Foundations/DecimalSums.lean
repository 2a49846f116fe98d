import QuantumAnalytics.Foundations.DecimalExact

/-!
# Sums of decimals at one exponent

Decimals with the same exponent are added like the integers of their digits, as
long as the digits fit into the context. Such a sum has the exponent of its
terms, and its zero has no sign, so it does not depend on the order of the
terms.
-/

namespace QuantumAnalytics
namespace Decimal

theorem natAbs_signed (d : Decimal) : d.signed.natAbs = d.coefficient := by
  unfold signed
  cases d.negative <;> simp

/-- The decimal of a signed coefficient; zero has no sign. -/
def ofSigned (digits : Int) (exponent : Int) : Decimal := ⟨digits < 0, digits.natAbs, exponent⟩

@[simp] theorem signed_ofSigned (digits exponent : Int) :
    (ofSigned digits exponent).signed = digits := by
  unfold ofSigned signed
  by_cases negative : digits < 0
  · simp only [negative, decide_true, RoundingMode.sign_true]
    omega
  · simp only [negative, decide_false, RoundingMode.sign_false]
    omega

theorem ofInt_eq_ofSigned (value : Int) : ofInt value = ofSigned value 0 := rfl

theorem scaledTo_self (d : Decimal) : d.scaledTo d.exponent = d.signed := by
  simp [scaledTo]

/-- Only a negative decimal has a negative sign and digits. -/
theorem negative_eq_false_of_signed
    {d : Decimal}
    (positive : 0 < d.signed) : d.negative = false := by
  by_contra isNegative
  rw [Bool.not_eq_false] at isNegative
  rw [signed, isNegative, RoundingMode.sign_true] at positive
  omega

/-- A sum at the exponent of both terms is the sum of their digits. -/
theorem exactAdd_of_scaledTo
    {left right : Decimal}
    {exponent digits : Int}
    (unsigned : left.negative = true → digits < 0)
    (aligned : min left.exponent right.exponent = exponent)
    (leftDigits : left.scaledTo exponent = digits)
    (rightDigits : right.scaledTo exponent = right.signed) :
    exactAdd left right = ofSigned (digits + right.signed) exponent := by
  simp only [exactAdd, aligned, leftDigits, rightDigits, ofSigned, Decimal.mk.injEq, and_true]
  split_ifs with cancelled
  · rw [cancelled]
    cases isNegative : left.negative with
    | false => rfl
    | true =>
        have positive : 0 < right.signed := by
          have negative := unsigned isNegative
          omega
        rw [negative_eq_false_of_signed positive]
        rfl
  · rfl

/-- Adding a decimal at the exponent of the total adds its digits. -/
theorem exactAdd_ofSigned
    (digits : Int)
    {d : Decimal}
    {exponent : Int}
    (aligned : d.exponent = exponent) :
    exactAdd (ofSigned digits exponent) d = ofSigned (digits + d.signed) exponent := by
  subst aligned
  refine exactAdd_of_scaledTo (fun negative => by simpa [ofSigned] using negative) (by simp [ofSigned])
    ?_ d.scaledTo_self
  exact ((ofSigned digits d.exponent).scaledTo_self).trans (signed_ofSigned _ _)

/-- The first decimal that is added to zero gives its exponent to the total. -/
theorem exactAdd_zero
    {d : Decimal}
    (small : d.exponent ≤ 0) :
    exactAdd (ofInt 0) d = ofSigned d.signed d.exponent := by
  have sum := @exactAdd_of_scaledTo (ofInt 0) d d.exponent 0 (fun negative => by
    simp [ofInt] at negative) (min_eq_right small) (by simp [scaledTo, ofInt, signed])
    d.scaledTo_self
  rwa [zero_add] at sum

/-- A number whose digits fit into the context is kept as it is. -/
theorem fix_eq_self
    {ctx : DecimalContext}
    {d : Decimal}
    (fits : d.coefficient < 10 ^ min ctx.prec ctx.emax.toNat)
    (least : ctx.etiny ≤ d.exponent)
    (small : d.exponent ≤ 0)
    (wide : 0 ≤ ctx.emax) : fix ctx d = .ok d := by
  unfold fix
  split_ifs with zero
  · rw [max_eq_left least, min_eq_left (small.trans wide)]
  · have room : 0 < min ctx.prec ctx.emax.toNat := by
      by_contra none
      rw [Nat.eq_zero_of_not_pos none, pow_zero] at fits
      omega
    have digits : digitCount d.coefficient ≤ min ctx.prec ctx.emax.toNat :=
      (digitCount_le_iff room).mpr fits
    have inPrec := digits.trans (min_le_left _ _)
    have inRange := digits.trans (min_le_right _ _)
    have top : ctx.etop = ctx.emax - ctx.prec + 1 := rfl
    dsimp only
    rw [if_neg (by omega), if_neg (by simp only [not_lt, max_le_iff]; omega)]

theorem exactMul_one (d : Decimal) : exactMul (ofInt 1) d = d := by
  obtain ⟨negative, coefficient, exponent⟩ := d
  simp [exactMul, ofInt]

/-- A running total: zero before the first term, and digits at one exponent after it. -/
def IsTotal (exponent digits : Int) (total : Decimal) : Prop :=
  total = ofSigned digits exponent ∨ digits = 0 ∧ total = ofInt 0

/-- A term at the exponent of the sum is added exactly. -/
theorem add_aligned
    {ctx : DecimalContext}
    {exponent digits : Int}
    {total d : Decimal}
    (least : ctx.etiny ≤ exponent)
    (small : exponent ≤ 0)
    (wide : 0 ≤ ctx.emax)
    (isTotal : IsTotal exponent digits total)
    (aligned : d.exponent = exponent)
    (fits : (digits + d.signed).natAbs < 10 ^ min ctx.prec ctx.emax.toNat) :
    add ctx total d = .ok (ofSigned (digits + d.signed) exponent) := by
  have exact : exactAdd total d = ofSigned (digits + d.signed) exponent := by
    rcases isTotal with rfl | ⟨rfl, rfl⟩
    · exact exactAdd_ofSigned digits aligned
    · rw [exactAdd_zero (aligned ▸ small), zero_add, aligned]
  rw [add, exact]
  exact fix_eq_self fits least small wide

end Decimal
end QuantumAnalytics
