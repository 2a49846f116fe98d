import QuantumAnalytics.Foundations.DecimalDivision
import QuantumAnalytics.Foundations.Outcomes

/-!
# Decimals within the limits of a context

What a context operation returns has at most the digits and the exponent of the
context; the only failure is an exponent that is too large. A number whose
exponent is within these limits can be rounded to a scale.
-/

namespace QuantumAnalytics
namespace Decimal

/-- The number has at most the digits and the exponent of the context. -/
def Fits (ctx : DecimalContext) (d : Decimal) : Prop :=
  d.coefficient = 0 ∨ digitCount d.coefficient ≤ ctx.prec ∧ d.adjusted ≤ ctx.emax

/-- A rounded coefficient is at most the next power of ten. -/
theorem roundQuotient_le_pow
    {mode : RoundingMode}
    {negative : Bool}
    {coefficient : Nat}
    {drop kept : Nat}
    (digits : digitCount coefficient ≤ drop + kept) :
    RoundingMode.roundQuotient mode negative coefficient (10 ^ drop) ≤ 10 ^ kept := by
  have upper := (mode.roundQuotient_bounds negative coefficient (10 ^ drop)).2
  have below : coefficient < 10 ^ drop * 10 ^ kept := by
    rw [← pow_add]
    exact (lt_pow_digitCount coefficient).trans_le (Nat.pow_le_pow_right (by norm_num) digits)
  have quotient : coefficient / 10 ^ drop < 10 ^ kept :=
    Nat.div_lt_of_lt_mul below
  omega

/-- Fitting a number overflows or gives a number that fits. -/
theorem fix_yields (ctx : DecimalContext) (d : Decimal) :
    Yields (fun failure => failure = .overflow) (Fits ctx) (fix ctx d) := by
  unfold fix
  dsimp only
  split_ifs with zero above dropped carry exceeds exceeds
  · exact .inl zero
  · rfl
  · rfl
  · right
    unfold DecimalContext.etop at exceeds
    have rounded : RoundingMode.roundQuotient .halfEven d.negative d.coefficient
        (10 ^ (max (digitCount d.coefficient + d.exponent - ctx.prec) ctx.etiny -
          d.exponent).toNat) ≤ 10 ^ ctx.prec := roundQuotient_le_pow (by omega)
    have digits : digitCount (RoundingMode.roundQuotient .halfEven d.negative d.coefficient
        (10 ^ (max (digitCount d.coefficient + d.exponent - ctx.prec) ctx.etiny -
          d.exponent).toNat) / 10) ≤ ctx.prec := by
      rw [digitCount_le_iff ctx.precPos]
      have positive : 0 < 10 ^ ctx.prec := by positivity
      omega
    refine ⟨digits, ?_⟩
    unfold adjusted
    dsimp only
    omega
  · rfl
  · right
    unfold DecimalContext.etop at exceeds
    refine ⟨not_lt.mp carry, ?_⟩
    unfold adjusted
    dsimp only
    omega
  · right
    unfold DecimalContext.etop at above
    unfold adjusted
    exact ⟨by omega, by omega⟩

theorem fits_of_fix
    {ctx : DecimalContext}
    {d fixed : Decimal}
    (fitted : fix ctx d = .ok fixed) : Fits ctx fixed := by
  have yields := fix_yields ctx d
  rwa [fitted] at yields

/-- A quotient overflows or fits, unless the divisor is zero. -/
theorem div_yields
    (ctx : DecimalContext)
    {left right : Decimal}
    (nonzero : ¬right.isZero = true) :
    Yields (fun failure => failure = .overflow) (Fits ctx) (div ctx left right) := by
  unfold div
  rw [if_neg nonzero]
  split_ifs
  · exact fix_yields ctx _
  · exact fix_yields ctx _

/-! ### Rounding to a scale -/

/-- A number whose rounding stays within the exponents of a default context. -/
def Settled (d : Decimal) : Prop :=
  d.coefficient = 0 ∨ d.adjusted ≤ 999999 ∧ (0 ≤ d.exponent ∨ d.adjusted < 999999)

theorem Fits.settled
    {ctx : DecimalContext}
    {d : Decimal}
    (fits : Fits ctx d)
    (emax : ctx.emax = 999999)
    (prec : ctx.prec ≤ 999999) : d.Settled := by
  rcases fits with zero | ⟨digits, exponent⟩
  · exact .inl zero
  · refine .inr ⟨by omega, ?_⟩
    unfold adjusted at exponent ⊢
    omega

theorem settled_of_small
    {d : Decimal}
    {whole : Nat}
    (small : |d.toRat| < 10 ^ whole)
    (bounded : whole ≤ 999999) : d.Settled := by
  by_cases zero : d.coefficient = 0
  · exact .inl zero
  · have exponents : d.adjusted < whole := (zpow_lt_zpow_iff_right₀ (by norm_num)).mp
      ((zpow_adjusted_le zero).trans_lt (by rwa [zpow_natCast]))
    exact .inr ⟨by omega, by omega⟩

/-- Numbers of one magnitude have one leading exponent. -/
theorem adjusted_congr
    {left right : Decimal}
    (leftNonzero : left.coefficient ≠ 0)
    (rightNonzero : right.coefficient ≠ 0)
    (same : left.toRat = right.toRat) : left.adjusted = right.adjusted := by
  have ten : (1 : ℚ) < 10 := by norm_num
  have below := (zpow_adjusted_le leftNonzero).trans_lt (same ▸ abs_lt_zpow_adjusted right)
  have above := (zpow_adjusted_le rightNonzero).trans_lt (same ▸ abs_lt_zpow_adjusted left)
  rw [zpow_lt_zpow_iff_right₀ ten] at below above
  omega

/-- Padding keeps the leading exponent. -/
theorem adjusted_rescale_of_le
    (mode : RoundingMode)
    {d : Decimal}
    (nonzero : d.coefficient ≠ 0)
    {exponent : Int}
    (padded : exponent ≤ d.exponent) : (rescale mode d exponent).adjusted = d.adjusted := by
  have value : (rescale mode d exponent).toRat = d.toRat := by
    rw [rescale, if_pos padded, ← scaledTo_mul d padded, toRat_eq_signed]
    simp only [scaledTo, signed]
    push_cast
    ring
  refine adjusted_congr (fun absent => ?_) nonzero value
  exact nonzero (toRat_eq_zero_iff.mp (value.symm.trans (toRat_eq_zero_iff.mpr absent)))

/-- Dropping digits raises the leading exponent by at most one. -/
theorem adjusted_rescale_le
    (mode : RoundingMode)
    {d : Decimal}
    {exponent : Int}
    (dropped : d.exponent < exponent) :
    (rescale mode d exponent).adjusted ≤ max (d.adjusted + 1) exponent := by
  rw [rescale, if_neg (not_le.mpr dropped)]
  have rounded : RoundingMode.roundQuotient mode d.negative d.coefficient
      (10 ^ (exponent - d.exponent).toNat) ≤
        10 ^ (digitCount d.coefficient - (exponent - d.exponent).toNat) :=
    roundQuotient_le_pow (by omega)
  have digits : digitCount (RoundingMode.roundQuotient mode d.negative d.coefficient
      (10 ^ (exponent - d.exponent).toNat)) ≤
        digitCount d.coefficient - (exponent - d.exponent).toNat + 1 := by
    rw [digitCount_le_iff (Nat.succ_pos _), pow_succ]
    have positive : 0 < 10 ^ (digitCount d.coefficient - (exponent - d.exponent).toNat) := by
      positivity
    omega
  unfold adjusted
  dsimp only
  omega

/-- A settled number is rounded to a scale when the precision covers it. -/
theorem quantize_of_settled
    {ctx : DecimalContext}
    (mode : RoundingMode)
    {d : Decimal}
    {scale : Nat}
    (settled : d.Settled)
    (emax : ctx.emax = 999999)
    (least : ctx.etiny ≤ -(scale : ℤ))
    (digits : max d.adjusted 0 + scale + 2 ≤ ctx.prec) :
    quantize ctx mode d (-scale) = .ok (rescale mode d (-scale)) := by
  have range : ¬(-(scale : ℤ) < ctx.etiny ∨ ctx.emax < -(scale : ℤ)) := by omega
  unfold quantize
  rw [if_neg range]
  by_cases zero : d.isZero = true
  · rw [if_pos zero]
  · rw [if_neg zero]
    have nonzero : d.coefficient ≠ 0 := by simpa using zero
    obtain ⟨small, positive⟩ := settled.resolve_left nonzero
    have fine : ¬(ctx.emax < d.adjusted ∨ (ctx.prec : ℤ) < d.adjusted - -(scale : ℤ) + 1) := by
      omega
    have leading : (rescale mode d (-scale)).adjusted ≤ max d.adjusted 0 + 1 ∧
        (rescale mode d (-scale)).adjusted ≤ 999999 := by
      rcases le_or_gt (-(scale : ℤ)) d.exponent with padded | dropped
      · rw [adjusted_rescale_of_le mode nonzero padded]
        omega
      · have raised := adjusted_rescale_le mode dropped
        omega
    have kept : ¬(ctx.emax < (rescale mode d (-scale)).adjusted ∨
        ctx.prec < digitCount (rescale mode d (-scale)).coefficient) := by
      have exponent := rescale_exponent mode d (-(scale : ℤ))
      have shape : (rescale mode d (-scale)).adjusted =
          -(scale : ℤ) + digitCount (rescale mode d (-scale)).coefficient - 1 := by
        rw [adjusted, exponent]
      omega
    simp only [if_neg fine, if_neg kept]

end Decimal
end QuantumAnalytics
