import Mathlib.Tactic.IntervalCases
import QuantumAnalytics.Foundations.DecimalScale

/-!
# Exact decimal arithmetic

Numbers with a bounded number of decimal places form a grid. A context computes
the sum or product of such numbers exactly while its precision covers the digits
of the result, and then a division is exact as well or off by less than a unit of
the last digit.
-/

namespace QuantumAnalytics

/-! ### Numbers with a bounded number of decimal places -/

/-- The number has at most `scale` decimal places. -/
def OnGrid (scale : Nat) (x : ℚ) : Prop := ∃ n : ℤ, x * 10 ^ scale = n

namespace OnGrid

variable {scale other : Nat} {x y : ℚ}

theorem intCast (scale : Nat) (n : ℤ) : OnGrid scale n := ⟨n * 10 ^ scale, by push_cast; rfl⟩

theorem zero (scale : Nat) : OnGrid scale 0 := ⟨0, by simp⟩

theorem mono (onGrid : OnGrid scale x) (le : scale ≤ other) : OnGrid other x := by
  obtain ⟨n, whole⟩ := onGrid
  refine ⟨n * 10 ^ (other - scale), ?_⟩
  rw [← Nat.add_sub_cancel' le, pow_add, ← mul_assoc, whole, Nat.add_sub_cancel_left]
  push_cast
  rfl

theorem add (left : OnGrid scale x) (right : OnGrid scale y) : OnGrid scale (x + y) := by
  obtain ⟨m, leftWhole⟩ := left
  obtain ⟨n, rightWhole⟩ := right
  exact ⟨m + n, by rw [add_mul, leftWhole, rightWhole]; push_cast; rfl⟩

theorem neg (onGrid : OnGrid scale x) : OnGrid scale (-x) := by
  obtain ⟨n, whole⟩ := onGrid
  exact ⟨-n, by rw [neg_mul, whole]; push_cast; rfl⟩

theorem sub (left : OnGrid scale x) (right : OnGrid scale y) : OnGrid scale (x - y) := by
  rw [sub_eq_add_neg]
  exact left.add right.neg

theorem abs (onGrid : OnGrid scale x) : OnGrid scale |x| := by
  rcases abs_choice x with same | opposite
  · rwa [same]
  · rw [opposite]
    exact onGrid.neg

theorem mul (left : OnGrid scale x) (right : OnGrid other y) : OnGrid (scale + other) (x * y) := by
  obtain ⟨m, leftWhole⟩ := left
  obtain ⟨n, rightWhole⟩ := right
  refine ⟨m * n, ?_⟩
  rw [pow_add, mul_mul_mul_comm, leftWhole, rightWhole]
  push_cast
  rfl

/-- Multiplying by an integer adds no decimal places. -/
theorem intCast_mul (n : ℤ) (onGrid : OnGrid scale x) : OnGrid scale (n * x) := by
  obtain ⟨m, whole⟩ := onGrid
  exact ⟨n * m, by rw [mul_assoc, whole]; push_cast; rfl⟩

/-- Rounding puts a number on the grid. -/
theorem atScale (mode : RoundingMode) (scale : Nat) (x : ℚ) : OnGrid scale (mode.atScale scale x) :=
  ⟨mode.toInt (x * 10 ^ scale), div_mul_cancel₀ _ (pow_ne_zero _ (by norm_num))⟩

/-- Rounding does not change a number on the grid. -/
theorem atScale_eq (mode : RoundingMode) (onGrid : OnGrid scale x) : mode.atScale scale x = x := by
  obtain ⟨n, whole⟩ := onGrid
  exact mode.atScale_of_eq_intCast whole

theorem iff_den_eq_one : OnGrid scale x ↔ (x * 10 ^ scale).den = 1 := by
  constructor
  · rintro ⟨n, whole⟩
    rw [whole, Rat.den_intCast]
  · intro whole
    exact ⟨(x * 10 ^ scale).num, (Rat.den_eq_one_iff _).mp whole |>.symm⟩

instance : Decidable (OnGrid scale x) := decidable_of_iff _ iff_den_eq_one.symm

end OnGrid

/-- A number with at most `scale` decimal places and a bounded magnitude. -/
structure Sized (scale : Nat) (bound : ℚ) (x : ℚ) : Prop where
  /-- The decimal places. -/
  onGrid : OnGrid scale x
  /-- The magnitude. -/
  small : |x| ≤ bound

namespace Sized

variable {scale other : Nat} {bound limit x y : ℚ}

theorem mono
    (sized : Sized scale bound x)
    (places : scale ≤ other)
    (le : bound ≤ limit) : Sized other limit x :=
  ⟨sized.onGrid.mono places, sized.small.trans le⟩

theorem intCast {n : ℤ} (small : |(n : ℚ)| ≤ bound) : Sized 0 bound n := ⟨.intCast 0 n, small⟩

theorem add
    (left : Sized scale bound x)
    (right : Sized scale limit y) : Sized scale (bound + limit) (x + y) :=
  ⟨left.onGrid.add right.onGrid, (abs_add_le x y).trans (add_le_add left.small right.small)⟩

theorem neg (sized : Sized scale bound x) : Sized scale bound (-x) :=
  ⟨sized.onGrid.neg, by simpa only [abs_neg] using sized.small⟩

/-- A sign does not change the size. -/
theorem signed
    {sign : ℤ}
    (unit : sign = 1 ∨ sign = -1)
    (sized : Sized scale bound x) : Sized scale bound (sign * x) := by
  rcases unit with rfl | rfl
  · simpa using sized
  · simpa using sized.neg

theorem sub
    (left : Sized scale bound x)
    (right : Sized scale limit y) : Sized scale (bound + limit) (x - y) := by
  rw [sub_eq_add_neg]
  exact left.add right.neg

theorem mul
    (left : Sized scale bound x)
    (right : Sized other limit y) : Sized (scale + other) (bound * limit) (x * y) :=
  ⟨left.onGrid.mul right.onGrid, by
    rw [abs_mul]
    exact mul_le_mul left.small right.small (abs_nonneg y) ((abs_nonneg x).trans left.small)⟩

/-- The sum of numbers of one size. -/
theorem sum
    {numbers : List ℚ}
    (sized : ∀ x ∈ numbers, Sized scale bound x) :
    Sized scale (numbers.length * bound) numbers.sum := by
  induction numbers with
  | nil => exact ⟨.zero scale, by simp⟩
  | cons first rest inductionHypothesis =>
      have tail := inductionHypothesis fun x present => sized x (List.mem_cons_of_mem _ present)
      have total := (sized first List.mem_cons_self).add tail
      rw [List.sum_cons, List.length_cons]
      refine total.mono le_rfl (le_of_eq ?_)
      push_cast
      ring

end Sized

namespace Decimal

/-- The digits of a positive number do not start with a zero. -/
theorem head?_toDigits {n : Nat} (positive : 0 < n) : (Nat.toDigits 10 n).head? ≠ some '0' := by
  induction n using Nat.strong_induction_on with
  | _ n inductionHypothesis =>
      by_cases small : n < 10
      · rw [Nat.toDigits_of_lt_base small]
        interval_cases n <;> decide
      · rw [Nat.toDigits_of_base_le (by decide) (by omega),
          List.head?_append_of_ne_nil _ Nat.toDigits_ne_nil]
        exact inductionHypothesis (n / 10) (by omega) (by omega)

/-- A decimal is on the grid of its exponent. -/
theorem onGrid (d : Decimal) {scale : Nat} (le : -(scale : ℤ) ≤ d.exponent) :
    OnGrid scale d.toRat := by
  refine ⟨d.scaledTo (-scale), ?_⟩
  rw [← scaledTo_mul d le, mul_assoc, zpow_neg, zpow_natCast,
    inv_mul_cancel₀ (pow_ne_zero _ (by norm_num)), mul_one]

/-! ### Exact results -/

/-- The context represents every number with `scale` decimal places below a bound. -/
def Covers (ctx : DecimalContext) (scale : Nat) (bound : ℚ) : Prop :=
  ∀ x, OnGrid scale x → |x| < bound → Representable ctx x

/-- The precision covers the digits on both sides of the point. -/
theorem covers_of_digits
    {ctx : DecimalContext}
    {scale whole : Nat}
    (digits : whole + scale ≤ ctx.prec)
    (least : ctx.etiny ≤ -(scale : ℤ))
    (greatest : (whole : ℤ) ≤ ctx.emax + 1) : Covers ctx scale (10 ^ whole) := by
  intro x onGrid small
  obtain ⟨n, scaled⟩ := onGrid
  have power : (0 : ℚ) < 10 ^ scale := by positivity
  refine ⟨n, -scale, ?_, ?_, least, small.trans_le ?_⟩
  · rw [← scaled, zpow_neg, zpow_natCast, mul_assoc, mul_inv_cancel₀ power.ne', mul_one]
  · have bounded : |(n : ℚ)| < 10 ^ ctx.prec := by
      rw [← scaled, abs_mul, abs_of_pos power]
      calc |x| * 10 ^ scale < 10 ^ whole * 10 ^ scale := mul_lt_mul_of_pos_right small power
        _ = 10 ^ (whole + scale) := (pow_add _ _ _).symm
        _ ≤ 10 ^ ctx.prec := pow_le_pow_right₀ (by norm_num) digits
    exact_mod_cast bounded
  · rw [← zpow_natCast]
    exact zpow_le_zpow_right₀ (by norm_num) greatest

theorem Covers.of_sized
    {ctx : DecimalContext}
    {scale other : Nat}
    {limit bound x : ℚ}
    (covers : Covers ctx scale limit)
    (sized : Sized other bound x)
    (places : other ≤ scale)
    (below : bound < limit) : Representable ctx x :=
  covers x (sized.onGrid.mono places) (sized.small.trans_lt below)

/-- A representable sum is computed exactly. -/
theorem add_of_representable
    {ctx : DecimalContext}
    {left right : Decimal}
    (representable : Representable ctx (left.toRat + right.toRat)) :
    ∃ total, add ctx left right = .ok total ∧ total.toRat = left.toRat + right.toRat := by
  rw [← toRat_exactAdd] at representable ⊢
  exact fix_of_representable representable

/-- A representable product is computed exactly. -/
theorem mul_of_representable
    {ctx : DecimalContext}
    {left right : Decimal}
    (representable : Representable ctx (left.toRat * right.toRat)) :
    ∃ product, mul ctx left right = .ok product ∧ product.toRat = left.toRat * right.toRat := by
  rw [← toRat_exactMul] at representable ⊢
  exact fix_of_representable representable

theorem toRat_of_add
    {ctx : DecimalContext}
    {left right total : Decimal}
    (added : add ctx left right = .ok total)
    (representable : Representable ctx (left.toRat + right.toRat)) :
    total.toRat = left.toRat + right.toRat := by
  obtain ⟨result, resultEq, exact⟩ := add_of_representable representable
  obtain rfl := Except.ok.inj (added.symm.trans resultEq)
  exact exact

theorem toRat_of_mul
    {ctx : DecimalContext}
    {left right product : Decimal}
    (multiplied : mul ctx left right = .ok product)
    (representable : Representable ctx (left.toRat * right.toRat)) :
    product.toRat = left.toRat * right.toRat := by
  obtain ⟨result, resultEq, exact⟩ := mul_of_representable representable
  obtain rfl := Except.ok.inj (multiplied.symm.trans resultEq)
  exact exact

end Decimal
end QuantumAnalytics
