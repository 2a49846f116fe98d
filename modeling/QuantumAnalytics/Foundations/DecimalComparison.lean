import QuantumAnalytics.Foundations.DecimalLimits

/-!
# Comparing a rounded number with a bound

A context operation rounds its exact result before anything is compared with
it. The rounded result is at most a bound when the exact one lies below the
middle of the cell that the bound starts in the grid of numbers of the context,
and the operation overflows from half a unit above the greatest number on.
-/

namespace QuantumAnalytics
namespace RoundingMode

/-- Half-even rounding stays at or below an integer up to the next half. -/
theorem halfEven_toInt_le_iff
    {x : ℚ}
    {k : ℤ} : halfEven.toInt x ≤ k ↔ x < k + 1 / 2 ∨ x = k + 1 / 2 ∧ Even k := by
  have floorLe := Int.floor_le x
  have ltFloor := Int.lt_floor_add_one x
  have bounds := halfEven.floor_le_toInt_le_ceil x
  have ceilLe : ⌈x⌉ ≤ ⌊x⌋ + 1 := Int.ceil_le_floor_add_one x
  rcases lt_trichotomy ⌊x⌋ k with below | rfl | above
  · have next : (⌊x⌋ : ℚ) + 1 ≤ k := by exact_mod_cast below
    exact iff_of_true (by omega) (.inl (by linarith))
  · simp only [toInt]
    split_ifs with small large even
    · exact iff_of_true le_rfl (.inl (by linarith))
    · refine iff_of_false (by omega) ?_
      rintro (less | ⟨same, -⟩) <;> linarith
    · exact iff_of_true le_rfl (.inr ⟨by linarith, even⟩)
    · refine iff_of_false (by omega) ?_
      rintro (less | ⟨-, isEven⟩)
      · linarith
      · exact even isEven
  · have next : (k : ℚ) + 1 ≤ ⌊x⌋ := by exact_mod_cast above
    refine iff_of_false (by omega) ?_
    rintro (less | ⟨same, -⟩) <;> linarith

/-- Half-even rounding treats both signs alike. -/
theorem roundQuotient_halfEven (negative : Bool) (dividend divisor : Nat) :
    roundQuotient .halfEven negative dividend divisor =
      roundQuotient .halfEven false dividend divisor := rfl

/-- Rounding keeps the order to an integer. -/
theorem le_toInt_of_le
    (mode : RoundingMode)
    {x : ℚ}
    {n : ℤ}
    (le : (n : ℚ) ≤ x) : n ≤ mode.toInt x :=
  (Int.le_floor.mpr le).trans (mode.floor_le_toInt_le_ceil x).1

theorem toInt_le_of_le
    (mode : RoundingMode)
    {x : ℚ}
    {n : ℤ}
    (le : x ≤ n) : mode.toInt x ≤ n :=
  (mode.floor_le_toInt_le_ceil x).2.trans (Int.ceil_le.mpr le)

end RoundingMode

namespace Decimal

/-- The exponent of the last digit that a context keeps. -/
def lastPlace (ctx : DecimalContext) (d : Decimal) : Int :=
  if d.coefficient = 0 then ctx.etiny else max (d.adjusted + 1 - ctx.prec) ctx.etiny

/-- A magnitude that the context rounds to at most the bound. -/
def RoundsWithin (ctx : DecimalContext) (bound : Decimal) (x : ℚ) : Prop :=
  x < (⌊|bound.toRat| / 10 ^ lastPlace ctx bound⌋ + 1 / 2) * 10 ^ lastPlace ctx bound ∨
    x = (⌊|bound.toRat| / 10 ^ lastPlace ctx bound⌋ + 1 / 2) * 10 ^ lastPlace ctx bound ∧
      Even ⌊|bound.toRat| / 10 ^ lastPlace ctx bound⌋

/-- A magnitude that is too large for the context. -/
def Overflows (ctx : DecimalContext) (x : ℚ) : Prop :=
  (10 ^ ctx.prec - 1 / 2) * 10 ^ ctx.etop ≤ x

/-! ### The value of a rounded number -/

/-- A magnitude in units of a place. -/
theorem abs_div_unit
    (d : Decimal)
    {place : Int}
    (le : d.exponent ≤ place) :
    |d.toRat| / 10 ^ place =
      (d.coefficient : ℚ) / ((10 ^ (place - d.exponent).toNat : ℕ) : ℚ) := by
  rw [abs_toRat, ← ten_pow_toNat le]
  push_cast
  rw [mul_div_mul_right _ _ (ten_zpow_ne_zero _)]

/-- A number whose digits end before a place is a whole number of its units. -/
theorem exists_units
    (d : Decimal)
    {place : Int}
    (le : place ≤ d.exponent) :
    |d.toRat| / 10 ^ place = ((d.coefficient * 10 ^ (d.exponent - place).toNat : ℕ) : ℤ) := by
  rw [abs_toRat, ← ten_pow_toNat le, ← mul_assoc, mul_div_cancel_right₀ _ (ten_zpow_ne_zero _)]
  push_cast
  rfl

/-- A magnitude is rounded to units of a place as its coefficient is. -/
theorem toInt_units
    (d : Decimal)
    {place : Int}
    (le : d.exponent ≤ place) :
    RoundingMode.halfEven.toInt (|d.toRat| / 10 ^ place) =
      RoundingMode.roundQuotient .halfEven d.negative d.coefficient
        (10 ^ (place - d.exponent).toNat) := by
  have rounded := RoundingMode.toInt_quotient d.coefficient
    (show 0 < 10 ^ (place - d.exponent).toNat by positivity) .halfEven false
  rw [RoundingMode.sign_false, Int.cast_one, one_mul, one_mul, ← abs_div_unit d le] at rounded
  rw [rounded, RoundingMode.roundQuotient_halfEven d.negative]

theorem lastPlace_of_ne_zero
    {ctx : DecimalContext}
    {d : Decimal}
    (nonzero : d.coefficient ≠ 0) :
    lastPlace ctx d = max (digitCount d.coefficient + d.exponent - ctx.prec) ctx.etiny := by
  rw [lastPlace, if_neg nonzero, adjusted]
  congr 1
  omega

/-- Fitting a number rounds it half to even at the last place that is kept. -/
theorem abs_toRat_of_fix
    {ctx : DecimalContext}
    {d fixed : Decimal}
    (fitted : fix ctx d = .ok fixed) :
    |fixed.toRat| = (RoundingMode.halfEven.toInt (|d.toRat| / 10 ^ lastPlace ctx d) : ℚ) *
      10 ^ lastPlace ctx d := by
  unfold fix at fitted
  by_cases zero : d.coefficient = 0
  · rw [if_pos zero] at fitted
    obtain rfl := Except.ok.inj fitted
    have isZero : d.toRat = 0 := toRat_eq_zero_iff.mpr zero
    have fixedZero : (⟨d.negative, d.coefficient, min (max d.exponent ctx.etiny) ctx.emax⟩ :
        Decimal).toRat = 0 := toRat_eq_zero_iff.mpr zero
    have rounded := RoundingMode.halfEven.toInt_intCast 0
    rw [Int.cast_zero] at rounded
    rw [fixedZero, isZero, abs_zero, zero_div, rounded, Int.cast_zero, zero_mul]
  · rw [if_neg zero] at fitted
    rw [lastPlace_of_ne_zero zero]
    dsimp only at fitted
    generalize placeEq :
      max (digitCount d.coefficient + d.exponent - (ctx.prec : ℤ)) ctx.etiny = place at fitted ⊢
    split_ifs at fitted with above dropped carry exceeds exceeds
    · have units := toInt_units d dropped.le
      obtain rfl := Except.ok.inj fitted
      have most : RoundingMode.roundQuotient .halfEven d.negative d.coefficient
          (10 ^ (place - d.exponent).toNat) ≤ 10 ^ ctx.prec := roundQuotient_le_pow (by omega)
      have least := mt (digitCount_le_iff ctx.precPos).mpr (not_le.mpr carry)
      have exact : RoundingMode.roundQuotient .halfEven d.negative d.coefficient
          (10 ^ (place - d.exponent).toNat) = 10 ^ ctx.prec := by omega
      have tenth : 10 ^ ctx.prec / 10 = 10 ^ (ctx.prec - 1) := by
        have precPos := ctx.precPos
        rw [Nat.div_eq_iff_eq_mul_left (by norm_num) (dvd_pow_self 10 precPos.ne'),
          ← pow_succ, Nat.sub_add_cancel precPos]
      rw [units, abs_toRat]
      dsimp only
      rw [exact, tenth, zpow_add₀ (by norm_num) place 1, zpow_one]
      have split : (10 : ℚ) ^ ctx.prec = 10 ^ (ctx.prec - 1) * 10 := by
        rw [← pow_succ, Nat.sub_add_cancel ctx.precPos]
      push_cast
      rw [split]
      ring
    · have units := toInt_units d dropped.le
      obtain rfl := Except.ok.inj fitted
      rw [units, abs_toRat]
      push_cast
      rfl
    · obtain rfl := Except.ok.inj fitted
      have units := exists_units d (not_lt.mp dropped)
      rw [units, RoundingMode.toInt_intCast, ← units,
        div_mul_cancel₀ _ (ten_zpow_ne_zero _)]

/-! ### Bounds -/

theorem etiny_le_lastPlace (ctx : DecimalContext) (d : Decimal) : ctx.etiny ≤ lastPlace ctx d := by
  unfold lastPlace
  split_ifs
  · exact le_rfl
  · exact le_max_right _ _

/-- A power of ten in units of a place below it. -/
theorem zpow_div_unit
    {place exponent : Int}
    (le : place ≤ exponent) :
    (10 : ℚ) ^ exponent / 10 ^ place = ((10 ^ (exponent - place).toNat : ℕ) : ℤ) := by
  rw [← ten_pow_toNat le, mul_div_cancel_right₀ _ (ten_zpow_ne_zero _)]
  push_cast
  rfl

/-- A magnitude that starts above the digits of the bound lies beyond it, and
so does what it is rounded to. -/
theorem beyond_of_lastPlace_lt
    {ctx : DecimalContext}
    {d bound : Decimal}
    (coarser : lastPlace ctx bound < lastPlace ctx d) :
    ∃ exponent : Int, lastPlace ctx d ≤ exponent ∧ (10 : ℚ) ^ exponent ≤ |d.toRat| ∧
      |bound.toRat| < 10 ^ exponent := by
  have least := etiny_le_lastPlace ctx bound
  have precPos := ctx.precPos
  have nonzero : d.coefficient ≠ 0 := by
    intro zero
    have shape : lastPlace ctx d = ctx.etiny := if_pos zero
    omega
  have shape : lastPlace ctx d = max (d.adjusted + 1 - ctx.prec) ctx.etiny := if_neg nonzero
  have place : lastPlace ctx d = d.adjusted + 1 - ctx.prec := by omega
  refine ⟨d.adjusted, by omega, zpow_adjusted_le nonzero, ?_⟩
  by_cases zero : bound.coefficient = 0
  · rw [toRat_eq_zero_iff.mpr zero, abs_zero]
    exact ten_zpow_pos _
  · refine (abs_lt_zpow_adjusted bound).trans_le (zpow_le_zpow_right₀ (by norm_num) ?_)
    have boundShape : lastPlace ctx bound = max (bound.adjusted + 1 - ctx.prec) ctx.etiny :=
      if_neg zero
    omega

/-- What a magnitude is rounded to is at most a bound exactly when the
magnitude lies below the middle of the bound's cell. -/
theorem abs_toRat_le_iff_of_fix
    {ctx : DecimalContext}
    {d fixed bound : Decimal}
    (fitted : fix ctx d = .ok fixed) :
    |fixed.toRat| ≤ |bound.toRat| ↔ RoundsWithin ctx bound |d.toRat| := by
  have value := abs_toRat_of_fix fitted
  have unit := ten_zpow_pos (lastPlace ctx bound)
  rcases lt_trichotomy (lastPlace ctx d) (lastPlace ctx bound) with finer | same | coarser
  · -- The number has fewer digits before the point than the bound.
    obtain ⟨exponent, le, below, above⟩ := beyond_of_lastPlace_lt finer
    have units := zpow_div_unit le
    have dUnit := ten_zpow_pos (lastPlace ctx d)
    refine iff_of_true ?_ (.inl ?_)
    · have rounded := RoundingMode.halfEven.toInt_le_of_le
        (n := ((10 ^ (exponent - lastPlace ctx d).toNat : ℕ) : ℤ))
        (x := |d.toRat| / 10 ^ lastPlace ctx d)
        (by
          rw [← zpow_div_unit (finer.le.trans le)]
          exact div_le_div_of_nonneg_right above.le dUnit.le)
      rw [value]
      refine le_trans ?_ below
      rw [← div_mul_cancel₀ ((10 : ℚ) ^ exponent) (ten_zpow_ne_zero (lastPlace ctx d)),
        zpow_div_unit (finer.le.trans le)]
      exact mul_le_mul_of_nonneg_right (by exact_mod_cast rounded) dUnit.le
    · have cell : ((10 ^ (exponent - lastPlace ctx bound).toNat : ℕ) : ℤ) ≤
          ⌊|bound.toRat| / 10 ^ lastPlace ctx bound⌋ := by
        rw [Int.le_floor, ← units]
        exact div_le_div_of_nonneg_right below unit.le
      have cellRat : (10 : ℚ) ^ exponent / 10 ^ lastPlace ctx bound ≤
          ⌊|bound.toRat| / 10 ^ lastPlace ctx bound⌋ := by
        rw [units]
        exact_mod_cast cell
      rw [div_le_iff₀ unit] at cellRat
      nlinarith
  · rw [value, same, RoundsWithin]
    rw [← le_div_iff₀ unit]
    have atFloor : (RoundingMode.halfEven.toInt (|d.toRat| / 10 ^ lastPlace ctx bound) : ℚ) ≤
          |bound.toRat| / 10 ^ lastPlace ctx bound ↔
        RoundingMode.halfEven.toInt (|d.toRat| / 10 ^ lastPlace ctx bound) ≤
          ⌊|bound.toRat| / 10 ^ lastPlace ctx bound⌋ := Int.le_floor.symm
    rw [atFloor, RoundingMode.halfEven_toInt_le_iff, div_lt_iff₀ unit,
      div_eq_iff (ten_zpow_ne_zero _)]
  · -- The number has more digits before the point than the bound.
    obtain ⟨exponent, le, below, above⟩ := beyond_of_lastPlace_lt coarser
    have dUnit := ten_zpow_pos (lastPlace ctx d)
    refine iff_of_false (not_le.mpr ?_) ?_
    · have rounded := RoundingMode.halfEven.le_toInt_of_le
        (n := ((10 ^ (exponent - lastPlace ctx d).toNat : ℕ) : ℤ))
        (x := |d.toRat| / 10 ^ lastPlace ctx d)
        (by
          rw [← zpow_div_unit le]
          exact div_le_div_of_nonneg_right below dUnit.le)
      rw [value]
      refine lt_of_lt_of_le above ?_
      rw [← div_mul_cancel₀ ((10 : ℚ) ^ exponent) (ten_zpow_ne_zero (lastPlace ctx d)),
        zpow_div_unit le]
      exact mul_le_mul_of_nonneg_right (by exact_mod_cast rounded) dUnit.le
    · have units := zpow_div_unit (coarser.le.trans le)
      have cell : ⌊|bound.toRat| / 10 ^ lastPlace ctx bound⌋ + 1 ≤
          ((10 ^ (exponent - lastPlace ctx bound).toNat : ℕ) : ℤ) := by
        rw [Int.add_one_le_iff, Int.floor_lt, ← units]
        exact div_lt_div_of_pos_right above unit
      have cellRat : (⌊|bound.toRat| / 10 ^ lastPlace ctx bound⌋ : ℚ) + 1 ≤
          (10 : ℚ) ^ exponent / 10 ^ lastPlace ctx bound := by
        rw [units]
        exact_mod_cast cell
      rw [le_div_iff₀ unit] at cellRat
      rintro (less | ⟨same, -⟩) <;> nlinarith

/-! ### Overflow -/

/-- A magnitude in units of a place that is not beyond the greatest exponent. -/
theorem overflows_of_le_units
    {ctx : DecimalContext}
    {x : ℚ}
    (place : Int)
    (high : ctx.etop ≤ place)
    (le : (10 ^ ctx.prec - 1 / 2 : ℚ) ≤ x / 10 ^ place) : Overflows ctx x := by
  rw [le_div_iff₀ (ten_zpow_pos place)] at le
  have one : (1 : ℚ) ≤ 10 ^ ctx.prec := one_le_pow₀ (by norm_num)
  refine le_trans (mul_le_mul_of_nonneg_left ?_ (by linarith)) le
  exact zpow_le_zpow_right₀ (by norm_num) high

theorem not_overflows_of_units_lt
    {ctx : DecimalContext}
    {x : ℚ}
    (place : Int)
    (low : place ≤ ctx.etop)
    (lt : x / 10 ^ place < (10 ^ ctx.prec - 1 / 2 : ℚ)) : ¬Overflows ctx x := by
  rw [div_lt_iff₀ (ten_zpow_pos place)] at lt
  have one : (1 : ℚ) ≤ 10 ^ ctx.prec := one_le_pow₀ (by norm_num)
  refine not_le.mpr (lt_of_lt_of_le lt (mul_le_mul_of_nonneg_left ?_ (by linarith)))
  exact zpow_le_zpow_right₀ (by norm_num) low

/-- A number has at most the digits of the precision above its last place. -/
theorem units_lt_pow_prec
    (ctx : DecimalContext)
    (d : Decimal) : |d.toRat| / 10 ^ lastPlace ctx d < 10 ^ ctx.prec := by
  rw [div_lt_iff₀ (ten_zpow_pos _)]
  by_cases zero : d.coefficient = 0
  · rw [toRat_eq_zero_iff.mpr zero, abs_zero]
    exact mul_pos (by positivity) (ten_zpow_pos _)
  · have shape : lastPlace ctx d = max (d.adjusted + 1 - ctx.prec) ctx.etiny := if_neg zero
    refine (abs_lt_zpow_adjusted d).trans_le ?_
    rw [← zpow_natCast, ← zpow_add₀ (by norm_num)]
    exact zpow_le_zpow_right₀ (by norm_num) (by omega)

/-- Fitting a number succeeds unless the number overflows. -/
theorem exists_fix_iff
    {ctx : DecimalContext}
    {d : Decimal} : (∃ fixed, fix ctx d = .ok fixed) ↔ ¬Overflows ctx |d.toRat| := by
  have one : (1 : ℚ) ≤ 10 ^ ctx.prec := one_le_pow₀ (by norm_num)
  have ordered : ctx.etiny ≤ ctx.etop := by
    have := ctx.eminLe
    unfold DecimalContext.etiny DecimalContext.etop
    omega
  have digits := units_lt_pow_prec ctx d
  have odd : ¬Even ((10 : ℤ) ^ ctx.prec - 1) := by
    rw [Int.not_even_iff_odd]
    exact (Even.pow_of_ne_zero (by decide) ctx.precPos.ne').sub_odd odd_one
  unfold fix
  by_cases zero : d.coefficient = 0
  · rw [if_pos zero]
    refine iff_of_true ⟨_, rfl⟩ (not_overflows_of_units_lt ctx.etiny ordered ?_)
    rw [toRat_eq_zero_iff.mpr zero, abs_zero, zero_div]
    linarith
  · rw [if_neg zero]
    have place : lastPlace ctx d = _ := lastPlace_of_ne_zero zero
    dsimp only
    rw [← place]
    split_ifs with above dropped carry exceeds exceeds
    · refine iff_of_false (by simp) (not_not.mpr ?_)
      have leading := zpow_adjusted_le zero
      refine overflows_of_le_units ctx.etop le_rfl ?_
      rw [le_div_iff₀ (ten_zpow_pos _)]
      refine le_trans (mul_le_mul_of_nonneg_right (by linarith : _ ≤ (10 : ℚ) ^ ctx.prec)
        (ten_zpow_pos _).le) (le_trans ?_ leading)
      rw [← zpow_natCast, ← zpow_add₀ (by norm_num)]
      refine zpow_le_zpow_right₀ (by norm_num) ?_
      unfold adjusted
      omega
    · refine iff_of_false (by simp) (not_not.mpr ?_)
      refine overflows_of_le_units (lastPlace ctx d) (by omega) (not_lt.mp fun less => ?_)
      have rounded : RoundingMode.halfEven.toInt (|d.toRat| / 10 ^ lastPlace ctx d) ≤
          10 ^ ctx.prec - 1 := by
        rw [RoundingMode.halfEven_toInt_le_iff]
        push_cast
        exact .inl (by linarith)
      rw [toInt_units d dropped.le] at rounded
      have many := mt (digitCount_le_iff ctx.precPos).mpr (not_le.mpr carry)
      have many' : (10 : ℤ) ^ ctx.prec ≤ ((RoundingMode.roundQuotient .halfEven d.negative
          d.coefficient (10 ^ (lastPlace ctx d - d.exponent).toNat) : ℕ) : ℤ) := by
        exact_mod_cast not_lt.mp many
      omega
    · refine iff_of_true ⟨_, rfl⟩ (not_overflows_of_units_lt (lastPlace ctx d + 1)
        (by omega) ?_)
      rw [zpow_add₀ (by norm_num), zpow_one, ← div_div, div_lt_iff₀ (by norm_num)]
      linarith
    · omega
    · refine iff_of_true ⟨_, rfl⟩ (not_overflows_of_units_lt (lastPlace ctx d)
        (by omega) ?_)
      have few : RoundingMode.halfEven.toInt (|d.toRat| / 10 ^ lastPlace ctx d) ≤
          10 ^ ctx.prec - 1 := by
        rw [toInt_units d dropped.le]
        have below := (digitCount_le_iff ctx.precPos).mp (not_lt.mp carry)
        have below' : ((RoundingMode.roundQuotient .halfEven d.negative d.coefficient
            (10 ^ (lastPlace ctx d - d.exponent).toNat) : ℕ) : ℤ) < 10 ^ ctx.prec := by
          exact_mod_cast below
        omega
      rw [RoundingMode.halfEven_toInt_le_iff] at few
      push_cast at few
      rcases few with less | ⟨-, even⟩
      · linarith
      · exact absurd even odd
    · refine iff_of_true ⟨_, rfl⟩ (not_overflows_of_units_lt (lastPlace ctx d)
        (by omega) ?_)
      have units := exists_units d (not_lt.mp dropped)
      rw [units] at digits ⊢
      have whole : ((d.coefficient * 10 ^ (d.exponent - lastPlace ctx d).toNat : ℕ) : ℤ) + 1 ≤
          10 ^ ctx.prec := by
        have below : ((d.coefficient * 10 ^ (d.exponent - lastPlace ctx d).toNat : ℕ) : ℤ) <
            10 ^ ctx.prec := by exact_mod_cast digits
        omega
      have wholeRat : (((d.coefficient * 10 ^ (d.exponent - lastPlace ctx d).toNat : ℕ) : ℤ) : ℚ) +
          1 ≤ 10 ^ ctx.prec := by exact_mod_cast whole
      linarith

/-! ### Differences -/

/-- What a context has fitted it represents. -/
theorem representable_of_fix
    {ctx : DecimalContext}
    {d fixed : Decimal}
    (fitted : fix ctx d = .ok fixed) : Representable ctx fixed.toRat := by
  have place : fixed.coefficient = 0 ∨ ctx.etiny ≤ fixed.exponent := by
    unfold fix at fitted
    by_cases zero : d.coefficient = 0
    · rw [if_pos zero] at fitted
      obtain rfl := Except.ok.inj fitted
      exact .inl zero
    · rw [if_neg zero] at fitted
      dsimp only at fitted
      split_ifs at fitted with above dropped carry exceeds exceeds
      · obtain rfl := Except.ok.inj fitted
        exact .inr ((le_max_right _ _).trans (Int.lt_succ _).le)
      · obtain rfl := Except.ok.inj fitted
        exact .inr (le_max_right _ _)
      · obtain rfl := Except.ok.inj fitted
        exact .inr ((le_max_right _ _).trans (not_lt.mp dropped))
  by_cases zero : fixed.coefficient = 0
  · refine ⟨0, ctx.etiny, ?_, ?_, le_rfl, ?_⟩
    · rw [toRat_eq_zero_iff.mpr zero, Int.cast_zero, zero_mul]
    · rw [abs_zero]
      positivity
    · rw [toRat_eq_zero_iff.mpr zero, abs_zero]
      exact ten_zpow_pos _
  · obtain ⟨digits, exponent⟩ := (fits_of_fix fitted).resolve_left zero
    refine ⟨fixed.signed, fixed.exponent, toRat_eq_signed fixed, ?_, place.resolve_left zero, ?_⟩
    · have magnitude : |fixed.signed| = (fixed.coefficient : ℤ) := by
        unfold signed
        cases fixed.negative <;> simp
      rw [magnitude]
      exact_mod_cast (digitCount_le_iff ctx.precPos).mp digits
    · refine (abs_lt_zpow_adjusted fixed).trans_le ?_
      exact zpow_le_zpow_right₀ (by norm_num) (by omega)

/-- `abs(left - right)`. -/
def absDifference (ctx : DecimalContext) (left right : Decimal) :
    Except DecimalSignal Decimal := do
  let difference ← sub ctx left right
  abs ctx difference

/-- The sign of a fitted number is dropped exactly. -/
theorem exists_abs_of_fix
    {ctx : DecimalContext}
    {d fixed : Decimal}
    (fitted : fix ctx d = .ok fixed) :
    ∃ magnitude, abs ctx fixed = .ok magnitude ∧ magnitude.toRat = |fixed.toRat| := by
  have magnitude : (if fixed.negative && !fixed.isZero then fixed.copyNegate
      else fixed.copyAbs).toRat = |fixed.toRat| := by
    have value := abs_toRat fixed
    unfold copyNegate copyAbs
    by_cases zero : fixed.coefficient = 0
    · have isZero := toRat_eq_zero_iff.mpr zero
      split_ifs
      · rw [isZero, abs_zero, toRat_eq_zero_iff]
        exact zero
      · rw [isZero, abs_zero, toRat_eq_zero_iff]
        exact zero
    · cases negative : fixed.negative <;> simp [isZero, zero, toRat, negative]
  have representable : Representable ctx (if fixed.negative && !fixed.isZero then
      fixed.copyNegate else fixed.copyAbs).toRat := by
    obtain ⟨coefficient, exponent, shape, small, least, below⟩ := representable_of_fix fitted
    rw [magnitude]
    refine ⟨|coefficient|, exponent, ?_, by rwa [abs_abs], least, by rwa [abs_abs]⟩
    rw [shape, abs_mul, abs_of_pos (ten_zpow_pos _), Int.cast_abs]
  obtain ⟨same, sameFix, sameValue⟩ := fix_of_representable representable
  exact ⟨same, sameFix, sameValue.trans magnitude⟩

theorem toRat_difference (left right : Decimal) :
    (exactAdd left right.copyNegate).toRat = left.toRat - right.toRat := by
  rw [toRat_exactAdd, toRat_copyNegate, sub_eq_add_neg]

/-- The difference of two numbers is computed unless it overflows. -/
theorem exists_absDifference_iff
    {ctx : DecimalContext}
    {left right : Decimal} :
    (∃ delta, absDifference ctx left right = .ok delta) ↔
      ¬Overflows ctx |left.toRat - right.toRat| := by
  rw [← toRat_difference, ← exists_fix_iff]
  simp only [absDifference, Checks.bind_eq_ok]
  constructor
  · rintro ⟨delta, fixed, fitted, -⟩
    exact ⟨fixed, fitted⟩
  · rintro ⟨fixed, fitted⟩
    obtain ⟨magnitude, taken, -⟩ := exists_abs_of_fix fitted
    exact ⟨magnitude, fixed, fitted, taken⟩

/-- The computed difference is at most a bound exactly when the exact one is
rounded to at most the bound. -/
theorem absDifference_le_iff
    {ctx : DecimalContext}
    {left right delta bound : Decimal}
    (computed : absDifference ctx left right = .ok delta)
    (nonneg : 0 ≤ bound.toRat) :
    delta.toRat ≤ bound.toRat ↔ RoundsWithin ctx bound |left.toRat - right.toRat| := by
  rw [absDifference, Checks.bind_eq_ok] at computed
  obtain ⟨fixed, fitted, taken⟩ := computed
  obtain ⟨magnitude, sameTaken, value⟩ := exists_abs_of_fix fitted
  rw [taken] at sameTaken
  obtain rfl := Except.ok.inj sameTaken
  have compared : |fixed.toRat| ≤ |bound.toRat| ↔ _ := abs_toRat_le_iff_of_fix fitted
  rw [value, ← abs_of_nonneg nonneg, compared, toRat_difference]

end Decimal
end QuantumAnalytics
