import Mathlib.Data.Rat.Floor
import Mathlib.Algebra.Ring.Parity
import Mathlib.Tactic.Linarith
import Mathlib.Tactic.FieldSimp
import Mathlib.Tactic.Ring

/-!
# Rounding to an integer

The six rounding modes of decimal arithmetic, once as functions on the
rationals and once on the magnitude of a quotient of naturals, as a decimal
implementation computes them. The two agree, and a rounding only depends on
which half-integers lie below its argument and whether it is one of them.
-/

namespace QuantumAnalytics

/-- A decimal rounding mode. -/
inductive RoundingMode
  | halfEven
  | halfUp
  | down
  | up
  | floor
  | ceiling
  deriving DecidableEq

namespace RoundingMode

/-- The integer to which a mode rounds a rational number. -/
def toInt : RoundingMode → ℚ → ℤ
  | .floor, x => ⌊x⌋
  | .ceiling, x => ⌈x⌉
  | .down, x => if 0 ≤ x then ⌊x⌋ else ⌈x⌉
  | .up, x => if 0 ≤ x then ⌈x⌉ else ⌊x⌋
  | .halfUp, x => if 0 ≤ x then ⌊x + 1 / 2⌋ else ⌈x - 1 / 2⌉
  | .halfEven, x =>
      if x - ⌊x⌋ < 1 / 2 then ⌊x⌋
      else if 1 / 2 < x - ⌊x⌋ then ⌊x⌋ + 1
      else if Even ⌊x⌋ then ⌊x⌋
      else ⌊x⌋ + 1

/-- A rational number rounded at the given number of decimal places. -/
def atScale (mode : RoundingMode) (scale : Nat) (x : ℚ) : ℚ :=
  mode.toInt (x * 10 ^ scale) / 10 ^ scale

/-- Integers are not changed by rounding. -/
@[simp] theorem toInt_intCast (mode : RoundingMode) (n : ℤ) : mode.toInt (n : ℚ) = n := by
  have halfFloor : ⌊(n : ℚ) + 1 / 2⌋ = n := by
    rw [Int.floor_eq_iff]
    constructor <;> linarith
  have halfCeil : ⌈(n : ℚ) - 1 / 2⌉ = n := by
    rw [Int.ceil_eq_iff]
    constructor <;> linarith
  cases mode <;> simp only [toInt, Int.floor_intCast, Int.ceil_intCast, halfFloor, halfCeil,
    ite_self, sub_self]
  simp

/-- A number with at most `scale` decimal places is not changed by rounding at
that scale. -/
theorem atScale_of_eq_intCast
    (mode : RoundingMode)
    {scale : Nat}
    {x : ℚ}
    {n : ℤ}
    (whole : x * 10 ^ scale = n) :
    mode.atScale scale x = x := by
  have power : (10 : ℚ) ^ scale ≠ 0 := pow_ne_zero _ (by norm_num)
  rw [atScale, whole, toInt_intCast, ← whole, mul_div_cancel_right₀ _ power]

/-! ### Rounding by half-integer cells -/

/-- The rounding of a number `x` with `⌊2 * x⌋ = cell`; `exact` tells whether
`2 * x` is that integer. -/
def ofCell (cell : ℤ) (exact : Prop) [Decidable exact] : RoundingMode → ℤ
  | .floor => cell / 2
  | .ceiling => if exact then (cell + 1) / 2 else cell / 2 + 1
  | .down => if 0 ≤ cell then cell / 2 else if exact then (cell + 1) / 2 else cell / 2 + 1
  | .up => if 0 ≤ cell then if exact then (cell + 1) / 2 else cell / 2 + 1 else cell / 2
  | .halfUp => if 0 ≤ cell then (cell + 1) / 2 else if exact then cell / 2 else (cell + 1) / 2
  | .halfEven =>
      if cell % 2 = 0 then cell / 2
      else if ¬exact then cell / 2 + 1
      else if Even (cell / 2) then cell / 2
      else cell / 2 + 1

private theorem floor_of_cell {x : ℚ} {cell : ℤ} (isCell : ⌊2 * x⌋ = cell) : ⌊x⌋ = cell / 2 := by
  rw [Int.floor_eq_iff] at isCell ⊢
  have split : 2 * (cell / 2) + cell % 2 = cell := Int.mul_ediv_add_emod cell 2
  have lower : (0 : ℤ) ≤ cell % 2 := Int.emod_nonneg _ (by decide)
  have upper : cell % 2 < 2 := Int.emod_lt_of_pos _ (by decide)
  have splitRat : 2 * ((cell / 2 : ℤ) : ℚ) + ((cell % 2 : ℤ) : ℚ) = cell := by exact_mod_cast split
  have lowerRat : (0 : ℚ) ≤ ((cell % 2 : ℤ) : ℚ) := by exact_mod_cast lower
  have upperRat : ((cell % 2 : ℤ) : ℚ) ≤ 1 := by exact_mod_cast (by omega : cell % 2 ≤ 1)
  constructor <;> linarith [isCell.1, isCell.2]

private theorem ceil_of_cell
    {x : ℚ}
    {cell : ℤ}
    (isCell : ⌊2 * x⌋ = cell) :
    ⌈x⌉ = if 2 * x = cell then (cell + 1) / 2 else cell / 2 + 1 := by
  have bounds := Int.floor_eq_iff.mp isCell
  have split : 2 * (cell / 2) + cell % 2 = cell := Int.mul_ediv_add_emod cell 2
  have lower : (0 : ℤ) ≤ cell % 2 := Int.emod_nonneg _ (by decide)
  have upper : cell % 2 ≤ 1 := by omega
  have splitRat : 2 * ((cell / 2 : ℤ) : ℚ) + ((cell % 2 : ℤ) : ℚ) = cell := by exact_mod_cast split
  have lowerRat : (0 : ℚ) ≤ ((cell % 2 : ℤ) : ℚ) := by exact_mod_cast lower
  have upperRat : ((cell % 2 : ℤ) : ℚ) ≤ 1 := by exact_mod_cast upper
  by_cases exact : 2 * x = cell
  · rw [if_pos exact, Int.ceil_eq_iff]
    have half : 2 * ((cell + 1) / 2) = cell + cell % 2 := by omega
    have halfRat : 2 * (((cell + 1) / 2 : ℤ) : ℚ) = cell + ((cell % 2 : ℤ) : ℚ) := by
      exact_mod_cast half
    constructor <;> linarith
  · rw [if_neg exact, Int.ceil_eq_iff]
    have strict : (cell : ℚ) < 2 * x := lt_of_le_of_ne bounds.1 (Ne.symm exact)
    push_cast
    constructor <;> linarith [bounds.2]

/-- Rounding depends on the half-integer cell alone. -/
theorem toInt_eq_ofCell (mode : RoundingMode) (x : ℚ) :
    mode.toInt x = ofCell ⌊2 * x⌋ (2 * x = ⌊2 * x⌋) mode := by
  generalize isCell : ⌊2 * x⌋ = cell
  have bounds := Int.floor_eq_iff.mp isCell
  have floorEq := floor_of_cell isCell
  have ceilEq := ceil_of_cell isCell
  have sign : 0 ≤ x ↔ 0 ≤ cell := by
    constructor
    · intro nonnegative
      rw [← isCell]
      exact Int.floor_nonneg.mpr (by linarith)
    · intro nonnegative
      have cast : (0 : ℚ) ≤ cell := by exact_mod_cast nonnegative
      linarith [bounds.1]
  cases mode with
  | floor => exact floorEq
  | ceiling => simpa only [toInt, ofCell] using ceilEq
  | down => simp only [toInt, ofCell, floorEq, ceilEq, sign]
  | up => simp only [toInt, ofCell, floorEq, ceilEq, sign]
  | halfUp =>
      have shiftedUp : ⌊2 * (x + 1 / 2)⌋ = cell + 1 := by
        rw [← isCell, ← Int.floor_add_one]
        congr 1
        ring
      have shiftedDown : ⌊2 * (x - 1 / 2)⌋ = cell - 1 := by
        rw [← isCell, ← Int.floor_sub_one]
        congr 1
        ring
      have exactShift : 2 * (x - 1 / 2) = ((cell - 1 : ℤ) : ℚ) ↔ 2 * x = cell := by
        push_cast
        constructor <;> intro equal <;> linarith
      simp only [toInt, ofCell, sign, floor_of_cell shiftedUp, ceil_of_cell shiftedDown,
        exactShift]
      have first : (cell - 1 + 1) / 2 = cell / 2 := by rw [sub_add_cancel]
      have second : (cell - 1) / 2 + 1 = (cell + 1) / 2 := by omega
      rw [first, second]
  | halfEven =>
      have split : 2 * (cell / 2) + cell % 2 = cell := Int.mul_ediv_add_emod cell 2
      have splitRat : 2 * ((cell / 2 : ℤ) : ℚ) + ((cell % 2 : ℤ) : ℚ) = cell := by
        exact_mod_cast split
      simp only [toInt, ofCell, floorEq]
      by_cases even : cell % 2 = 0
      · have below : x - ((cell / 2 : ℤ) : ℚ) < 1 / 2 := by
          rw [even] at splitRat
          push_cast at splitRat
          linarith [bounds.2]
        rw [if_pos below, if_pos even]
      · have odd : cell % 2 = 1 := by omega
        rw [odd] at splitRat
        push_cast at splitRat
        have notBelow : ¬ x - ((cell / 2 : ℤ) : ℚ) < 1 / 2 := by linarith [bounds.1]
        rw [if_neg notBelow, if_neg even]
        by_cases exact : 2 * x = cell
        · have notAbove : ¬ 1 / 2 < x - ((cell / 2 : ℤ) : ℚ) := by linarith
          simp only [if_neg notAbove, exact, not_true_eq_false, if_false]
        · have above : 1 / 2 < x - ((cell / 2 : ℤ) : ℚ) := by
            have strict : (cell : ℚ) < 2 * x := lt_of_le_of_ne bounds.1 (Ne.symm exact)
            linarith
          simp only [if_pos above, exact, not_false_eq_true, if_true]

/-- Two numbers in the same half-integer cell round to the same integer. -/
theorem toInt_congr
    (mode : RoundingMode)
    {x y : ℚ}
    (cells : ⌊2 * x⌋ = ⌊2 * y⌋)
    (exact : 2 * x = ⌊2 * x⌋ ↔ 2 * y = ⌊2 * y⌋) :
    mode.toInt x = mode.toInt y := by
  rw [toInt_eq_ofCell, toInt_eq_ofCell, cells]
  rw [cells] at exact
  cases mode <;> simp only [ofCell, exact]

/-! ### Rounding the magnitude of a quotient -/

/-- The rounding of a magnitude goes away from zero, given the truncated
quotient and the remainder. -/
def roundsAway (negative : Bool) (quotient remainder divisor : Nat) : RoundingMode → Bool
  | .down => false
  | .up => remainder ≠ 0
  | .floor => negative && remainder ≠ 0
  | .ceiling => !negative && remainder ≠ 0
  | .halfUp => divisor ≤ 2 * remainder
  | .halfEven => divisor < 2 * remainder || (divisor = 2 * remainder && quotient % 2 = 1)

/-- The magnitude of `±dividend / divisor` rounded to an integer. -/
def roundQuotient (mode : RoundingMode) (negative : Bool) (dividend divisor : Nat) : Nat :=
  let quotient := dividend / divisor
  if roundsAway negative quotient (dividend % divisor) divisor mode then quotient + 1 else quotient

/-- The factor that a sign stands for. -/
def sign (negative : Bool) : ℤ := if negative then -1 else 1

@[simp] theorem sign_false : sign false = 1 := rfl

@[simp] theorem sign_true : sign true = -1 := rfl

section Quotient

variable (dividend : Nat) {divisor : Nat} (positive : 0 < divisor)

include positive

private theorem quotient_split :
    (dividend : ℚ) / divisor =
      ((dividend / divisor : Nat) : ℚ) + ((dividend % divisor : Nat) : ℚ) / divisor := by
  have nonzero : (divisor : ℚ) ≠ 0 := by exact_mod_cast positive.ne'
  have split : (divisor * (dividend / divisor) + dividend % divisor : Nat) = dividend :=
    Nat.div_add_mod dividend divisor
  rw [div_eq_iff nonzero, add_mul, div_mul_cancel₀ _ nonzero]
  exact_mod_cast (by rw [mul_comm (dividend / divisor)]; exact split.symm)

private theorem fraction_lt_one : ((dividend % divisor : Nat) : ℚ) / divisor < 1 := by
  have positiveRat : (0 : ℚ) < divisor := by exact_mod_cast positive
  rw [div_lt_one positiveRat]
  exact_mod_cast Nat.mod_lt dividend positive

private theorem fraction_nonneg : (0 : ℚ) ≤ ((dividend % divisor : Nat) : ℚ) / divisor := by
  positivity

private theorem floor_quotient : ⌊(dividend : ℚ) / divisor⌋ = (dividend / divisor : Nat) := by
  rw [Int.floor_eq_iff, quotient_split dividend positive]
  have below := fraction_lt_one dividend positive
  have above := fraction_nonneg dividend positive
  generalize dividend / divisor = quotient
  rw [Int.cast_natCast]
  constructor <;> linarith

private theorem ceil_quotient :
    ⌈(dividend : ℚ) / divisor⌉ =
      (dividend / divisor : Nat) + if dividend % divisor = 0 then 0 else 1 := by
  rw [Int.ceil_eq_iff, quotient_split dividend positive]
  have below := fraction_lt_one dividend positive
  generalize dividend / divisor = quotient
  by_cases whole : dividend % divisor = 0
  · simp [whole]
  · have above : (0 : ℚ) < ((dividend % divisor : Nat) : ℚ) / divisor := by
      have : 0 < dividend % divisor := Nat.pos_of_ne_zero whole
      positivity
    simp only [whole, if_false]
    push_cast
    constructor <;> linarith

private theorem half_le_fraction_iff :
    1 / 2 ≤ ((dividend % divisor : Nat) : ℚ) / divisor ↔ divisor ≤ 2 * (dividend % divisor) := by
  have positiveRat : (0 : ℚ) < divisor := by exact_mod_cast positive
  rw [div_le_div_iff₀ (by norm_num) positiveRat]
  rw [one_mul, mul_comm]
  exact_mod_cast Iff.rfl

private theorem half_lt_fraction_iff :
    1 / 2 < ((dividend % divisor : Nat) : ℚ) / divisor ↔ divisor < 2 * (dividend % divisor) := by
  have positiveRat : (0 : ℚ) < divisor := by exact_mod_cast positive
  rw [div_lt_div_iff₀ (by norm_num) positiveRat]
  rw [one_mul, mul_comm]
  exact_mod_cast Iff.rfl

private theorem floor_half_up :
    ⌊(dividend : ℚ) / divisor + 1 / 2⌋ =
      (dividend / divisor : Nat) + if divisor ≤ 2 * (dividend % divisor) then 1 else 0 := by
  rw [Int.floor_eq_iff, quotient_split dividend positive]
  have below := fraction_lt_one dividend positive
  have above := fraction_nonneg dividend positive
  generalize dividend / divisor = quotient
  by_cases half : divisor ≤ 2 * (dividend % divisor)
  · have := (half_le_fraction_iff dividend positive).mpr half
    rw [if_pos half]
    push_cast
    constructor <;> linarith
  · have := not_le.mp (mt (half_le_fraction_iff dividend positive).mp half)
    rw [if_neg half]
    push_cast
    constructor <;> linarith

/-- `roundQuotient` computes the rounding of the signed quotient. -/
theorem toInt_quotient (mode : RoundingMode) (negative : Bool) :
    mode.toInt (sign negative * ((dividend : ℚ) / divisor)) =
      sign negative * roundQuotient mode negative dividend divisor := by
  have floorEq := floor_quotient dividend positive
  have ceilEq := ceil_quotient dividend positive
  have halfEq := floor_half_up dividend positive
  have split := quotient_split dividend positive
  have nonneg : (0 : ℚ) ≤ (dividend : ℚ) / divisor := by positivity
  have fractionPos : dividend % divisor ≠ 0 →
      (0 : ℚ) < ((dividend % divisor : Nat) : ℚ) / divisor := by
    intro inexact
    have : 0 < dividend % divisor := Nat.pos_of_ne_zero inexact
    positivity
  have halfLe := half_le_fraction_iff dividend positive
  have halfLt := half_lt_fraction_iff dividend positive
  have below := fraction_lt_one dividend positive
  have bound : dividend % divisor < divisor := Nat.mod_lt dividend positive
  generalize remainderEq : dividend % divisor = remainder at *
  generalize quotientEq : dividend / divisor = quotient at *
  generalize (dividend : ℚ) / divisor = x at *
  generalize fractionEq : (remainder : ℚ) / divisor = fraction at *
  have roundEq : roundQuotient mode negative dividend divisor =
      if roundsAway negative quotient remainder divisor mode then quotient + 1
      else quotient := by
    simp only [roundQuotient, remainderEq, quotientEq]
  rw [roundEq]
  cases negative with
  | false =>
      simp only [sign_false, Int.cast_one, one_mul]
      cases mode with
      | floor => simp [toInt, roundsAway, floorEq]
      | down => simp [toInt, roundsAway, floorEq, nonneg]
      | ceiling =>
          by_cases whole : remainder = 0 <;> simp [toInt, roundsAway, ceilEq, whole]
      | up =>
          by_cases whole : remainder = 0 <;> simp [toInt, roundsAway, ceilEq, whole, nonneg]
      | halfUp =>
          by_cases half : divisor ≤ 2 * remainder
          · simp only [toInt, roundsAway, nonneg, if_true, halfEq, half, decide_true]
            push_cast
            rfl
          · simp only [toInt, roundsAway, nonneg, if_true, halfEq, half, decide_false]
            simp
      | halfEven =>
          have rest : x - ((quotient : ℤ) : ℚ) = fraction := by rw [split]; push_cast; ring
          simp only [toInt, floorEq, rest]
          by_cases above : divisor < 2 * remainder
          · have strict := halfLt.mpr above
            rw [if_neg (not_lt.mpr strict.le), if_pos strict]
            simp [roundsAway, above]
          · by_cases tie : divisor = 2 * remainder
            · have equal : fraction = 1 / 2 :=
                le_antisymm (not_lt.mp (mt halfLt.mp above)) (halfLe.mpr tie.le)
              have parity : Even (quotient : ℤ) ↔ ¬ quotient % 2 = 1 := by
                rw [Int.even_iff]
                omega
              simp only [equal, lt_irrefl, if_false, parity, roundsAway, tie,
                decide_true, Bool.true_and, Bool.false_or, decide_false]
              by_cases odd : quotient % 2 = 1 <;> simp [odd]
            · have strict : fraction < 1 / 2 :=
                not_le.mp (mt halfLe.mp (by omega))
              rw [if_pos strict]
              simp [roundsAway, above, tie]
  | true =>
      have negFloor : ⌊-x⌋ = -⌈x⌉ := Int.floor_neg
      have negCeil : ⌈-x⌉ = -⌊x⌋ := Int.ceil_neg
      have shape : ((sign true : ℤ) : ℚ) * x = -x := by simp
      rw [shape]
      simp only [sign_true, neg_one_mul]
      by_cases zero : x = 0
      · have noQuotient : quotient = 0 := by
          have cast : (0 : ℤ) = quotient := by simpa [zero] using floorEq
          exact_mod_cast cast.symm
        have noRemainder : remainder = 0 := by
          by_contra inexact
          have := fractionPos inexact
          rw [zero, noQuotient] at split
          push_cast at split
          linarith
        have whole : mode.toInt (-x) = 0 := by
          have := toInt_intCast mode 0
          simpa [zero] using this
        rw [whole, noQuotient, noRemainder]
        cases mode <;> simp [roundsAway, positive.ne']
      · have negative : ¬ (0 : ℚ) ≤ -x := by
          intro contrary
          exact zero (le_antisymm (by linarith) nonneg)
        cases mode with
        | floor =>
            by_cases whole : remainder = 0 <;>
              simp [toInt, roundsAway, negFloor, ceilEq, whole]
        | down => simp [toInt, roundsAway, negCeil, floorEq, negative]
        | ceiling => simp [toInt, roundsAway, negCeil, floorEq]
        | up =>
            by_cases whole : remainder = 0 <;>
              simp [toInt, roundsAway, negFloor, ceilEq, negative, whole]
        | halfUp =>
            have shifted : ⌈-x - 1 / 2⌉ = -⌊x + 1 / 2⌋ := by
              rw [← Int.ceil_neg]
              congr 1
              ring
            by_cases half : divisor ≤ 2 * remainder
            · simp only [toInt, roundsAway, negative, if_false, shifted, halfEq, half,
                decide_true, if_true]
              push_cast
              rfl
            · simp only [toInt, roundsAway, negative, if_false, shifted, halfEq, half,
                decide_false]
              simp
        | halfEven =>
            by_cases whole : remainder = 0
            · have integral : -x = ((-(quotient : ℤ) : ℤ) : ℚ) := by
                rw [split, ← fractionEq, whole]
                push_cast
                simp
              have stays : ¬ divisor < 2 * remainder := by omega
              have noTie : ¬ divisor = 2 * remainder := by omega
              rw [integral, toInt_intCast]
              simp [roundsAway, stays, noTie]
            · have cellFloor : ⌊-x⌋ = -((quotient : ℤ) + 1) := by
                rw [negFloor, ceilEq]
                simp [whole]
              have rest : -x - ((-((quotient : ℤ) + 1) : ℤ) : ℚ) = 1 - fraction := by
                rw [split]
                push_cast
                ring
              simp only [toInt, cellFloor, rest]
              by_cases above : divisor < 2 * remainder
              · have strict := halfLt.mpr above
                have near : 1 - fraction < 1 / 2 := by linarith
                rw [if_pos near]
                simp [roundsAway, above]
              · by_cases tie : divisor = 2 * remainder
                · have equal : fraction = 1 / 2 :=
                    le_antisymm (not_lt.mp (mt halfLt.mp above)) (halfLe.mpr tie.le)
                  have half : (1 : ℚ) - 1 / 2 = 1 / 2 := by norm_num
                  have parity : Even (-((quotient : ℤ) + 1)) ↔ quotient % 2 = 1 := by
                    rw [Int.even_iff]
                    omega
                  simp only [equal, half, lt_irrefl, if_false, parity, roundsAway, tie,
                    decide_true, Bool.true_and, Bool.false_or, decide_false]
                  by_cases odd : quotient % 2 = 1 <;> simp [odd]
                · have strict : fraction < 1 / 2 := not_le.mp (mt halfLe.mp (by omega))
                  have far : ¬ (1 - fraction < 1 / 2) := by linarith
                  have beyond : 1 / 2 < 1 - fraction := by linarith
                  rw [if_neg far, if_pos beyond]
                  simp [roundsAway, above, tie]

end Quotient

end RoundingMode
end QuantumAnalytics
