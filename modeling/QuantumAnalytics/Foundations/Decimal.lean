import Mathlib.Data.Nat.Log
import QuantumAnalytics.Foundations.PyText
import QuantumAnalytics.Foundations.Rounding

/-!
# Decimal arithmetic

The finite decimals of the General Decimal Arithmetic specification, as
Python's `decimal` module implements it: a sign, a coefficient and an
exponent. Every operation computes its exact result and then fits it into the
context by `fix`, rounding half to even. Infinities and NaNs occur only as the
result of reading text.
-/

namespace QuantumAnalytics

/-- A finite decimal number. -/
structure Decimal where
  /-- The sign bit. -/
  negative : Bool
  /-- The digits read as one natural number. -/
  coefficient : Nat
  /-- The power of ten. -/
  exponent : Int
  deriving DecidableEq

/-- The trapped conditions of a context. -/
inductive DecimalSignal
  | overflow
  | invalidOperation
  | divisionByZero
  deriving DecidableEq

/-- The least exponent of a context is at most the largest, unless it is set. -/
theorem defaultExponents_le : (-999999 : Int) ≤ 999999 := by decide

/-- A decimal context: precision and exponent range. -/
structure DecimalContext where
  /-- Number of significant digits. -/
  prec : Nat
  /-- Largest adjusted exponent. -/
  emax : Int := 999999
  /-- Least adjusted exponent of a normal number. -/
  emin : Int := -999999
  /-- At least one digit is kept. -/
  precPos : 0 < prec
  /-- The exponent range is not empty. -/
  eminLe : emin ≤ emax := by exact defaultExponents_le

namespace DecimalContext

/-- `decimal.DefaultContext`. -/
def default : DecimalContext where
  prec := 28
  precPos := by decide

/-- Least exponent. -/
def etiny (ctx : DecimalContext) : Int := ctx.emin - ctx.prec + 1

/-- Largest exponent of a number with all digits in use. -/
def etop (ctx : DecimalContext) : Int := ctx.emax - ctx.prec + 1

end DecimalContext

namespace Decimal

/-- The number of digits of a coefficient; zero has one digit. -/
def digitCount (n : Nat) : Nat := Nat.log 10 n + 1

/-- `Decimal(value)` of an integer. -/
def ofInt (value : Int) : Decimal := ⟨value < 0, value.natAbs, 0⟩

/-- The exact value. -/
def toRat (d : Decimal) : ℚ :=
  RoundingMode.sign d.negative * d.coefficient * (10 : ℚ) ^ d.exponent

/-- The coefficient with its sign. -/
def signed (d : Decimal) : Int := RoundingMode.sign d.negative * d.coefficient

/-- `d.adjusted()`: the exponent of the leading digit. -/
def adjusted (d : Decimal) : Int := d.exponent + digitCount d.coefficient - 1

/-- `d.is_zero()`. -/
def isZero (d : Decimal) : Bool := d.coefficient == 0

/-- The signed coefficient at a smaller or equal exponent. -/
def scaledTo (d : Decimal) (exponent : Int) : Int :=
  d.signed * 10 ^ (d.exponent - exponent).toNat

/-- `left < right`, compared exactly. -/
def lt (left right : Decimal) : Bool :=
  let exponent := min left.exponent right.exponent
  left.scaledTo exponent < right.scaledTo exponent

/-- `left == right`, compared exactly. -/
def eq (left right : Decimal) : Bool :=
  let exponent := min left.exponent right.exponent
  left.scaledTo exponent == right.scaledTo exponent

/-- `left <= right`, compared exactly. -/
def le (left right : Decimal) : Bool := lt left right || eq left right

/-! ### Context operations -/

/-- `_fix`: fit an exact result into the context, rounding half to even. -/
def fix (ctx : DecimalContext) (d : Decimal) : Except DecimalSignal Decimal :=
  if d.coefficient = 0 then
    .ok { d with exponent := min (max d.exponent ctx.etiny) ctx.emax }
  else
    let needed := digitCount d.coefficient + d.exponent - ctx.prec
    if ctx.etop < needed then .error .overflow
    else
      let target := max needed ctx.etiny
      if d.exponent < target then
        let rounded := RoundingMode.roundQuotient .halfEven d.negative d.coefficient
          (10 ^ (target - d.exponent).toNat)
        -- A carry into a new digit drops the last one, which is zero.
        if ctx.prec < digitCount rounded then
          if ctx.etop < target + 1 then .error .overflow
          else .ok ⟨d.negative, rounded / 10, target + 1⟩
        else if ctx.etop < target then .error .overflow
        else .ok ⟨d.negative, rounded, target⟩
      else .ok d

/-- The exact sum. -/
def exactAdd (left right : Decimal) : Decimal :=
  let exponent := min left.exponent right.exponent
  let total := left.scaledTo exponent + right.scaledTo exponent
  { negative := if total = 0 then left.negative && right.negative else total < 0
    coefficient := total.natAbs
    exponent := exponent }

/-- `left + right`. -/
def add (ctx : DecimalContext) (left right : Decimal) : Except DecimalSignal Decimal :=
  fix ctx (exactAdd left right)

/-- `d.copy_negate()`. -/
def copyNegate (d : Decimal) : Decimal := { d with negative := !d.negative }

/-- `d.copy_abs()`. -/
def copyAbs (d : Decimal) : Decimal := { d with negative := false }

/-- `left - right`. -/
def sub (ctx : DecimalContext) (left right : Decimal) : Except DecimalSignal Decimal :=
  add ctx left right.copyNegate

/-- `-d`: zero keeps no sign. -/
def neg (ctx : DecimalContext) (d : Decimal) : Except DecimalSignal Decimal :=
  fix ctx (if d.isZero then d.copyAbs else d.copyNegate)

/-- `abs(d)`. -/
def abs (ctx : DecimalContext) (d : Decimal) : Except DecimalSignal Decimal :=
  fix ctx (if d.negative && !d.isZero then d.copyNegate else d.copyAbs)

/-- The exact product. -/
def exactMul (left right : Decimal) : Decimal where
  negative := left.negative != right.negative
  coefficient := left.coefficient * right.coefficient
  exponent := left.exponent + right.exponent

/-- `left * right`. -/
def mul (ctx : DecimalContext) (left right : Decimal) : Except DecimalSignal Decimal :=
  fix ctx (exactMul left right)

/-- Drop trailing zeros while the exponent is below the ideal one; at most
`fuel` of them. -/
def stripZeros : Nat → Nat → Int → Int → Nat × Int
  | 0, coefficient, exponent, _ => (coefficient, exponent)
  | fuel + 1, coefficient, exponent, ideal =>
      if exponent < ideal ∧ coefficient % 10 = 0 then
        stripZeros fuel (coefficient / 10) (exponent + 1) ideal
      else (coefficient, exponent)

/-- The quotient of two nonzero decimals before `fix`: one digit more than the
precision and, when it is inexact, a last digit that is neither 0 nor 5. -/
def rawQuotient (ctx : DecimalContext) (left right : Decimal) : Decimal :=
  let negative := left.negative != right.negative
  let shift : Int :=
    digitCount right.coefficient - digitCount left.coefficient + ctx.prec + 1
  let exponent := left.exponent - right.exponent - shift
  let dividend := left.coefficient * 10 ^ shift.toNat
  let divisor := right.coefficient * 10 ^ (-shift).toNat
  let quotient := dividend / divisor
  if dividend % divisor ≠ 0 then
    ⟨negative, if quotient % 5 = 0 then quotient + 1 else quotient, exponent⟩
  else
    let ideal := left.exponent - right.exponent
    let (coefficient, exponent) := stripZeros (ideal - exponent).toNat quotient exponent ideal
    ⟨negative, coefficient, exponent⟩

/-- `left / right`. -/
def div (ctx : DecimalContext) (left right : Decimal) : Except DecimalSignal Decimal :=
  if right.isZero then .error (if left.isZero then .invalidOperation else .divisionByZero)
  else if left.isZero then
    fix ctx ⟨left.negative != right.negative, 0, left.exponent - right.exponent⟩
  else fix ctx (rawQuotient ctx left right)

/-- `_rescale`: the same number at another exponent, rounded if digits drop. -/
def rescale (mode : RoundingMode) (d : Decimal) (exponent : Int) : Decimal :=
  if exponent ≤ d.exponent then
    { d with
      coefficient := d.coefficient * 10 ^ (d.exponent - exponent).toNat
      exponent := exponent }
  else
    { d with
      coefficient := RoundingMode.roundQuotient mode d.negative d.coefficient
        (10 ^ (exponent - d.exponent).toNat)
      exponent := exponent }

/-- `d.quantize(Decimal(1).scaleb(exponent), rounding=mode)`. -/
def quantize (ctx : DecimalContext) (mode : RoundingMode) (d : Decimal) (exponent : Int) :
    Except DecimalSignal Decimal :=
  if exponent < ctx.etiny ∨ ctx.emax < exponent then .error .invalidOperation
  else if d.isZero then .ok (rescale mode d exponent)
  else if ctx.emax < d.adjusted ∨ ctx.prec < d.adjusted - exponent + 1 then
    .error .invalidOperation
  else
    let rescaled := rescale mode d exponent
    if ctx.emax < rescaled.adjusted ∨ ctx.prec < digitCount rescaled.coefficient then
      .error .invalidOperation
    else .ok rescaled

/-! ### Text -/

/-- The result of reading a decimal: a finite number, or an infinity or NaN. -/
inductive Reading
  | finite (value : Decimal)
  | special
  deriving DecidableEq

/-- `decimal.MAX_EMAX`. -/
def maxEmax : Int := 999999999999999999

/-- `decimal.MIN_ETINY`. -/
def minEtiny : Int := -1999999999999999997

/-- Text as `Decimal` reads it: blanks around it and underscores are dropped,
other scripts' digits become ASCII. -/
def numericAscii? (text : List Char) : Option (List Char) :=
  ((PyText.strip text).filter fun c => c ≠ '_').mapM fun c =>
    if 0 < c.toNat ∧ c.toNat < 128 then some c
    else if PyText.isSpace c then some ' '
    else (PyText.decimalDigit? c).map Nat.digitChar

/-- ASCII digits read as a natural number. -/
def digitsValue (text : List Char) : Nat :=
  text.foldl (fun total c => 10 * total + (c.toNat - '0'.toNat)) 0

/-- The optional exponent part of a number. -/
def parseExponent? : List Char → Option Int
  | [] => some 0
  | mark :: rest =>
      if mark = 'e' ∨ mark = 'E' then
        let negative := rest.head? = some '-'
        let digits := if negative ∨ rest.head? = some '+' then rest.drop 1 else rest
        if digits ≠ [] ∧ digits.all Char.isDigit = true then
          some (if negative then -(digitsValue digits : Int) else digitsValue digits)
        else none
      else none

/-- An unsigned number. -/
def parseNumber? (negative : Bool) (text : List Char) : Option Decimal := do
  let whole := text.takeWhile Char.isDigit
  let rest := text.dropWhile Char.isDigit
  let fraction := if rest.head? = some '.' then (rest.drop 1).takeWhile Char.isDigit else []
  let rest := if rest.head? = some '.' then (rest.drop 1).dropWhile Char.isDigit else rest
  if whole ++ fraction = [] then none
  else
    let exponent := (← parseExponent? rest) - fraction.length
    let d : Decimal := ⟨negative, digitsValue (whole ++ fraction), exponent⟩
    if minEtiny ≤ exponent ∧ (if d.isZero then exponent else d.adjusted) ≤ maxEmax then some d
    else none

/-- The texts of infinities and NaNs, in lower case. -/
def isSpecial (text : List Char) : Bool :=
  text = "inf".toList || text = "infinity".toList ||
    ("nan".toList.isPrefixOf text && (text.drop 3).all Char.isDigit) ||
    ("snan".toList.isPrefixOf text && (text.drop 4).all Char.isDigit)

/-- `Decimal(text)`; `none` is an `InvalidOperation`. -/
def parse? (text : String) : Option Reading := do
  let ascii ← numericAscii? text.toList
  let negative := ascii.head? = some '-'
  let magnitude := if negative ∨ ascii.head? = some '+' then ascii.drop 1 else ascii
  if isSpecial (magnitude.map Char.toLower) then some .special
  else (parseNumber? negative magnitude).map .finite

/-- `format(d, "f")`. -/
def formatF (d : Decimal) : String :=
  let digits := Nat.toDigits 10 d.coefficient
  let magnitude :=
    if 0 ≤ d.exponent then
      digits ++ List.replicate (if d.isZero then 0 else d.exponent.toNat) '0'
    else
      let places := d.exponent.natAbs
      let padded := List.replicate (places + 1 - digits.length) '0' ++ digits
      padded.take (padded.length - places) ++ '.' :: padded.drop (padded.length - places)
  String.ofList (if d.negative then '-' :: magnitude else magnitude)

example : (parse? " -1_2.50e1 ").map (fun | .finite d => formatF d | .special => "") =
    some "-125.0" := by decide

end Decimal
end QuantumAnalytics
