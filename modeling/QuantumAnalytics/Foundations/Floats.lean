import Mathlib.Data.Nat.Log
import QuantumAnalytics.Foundations.Json
import QuantumAnalytics.Foundations.Rounding

/-!
# Binary floats

`float(text)` is the binary64 number nearest to the text, and `repr` writes the
shortest decimal text that is read as the same number. A float is given here by
that text; the decoder of JSON also has infinite values and `NaN`.
-/

namespace QuantumAnalytics

/-- A finite binary64 number, `mantissa * 2 ^ exponent` up to its sign. -/
structure Binary64 where
  /-- The sign bit. -/
  negative : Bool
  /-- The significand. -/
  mantissa : Nat
  /-- The exponent of the last bit. -/
  exponent : Int
  deriving DecidableEq

namespace Binary64

/-- Numerator and denominator scaled by a power of the base. -/
def scaled (base : Nat) (num den : Nat) (power : Int) : Nat × Nat :=
  (num * base ^ power.toNat, den * base ^ (-power).toNat)

/-- The greatest power of the base that is at most `num / den`. -/
def floorLog (base : Nat) (num den : Nat) : Int :=
  let guess : Int := (Nat.log base num : Int) - Nat.log base den
  let (scaledNum, scaledDen) := scaled base num den (-guess)
  if scaledDen ≤ scaledNum then guess else guess - 1

/-- `num / (den * base ^ power)`, rounded half to even. -/
def rounded (base : Nat) (num den : Nat) (power : Int) : Nat :=
  let (scaledNum, scaledDen) := scaled base num den (-power)
  RoundingMode.roundQuotient .halfEven false scaledNum scaledDen

/-- The number nearest to `num / den`; `none` is an overflow. -/
def nearest? (negative : Bool) (num den : Nat) : Option Binary64 :=
  if num = 0 then some ⟨negative, 0, -1074⟩
  else
    let exponent := max (floorLog 2 num den - 52) (-1074)
    let mantissa := rounded 2 num den exponent
    let result : Binary64 :=
      if mantissa = 2 ^ 53 then ⟨negative, 2 ^ 52, exponent + 1⟩ else ⟨negative, mantissa, exponent⟩
    if result.exponent ≤ 971 then some result else none

/-- The digits of `repr` with the position of the decimal point. -/
def reprChars (negative : Bool) (digits : List Char) (point : Int) : List Char :=
  let zeros := fun count : Int => List.replicate count.toNat '0'
  let body :=
    if -4 < point ∧ point ≤ 16 then
      if point ≤ 0 then '0' :: '.' :: (zeros (-point) ++ digits)
      else if digits.length ≤ point then digits ++ zeros (point - digits.length) ++ ['.', '0']
      else digits.take point.toNat ++ '.' :: digits.drop point.toNat
    else
      let fraction := if digits.length ≤ 1 then [] else '.' :: digits.drop 1
      let power := point - 1
      let powerDigits := Nat.toDigits 10 power.natAbs
      digits.take 1 ++ fraction ++ 'e' :: (if power < 0 then '-' else '+') ::
        (List.replicate (2 - powerDigits.length) '0' ++ powerDigits)
  if negative then '-' :: body else body

/-- The text of `coefficient * 10 ^ power`, without the zeros at its end. -/
def decimalChars (negative : Bool) (coefficient : Nat) (power : Int) : List Char :=
  if coefficient = 0 then reprChars negative ['0'] 1
  else
    let digits := Nat.toDigits 10 coefficient
    let kept := (digits.reverse.dropWhile fun c => c = '0').reverse
    reprChars negative kept (digits.length + power)

/-- The decimal texts near a number, those with fewer digits first. -/
def candidates (x : Binary64) : List (List Char) :=
  let (num, den) := scaled 2 x.mantissa 1 x.exponent
  if x.mantissa = 0 then [decimalChars x.negative 0 0]
  else
    (List.range 17).flatMap fun index =>
      let power := floorLog 10 num den - index
      let closest := rounded 10 num den power
      [closest, closest - 1, closest + 1].map fun coefficient =>
        decimalChars x.negative coefficient power

end Binary64

namespace FloatToken

/-- A number text with a fraction or an exponent. -/
def ofChars? (text : List Char) : Option FloatToken :=
  if valid : text.all isNumberChar = true ∧ ('.' ∈ text ∨ 'e' ∈ text) then
    some
      { text := String.ofList text
        isNumber := by simpa using valid.1
        isFloat := by simpa using valid.2 }
  else none

/-- The binary number that a text is read as; `none` is an overflow. -/
def nearest? (token : FloatToken) : Option Binary64 :=
  Binary64.nearest? (token.text.toList.head? = some '-') token.value.num.natAbs token.value.den

/-- `repr(float(text))`; `none` is an infinite float. Some text of at most 17
digits is always read as the number. -/
def repr? (token : FloatToken) : Option FloatToken :=
  token.nearest?.map fun x =>
    ((x.candidates.filterMap ofChars?).find? fun other => other.nearest? = some x).getD token

/-- The text that `repr` writes is read as the same float. -/
theorem repr?_of_repr?
    {token shortest : FloatToken}
    (written : token.repr? = some shortest) : shortest.repr? = some shortest := by
  rw [repr?, Option.map_eq_some_iff] at written
  obtain ⟨x, read, chosen⟩ := written
  cases found : (x.candidates.filterMap ofChars?).find? fun other => other.nearest? = some x with
  | none =>
      rw [found, Option.getD_none] at chosen
      subst chosen
      rw [repr?, read, Option.map_some, found, Option.getD_none]
  | some other =>
      rw [found, Option.getD_some] at chosen
      subst chosen
      have same : other.nearest? = some x := by
        simpa using List.find?_some found
      rw [repr?, same, Option.map_some, found, Option.getD_some]

end FloatToken

/-- A Python `float`. -/
inductive PyFloat
  /-- A finite float by the text that `repr` writes. -/
  | finite (token : FloatToken) (shortest : token.repr? = some token)
  | infinite (negative : Bool)
  | nan

namespace PyFloat

/-- `float(text)` of a number text. -/
def ofToken (token : FloatToken) : PyFloat :=
  match written : token.repr? with
  | some shortest => .finite shortest (FloatToken.repr?_of_repr? written)
  | none => .infinite (token.text.toList.head? = some '-')

/-- The number that `==` compares, for a finite float. -/
def value? : PyFloat → Option ℚ
  | .finite token _ => some token.value
  | .infinite _ => none
  | .nan => none

@[simp] theorem ofToken_token
    (token : FloatToken)
    (shortest : token.repr? = some token) : ofToken token = .finite token shortest := by
  unfold ofToken
  split
  · rename_i other written
    rw [shortest] at written
    obtain rfl := Option.some.inj written
    rfl
  · rename_i written
    rw [shortest] at written
    exact absurd written (by simp)

end PyFloat
end QuantumAnalytics
