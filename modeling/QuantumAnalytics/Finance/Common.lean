import QuantumAnalytics.Domain.Idempotency
import QuantumAnalytics.Foundations.Checks
import QuantumAnalytics.Foundations.DateTime
import QuantumAnalytics.Foundations.Decimal

/-!
# Errors and readers of the finance package

The codes of `FinanceError`, and the readers of the scalar members of a JSON
document: identifiers, RFC 3339 instants, decimal and integer text. A reader
checks the text against its regular expression before it converts it.
-/

namespace QuantumAnalytics

/-- The codes that `FinanceError` carries. -/
inductive FinanceCode
  | valueCurrencyInvalid
  | valueDecimalInvalid
  | valueReasonInvalid
  | valueSignatureInvalid
  | valueSourcesInvalid
  | valueStateInvalid
  | valueTypeInvalid
  | typedValueMalformed
  | roundingCurrencyInvalid
  | roundingHashMismatch
  | roundingInputPrecisionExceeded
  | roundingInputScaleExceeded
  | roundingModeUnsupported
  | roundingOperationInvalid
  | roundingPointForbidden
  | roundingPolicyMalformed
  | roundingPolicyNotApproved
  | roundingScaleInvalid
  | expressionArityInvalid
  | expressionCurrencyMismatch
  | expressionDependencyUndeclared
  | expressionLimitExceeded
  | expressionNonFiniteLiteral
  | expressionOperatorForbidden
  | expressionSchemaInvalid
  | expressionTypeMismatch
  | expressionUnitMismatch
  | expressionVariableUnknown
  | ruleContextInvalid
  | ruleCurrencyUnitMismatch
  | ruleDependencyUnknown
  | ruleDocumentInvalid
  | ruleExpressionSignatureMismatch
  | ruleHashMismatch
  | ruleMethodPayloadMismatch
  | ruleNotApproved
  | ruleRateInvalid
  | ruleReferenceMissing
  | ruleResolutionInvalid
  | ruleResolutionReplayMismatch
  | ruleResolutionTraceMismatch
  | ruleScopeInvalid
  | ruleUnsafeExpression
  | ruleValidityInvalid
  | ruleValueInvalid
  | profileModeContamination
  | profilePublicationBlocked
  | profileReferenceMissing
  | kernelCurrencyInvalid
  | kernelInputsInvalid
  | kernelRequestInvalid
  | kernelTimestampInvalid
  | otherExpenseComponentsInvalid
  deriving DecidableEq

/-- An exception of the finance package: its own error, a failed assertion, the
`TypeError` of a lookup that cannot be hashed, the `ValueError` of an integer
text that is too long, the `IndexError` of a missing list element, or a trapped
condition of the decimal context. -/
inductive FinanceFailure
  | finance (code : FinanceCode)
  | assertion
  | typeError
  | valueError
  | indexError
  | decimal (signal : DecimalSignal)
  deriving DecidableEq

namespace Finance

/-- The result of a call that may raise. -/
abbrev Result := Except FinanceFailure

/-- `raise FinanceError(code)`. -/
def raise {α : Type} (code : FinanceCode) : Result α := .error (.finance code)

/-- Raise a `FinanceError` unless a condition holds. -/
def check (condition : Prop) [Decidable condition] (code : FinanceCode) : Result Unit :=
  require condition (.finance code)

@[simp] theorem check_eq_ok
    {condition : Prop}
    [Decidable condition]
    {code : FinanceCode}
    {done : Unit} : check condition code = .ok done ↔ condition :=
  Checks.require_eq_ok

/-! ### Members of a JSON document -/

/-- `set(mapping) == required`. -/
def hasExactKeys (fields : JsonObject) (required : List String) : Bool :=
  (fields.all fun field => field.1 ∈ required) &&
    required.all fun key => key ∈ fields.map Prod.fst

/-- `mapping.get(key)`: `None` for an absent key. -/
def member (fields : JsonObject) (key : String) : Json := (Json.lookup fields key).getD .null

/-- `value in table` for a table with text keys: a list or a mapping cannot be
looked up. -/
def lookUp {α : Type} (read : String → Option α) : Json → Result (Option α)
  | .str text => .ok (read text)
  | .arr _ => .error .typeError
  | .obj _ => .error .typeError
  | _ => .ok none

/-- `value not in table` raises. -/
def lookUpOr {α : Type} (read : String → Option α) (value : Json) (code : FinanceCode) :
    Result α := do
  requireSome (← lookUp read value) (.finance code)

theorem lookUpOr_eq_ok
    {α : Type}
    {read : String → Option α}
    {value : Json}
    {code : FinanceCode}
    {result : α} :
    lookUpOr read value code = .ok result ↔ ∃ text, value = .str text ∧ read text = some result := by
  cases value with
  | str text =>
      simp only [lookUpOr, lookUp, Checks.ok_bind, Checks.requireSome_eq_ok, Json.str.injEq,
        exists_eq_left']
  | _ => simp [lookUpOr, lookUp, Checks.requireSome_eq_ok, Checks.bind_eq_ok]

/-- `value is None`. -/
def isNull : Json → Bool
  | .null => true
  | _ => false

/-- The text of a string value. -/
def text? : Json → Option String
  | .str text => some text
  | _ => none

/-- `_is_nonempty_string`. -/
def isNonemptyString (value : Json) : Bool := (text? value).any fun text => text ≠ ""

/-- A nonempty string. -/
def nonemptyString? (value : Json) : Option String := (text? value).filter fun text => text ≠ ""

/-- `_is_positive_int`, with the integer. -/
def positiveInt? : Json → Option Int
  | .int value => if 0 < value then some value else none
  | _ => none

/-- `_is_non_negative_int`, with the integer. -/
def nonNegativeInt? : Json → Option Nat
  | .int value => if 0 ≤ value then some value.toNat else none
  | _ => none

/-- A list of strings. -/
def strings? : List Json → Option (List String)
  | [] => some []
  | item :: items => do return (← text? item) :: (← strings? items)

/-- `canonical_hash(document, exclude=…)`. -/
def canonicalHash (document : JsonObject) (exclude : List String) : String :=
  Sha256.hexdigestOfChars (Json.render (.obj (document.filter fun field => field.1 ∉ exclude)))

/-- The canonical hash is the digest of the canonical text. -/
theorem canonicalHash_eq (document : JsonObject) (exclude : List String) :
    canonicalHash document exclude =
      canonicalJsonHash (.obj (document.filter fun field => field.1 ∉ exclude)) :=
  Sha256.hexdigestOfChars_eq _

/-! ### Identifiers -/

/-- An ASCII letter or digit. -/
def isAlphanumeric (c : Char) : Bool :=
  c.isDigit || ('a' ≤ c && c ≤ 'z') || ('A' ≤ c && c ≤ 'Z')

/-- One of the characters `_.:-`. -/
def isJoiner (c : Char) : Bool := c == '_' || c == '.' || c == ':' || c == '-'

/-- `_ID_RE`. -/
def isId (text : String) : Bool :=
  match text.toList with
  | [] => false
  | c :: rest =>
      isAlphanumeric c && rest.length ≤ 127 && rest.all fun d => isAlphanumeric d || isJoiner d

/-- `_VARIABLE_NAME_RE`. -/
def isVariableName (text : String) : Bool :=
  match text.toList with
  | [] => false
  | c :: rest =>
      ('a' ≤ c && c ≤ 'z') && rest.length ≤ 127 &&
        rest.all fun d => ('a' ≤ d && d ≤ 'z') || d.isDigit || isJoiner d

/-! ### Instants -/

/-- A text that follows a template, in which `d` stands for a digit. -/
def followsTemplate (template text : List Char) : Bool :=
  template.length == text.length &&
    (template.zip text).all fun (t, c) => if t = 'd' then (PyText.decimalDigit? c).isSome else t == c

/-- `_RFC3339_RE`. -/
def isRfc3339 (text : List Char) : Bool :=
  let rest := text.drop 19
  let fraction := (rest.drop 1).takeWhile fun c => (PyText.decimalDigit? c).isSome
  let zone :=
    if rest.head? = some '.' ∧ 1 ≤ fraction.length ∧ fraction.length ≤ 6 then
      rest.drop (1 + fraction.length)
    else rest
  followsTemplate "dddd-dd-ddTdd:dd:dd".toList (text.take 19) &&
    (zone == ['Z'] || followsTemplate "+dd:dd".toList zone || followsTemplate "-dd:dd".toList zone)

/-- `_parse_rfc3339`. -/
def parseRfc3339 (value : Json) (code : FinanceCode) : Result DateTime := do
  let text ← requireSome (text? value) (.finance code)
  check (isRfc3339 text.toList = true) code
  let normalized :=
    if text.toList.getLast? = some 'Z' then String.ofList (text.toList.dropLast ++ "+00:00".toList)
    else text
  let parsed ← requireSome (DateTime.fromIsoFormat? normalized) (.finance code)
  check (parsed.isAware = true) code
  return parsed

/-! ### Numbers -/

/-- A number text split at its sign and its point. -/
structure NumberText where
  /-- The text starts with a minus sign. -/
  negative : Bool
  /-- The digits before the point. -/
  whole : List Char
  /-- The digits after the point. -/
  fraction : List Char

namespace NumberText

/-- `0` or digits without a leading zero. -/
def isWhole (digits : List Char) : Bool :=
  digits == ['0'] || (!digits.isEmpty && digits.head? != some '0')

/-- `_DECIMAL_RE`, with its parts. -/
def matchDecimal? (text : List Char) : Option NumberText :=
  let negative := text.head? = some '-'
  let unsigned := if negative then text.drop 1 else text
  let whole := unsigned.takeWhile Char.isDigit
  let rest := unsigned.dropWhile Char.isDigit
  let fraction := rest.drop 1
  if isWhole whole = true ∧
      (rest = [] ∨ rest.head? = some '.' ∧ fraction ≠ [] ∧ fraction.all Char.isDigit = true) then
    some ⟨negative, whole, fraction⟩
  else none

/-- `_INTEGER_RE`, with its parts. -/
def matchInteger? (text : List Char) : Option NumberText :=
  (matchDecimal? text).filter fun parts => parts.fraction.isEmpty

/-- The digits of the text, without sign and point. -/
def digits (parts : NumberText) : List Char := parts.whole ++ parts.fraction

/-- `Decimal(text)`. -/
def toDecimal (parts : NumberText) : Decimal where
  negative := parts.negative
  coefficient := Decimal.digitsValue parts.digits
  exponent := -parts.fraction.length

/-- `int(text)`. -/
def toInt (parts : NumberText) : Int :=
  RoundingMode.sign parts.negative * Decimal.digitsValue parts.digits

end NumberText

/-- `_parse_decimal` with its limits. -/
def parseDecimal (value : Json) (code : FinanceCode) (maxPrecision maxScale : Nat) :
    Result Decimal := do
  let text ← requireSome (text? value) (.finance code)
  let parts ← requireSome (NumberText.matchDecimal? text.toList) (.finance code)
  check (parts.digits.length ≤ maxPrecision) .roundingInputPrecisionExceeded
  check (parts.fraction.length ≤ maxScale) .roundingInputScaleExceeded
  return parts.toDecimal

/-- `_parse_integer` with its limit, which is below the limit of `int`. -/
def parseInteger (value : Json) (code : FinanceCode) (maxPrecision : Nat) : Result Int := do
  let text ← requireSome (text? value) (.finance code)
  let parts ← requireSome (NumberText.matchInteger? text.toList) (.finance code)
  check (parts.digits.length ≤ maxPrecision) .roundingInputPrecisionExceeded
  return parts.toInt

/-- `_MAX_DECIMAL_INPUT_PRECISION`. -/
def maxDecimalInputPrecision : Nat := 1000

/-- `_MAX_DECIMAL_INPUT_SCALE`. -/
def maxDecimalInputScale : Nat := 1000

example : (parseDecimal (.str "-12.50") .valueDecimalInvalid 4 2).map Decimal.formatF =
    .ok "-12.50" := by decide

/-- `_decimal_text`. -/
def decimalText (value : Decimal) (scale : Option Nat) : String :=
  let value := if value.isZero then value.copyAbs else value
  match scale with
  | some scale => (Decimal.rescale .halfEven value (-scale)).formatF
  | none =>
      let text := value.formatF.toList
      if '.' ∈ text then
        let kept := (text.reverse.dropWhile fun c => c = '0').dropWhile fun c => c = '.'
        String.ofList kept.reverse
      else String.ofList text

end Finance
end QuantumAnalytics
