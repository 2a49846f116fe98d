import Mathlib.Data.List.Lex
import Mathlib.Data.String.Basic
import QuantumAnalytics.Finance.Values

/-!
# Rounding policies

A rounding policy that `validate_rounding_policy` accepted, the working
precision it grants to a calculation, and the roundings it prescribes. The
bounds that the validator checks are fields of the policy.
-/

namespace QuantumAnalytics

/-- The text of a mode. -/
def RoundingMode.text : RoundingMode → String
  | halfEven => "HALF_EVEN"
  | halfUp => "HALF_UP"
  | down => "DOWN"
  | up => "UP"
  | floor => "FLOOR"
  | ceiling => "CEILING"

/-- The mode of a text in `_ROUNDING_MODES`. -/
def RoundingMode.ofText? : String → Option RoundingMode
  | "HALF_EVEN" => some .halfEven
  | "HALF_UP" => some .halfUp
  | "DOWN" => some .down
  | "UP" => some .up
  | "FLOOR" => some .floor
  | "CEILING" => some .ceiling
  | _ => none

namespace Finance

/-- The points at which a policy may apply. -/
inductive ApplicationPoint
  | ruleInputNormalization
  | ruleComponentResult
  | metricFinalAccounting
  | reportPresentation
  | exportPresentation
  deriving DecidableEq

/-- The point of a text. -/
def ApplicationPoint.ofText? : String → Option ApplicationPoint
  | "RULE_INPUT_NORMALIZATION" => some ruleInputNormalization
  | "RULE_COMPONENT_RESULT" => some ruleComponentResult
  | "METRIC_FINAL_ACCOUNTING" => some metricFinalAccounting
  | "REPORT_PRESENTATION" => some reportPresentation
  | "EXPORT_PRESENTATION" => some exportPresentation
  | _ => none

/-- The largest scale to which a policy rounds. -/
def maxRoundingScale : Nat := 28

/-- An accepted rounding policy. -/
structure RoundingPolicy where
  /-- The policy's id. -/
  policyId : String
  /-- The version, counted from 1. -/
  version : Int
  /-- The digest of the policy document. -/
  contentHash : String
  /-- The mode of the accounting points. -/
  calculationMode : RoundingMode
  /-- The scale of inputs and rule components. -/
  calculationScale : Nat
  /-- The scale of final money amounts. -/
  moneyScale : Nat
  /-- The scale of other final amounts. -/
  rateScale : Nat
  /-- The mode of the presentation points. -/
  presentationMode : RoundingMode
  /-- The scale of the presentation points. -/
  presentationScale : Nat
  /-- The points at which the policy applies. -/
  applicationPoints : List ApplicationPoint
  /-- The largest number of digits of an input. -/
  maxInputPrecision : Nat
  /-- The largest number of decimal places of an input. -/
  maxInputScale : Nat
  /-- Scales are bounded. -/
  scalesBounded : calculationScale ≤ maxRoundingScale ∧ moneyScale ≤ maxRoundingScale ∧
    rateScale ≤ maxRoundingScale ∧ presentationScale ≤ maxRoundingScale
  /-- Input limits are bounded. -/
  limitsBounded : maxInputPrecision ≤ maxDecimalInputPrecision ∧
    maxInputScale ≤ maxDecimalInputScale
  /-- Inputs have at least one digit, and no more decimal places than digits. -/
  limitsAgree : 1 ≤ maxInputPrecision ∧ maxInputScale ≤ maxInputPrecision

/-! ### Validation -/

/-- A check whose outcome is kept. -/
def verify (condition : Prop) [Decidable condition] (code : FinanceCode) :
    Result (PLift condition) :=
  if holds : condition then .ok ⟨holds⟩ else raise code

/-- The members of a policy document. -/
def policyKeys : List String :=
  ["policy_id", "version", "content_hash", "status", "calculation_mode", "calculation_scale",
    "money_scale", "rate_scale", "presentation_mode", "presentation_scale",
    "currency_presentation_scales", "application_points", "max_input_precision",
    "max_input_scale", "actor", "created_at", "source", "change_reason", "approval_reference",
    "supersedes"]

/-- A non-negative integer up to a maximum. -/
def readBounded (maximum : Nat) (value : Json) : Result { n : Nat // n ≤ maximum } :=
  match nonNegativeInt? value with
  | some n => if bounded : n ≤ maximum then .ok ⟨n, bounded⟩ else raise .roundingScaleInvalid
  | none => raise .roundingScaleInvalid

/-- A value that cannot be an element of a set. -/
def isUnhashable : Json → Bool
  | .arr _ => true
  | .obj _ => true
  | _ => false

/-- The application points of a policy document: at least one, none twice. -/
def readApplicationPoints (value : Json) : Result (List ApplicationPoint) :=
  match value with
  | .arr [] => raise .roundingPointForbidden
  | .arr items =>
      if items.any isUnhashable = true then .error .typeError
      else
        match (strings? items).bind fun texts => texts.mapM ApplicationPoint.ofText? with
        | some points => if points.Nodup then .ok points else raise .roundingPointForbidden
        | none => raise .roundingPointForbidden
  | _ => raise .roundingPointForbidden

/-- `currency_presentation_scales` maps currency codes to scales. -/
def areCurrencyScales : Json → Bool
  | .obj fields => fields.all fun field =>
      PyText.isCurrencyCode field.1 &&
        (nonNegativeInt? field.2).any fun scale => scale ≤ maxRoundingScale
  | _ => false

/-- The reference to a superseded version, under the given name of its id. -/
def isVersionRef (idKey : String) : Json → Bool
  | .obj fields =>
      hasExactKeys fields [idKey, "version"] && isNonemptyString (member fields idKey) &&
        (positiveInt? (member fields "version")).isSome
  | _ => false

/-- `validate_rounding_policy`. -/
def validateRoundingPolicy (policy : Json) (preview : Bool) : Result RoundingPolicy := do
  let .obj fields := policy | raise .roundingPolicyMalformed
  check (hasExactKeys fields policyKeys = true) .roundingPolicyMalformed
  let policyId ← requireSome ((text? (member fields "policy_id")).filter isId)
    (.finance .roundingPolicyMalformed)
  let version ← requireSome (positiveInt? (member fields "version"))
    (.finance .roundingPolicyMalformed)
  let contentHash ← requireSome ((text? (member fields "content_hash")).filter PyText.isHexDigest)
    (.finance .roundingHashMismatch)
  check (canonicalHash fields ["content_hash"] = contentHash) .roundingHashMismatch
  let allowed := if preview then ["SHADOW", "PILOT", "ACTIVE"] else ["ACTIVE"]
  let _ ← lookUpOr (fun status => if status ∈ allowed then some status else none)
    (member fields "status") .roundingPolicyNotApproved
  let calculationMode ← lookUpOr RoundingMode.ofText? (member fields "calculation_mode")
    .roundingModeUnsupported
  let presentationMode ← lookUpOr RoundingMode.ofText? (member fields "presentation_mode")
    .roundingModeUnsupported
  let calculationScale ← readBounded maxRoundingScale (member fields "calculation_scale")
  let moneyScale ← readBounded maxRoundingScale (member fields "money_scale")
  let rateScale ← readBounded maxRoundingScale (member fields "rate_scale")
  let presentationScale ← readBounded maxRoundingScale (member fields "presentation_scale")
  let maxInputPrecision ← readBounded maxDecimalInputPrecision (member fields "max_input_precision")
  let maxInputScale ← readBounded maxDecimalInputScale (member fields "max_input_scale")
  let limits ← verify
    (1 ≤ maxInputPrecision.val ∧ maxInputScale.val ≤ maxInputPrecision.val) .roundingScaleInvalid
  let applicationPoints ← readApplicationPoints (member fields "application_points")
  check (areCurrencyScales (member fields "currency_presentation_scales") = true)
    .roundingCurrencyInvalid
  check (["actor", "source", "change_reason"].all (fun field =>
    isNonemptyString (member fields field)) = true) .roundingPolicyMalformed
  let _ ← parseRfc3339 (member fields "created_at") .roundingPolicyMalformed
  let approval := member fields "approval_reference"
  check (isNull approval = true ∨ isNonemptyString approval = true) .roundingPolicyMalformed
  let supersedes := member fields "supersedes"
  check (isNull supersedes = true ∨ isVersionRef "policy_id" supersedes = true)
    .roundingPolicyMalformed
  return {
    policyId, version, contentHash, calculationMode, presentationMode, applicationPoints
    calculationScale := calculationScale.val
    moneyScale := moneyScale.val
    rateScale := rateScale.val
    presentationScale := presentationScale.val
    maxInputPrecision := maxInputPrecision.val
    maxInputScale := maxInputScale.val
    scalesBounded := ⟨calculationScale.property, moneyScale.property, rateScale.property,
      presentationScale.property⟩
    limitsBounded := ⟨maxInputPrecision.property, maxInputScale.property⟩
    limitsAgree := limits.down }

/-! ### Working precision -/

namespace RoundingPolicy

/-- The largest scale that a calculation under the policy meets. -/
def workScale (policy : RoundingPolicy) : Nat :=
  policy.maxInputScale ⊔ policy.calculationScale ⊔ policy.moneyScale ⊔ policy.rateScale ⊔
    policy.presentationScale

/-- `_decimal_context`. -/
def decimalContext (policy : RoundingPolicy) (operationBudget : Nat) : DecimalContext where
  prec := policy.maxInputPrecision * operationBudget + policy.workScale + 8
  precPos := by omega

/-- The mode and scale that the policy prescribes at a point. -/
def roundingAt (policy : RoundingPolicy) (point : ApplicationPoint) (valueType : ValueType) :
    RoundingMode × Nat :=
  match point with
  | .metricFinalAccounting =>
      (policy.calculationMode, if valueType = .money then policy.moneyScale else policy.rateScale)
  | .ruleInputNormalization => (policy.calculationMode, policy.calculationScale)
  | .ruleComponentResult => (policy.calculationMode, policy.calculationScale)
  | .reportPresentation => (policy.presentationMode, policy.presentationScale)
  | .exportPresentation => (policy.presentationMode, policy.presentationScale)

end RoundingPolicy

/-! ### Rounding -/

/-- The precision in which `_quantize` rounds. -/
def quantizePrecision (value : Decimal) (scale : Nat) : DecimalContext where
  prec := max (Decimal.digitCount value.coefficient)
    ((max (value.adjusted + 1) 1).toNat + scale) + 1
  precPos := by omega

/-- `_quantize`. -/
def quantize
    (value : Decimal)
    (policy : RoundingPolicy)
    (point : ApplicationPoint)
    (valueType : ValueType) : Result (Decimal × Nat) := do
  check (point ∈ policy.applicationPoints) .roundingPointForbidden
  let (mode, scale) := policy.roundingAt point valueType
  match Decimal.quantize (quantizePrecision value scale) mode value (-scale) with
  | .ok rounded => return (rounded, scale)
  | .error .invalidOperation => raise .roundingOperationInvalid
  | .error signal => .error (.decimal signal)

/-- `_input_decimal`. -/
def inputDecimal (value : Json) (policy : RoundingPolicy) (code : FinanceCode) : Result Decimal := do
  let parsed ← parseDecimal value code policy.maxInputPrecision policy.maxInputScale
  let (rounded, _) ← quantize parsed policy .ruleInputNormalization .decimal
  return rounded

/-- `_validate_policy_input_limits`. -/
def validatePolicyInputLimits (value : Value) (policy : RoundingPolicy) : Result Unit :=
  match value.payload? with
  | some (.integer n) =>
      check (Decimal.digitCount n.natAbs ≤ policy.maxInputPrecision) .roundingInputPrecisionExceeded
  | some (.number d) => do
      let _ ← parseDecimal (.str d.formatF) .valueDecimalInvalid policy.maxInputPrecision
        policy.maxInputScale
  | _ => .ok ()

/-- `_normalize_value`. -/
def normalizeValue (value : Value) (policy : RoundingPolicy) : Result Value :=
  match value.payload? with
  | some (.number d) => do
      validatePolicyInputLimits value policy
      let (normalized, _) ← quantize d policy .ruleInputNormalization value.signature.valueType
      makeValid (.number normalized) value.signature value.sourceIds
  | some _ => do
      validatePolicyInputLimits value policy
      return value
  | none => .ok value

/-! ### Propagation of missing values -/

/-- The order in which `_propagate` takes values of one state. -/
def propagatesBefore (left right : Value) : Bool :=
  left.reasonText < right.reasonText ||
    (left.reasonText == right.reasonText && left.sourceIds ≤ right.sourceIds)

/-- The reason of a value that inherits a missing one. -/
def dependencyReason (state : NonvalidState) (reasonCode : String) : String :=
  "DEPENDENCY_" ++ state.text ++ ":" ++ reasonCode

theorem dependencyReason_ne_empty (state : NonvalidState) (reasonCode : String) :
    dependencyReason state reasonCode ≠ "" := by
  intro absent
  have lengths := congrArg String.length absent
  simp [dependencyReason] at lengths

/-- The value that inherits the missing values of one state. -/
def inherit
    (state : NonvalidState)
    (chosen : Value)
    (matching : List Value)
    (signature : Signature) : Value :=
  nonvalidValue state signature (dependencyReason state chosen.reasonText)
    (matching.flatMap Value.sourceIds) (dependencyReason_ne_empty _ _)

/-- `_propagate`. -/
def propagate (values : List Value) (signature : Signature) : Option Value :=
  NonvalidState.precedence.findSome? fun state =>
    let matching := (values.filter fun value => value.state = .nonvalid state).insertionSort
      fun left right => propagatesBefore left right = true
    matching.head?.map fun chosen => inherit state chosen matching signature

end Finance
end QuantumAnalytics
