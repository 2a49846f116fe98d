import Mathlib.Data.List.Lex
import Mathlib.Data.Prod.Lex
import Mathlib.Data.String.Basic
import QuantumAnalytics.Finance.Expression
import QuantumAnalytics.Foundations.Selection

/-!
# Rule resolution

Rule documents and calculation contexts as their validators accept them, and
`resolve_rule`, which finds the eligible rules of a context and selects the one
that is first in the resolution order.
-/

namespace QuantumAnalytics
namespace Finance

/-! ### Scopes -/

/-- The dimensions of a scope besides the organization. -/
inductive ScopeField
  | productId
  | productGroupId
  | marketplaceAccountId
  | marketplace
  | calculationProfileId
  | scenarioId
  deriving DecidableEq

namespace ScopeField

/-- The member name of a dimension. -/
def key : ScopeField → String
  | productId => "product_id"
  | productGroupId => "product_group_id"
  | marketplaceAccountId => "marketplace_account_id"
  | marketplace => "marketplace"
  | calculationProfileId => "calculation_profile_id"
  | scenarioId => "scenario_id"

/-- `_SCOPE_ORDER[:-1]`. -/
def plainOrder : List ScopeField :=
  [productId, productGroupId, marketplaceAccountId, marketplace, calculationProfileId]

/-- `_SCOPE_ORDER`. -/
def order : List ScopeField := plainOrder ++ [scenarioId]

end ScopeField

/-! ### Contexts -/

/-- The mode of a calculation; a scenario is named. -/
inductive CalculationMode
  | actual
  | scenario (scenarioId : String)
  deriving DecidableEq

/-- A context that `_validate_context` accepted. -/
structure RuleContext where
  /-- The document. -/
  document : JsonObject
  /-- The tenant. -/
  organizationId : String
  /-- The mode, with the scenario. -/
  mode : CalculationMode
  /-- The instant for which rules are resolved. -/
  calculationInstant : DateTime
  /-- The value of each scoped dimension, if the context has one. -/
  dimension : ScopeField → Option String
  /-- Who resolves. -/
  actor : String
  /-- When, as written. -/
  resolvedAt : String

/-- The members of a context. -/
def contextKeys : List String :=
  ["organization_id", "mode", "scenario_id", "calculation_instant", "marketplace_account_id",
    "marketplace", "product_id", "product_group_id", "calculation_profile_id", "resolved_at",
    "actor"]

/-- The mode of a context or request and its scenario. -/
def readMode (mode scenarioId : Json) (code : FinanceCode) : Result CalculationMode :=
  match text? mode with
  | some "ACTUAL" =>
      if isNull scenarioId = true then .ok .actual else raise .profileModeContamination
  | some "SCENARIO" =>
      match nonemptyString? scenarioId with
      | some name => .ok (.scenario name)
      | none => raise .profileModeContamination
  | _ => raise code

/-- `_validate_context`. -/
def validateContext (context : Json) : Result RuleContext := do
  let .obj fields := context | raise .ruleContextInvalid
  check (hasExactKeys fields contextKeys = true) .ruleContextInvalid
  let organizationId ← requireSome (nonemptyString? (member fields "organization_id"))
    (.finance .ruleContextInvalid)
  check (isNonemptyString (member fields "calculation_profile_id") = true) .ruleContextInvalid
  let actor ← requireSome (nonemptyString? (member fields "actor")) (.finance .ruleContextInvalid)
  check (["marketplace_account_id", "marketplace", "product_id", "product_group_id"].all
    (fun key => isNull (member fields key) || isNonemptyString (member fields key)) = true)
    .ruleContextInvalid
  let mode ← readMode (member fields "mode") (member fields "scenario_id") .ruleContextInvalid
  let calculationInstant ← parseRfc3339 (member fields "calculation_instant") .ruleContextInvalid
  let _ ← parseRfc3339 (member fields "resolved_at") .ruleContextInvalid
  let resolvedAt ← requireSome (text? (member fields "resolved_at")) (.finance .ruleContextInvalid)
  return {
    document := fields
    organizationId, mode, calculationInstant, actor, resolvedAt
    dimension := fun field => text? (member fields field.key) }

/-! ### Rule documents -/

/-- The lifecycle states of a rule. -/
inductive RuleStatus
  | draft
  | shadow
  | pilot
  | active
  | suspended
  | retired
  deriving DecidableEq

namespace RuleStatus

/-- The status of a text. -/
def ofText? : String → Option RuleStatus
  | "DRAFT" => some draft
  | "SHADOW" => some shadow
  | "PILOT" => some pilot
  | "ACTIVE" => some active
  | "SUSPENDED" => some suspended
  | "RETIRED" => some retired
  | _ => none

/-- `{"SHADOW", "PILOT", "ACTIVE"}`. -/
def isApproved : RuleStatus → Bool
  | shadow => true
  | pilot => true
  | active => true
  | _ => false

end RuleStatus

/-- A rule document that `_validate_rule_document` accepted. -/
structure RuleDocument where
  /-- The document. -/
  document : JsonObject
  /-- The rule's id. -/
  ruleId : String
  /-- The version, counted from 1. -/
  version : Int
  /-- The digest of the document. -/
  contentHash : String
  /-- The lifecycle state. -/
  status : RuleStatus
  /-- The priority among equally specific rules. -/
  priority : Int
  /-- The first instant of validity, as written. -/
  validFromText : String
  /-- The first instant of validity. -/
  validFrom : DateTime
  /-- The instant at which validity has ended, if it ends. -/
  validTo : Option DateTime
  /-- The tenant to which the rule applies. -/
  organizationId : String
  /-- The value to which a scoped dimension is constrained. -/
  scope : ScopeField → Option String
  /-- The group of which at most one rule may be eligible. -/
  exclusivityGroup : Option String

/-- The members that every rule document has. -/
def ruleKeys : List String :=
  ["rule_id", "version", "content_hash", "rule_type", "scope", "method", "base", "unit",
    "currency", "dependencies", "valid_from", "valid_to", "priority", "exclusivity_group",
    "status", "source", "actor", "created_at", "change_reason", "approval_reference",
    "supersedes"]

/-- The member that carries the payload of each method. -/
def payloadKey? : String → Option String
  | "FIXED_VALUE" => some "value"
  | "RATE" => some "rate"
  | "SAFE_EXPRESSION" => some "expression"
  | _ => none

/-- The text is an element of a set of texts. -/
def oneOf (texts : List String) (text : String) : Option String :=
  if text ∈ texts then some text else none

/-- The scope of a rule document. -/
def readScope (scope : Json) : Result (String × (ScopeField → Option String)) := do
  let .obj fields := scope | raise .ruleScopeInvalid
  check (fields.all (fun field =>
    field.1 ∈ "organization_id" :: ScopeField.order.map ScopeField.key) = true) .ruleScopeInvalid
  let organizationId ← requireSome (nonemptyString? (member fields "organization_id"))
    (.finance .ruleScopeInvalid)
  check (ScopeField.order.all (fun field =>
    (Json.lookup fields field.key).all isNonemptyString) = true) .ruleScopeInvalid
  check ((Json.lookup fields ScopeField.productId.key).isNone = true ∨
    (Json.lookup fields ScopeField.productGroupId.key).isNone = true) .ruleScopeInvalid
  return (organizationId, fun field => text? (member fields field.key))

/-- The units of a rule's money amounts. -/
def monetaryUnits : List String :=
  ["MONEY", "MONEY_PER_ITEM", "MONEY_PER_ORDER", "MONEY_PER_EVENT", "MONEY_PER_PERIOD"]

/-- The unit and currency of a rule document. -/
def checkUnit (unit currency : Json) : Result Unit := do
  match ← lookUp some unit with
  | some unit =>
      if unit ∈ monetaryUnits then
        check ((text? currency).any PyText.isCurrencyCode = true) .ruleCurrencyUnitMismatch
      else
        check (unit = "RATE" ∨ unit = "DIMENSIONLESS") .ruleCurrencyUnitMismatch
        check (isNull currency = true) .ruleCurrencyUnitMismatch
  | none => raise .ruleCurrencyUnitMismatch

/-- The dependencies of a rule document. -/
def readDependencies (dependencies : Json) : Result (List String) :=
  match dependencies with
  | .arr items =>
      if maxExpressionDependencies < items.length then raise .ruleDependencyUnknown
      else if items.any isUnhashable = true then .error .typeError
      else
        match strings? items with
        | some names =>
            if names.Nodup ∧ names.all isVariableName = true then .ok names
            else raise .ruleDependencyUnknown
        | none => raise .ruleDependencyUnknown
  | _ => raise .ruleDependencyUnknown

/-- A text that `_DECIMAL_RE` accepts. -/
def isDecimalText (value : Json) : Bool :=
  (text? value).any fun text => (NumberText.matchDecimal? text.toList).isSome

/-- The checks that depend on the method of a rule. -/
def checkMethod (method : String) (fields : JsonObject) (dependencies : List String) :
    Result Unit :=
  if method = "RATE" then do
    check (text? (member fields "unit") = some "RATE" ∧ isNull (member fields "currency") = true ∧
      text? (member fields "base") ≠ some "NONE") .ruleCurrencyUnitMismatch
    check (dependencies.length = 1) .ruleDependencyUnknown
    check (isDecimalText (member fields "rate") = true) .ruleRateInvalid
  else if method = "FIXED_VALUE" then
    check (isDecimalText (member fields "value") = true) .ruleValueInvalid
  else
    match member fields "expression" with
    | .obj expression => validateExpressionAst (Node.ofJson (.obj expression)) dependencies
    | _ => raise .ruleUnsafeExpression

/-- The bases of a rule. -/
def ruleBases : List String :=
  ["NONE", "UNIT", "ORDER", "EVENT", "PERIOD", "GROSS_SALES", "NET_SALES", "PAYOUT",
    "PRODUCT_COST", "CUSTOM_VARIABLE"]

/-- `priority`: an integer between -100000 and 100000. -/
def priority? : Json → Option Int
  | .int priority => if -100000 ≤ priority ∧ priority ≤ 100000 then some priority else none
  | _ => none

/-- `valid_to`, which lies after the given start. -/
def readValidTo (start : DateTime) (value : Json) : Result (Option DateTime) :=
  if isNull value = true then .ok none
  else do
    let validTo ← parseRfc3339 value .ruleValidityInvalid
    check (start.instant < validTo.instant) .ruleValidityInvalid
    return some validTo

/-- `_validate_rule_document`. -/
def validateRuleDocument (rule : Json) : Result RuleDocument := do
  let .obj fields := rule | raise .ruleDocumentInvalid
  check (ruleKeys.all (fun key => key ∈ fields.map Prod.fst) = true ∧
    fields.all (fun field => field.1 ∈ ruleKeys ++ ["value", "rate", "expression"]) = true)
    .ruleDocumentInvalid
  let ruleId ← requireSome ((text? (member fields "rule_id")).filter isId)
    (.finance .ruleDocumentInvalid)
  let version ← requireSome (positiveInt? (member fields "version")) (.finance .ruleDocumentInvalid)
  let contentHash ← requireSome ((text? (member fields "content_hash")).filter PyText.isHexDigest)
    (.finance .ruleHashMismatch)
  check (canonicalHash fields ["content_hash"] = contentHash) .ruleHashMismatch
  let status ← lookUpOr RuleStatus.ofText? (member fields "status") .ruleDocumentInvalid
  let _ ← lookUpOr (oneOf ["COST", "TAX", "OTHER_EXPENSE", "ALLOCATION"])
    (member fields "rule_type") .ruleDocumentInvalid
  let method ← lookUpOr (oneOf ["FIXED_VALUE", "RATE", "SAFE_EXPRESSION"])
    (member fields "method") .ruleDocumentInvalid
  let present := ["value", "rate", "expression"].filter fun key => key ∈ fields.map Prod.fst
  check (present = (payloadKey? method).toList) .ruleMethodPayloadMismatch
  let priority ← requireSome (priority? (member fields "priority")) (.finance .ruleDocumentInvalid)
  let validFrom ← parseRfc3339 (member fields "valid_from") .ruleValidityInvalid
  let validFromText ← requireSome (text? (member fields "valid_from"))
    (.finance .ruleValidityInvalid)
  let validTo ← readValidTo validFrom (member fields "valid_to")
  let _ ← parseRfc3339 (member fields "created_at") .ruleDocumentInvalid
  check (["source", "actor", "change_reason"].all (fun key =>
    isNonemptyString (member fields key)) = true) .ruleDocumentInvalid
  let approval := member fields "approval_reference"
  check (isNull approval = true ∨ isNonemptyString approval = true) .ruleDocumentInvalid
  let supersedes := member fields "supersedes"
  check (isNull supersedes = true ∨ isVersionRef "rule_id" supersedes = true) .ruleDocumentInvalid
  let (organizationId, scope) ← readScope (member fields "scope")
  checkUnit (member fields "unit") (member fields "currency")
  let dependencies ← readDependencies (member fields "dependencies")
  checkMethod method fields dependencies
  let base ← lookUpOr (oneOf ruleBases) (member fields "base") .ruleDependencyUnknown
  check (base = "CUSTOM_VARIABLE" → dependencies ≠ []) .ruleDependencyUnknown
  let group := member fields "exclusivity_group"
  check (isNull group = true ∨ isNonemptyString group = true) .ruleDocumentInvalid
  return {
    document := fields
    exclusivityGroup := text? group
    ruleId, version, contentHash, status, priority, validFromText, validFrom, validTo,
    organizationId, scope }

/-! ### Eligibility -/

/-- The reasons for which a rule is excluded from a context. -/
inductive Exclusion
  | organizationMismatch
  | ruleNotApproved
  | ruleOutsideValidity
  | scenarioRuleExcluded
  | scenarioMismatch
  | dimensionMismatch (field : ScopeField)
  deriving DecidableEq

/-- The text of a reason. -/
def Exclusion.text : Exclusion → String
  | organizationMismatch => "ORGANIZATION_MISMATCH"
  | ruleNotApproved => "RULE_NOT_APPROVED"
  | ruleOutsideValidity => "RULE_OUTSIDE_VALIDITY"
  | scenarioRuleExcluded => "SCENARIO_RULE_EXCLUDED"
  | scenarioMismatch => "SCENARIO_MISMATCH"
  | dimensionMismatch .productId => "PRODUCT_ID_MISMATCH"
  | dimensionMismatch .productGroupId => "PRODUCT_GROUP_ID_MISMATCH"
  | dimensionMismatch .marketplaceAccountId => "MARKETPLACE_ACCOUNT_ID_MISMATCH"
  | dimensionMismatch .marketplace => "MARKETPLACE_MISMATCH"
  | dimensionMismatch .calculationProfileId => "CALCULATION_PROFILE_ID_MISMATCH"
  | dimensionMismatch .scenarioId => "SCENARIO_ID_MISMATCH"

namespace RuleDocument

/-- The reason that a scenario scope gives in a mode, if any. -/
def scenarioExclusion (rule : RuleDocument) (mode : CalculationMode) : Option Exclusion :=
  match mode with
  | .actual => if (rule.scope .scenarioId).isSome = true then some .scenarioRuleExcluded else none
  | .scenario name =>
      if rule.scope .scenarioId = none ∨ rule.scope .scenarioId = some name then none
      else some .scenarioMismatch

/-- A reason, if its condition holds. -/
def excludeIf (condition : Prop) [Decidable condition] (reason : Exclusion) : List Exclusion :=
  if condition then [reason] else []

/-- `exclusions`, in the order in which they are found. -/
def exclusions (rule : RuleDocument) (context : RuleContext) : List Exclusion :=
  let instant := context.calculationInstant.instant
  excludeIf (rule.organizationId ≠ context.organizationId) .organizationMismatch ++
    excludeIf (rule.status.isApproved = false) .ruleNotApproved ++
    excludeIf (instant < rule.validFrom.instant ∨
      rule.validTo.any (fun validTo => validTo.instant ≤ instant) = true) .ruleOutsideValidity ++
    (rule.scenarioExclusion context.mode).toList ++
    ScopeField.plainOrder.flatMap fun field =>
      excludeIf ((rule.scope field).isSome = true ∧ rule.scope field ≠ context.dimension field)
        (.dimensionMismatch field)

/-- `specificity`. -/
def specificity (rule : RuleDocument) : List Nat :=
  ScopeField.order.map fun field => if (rule.scope field).isSome = true then 1 else 0

/-- `ordering`: the instant stands for the aware `datetime`, which compares as
its instant. -/
def ordering (rule : RuleDocument) : List Nat ×ₗ Int ×ₗ Int ×ₗ Int :=
  toLex (rule.specificity, toLex (rule.priority, toLex (rule.validFrom.instant, rule.version)))

/-- The key by which rule documents are sorted. -/
def sortKey (rule : RuleDocument) : String ×ₗ Int ×ₗ String :=
  toLex (rule.ruleId, toLex (rule.version, rule.contentHash))

end RuleDocument

/-! ### Resolution -/

/-- `_rule_ref`. -/
structure RuleRef where
  /-- The rule's id. -/
  ruleId : String
  /-- The version. -/
  version : Int
  /-- The digest of the document. -/
  contentHash : String
  deriving DecidableEq

/-- `_rule_ref`. -/
def RuleDocument.ref (rule : RuleDocument) : RuleRef := ⟨rule.ruleId, rule.version, rule.contentHash⟩

/-- One considered rule. -/
structure RuleCandidate where
  /-- The rule. -/
  rule : RuleRef
  /-- No reason excludes the rule. -/
  eligible : Bool
  /-- The rule is the selected one. -/
  selected : Bool
  /-- The texts of the reasons, sorted. -/
  exclusionReasons : List String
  /-- Specificity, priority, start of validity and version of an eligible rule. -/
  orderingTuple : Option (List Nat × Int × String × Int)
  deriving DecidableEq

/-- The diagnostic codes of a resolution. -/
inductive RuleDiagnostic
  | ruleExclusivityOverlap
  | ruleNotApproved
  | ruleRequiredMissing
  | ruleResolutionTie
  deriving DecidableEq

/-- The text of a diagnostic code. -/
def RuleDiagnostic.text : RuleDiagnostic → String
  | ruleExclusivityOverlap => "RULE_EXCLUSIVITY_OVERLAP"
  | ruleNotApproved => "RULE_NOT_APPROVED"
  | ruleRequiredMissing => "RULE_REQUIRED_MISSING"
  | ruleResolutionTie => "RULE_RESOLUTION_TIE"

/-- The result of `resolve_rule`. -/
structure RuleResolution where
  /-- The digest of the context. -/
  contextHash : String
  /-- The state. -/
  state : ValueState
  /-- Why nothing is selected. -/
  diagnosticCode : Option RuleDiagnostic
  /-- Every considered rule, in the order of the sort keys. -/
  candidates : List RuleCandidate
  /-- Who resolved. -/
  actor : String
  /-- When, as written. -/
  resolvedAt : String
  /-- The digest of all other members. -/
  traceId : String
  deriving DecidableEq

/-- A candidate as a JSON object. -/
def RuleCandidate.toJson (candidate : RuleCandidate) : Json :=
  .obj [("eligible", .bool candidate.eligible),
    ("exclusion_reasons", .arr (candidate.exclusionReasons.map .str)),
    ("ordering_tuple",
      match candidate.orderingTuple with
      | some (specificity, priority, validFrom, version) =>
          .arr [.arr (specificity.map fun n => .int n), .int priority, .str validFrom, .int version]
      | none => .null),
    ("rule", .obj [("content_hash", .str candidate.rule.contentHash),
      ("rule_id", .str candidate.rule.ruleId), ("version", .int candidate.rule.version)]),
    ("selected", .bool candidate.selected)]

/-- `RESOLVER_CONTRACT_VERSION`. -/
def resolverContractVersion : String := "quantum-rule-resolver-v1"

/-- The members of a resolution that its trace id digests. -/
def RuleResolution.tracedMembers (resolution : RuleResolution) : JsonObject :=
  [("actor", .str resolution.actor),
    ("candidates", .arr (resolution.candidates.map RuleCandidate.toJson)),
    ("context_hash", .str resolution.contextHash),
    ("diagnostic_code", optionalText (resolution.diagnosticCode.map RuleDiagnostic.text)),
    ("resolved_at", .str resolution.resolvedAt),
    ("resolver_contract_version", .str resolverContractVersion),
    ("state", .str resolution.state.text)]

/-- The candidate of a rule before a selection. -/
def candidateOf (context : RuleContext) (rule : RuleDocument) : RuleCandidate :=
  let exclusions := rule.exclusions context
  { rule := rule.ref
    eligible := exclusions.isEmpty
    selected := false
    exclusionReasons := sortedSet (exclusions.map Exclusion.text)
    orderingTuple :=
      if exclusions.isEmpty = true then
        some (rule.specificity, rule.priority, rule.validFromText, rule.version)
      else none }

/-- The eligible rules with their positions. -/
def eligibleRows (context : RuleContext) (rules : List RuleDocument) : List (RuleDocument × Nat) :=
  rules.zipIdx.filter fun row => (row.1.exclusions context).isEmpty

/-- Some exclusivity group has more than one of the rules. -/
def hasOverlap (rules : List RuleDocument) : Bool :=
  let groups := rules.filterMap RuleDocument.exclusivityGroup
  groups.any fun group => 1 < groups.count group

/-- `best`: the positions of the rules that are first in the resolution order. -/
def bestRows (rows : List (RuleDocument × Nat)) : List Nat :=
  (Selection.greatest (fun row => row.1.ordering) rows).map Prod.snd

/-- The state, the diagnostic code and the selected position. -/
def decideResolution (rows : List (RuleDocument × Nat)) (candidates : List RuleCandidate) :
    ValueState × Option RuleDiagnostic × Option Nat :=
  if hasOverlap (rows.map Prod.fst) = true then
    (.nonvalid .conflict, some .ruleExclusivityOverlap, none)
  else if rows.isEmpty = true then
    let statusOnly := candidates.any fun candidate =>
      candidate.exclusionReasons = [Exclusion.ruleNotApproved.text]
    (.nonvalid .blocked, some (if statusOnly then .ruleNotApproved else .ruleRequiredMissing), none)
  else
    match bestRows rows with
    | [index] => (.valid, none, some index)
    | _ => (.nonvalid .conflict, some .ruleResolutionTie, none)

/-- `resolve_rule`. -/
def resolveRule (rules : List Json) (context : Json) : Result RuleResolution := do
  let context ← validateContext context
  let documents ← rules.mapM validateRuleDocument
  let normalized := documents.insertionSort fun left right => left.sortKey ≤ right.sortKey
  let candidates := normalized.map (candidateOf context)
  let (state, diagnosticCode, selected) :=
    decideResolution (eligibleRows context normalized) candidates
  let resolution : RuleResolution := {
    contextHash := canonicalHash context.document []
    state, diagnosticCode
    candidates := candidates.zipIdx.map fun (candidate, index) =>
      { candidate with selected := selected = some index }
    actor := context.actor
    resolvedAt := context.resolvedAt
    traceId := "" }
  return { resolution with traceId := canonicalHash resolution.tracedMembers [] }

end Finance
end QuantumAnalytics
