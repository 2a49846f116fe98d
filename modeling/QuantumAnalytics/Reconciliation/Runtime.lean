import QuantumAnalytics.Admission.Contracts
import QuantumAnalytics.Foundations.DecimalComparison
import QuantumAnalytics.Foundations.PyJson

/-!
# Reconciliation of source totals

A calculated dataset is compared with the totals that its source states. Every
metric has a tolerance from a policy; a metric matches when the difference of
its two totals, computed in a decimal context of its own, is at most that.
-/

namespace QuantumAnalytics
namespace Reconciliation

/-- The codes that `ReconciliationError` carries. -/
inductive ReconciliationErrorCode
  | timestampInvalid
  | retentionExpired
  | datasetNotAdmitted
  | datasetNotFound
  | policyInvalid
  | policyIdInvalid
  | policyVersionInvalid
  | policyHashInvalid
  | policyHashMismatch
  | rowToleranceInvalid
  | metricPolicyInvalid
  | metricIdInvalid
  | toleranceInvalid
  | signatureInvalid
  | sourceInvalid
  | calculatedInvalid
  | datasetIdInvalid
  | sourceHashInvalid
  | rowCountInvalid
  | metricSetMismatch
  | datasetBindingMismatch
  | sourceHashMismatch
  | totalInvalid
  | totalNotValid
  | totalSignatureMismatch
  | totalValueInvalid
  deriving DecidableEq

/-- How a reconciliation fails: with its own error, with the `FinanceError` of a
document that has no canonical text, with a trapped condition of the decimal
context, or with the `OverflowError` of a time that has no UTC form. -/
inductive ReconciliationFailure
  | reconciliation (code : ReconciliationErrorCode)
  | finance
  | decimal (signal : DecimalSignal)
  | overflow
  deriving DecidableEq

/-- A result of the reconciliation or its failure. -/
abbrev Result := Except ReconciliationFailure

/-- `raise ReconciliationError(code)` unless a condition holds. -/
abbrev check (condition : Prop) [Decidable condition] (code : ReconciliationErrorCode) :
    Result Unit :=
  require condition (.reconciliation code)

/-- `_MAX_METRICS`. -/
def maxMetrics : Nat := 128

/-- `_MAX_DECIMAL_DIGITS`. -/
def maxDecimalDigits : Nat := 1000

/-! ### Members of a document -/

/-- `_safe_id`. -/
def safeId (value : Json) (code : ReconciliationErrorCode) : Result String := do
  let text ← requireSome (Finance.text? value) (.reconciliation code)
  check (Admission.isSafeIdentifier text = true) code
  return text

/-- `_sha`. -/
def sha (value : Json) (code : ReconciliationErrorCode) : Result String := do
  let text ← requireSome (Finance.text? value) (.reconciliation code)
  check (PyText.isHexDigest text = true) code
  return text

/-- `_nonnegative_int`. -/
def nonnegativeInt (value : Json) (code : ReconciliationErrorCode) : Result Nat :=
  requireSome (Finance.nonNegativeInt? value) (.reconciliation code)

/-- `_decimal`. -/
def decimal (value : Json) (code : ReconciliationErrorCode) : Result Decimal := do
  let text ← requireSome (Finance.text? value) (.reconciliation code)
  check (text ≠ "" ∧ text.length ≤ maxDecimalDigits + 2) code
  match Decimal.parse? text with
  | some (.finite result) =>
      check (Decimal.digitCount result.coefficient ≤ maxDecimalDigits) code
      return result
  | _ => .error (.reconciliation code)

/-- The members of a mapping with exactly the given keys. -/
def mapping (value : Json) (keys : List String) (code : ReconciliationErrorCode) :
    Result JsonObject :=
  match value with
  | .obj fields => do
      check (Finance.hasExactKeys fields keys = true) code
      return fields
  | _ => .error (.reconciliation code)

mutual

/-- The integers in a document. -/
def integers : Json → List Int
  | .int value => [value]
  | .arr items => integersOfItems items
  | .obj fields => integersOfFields fields
  | _ => []

/-- The integers in the items of a list. -/
def integersOfItems : List Json → List Int
  | [] => []
  | item :: items => integers item ++ integersOfItems items

/-- The integers in the members of a mapping. -/
def integersOfFields : JsonObject → List Int
  | [] => []
  | (_, value) :: fields => integers value ++ integersOfFields fields

end

/-- `canonical_hash`: an integer with too many digits has no text. -/
def canonicalHash (document : JsonObject) (exclude : String) : Result String := do
  require ((integersOfFields (document.filter fun field => field.1 ≠ exclude)).all
    PyJson.isShortInt = true) .finance
  return Finance.canonicalHash document [exclude]

/-! ### The policy -/

/-- A reference to the policy. -/
structure PolicyRef where
  policyId : String
  version : Int
  contentHash : String
  rowCountTolerance : Nat

/-- The policy of one metric. -/
abbrev MetricPolicy := String × JsonObject

/-- The checks of one entry of `metric_tolerances`. -/
def metricPolicy (entry : String × Json) : Result MetricPolicy := do
  let metricId ← safeId (.str entry.1) .metricIdInvalid
  let raw ← mapping entry.2 ["absolute", "value_type", "unit", "currency"] .metricPolicyInvalid
  let tolerance ← decimal (Finance.member raw "absolute") .toleranceInvalid
  check (Decimal.lt tolerance (Decimal.ofInt 0) = false) .toleranceInvalid
  let _ ← safeId (Finance.member raw "value_type") .signatureInvalid
  let _ ← safeId (Finance.member raw "unit") .signatureInvalid
  if Finance.isNull (Finance.member raw "currency") then return (metricId, raw)
  else do
    let _ ← safeId (Finance.member raw "currency") .signatureInvalid
    return (metricId, raw)

/-- `_policy`. -/
def readPolicy (value : Json) : Result (PolicyRef × List MetricPolicy) := do
  let policy ← mapping value
    ["policy_id", "version", "content_hash", "row_count_tolerance", "metric_tolerances"]
    .policyInvalid
  let policyId ← safeId (Finance.member policy "policy_id") .policyIdInvalid
  let version ← requireSome (Finance.positiveInt? (Finance.member policy "version"))
    (.reconciliation .policyVersionInvalid)
  let contentHash ← sha (Finance.member policy "content_hash") .policyHashInvalid
  let expected ← canonicalHash policy "content_hash"
  check (contentHash = expected) .policyHashMismatch
  let rowCountTolerance ← nonnegativeInt (Finance.member policy "row_count_tolerance")
    .rowToleranceInvalid
  match Finance.member policy "metric_tolerances" with
  | .obj tolerances => do
      check (tolerances ≠ [] ∧ tolerances.length ≤ maxMetrics) .metricPolicyInvalid
      let policies ← tolerances.mapM metricPolicy
      return ({ policyId, version, contentHash, rowCountTolerance }, policies)
  | _ => .error (.reconciliation .metricPolicyInvalid)

/-! ### Snapshots -/

/-- A snapshot of the totals of a dataset. -/
structure Snapshot where
  datasetId : String
  originalFileSha256 : String
  rowCount : Nat
  totals : JsonObject

/-- `_snapshot`. -/
def readSnapshot (value : Json) (expectedMetrics : List String)
    (code : ReconciliationErrorCode) : Result Snapshot := do
  let snapshot ← mapping value ["dataset_id", "original_file_sha256", "row_count", "totals"] code
  let datasetId ← safeId (Finance.member snapshot "dataset_id") .datasetIdInvalid
  let originalFileSha256 ← sha (Finance.member snapshot "original_file_sha256") .sourceHashInvalid
  let rowCount ← nonnegativeInt (Finance.member snapshot "row_count") .rowCountInvalid
  let totals ← mapping (Finance.member snapshot "totals") expectedMetrics .metricSetMismatch
  return { datasetId, originalFileSha256, rowCount, totals }

/-- `_total`. -/
def total (value : Json) (policy : JsonObject) : Result Decimal := do
  let raw ← mapping value ["state", "value", "value_type", "unit", "currency"] .totalInvalid
  check (Json.pyEq (Finance.member raw "state") (.str "VALID") = true) .totalNotValid
  check (["value_type", "unit", "currency"].all (fun key =>
    Json.pyEq (Finance.member raw key) (Finance.member policy key)) = true) .totalSignatureMismatch
  decimal (Finance.member raw "value") .totalValueInvalid

/-! ### The call -/

/-- The arguments of a call. -/
structure Request where
  admissionRecord : Admission.DatasetAdmissionRecord
  tenantId : String
  accountId : String
  sourceSnapshot : Json
  calculatedSnapshot : Json
  policy : Json
  reconciledAt : DateTime

/-- `text.lower()` of the text of a UUID or of an identifier, whose letters are
ASCII letters. -/
def lower (text : String) : String := String.ofList (text.toList.map Char.toLower)

/-- What a call has read before it looks at the first metric. -/
structure Opened where
  declaration : Admission.DatasetDeclaration
  policyRef : PolicyRef
  policies : List MetricPolicy
  source : Snapshot
  calculated : Snapshot
  reconciledAt : DateTime

/-- The binding of a snapshot to the declared dataset. -/
def bindSnapshot (declaration : Admission.DatasetDeclaration) (snapshot : Snapshot) :
    Result Unit := do
  check (lower snapshot.datasetId = lower declaration.datasetId) .datasetBindingMismatch
  check (snapshot.originalFileSha256 = declaration.originalFileSha256) .sourceHashMismatch

/-- The checks of a call before the first metric: the retention of the dataset,
its state, its owner, the policy and both snapshots. -/
def openRequest (request : Request) : Result Opened := do
  let declaration := request.admissionRecord.declaration
  check (request.reconciledAt.isAware = true) .timestampInvalid
  let reconciledAt ← requireSome request.reconciledAt.toUtc? .overflow
  let deadline ← requireSome declaration.retentionDeadline.toUtc? .overflow
  check (reconciledAt.instant < deadline.instant) .retentionExpired
  check (request.admissionRecord.state = .admitted) .datasetNotAdmitted
  check (request.tenantId = declaration.tenantId) .datasetNotFound
  check (request.accountId = declaration.uploaderAccountId) .datasetNotFound
  let (policyRef, policies) ← readPolicy request.policy
  let metrics := policies.map Prod.fst
  let source ← readSnapshot request.sourceSnapshot metrics .sourceInvalid
  let calculated ← readSnapshot request.calculatedSnapshot metrics .calculatedInvalid
  bindSnapshot declaration source
  bindSnapshot declaration calculated
  return { declaration, policyRef, policies, source, calculated, reconciledAt }

/-- The numbers of one metric. -/
structure MetricTotals where
  metricId : String
  policy : JsonObject
  source : Decimal
  calculated : Decimal
  tolerance : Decimal

/-- The totals of one metric and its tolerance. -/
def readMetric (opened : Opened) (entry : MetricPolicy) : Result MetricTotals := do
  let source ← total (Finance.member opened.source.totals entry.1) entry.2
  let calculated ← total (Finance.member opened.calculated.totals entry.1) entry.2
  let tolerance ← decimal (Finance.member entry.2 "absolute") .toleranceInvalid
  return { metricId := entry.1, policy := entry.2, source, calculated, tolerance }

/-- `precision`: eight digits more than the longest of the three numbers, and
at most 1000. -/
def MetricTotals.precision (metric : MetricTotals) : Nat :=
  min maxDecimalDigits (max (max (Decimal.digitCount metric.source.coefficient)
    (Decimal.digitCount metric.calculated.coefficient))
    (Decimal.digitCount metric.tolerance.coefficient) + 8)

/-- The decimal context of one metric. -/
def MetricTotals.context (metric : MetricTotals) : DecimalContext where
  prec := metric.precision
  precPos := by
    unfold MetricTotals.precision maxDecimalDigits
    omega

/-- The result of one metric. -/
structure MetricResult where
  metricId : String
  isMatch : Bool
  sourceValue : String
  calculatedValue : String
  absoluteDelta : String
  absoluteTolerance : String
  valueType : Json
  unit : Json
  currency : Json

/-- `str(value)` of a decimal. -/
def decimalStr (value : Decimal) : String :=
  let digits := Nat.toDigits 10 value.coefficient
  let leftDigits : Int := value.exponent + digits.length
  let point : Int := if value.exponent ≤ 0 ∧ -6 < leftDigits then leftDigits else 1
  let body :=
    if point ≤ 0 then '0' :: '.' :: (List.replicate (-point).toNat '0' ++ digits)
    else if digits.length ≤ point then
      digits ++ List.replicate (point - digits.length).toNat '0'
    else digits.take point.toNat ++ '.' :: digits.drop point.toNat
  let power := leftDigits - point
  let powerText :=
    if power = 0 then []
    else 'E' :: (if power < 0 then '-' else '+') :: Nat.toDigits 10 power.natAbs
  String.ofList ((if value.negative then ['-'] else []) ++ body ++ powerText)

/-- The verdict on one metric. -/
def judge (metric : MetricTotals) : Result MetricResult := do
  let delta ← (Decimal.absDifference metric.context metric.source metric.calculated).mapError
    ReconciliationFailure.decimal
  return {
    metricId := metric.metricId
    isMatch := Decimal.le delta metric.tolerance
    sourceValue := decimalStr metric.source
    calculatedValue := decimalStr metric.calculated
    absoluteDelta := decimalStr delta
    absoluteTolerance := decimalStr metric.tolerance
    valueType := Finance.member metric.policy "value_type"
    unit := Finance.member metric.policy "unit"
    currency := Finance.member metric.policy "currency" }

/-- The difference of the row counts. -/
def Opened.rowDelta (opened : Opened) : Nat :=
  (opened.source.rowCount - opened.calculated.rowCount) +
    (opened.calculated.rowCount - opened.source.rowCount)

/-- `row_match`. -/
def Opened.rowMatch (opened : Opened) : Bool :=
  opened.rowDelta ≤ opened.policyRef.rowCountTolerance &&
    opened.declaration.expectedRowCount.all fun expected => opened.source.rowCount = expected

/-- The evidence of a reconciliation. -/
structure Evidence where
  /-- The overall state is `RECONCILED`. -/
  isReconciled : Bool
  opened : Opened
  metrics : List MetricResult
  evidenceHash : String

/-- A verdict as text. -/
def stateText (isMatch : Bool) : Json := .str (if isMatch then "MATCH" else "CONFLICT")

/-- The result of one metric as a mapping. -/
def MetricResult.document (result : MetricResult) : Json :=
  .ofFields [("state", stateText result.isMatch), ("source_value", .str result.sourceValue),
    ("calculated_value", .str result.calculatedValue),
    ("absolute_delta", .str result.absoluteDelta),
    ("absolute_tolerance", .str result.absoluteTolerance), ("value_type", result.valueType),
    ("unit", result.unit), ("currency", result.currency)]

/-- The evidence as a mapping, before its hash is known. -/
def evidenceFields (isReconciled : Bool) (opened : Opened) (metrics : List MetricResult) :
    List (String × Json) :=
  [("schema_version", .str "b2-source-reconciliation-v1"),
    ("state", .str (if isReconciled then "RECONCILED" else "CONFLICT")),
    ("dataset_id", .str (lower opened.declaration.datasetId)),
    ("tenant_id", .str opened.declaration.tenantId),
    ("account_id", .str opened.declaration.uploaderAccountId),
    ("original_file_sha256", .str opened.declaration.originalFileSha256),
    ("policy_ref", .ofFields [("id", .str opened.policyRef.policyId),
      ("version", .int opened.policyRef.version),
      ("content_hash", .str opened.policyRef.contentHash)]),
    ("row_count", .ofFields [("state", stateText opened.rowMatch),
      ("source", .int opened.source.rowCount), ("calculated", .int opened.calculated.rowCount),
      ("expected", opened.declaration.expectedRowCount.elim .null fun expected => .int expected),
      ("absolute_delta", .int opened.rowDelta),
      ("tolerance", .int opened.policyRef.rowCountTolerance)]),
    ("metrics", .ofFields (metrics.map fun metric => (metric.metricId, metric.document))),
    ("reconciled_at", .str (String.ofList ((opened.reconciledAt.isoformat.toList.take
      (opened.reconciledAt.isoformat.length - 6)) ++ ['Z']))),
    ("evidence_hash", .str "")]

/-- `reconcile_source_totals`. -/
def reconcileSourceTotals (request : Request) : Result Evidence := do
  let opened ← openRequest request
  let metrics ← opened.policies.mapM fun entry => do
    let metric ← readMetric opened entry
    judge metric
  let isReconciled := opened.rowMatch && metrics.all MetricResult.isMatch
  let evidenceHash ← canonicalHash
    (Json.sortFields (evidenceFields isReconciled opened metrics)) "evidence_hash"
  return { isReconciled, opened, metrics, evidenceHash }

end Reconciliation
end QuantumAnalytics
