import QuantumAnalytics.Evidence.RuntimeValidation
import QuantumAnalytics.Reporting.Records

/-!
# Verification of metric snapshots

A metric snapshot is a document with the value of a metric or the reason why it
has none. As for evidence chains, diagnostics are collected in a fixed order,
each at most once, and the runtime verifier adds to those below it.
-/

namespace QuantumAnalytics
namespace Evidence

open Reporting (isDecimalString isMoneyUnit isNoneOr)

/-- The diagnostics of a metric snapshot. -/
inductive SnapshotDiagnostic
  | malformed
  | versionInvalid
  | modeContamination
  | referenceInvalid
  | roundingInvalid
  | timestampInvalid
  | periodInvalid
  | validityInvalid
  | hashMismatch
  | stateInvalid
  | valueInvalid
  | nonValidValue
  | expenseBoundaryInvalid
  | accountingViewInvalid
  | freshnessInvalid
  | confidenceInvalid
  deriving DecidableEq

/-- The text of a diagnostic. -/
def SnapshotDiagnostic.text : SnapshotDiagnostic → String
  | malformed => "METRIC_SNAPSHOT_MALFORMED"
  | versionInvalid => "METRIC_SNAPSHOT_VERSION_INVALID"
  | modeContamination => "METRIC_SNAPSHOT_MODE_CONTAMINATION"
  | referenceInvalid => "METRIC_SNAPSHOT_REFERENCE_INVALID"
  | roundingInvalid => "METRIC_SNAPSHOT_ROUNDING_INVALID"
  | timestampInvalid => "METRIC_SNAPSHOT_TIMESTAMP_INVALID"
  | periodInvalid => "METRIC_SNAPSHOT_PERIOD_INVALID"
  | validityInvalid => "METRIC_SNAPSHOT_VALIDITY_INVALID"
  | hashMismatch => "METRIC_SNAPSHOT_HASH_MISMATCH"
  | stateInvalid => "METRIC_SNAPSHOT_STATE_INVALID"
  | valueInvalid => "METRIC_SNAPSHOT_VALUE_INVALID"
  | nonValidValue => "METRIC_SNAPSHOT_NON_VALID_VALUE"
  | expenseBoundaryInvalid => "METRIC_SNAPSHOT_EXPENSE_BOUNDARY_INVALID"
  | accountingViewInvalid => "METRIC_SNAPSHOT_ACCOUNTING_VIEW_INVALID"
  | freshnessInvalid => "METRIC_SNAPSHOT_FRESHNESS_INVALID"
  | confidenceInvalid => "METRIC_SNAPSHOT_CONFIDENCE_INVALID"

/-- `_SNAPSHOT_FIELDS`. -/
def snapshotFields : List String :=
  ["metric_snapshot_id", "snapshot_revision", "organization_id", "marketplace_account_id", "mode",
    "scenario_id", "metric_definition_ref", "calculation_profile_ref", "accounting_view",
    "period_start", "period_end", "state", "value", "value_type", "unit", "currency",
    "reason_code", "expense_boundary", "rounding", "source_authority_ref", "evidence_chain_ref",
    "data_freshness_state", "freshness_observed_at", "freshness_deadline", "confidence_state",
    "confidence_reasons", "limitations", "valid_from", "valid_to", "prior_snapshot_id",
    "restates_snapshot_id", "actor", "reason", "trace_id", "calculated_at", "content_hash"]

/-- `_STATES`. -/
def states : List String :=
  ["VALID", "EMPTY", "BLOCKED", "UNAVAILABLE", "CONFLICT", "INVALID", "NOT_APPLICABLE"]

/-- `_VALUE_TYPES`. -/
def valueTypes : List String := ["MONEY", "INTEGER", "DECIMAL", "RATE"]

/-- `_EXPENSES`. -/
def expenses : List String :=
  ["MARKETPLACE_COMMISSION", "FORWARD_LOGISTICS", "REVERSE_LOGISTICS", "STORAGE", "ADVERTISING",
    "FINES_WITHHOLDINGS", "PRODUCT_COST", "OTHER_EXPENSE", "TAX"]

/-- `_UNITS`. -/
def units : List String :=
  ["MONEY", "MONEY_PER_ITEM", "ITEM", "ORDER", "EVENT", "PERCENT", "RATIO", "COUNT"]

/-- `_ACCOUNTING_VIEWS`. -/
def accountingViews : List String := ["OPERATIONAL", "SETTLEMENT", "TAX_RECOGNITION"]

/-- `_FRESHNESS_STATES`. -/
def freshnessStates : List String := ["CURRENT", "STALE", "UNKNOWN", "NOT_APPLICABLE"]

/-- `_CONFIDENCE_STATES`. -/
def confidenceStates : List String := ["HIGH", "MEDIUM", "LOW", "UNKNOWN", "NOT_APPLICABLE"]

/-- `ROUNDING_APPLICATION_POINTS`. -/
def roundingApplicationPoints : List String :=
  ["RULE_INPUT_NORMALIZATION", "RULE_COMPONENT_RESULT", "METRIC_FINAL_ACCOUNTING",
    "REPORT_PRESENTATION", "EXPORT_PRESENTATION"]

/-- `ROUNDING_MODES`. -/
def roundingModes : List String := ["HALF_EVEN", "HALF_UP", "DOWN", "UP", "FLOOR", "CEILING"]

/-- A diagnostic that is given unless a condition holds. -/
def noteUnless (condition : Bool) (diagnostic : SnapshotDiagnostic) : List SnapshotDiagnostic :=
  if condition then [] else [diagnostic]

@[simp] theorem noteUnless_eq_nil
    {condition : Bool}
    {diagnostic : SnapshotDiagnostic} :
    noteUnless condition diagnostic = [] ↔ condition = true := by
  cases condition <;> simp [noteUnless]

/-! ### Parts of a snapshot -/

/-- `_valid_ref(value, chain_locator=True)`. -/
def isChainLocator : PyJson → Bool
  | .obj fields =>
      PyJson.hasKeys fields ["id", "version"] && (PyJson.get fields "id").isNonemptyString &&
        (PyJson.get fields "version").isPositiveInt
  | _ => false

/-- The rounding of a snapshot. -/
def isRounding : PyJson → Bool
  | .obj rounding =>
      PyJson.hasKeys rounding ["policy_ref", "application_point", "resolved_mode",
        "resolved_scale"] && validRef (PyJson.get rounding "policy_ref") &&
        (PyJson.get rounding "resolved_scale").isIntWith fun scale => 0 ≤ scale ∧ scale ≤ 28
  | _ => false

/-- The names of a rounding, of which the runtime verifier makes sure. -/
def hasRoundingNames : PyJson → Bool
  | .obj rounding =>
      (PyJson.get rounding "application_point").isAllowedString roundingApplicationPoints &&
        (PyJson.get rounding "resolved_mode").isAllowedString roundingModes
  | _ => true

/-- A value that is a string. -/
def string? : PyJson → Option PyStr
  | .str text => some text
  | _ => none

/-- A list of allowed strings, in which the set of the strings has as many
elements as the list. -/
def isStringSet (isAllowed : PyJson → Bool) : PyJson → Bool
  | .arr items => items.all isAllowed && (items.filterMap string?).dedup.length = items.length
  | _ => false

/-- `_parse_datetime`. -/
def parseDatetime : PyJson → Option DateTime
  | .str text =>
      (PyStr.fromIsoFormat? (PyStr.replaceChar 'Z' "+00:00".toList text)).filter DateTime.isAware
  | _ => none

/-- The end of a period, if both ends are given, is later than its start. -/
def isPeriod (start stop : PyJson) : Bool :=
  match parseDatetime start, parseDatetime stop with
  | some start, some stop => start.instant < stop.instant
  | _, _ => true

section Snapshot

variable (snapshot : PyObject)

/-- The mode of a snapshot and its scenario. -/
def isMode : Bool :=
  let mode := PyJson.get snapshot "mode"
  let scenarioId := PyJson.get snapshot "scenario_id"
  if mode.isText "ACTUAL" then scenarioId.isNone
  else mode.isText "SCENARIO" && scenarioId.isNonemptyString

/-- The times of a snapshot. -/
def timeDiagnostics : List SnapshotDiagnostic :=
  (["period_start", "period_end", "freshness_observed_at", "valid_from", "calculated_at"].flatMap
    fun field => noteUnless (PyJson.get snapshot field).isDatetime .timestampInvalid) ++
  (["freshness_deadline", "valid_to"].flatMap fun field =>
    noteUnless (isNoneOr PyJson.isDatetime (PyJson.get snapshot field)) .timestampInvalid) ++
  noteUnless (isPeriod (PyJson.get snapshot "period_start") (PyJson.get snapshot "period_end"))
    .periodInvalid ++
  noteUnless (isPeriod (PyJson.get snapshot "valid_from") (PyJson.get snapshot "valid_to"))
    .validityInvalid

/-- The check of the content hash. A `RecursionError` is not caught. -/
def snapshotHashDiagnostics (interpreter : Interpreter) :
    Except PyJson.DumpsError (List SnapshotDiagnostic) :=
  let supplied := PyJson.get snapshot "content_hash"
  if supplied.isHash then
    match canonicalHash interpreter snapshot "content_hash" with
    | .ok digest => .ok (noteUnless (supplied.isText digest) .hashMismatch)
    | .error .value => .ok [.malformed]
    | .error .recursion => .error .recursion
  else .ok [.hashMismatch]

/-- The value of a snapshot, or the reason why it has none. -/
def valueDiagnostics : List SnapshotDiagnostic :=
  let state := PyJson.get snapshot "state"
  let value := PyJson.get snapshot "value"
  let valueType := PyJson.get snapshot "value_type"
  let unit := PyJson.get snapshot "unit"
  let currency := PyJson.get snapshot "currency"
  let reasonCode := PyJson.get snapshot "reason_code"
  if !state.isAllowedString states then [.stateInvalid]
  else if state.isText "VALID" then
    noteUnless (!value.isNone && valueType.isAllowedString valueTypes) .valueInvalid ++
    noteUnless (unit.isAllowedString units && reasonCode.isNone) .valueInvalid ++
    if valueType.isText "MONEY" then
      noteUnless (isDecimalString value) .valueInvalid ++
      noteUnless (isMoneyUnit unit && currency.isTextWith PyText.isCurrencyCode) .valueInvalid
    else if valueType.isText "INTEGER" then
      noteUnless (value.isIntWith (fun _ => true) && currency.isNone) .valueInvalid ++
      noteUnless (!isMoneyUnit unit) .valueInvalid
    else if valueType.isAllowedString ["DECIMAL", "RATE"] then
      noteUnless (isDecimalString value && currency.isNone) .valueInvalid ++
      noteUnless (!isMoneyUnit unit) .valueInvalid
    else []
  else
    noteUnless ([value, valueType, unit, currency].all PyJson.isNone) .nonValidValue ++
    noteUnless reasonCode.isNonemptyString .nonValidValue

/-- The checks before the hash. -/
def snapshotHeadDiagnostics : List SnapshotDiagnostic :=
  noteUnless (PyJson.hasKeys snapshot snapshotFields) .malformed ++
  (["metric_snapshot_id", "organization_id", "actor", "reason", "trace_id"].flatMap fun field =>
    noteUnless (PyJson.get snapshot field).isNonemptyString .malformed) ++
  noteUnless (PyJson.get snapshot "snapshot_revision").isPositiveInt .versionInvalid ++
  noteUnless (isMode snapshot) .modeContamination ++
  (["metric_definition_ref", "calculation_profile_ref", "source_authority_ref"].flatMap fun field =>
    noteUnless (validRef (PyJson.get snapshot field)) .referenceInvalid) ++
  noteUnless (isChainLocator (PyJson.get snapshot "evidence_chain_ref")) .referenceInvalid ++
  noteUnless (isRounding (PyJson.get snapshot "rounding")) .roundingInvalid ++
  timeDiagnostics snapshot

/-- The checks after the hash. -/
def snapshotTailDiagnostics : List SnapshotDiagnostic :=
  valueDiagnostics snapshot ++
  noteUnless (isStringSet (PyJson.isAllowedString · expenses)
    (PyJson.get snapshot "expense_boundary")) .expenseBoundaryInvalid ++
  noteUnless ((PyJson.get snapshot "accounting_view").isAllowedString accountingViews)
    .accountingViewInvalid ++
  noteUnless ((PyJson.get snapshot "data_freshness_state").isAllowedString freshnessStates)
    .freshnessInvalid ++
  noteUnless ((PyJson.get snapshot "confidence_state").isAllowedString confidenceStates)
    .confidenceInvalid ++
  ["confidence_reasons", "limitations"].flatMap fun field =>
    noteUnless (isStringSet PyJson.isNonemptyString (PyJson.get snapshot field)) .malformed

/-- The checks of the runtime verifier alone. -/
def strictSnapshotDiagnostics : List SnapshotDiagnostic :=
  (["marketplace_account_id", "prior_snapshot_id", "restates_snapshot_id"].flatMap fun field =>
    noteUnless (isNoneOr PyJson.isNonemptyString (PyJson.get snapshot field)) .malformed) ++
  (["period_start", "period_end", "freshness_observed_at", "valid_from", "calculated_at"].flatMap
    fun field => noteUnless (isRfc3339Datetime (PyJson.get snapshot field)) .timestampInvalid) ++
  (["freshness_deadline", "valid_to"].flatMap fun field =>
    noteUnless (isNoneOr isRfc3339Datetime (PyJson.get snapshot field)) .timestampInvalid) ++
  noteUnless (!((PyJson.get snapshot "state").isText "VALID" &&
    (PyJson.get snapshot "value_type").isAllowedString ["DECIMAL", "RATE"] &&
    isMoneyUnit (PyJson.get snapshot "unit"))) .valueInvalid ++
  noteUnless (hasRoundingNames (PyJson.get snapshot "rounding")) .roundingInvalid

end Snapshot

/-- `verification.verify_metric_snapshot`; the error is a `RecursionError`. -/
def baseSnapshotDiagnostics (interpreter : Interpreter) :
    PyJson → Except PyJson.DumpsError (List SnapshotDiagnostic)
  | .obj snapshot => do
      let ofHash ← snapshotHashDiagnostics snapshot interpreter
      return (snapshotHeadDiagnostics snapshot ++ ofHash ++
        snapshotTailDiagnostics snapshot).eraseDups
  | _ => .ok [.malformed]

/-- `runtime_validation.verify_metric_snapshot`; the error is a `RecursionError`. -/
def verifyMetricSnapshot (interpreter : Interpreter) (snapshot : PyJson) :
    Except PyJson.DumpsError (List SnapshotDiagnostic) := do
  let errors ← baseSnapshotDiagnostics interpreter snapshot
  match snapshot with
  | .obj fields => return (errors ++ strictSnapshotDiagnostics fields).eraseDups
  | _ => return errors

/-- `diagnose_metric_snapshot`. -/
def diagnoseMetricSnapshot (interpreter : Interpreter) (snapshot : PyJson) :
    Except PyJson.DumpsError (Option SnapshotDiagnostic) :=
  (verifyMetricSnapshot interpreter snapshot).map List.head?

end Evidence
end QuantumAnalytics
