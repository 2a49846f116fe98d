import QuantumAnalytics.Foundations.JsonDecoder
import QuantumAnalytics.Foundations.Utf8

/-!
# Report records

The validator of a report record walks a decoded document that may hold
anything. A membership test in a set raises a `TypeError` on a list or a
mapping, and a digest needs a text that can be encoded.
-/

namespace QuantumAnalytics
namespace Reporting

/-- The codes that `ReportingError` carries. -/
inductive ReportingErrorCode
  | reportJsonInvalid
  | reportTimestampInvalid
  | reportRecordMalformed
  | reportSchemaVersionUnsupported
  | reportSnapshotHashInvalid
  | reportModeInvalid
  | reportModeContamination
  | reportAccountingViewInvalid
  | reportStateInvalid
  | reportPublicationStateInvalid
  | reportEvidenceRefInvalid
  | reportLimitationsInvalid
  | reportValueInvalid
  | reportStateValueMismatch
  | reportReasonRequired
  | reportExpenseBoundaryInvalid
  | reportRoundingInvalid
  | reportFreshnessInvalid
  | reportConfidenceInvalid
  | reportRecordHashMismatch
  | exportRecordDuplicate
  | exportBundleIdInvalid
  | exportEmpty
  | exportRecordLimitExceeded
  | exportTenantMixed
  | exportModeMixed
  | exportBundleMalformed
  | exportSchemaVersionUnsupported
  | exportTimestampInvalid
  | exportCountMismatch
  | exportHashMismatch
  | exportByteLimitExceeded
  | exportJsonInvalid
  | exportCsvInvalid
  | exportCsvHeaderInvalid
  | exportCsvProjectionMismatch
  | reportPageLimitInvalid
  | reportCursorInvalid
  deriving DecidableEq

/-- What a report function raises. -/
inductive ReportingFailure
  /-- `ReportingError`. -/
  | reporting (code : ReportingErrorCode)
  /-- `TypeError`. -/
  | typeError
  /-- `UnicodeEncodeError`. -/
  | unicode
  /-- A `ValueError` of the decoder. -/
  | value
  /-- `RecursionError`. -/
  | recursion
  /-- `csv.Error`. -/
  | csv
  deriving DecidableEq

/-- A result or what is raised. -/
abbrev Result := Except ReportingFailure

/-- `raise ReportingError(code)` unless a condition holds. -/
abbrev check (condition : Prop) [Decidable condition] (code : ReportingErrorCode) : Result Unit :=
  require condition (.reporting code)

/-! ### Canonical texts and digests -/

/-- `_canonical_json`. -/
def canonicalJson (interpreter : Interpreter) (value : PyJson) : Result PyStr :=
  (value.dumps interpreter).mapError fun
    | .value => .reporting .reportJsonInvalid
    | .recursion => .recursion

/-- `text.encode("utf-8")`. -/
def encode (text : PyStr) : Result (List UInt8) := requireSome text.encode? .unicode

/-- `_canonical_hash`. -/
def canonicalHash (interpreter : Interpreter) (document : PyObject) (excluded : String) :
    Result String := do
  let text ← canonicalJson interpreter (.obj (PyJson.without document excluded))
  return Sha256.hexdigestOfBytes (← encode text)

/-- `_clone_json`. -/
def cloneJson (interpreter : Interpreter) (value : PyJson) : Result PyJson := do
  let text ← canonicalJson interpreter value
  (PyJson.loads interpreter text).mapError fun
    | .decode => .value
    | .value => .value
    | .recursion => .recursion

/-! ### Checks of a value -/

/-- A list or a mapping has no hash. -/
def isHashable : PyJson → Bool
  | .arr _ => false
  | .obj _ => false
  | _ => true

/-- `raise ReportingError(code)` unless `value in allowed`, a set of strings. -/
def checkMember (value : PyJson) (allowed : List String) (code : ReportingErrorCode) :
    Result Unit := do
  require (isHashable value = true) .typeError
  check (value.isAllowedString allowed = true) code

/-- `len(items) == len(set(items))` of hashable items. -/
def isDistinct : List PyJson → Bool
  | [] => true
  | item :: items =>
      (items.all fun other => !(PyJson.sameNan item other || PyJson.pyEq item other)) &&
        isDistinct items

/-- The items of a list without repetitions whose items are all allowed. -/
def checkDistinct (value : PyJson) (isAllowed : PyJson → Bool) (code : ReportingErrorCode) :
    Result (List PyJson) :=
  match value with
  | .arr items => do
      require (items.all isHashable = true) .typeError
      check (isDistinct items = true ∧ items.all isAllowed = true) code
      return items
  | _ => .error (.reporting code)

/-- The members of a mapping with the given keys. -/
def checkMapping (value : PyJson) (keys : List String) (code : ReportingErrorCode) :
    Result PyObject :=
  match value with
  | .obj fields => do
      check (PyJson.hasKeys fields keys = true) code
      return fields
  | _ => .error (.reporting code)

/-- `_is_decimal_string`: `-?(0|[1-9][0-9]*)(\.[0-9]+)?`. -/
def isDecimalString (value : PyJson) : Bool :=
  value.isTextWith fun text =>
    match JsonDecoder.integerPart (if text.toList.head? = some '-' then text.toList.drop 1
      else text.toList) with
    | some (_, rest) => (JsonDecoder.fractionPart rest).2 = []
    | none => false

/-- `None` or a value with a property. -/
def isNoneOr (holds : PyJson → Bool) (value : PyJson) : Bool := value.isNone || holds value

/-! ### Parts of a record -/

/-- `_REPORT_FIELDS`. -/
def reportFields : List String :=
  ["report_record_id", "schema_version", "organization_id", "marketplace_account_id", "mode",
    "scenario_id", "accounting_view", "metric_snapshot_id", "snapshot_revision",
    "metric_content_hash", "evidence_chain_ref", "evidence_chain_content_hash", "state", "value",
    "value_type", "unit", "currency", "reason_code", "expense_boundary", "rounding", "freshness",
    "confidence", "limitations", "publication_state", "generated_at", "record_hash"]

/-- `REPORT_SCHEMA_VERSION`. -/
def reportSchemaVersion : String := "quantum-report-record-v1"

/-- `_STATES`. -/
def states : List String :=
  ["VALID", "EMPTY", "BLOCKED", "UNAVAILABLE", "CONFLICT", "INVALID", "NOT_APPLICABLE"]

/-- `_PUBLICATION_STATES`. -/
def publicationStates : List String := ["PREVIEW_ONLY", "EVIDENCE_VERIFIED"]

/-- `_ACCOUNTING_VIEWS`. -/
def accountingViews : List String := ["OPERATIONAL", "SETTLEMENT", "TAX_RECOGNITION"]

/-- `_VALUE_TYPES`. -/
def valueTypes : List String := ["MONEY", "INTEGER", "DECIMAL", "RATE"]

/-- `_UNITS`. -/
def units : List String :=
  ["MONEY", "MONEY_PER_ITEM", "ITEM", "ORDER", "EVENT", "PERCENT", "RATIO", "COUNT"]

/-- `_EXPENSE_BOUNDARIES`. -/
def expenseBoundaries : List String :=
  ["MARKETPLACE_COMMISSION", "FORWARD_LOGISTICS", "REVERSE_LOGISTICS", "STORAGE", "ADVERTISING",
    "FINES_WITHHOLDINGS", "PRODUCT_COST", "OTHER_EXPENSE", "TAX"]

/-- `_ROUNDING_APPLICATION_POINTS`. -/
def roundingApplicationPoints : List String :=
  ["RULE_INPUT_NORMALIZATION", "RULE_COMPONENT_RESULT", "METRIC_FINAL_ACCOUNTING",
    "REPORT_PRESENTATION", "EXPORT_PRESENTATION"]

/-- `_ROUNDING_MODES`. -/
def roundingModes : List String := ["HALF_EVEN", "HALF_UP", "DOWN", "UP", "FLOOR", "CEILING"]

/-- `_FRESHNESS_STATES`. -/
def freshnessStates : List String := ["CURRENT", "STALE", "UNKNOWN", "NOT_APPLICABLE"]

/-- `_CONFIDENCE_STATES`. -/
def confidenceStates : List String := ["HIGH", "MEDIUM", "LOW", "UNKNOWN", "NOT_APPLICABLE"]

/-- The limitation of a record without verified evidence. -/
def notVerified : String := "EVIDENCE_NOT_VERIFIED_FOR_PUBLICATION"

section Parts

variable (fields : PyObject)

/-- The schema version, the identifiers and the revision. -/
def checkIdentity : Result Unit := do
  check ((PyJson.get fields "schema_version").isText reportSchemaVersion = true)
    .reportSchemaVersionUnsupported
  check (["report_record_id", "organization_id", "metric_snapshot_id", "metric_content_hash"].all
    (fun field => (PyJson.get fields field).isNonemptyString) = true) .reportRecordMalformed
  check ((PyJson.get fields "metric_content_hash").isHash = true) .reportSnapshotHashInvalid
  check ((PyJson.get fields "snapshot_revision").isPositiveInt = true) .reportRecordMalformed

/-- A mode and its scenario: actual records have none. -/
def checkMode (modeCode scenarioCode : ReportingErrorCode) : Result Unit := do
  check ((PyJson.get fields "mode").isAllowedString ["ACTUAL", "SCENARIO"] = true) modeCode
  check ((PyJson.get fields "mode").isText "ACTUAL" = true →
    (PyJson.get fields "scenario_id").isNone = true) scenarioCode
  check ((PyJson.get fields "mode").isText "SCENARIO" = true →
    (PyJson.get fields "scenario_id").isNonemptyString = true) scenarioCode

/-- The reference to the evidence chain. -/
def checkEvidenceRef : Result Unit := do
  let ref ← checkMapping (PyJson.get fields "evidence_chain_ref") ["id", "version"]
    .reportEvidenceRefInvalid
  check ((PyJson.get ref "id").isNonemptyString = true ∧
    (PyJson.get ref "version").isPositiveInt = true) .reportEvidenceRefInvalid

/-- The limitations and the publication state that they allow. -/
def checkPublication : Result Unit := do
  let limitations ← checkDistinct (PyJson.get fields "limitations") PyJson.isNonemptyString
    .reportLimitationsInvalid
  let chainHash := PyJson.get fields "evidence_chain_content_hash"
  let isNotVerified := limitations.any fun item => item.isText notVerified
  if (PyJson.get fields "publication_state").isText "PREVIEW_ONLY" then
    check (chainHash.isNone = true ∧ isNotVerified = true) .reportPublicationStateInvalid
  else check (chainHash.isHash = true ∧ isNotVerified = false) .reportPublicationStateInvalid

/-- The unit of an amount of money. -/
def isMoneyUnit (unit : PyJson) : Bool := unit.isAllowedString ["MONEY", "MONEY_PER_ITEM"]

/-- The value fits its type, unit and currency. -/
def isTyped (value valueType unit currency : PyJson) : Bool :=
  if valueType.isText "MONEY" then
    isDecimalString value && isMoneyUnit unit && currency.isTextWith PyText.isCurrencyCode
  else if valueType.isText "INTEGER" then
    value.isIntWith (fun _ => true) && !isMoneyUnit unit && currency.isNone
  else isDecimalString value && !isMoneyUnit unit && currency.isNone

/-- The value of a valid record, and the reason of any other. -/
def checkValue : Result Unit :=
  if (PyJson.get fields "state").isText "VALID" then do
    checkMember (PyJson.get fields "value_type") valueTypes .reportValueInvalid
    checkMember (PyJson.get fields "unit") units .reportValueInvalid
    check ((PyJson.get fields "reason_code").isNone = true) .reportValueInvalid
    check (isTyped (PyJson.get fields "value") (PyJson.get fields "value_type")
      (PyJson.get fields "unit") (PyJson.get fields "currency") = true) .reportValueInvalid
  else do
    check (["value", "value_type", "unit", "currency"].all
      (fun field => (PyJson.get fields field).isNone) = true) .reportStateValueMismatch
    check ((PyJson.get fields "reason_code").isNonemptyString = true) .reportReasonRequired

end Parts

/-- `_validate_versioned_ref`. -/
def validateVersionedRef (value : PyJson) (code : ReportingErrorCode) : Result Unit := do
  let ref ← checkMapping value ["id", "version", "content_hash"] code
  check ((PyJson.get ref "id").isNonemptyString = true ∧
    (PyJson.get ref "version").isPositiveInt = true ∧
    (PyJson.get ref "content_hash").isHash = true) code

/-- `_validate_rounding`. -/
def validateRounding (value : PyJson) : Result Unit := do
  let rounding ← checkMapping value
    ["policy_ref", "application_point", "resolved_mode", "resolved_scale"] .reportRoundingInvalid
  validateVersionedRef (PyJson.get rounding "policy_ref") .reportRoundingInvalid
  checkMember (PyJson.get rounding "application_point") roundingApplicationPoints
    .reportRoundingInvalid
  checkMember (PyJson.get rounding "resolved_mode") roundingModes .reportRoundingInvalid
  check ((PyJson.get rounding "resolved_scale").isIntWith (fun scale => 0 ≤ scale ∧ scale ≤ 28) =
    true) .reportRoundingInvalid

/-- `_validate_freshness`. -/
def validateFreshness (value : PyJson) : Result Unit := do
  let freshness ← checkMapping value ["state", "observed_at", "deadline"] .reportFreshnessInvalid
  checkMember (PyJson.get freshness "state") freshnessStates .reportFreshnessInvalid
  check ((PyJson.get freshness "observed_at").isDatetime = true) .reportFreshnessInvalid
  check (isNoneOr PyJson.isDatetime (PyJson.get freshness "deadline") = true)
    .reportFreshnessInvalid

/-- `_validate_confidence`. -/
def validateConfidence (value : PyJson) : Result Unit := do
  let confidence ← checkMapping value ["state", "reasons"] .reportConfidenceInvalid
  checkMember (PyJson.get confidence "state") confidenceStates .reportConfidenceInvalid
  let _ ← checkDistinct (PyJson.get confidence "reasons") PyJson.isNonemptyString
    .reportConfidenceInvalid

/-- The digest that a mapping states of its other members. -/
def checkHash (interpreter : Interpreter) (fields : PyObject) (key : String)
    (code : ReportingErrorCode) : Result Unit := do
  check ((PyJson.get fields key).isHash = true) code
  let expected ← canonicalHash interpreter fields key
  check ((PyJson.get fields key).isText expected = true) code

/-- `validate_report_record`. -/
def validateReportRecord (interpreter : Interpreter) (record : PyJson) : Result Unit := do
  let fields ← checkMapping record reportFields .reportRecordMalformed
  checkIdentity fields
  checkMode fields .reportModeInvalid .reportModeContamination
  check (isNoneOr PyJson.isNonemptyString (PyJson.get fields "marketplace_account_id") = true)
    .reportRecordMalformed
  checkMember (PyJson.get fields "accounting_view") accountingViews .reportAccountingViewInvalid
  checkMember (PyJson.get fields "state") states .reportStateInvalid
  checkMember (PyJson.get fields "publication_state") publicationStates
    .reportPublicationStateInvalid
  check ((PyJson.get fields "generated_at").isDatetime = true) .reportTimestampInvalid
  checkEvidenceRef fields
  checkPublication fields
  checkValue fields
  let _ ← checkDistinct (PyJson.get fields "expense_boundary")
    (PyJson.isAllowedString · expenseBoundaries) .reportExpenseBoundaryInvalid
  validateRounding (PyJson.get fields "rounding")
  validateFreshness (PyJson.get fields "freshness")
  validateConfidence (PyJson.get fields "confidence")
  checkHash interpreter fields "record_hash" .reportRecordHashMismatch

end Reporting
end QuantumAnalytics
