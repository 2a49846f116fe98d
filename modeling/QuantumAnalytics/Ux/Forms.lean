import QuantumAnalytics.Ingestion.Metadata
import QuantumAnalytics.Reporting.Exports

/-!
# Configuration forms

A form lists the four inputs of a configuration with their states. It is
validated twice before it reaches the inbox: at the boundary of the package, and
by the runtime, which also compares the form with its digest.
-/

namespace QuantumAnalytics
namespace Ux

open Reporting (isHashable isNoneOr isDecimalString)

/-- The codes that `UXError` carries when an inbox is built. -/
inductive UxErrorCode
  | uxJsonInvalid
  | uxFormMalformed
  | uxFormSchemaInvalid
  | uxFormPublicationStateInvalid
  | uxFormIdInvalid
  | uxOrganizationIdInvalid
  | uxActorInvalid
  | uxModeInvalid
  | uxScenarioInvalid
  | uxScopeInvalid
  | uxScopeOrganizationMismatch
  | uxScopeProductAmbiguous
  | uxScopeScenarioMismatch
  | uxCurrencyInvalid
  | uxCreatedAtInvalid
  | uxValidFromInvalid
  | uxValidToInvalid
  | uxValidityIntervalInvalid
  | uxFormStatusInvalid
  | uxFormFieldsInvalid
  | uxFormProblemsInvalid
  | uxFormHashMismatch
  | uxImportRecordInvalid
  | uxImportStatePayloadInvalid
  | uxInboxTenantRequired
  | uxInboxTimestampInvalid
  | uxInboxFormDuplicate
  | uxInboxRecordDuplicate
  | uxInboxImportDuplicate
  | uxInboxTenantMixed
  | uxInboxOrganizationMixed
  | uxInboxModeMixed
  | uxInboxContextEmpty
  deriving DecidableEq

/-- What a function of the package raises. -/
inductive UxFailure
  /-- `UXError`. -/
  | ux (code : UxErrorCode)
  /-- `UXError` of a rejected record, `UX_REPORT_INVALID` with the code of its error. -/
  | report (code : Reporting.ReportingErrorCode)
  /-- Any other exception. -/
  | other (failure : Reporting.ReportingFailure)
  deriving DecidableEq

/-- A result or what is raised. -/
abbrev Result := Except UxFailure

/-- `raise UXError(code)` unless a condition holds. -/
abbrev check (condition : Prop) [Decidable condition] (code : UxErrorCode) : Result Unit :=
  require condition (.ux code)

/-- `raise UXError(code)` unless `value in allowed`, a set of strings. -/
def checkMember (value : PyJson) (allowed : List String) (code : UxErrorCode) : Result Unit := do
  require (isHashable value = true) (.other .typeError)
  check (value.isAllowedString allowed = true) code

/-- The members of a value that has to be a mapping. -/
def mappingOf (value : PyJson) (code : UxErrorCode) : Result PyObject :=
  match value with
  | .obj fields => .ok fields
  | _ => .error (.ux code)

/-- The items of a value that has to be a list. -/
def listOf (value : PyJson) (code : UxErrorCode) : Result (List PyJson) :=
  match value with
  | .arr items => .ok items
  | _ => .error (.ux code)

/-- A document without a canonical text is `UX_JSON_INVALID`. -/
def orJsonInvalid {α : Type} (result : Reporting.Result α) : Result α :=
  result.mapError fun
    | .reporting _ => .ux .uxJsonInvalid
    | failure => .other failure

/-- `_canonical_hash`. -/
def canonicalHash (interpreter : Interpreter) (document : PyObject) (excluded : String) :
    Result String := orJsonInvalid (Reporting.canonicalHash interpreter document excluded)

/-- `_clone_json`. -/
def cloneJson (interpreter : Interpreter) (value : PyJson) : Result PyJson :=
  orJsonInvalid (Reporting.cloneJson interpreter value)

/-! ### Times -/

/-- The rest of a text after exactly `width` digits. -/
def dropDigits (width : Nat) (text : List Char) : Option (List Char) :=
  if (text.take width).length = width ∧ (text.take width).all Char.isDigit = true then
    some (text.drop width)
  else none

/-- The rest of a text after a character. -/
def dropChar (c : Char) : List Char → Option (List Char)
  | first :: rest => if first = c then some rest else none
  | [] => none

/-- The rest of a text after a fraction of a second, if there is one. -/
def dropFraction : List Char → Option (List Char)
  | '.' :: rest => if (rest.head?.any Char.isDigit) = true then some (rest.dropWhile Char.isDigit)
      else none
  | rest => some rest

/-- The text is a zone: `Z` or a signed offset. -/
def isZone : List Char → Bool
  | ['Z'] => true
  | sign :: rest => (sign = '+' || sign = '-') &&
      ((dropDigits 2 rest).bind fun rest => (dropChar ':' rest).bind (dropDigits 2)) = some []
  | [] => false

/-- `_RFC3339_RE` on the whole text. Other digits than those of ASCII match it as
well, but are no part of a time. -/
def matchesRfc3339 (text : String) : Bool :=
  (do
    let rest ← (dropDigits 4 text.toList).bind (dropChar '-')
    let rest ← (dropDigits 2 rest).bind (dropChar '-')
    let rest ← (dropDigits 2 rest).bind (dropChar 'T')
    let rest ← (dropDigits 2 rest).bind (dropChar ':')
    let rest ← (dropDigits 2 rest).bind (dropChar ':')
    (dropDigits 2 rest).bind dropFraction).any isZone

/-- `is_strict_rfc3339`. -/
def isStrictRfc3339 (value : PyJson) : Bool := value.isTextWith matchesRfc3339 && value.isDatetime

example : isStrictRfc3339 (.ofText "2026-06-01T10:05:00.5+03:00") = true := by decide

/-- `datetime.fromisoformat(str(value).replace("Z", "+00:00"))`, as a point in time. -/
def instant? : PyJson → Option Int
  | .str text => (PyStr.fromIsoFormat? (PyStr.replaceChar 'Z' "+00:00".toList text)).map
      DateTime.instant
  | _ => none

/-- The end of an interval, if both ends are given, is later than its start. -/
def isInterval (validFrom validTo : PyJson) : Bool :=
  match instant? validFrom, instant? validTo with
  | some start, some stop => start < stop
  | _, _ => true

/-! ### Parts of a form -/

/-- `_CONFIGURATION_FIELDS`. -/
def configurationFields : List String := ["cost", "tax_rate", "tax_base", "other_expense"]

/-- `_MODES`. -/
def modes : List String := ["ACTUAL", "SCENARIO"]

/-- `_FORM_STATUSES`. -/
def formStatuses : List String := ["BLOCKED", "PARTIAL", "READY_FOR_RULE_DRAFT"]

/-- `_FIELD_STATES`. -/
def fieldStates : List String := ["EMPTY", "VALID", "INVALID", "BLOCKED"]

/-- `_TAX_BASES`. -/
def taxBases : List String :=
  ["UNIT", "ORDER", "EVENT", "PERIOD", "GROSS_SALES", "NET_SALES", "PAYOUT", "PRODUCT_COST",
    "CUSTOM_VARIABLE"]

/-- The members of a scope. -/
def scopeKeys : List String :=
  ["organization_id", "marketplace_account_id", "marketplace", "product_id", "product_group_id",
    "calculation_profile_id", "scenario_id"]

/-- The members of a form. -/
def formKeys : List String :=
  ["schema_version", "form_id", "organization_id", "mode", "scenario_id", "actor", "scope",
    "valid_from", "valid_to", "currency", "created_at", "publication_state", "fields", "status",
    "problems", "form_hash"]

/-- The members of a field. -/
def fieldKeys : List String :=
  ["field_id", "label", "input_kind", "control", "required", "requires_currency",
    "contract_unit", "accessible_name", "value", "state", "diagnostic"]

/-- What `_FIELD_DEFINITIONS` says of a field. -/
structure FieldDefinition where
  /-- The label, which is the accessible name as well. -/
  label : String
  /-- The kind of the input. -/
  inputKind : String
  /-- The control. -/
  control : String
  /-- The value is an amount of money. -/
  requiresCurrency : Bool
  /-- The unit. -/
  contractUnit : String
  /-- What is to be done about the field. -/
  resolution : String

/-- `_FIELD_DEFINITIONS`. -/
def fieldDefinition : String → FieldDefinition
  | "cost" => ⟨"Product cost", "COST", "decimal", true, "MONEY_PER_ITEM",
      "Provide an explicit scoped product-cost value."⟩
  | "tax_rate" => ⟨"Tax rate", "TAX_RATE", "decimal", false, "RATE",
      "Provide an explicit tax rate without a hidden default."⟩
  | "tax_base" => ⟨"Tax base", "TAX_BASE", "select", false, "DIMENSIONLESS",
      "Select the explicit tax base used by the tax rule."⟩
  | _ => ⟨"Other expense", "OTHER_EXPENSE", "decimal", true, "MONEY_PER_ITEM",
      "Provide an explicit scoped other-expense value."⟩

section Form

variable (form : PyObject)

/-- A mapping has a member of the name. -/
def hasKey (fields : PyObject) (key : String) : Bool :=
  fields.any fun field => field.1 = PyStr.ofString key

/-- The mode of a form and its scenario. -/
def checkMode : Result Unit := do
  checkMember (PyJson.get form "mode") modes .uxModeInvalid
  check ((PyJson.get form "mode").isText "ACTUAL" = true →
    (PyJson.get form "scenario_id").isNone = true) .uxScenarioInvalid
  check ((PyJson.get form "mode").isText "SCENARIO" = true →
    (PyJson.get form "scenario_id").isNonemptyString = true) .uxScenarioInvalid

/-- The scope has the scenario of the form, and none when the form has none. -/
def checkScopeScenario (scope : PyObject) : Result Unit := do
  check ((PyJson.get form "mode").isText "ACTUAL" = true → hasKey scope "scenario_id" = false)
    .uxScopeScenarioMismatch
  check ((PyJson.get form "mode").isText "SCENARIO" = true →
    PyJson.pyEq (PyJson.get scope "scenario_id") (PyJson.get form "scenario_id") = true)
    .uxScopeScenarioMismatch

/-- The currency, if there is one, is a code. -/
def checkCurrency : Result Unit :=
  check (isNoneOr (PyJson.isTextWith PyText.isCurrencyCode) (PyJson.get form "currency") = true)
    .uxCurrencyInvalid

/-- The times of a form. -/
def checkTimes (isTime : PyJson → Bool) : Result Unit := do
  check (isTime (PyJson.get form "created_at") = true) .uxCreatedAtInvalid
  check (isNoneOr isTime (PyJson.get form "valid_from") = true) .uxValidFromInvalid
  check (isNoneOr isTime (PyJson.get form "valid_to") = true) .uxValidToInvalid
  check (isInterval (PyJson.get form "valid_from") (PyJson.get form "valid_to") = true)
    .uxValidityIntervalInvalid

/-- `_validate_problem`. -/
def validateProblem (problem : PyJson) : Result Unit := do
  let members ← mappingOf problem .uxFormProblemsInvalid
  check (PyJson.hasKeys members ["code", "field_id", "message"] = true) .uxFormProblemsInvalid
  check ((members.all fun member => member.2.isNonemptyString) = true) .uxFormProblemsInvalid

/-- The problems of a form. -/
def checkProblems : Result Unit := do
  let problems ← listOf (PyJson.get form "problems") .uxFormProblemsInvalid
  forM problems validateProblem

/-- `_validate_scope`. -/
def validateScope (scope organizationId : PyJson) : Result PyObject := do
  let members ← mappingOf scope .uxScopeInvalid
  check ((members.all fun member => scopeKeys.any fun key => member.1 = PyStr.ofString key) = true)
    .uxScopeInvalid
  check (PyJson.pyEq (PyJson.get members "organization_id") organizationId = true)
    .uxScopeOrganizationMismatch
  check ((hasKey members "product_id" && hasKey members "product_group_id") = false)
    .uxScopeProductAmbiguous
  check ((members.all fun member => member.2.isNonemptyString) = true) .uxScopeInvalid
  return members

end Form

/-! ### The two validators -/

/-- `field.get("field_id")` of a field that is a mapping. -/
def fieldId? : PyJson → Option PyJson
  | .obj members => some (PyJson.get members "field_id")
  | _ => none

/-- `value is flag`. -/
def isFlag : PyJson → Bool → Bool
  | .bool value, flag => value == flag
  | _, _ => false

/-- `validate_configuration_form_boundary`. -/
def validateConfigurationFormBoundary (value : PyJson) : Result Unit := do
  let form ← mappingOf value .uxFormMalformed
  check ((PyJson.get form "form_id").isNonemptyString = true) .uxFormIdInvalid
  check ((PyJson.get form "organization_id").isNonemptyString = true) .uxOrganizationIdInvalid
  check ((PyJson.get form "actor").isNonemptyString = true) .uxActorInvalid
  checkMode form
  let scope ← mappingOf (PyJson.get form "scope") .uxScopeOrganizationMismatch
  check (PyJson.pyEq (PyJson.get scope "organization_id") (PyJson.get form "organization_id") =
    true) .uxScopeOrganizationMismatch
  check ((hasKey scope "product_id" && hasKey scope "product_group_id") = false)
    .uxScopeProductAmbiguous
  check ((scope.all fun member => member.2.isNonemptyString) = true) .uxScopeInvalid
  checkScopeScenario form scope
  checkCurrency form
  checkTimes form isStrictRfc3339
  checkMember (PyJson.get form "status") formStatuses .uxFormStatusInvalid
  let fields ← listOf (PyJson.get form "fields") .uxFormFieldsInvalid
  check (fields.length = configurationFields.length) .uxFormFieldsInvalid
  check (PyJson.pyEqItems (fields.filterMap fieldId?) (configurationFields.map PyJson.ofText) =
    true) .uxFormFieldsInvalid
  checkProblems form

/-- `_validate_form_field`. -/
def validateFormField (field : PyJson) (expectedFieldId : String) : Result Unit := do
  let members ← mappingOf field .uxFormFieldsInvalid
  check (PyJson.hasKeys members fieldKeys = true ∧
    (PyJson.get members "field_id").isText expectedFieldId = true) .uxFormFieldsInvalid
  let definition := fieldDefinition expectedFieldId
  check ((PyJson.get members "label").isText definition.label = true ∧
    (PyJson.get members "input_kind").isText definition.inputKind = true ∧
    (PyJson.get members "control").isText definition.control = true ∧
    isFlag (PyJson.get members "required") true = true ∧
    isFlag (PyJson.get members "requires_currency") definition.requiresCurrency = true ∧
    (PyJson.get members "contract_unit").isText definition.contractUnit = true ∧
    (PyJson.get members "accessible_name").isText definition.label = true) .uxFormFieldsInvalid
  checkMember (PyJson.get members "state") fieldStates .uxFormFieldsInvalid
  let value := PyJson.get members "value"
  if (PyJson.get members "state").isText "VALID" then do
    check (value.isNonemptyString = true ∧ (PyJson.get members "diagnostic").isNone = true)
      .uxFormFieldsInvalid
    if expectedFieldId = "tax_base" then
      check (value.isAllowedString taxBases = true) .uxFormFieldsInvalid
    else check (isDecimalString value = true) .uxFormFieldsInvalid
  else
    check (value.isNone = true ∧ (PyJson.get members "diagnostic").isNonemptyString = true)
      .uxFormFieldsInvalid

/-- `_validate_configuration_form`. -/
def validateConfigurationForm (interpreter : Interpreter) (value : PyJson) : Result Unit := do
  let form ← mappingOf value .uxFormMalformed
  check (PyJson.hasKeys form formKeys = true) .uxFormMalformed
  check ((PyJson.get form "schema_version").isText "quantum-configuration-form-v1" = true)
    .uxFormSchemaInvalid
  check ((PyJson.get form "publication_state").isText "PREVIEW_ONLY" = true)
    .uxFormPublicationStateInvalid
  check ((PyJson.get form "form_id").isNonemptyString = true) .uxFormIdInvalid
  check ((PyJson.get form "organization_id").isNonemptyString = true) .uxOrganizationIdInvalid
  check ((PyJson.get form "actor").isNonemptyString = true) .uxActorInvalid
  checkMode form
  let scope ← validateScope (PyJson.get form "scope") (PyJson.get form "organization_id")
  checkScopeScenario form scope
  checkCurrency form
  checkTimes form PyJson.isDatetime
  checkMember (PyJson.get form "status") formStatuses .uxFormStatusInvalid
  checkProblems form
  let fields ← listOf (PyJson.get form "fields") .uxFormFieldsInvalid
  check (fields.length = configurationFields.length) .uxFormFieldsInvalid
  forM (fields.zip configurationFields) fun field => validateFormField field.1 field.2
  let expected ← canonicalHash interpreter form "form_hash"
  check ((PyJson.get form "form_hash").isText expected = true) .uxFormHashMismatch

end Ux
end QuantumAnalytics
