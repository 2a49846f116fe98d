import QuantumAnalytics.Foundations.Members
import QuantumAnalytics.Ux.Inbox

/-!
# Editing configuration forms

`build_configuration_form` makes a form without values, and
`apply_configuration_values` gives its four fields values, states and
diagnostics. Nothing of earlier values is kept when values are applied again.
-/

namespace QuantumAnalytics
namespace Ux

open Reporting (membersOf GeneratedAt isDecimalString)
open PyJson (setMember)

/-- What the editing functions raise. -/
inductive EditFailure
  /-- `UXError` with the code `UX_CONFIGURATION_VALUES_INVALID`. -/
  | configurationValuesInvalid
  /-- What the validators and the encoder raise. -/
  | ux (failure : UxFailure)
  deriving DecidableEq

/-- A result of an edit or what is raised. -/
abbrev EditResult := Except EditFailure

/-- A call of a function that is not an edit. -/
def inner {α : Type} (result : Result α) : EditResult α := result.mapError .ux

/-! ### Building a form -/

/-- The members of a field of a form. -/
def fieldMembersOf (fieldId : String) (value : PyJson) (state : String) (diagnostic : PyJson) :
    List (String × PyJson) :=
  let definition := fieldDefinition fieldId
  [("field_id", .ofText fieldId), ("label", .ofText definition.label),
    ("input_kind", .ofText definition.inputKind), ("control", .ofText definition.control),
    ("required", .bool true), ("requires_currency", .bool definition.requiresCurrency),
    ("contract_unit", .ofText definition.contractUnit),
    ("accessible_name", .ofText definition.label), ("value", value), ("state", .ofText state),
    ("diagnostic", diagnostic)]

/-- `_base_form_fields`. -/
def baseFormFields : List PyJson :=
  configurationFields.map fun fieldId =>
    .obj (membersOf (fieldMembersOf fieldId .null "EMPTY" (.ofText "CONFIGURATION_REQUIRED")))

/-- The arguments of `build_configuration_form`. -/
structure FormRequest where
  formId : PyJson
  organizationId : PyJson
  mode : PyJson
  scenarioId : PyJson
  actor : PyJson
  scope : PyJson
  validFrom : Option GeneratedAt
  validTo : Option GeneratedAt
  currency : PyJson
  createdAt : GeneratedAt
  /-- A scope has each key once. -/
  scopeCanonical : scope.Canonical

/-- `_validate_timestamp_input` of a time that may be missing. -/
def checkTimestampInput (time : Option GeneratedAt) (code : UxErrorCode) : Result Unit :=
  check ((time.all fun time => isStrictRfc3339 (rendered time)) = true) code

/-- `None if time is None else _timestamp(time)`. -/
def optionalTimestamp (time : Option GeneratedAt) (code : UxErrorCode) : Result PyJson :=
  match time with
  | none => .ok .null
  | some time => timestamp time code

/-- The form without its digest. -/
def FormRequest.members (request : FormRequest) (scope : PyObject)
    (validFrom validTo createdAt : PyJson) : List (String × PyJson) :=
  [("schema_version", .ofText "quantum-configuration-form-v1"), ("form_id", request.formId),
    ("organization_id", request.organizationId), ("mode", request.mode),
    ("scenario_id", request.scenarioId), ("actor", request.actor), ("scope", .obj scope),
    ("valid_from", validFrom), ("valid_to", validTo), ("currency", request.currency),
    ("created_at", createdAt), ("publication_state", .ofText "PREVIEW_ONLY"),
    ("fields", .arr baseFormFields), ("status", .ofText "BLOCKED"), ("problems", .arr []),
    ("form_hash", .ofText "")]

/-- The checks of the runtime on the arguments of a form, with its members. -/
def FormRequest.validate (request : FormRequest) : Result (List (String × PyJson)) := do
  check (request.formId.isNonemptyString = true) .uxFormIdInvalid
  check (request.organizationId.isNonemptyString = true) .uxOrganizationIdInvalid
  checkMember request.mode modes .uxModeInvalid
  check (request.mode.isText "ACTUAL" = true → request.scenarioId.isNone = true) .uxScenarioInvalid
  check (request.mode.isText "SCENARIO" = true → request.scenarioId.isNonemptyString = true)
    .uxScenarioInvalid
  check (request.actor.isNonemptyString = true) .uxActorInvalid
  let scope ← validateScope request.scope request.organizationId
  check (request.mode.isText "SCENARIO" = true →
    PyJson.pyEq (PyJson.get scope "scenario_id") request.scenarioId = true) .uxScopeScenarioMismatch
  check (request.mode.isText "ACTUAL" = true → hasKey scope "scenario_id" = false)
    .uxScopeScenarioMismatch
  check (Reporting.isNoneOr (PyJson.isTextWith PyText.isCurrencyCode) request.currency = true)
    .uxCurrencyInvalid
  let validFrom ← optionalTimestamp request.validFrom .uxValidFromInvalid
  let validTo ← optionalTimestamp request.validTo .uxValidToInvalid
  check (isInterval validFrom validTo = true) .uxValidityIntervalInvalid
  let createdAt ← timestamp request.createdAt .uxCreatedAtInvalid
  return request.members scope validFrom validTo createdAt

/-- A form with its digest. -/
def sealForm (interpreter : Interpreter) (form : PyObject) : Result PyJson := do
  let formHash ← canonicalHash interpreter form "form_hash"
  return .obj (setMember form "form_hash" (.ofText formHash))

/-- `build_configuration_form`. -/
def buildConfigurationForm (interpreter : Interpreter) (request : FormRequest) :
    EditResult PyJson := inner do
  checkTimestampInput request.validFrom .uxValidFromInvalid
  checkTimestampInput request.validTo .uxValidToInvalid
  checkTimestampInput (some request.createdAt) .uxCreatedAtInvalid
  let members ← request.validate
  sealForm interpreter (membersOf members)

/-! ### Applying values -/

/-- A problem of a form. -/
def problem (code : String) (fieldId : PyJson) (message : String) : PyJson :=
  .obj (membersOf [("code", .ofText code), ("field_id", fieldId), ("message", .ofText message)])

/-- `values.get(field_id)`. -/
def valueFor (values : PyObject) (fieldId : PyJson) : PyJson :=
  ((values.find? fun value => PyJson.pyEq (.str value.1) fieldId).map Prod.snd).getD .null

/-- What applied values make of a field. -/
structure FieldEdit where
  value : PyJson
  state : String
  diagnostic : PyJson
  problems : List PyJson

/-- A field without its value. -/
def FieldEdit.refused (state : String) (fieldId : PyJson) (code message : String) : FieldEdit :=
  ⟨.null, state, .ofText code, [problem code fieldId message]⟩

/-- The loop body over the fields. -/
def editField (currency : PyJson) (values field : PyObject) : FieldEdit :=
  let fieldId := PyJson.get field "field_id"
  let raw := valueFor values fieldId
  if raw.isNone = true ∨ raw.isText "" = true then
    ⟨.null, "EMPTY", .ofText "CONFIGURATION_REQUIRED", []⟩
  else if fieldId.isText "tax_base" = true ∧ raw.isAllowedString taxBases = false then
    .refused "INVALID" fieldId "TAX_BASE_INVALID"
      "Tax base must use the approved B1a RATE vocabulary."
  else if fieldId.isText "tax_base" = false ∧ isDecimalString raw = false then
    .refused "INVALID" fieldId "DECIMAL_INPUT_INVALID"
      "Value must be an explicit normalized decimal string."
  else if isFlag (PyJson.get field "requires_currency") true = true ∧ currency.isNone = true then
    .refused "BLOCKED" fieldId "CURRENCY_REQUIRED"
      "Currency is required for monetary configuration."
  else ⟨raw, "VALID", .null, []⟩

/-- The field after an edit. -/
def FieldEdit.write (edit : FieldEdit) (field : PyObject) : PyObject :=
  setMember (setMember (setMember field "value" edit.value) "state" (.ofText edit.state))
    "diagnostic" edit.diagnostic

/-- The problem of a form without a start of validity. -/
def startProblems (form : PyObject) : List PyJson :=
  if (PyJson.get form "valid_from").isNone = true then
    [problem "VALID_FROM_REQUIRED" (.ofText "valid_from")
      "An explicit validity start is required."]
  else []

/-- The status of a form with some problems and fields. -/
def statusOf (problems : List PyJson) (states : List String) : String :=
  let validCount := states.count "VALID"
  let emptyCount := states.count "EMPTY"
  let invalidCount := states.countP fun state => state = "INVALID" ∨ state = "BLOCKED"
  if problems ≠ [] ∨ invalidCount ≠ 0 then "BLOCKED"
  else if validCount = configurationFields.length then "READY_FOR_RULE_DRAFT"
  else if validCount ≠ 0 ∧ emptyCount ≠ 0 then "PARTIAL"
  else "BLOCKED"

/-- The form after an edit of each of its fields, without its digest. -/
def editedForm (form values : PyObject) : PyObject :=
  let fields := formFields form
  let edits := fields.map (editField (PyJson.get form "currency") values)
  let problems := startProblems form ++ edits.flatMap fun edit => edit.problems
  let edited := fields.map fun field =>
    PyJson.obj ((editField (PyJson.get form "currency") values field).write field)
  setMember (setMember (setMember form "fields" (.arr edited)) "status"
    (.ofText (statusOf problems (edits.map fun edit => edit.state)))) "problems" (.arr problems)

/-- The values to apply, which are given for fields of a form. -/
def configurationValues (values : PyJson) : EditResult PyObject :=
  match values with
  | .obj members => do
      require ((members.all fun member => configurationFields.any fun fieldId =>
        member.1 = PyStr.ofString fieldId) = true) .configurationValuesInvalid
      return members
  | _ => .error .configurationValuesInvalid

/-- `apply_configuration_values` of the runtime. -/
def applyRuntimeValues (interpreter : Interpreter) (form values : PyJson) : EditResult PyJson := do
  inner (validateConfigurationForm interpreter form)
  let values ← configurationValues values
  let updated ← inner (cloneJson interpreter form)
  -- a valid form is a mapping
  let form ← inner (mappingOf updated .uxFormMalformed)
  inner (sealForm interpreter (editedForm form values))

/-- `apply_configuration_values`. -/
def applyConfigurationValues (interpreter : Interpreter) (form values : PyJson) :
    EditResult PyJson := do
  inner (validateConfigurationFormBoundary form)
  applyRuntimeValues interpreter form values

/-- The forms that are built and edited by the package. -/
inductive Reachable (interpreter : Interpreter) : PyJson → Prop
  | built {request : FormRequest} {form : PyJson}
      (isBuilt : buildConfigurationForm interpreter request = .ok form) :
      Reachable interpreter form
  | applied {form values edited : PyJson} (reachable : Reachable interpreter form)
      (isApplied : applyConfigurationValues interpreter form values = .ok edited) :
      Reachable interpreter edited

end Ux
end QuantumAnalytics
