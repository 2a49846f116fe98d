import Mathlib.Data.List.Dedup
import QuantumAnalytics.Ux.Forms

/-!
# The exception inbox

`build_exception_inbox` walks report records, configuration forms and imported
files, and lists what needs a resolution. Every entry gets an id that is a
digest of its source and cause, and the list is sorted by these ids.
-/

namespace QuantumAnalytics
namespace Ux

open Reporting (membersOf GeneratedAt)

/-- A string as text. -/
def textOf : PyJson → PyStr
  | .str text => text
  | _ => []

/-- A string or `None` as text. -/
def textOf? : PyJson → Option PyStr
  | .str text => some text
  | _ => none

/-- `value or fallback` of a string or `None`. -/
def orText (value : PyJson) (fallback : PyStr) : PyStr :=
  if value.isNonemptyString = true then textOf value else fallback

/-- `"\x1f".join(parts)`. -/
def joined (parts : List PyStr) : PyStr := [CodePoint.scalar '\x1f'].intercalate parts

/-- What an id keeps of the digest of its parts. -/
def shortDigest (payload : List UInt8) : String :=
  PyText.takeText 24 (Sha256.hexdigestOfBytes payload)

/-- `_exception_id`. -/
def exceptionId (parts : List PyStr) : Result String := do
  let payload ← requireSome (joined parts).encode? (.other .unicode)
  return "exc-" ++ shortDigest payload

/-! ### Entries -/

/-- An entry of the inbox. -/
structure ExceptionItem where
  /-- The id. -/
  exceptionId : String
  /-- `METRIC`, `CONFIGURATION` or `SCHEMA`. -/
  category : String
  /-- The state of the source. -/
  state : PyJson
  /-- The cause. -/
  cause : PyStr
  /-- The metrics that have no value. -/
  affectedMetricIds : List PyJson
  /-- The evidence. -/
  evidenceRefs : List PyJson
  /-- What is to be done. -/
  requiredResolution : String
  /-- `ERROR` or `WARNING`. -/
  severity : String
  /-- A sentence for a reader. -/
  accessibleSummary : PyStr

/-- The mapping of an entry. -/
def ExceptionItem.toJson (item : ExceptionItem) : PyJson :=
  .obj (membersOf [("exception_id", .ofText item.exceptionId), ("category", .ofText item.category),
    ("state", item.state), ("cause", .str item.cause),
    ("affected_metric_ids", .arr item.affectedMetricIds),
    ("evidence_refs", .arr item.evidenceRefs),
    ("required_resolution", .ofText item.requiredResolution),
    ("severity", .ofText item.severity), ("status", .ofText "OPEN"),
    ("accessible_summary", .str item.accessibleSummary)])

/-- The state makes an entry an error. -/
def severityOf (state : PyJson) (errors : List String) : String :=
  if state.isAllowedString errors then "ERROR" else "WARNING"

/-- `record["reason_code"] or f"STATE_{record['state']}"`. -/
def reasonOf (record : PyObject) : PyStr :=
  orText (PyJson.get record "reason_code")
    (PyStr.ofString "STATE_" ++ textOf (PyJson.get record "state"))

/-- The entry of a metric without a value. -/
def metricException (interpreter : Interpreter) (record : PyObject) : Result ExceptionItem := do
  let state := PyJson.get record "state"
  let reason := reasonOf record
  let exceptionId ← exceptionId
    [PyStr.ofString "metric", textOf (PyJson.get record "report_record_id"), reason]
  let evidence ← cloneJson interpreter (PyJson.get record "evidence_chain_ref")
  return {
    exceptionId
    category := "METRIC"
    state
    cause := reason
    affectedMetricIds := [PyJson.get record "metric_snapshot_id"]
    evidenceRefs := [evidence]
    requiredResolution :=
      "Resolve the recorded cause and recalculate without replacing missing values with zero."
    severity := severityOf state ["BLOCKED", "CONFLICT", "INVALID"]
    accessibleSummary := textOf state ++ PyStr.ofString " metric " ++
      textOf (PyJson.get record "metric_snapshot_id") ++ PyStr.ofString ": " ++ reason ++
      PyStr.ofString "." }

/-- `field["diagnostic"] or "CONFIGURATION_REQUIRED"`. -/
def fieldCause (field : PyObject) : PyStr :=
  orText (PyJson.get field "diagnostic") (PyStr.ofString "CONFIGURATION_REQUIRED")

/-- The entry of a field of a form. -/
def fieldException (form field : PyObject) : Result ExceptionItem := do
  let state := PyJson.get field "state"
  let fieldId := textOf (PyJson.get field "field_id")
  let cause := fieldCause field
  let exceptionId ← exceptionId
    [PyStr.ofString "configuration", textOf (PyJson.get form "form_id"), fieldId, cause]
  return {
    exceptionId
    category := "CONFIGURATION"
    state
    cause
    affectedMetricIds := []
    evidenceRefs := []
    requiredResolution := (fieldDefinition ((PyStr.text? fieldId).getD "")).resolution
    severity := severityOf state ["BLOCKED", "INVALID"]
    accessibleSummary := PyStr.ofString "Configuration " ++ textOf (PyJson.get field "label") ++
      PyStr.ofString ": " ++ cause ++ PyStr.ofString "." }

/-- The entry of a form without a start of validity. -/
def startException (form : PyObject) : Result ExceptionItem := do
  let exceptionId ← exceptionId
    [PyStr.ofString "configuration", textOf (PyJson.get form "form_id"),
      PyStr.ofString "valid_from", PyStr.ofString "VALID_FROM_REQUIRED"]
  return {
    exceptionId
    category := "CONFIGURATION"
    state := .ofText "EMPTY"
    cause := PyStr.ofString "VALID_FROM_REQUIRED"
    affectedMetricIds := []
    evidenceRefs := []
    requiredResolution := "Provide an explicit validity start."
    severity := "ERROR"
    accessibleSummary := PyStr.ofString "Configuration validity start is required." }

/-- `RawFileState.value`. -/
def stateText : RawFileState → String
  | .received => "RECEIVED"
  | .validating => "VALIDATING"
  | .valid => "VALID"
  | .quarantined => "QUARANTINED"
  | .rejected => "REJECTED"

/-- The first diagnostic that is not empty, or the state. -/
def importCause (record : RawFileMetadata) : PyStr :=
  (record.diagnostics.find? fun item => !item.isEmpty).getD
    (PyStr.ofString "IMPORT_" ++ PyStr.ofString (stateText record.state))

/-- The entry of a file that was turned down. -/
def importException (record : RawFileMetadata) : Result ExceptionItem := do
  let cause := importCause record
  let exceptionId ← exceptionId
    [PyStr.ofString "import", PyStr.ofString record.rawFileId, cause]
  return {
    exceptionId
    category := "SCHEMA"
    state := .ofText (if record.state = .quarantined then "CONFLICT" else "INVALID")
    cause
    affectedMetricIds := []
    evidenceRefs := [.obj (membersOf [("raw_file_id", .ofText record.rawFileId),
      ("sha256", .ofText record.sha256)])]
    requiredResolution := "Review the file diagnostics and submit a corrected file; the " ++
      "quarantined or rejected file remains excluded."
    severity := "ERROR"
    accessibleSummary := PyStr.ofString (stateText record.state) ++ PyStr.ofString " import " ++
      PyStr.ofString record.sanitizedFilename ++ PyStr.ofString ": " ++ cause ++
      PyStr.ofString "." }

/-! ### Sources -/

/-- What an entry is about. -/
inductive Source
  /-- A record without a value. -/
  | metric (record : PyObject)
  /-- A field of a form that is not valid. -/
  | field (form field : PyObject)
  /-- The missing start of validity of a form. -/
  | start (form : PyObject)
  /-- A file that was turned down. -/
  | importFile (record : RawFileMetadata)

/-- The entry of a source. -/
def Source.exception (interpreter : Interpreter) : Source → Result ExceptionItem
  | .metric record => metricException interpreter record
  | .field form input => fieldException form input
  | .start form => startException form
  | .importFile record => importException record

/-- The sources in a record. -/
def recordSources (record : PyObject) : List Source :=
  if (PyJson.get record "state").isAllowedString ["VALID", "NOT_APPLICABLE"] then []
  else [.metric record]

/-- The mapping of a field. -/
def fieldMembers? : PyJson → Option PyObject
  | .obj field => some field
  | _ => none

/-- The fields of a form. -/
def formFields (form : PyObject) : List PyObject :=
  match PyJson.get form "fields" with
  | .arr fields => fields.filterMap fieldMembers?
  | _ => []

/-- The sources in a form. -/
def formSources (form : PyObject) : List Source :=
  ((formFields form).filter fun field => !(PyJson.get field "state").isText "VALID").map
    (.field form) ++
  if (PyJson.get form "valid_from").isNone then [.start form] else []

/-- The sources in an imported file. -/
def importSources (record : RawFileMetadata) : List Source :=
  if record.state = .quarantined ∨ record.state = .rejected then [.importFile record] else []

/-! ### The loops of the runtime -/

/-- Whose data is in the inbox. -/
structure Context where
  /-- The organization. -/
  organizationId : PyStr
  /-- The mode. -/
  mode : PyStr
  /-- The scenario. -/
  scenarioId : Option PyStr
  deriving DecidableEq

/-- The context of a record or a form. -/
def contextOf (fields : PyObject) : Context where
  organizationId := textOf (PyJson.get fields "organization_id")
  mode := textOf (PyJson.get fields "mode")
  scenarioId := textOf? (PyJson.get fields "scenario_id")

/-- What the loops have collected. -/
structure InboxState where
  /-- The context, once there is one. -/
  context : Option Context := none
  /-- The entries. -/
  exceptions : List ExceptionItem := []
  /-- The metrics with a value, as they are added to the set. -/
  availableMetricIds : List PyStr := []
  /-- The ids of the records. -/
  seenRecords : List PyStr := []
  /-- The ids of the imported files. -/
  seenImports : List String := []

/-- `_ensure_same_business_context`. -/
def ensureSameBusinessContext (context : Option Context) (candidate : Context) : Result Context :=
  match context with
  | none => .ok candidate
  | some context => do
      check (context.organizationId = candidate.organizationId) .uxInboxOrganizationMixed
      check (context.mode = candidate.mode ∧ context.scenarioId = candidate.scenarioId)
        .uxInboxModeMixed
      return context

section Loops

variable (interpreter : Interpreter)

/-- `validate_report_record`, whose error becomes a `UXError`. -/
def validateRecord (record : PyJson) : Result Unit :=
  (Reporting.validateReportRecord interpreter record).mapError fun
    | .reporting code => .report code
    | failure => .other failure

/-- The loop body of a record. -/
def recordStep (state : InboxState) (value : PyJson) : Result InboxState := do
  validateRecord interpreter value
  -- a valid record is a mapping
  let record ← mappingOf value .uxJsonInvalid
  let recordId := textOf (PyJson.get record "report_record_id")
  check (recordId ∉ state.seenRecords) .uxInboxRecordDuplicate
  let context ← ensureSameBusinessContext state.context (contextOf record)
  let exceptions ← (recordSources record).mapM (Source.exception interpreter)
  return { state with
    context := some context
    exceptions := state.exceptions ++ exceptions
    availableMetricIds := state.availableMetricIds ++
      if (PyJson.get record "state").isText "VALID" then
        [textOf (PyJson.get record "metric_snapshot_id")] else []
    seenRecords := state.seenRecords ++ [recordId] }

/-- The loop body of a form. -/
def formStep (state : InboxState) (value : PyJson) : Result InboxState := do
  validateConfigurationForm interpreter value
  let form ← mappingOf value .uxFormMalformed
  let context ← ensureSameBusinessContext state.context (contextOf form)
  let exceptions ← (formSources form).mapM (Source.exception interpreter)
  return { state with
    context := some context
    exceptions := state.exceptions ++ exceptions }

/-- The loop body of an imported file. -/
def importStep (tenantId : PyStr) (state : InboxState) (record : RawFileMetadata) :
    Result InboxState := do
  check (record.tenantId = tenantId) .uxInboxTenantMixed
  check (record.rawFileId ∉ state.seenImports) .uxInboxImportDuplicate
  let exceptions ← (importSources record).mapM (Source.exception interpreter)
  return { state with
    exceptions := state.exceptions ++ exceptions
    seenImports := state.seenImports ++ [record.rawFileId] }

/-- The tenant of a call with imported files. -/
def requireTenant (tenantId : Option PyStr) : Result PyStr := do
  let tenantId ← requireSome tenantId (.ux .uxInboxTenantRequired)
  check (tenantId ≠ []) .uxInboxTenantRequired
  return tenantId

/-- The three loops. -/
def collect (records forms : List PyJson) (imports : List RawFileMetadata)
    (tenantId : Option PyStr) : Result InboxState := do
  let state ← records.foldlM (recordStep interpreter) {}
  let state ← forms.foldlM (formStep interpreter) state
  if imports.isEmpty then return state
  let tenantId ← requireTenant tenantId
  imports.foldlM (importStep interpreter tenantId) state

end Loops

/-! ### The inbox -/

/-- The inbox. -/
structure ExceptionInbox where
  /-- The tenant. -/
  tenantId : Option PyStr
  /-- Whose data is in the inbox. -/
  context : Option Context
  /-- When the inbox was built. -/
  generatedAt : PyJson
  /-- The entries. -/
  exceptions : List ExceptionItem
  /-- The metrics with a value. -/
  availableMetricIds : List PyStr
  /-- The digest of the other members. -/
  inboxHash : String

/-- A text or `None`. -/
def jsonOf? : Option PyStr → PyJson
  | some text => .str text
  | none => .null

/-- The members of an inbox. -/
def ExceptionInbox.members (inbox : ExceptionInbox) : List (String × PyJson) :=
  [("schema_version", .ofText "quantum-exception-inbox-v1"), ("tenant_id", jsonOf? inbox.tenantId),
    ("organization_id", jsonOf? (inbox.context.map Context.organizationId)),
    ("mode", jsonOf? (inbox.context.map Context.mode)),
    ("scenario_id", jsonOf? (inbox.context.bind Context.scenarioId)),
    ("generated_at", inbox.generatedAt),
    ("exceptions", .arr (inbox.exceptions.map ExceptionItem.toJson)),
    ("available_metric_ids", .arr (inbox.availableMetricIds.map PyJson.str)),
    ("independent_results_preserved", .bool (!inbox.availableMetricIds.isEmpty)),
    ("exception_count", .int inbox.exceptions.length), ("inbox_hash", .ofText inbox.inboxHash)]

/-- `exceptions.sort(key=lambda item: item["exception_id"])`. -/
def sortExceptions (exceptions : List ExceptionItem) : List ExceptionItem :=
  exceptions.insertionSort fun left right => left.exceptionId ≤ right.exceptionId

/-- `sorted(set(ids))`. -/
def sortedSet (ids : List PyStr) : List PyStr :=
  ids.dedup.insertionSort fun left right => left.ords ≤ right.ords

/-- The time of generation as it is rendered. -/
def rendered : GeneratedAt → PyJson
  | .datetime time => .ofText time.isoformat
  | .text value => .str value

/-- `_timestamp`. -/
def timestamp (generatedAt : GeneratedAt) (code : UxErrorCode) : Result PyJson := do
  match generatedAt with
  | .datetime time => check (time.isAware = true) code
  | .text value => check ((PyJson.str value).isDatetime = true) code
  return rendered generatedAt

section Builder

variable (interpreter : Interpreter)

/-- The inbox of a context, its entries and its metrics, with its digest. -/
def sealInbox (tenantId : Option PyStr) (generatedAt : GeneratedAt) (context : Option Context)
    (exceptions : List ExceptionItem) (availableMetricIds : List PyStr) :
    Result ExceptionInbox := do
  let generatedAt ← timestamp generatedAt .uxInboxTimestampInvalid
  let inbox : ExceptionInbox :=
    { tenantId, context, generatedAt, exceptions, availableMetricIds, inboxHash := "" }
  let inboxHash ← canonicalHash interpreter (membersOf inbox.members) "inbox_hash"
  return { inbox with inboxHash }

/-- `build_exception_inbox` of the runtime. -/
def buildRuntimeInbox (records forms : List PyJson) (imports : List RawFileMetadata)
    (tenantId : Option PyStr) (generatedAt : GeneratedAt) : Result ExceptionInbox := do
  let state ← collect interpreter records forms imports tenantId
  check (¬(state.context = none ∧ imports.isEmpty = true)) .uxInboxContextEmpty
  sealInbox interpreter tenantId generatedAt state.context (sortExceptions state.exceptions)
    (sortedSet state.availableMetricIds)

/-- `validate_raw_file_record_boundary`. -/
def validateRawFileRecordBoundary (record : RawFileMetadata) : Result Unit := do
  check (PyText.canonicalUuid? record.rawFileId = some record.rawFileId) .uxImportRecordInvalid
  check (record.tenantId ≠ []) .uxImportRecordInvalid
  check (PyText.isHexDigest record.sha256 = true) .uxImportRecordInvalid
  check (0 ≤ record.sizeBytes) .uxImportRecordInvalid
  check (isSafeFilename record.sanitizedFilename = true) .uxImportRecordInvalid
  check (record.storageKey = canonicalStorageKey record.tenantId record.sha256)
    .uxImportRecordInvalid
  check (record.isValidFor record.state = true) .uxImportStatePayloadInvalid

/-- The loop body of `validate_import_collection_boundary`, with the ids that it
has seen. -/
def boundaryImportStep (tenantId : PyStr) (seen : List String) (record : RawFileMetadata) :
    Result (List String) := do
  validateRawFileRecordBoundary record
  check (record.tenantId = tenantId) .uxInboxTenantMixed
  check (record.rawFileId ∉ seen) .uxInboxImportDuplicate
  return seen ++ [record.rawFileId]

/-- `validate_import_collection_boundary`. -/
def validateImportCollectionBoundary (imports : List RawFileMetadata)
    (tenantId : Option PyStr) : Result Unit := do
  if imports.isEmpty then return ()
  let tenantId ← requireTenant tenantId
  let _ ← imports.foldlM (boundaryImportStep tenantId) []

/-- `form["form_id"]` of a form that is a mapping. -/
def formId (form : PyJson) : PyStr := textOf (Reporting.memberOf "form_id" form)

/-- The loop body over the forms at the boundary, with the ids that it has seen. -/
def boundaryFormStep (seen : List PyStr) (form : PyJson) : Result (List PyStr) := do
  validateConfigurationFormBoundary form
  check (formId form ∉ seen) .uxInboxFormDuplicate
  return seen ++ [formId form]

/-- `build_exception_inbox`. -/
def buildExceptionInbox (records forms : List PyJson) (imports : List RawFileMetadata)
    (tenantId : Option PyStr) (generatedAt : GeneratedAt) : Result ExceptionInbox := do
  check (tenantId ≠ some []) .uxInboxTenantRequired
  check (isStrictRfc3339 (rendered generatedAt) = true) .uxInboxTimestampInvalid
  let _ ← forms.foldlM boundaryFormStep []
  validateImportCollectionBoundary imports tenantId
  buildRuntimeInbox interpreter records forms imports tenantId generatedAt

end Builder

end Ux
end QuantumAnalytics
