import QuantumAnalytics.Evidence.Verification
import QuantumAnalytics.Foundations.Decimal
import QuantumAnalytics.Foundations.Members
import QuantumAnalytics.Ux.Inbox

/-!
# Views of report records

A view presents a record as text, and a drilldown says what is known of its
evidence. Both state the digest of their other members.
-/

namespace QuantumAnalytics
namespace Ux

open Reporting (membersOf memberOf)
open PyJson (setMember)

/-- What the functions on views raise. -/
inductive ViewFailure
  /-- `UX_TYPED_STATE_INVALID`. -/
  | typedStateInvalid
  /-- `UX_HASH_INVALID`. -/
  | hashInvalid
  /-- `UX_HASH_MISMATCH`. -/
  | hashMismatch
  /-- `KeyError`. -/
  | keyError
  /-- What `_rehash_view` raises. -/
  | encoder (failure : PyJson.DumpsError)
  /-- What the other functions of the package raise. -/
  | ux (failure : UxFailure)
  deriving DecidableEq

/-- A result or what is raised. -/
abbrev ViewResult := Except ViewFailure

/-- A call of another function of the package. -/
def ofUx {α : Type} (result : Result α) : ViewResult α := result.mapError .ux

/-! ### Presentation -/

/-- How a state is presented. -/
structure StatePresentation where
  state : String
  label : String
  token : String
  summary : String

/-- `_STATE_PRESENTATION`. -/
def statePresentations : List StatePresentation :=
  [⟨"EMPTY", "No value", "empty", "No value is available."⟩,
    ⟨"BLOCKED", "Blocked", "blocked", "The result is blocked."⟩,
    ⟨"UNAVAILABLE", "Unavailable", "unavailable", "The source is unavailable."⟩,
    ⟨"CONFLICT", "Conflict", "conflict", "Conflicting evidence prevents publication."⟩,
    ⟨"INVALID", "Invalid", "invalid", "The result is invalid."⟩,
    ⟨"NOT_APPLICABLE", "Not applicable", "not-applicable", "The metric is not applicable."⟩]

/-- How a record is presented. -/
structure Presentation where
  label : String
  token : String
  summary : PyStr
  valueText : PyStr
  isNumericZero : Bool

/-- `str(value)` of a value that a record can have: a string or an integer. -/
def valueText : PyJson → PyStr
  | .str text => text
  | .int value => PyStr.ofString (toString value)
  | _ => []

/-- `not isinstance(value, bool) and value in {"0", 0}`. -/
def isPlainZero (value : PyJson) : Bool :=
  match value with
  | .bool _ => false
  | value => value.isText "0" || PyJson.pyEq value (.int 0)

/-- `Decimal(text).is_zero()`, or `False` when it is no number. -/
def isZeroText (text : String) : Bool :=
  match Decimal.parse? text with
  | some (.finite number) => number.isZero
  | _ => false

/-- `_is_numeric_zero`. -/
def isNumericZero : PyJson → Bool
  | .int value => value == 0
  | value => value.isTextWith isZeroText

/-- The presentation of the number zero. -/
def zeroPresentation (value : PyJson) : Presentation :=
  ⟨"Valid numeric zero", "valid-zero", PyStr.ofString "Valid result with numeric value zero.",
    valueText value, true⟩

/-- The presentation of a record. -/
def present (record : PyObject) : ViewResult Presentation :=
  let state := PyJson.get record "state"
  let value := PyJson.get record "value"
  if state.isText "VALID" then
    if isPlainZero value then .ok (zeroPresentation value)
    else .ok ⟨"Valid", "valid",
      PyStr.ofString "Valid result: " ++ valueText value ++ PyStr.ofString ".", valueText value,
      false⟩
  else do
    let presentation ← requireSome
      (statePresentations.find? fun presentation => state.isText presentation.state) .keyError
    return ⟨presentation.label, presentation.token, PyStr.ofString presentation.summary,
      PyStr.ofString "—", false⟩

/-! ### Views -/

/-- `UX_SCHEMA_VERSION`. -/
def uxSchemaVersion : String := "quantum-ux-view-v1"

/-- The id of a view. -/
def viewId (kind : String) (record : PyObject) : PyJson :=
  .str (PyStr.ofString kind ++ textOf (PyJson.get record "report_record_id"))

/-- The members of a view of a record. -/
def viewMembers (record : PyObject) (presentation : Presentation) : List (String × PyJson) :=
  [("schema_version", .ofText uxSchemaVersion), ("view_type", .ofText "METRIC_RESULT"),
    ("view_id", viewId "ux:" record), ("organization_id", PyJson.get record "organization_id"),
    ("mode", PyJson.get record "mode"), ("scenario_id", PyJson.get record "scenario_id"),
    ("metric_snapshot_id", PyJson.get record "metric_snapshot_id"),
    ("state", PyJson.get record "state"), ("status_label", .ofText presentation.label),
    ("status_token", .ofText presentation.token), ("semantic_role", .ofText "status"),
    ("accessible_summary", .str presentation.summary), ("value_text", .str presentation.valueText),
    ("is_numeric_zero", .bool presentation.isNumericZero),
    ("reason_code", PyJson.get record "reason_code"),
    ("publication_state", PyJson.get record "publication_state"),
    ("evidence_available", .bool !(PyJson.get record "evidence_chain_content_hash").isNone),
    ("limitations", .arr (Evidence.itemsOf (PyJson.get record "limitations"))),
    ("view_hash", .ofText "")]

/-- The members of a drilldown. -/
def drilldownMembers (record : PyObject) (evidenceChainRef : PyJson) : List (String × PyJson) :=
  let verified := (PyJson.get record "publication_state").isText "EVIDENCE_VERIFIED"
  [("schema_version", .ofText uxSchemaVersion), ("view_type", .ofText "EVIDENCE_DRILLDOWN"),
    ("view_id", viewId "ux:evidence:" record),
    ("organization_id", PyJson.get record "organization_id"), ("mode", PyJson.get record "mode"),
    ("scenario_id", PyJson.get record "scenario_id"),
    ("metric_snapshot_id", PyJson.get record "metric_snapshot_id"),
    ("metric_content_hash", PyJson.get record "metric_content_hash"),
    ("evidence_chain_ref", evidenceChainRef),
    ("evidence_chain_content_hash", PyJson.get record "evidence_chain_content_hash"),
    ("verification_status", .ofText (if verified then "VERIFIED" else "PREVIEW_ONLY")),
    ("can_claim_verified_evidence", .bool verified),
    ("limitations", .arr (Evidence.itemsOf (PyJson.get record "limitations"))),
    ("view_hash", .ofText "")]

section Render

variable (interpreter : Interpreter)

/-- A view with its digest. -/
def sealView (view : PyObject) : ViewResult PyObject := do
  let viewHash ← ofUx (canonicalHash interpreter view "view_hash")
  return setMember view "view_hash" (.ofText viewHash)

/-- A record that is validated before it is shown. -/
def validRecord (record : PyJson) : ViewResult PyObject := ofUx do
  validateRecord interpreter record
  -- a valid record is a mapping
  mappingOf record .uxJsonInvalid

/-- `render_report_record` of the runtime. -/
def renderRuntimeRecord (record : PyJson) : ViewResult PyObject := do
  let record ← validRecord interpreter record
  require ((PyJson.get record "state").isAllowedString Reporting.states = true) .typedStateInvalid
  let presentation ← present record
  sealView interpreter (membersOf (viewMembers record presentation))

/-- The view of the number zero. -/
def writeZero (view : PyObject) (value : PyJson) : PyObject :=
  let presentation := zeroPresentation value
  setMember (setMember (setMember (setMember (setMember view
    "status_label" (.ofText presentation.label)) "status_token" (.ofText presentation.token))
    "accessible_summary" (.str presentation.summary)) "value_text" (.str presentation.valueText))
    "is_numeric_zero" (.bool true)

/-- `render_report_record`. -/
def renderReportRecord (record : PyJson) : ViewResult PyObject := do
  let view ← renderRuntimeRecord interpreter record
  let value := memberOf "value" record
  if (PyJson.get view "state").isText "VALID" && isNumericZero value then
    let view := writeZero view value
    let viewHash ← (Evidence.canonicalHash interpreter view "view_hash").mapError .encoder
    return setMember view "view_hash" (.ofText viewHash)
  else return view

/-- `build_report_drilldown`. -/
def buildReportDrilldown (record : PyJson) : ViewResult PyObject := do
  let record ← validRecord interpreter record
  let evidenceChainRef ← ofUx (cloneJson interpreter (PyJson.get record "evidence_chain_ref"))
  sealView interpreter (membersOf (drilldownMembers record evidenceChainRef))

/-- `validate_ux_hash`. -/
def validateUxHash (document : PyJson) (hashField : String) : ViewResult Unit :=
  match document with
  | .obj fields => do
      require ((PyJson.get fields hashField).isHash = true) .hashInvalid
      let expected ← ofUx (canonicalHash interpreter fields hashField)
      require ((PyJson.get fields hashField).isText expected = true) .hashMismatch
  | _ => .error .hashInvalid

end Render

end Ux
end QuantumAnalytics
