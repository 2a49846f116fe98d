import QuantumAnalytics.Evidence.Snapshots
import QuantumAnalytics.Foundations.Members
import QuantumAnalytics.Reporting.Exports

/-!
# Building report records

`build_report_record` makes a report record of a verified metric snapshot. With
an evidence chain that is verified and whose root is the snapshot, the record is
published as verified; without one it is a preview.
-/

namespace QuantumAnalytics
namespace Reporting

open Evidence (verifyMetricSnapshot verifyEvidenceChain SnapshotDiagnostic EvidenceDiagnostic
  itemsOf)
open PyJson (setMember)

/-- What building a record raises. -/
inductive BuildFailure
  /-- `REPORT_RECORD_ID_INVALID`. -/
  | recordIdInvalid
  /-- `REPORT_SNAPSHOT_INVALID` with the first diagnostic of the snapshot. -/
  | snapshotInvalid (first : SnapshotDiagnostic)
  /-- `REPORT_EVIDENCE_INVALID` with the first diagnostic of the chain. -/
  | evidenceInvalid (first : EvidenceDiagnostic)
  /-- `REPORT_EVIDENCE_BINDING_MISMATCH`. -/
  | evidenceBindingMismatch
  /-- What a verifier raises. -/
  | verifier (failure : PyJson.DumpsError)
  /-- What the encoder and the validator of records raise. -/
  | reporting (failure : ReportingFailure)
  deriving DecidableEq

/-- A record or what is raised. -/
abbrev BuildResult := Except BuildFailure

/-- A call that may raise what a report function raises. -/
def ofReporting {α : Type} (result : Result α) : BuildResult α := result.mapError .reporting

/-- `if errors: raise`, with the first of the diagnostics. -/
def requireVerified {δ : Type} (errors : Except PyJson.DumpsError (List δ))
    (failure : δ → BuildFailure) : BuildResult Unit := do
  match ← errors.mapError .verifier with
  | [] => return ()
  | first :: _ => .error (failure first)

/-- The members of a mapping. -/
def membersIn : PyJson → PyObject
  | .obj fields => fields
  | _ => []

/-- The value is a mapping. -/
def isMapping : PyJson → Bool
  | .obj _ => true
  | _ => false

section Build

variable (interpreter : Interpreter)

/-- The chain is the one that the snapshot names, and its root is the snapshot. -/
def isBound (snapshot : PyObject) (evidenceChain : PyJson) : Bool :=
  let ref := PyJson.get snapshot "evidence_chain_ref"
  let rootRef := memberOf "root_metric_snapshot_ref" evidenceChain
  PyJson.pyEq (memberOf "evidence_chain_id" evidenceChain) (memberOf "id" ref) &&
    PyJson.pyEq (memberOf "version" evidenceChain) (memberOf "version" ref) &&
    (["organization_id", "mode", "scenario_id"].all fun field =>
      PyJson.pyEq (memberOf field evidenceChain) (PyJson.get snapshot field)) &&
    isMapping rootRef &&
    PyJson.pyEq (memberOf "id" rootRef) (PyJson.get snapshot "metric_snapshot_id") &&
    PyJson.pyEq (memberOf "version" rootRef) (PyJson.get snapshot "snapshot_revision") &&
    PyJson.pyEq (memberOf "content_hash" rootRef) (PyJson.get snapshot "content_hash")

/-- `_validate_evidence_binding`. -/
def validateEvidenceBinding (snapshot : PyObject) (evidenceChain : PyJson) : BuildResult Unit := do
  requireVerified (verifyEvidenceChain interpreter ⟨none, false⟩ evidenceChain) .evidenceInvalid
  require (isBound snapshot evidenceChain = true) .evidenceBindingMismatch

/-- What a record says of its evidence. -/
structure Publication where
  state : String
  chainHash : PyJson
  limitations : List PyJson

/-- The publication of a snapshot with an evidence chain or without one. -/
def publish (snapshot : PyObject) : Option PyJson → BuildResult Publication
  | some evidenceChain => do
      validateEvidenceBinding interpreter snapshot evidenceChain
      -- the content hash of a verified chain is a string
      return ⟨"EVIDENCE_VERIFIED", memberOf "content_hash" evidenceChain,
        (itemsOf (PyJson.get snapshot "limitations")).filter fun item => !item.isText notVerified⟩
  | none =>
      let limitations := itemsOf (PyJson.get snapshot "limitations")
      .ok ⟨"PREVIEW_ONLY", .null,
        if limitations.any fun item => item.isText notVerified then limitations
        else limitations ++ [.ofText notVerified]⟩

/-- The freshness of a record. -/
def freshnessMembers (snapshot : PyObject) : List (String × PyJson) :=
  [("state", PyJson.get snapshot "data_freshness_state"),
    ("observed_at", PyJson.get snapshot "freshness_observed_at"),
    ("deadline", PyJson.get snapshot "freshness_deadline")]

/-- The confidence of a record. -/
def confidenceMembers (snapshot : PyObject) : List (String × PyJson) :=
  [("state", PyJson.get snapshot "confidence_state"),
    ("reasons", .arr (itemsOf (PyJson.get snapshot "confidence_reasons")))]

/-- The members of a record before its digest is known. -/
def recordMembers (snapshot : PyObject) (reportRecordId : PyJson) (publication : Publication)
    (evidenceChainRef rounding generatedAt : PyJson) : List (String × PyJson) :=
  let field := PyJson.get snapshot
  [("report_record_id", reportRecordId), ("schema_version", .ofText reportSchemaVersion),
    ("organization_id", field "organization_id"),
    ("marketplace_account_id", field "marketplace_account_id"), ("mode", field "mode"),
    ("scenario_id", field "scenario_id"), ("accounting_view", field "accounting_view"),
    ("metric_snapshot_id", field "metric_snapshot_id"),
    ("snapshot_revision", field "snapshot_revision"),
    ("metric_content_hash", field "content_hash"), ("evidence_chain_ref", evidenceChainRef),
    ("evidence_chain_content_hash", publication.chainHash), ("state", field "state"),
    ("value", field "value"), ("value_type", field "value_type"), ("unit", field "unit"),
    ("currency", field "currency"), ("reason_code", field "reason_code"),
    ("expense_boundary", .arr (itemsOf (field "expense_boundary"))), ("rounding", rounding),
    ("freshness", .obj (membersOf (freshnessMembers snapshot))),
    ("confidence", .obj (membersOf (confidenceMembers snapshot))),
    ("limitations", .arr publication.limitations),
    ("publication_state", .ofText publication.state), ("generated_at", generatedAt),
    ("record_hash", .ofText "")]

/-- A record with its digest, which is validated. -/
def sealRecord (record : PyObject) : Result PyJson := do
  let recordHash ← canonicalHash interpreter record "record_hash"
  let record := PyJson.obj (setMember record "record_hash" (.ofText recordHash))
  validateReportRecord interpreter record
  return record

/-- `build_report_record`. -/
def buildReportRecord (snapshot reportRecordId : PyJson) (generatedAt : GeneratedAt)
    (evidenceChain : Option PyJson) : BuildResult PyJson := do
  require (reportRecordId.isNonemptyString = true) .recordIdInvalid
  requireVerified (verifyMetricSnapshot interpreter snapshot) .snapshotInvalid
  -- a verified snapshot is a mapping
  let snapshot := membersIn snapshot
  let publication ← publish interpreter snapshot evidenceChain
  let evidenceChainRef ← ofReporting (cloneJson interpreter (PyJson.get snapshot
    "evidence_chain_ref"))
  let rounding ← ofReporting (cloneJson interpreter (PyJson.get snapshot "rounding"))
  let generatedAt ← ofReporting generatedAt.read
  ofReporting (sealRecord interpreter (membersOf (recordMembers snapshot reportRecordId publication
    evidenceChainRef rounding generatedAt)))

end Build

end Reporting
end QuantumAnalytics
