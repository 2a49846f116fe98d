import QuantumAnalytics.Admission.Contracts
import QuantumAnalytics.Foundations.Dict

/-!
# The admission registry

The state of the registry and its calls. A call returns a record or a failure,
together with the registry that it leaves behind: an inspection can store a
record before it fails.
-/

namespace QuantumAnalytics
namespace Admission

/-- `RealDatasetAdmissionRegistryV2`. -/
structure RealDatasetAdmissionRegistry where
  /-- The records by tenant and dataset. -/
  records : Dict (String × String) DatasetAdmissionRecord
  /-- The dataset of an original file. -/
  originalDigestOwners : Dict (String × String) String
  /-- The dataset of a report. -/
  sourceIdentityOwners : Dict SourceKey String
  /-- The dataset of a workbook. -/
  workbookDigestOwners : Dict (String × String) String
  /-- The dataset of an evidence about data. -/
  datasetEvidenceIdOwners : Dict (String × String) String
  /-- The dataset of an evidence about storage. -/
  storageEvidenceIdOwners : Dict (String × String) String

namespace RealDatasetAdmissionRegistry

/-- The registry without records. -/
def empty : RealDatasetAdmissionRegistry :=
  ⟨Dict.empty, Dict.empty, Dict.empty, Dict.empty, Dict.empty, Dict.empty⟩

/-- `existing is not None and existing != dataset_id`. -/
def isTaken {κ : Type} [DecidableEq κ] (owners : Dict κ String) (key : κ) (datasetId : String) :
    Bool :=
  (owners.get? key).any fun owner => owner ≠ datasetId

/-- `get`. -/
def get (registry : RealDatasetAdmissionRegistry) (tenant : AccountContext) (datasetId : String) :
    Result DatasetAdmissionRecord := do
  let normalized ← canonicalId datasetId .datasetIdInvalid
  let record ← requireSome (registry.records.get? (tenant.tenantId, normalized))
    (.admission .datasetNotFound)
  check (tenant.accountId = record.declaration.uploaderAccountId) .datasetNotFound
  return record

/-- Store a record of the tenant. -/
def put
    (registry : RealDatasetAdmissionRegistry)
    (tenant : AccountContext)
    (record : DatasetAdmissionRecord) : RealDatasetAdmissionRegistry :=
  { registry with
    records := registry.records.set (tenant.tenantId, record.declaration.datasetId) record }

/-- Store a record that could be made and return it. -/
def commit
    (registry : RealDatasetAdmissionRegistry)
    (tenant : AccountContext)
    (updated : Result DatasetAdmissionRecord) :
    Result DatasetAdmissionRecord × RealDatasetAdmissionRegistry :=
  match updated with
  | .error failure => (.error failure, registry)
  | .ok record => (.ok record, registry.put tenant record)

/-! ### Declaration -/

/-- The checks of `declare` before the registry is read: the declaration with
its canonical id. -/
def scopedDeclaration (tenant : AccountContext) (declaration : DatasetDeclaration) :
    Result DatasetDeclaration := do
  check (tenant.tenantId = declaration.tenantId) .datasetNotFound
  check (tenant.accountId = declaration.uploaderAccountId) .datasetUploaderScopeMismatch
  return declaration.withDatasetId (← canonicalId declaration.datasetId .datasetIdInvalid)

/-- The record of a new dataset. -/
def newRecord
    (registry : RealDatasetAdmissionRegistry)
    (tenant : AccountContext)
    (declaration : DatasetDeclaration) : Result DatasetAdmissionRecord := do
  check (isTaken registry.originalDigestOwners (tenant.tenantId, declaration.originalFileSha256)
    declaration.datasetId = false) .datasetOriginalReplayDetected
  check (isTaken registry.sourceIdentityOwners declaration.sourceKey declaration.datasetId = false)
    .datasetSourceReplayDetected
  let made ← decision .declared tenant.accountId declaration.declaredAt "DATASET_DECLARED" []
  return ⟨declaration, .declared, none, none, none, none, [], none, none, none, [made]⟩

/-- Store the record of a new dataset and claim its file and its source. -/
def putNew
    (registry : RealDatasetAdmissionRegistry)
    (tenant : AccountContext)
    (record : DatasetAdmissionRecord) : RealDatasetAdmissionRegistry :=
  { registry.put tenant record with
    originalDigestOwners := registry.originalDigestOwners.set
      (tenant.tenantId, record.declaration.originalFileSha256) record.declaration.datasetId
    sourceIdentityOwners := registry.sourceIdentityOwners.set record.declaration.sourceKey
      record.declaration.datasetId }

/-- `declare`. -/
def declare
    (registry : RealDatasetAdmissionRegistry)
    (tenant : AccountContext)
    (declaration : DatasetDeclaration) :
    Result DatasetAdmissionRecord × RealDatasetAdmissionRegistry :=
  match scopedDeclaration tenant declaration with
  | .error failure => (.error failure, registry)
  | .ok declaration =>
      match registry.records.get? (tenant.tenantId, declaration.datasetId) with
      | some existing =>
          if existing.declaration.pyEq declaration = true then (.ok existing, registry)
          else (.error (.admission .datasetDeclarationConflict), registry)
      | none =>
          match registry.newRecord tenant declaration with
          | .error failure => (.error failure, registry)
          | .ok record => (.ok record, registry.putNew tenant record)

/-! ### Inspection -/

/-- The record that is inspected at a time. A declared record is quarantined and
has to be stored. -/
def openInspection
    (registry : RealDatasetAdmissionRegistry)
    (tenant : AccountContext)
    (datasetId : String)
    (policy : XlsxInspectionPolicy)
    (observedAt : DateTime) : Result (DatasetAdmissionRecord × DateTime × Bool) := do
  let observed ← awareUtc observedAt .datasetInspectionTimezoneRequired
  let record ← registry.get tenant datasetId
  record.requireMonotonicTime observed
  match record.state with
  | .declared =>
      let quarantined ← record.transition .quarantined tenant.accountId observed
        "DATASET_QUARANTINED_FOR_VALIDATION" []
      return (quarantined.withPolicy policy, observed, true)
  | .quarantined => return (record.withPolicy policy, observed, false)
  | _ => .error (.admission .datasetStateTransitionInvalid)

/-- Inspect the bytes of an upload: a report, or the code of a rejection. -/
def inspectPayload
    (inspector : XlsxPackageInspector)
    (declaration : DatasetDeclaration)
    (payload : List UInt8)
    (policy : XlsxInspectionPolicy) : Result (Except String XlsxPackageInspection) :=
  if payload = [] then .ok (.error "DATASET_BYTES_REQUIRED")
  else if Sha256.hexdigestOfBytes payload ≠ declaration.originalFileSha256 ∨
      payload.length ≠ declaration.originalSizeBytes then
    .ok (.error "DATASET_ORIGINAL_FILE_MISMATCH")
  else
    match inspector payload policy with
    | .ok inspection => .ok (.ok inspection)
    | .error (.inspection code) => .ok (.error code)
    | .error .other => .error .inspector

/-- `_reject_locked`. -/
def rejectLocked
    (registry : RealDatasetAdmissionRegistry)
    (tenant : AccountContext)
    (record : DatasetAdmissionRecord)
    (code : String)
    (at_ : DateTime) : Result DatasetAdmissionRecord × RealDatasetAdmissionRegistry :=
  registry.commit tenant (record.transition .rejected tenant.accountId at_ code [code])

/-- `_claim_workbook_digest`, when the workbook is not taken. -/
def claimWorkbookDigest
    (registry : RealDatasetAdmissionRegistry)
    (tenant : AccountContext)
    (datasetId workbookSha256 : String) : RealDatasetAdmissionRegistry :=
  { registry with
    workbookDigestOwners :=
      registry.workbookDigestOwners.set (tenant.tenantId, workbookSha256) datasetId }

/-- The objections to an inspected dataset, sorted and without repetition. -/
def objections (declaration : DatasetDeclaration) (inspection : XlsxPackageInspection) :
    List String :=
  let rowCount := if declaration.expectedRowCount.any fun rows => rows ≠ inspection.dataRowCount
    then ["DATASET_CONTROL_ROW_COUNT_MISMATCH"] else []
  (inspection.diagnostics ++ rowCount).dedup.insertionSort (· ≤ ·)

/-- Block or validate a dataset, by the objections to it. -/
def blockOrValidate
    (tenant : AccountContext)
    (record : DatasetAdmissionRecord)
    (found : List String)
    (observed : DateTime) : Result DatasetAdmissionRecord :=
  if found ≠ [] then
    record.recordSameStateDecision tenant.accountId observed "DATASET_VALIDATION_BLOCKED" found
  else record.transition .validated tenant.accountId observed "DATASET_VALIDATED" []

/-- The record after a completed inspection. -/
def inspectedRecord
    (tenant : AccountContext)
    (record : DatasetAdmissionRecord)
    (inspection : XlsxPackageInspection)
    (observed : DateTime) : Result DatasetAdmissionRecord := do
  let updated ← blockOrValidate tenant record (objections record.declaration inspection) observed
  return { updated with inspection := some inspection }

/-- What `inspect_and_validate` does after the record is opened. -/
def concludeInspection
    (inspector : XlsxPackageInspector)
    (registry : RealDatasetAdmissionRegistry)
    (tenant : AccountContext)
    (record : DatasetAdmissionRecord)
    (payload : List UInt8)
    (policy : XlsxInspectionPolicy)
    (observed : DateTime) : Result DatasetAdmissionRecord × RealDatasetAdmissionRegistry :=
  match inspectPayload inspector record.declaration payload policy with
  | .error failure => (.error failure, registry)
  | .ok (.error code) => registry.rejectLocked tenant record code observed
  | .ok (.ok inspection) =>
      if isTaken registry.workbookDigestOwners (tenant.tenantId, inspection.workbookSha256)
          record.declaration.datasetId = true then
        registry.rejectLocked tenant record "DATASET_WORKBOOK_REPLAY_DETECTED" observed
      else
        (registry.claimWorkbookDigest tenant record.declaration.datasetId
          inspection.workbookSha256).commit tenant
            (inspectedRecord tenant record inspection observed)

/-- `inspect_and_validate`. -/
def inspectAndValidate
    (inspector : XlsxPackageInspector)
    (registry : RealDatasetAdmissionRegistry)
    (tenant : AccountContext)
    (datasetId : String)
    (payload : List UInt8)
    (policy : XlsxInspectionPolicy)
    (observedAt : DateTime) : Result DatasetAdmissionRecord × RealDatasetAdmissionRegistry :=
  match registry.openInspection tenant datasetId policy observedAt with
  | .error failure => (.error failure, registry)
  | .ok (record, observed, mustStore) =>
      concludeInspection inspector (if mustStore then registry.put tenant record else registry)
        tenant record payload policy observed

/-! ### Admission -/

/-- `require_evidence_binding`. -/
def requireEvidenceBinding
    (record : DatasetAdmissionRecord)
    (datasetEvidence : DatasetControlEvidence)
    (storageEvidence : StorageControlEvidence) : Result Unit := do
  let declaration := record.declaration
  check (datasetEvidence.verifierAccountId ≠ declaration.uploaderAccountId)
    .datasetEvidenceNotIndependent
  check (storageEvidence.verifierAccountId ≠ declaration.uploaderAccountId)
    .storageEvidenceNotIndependent
  let inspection ← requireSome (record.inspection.filter XlsxPackageInspection.matched)
    (.admission .datasetValidationEvidenceMissing)
  check ((← canonicalId datasetEvidence.datasetId .datasetEvidenceDatasetInvalid) =
    declaration.datasetId) .datasetEvidenceDatasetMismatch
  check (datasetEvidence.originalFileSha256 = declaration.originalFileSha256)
    .datasetEvidenceFileMismatch
  check (datasetEvidence.ownerAuthorityReference = declaration.ownerAuthorityReference)
    .datasetEvidenceAuthorityMismatch
  check (datasetEvidence.reportingPeriodStart = declaration.reportingPeriodStart ∧
    datasetEvidence.reportingPeriodEnd = declaration.reportingPeriodEnd ∧
    datasetEvidence.timezone = declaration.timezone) .datasetEvidencePeriodMismatch
  check (datasetEvidence.controlTotalsSha256 = declaration.controlTotalsSha256)
    .datasetEvidenceControlTotalsMismatch
  check (some datasetEvidence.policyContentHash = record.policyContentHash)
    .datasetEvidencePolicyMismatch
  check (datasetEvidence.workbookSha256 = inspection.workbookSha256)
    .datasetEvidenceWorkbookMismatch
  check (datasetEvidence.structuralFingerprintSha256 = inspection.structuralFingerprintSha256)
    .datasetEvidenceFingerprintMismatch
  check (some datasetEvidence.matchedSchemaId = inspection.matchedSchemaId ∧
    some datasetEvidence.matchedSchemaVersion = inspection.matchedSchemaVersion ∧
    some datasetEvidence.matchedSchemaAuthorityReference =
      inspection.matchedSchemaAuthorityReference) .datasetEvidenceSchemaMismatch
  check ((← canonicalId storageEvidence.datasetId .storageEvidenceDatasetInvalid) =
    declaration.datasetId) .storageEvidenceDatasetMismatch
  check (storageEvidence.originalFileSha256 = declaration.originalFileSha256)
    .storageEvidenceFileMismatch

/-- `require_evidence_times`. -/
def requireEvidenceTimes
    (record : DatasetAdmissionRecord)
    (datasetEvidence : DatasetControlEvidence)
    (storageEvidence : StorageControlEvidence)
    (admittedAt : DateTime) : Result Unit := do
  let validation ← record.latestDecision
  let datasetVerified ← awareUtc datasetEvidence.verifiedAt .datasetEvidenceTimezoneRequired
  let storageVerified ← awareUtc storageEvidence.verifiedAt .storageEvidenceTimezoneRequired
  check (¬datasetVerified.instant < validation.decidedAt.instant) .datasetEvidenceStale
  check (¬storageVerified.instant < validation.decidedAt.instant) .storageEvidenceStale
  check (¬admittedAt.instant < datasetVerified.instant) .datasetEvidenceFromFuture
  check (¬admittedAt.instant < storageVerified.instant) .storageEvidenceFromFuture

/-- `finalize_validated_record`, up to its writes. -/
def finalizeValidatedRecord
    (registry : RealDatasetAdmissionRegistry)
    (tenant : AccountContext)
    (record : DatasetAdmissionRecord)
    (datasetControl : DatasetControlEvidence)
    (storageControl : StorageControlEvidence)
    (decidedAt : DateTime) : Result DatasetAdmissionRecord := do
  check (record.state = .validated) .datasetNotValidated
  let deadline ← awareUtc record.declaration.retentionDeadline .datasetRetentionTimezoneRequired
  check (decidedAt.instant < deadline.instant) .datasetRetentionExpired
  requireEvidenceBinding record datasetControl storageControl
  requireEvidenceTimes record datasetControl storageControl decidedAt
  check (isTaken registry.datasetEvidenceIdOwners (tenant.tenantId, datasetControl.evidenceId)
    record.declaration.datasetId = false) .datasetEvidenceReplayDetected
  check (isTaken registry.storageEvidenceIdOwners (tenant.tenantId, storageControl.evidenceId)
    record.declaration.datasetId = false) .storageEvidenceReplayDetected
  let updated ← record.transition .admitted tenant.accountId decidedAt "DATASET_ADMITTED" []
  return { updated with
    datasetControlEvidenceId := some datasetControl.evidenceId
    storageEvidenceId := some storageControl.evidenceId
    storageKeySha256 := some storageControl.storageKeySha256 }

/-- The checks of `admit`: the admitted record. -/
def admittedRecord
    (registry : RealDatasetAdmissionRegistry)
    (tenant : AccountContext)
    (datasetId : String)
    (datasetControl : DatasetControlEvidence)
    (storageControl : StorageControlEvidence)
    (admittedAt : DateTime) : Result DatasetAdmissionRecord := do
  let current ← awareUtc admittedAt .datasetAdmissionTimezoneRequired
  check (tenant.tenantId = datasetControl.tenantId) .datasetNotFound
  check (tenant.tenantId = storageControl.tenantId) .datasetNotFound
  check (datasetControl.complete = true) .datasetControlsIncomplete
  check (storageControl.complete = true) .storageControlsIncomplete
  let record ← registry.get tenant datasetId
  record.requireMonotonicTime current
  registry.finalizeValidatedRecord tenant record datasetControl storageControl current

/-- Store an admitted record and claim its evidence. -/
def putAdmitted
    (registry : RealDatasetAdmissionRegistry)
    (tenant : AccountContext)
    (record : DatasetAdmissionRecord)
    (datasetControl : DatasetControlEvidence)
    (storageControl : StorageControlEvidence) : RealDatasetAdmissionRegistry :=
  { registry.put tenant record with
    datasetEvidenceIdOwners := registry.datasetEvidenceIdOwners.set
      (tenant.tenantId, datasetControl.evidenceId) record.declaration.datasetId
    storageEvidenceIdOwners := registry.storageEvidenceIdOwners.set
      (tenant.tenantId, storageControl.evidenceId) record.declaration.datasetId }

/-- `admit`. -/
def admitDataset
    (registry : RealDatasetAdmissionRegistry)
    (tenant : AccountContext)
    (datasetId : String)
    (datasetControl : DatasetControlEvidence)
    (storageControl : StorageControlEvidence)
    (admittedAt : DateTime) : Result DatasetAdmissionRecord × RealDatasetAdmissionRegistry :=
  match registry.admittedRecord tenant datasetId datasetControl storageControl admittedAt with
  | .error failure => (.error failure, registry)
  | .ok record => (.ok record, registry.putAdmitted tenant record datasetControl storageControl)

/-! ### Access -/

/-- The checks of `revoke`: the revoked record. -/
def revokedRecord
    (registry : RealDatasetAdmissionRegistry)
    (tenant : AccountContext)
    (datasetId reasonCode : String)
    (revokedAt : DateTime) : Result DatasetAdmissionRecord := do
  let current ← awareUtc revokedAt .datasetRevocationTimezoneRequired
  check (isSafeIdentifier reasonCode = true) .datasetRevocationReasonInvalid
  let record ← registry.get tenant datasetId
  record.requireMonotonicTime current
  check (record.state = .admitted) .datasetNotAdmitted
  record.transition .revoked tenant.accountId current reasonCode []

/-- `revoke`. -/
def revoke
    (registry : RealDatasetAdmissionRegistry)
    (tenant : AccountContext)
    (datasetId reasonCode : String)
    (revokedAt : DateTime) : Result DatasetAdmissionRecord × RealDatasetAdmissionRegistry :=
  registry.commit tenant (registry.revokedRecord tenant datasetId reasonCode revokedAt)

/-- `require_admitted`. -/
def requireAdmitted
    (registry : RealDatasetAdmissionRegistry)
    (tenant : AccountContext)
    (datasetId : String)
    (asOf : DateTime) : Result DatasetAdmissionRecord := do
  let current ← awareUtc asOf .datasetAccessTimezoneRequired
  let record ← registry.get tenant datasetId
  check (record.state = .admitted) .datasetNotAdmitted
  let latest ← record.latestDecision
  check (¬current.instant < latest.decidedAt.instant) .datasetNotAdmittedAtTime
  let deadline ← awareUtc record.declaration.retentionDeadline .datasetRetentionTimezoneRequired
  check (current.instant < deadline.instant) .datasetRetentionExpired
  return record

/-! ### Runs -/

/-- A call of the registry. -/
inductive Call
  | declare (tenant : AccountContext) (declaration : DatasetDeclaration)
  | inspectAndValidate (tenant : AccountContext) (datasetId : String) (payload : List UInt8)
      (policy : XlsxInspectionPolicy) (observedAt : DateTime)
  | admitDataset (tenant : AccountContext) (datasetId : String) (datasetControl : DatasetControlEvidence)
      (storageControl : StorageControlEvidence) (admittedAt : DateTime)
  | revoke (tenant : AccountContext) (datasetId reasonCode : String) (revokedAt : DateTime)

/-- The outcome of a call and the registry after it. -/
def perform (inspector : XlsxPackageInspector) (registry : RealDatasetAdmissionRegistry) :
    Call → Result DatasetAdmissionRecord × RealDatasetAdmissionRegistry
  | .declare tenant declaration => registry.declare tenant declaration
  | .inspectAndValidate tenant datasetId payload policy observedAt =>
      inspectAndValidate inspector registry tenant datasetId payload policy observedAt
  | .admitDataset tenant datasetId datasetControl storageControl admittedAt =>
      registry.admitDataset tenant datasetId datasetControl storageControl admittedAt
  | .revoke tenant datasetId reasonCode revokedAt =>
      registry.revoke tenant datasetId reasonCode revokedAt

/-- The registry after some calls, accepted or rejected. -/
def afterCalls (inspector : XlsxPackageInspector) (calls : List Call) :
    RealDatasetAdmissionRegistry :=
  calls.foldl (fun registry call => (registry.perform inspector call).2) empty

theorem afterCalls_append
    (inspector : XlsxPackageInspector)
    (calls : List Call)
    (call : Call) :
    afterCalls inspector (calls ++ [call]) =
      ((afterCalls inspector calls).perform inspector call).2 := by
  simp [afterCalls]

end RealDatasetAdmissionRegistry
end Admission
end QuantumAnalytics
