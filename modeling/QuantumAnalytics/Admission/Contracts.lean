import QuantumAnalytics.Finance.Common
import QuantumAnalytics.Foundations.Instants
import QuantumAnalytics.Ledger.Basic
import QuantumAnalytics.Xlsx.Contracts

/-!
# Records of dataset admission

The declaration of a dataset, the evidence for its admission, the decisions that
were made about it, and the record that collects them. Declarations, evidence
and decisions carry the checks of their constructors.
-/

namespace QuantumAnalytics
namespace Admission

/-- `DatasetAdmissionState`. -/
inductive DatasetAdmissionState
  | declared
  | quarantined
  | validated
  | admitted
  | rejected
  | revoked
  deriving DecidableEq

/-- `_ALLOWED_TRANSITIONS`. -/
def DatasetAdmissionState.allowedTransitions :
    DatasetAdmissionState → List DatasetAdmissionState
  | declared => [quarantined, rejected]
  | quarantined => [validated, rejected]
  | validated => [admitted, rejected]
  | admitted => [revoked]
  | rejected => []
  | revoked => []

/-- The codes that `AdmissionError` carries. -/
inductive AdmissionErrorCode
  | datasetNotFound
  | datasetUploaderScopeMismatch
  | datasetIdInvalid
  | datasetDeclarationConflict
  | datasetOriginalReplayDetected
  | datasetSourceReplayDetected
  | datasetDecisionHistoryMissing
  | datasetDecisionTimeRegression
  | datasetDecisionActorInvalid
  | datasetDecisionTimezoneRequired
  | datasetDecisionReasonInvalid
  | datasetDecisionDiagnosticsInvalid
  | datasetStateTransitionInvalid
  | datasetInspectionTimezoneRequired
  | datasetAdmissionTimezoneRequired
  | datasetControlsIncomplete
  | storageControlsIncomplete
  | datasetNotValidated
  | datasetRetentionTimezoneRequired
  | datasetRetentionExpired
  | datasetEvidenceNotIndependent
  | storageEvidenceNotIndependent
  | datasetValidationEvidenceMissing
  | datasetEvidenceDatasetInvalid
  | datasetEvidenceDatasetMismatch
  | datasetEvidenceFileMismatch
  | datasetEvidenceAuthorityMismatch
  | datasetEvidencePeriodMismatch
  | datasetEvidenceControlTotalsMismatch
  | datasetEvidencePolicyMismatch
  | datasetEvidenceWorkbookMismatch
  | datasetEvidenceFingerprintMismatch
  | datasetEvidenceSchemaMismatch
  | storageEvidenceDatasetInvalid
  | storageEvidenceDatasetMismatch
  | storageEvidenceFileMismatch
  | datasetEvidenceTimezoneRequired
  | storageEvidenceTimezoneRequired
  | datasetEvidenceStale
  | storageEvidenceStale
  | datasetEvidenceFromFuture
  | storageEvidenceFromFuture
  | datasetEvidenceReplayDetected
  | storageEvidenceReplayDetected
  | datasetRevocationTimezoneRequired
  | datasetRevocationReasonInvalid
  | datasetNotAdmitted
  | datasetNotAdmittedAtTime
  | datasetAccessTimezoneRequired
  deriving DecidableEq

/-- How a call of the registry fails: an `AdmissionError`, the `OverflowError`
of a time that has no UTC form, or another exception of the inspector. -/
inductive AdmissionFailure
  | admission (code : AdmissionErrorCode)
  | overflow
  | inspector
  deriving DecidableEq

/-- A result of a call or its failure. -/
abbrev Result := Except AdmissionFailure

/-- `raise AdmissionError(code)` unless a condition holds. -/
abbrev check (condition : Prop) [Decidable condition] (code : AdmissionErrorCode) : Result Unit :=
  require condition (.admission code)

/-- `_SAFE_IDENTIFIER`. -/
def isSafeIdentifier (text : String) : Bool :=
  match text.toList with
  | [] => false
  | c :: rest =>
      Finance.isAlphanumeric c && rest.length ≤ 159 &&
        rest.all fun d => Finance.isAlphanumeric d || Finance.isJoiner d

/-- `_aware_utc`. -/
def awareUtc (value : DateTime) (code : AdmissionErrorCode) : Result DateTime := do
  check (value.isAware = true) code
  requireSome value.toUtc? .overflow

/-- `_uuid`. -/
def canonicalId (value : String) (code : AdmissionErrorCode) : Result String :=
  requireSome (PyText.canonicalUuid? value) (.admission code)

theorem awareUtc_instant
    {value utc : DateTime}
    {code : AdmissionErrorCode}
    (converted : awareUtc value code = .ok utc) : utc.instant = value.instant := by
  simp only [awareUtc, Checks.bind_done_eq_ok, Checks.requireSome_eq_ok] at converted
  exact DateTime.instant_of_toUtc? converted.2

/-- A tenant context with the account that makes a call. -/
structure AccountContext extends TenantContext where
  /-- The account. -/
  accountId : String
  /-- The id is present. -/
  accountIdNonempty : accountId ≠ ""

/-- `DatasetSensitivity`. -/
inductive DatasetSensitivity
  | commercialConfidential
  | commercialWithPersonalData
  | «public»
  deriving DecidableEq

/-- `DatasetDeclaration`, with dates by their ordinals. -/
structure DatasetDeclaration where
  /-- The dataset. -/
  datasetId : String
  /-- The tenant that owns the dataset. -/
  tenantId : String
  /-- The account that uploads it. -/
  uploaderAccountId : String
  /-- The id of the report at its source. -/
  sourceInternalId : String
  /-- The marketplace. -/
  marketplace : String
  /-- The kind of report. -/
  reportType : String
  /-- The first day of the report. -/
  reportingPeriodStart : Nat
  /-- The last day of the report. -/
  reportingPeriodEnd : Nat
  /-- The timezone of the report. -/
  timezone : String
  /-- The digest of the original file. -/
  originalFileSha256 : String
  /-- The size of the original file. -/
  originalSizeBytes : Nat
  /-- The expected number of data rows. -/
  expectedRowCount : Option Nat
  /-- The digest of the control totals. -/
  controlTotalsSha256 : Option String
  /-- What the data is about. -/
  dataCategories : List String
  /-- How sensitive the data is. -/
  sensitivity : DatasetSensitivity
  /-- Under whose authority the data is declared. -/
  ownerAuthorityReference : String
  /-- The uploader attests to the authority. -/
  lawfulAuthorityAttested : Bool
  /-- When the data must be given up. -/
  retentionDeadline : DateTime
  /-- When the declaration was made. -/
  declaredAt : DateTime
  /-- The account has a safe name. -/
  uploaderSafe : isSafeIdentifier uploaderAccountId = true
  /-- The period is not empty. -/
  periodOrdered : reportingPeriodStart ≤ reportingPeriodEnd
  /-- The file is not empty. -/
  sizePositive : 1 ≤ originalSizeBytes
  /-- Personal data is not approved. -/
  noPersonalData : sensitivity ≠ .commercialWithPersonalData
  /-- The authority is attested. -/
  attested : lawfulAuthorityAttested = true
  /-- Both times have a UTC offset. -/
  timesAware : retentionDeadline.isAware = true ∧ declaredAt.isAware = true
  /-- The data is kept after it is declared. -/
  retained : declaredAt.instant < retentionDeadline.instant

/-- The identity of a report at its source. -/
structure SourceKey where
  /-- The tenant. -/
  tenantId : String
  /-- The account that uploads the report. -/
  uploaderAccountId : String
  /-- The marketplace. -/
  marketplace : String
  /-- The kind of report. -/
  reportType : String
  /-- The id of the report at its source. -/
  sourceInternalId : String
  /-- The first day of the report. -/
  reportingPeriodStart : Nat
  /-- The last day of the report. -/
  reportingPeriodEnd : Nat
  deriving DecidableEq

namespace DatasetDeclaration

/-- `replace(declaration, dataset_id=datasetId)`. -/
def withDatasetId (declaration : DatasetDeclaration) (datasetId : String) : DatasetDeclaration :=
  { declaration with datasetId }

/-- `left == right`: times are compared as instants. -/
def pyEq (left right : DatasetDeclaration) : Bool :=
  left.datasetId == right.datasetId && left.tenantId == right.tenantId &&
    left.uploaderAccountId == right.uploaderAccountId &&
    left.sourceInternalId == right.sourceInternalId && left.marketplace == right.marketplace &&
    left.reportType == right.reportType &&
    left.reportingPeriodStart == right.reportingPeriodStart &&
    left.reportingPeriodEnd == right.reportingPeriodEnd && left.timezone == right.timezone &&
    left.originalFileSha256 == right.originalFileSha256 &&
    left.originalSizeBytes == right.originalSizeBytes &&
    left.expectedRowCount == right.expectedRowCount &&
    left.controlTotalsSha256 == right.controlTotalsSha256 &&
    left.dataCategories == right.dataCategories && left.sensitivity == right.sensitivity &&
    left.ownerAuthorityReference == right.ownerAuthorityReference &&
    left.lawfulAuthorityAttested == right.lawfulAuthorityAttested &&
    left.retentionDeadline.pyEq right.retentionDeadline &&
    left.declaredAt.pyEq right.declaredAt

/-- `source_key`. -/
def sourceKey (declaration : DatasetDeclaration) : SourceKey where
  tenantId := declaration.tenantId
  uploaderAccountId := declaration.uploaderAccountId
  marketplace := declaration.marketplace
  reportType := declaration.reportType
  sourceInternalId := declaration.sourceInternalId
  reportingPeriodStart := declaration.reportingPeriodStart
  reportingPeriodEnd := declaration.reportingPeriodEnd

end DatasetDeclaration

/-- `StorageControlEvidence`. -/
structure StorageControlEvidence where
  /-- The evidence. -/
  evidenceId : String
  /-- The tenant. -/
  tenantId : String
  /-- The dataset. -/
  datasetId : String
  /-- The digest of the original file. -/
  originalFileSha256 : String
  /-- The digest of the storage key. -/
  storageKeySha256 : String
  /-- The file is encrypted in transport. -/
  transportEncrypted : Bool
  /-- The file is encrypted at rest. -/
  encryptionAtRest : Bool
  /-- Paths are scoped to the tenant. -/
  tenantScopedPaths : Bool
  /-- The original cannot be changed. -/
  immutableOriginal : Bool
  /-- Quarantined and admitted files are kept apart. -/
  separatedQuarantineAndAdmittedZones : Bool
  /-- Credentials have the least privilege. -/
  leastPrivilegeCredentials : Bool
  /-- When the evidence was verified. -/
  verifiedAt : DateTime
  /-- Who verified it. -/
  verifierAccountId : String

/-- `evidence.complete`. -/
def StorageControlEvidence.complete (evidence : StorageControlEvidence) : Bool :=
  [evidence.transportEncrypted, evidence.encryptionAtRest, evidence.tenantScopedPaths,
    evidence.immutableOriginal, evidence.separatedQuarantineAndAdmittedZones,
    evidence.leastPrivilegeCredentials].all id

/-- `DatasetControlEvidence`, with dates by their ordinals. -/
structure DatasetControlEvidence where
  /-- The evidence. -/
  evidenceId : String
  /-- The tenant. -/
  tenantId : String
  /-- The dataset. -/
  datasetId : String
  /-- The digest of the original file. -/
  originalFileSha256 : String
  /-- Under whose authority the data was declared. -/
  ownerAuthorityReference : String
  /-- The first day of the report. -/
  reportingPeriodStart : Nat
  /-- The last day of the report. -/
  reportingPeriodEnd : Nat
  /-- The timezone of the report. -/
  timezone : String
  /-- The digest of the control totals. -/
  controlTotalsSha256 : Option String
  /-- The digest of the inspection policy. -/
  policyContentHash : String
  /-- The digest of the workbook. -/
  workbookSha256 : String
  /-- The digest of the layout. -/
  structuralFingerprintSha256 : String
  /-- The schema. -/
  matchedSchemaId : String
  /-- Its version. -/
  matchedSchemaVersion : String
  /-- Who approved it. -/
  matchedSchemaAuthorityReference : String
  /-- The source is authoritative. -/
  sourceAuthorityVerified : Bool
  /-- The period is right. -/
  reportPeriodVerified : Bool
  /-- The control totals are right. -/
  controlTotalsVerified : Bool
  /-- There is no unapproved personal data. -/
  directIdentifiersAbsentOrApproved : Bool
  /-- The file is free of malware. -/
  malwareScanClean : Bool
  /-- When the evidence was verified. -/
  verifiedAt : DateTime
  /-- Who verified it. -/
  verifierAccountId : String

/-- `evidence.complete`. -/
def DatasetControlEvidence.complete (evidence : DatasetControlEvidence) : Bool :=
  [evidence.sourceAuthorityVerified, evidence.reportPeriodVerified,
    evidence.controlTotalsVerified, evidence.directIdentifiersAbsentOrApproved,
    evidence.malwareScanClean].all id

/-- `AdmissionDecision`. -/
structure AdmissionDecision where
  /-- The state that was decided on. -/
  state : DatasetAdmissionState
  /-- The account that decided. -/
  actorAccountId : String
  /-- When the decision was made. -/
  decidedAt : DateTime
  /-- Why. -/
  reasonCode : String
  /-- The objections. -/
  diagnostics : List String
  /-- The account has a safe name. -/
  actorSafe : isSafeIdentifier actorAccountId = true
  /-- The time has a UTC offset and a UTC form. -/
  timeAware : decidedAt.isAware = true ∧ decidedAt.toUtc?.isSome = true
  /-- The reason is a safe name. -/
  reasonSafe : isSafeIdentifier reasonCode = true
  /-- Objections are not empty. -/
  diagnosticsPresent : ∀ item ∈ diagnostics, item ≠ ""

/-- `_decision`. -/
def decision
    (state : DatasetAdmissionState)
    (actor : String)
    (at_ : DateTime)
    (reason : String)
    (diagnostics : List String) : Result AdmissionDecision :=
  if actorSafe : isSafeIdentifier actor = true then
    if aware : at_.isAware = true then
      if inRange : at_.toUtc?.isSome = true then
        if reasonSafe : isSafeIdentifier reason = true then
          if diagnosticsPresent : ∀ item ∈ diagnostics, item ≠ "" then
            .ok ⟨state, actor, at_, reason, diagnostics, actorSafe, ⟨aware, inRange⟩, reasonSafe,
              diagnosticsPresent⟩
          else .error (.admission .datasetDecisionDiagnosticsInvalid)
        else .error (.admission .datasetDecisionReasonInvalid)
      else .error .overflow
    else .error (.admission .datasetDecisionTimezoneRequired)
  else .error (.admission .datasetDecisionActorInvalid)

/-- `DatasetAdmissionRecord`. -/
structure DatasetAdmissionRecord where
  /-- What was declared. -/
  declaration : DatasetDeclaration
  /-- The state of the dataset. -/
  state : DatasetAdmissionState
  /-- The policy of the last inspection. -/
  policyId : Option String
  /-- Its version. -/
  policyVersion : Option Nat
  /-- The digest of its content. -/
  policyContentHash : Option String
  /-- What the last completed inspection reported. -/
  inspection : Option XlsxPackageInspection
  /-- The objections to the dataset. -/
  diagnostics : List String
  /-- The evidence about the dataset. -/
  datasetControlEvidenceId : Option String
  /-- The evidence about its storage. -/
  storageEvidenceId : Option String
  /-- The digest of the storage key. -/
  storageKeySha256 : Option String
  /-- The decisions, oldest first. -/
  decisions : List AdmissionDecision

namespace DatasetAdmissionRecord

/-- `record.latest_decision`. -/
def latestDecision (record : DatasetAdmissionRecord) : Result AdmissionDecision :=
  requireSome record.decisions.getLast? (.admission .datasetDecisionHistoryMissing)

/-- The key under which a record is stored. -/
def key (record : DatasetAdmissionRecord) : String × String :=
  (record.declaration.tenantId, record.declaration.datasetId)

/-- The record with one decision more. -/
def decide (record : DatasetAdmissionRecord) (made : AdmissionDecision) :
    DatasetAdmissionRecord :=
  { record with
    state := made.state
    diagnostics := made.diagnostics
    decisions := record.decisions ++ [made] }

/-- The record under another policy. -/
def withPolicy (record : DatasetAdmissionRecord) (policy : XlsxInspectionPolicy) :
    DatasetAdmissionRecord :=
  { record with
    policyId := some policy.policyId
    policyVersion := some policy.version
    policyContentHash := some policy.contentHash }

/-- `_transition`, before the further changes. -/
def transition
    (record : DatasetAdmissionRecord)
    (state : DatasetAdmissionState)
    (actor : String)
    (at_ : DateTime)
    (reason : String)
    (diagnostics : List String) : Result DatasetAdmissionRecord := do
  check (state ∈ record.state.allowedTransitions) .datasetStateTransitionInvalid
  return record.decide (← decision state actor at_ reason diagnostics)

/-- `_record_same_state_decision`, before the further changes. -/
def recordSameStateDecision
    (record : DatasetAdmissionRecord)
    (actor : String)
    (at_ : DateTime)
    (reason : String)
    (diagnostics : List String) : Result DatasetAdmissionRecord := do
  return record.decide (← decision record.state actor at_ reason diagnostics)

/-- `_require_monotonic_time`. -/
def requireMonotonicTime (record : DatasetAdmissionRecord) (at_ : DateTime) : Result Unit := do
  let latest ← record.latestDecision
  check (¬at_.instant < latest.decidedAt.instant) .datasetDecisionTimeRegression

end DatasetAdmissionRecord

end Admission
end QuantumAnalytics
