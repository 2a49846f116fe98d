import QuantumAnalytics.Admission.Uniqueness
import QuantumAnalytics.Foundations.IsolatedCalls

/-!
# Isolation of tenants in the admission registry

Every key of the six maps has a tenant, and a declaration is only accepted for the
tenant that makes it. The entries of a tenant decide the outcome of its calls and
change only by its calls, so what other tenants declare, inspect, admit or revoke is
invisible to it.
-/

namespace QuantumAnalytics
namespace Admission
namespace RealDatasetAdmissionRegistry

open OwnedSystem (Inside)

variable {registry : RealDatasetAdmissionRegistry} {tenant : AccountContext} {tenantId : String}

/-- The part of the registry under the keys of a tenant. -/
def ofTenant (tenantId : String) (registry : RealDatasetAdmissionRegistry) :
    RealDatasetAdmissionRegistry where
  records := registry.records.filterKeys fun key => key.1 = tenantId
  originalDigestOwners := registry.originalDigestOwners.filterKeys fun key => key.1 = tenantId
  sourceIdentityOwners :=
    registry.sourceIdentityOwners.filterKeys fun key => key.tenantId = tenantId
  workbookDigestOwners := registry.workbookDigestOwners.filterKeys fun key => key.1 = tenantId
  datasetEvidenceIdOwners := registry.datasetEvidenceIdOwners.filterKeys fun key => key.1 = tenantId
  storageEvidenceIdOwners := registry.storageEvidenceIdOwners.filterKeys fun key => key.1 = tenantId

/-! ### What a tenant reads -/

theorem isTaken_filterKeys
    {κ : Type}
    [DecidableEq κ]
    {kept : κ → Bool}
    {key : κ}
    (isKept : kept key = true)
    (owners : Dict κ String)
    (datasetId : String) :
    isTaken (owners.filterKeys kept) key datasetId = isTaken owners key datasetId := by
  rw [isTaken, isTaken, Dict.get?_filterKeys isKept]

@[simp] theorem get?_records_ofTenant (datasetId : String) :
    (registry.ofTenant tenantId).records.get? (tenantId, datasetId) =
      registry.records.get? (tenantId, datasetId) :=
  Dict.get?_filterKeys (by simp)

@[simp] theorem isTaken_originalDigestOwners_ofTenant (digest datasetId : String) :
    isTaken (registry.ofTenant tenantId).originalDigestOwners (tenantId, digest) datasetId =
      isTaken registry.originalDigestOwners (tenantId, digest) datasetId :=
  isTaken_filterKeys (by simp) _ _

theorem isTaken_sourceIdentityOwners_ofTenant
    {key : SourceKey}
    (own : key.tenantId = tenantId)
    (datasetId : String) :
    isTaken (registry.ofTenant tenantId).sourceIdentityOwners key datasetId =
      isTaken registry.sourceIdentityOwners key datasetId :=
  isTaken_filterKeys (by simpa using own) _ _

@[simp] theorem isTaken_workbookDigestOwners_ofTenant (digest datasetId : String) :
    isTaken (registry.ofTenant tenantId).workbookDigestOwners (tenantId, digest) datasetId =
      isTaken registry.workbookDigestOwners (tenantId, digest) datasetId :=
  isTaken_filterKeys (by simp) _ _

@[simp] theorem isTaken_datasetEvidenceIdOwners_ofTenant (evidenceId datasetId : String) :
    isTaken (registry.ofTenant tenantId).datasetEvidenceIdOwners (tenantId, evidenceId) datasetId =
      isTaken registry.datasetEvidenceIdOwners (tenantId, evidenceId) datasetId :=
  isTaken_filterKeys (by simp) _ _

@[simp] theorem isTaken_storageEvidenceIdOwners_ofTenant (evidenceId datasetId : String) :
    isTaken (registry.ofTenant tenantId).storageEvidenceIdOwners (tenantId, evidenceId) datasetId =
      isTaken registry.storageEvidenceIdOwners (tenantId, evidenceId) datasetId :=
  isTaken_filterKeys (by simp) _ _

/-- A tenant finds its own records. -/
@[simp] theorem get_ofTenant (datasetId : String) :
    (registry.ofTenant tenant.tenantId).get tenant datasetId = registry.get tenant datasetId := by
  simp only [get, get?_records_ofTenant]

theorem newRecord_ofTenant
    {declaration : DatasetDeclaration}
    (own : declaration.tenantId = tenant.tenantId) :
    (registry.ofTenant tenant.tenantId).newRecord tenant declaration =
      registry.newRecord tenant declaration := by
  have source := @isTaken_sourceIdentityOwners_ofTenant registry _ declaration.sourceKey own
    declaration.datasetId
  simp only [newRecord, isTaken_originalDigestOwners_ofTenant, source]

theorem openInspection_ofTenant
    (datasetId : String)
    (policy : XlsxInspectionPolicy)
    (observedAt : DateTime) :
    (registry.ofTenant tenant.tenantId).openInspection tenant datasetId policy observedAt =
      registry.openInspection tenant datasetId policy observedAt := by
  simp only [openInspection, get_ofTenant]

theorem admittedRecord_ofTenant
    (datasetId : String)
    (datasetControl : DatasetControlEvidence)
    (storageControl : StorageControlEvidence)
    (admittedAt : DateTime) :
    (registry.ofTenant tenant.tenantId).admittedRecord tenant datasetId datasetControl
        storageControl admittedAt =
      registry.admittedRecord tenant datasetId datasetControl storageControl admittedAt := by
  simp only [admittedRecord, finalizeValidatedRecord, get_ofTenant,
    isTaken_datasetEvidenceIdOwners_ofTenant, isTaken_storageEvidenceIdOwners_ofTenant]

theorem revokedRecord_ofTenant
    (datasetId reasonCode : String)
    (revokedAt : DateTime) :
    (registry.ofTenant tenant.tenantId).revokedRecord tenant datasetId reasonCode revokedAt =
      registry.revokedRecord tenant datasetId reasonCode revokedAt := by
  simp only [revokedRecord, get_ofTenant]

/-! ### What a tenant writes -/

theorem put_ofTenant (record : DatasetAdmissionRecord) :
    (registry.ofTenant tenant.tenantId).put tenant record =
      (registry.put tenant record).ofTenant tenant.tenantId := by
  simp [put, ofTenant, Dict.filterKeys_set_of_kept]

theorem putNew_ofTenant
    {record : DatasetAdmissionRecord}
    (own : record.declaration.tenantId = tenant.tenantId) :
    (registry.ofTenant tenant.tenantId).putNew tenant record =
      (registry.putNew tenant record).ofTenant tenant.tenantId := by
  simp [putNew, put, ofTenant, Dict.filterKeys_set_of_kept, DatasetDeclaration.sourceKey, own]

theorem claimWorkbookDigest_ofTenant (datasetId workbookSha256 : String) :
    (registry.ofTenant tenant.tenantId).claimWorkbookDigest tenant datasetId workbookSha256 =
      (registry.claimWorkbookDigest tenant datasetId workbookSha256).ofTenant tenant.tenantId := by
  simp [claimWorkbookDigest, ofTenant, Dict.filterKeys_set_of_kept]

theorem putAdmitted_ofTenant
    (record : DatasetAdmissionRecord)
    (datasetControl : DatasetControlEvidence)
    (storageControl : StorageControlEvidence) :
    (registry.ofTenant tenant.tenantId).putAdmitted tenant record datasetControl storageControl =
      (registry.putAdmitted tenant record datasetControl storageControl).ofTenant
        tenant.tenantId := by
  simp [putAdmitted, put, ofTenant, Dict.filterKeys_set_of_kept]

section Others

variable (different : tenant.tenantId ≠ tenantId)

include different

theorem ofTenant_put (record : DatasetAdmissionRecord) :
    (registry.put tenant record).ofTenant tenantId = registry.ofTenant tenantId := by
  simp [put, ofTenant, Dict.filterKeys_set_of_not_kept, different]

theorem ofTenant_putNew
    {record : DatasetAdmissionRecord}
    (own : record.declaration.tenantId = tenant.tenantId) :
    (registry.putNew tenant record).ofTenant tenantId = registry.ofTenant tenantId := by
  simp [putNew, put, ofTenant, Dict.filterKeys_set_of_not_kept, DatasetDeclaration.sourceKey, own,
    different]

theorem ofTenant_claimWorkbookDigest (datasetId workbookSha256 : String) :
    (registry.claimWorkbookDigest tenant datasetId workbookSha256).ofTenant tenantId =
      registry.ofTenant tenantId := by
  simp [claimWorkbookDigest, ofTenant, Dict.filterKeys_set_of_not_kept, different]

theorem ofTenant_putAdmitted
    (record : DatasetAdmissionRecord)
    (datasetControl : DatasetControlEvidence)
    (storageControl : StorageControlEvidence) :
    (registry.putAdmitted tenant record datasetControl storageControl).ofTenant tenantId =
      registry.ofTenant tenantId := by
  simp [putAdmitted, put, ofTenant, Dict.filterKeys_set_of_not_kept, different]

theorem ofTenant_commit (updated : Result DatasetAdmissionRecord) :
    (registry.commit tenant updated).2.ofTenant tenantId = registry.ofTenant tenantId := by
  cases updated with
  | error failure => rfl
  | ok record => exact ofTenant_put different record

end Others

/-! ### Calls -/

theorem inside_commit (updated : Result DatasetAdmissionRecord) :
    Inside (ofTenant tenant.tenantId) ((registry.ofTenant tenant.tenantId).commit tenant updated)
      (registry.commit tenant updated) := by
  cases updated with
  | error failure => exact .refl _ _
  | ok record => exact ⟨rfl, put_ofTenant record⟩

/-- A record is declared for the tenant that declares it. -/
theorem tenantId_of_newRecord
    {given declaration : DatasetDeclaration}
    {record : DatasetAdmissionRecord}
    (inScope : scopedDeclaration tenant given = .ok declaration)
    (made : registry.newRecord tenant declaration = .ok record) :
    declaration.tenantId = tenant.tenantId ∧ record.declaration.tenantId = tenant.tenantId := by
  obtain ⟨sameTenant, -, datasetId, -, rfl⟩ := scopedDeclaration_eq_ok.mp inScope
  obtain ⟨-, -, decided, -, rfl⟩ := newRecord_eq_ok made
  exact ⟨sameTenant.symm, sameTenant.symm⟩

theorem inside_declare (given : DatasetDeclaration) :
    Inside (ofTenant tenant.tenantId) ((registry.ofTenant tenant.tenantId).declare tenant given)
      (registry.declare tenant given) := by
  unfold declare
  cases inScope : scopedDeclaration tenant given with
  | error failure => exact .refl _ _
  | ok declaration =>
      have own : declaration.tenantId = tenant.tenantId := by
        obtain ⟨sameTenant, -, datasetId, -, rfl⟩ := scopedDeclaration_eq_ok.mp inScope
        exact sameTenant.symm
      dsimp only
      rw [get?_records_ofTenant, newRecord_ofTenant own]
      cases registry.records.get? (tenant.tenantId, declaration.datasetId) with
      | some existing =>
          dsimp only
          split <;> exact .refl _ _
      | none =>
          dsimp only
          cases made : registry.newRecord tenant declaration with
          | error failure => exact .refl _ _
          | ok record =>
              exact ⟨rfl, putNew_ofTenant (tenantId_of_newRecord inScope made).2⟩

theorem ofTenant_declare
    (different : tenant.tenantId ≠ tenantId)
    (given : DatasetDeclaration) :
    (registry.declare tenant given).2.ofTenant tenantId = registry.ofTenant tenantId := by
  unfold declare
  cases inScope : scopedDeclaration tenant given with
  | error failure => rfl
  | ok declaration =>
      dsimp only
      cases registry.records.get? (tenant.tenantId, declaration.datasetId) with
      | some existing =>
          dsimp only
          split <;> rfl
      | none =>
          dsimp only
          cases made : registry.newRecord tenant declaration with
          | error failure => rfl
          | ok record => exact ofTenant_putNew different (tenantId_of_newRecord inScope made).2

section Inspections

variable (inspector : XlsxPackageInspector) (record : DatasetAdmissionRecord)
  (payload : List UInt8) (policy : XlsxInspectionPolicy) (observed : DateTime)

theorem inside_concludeInspection :
    Inside (ofTenant tenant.tenantId)
      (concludeInspection inspector (registry.ofTenant tenant.tenantId) tenant record payload policy
        observed)
      (concludeInspection inspector registry tenant record payload policy observed) := by
  unfold concludeInspection
  cases inspectPayload inspector record.declaration payload policy with
  | error failure => exact .refl _ _
  | ok outcome =>
      cases outcome with
      | error code => exact inside_commit _
      | ok inspection =>
          dsimp only
          rw [isTaken_workbookDigestOwners_ofTenant, claimWorkbookDigest_ofTenant]
          split
          · exact inside_commit _
          · exact inside_commit _

theorem ofTenant_concludeInspection (different : tenant.tenantId ≠ tenantId) :
    (concludeInspection inspector registry tenant record payload policy observed).2.ofTenant
      tenantId = registry.ofTenant tenantId := by
  unfold concludeInspection
  cases inspectPayload inspector record.declaration payload policy with
  | error failure => rfl
  | ok outcome =>
      cases outcome with
      | error code => exact ofTenant_commit different _
      | ok inspection =>
          dsimp only
          split
          · exact ofTenant_commit different _
          · exact (ofTenant_commit different _).trans (ofTenant_claimWorkbookDigest different _ _)

theorem inside_inspectAndValidate (datasetId : String) :
    Inside (ofTenant tenant.tenantId)
      (inspectAndValidate inspector (registry.ofTenant tenant.tenantId) tenant datasetId payload
        policy observed)
      (inspectAndValidate inspector registry tenant datasetId payload policy observed) := by
  unfold inspectAndValidate
  rw [openInspection_ofTenant]
  cases registry.openInspection tenant datasetId policy observed with
  | error failure => exact .refl _ _
  | ok opened =>
      obtain ⟨record, observed, mustStore⟩ := opened
      cases mustStore with
      | false => exact inside_concludeInspection inspector record payload policy observed
      | true =>
          dsimp only
          rw [if_pos rfl, if_pos rfl, put_ofTenant]
          exact inside_concludeInspection inspector record payload policy observed

theorem ofTenant_inspectAndValidate
    (different : tenant.tenantId ≠ tenantId)
    (datasetId : String) :
    (inspectAndValidate inspector registry tenant datasetId payload policy observed).2.ofTenant
      tenantId = registry.ofTenant tenantId := by
  unfold inspectAndValidate
  cases registry.openInspection tenant datasetId policy observed with
  | error failure => rfl
  | ok opened =>
      obtain ⟨record, observed, mustStore⟩ := opened
      dsimp only
      rw [ofTenant_concludeInspection inspector record payload policy observed different]
      split
      · exact ofTenant_put different record
      · rfl

end Inspections

/-- The tenant that makes a call. -/
def callTenantId : Call → String
  | .declare tenant _ => tenant.tenantId
  | .inspectAndValidate tenant _ _ _ _ => tenant.tenantId
  | .admitDataset tenant _ _ _ _ => tenant.tenantId
  | .revoke tenant _ _ _ => tenant.tenantId

/-- The registry as a system whose calls belong to tenants. -/
def callSystem (inspector : XlsxPackageInspector) :
    OwnedSystem RealDatasetAdmissionRegistry Call (Result DatasetAdmissionRecord) String where
  step registry call := registry.perform inspector call
  owner := callTenantId

theorem callSystem_run (inspector : XlsxPackageInspector) (calls : List Call) :
    (callSystem inspector).run empty calls = afterCalls inspector calls := rfl

/-- A call of a tenant on its own entries. -/
theorem inside_perform
    (inspector : XlsxPackageInspector)
    (registry : RealDatasetAdmissionRegistry)
    (call : Call) :
    Inside (ofTenant (callTenantId call))
      ((registry.ofTenant (callTenantId call)).perform inspector call)
      (registry.perform inspector call) := by
  cases call with
  | declare tenant given => exact inside_declare given
  | inspectAndValidate tenant datasetId payload policy observedAt =>
      exact inside_inspectAndValidate inspector payload policy observedAt datasetId
  | admitDataset tenant datasetId datasetControl storageControl admittedAt =>
      simp only [perform, callTenantId, admitDataset, admittedRecord_ofTenant]
      cases registry.admittedRecord tenant datasetId datasetControl storageControl admittedAt with
      | error failure => exact .refl _ _
      | ok record => exact ⟨rfl, putAdmitted_ofTenant record datasetControl storageControl⟩
  | revoke tenant datasetId reasonCode revokedAt =>
      simp only [perform, callTenantId, revoke, revokedRecord_ofTenant]
      exact inside_commit _

/-- A call of another tenant leaves the entries of a tenant alone. -/
theorem ofTenant_perform
    (inspector : XlsxPackageInspector)
    (registry : RealDatasetAdmissionRegistry)
    (call : Call)
    (different : callTenantId call ≠ tenantId) :
    (registry.perform inspector call).2.ofTenant tenantId = registry.ofTenant tenantId := by
  cases call with
  | declare tenant given => exact ofTenant_declare different given
  | inspectAndValidate tenant datasetId payload policy observedAt =>
      exact ofTenant_inspectAndValidate inspector payload policy observedAt different datasetId
  | admitDataset tenant datasetId datasetControl storageControl admittedAt =>
      simp only [perform, admitDataset]
      cases registry.admittedRecord tenant datasetId datasetControl storageControl admittedAt with
      | error failure => rfl
      | ok record => exact ofTenant_putAdmitted different record datasetControl storageControl
  | revoke tenant datasetId reasonCode revokedAt => exact ofTenant_commit different _

/-- The entries of a tenant isolate it. -/
theorem isolates_ofTenant (inspector : XlsxPackageInspector) (tenantId : String) :
    (callSystem inspector).Isolates tenantId (ofTenant tenantId) := by
  apply OwnedSystem.isolates_of_inside
  · rintro registry call rfl
    exact inside_perform inspector registry call
  · exact ofTenant_perform inspector

/-- Two registries answer every query of a tenant alike. -/
structure SameAnswers (tenant : AccountContext) (left right : RealDatasetAdmissionRegistry) :
    Prop where
  get : ∀ datasetId, left.get tenant datasetId = right.get tenant datasetId
  requireAdmitted : ∀ datasetId asOf,
    left.requireAdmitted tenant datasetId asOf = right.requireAdmitted tenant datasetId asOf

/-- Two runs in which the accounts of a tenant make the same calls, whatever other tenants
do in between, give these calls the same outcomes and answer the queries of every account
of the tenant alike. -/
theorem registry_noninterference
    (inspector : XlsxPackageInspector)
    {tenantId : String}
    {left right : List Call}
    (same : (callSystem inspector).callsOf tenantId left =
      (callSystem inspector).callsOf tenantId right) :
    (callSystem inspector).outcomes tenantId empty left =
        (callSystem inspector).outcomes tenantId empty right ∧
      ∀ tenant : AccountContext, tenant.tenantId = tenantId →
        SameAnswers tenant (afterCalls inspector left) (afterCalls inspector right) := by
  obtain ⟨outcomes, parts⟩ := (isolates_ofTenant inspector tenantId).noninterference empty same
  rw [callSystem_run, callSystem_run] at parts
  refine ⟨outcomes, ?_⟩
  rintro tenant rfl
  have sameGet : ∀ datasetId, (afterCalls inspector left).get tenant datasetId =
      (afterCalls inspector right).get tenant datasetId := by
    intro datasetId
    rw [← get_ofTenant, parts, get_ofTenant]
  exact ⟨sameGet, fun datasetId asOf => by simp only [requireAdmitted, sameGet]⟩

/-! ### One file in two tenants -/

theorem validDate_firstDay {year : Nat} (valid : 1 ≤ year ∧ year ≤ 9999) :
    1 ≤ year ∧ year ≤ 9999 ∧ 1 ≤ 1 ∧ 1 ≤ 12 ∧ 1 ≤ 1 ∧ 1 ≤ Calendar.daysInMonth year 1 :=
  ⟨valid.1, valid.2, by decide, by decide, by decide, by simp [Calendar.daysInMonth]⟩

theorem validTime_firstDay : 0 < 24 ∧ 0 < 60 ∧ 0 < 60 ∧ 0 < 1000000 := by decide

/-- The first day of a year in UTC. -/
def firstDay (year : Nat) (valid : 1 ≤ year ∧ year ≤ 9999) : DateTime where
  year := year
  month := 1
  day := 1
  hour := 0
  minute := 0
  second := 0
  microsecond := 0
  utcoffset := some 0
  validDate := validDate_firstDay valid
  validTime := validTime_firstDay

theorem isYear_declared : 1 ≤ 2026 ∧ 2026 ≤ 9999 := by decide

theorem isYear_deadline : 1 ≤ 2031 ∧ 2031 ≤ 9999 := by decide

theorem accountId_nonempty : "a1" ≠ "" := by decide

theorem isSafeIdentifier_account : isSafeIdentifier "a1" = true := by decide +kernel

theorem one_le_size : 1 ≤ 1 := le_rfl

theorem confidential_ne_personal :
    DatasetSensitivity.commercialConfidential ≠ .commercialWithPersonalData := by decide

theorem isAware_times : (firstDay 2031 isYear_deadline).isAware = true ∧
    (firstDay 2026 isYear_declared).isAware = true := by decide

theorem declared_lt_deadline :
    (firstDay 2026 isYear_declared).instant < (firstDay 2031 isYear_deadline).instant := by
  decide +kernel

/-- An account of a tenant. -/
def uploaderOf (tenantId : String) (nonempty : tenantId ≠ "") : AccountContext :=
  ⟨⟨tenantId, nonempty⟩, "a1", accountId_nonempty⟩

/-- The declaration of a file of one byte by the account. -/
def declarationOf (tenantId : String) : DatasetDeclaration where
  datasetId := "0f8fad5b-d9cb-469f-a165-70867728950e"
  tenantId := tenantId
  uploaderAccountId := "a1"
  sourceInternalId := "s1"
  marketplace := "market"
  reportType := "report"
  reportingPeriodStart := 1
  reportingPeriodEnd := 1
  timezone := "UTC"
  originalFileSha256 := Sha256.hexdigest "1"
  originalSizeBytes := 1
  expectedRowCount := none
  controlTotalsSha256 := none
  dataCategories := ["sales"]
  sensitivity := .commercialConfidential
  ownerAuthorityReference := "owner"
  lawfulAuthorityAttested := true
  retentionDeadline := firstDay 2031 isYear_deadline
  declaredAt := firstDay 2026 isYear_declared
  uploaderSafe := isSafeIdentifier_account
  periodOrdered := one_le_size
  sizePositive := one_le_size
  noPersonalData := confidential_ne_personal
  attested := rfl
  timesAware := isAware_times
  retained := declared_lt_deadline

/-- A tenant declares a file. -/
def declareFile (tenantId : String) (nonempty : tenantId ≠ "") : Call :=
  .declare (uploaderOf tenantId nonempty) (declarationOf tenantId)

/-- That another tenant declared the same file before is invisible. -/
theorem registry_noninterference_file :
    (callSystem fun _ _ => .error .other).outcomes "t1" empty [declareFile "t1" (by decide)] =
      (callSystem fun _ _ => .error .other).outcomes "t1" empty
        [declareFile "t2" (by decide), declareFile "t1" (by decide)] :=
  (registry_noninterference _ (by
    simp [OwnedSystem.callsOf, callSystem, callTenantId, declareFile, uploaderOf])).1

end RealDatasetAdmissionRegistry
end Admission
end QuantumAnalytics
