import QuantumAnalytics.Admission.Uniqueness

/-!
# Soundness of admission

An admitted record rests on an inspection of the declared bytes and on
independent evidence about them, all of which some call of the run supplied. An
admitted record is read only in the time between its admission and its deadline
and never after it is revoked.
-/

namespace QuantumAnalytics
namespace Admission
namespace RealDatasetAdmissionRegistry

variable {inspector : XlsxPackageInspector} {registry after : RealDatasetAdmissionRegistry}
  {calls : List Call} {record : DatasetAdmissionRecord}

/-! ### What an admission rests on -/

/-- A call of the run inspected the declared bytes under the policy of the
record, with the report that the record keeps. -/
def InspectedBy
    (inspector : XlsxPackageInspector)
    (calls : List Call)
    (record : DatasetAdmissionRecord)
    (inspection : XlsxPackageInspection) : Prop :=
  ∃ tenant datasetId payload policy observedAt,
    Call.inspectAndValidate tenant datasetId payload policy observedAt ∈ calls ∧
      tenant.tenantId = record.declaration.tenantId ∧
      PyText.canonicalUuid? datasetId = some record.declaration.datasetId ∧
      Inspected inspector record.declaration payload policy inspection ∧
      record.policyId = some policy.policyId ∧ record.policyVersion = some policy.version ∧
      record.policyContentHash = some policy.contentHash

/-- Evidence for the admission of a record that was validated and admitted by
the given decisions. -/
structure Supports
    (datasetControl : DatasetControlEvidence)
    (storageControl : StorageControlEvidence)
    (record : DatasetAdmissionRecord)
    (inspection : XlsxPackageInspection)
    (validated admitted : AdmissionDecision) : Prop where
  /-- Nothing is missing. -/
  complete : datasetControl.complete = true ∧ storageControl.complete = true
  /-- The verifiers are not the uploader. -/
  independent : datasetControl.verifierAccountId ≠ record.declaration.uploaderAccountId ∧
    storageControl.verifierAccountId ≠ record.declaration.uploaderAccountId
  /-- The tenant. -/
  tenant : datasetControl.tenantId = record.declaration.tenantId ∧
    storageControl.tenantId = record.declaration.tenantId
  /-- The dataset. -/
  dataset : PyText.canonicalUuid? datasetControl.datasetId = some record.declaration.datasetId ∧
    PyText.canonicalUuid? storageControl.datasetId = some record.declaration.datasetId
  /-- The original file. -/
  file : datasetControl.originalFileSha256 = record.declaration.originalFileSha256 ∧
    storageControl.originalFileSha256 = record.declaration.originalFileSha256
  /-- The policy of the inspection. -/
  policy : record.policyContentHash = some datasetControl.policyContentHash
  /-- The workbook. -/
  workbook : datasetControl.workbookSha256 = inspection.workbookSha256
  /-- The layout. -/
  fingerprint : datasetControl.structuralFingerprintSha256 = inspection.structuralFingerprintSha256
  /-- The schema. -/
  schema : inspection.matchedSchemaId = some datasetControl.matchedSchemaId ∧
    inspection.matchedSchemaVersion = some datasetControl.matchedSchemaVersion ∧
    inspection.matchedSchemaAuthorityReference =
      some datasetControl.matchedSchemaAuthorityReference
  /-- The evidence is not older than the validation. -/
  notStale : validated.decidedAt.instant ≤ datasetControl.verifiedAt.instant ∧
    validated.decidedAt.instant ≤ storageControl.verifiedAt.instant
  /-- The evidence is not younger than the admission. -/
  notFuture : datasetControl.verifiedAt.instant ≤ admitted.decidedAt.instant ∧
    storageControl.verifiedAt.instant ≤ admitted.decidedAt.instant
  /-- The record names the evidence. -/
  recorded : record.datasetControlEvidenceId = some datasetControl.evidenceId ∧
    record.storageEvidenceId = some storageControl.evidenceId

/-- An inspection and a decision validated the record. -/
def ValidatedBy
    (inspector : XlsxPackageInspector)
    (calls : List Call)
    (record : DatasetAdmissionRecord) : Prop :=
  ∃ earlier validated inspection, record.decisions = earlier ++ [validated] ∧
    validated.state = .validated ∧ record.inspection = some inspection ∧
    InspectedBy inspector calls record inspection

/-- An inspection that matches a schema, evidence and two decisions before the
deadline admitted the record. -/
def AdmittedBy
    (inspector : XlsxPackageInspector)
    (calls : List Call)
    (record : DatasetAdmissionRecord) : Prop :=
  ∃ earlier validated admitted inspection,
    record.decisions = earlier ++ [validated, admitted] ∧
    validated.state = .validated ∧ admitted.state = .admitted ∧
    admitted.decidedAt.instant < record.declaration.retentionDeadline.instant ∧
    record.inspection = some inspection ∧ inspection.matched = true ∧
    InspectedBy inspector calls record inspection ∧
    ∃ tenant datasetId datasetControl storageControl admittedAt,
      Call.admitDataset tenant datasetId datasetControl storageControl admittedAt ∈ calls ∧
        Supports datasetControl storageControl record inspection validated admitted

theorem InspectedBy.mono
    {more : List Call}
    {inspection : XlsxPackageInspection}
    (inspected : InspectedBy inspector calls record inspection)
    (subset : calls ⊆ more) : InspectedBy inspector more record inspection := by
  obtain ⟨tenant, datasetId, payload, policy, observedAt, called, rest⟩ := inspected
  exact ⟨tenant, datasetId, payload, policy, observedAt, subset called, rest⟩

theorem ValidatedBy.mono
    {more : List Call}
    (validated : ValidatedBy inspector calls record)
    (subset : calls ⊆ more) : ValidatedBy inspector more record := by
  obtain ⟨earlier, made, inspection, decisions, state, report, inspected⟩ := validated
  exact ⟨earlier, made, inspection, decisions, state, report, inspected.mono subset⟩

theorem AdmittedBy.mono
    {more : List Call}
    (admitted : AdmittedBy inspector calls record)
    (subset : calls ⊆ more) : AdmittedBy inspector more record := by
  obtain ⟨earlier, validated, made, inspection, decisions, before, state, retained, report, matched,
    inspected, tenant, datasetId, datasetControl, storageControl, admittedAt, called, supports⟩ :=
      admitted
  exact ⟨earlier, validated, made, inspection, decisions, before, state, retained, report, matched,
    inspected.mono subset, tenant, datasetId, datasetControl, storageControl, admittedAt,
    subset called, supports⟩

/-- What the binding of evidence requires. -/
theorem requireEvidenceBinding_eq_ok
    {datasetControl : DatasetControlEvidence}
    {storageControl : StorageControlEvidence}
    (bound : requireEvidenceBinding record datasetControl storageControl = .ok ()) :
    (datasetControl.verifierAccountId ≠ record.declaration.uploaderAccountId ∧
      storageControl.verifierAccountId ≠ record.declaration.uploaderAccountId) ∧
    ∃ inspection, record.inspection = some inspection ∧ inspection.matched = true ∧
      (PyText.canonicalUuid? datasetControl.datasetId = some record.declaration.datasetId ∧
        PyText.canonicalUuid? storageControl.datasetId = some record.declaration.datasetId) ∧
      (datasetControl.originalFileSha256 = record.declaration.originalFileSha256 ∧
        storageControl.originalFileSha256 = record.declaration.originalFileSha256) ∧
      some datasetControl.policyContentHash = record.policyContentHash ∧
      datasetControl.workbookSha256 = inspection.workbookSha256 ∧
      datasetControl.structuralFingerprintSha256 = inspection.structuralFingerprintSha256 ∧
      some datasetControl.matchedSchemaId = inspection.matchedSchemaId ∧
      some datasetControl.matchedSchemaVersion = inspection.matchedSchemaVersion ∧
      some datasetControl.matchedSchemaAuthorityReference =
        inspection.matchedSchemaAuthorityReference := by
  simp only [requireEvidenceBinding, canonicalId, Checks.bind_eq_ok, Checks.require_eq_ok,
    Checks.requireSome_eq_ok, exists_const, Option.filter_eq_some_iff] at bound
  obtain ⟨datasetIndependent, storageIndependent, inspection, ⟨report, matched⟩, datasetId,
    datasetNamed, rfl, datasetFile, _, _, _, policy, workbook, fingerprint, schema, storageId,
    storageNamed, sameDataset, storageFile⟩ := bound
  exact ⟨⟨datasetIndependent, storageIndependent⟩, inspection, report, matched,
    ⟨datasetNamed, sameDataset ▸ storageNamed⟩, ⟨datasetFile, storageFile⟩, policy, workbook,
    fingerprint, schema⟩

/-- What the times of evidence have to satisfy. -/
theorem requireEvidenceTimes_eq_ok
    {datasetControl : DatasetControlEvidence}
    {storageControl : StorageControlEvidence}
    {decidedAt : DateTime}
    (timely : requireEvidenceTimes record datasetControl storageControl decidedAt = .ok ()) :
    ∃ latest, record.decisions.getLast? = some latest ∧
      (latest.decidedAt.instant ≤ datasetControl.verifiedAt.instant ∧
        latest.decidedAt.instant ≤ storageControl.verifiedAt.instant) ∧
      datasetControl.verifiedAt.instant ≤ decidedAt.instant ∧
        storageControl.verifiedAt.instant ≤ decidedAt.instant := by
  simp only [requireEvidenceTimes, DatasetAdmissionRecord.latestDecision, Checks.bind_eq_ok,
    Checks.require_eq_ok, Checks.requireSome_eq_ok, exists_const, not_lt] at timely
  obtain ⟨latest, last, datasetUtc, datasetConverted, storageUtc, storageConverted, datasetFresh,
    storageFresh, datasetPast, storagePast⟩ := timely
  rw [awareUtc_instant datasetConverted] at datasetFresh datasetPast
  rw [awareUtc_instant storageConverted] at storageFresh storagePast
  exact ⟨latest, last, ⟨datasetFresh, storageFresh⟩, datasetPast, storagePast⟩

/-- Validated and admitted records rest on calls of the run. -/
def Supported
    (inspector : XlsxPackageInspector)
    (calls : List Call)
    (registry : RealDatasetAdmissionRegistry) : Prop :=
  ∀ key record, registry.records.get? key = some record →
    (record.state = .validated → ValidatedBy inspector calls record) ∧
      (record.state = .admitted → AdmittedBy inspector calls record)

/-- A write keeps the records supported when the written record is. -/
theorem Supported.put
    {tenant : AccountContext}
    {written : DatasetAdmissionRecord}
    (supported : Supported inspector calls registry)
    (validated : written.state = .validated → ValidatedBy inspector calls written)
    (admitted : written.state = .admitted → AdmittedBy inspector calls written) :
    Supported inspector calls (registry.put tenant written) := by
  intro key record found
  rcases get?_put found with before | ⟨-, rfl⟩
  · exact supported key record before
  · exact ⟨validated, admitted⟩

/-- An admission rests on the validation before it and on its evidence. -/
theorem admittedBy_of_granted
    {tenant : AccountContext}
    {datasetId : String}
    {datasetControl : DatasetControlEvidence}
    {storageControl : StorageControlEvidence}
    {admittedAt : DateTime}
    {made : AdmissionDecision}
    (called : Call.admitDataset tenant datasetId datasetControl storageControl admittedAt ∈ calls)
    (sameTenant : record.declaration.tenantId = tenant.tenantId)
    (validated : ValidatedBy inspector calls record)
    (after : made.state = .admitted)
    (granted : AdmissionGranted tenant record datasetControl storageControl made.decidedAt) :
    AdmittedBy inspector calls
      { record.decide made with
        datasetControlEvidenceId := some datasetControl.evidenceId
        storageEvidenceId := some storageControl.evidenceId
        storageKeySha256 := some storageControl.storageKeySha256 } := by
  obtain ⟨earlier, decision, inspection, decisions, state, report, inspected⟩ := validated
  obtain ⟨independent, matchedInspection, matchedReport, matched, dataset, file, policy, workbook,
    fingerprint, schemaId, schemaVersion, schemaAuthority⟩ :=
      requireEvidenceBinding_eq_ok granted.bound
  obtain ⟨latest, last, notStale, notFuture⟩ := requireEvidenceTimes_eq_ok granted.timely
  obtain rfl : inspection = matchedInspection := Option.some.inj (report.symm.trans matchedReport)
  obtain rfl : decision = latest := by simpa [decisions] using last
  refine ⟨earlier, decision, made, inspection, ?_, state, after, granted.retained, report, matched,
    inspected, tenant, datasetId, datasetControl, storageControl, admittedAt, called, ?_⟩
  · simp [DatasetAdmissionRecord.decide, decisions]
  · exact {
      complete := granted.complete
      independent := independent
      tenant := ⟨granted.tenants.1.symm.trans sameTenant.symm,
        granted.tenants.2.symm.trans sameTenant.symm⟩
      dataset := dataset
      file := file
      policy := policy.symm
      workbook := workbook
      fingerprint := fingerprint
      schema := ⟨schemaId.symm, schemaVersion.symm, schemaAuthority.symm⟩
      notStale := notStale
      notFuture := notFuture
      recorded := ⟨rfl, rfl⟩ }

/-- A record in another state needs no support. -/
private theorem ne_of_eq
    {state : DatasetAdmissionState}
    {made : AdmissionDecision}
    {property : Prop}
    (is : made.state = state)
    (other : DatasetAdmissionState)
    (different : state ≠ other) : made.state = other → property :=
  fun same => absurd (is.symm.trans same) different

theorem Change.supported
    {call : Call}
    (called : call ∈ calls)
    (keyed : registry.Keyed)
    (supported : Supported inspector calls registry)
    (change : Change inspector call registry after) : Supported inspector calls after := by
  cases change with
  | declared inScope fresh made =>
      obtain ⟨-, -, decided, -, rfl⟩ := newRecord_eq_ok made
      intro key record found
      rcases get?_put found with before | ⟨-, rfl⟩
      · exact supported key record before
      · exact ⟨nofun, nofun⟩
  | claimed free => exact supported
  | quarantined known before after time =>
      exact supported.put (ne_of_eq after _ (by decide)) (ne_of_eq after _ (by decide))
  | rejected known before after time =>
      exact supported.put (ne_of_eq after _ (by decide)) (ne_of_eq after _ (by decide))
  | revoked known before after time =>
      exact supported.put (ne_of_eq after _ (by decide)) (ne_of_eq after _ (by decide))
  | inspected named known before after time owned inspected =>
      refine supported.put (fun validated => ?_) (fun admitted => ?_)
      · exact ⟨_, _, _, rfl, validated, rfl, _, _, _, _, _, called, (keyed.tenant_eq known).symm,
          named, inspected, rfl, rfl, rfl⟩
      · rcases after with blocked | validated
        · exact ne_of_eq blocked _ (by decide) admitted
        · exact ne_of_eq validated _ (by decide) admitted
  | admitted named known before after time granted datasetFree storageFree =>
      intro key record found
      rcases get?_put found with earlier | ⟨-, rfl⟩
      · exact supported key record earlier
      · refine ⟨ne_of_eq after _ (by decide), fun _ => ?_⟩
        exact admittedBy_of_granted called (keyed.tenant_eq known)
          ((supported _ _ known).1 before) after granted

theorem supported_afterCalls (inspector : XlsxPackageInspector) (calls : List Call) :
    Supported inspector calls (afterCalls inspector calls) :=
  afterCalls_induction (fun key record found => by simp [empty] at found)
    (fun calls call registry supported key record found =>
      ⟨fun state => ((supported key record found).1 state).mono (List.subset_append_left _ _),
        fun state => ((supported key record found).2 state).mono (List.subset_append_left _ _)⟩)
    (fun _ _ _ _ called keyed supported change => change.supported called keyed supported) calls

/-! ### Access -/

/-- A step keeps a record that was rejected or revoked. -/
theorem Change.get?_of_isFinal
    {call : Call}
    (change : Change inspector call registry after)
    {key : String × String}
    (found : registry.records.get? key = some record)
    (final : record.state.isFinal = true) : after.records.get? key = some record := by
  have put : ∀ {tenant : AccountContext} {stored written : DatasetAdmissionRecord},
      registry.Known tenant stored → stored.state.isFinal = false →
        written.declaration = stored.declaration →
          (registry.put tenant written).records.get? key = some record := by
    intro tenant stored written known unfinished same
    refine (Dict.get?_set_of_ne _ ?_ _).trans found
    rintro rfl
    rw [same, known] at found
    rw [Option.some.inj found, final] at unfinished
    cases unfinished
  have unfinished : ∀ {stored : DatasetAdmissionRecord} {state : DatasetAdmissionState},
      stored.state = state → state.isFinal = false → stored.state.isFinal = false :=
    fun is notFinal => (congrArg DatasetAdmissionState.isFinal is).trans notFinal
  cases change with
  | declared inScope fresh made =>
      obtain ⟨-, -, decided, -, rfl⟩ := newRecord_eq_ok made
      refine (Dict.get?_set_of_ne _ ?_ _).trans found
      rintro rfl
      rw [fresh] at found
      cases found
  | claimed free => exact found
  | quarantined known before after time => exact put known (unfinished before rfl) rfl
  | rejected known before after time => exact put known (unfinished before rfl) rfl
  | inspected named known before after time owned inspected =>
      exact put known (unfinished before rfl) rfl
  | admitted named known before after time granted datasetFree storageFree =>
      exact put known (unfinished before rfl) rfl
  | revoked known before after time => exact put known (unfinished before rfl) rfl

theorem get?_afterCalls_of_isFinal
    (inspector : XlsxPackageInspector)
    (calls later : List Call)
    {key : String × String}
    (found : (afterCalls inspector calls).records.get? key = some record)
    (final : record.state.isFinal = true) :
    (afterCalls inspector (calls ++ later)).records.get? key = some record := by
  induction later using List.reverseRecOn with
  | nil => rwa [List.append_nil]
  | append_singleton later call inductionHypothesis =>
      rw [← List.append_assoc, afterCalls_append]
      have changes := perform_changes inspector (keyed_afterCalls inspector (calls ++ later)) call
      generalize ((afterCalls inspector (calls ++ later)).perform inspector call).2 = after
        at changes ⊢
      induction changes with
      | refl => exact inductionHypothesis
      | tail _ change kept => exact change.get?_of_isFinal kept final

/-- What is read as admitted is stored and admitted, and it is read in the time
between its last decision and its deadline. -/
theorem requireAdmitted_eq_ok
    (keyed : registry.Keyed)
    {tenant : AccountContext}
    {datasetId : String}
    {asOf : DateTime}
    (read : registry.requireAdmitted tenant datasetId asOf = .ok record) :
    registry.records.get? record.key = some record ∧ record.state = .admitted ∧
      ∃ latest, record.decisions.getLast? = some latest ∧
        latest.decidedAt.instant ≤ asOf.instant ∧
          asOf.instant < record.declaration.retentionDeadline.instant := by
  simp only [requireAdmitted, DatasetAdmissionRecord.latestDecision, Checks.bind_eq_ok,
    Checks.require_eq_ok, Checks.requireSome_eq_ok, Checks.pure_eq_ok, exists_const, not_lt] at read
  obtain ⟨current, converted, stored, found, admitted, latest, last, started, deadline,
    deadlineUtc, retained, rfl⟩ := read
  rw [awareUtc_instant converted] at started retained
  rw [awareUtc_instant deadlineUtc] at retained
  obtain ⟨known, -, -⟩ := get_eq_ok keyed found
  refine ⟨?_, admitted, latest, last, started, retained⟩
  rw [DatasetAdmissionRecord.key, keyed.tenant_eq known]
  exact known

/-- A revoked record is stored as revoked. -/
theorem revoke_eq_ok
    (keyed : registry.Keyed)
    {tenant : AccountContext}
    {datasetId reasonCode : String}
    {revokedAt : DateTime}
    (accepted : (registry.revoke tenant datasetId reasonCode revokedAt).1 = .ok record) :
    (registry.revoke tenant datasetId reasonCode revokedAt).2.records.get? record.key =
        some record ∧ record.state = .revoked := by
  unfold revoke commit at accepted ⊢
  cases made : registry.revokedRecord tenant datasetId reasonCode revokedAt with
  | error failure => simp [made] at accepted
  | ok updated =>
      simp only [made, Except.ok.injEq] at accepted ⊢
      obtain rfl := accepted
      simp only [revokedRecord, Checks.bind_eq_ok, Checks.require_eq_ok, exists_const] at made
      obtain ⟨current, -, -, stored, found, _, -, -, moved⟩ := made
      obtain ⟨known, -, -⟩ := get_eq_ok keyed found
      obtain ⟨decided, after, -, -, rfl⟩ := DatasetAdmissionRecord.transition_eq_ok moved
      refine ⟨?_, after⟩
      rw [DatasetAdmissionRecord.key, DatasetAdmissionRecord.declaration_decide,
        keyed.tenant_eq known]
      exact Dict.get?_set_self _ _ _

/-- What a run guarantees about admission. -/
structure Sound (inspector : XlsxPackageInspector) (calls : List Call) : Prop where
  /-- An admitted record rests on an inspection and on evidence of the run. -/
  admitted : ∀ record, (afterCalls inspector calls).Stored record → record.state = .admitted →
    AdmittedBy inspector calls record
  /-- Only admitted records are read as such, from their admission up to their
  deadline. -/
  read : ∀ tenant datasetId asOf record,
    (afterCalls inspector calls).requireAdmitted tenant datasetId asOf = .ok record →
      (afterCalls inspector calls).Stored record ∧ record.state = .admitted ∧
      ∃ admission, record.decisions.getLast? = some admission ∧ admission.state = .admitted ∧
        admission.decidedAt.instant ≤ asOf.instant ∧
          asOf.instant < record.declaration.retentionDeadline.instant
  /-- A revoked record is never read again. -/
  revoked : ∀ earlier later tenant datasetId reasonCode revokedAt record,
    calls = earlier ++ .revoke tenant datasetId reasonCode revokedAt :: later →
    ((afterCalls inspector earlier).revoke tenant datasetId reasonCode revokedAt).1 = .ok record →
    ∀ reader readId asOf other,
      (afterCalls inspector calls).requireAdmitted reader readId asOf = .ok other →
        other.key ≠ record.key
  /-- A failed admission changes nothing. -/
  atomic : ∀ tenant datasetId datasetControl storageControl admittedAt failure,
    ((afterCalls inspector calls).admitDataset tenant datasetId datasetControl storageControl
      admittedAt).1 = .error failure →
    ((afterCalls inspector calls).admitDataset tenant datasetId datasetControl storageControl
      admittedAt).2 = afterCalls inspector calls

/-- Admission is sound in every run of calls, accepted or rejected. -/
theorem sound_afterCalls (inspector : XlsxPackageInspector) (calls : List Call) :
    Sound inspector calls where
  admitted := fun record ⟨key, stored⟩ =>
    (supported_afterCalls inspector calls key record stored).2
  read := by
    intro tenant datasetId asOf record read
    obtain ⟨stored, admitted, latest, last, started, retained⟩ :=
      requireAdmitted_eq_ok (keyed_afterCalls inspector calls) read
    refine ⟨⟨_, stored⟩, admitted, latest, last, ?_, started, retained⟩
    have history := wellDecided_afterCalls inspector calls _ _ stored
    have current := history.current
    rw [last, admitted] at current
    simpa using current
  revoked := by
    rintro earlier later tenant datasetId reasonCode revokedAt record rfl accepted reader readId
      asOf other read sameKey
    obtain ⟨stored, admitted, -⟩ := requireAdmitted_eq_ok (keyed_afterCalls inspector _) read
    obtain ⟨revoked, state⟩ := revoke_eq_ok (keyed_afterCalls inspector earlier) accepted
    have first : (afterCalls inspector
        (earlier ++ [.revoke tenant datasetId reasonCode revokedAt])).records.get? record.key =
          some record := by
      rw [afterCalls_append]
      exact revoked
    have kept := get?_afterCalls_of_isFinal inspector _ later first (by rw [state]; rfl)
    rw [List.append_assoc, List.singleton_append, ← sameKey, stored] at kept
    obtain rfl := Option.some.inj kept
    rw [admitted] at state
    cases state
  atomic := by
    intro tenant datasetId datasetControl storageControl admittedAt failure failed
    unfold admitDataset at failed ⊢
    cases made : (afterCalls inspector calls).admittedRecord tenant datasetId datasetControl
        storageControl admittedAt with
    | error raised => rfl
    | ok record => simp [made] at failed

end RealDatasetAdmissionRegistry
end Admission
end QuantumAnalytics
