import Mathlib.Data.List.Induction
import Mathlib.Logic.Relation
import QuantumAnalytics.Admission.Registry

/-!
# What a call changes

Every call changes the registry in a few steps, each of which writes one record
or one owner. The steps say under which conditions they are taken; an invariant
that every step keeps holds after every run.
-/

namespace QuantumAnalytics
namespace Admission

/-- A made decision has the given parts. -/
theorem decision_eq_ok
    {state : DatasetAdmissionState}
    {actor reason : String}
    {at_ : DateTime}
    {diagnostics : List String}
    {made : AdmissionDecision}
    (decided : decision state actor at_ reason diagnostics = .ok made) :
    made.state = state ∧ made.decidedAt = at_ ∧ made.diagnostics = diagnostics := by
  unfold decision at decided
  split_ifs at decided
  obtain rfl := Except.ok.inj decided
  exact ⟨rfl, rfl, rfl⟩

namespace DatasetAdmissionRecord

variable {record updated : DatasetAdmissionRecord}

@[simp] theorem declaration_decide (record : DatasetAdmissionRecord) (made : AdmissionDecision) :
    (record.decide made).declaration = record.declaration := rfl

@[simp] theorem declaration_withPolicy
    (record : DatasetAdmissionRecord)
    (policy : XlsxInspectionPolicy) :
    (record.withPolicy policy).declaration = record.declaration := rfl

@[simp] theorem state_withPolicy
    (record : DatasetAdmissionRecord)
    (policy : XlsxInspectionPolicy) : (record.withPolicy policy).state = record.state := rfl

@[simp] theorem decisions_withPolicy
    (record : DatasetAdmissionRecord)
    (policy : XlsxInspectionPolicy) : (record.withPolicy policy).decisions = record.decisions := rfl

/-- The last decision was made no later than a time. -/
def NotAfter (record : DatasetAdmissionRecord) (time : DateTime) : Prop :=
  ∃ latest, record.decisions.getLast? = some latest ∧ latest.decidedAt.instant ≤ time.instant

theorem notAfter_of_requireMonotonicTime
    {time : DateTime}
    {done : Unit}
    (checked : record.requireMonotonicTime time = .ok done) : record.NotAfter time := by
  simp only [requireMonotonicTime, latestDecision, Checks.bind_eq_ok, Checks.requireSome_eq_ok,
    Checks.require_eq_ok, not_lt] at checked
  exact checked

theorem notAfter_decide
    (record : DatasetAdmissionRecord)
    {made : AdmissionDecision}
    {time : DateTime}
    (same : made.decidedAt = time) : (record.decide made).NotAfter time :=
  ⟨made, by simp [decide], le_of_eq (by rw [same])⟩

theorem transition_eq_ok
    {state : DatasetAdmissionState}
    {actor reason : String}
    {at_ : DateTime}
    {diagnostics : List String}
    (moved : record.transition state actor at_ reason diagnostics = .ok updated) :
    ∃ made : AdmissionDecision, made.state = state ∧ made.decidedAt = at_ ∧
      state ∈ record.state.allowedTransitions ∧ updated = record.decide made := by
  simp only [transition, Checks.bind_eq_ok, Checks.require_eq_ok, Checks.pure_eq_ok] at moved
  obtain ⟨-, allowed, made, decided, rfl⟩ := moved
  obtain ⟨sameState, sameTime, -⟩ := decision_eq_ok decided
  exact ⟨made, sameState, sameTime, allowed, rfl⟩

end DatasetAdmissionRecord

namespace RealDatasetAdmissionRegistry

variable {registry : RealDatasetAdmissionRegistry} {tenant : AccountContext}

/-- The record is stored for its dataset in the tenant. -/
def Known
    (registry : RealDatasetAdmissionRegistry)
    (tenant : AccountContext)
    (record : DatasetAdmissionRecord) : Prop :=
  registry.records.get? (tenant.tenantId, record.declaration.datasetId) = some record

/-- Every record is stored under the tenant and the dataset that it declares. -/
def Keyed (registry : RealDatasetAdmissionRegistry) : Prop :=
  registry.records.IndexedBy DatasetAdmissionRecord.key

/-- The bytes of an upload are those that were declared, and their inspection
reports this. -/
structure Inspected
    (inspector : XlsxPackageInspector)
    (declaration : DatasetDeclaration)
    (payload : List UInt8)
    (policy : XlsxInspectionPolicy)
    (inspection : XlsxPackageInspection) : Prop where
  /-- The declared digest. -/
  digest : Sha256.hexdigestOfBytes payload = declaration.originalFileSha256
  /-- The declared size. -/
  size : payload.length = declaration.originalSizeBytes
  /-- The report of the inspector. -/
  inspected : inspector payload policy = .ok inspection

/-- The parts of an accepted admission. -/
structure AdmissionGranted
    (tenant : AccountContext)
    (stored : DatasetAdmissionRecord)
    (datasetControl : DatasetControlEvidence)
    (storageControl : StorageControlEvidence)
    (decidedAt : DateTime) : Prop where
  /-- Both kinds of evidence are of the tenant. -/
  tenants : tenant.tenantId = datasetControl.tenantId ∧ tenant.tenantId = storageControl.tenantId
  /-- Both are complete. -/
  complete : datasetControl.complete = true ∧ storageControl.complete = true
  /-- The data is still kept. -/
  retained : decidedAt.instant < stored.declaration.retentionDeadline.instant
  /-- The evidence is about the validated dataset. -/
  bound : requireEvidenceBinding stored datasetControl storageControl = .ok ()
  /-- The evidence is neither stale nor from the future. -/
  timely : requireEvidenceTimes stored datasetControl storageControl decidedAt = .ok ()

/-- A step that a call may take. -/
inductive Change (inspector : XlsxPackageInspector) :
    Call → RealDatasetAdmissionRegistry → RealDatasetAdmissionRegistry → Prop
  /-- A new dataset is declared. -/
  | declared
      {registry : RealDatasetAdmissionRegistry}
      {tenant : AccountContext}
      {given declaration : DatasetDeclaration}
      {record : DatasetAdmissionRecord}
      (inScope : scopedDeclaration tenant given = .ok declaration)
      (fresh : registry.records.get? (tenant.tenantId, declaration.datasetId) = none)
      (made : registry.newRecord tenant declaration = .ok record) :
      Change inspector (.declare tenant given) registry (registry.putNew tenant record)
  /-- A declared dataset is quarantined. -/
  | quarantined
      {registry : RealDatasetAdmissionRegistry}
      {tenant : AccountContext}
      {datasetId : String}
      {payload : List UInt8}
      {policy : XlsxInspectionPolicy}
      {observedAt : DateTime}
      {stored : DatasetAdmissionRecord}
      {made : AdmissionDecision}
      (known : registry.Known tenant stored)
      (before : stored.state = .declared)
      (after : made.state = .quarantined)
      (time : stored.NotAfter made.decidedAt) :
      Change inspector (.inspectAndValidate tenant datasetId payload policy observedAt) registry
        (registry.put tenant ((stored.decide made).withPolicy policy))
  /-- A quarantined dataset is rejected. -/
  | rejected
      {registry : RealDatasetAdmissionRegistry}
      {tenant : AccountContext}
      {datasetId : String}
      {payload : List UInt8}
      {policy : XlsxInspectionPolicy}
      {observedAt : DateTime}
      {stored : DatasetAdmissionRecord}
      {made : AdmissionDecision}
      (known : registry.Known tenant stored)
      (before : stored.state = .quarantined)
      (after : made.state = .rejected)
      (time : stored.NotAfter made.decidedAt) :
      Change inspector (.inspectAndValidate tenant datasetId payload policy observedAt) registry
        (registry.put tenant ((stored.withPolicy policy).decide made))
  /-- A workbook that no other dataset has is claimed. -/
  | claimed
      {registry : RealDatasetAdmissionRegistry}
      {tenant : AccountContext}
      {datasetId : String}
      {payload : List UInt8}
      {policy : XlsxInspectionPolicy}
      {observedAt : DateTime}
      {owner workbookSha256 : String}
      (free : isTaken registry.workbookDigestOwners (tenant.tenantId, workbookSha256) owner =
        false) :
      Change inspector (.inspectAndValidate tenant datasetId payload policy observedAt) registry
        (registry.claimWorkbookDigest tenant owner workbookSha256)
  /-- An inspection ends without a rejection. -/
  | inspected
      {registry : RealDatasetAdmissionRegistry}
      {tenant : AccountContext}
      {datasetId : String}
      {payload : List UInt8}
      {policy : XlsxInspectionPolicy}
      {observedAt : DateTime}
      {stored : DatasetAdmissionRecord}
      {inspection : XlsxPackageInspection}
      {made : AdmissionDecision}
      (named : PyText.canonicalUuid? datasetId = some stored.declaration.datasetId)
      (known : registry.Known tenant stored)
      (before : stored.state = .quarantined)
      (after : made.state = .quarantined ∨ made.state = .validated)
      (time : stored.NotAfter made.decidedAt)
      (owned : registry.workbookDigestOwners.get? (tenant.tenantId, inspection.workbookSha256) =
        some stored.declaration.datasetId)
      (inspected : Inspected inspector stored.declaration payload policy inspection) :
      Change inspector (.inspectAndValidate tenant datasetId payload policy observedAt) registry
        (registry.put tenant
          { (stored.withPolicy policy).decide made with inspection := some inspection })
  /-- A validated dataset is admitted. -/
  | admitted
      {registry : RealDatasetAdmissionRegistry}
      {tenant : AccountContext}
      {datasetId : String}
      {datasetControl : DatasetControlEvidence}
      {storageControl : StorageControlEvidence}
      {admittedAt : DateTime}
      {stored : DatasetAdmissionRecord}
      {made : AdmissionDecision}
      (named : PyText.canonicalUuid? datasetId = some stored.declaration.datasetId)
      (known : registry.Known tenant stored)
      (before : stored.state = .validated)
      (after : made.state = .admitted)
      (time : stored.NotAfter made.decidedAt)
      (granted : AdmissionGranted tenant stored datasetControl storageControl made.decidedAt)
      (datasetFree : isTaken registry.datasetEvidenceIdOwners
        (tenant.tenantId, datasetControl.evidenceId) stored.declaration.datasetId = false)
      (storageFree : isTaken registry.storageEvidenceIdOwners
        (tenant.tenantId, storageControl.evidenceId) stored.declaration.datasetId = false) :
      Change inspector (.admitDataset tenant datasetId datasetControl storageControl admittedAt) registry
        (registry.putAdmitted tenant
          { stored.decide made with
            datasetControlEvidenceId := some datasetControl.evidenceId
            storageEvidenceId := some storageControl.evidenceId
            storageKeySha256 := some storageControl.storageKeySha256 }
          datasetControl storageControl)
  /-- An admitted dataset is revoked. -/
  | revoked
      {registry : RealDatasetAdmissionRegistry}
      {tenant : AccountContext}
      {datasetId reasonCode : String}
      {revokedAt : DateTime}
      {stored : DatasetAdmissionRecord}
      {made : AdmissionDecision}
      (known : registry.Known tenant stored)
      (before : stored.state = .admitted)
      (after : made.state = .revoked)
      (time : stored.NotAfter made.decidedAt) :
      Change inspector (.revoke tenant datasetId reasonCode revokedAt) registry
        (registry.put tenant (stored.decide made))

/-! ### The steps of a call -/

section Steps

variable {inspector : XlsxPackageInspector}

/-- The record that a call reads is stored under its own id. -/
theorem get_eq_ok
    (keyed : registry.Keyed)
    {datasetId : String}
    {record : DatasetAdmissionRecord}
    (found : registry.get tenant datasetId = .ok record) :
    registry.Known tenant record ∧
      PyText.canonicalUuid? datasetId = some record.declaration.datasetId ∧
        tenant.accountId = record.declaration.uploaderAccountId := by
  simp only [get, canonicalId, Checks.bind_eq_ok, Checks.requireSome_eq_ok, Checks.require_eq_ok,
    Checks.pure_eq_ok] at found
  obtain ⟨normalized, canonical, stored, lookup, -, account, rfl⟩ := found
  have sameKey := (keyed.get?_eq_some_iff.mp lookup).2
  obtain ⟨-, rfl⟩ := Prod.mk.inj sameKey
  exact ⟨lookup, canonical, account⟩

theorem declare_changes
    (given : DatasetDeclaration) :
    Relation.ReflTransGen (Change inspector (.declare tenant given)) registry
      (registry.declare tenant given).2 := by
  unfold declare
  cases inScope : scopedDeclaration tenant given with
  | error failure => exact .refl
  | ok declaration =>
      dsimp only
      cases found : registry.records.get? (tenant.tenantId, declaration.datasetId) with
      | some existing =>
          dsimp only
          split_ifs <;> exact .refl
      | none =>
          cases made : registry.newRecord tenant declaration with
          | error failure => exact .refl
          | ok record => exact .single (.declared inScope found made)

theorem admit_changes
    (keyed : registry.Keyed)
    (datasetId : String)
    (datasetControl : DatasetControlEvidence)
    (storageControl : StorageControlEvidence)
    (admittedAt : DateTime) :
    Relation.ReflTransGen
      (Change inspector (.admitDataset tenant datasetId datasetControl storageControl admittedAt)) registry
      (registry.admitDataset tenant datasetId datasetControl storageControl admittedAt).2 := by
  unfold admitDataset
  cases made : registry.admittedRecord tenant datasetId datasetControl storageControl admittedAt with
  | error failure => exact .refl
  | ok record =>
      simp only [admittedRecord, finalizeValidatedRecord, Checks.bind_eq_ok, Checks.require_eq_ok,
        Checks.pure_eq_ok] at made
      obtain ⟨current, converted, _, datasetTenant, _, storageTenant, _, datasetComplete, _,
        storageComplete, stored, found, _, monotonic, _, validated, deadline, deadlineUtc, _,
        retained, ⟨⟩, bound, ⟨⟩, timely, _, datasetFree, _, storageFree, updated, moved, rfl⟩ := made
      rw [awareUtc_instant deadlineUtc] at retained
      obtain ⟨known, named, -⟩ := get_eq_ok keyed found
      obtain ⟨decided, after, sameTime, -, rfl⟩ := DatasetAdmissionRecord.transition_eq_ok moved
      refine .single (.admitted named known validated after ?_ ?_ datasetFree storageFree)
      · rw [sameTime]
        exact DatasetAdmissionRecord.notAfter_of_requireMonotonicTime monotonic
      · rw [sameTime]
        exact {
          tenants := ⟨datasetTenant, storageTenant⟩
          complete := ⟨datasetComplete, storageComplete⟩
          retained := retained
          bound := bound
          timely := timely }

theorem revoke_changes
    (keyed : registry.Keyed)
    (datasetId reasonCode : String)
    (revokedAt : DateTime) :
    Relation.ReflTransGen (Change inspector (.revoke tenant datasetId reasonCode revokedAt)) registry
      (registry.revoke tenant datasetId reasonCode revokedAt).2 := by
  unfold revoke
  cases made : registry.revokedRecord tenant datasetId reasonCode revokedAt with
  | error failure => exact .refl
  | ok record =>
      simp only [revokedRecord, Checks.bind_eq_ok, Checks.require_eq_ok] at made
      obtain ⟨current, _, _, _, stored, found, _, monotonic, _, admitted, moved⟩ := made
      obtain ⟨known, -, -⟩ := get_eq_ok keyed found
      obtain ⟨decided, after, sameTime, -, rfl⟩ := DatasetAdmissionRecord.transition_eq_ok moved
      refine .single (.revoked known admitted after ?_)
      rw [sameTime]
      exact DatasetAdmissionRecord.notAfter_of_requireMonotonicTime monotonic

/-- The opened record is stored and quarantined, and the inspection reads it as
it is stored, under its policy. -/
structure Opened
    (registry : RealDatasetAdmissionRegistry)
    (tenant : AccountContext)
    (datasetId : String)
    (policy : XlsxInspectionPolicy)
    (stored record : DatasetAdmissionRecord)
    (observed : DateTime) : Prop where
  /-- The record is stored. -/
  known : registry.Known tenant stored
  /-- The call names it. -/
  named : PyText.canonicalUuid? datasetId = some stored.declaration.datasetId
  /-- It is quarantined. -/
  quarantined : stored.state = .quarantined
  /-- It is read under the policy. -/
  read : record = stored.withPolicy policy
  /-- It was decided on before. -/
  time : stored.NotAfter observed

theorem put_known (record : DatasetAdmissionRecord) :
    (registry.put tenant record).Known tenant record := by
  simp [Known, put]

theorem openInspection_changes
    (keyed : registry.Keyed)
    {datasetId : String}
    {payload : List UInt8}
    {policy : XlsxInspectionPolicy}
    {observedAt observed : DateTime}
    {record : DatasetAdmissionRecord}
    {mustStore : Bool}
    (opened : registry.openInspection tenant datasetId policy observedAt =
      .ok (record, observed, mustStore)) :
    Relation.ReflTransGen
      (Change inspector (.inspectAndValidate tenant datasetId payload policy observedAt)) registry
      (if mustStore then registry.put tenant record else registry) ∧
    ∃ stored, Opened (if mustStore then registry.put tenant record else registry) tenant datasetId
      policy stored record observed := by
  simp only [openInspection, Checks.bind_eq_ok] at opened
  obtain ⟨current, converted, found, read, _, monotonic, opened⟩ := opened
  obtain ⟨known, named, -⟩ := get_eq_ok keyed read
  have time := DatasetAdmissionRecord.notAfter_of_requireMonotonicTime monotonic
  split at opened
  · rename_i before
    simp only [Checks.bind_eq_ok, Checks.pure_eq_ok, Prod.mk.injEq] at opened
    obtain ⟨moved, transition, rfl, rfl, rfl⟩ := opened
    obtain ⟨made, after, sameTime, -, rfl⟩ := DatasetAdmissionRecord.transition_eq_ok transition
    refine ⟨.single (.quarantined known before after (sameTime ▸ time)),
      (found.decide made).withPolicy policy, ?_⟩
    exact {
      known := put_known _
      named := named
      quarantined := after
      read := rfl
      time := DatasetAdmissionRecord.notAfter_decide found sameTime }
  · rename_i before
    simp only [Checks.pure_eq_ok, Prod.mk.injEq] at opened
    obtain ⟨rfl, rfl, rfl⟩ := opened
    exact ⟨.refl, found, known, named, before, rfl, time⟩
  · cases opened

theorem rejectLocked_changes
    {datasetId : String}
    {payload : List UInt8}
    {policy : XlsxInspectionPolicy}
    {observedAt observed : DateTime}
    {stored record : DatasetAdmissionRecord}
    (opened : Opened registry tenant datasetId policy stored record observed)
    (code : String) :
    Relation.ReflTransGen
      (Change inspector (.inspectAndValidate tenant datasetId payload policy observedAt)) registry
      (registry.rejectLocked tenant record code observed).2 := by
  unfold rejectLocked
  cases moved : record.transition .rejected tenant.accountId observed code [code] with
  | error failure => exact .refl
  | ok updated =>
      obtain ⟨made, after, sameTime, -, rfl⟩ := DatasetAdmissionRecord.transition_eq_ok moved
      obtain rfl := opened.read
      exact .single (.rejected opened.known opened.quarantined after (sameTime ▸ opened.time))

/-- The record after an inspection is the opened one with one decision more. -/
theorem inspectedRecord_eq_ok
    {record updated : DatasetAdmissionRecord}
    {inspection : XlsxPackageInspection}
    {observed : DateTime}
    (quarantined : record.state = .quarantined)
    (made : inspectedRecord tenant record inspection observed = .ok updated) :
    ∃ decided : AdmissionDecision,
      (decided.state = .quarantined ∨ decided.state = .validated) ∧
        decided.decidedAt = observed ∧
          updated = { record.decide decided with inspection := some inspection } := by
  simp only [inspectedRecord, Checks.bind_eq_ok, Checks.pure_eq_ok] at made
  obtain ⟨moved, made, rfl⟩ := made
  unfold blockOrValidate at made
  split_ifs at made
  · simp only [DatasetAdmissionRecord.recordSameStateDecision, Checks.bind_eq_ok,
      Checks.pure_eq_ok] at made
    obtain ⟨decided, decision, rfl⟩ := made
    obtain ⟨sameState, sameTime, -⟩ := decision_eq_ok decision
    exact ⟨decided, .inl (sameState.trans quarantined), sameTime, rfl⟩
  · obtain ⟨decided, after, sameTime, -, rfl⟩ := DatasetAdmissionRecord.transition_eq_ok made
    exact ⟨decided, .inr after, sameTime, rfl⟩

/-- An inspected payload is the declared one. -/
theorem inspectPayload_eq_ok
    {declaration : DatasetDeclaration}
    {payload : List UInt8}
    {policy : XlsxInspectionPolicy}
    {inspection : XlsxPackageInspection}
    (done : inspectPayload inspector declaration payload policy = .ok (.ok inspection)) :
    Inspected inspector declaration payload policy inspection := by
  unfold inspectPayload at done
  split_ifs at done with absent mismatch
  · simp at done
  · simp at done
  · rw [not_or, not_ne_iff, not_ne_iff] at mismatch
    split at done
    · rename_i report inspected
      obtain rfl : report = inspection := by simpa using done
      exact ⟨mismatch.1, mismatch.2, inspected⟩
    · simp at done
    · simp at done

theorem concludeInspection_changes
    {datasetId : String}
    {policy : XlsxInspectionPolicy}
    {observedAt observed : DateTime}
    {stored record : DatasetAdmissionRecord}
    (opened : Opened registry tenant datasetId policy stored record observed)
    (payload : List UInt8) :
    Relation.ReflTransGen
      (Change inspector (.inspectAndValidate tenant datasetId payload policy observedAt)) registry
      (concludeInspection inspector registry tenant record payload policy observed).2 := by
  unfold concludeInspection
  cases done : inspectPayload inspector record.declaration payload policy with
  | error failure => exact .refl
  | ok outcome =>
      cases outcome with
      | error code => exact rejectLocked_changes opened code
      | ok inspection =>
          obtain rfl := opened.read
          dsimp only
          split_ifs with taken
          · exact rejectLocked_changes opened _
          · refine .head (.claimed (Bool.eq_false_iff.mpr taken)) ?_
            unfold commit
            cases made : inspectedRecord tenant (stored.withPolicy policy) inspection observed with
            | error failure => exact .refl
            | ok updated =>
                have quarantined : (stored.withPolicy policy).state = .quarantined :=
                  opened.quarantined
                obtain ⟨decided, after, sameTime, rfl⟩ := inspectedRecord_eq_ok quarantined made
                refine .single (.inspected opened.named ?_ opened.quarantined after
                  (sameTime ▸ opened.time) ?_ (inspectPayload_eq_ok done))
                · exact opened.known
                · exact Dict.get?_set_self _ _ _

/-- A call changes the registry in steps. -/
theorem perform_changes
    (inspector : XlsxPackageInspector)
    (keyed : registry.Keyed)
    (call : Call) :
    Relation.ReflTransGen (Change inspector call) registry (registry.perform inspector call).2 := by
  cases call with
  | declare tenant declaration => exact declare_changes declaration
  | admitDataset tenant datasetId datasetControl storageControl admittedAt =>
      exact admit_changes keyed datasetId datasetControl storageControl admittedAt
  | revoke tenant datasetId reasonCode revokedAt =>
      exact revoke_changes keyed datasetId reasonCode revokedAt
  | inspectAndValidate tenant datasetId payload policy observedAt =>
      simp only [perform, inspectAndValidate]
      cases opening : registry.openInspection tenant datasetId policy observedAt with
      | error failure => exact .refl
      | ok opened =>
          obtain ⟨record, observed, mustStore⟩ := opened
          obtain ⟨steps, stored, opened⟩ := openInspection_changes keyed opening
          exact steps.trans (concludeInspection_changes opened payload)

/-! ### Runs -/

theorem Keyed.put
    (keyed : registry.Keyed)
    {record : DatasetAdmissionRecord}
    (sameTenant : record.declaration.tenantId = tenant.tenantId) :
    (registry.put tenant record).Keyed := by
  unfold RealDatasetAdmissionRegistry.put Keyed
  rw [← sameTenant]
  exact Dict.IndexedBy.set keyed record

/-- A stored record declares the tenant that it is stored for. -/
theorem Keyed.tenant_eq
    (keyed : registry.Keyed)
    {record : DatasetAdmissionRecord}
    (known : registry.Known tenant record) : record.declaration.tenantId = tenant.tenantId :=
  (Prod.mk.inj (keyed.get?_eq_some_iff.mp known).2).1

/-- A record that replaces a stored one of the same declaration is keyed. -/
theorem Keyed.put_update
    (keyed : registry.Keyed)
    {stored record : DatasetAdmissionRecord}
    (known : registry.Known tenant stored)
    (same : record.declaration = stored.declaration) : (registry.put tenant record).Keyed :=
  keyed.put (same ▸ keyed.tenant_eq known)

/-- A new record is of its declaration. -/
theorem newRecord_eq_ok
    {declaration : DatasetDeclaration}
    {record : DatasetAdmissionRecord}
    (made : registry.newRecord tenant declaration = .ok record) :
    isTaken registry.originalDigestOwners (tenant.tenantId, declaration.originalFileSha256)
        declaration.datasetId = false ∧
      isTaken registry.sourceIdentityOwners declaration.sourceKey declaration.datasetId = false ∧
        ∃ decided : AdmissionDecision, decided.state = .declared ∧
          record = ⟨declaration, .declared, none, none, none, none, [], none, none, none,
            [decided]⟩ := by
  simp only [newRecord, Checks.bind_eq_ok, Checks.require_eq_ok, Checks.pure_eq_ok] at made
  obtain ⟨-, digestFree, -, sourceFree, decided, decision, rfl⟩ := made
  exact ⟨digestFree, sourceFree, decided, (decision_eq_ok decision).1, rfl⟩

/-- A declaration is of the tenant that makes it. -/
theorem tenantId_of_scopedDeclaration
    {given declaration : DatasetDeclaration}
    (inScope : scopedDeclaration tenant given = .ok declaration) :
    declaration.tenantId = tenant.tenantId := by
  simp only [scopedDeclaration, Checks.bind_eq_ok, Checks.require_eq_ok, Checks.pure_eq_ok]
    at inScope
  obtain ⟨-, sameTenant, -, -, datasetId, -, rfl⟩ := inScope
  exact sameTenant.symm

theorem Change.keyed
    {call : Call}
    {after : RealDatasetAdmissionRegistry}
    (keyed : registry.Keyed)
    (change : Change inspector call registry after) : after.Keyed := by
  cases change with
  | declared inScope fresh made =>
      obtain ⟨-, -, decided, -, rfl⟩ := newRecord_eq_ok made
      exact keyed.put (tenantId_of_scopedDeclaration inScope)
  | quarantined known before after time => exact keyed.put_update known rfl
  | rejected known before after time => exact keyed.put_update known rfl
  | claimed free => exact keyed
  | inspected named known before after time owned inspected =>
      exact keyed.put_update known rfl
  | admitted named known before after time granted datasetFree storageFree =>
      exact keyed.put_update known rfl
  | revoked known before after time => exact keyed.put_update known rfl

/-- What holds of the empty registry, survives further calls and is kept by
every step of a call holds after every run. -/
theorem afterCalls_induction
    {property : List Call → RealDatasetAdmissionRegistry → Prop}
    (initial : property [] empty)
    (grow : ∀ calls call registry, property calls registry → property (calls ++ [call]) registry)
    (step : ∀ calls call registry after, call ∈ calls → registry.Keyed → property calls registry →
      Change inspector call registry after → property calls after)
    (calls : List Call) :
    property calls (afterCalls inspector calls) := by
  have both : (afterCalls inspector calls).Keyed ∧ property calls (afterCalls inspector calls) := by
    induction calls using List.reverseRecOn with
    | nil => exact ⟨Dict.indexedBy_empty _, initial⟩
    | append_singleton calls call inductionHypothesis =>
        obtain ⟨keyed, holds⟩ := inductionHypothesis
        have grown := grow calls call _ holds
        rw [afterCalls_append]
        have present : call ∈ calls ++ [call] := List.mem_append_right _ (List.mem_singleton_self _)
        have changes := perform_changes inspector keyed call
        generalize ((afterCalls inspector calls).perform inspector call).2 = after at changes ⊢
        induction changes with
        | refl => exact ⟨keyed, grown⟩
        | tail _ change kept =>
            exact ⟨change.keyed kept.1, step _ _ _ _ present kept.1 kept.2 change⟩
  exact both.2

theorem keyed_afterCalls
    (inspector : XlsxPackageInspector)
    (calls : List Call) : (afterCalls inspector calls).Keyed :=
  afterCalls_induction (Dict.indexedBy_empty _)
    (fun _ _ _ keyed => keyed) (fun _ _ _ _ _ keyed _ change => change.keyed keyed) calls

end Steps

end RealDatasetAdmissionRegistry
end Admission
end QuantumAnalytics
