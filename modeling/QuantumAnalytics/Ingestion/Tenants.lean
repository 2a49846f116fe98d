import QuantumAnalytics.Foundations.IsolatedCalls
import QuantumAnalytics.Ingestion.Pipeline
import QuantumAnalytics.Ledger.Tenants

/-!
# Isolation of tenants in imports

An import reads the directory of its tenant and plans on a copy of the ledger. The plan
depends on the tenant's own entries of the ledger and is appended to them, so what other
tenants import is invisible to it.
-/

namespace QuantumAnalytics

open InMemoryCanonicalLedger (CallOutcome LedgerCall SameAnswers isolates_ofTenant
  appendItems_ofTenant)
open OwnedSystem (Inside)

/-! ### What a tenant reads -/

namespace LocalRawStorage

variable {storage : LocalRawStorage} {tenant : TenantContext}

/-- The files of a directory. -/
def ofToken (token : String) (storage : LocalRawStorage) : LocalRawStorage where
  metadata := storage.metadata.filterKeys fun key => key.1 = token
  content := storage.content.filterKeys fun key => key.1 = token

@[simp] theorem getRecord_ofToken (rawFileId : String) :
    (storage.ofToken (tenantToken tenant)).getRecord tenant rawFileId =
      storage.getRecord tenant rawFileId := by
  have found : ∀ normalizedId,
      (storage.ofToken (tenantToken tenant)).metadata.get? (tenantToken tenant, normalizedId) =
        storage.metadata.get? (tenantToken tenant, normalizedId) := fun normalizedId =>
    Dict.get?_filterKeys (by simp)
  simp only [getRecord, found]

@[simp] theorem read_ofToken (rawFileId : String) :
    (storage.ofToken (tenantToken tenant)).read tenant rawFileId =
      storage.read tenant rawFileId := by
  have found : ∀ digest,
      (storage.ofToken (tenantToken tenant)).content.get? (tenantToken tenant, digest) =
        storage.content.get? (tenantToken tenant, digest) := fun digest =>
    Dict.get?_filterKeys (by simp)
  simp only [read, getRecord_ofToken, found]

end LocalRawStorage

theorem openImport_ofToken (storage : LocalRawStorage) (arguments : IngestArguments) :
    openImport (storage.ofToken (LocalRawStorage.tenantToken arguments.tenant)) arguments =
      openImport storage arguments := by
  simp only [openImport, LocalRawStorage.getRecord_ofToken, LocalRawStorage.read_ofToken]

/-! ### Plans -/

section Plans

variable {ledger staging : InMemoryCanonicalLedger} {tenant : TenantContext}

/-- A settled candidate with the tenant's entries of the staging ledger. -/
def Settled.ofTenant (tenantId : String) (settled : Settled) : Settled :=
  { settled with staging := settled.staging.ofTenant tenantId }

theorem append_ofTenant (item : LedgerItem) :
    (ledger.ofTenant tenant.tenantId).append tenant item =
      ((ledger.append tenant item).1, (ledger.append tenant item).2.ofTenant tenant.tenantId) :=
  InMemoryCanonicalLedger.appendLocked_ofTenant

theorem quarantineOn_ofTenant (candidate : Candidate) (code : LedgerErrorCode) :
    quarantineOn (staging.ofTenant tenant.tenantId) tenant candidate code =
      (quarantineOn staging tenant candidate code).map
        (Option.map (Settled.ofTenant tenant.tenantId)) := by
  unfold quarantineOn
  cases candidate.quarantine [code.text] with
  | error message => rfl
  | ok quarantined =>
      dsimp only
      rw [append_ofTenant]
      rcases staging.append tenant (quarantined, none) with ⟨_ | _, after⟩ <;> rfl

/-- The first candidate that can be settled is the same on the tenant's entries. -/
theorem attempt_ofTenant (candidates : List Candidate) :
    attempt (staging.ofTenant tenant.tenantId) tenant candidates =
      (attempt staging tenant candidates).map (Option.map (Settled.ofTenant tenant.tenantId)) := by
  induction candidates generalizing staging with
  | nil => rfl
  | cons candidate candidates inductionHypothesis =>
      rw [attempt, attempt, append_ofTenant]
      rcases staging.append tenant candidate.item with ⟨outcome, after⟩
      cases outcome with
      | ok result => rfl
      | error failure =>
          cases failure with
          | decimal signal => rfl
          | canonical code =>
              dsimp only
              split
              · exact inductionHypothesis
              · split
                · exact quarantineOn_ofTenant candidate code
                · rfl

theorem settleNext_ofTenant (pending : List Candidate) :
    settleNext (staging.ofTenant tenant.tenantId) tenant pending =
      (settleNext staging tenant pending).map (Settled.ofTenant tenant.tenantId) := by
  unfold settleNext
  cases inOrder pending with
  | error failure => rfl
  | ok ordered =>
      dsimp only
      rw [attempt_ofTenant]
      rcases attempt staging tenant ordered with failure | _ | settled <;> rfl

/-- The rounds of a batch settle the same candidates on the tenant's entries. -/
theorem resolvePending_ofTenant (fuel : Nat) (pending : List Candidate) :
    resolvePending tenant fuel (staging.ofTenant tenant.tenantId) pending =
      (resolvePending tenant fuel staging pending).map
        (Prod.map id (InMemoryCanonicalLedger.ofTenant tenant.tenantId)) := by
  induction fuel generalizing staging pending with
  | zero => cases pending <;> rfl
  | succ fuel inductionHypothesis =>
      cases pending with
      | nil => rfl
      | cons candidate candidates =>
          rw [resolvePending, resolvePending, settleNext_ofTenant]
          cases settleNext staging tenant (candidate :: candidates) with
          | error failure => rfl
          | ok settled =>
              have rest := @inductionHypothesis settled.staging
                (removeCandidate settled.candidate (candidate :: candidates))
              simp only [Except.map, Checks.ok_bind, Settled.ofTenant, rest]
              cases resolvePending tenant fuel settled.staging
                (removeCandidate settled.candidate (candidate :: candidates)) <;> rfl

/-- The plan of a batch depends on the tenant's entries. -/
theorem resolveBatch_ofTenant
    (immediate : List ImmutableSourceRow)
    (candidates : List Candidate) :
    resolveBatch (ledger.ofTenant tenant.tenantId) tenant immediate candidates =
      resolveBatch ledger tenant immediate candidates := by
  have forked : (ledger.ofTenant tenant.tenantId).fork = ledger.fork.ofTenant tenant.tenantId := rfl
  rw [resolveBatch, resolveBatch, stageBatch, stageBatch, forked, appendItems_ofTenant]
  rcases ledger.fork.appendItems tenant.tenantId (immediateItems immediate) with ⟨_ | _, staging⟩
  · rfl
  · dsimp only
    rw [resolvePending_ofTenant]
    cases resolvePending tenant candidates.length staging candidates <;> rfl

theorem planImport_ofTenant (storage : LocalRawStorage) (arguments : IngestArguments) :
    planImport storage (ledger.ofTenant arguments.tenant.tenantId) arguments =
      planImport storage ledger arguments := by
  simp only [planImport, resolveBatch_ofTenant]

end Plans

/-! ### Calls -/

/-- A call of the ingestor, with the storage as it then is, or of the ledger. -/
inductive IngestCall
  | ingest (storage : LocalRawStorage) (arguments : IngestArguments)
  | ledger (call : LedgerCall)

namespace IngestCall

/-- What a call returns or raises. -/
inductive Outcome
  | ingest (result : Except IngestFailure CanonicalImportResult)
  | ledger (outcome : CallOutcome)

/-- The tenant that makes a call. -/
def tenantId : IngestCall → String
  | .ingest _ arguments => arguments.tenant.tenantId
  | .ledger call => InMemoryCanonicalLedger.callTenantId call

/-- A call with the directory of its tenant. -/
def view : IngestCall → IngestCall
  | .ingest storage arguments =>
      .ingest (storage.ofToken (LocalRawStorage.tenantToken arguments.tenant)) arguments
  | .ledger call => .ledger call

/-- The ledger as a system whose calls, those of the ingestor included, belong to tenants. -/
def system : OwnedSystem InMemoryCanonicalLedger IngestCall Outcome String where
  step ledger
    | .ingest storage arguments =>
        let (result, after) := QuantumAnalytics.ingest storage ledger arguments
        (.ingest result, after)
    | .ledger call =>
        let (outcome, after) := InMemoryCanonicalLedger.callSystem.step ledger call
        (.ledger outcome, after)
  owner := tenantId

/-- A call reads the directory of its tenant. -/
theorem reads_view : system.Reads view where
  owner call := by cases call <;> rfl
  step ledger call := by
    cases call with
    | ingest storage arguments =>
        simp only [view, system, QuantumAnalytics.ingest, planImport, openImport_ofToken]
    | ledger call => rfl

/-- An import of a tenant on its own entries. -/
theorem inside_ingest
    (ledger : InMemoryCanonicalLedger)
    (storage : LocalRawStorage)
    (arguments : IngestArguments) :
    Inside (InMemoryCanonicalLedger.ofTenant arguments.tenant.tenantId)
      (QuantumAnalytics.ingest storage (ledger.ofTenant arguments.tenant.tenantId) arguments)
      (QuantumAnalytics.ingest storage ledger arguments) := by
  unfold QuantumAnalytics.ingest
  rw [planImport_ofTenant]
  cases planImport storage ledger arguments with
  | error failure => exact .refl _ _
  | ok plan =>
      simp only [InMemoryCanonicalLedger.appendBatch, appendItems_ofTenant]
      rcases ledger.appendItems arguments.tenant.tenantId plan.planned with ⟨_ | _, after⟩
      · exact .refl _ _
      · exact .refl _ _

/-- An import of another tenant leaves a tenant's entries alone. -/
theorem ofTenant_ingest
    {tenantId : String}
    (ledger : InMemoryCanonicalLedger)
    (storage : LocalRawStorage)
    (arguments : IngestArguments)
    (different : arguments.tenant.tenantId ≠ tenantId) :
    (QuantumAnalytics.ingest storage ledger arguments).2.ofTenant tenantId =
      ledger.ofTenant tenantId := by
  unfold QuantumAnalytics.ingest
  cases planImport storage ledger arguments with
  | error failure => rfl
  | ok plan =>
      have kept := (isolates_ofTenant tenantId).other ledger
        (.appendBatch arguments.tenant plan.planned) different
      simp only [InMemoryCanonicalLedger.callSystem] at kept
      dsimp only
      rcases appended : ledger.appendBatch arguments.tenant plan.planned with ⟨_ | _, after⟩
      · rw [appended] at kept
        exact kept
      · rw [appended] at kept
        exact kept

/-- The entries of a tenant isolate it. -/
theorem isolates_tenant (tenantId : String) :
    system.Isolates tenantId (InMemoryCanonicalLedger.ofTenant tenantId) := by
  have ofLedger := isolates_ofTenant tenantId
  apply OwnedSystem.isolates_of_inside
  · rintro ledger call rfl
    cases call with
    | ingest storage arguments => exact (inside_ingest ledger storage arguments).map Outcome.ingest
    | ledger call =>
        have outcome := ofLedger.outcome ledger call rfl
        exact ⟨congrArg Outcome.ledger outcome, ofLedger.own ledger call rfl⟩
  · intro ledger call different
    cases call with
    | ingest storage arguments => exact ofTenant_ingest ledger storage arguments different
    | ledger call => exact ofLedger.other ledger call different

/-- Two runs in which a tenant makes the same calls and finds the same files in its
directory, whatever other tenants import, append and store in between, give these calls
the same outcomes and answer the tenant's queries alike. -/
theorem ingest_noninterference
    (tenant : TenantContext)
    {left right : List IngestCall}
    (same : (system.callsOf tenant.tenantId left).map view =
      (system.callsOf tenant.tenantId right).map view) :
    system.outcomes tenant.tenantId InMemoryCanonicalLedger.empty left =
        system.outcomes tenant.tenantId InMemoryCanonicalLedger.empty right ∧
      SameAnswers tenant (system.run InMemoryCanonicalLedger.empty left)
        (system.run InMemoryCanonicalLedger.empty right) := by
  obtain ⟨outcomes, parts⟩ := (isolates_tenant tenant.tenantId).noninterference_of_reads reads_view
    InMemoryCanonicalLedger.empty same
  refine ⟨outcomes, ?_⟩
  have fromLeft := InMemoryCanonicalLedger.sameAnswers_ofTenant
    (system.run InMemoryCanonicalLedger.empty left) tenant
  have fromRight := InMemoryCanonicalLedger.sameAnswers_ofTenant
    (system.run InMemoryCanonicalLedger.empty right) tenant
  rw [parts] at fromLeft
  exact {
    getEvent := fun eventId => (fromLeft.getEvent eventId).symm.trans (fromRight.getEvent eventId)
    getSourceRow := fun recordId =>
      (fromLeft.getSourceRow recordId).symm.trans (fromRight.getSourceRow recordId)
    hasEvent := fun eventId => (fromLeft.hasEvent eventId).symm.trans (fromRight.hasEvent eventId)
    traceEvent := fun eventId =>
      (fromLeft.traceEvent eventId).symm.trans (fromRight.traceEvent eventId)
    listEvents := fromLeft.listEvents.symm.trans fromRight.listEvents
    listSourceRows := fromLeft.listSourceRows.symm.trans fromRight.listSourceRows }

/-- An import of a file by the tenant of the sale. -/
def importOf (storage : LocalRawStorage) : IngestCall :=
  .ingest storage
    { tenant := Operation.tenant
      rawFileId := Operation.rawFileId
      marketplaceAccountId := "account"
      now := (Operation.sale 2 "10").time }

/-- A storage with a file of another tenant. -/
def otherFile : LocalRawStorage :=
  ⟨Dict.empty.set (LocalRawStorage.tenantToken InMemoryCanonicalLedger.otherTenant,
    Operation.rawFileId) none, Dict.empty⟩

/-- The sale, the import and the file of another tenant are invisible. -/
theorem ingest_noninterference_file :
    SameAnswers Operation.tenant
      (system.run InMemoryCanonicalLedger.empty [importOf ⟨Dict.empty, Dict.empty⟩])
      (system.run InMemoryCanonicalLedger.empty
        [.ledger (.append InMemoryCanonicalLedger.otherTenant (Operation.sale 2 "10").item),
          importOf otherFile]) := by
  have different : LocalRawStorage.tenantToken InMemoryCanonicalLedger.otherTenant ≠
      LocalRawStorage.tenantToken Operation.tenant := by decide +kernel
  have hidden : otherFile.ofToken (LocalRawStorage.tenantToken Operation.tenant) =
      LocalRawStorage.ofToken (LocalRawStorage.tenantToken Operation.tenant)
        ⟨Dict.empty, Dict.empty⟩ := by
    simp [LocalRawStorage.ofToken, otherFile, Dict.filterKeys_set_of_not_kept, different]
  have others : InMemoryCanonicalLedger.otherTenant.tenantId ≠ Operation.tenant.tenantId := by
    decide
  refine (ingest_noninterference Operation.tenant ?_).2
  simp only [OwnedSystem.callsOf, system, importOf, tenantId,
    InMemoryCanonicalLedger.callTenantId, others, List.filter_cons, List.filter_nil, decide_true,
    decide_false, if_true, Bool.false_eq_true, if_false, List.map_cons, List.map_nil, view, hidden]

end IngestCall
end QuantumAnalytics
