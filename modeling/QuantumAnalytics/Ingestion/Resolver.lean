import QuantumAnalytics.Ingestion.Rows
import QuantumAnalytics.Ingestion.Storage

/-!
# Resolving a batch

The candidates of an import are staged on a copy of the ledger. A round tries
the candidates that are left, in order, and settles the first one that does not
wait for an event: it is accepted, or quarantined when a business rule rejects
it. Any other exception ends the import.
-/

namespace QuantumAnalytics

/-- The codes that the ingestor itself raises. -/
inductive IngestErrorCode
  | csvDecodeFailed
  | csvHeaderMissing
  | csvRowShapeInvalid
  | csvParseFailed
  | batchDependencyUnresolved
  | marketplaceAccountIdRequired
  | adapterIdRequired
  | adapterVersionRequired
  | ingestedAtTimezoneRequired
  | rawFileNotValid
  | sourceSchemaUnsupported
  | structuralFingerprintRequired
  | semanticFingerprintRequired
  deriving DecidableEq

/-- The text of a code. -/
def IngestErrorCode.text : IngestErrorCode → String
  | csvDecodeFailed => "CSV_DECODE_FAILED"
  | csvHeaderMissing => "CSV_HEADER_MISSING"
  | csvRowShapeInvalid => "CSV_ROW_SHAPE_INVALID"
  | csvParseFailed => "CSV_PARSE_FAILED"
  | batchDependencyUnresolved => "BATCH_DEPENDENCY_UNRESOLVED"
  | marketplaceAccountIdRequired => "MARKETPLACE_ACCOUNT_ID_REQUIRED"
  | adapterIdRequired => "ADAPTER_ID_REQUIRED"
  | adapterVersionRequired => "ADAPTER_VERSION_REQUIRED"
  | ingestedAtTimezoneRequired => "INGESTED_AT_TIMEZONE_REQUIRED"
  | rawFileNotValid => "RAW_FILE_NOT_VALID"
  | sourceSchemaUnsupported => "SOURCE_SCHEMA_UNSUPPORTED"
  | structuralFingerprintRequired => "STRUCTURAL_FINGERPRINT_REQUIRED"
  | semanticFingerprintRequired => "SEMANTIC_FINGERPRINT_REQUIRED"

/-- An exception of an ingest call. -/
inductive IngestFailure
  /-- `CanonicalLedgerError` of the ingestor. -/
  | canonical (code : IngestErrorCode)
  /-- An exception of a ledger call. -/
  | ledger (failure : LedgerFailure)
  /-- `RawStorageError`. -/
  | storage (code : RawStorageErrorCode)
  /-- `ValueError` of a source row. -/
  | value (message : String)
  /-- `csv.Error` while the header is read. -/
  | csv
  /-- `TypeError`: a naive and an aware time are compared. -/
  | type
  /-- `OverflowError`: the time of the call cannot be expressed in UTC. -/
  | overflow
  deriving DecidableEq

/-- `_MISSING_DEPENDENCY_CODES`. -/
def missingDependencyCodes : List LedgerErrorCode :=
  [.eventSupersededTargetMissing, .eventReversalTargetMissing]

/-- `_ROW_QUARANTINE_CODES`. -/
def rowQuarantineCodes : List LedgerErrorCode :=
  [.eventSupersessionInvalid, .eventReversalInvalid, .eventReversalRequired,
    .eventReversalExceedsOriginal, .eventReversalUnitMismatch]

namespace Candidate

/-- The first member of `_candidate_order`. -/
def rank (candidate : Candidate) (supersededTargets : List String) : Nat :=
  if candidate.event.supersedesEventId.isSome then 0
  else if candidate.event.eventId ∈ supersededTargets then 1
  else 2

/-- `_candidate_order(left) <= _candidate_order(right)`. -/
def precedes (supersededTargets : List String) (left right : Candidate) : Bool :=
  let leftRank := left.rank supersededTargets
  let rightRank := right.rank supersededTargets
  let leftTime := left.event.recognitionTime.instant
  let rightTime := right.event.recognitionTime.instant
  leftRank < rightRank || leftRank == rightRank &&
    (leftTime < rightTime || leftTime == rightTime && left.event.eventId ≤ right.event.eventId)

/-- `left == right` of the dataclass. -/
def pyEq (left right : Candidate) : Bool :=
  left.sourceRow.pyEq right.sourceRow && left.event.pyEq right.event

@[simp] theorem pyEq_refl (candidate : Candidate) : pyEq candidate candidate = true := by
  simp [pyEq]

/-- `_quarantine_candidate`. -/
def quarantine (candidate : Candidate) (diagnostics : List String) :
    Except String ImmutableSourceRow :=
  ImmutableSourceRow.make
    { candidate.sourceRow.toSourceRowFields with
      validationStatus := .quarantined
      diagnostics := diagnostics }

end Candidate

/-- The events that the candidates supersede. -/
def supersededTargets (pending : List Candidate) : List String :=
  pending.filterMap fun candidate => candidate.event.supersedesEventId

/-- `sorted` by `_candidate_order`. Comparing a naive with an aware time of one
rank raises, and a sort always compares some such pair. -/
def inOrder (pending : List Candidate) : Except IngestFailure (List Candidate) :=
  if ∀ left ∈ pending, ∀ right ∈ pending,
      left.rank (supersededTargets pending) = right.rank (supersededTargets pending) →
      left.event.recognitionTime.isAware = right.event.recognitionTime.isAware then
    .ok (pending.mergeSort (Candidate.precedes (supersededTargets pending)))
  else .error .type

/-- A candidate that a round settles. -/
structure Settled where
  /-- The candidate. -/
  candidate : Candidate
  /-- What is planned for it. -/
  item : LedgerItem
  /-- The staging ledger after it. -/
  staging : InMemoryCanonicalLedger

/-- The handler of a rejected candidate whose code quarantines the row. -/
def quarantineOn
    (staging : InMemoryCanonicalLedger)
    (tenant : TenantContext)
    (candidate : Candidate)
    (code : LedgerErrorCode) : Except IngestFailure (Option Settled) :=
  match candidate.quarantine [code.text] with
  | .error message => .error (.value message)
  | .ok quarantined =>
      match staging.append tenant (quarantined, none) with
      | (.error failure, _) => .error (.ledger failure)
      | (.ok _, after) => .ok (some ⟨candidate, (quarantined, none), after⟩)

/-- The inner loop of `_resolve_batch`: the first candidate that can be settled,
if any. -/
def attempt (staging : InMemoryCanonicalLedger) (tenant : TenantContext) :
    List Candidate → Except IngestFailure (Option Settled)
  | [] => .ok none
  | candidate :: rest =>
      match staging.append tenant candidate.item with
      | (.ok _, after) => .ok (some ⟨candidate, candidate.item, after⟩)
      | (.error (.decimal signal), _) => .error (.ledger (.decimal signal))
      | (.error (.canonical code), after) =>
          if code ∈ missingDependencyCodes then attempt after tenant rest
          else if code ∈ rowQuarantineCodes then quarantineOn after tenant candidate code
          else .error (.ledger (.canonical code))

/-- `pending.remove(candidate)`. -/
def removeCandidate (candidate : Candidate) (pending : List Candidate) : List Candidate :=
  pending.eraseP fun other => other.pyEq candidate

/-- One pass of the outer loop of `_resolve_batch`. -/
def settleNext
    (staging : InMemoryCanonicalLedger)
    (tenant : TenantContext)
    (pending : List Candidate) : Except IngestFailure Settled :=
  match inOrder pending with
  | .error failure => .error failure
  | .ok ordered =>
      match attempt staging tenant ordered with
      | .error failure => .error failure
      | .ok none => .error (.canonical .batchDependencyUnresolved)
      | .ok (some settled) => .ok settled

/-- The outer loop of `_resolve_batch`, with the number of candidates as fuel:
the plan and the staging ledger after it. -/
def resolvePending (tenant : TenantContext) :
    Nat → InMemoryCanonicalLedger → List Candidate →
      Except IngestFailure (List LedgerItem × InMemoryCanonicalLedger)
  | _, staging, [] => .ok ([], staging)
  | 0, _, _ :: _ => .error (.canonical .batchDependencyUnresolved)
  | fuel + 1, staging, candidate :: candidates => do
      let settled ← settleNext staging tenant (candidate :: candidates)
      let (planned, final) ← resolvePending tenant fuel settled.staging
        (removeCandidate settled.candidate (candidate :: candidates))
      return (settled.item :: planned, final)

/-- The rows that are quarantined at once, as ledger items. -/
def immediateItems (immediate : List ImmutableSourceRow) : List LedgerItem :=
  immediate.map fun row => (row, none)

/-- `_resolve_batch`, with the staging ledger that its plan leaves. -/
def stageBatch
    (ledger : InMemoryCanonicalLedger)
    (tenant : TenantContext)
    (immediate : List ImmutableSourceRow)
    (candidates : List Candidate) :
    Except IngestFailure (List LedgerItem × InMemoryCanonicalLedger) :=
  match ledger.fork.appendItems tenant.tenantId (immediateItems immediate) with
  | (.error failure, _) => .error (.ledger failure)
  | (.ok _, staging) => do
      let (planned, final) ← resolvePending tenant candidates.length staging candidates
      return (immediateItems immediate ++ planned, final)

/-- `_resolve_batch`. -/
def resolveBatch
    (ledger : InMemoryCanonicalLedger)
    (tenant : TenantContext)
    (immediate : List ImmutableSourceRow)
    (candidates : List Candidate) : Except IngestFailure (List LedgerItem) :=
  (stageBatch ledger tenant immediate candidates).map Prod.fst

end QuantumAnalytics
