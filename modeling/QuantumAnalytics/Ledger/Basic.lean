import QuantumAnalytics.Domain.Events
import QuantumAnalytics.Domain.SourceRows
import QuantumAnalytics.Foundations.Decimal

/-!
# The in-memory ledger

The state of the append-only ledger, the errors it raises, and the typed values
it reads from event payloads.
-/

namespace QuantumAnalytics

/-- The tenant on whose behalf a call is made. -/
structure TenantContext where
  /-- The tenant's id. -/
  tenantId : String
  /-- The id is present. -/
  tenantIdNonempty : tenantId ≠ ""

/-- The codes that `CanonicalLedgerError` carries in the ledger. -/
inductive LedgerErrorCode
  | eventTypedValueInvalid
  | eventTypedIntegerInvalid
  | eventTypedDecimalInvalid
  | eventTypedStringInvalid
  | eventSourceRowNotValid
  | eventStatusNotValid
  | eventTimezoneRequired
  | eventIdempotencyKeyInvalid
  | eventSemanticHashMismatch
  | eventTenantMismatch
  | eventSourceRecordMismatch
  | eventSourceRowKeyMismatch
  | eventImportBatchMismatch
  | eventSchemaVersionMismatch
  | eventProvenanceIncomplete
  | eventProvenanceTimeMismatch
  | eventSourceFileMismatch
  | eventAdapterMismatch
  | eventAdapterVersionMismatch
  | eventSourceSchemaMismatch
  | eventRevisionConflict
  | eventSupersessionInvalid
  | eventSupersessionRequired
  | eventSupersededTargetMissing
  | eventReversalRequired
  | eventReversalInvalid
  | eventReversalTargetMissing
  | eventReversalUnitMismatch
  | eventReversalExceedsOriginal
  | sourceRowNotFound
  | validSourceRowEventRequired
  | sourceRecordConflict
  | sourceRowLocatorConflict
  | eventIdConflict
  | eventIdempotencyConflict
  | eventIdInvalid
  | eventNotFound
  | sourceRecordIdInvalid
  deriving DecidableEq

/-- The text of a code. -/
def LedgerErrorCode.text : LedgerErrorCode → String
  | eventTypedValueInvalid => "EVENT_TYPED_VALUE_INVALID"
  | eventTypedIntegerInvalid => "EVENT_TYPED_INTEGER_INVALID"
  | eventTypedDecimalInvalid => "EVENT_TYPED_DECIMAL_INVALID"
  | eventTypedStringInvalid => "EVENT_TYPED_STRING_INVALID"
  | eventSourceRowNotValid => "EVENT_SOURCE_ROW_NOT_VALID"
  | eventStatusNotValid => "EVENT_STATUS_NOT_VALID"
  | eventTimezoneRequired => "EVENT_TIMEZONE_REQUIRED"
  | eventIdempotencyKeyInvalid => "EVENT_IDEMPOTENCY_KEY_INVALID"
  | eventSemanticHashMismatch => "EVENT_SEMANTIC_HASH_MISMATCH"
  | eventTenantMismatch => "EVENT_TENANT_MISMATCH"
  | eventSourceRecordMismatch => "EVENT_SOURCE_RECORD_MISMATCH"
  | eventSourceRowKeyMismatch => "EVENT_SOURCE_ROW_KEY_MISMATCH"
  | eventImportBatchMismatch => "EVENT_IMPORT_BATCH_MISMATCH"
  | eventSchemaVersionMismatch => "EVENT_SCHEMA_VERSION_MISMATCH"
  | eventProvenanceIncomplete => "EVENT_PROVENANCE_INCOMPLETE"
  | eventProvenanceTimeMismatch => "EVENT_PROVENANCE_TIME_MISMATCH"
  | eventSourceFileMismatch => "EVENT_SOURCE_FILE_MISMATCH"
  | eventAdapterMismatch => "EVENT_ADAPTER_MISMATCH"
  | eventAdapterVersionMismatch => "EVENT_ADAPTER_VERSION_MISMATCH"
  | eventSourceSchemaMismatch => "EVENT_SOURCE_SCHEMA_MISMATCH"
  | eventRevisionConflict => "EVENT_REVISION_CONFLICT"
  | eventSupersessionInvalid => "EVENT_SUPERSESSION_INVALID"
  | eventSupersessionRequired => "EVENT_SUPERSESSION_REQUIRED"
  | eventSupersededTargetMissing => "EVENT_SUPERSEDED_TARGET_MISSING"
  | eventReversalRequired => "EVENT_REVERSAL_REQUIRED"
  | eventReversalInvalid => "EVENT_REVERSAL_INVALID"
  | eventReversalTargetMissing => "EVENT_REVERSAL_TARGET_MISSING"
  | eventReversalUnitMismatch => "EVENT_REVERSAL_UNIT_MISMATCH"
  | eventReversalExceedsOriginal => "EVENT_REVERSAL_EXCEEDS_ORIGINAL"
  | sourceRowNotFound => "SOURCE_ROW_NOT_FOUND"
  | validSourceRowEventRequired => "VALID_SOURCE_ROW_EVENT_REQUIRED"
  | sourceRecordConflict => "SOURCE_RECORD_CONFLICT"
  | sourceRowLocatorConflict => "SOURCE_ROW_LOCATOR_CONFLICT"
  | eventIdConflict => "EVENT_ID_CONFLICT"
  | eventIdempotencyConflict => "EVENT_IDEMPOTENCY_CONFLICT"
  | eventIdInvalid => "EVENT_ID_INVALID"
  | eventNotFound => "EVENT_NOT_FOUND"
  | sourceRecordIdInvalid => "SOURCE_RECORD_ID_INVALID"

/-- An exception of a ledger call: an error of the ledger itself, or a trapped
condition of the decimal context. -/
inductive LedgerFailure
  | canonical (code : LedgerErrorCode)
  | decimal (signal : DecimalSignal)
  deriving DecidableEq

/-- A check that raises `CanonicalLedgerError`. -/
abbrev Check := Except LedgerFailure

/-- `raise CanonicalLedgerError(code)` unless the condition holds. -/
abbrev ensure (condition : Prop) [Decidable condition] (code : LedgerErrorCode) : Check Unit :=
  require condition (.canonical code)

/-- `decimal.getcontext()` arithmetic inside a ledger call. -/
def inDefaultContext (result : Except DecimalSignal Decimal) : Check Decimal :=
  result.mapError LedgerFailure.decimal

/-! ### Typed payload values -/

/-- `_typed`: a member in state `VALID`. -/
def typed (payload : JsonObject) (field : String) : Check JsonObject :=
  match Json.lookup payload field with
  | some (.obj value) =>
      match Json.lookup value "state" with
      | some (.str "VALID") => .ok value
      | _ => .error (.canonical .eventTypedValueInvalid)
  | _ => .error (.canonical .eventTypedValueInvalid)

/-- `_typed_integer`: a positive integer and its unit. -/
def typedInteger (payload : JsonObject) (field : String) : Check (Int × String) := do
  let value ← typed payload field
  match Json.lookup value "value_type", Json.lookup value "value", Json.lookup value "unit" with
  | some (.str "integer"), some (.int raw), some (.str unit) => do
      ensure (0 < raw ∧ unit ≠ "") .eventTypedIntegerInvalid
      return (raw, unit)
  | _, _, _ => .error (.canonical .eventTypedIntegerInvalid)

/-- `_typed_decimal`: a finite decimal that is not negative, and its unit. -/
def typedDecimal (payload : JsonObject) (field : String) : Check (Decimal × String) := do
  let value ← typed payload field
  match Json.lookup value "value_type", Json.lookup value "value", Json.lookup value "unit" with
  | some (.str "decimal"), some (.str raw), some (.str unit) => do
      ensure (unit ≠ "") .eventTypedDecimalInvalid
      match Decimal.parse? raw with
      | some (.finite parsed) => do
          ensure (¬parsed.lt (.ofInt 0) = true) .eventTypedDecimalInvalid
          return (parsed, unit)
      | _ => .error (.canonical .eventTypedDecimalInvalid)
  | _, _, _ => .error (.canonical .eventTypedDecimalInvalid)

/-- `_typed_string`: a string that is not empty. -/
def typedString (payload : JsonObject) (field : String) : Check String := do
  let value ← typed payload field
  match Json.lookup value "value_type", Json.lookup value "value" with
  | some (.str "string"), some (.str raw) => do
      ensure (raw ≠ "") .eventTypedStringInvalid
      return raw
  | _, _ => .error (.canonical .eventTypedStringInvalid)

/-! ### State -/

/-- The five indexes of the ledger. -/
structure InMemoryCanonicalLedger where
  /-- Source rows by tenant and source record id. -/
  sourceById : Dict (String × String) ImmutableSourceRow
  /-- Source record ids by tenant, raw file and row number. -/
  sourceByLocator : Dict (String × String × Int) String
  /-- Events by tenant and event id. -/
  eventById : Dict (String × String) CanonicalEvent
  /-- Events by tenant and idempotency key. -/
  eventByIdempotency : Dict (String × String) CanonicalEvent
  /-- Events by tenant, account, business key and revision. -/
  eventByRevision : Dict (String × String × String × Int) CanonicalEvent

/-- What an append inserted. -/
structure LedgerAppendResult where
  /-- The source row was new. -/
  sourceInserted : Bool
  /-- The event was new. -/
  eventInserted : Bool
  deriving DecidableEq

/-- An event with the source row it comes from. -/
structure EventTrace where
  /-- The event. -/
  event : CanonicalEvent
  /-- Its source row. -/
  sourceRow : ImmutableSourceRow
  /-- The upload of the row. -/
  rawFileId : String
  /-- The digest of the file's bytes. -/
  sourceFileSha256 : String

namespace InMemoryCanonicalLedger

/-- The ledger without rows and events. -/
def empty : InMemoryCanonicalLedger :=
  ⟨.empty, .empty, .empty, .empty, .empty⟩

/-- The revision key of an event in a tenant. -/
def revisionKey (tenantId : String) (event : CanonicalEvent) : String × String × String × Int :=
  (tenantId, event.marketplaceAccountId, event.stableBusinessKey, event.revision)

/-- `_event_or_error`. -/
def eventOrError
    (ledger : InMemoryCanonicalLedger)
    (tenantId eventId : String)
    (code : LedgerErrorCode) : Check CanonicalEvent :=
  match ledger.eventById.get? (tenantId, eventId) with
  | some event => .ok event
  | none => .error (.canonical code)

/-- The events of a tenant in the order of their insertion. -/
def tenantEvents (ledger : InMemoryCanonicalLedger) (tenantId : String) : List CanonicalEvent :=
  (ledger.eventById.entries.filter fun entry => entry.1.1 = tenantId).map Prod.snd

/-- The provenance members that lineage requires. -/
def requiredProvenance : List String :=
  ["source_file_sha256", "source_adapter", "source_adapter_version", "source_schema_id",
    "normalization_rule_version", "actor", "created_at", "trace_id"]

/-- A provenance member equals a text. -/
def provenanceIs (event : CanonicalEvent) (field text : String) : Bool :=
  match Json.lookup event.provenance field with
  | some value => value.pyEq (.str text)
  | none => false

/-- `_validate_lineage`. -/
def validateLineage (sourceRow : ImmutableSourceRow) (event : CanonicalEvent) : Check Unit := do
  ensure (sourceRow.validationStatus = .valid) .eventSourceRowNotValid
  ensure (event.status = .valid) .eventStatusNotValid
  forM [event.eventTime, event.recognitionTime, event.createdAt] fun observed =>
    ensure (observed.isAware = true) .eventTimezoneRequired
  ensure (PyText.isHexDigest event.idempotencyKey = true) .eventIdempotencyKeyInvalid
  ensure (canonicalJsonHash (.obj event.payload) = event.semanticPayloadHash)
    .eventSemanticHashMismatch
  ensure (event.organizationId = sourceRow.tenantId) .eventTenantMismatch
  ensure (event.sourceRecordId = sourceRow.sourceRecordId) .eventSourceRecordMismatch
  ensure (event.sourceRowKey = sourceRow.sourceRowKey) .eventSourceRowKeyMismatch
  ensure (event.importBatchId = sourceRow.importBatchId) .eventImportBatchMismatch
  ensure (event.schemaVersion = sourceRow.schemaVersion) .eventSchemaVersionMismatch
  ensure (∀ field ∈ requiredProvenance, (Json.lookup event.provenance field).any Json.truthy = true)
    .eventProvenanceIncomplete
  ensure (provenanceIs event "created_at" event.createdAt.isoformat = true)
    .eventProvenanceTimeMismatch
  ensure (provenanceIs event "source_file_sha256" sourceRow.sourceFileSha256 = true)
    .eventSourceFileMismatch
  ensure (provenanceIs event "source_adapter" sourceRow.adapterId = true) .eventAdapterMismatch
  ensure (provenanceIs event "source_adapter_version" sourceRow.adapterVersion = true)
    .eventAdapterVersionMismatch
  ensure (provenanceIs event "source_schema_id" sourceRow.schemaVersion = true)
    .eventSourceSchemaMismatch

/-- The stored event, if any, is the given one. -/
def sameOrAbsent (stored : Option CanonicalEvent) (event : CanonicalEvent) : Bool :=
  stored.all fun existing => existing.pyEq event

/-- `_validate_revision`. -/
def validateRevision
    (ledger : InMemoryCanonicalLedger)
    (tenantId : String)
    (event : CanonicalEvent) : Check Unit := do
  ensure (sameOrAbsent (ledger.eventByRevision.get? (revisionKey tenantId event)) event = true)
    .eventRevisionConflict
  if event.revision = 1 then
    ensure (event.supersedesEventId = none) .eventSupersessionInvalid
  else
    match event.supersedesEventId with
    | none => .error (.canonical .eventSupersessionRequired)
    | some supersedes => do
        let previous ← ledger.eventOrError tenantId supersedes .eventSupersededTargetMissing
        ensure (previous.marketplaceAccountId = event.marketplaceAccountId ∧
            previous.stableBusinessKey = event.stableBusinessKey ∧
            previous.eventType = event.eventType ∧
            previous.revision + 1 = event.revision)
          .eventSupersessionInvalid

/-- `_active_reversals`. -/
def activeReversals
    (ledger : InMemoryCanonicalLedger)
    (tenantId originalEventId : String)
    (candidate : CanonicalEvent) : List CanonicalEvent :=
  let superseded := (ledger.tenantEvents tenantId).filterMap (fun item => item.supersedesEventId) ++
    candidate.supersedesEventId.toList
  (ledger.tenantEvents tenantId).filter fun item =>
    item.eventId ≠ candidate.eventId ∧ item.eventId ∉ superseded ∧
      item.eventType = "RETURN_ACCEPTED" ∧ item.reversalOfEventId = some originalEventId

/-- The loop of `_validate_reversal` over the active reversals. -/
def totalReversed (product unit currency : String) :
    List CanonicalEvent → Int × Decimal → Check (Int × Decimal)
  | [], totals => .ok totals
  | existing :: rest, (reversedQuantity, reversedAmount) => do
      let (quantity, quantityUnit) ← typedInteger existing.payload "quantity"
      let (amount, amountUnit) ← typedDecimal existing.payload "gross_amount"
      let existingProduct ← typedString existing.payload "product_external_id"
      ensure (existingProduct = product ∧ quantityUnit = unit ∧ amountUnit = currency)
        .eventReversalUnitMismatch
      let total ← inDefaultContext (Decimal.add .default reversedAmount amount)
      totalReversed product unit currency rest (reversedQuantity + quantity, total)

/-- `_validate_reversal` of an event that names the sale it reverses. -/
def validateReversalOf
    (ledger : InMemoryCanonicalLedger)
    (tenantId originalEventId : String)
    (event : CanonicalEvent) : Check Unit := do
  let original ← ledger.eventOrError tenantId originalEventId .eventReversalTargetMissing
  ensure (original.marketplaceAccountId = event.marketplaceAccountId ∧
      original.eventType = "SALE_RECOGNIZED")
    .eventReversalInvalid
  let originalProduct ← typedString original.payload "product_external_id"
  let reversalProduct ← typedString event.payload "product_external_id"
  let (originalQuantity, quantityUnit) ← typedInteger original.payload "quantity"
  let (reversedQuantity, reversalQuantityUnit) ← typedInteger event.payload "quantity"
  let (originalAmount, amountUnit) ← typedDecimal original.payload "gross_amount"
  let (reversedAmount, reversalAmountUnit) ← typedDecimal event.payload "gross_amount"
  ensure (originalProduct = reversalProduct ∧ quantityUnit = reversalQuantityUnit ∧
      amountUnit = reversalAmountUnit)
    .eventReversalUnitMismatch
  let (totalQuantity, totalAmount) ← totalReversed originalProduct quantityUnit amountUnit
    (ledger.activeReversals tenantId original.eventId event) (reversedQuantity, reversedAmount)
  ensure (¬(originalQuantity < totalQuantity ∨ originalAmount.lt totalAmount = true))
    .eventReversalExceedsOriginal

/-- `_validate_reversal`. -/
def validateReversal
    (ledger : InMemoryCanonicalLedger)
    (tenantId : String)
    (event : CanonicalEvent) : Check Unit :=
  if event.eventType = "RETURN_ACCEPTED" then
    match event.reversalOfEventId with
    | none => .error (.canonical .eventReversalRequired)
    | some originalEventId => ledger.validateReversalOf tenantId originalEventId event
  else
    ensure (event.reversalOfEventId = none) .eventReversalInvalid

end InMemoryCanonicalLedger
end QuantumAnalytics
