import QuantumAnalytics.Ledger.Append

/-!
# What the checks accept

Each validator succeeds exactly when its argument has the stated form. Later
modules use these readings and never unfold a validator.
-/

namespace QuantumAnalytics

namespace InMemoryCanonicalLedger

variable {ledger : InMemoryCanonicalLedger} {tenantId : String}

/-- A stored event can be read. -/
@[simp] theorem eventOrError_eq_ok
    {eventId : String}
    {code : LedgerErrorCode}
    {event : CanonicalEvent} :
    ledger.eventOrError tenantId eventId code = .ok event ↔
      ledger.eventById.get? (tenantId, eventId) = some event := by
  unfold eventOrError
  split <;> simp_all

/-- The link between an event and its source row. -/
structure Lineage (sourceRow : ImmutableSourceRow) (event : CanonicalEvent) : Prop where
  rowValid : sourceRow.validationStatus = .valid
  eventValid : event.status = .valid
  recognitionAware : event.recognitionTime.isAware = true
  tenant : event.organizationId = sourceRow.tenantId
  record : event.sourceRecordId = sourceRow.sourceRecordId
  rowKey : event.sourceRowKey = sourceRow.sourceRowKey
  batch : event.importBatchId = sourceRow.importBatchId
  schema : event.schemaVersion = sourceRow.schemaVersion
  fileDigest : provenanceIs event "source_file_sha256" sourceRow.sourceFileSha256 = true
  adapter : provenanceIs event "source_adapter" sourceRow.adapterId = true
  adapterVersion : provenanceIs event "source_adapter_version" sourceRow.adapterVersion = true
  sourceSchema : provenanceIs event "source_schema_id" sourceRow.schemaVersion = true

/-- An accepted lineage agrees on every shared field. -/
theorem lineage_of_validateLineage
    {sourceRow : ImmutableSourceRow}
    {event : CanonicalEvent}
    (accepted : validateLineage sourceRow event = .ok ()) : Lineage sourceRow event := by
  simp only [validateLineage, Checks.bind_done_eq_ok, Checks.require_eq_ok,
    Checks.forM_require_eq_ok] at accepted
  obtain ⟨rowValid, eventValid, aware, _, _, tenant, record, rowKey, batch, schema, _, _,
    fileDigest, adapter, adapterVersion, sourceSchema⟩ := accepted
  exact { rowValid, eventValid, tenant, record, rowKey, batch, schema, fileDigest, adapter,
          adapterVersion, sourceSchema
          recognitionAware := aware event.recognitionTime (by simp) }

/-- A row is accepted without an event when it is not valid, and with an event
that it is the lineage of. -/
def Linked (item : LedgerItem) : Prop :=
  match item.2 with
  | none => item.1.validationStatus ≠ .valid
  | some event => validateLineage item.1 event = .ok ()

/-- The row checks. -/
theorem validateRow_eq_ok {item : LedgerItem} :
    ledger.validateRow tenantId item.1 item.2 = .ok () ↔
      item.1.tenantId = tenantId ∧ Linked item ∧
      (∀ existing, ledger.sourceById.get? (tenantId, item.1.sourceRecordId) = some existing →
        existing.contentFingerprint = item.1.contentFingerprint) ∧
      (∀ existing, ledger.sourceByLocator.get? (locatorKey tenantId item.1) = some existing →
        existing = item.1.sourceRecordId) := by
  obtain ⟨sourceRow, event⟩ := item
  cases event <;> simp [validateRow, Linked, Option.all_eq_true]

/-- What the event checks require of the supersession link. -/
def RevisionLinked
    (ledger : InMemoryCanonicalLedger)
    (tenantId : String)
    (event : CanonicalEvent) : Prop :=
  if event.revision = 1 then event.supersedesEventId = none
  else
    ∃ supersedes previous, event.supersedesEventId = some supersedes ∧
      ledger.eventById.get? (tenantId, supersedes) = some previous ∧
      previous.marketplaceAccountId = event.marketplaceAccountId ∧
      previous.stableBusinessKey = event.stableBusinessKey ∧
      previous.eventType = event.eventType ∧
      previous.revision + 1 = event.revision

/-- The revision checks. -/
theorem validateRevision_eq_ok {event : CanonicalEvent} :
    ledger.validateRevision tenantId event = .ok () ↔
      sameOrAbsent (ledger.eventByRevision.get? (revisionKey tenantId event)) event = true ∧
      RevisionLinked ledger tenantId event := by
  unfold validateRevision RevisionLinked
  split
  · simp
  · cases event.supersedesEventId <;> simp

/-- The event checks. -/
theorem validateEvent_eq_ok {event : CanonicalEvent} :
    ledger.validateEvent tenantId event = .ok () ↔
      sameOrAbsent (ledger.eventById.get? (tenantId, event.eventId)) event = true ∧
      sameOrAbsent (ledger.eventByIdempotency.get? (tenantId, event.idempotencyKey)) event =
        true ∧
      ledger.validateRevision tenantId event = .ok () ∧
      ledger.validateReversal tenantId event = .ok () := by
  simp [validateEvent]

/-- An item is accepted when its row is and its event, if any, is. -/
theorem validateAppend_eq_ok {item : LedgerItem} :
    ledger.validateAppend tenantId item = .ok () ↔
      ledger.validateRow tenantId item.1 item.2 = .ok () ∧
      ∀ event, item.2 = some event → ledger.validateEvent tenantId event = .ok () := by
  obtain ⟨sourceRow, event⟩ := item
  cases event <;> simp [validateAppend]

end InMemoryCanonicalLedger
end QuantumAnalytics
