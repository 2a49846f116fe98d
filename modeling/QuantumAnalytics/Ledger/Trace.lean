import QuantumAnalytics.Ledger.Examples
import QuantumAnalytics.Ledger.Indexes

/-!
# Lineage of stored events

Every stored event has a stored source row that agrees with it, and every valid
source row is the source of a stored event. A row that arrives again is only
compared by its content fingerprint, so lineage rests on different rows of a
run having different fingerprints.
-/

namespace QuantumAnalytics

namespace ImmutableSourceRow

/-- Different contents among the given rows have different fingerprints. -/
def FingerprintsDistinct (rows : Set ImmutableSourceRow) : Prop :=
  Sha256.CollisionFree (contentText '' rows)

/-- Where fingerprints are distinct, equal fingerprints mean equal contents. -/
theorem FingerprintsDistinct.contentFields_eq
    {rows : Set ImmutableSourceRow}
    (distinct : FingerprintsDistinct rows)
    {left right : ImmutableSourceRow}
    (leftPresent : left ∈ rows)
    (rightPresent : right ∈ rows)
    (same : left.contentFingerprint = right.contentFingerprint) :
    left.contentFields = right.contentFields :=
  contentFields_eq_of_contentText
    (distinct (Set.mem_image_of_mem _ leftPresent) (Set.mem_image_of_mem _ rightPresent) same)

end ImmutableSourceRow

namespace InMemoryCanonicalLedger

variable {ledger : InMemoryCanonicalLedger} {tenantId : String} {item : LedgerItem}

/-- Lineage only looks at what the content fingerprint covers. -/
theorem Lineage.of_contentFields
    {left right : ImmutableSourceRow}
    {event : CanonicalEvent}
    (lineage : Lineage right event)
    (same : left.contentFields = right.contentFields) : Lineage left event := by
  simp only [ImmutableSourceRow.contentFields, List.cons.injEq, Prod.mk.injEq, Json.str.injEq,
    true_and] at same
  obtain ⟨record, tenant, fileDigest, batch, _, rowKey, _, _, _, _, status, _, adapter,
    adapterVersion, schema, _⟩ := same
  exact {
    rowValid := (SourceRowStatus.text_injective status).trans lineage.rowValid
    eventValid := lineage.eventValid
    recognitionAware := lineage.recognitionAware
    tenant := lineage.tenant.trans tenant.symm
    record := lineage.record.trans record.symm
    rowKey := lineage.rowKey.trans rowKey.symm
    batch := lineage.batch.trans batch.symm
    schema := lineage.schema.trans schema.symm
    fileDigest := fileDigest ▸ lineage.fileDigest
    adapter := adapter ▸ lineage.adapter
    adapterVersion := adapterVersion ▸ lineage.adapterVersion
    sourceSchema := schema ▸ lineage.sourceSchema }

/-- Rows with the same content have the same id. -/
theorem idKey_of_contentFields
    {left right : ImmutableSourceRow}
    (same : left.contentFields = right.contentFields) : left.idKey = right.idKey := by
  simp only [ImmutableSourceRow.contentFields, List.cons.injEq, Prod.mk.injEq, Json.str.injEq,
    true_and] at same
  simp [ImmutableSourceRow.idKey, same]

/-- Events and rows of the ledger belong together. -/
structure Traced (ledger : InMemoryCanonicalLedger) : Prop where
  eventSource : ∀ event ∈ ledger.events, ∃ row ∈ ledger.sourceRows,
    row.idKey = (event.organizationId, event.sourceRecordId) ∧ Lineage row event
  rowEvent : ∀ row ∈ ledger.sourceRows, row.validationStatus = .valid →
    ∃ event ∈ ledger.events, (event.organizationId, event.sourceRecordId) = row.idKey
  locator : ∀ entry ∈ ledger.sourceByLocator.entries,
    ∃ row ∈ ledger.sourceRows, row.idKey = (entry.1.1, entry.2)

namespace Traced

/-- The empty ledger is traced. -/
theorem empty : Traced (InMemoryCanonicalLedger.empty) := by
  constructor <;> simp [events, sourceRows, InMemoryCanonicalLedger.empty]

/-- After an accepted append the ledger has a row with the id and the content
of the appended one. -/
theorem exists_row_after
    (indexed : Indexed ledger)
    {rows : Set ImmutableSourceRow}
    (distinct : ImmutableSourceRow.FingerprintsDistinct rows)
    (stored : ∀ row ∈ ledger.sourceRows, row ∈ rows)
    (appended : item.1 ∈ rows)
    (accepted : ledger.validateAppend tenantId item = .ok ()) :
    ∃ row ∈ (ledger.writeItem tenantId item).sourceRows,
      row.contentFields = item.1.contentFields := by
  obtain ⟨_, _, sameContent, _⟩ := validateRow_eq_ok.mp (validateAppend_eq_ok.mp accepted).1
  rw [sourceRows_writeItem]
  cases found : ledger.sourceById.get? (tenantId, item.1.sourceRecordId) with
  | none => exact ⟨item.1, by simp [newRow, found], rfl⟩
  | some existing =>
      have present := (indexed.rows.get?_eq_some_iff.mp found).1
      exact ⟨existing, List.mem_append_left _ present,
        distinct.contentFields_eq (stored existing present) appended
          (sameContent existing found)⟩

/-- An accepted append keeps the ledger traced. -/
theorem append
    (traced : Traced ledger)
    (indexed : Indexed ledger)
    {rows : Set ImmutableSourceRow}
    (distinct : ImmutableSourceRow.FingerprintsDistinct rows)
    (stored : ∀ row ∈ ledger.sourceRows, row ∈ rows)
    (appended : item.1 ∈ rows)
    (accepted : ledger.validateAppend tenantId item = .ok ()) :
    Traced (ledger.writeItem tenantId item) := by
  obtain ⟨row, rowStored, content⟩ :=
    exists_row_after indexed distinct stored appended accepted
  have rowTenant := (validateRow_eq_ok.mp (validateAppend_eq_ok.mp accepted).1).1
  have keeps : ∀ old ∈ ledger.sourceRows, old ∈ (ledger.writeItem tenantId item).sourceRows := by
    intro old present
    rw [sourceRows_writeItem]
    exact List.mem_append_left _ present
  refine ⟨?_, ?_, ?_⟩
  · intro event present
    rw [events_writeItem, List.mem_append] at present
    rcases present with old | new
    · obtain ⟨source, sourceStored, lineage⟩ := traced.eventSource event old
      exact ⟨source, keeps source sourceStored, lineage⟩
    · obtain ⟨carried, _⟩ := newEvent_eq_some.mp (Option.mem_toList.mp new)
      obtain ⟨_, _, lineage⟩ := lineage_of_accepted accepted carried
      refine ⟨row, rowStored, ?_, lineage.of_contentFields content⟩
      rw [idKey_of_contentFields content, ImmutableSourceRow.idKey, lineage.tenant,
        lineage.record]
  · intro valid present isValid
    rw [sourceRows_writeItem, List.mem_append] at present
    rcases present with old | new
    · obtain ⟨event, eventStored, source⟩ := traced.rowEvent valid old isValid
      refine ⟨event, ?_, source⟩
      rw [events_writeItem]
      exact List.mem_append_left _ eventStored
    · -- A new valid row comes with an event, which is new or already stored.
      have isItem : valid = item.1 := by
        rw [Option.mem_toList, newRow] at new
        split at new <;> simp_all
      subst isItem
      obtain ⟨_, linked, _⟩ := validateRow_eq_ok.mp (validateAppend_eq_ok.mp accepted).1
      obtain ⟨carriedRow, carriedEvent⟩ := item
      cases carriedEvent with
      | none => exact absurd isValid linked
      | some event =>
          obtain ⟨_, organization, lineage⟩ := lineage_of_accepted accepted rfl
          have sourceKey : (event.organizationId, event.sourceRecordId) = carriedRow.idKey := by
            rw [ImmutableSourceRow.idKey, lineage.tenant, lineage.record]
          cases found : ledger.eventById.get? (tenantId, event.eventId) with
          | none =>
              refine ⟨event, ?_, sourceKey⟩
              rw [events_writeItem, newEvent_eq_some.mpr ⟨rfl, found⟩]
              simp
          | some existing =>
              have consistent := (validateEvent_eq_ok.mp
                ((validateAppend_eq_ok.mp accepted).2 event rfl)).1
              have same := CanonicalEvent.pyEq_keys
                (sameOrAbsent_iff.mp consistent existing found)
              refine ⟨existing, ?_, ?_⟩
              · rw [events_writeItem]
                exact List.mem_append_left _ (indexed.byId.get?_eq_some_iff.mp found).1
              · rw [← sourceKey, same.2.1, same.2.2.2.2.1]
  · intro entry present
    rw [(writeItem_rows _ _ _).2] at present
    rcases Dict.mem_entries_set.mp present with rfl | ⟨_, old⟩
    · refine ⟨row, rowStored, ?_⟩
      rw [idKey_of_contentFields content, ImmutableSourceRow.idKey, rowTenant]
      rfl
    · obtain ⟨target, targetStored, key⟩ := traced.locator entry old
      exact ⟨target, keeps target targetStored, key⟩

end Traced

/-- In a run whose rows all come from a collection with distinct fingerprints,
the stored rows do too, and the ledger is traced. -/
theorem ReachableBy.traced
    {rows : Set ImmutableSourceRow}
    (distinct : ImmutableSourceRow.FingerprintsDistinct rows)
    (reachable : ReachableBy (fun step => step.item.1 ∈ rows) ledger) :
    (∀ row ∈ ledger.sourceRows, row ∈ rows) ∧ Traced ledger := by
  induction reachable with
  | empty => exact ⟨by simp [sourceRows, InMemoryCanonicalLedger.empty], Traced.empty⟩
  | @append before tenantId item earlier accepted guarded inductionHypothesis =>
      obtain ⟨stored, traced⟩ := inductionHypothesis
      refine ⟨?_, traced.append earlier.indexed distinct stored guarded accepted⟩
      intro row present
      rw [sourceRows_writeItem, List.mem_append] at present
      rcases present with old | new
      · exact stored row old
      · rw [Option.mem_toList, newRow] at new
        split at new <;> simp_all

/-! ### Index agreement -/

/-- The indexes agree, events and rows belong together, and every event that is
listed can be traced. -/
structure IndexAgreement (ledger : InMemoryCanonicalLedger) : Prop where
  /-- The by-id map holds each event under its tenant and id. -/
  idKeys : ∀ key event, ledger.eventById.get? key = some event →
    key = (event.organizationId, event.eventId)
  /-- The by-idempotency map holds each event under its tenant and idempotency key. -/
  idempotencyKeys : ∀ key event, ledger.eventByIdempotency.get? key = some event →
    key = (event.organizationId, event.idempotencyKey)
  /-- The by-revision map holds each event under its tenant, account, business
  key and revision. -/
  revisionKeys : ∀ key event, ledger.eventByRevision.get? key = some event →
    key = (event.organizationId, event.marketplaceAccountId, event.stableBusinessKey,
      event.revision)
  /-- The by-id and the by-idempotency map hold the same events. -/
  sameIdempotency : ∀ event,
    event ∈ ledger.eventById.values ↔ event ∈ ledger.eventByIdempotency.values
  /-- The by-id and the by-revision map hold the same events. -/
  sameRevision : ∀ event,
    event ∈ ledger.eventById.values ↔ event ∈ ledger.eventByRevision.values
  /-- The source row of a stored event is stored, valid and agrees with it. -/
  eventSource : ∀ event ∈ ledger.eventById.values, ∃ row,
    ledger.sourceById.get? (event.organizationId, event.sourceRecordId) = some row ∧
      row.validationStatus = .valid ∧
      row.tenantId = event.organizationId ∧
      row.importBatchId = event.importBatchId ∧
      row.sourceRowKey = event.sourceRowKey ∧
      row.schemaVersion = event.schemaVersion ∧
      provenanceIs event "source_file_sha256" row.sourceFileSha256 = true ∧
      provenanceIs event "source_adapter" row.adapterId = true ∧
      provenanceIs event "source_adapter_version" row.adapterVersion = true ∧
      provenanceIs event "source_schema_id" row.schemaVersion = true
  /-- Every valid row is the source of a stored event of its tenant. -/
  validRow : ∀ row ∈ ledger.sourceById.values, row.validationStatus = .valid →
    ∃ event ∈ ledger.eventById.values,
      event.organizationId = row.tenantId ∧ event.sourceRecordId = row.sourceRecordId
  /-- No quarantined row is the source of a stored event of its tenant. -/
  quarantinedRow : ∀ row ∈ ledger.sourceById.values, row.validationStatus = .quarantined →
    ¬∃ event ∈ ledger.eventById.values,
      event.organizationId = row.tenantId ∧ event.sourceRecordId = row.sourceRecordId
  /-- Every locator leads to a stored row of its tenant. -/
  locator : ∀ tenantId rawFileId rowNumber sourceRecordId,
    ledger.sourceByLocator.get? (tenantId, rawFileId, rowNumber) = some sourceRecordId →
    ∃ row, ledger.sourceById.get? (tenantId, sourceRecordId) = some row ∧ row.tenantId = tenantId
  /-- Every listed event can be traced, to its own row. -/
  traceable : ∀ (tenant : TenantContext), ∀ event ∈ ledger.listEvents tenant,
    ∃ row, ledger.sourceById.get? (tenant.tenantId, event.sourceRecordId) = some row ∧
      ledger.traceEvent tenant event.eventId =
        .ok ⟨event, row, row.rawFileId, row.sourceFileSha256⟩

/-- A row is found under its own key. -/
theorem get?_of_mem_sourceRows
    (indexed : Indexed ledger)
    {row : ImmutableSourceRow}
    (stored : row ∈ ledger.sourceRows) :
    ledger.sourceById.get? row.idKey = some row :=
  indexed.rows.get?_eq_some_iff.mpr ⟨stored, rfl⟩

/-- The events of a tenant are those with its id. -/
theorem mem_tenantEvents
    (indexed : Indexed ledger)
    {event : CanonicalEvent} :
    event ∈ ledger.tenantEvents tenantId ↔
      event ∈ ledger.events ∧ event.organizationId = tenantId := by
  simp only [tenantEvents, List.mem_map, List.mem_filter, decide_eq_true_eq, events, Dict.values]
  constructor
  · rintro ⟨entry, ⟨present, scope⟩, rfl⟩
    refine ⟨⟨entry, present, rfl⟩, ?_⟩
    rw [← scope, indexed.byId entry present]
    rfl
  · rintro ⟨⟨entry, present, rfl⟩, rfl⟩
    refine ⟨entry, ⟨present, ?_⟩, rfl⟩
    rw [indexed.byId entry present]
    rfl

/-- A traced ledger with agreeing indexes is in agreement throughout. -/
theorem indexAgreement_of_traced
    (indexed : Indexed ledger)
    (traced : Traced ledger) : IndexAgreement ledger where
  idKeys key event found := (indexed.byId.get?_eq_some_iff.mp found).2.symm
  idempotencyKeys key event found := (indexed.byIdempotency.get?_eq_some_iff.mp found).2.symm
  revisionKeys key event found := (indexed.byRevision.get?_eq_some_iff.mp found).2.symm
  sameIdempotency event := by rw [indexed.idempotencyValues, events]
  sameRevision event := by rw [indexed.revisionValues, events]
  eventSource event stored := by
    obtain ⟨row, rowStored, key, lineage⟩ := traced.eventSource event stored
    refine ⟨row, ?_, lineage.rowValid, lineage.tenant.symm, lineage.batch.symm,
      lineage.rowKey.symm, lineage.schema.symm, lineage.fileDigest, lineage.adapter,
      lineage.adapterVersion, lineage.sourceSchema⟩
    rw [← key]
    exact get?_of_mem_sourceRows indexed rowStored
  validRow row stored isValid := by
    obtain ⟨event, eventStored, key⟩ := traced.rowEvent row stored isValid
    exact ⟨event, eventStored, congrArg Prod.fst key, congrArg Prod.snd key⟩
  quarantinedRow row stored isQuarantined := by
    rintro ⟨event, eventStored, tenant, record⟩
    obtain ⟨source, sourceStored, key, lineage⟩ := traced.eventSource event eventStored
    have same : source = row := indexed.rows.eq_of_key_eq sourceStored stored
      (by rw [key, tenant, record]; rfl)
    have isValid := lineage.rowValid
    rw [same, isQuarantined] at isValid
    exact absurd isValid (by decide)
  locator tenantId rawFileId rowNumber sourceRecordId found := by
    obtain ⟨row, rowStored, key⟩ := traced.locator _ (Dict.get?_eq_some_iff.mp found)
    refine ⟨row, ?_, congrArg Prod.fst key⟩
    rw [← key]
    exact get?_of_mem_sourceRows indexed rowStored
  traceable tenant event listed := by
    rw [listEvents, List.mem_mergeSort] at listed
    obtain ⟨stored, organization⟩ := (mem_tenantEvents indexed).mp listed
    obtain ⟨row, rowStored, key, lineage⟩ := traced.eventSource event stored
    have eventFound : ledger.eventById.get? (tenant.tenantId, event.eventId) = some event :=
      indexed.byId.get?_eq_some_iff.mpr ⟨stored, by rw [← organization]; rfl⟩
    have rowFound : ledger.sourceById.get? (tenant.tenantId, event.sourceRecordId) = some row := by
      rw [← organization, ← key]
      exact get?_of_mem_sourceRows indexed rowStored
    refine ⟨row, rowFound, ?_⟩
    simp [traceEvent, getEvent, getSourceRow, eventFound, rowFound, event.eventId_ne_empty,
      event.sourceRecordId_ne_empty]

/-- In every ledger that a sequence of calls leaves, the indexes agree and
every event can be traced to its source row, if different contents of the rows
that the run committed have different fingerprints. -/
theorem indexAgreement_afterCalls
    (calls : List LedgerCall)
    (distinct : ImmutableSourceRow.FingerprintsDistinct
      {row | ∃ step ∈ committedSteps calls, step.item.1 = row}) :
    IndexAgreement (afterCalls calls) := by
  have reachable : ReachableBy
      (fun step => step.item.1 ∈ {row | ∃ step ∈ committedSteps calls, step.item.1 = row})
      (afterCalls calls) :=
    reachableBy_afterCalls fun step accepted => ⟨step, accepted, rfl⟩
  exact indexAgreement_of_traced reachable.indexed (reachable.traced distinct).2

/-- The indexes agree after a single sale. -/
theorem indexAgreement_sale :
    IndexAgreement (afterCalls (appendCalls [.sale 2 "10"])) := by
  have run := afterCalls_of_acceptsAll [.sale 2 "10"] (by decide +kernel)
  refine indexAgreement_afterCalls _ (Set.Subsingleton.injOn ?_ _)
  rw [run.2]
  rintro _ ⟨left, ⟨leftStep, leftPresent, rfl⟩, rfl⟩ _ ⟨right, ⟨rightStep, rightPresent, rfl⟩, rfl⟩
  simp only [operationSteps, List.mem_singleton] at leftPresent rightPresent
  rw [leftPresent, rightPresent]

end InMemoryCanonicalLedger
end QuantumAnalytics
