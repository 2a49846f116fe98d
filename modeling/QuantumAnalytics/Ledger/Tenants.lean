import QuantumAnalytics.Foundations.Isolation
import QuantumAnalytics.Ledger.Examples

/-!
# Isolation of tenants

Every key of the five indexes starts with a tenant. The entries of a tenant
decide the outcome of its calls and change only by its calls, so what other
tenants do is invisible to it.
-/

namespace QuantumAnalytics
namespace InMemoryCanonicalLedger

variable {ledger : InMemoryCanonicalLedger} {tenantId other : String} {item : LedgerItem}

/-- The part of the ledger under the keys of a tenant. -/
def ofTenant (tenantId : String) (ledger : InMemoryCanonicalLedger) :
    InMemoryCanonicalLedger where
  sourceById := ledger.sourceById.filterKeys fun key => key.1 = tenantId
  sourceByLocator := ledger.sourceByLocator.filterKeys fun key => key.1 = tenantId
  eventById := ledger.eventById.filterKeys fun key => key.1 = tenantId
  eventByIdempotency := ledger.eventByIdempotency.filterKeys fun key => key.1 = tenantId
  eventByRevision := ledger.eventByRevision.filterKeys fun key => key.1 = tenantId

/-! ### What a tenant reads -/

@[simp] theorem get?_sourceById_ofTenant (recordId : String) :
    (ledger.ofTenant tenantId).sourceById.get? (tenantId, recordId) =
      ledger.sourceById.get? (tenantId, recordId) :=
  Dict.get?_filterKeys (by simp)

@[simp] theorem get?_sourceByLocator_ofTenant (row : ImmutableSourceRow) :
    (ledger.ofTenant tenantId).sourceByLocator.get? (locatorKey tenantId row) =
      ledger.sourceByLocator.get? (locatorKey tenantId row) :=
  Dict.get?_filterKeys (by simp [locatorKey])

@[simp] theorem get?_eventById_ofTenant (eventId : String) :
    (ledger.ofTenant tenantId).eventById.get? (tenantId, eventId) =
      ledger.eventById.get? (tenantId, eventId) :=
  Dict.get?_filterKeys (by simp)

@[simp] theorem get?_eventByIdempotency_ofTenant (idempotencyKey : String) :
    (ledger.ofTenant tenantId).eventByIdempotency.get? (tenantId, idempotencyKey) =
      ledger.eventByIdempotency.get? (tenantId, idempotencyKey) :=
  Dict.get?_filterKeys (by simp)

@[simp] theorem get?_eventByRevision_ofTenant (event : CanonicalEvent) :
    (ledger.ofTenant tenantId).eventByRevision.get? (revisionKey tenantId event) =
      ledger.eventByRevision.get? (revisionKey tenantId event) :=
  Dict.get?_filterKeys (by simp [revisionKey])

@[simp] theorem tenantEvents_ofTenant :
    (ledger.ofTenant tenantId).tenantEvents tenantId = ledger.tenantEvents tenantId := by
  simp [tenantEvents, ofTenant, Dict.entries_filterKeys]

@[simp] theorem eventOrError_ofTenant (eventId : String) (code : LedgerErrorCode) :
    (ledger.ofTenant tenantId).eventOrError tenantId eventId code =
      ledger.eventOrError tenantId eventId code := by
  simp only [eventOrError, get?_eventById_ofTenant]

/-- The reversal check of a tenant reads its own entries. -/
theorem validateReversal_ofTenant (event : CanonicalEvent) :
    (ledger.ofTenant tenantId).validateReversal tenantId event =
      ledger.validateReversal tenantId event := by
  simp only [validateReversal, validateReversalOf, activeReversals, eventOrError_ofTenant,
    tenantEvents_ofTenant]

/-- The checks of a tenant's append read its own entries. -/
theorem validateAppend_ofTenant :
    (ledger.ofTenant tenantId).validateAppend tenantId item =
      ledger.validateAppend tenantId item := by
  simp only [validateAppend, validateRow, validateEvent, validateRevision,
    validateReversal_ofTenant, eventOrError_ofTenant, get?_sourceById_ofTenant,
    get?_sourceByLocator_ofTenant, get?_eventById_ofTenant, get?_eventByIdempotency_ofTenant,
    get?_eventByRevision_ofTenant]

/-- What a tenant's append inserts depends on its own entries. -/
theorem insertions_ofTenant :
    (ledger.ofTenant tenantId).insertions tenantId item = ledger.insertions tenantId item := by
  simp only [insertions, get?_sourceById_ofTenant, get?_eventById_ofTenant]

/-! ### What a tenant writes -/

theorem writeRow_ofTenant (sourceRow : ImmutableSourceRow) (sourceInserted : Bool) :
    (ledger.ofTenant tenantId).writeRow tenantId sourceRow sourceInserted =
      (ledger.writeRow tenantId sourceRow sourceInserted).ofTenant tenantId := by
  cases sourceInserted <;> simp [writeRow, ofTenant, Dict.filterKeys_set_of_kept, locatorKey]

theorem writeEvent_ofTenant (event : CanonicalEvent) :
    (ledger.ofTenant tenantId).writeEvent tenantId event =
      (ledger.writeEvent tenantId event).ofTenant tenantId := by
  simp [writeEvent, ofTenant, Dict.filterKeys_set_of_kept, revisionKey]

/-- A tenant's append writes to its own entries. -/
theorem writeItem_ofTenant :
    (ledger.ofTenant tenantId).writeItem tenantId item =
      (ledger.writeItem tenantId item).ofTenant tenantId := by
  obtain ⟨sourceRow, event⟩ := item
  cases event with
  | none => simp only [writeItem, insertions_ofTenant, writeRow_ofTenant]
  | some event =>
      simp only [writeItem, insertions_ofTenant, writeRow_ofTenant, writeEvent_ofTenant]
      split <;> rfl

theorem ofTenant_writeRow
    (different : other ≠ tenantId)
    (sourceRow : ImmutableSourceRow)
    (sourceInserted : Bool) :
    (ledger.writeRow other sourceRow sourceInserted).ofTenant tenantId =
      ledger.ofTenant tenantId := by
  cases sourceInserted <;>
    simp [writeRow, ofTenant, Dict.filterKeys_set_of_not_kept, locatorKey, different]

theorem ofTenant_writeEvent (different : other ≠ tenantId) (event : CanonicalEvent) :
    (ledger.writeEvent other event).ofTenant tenantId = ledger.ofTenant tenantId := by
  simp [writeEvent, ofTenant, Dict.filterKeys_set_of_not_kept, revisionKey, different]

/-- The append of another tenant leaves a tenant's entries alone. -/
theorem ofTenant_writeItem (different : other ≠ tenantId) :
    (ledger.writeItem other item).ofTenant tenantId = ledger.ofTenant tenantId := by
  obtain ⟨sourceRow, event⟩ := item
  cases event with
  | none => simp only [writeItem, ofTenant_writeRow different]
  | some event =>
      simp only [writeItem]
      split
      · rw [ofTenant_writeEvent different, ofTenant_writeRow different]
      · rw [ofTenant_writeRow different]

/-! ### Calls -/

/-- What a call returns or raises. -/
inductive CallOutcome
  | append (result : Check LedgerAppendResult)
  | appendBatch (results : Check (List LedgerAppendResult))

/-- The tenant that makes a call. -/
def callTenantId : LedgerCall → String
  | .append tenant _ => tenant.tenantId
  | .appendBatch tenant _ => tenant.tenantId

/-- The ledger as a system whose calls belong to tenants. -/
def callSystem : OwnedSystem InMemoryCanonicalLedger LedgerCall CallOutcome String where
  step ledger
    | .append tenant item =>
        let (result, after) := ledger.append tenant item
        (.append result, after)
    | .appendBatch tenant items =>
        let (results, after) := ledger.appendBatch tenant items
        (.appendBatch results, after)
  owner := callTenantId

/-- The system runs as the ledger does. -/
theorem callSystem_run (calls : List LedgerCall) :
    callSystem.run InMemoryCanonicalLedger.empty calls = afterCalls calls := by
  have step : (fun (ledger : InMemoryCanonicalLedger) call => (callSystem.step ledger call).2) =
      afterCall := by
    funext ledger call
    cases call <;> rfl
  rw [OwnedSystem.run, step, afterCalls]

/-- A tenant's append has the same outcome on its own entries. -/
theorem appendLocked_ofTenant :
    (ledger.ofTenant tenantId).appendLocked tenantId item =
      ((ledger.appendLocked tenantId item).1,
        (ledger.appendLocked tenantId item).2.ofTenant tenantId) := by
  simp only [appendLocked, validateAppend_ofTenant, insertions_ofTenant, writeItem_ofTenant]
  cases ledger.validateAppend tenantId item <;> rfl

/-- The items of a tenant's batch have the same outcome on its own entries. -/
theorem appendItems_ofTenant (items : List LedgerItem) :
    (ledger.ofTenant tenantId).appendItems tenantId items =
      ((ledger.appendItems tenantId items).1,
        (ledger.appendItems tenantId items).2.ofTenant tenantId) := by
  induction items generalizing ledger with
  | nil => rfl
  | cons item items inductionHypothesis =>
      rw [appendItems, appendItems, appendLocked_ofTenant]
      rcases ledger.appendLocked tenantId item with ⟨_ | result, after⟩
      · rfl
      · simp only [inductionHypothesis]

/-- The items of another tenant's batch leave a tenant's entries alone. -/
theorem ofTenant_appendItems
    (ledger : InMemoryCanonicalLedger)
    (different : other ≠ tenantId)
    (items : List LedgerItem) :
    (ledger.appendItems other items).2.ofTenant tenantId = ledger.ofTenant tenantId := by
  induction items generalizing ledger with
  | nil => rfl
  | cons item items inductionHypothesis =>
      rw [appendItems]
      cases checked : ledger.validateAppend other item with
      | error failure => rw [appendLocked_of_error checked]
      | ok done =>
          rw [appendLocked_of_ok checked]
          exact (inductionHypothesis _).trans (ofTenant_writeItem different)

/-- The entries of a tenant isolate it. -/
theorem isolates_ofTenant (tenantId : String) :
    callSystem.Isolates tenantId (ofTenant tenantId) where
  outcome ledger call isOwn := by
    cases call with
    | append tenant item =>
        obtain rfl : tenant.tenantId = tenantId := isOwn
        simp only [callSystem, append, appendLocked_ofTenant]
    | appendBatch tenant items =>
        obtain rfl : tenant.tenantId = tenantId := isOwn
        simp only [callSystem, appendBatch, appendItems_ofTenant]
        rcases ledger.appendItems tenant.tenantId items with ⟨_ | results, after⟩ <;> rfl
  own ledger call isOwn := by
    cases call with
    | append tenant item =>
        obtain rfl : tenant.tenantId = tenantId := isOwn
        simp only [callSystem, append, appendLocked_ofTenant]
    | appendBatch tenant items =>
        obtain rfl : tenant.tenantId = tenantId := isOwn
        simp only [callSystem, appendBatch, appendItems_ofTenant]
        rcases ledger.appendItems tenant.tenantId items with ⟨_ | results, after⟩ <;> rfl
  other ledger call notOwn := by
    cases call with
    | append tenant item =>
        have different : tenant.tenantId ≠ tenantId := notOwn
        simp only [callSystem, append]
        cases checked : ledger.validateAppend tenant.tenantId item with
        | error failure => rw [appendLocked_of_error checked]
        | ok done => rw [appendLocked_of_ok checked, ofTenant_writeItem different]
    | appendBatch tenant items =>
        have different : tenant.tenantId ≠ tenantId := notOwn
        simp only [callSystem, appendBatch]
        cases outcome : ledger.appendItems tenant.tenantId items with
        | mk result after =>
            cases result with
            | error failure => rfl
            | ok results =>
                have unchanged := ofTenant_appendItems ledger different items
                rwa [outcome] at unchanged

/-! ### Queries -/

/-- Two ledgers answer every query of a tenant alike. -/
structure SameAnswers (tenant : TenantContext) (left right : InMemoryCanonicalLedger) : Prop where
  getEvent : ∀ eventId, left.getEvent tenant eventId = right.getEvent tenant eventId
  getSourceRow : ∀ sourceRecordId,
    left.getSourceRow tenant sourceRecordId = right.getSourceRow tenant sourceRecordId
  hasEvent : ∀ eventId, left.hasEventFor tenant eventId = right.hasEventFor tenant eventId
  traceEvent : ∀ eventId, left.traceEvent tenant eventId = right.traceEvent tenant eventId
  listEvents : left.listEvents tenant = right.listEvents tenant
  listSourceRows : left.listSourceRows tenant = right.listSourceRows tenant

/-- A tenant's own entries answer all of its queries. -/
theorem sameAnswers_ofTenant (ledger : InMemoryCanonicalLedger) (tenant : TenantContext) :
    SameAnswers tenant (ledger.ofTenant tenant.tenantId) ledger where
  getEvent eventId := by simp only [InMemoryCanonicalLedger.getEvent, eventOrError_ofTenant]
  getSourceRow sourceRecordId := by
    simp only [InMemoryCanonicalLedger.getSourceRow, get?_sourceById_ofTenant]
  hasEvent eventId := by simp only [hasEventFor, get?_eventById_ofTenant]
  traceEvent eventId := by
    simp only [InMemoryCanonicalLedger.traceEvent, InMemoryCanonicalLedger.getEvent,
      InMemoryCanonicalLedger.getSourceRow, eventOrError_ofTenant, get?_sourceById_ofTenant]
  listEvents := by simp only [InMemoryCanonicalLedger.listEvents, tenantEvents_ofTenant]
  listSourceRows := by
    simp [InMemoryCanonicalLedger.listSourceRows, ofTenant, Dict.entries_filterKeys]

/-- Two runs in which a tenant makes the same calls, whatever other tenants do
in between, give these calls the same outcomes and answer the tenant's queries
alike. -/
theorem tenant_noninterference
    (tenant : TenantContext)
    (left right : List LedgerCall)
    (same : callSystem.callsOf tenant.tenantId left = callSystem.callsOf tenant.tenantId right) :
    callSystem.outcomes tenant.tenantId InMemoryCanonicalLedger.empty left =
        callSystem.outcomes tenant.tenantId InMemoryCanonicalLedger.empty right ∧
      SameAnswers tenant (afterCalls left) (afterCalls right) := by
  obtain ⟨outcomes, parts⟩ := (isolates_ofTenant tenant.tenantId).noninterference
    InMemoryCanonicalLedger.empty same
  rw [callSystem_run, callSystem_run] at parts
  have fromLeft := sameAnswers_ofTenant (afterCalls left) tenant
  have fromRight := sameAnswers_ofTenant (afterCalls right) tenant
  rw [parts] at fromLeft
  refine ⟨outcomes, {
    getEvent := fun eventId => (fromLeft.getEvent eventId).symm.trans (fromRight.getEvent eventId)
    getSourceRow := fun recordId =>
      (fromLeft.getSourceRow recordId).symm.trans (fromRight.getSourceRow recordId)
    hasEvent := fun eventId => (fromLeft.hasEvent eventId).symm.trans (fromRight.hasEvent eventId)
    traceEvent := fun eventId =>
      (fromLeft.traceEvent eventId).symm.trans (fromRight.traceEvent eventId)
    listEvents := fromLeft.listEvents.symm.trans fromRight.listEvents
    listSourceRows := fromLeft.listSourceRows.symm.trans fromRight.listSourceRows }⟩

/-- A tenant with another id. -/
def otherTenant : TenantContext := ⟨"other", by decide⟩

/-- Another tenant's appends between a sale and its return are invisible. -/
theorem tenant_noninterference_sale :
    SameAnswers Operation.tenant
      (afterCalls (appendCalls [.sale 2 "10", .firstReturn 1 "5"]))
      (afterCalls
        [.append Operation.tenant (Operation.sale 2 "10").item,
          .append otherTenant (Operation.sale 2 "10").item,
          .appendBatch otherTenant [(Operation.firstReturn 1 "5").item],
          .append Operation.tenant (Operation.firstReturn 1 "5").item]) := by
  refine (tenant_noninterference Operation.tenant _ _ ?_).2
  simp [OwnedSystem.callsOf, callSystem, callTenantId, appendCalls, Operation.tenant, otherTenant]

end InMemoryCanonicalLedger
end QuantumAnalytics
