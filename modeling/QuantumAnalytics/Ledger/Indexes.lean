import QuantumAnalytics.Ledger.Validation

/-!
# Index agreement

The three event indexes hold the same events, each under the key derived from
the event, and an accepted append inserts an event into all of them or into
none. The remaining invariants are therefore stated about the list of stored
events, which an append leaves alone or extends by one event.
-/

namespace QuantumAnalytics

namespace CanonicalEvent

/-- The key of an event in the by-id index. -/
def idKey (event : CanonicalEvent) : String × String := (event.organizationId, event.eventId)

/-- The key of an event in the by-idempotency index. -/
def idempotencyIndexKey (event : CanonicalEvent) : String × String :=
  (event.organizationId, event.idempotencyKey)

/-- The key of an event in the by-revision index. -/
def revisionIndexKey (event : CanonicalEvent) : String × String × String × Int :=
  InMemoryCanonicalLedger.revisionKey event.organizationId event

/-- Equal events agree on everything that the ledger links events by. -/
theorem pyEq_keys
    {left right : CanonicalEvent}
    (same : left.pyEq right = true) :
    left.eventId = right.eventId ∧ left.organizationId = right.organizationId ∧
      left.idempotencyKey = right.idempotencyKey ∧
      left.revisionIndexKey = right.revisionIndexKey ∧
      left.sourceRecordId = right.sourceRecordId ∧
      left.eventType = right.eventType ∧
      left.supersedesEventId = right.supersedesEventId ∧
      left.reversalOfEventId = right.reversalOfEventId := by
  simp only [pyEq, Bool.and_eq_true, beq_iff_eq] at same
  simp [revisionIndexKey, InMemoryCanonicalLedger.revisionKey, same]

end CanonicalEvent

namespace ImmutableSourceRow

/-- The key of a row in the by-id index. -/
def idKey (row : ImmutableSourceRow) : String × String := (row.tenantId, row.sourceRecordId)

end ImmutableSourceRow

namespace InMemoryCanonicalLedger

variable {ledger : InMemoryCanonicalLedger} {tenantId : String} {item : LedgerItem}

/-- The stored events, oldest first. -/
def events (ledger : InMemoryCanonicalLedger) : List CanonicalEvent := ledger.eventById.values

/-- The stored source rows, oldest first. -/
def sourceRows (ledger : InMemoryCanonicalLedger) : List ImmutableSourceRow :=
  ledger.sourceById.values

/-- Every index holds its values under their own keys, and the event indexes
hold the same events. -/
structure Indexed (ledger : InMemoryCanonicalLedger) : Prop where
  byId : ledger.eventById.IndexedBy CanonicalEvent.idKey
  byIdempotency : ledger.eventByIdempotency.IndexedBy CanonicalEvent.idempotencyIndexKey
  byRevision : ledger.eventByRevision.IndexedBy CanonicalEvent.revisionIndexKey
  idempotencyValues : ledger.eventByIdempotency.values = ledger.events
  revisionValues : ledger.eventByRevision.values = ledger.events
  rows : ledger.sourceById.IndexedBy ImmutableSourceRow.idKey

/-- The event that an append inserts. -/
def newEvent
    (ledger : InMemoryCanonicalLedger)
    (tenantId : String)
    (item : LedgerItem) : Option CanonicalEvent :=
  item.2.filter fun event => (ledger.eventById.get? (tenantId, event.eventId)).isNone

/-- The row that an append inserts. -/
def newRow
    (ledger : InMemoryCanonicalLedger)
    (tenantId : String)
    (item : LedgerItem) : Option ImmutableSourceRow :=
  if (ledger.sourceById.get? (tenantId, item.1.sourceRecordId)).isNone then some item.1 else none

/-- A new event is the item's event and has an unused id. -/
theorem newEvent_eq_some {event : CanonicalEvent} :
    ledger.newEvent tenantId item = some event ↔
      item.2 = some event ∧ ledger.eventById.get? (tenantId, event.eventId) = none := by
  simp [newEvent, Option.filter_eq_some_iff]

/-- No event is new when there is none or its id is taken. -/
theorem newEvent_eq_none :
    ledger.newEvent tenantId item = none ↔
      ∀ event, item.2 = some event →
        ∃ stored, ledger.eventById.get? (tenantId, event.eventId) = some stored := by
  simp [newEvent, Option.filter_eq_none_iff, Option.ne_none_iff_exists']

/-- The event indexes after an append that inserts no event. -/
theorem writeItem_of_newEvent_none (none_new : ledger.newEvent tenantId item = none) :
    (ledger.writeItem tenantId item).eventById = ledger.eventById ∧
      (ledger.writeItem tenantId item).eventByIdempotency = ledger.eventByIdempotency ∧
      (ledger.writeItem tenantId item).eventByRevision = ledger.eventByRevision := by
  obtain ⟨sourceRow, event⟩ := item
  cases event with
  | none => exact ⟨rfl, rfl, rfl⟩
  | some event =>
      obtain ⟨stored, found⟩ := newEvent_eq_none.mp none_new event rfl
      simp [writeItem, insertions, found, writeRow]

/-- The event indexes after an append that inserts an event. -/
theorem writeItem_of_newEvent_some
    {event : CanonicalEvent}
    (is_new : ledger.newEvent tenantId item = some event) :
    (ledger.writeItem tenantId item).eventById =
        ledger.eventById.set (tenantId, event.eventId) event ∧
      (ledger.writeItem tenantId item).eventByIdempotency =
        ledger.eventByIdempotency.set (tenantId, event.idempotencyKey) event ∧
      (ledger.writeItem tenantId item).eventByRevision =
        ledger.eventByRevision.set (revisionKey tenantId event) event := by
  obtain ⟨sourceRow, carried⟩ := item
  obtain ⟨rfl, absent⟩ := newEvent_eq_some.mp is_new
  simp [writeItem, insertions, absent, writeRow, writeEvent]

/-- The row indexes after an append. -/
theorem writeItem_rows
    (ledger : InMemoryCanonicalLedger)
    (tenantId : String)
    (item : LedgerItem) :
    (ledger.writeItem tenantId item).sourceById =
        (if (ledger.sourceById.get? (tenantId, item.1.sourceRecordId)).isNone then
          ledger.sourceById.set (tenantId, item.1.sourceRecordId) item.1
        else ledger.sourceById) ∧
      (ledger.writeItem tenantId item).sourceByLocator =
        ledger.sourceByLocator.set (locatorKey tenantId item.1) item.1.sourceRecordId := by
  obtain ⟨sourceRow, event⟩ := item
  cases event with
  | none => exact ⟨rfl, rfl⟩
  | some event =>
      simp only [writeItem]
      split <;> exact ⟨rfl, rfl⟩

/-- The stored events after an append. -/
theorem events_writeItem :
    (ledger.writeItem tenantId item).events =
      ledger.events ++ (ledger.newEvent tenantId item).toList := by
  cases new : ledger.newEvent tenantId item with
  | none => simp [events, writeItem_of_newEvent_none new]
  | some event =>
      obtain ⟨carried, absent⟩ := newEvent_eq_some.mp new
      simp [events, writeItem_of_newEvent_some new, Dict.values_set_of_get?_eq_none absent]

/-- The stored rows after an append. -/
theorem sourceRows_writeItem :
    (ledger.writeItem tenantId item).sourceRows =
      ledger.sourceRows ++ (ledger.newRow tenantId item).toList := by
  simp only [sourceRows, writeItem_rows, newRow]
  split
  case isTrue absent =>
    rw [Dict.values_set_of_get?_eq_none (Option.isNone_iff_eq_none.mp absent)]
    rfl
  case isFalse => simp

/-- The row under an id after an append: the stored one, or else the item's. -/
theorem get?_sourceById_writeItem_eq (key : String × String) :
    (ledger.writeItem tenantId item).sourceById.get? key =
      (ledger.sourceById.get? key).or
        (if key = (tenantId, item.1.sourceRecordId) then some item.1 else none) := by
  rw [(writeItem_rows _ _ _).1]
  by_cases own : key = (tenantId, item.1.sourceRecordId)
  · subst own
    cases found : ledger.sourceById.get? (tenantId, item.1.sourceRecordId) <;> simp [found]
  · split <;> simp [Dict.get?_set, own]

/-- The event under an id after an append: the stored one, or else the item's. -/
theorem get?_eventById_writeItem_eq (key : String × String) :
    (ledger.writeItem tenantId item).eventById.get? key =
      (ledger.eventById.get? key).or
        (item.2.filter fun event => key = (tenantId, event.eventId)) := by
  cases new : ledger.newEvent tenantId item with
  | none =>
      rw [(writeItem_of_newEvent_none new).1]
      cases carried : item.2 with
      | none => simp
      | some event =>
          obtain ⟨stored, found⟩ := newEvent_eq_none.mp new event carried
          by_cases own : key = (tenantId, event.eventId)
          · simp [own, found]
          · simp [Option.filter, own]
  | some event =>
      obtain ⟨carried, absent⟩ := newEvent_eq_some.mp new
      rw [(writeItem_of_newEvent_some new).1, Dict.get?_set, carried]
      by_cases own : key = (tenantId, event.eventId)
      · simp [own, absent, Option.filter]
      · simp [own, Option.filter]

/-- A stored row stays stored. -/
theorem get?_sourceById_writeItem
    {key : String × String}
    {row : ImmutableSourceRow}
    (found : ledger.sourceById.get? key = some row) :
    (ledger.writeItem tenantId item).sourceById.get? key = some row := by
  rw [get?_sourceById_writeItem_eq, found, Option.some_or]

/-- A stored event stays stored. -/
theorem get?_eventById_writeItem
    {key : String × String}
    {event : CanonicalEvent}
    (found : ledger.eventById.get? key = some event) :
    (ledger.writeItem tenantId item).eventById.get? key = some event := by
  rw [get?_eventById_writeItem_eq, found, Option.some_or]

/-- An accepted event belongs to the tenant and has the lineage of its row. -/
theorem lineage_of_accepted
    (accepted : ledger.validateAppend tenantId item = .ok ())
    {event : CanonicalEvent}
    (carried : item.2 = some event) :
    item.1.tenantId = tenantId ∧ event.organizationId = tenantId ∧ Lineage item.1 event := by
  obtain ⟨rowTenant, linked, _⟩ := validateRow_eq_ok.mp (validateAppend_eq_ok.mp accepted).1
  simp only [Linked, carried] at linked
  have lineage := lineage_of_validateLineage linked
  exact ⟨rowTenant, lineage.tenant.trans rowTenant, lineage⟩

/-- The stored event under a key, if any, is the given one. -/
theorem sameOrAbsent_iff {stored : Option CanonicalEvent} {event : CanonicalEvent} :
    sameOrAbsent stored event = true ↔
      ∀ existing, stored = some existing → existing.pyEq event = true := by
  simp [sameOrAbsent, Option.all_eq_true]

namespace Indexed

/-- The event of an index entry under a key with an unused event id would be a
stored event with that id. -/
private theorem absent_of_sameOrAbsent
    (indexed : Indexed ledger)
    {κ : Type}
    [DecidableEq κ]
    {index : Dict κ CanonicalEvent}
    (sameValues : index.values = ledger.events)
    {key : κ}
    {event : CanonicalEvent}
    (consistent : sameOrAbsent (index.get? key) event = true)
    (organization : event.organizationId = tenantId)
    (absent : ledger.eventById.get? (tenantId, event.eventId) = none) :
    index.get? key = none := by
  cases found : index.get? key with
  | none => rfl
  | some existing =>
      have same := CanonicalEvent.pyEq_keys (sameOrAbsent_iff.mp consistent existing found)
      have stored : existing ∈ ledger.events := sameValues ▸ Dict.mem_values_of_get? found
      refine absurd ?_ (indexed.byId.get?_eq_none_iff.mp absent existing stored)
      simp only [CanonicalEvent.idKey, same, organization]

/-- An accepted event with an unused id is new to every index. -/
theorem unused
    (indexed : Indexed ledger)
    (accepted : ledger.validateAppend tenantId item = .ok ())
    {event : CanonicalEvent}
    (is_new : ledger.newEvent tenantId item = some event) :
    ledger.eventById.get? event.idKey = none ∧
      ledger.eventByIdempotency.get? event.idempotencyIndexKey = none ∧
      ledger.eventByRevision.get? event.revisionIndexKey = none := by
  obtain ⟨carried, absent⟩ := newEvent_eq_some.mp is_new
  obtain ⟨_, organization, _⟩ := lineage_of_accepted accepted carried
  obtain ⟨_, idempotency, revision, _⟩ :=
    validateEvent_eq_ok.mp ((validateAppend_eq_ok.mp accepted).2 event carried)
  have revisionFree := (validateRevision_eq_ok.mp revision).1
  simp only [CanonicalEvent.idKey, CanonicalEvent.idempotencyIndexKey,
    CanonicalEvent.revisionIndexKey, organization]
  exact ⟨absent,
    indexed.absent_of_sameOrAbsent indexed.idempotencyValues idempotency organization absent,
    indexed.absent_of_sameOrAbsent indexed.revisionValues revisionFree organization absent⟩

/-- The empty ledger is indexed. -/
theorem empty : Indexed (InMemoryCanonicalLedger.empty) where
  byId := Dict.indexedBy_empty _
  byIdempotency := Dict.indexedBy_empty _
  byRevision := Dict.indexedBy_empty _
  idempotencyValues := rfl
  revisionValues := rfl
  rows := Dict.indexedBy_empty _

/-- An accepted append keeps the indexes in agreement. -/
theorem append
    (indexed : Indexed ledger)
    (accepted : ledger.validateAppend tenantId item = .ok ()) :
    Indexed (ledger.writeItem tenantId item) := by
  have rowTenant := (validateRow_eq_ok.mp (validateAppend_eq_ok.mp accepted).1).1
  have rows : (ledger.writeItem tenantId item).sourceById.IndexedBy ImmutableSourceRow.idKey := by
    rw [(writeItem_rows _ _ _).1]
    split
    · rw [← rowTenant]
      exact indexed.rows.set item.1
    · exact indexed.rows
  cases new : ledger.newEvent tenantId item with
  | none =>
      obtain ⟨byId, byIdempotency, byRevision⟩ := writeItem_of_newEvent_none new
      exact {
        byId := byId ▸ indexed.byId
        byIdempotency := byIdempotency ▸ indexed.byIdempotency
        byRevision := byRevision ▸ indexed.byRevision
        idempotencyValues := by
          rw [events, byIdempotency, byId]
          exact indexed.idempotencyValues
        revisionValues := by
          rw [events, byRevision, byId]
          exact indexed.revisionValues
        rows }
  | some event =>
      obtain ⟨byId, byIdempotency, byRevision⟩ := writeItem_of_newEvent_some new
      obtain ⟨carried, _⟩ := newEvent_eq_some.mp new
      obtain ⟨freeId, freeIdempotency, freeRevision⟩ := indexed.unused accepted new
      obtain ⟨_, rfl, _⟩ := lineage_of_accepted accepted carried
      have idValues := Dict.values_set_of_get?_eq_none freeId event
      exact {
        byId := byId ▸ indexed.byId.set event
        byIdempotency := byIdempotency ▸ indexed.byIdempotency.set event
        byRevision := byRevision ▸ indexed.byRevision.set event
        idempotencyValues := by
          rw [events, byIdempotency, byId]
          refine (Dict.values_set_of_get?_eq_none freeIdempotency event).trans ?_
          rw [indexed.idempotencyValues]
          exact idValues.symm
        revisionValues := by
          rw [events, byRevision, byId]
          refine (Dict.values_set_of_get?_eq_none freeRevision event).trans ?_
          rw [indexed.revisionValues]
          exact idValues.symm
        rows }

end Indexed

/-- Every reachable ledger is indexed. -/
theorem ReachableBy.indexed
    {guard : LedgerStep → Prop}
    (reachable : ReachableBy guard ledger) : Indexed ledger := by
  induction reachable with
  | empty => exact Indexed.empty
  | append _ accepted _ inductionHypothesis => exact inductionHypothesis.append accepted

end InMemoryCanonicalLedger
end QuantumAnalytics
