import QuantumAnalytics.Ledger.Basic

/-!
# Appending to the ledger

An append checks everything before it writes anything. A batch appends its
items one after another and puts the old indexes back if one of them fails.
-/

namespace QuantumAnalytics

/-- A source row, with its event when the row is valid. -/
abbrev LedgerItem := ImmutableSourceRow × Option CanonicalEvent

namespace InMemoryCanonicalLedger

/-- The locator of a row in a tenant. -/
def locatorKey (tenantId : String) (sourceRow : ImmutableSourceRow) : String × String × Int :=
  (tenantId, sourceRow.rawFileId, sourceRow.rowNumber)

/-- The event checks of `_append_locked`. -/
def validateEvent
    (ledger : InMemoryCanonicalLedger)
    (tenantId : String)
    (event : CanonicalEvent) : Check Unit := do
  ensure (sameOrAbsent (ledger.eventById.get? (tenantId, event.eventId)) event = true)
    .eventIdConflict
  ensure (sameOrAbsent (ledger.eventByIdempotency.get? (tenantId, event.idempotencyKey)) event =
      true)
    .eventIdempotencyConflict
  ledger.validateRevision tenantId event
  ledger.validateReversal tenantId event

/-- The checks of `_append_locked` on the row and on the link between the row
and the event. -/
def validateRow
    (ledger : InMemoryCanonicalLedger)
    (tenantId : String)
    (sourceRow : ImmutableSourceRow)
    (event : Option CanonicalEvent) : Check Unit := do
  ensure (sourceRow.tenantId = tenantId) .sourceRowNotFound
  match event with
  | none => ensure (sourceRow.validationStatus ≠ .valid) .validSourceRowEventRequired
  | some event => validateLineage sourceRow event
  ensure ((ledger.sourceById.get? (tenantId, sourceRow.sourceRecordId)).all
      (fun existing => existing.contentFingerprint == sourceRow.contentFingerprint) = true)
    .sourceRecordConflict
  ensure ((ledger.sourceByLocator.get? (locatorKey tenantId sourceRow)).all
      (fun existing => existing == sourceRow.sourceRecordId) = true)
    .sourceRowLocatorConflict

/-- Every check of `_append_locked`, in order. -/
def validateAppend
    (ledger : InMemoryCanonicalLedger)
    (tenantId : String)
    (item : LedgerItem) : Check Unit := do
  ledger.validateRow tenantId item.1 item.2
  match item.2 with
  | none => pure ()
  | some event => ledger.validateEvent tenantId event

/-- The row writes of `_append_locked`. -/
def writeRow
    (ledger : InMemoryCanonicalLedger)
    (tenantId : String)
    (sourceRow : ImmutableSourceRow)
    (sourceInserted : Bool) : InMemoryCanonicalLedger :=
  { ledger with
    sourceById :=
      if sourceInserted then ledger.sourceById.set (tenantId, sourceRow.sourceRecordId) sourceRow
      else ledger.sourceById
    sourceByLocator :=
      ledger.sourceByLocator.set (locatorKey tenantId sourceRow) sourceRow.sourceRecordId }

/-- The event writes of `_append_locked`. -/
def writeEvent
    (ledger : InMemoryCanonicalLedger)
    (tenantId : String)
    (event : CanonicalEvent) : InMemoryCanonicalLedger :=
  { ledger with
    eventById := ledger.eventById.set (tenantId, event.eventId) event
    eventByIdempotency := ledger.eventByIdempotency.set (tenantId, event.idempotencyKey) event
    eventByRevision := ledger.eventByRevision.set (revisionKey tenantId event) event }

/-- What an append that passes its checks inserts. -/
def insertions
    (ledger : InMemoryCanonicalLedger)
    (tenantId : String)
    (item : LedgerItem) : LedgerAppendResult where
  sourceInserted := (ledger.sourceById.get? (tenantId, item.1.sourceRecordId)).isNone
  eventInserted := item.2.any fun event =>
    (ledger.eventById.get? (tenantId, event.eventId)).isNone

/-- The writes of `_append_locked`. -/
def writeItem
    (ledger : InMemoryCanonicalLedger)
    (tenantId : String)
    (item : LedgerItem) : InMemoryCanonicalLedger :=
  let inserted := ledger.insertions tenantId item
  let withRow := ledger.writeRow tenantId item.1 inserted.sourceInserted
  match item.2 with
  | some event => if inserted.eventInserted then withRow.writeEvent tenantId event else withRow
  | none => withRow

/-- `_append_locked`: the result, or the exception, and the ledger after it. -/
def appendLocked
    (ledger : InMemoryCanonicalLedger)
    (tenantId : String)
    (item : LedgerItem) : Check LedgerAppendResult × InMemoryCanonicalLedger :=
  match ledger.validateAppend tenantId item with
  | .error failure => (.error failure, ledger)
  | .ok () => (.ok (ledger.insertions tenantId item), ledger.writeItem tenantId item)

/-- `append`. -/
def append
    (ledger : InMemoryCanonicalLedger)
    (tenant : TenantContext)
    (item : LedgerItem) : Check LedgerAppendResult × InMemoryCanonicalLedger :=
  ledger.appendLocked tenant.tenantId item

/-- The items of a batch one after another, up to the first exception. -/
def appendItems
    (ledger : InMemoryCanonicalLedger)
    (tenantId : String) :
    List LedgerItem → Check (List LedgerAppendResult) × InMemoryCanonicalLedger
  | [] => (.ok [], ledger)
  | item :: items =>
      match ledger.appendLocked tenantId item with
      | (.error failure, after) => (.error failure, after)
      | (.ok result, after) =>
          let (results, final) := after.appendItems tenantId items
          (results.map fun results => result :: results, final)

/-- `append_batch`. -/
def appendBatch
    (ledger : InMemoryCanonicalLedger)
    (tenant : TenantContext)
    (items : List LedgerItem) :
    Check (List LedgerAppendResult) × InMemoryCanonicalLedger :=
  let backups := ledger
  match ledger.appendItems tenant.tenantId items with
  | (.ok results, after) => (.ok results, after)
  | (.error failure, _) => (.error failure, backups)

/-- `fork`: a copy that shares nothing with the original. -/
def fork (ledger : InMemoryCanonicalLedger) : InMemoryCanonicalLedger where
  sourceById := ledger.sourceById
  sourceByLocator := ledger.sourceByLocator
  eventById := ledger.eventById
  eventByIdempotency := ledger.eventByIdempotency
  eventByRevision := ledger.eventByRevision

@[simp] theorem fork_eq (ledger : InMemoryCanonicalLedger) : ledger.fork = ledger := rfl

/-! ### Queries -/

/-- `get_event`. -/
def getEvent
    (ledger : InMemoryCanonicalLedger)
    (tenant : TenantContext)
    (eventId : String) : Check CanonicalEvent := do
  ensure (eventId ≠ "") .eventIdInvalid
  ledger.eventOrError tenant.tenantId eventId .eventNotFound

/-- `get_source_row`. -/
def getSourceRow
    (ledger : InMemoryCanonicalLedger)
    (tenant : TenantContext)
    (sourceRecordId : String) : Check ImmutableSourceRow := do
  ensure (sourceRecordId ≠ "") .sourceRecordIdInvalid
  match ledger.sourceById.get? (tenant.tenantId, sourceRecordId) with
  | some row => .ok row
  | none => .error (.canonical .sourceRowNotFound)

/-- `trace_event`. -/
def traceEvent
    (ledger : InMemoryCanonicalLedger)
    (tenant : TenantContext)
    (eventId : String) : Check EventTrace := do
  let event ← ledger.getEvent tenant eventId
  let sourceRow ← ledger.getSourceRow tenant event.sourceRecordId
  return ⟨event, sourceRow, sourceRow.rawFileId, sourceRow.sourceFileSha256⟩

/-- `list_events`. -/
def listEvents
    (ledger : InMemoryCanonicalLedger)
    (tenant : TenantContext) : List CanonicalEvent :=
  (ledger.tenantEvents tenant.tenantId).mergeSort fun left right => left.eventId ≤ right.eventId

/-- `has_event`. -/
def hasEventFor
    (ledger : InMemoryCanonicalLedger)
    (tenant : TenantContext)
    (eventId : String) : Check Bool := do
  ensure (eventId ≠ "") .eventIdInvalid
  return (ledger.eventById.get? (tenant.tenantId, eventId)).isSome

/-- The sort key of `list_source_rows`: `left <= right`. -/
def rowPrecedes (left right : ImmutableSourceRow) : Bool :=
  left.rawFileId < right.rawFileId || left.rawFileId == right.rawFileId &&
    (left.rowNumber < right.rowNumber || left.rowNumber == right.rowNumber &&
      left.sourceRecordId ≤ right.sourceRecordId)

/-- `list_source_rows`. -/
def listSourceRows
    (ledger : InMemoryCanonicalLedger)
    (tenant : TenantContext) : List ImmutableSourceRow :=
  ((ledger.sourceById.entries.filter fun entry => entry.1.1 = tenant.tenantId).map
    Prod.snd).mergeSort rowPrecedes

/-! ### Runs -/

/-- A call that may change the ledger. -/
inductive LedgerCall
  | append (tenant : TenantContext) (item : LedgerItem)
  | appendBatch (tenant : TenantContext) (items : List LedgerItem)

/-- The ledger after a call, whether the call succeeds or raises. -/
def afterCall (ledger : InMemoryCanonicalLedger) : LedgerCall → InMemoryCanonicalLedger
  | .append tenant item => (ledger.append tenant item).2
  | .appendBatch tenant items => (ledger.appendBatch tenant items).2

/-- The ledger after a sequence of calls on the empty ledger. -/
def afterCalls (calls : List LedgerCall) : InMemoryCanonicalLedger :=
  calls.foldl afterCall empty

/-! ### What a call does -/

variable {ledger : InMemoryCanonicalLedger} {tenantId : String} {item : LedgerItem}

/-- An append that raises changes nothing. -/
theorem appendLocked_of_error
    {failure : LedgerFailure}
    (rejected : ledger.validateAppend tenantId item = .error failure) :
    ledger.appendLocked tenantId item = (.error failure, ledger) := by
  simp only [appendLocked, rejected]

/-- An append that passes its checks performs its writes. -/
theorem appendLocked_of_ok (accepted : ledger.validateAppend tenantId item = .ok ()) :
    ledger.appendLocked tenantId item =
      (.ok (ledger.insertions tenantId item), ledger.writeItem tenantId item) := by
  simp only [appendLocked, accepted]

/-- An empty batch does nothing. -/
@[simp] theorem appendItems_nil_eq_ok
    {results : List LedgerAppendResult}
    {final : InMemoryCanonicalLedger} :
    ledger.appendItems tenantId [] = (.ok results, final) ↔ results = [] ∧ final = ledger := by
  simp [appendItems, eq_comm]

/-- A batch succeeds when its first item is accepted and the rest succeeds
after it. -/
theorem appendItems_cons_eq_ok
    {items : List LedgerItem}
    {results : List LedgerAppendResult}
    {final : InMemoryCanonicalLedger} :
    ledger.appendItems tenantId (item :: items) = (.ok results, final) ↔
      ledger.validateAppend tenantId item = .ok () ∧
      ∃ rest, (ledger.writeItem tenantId item).appendItems tenantId items = (.ok rest, final) ∧
        results = ledger.insertions tenantId item :: rest := by
  rw [appendItems]
  cases checked : ledger.validateAppend tenantId item with
  | error failure => simp [appendLocked_of_error checked]
  | ok done =>
      simp only [appendLocked_of_ok checked, true_and, Prod.mk.injEq]
      cases outcome : (ledger.writeItem tenantId item).appendItems tenantId items with
      | mk rest after => cases rest <;> simp [Except.map, and_comm, eq_comm]

/-- A batch of two parts succeeds when the second part does after the first. -/
theorem appendItems_append_eq_ok
    {first second : List LedgerItem}
    {results : List LedgerAppendResult}
    {final : InMemoryCanonicalLedger} :
    ledger.appendItems tenantId (first ++ second) = (.ok results, final) ↔
      ∃ middle firstResults secondResults,
        ledger.appendItems tenantId first = (.ok firstResults, middle) ∧
        middle.appendItems tenantId second = (.ok secondResults, final) ∧
        results = firstResults ++ secondResults := by
  induction first generalizing ledger results with
  | nil => simp
  | cons item first inductionHypothesis =>
      simp only [List.cons_append, appendItems_cons_eq_ok, inductionHypothesis]
      constructor
      · rintro ⟨accepted, _, ⟨middle, firstResults, secondResults, done, rest, rfl⟩, rfl⟩
        exact ⟨middle, _, secondResults, ⟨accepted, firstResults, done, rfl⟩, rest, rfl⟩
      · rintro ⟨middle, _, secondResults, ⟨accepted, firstResults, done, rfl⟩, rest, rfl⟩
        exact ⟨accepted, _, ⟨middle, firstResults, secondResults, done, rest, rfl⟩, rfl⟩

/-- An accepted call of `_append_locked`. -/
structure LedgerStep where
  /-- The ledger before the call. -/
  ledger : InMemoryCanonicalLedger
  /-- The tenant. -/
  tenantId : String
  /-- The row and the event. -/
  item : LedgerItem

/-- The accepted steps of a batch, up to the first item that is rejected. -/
def itemSteps (ledger : InMemoryCanonicalLedger) (tenantId : String) :
    List LedgerItem → List LedgerStep
  | [] => []
  | item :: items =>
      match ledger.validateAppend tenantId item with
      | .error _ => []
      | .ok () =>
          ⟨ledger, tenantId, item⟩ :: (ledger.writeItem tenantId item).itemSteps tenantId items

/-- The committed steps of a call: a batch that raises commits nothing. -/
def callSteps (ledger : InMemoryCanonicalLedger) : LedgerCall → List LedgerStep
  | .append tenant item => ledger.itemSteps tenant.tenantId [item]
  | .appendBatch tenant items =>
      match (ledger.appendItems tenant.tenantId items).1 with
      | .ok _ => ledger.itemSteps tenant.tenantId items
      | .error _ => []

/-- The committed steps of a sequence of calls. -/
def stepsFrom (ledger : InMemoryCanonicalLedger) : List LedgerCall → List LedgerStep
  | [] => []
  | call :: calls => ledger.callSteps call ++ (ledger.afterCall call).stepsFrom calls

/-- The committed steps of a sequence of calls on the empty ledger. -/
def committedSteps (calls : List LedgerCall) : List LedgerStep := empty.stepsFrom calls

/-- The steps of a longer run are those of its parts. -/
theorem stepsFrom_append (ledger : InMemoryCanonicalLedger) (first second : List LedgerCall) :
    ledger.stepsFrom (first ++ second) =
      ledger.stepsFrom first ++ (first.foldl afterCall ledger).stepsFrom second := by
  induction first generalizing ledger with
  | nil => rfl
  | cons call first inductionHypothesis =>
      simp only [List.cons_append, stepsFrom, inductionHypothesis, List.foldl_cons,
        List.append_assoc]

/-- A longer run goes on where the shorter one ended. -/
theorem afterCalls_append (first second : List LedgerCall) :
    afterCalls (first ++ second) = second.foldl afterCall (afterCalls first) :=
  List.foldl_append

/-- Every item of a batch that succeeds has a step. -/
theorem exists_mem_itemSteps
    {items : List LedgerItem}
    {results : List LedgerAppendResult}
    {final : InMemoryCanonicalLedger}
    (appended : ledger.appendItems tenantId items = (.ok results, final)) :
    ∀ item ∈ items, ∃ step ∈ ledger.itemSteps tenantId items, step.item = item := by
  induction items generalizing ledger results with
  | nil => simp
  | cons head items inductionHypothesis =>
      obtain ⟨accepted, rest, appendedRest, _⟩ := appendItems_cons_eq_ok.mp appended
      intro item present
      rw [itemSteps, accepted]
      rcases List.mem_cons.mp present with rfl | later
      · exact ⟨_, List.mem_cons_self, rfl⟩
      · obtain ⟨step, stepPresent, same⟩ := inductionHypothesis appendedRest item later
        exact ⟨step, List.mem_cons_of_mem _ stepPresent, same⟩

/-- A batch has one result for each item, and only an item with an event
inserts one. -/
theorem forall₂_eventInserted
    {items : List LedgerItem}
    {results : List LedgerAppendResult}
    {final : InMemoryCanonicalLedger}
    (appended : ledger.appendItems tenantId items = (.ok results, final)) :
    List.Forall₂ (fun item result => result.eventInserted = true → item.2.isSome = true)
      items results := by
  induction items generalizing ledger results with
  | nil =>
      obtain ⟨rfl, _⟩ := appendItems_nil_eq_ok.mp appended
      exact .nil
  | cons item items inductionHypothesis =>
      obtain ⟨_, rest, appendedRest, rfl⟩ := appendItems_cons_eq_ok.mp appended
      exact .cons Option.isSome_of_any (inductionHypothesis appendedRest)

/-- The ledgers that accepted appends build from the empty one, when each step
meets a condition. -/
inductive ReachableBy (guard : LedgerStep → Prop) : InMemoryCanonicalLedger → Prop
  | empty : ReachableBy guard empty
  | append
      {ledger : InMemoryCanonicalLedger}
      {tenantId : String}
      {item : LedgerItem}
      (reachable : ReachableBy guard ledger)
      (accepted : ledger.validateAppend tenantId item = .ok ())
      (guarded : guard ⟨ledger, tenantId, item⟩) :
      ReachableBy guard (ledger.writeItem tenantId item)

/-- The ledgers that accepted appends build from the empty one. -/
abbrev Reachable : InMemoryCanonicalLedger → Prop := ReachableBy fun _ => True

namespace ReachableBy

variable {guard weaker : LedgerStep → Prop}

/-- A weaker condition reaches at least as much. -/
theorem mono
    (implied : ∀ step, guard step → weaker step)
    (reachable : ReachableBy guard ledger) : ReachableBy weaker ledger := by
  induction reachable with
  | empty => exact .empty
  | append _ accepted guarded inductionHypothesis =>
      exact inductionHypothesis.append accepted (implied _ guarded)

/-- The conditions on the steps are not needed to be reachable. -/
theorem reachable (reachable : ReachableBy guard ledger) : Reachable ledger :=
  reachable.mono fun _ _ => trivial

/-- The items of a batch stay within the reachable ledgers, wherever they stop. -/
theorem appendItems
    (reachable : ReachableBy guard ledger)
    {items : List LedgerItem}
    (guarded : ∀ step ∈ ledger.itemSteps tenantId items, guard step) :
    ReachableBy guard (ledger.appendItems tenantId items).2 := by
  induction items generalizing ledger with
  | nil => exact reachable
  | cons item items inductionHypothesis =>
      unfold InMemoryCanonicalLedger.appendItems
      unfold itemSteps at guarded
      cases checked : ledger.validateAppend tenantId item with
      | error failure => simpa only [appendLocked_of_error checked] using reachable
      | ok done =>
          simp only [checked, List.forall_mem_cons] at guarded
          simp only [appendLocked_of_ok checked]
          exact inductionHypothesis (reachable.append checked guarded.1) guarded.2

/-- A single append is a batch of one item. -/
theorem appendLocked
    (reachable : ReachableBy guard ledger)
    (guarded : ∀ step ∈ ledger.itemSteps tenantId [item], guard step) :
    ReachableBy guard (ledger.appendLocked tenantId item).2 := by
  have next := reachable.appendItems guarded
  unfold InMemoryCanonicalLedger.appendItems at next
  split at next
  case h_1 failure after stopped => simpa only [stopped] using next
  case h_2 result after appended =>
    simpa only [appended, InMemoryCanonicalLedger.appendItems] using next

/-- Every call stays within the reachable ledgers: a rejected batch restores
the ledger it started from. -/
theorem afterCall
    (reachable : ReachableBy guard ledger)
    (call : LedgerCall)
    (guarded : ∀ step ∈ ledger.callSteps call, guard step) :
    ReachableBy guard (ledger.afterCall call) := by
  cases call with
  | append tenant item => exact reachable.appendLocked guarded
  | appendBatch tenant items =>
      simp only [InMemoryCanonicalLedger.afterCall, InMemoryCanonicalLedger.appendBatch]
      split
      case h_1 results after done =>
        simp only [callSteps, done] at guarded
        simpa only [done] using reachable.appendItems guarded
      case h_2 failure after stopped => exact reachable

/-- Every sequence of calls stays within the reachable ledgers. -/
theorem foldl_afterCall
    (reachable : ReachableBy guard ledger)
    {calls : List LedgerCall}
    (guarded : ∀ step ∈ ledger.stepsFrom calls, guard step) :
    ReachableBy guard (calls.foldl InMemoryCanonicalLedger.afterCall ledger) := by
  induction calls generalizing ledger with
  | nil => exact reachable
  | cons call calls inductionHypothesis =>
      simp only [stepsFrom, List.forall_mem_append] at guarded
      exact inductionHypothesis (reachable.afterCall call guarded.1) guarded.2

end ReachableBy

/-- A run whose committed steps meet a condition ends in a ledger reachable
under it. -/
theorem reachableBy_afterCalls
    {guard : LedgerStep → Prop}
    {calls : List LedgerCall}
    (guarded : ∀ step ∈ committedSteps calls, guard step) :
    ReachableBy guard (afterCalls calls) :=
  ReachableBy.empty.foldl_afterCall guarded

/-- Every run ends in a reachable ledger. -/
theorem reachable_afterCalls (calls : List LedgerCall) : Reachable (afterCalls calls) :=
  reachableBy_afterCalls fun _ _ => trivial

end InMemoryCanonicalLedger
end QuantumAnalytics
