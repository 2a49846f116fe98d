import QuantumAnalytics.Ledger.Append

/-!
# Atomicity

The append calls as programs that read and write the indexes statement by
statement: a write stays done when a later statement raises. Every raise of an
append comes before its first write, and a batch restores the five indexes that
it copied before its first item.
-/

namespace QuantumAnalytics
namespace InMemoryCanonicalLedger

/-- A program on the ledger. What it has written stays written when it raises. -/
abbrev LedgerProgram := ExceptT LedgerFailure (StateM InMemoryCanonicalLedger)

namespace LedgerProgram

variable {α β : Type} {ledger : InMemoryCanonicalLedger}

/-- The outcome of a program and the ledger that it leaves. -/
def runOn (program : LedgerProgram α) (ledger : InMemoryCanonicalLedger) :
    Check α × InMemoryCanonicalLedger :=
  program.run.run ledger

/-- A statement that reads the ledger and may raise. -/
def check (test : InMemoryCanonicalLedger → Check α) : LedgerProgram α :=
  ExceptT.mk fun ledger => (test ledger, ledger)

/-- A statement that reads the ledger. -/
def query (answer : InMemoryCanonicalLedger → α) : LedgerProgram α :=
  check fun ledger => .ok (answer ledger)

/-- A statement that writes to the ledger. -/
def write (change : InMemoryCanonicalLedger → InMemoryCanonicalLedger) : LedgerProgram Unit :=
  ExceptT.mk fun ledger => (.ok (), change ledger)

@[simp] theorem runOn_check (test : InMemoryCanonicalLedger → Check α) :
    (check test).runOn ledger = (test ledger, ledger) :=
  rfl


@[simp] theorem runOn_write (change : InMemoryCanonicalLedger → InMemoryCanonicalLedger) :
    (write change).runOn ledger = (.ok (), change ledger) :=
  rfl

@[simp] theorem runOn_pure (value : α) :
    (pure value : LedgerProgram α).runOn ledger = (.ok value, ledger) :=
  rfl

/-- A sequence goes on with what the first program leaves, unless it raises. -/
theorem runOn_bind (program : LedgerProgram α) (next : α → LedgerProgram β) :
    (program >>= next).runOn ledger =
      match program.runOn ledger with
      | (.error failure, after) => (.error failure, after)
      | (.ok value, after) => (next value).runOn after := by
  change (match program.runOn ledger with
    | (result, after) => (ExceptT.bindCont next result).run after) = _
  rcases program.runOn ledger with ⟨_ | value, after⟩ <;> rfl

/-- A handler runs where the program has raised, on what it has written. -/
theorem runOn_tryCatch (program : LedgerProgram α) (handler : LedgerFailure → LedgerProgram α) :
    (tryCatch program handler).runOn ledger =
      match program.runOn ledger with
      | (.error failure, after) => (handler failure).runOn after
      | (.ok value, after) => (.ok value, after) := by
  simp only [runOn, ExceptT.run_tryCatch, StateT.run_bind]
  rcases program.run.run ledger with ⟨_ | value, after⟩ <;> rfl

/-- A sequence that starts with a check raises what the check raises. -/
theorem runOn_check_bind
    (test : InMemoryCanonicalLedger → Check α)
    (next : α → LedgerProgram β) :
    (check test >>= next).runOn ledger =
      match test ledger with
      | .error failure => (.error failure, ledger)
      | .ok value => (next value).runOn ledger := by
  rw [runOn_bind, runOn_check]
  cases test ledger <;> rfl

/-- A sequence that starts with a query goes on with the answer. -/
theorem runOn_query_bind
    (answer : InMemoryCanonicalLedger → α)
    (next : α → LedgerProgram β) :
    (query answer >>= next).runOn ledger = (next (answer ledger)).runOn ledger :=
  rfl

/-- A sequence that starts with a write goes on with what is written. -/
theorem runOn_write_bind
    (change : InMemoryCanonicalLedger → InMemoryCanonicalLedger)
    (next : Unit → LedgerProgram β) :
    (write change >>= next).runOn ledger = (next ()).runOn (change ledger) :=
  rfl

end LedgerProgram

open LedgerProgram

/-- The event checks of `_append_locked`: whether the event is new. -/
def eventProgram (tenantId : String) : Option CanonicalEvent → LedgerProgram Bool
  | none => return false
  | some event => do
      let existingEvent ← query fun ledger => ledger.eventById.get? (tenantId, event.eventId)
      check fun _ => ensure (sameOrAbsent existingEvent event = true) .eventIdConflict
      let existingIdempotency ← query fun ledger =>
        ledger.eventByIdempotency.get? (tenantId, event.idempotencyKey)
      check fun _ => ensure (sameOrAbsent existingIdempotency event = true)
        .eventIdempotencyConflict
      check fun ledger => ledger.validateRevision tenantId event
      check fun ledger => ledger.validateReversal tenantId event
      return existingEvent.isNone

/-- The event writes of `_append_locked`. -/
def writeEventProgram (tenantId : String) : Option CanonicalEvent → Bool → LedgerProgram Unit
  | some event, true => do
      write fun ledger =>
        { ledger with eventById := ledger.eventById.set (tenantId, event.eventId) event }
      write fun ledger =>
        { ledger with
          eventByIdempotency :=
            ledger.eventByIdempotency.set (tenantId, event.idempotencyKey) event }
      write fun ledger =>
        { ledger with
          eventByRevision := ledger.eventByRevision.set (revisionKey tenantId event) event }
  | _, _ => return ()

/-- The check of the link between a row and its event in `_append_locked`. -/
def linkCheck (sourceRow : ImmutableSourceRow) : Option CanonicalEvent → Check Unit
  | none => ensure (sourceRow.validationStatus ≠ .valid) .validSourceRowEventRequired
  | some event => validateLineage sourceRow event

/-- The row checks of `_append_locked`: the stored row with the id of the row. -/
def rowProgram (tenantId : String) (sourceRow : ImmutableSourceRow) (event : Option CanonicalEvent) :
    LedgerProgram (Option ImmutableSourceRow) := do
  check fun _ => ensure (sourceRow.tenantId = tenantId) .sourceRowNotFound
  check fun _ => linkCheck sourceRow event
  let existingSource ← query fun ledger =>
    ledger.sourceById.get? (tenantId, sourceRow.sourceRecordId)
  check fun _ => ensure (existingSource.all
      (fun existing => existing.contentFingerprint == sourceRow.contentFingerprint) = true)
    .sourceRecordConflict
  let existingLocator ← query fun ledger =>
    ledger.sourceByLocator.get? (locatorKey tenantId sourceRow)
  check fun _ => ensure (existingLocator.all
      (fun existing => existing == sourceRow.sourceRecordId) = true)
    .sourceRowLocatorConflict
  return existingSource

/-- The row writes of `_append_locked`. -/
def writeRowProgram (tenantId : String) (sourceRow : ImmutableSourceRow) (sourceInserted : Bool) :
    LedgerProgram Unit := do
  if sourceInserted then
    write fun ledger =>
      { ledger with
        sourceById := ledger.sourceById.set (tenantId, sourceRow.sourceRecordId) sourceRow }
  write fun ledger =>
    { ledger with
      sourceByLocator :=
        ledger.sourceByLocator.set (locatorKey tenantId sourceRow) sourceRow.sourceRecordId }

/-- The statements of `_append_locked`. -/
def appendLockedProgram (tenantId : String) (item : LedgerItem) :
    LedgerProgram LedgerAppendResult := do
  let existingSource ← rowProgram tenantId item.1 item.2
  let eventInserted ← eventProgram tenantId item.2
  let sourceInserted := existingSource.isNone
  writeRowProgram tenantId item.1 sourceInserted
  writeEventProgram tenantId item.2 eventInserted
  return ⟨sourceInserted, eventInserted⟩

/-- The statements of `append_batch`: the five indexes are copied, and put back
by the handler of an exception. -/
def appendBatchProgram (tenant : TenantContext) (items : List LedgerItem) :
    LedgerProgram (List LedgerAppendResult) := do
  let backups ← query id
  tryCatch (items.mapM (appendLockedProgram tenant.tenantId)) fun failure => do
    write fun ledger =>
      { ledger with
        sourceById := backups.sourceById
        sourceByLocator := backups.sourceByLocator
        eventById := backups.eventById
        eventByIdempotency := backups.eventByIdempotency
        eventByRevision := backups.eventByRevision }
    throw failure

variable {ledger : InMemoryCanonicalLedger} {tenantId : String}

/-- The event checks raise what the event is rejected with, and write nothing. -/
theorem runOn_eventProgram (event : Option CanonicalEvent) :
    (eventProgram tenantId event).runOn ledger =
      ((match event with
        | none => .ok false
        | some event => (ledger.validateEvent tenantId event).map fun _ =>
            (ledger.eventById.get? (tenantId, event.eventId)).isNone), ledger) := by
  cases event with
  | none => rfl
  | some event =>
      simp only [eventProgram, runOn_query_bind, runOn_check_bind, validateEvent]
      cases ensure (sameOrAbsent (ledger.eventById.get? (tenantId, event.eventId)) event = true)
        .eventIdConflict with
      | error failure => rfl
      | ok _ =>
          cases ensure (sameOrAbsent (ledger.eventByIdempotency.get?
              (tenantId, event.idempotencyKey)) event = true) .eventIdempotencyConflict with
          | error failure => rfl
          | ok _ =>
              cases ledger.validateRevision tenantId event with
              | error failure => rfl
              | ok _ => cases ledger.validateReversal tenantId event <;> rfl

/-- The row checks raise what the row is rejected with, and write nothing. -/
theorem runOn_rowProgram (sourceRow : ImmutableSourceRow) (event : Option CanonicalEvent) :
    (rowProgram tenantId sourceRow event).runOn ledger =
      ((ledger.validateRow tenantId sourceRow event).map fun _ =>
        ledger.sourceById.get? (tenantId, sourceRow.sourceRecordId), ledger) := by
  have linkLast : ledger.validateRow tenantId sourceRow event = (do
      ensure (sourceRow.tenantId = tenantId) .sourceRowNotFound
      linkCheck sourceRow event
      ensure ((ledger.sourceById.get? (tenantId, sourceRow.sourceRecordId)).all
          (fun existing => existing.contentFingerprint == sourceRow.contentFingerprint) = true)
        .sourceRecordConflict
      ensure ((ledger.sourceByLocator.get? (locatorKey tenantId sourceRow)).all
          (fun existing => existing == sourceRow.sourceRecordId) = true)
        .sourceRowLocatorConflict) := by
    cases event <;> rfl
  rw [linkLast]
  simp only [rowProgram, runOn_query_bind, runOn_check_bind]
  cases ensure (sourceRow.tenantId = tenantId) .sourceRowNotFound with
  | error failure => rfl
  | ok _ =>
      cases linkCheck sourceRow event with
      | error failure => rfl
      | ok _ =>
          cases ensure ((ledger.sourceById.get? (tenantId, sourceRow.sourceRecordId)).all
              (fun existing => existing.contentFingerprint == sourceRow.contentFingerprint) =
                true) .sourceRecordConflict with
          | error failure => rfl
          | ok _ =>
              cases ensure ((ledger.sourceByLocator.get? (locatorKey tenantId sourceRow)).all
                  (fun existing => existing == sourceRow.sourceRecordId) = true)
                .sourceRowLocatorConflict <;> rfl

/-- The row writes are those of an append. -/
theorem runOn_writeRowProgram (sourceRow : ImmutableSourceRow) (sourceInserted : Bool) :
    (writeRowProgram tenantId sourceRow sourceInserted).runOn ledger =
      (.ok (), ledger.writeRow tenantId sourceRow sourceInserted) := by
  cases sourceInserted <;> rfl

/-- The event writes are those of an append. -/
theorem runOn_writeEventProgram (event : Option CanonicalEvent) (eventInserted : Bool) :
    (writeEventProgram tenantId event eventInserted).runOn ledger =
      (.ok (), match event with
        | some event => if eventInserted then ledger.writeEvent tenantId event else ledger
        | none => ledger) := by
  cases event <;> cases eventInserted <;> rfl

/-- The statements of an append first check and then write: they raise what the
item is rejected with and leave the ledger, or perform all of the writes. -/
theorem runOn_appendLockedProgram (item : LedgerItem) :
    (appendLockedProgram tenantId item).runOn ledger = ledger.appendLocked tenantId item := by
  obtain ⟨sourceRow, event⟩ := item
  simp only [appendLockedProgram, runOn_bind, runOn_rowProgram, appendLocked, validateAppend]
  cases ledger.validateRow tenantId sourceRow event with
  | error failure => rfl
  | ok _ =>
      simp only [Except.map, runOn_eventProgram, runOn_writeRowProgram, runOn_writeEventProgram]
      cases event with
      | none => rfl
      | some event =>
          dsimp only
          cases ledger.validateEvent tenantId event <;> rfl

/-- The items of a batch run one after another, up to the first exception. -/
theorem runOn_mapM_appendLockedProgram (items : List LedgerItem) :
    (items.mapM (appendLockedProgram tenantId)).runOn ledger =
      ledger.appendItems tenantId items := by
  induction items generalizing ledger with
  | nil => rfl
  | cons item items inductionHypothesis =>
      rw [List.mapM_cons, runOn_bind, runOn_appendLockedProgram, appendItems]
      rcases ledger.appendLocked tenantId item with ⟨_ | result, after⟩
      · rfl
      · simp only [runOn_bind, inductionHypothesis]
        rcases after.appendItems tenantId items with ⟨_ | results, final⟩ <;> rfl

/-- The handler puts back what was copied: a batch program is a batch. -/
theorem runOn_appendBatchProgram (tenant : TenantContext) (items : List LedgerItem) :
    (appendBatchProgram tenant items).runOn ledger = ledger.appendBatch tenant items := by
  rw [appendBatchProgram, runOn_query_bind, runOn_tryCatch, runOn_mapM_appendLockedProgram,
    appendBatch]
  rcases ledger.appendItems tenant.tenantId items with ⟨_ | results, after⟩ <;> rfl

/-- The items appended one at a time, each in a call of its own: the outcomes of
the calls and the ledger after them. -/
def appendEach (ledger : InMemoryCanonicalLedger) (tenant : TenantContext) :
    List LedgerItem → List (Check LedgerAppendResult) × InMemoryCanonicalLedger
  | [] => ([], ledger)
  | item :: items =>
      let (result, after) := (appendLockedProgram tenant.tenantId item).runOn ledger
      let (results, final) := after.appendEach tenant items
      (result :: results, final)

/-- A batch succeeds when each of its items does in a call of its own, with the
same results and the same ledger; otherwise it raises what the first call
raises that does. -/
theorem appendItems_eq_appendEach
    (ledger : InMemoryCanonicalLedger)
    (tenant : TenantContext)
    (items : List LedgerItem) :
    (∃ results final, ledger.appendItems tenant.tenantId items = (.ok results, final) ∧
      ledger.appendEach tenant items = (results.map .ok, final)) ∨
    ∃ failure accepted rejected, (ledger.appendItems tenant.tenantId items).1 = .error failure ∧
      (ledger.appendEach tenant items).1 =
        (accepted : List LedgerAppendResult).map .ok ++ .error failure :: rejected := by
  induction items generalizing ledger with
  | nil => exact .inl ⟨[], ledger, rfl, rfl⟩
  | cons item items inductionHypothesis =>
      simp only [appendItems, appendEach, runOn_appendLockedProgram]
      rcases ledger.appendLocked tenant.tenantId item with ⟨failure | result, after⟩
      · exact .inr ⟨failure, [], _, rfl, rfl⟩
      · rcases inductionHypothesis after with
          ⟨results, final, batch, each⟩ | ⟨failure, accepted, rejected, batch, each⟩
        · refine .inl ⟨result :: results, final, ?_, ?_⟩
          · simp only [batch, Except.map]
          · simp only [each, List.map_cons]
        · refine .inr ⟨failure, result :: accepted, rejected, ?_, ?_⟩
          · simp only [batch, Except.map]
          · simp only [each, List.map_cons, List.cons_append]

/-- Append calls are atomic on every ledger. A batch has the results of its
items appended one at a time and leaves the same ledger, or it raises the first
exception of those calls and leaves the ledger as it was. A single append that
raises leaves the ledger as it was. -/
theorem append_atomic
    (ledger : InMemoryCanonicalLedger)
    (tenant : TenantContext) :
    (∀ items,
      (∃ results final,
        (appendBatchProgram tenant items).runOn ledger = (.ok results, final) ∧
        ledger.appendEach tenant items = (results.map .ok, final)) ∨
      ∃ failure accepted rejected,
        (appendBatchProgram tenant items).runOn ledger = (.error failure, ledger) ∧
        (ledger.appendEach tenant items).1 =
          (accepted : List LedgerAppendResult).map .ok ++ .error failure :: rejected) ∧
    ∀ item failure after,
      (appendLockedProgram tenant.tenantId item).runOn ledger = (.error failure, after) →
      after = ledger := by
  refine ⟨fun items => ?_, fun item failure after raised => ?_⟩
  · rw [runOn_appendBatchProgram, appendBatch]
    rcases appendItems_eq_appendEach ledger tenant items with
      ⟨results, final, batch, each⟩ | ⟨failure, accepted, rejected, batch, each⟩
    · exact .inl ⟨results, final, by rw [batch], each⟩
    · refine .inr ⟨failure, accepted, rejected, ?_, each⟩
      cases outcome : ledger.appendItems tenant.tenantId items with
      | mk result after =>
          rw [outcome] at batch
          obtain rfl : result = .error failure := batch
          rfl
  · rw [runOn_appendLockedProgram] at raised
    cases checked : ledger.validateAppend tenant.tenantId item with
    | error other =>
        rw [appendLocked_of_error checked] at raised
        exact (Prod.mk.inj raised).2.symm
    | ok done =>
        rw [appendLocked_of_ok checked] at raised
        exact absurd (Prod.mk.inj raised).1 (by simp)

end InMemoryCanonicalLedger
end QuantumAnalytics
