import QuantumAnalytics.Ledger.Amounts

/-!
# Replaying an accepted append

An append that was accepted once is checked again when it is repeated. Every
check of the row, of the ids and of the revision passes again, whatever was
appended in between. The reversal check counts the returns that are active by
now: a repeated return passes it exactly when it still fits next to the other
active returns of its sale, and then nothing changes.
-/

namespace QuantumAnalytics
namespace InMemoryCanonicalLedger

open CanonicalEvent

variable {ledger part whole : InMemoryCanonicalLedger} {tenantId : String} {item : LedgerItem}

/-! ### Parts of a ledger -/

/-- Everything that a ledger stores is stored under the same key in another. -/
structure Within (part whole : InMemoryCanonicalLedger) : Prop where
  rows : ∀ key row, part.sourceById.get? key = some row → whole.sourceById.get? key = some row
  locators : ∀ key recordId, part.sourceByLocator.get? key = some recordId →
    whole.sourceByLocator.get? key = some recordId
  events : ∀ key event, part.eventById.get? key = some event →
    whole.eventById.get? key = some event

/-- Every ledger is a part of itself. -/
theorem Within.refl (ledger : InMemoryCanonicalLedger) : Within ledger ledger :=
  ⟨fun _ _ found => found, fun _ _ found => found, fun _ _ found => found⟩

/-- A part of a part is a part. -/
theorem Within.trans
    {middle : InMemoryCanonicalLedger}
    (first : Within part middle)
    (second : Within middle whole) : Within part whole where
  rows key row found := second.rows key row (first.rows key row found)
  locators key recordId found := second.locators key recordId (first.locators key recordId found)
  events key event found := second.events key event (first.events key event found)

/-- A stored locator stays stored. -/
theorem get?_sourceByLocator_writeItem
    (accepted : ledger.validateAppend tenantId item = .ok ())
    {key : String × String × Int}
    {recordId : String}
    (found : ledger.sourceByLocator.get? key = some recordId) :
    (ledger.writeItem tenantId item).sourceByLocator.get? key = some recordId := by
  obtain ⟨_, _, _, sameLocator⟩ := validateRow_eq_ok.mp (validateAppend_eq_ok.mp accepted).1
  rw [(writeItem_rows _ _ _).2, Dict.get?_set]
  split
  case isTrue sameKey =>
    subst sameKey
    rw [← sameLocator recordId found]
  case isFalse => exact found

/-- An accepted append extends the ledger. -/
theorem within_writeItem (accepted : ledger.validateAppend tenantId item = .ok ()) :
    Within ledger (ledger.writeItem tenantId item) where
  rows _ _ found := get?_sourceById_writeItem found
  locators _ _ found := get?_sourceByLocator_writeItem accepted found
  events _ _ found := get?_eventById_writeItem found

/-! ### Recorded items -/

/-- The ledger has the row and the event of an item. -/
structure Recorded (ledger : InMemoryCanonicalLedger) (tenantId : String) (item : LedgerItem) :
    Prop where
  tenant : item.1.tenantId = tenantId
  linked : Linked item
  row : ∃ existing, ledger.sourceById.get? (tenantId, item.1.sourceRecordId) = some existing ∧
    existing.contentFingerprint = item.1.contentFingerprint
  locator : ledger.sourceByLocator.get? (locatorKey tenantId item.1) =
    some item.1.sourceRecordId
  event : ∀ event, item.2 = some event → ∃ existing,
    ledger.eventById.get? (tenantId, event.eventId) = some existing ∧
      existing.pyEq event = true
  agrees : ∀ event, item.2 = some event → event.eventType = "RETURN_ACCEPTED" →
    ∃ original, ledger.eventById.get? (tenantId, original.eventId) = some original ∧
      event.reversalOfEventId = some original.eventId ∧
      original.marketplaceAccountId = event.marketplaceAccountId ∧
      original.eventType = "SALE_RECOGNIZED" ∧
      ∃ product unit currency,
        original.Agrees product unit currency ∧ event.Agrees product unit currency
  noReversal : ∀ event, item.2 = some event → event.eventType ≠ "RETURN_ACCEPTED" →
    event.reversalOfEventId = none

/-- An accepted append is recorded. -/
theorem recorded_writeItem
    (indexed : Indexed ledger)
    (accepted : ledger.validateAppend tenantId item = .ok ()) :
    Recorded (ledger.writeItem tenantId item) tenantId item := by
  obtain ⟨rowAccepted, eventAccepted⟩ := validateAppend_eq_ok.mp accepted
  obtain ⟨tenant, linked, sameContent, sameLocator⟩ := validateRow_eq_ok.mp rowAccepted
  have reversal : ∀ event, item.2 = some event → ReversalChecked ledger tenantId event := by
    intro event carried
    exact (validateReversal_eq_ok indexed).mp
      (validateEvent_eq_ok.mp (eventAccepted event carried)).2.2.2
  refine { tenant, linked, row := ?_, locator := ?_, event := ?_, agrees := ?_, noReversal := ?_ }
  · cases found : ledger.sourceById.get? (tenantId, item.1.sourceRecordId) with
    | none => exact ⟨item.1, by simp [(writeItem_rows _ _ _).1, found], rfl⟩
    | some existing =>
        exact ⟨existing, get?_sourceById_writeItem found, sameContent existing found⟩
  · rw [(writeItem_rows _ _ _).2, Dict.get?_set_self]
  · intro event carried
    cases found : ledger.eventById.get? (tenantId, event.eventId) with
    | none =>
        have new := newEvent_eq_some.mpr ⟨carried, found⟩
        exact ⟨event, by rw [(writeItem_of_newEvent_some new).1, Dict.get?_set_self],
          event.pyEq_refl⟩
    | some existing =>
        have consistent := (validateEvent_eq_ok.mp (eventAccepted event carried)).1
        exact ⟨existing, get?_eventById_writeItem found,
          sameOrAbsent_iff.mp consistent existing found⟩
  · intro event carried isReturn
    have checked := reversal event carried
    rw [ReversalChecked, if_pos isReturn] at checked
    obtain ⟨original, found, link, fits⟩ := checked
    obtain ⟨product, unit, currency, originalAgrees, eventAgrees, _⟩ := fits.agree
    exact ⟨original, get?_eventById_writeItem found, link, fits.account, fits.sale,
      product, unit, currency, originalAgrees, eventAgrees⟩
  · intro event carried other
    have checked := reversal event carried
    rwa [ReversalChecked, if_neg other] at checked

/-- What a part has recorded is recorded in the whole. -/
theorem Recorded.of_within
    (recorded : Recorded part tenantId item)
    (within : Within part whole) : Recorded whole tenantId item where
  tenant := recorded.tenant
  linked := recorded.linked
  row := by
    obtain ⟨existing, found, same⟩ := recorded.row
    exact ⟨existing, within.rows _ _ found, same⟩
  locator := within.locators _ _ recorded.locator
  event event carried := by
    obtain ⟨existing, found, same⟩ := recorded.event event carried
    exact ⟨existing, within.events _ _ found, same⟩
  agrees event carried isReturn := by
    obtain ⟨original, found, rest⟩ := recorded.agrees event carried isReturn
    exact ⟨original, within.events _ _ found, rest⟩
  noReversal := recorded.noReversal

/-- What is recorded stays recorded. -/
theorem Recorded.writeItem
    {otherTenantId : String}
    {other : LedgerItem}
    (recorded : Recorded ledger tenantId item)
    (accepted : ledger.validateAppend otherTenantId other = .ok ()) :
    Recorded (ledger.writeItem otherTenantId other) tenantId item :=
  recorded.of_within (within_writeItem accepted)

/-- A batch that succeeds extends the ledger. -/
theorem within_of_appendItems
    {items : List LedgerItem}
    {results : List LedgerAppendResult}
    {final : InMemoryCanonicalLedger}
    (appended : ledger.appendItems tenantId items = (.ok results, final)) :
    Within ledger final := by
  induction items generalizing ledger results with
  | nil =>
      obtain ⟨_, rfl⟩ := appendItems_nil_eq_ok.mp appended
      exact Within.refl _
  | cons item items inductionHypothesis =>
      obtain ⟨accepted, rest, appendedRest, _⟩ := appendItems_cons_eq_ok.mp appended
      exact (within_writeItem accepted).trans (inductionHypothesis appendedRest)

/-- The items of a batch that succeeds are recorded. -/
theorem recorded_of_appendItems
    {items : List LedgerItem}
    {results : List LedgerAppendResult}
    {final : InMemoryCanonicalLedger}
    (indexed : Indexed ledger)
    (appended : ledger.appendItems tenantId items = (.ok results, final)) :
    ∀ item ∈ items, Recorded final tenantId item := by
  induction items generalizing ledger results with
  | nil => simp
  | cons item items inductionHypothesis =>
      obtain ⟨accepted, rest, appendedRest, _⟩ := appendItems_cons_eq_ok.mp appended
      exact List.forall_mem_cons.mpr
        ⟨(recorded_writeItem indexed accepted).of_within (within_of_appendItems appendedRest),
          inductionHypothesis (indexed.append accepted) appendedRest⟩

/-- The steps of a batch append its items. -/
theorem item_mem_of_mem_itemSteps
    {items : List LedgerItem}
    {step : LedgerStep}
    (present : step ∈ ledger.itemSteps tenantId items) :
    step.tenantId = tenantId ∧ step.item ∈ items := by
  induction items generalizing ledger with
  | nil => simp [itemSteps] at present
  | cons item items inductionHypothesis =>
      unfold itemSteps at present
      split at present
      · simp at present
      · rcases List.mem_cons.mp present with rfl | later
        · exact ⟨rfl, List.mem_cons_self⟩
        · obtain ⟨sameTenant, inRest⟩ := inductionHypothesis later
          exact ⟨sameTenant, List.mem_cons_of_mem _ inRest⟩

/-- The committed steps of a call are recorded after it, and earlier ones stay
so. -/
theorem recorded_afterCall
    (reachable : Reachable ledger)
    (call : LedgerCall) :
    (∀ scope old, Recorded ledger scope old → Recorded (ledger.afterCall call) scope old) ∧
    ∀ step ∈ ledger.callSteps call,
      Recorded (ledger.afterCall call) step.tenantId step.item := by
  cases call with
  | append tenant item =>
      simp only [afterCall, InMemoryCanonicalLedger.append, callSteps, itemSteps]
      cases checked : ledger.validateAppend tenant.tenantId item with
      | error failure =>
          rw [appendLocked_of_error checked]
          exact ⟨fun _ _ recorded => recorded, by simp⟩
      | ok done =>
          rw [appendLocked_of_ok checked]
          refine ⟨fun scope old recorded => recorded.writeItem checked, ?_⟩
          simpa using recorded_writeItem reachable.indexed checked
  | appendBatch tenant items =>
      simp only [afterCall, appendBatch, callSteps]
      cases outcome : ledger.appendItems tenant.tenantId items with
      | mk result after =>
          cases result with
          | error failure => exact ⟨fun _ _ recorded => recorded, by simp⟩
          | ok results =>
              refine ⟨fun _ _ recorded => recorded.of_within (within_of_appendItems outcome), ?_⟩
              intro step present
              obtain ⟨sameTenant, isItem⟩ := item_mem_of_mem_itemSteps present
              rw [sameTenant]
              exact recorded_of_appendItems reachable.indexed outcome step.item isItem

/-- Every committed step of a run is recorded at its end. -/
theorem recorded_afterCalls
    {calls : List LedgerCall}
    {step : LedgerStep}
    (committed : step ∈ committedSteps calls) :
    Recorded (afterCalls calls) step.tenantId step.item := by
  have run : ∀ (calls : List LedgerCall) (ledger : InMemoryCanonicalLedger), Reachable ledger →
      (∀ scope old, Recorded ledger scope old →
        Recorded (calls.foldl afterCall ledger) scope old) ∧
      ∀ step ∈ ledger.stepsFrom calls,
        Recorded (calls.foldl afterCall ledger) step.tenantId step.item := by
    intro calls
    induction calls with
    | nil => exact fun _ _ => ⟨fun _ _ recorded => recorded, by simp [stepsFrom]⟩
    | cons call calls inductionHypothesis =>
        intro ledger reachable
        obtain ⟨keepsCall, callRecorded⟩ := recorded_afterCall reachable call
        obtain ⟨keeps, recorded⟩ :=
          inductionHypothesis _ (reachable.afterCall call fun _ _ => trivial)
        refine ⟨fun scope old stored => keeps scope old (keepsCall scope old stored), ?_⟩
        simp only [stepsFrom, List.forall_mem_append]
        exact ⟨fun step present => keeps _ _ (callRecorded step present), recorded⟩
  exact (run calls empty .empty).2 step committed

/-! ### Repeating an append -/

/-- The other active returns of a sale. -/
def otherReturns
    (ledger : InMemoryCanonicalLedger)
    (tenantId originalId : String)
    (event : CanonicalEvent) : List CanonicalEvent :=
  (ledger.activeReturns tenantId originalId).filter fun other => other.eventId ≠ event.eventId

/-- A return fits next to other returns by quantity, and by the total amount
that the default decimal context computes. -/
structure RoomFor (original event : CanonicalEvent) (others : List CanonicalEvent) : Prop where
  quantity : event.quantityOf + (others.map quantityOf).sum ≤ original.quantityOf
  amount : ∃ total, addAll .default event.amountOf (others.map amountOf) = .ok total ∧
    ¬original.amountOf.lt total = true

/-- A return that an item repeats still has room in its sale. -/
def ReplayFits (ledger : InMemoryCanonicalLedger) (tenantId : String) (item : LedgerItem) : Prop :=
  ∀ event original, item.2 = some event → event.eventType = "RETURN_ACCEPTED" →
    event.reversalOfEventId = some original.eventId →
    ledger.eventById.get? (tenantId, original.eventId) = some original →
    RoomFor original event (ledger.otherReturns tenantId original.eventId event)

/-- The supersession link of a recorded event is intact. -/
theorem Recorded.revisionAccepted
    (recorded : Recorded ledger tenantId item)
    (reachable : Reachable ledger)
    {event : CanonicalEvent}
    (carried : item.2 = some event) :
    sameOrAbsent (ledger.eventByIdempotency.get? (tenantId, event.idempotencyKey)) event = true ∧
      ledger.validateRevision tenantId event = .ok () := by
  have indexed := reachable.indexed
  obtain ⟨existing, found, same⟩ := recorded.event event carried
  obtain ⟨stored, key⟩ := indexed.byId.get?_eq_some_iff.mp found
  have organization : existing.organizationId = tenantId := congrArg Prod.fst key
  have keys := pyEq_keys same
  have idempotency :
      ledger.eventByIdempotency.get? (tenantId, event.idempotencyKey) = some existing := by
    refine indexed.byIdempotency.get?_eq_some_iff.mpr ⟨indexed.idempotencyValues ▸ stored, ?_⟩
    rw [idempotencyIndexKey, organization, keys.2.2.1]
  have revision : ledger.eventByRevision.get? (revisionKey tenantId event) = some existing := by
    refine indexed.byRevision.get?_eq_some_iff.mpr ⟨indexed.revisionValues ▸ stored, ?_⟩
    rw [keys.2.2.2.1, revisionIndexKey, ← keys.2.1, organization]
  refine ⟨by simpa [idempotency, sameOrAbsent] using same, ?_⟩
  rw [validateRevision_eq_ok]
  refine ⟨by simpa [revision, sameOrAbsent] using same, ?_⟩
  have linked := reachable.revisionLinked existing stored
  simp only [revisionIndexKey, revisionKey, Prod.mk.injEq] at keys
  obtain ⟨_, _, _, ⟨_, account, businessKey, number⟩, _, eventType, supersedes, _⟩ := keys
  simpa only [RevisionLinked, organization, account, businessKey, number, eventType, supersedes]
    using linked

/-- The reversal check of a repeated return counts the other active returns. -/
theorem Recorded.activeReversals_eq_otherReturns
    (recorded : Recorded ledger tenantId item)
    (indexed : Indexed ledger)
    {event : CanonicalEvent}
    (carried : item.2 = some event)
    (originalId : String) :
    ledger.activeReversals tenantId originalId event =
      ledger.otherReturns tenantId originalId event := by
  obtain ⟨existing, found, same⟩ := recorded.event event carried
  obtain ⟨stored, key⟩ := indexed.byId.get?_eq_some_iff.mp found
  have supersedes : existing.supersedesEventId = event.supersedesEventId :=
    (pyEq_keys same).2.2.2.2.2.2.1
  have present : existing ∈ ledger.tenantEvents tenantId :=
    (mem_tenantEvents indexed).mpr ⟨stored, congrArg Prod.fst key⟩
  rw [activeReversals_eq, otherReturns, activeReturns]
  -- What the event supersedes is superseded already.
  have remains : returns.remaining (ledger.tenantEvents tenantId) originalId event =
      returns.active (ledger.tenantEvents tenantId) originalId := by
    rw [Reservations.remaining, List.filter_eq_self]
    intro record active
    have kept := (Reservations.mem_active.mp active).2.2 existing present
    have sameLink : returns.replaces existing = returns.replaces event := supersedes
    rw [sameLink] at kept
    exact decide_eq_true kept
  rw [remains]

/-- The row checks pass again. -/
theorem Recorded.rowAccepted (recorded : Recorded ledger tenantId item) :
    ledger.validateRow tenantId item.1 item.2 = .ok () := by
  obtain ⟨existing, found, same⟩ := recorded.row
  rw [validateRow_eq_ok]
  refine ⟨recorded.tenant, recorded.linked, ?_, ?_⟩
  · intro other otherFound
    obtain rfl := Option.some.inj (found.symm.trans otherFound)
    exact same
  · intro other otherFound
    exact (Option.some.inj (recorded.locator.symm.trans otherFound)).symm

/-- Of the event checks of a recorded event only the reversal check is open. -/
theorem Recorded.validateEvent_eq
    (recorded : Recorded ledger tenantId item)
    (reachable : Reachable ledger)
    {event : CanonicalEvent}
    (carried : item.2 = some event) :
    ledger.validateEvent tenantId event = ledger.validateReversal tenantId event := by
  obtain ⟨existing, found, same⟩ := recorded.event event carried
  obtain ⟨idempotency, revision⟩ := recorded.revisionAccepted reachable carried
  have sameId : sameOrAbsent (ledger.eventById.get? (tenantId, event.eventId)) event = true := by
    simpa [found, sameOrAbsent] using same
  unfold validateEvent
  rw [ensure, require, if_pos sameId, ensure, require, if_pos idempotency, revision]
  rfl

/-- A recorded item passes its checks again exactly when its return, if it is
one, has room. -/
theorem Recorded.validateAppend_eq_ok_iff
    (recorded : Recorded ledger tenantId item)
    (reachable : Reachable ledger) :
    ledger.validateAppend tenantId item = .ok () ↔ ReplayFits ledger tenantId item := by
  have indexed := reachable.indexed
  have eventAccepted : ∀ event, item.2 = some event →
      (ledger.validateEvent tenantId event = .ok () ↔ ReversalChecked ledger tenantId event) := by
    intro event carried
    rw [recorded.validateEvent_eq reachable carried, validateReversal_eq_ok indexed]
  rw [InMemoryCanonicalLedger.validateAppend_eq_ok]
  constructor
  · rintro ⟨_, accepted⟩ event original carried isReturn link found
    have checked := (eventAccepted event carried).mp (accepted event carried)
    rw [ReversalChecked, if_pos isReturn] at checked
    obtain ⟨named, namedFound, namedLink, fits⟩ := checked
    have sameId : named.eventId = original.eventId := Option.some.inj (namedLink.symm.trans link)
    rw [sameId, found] at namedFound
    obtain rfl := Option.some.inj namedFound
    rw [recorded.activeReversals_eq_otherReturns indexed carried] at fits
    exact ⟨fits.quantity, fits.amount⟩
  · intro room
    refine ⟨recorded.rowAccepted, fun event carried => (eventAccepted event carried).mpr ?_⟩
    unfold ReversalChecked
    split
    case isFalse other => exact recorded.noReversal event carried other
    case isTrue isReturn =>
      obtain ⟨original, found, link, account, sale, product, unit, currency, originalAgrees,
        eventAgrees⟩ := recorded.agrees event carried isReturn
      have fits := room event original carried isReturn link found
      rw [← recorded.activeReversals_eq_otherReturns indexed carried] at fits
      refine ⟨original, found, link, {
        account, sale
        quantity := fits.quantity
        amount := fits.amount
        agree := ⟨product, unit, currency, originalAgrees, eventAgrees,
          reachable.agrees_of_activeReversals found originalAgrees⟩ }⟩

/-- A recorded item that passes its checks again inserts and changes nothing. -/
theorem Recorded.appendLocked_eq
    (recorded : Recorded ledger tenantId item)
    (accepted : ledger.validateAppend tenantId item = .ok ()) :
    ledger.appendLocked tenantId item = (.ok ⟨false, false⟩, ledger) := by
  obtain ⟨existingRow, rowFound, _⟩ := recorded.row
  have sameRows := writeItem_rows ledger tenantId item
  rw [rowFound, Dict.set_eq_self_of_get? recorded.locator] at sameRows
  have noEvent : ledger.newEvent tenantId item = none := by
    rw [newEvent_eq_none]
    intro event carried
    obtain ⟨existing, found, _⟩ := recorded.event event carried
    exact ⟨existing, found⟩
  obtain ⟨byId, byIdempotency, byRevision⟩ := writeItem_of_newEvent_none noEvent
  have unchanged : ledger.writeItem tenantId item = ledger := by
    cases after : ledger.writeItem tenantId item with
    | mk sourceById sourceByLocator eventById eventByIdempotency eventByRevision =>
        rw [after] at sameRows byId byIdempotency byRevision
        simp only [Option.isNone_some, Bool.false_eq_true, if_false] at sameRows
        obtain ⟨rfl, rfl⟩ := sameRows
        subst byId byIdempotency byRevision
        rfl
  have nothing : ledger.insertions tenantId item = ⟨false, false⟩ := by
    obtain ⟨row, carried⟩ := item
    cases carried with
    | none => simp [insertions, rowFound]
    | some event =>
        obtain ⟨existing, found, _⟩ := recorded.event event rfl
        simp [insertions, rowFound, found]
  rw [appendLocked_of_ok accepted, unchanged, nothing]

/-- Repeating a committed append of a run succeeds, inserts nothing and changes
nothing exactly when the item carries no return, or its return still has room
in its sale next to the other active returns. -/
theorem replay_afterCalls
    (calls : List LedgerCall)
    (step : LedgerStep)
    (committed : step ∈ committedSteps calls)
    (tenant : TenantContext)
    (sameTenant : tenant.tenantId = step.tenantId) :
    (afterCalls calls).append tenant step.item = (.ok ⟨false, false⟩, afterCalls calls) ↔
      ReplayFits (afterCalls calls) step.tenantId step.item := by
  have recorded := recorded_afterCalls committed
  rw [← recorded.validateAppend_eq_ok_iff (reachable_afterCalls calls),
    InMemoryCanonicalLedger.append, sameTenant]
  constructor
  · intro repeated
    cases checked : (afterCalls calls).validateAppend step.tenantId step.item with
    | error failure =>
        rw [appendLocked_of_error checked] at repeated
        exact absurd (congrArg Prod.fst repeated) (by simp)
    | ok done => rfl
  · exact recorded.appendLocked_eq

/-- A sale of 2 and a return of 2. -/
def returnedSale : List Operation := [.sale 2 "10", .firstReturn 2 "10"]

/-- Repeating the return of a sale that is returned once changes nothing. -/
theorem replay_return :
    (afterCalls (appendCalls returnedSale)).append Operation.tenant
        (Operation.firstReturn 2 "10").item =
      (.ok ⟨false, false⟩, afterCalls (appendCalls returnedSale)) := by
  have run := afterCalls_of_acceptsAll returnedSale (by decide +kernel)
  have committed : (⟨ofOperations [.sale 2 "10"], "tenant", (Operation.firstReturn 2 "10").item⟩ :
      LedgerStep) ∈ committedSteps (appendCalls returnedSale) := by
    rw [run.2]
    exact List.mem_of_getLast? rfl
  refine (replay_afterCalls _ _ committed Operation.tenant rfl).mpr ?_
  rw [run.1]
  rintro event original carried - link found
  obtain rfl := Option.some.inj carried
  have stored : (ofOperations returnedSale).eventById.get? ("tenant", "sale") =
      some (Operation.sale 2 "10").event := rfl
  have sameId : "sale" = original.eventId := Option.some.inj link
  rw [← sameId, stored] at found
  obtain rfl := Option.some.inj found
  have others : (ofOperations returnedSale).otherReturns "tenant" "sale"
      (Operation.firstReturn 2 "10").event = [] := by
    rw [← List.isEmpty_iff]
    decide +kernel
  show RoomFor _ _ ((ofOperations returnedSale).otherReturns "tenant" "sale"
    (Operation.firstReturn 2 "10").event)
  rw [others]
  exact ⟨by decide +kernel, _, rfl, by decide +kernel⟩

/-- The checks reject an item whose row and revision pass but whose return does
not. -/
theorem Recorded.rejected
    (recorded : Recorded ledger tenantId item)
    (reachable : Reachable ledger)
    {event : CanonicalEvent}
    (carried : item.2 = some event)
    {failure : LedgerFailure}
    (rejected : ledger.validateReversal tenantId event = .error failure) :
    ledger.appendLocked tenantId item = (.error failure, ledger) := by
  refine appendLocked_of_error ?_
  unfold validateAppend
  rw [recorded.rowAccepted, carried]
  exact (recorded.validateEvent_eq reachable carried).trans rejected

/-- A sale of 2, a return of 2, and a revision of the return. -/
def revisedSale : List Operation :=
  [.sale 2 "10", .firstReturn 2 "10", .revisedReturn 2 "10"]

/-- The first return was accepted, but repeating it after its revision counts
both and is rejected. -/
theorem replay_superseded :
    (∃ step ∈ committedSteps (appendCalls revisedSale),
      step.tenantId = "tenant" ∧ step.item = (Operation.firstReturn 2 "10").item) ∧
    (afterCalls (appendCalls revisedSale)).append Operation.tenant
        (Operation.firstReturn 2 "10").item =
      (.error (.canonical .eventReversalExceedsOriginal),
        afterCalls (appendCalls revisedSale)) := by
  have run := afterCalls_of_acceptsAll revisedSale (by decide +kernel)
  have committed : (⟨ofOperations [.sale 2 "10"], "tenant", (Operation.firstReturn 2 "10").item⟩ :
      LedgerStep) ∈ committedSteps (appendCalls revisedSale) := by
    rw [run.2]
    exact List.mem_cons_of_mem _ (List.mem_of_mem_head? rfl)
  refine ⟨⟨_, committed, rfl, rfl⟩, ?_⟩
  refine (recorded_afterCalls committed).rejected (reachable_afterCalls _) rfl ?_
  rw [run.1]
  rfl

end InMemoryCanonicalLedger
end QuantumAnalytics
