import QuantumAnalytics.Ledger.Replay

/-!
# Parts of a ledger

A ledger is a part of another one when everything it stores is stored there
under the same key. An item that the larger ledger has recorded passes its
checks on a part, with two exceptions: an event it links to may be missing, and
its return may not have room next to the returns that are active in the part.
-/

namespace QuantumAnalytics

namespace CanonicalEvent

/-- The stored event that the revision check needs. -/
def revisionDependency (event : CanonicalEvent) : Option String :=
  if event.revision = 1 then none else event.supersedesEventId

/-- The stored events that the checks of an event need. -/
def dependencies (event : CanonicalEvent) : List String :=
  event.revisionDependency.toList ++ (returns.target event).toList

end CanonicalEvent

namespace InMemoryCanonicalLedger

open CanonicalEvent

variable {ledger part whole : InMemoryCanonicalLedger} {tenantId : String} {item : LedgerItem}

/-- An append that the whole records as it is stays within the whole. -/
theorem Within.writeItem
    (within : Within part whole)
    (recorded : Recorded whole tenantId item)
    (sameRow : part.sourceById.get? (tenantId, item.1.sourceRecordId) = none →
      whole.sourceById.get? (tenantId, item.1.sourceRecordId) = some item.1)
    (sameEvent : ∀ event, part.newEvent tenantId item = some event →
      whole.eventById.get? (tenantId, event.eventId) = some event) :
    Within (part.writeItem tenantId item) whole where
  rows key row found := by
    rw [(writeItem_rows _ _ _).1] at found
    split at found
    case isFalse => exact within.rows key row found
    case isTrue absent =>
      rw [Dict.get?_set] at found
      split at found
      case isTrue sameKey =>
        obtain rfl := Option.some.inj found
        subst sameKey
        exact sameRow (Option.isNone_iff_eq_none.mp absent)
      case isFalse => exact within.rows key row found
  locators key recordId found := by
    rw [(writeItem_rows _ _ _).2, Dict.get?_set] at found
    split at found
    case isTrue sameKey =>
      obtain rfl := Option.some.inj found
      subst sameKey
      exact recorded.locator
    case isFalse => exact within.locators key recordId found
  events key event found := by
    cases new : part.newEvent tenantId item with
    | none =>
        rw [(writeItem_of_newEvent_none new).1] at found
        exact within.events key event found
    | some inserted =>
        rw [(writeItem_of_newEvent_some new).1, Dict.get?_set] at found
        split at found
        case isTrue sameKey =>
          obtain rfl := Option.some.inj found
          subst sameKey
          exact sameEvent inserted new
        case isFalse => exact within.events key event found

/-- The events of a part are events of the whole. -/
theorem Within.mem_events
    (within : Within part whole)
    (partIndexed : Indexed part)
    (wholeIndexed : Indexed whole)
    {event : CanonicalEvent}
    (stored : event ∈ part.events) : event ∈ whole.events :=
  (wholeIndexed.byId.get?_eq_some_iff.mp
    (within.events _ _ (partIndexed.byId.get?_eq_some_iff.mpr ⟨stored, rfl⟩))).1

/-! ### Verdicts on a part -/

section Verdicts

variable {event : CanonicalEvent}

/-- The row of a recorded item is accepted on a part. -/
theorem Recorded.rowAccepted_of_within
    (recorded : Recorded whole tenantId item)
    (within : Within part whole) : part.validateRow tenantId item.1 item.2 = .ok () := by
  obtain ⟨_, _, sameContent, sameLocator⟩ := validateRow_eq_ok.mp recorded.rowAccepted
  exact validateRow_eq_ok.mpr ⟨recorded.tenant, recorded.linked,
    fun existing found => sameContent existing (within.rows _ _ found),
    fun existing found => sameLocator existing (within.locators _ _ found)⟩

/-- What an index of the part has for an event is what the whole has for it. -/
private theorem sameOrAbsent_of_within
    {κ : Type}
    [DecidableEq κ]
    {partIndex wholeIndex : Dict κ CanonicalEvent}
    {key : κ}
    (found : ∀ existing, partIndex.get? key = some existing →
      wholeIndex.get? key = some existing)
    (consistent : sameOrAbsent (wholeIndex.get? key) event = true) :
    sameOrAbsent (partIndex.get? key) event = true :=
  sameOrAbsent_iff.mpr fun existing present =>
    sameOrAbsent_iff.mp consistent existing (found existing present)

/-- On a part, only the links of a recorded event are open. -/
theorem Recorded.validateEvent_of_within
    (recorded : Recorded whole tenantId item)
    (within : Within part whole)
    (partIndexed : Indexed part)
    (reachable : Reachable whole)
    (carried : item.2 = some event) :
    sameOrAbsent (part.eventByRevision.get? (revisionKey tenantId event)) event = true ∧
      part.validateEvent tenantId event =
        (do part.validateRevision tenantId event; part.validateReversal tenantId event) := by
  have wholeIndexed := reachable.indexed
  obtain ⟨existing, existingFound, same⟩ := recorded.event event carried
  obtain ⟨idempotency, revision⟩ := recorded.revisionAccepted reachable carried
  have sameId : sameOrAbsent (part.eventById.get? (tenantId, event.eventId)) event = true :=
    sameOrAbsent_of_within (fun _ found => within.events _ _ found)
      (by simpa [existingFound, sameOrAbsent] using same)
  have sameKey :
      sameOrAbsent (part.eventByIdempotency.get? (tenantId, event.idempotencyKey)) event =
        true := by
    refine sameOrAbsent_of_within (fun stored found => ?_) idempotency
    obtain ⟨present, key⟩ := partIndexed.byIdempotency.get?_eq_some_iff.mp found
    rw [partIndexed.idempotencyValues] at present
    refine wholeIndexed.byIdempotency.get?_eq_some_iff.mpr ⟨?_, key⟩
    rw [wholeIndexed.idempotencyValues]
    exact within.mem_events partIndexed wholeIndexed present
  refine ⟨sameOrAbsent_of_within (fun stored found => ?_) (validateRevision_eq_ok.mp revision).1,
    ?_⟩
  · obtain ⟨present, key⟩ := partIndexed.byRevision.get?_eq_some_iff.mp found
    rw [partIndexed.revisionValues] at present
    refine wholeIndexed.byRevision.get?_eq_some_iff.mpr ⟨?_, key⟩
    rw [wholeIndexed.revisionValues]
    exact within.mem_events partIndexed wholeIndexed present
  · unfold validateEvent
    rw [ensure, require, if_pos sameId, ensure, require, if_pos sameKey]
    rfl

/-- The events that a recorded event links to are stored. -/
def Ready (ledger : InMemoryCanonicalLedger) (tenantId : String) (event : CanonicalEvent) : Prop :=
  ∀ eventId ∈ event.dependencies, (ledger.eventById.get? (tenantId, eventId)).isSome = true

/-- A return has room next to the active returns of its sale. -/
def HasRoom
    (ledger : InMemoryCanonicalLedger)
    (tenantId : String)
    (event : CanonicalEvent) : Prop :=
  ∀ original, returns.target event = some original.eventId →
    ledger.eventById.get? (tenantId, original.eventId) = some original →
    RoomFor original event (ledger.activeReversals tenantId original.eventId event)

/-- How the checks reject a return that lacks room: the totals are above the
sale, or adding them up leaves the range of the decimal context. -/
def Overdrawn (failure : LedgerFailure) : Prop :=
  failure = .canonical .eventReversalExceedsOriginal ∨ ∃ signal, failure = .decimal signal

/-- The revision check of a recorded event on a part. -/
theorem Recorded.validateRevision_of_within
    (recorded : Recorded whole tenantId item)
    (within : Within part whole)
    (partIndexed : Indexed part)
    (reachable : Reachable whole)
    (carried : item.2 = some event) :
    part.validateRevision tenantId event =
      if ∀ eventId ∈ event.revisionDependency,
          (part.eventById.get? (tenantId, eventId)).isSome = true then .ok ()
      else .error (.canonical .eventSupersededTargetMissing) := by
  have sameRevision := (recorded.validateEvent_of_within within partIndexed reachable carried).1
  have linked := (validateRevision_eq_ok.mp (recorded.revisionAccepted reachable carried).2).2
  unfold RevisionLinked at linked
  unfold validateRevision revisionDependency
  rw [ensure, require, if_pos sameRevision]
  by_cases first : event.revision = 1
  · rw [if_pos first] at linked
    simp [first, linked, require, bind, Except.bind]
  · rw [if_neg first] at linked
    obtain ⟨supersedes, previous, link, found, agrees⟩ := linked
    cases stored : part.eventById.get? (tenantId, supersedes) with
    | none => simp [first, link, stored, eventOrError, bind, Except.bind]
    | some event =>
        obtain rfl := Option.some.inj (found.symm.trans (within.events _ _ stored))
        simp [first, link, stored, eventOrError, require, agrees, bind, Except.bind]

/-- The total over returns that agree with each other. -/
theorem totalReversed_of_agrees
    {product unit currency : String}
    {existing : List CanonicalEvent}
    (agree : ∀ other ∈ existing, other.Agrees product unit currency)
    (quantity : Int)
    (amount : Decimal) :
    totalReversed product unit currency existing (quantity, amount) =
      (addAll .default amount (existing.map amountOf)).mapError LedgerFailure.decimal >>=
        fun total => .ok (quantity + (existing.map quantityOf).sum, total) := by
  induction existing generalizing quantity amount with
  | nil => simp [totalReversed, addAll, pure, Except.pure, bind, Except.bind, Except.mapError]
  | cons other existing inductionHypothesis =>
      rw [List.forall_mem_cons] at agree
      have rest := inductionHypothesis agree.2
      simp only [totalReversed, agree.1.product, agree.1.quantity, agree.1.amount, ensure, require,
        and_self, if_true, bind, Except.bind, inDefaultContext, addAll, List.map_cons,
        List.foldlM_cons]
      cases Decimal.add .default amount other.amountOf with
      | error signal => simp [Except.mapError]
      | ok sum =>
          simp only [Except.mapError, rest, addAll, List.sum_cons, bind, Except.bind]
          rw [add_assoc]

/-- The reversal check compares the totals of returns that agree with the sale. -/
theorem validateReversalOf_of_agrees
    {original : CanonicalEvent}
    (found : ledger.eventById.get? (tenantId, original.eventId) = some original)
    (account : original.marketplaceAccountId = event.marketplaceAccountId)
    (sale : original.eventType = "SALE_RECOGNIZED")
    {product unit currency : String}
    (originalAgrees : original.Agrees product unit currency)
    (eventAgrees : event.Agrees product unit currency)
    (agree : ∀ other ∈ ledger.activeReversals tenantId original.eventId event,
      other.Agrees product unit currency) :
    (RoomFor original event (ledger.activeReversals tenantId original.eventId event) →
      ledger.validateReversalOf tenantId original.eventId event = .ok ()) ∧
    (¬RoomFor original event (ledger.activeReversals tenantId original.eventId event) →
      ∃ failure, Overdrawn failure ∧
        ledger.validateReversalOf tenantId original.eventId event = .error failure) := by
  have compared : ledger.validateReversalOf tenantId original.eventId event =
      (addAll .default event.amountOf
        ((ledger.activeReversals tenantId original.eventId event).map amountOf)).mapError
          LedgerFailure.decimal >>= fun total =>
        ensure (¬(original.quantityOf < event.quantityOf +
            ((ledger.activeReversals tenantId original.eventId event).map quantityOf).sum ∨
          original.amountOf.lt total = true)) .eventReversalExceedsOriginal := by
    simp only [validateReversalOf, eventOrError, found, account, sale, originalAgrees.product,
      originalAgrees.quantity, originalAgrees.amount, eventAgrees.product, eventAgrees.quantity,
      eventAgrees.amount, totalReversed_of_agrees agree, require, and_self, if_true, bind,
      Except.bind]
    cases addAll .default event.amountOf
      ((ledger.activeReversals tenantId original.eventId event).map amountOf) <;> rfl
  rw [compared]
  cases added : addAll .default event.amountOf
      ((ledger.activeReversals tenantId original.eventId event).map amountOf) with
  | error signal =>
      refine ⟨fun room => ?_, fun _ => ⟨.decimal signal, .inr ⟨signal, rfl⟩, rfl⟩⟩
      obtain ⟨total, totalAdded, _⟩ := room.amount
      exact absurd (added.symm.trans totalAdded) (by simp)
  | ok total =>
      have checked : ∀ condition : Prop, [Decidable condition] →
          ((Except.ok total : Except DecimalSignal Decimal).mapError LedgerFailure.decimal >>=
            fun _ => ensure condition .eventReversalExceedsOriginal) =
          ensure condition .eventReversalExceedsOriginal := fun _ _ => rfl
      refine ⟨fun room => ?_, fun tight => ?_⟩
      · obtain ⟨_, totalAdded, within⟩ := room.amount
        obtain rfl := Except.ok.inj (added.symm.trans totalAdded)
        exact Checks.require_eq_ok.mpr (not_or.mpr ⟨not_lt.mpr room.quantity, within⟩)
      · refine ⟨.canonical .eventReversalExceedsOriginal, .inl rfl,
          Checks.require_eq_error.mpr ⟨fun fits => tight ?_, rfl⟩⟩
        rw [not_or, not_lt] at fits
        exact ⟨fits.1, total, added, fits.2⟩

/-- The reversal check of a recorded event on a part. -/
theorem Recorded.validateReversal_of_within
    (recorded : Recorded whole tenantId item)
    (within : Within part whole)
    (partReachable : Reachable part)
    (carried : item.2 = some event) :
    ((¬∀ eventId ∈ returns.target event,
        (part.eventById.get? (tenantId, eventId)).isSome = true) →
      part.validateReversal tenantId event =
        .error (.canonical .eventReversalTargetMissing)) ∧
    ((∀ eventId ∈ returns.target event,
        (part.eventById.get? (tenantId, eventId)).isSome = true) →
      (HasRoom part tenantId event → part.validateReversal tenantId event = .ok ()) ∧
      (¬HasRoom part tenantId event → ∃ failure, Overdrawn failure ∧
        part.validateReversal tenantId event = .error failure)) := by
  unfold validateReversal HasRoom
  by_cases isReturn : event.eventType = "RETURN_ACCEPTED"
  case neg =>
    have noTarget : returns.target event = none := if_neg isReturn
    simp [isReturn, noTarget, recorded.noReversal event carried isReturn]
  case pos =>
    obtain ⟨original, found, link, account, sale, product, unit, currency, originalAgrees,
      eventAgrees⟩ := recorded.agrees event carried isReturn
    have target : returns.target event = some original.eventId := target_eq_some.mpr ⟨isReturn, link⟩
    rw [if_pos isReturn, target, link]
    cases stored : part.eventById.get? (tenantId, original.eventId) with
    | none =>
        refine ⟨fun _ => ?_, fun present => absurd (present _ rfl) (by simp [stored])⟩
        simp [validateReversalOf, eventOrError, stored, bind, Except.bind]
    | some same =>
        obtain rfl := Option.some.inj (found.symm.trans (within.events _ _ stored))
        refine ⟨fun missing => absurd ?_ missing, fun _ => ?_⟩
        · simp [stored]
        · obtain ⟨accepts, rejects⟩ := validateReversalOf_of_agrees stored account sale
            originalAgrees eventAgrees (partReachable.agrees_of_activeReversals stored originalAgrees)
          refine ⟨fun room => accepts (room original rfl stored), fun tight => rejects ?_⟩
          intro room
          refine tight fun other sameId otherStored => ?_
          rw [← Option.some.inj sameId, stored] at otherStored
          obtain rfl := Option.some.inj otherStored
          exact room

/-- What an append of a recorded item does on a part. -/
theorem Recorded.verdict
    (recorded : Recorded whole tenantId item)
    (within : Within part whole)
    (partReachable : Reachable part)
    (reachable : Reachable whole)
    (carried : item.2 = some event) :
    (¬Ready part tenantId event → ∃ code,
      (code = .eventSupersededTargetMissing ∨ code = .eventReversalTargetMissing) ∧
        part.validateAppend tenantId item = .error (.canonical code)) ∧
    (Ready part tenantId event →
      (HasRoom part tenantId event → part.validateAppend tenantId item = .ok ()) ∧
      (¬HasRoom part tenantId event → ∃ failure, Overdrawn failure ∧
        part.validateAppend tenantId item = .error failure)) := by
  have checks : part.validateAppend tenantId item =
      (do part.validateRevision tenantId event; part.validateReversal tenantId event) := by
    unfold validateAppend
    rw [recorded.rowAccepted_of_within within, carried]
    exact (recorded.validateEvent_of_within within partReachable.indexed reachable carried).2
  have revision := recorded.validateRevision_of_within within partReachable.indexed reachable carried
  obtain ⟨missing, present⟩ := recorded.validateReversal_of_within within partReachable carried
  have split : Ready part tenantId event ↔
      (∀ eventId ∈ event.revisionDependency,
        (part.eventById.get? (tenantId, eventId)).isSome = true) ∧
      ∀ eventId ∈ returns.target event,
        (part.eventById.get? (tenantId, eventId)).isSome = true := by
    simp only [Ready, dependencies, List.forall_mem_append, Option.mem_toList, Option.mem_def]
  rw [checks, split, revision]
  by_cases superseded : ∀ eventId ∈ event.revisionDependency,
      (part.eventById.get? (tenantId, eventId)).isSome = true
  · rw [if_pos superseded]
    refine ⟨fun waits => ?_, fun ready => present ready.2⟩
    exact ⟨_, .inr rfl, missing fun stored => waits ⟨superseded, stored⟩⟩
  · rw [if_neg superseded]
    exact ⟨fun _ => ⟨_, .inl rfl, rfl⟩, fun ready => absurd ready.1 superseded⟩

end Verdicts

end InMemoryCanonicalLedger
end QuantumAnalytics
