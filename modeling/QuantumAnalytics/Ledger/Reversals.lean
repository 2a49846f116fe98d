import QuantumAnalytics.Foundations.DecimalLaws
import QuantumAnalytics.Foundations.Reservations
import QuantumAnalytics.Ledger.Revisions

/-!
# Returns against sales

Returns reserve a part of the sale they reverse, and a revision of a return
replaces the return it supersedes. The active returns of a sale agree with it
in account, product, unit and currency, and their quantities sum up to at most
the quantity of the sale.
-/

namespace QuantumAnalytics

namespace CanonicalEvent

/-- The product as the ledger reads it. -/
def productIs (event : CanonicalEvent) (product : String) : Prop :=
  typedString event.payload "product_external_id" = .ok product

/-- The quantity as the ledger reads it; 0 when it cannot be read. -/
def quantityOf (event : CanonicalEvent) : Int :=
  match typedInteger event.payload "quantity" with
  | .ok (quantity, _) => quantity
  | .error _ => 0

/-- The gross amount as the ledger reads it; 0 when it cannot be read. -/
def amountOf (event : CanonicalEvent) : Decimal :=
  match typedDecimal event.payload "gross_amount" with
  | .ok (amount, _) => amount
  | .error _ => .ofInt 0

/-- Product, quantity and amount can be read, with the given product, unit and
currency. -/
structure Agrees (product unit currency : String) (event : CanonicalEvent) : Prop where
  product : typedString event.payload "product_external_id" = .ok product
  quantity : typedInteger event.payload "quantity" = .ok (event.quantityOf, unit)
  amount : typedDecimal event.payload "gross_amount" = .ok (event.amountOf, currency)

theorem typedInteger_eq_ok
    {event : CanonicalEvent}
    {quantity : Int}
    {unit : String} :
    typedInteger event.payload "quantity" = .ok (quantity, unit) ↔
      typedInteger event.payload "quantity" = .ok (event.quantityOf, unit) ∧
        quantity = event.quantityOf := by
  unfold quantityOf
  constructor
  · intro read
    rw [read]
    exact ⟨rfl, rfl⟩
  · rintro ⟨read, rfl⟩
    exact read

theorem typedDecimal_eq_ok
    {event : CanonicalEvent}
    {amount : Decimal}
    {currency : String} :
    typedDecimal event.payload "gross_amount" = .ok (amount, currency) ↔
      typedDecimal event.payload "gross_amount" = .ok (event.amountOf, currency) ∧
        amount = event.amountOf := by
  unfold amountOf
  constructor
  · intro read
    rw [read]
    exact ⟨rfl, rfl⟩
  · rintro ⟨read, rfl⟩
    exact read

/-- A quantity that is read is positive. -/
theorem quantity_pos
    {payload : JsonObject}
    {field : String}
    {quantity : Int}
    {unit : String}
    (read : typedInteger payload field = .ok (quantity, unit)) : 0 < quantity := by
  unfold typedInteger at read
  simp only [Checks.bind_eq_ok] at read
  obtain ⟨value, _, checked⟩ := read
  split at checked
  · simp only [Checks.bind_done_eq_ok, Checks.require_eq_ok, Checks.pure_eq_ok] at checked
    obtain ⟨⟨positive, _⟩, same⟩ := checked
    rwa [← (Prod.mk.inj same).1]
  · exact absurd checked (by simp)

/-- An amount that is read is not negative. -/
theorem amount_nonneg
    {payload : JsonObject}
    {field : String}
    {amount : Decimal}
    {currency : String}
    (read : typedDecimal payload field = .ok (amount, currency)) : 0 ≤ amount.toRat := by
  unfold typedDecimal at read
  simp only [Checks.bind_eq_ok] at read
  obtain ⟨value, _, checked⟩ := read
  split at checked
  · simp only [Checks.bind_done_eq_ok, Checks.require_eq_ok] at checked
    obtain ⟨_, parsed⟩ := checked
    split at parsed
    · simp only [Checks.bind_done_eq_ok, Checks.require_eq_ok, Checks.pure_eq_ok] at parsed
      obtain ⟨notNegative, same⟩ := parsed
      rw [← (Prod.mk.inj same).1]
      rw [Decimal.lt_iff, Decimal.toRat_ofInt] at notNegative
      simpa using notNegative
    · exact absurd parsed (by simp)
  · exact absurd checked (by simp)

theorem quantityOf_nonneg (event : CanonicalEvent) : 0 ≤ event.quantityOf := by
  unfold quantityOf
  split
  case h_1 quantity unit read => exact (quantity_pos read).le
  case h_2 => exact le_rfl

theorem amountOf_nonneg (event : CanonicalEvent) : 0 ≤ event.amountOf.toRat := by
  unfold amountOf
  split
  case h_1 amount currency read => exact amount_nonneg read
  case h_2 => simp

/-- How events reserve the capacity of sales. -/
def returns : Reservations CanonicalEvent String where
  idOf event := event.eventId
  target event := if event.eventType = "RETURN_ACCEPTED" then event.reversalOfEventId else none
  replaces event := event.supersedesEventId

theorem target_eq_some {event : CanonicalEvent} {originalId : String} :
    returns.target event = some originalId ↔
      event.eventType = "RETURN_ACCEPTED" ∧ event.reversalOfEventId = some originalId := by
  simp [returns]

end CanonicalEvent

open CanonicalEvent

/-- A decimal with further decimals added one after another. -/
def addAll (ctx : DecimalContext) (start : Decimal) (amounts : List Decimal) :
    Except DecimalSignal Decimal :=
  amounts.foldlM (Decimal.add ctx) start

namespace InMemoryCanonicalLedger

variable {ledger : InMemoryCanonicalLedger} {tenantId : String} {item : LedgerItem}

/-- Arithmetic in the default context succeeds when the decimal operation does. -/
theorem inDefaultContext_eq_ok
    {result : Except DecimalSignal Decimal}
    {value : Decimal} : inDefaultContext result = .ok value ↔ result = .ok value := by
  cases result <;> simp [inDefaultContext, Except.mapError]

/-- The loop over the active reversals sums up quantities and amounts that
agree with the original. -/
theorem totalReversed_eq_ok
    {product unit currency : String}
    {existing : List CanonicalEvent}
    {quantity totalQuantity : Int}
    {amount totalAmount : Decimal} :
    totalReversed product unit currency existing (quantity, amount) =
        .ok (totalQuantity, totalAmount) ↔
      (∀ event ∈ existing, event.Agrees product unit currency) ∧
        totalQuantity = quantity + (existing.map quantityOf).sum ∧
        addAll .default amount (existing.map amountOf) = .ok totalAmount := by
  induction existing generalizing quantity amount with
  | nil => simp [totalReversed, addAll, pure, Except.pure, eq_comm]
  | cons event existing inductionHypothesis =>
      simp only [totalReversed, Checks.bind_eq_ok, Checks.require_eq_ok, exists_const,
        Prod.exists, inDefaultContext_eq_ok, inductionHypothesis, List.forall_mem_cons,
        List.map_cons, List.sum_cons, addAll, List.foldlM_cons]
      constructor
      · rintro ⟨read, readUnit, quantityRead, readAmount, readCurrency, amountRead, readProduct,
          productRead, ⟨rfl, rfl, rfl⟩, total, added, agree, rfl, rest⟩
        obtain ⟨quantityRead, rfl⟩ := typedInteger_eq_ok.mp quantityRead
        obtain ⟨amountRead, rfl⟩ := typedDecimal_eq_ok.mp amountRead
        exact ⟨⟨⟨productRead, quantityRead, amountRead⟩, agree⟩, by ring, total, added, rest⟩
      · rintro ⟨⟨agrees, agree⟩, rfl, total, added, rest⟩
        exact ⟨_, _, agrees.quantity, _, _, agrees.amount, _, agrees.product, ⟨rfl, rfl, rfl⟩,
          total, added, agree, by ring, rest⟩

/-- A return fits its sale next to other returns. -/
structure ReturnFits (original event : CanonicalEvent) (others : List CanonicalEvent) : Prop where
  account : original.marketplaceAccountId = event.marketplaceAccountId
  sale : original.eventType = "SALE_RECOGNIZED"
  agree : ∃ product unit currency, original.Agrees product unit currency ∧
    event.Agrees product unit currency ∧ ∀ other ∈ others, other.Agrees product unit currency
  quantity : event.quantityOf + (others.map quantityOf).sum ≤ original.quantityOf
  amount : ∃ total, addAll .default event.amountOf (others.map amountOf) = .ok total ∧
    ¬original.amountOf.lt total = true

/-- The reversal checks of an event that names its sale. -/
theorem validateReversalOf_eq_ok
    {originalId : String}
    {event : CanonicalEvent} :
    ledger.validateReversalOf tenantId originalId event = .ok () ↔
      ∃ original, ledger.eventById.get? (tenantId, originalId) = some original ∧
        ReturnFits original event (ledger.activeReversals tenantId original.eventId event) := by
  simp only [validateReversalOf, Checks.bind_eq_ok, Checks.require_eq_ok, exists_const,
    Prod.exists, eventOrError_eq_ok]
  constructor
  · rintro ⟨original, found, ⟨account, sale⟩, product, productRead, otherProduct,
      otherProductRead, quantity, unit, quantityRead, otherQuantity, otherUnit,
      otherQuantityRead, amount, currency, amountRead, otherAmount, otherCurrency,
      otherAmountRead, ⟨rfl, rfl, rfl⟩, totalQuantity, totalAmount, totals, within⟩
    obtain ⟨quantityRead, rfl⟩ := typedInteger_eq_ok.mp quantityRead
    obtain ⟨otherQuantityRead, rfl⟩ := typedInteger_eq_ok.mp otherQuantityRead
    obtain ⟨amountRead, rfl⟩ := typedDecimal_eq_ok.mp amountRead
    obtain ⟨otherAmountRead, rfl⟩ := typedDecimal_eq_ok.mp otherAmountRead
    obtain ⟨agree, rfl, added⟩ := totalReversed_eq_ok.mp totals
    rw [not_or, not_lt] at within
    exact ⟨original, found, {
      account, sale
      agree := ⟨product, unit, currency, ⟨productRead, quantityRead, amountRead⟩,
        ⟨otherProductRead, otherQuantityRead, otherAmountRead⟩, agree⟩
      quantity := within.1
      amount := ⟨totalAmount, added, within.2⟩ }⟩
  · rintro ⟨original, found, fits⟩
    obtain ⟨product, unit, currency, originalAgrees, eventAgrees, agree⟩ := fits.agree
    obtain ⟨total, added, amountWithin⟩ := fits.amount
    exact ⟨original, found, ⟨fits.account, fits.sale⟩, product, originalAgrees.product, product,
      eventAgrees.product, _, unit, originalAgrees.quantity, _, unit, eventAgrees.quantity, _,
      currency, originalAgrees.amount, _, currency, eventAgrees.amount, ⟨rfl, rfl, rfl⟩, _, total,
      totalReversed_eq_ok.mpr ⟨agree, rfl, added⟩,
      not_or.mpr ⟨not_lt.mpr fits.quantity, amountWithin⟩⟩

/-- What the event checks require of the reversal link. -/
def ReversalChecked
    (ledger : InMemoryCanonicalLedger)
    (tenantId : String)
    (event : CanonicalEvent) : Prop :=
  if event.eventType = "RETURN_ACCEPTED" then
    ∃ original, ledger.eventById.get? (tenantId, original.eventId) = some original ∧
      event.reversalOfEventId = some original.eventId ∧
      ReturnFits original event (ledger.activeReversals tenantId original.eventId event)
  else event.reversalOfEventId = none

/-- The reversal checks. -/
theorem validateReversal_eq_ok
    (indexed : Indexed ledger)
    {event : CanonicalEvent} :
    ledger.validateReversal tenantId event = .ok () ↔
      ReversalChecked ledger tenantId event := by
  unfold validateReversal ReversalChecked
  split
  case isFalse => simp
  case isTrue =>
    cases event.reversalOfEventId with
    | none => simp
    | some originalId =>
        simp only [validateReversalOf_eq_ok, Option.some.injEq]
        constructor
        · rintro ⟨original, found, fits⟩
          obtain ⟨_, key⟩ := indexed.byId.get?_eq_some_iff.mp found
          obtain ⟨_, rfl⟩ := Prod.mk.inj key
          exact ⟨original, found, rfl, fits⟩
        · rintro ⟨original, found, rfl, fits⟩
          exact ⟨original, found, fits⟩

/-! ### Active returns -/

/-- The stored returns of a tenant that name an event and that no stored event
of the tenant supersedes. -/
def activeReturns
    (ledger : InMemoryCanonicalLedger)
    (tenantId originalId : String) : List CanonicalEvent :=
  returns.active (ledger.tenantEvents tenantId) originalId

theorem mem_activeReturns
    {originalId : String}
    {event : CanonicalEvent} :
    event ∈ ledger.activeReturns tenantId originalId ↔
      event ∈ ledger.tenantEvents tenantId ∧ event.eventType = "RETURN_ACCEPTED" ∧
        event.reversalOfEventId = some originalId ∧
        ∀ later ∈ ledger.tenantEvents tenantId, later.supersedesEventId ≠ some event.eventId := by
  rw [activeReturns, Reservations.mem_active, target_eq_some, and_assoc]
  rfl

/-- The reversals that the check of a candidate counts are the active ones that
the candidate leaves in place, without the candidate itself. -/
theorem activeReversals_eq
    (originalId : String)
    (candidate : CanonicalEvent) :
    ledger.activeReversals tenantId originalId candidate =
      (returns.remaining (ledger.tenantEvents tenantId) originalId candidate).filter
        fun event => event.eventId ≠ candidate.eventId := by
  rw [Reservations.remaining, Reservations.active, List.filter_filter, List.filter_filter]
  unfold activeReversals
  refine List.filter_congr fun event _ => ?_
  rw [← Bool.decide_and, ← Bool.decide_and, decide_eq_decide, target_eq_some]
  simp only [returns, List.mem_append, List.mem_filterMap, Option.mem_toList, not_or, not_exists,
    not_and]
  tauto

/-- The events of a tenant are the stored ones with its id. -/
theorem tenantEvents_eq (indexed : Indexed ledger) :
    ledger.tenantEvents tenantId =
      ledger.events.filter fun event => event.organizationId = tenantId := by
  unfold tenantEvents events Dict.values
  rw [List.filter_map]
  refine congrArg (List.map Prod.snd) (List.filter_congr fun entry present => ?_)
  have key := indexed.byId entry present
  simp [key, CanonicalEvent.idKey]

/-- The events of a tenant after an accepted append. -/
theorem tenantEvents_writeItem
    (indexed : Indexed ledger)
    (accepted : ledger.validateAppend tenantId item = .ok ())
    (scope : String) :
    (ledger.writeItem tenantId item).tenantEvents scope =
      ledger.tenantEvents scope ++
        if scope = tenantId then (ledger.newEvent tenantId item).toList else [] := by
  rw [tenantEvents_eq indexed, tenantEvents_eq (indexed.append accepted), events_writeItem,
    List.filter_append]
  congr 1
  cases new : ledger.newEvent tenantId item with
  | none => simp
  | some event =>
      obtain ⟨carried, _⟩ := newEvent_eq_some.mp new
      obtain ⟨_, organization, _⟩ := lineage_of_accepted accepted carried
      by_cases same : scope = tenantId
      · simp [organization, same]
      · simp [organization, same, Ne.symm same]

/-! ### Links from returns to sales -/

/-- A stored return names a stored sale that it agrees with; no other event
names one. -/
def ReversalLinked (ledger : InMemoryCanonicalLedger) (event : CanonicalEvent) : Prop :=
  if event.eventType = "RETURN_ACCEPTED" then
    ∃ original ∈ ledger.events, original.organizationId = event.organizationId ∧
      event.reversalOfEventId = some original.eventId ∧
      original.marketplaceAccountId = event.marketplaceAccountId ∧
      original.eventType = "SALE_RECOGNIZED" ∧
      ∃ product unit currency,
        original.Agrees product unit currency ∧ event.Agrees product unit currency
  else event.reversalOfEventId = none

theorem ReversalLinked.writeItem
    {event : CanonicalEvent}
    (linked : ReversalLinked ledger event) :
    ReversalLinked (ledger.writeItem tenantId item) event := by
  unfold ReversalLinked at linked ⊢
  split
  case isFalse other => rwa [if_neg other] at linked
  case isTrue isReturn =>
    rw [if_pos isReturn] at linked
    obtain ⟨original, stored, agrees⟩ := linked
    refine ⟨original, ?_, agrees⟩
    rw [events_writeItem]
    exact List.mem_append_left _ stored

/-- Every stored event has a reversal link of the right form. -/
theorem ReachableBy.reversalLinked
    {guard : LedgerStep → Prop}
    (reachable : ReachableBy guard ledger) :
    ∀ event ∈ ledger.events, ReversalLinked ledger event := by
  induction reachable with
  | empty => simp [events, InMemoryCanonicalLedger.empty]
  | @append before tenantId item earlier accepted _ inductionHypothesis =>
      intro event present
      rw [events_writeItem, List.mem_append] at present
      rcases present with old | new
      · exact (inductionHypothesis event old).writeItem
      · obtain ⟨carried, _⟩ := newEvent_eq_some.mp (Option.mem_toList.mp new)
        obtain ⟨_, organization, _⟩ := lineage_of_accepted accepted carried
        obtain ⟨_, _, _, reversal⟩ :=
          validateEvent_eq_ok.mp ((validateAppend_eq_ok.mp accepted).2 event carried)
        have checked := (validateReversal_eq_ok earlier.indexed).mp reversal
        refine ReversalLinked.writeItem ?_
        unfold ReversalLinked
        unfold ReversalChecked at checked
        split
        case isFalse other => rwa [if_neg other] at checked
        case isTrue isReturn =>
          rw [if_pos isReturn] at checked
          obtain ⟨original, found, link, fits⟩ := checked
          obtain ⟨stored, key⟩ := earlier.indexed.byId.get?_eq_some_iff.mp found
          obtain ⟨product, unit, currency, originalAgrees, eventAgrees, _⟩ := fits.agree
          exact ⟨original, stored, (congrArg Prod.fst key).trans organization.symm, link,
            fits.account, fits.sale, product, unit, currency, originalAgrees, eventAgrees⟩

/-- An active return agrees with the stored event that it names. -/
theorem ReachableBy.agrees_of_active
    {guard : LedgerStep → Prop}
    (reachable : ReachableBy guard ledger)
    {original event : CanonicalEvent}
    (stored : original ∈ ledger.events)
    (active : event ∈ ledger.activeReturns original.organizationId original.eventId) :
    original.eventType = "SALE_RECOGNIZED" ∧
      event.marketplaceAccountId = original.marketplaceAccountId ∧
      ∃ product unit currency,
        original.Agrees product unit currency ∧ event.Agrees product unit currency := by
  obtain ⟨present, isReturn, link, _⟩ := mem_activeReturns.mp active
  obtain ⟨eventStored, sameTenant⟩ := (mem_tenantEvents reachable.indexed).mp present
  have linked := reachable.reversalLinked event eventStored
  rw [ReversalLinked, if_pos isReturn] at linked
  obtain ⟨sale, saleStored, saleTenant, saleLink, account, isSale, agree⟩ := linked
  have same : sale = original := by
    refine reachable.indexed.byId.eq_of_key_eq saleStored stored ?_
    have sameId : sale.eventId = original.eventId :=
      Option.some.inj (saleLink.symm.trans link)
    simp only [CanonicalEvent.idKey, sameId, saleTenant, sameTenant]
  subst same
  exact ⟨isSale, account.symm, agree⟩

/-- A sale is read in only one way, so returns that agree with it agree with
each other. -/
theorem ReachableBy.agrees_of_activeReversals
    {guard : LedgerStep → Prop}
    (reachable : ReachableBy guard ledger)
    {original candidate : CanonicalEvent}
    (found : ledger.eventById.get? (tenantId, original.eventId) = some original)
    {product unit currency : String}
    (agrees : original.Agrees product unit currency) :
    ∀ other ∈ ledger.activeReversals tenantId original.eventId candidate,
      other.Agrees product unit currency := by
  intro other counted
  obtain ⟨stored, key⟩ := reachable.indexed.byId.get?_eq_some_iff.mp found
  have organization : original.organizationId = tenantId := congrArg Prod.fst key
  rw [activeReversals_eq] at counted
  have active : other ∈ ledger.activeReturns original.organizationId original.eventId := by
    rw [organization]
    exact (Reservations.remaining_sublist _ _ _).subset (List.mem_of_mem_filter counted)
  obtain ⟨_, _, _, _, _, sameSale, otherAgrees⟩ := reachable.agrees_of_active stored active
  obtain rfl := Except.ok.inj (sameSale.product.symm.trans agrees.product)
  obtain rfl := (Prod.mk.inj (Except.ok.inj (sameSale.quantity.symm.trans agrees.quantity))).2
  obtain rfl := (Prod.mk.inj (Except.ok.inj (sameSale.amount.symm.trans agrees.amount))).2
  exact otherAgrees

/-! ### The cap -/

/-- An event with an unused id is new to the reservations of its tenant. -/
theorem ReachableBy.fresh
    {guard : LedgerStep → Prop}
    (reachable : ReachableBy guard ledger)
    {event : CanonicalEvent}
    (absent : ledger.eventById.get? (tenantId, event.eventId) = none) :
    returns.Fresh (ledger.tenantEvents tenantId) event := by
  constructor
  · intro other present link
    obtain ⟨stored, sameTenant⟩ := (mem_tenantEvents reachable.indexed).mp present
    have linked := reachable.revisionLinked other stored
    unfold RevisionLinked at linked
    split at linked
    · exact absurd (linked.symm.trans link) (by simp)
    · obtain ⟨supersedes, previous, named, found, _⟩ := linked
      have sameId : supersedes = event.eventId := Option.some.inj (named.symm.trans link)
      rw [sameId, sameTenant, absent] at found
      exact absurd found (by simp)
  · exact event.supersedesEventId_ne_self

section Cap

variable {M : Type*} [AddCommMonoid M] [PartialOrder M] [IsOrderedAddMonoid M]

/-- What the active returns of each stored event reserve is within the event. -/
def Capped (amount : CanonicalEvent → M) (ledger : InMemoryCanonicalLedger) : Prop :=
  ∀ original ∈ ledger.events,
    returns.reserved amount (ledger.tenantEvents original.organizationId) original.eventId ≤
      amount original

variable {amount : CanonicalEvent → M}

/-- An accepted return fits next to the returns that stay active. -/
def FitsBy (amount : CanonicalEvent → M) (step : LedgerStep) : Prop :=
  ∀ event original, step.ledger.newEvent step.tenantId step.item = some event →
    step.ledger.eventById.get? (step.tenantId, original.eventId) = some original →
    returns.target event = some original.eventId →
    amount event +
        ((returns.remaining (step.ledger.tenantEvents step.tenantId) original.eventId event).map
          amount).sum ≤
      amount original

/-- An append that fits keeps the cap. -/
theorem Capped.append
    {guard : LedgerStep → Prop}
    (reachable : ReachableBy guard ledger)
    (nonneg : ∀ event, 0 ≤ amount event)
    (accepted : ledger.validateAppend tenantId item = .ok ())
    (fits : FitsBy amount ⟨ledger, tenantId, item⟩)
    (capped : Capped amount ledger) :
    Capped amount (ledger.writeItem tenantId item) := by
  intro original present
  rw [tenantEvents_writeItem reachable.indexed accepted]
  rw [events_writeItem, List.mem_append] at present
  split
  case isFalse otherTenant =>
    -- Another tenant's events are those from before, and so is the original.
    rcases present with old | new
    · simpa using capped original old
    · obtain ⟨carried, _⟩ := newEvent_eq_some.mp (Option.mem_toList.mp new)
      exact absurd (lineage_of_accepted accepted carried).2.1 otherTenant
  case isTrue sameTenant =>
    cases new : ledger.newEvent tenantId item with
    | none =>
        rw [new] at present
        simpa using capped original (by simpa using present)
    | some event =>
        rw [new] at present
        obtain ⟨carried, absent⟩ := newEvent_eq_some.mp new
        have fresh := reachable.fresh absent
        rw [sameTenant, Option.toList_some]
        rcases present with old | isNew
        · have within := capped original old
          rw [sameTenant] at within
          by_cases drawn : returns.target event = some original.eventId
          · refine Reservations.reserved_append_of_eq fresh drawn (fits event original new ?_ drawn)
            exact reachable.indexed.byId.get?_eq_some_iff.mpr
              ⟨old, by rw [← sameTenant]; rfl⟩
          · exact Reservations.reserved_append_of_ne fresh (fun record _ => nonneg record) drawn
              within
        · -- Nothing can name the event before it is stored.
          obtain rfl : original = event := by simpa using isNew
          have unnamed : returns.active (ledger.tenantEvents tenantId ++ [original])
              original.eventId = [] := by
            rw [List.eq_nil_iff_forall_not_mem]
            intro record active
            obtain ⟨recordPresent, target, _⟩ := Reservations.mem_active.mp active
            obtain ⟨isReturn, link⟩ := target_eq_some.mp target
            rcases List.mem_append.mp recordPresent with stored | itself
            · obtain ⟨recordStored, recordTenant⟩ := (mem_tenantEvents reachable.indexed).mp stored
              have linked := reachable.reversalLinked record recordStored
              rw [ReversalLinked, if_pos isReturn] at linked
              obtain ⟨sale, saleStored, saleTenant, saleLink, _⟩ := linked
              have sameId : sale.eventId = original.eventId :=
                Option.some.inj (saleLink.symm.trans link)
              refine reachable.indexed.byId.get?_eq_none_iff.mp absent sale saleStored ?_
              rw [CanonicalEvent.idKey, sameId, saleTenant, recordTenant]
            · obtain rfl := List.mem_singleton.mp itself
              exact record.reversalOfEventId_ne_self link
          rw [Reservations.reserved, unnamed]
          simpa using nonneg original

/-- In a run whose accepted returns all fit, the cap holds throughout. -/
theorem ReachableBy.capped
    {guard : LedgerStep → Prop}
    (nonneg : ∀ event, 0 ≤ amount event)
    (fits : ∀ step : LedgerStep, Reachable step.ledger →
      step.ledger.validateAppend step.tenantId step.item = .ok () → guard step →
      FitsBy amount step)
    (reachable : ReachableBy guard ledger) : Capped amount ledger := by
  induction reachable with
  | empty => simp [Capped, events, InMemoryCanonicalLedger.empty]
  | append earlier accepted guarded inductionHypothesis =>
      exact Capped.append earlier nonneg accepted
        (fits _ earlier.reachable accepted guarded) inductionHypothesis

end Cap

/-- The reversals that the check of a new event counts are the returns that
stay active. -/
theorem activeReversals_of_absent
    (indexed : Indexed ledger)
    {event : CanonicalEvent}
    (absent : ledger.eventById.get? (tenantId, event.eventId) = none)
    (originalId : String) :
    ledger.activeReversals tenantId originalId event =
      returns.remaining (ledger.tenantEvents tenantId) originalId event := by
  rw [activeReversals_eq, List.filter_eq_self]
  intro record remains
  have present := (Reservations.active_sublist _ _).subset
    ((Reservations.remaining_sublist _ _ _).subset remains)
  obtain ⟨stored, sameTenant⟩ := (mem_tenantEvents indexed).mp present
  rw [decide_eq_true_eq]
  intro sameId
  refine indexed.byId.get?_eq_none_iff.mp absent record stored ?_
  rw [CanonicalEvent.idKey, sameId, sameTenant]

/-- What the reversal check says about a new return. -/
theorem returnFits_of_accepted
    (indexed : Indexed ledger)
    (accepted : ledger.validateAppend tenantId item = .ok ())
    {event original : CanonicalEvent}
    (new : ledger.newEvent tenantId item = some event)
    (found : ledger.eventById.get? (tenantId, original.eventId) = some original)
    (target : returns.target event = some original.eventId) :
    ReturnFits original event
      (returns.remaining (ledger.tenantEvents tenantId) original.eventId event) := by
  obtain ⟨carried, absent⟩ := newEvent_eq_some.mp new
  obtain ⟨isReturn, link⟩ := target_eq_some.mp target
  obtain ⟨_, _, _, reversal⟩ :=
    validateEvent_eq_ok.mp ((validateAppend_eq_ok.mp accepted).2 event carried)
  have checked := (validateReversal_eq_ok indexed).mp reversal
  rw [ReversalChecked, if_pos isReturn] at checked
  obtain ⟨named, namedFound, namedLink, fits⟩ := checked
  have sameId : named.eventId = original.eventId := Option.some.inj (namedLink.symm.trans link)
  rw [sameId, found] at namedFound
  obtain rfl := Option.some.inj namedFound
  rwa [activeReversals_of_absent indexed absent] at fits

/-- The active returns of an event, as they stand against it. -/
structure ReversalCap (ledger : InMemoryCanonicalLedger) (original : CanonicalEvent) : Prop where
  /-- The quantities of the active returns sum up to at most the event's own. -/
  within :
    ((ledger.activeReturns original.organizationId original.eventId).map quantityOf).sum ≤
      original.quantityOf
  /-- Only a sale has active returns, and they have its account, product,
  quantity unit and currency. -/
  agree : ∀ event ∈ ledger.activeReturns original.organizationId original.eventId,
    original.eventType = "SALE_RECOGNIZED" ∧
      event.marketplaceAccountId = original.marketplaceAccountId ∧
      ∃ product unit currency,
        original.Agrees product unit currency ∧ event.Agrees product unit currency

/-- In every ledger that a sequence of calls leaves, the active returns of
every stored event are within its quantity and agree with it. -/
theorem reversalCap_afterCalls
    (calls : List LedgerCall)
    (original : CanonicalEvent)
    (stored : original ∈ (afterCalls calls).events) :
    ReversalCap (afterCalls calls) original := by
  have reachable := reachable_afterCalls calls
  have capped := reachable.capped quantityOf_nonneg
    fun step earlier accepted _ event original new found target =>
      (returnFits_of_accepted earlier.indexed accepted new found target).quantity
  exact ⟨capped original stored, fun event active => reachable.agrees_of_active stored active⟩

/-- A sale of 3 with a return of 2, revised to 1, and a return of 2. -/
theorem reversalCap_revisedReturn :
    ReversalCap
      (afterCalls (appendCalls [.sale 3 "9", .firstReturn 2 "6", .revisedReturn 1 "3",
        .secondReturn 2 "6"]))
      (Operation.sale 3 "9").event := by
  have run := afterCalls_of_acceptsAll
    [.sale 3 "9", .firstReturn 2 "6", .revisedReturn 1 "3", .secondReturn 2 "6"]
    (by decide +kernel)
  refine reversalCap_afterCalls _ _ ?_
  rw [run.1]
  exact List.mem_of_mem_head? rfl

end InMemoryCanonicalLedger
end QuantumAnalytics
