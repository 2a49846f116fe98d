import QuantumAnalytics.Foundations.VersionHistory
import QuantumAnalytics.Ledger.Trace

/-!
# Revision chains

The stored events form a version history: the key of an event is its tenant,
account and business key, its version is its revision, and the supersession
links go from one revision to the one before.
-/

namespace QuantumAnalytics

namespace CanonicalEvent

/-- What the revisions of an event share. -/
def businessKey (event : CanonicalEvent) : String × String × String :=
  (event.organizationId, event.marketplaceAccountId, event.stableBusinessKey)

/-- An event names another one of its tenant as the revision it replaces. -/
def Supersedes (later earlier : CanonicalEvent) : Prop :=
  later.organizationId = earlier.organizationId ∧ later.supersedesEventId = some earlier.eventId

end CanonicalEvent

namespace InMemoryCanonicalLedger

variable {ledger : InMemoryCanonicalLedger} {tenantId : String} {item : LedgerItem}

/-- A supersession link that leads to a stored event keeps leading there. -/
theorem RevisionLinked.writeItem
    {event : CanonicalEvent}
    {organizationId : String}
    (linked : RevisionLinked ledger organizationId event) :
    RevisionLinked (ledger.writeItem tenantId item) organizationId event := by
  unfold RevisionLinked at linked ⊢
  split
  case isTrue first => rwa [if_pos first] at linked
  case isFalse later =>
    rw [if_neg later] at linked
    obtain ⟨supersedes, previous, link, found, agrees⟩ := linked
    exact ⟨supersedes, previous, link, get?_eventById_writeItem found, agrees⟩

/-- Every stored event has a supersession link of the right form. -/
theorem ReachableBy.revisionLinked
    {guard : LedgerStep → Prop}
    (reachable : ReachableBy guard ledger) :
    ∀ event ∈ ledger.events, RevisionLinked ledger event.organizationId event := by
  induction reachable with
  | empty => simp [events, InMemoryCanonicalLedger.empty]
  | @append before tenantId item _ accepted _ inductionHypothesis =>
      intro event present
      rw [events_writeItem, List.mem_append] at present
      rcases present with old | new
      · exact (inductionHypothesis event old).writeItem
      · obtain ⟨carried, _⟩ := newEvent_eq_some.mp (Option.mem_toList.mp new)
        obtain ⟨_, organization, _⟩ := lineage_of_accepted accepted carried
        obtain ⟨_, _, revision, _⟩ :=
          validateEvent_eq_ok.mp ((validateAppend_eq_ok.mp accepted).2 event carried)
        rw [organization]
        exact (validateRevision_eq_ok.mp revision).2.writeItem

/-- The event that a later revision supersedes is stored and is the revision
before it. -/
theorem exists_superseded
    (indexed : Indexed ledger)
    {event : CanonicalEvent}
    (linked : RevisionLinked ledger event.organizationId event)
    (later : event.revision ≠ 1) :
    ∃ previous ∈ ledger.events, event.Supersedes previous ∧
      previous.businessKey = event.businessKey ∧ previous.eventType = event.eventType ∧
      previous.revision + 1 = event.revision := by
  rw [RevisionLinked, if_neg later] at linked
  obtain ⟨supersedes, previous, link, found, account, businessKey, eventType, next⟩ := linked
  obtain ⟨stored, key⟩ := indexed.byId.get?_eq_some_iff.mp found
  obtain ⟨organization, rfl⟩ := Prod.mk.inj key
  refine ⟨previous, stored, ⟨organization.symm, link⟩, ?_, eventType, next⟩
  simp only [CanonicalEvent.businessKey, organization, account, businessKey]

/-- The stored events of a reachable ledger form a version history. -/
theorem ReachableBy.versionHistory
    {guard : LedgerStep → Prop}
    (reachable : ReachableBy guard ledger) :
    VersionHistory {event | event ∈ ledger.events} CanonicalEvent.businessKey
      (fun event => event.revision) CanonicalEvent.Supersedes where
  positive event _ := event.one_le_revision
  unique left leftStored right rightStored sameKey sameVersion := by
    have indexed := reachable.indexed
    refine indexed.byRevision.eq_of_key_eq ?_ ?_ ?_
    · rw [indexed.revisionValues]
      exact leftStored
    · rw [indexed.revisionValues]
      exact rightStored
    · simp only [CanonicalEvent.businessKey, Prod.mk.injEq] at sameKey
      simp [CanonicalEvent.revisionIndexKey, revisionKey, sameKey, sameVersion]
  first event stored isFirst other link := by
    have linked := reachable.revisionLinked event stored
    rw [RevisionLinked, if_pos isFirst, link.2] at linked
    exact absurd linked (by simp)
  linked event stored later := by
    obtain ⟨previous, previousStored, link, sameKey, _, next⟩ :=
      exists_superseded reachable.indexed (reachable.revisionLinked event stored) later
    exact ⟨previous, previousStored, link, sameKey, next⟩
  single event stored left leftStored right rightStored leftLink rightLink := by
    refine reachable.indexed.byId.eq_of_key_eq leftStored rightStored ?_
    have sameId : left.eventId = right.eventId :=
      Option.some.inj (leftLink.2.symm.trans rightLink.2)
    simp only [CanonicalEvent.idKey, sameId, ← leftLink.1, ← rightLink.1]

/-- A superseded event has the type of the event that supersedes it. -/
theorem ReachableBy.eventType_of_supersedes
    {guard : LedgerStep → Prop}
    (reachable : ReachableBy guard ledger)
    {event : CanonicalEvent}
    (stored : event ∈ ledger.events)
    {earlier : CanonicalEvent}
    (earlierStored : earlier ∈ ledger.events)
    (link : event.Supersedes earlier) : earlier.eventType = event.eventType := by
  have history := reachable.versionHistory
  have later : event.revision ≠ 1 := fun isFirst => history.first event stored isFirst earlier link
  obtain ⟨previous, previousStored, previousLink, _, sameType, _⟩ :=
    exists_superseded reachable.indexed (reachable.revisionLinked event stored) later
  have same := history.single event stored previous previousStored earlier earlierStored
    previousLink link
  exact same ▸ sameType

/-- The stored events of one tenant, account and business key. -/
def revisionsOf
    (ledger : InMemoryCanonicalLedger)
    (tenantId accountId businessKey : String) : Set CanonicalEvent :=
  {event | event ∈ ledger.events ∧ event.businessKey = (tenantId, accountId, businessKey)}

/-- The revisions of one business key: `1, …, latest`, each replacing the one
before it. -/
structure RevisionChain
    (ledger : InMemoryCanonicalLedger)
    (tenantId accountId businessKey : String)
    (latest : CanonicalEvent) : Prop where
  /-- The latest revision is stored. -/
  latestStored : latest ∈ ledger.revisionsOf tenantId accountId businessKey
  /-- The stored revisions are exactly those up to the latest one. -/
  contiguous : ∀ number,
    (∃ event ∈ ledger.revisionsOf tenantId accountId businessKey, event.revision = number) ↔
      1 ≤ number ∧ number ≤ latest.revision
  /-- There is one event for each revision. -/
  oneEach : ∀ left ∈ ledger.revisionsOf tenantId accountId businessKey,
    ∀ right ∈ ledger.revisionsOf tenantId accountId businessKey,
      left.revision = right.revision → left = right
  /-- All revisions are of one type. -/
  oneType : ∀ left ∈ ledger.revisionsOf tenantId accountId businessKey,
    ∀ right ∈ ledger.revisionsOf tenantId accountId businessKey,
      left.eventType = right.eventType
  /-- The first revision supersedes nothing. -/
  first : ∀ event ∈ ledger.revisionsOf tenantId accountId businessKey,
    event.revision = 1 → event.supersedesEventId = none
  /-- Every later revision supersedes the one before it. -/
  next : ∀ earlier ∈ ledger.revisionsOf tenantId accountId businessKey,
    ∀ later ∈ ledger.revisionsOf tenantId accountId businessKey,
      later.revision = earlier.revision + 1 → later.supersedesEventId = some earlier.eventId
  /-- Exactly the latest revision is not superseded by any event of the tenant. -/
  notSuperseded : ∀ event ∈ ledger.revisionsOf tenantId accountId businessKey,
    (∀ later ∈ ledger.events, later.organizationId = tenantId →
      later.supersedesEventId ≠ some event.eventId) ↔ event = latest

/-- Every business key of a reachable ledger has a revision chain. -/
theorem ReachableBy.exists_revisionChain
    {guard : LedgerStep → Prop}
    (reachable : ReachableBy guard ledger)
    {accountId businessKey : String}
    (nonempty : (ledger.revisionsOf tenantId accountId businessKey).Nonempty) :
    ∃ latest, RevisionChain ledger tenantId accountId businessKey latest := by
  have history := reachable.versionHistory
  obtain ⟨some_event, stored, someKey⟩ := nonempty
  obtain ⟨latest, latestStored, latestKey, versions⟩ :=
    history.exists_latest (List.finite_toSet ledger.events) stored
  rw [someKey] at latestKey versions
  have contiguous : ∀ number,
      (∃ event ∈ ledger.revisionsOf tenantId accountId businessKey, event.revision = number) ↔
        1 ≤ number ∧ number ≤ latest.revision := by
    intro number
    rw [← versions number]
    simp only [revisionsOf, Set.mem_ofPred_eq, and_assoc]
  refine ⟨latest, {
    latestStored := ⟨latestStored, latestKey⟩
    contiguous
    oneEach := fun left leftIn right rightIn sameRevision =>
      history.unique left leftIn.1 right rightIn.1 (leftIn.2.trans rightIn.2.symm) sameRevision
    oneType := fun left leftIn right rightIn =>
      history.eq_of_key_eq (fun event => event.eventType)
        (fun event eventStored earlier earlierStored link =>
          reachable.eventType_of_supersedes eventStored earlierStored link)
        leftIn.1 rightIn.1 (leftIn.2.trans rightIn.2.symm)
    first := fun event eventIn isFirst => by
      have linked := reachable.revisionLinked event eventIn.1
      rwa [RevisionLinked, if_pos isFirst] at linked
    next := fun earlier earlierIn later laterIn isNext =>
      ((history.replaces_iff laterIn.1 earlierIn.1).mpr
        ⟨earlierIn.2.trans laterIn.2.symm, isNext.symm⟩).2
    notSuperseded := ?_ }⟩
  intro event eventIn
  have organization : event.organizationId = tenantId := congrArg Prod.fst eventIn.2
  have replaced := history.exists_replacement_iff eventIn.1
  have bounded := ((contiguous event.revision).mp ⟨event, eventIn, rfl⟩).2
  constructor
  · intro free
    refine history.unique event eventIn.1 latest latestStored
      (eventIn.2.trans latestKey.symm) (le_antisymm bounded ?_)
    by_contra above
    obtain ⟨later, laterStored, sameTenant, link⟩ :=
      replaced.mpr ⟨latest, latestStored, latestKey.trans eventIn.2.symm, not_le.mp above⟩
    exact free later laterStored (sameTenant.trans organization) link
  · rintro rfl later laterStored sameTenant link
    obtain ⟨newer, newerStored, newerKey, above⟩ :=
      replaced.mp ⟨later, laterStored, sameTenant.trans organization.symm, link⟩
    have newerBounded := ((contiguous newer.revision).mp
      ⟨newer, ⟨newerStored, newerKey.trans eventIn.2⟩, rfl⟩).2
    exact absurd above (not_lt.mpr newerBounded)

/-- In every ledger that a sequence of calls leaves, the revisions of each
business key form one chain, and the supersession relation is injective and
has no cycles. -/
theorem revisionChains_afterCalls (calls : List LedgerCall) :
    (∀ tenantId accountId businessKey,
      ((afterCalls calls).revisionsOf tenantId accountId businessKey).Nonempty →
      ∃ latest, RevisionChain (afterCalls calls) tenantId accountId businessKey latest) ∧
    (∀ left ∈ (afterCalls calls).events, ∀ right ∈ (afterCalls calls).events,
      left.organizationId = right.organizationId →
      left.supersedesEventId ≠ none → left.supersedesEventId = right.supersedesEventId →
      left = right) ∧
    (∀ event, ¬Relation.TransGen
      (fun later earlier => later ∈ (afterCalls calls).events ∧
        earlier ∈ (afterCalls calls).events ∧ later.Supersedes earlier) event event) := by
  have reachable := reachable_afterCalls calls
  have history := reachable.versionHistory
  refine ⟨fun _ _ _ nonempty => reachable.exists_revisionChain nonempty, ?_, history.acyclic⟩
  intro left leftStored right rightStored sameTenant supersedes same
  have later : left.revision ≠ 1 := by
    intro isFirst
    have linked := reachable.revisionLinked left leftStored
    rw [RevisionLinked, if_pos isFirst] at linked
    exact supersedes linked
  obtain ⟨earlier, earlierStored, link, _⟩ :=
    exists_superseded reachable.indexed (reachable.revisionLinked left leftStored) later
  exact history.replaces_injective leftStored rightStored earlierStored link
    ⟨sameTenant.symm.trans link.1, same.symm.trans link.2⟩

end InMemoryCanonicalLedger
end QuantumAnalytics
