import QuantumAnalytics.Foundations.DependencyOrder
import QuantumAnalytics.Ingestion.Resolution
import QuantumAnalytics.Ledger.Parts

/-!
# Completeness of the resolver

When the candidates can all be appended in some order, the resolver finds a
candidate that waits for nothing in every round. Which one it takes depends only
on the links, ranks and times of the candidates, so the order in which it
settles them is known beforehand. The plan is complete exactly when in this
order every return has room in its sale when its turn comes: the resolver does
not try another order.
-/

namespace QuantumAnalytics

open InMemoryCanonicalLedger

namespace Candidate

/-- Candidates wait for the events that their checks need. -/
def jobs : Jobs Candidate String where
  idOf candidate := candidate.event.eventId
  needs candidate := candidate.event.dependencies

/-- Everything that a candidate needs is stored. -/
def isReady (stored : String → Bool) (candidate : Candidate) : Bool :=
  candidate.event.dependencies.all stored

/-- An item determines its event. -/
theorem event_eq_of_item
    {left right : Candidate}
    (same : left.item = right.item) : left.event = right.event :=
  Option.some.inj (congrArg Prod.snd same)

end Candidate

/-- An operation as a candidate. -/
def Operation.candidate (operation : Operation) : Candidate := ⟨operation.row, operation.event⟩

/-- The tenant has an event with the id. -/
def InMemoryCanonicalLedger.hasEvent
    (ledger : InMemoryCanonicalLedger)
    (tenantId eventId : String) : Bool :=
  (ledger.eventById.get? (tenantId, eventId)).isSome

/-- The order in which candidates stop waiting: in each round the first one, by
rank, time and id, whose needs are stored. -/
def dependencyOrder : Nat → (String → Bool) → List Candidate → List Candidate
  | 0, _, _ => []
  | fuel + 1, stored, pending =>
      match (pending.mergeSort (Candidate.precedes (supersededTargets pending))).find?
          (Candidate.isReady stored) with
      | none => []
      | some candidate =>
          candidate :: dependencyOrder fuel
            (fun eventId => stored eventId || eventId == candidate.event.eventId)
            (removeCandidate candidate pending)

/-- Every return has room when the candidates before it are stored. -/
def AllFit (tenantId : String) : InMemoryCanonicalLedger → List Candidate → Prop
  | _, [] => True
  | ledger, candidate :: order =>
      HasRoom ledger tenantId candidate.event ∧
        AllFit tenantId (ledger.writeItem tenantId candidate.item) order

variable {tenant : TenantContext} {tenantId : String}
  {base staging whole : InMemoryCanonicalLedger}
  {candidate : Candidate} {candidates pending ordered : List Candidate}

/-! ### A feasible order -/

namespace InMemoryCanonicalLedger

/-- The ids of the events after an accepted candidate. -/
theorem hasEvent_writeItem (eventId : String) :
    (staging.writeItem tenantId candidate.item).hasEvent tenantId eventId =
      (staging.hasEvent tenantId eventId || eventId == candidate.event.eventId) := by
  unfold hasEvent
  rw [get?_eventById_writeItem_eq]
  by_cases same : eventId = candidate.event.eventId <;>
    simp [Candidate.item, same, Option.filter]

/-- An event is ready when the ledger has everything that it depends on. -/
theorem ready_iff : Ready staging tenantId candidate.event ↔
    Candidate.jobs.Ready {eventId | staging.hasEvent tenantId eventId = true} candidate := Iff.rfl

/-- An accepted event depends on stored events only. -/
theorem ready_of_accepted
    (indexed : Indexed staging)
    (accepted : staging.validateAppend tenantId candidate.item = .ok ()) :
    Ready staging tenantId candidate.event := by
  obtain ⟨_, _, revision, reversal⟩ :=
    validateEvent_eq_ok.mp ((validateAppend_eq_ok.mp accepted).2 candidate.event rfl)
  have linked := (validateRevision_eq_ok.mp revision).2
  have checked := (validateReversal_eq_ok indexed).mp reversal
  unfold Ready CanonicalEvent.dependencies
  rw [List.forall_mem_append]
  refine ⟨fun eventId needed => ?_, fun eventId needed => ?_⟩
  · rw [Option.mem_toList, CanonicalEvent.revisionDependency] at needed
    by_cases first : candidate.event.revision = 1
    · simp [first] at needed
    · rw [RevisionLinked, if_neg first] at linked
      obtain ⟨supersedes, previous, link, found, _⟩ := linked
      rw [if_neg first, link] at needed
      obtain rfl := Option.some.inj needed
      simp [found]
  · obtain ⟨isReturn, link⟩ := CanonicalEvent.target_eq_some.mp (Option.mem_toList.mp needed)
    rw [ReversalChecked, if_pos isReturn] at checked
    obtain ⟨original, found, sameLink, _⟩ := checked
    obtain rfl := Option.some.inj (link.symm.trans sameLink)
    simp [found]

end InMemoryCanonicalLedger

/-- Candidates that can be appended one after another wait for nothing in this
order. -/
theorem legal_of_appendItems
    {order : List Candidate}
    {results : List LedgerAppendResult}
    (reachable : Reachable staging)
    (appended : staging.appendItems tenantId (order.map Candidate.item) = (.ok results, whole)) :
    Candidate.jobs.Legal {eventId | staging.hasEvent tenantId eventId = true} order := by
  induction order generalizing staging results with
  | nil => trivial
  | cons candidate order inductionHypothesis =>
      rw [List.map_cons, appendItems_cons_eq_ok] at appended
      obtain ⟨accepted, rest, appendedRest, _⟩ := appended
      refine ⟨ready_iff.mp (ready_of_accepted reachable.indexed accepted), ?_⟩
      have legal := inductionHypothesis (reachable.append accepted trivial) appendedRest
      have grown : {eventId |
            (staging.writeItem tenantId candidate.item).hasEvent tenantId eventId = true} =
          insert (Candidate.jobs.idOf candidate)
            {eventId | staging.hasEvent tenantId eventId = true} := by
        ext eventId
        simp [hasEvent_writeItem, Candidate.jobs, or_comm]
      rwa [grown] at legal

/-- The candidates can be appended in some order, from a base to a whole. -/
structure Feasible
    (tenantId : String)
    (base whole : InMemoryCanonicalLedger)
    (candidates : List Candidate) : Prop where
  reachable : Reachable base
  wholeReachable : Reachable whole
  within : Within base whole
  recorded : ∀ candidate ∈ candidates, Recorded whole tenantId candidate.item
  sameRow : ∀ candidate ∈ candidates,
    base.sourceById.get? (tenantId, candidate.sourceRow.sourceRecordId) = none →
      whole.sourceById.get? (tenantId, candidate.sourceRow.sourceRecordId) =
        some candidate.sourceRow
  sameEvent : ∀ candidate ∈ candidates,
    base.eventById.get? (tenantId, candidate.event.eventId) = none →
      whole.eventById.get? (tenantId, candidate.event.eventId) = some candidate.event
  legal : ∃ order, order.Perm candidates ∧
    Candidate.jobs.Legal {eventId | base.hasEvent tenantId eventId = true} order

/-- The candidates of a feasible batch may come in any order. -/
theorem Feasible.perm
    (feasible : Feasible tenantId base whole pending)
    (perm : pending.Perm candidates) : Feasible tenantId base whole candidates where
  reachable := feasible.reachable
  wholeReachable := feasible.wholeReachable
  within := feasible.within
  recorded candidate present := feasible.recorded candidate (perm.symm.subset present)
  sameRow candidate present := feasible.sameRow candidate (perm.symm.subset present)
  sameEvent candidate present := feasible.sameEvent candidate (perm.symm.subset present)
  legal := by
    obtain ⟨order, orderPerm, legal⟩ := feasible.legal
    exact ⟨order, orderPerm.trans perm, legal⟩

/-- The record ids of the candidates differ, and so do their event ids. -/
structure DistinctIds (candidates : List Candidate) : Prop where
  records : (candidates.map fun candidate => candidate.sourceRow.sourceRecordId).Nodup
  events : (candidates.map fun candidate => candidate.event.eventId).Nodup

/-- Appending the candidates one after another records each of them as it is. -/
theorem feasible_of_appendItems
    {results : List LedgerAppendResult}
    (reachable : Reachable base)
    (distinct : DistinctIds candidates)
    (appended : base.appendItems tenantId (candidates.map Candidate.item) = (.ok results, whole)) :
    Feasible tenantId base whole candidates := by
  have legal := legal_of_appendItems reachable appended
  induction candidates generalizing base results with
  | nil =>
      obtain ⟨_, rfl⟩ := appendItems_nil_eq_ok.mp appended
      exact {
        reachable
        wholeReachable := reachable
        within := Within.refl _
        recorded := by simp
        sameRow := by simp
        sameEvent := by simp
        legal := ⟨[], .nil, trivial⟩ }
  | cons candidate rest inductionHypothesis =>
      rw [List.map_cons, appendItems_cons_eq_ok] at appended
      obtain ⟨accepted, restResults, appendedRest, _⟩ := appended
      have next := reachable.append accepted trivial
      obtain ⟨recordFresh, recordsRest⟩ := List.nodup_cons.mp distinct.records
      obtain ⟨eventFresh, eventsRest⟩ := List.nodup_cons.mp distinct.events
      have tail := inductionHypothesis next ⟨recordsRest, eventsRest⟩ appendedRest
        (legal_of_appendItems next appendedRest)
      have grows := within_writeItem accepted
      exact {
        reachable
        wholeReachable := tail.wholeReachable
        within := grows.trans tail.within
        recorded := List.forall_mem_cons.mpr
          ⟨(recorded_writeItem reachable.indexed accepted).of_within tail.within, tail.recorded⟩
        sameRow := by
          refine List.forall_mem_cons.mpr ⟨fun absent => tail.within.rows _ _ ?_,
            fun other present absent => tail.sameRow other present ?_⟩
          · simp [get?_sourceById_writeItem_eq, absent, Candidate.item]
          · have differs : other.sourceRow.sourceRecordId ≠ candidate.sourceRow.sourceRecordId :=
              fun same => recordFresh (List.mem_map.mpr ⟨other, present, same⟩)
            simp [get?_sourceById_writeItem_eq, absent, Candidate.item, differs]
        sameEvent := by
          refine List.forall_mem_cons.mpr ⟨fun absent => tail.within.events _ _ ?_,
            fun other present absent => tail.sameEvent other present ?_⟩
          · simp [get?_eventById_writeItem_eq, absent, Candidate.item, Option.filter]
          · have differs : other.event.eventId ≠ candidate.event.eventId :=
              fun same => eventFresh (List.mem_map.mpr ⟨other, present, same⟩)
            simp [get?_eventById_writeItem_eq, absent, Candidate.item, Option.filter, differs]
        legal := ⟨_, .rfl, legal⟩ }

/-! ### One round -/

/-- A round passes over the candidates that wait. -/
theorem attempt_of_find?
    {ready : Candidate → Bool}
    (waits : ∀ candidate ∈ ordered, ready candidate = false → ∃ code ∈ missingDependencyCodes,
      staging.validateAppend tenant.tenantId candidate.item = .error (.canonical code))
    (found : ordered.find? ready = some candidate)
    (decided : ∀ code ∈ missingDependencyCodes,
      staging.validateAppend tenant.tenantId candidate.item ≠ .error (.canonical code)) :
    attempt staging tenant ordered = attempt staging tenant [candidate] := by
  induction ordered with
  | nil => simp at found
  | cons head rest inductionHypothesis =>
      rw [List.forall_mem_cons] at waits
      cases isReady : ready head with
      | false =>
          rw [List.find?_cons, isReady] at found
          obtain ⟨code, missing, rejected⟩ := waits.1 isReady
          rw [attempt, append_eq, rejected]
          simp only [missing, if_true]
          exact inductionHypothesis waits.2 found
      | true =>
          rw [List.find?_cons, isReady] at found
          obtain rfl := Option.some.inj found
          rw [attempt, attempt, append_eq]
          cases checked : staging.validateAppend tenant.tenantId head.item with
          | ok done => rfl
          | error failure =>
              cases failure with
              | decimal signal => rfl
              | canonical code =>
                  have decides : code ∉ missingDependencyCodes :=
                    fun missing => decided code missing checked
                  simp only [decides, if_false]

/-- Where a run of the resolver stands as long as it has accepted everything. -/
structure Progress
    (tenantId : String)
    (base whole : InMemoryCanonicalLedger)
    (candidates : List Candidate)
    (staging : InMemoryCanonicalLedger)
    (pending : List Candidate) : Prop where
  reachable : Reachable staging
  fromBase : Within base staging
  within : Within staging whole
  left : ∀ candidate ∈ pending, candidate ∈ candidates
  distinct : (pending.map fun candidate => candidate.event.eventId).Nodup
  finished : ∀ candidate ∈ candidates, candidate ∉ pending →
    staging.hasEvent tenantId candidate.event.eventId = true

/-- Candidates with different event ids are different as dataclasses. -/
theorem distinctCandidates_of_nodup
    (distinct : (pending.map fun candidate => candidate.event.eventId).Nodup) :
    DistinctCandidates pending := by
  intro left leftIn right rightIn same
  refine List.inj_on_of_nodup_map distinct leftIn rightIn ?_
  rw [Candidate.pyEq, Bool.and_eq_true] at same
  exact (CanonicalEvent.pyEq_keys same.2).1

/-- The event of a settled candidate is not among those that are left. -/
theorem eventId_ne_of_mem_removeCandidate
    (distinct : (pending.map fun candidate => candidate.event.eventId).Nodup)
    (present : candidate ∈ pending) :
    ∀ other ∈ removeCandidate candidate pending,
      other.event.eventId ≠ candidate.event.eventId := by
  intro other left same
  have perm := perm_removeCandidate (distinctCandidates_of_nodup distinct) present
  have nodup := (perm.map fun candidate => candidate.event.eventId).nodup_iff.mpr distinct
  exact (List.nodup_cons.mp nodup).1 (List.mem_map.mpr ⟨other, left, same⟩)

namespace Progress

variable
  (feasible : Feasible tenantId base whole candidates)
  (progress : Progress tenantId base whole candidates staging pending)

include feasible progress

/-- As long as candidates are left, one of them waits for nothing. -/
theorem exists_ready (nonempty : pending ≠ []) :
    ∃ candidate ∈ pending, Ready staging tenantId candidate.event := by
  obtain ⟨order, perm, legal⟩ := feasible.legal
  obtain ⟨some_left, present⟩ := List.exists_mem_of_ne_nil pending nonempty
  obtain ⟨next, _, isLeft, ready⟩ := legal.exists_ready
    {eventId | staging.hasEvent tenantId eventId = true} (· ∈ pending)
    (fun eventId stored => by
      obtain ⟨event, found⟩ := Option.isSome_iff_exists.mp stored
      exact Option.isSome_iff_exists.mpr ⟨event, progress.fromBase.events _ _ found⟩)
    (fun candidate inOrder settled =>
      progress.finished candidate (perm.subset inOrder) settled)
    ⟨some_left, perm.symm.subset (progress.left some_left present), present⟩
  exact ⟨next, isLeft, ready_iff.mpr ready⟩

/-- Accepting a candidate makes progress. -/
theorem settle
    (present : candidate ∈ pending)
    (accepted : staging.validateAppend tenantId candidate.item = .ok ()) :
    Progress tenantId base whole candidates (staging.writeItem tenantId candidate.item)
      (removeCandidate candidate pending) := by
  have isCandidate := progress.left candidate present
  have grows := within_writeItem accepted
  have perm := perm_removeCandidate (distinctCandidates_of_nodup progress.distinct) present
  refine {
    reachable := progress.reachable.append accepted trivial
    fromBase := progress.fromBase.trans grows
    within := progress.within.writeItem (feasible.recorded candidate isCandidate) ?_ ?_
    left := fun other isLeft => progress.left other (perm.subset (List.mem_cons_of_mem _ isLeft))
    distinct := ?_
    finished := ?_ }
  · intro absent
    refine feasible.sameRow candidate isCandidate ?_
    rw [← Option.not_isSome_iff_eq_none]
    intro stored
    obtain ⟨row, found⟩ := Option.isSome_iff_exists.mp stored
    have kept := progress.fromBase.rows _ _ found
    exact absurd (kept.symm.trans absent) (by simp)
  · intro event new
    obtain ⟨carried, absent⟩ := newEvent_eq_some.mp new
    obtain rfl := Option.some.inj carried
    refine feasible.sameEvent candidate isCandidate ?_
    rw [← Option.not_isSome_iff_eq_none]
    intro stored
    obtain ⟨event, found⟩ := Option.isSome_iff_exists.mp stored
    have kept := progress.fromBase.events _ _ found
    exact absurd (kept.symm.trans absent) (by simp)
  · have nodup := (perm.map fun candidate => candidate.event.eventId).nodup_iff.mpr
      progress.distinct
    exact (List.nodup_cons.mp nodup).2
  · intro other isCandidate settled
    rw [hasEvent_writeItem, Bool.or_eq_true, beq_iff_eq]
    by_cases same : other = candidate
    · exact .inr (same ▸ rfl)
    · refine .inl (progress.finished other isCandidate fun isLeft => settled ?_)
      exact (List.mem_cons.mp (perm.symm.subset isLeft)).resolve_left same

/-- A round takes the first candidate that waits for nothing. It is accepted if
it has room; otherwise its event is not planned. -/
theorem settleNext
    (sameTenant : tenant.tenantId = tenantId)
    (found : (pending.mergeSort (Candidate.precedes (supersededTargets pending))).find?
      (Candidate.isReady (staging.hasEvent tenantId)) = some candidate) :
    (HasRoom staging tenantId candidate.event →
      staging.validateAppend tenantId candidate.item = .ok () ∧
      QuantumAnalytics.settleNext staging tenant pending =
        .ok ⟨candidate, candidate.item, staging.writeItem tenantId candidate.item⟩) ∧
    (¬HasRoom staging tenantId candidate.event → ∀ settled,
      QuantumAnalytics.settleNext staging tenant pending = .ok settled →
        settled.candidate = candidate ∧ settled.item.2 = none) := by
  subst sameTenant
  have isLeft : candidate ∈ pending :=
    (List.mergeSort_perm _ _).subset (List.mem_of_find?_eq_some found)
  have verdict : ∀ other ∈ pending, _ := fun other present =>
    (feasible.recorded other (progress.left other present)).verdict progress.within
      progress.reachable feasible.wholeReachable rfl
  have isReady : Ready staging tenant.tenantId candidate.event := by
    have ready := List.find?_some found
    rwa [Candidate.isReady, List.all_eq_true] at ready
  have sorted : inOrder pending =
      .ok (pending.mergeSort (Candidate.precedes (supersededTargets pending))) := by
    have aware : ∀ other ∈ pending, other.event.recognitionTime.isAware = true := by
      intro other present
      have linked := (feasible.recorded other (progress.left other present)).linked
      exact (lineage_of_validateLineage linked).recognitionAware
    rw [inOrder, if_pos fun left leftIn right rightIn _ =>
      (aware left leftIn).trans (aware right rightIn).symm]
  obtain ⟨_, decides⟩ := verdict candidate isLeft
  have decided : ∀ code ∈ missingDependencyCodes,
      staging.validateAppend tenant.tenantId candidate.item ≠ .error (.canonical code) := by
    intro code missing rejected
    by_cases room : HasRoom staging tenant.tenantId candidate.event
    · exact absurd (rejected.symm.trans ((decides isReady).1 room)) (by simp)
    · obtain ⟨failure, overdrawn, failed⟩ := (decides isReady).2 room
      obtain rfl := Except.error.inj (rejected.symm.trans failed)
      rcases overdrawn with same | ⟨signal, same⟩
      · obtain rfl := LedgerFailure.canonical.inj same
        exact absurd missing (by decide)
      · exact absurd same (by simp)
  have attempted := @attempt_of_find? tenant _ _ _ _ (fun other present notReady => by
      obtain ⟨waits, _⟩ := verdict other ((List.mergeSort_perm _ _).subset present)
      obtain ⟨code, missing, rejected⟩ := waits fun ready => by
        rw [Candidate.isReady, ← Bool.not_eq_true, List.all_eq_true] at notReady
        exact notReady ready
      refine ⟨code, ?_, rejected⟩
      rcases missing with rfl | rfl <;> decide) found decided
  rw [QuantumAnalytics.settleNext, sorted]
  simp only [attempted]
  refine ⟨fun room => ?_, fun tight settled done => ?_⟩
  · have accepted := (decides isReady).1 room
    exact ⟨accepted, by simp only [attempt, append_eq, accepted]⟩
  · obtain ⟨failure, overdrawn, rejected⟩ := (decides isReady).2 tight
    cases outcome : attempt staging tenant [candidate] with
    | error failure => simp [outcome] at done
    | ok settled? =>
        cases settled? with
        | none => simp [outcome] at done
        | some next =>
            simp only [outcome, Except.ok.injEq] at done
            subst done
            obtain ⟨present, settles, _⟩ := settles_of_attempt outcome
            have same := List.mem_singleton.mp present
            refine ⟨same, ?_⟩
            rcases settles.eq_or_rejected with own | ⟨noEvent, _⟩
            · have accepted := settles.validateAppend_eq_ok
              rw [own, same] at accepted
              exact absurd (accepted.symm.trans rejected) (by simp)
            · exact noEvent

end Progress

/-! ### The whole run -/

/-- A run plans the event of every candidate exactly when all returns have room
in the order in which the candidates stop waiting. -/
theorem resolvePending_complete_iff
    (feasible : Feasible tenant.tenantId base whole candidates)
    (progress : Progress tenant.tenantId base whole candidates staging pending)
    {fuel : Nat}
    (enough : pending.length ≤ fuel) :
    (∃ planned final, resolvePending tenant fuel staging pending = .ok (planned, final) ∧
        ∀ candidate ∈ pending, candidate.item ∈ planned) ↔
      AllFit tenant.tenantId staging
        (dependencyOrder fuel (staging.hasEvent tenant.tenantId) pending) := by
  induction fuel generalizing staging pending with
  | zero =>
      obtain rfl := List.length_eq_zero_iff.mp (Nat.le_zero.mp enough)
      simp [dependencyOrder, AllFit]
  | succ fuel inductionHypothesis =>
      by_cases empty : pending = []
      · subst empty
        simp [dependencyOrder, AllFit]
      · -- The next candidate is the first one that is ready.
        obtain ⟨some_ready, isLeft, ready⟩ := progress.exists_ready feasible empty
        have inSorted := (List.mergeSort_perm pending
          (Candidate.precedes (supersededTargets pending))).symm.subset isLeft
        have isReady : Candidate.isReady (staging.hasEvent tenant.tenantId) some_ready = true :=
          List.all_eq_true.mpr ready
        obtain ⟨candidate, found⟩ := Option.isSome_iff_exists.mp
          (List.find?_isSome.mpr ⟨some_ready, inSorted, isReady⟩)
        have present : candidate ∈ pending :=
          (List.mergeSort_perm _ _).subset (List.mem_of_find?_eq_some found)
        have perm := perm_removeCandidate (distinctCandidates_of_nodup progress.distinct) present
        have others := eventId_ne_of_mem_removeCandidate progress.distinct present
        obtain ⟨accepts, rejects⟩ := progress.settleNext feasible rfl found
        simp only [dependencyOrder, found, AllFit, resolvePending_succ_eq_ok empty]
        by_cases room : HasRoom staging tenant.tenantId candidate.event
        · obtain ⟨accepted, next⟩ := accepts room
          have shorter : (removeCandidate candidate pending).length ≤ fuel := by
            have length := perm.length_eq
            rw [List.length_cons] at length
            omega
          have rest := inductionHypothesis (progress.settle feasible present accepted) shorter
          have ids : (staging.writeItem tenant.tenantId candidate.item).hasEvent tenant.tenantId =
              fun eventId => staging.hasEvent tenant.tenantId eventId ||
                eventId == candidate.event.eventId := funext hasEvent_writeItem
          rw [← ids, ← rest]
          simp only [room, true_and, next, Except.ok.injEq]
          constructor
          · rintro ⟨_, final, ⟨_, planned, rfl, resolved, rfl⟩, complete⟩
            refine ⟨planned, final, resolved, fun other isLeft => ?_⟩
            refine (List.mem_cons.mp (complete other
              (perm.subset (List.mem_cons_of_mem _ isLeft)))).resolve_left fun same => ?_
            exact others other isLeft (by rw [Candidate.event_eq_of_item same])
          · rintro ⟨planned, final, resolved, complete⟩
            refine ⟨_, final, ⟨_, planned, rfl, resolved, rfl⟩, fun other isLeft => ?_⟩
            rcases List.mem_cons.mp (perm.symm.subset isLeft) with rfl | later
            · exact List.mem_cons_self
            · exact List.mem_cons_of_mem _ (complete other later)
        · simp only [room, false_and, iff_false]
          rintro ⟨_, final, ⟨settled, planned, next, resolved, rfl⟩, complete⟩
          obtain ⟨same, noEvent⟩ := rejects room settled next
          rw [same] at resolved
          obtain ⟨order, resolves, permOfDistinct⟩ := resolves_of_resolvePending resolved
          have orderPerm := permOfDistinct
            ((distinctCandidates_of_nodup progress.distinct).removeCandidate candidate)
          rcases List.mem_cons.mp (complete candidate present) with head | later
          · rw [← head] at noEvent
            exact absurd noEvent (by simp [Candidate.item])
          · rcases resolves.eq_item_of_mem _ later with none_planned | ⟨other, inOrder, same⟩
            · exact absurd none_planned (by simp [Candidate.item])
            · exact others other (orderPerm.subset inOrder)
                (by rw [Candidate.event_eq_of_item same])

/-- The plan of a batch has every candidate with its event. -/
def Complete (candidates : List Candidate) (plan : Except IngestFailure (List LedgerItem)) : Prop :=
  ∃ planned, plan = .ok planned ∧ ∀ candidate ∈ candidates, candidate.item ∈ planned

/-- The ledger after the rows that are quarantined at once. -/
def afterImmediate
    (ledger : InMemoryCanonicalLedger)
    (tenantId : String)
    (immediate : List ImmutableSourceRow) : InMemoryCanonicalLedger :=
  (ledger.appendItems tenantId (immediateItems immediate)).2

/-- The candidates can be appended in some order after the rows without
events. -/
def HasFeasibleOrder
    (ledger : InMemoryCanonicalLedger)
    (tenantId : String)
    (immediate : List ImmutableSourceRow)
    (candidates : List Candidate) : Prop :=
  ∃ order : List Candidate, order.Perm candidates ∧ ∃ results final,
    ledger.appendItems tenantId (immediateItems immediate ++ order.map Candidate.item) =
      (.ok results, final)

/-- Rows without events store no event. -/
theorem eventById_of_appendItems_immediate
    {immediate : List ImmutableSourceRow}
    {results : List LedgerAppendResult}
    (appended : staging.appendItems tenantId (immediateItems immediate) = (.ok results, base)) :
    base.eventById = staging.eventById := by
  induction immediate generalizing staging results with
  | nil =>
      obtain ⟨_, rfl⟩ := appendItems_nil_eq_ok.mp appended
      rfl
  | cons row rows inductionHypothesis =>
      obtain ⟨_, rest, appendedRest, _⟩ := appendItems_cons_eq_ok.mp appended
      exact (@inductionHypothesis _ rest appendedRest).trans rfl

/-- On a reachable ledger, a feasible batch is planned completely exactly when
all returns have room in the order in which the candidates stop waiting. -/
theorem complete_iff_allFit
    {ledger : InMemoryCanonicalLedger}
    {immediate : List ImmutableSourceRow}
    (ledgerReachable : Reachable ledger)
    (distinct : DistinctIds candidates)
    (feasible : HasFeasibleOrder ledger tenant.tenantId immediate candidates) :
    Complete candidates (resolveBatch ledger tenant immediate candidates) ↔
      AllFit tenant.tenantId (afterImmediate ledger tenant.tenantId immediate)
        (dependencyOrder candidates.length (ledger.hasEvent tenant.tenantId) candidates) := by
  obtain ⟨order, perm, results, whole, appended⟩ := feasible
  obtain ⟨base, firstResults, restResults, staged, appendedRest, _⟩ :=
    appendItems_append_eq_ok.mp appended
  have reachable : Reachable base := by
    have reached : Reachable (ledger.appendItems tenant.tenantId (immediateItems immediate)).2 :=
      ledgerReachable.appendItems fun _ _ => trivial
    rwa [staged] at reached
  have orderDistinct : DistinctIds order :=
    ⟨(perm.map _).nodup_iff.mpr distinct.records, (perm.map _).nodup_iff.mpr distinct.events⟩
  have feasible := (feasible_of_appendItems reachable orderDistinct appendedRest).perm perm
  have progress : Progress tenant.tenantId base whole candidates base candidates := {
    reachable
    fromBase := Within.refl base
    within := feasible.within
    left := fun _ present => present
    distinct := distinct.events
    finished := fun _ present absent => absurd present absent }
  have ids : base.hasEvent tenant.tenantId = ledger.hasEvent tenant.tenantId := by
    funext eventId
    rw [hasEvent, eventById_of_appendItems_immediate staged, hasEvent]
  have run := resolvePending_complete_iff feasible progress le_rfl
  rw [ids] at run
  have notImmediate : ∀ candidate : Candidate, candidate.item ∉ immediateItems immediate := by
    intro candidate present
    obtain ⟨row, _, same⟩ := List.mem_map.mp present
    exact absurd (congrArg Prod.snd same) (by simp [Candidate.item])
  simp only [afterImmediate, staged, ← run, Complete, resolveBatch_eq_ok, stageBatch_eq_ok]
  constructor
  · rintro ⟨_, ⟨final, _, _, planned, ⟨_, rfl⟩, resolved, rfl⟩, complete⟩
    refine ⟨planned, final, resolved, fun candidate present => ?_⟩
    exact (List.mem_append.mp (complete candidate present)).resolve_left (notImmediate candidate)
  · rintro ⟨planned, final, resolved, complete⟩
    refine ⟨_, ⟨final, base, firstResults, planned, rfl, resolved, rfl⟩, ?_⟩
    exact fun candidate present => List.mem_append_right _ (complete candidate present)

/-- In every ledger that a sequence of calls leaves: where the candidates can be
appended in some order after the rows without events, the resolver plans the
event of every candidate exactly when all returns have room in the order in
which the candidates stop waiting. -/
theorem resolveBatch_complete_iff
    (calls : List LedgerCall)
    (tenant : TenantContext)
    (immediate : List ImmutableSourceRow)
    (candidates : List Candidate)
    (distinct : DistinctIds candidates)
    (feasible : HasFeasibleOrder (afterCalls calls) tenant.tenantId immediate candidates) :
    Complete candidates (resolveBatch (afterCalls calls) tenant immediate candidates) ↔
      AllFit tenant.tenantId (afterImmediate (afterCalls calls) tenant.tenantId immediate)
        (dependencyOrder candidates.length
          ((afterCalls calls).hasEvent tenant.tenantId) candidates) :=
  complete_iff_allFit (reachable_afterCalls calls) distinct feasible

/-- A return that passes the reversal check has room. -/
theorem hasRoom_of_validateReversal
    {event : CanonicalEvent}
    (indexed : Indexed staging)
    (accepted : staging.validateReversal tenantId event = .ok ()) :
    HasRoom staging tenantId event := by
  intro original target found
  obtain ⟨isReturn, link⟩ := CanonicalEvent.target_eq_some.mp target
  have checked := (validateReversal_eq_ok indexed).mp accepted
  rw [ReversalChecked, if_pos isReturn] at checked
  obtain ⟨named, namedFound, namedLink, fits⟩ := checked
  have sameId : named.eventId = original.eventId := Option.some.inj (namedLink.symm.trans link)
  rw [sameId, found] at namedFound
  obtain rfl := Option.some.inj namedFound
  exact ⟨fits.quantity, fits.amount⟩

/-- A sale of 3 with returns of 1 and 2. -/
def returnedTwice : List Operation := [.sale 3 "9", .firstReturn 1 "3", .secondReturn 2 "6"]

/-- A revision by which the first return grows, and one by which the second
return shrinks. -/
def exchanged : List Candidate :=
  [(Operation.revisedReturn 2 "6").candidate, (Operation.revisedSecondReturn 1 "3").candidate]

/-- The resolver tries the candidates of the exchange as they are listed. -/
theorem mergeSort_exchanged :
    exchanged.mergeSort (Candidate.precedes (supersededTargets exchanged)) = exchanged :=
  List.mergeSort_of_pairwise (by decide +kernel)

/-- Both revisions are accepted when the second return shrinks first. The
resolver tries the first return, finds no room for it, and quarantines it. -/
theorem resolveBatch_incomplete :
    DistinctIds exchanged ∧
    HasFeasibleOrder (afterCalls (appendCalls returnedTwice)) "tenant" [] exchanged ∧
    ¬Complete exchanged
      (resolveBatch (afterCalls (appendCalls returnedTwice)) Operation.tenant [] exchanged) := by
  have run := afterCalls_of_acceptsAll returnedTwice (by decide +kernel)
  have distinct : DistinctIds exchanged := ⟨by decide +kernel, by decide +kernel⟩
  have feasible :
      HasFeasibleOrder (afterCalls (appendCalls returnedTwice)) "tenant" [] exchanged := by
    refine ⟨exchanged.reverse, List.reverse_perm exchanged, ?_⟩
    rw [run.1]
    exact appendItems_of_acceptsAll [.revisedSecondReturn 1 "3", .revisedReturn 2 "6"]
      (by decide +kernel)
  refine ⟨distinct, feasible, ?_⟩
  rw [@complete_iff_allFit Operation.tenant _ _ _ (reachable_afterCalls _) distinct feasible,
    run.1]
  have first : exchanged.find? (Candidate.isReady ((ofOperations returnedTwice).hasEvent
      Operation.tenant.tenantId)) = some (Operation.revisedReturn 2 "6").candidate :=
    List.find?_cons_of_pos (by decide +kernel)
  have length : exchanged.length = 1 + 1 := rfl
  rw [length, dependencyOrder, mergeSort_exchanged, first]
  rintro ⟨room, _⟩
  have fits := (room (Operation.sale 3 "9").event rfl rfl).quantity
  revert fits
  decide +kernel

/-- A revision of the first return alone is planned. -/
theorem resolveBatch_complete_revisedReturn :
    Complete [(Operation.revisedReturn 1 "3").candidate]
      (resolveBatch (afterCalls (appendCalls returnedTwice)) Operation.tenant []
        [(Operation.revisedReturn 1 "3").candidate]) := by
  have run := afterCalls_of_acceptsAll returnedTwice (by decide +kernel)
  have distinct : DistinctIds [(Operation.revisedReturn 1 "3").candidate] :=
    ⟨by decide, by decide⟩
  refine (resolveBatch_complete_iff _ Operation.tenant [] _ distinct ?_).mpr ?_
  · refine ⟨_, .rfl, ?_⟩
    rw [run.1]
    exact appendItems_of_acceptsAll [.revisedReturn 1 "3"] (by decide +kernel)
  · have indexed := (reachable_afterCalls (appendCalls returnedTwice)).indexed
    rw [run.1] at indexed ⊢
    have first : [(Operation.revisedReturn 1 "3").candidate].find?
        (Candidate.isReady ((ofOperations returnedTwice).hasEvent Operation.tenant.tenantId)) =
          some (Operation.revisedReturn 1 "3").candidate :=
      List.find?_cons_of_pos (by decide +kernel)
    have length : [(Operation.revisedReturn 1 "3").candidate].length = 0 + 1 := rfl
    rw [length, dependencyOrder, List.mergeSort_singleton, first]
    exact ⟨hasRoom_of_validateReversal indexed (by decide +kernel), trivial⟩

end QuantumAnalytics
