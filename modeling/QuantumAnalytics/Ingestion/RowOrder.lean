import QuantumAnalytics.Ingestion.Completeness

/-!
# The order of the rows

The candidates of a batch are sorted anew in every pass, by a key in which the
event id breaks the ties. The passes end, and what they plan or raise does not
depend on the order in which the rows of the file gave the candidates.
-/

namespace QuantumAnalytics

open InMemoryCanonicalLedger

variable {tenant : TenantContext} {staging : InMemoryCanonicalLedger}
  {candidate : Candidate} {pending permuted : List Candidate}

/-! ### The passes end -/

/-- The passes of `_resolve_batch` over the candidates that are left, until none
is left or a pass raises. -/
inductive Ends (tenant : TenantContext) :
    InMemoryCanonicalLedger → List Candidate →
      Except IngestFailure (List LedgerItem × InMemoryCanonicalLedger) → Prop
  | done (staging : InMemoryCanonicalLedger) : Ends tenant staging [] (.ok ([], staging))
  | raises
      {staging : InMemoryCanonicalLedger}
      {pending : List Candidate}
      {failure : IngestFailure}
      (nonempty : pending ≠ [])
      (raised : settleNext staging tenant pending = .error failure) :
      Ends tenant staging pending (.error failure)
  | pass
      {staging : InMemoryCanonicalLedger}
      {pending : List Candidate}
      {settled : Settled}
      {result : Except IngestFailure (List LedgerItem × InMemoryCanonicalLedger)}
      (nonempty : pending ≠ [])
      (next : settleNext staging tenant pending = .ok settled)
      (rest : Ends tenant settled.staging (removeCandidate settled.candidate pending) result) :
      Ends tenant staging pending
        (result.map fun outcome => (settled.item :: outcome.1, outcome.2))

/-- What `_resolve_batch` returns or raises, with loops that have no bound. -/
inductive BatchEnds
    (ledger : InMemoryCanonicalLedger)
    (tenant : TenantContext)
    (immediate : List ImmutableSourceRow)
    (candidates : List Candidate) : Except IngestFailure (List LedgerItem) → Prop
  | raises
      {failure : LedgerFailure}
      {staging : InMemoryCanonicalLedger}
      (raised : ledger.fork.appendItems tenant.tenantId (immediateItems immediate) =
        (.error failure, staging)) :
      BatchEnds ledger tenant immediate candidates (.error (.ledger failure))
  | resolves
      {results : List LedgerAppendResult}
      {staging : InMemoryCanonicalLedger}
      {result : Except IngestFailure (List LedgerItem × InMemoryCanonicalLedger)}
      (appended : ledger.fork.appendItems tenant.tenantId (immediateItems immediate) =
        (.ok results, staging))
      (ends : Ends tenant staging candidates result) :
      BatchEnds ledger tenant immediate candidates
        (result.map fun outcome => immediateItems immediate ++ outcome.1)

/-- A pass leaves one candidate less. -/
theorem length_removeCandidate
    (present : candidate ∈ pending) :
    (removeCandidate candidate pending).length + 1 = pending.length :=
  List.length_eraseP_add_one present candidate.pyEq_refl

/-- As many passes as there are candidates are enough. -/
theorem ends_resolvePending
    {fuel : Nat}
    (enough : pending.length ≤ fuel) :
    Ends tenant staging pending (resolvePending tenant fuel staging pending) := by
  induction fuel generalizing staging pending with
  | zero =>
      obtain rfl := List.length_eq_zero_iff.mp (Nat.le_zero.mp enough)
      exact .done staging
  | succ fuel inductionHypothesis =>
      cases pending with
      | nil => exact .done staging
      | cons candidate candidates =>
          rw [resolvePending]
          cases next : settleNext staging tenant (candidate :: candidates) with
          | error failure => exact .raises (List.cons_ne_nil _ _) next
          | ok settled =>
              have removed := length_removeCandidate (settles_of_settleNext next).1
              have rest := @inductionHypothesis settled.staging
                (removeCandidate settled.candidate (candidate :: candidates)) (by omega)
              have passed := Ends.pass (List.cons_ne_nil _ _) next rest
              rw [Checks.ok_bind]
              cases resolved : resolvePending tenant fuel settled.staging
                  (removeCandidate settled.candidate (candidate :: candidates)) with
              | error failure =>
                  rw [resolved] at passed
                  exact passed
              | ok outcome =>
                  rw [resolved] at passed
                  exact passed

/-- The passes have one end. -/
theorem Ends.unique
    {first second : Except IngestFailure (List LedgerItem × InMemoryCanonicalLedger)}
    (ends : Ends tenant staging pending first)
    (other : Ends tenant staging pending second) : first = second := by
  induction ends generalizing second with
  | done staging =>
      cases other with
      | done => rfl
      | raises nonempty => exact absurd rfl nonempty
      | pass nonempty => exact absurd rfl nonempty
  | raises nonempty raised =>
      cases other with
      | done => exact absurd rfl nonempty
      | raises _ again => exact congrArg Except.error (Except.error.inj (raised.symm.trans again))
      | pass _ next => exact absurd (raised.symm.trans next) (by simp)
  | pass nonempty next _ inductionHypothesis =>
      cases other with
      | done => exact absurd rfl nonempty
      | raises _ raised => exact absurd (next.symm.trans raised) (by simp)
      | pass _ again rest =>
          obtain rfl := Except.ok.inj (next.symm.trans again)
          rw [inductionHypothesis rest]

/-- The batch ends with what the resolver computes, and with nothing else. -/
theorem batchEnds_iff
    {ledger : InMemoryCanonicalLedger}
    {immediate : List ImmutableSourceRow}
    {candidates : List Candidate}
    {result : Except IngestFailure (List LedgerItem)} :
    BatchEnds ledger tenant immediate candidates result ↔
      resolveBatch ledger tenant immediate candidates = result := by
  unfold resolveBatch stageBatch
  cases appended : ledger.fork.appendItems tenant.tenantId (immediateItems immediate) with
  | mk outcome staging =>
      cases outcome with
      | error failure =>
          constructor
          · intro ends
            cases ends with
            | raises raised =>
                obtain ⟨same, -⟩ := Prod.mk.inj (appended.symm.trans raised)
                rw [Except.error.inj same]
                rfl
            | resolves accepted => exact absurd (appended.symm.trans accepted) (by simp)
          · rintro rfl
            exact .raises appended
      | ok results =>
          have ends := @ends_resolvePending tenant staging candidates _ le_rfl
          have shape : ((do
                let outcome ← resolvePending tenant candidates.length staging candidates
                return (immediateItems immediate ++ outcome.1, outcome.2)).map Prod.fst :
                  Except IngestFailure (List LedgerItem)) =
              (resolvePending tenant candidates.length staging candidates).map
                fun outcome => immediateItems immediate ++ outcome.1 := by
            cases resolvePending tenant candidates.length staging candidates <;> rfl
          change _ ↔ ((do
                let outcome ← resolvePending tenant candidates.length staging candidates
                return (immediateItems immediate ++ outcome.1, outcome.2)).map Prod.fst :
                  Except IngestFailure (List LedgerItem)) = result
          rw [shape]
          constructor
          · intro batch
            cases batch with
            | raises raised => exact absurd (appended.symm.trans raised) (by simp)
            | resolves accepted others =>
                obtain ⟨-, rfl⟩ := Prod.mk.inj (appended.symm.trans accepted)
                rw [ends.unique others]
          · rintro rfl
            exact .resolves appended ends

/-! ### Permuted candidates -/

/-- The rank of a candidate does not depend on the order of the others. -/
theorem rank_perm
    (perm : permuted.Perm pending)
    (candidate : Candidate) :
    candidate.rank (supersededTargets permuted) = candidate.rank (supersededTargets pending) := by
  have targets : (supersededTargets permuted).Perm (supersededTargets pending) :=
    perm.filterMap _
  simp only [Candidate.rank, targets.mem_iff]

theorem precedes_perm
    (perm : permuted.Perm pending) :
    Candidate.precedes (supersededTargets permuted) =
      Candidate.precedes (supersededTargets pending) := by
  funext left right
  rw [Candidate.precedes, Candidate.precedes, rank_perm perm, rank_perm perm]

theorem precedes_trans
    (targets : List String)
    (first second third : Candidate)
    (before : first.precedes targets second = true)
    (after : second.precedes targets third = true) : first.precedes targets third = true := by
  simp only [Candidate.precedes, Bool.or_eq_true, Bool.and_eq_true, decide_eq_true_eq,
    beq_iff_eq] at *
  rcases before with before | ⟨sameRank, before | ⟨sameTime, before⟩⟩
  · rcases after with after | ⟨sameRank, -⟩
    · exact .inl (before.trans after)
    · exact .inl (before.trans_eq sameRank)
  · rcases after with after | ⟨nextRank, after | ⟨sameTime, -⟩⟩
    · exact .inl (sameRank.trans_lt after)
    · exact .inr ⟨sameRank.trans nextRank, .inl (before.trans after)⟩
    · exact .inr ⟨sameRank.trans nextRank, .inl (before.trans_eq sameTime)⟩
  · rcases after with after | ⟨nextRank, after | ⟨nextTime, after⟩⟩
    · exact .inl (sameRank.trans_lt after)
    · exact .inr ⟨sameRank.trans nextRank, .inl (sameTime.trans_lt after)⟩
    · exact .inr ⟨sameRank.trans nextRank,
        .inr ⟨sameTime.trans nextTime, String.le_trans before after⟩⟩

theorem precedes_total
    (targets : List String)
    (left right : Candidate) :
    (left.precedes targets right || right.precedes targets left) = true := by
  simp only [Candidate.precedes, Bool.or_eq_true, Bool.and_eq_true, decide_eq_true_eq,
    beq_iff_eq]
  rcases lt_trichotomy (left.rank targets) (right.rank targets) with less | same | greater
  · exact .inl (.inl less)
  · rcases lt_trichotomy left.event.recognitionTime.instant
        right.event.recognitionTime.instant with less | sameTime | greater
    · exact .inl (.inr ⟨same, .inl less⟩)
    · rcases String.le_total left.event.eventId right.event.eventId with less | greater
      · exact .inl (.inr ⟨same, .inr ⟨sameTime, less⟩⟩)
      · exact .inr (.inr ⟨same.symm, .inr ⟨sameTime.symm, greater⟩⟩)
    · exact .inr (.inr ⟨same.symm, .inl greater⟩)
  · exact .inr (.inl greater)

/-- Candidates that precede each other have one event id. -/
theorem eventId_eq_of_precedes
    {targets : List String}
    {left right : Candidate}
    (before : left.precedes targets right = true)
    (after : right.precedes targets left = true) : left.event.eventId = right.event.eventId := by
  simp only [Candidate.precedes, Bool.or_eq_true, Bool.and_eq_true, decide_eq_true_eq,
    beq_iff_eq] at before after
  rcases before with before | ⟨sameRank, before | ⟨sameTime, before⟩⟩
  · rcases after with after | ⟨sameRank, -⟩ <;> omega
  · rcases after with after | ⟨-, after | ⟨sameTime, -⟩⟩ <;> omega
  · rcases after with after | ⟨-, after | ⟨-, after⟩⟩
    · omega
    · omega
    · exact String.le_antisymm before after

/-- Sorted candidates come in one order. -/
theorem inOrder_perm
    (distinct : (pending.map fun candidate => candidate.event.eventId).Nodup)
    (perm : permuted.Perm pending) : inOrder permuted = inOrder pending := by
  have sorted : permuted.mergeSort (Candidate.precedes (supersededTargets pending)) =
      pending.mergeSort (Candidate.precedes (supersededTargets pending)) := by
    have ordered := fun candidates : List Candidate => candidates.pairwise_mergeSort
      (precedes_trans (supersededTargets pending)) (precedes_total (supersededTargets pending))
    have sortedPerm : (permuted.mergeSort (Candidate.precedes (supersededTargets pending))).Perm
        (pending.mergeSort (Candidate.precedes (supersededTargets pending))) :=
      ((permuted.mergeSort_perm _).trans perm).trans (pending.mergeSort_perm _).symm
    refine sortedPerm.eq_of_pairwise ?_ (ordered permuted) (ordered pending)
    intro left right leftIn rightIn before after
    have leftPending := perm.subset ((permuted.mergeSort_perm _).subset leftIn)
    have rightPending := (pending.mergeSort_perm _).subset rightIn
    exact List.inj_on_of_nodup_map distinct leftPending rightPending
      (eventId_eq_of_precedes before after)
  unfold inOrder
  rw [precedes_perm perm, sorted]
  simp only [perm.mem_iff, rank_perm perm]

/-- The candidates that are left do not depend on the order either. -/
theorem removeCandidate_perm
    (distinct : (pending.map fun candidate => candidate.event.eventId).Nodup)
    (perm : permuted.Perm pending)
    (present : candidate ∈ pending) :
    (removeCandidate candidate permuted).Perm (removeCandidate candidate pending) := by
  have permutedDistinct := (perm.map fun candidate => candidate.event.eventId).nodup_iff.mpr distinct
  have first := perm_removeCandidate (distinctCandidates_of_nodup permutedDistinct)
    (perm.mem_iff.mpr present)
  have second := perm_removeCandidate (distinctCandidates_of_nodup distinct) present
  exact ((first.trans perm).trans second.symm).cons_inv

/-- The passes plan the same for permuted candidates. -/
theorem resolvePending_perm
    {fuel : Nat}
    (distinct : (pending.map fun candidate => candidate.event.eventId).Nodup)
    (perm : permuted.Perm pending) :
    resolvePending tenant fuel staging permuted = resolvePending tenant fuel staging pending := by
  induction fuel generalizing staging pending permuted with
  | zero =>
      cases pending with
      | nil => rw [perm.eq_nil]
      | cons candidate candidates =>
          obtain ⟨other, others, rfl⟩ := List.exists_cons_of_ne_nil
            (fun empty : permuted = [] => by simp [empty] at perm)
          rfl
  | succ fuel inductionHypothesis =>
      cases pending with
      | nil => rw [perm.eq_nil]
      | cons candidate candidates =>
          obtain ⟨other, others, rfl⟩ := List.exists_cons_of_ne_nil
            (fun empty : permuted = [] => by simp [empty] at perm)
          have next : settleNext staging tenant (other :: others) =
              settleNext staging tenant (candidate :: candidates) := by
            rw [settleNext, settleNext, inOrder_perm distinct perm]
          rw [resolvePending, resolvePending, next]
          cases settles : settleNext staging tenant (candidate :: candidates) with
          | error failure => rfl
          | ok settled =>
              have present := (settles_of_settleNext settles).1
              have left := removeCandidate_perm distinct perm present
              have leftDistinct : ((removeCandidate settled.candidate
                  (candidate :: candidates)).map fun candidate =>
                    candidate.event.eventId).Nodup :=
                distinct.sublist (List.eraseP_sublist.map _)
              rw [Checks.ok_bind, Checks.ok_bind, inductionHypothesis leftDistinct left]

/-- For candidates with distinct event ids the resolver ends, and it plans or
raises the same for every order of the candidates. -/
theorem resolveBatch_rowOrder
    (ledger : InMemoryCanonicalLedger)
    (tenant : TenantContext)
    (immediate : List ImmutableSourceRow)
    {candidates : List Candidate}
    (distinct : (candidates.map fun candidate => candidate.event.eventId).Nodup)
    {permuted : List Candidate}
    (perm : permuted.Perm candidates)
    (result : Except IngestFailure (List LedgerItem)) :
    BatchEnds ledger tenant immediate permuted result ↔
      resolveBatch ledger tenant immediate candidates = result := by
  rw [batchEnds_iff, resolveBatch, resolveBatch, stageBatch, stageBatch, perm.length_eq]
  simp only [resolvePending_perm distinct perm]

/-- Two revisions in the other order. -/
theorem resolveBatch_rowOrder_exchanged :
    BatchEnds (afterCalls (appendCalls returnedTwice)) Operation.tenant [] exchanged.reverse
      (resolveBatch (afterCalls (appendCalls returnedTwice)) Operation.tenant [] exchanged) :=
  (resolveBatch_rowOrder _ Operation.tenant [] (by decide +kernel) (List.reverse_perm exchanged)
    _).mpr rfl

end QuantumAnalytics
