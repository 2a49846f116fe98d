import QuantumAnalytics.Ingestion.Resolver

/-!
# What the resolver does

A run of the resolver settles the candidates one after another, each on the
staging ledger that the ones before it left, and its plan lists what was staged
for them. Appending the plan to the same ledger therefore succeeds and leaves
the same state.
-/

namespace QuantumAnalytics

open InMemoryCanonicalLedger

variable {tenant : TenantContext} {staging final : InMemoryCanonicalLedger}
  {candidate : Candidate} {pending ordered : List Candidate} {item : LedgerItem}

/-- How a candidate is settled: its item is accepted, or a business rule rejects
it and a quarantined copy of its row is accepted. -/
inductive Settles (tenantId : String) (staging : InMemoryCanonicalLedger) (candidate : Candidate) :
    LedgerItem → Prop
  | accepted (ok : staging.validateAppend tenantId candidate.item = .ok ()) :
      Settles tenantId staging candidate candidate.item
  | quarantined
      {code : LedgerErrorCode}
      {row : ImmutableSourceRow}
      (rejected : staging.validateAppend tenantId candidate.item = .error (.canonical code))
      (byRule : code ∈ rowQuarantineCodes)
      (made : candidate.quarantine [code.text] = .ok row)
      (ok : staging.validateAppend tenantId (row, none) = .ok ()) :
      Settles tenantId staging candidate (row, none)

/-- Candidates settled in a given order, with the plan and the ledger after it. -/
inductive Resolves (tenantId : String) :
    InMemoryCanonicalLedger → List Candidate → List LedgerItem → InMemoryCanonicalLedger → Prop
  | nil (staging : InMemoryCanonicalLedger) : Resolves tenantId staging [] [] staging
  | cons
      {staging final : InMemoryCanonicalLedger}
      {candidate : Candidate}
      {item : LedgerItem}
      {order : List Candidate}
      {planned : List LedgerItem}
      (settles : Settles tenantId staging candidate item)
      (rest : Resolves tenantId (staging.writeItem tenantId item) order planned final) :
      Resolves tenantId staging (candidate :: order) (item :: planned) final

/-- What is settled is accepted. -/
theorem Settles.validateAppend_eq_ok
    {tenantId : String}
    (settles : Settles tenantId staging candidate item) :
    staging.validateAppend tenantId item = .ok () := by
  cases settles with
  | accepted ok => exact ok
  | quarantined _ _ _ ok => exact ok

/-- A settled item is the candidate's own, or it carries no event and the
candidate was rejected. -/
theorem Settles.eq_or_rejected
    {tenantId : String}
    (settles : Settles tenantId staging candidate item) :
    item = candidate.item ∨
      item.2 = none ∧ ∃ failure, staging.validateAppend tenantId candidate.item = .error failure := by
  cases settles with
  | accepted => exact .inl rfl
  | quarantined rejected => exact .inr ⟨rfl, _, rejected⟩

/-- Every planned event is the event of a candidate. -/
theorem Resolves.eq_item_of_mem
    {tenantId : String}
    {order : List Candidate}
    {planned : List LedgerItem}
    (resolves : Resolves tenantId staging order planned final) :
    ∀ item ∈ planned, item.2 = none ∨ ∃ candidate ∈ order, item = candidate.item := by
  induction resolves with
  | nil => simp
  | cons settles _ inductionHypothesis =>
      intro item present
      rcases List.mem_cons.mp present with rfl | later
      · rcases settles.eq_or_rejected with same | ⟨noEvent, _⟩
        · exact .inr ⟨_, List.mem_cons_self, same⟩
        · exact .inl noEvent
      · rcases inductionHypothesis item later with noEvent | ⟨candidate, inOrder, same⟩
        · exact .inl noEvent
        · exact .inr ⟨candidate, List.mem_cons_of_mem _ inOrder, same⟩

/-- What is planned for a candidate: its own item, or a quarantined copy of its
row. -/
def Candidate.Planned (candidate : Candidate) (item : LedgerItem) : Prop :=
  item = candidate.item ∨
    ∃ diagnostics row, candidate.quarantine diagnostics = .ok row ∧ item = (row, none)

/-- A settled candidate is planned. -/
theorem Settles.planned
    {tenantId : String}
    (settles : Settles tenantId staging candidate item) : candidate.Planned item := by
  cases settles with
  | accepted => exact .inl rfl
  | quarantined _ _ made _ => exact .inr ⟨_, _, made, rfl⟩

/-- The plan has one item for each candidate, in the order of the run. -/
theorem Resolves.forall₂_planned
    {tenantId : String}
    {order : List Candidate}
    {planned : List LedgerItem}
    (resolves : Resolves tenantId staging order planned final) :
    List.Forall₂ Candidate.Planned order planned := by
  induction resolves with
  | nil => exact .nil
  | cons settles _ inductionHypothesis => exact .cons settles.planned inductionHypothesis

/-- A plan is accepted where it was staged, and leaves the staging ledger. -/
theorem Resolves.appendItems
    {tenantId : String}
    {order : List Candidate}
    {planned : List LedgerItem}
    (resolves : Resolves tenantId staging order planned final) :
    ∃ results, staging.appendItems tenantId planned = (.ok results, final) := by
  induction resolves with
  | nil => exact ⟨[], rfl⟩
  | @cons staging final candidate item order planned settles _ inductionHypothesis =>
      obtain ⟨results, appended⟩ := inductionHypothesis
      refine ⟨staging.insertions tenantId item :: results, ?_⟩
      simp only [InMemoryCanonicalLedger.appendItems,
        appendLocked_of_ok settles.validateAppend_eq_ok, appended, Except.map]

/-! ### One round -/

/-- An append on the staging ledger checks and writes. -/
theorem append_eq (staging : InMemoryCanonicalLedger) (tenant : TenantContext) (item : LedgerItem) :
    staging.append tenant item =
      match staging.validateAppend tenant.tenantId item with
      | .error failure => (.error failure, staging)
      | .ok () => (.ok (staging.insertions tenant.tenantId item),
          staging.writeItem tenant.tenantId item) :=
  rfl

/-- The handler of a rejected candidate stages a quarantined copy. -/
theorem quarantineOn_eq_ok
    {code : LedgerErrorCode}
    {settled : Settled}
    (done : quarantineOn staging tenant candidate code = .ok (some settled)) :
    ∃ row, candidate.quarantine [code.text] = .ok row ∧
      staging.validateAppend tenant.tenantId (row, none) = .ok () ∧
      settled = ⟨candidate, (row, none), staging.writeItem tenant.tenantId (row, none)⟩ := by
  unfold quarantineOn at done
  split at done
  · exact absurd done (by simp)
  case h_2 row made =>
    rw [append_eq] at done
    cases checked : staging.validateAppend tenant.tenantId (row, none) with
    | error failure => simp [checked] at done
    | ok accepted =>
        simp only [checked, Except.ok.injEq, Option.some.injEq] at done
        exact ⟨row, made, checked, done.symm⟩

/-- A round settles one of its candidates. -/
theorem settles_of_attempt
    {settled : Settled}
    (done : attempt staging tenant ordered = .ok (some settled)) :
    settled.candidate ∈ ordered ∧
      Settles tenant.tenantId staging settled.candidate settled.item ∧
      settled.staging = staging.writeItem tenant.tenantId settled.item := by
  induction ordered with
  | nil => simp [attempt] at done
  | cons candidate rest inductionHypothesis =>
      rw [attempt, append_eq] at done
      cases checked : staging.validateAppend tenant.tenantId candidate.item with
      | ok accepted =>
          simp only [checked, Except.ok.injEq, Option.some.injEq] at done
          subst done
          exact ⟨List.mem_cons_self, .accepted checked, rfl⟩
      | error failure =>
          cases failure with
          | decimal signal => simp [checked] at done
          | canonical code =>
              simp only [checked] at done
              split at done
              · obtain ⟨present, settles, after⟩ := inductionHypothesis done
                exact ⟨List.mem_cons_of_mem _ present, settles, after⟩
              · split at done
                case isTrue byRule =>
                  obtain ⟨row, made, ok, rfl⟩ := quarantineOn_eq_ok done
                  exact ⟨List.mem_cons_self, .quarantined checked byRule made ok, rfl⟩
                case isFalse => exact absurd done (by simp)

/-- Sorting keeps the candidates. -/
theorem perm_of_inOrder (sorted : inOrder pending = .ok ordered) : ordered.Perm pending := by
  unfold inOrder at sorted
  split at sorted
  · obtain rfl := Except.ok.inj sorted
    exact List.mergeSort_perm _ _
  · exact absurd sorted (by simp)

/-- No two different candidates are equal as dataclasses. -/
def DistinctCandidates (pending : List Candidate) : Prop :=
  ∀ left ∈ pending, ∀ right ∈ pending, left.pyEq right = true → left = right

/-- Removing a candidate takes it out once. -/
theorem perm_removeCandidate
    (distinct : DistinctCandidates pending)
    (present : candidate ∈ pending) :
    (candidate :: removeCandidate candidate pending).Perm pending := by
  obtain ⟨removed, before, after, _, same, split, erased⟩ :=
    List.exists_of_eraseP (p := fun other => other.pyEq candidate) present candidate.pyEq_refl
  obtain rfl := distinct removed (by simp [split]) candidate present same
  rw [removeCandidate, erased]
  conv_rhs => rw [split]
  exact List.perm_middle.symm

/-- What holds of the candidates holds of those that are left. -/
theorem DistinctCandidates.removeCandidate
    (distinct : DistinctCandidates pending)
    (candidate : Candidate) :
    DistinctCandidates (removeCandidate candidate pending) :=
  fun left leftIn right rightIn =>
    distinct left (List.mem_of_mem_eraseP leftIn) right (List.mem_of_mem_eraseP rightIn)

/-! ### The whole run -/

/-- A pass settles one of the candidates that are left. -/
theorem settles_of_settleNext
    {settled : Settled}
    (done : settleNext staging tenant pending = .ok settled) :
    settled.candidate ∈ pending ∧
      Settles tenant.tenantId staging settled.candidate settled.item ∧
      settled.staging = staging.writeItem tenant.tenantId settled.item := by
  unfold settleNext at done
  split at done
  · exact absurd done (by simp)
  case h_2 ordered sorted =>
    split at done
    · exact absurd done (by simp)
    · exact absurd done (by simp)
    case h_3 next attempted =>
      obtain rfl := Except.ok.inj done
      obtain ⟨present, settles, after⟩ := settles_of_attempt attempted
      exact ⟨(perm_of_inOrder sorted).subset present, settles, after⟩

/-- A run with candidates left makes a pass and goes on without the candidate
that it settled. -/
theorem resolvePending_succ_eq_ok
    {fuel : Nat}
    (nonempty : pending ≠ [])
    {planned : List LedgerItem} :
    resolvePending tenant (fuel + 1) staging pending = .ok (planned, final) ↔
      ∃ settled rest, settleNext staging tenant pending = .ok settled ∧
        resolvePending tenant fuel settled.staging (removeCandidate settled.candidate pending) =
          .ok (rest, final) ∧
        planned = settled.item :: rest := by
  obtain ⟨candidate, candidates, rfl⟩ := List.exists_cons_of_ne_nil nonempty
  simp only [resolvePending, Checks.bind_eq_ok, Checks.pure_eq_ok, Prod.exists, Prod.mk.injEq]
  constructor
  · rintro ⟨settled, next, rest, restFinal, resolved, rfl, rfl⟩
    exact ⟨settled, rest, next, resolved, rfl⟩
  · rintro ⟨settled, rest, next, resolved, rfl⟩
    exact ⟨settled, next, rest, final, resolved, rfl, rfl⟩

/-- A run without candidates plans nothing. -/
@[simp] theorem resolvePending_nil (fuel : Nat) :
    resolvePending tenant fuel staging [] = .ok ([], staging) := by
  cases fuel <;> rfl

/-- A run of the resolver settles candidates in some order; where they are
distinct, it settles each of them once. -/
theorem resolves_of_resolvePending
    {fuel : Nat}
    {planned : List LedgerItem}
    (done : resolvePending tenant fuel staging pending = .ok (planned, final)) :
    ∃ order, Resolves tenant.tenantId staging order planned final ∧
      (DistinctCandidates pending → order.Perm pending) := by
  induction fuel generalizing staging pending planned with
  | zero =>
      cases pending with
      | nil =>
          obtain ⟨rfl, rfl⟩ := Prod.mk.inj (Except.ok.inj done)
          exact ⟨[], .nil _, fun _ => .nil⟩
      | cons candidate candidates => simp [resolvePending] at done
  | succ fuel inductionHypothesis =>
      by_cases empty : pending = []
      · subst empty
        obtain ⟨rfl, rfl⟩ := Prod.mk.inj (Except.ok.inj done)
        exact ⟨[], .nil _, fun _ => .nil⟩
      · obtain ⟨settled, rest, next, resolved, rfl⟩ := (resolvePending_succ_eq_ok empty).mp done
        obtain ⟨present, settles, after⟩ := settles_of_settleNext next
        obtain ⟨order, resolves, perm⟩ := inductionHypothesis resolved
        rw [after] at resolves
        refine ⟨settled.candidate :: order, .cons settles resolves, fun distinct => ?_⟩
        exact ((perm (distinct.removeCandidate settled.candidate)).cons _).trans
          (perm_removeCandidate distinct present)

/-- The resolver stages the rows without an event, then the candidates. -/
theorem stageBatch_eq_ok
    {ledger : InMemoryCanonicalLedger}
    {immediate : List ImmutableSourceRow}
    {candidates : List Candidate}
    {planned : List LedgerItem} :
    stageBatch ledger tenant immediate candidates = .ok (planned, final) ↔
      ∃ staging results rest,
        ledger.appendItems tenant.tenantId (immediateItems immediate) = (.ok results, staging) ∧
        resolvePending tenant candidates.length staging candidates = .ok (rest, final) ∧
        planned = immediateItems immediate ++ rest := by
  unfold stageBatch
  rw [fork_eq]
  cases staged : ledger.appendItems tenant.tenantId (immediateItems immediate) with
  | mk result staging =>
      cases result with
      | error failure => simp
      | ok results =>
          simp only [Checks.bind_eq_ok, Checks.pure_eq_ok, Prod.exists, Prod.mk.injEq]
          constructor
          · rintro ⟨rest, restFinal, resolved, rfl, rfl⟩
            exact ⟨staging, results, rest, ⟨rfl, rfl⟩, resolved, rfl⟩
          · rintro ⟨_, _, rest, ⟨_, rfl⟩, resolved, rfl⟩
            exact ⟨rest, final, resolved, rfl, rfl⟩

/-- The plan is what was staged. -/
theorem resolveBatch_eq_ok
    {ledger : InMemoryCanonicalLedger}
    {immediate : List ImmutableSourceRow}
    {candidates : List Candidate}
    {planned : List LedgerItem} :
    resolveBatch ledger tenant immediate candidates = .ok planned ↔
      ∃ final, stageBatch ledger tenant immediate candidates = .ok (planned, final) := by
  unfold resolveBatch
  cases stageBatch ledger tenant immediate candidates with
  | error failure => simp [Except.map]
  | ok outcome =>
      obtain ⟨items, after⟩ := outcome
      simp [Except.map]

/-- A run of the whole resolver. -/
theorem resolves_of_stageBatch
    {ledger : InMemoryCanonicalLedger}
    {immediate : List ImmutableSourceRow}
    {candidates : List Candidate}
    {planned : List LedgerItem}
    (done : stageBatch ledger tenant immediate candidates = .ok (planned, final)) :
    ∃ staging results order rest,
      ledger.appendItems tenant.tenantId (immediateItems immediate) = (.ok results, staging) ∧
      Resolves tenant.tenantId staging order rest final ∧
      (DistinctCandidates candidates → order.Perm candidates) ∧
      planned = immediateItems immediate ++ rest := by
  obtain ⟨staging, results, rest, staged, resolved, rfl⟩ := stageBatch_eq_ok.mp done
  obtain ⟨order, resolves, perm⟩ := resolves_of_resolvePending resolved
  exact ⟨staging, results, order, rest, staged, resolves, perm, rfl⟩

end QuantumAnalytics
