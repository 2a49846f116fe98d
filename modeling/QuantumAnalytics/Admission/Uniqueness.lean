import QuantumAnalytics.Admission.History

/-!
# Uniqueness of files, sources, workbooks and evidence

The owner indexes only grow, and every record owns what it refers to. So two
records of a tenant never share an original file, a source, a workbook or an
evidence, and a declaration that is repeated finds its record again.
-/

namespace QuantumAnalytics
namespace Admission

/-- A state of a dataset whose workbook was accepted. -/
def DatasetAdmissionState.isAccepted : DatasetAdmissionState → Bool
  | .validated => true
  | .admitted => true
  | .revoked => true
  | _ => false

namespace RealDatasetAdmissionRegistry

variable {inspector : XlsxPackageInspector} {registry after : RealDatasetAdmissionRegistry}

/-! ### Owner indexes -/

theorem isTaken_eq_false
    {κ : Type}
    [DecidableEq κ]
    {owners : Dict κ String}
    {key : κ}
    {datasetId : String} :
    isTaken owners key datasetId = false ↔
      ∀ owner, owners.get? key = some owner → owner = datasetId := by
  unfold isTaken
  cases owners.get? key <;> simp

/-- A claim of what is not taken keeps every other owner. -/
theorem get?_set_of_not_taken
    {κ : Type}
    [DecidableEq κ]
    {owners : Dict κ String}
    {key other : κ}
    {datasetId owner : String}
    (free : isTaken owners key datasetId = false)
    (owned : owners.get? other = some owner) :
    (owners.set key datasetId).get? other = some owner := by
  rw [Dict.get?_set]
  split_ifs with same
  · subst same
    rw [isTaken_eq_false.mp free owner owned]
  · exact owned

/-- No owner is lost. -/
structure Grows (registry after : RealDatasetAdmissionRegistry) : Prop where
  digest : ∀ key owner, registry.originalDigestOwners.get? key = some owner →
    after.originalDigestOwners.get? key = some owner
  source : ∀ key owner, registry.sourceIdentityOwners.get? key = some owner →
    after.sourceIdentityOwners.get? key = some owner
  workbook : ∀ key owner, registry.workbookDigestOwners.get? key = some owner →
    after.workbookDigestOwners.get? key = some owner
  datasetEvidence : ∀ key owner, registry.datasetEvidenceIdOwners.get? key = some owner →
    after.datasetEvidenceIdOwners.get? key = some owner
  storageEvidence : ∀ key owner, registry.storageEvidenceIdOwners.get? key = some owner →
    after.storageEvidenceIdOwners.get? key = some owner

theorem grows_put (tenant : AccountContext) (record : DatasetAdmissionRecord) :
    Grows registry (registry.put tenant record) := by
  constructor <;> exact fun _ _ owned => owned

theorem Change.grows
    {call : Call}
    (change : Change inspector call registry after) : Grows registry after := by
  cases change with
  | declared inScope fresh made =>
      obtain ⟨digestFree, sourceFree, decided, -, rfl⟩ := newRecord_eq_ok made
      refine ⟨?_, ?_, fun _ _ owned => owned, fun _ _ owned => owned, fun _ _ owned => owned⟩
      · exact fun _ _ owned => get?_set_of_not_taken digestFree owned
      · exact fun _ _ owned => get?_set_of_not_taken sourceFree owned
  | quarantined known before after time => exact grows_put _ _
  | rejected known before after time => exact grows_put _ _
  | claimed free =>
      refine ⟨fun _ _ owned => owned, fun _ _ owned => owned, ?_, fun _ _ owned => owned,
        fun _ _ owned => owned⟩
      exact fun _ _ owned => get?_set_of_not_taken free owned
  | inspected named known before after time owned inspected => exact grows_put _ _
  | admitted named known before after time granted datasetFree storageFree =>
      refine ⟨fun _ _ owned => owned, fun _ _ owned => owned, fun _ _ owned => owned, ?_, ?_⟩
      · exact fun _ _ owned => get?_set_of_not_taken datasetFree owned
      · exact fun _ _ owned => get?_set_of_not_taken storageFree owned
  | revoked known before after time => exact grows_put _ _

/-! ### What a record owns -/

/-- A record owns everything that it refers to, and an accepted one refers to a
workbook. -/
structure Owned
    (registry : RealDatasetAdmissionRegistry)
    (record : DatasetAdmissionRecord) : Prop where
  digest : registry.originalDigestOwners.get?
    (record.declaration.tenantId, record.declaration.originalFileSha256) =
      some record.declaration.datasetId
  source : registry.sourceIdentityOwners.get? record.declaration.sourceKey =
    some record.declaration.datasetId
  workbook : ∀ inspection, record.inspection = some inspection →
    registry.workbookDigestOwners.get?
      (record.declaration.tenantId, inspection.workbookSha256) = some record.declaration.datasetId
  datasetEvidence : ∀ evidenceId, record.datasetControlEvidenceId = some evidenceId →
    registry.datasetEvidenceIdOwners.get? (record.declaration.tenantId, evidenceId) =
      some record.declaration.datasetId
  storageEvidence : ∀ evidenceId, record.storageEvidenceId = some evidenceId →
    registry.storageEvidenceIdOwners.get? (record.declaration.tenantId, evidenceId) =
      some record.declaration.datasetId
  accepted : record.state.isAccepted = true → record.inspection.isSome = true

theorem Owned.mono
    {record : DatasetAdmissionRecord}
    (owned : registry.Owned record)
    (grows : Grows registry after) : after.Owned record where
  digest := grows.digest _ _ owned.digest
  source := grows.source _ _ owned.source
  workbook := fun inspection present => grows.workbook _ _ (owned.workbook inspection present)
  datasetEvidence := fun evidenceId present =>
    grows.datasetEvidence _ _ (owned.datasetEvidence evidenceId present)
  storageEvidence := fun evidenceId present =>
    grows.storageEvidence _ _ (owned.storageEvidence evidenceId present)
  accepted := owned.accepted

/-- A record that refers to the same things owns them. -/
theorem Owned.update
    {stored record : DatasetAdmissionRecord}
    (owned : registry.Owned stored)
    (declaration : record.declaration = stored.declaration)
    (inspection : record.inspection = stored.inspection)
    (datasetEvidence : record.datasetControlEvidenceId = stored.datasetControlEvidenceId)
    (storageEvidence : record.storageEvidenceId = stored.storageEvidenceId)
    (accepted : record.state.isAccepted = false ∨ stored.state.isAccepted = true) :
    registry.Owned record where
  digest := declaration ▸ owned.digest
  source := declaration ▸ owned.source
  workbook := declaration ▸ inspection ▸ owned.workbook
  datasetEvidence := declaration ▸ datasetEvidence ▸ owned.datasetEvidence
  storageEvidence := declaration ▸ storageEvidence ▸ owned.storageEvidence
  accepted := by
    intro isAccepted
    rw [inspection]
    exact owned.accepted (accepted.resolve_left (by simp [isAccepted]))

/-- Every record owns what it refers to. -/
def Consistent (registry : RealDatasetAdmissionRegistry) : Prop :=
  ∀ key record, registry.records.get? key = some record → registry.Owned record

/-- A write keeps the registry consistent when the written record owns what it
refers to. -/
theorem Consistent.put
    {tenant : AccountContext}
    {written : DatasetAdmissionRecord}
    (consistent : registry.Consistent)
    (owned : registry.Owned written) : (registry.put tenant written).Consistent := by
  intro key record found
  rcases get?_put found with before | ⟨-, rfl⟩
  · exact (consistent key record before).mono (grows_put _ _)
  · exact owned.mono (grows_put _ _)

theorem Change.consistent
    {call : Call}
    (keyed : registry.Keyed)
    (consistent : registry.Consistent)
    (change : Change inspector call registry after) : after.Consistent := by
  have grows := change.grows
  cases change with
  | declared inScope fresh made =>
      obtain ⟨-, -, decided, -, rfl⟩ := newRecord_eq_ok made
      intro key record found
      rcases get?_put found with before | ⟨-, rfl⟩
      · exact (consistent key record before).mono grows
      · have sameTenant := tenantId_of_scopedDeclaration inScope
        refine ⟨?_, ?_, nofun, nofun, nofun, nofun⟩
        · rw [sameTenant]
          exact Dict.get?_set_self _ _ _
        · exact Dict.get?_set_self _ _ _
  | quarantined known before after time =>
      exact consistent.put ((consistent _ _ known).update rfl rfl rfl rfl
        (.inl (congrArg DatasetAdmissionState.isAccepted after)))
  | rejected known before after time =>
      exact consistent.put ((consistent _ _ known).update rfl rfl rfl rfl
        (.inl (congrArg DatasetAdmissionState.isAccepted after)))
  | claimed free => exact fun key record found => (consistent key record found).mono grows
  | inspected named known before after time owned inspected =>
      obtain ⟨digest, source, -, datasetEvidence, storageEvidence, -⟩ := consistent _ _ known
      refine consistent.put ⟨digest, source, ?_, datasetEvidence, storageEvidence, fun _ => rfl⟩
      intro inspection present
      obtain rfl := Option.some.inj present
      exact (keyed.tenant_eq known).symm ▸ owned
  | admitted named known before after time granted datasetFree storageFree =>
      have sameTenant := keyed.tenant_eq known
      intro key record found
      rcases get?_put found with before | ⟨-, rfl⟩
      · exact (consistent key record before).mono grows
      · obtain ⟨digest, source, workbook, -, -, accepted⟩ := (consistent _ _ known).mono grows
        refine ⟨digest, source, workbook, ?_, ?_, fun _ => accepted (congrArg DatasetAdmissionState.isAccepted before)⟩
        · intro evidenceId present
          obtain rfl := Option.some.inj present
          exact sameTenant ▸ Dict.get?_set_self _ _ _
        · intro evidenceId present
          obtain rfl := Option.some.inj present
          exact sameTenant ▸ Dict.get?_set_self _ _ _
  | revoked known before after time =>
      exact consistent.put ((consistent _ _ known).update rfl rfl rfl rfl
        (.inr (congrArg DatasetAdmissionState.isAccepted before)))

theorem consistent_afterCalls
    (inspector : XlsxPackageInspector)
    (calls : List Call) : (afterCalls inspector calls).Consistent :=
  afterCalls_induction (fun key record found => by simp [empty] at found)
    (fun _ _ _ consistent => consistent)
    (fun _ _ _ _ _ keyed consistent change => change.consistent keyed consistent) calls

/-! ### Uniqueness -/

/-- The record is stored. -/
def Stored (registry : RealDatasetAdmissionRegistry) (record : DatasetAdmissionRecord) : Prop :=
  ∃ key, registry.records.get? key = some record

/-- Different records of a tenant refer to different things. -/
structure Unique (registry : RealDatasetAdmissionRegistry) : Prop where
  /-- No original file is shared. -/
  digest : ∀ left right, registry.Stored left → registry.Stored right →
    left.declaration.tenantId = right.declaration.tenantId →
    left.declaration.originalFileSha256 = right.declaration.originalFileSha256 → left = right
  /-- No source is shared. -/
  source : ∀ left right, registry.Stored left → registry.Stored right →
    left.declaration.sourceKey = right.declaration.sourceKey → left = right
  /-- No accepted workbook is shared. -/
  workbook : ∀ left right, registry.Stored left → registry.Stored right →
    left.declaration.tenantId = right.declaration.tenantId →
    left.state.isAccepted = true → right.state.isAccepted = true →
    ∃ leftInspection rightInspection, left.inspection = some leftInspection ∧
      right.inspection = some rightInspection ∧
        (leftInspection.workbookSha256 = rightInspection.workbookSha256 → left = right)
  /-- No evidence about data is shared. -/
  datasetEvidence : ∀ left right, registry.Stored left → registry.Stored right →
    left.declaration.tenantId = right.declaration.tenantId →
    left.datasetControlEvidenceId = right.datasetControlEvidenceId →
    left.datasetControlEvidenceId ≠ none → left = right
  /-- No evidence about storage is shared. -/
  storageEvidence : ∀ left right, registry.Stored left → registry.Stored right →
    left.declaration.tenantId = right.declaration.tenantId →
    left.storageEvidenceId = right.storageEvidenceId → left.storageEvidenceId ≠ none → left = right

/-- Records of one tenant and one dataset are the same. -/
theorem Keyed.eq_of_ids
    (keyed : registry.Keyed)
    {left right : DatasetAdmissionRecord}
    (leftStored : registry.Stored left)
    (rightStored : registry.Stored right)
    (tenant : left.declaration.tenantId = right.declaration.tenantId)
    (dataset : some left.declaration.datasetId = some right.declaration.datasetId) :
    left = right := by
  obtain ⟨leftKey, leftFound⟩ := leftStored
  obtain ⟨rightKey, rightFound⟩ := rightStored
  exact keyed.eq_of_key_eq (Dict.mem_values_of_get? leftFound) (Dict.mem_values_of_get? rightFound)
    (Prod.ext tenant (Option.some.inj dataset))

theorem unique_of_consistent
    (keyed : registry.Keyed)
    (consistent : registry.Consistent) : registry.Unique := by
  have owned : ∀ record, registry.Stored record → registry.Owned record :=
    fun record ⟨key, found⟩ => consistent key record found
  constructor
  · intro left right leftStored rightStored tenant file
    refine keyed.eq_of_ids leftStored rightStored tenant ?_
    rw [← (owned left leftStored).digest, ← (owned right rightStored).digest, tenant, file]
  · intro left right leftStored rightStored source
    refine keyed.eq_of_ids leftStored rightStored (congrArg SourceKey.tenantId source) ?_
    rw [← (owned left leftStored).source, ← (owned right rightStored).source, source]
  · intro left right leftStored rightStored tenant leftAccepted rightAccepted
    obtain ⟨leftInspection, leftPresent⟩ :=
      Option.isSome_iff_exists.mp ((owned left leftStored).accepted leftAccepted)
    obtain ⟨rightInspection, rightPresent⟩ :=
      Option.isSome_iff_exists.mp ((owned right rightStored).accepted rightAccepted)
    refine ⟨leftInspection, rightInspection, leftPresent, rightPresent, fun workbook => ?_⟩
    refine keyed.eq_of_ids leftStored rightStored tenant ?_
    rw [← (owned left leftStored).workbook _ leftPresent,
      ← (owned right rightStored).workbook _ rightPresent, tenant, workbook]
  · intro left right leftStored rightStored tenant evidence present
    obtain ⟨evidenceId, leftPresent⟩ := Option.ne_none_iff_exists'.mp present
    refine keyed.eq_of_ids leftStored rightStored tenant ?_
    rw [← (owned left leftStored).datasetEvidence _ leftPresent,
      ← (owned right rightStored).datasetEvidence _ (evidence ▸ leftPresent), tenant]
  · intro left right leftStored rightStored tenant evidence present
    obtain ⟨evidenceId, leftPresent⟩ := Option.ne_none_iff_exists'.mp present
    refine keyed.eq_of_ids leftStored rightStored tenant ?_
    rw [← (owned left leftStored).storageEvidence _ leftPresent,
      ← (owned right rightStored).storageEvidence _ (evidence ▸ leftPresent), tenant]

/-! ### Repeated declarations -/

/-- A step keeps every record, with its declaration. -/
theorem Change.persists
    {call : Call}
    (change : Change inspector call registry after)
    {key : String × String}
    {record : DatasetAdmissionRecord}
    (found : registry.records.get? key = some record) :
    ∃ later, after.records.get? key = some later ∧ later.declaration = record.declaration := by
  have put : ∀ {tenant : AccountContext} {stored written : DatasetAdmissionRecord},
      registry.Known tenant stored → written.declaration = stored.declaration →
        ∃ later, (registry.put tenant written).records.get? key = some later ∧
          later.declaration = record.declaration := by
    intro tenant stored written known same
    by_cases here : key = (tenant.tenantId, written.declaration.datasetId)
    · subst here
      refine ⟨written, put_known written, ?_⟩
      rw [same, known] at found
      rw [same, Option.some.inj found]
    · exact ⟨record, (Dict.get?_set_of_ne _ here _).trans found, rfl⟩
  cases change with
  | declared inScope fresh made =>
      obtain ⟨-, -, decided, -, rfl⟩ := newRecord_eq_ok made
      refine ⟨record, (Dict.get?_set_of_ne _ ?_ _).trans found, rfl⟩
      rintro rfl
      rw [fresh] at found
      cases found
  | claimed free => exact ⟨record, found, rfl⟩
  | quarantined known before after time => exact put known rfl
  | rejected known before after time => exact put known rfl
  | inspected named known before after time owned inspected => exact put known rfl
  | admitted named known before after time granted datasetFree storageFree => exact put known rfl
  | revoked known before after time => exact put known rfl

/-- Further calls keep every record, with its declaration. -/
theorem persists_afterCalls
    (inspector : XlsxPackageInspector)
    (calls later : List Call)
    {key : String × String}
    {record : DatasetAdmissionRecord}
    (found : (afterCalls inspector calls).records.get? key = some record) :
    ∃ current, (afterCalls inspector (calls ++ later)).records.get? key = some current ∧
      current.declaration = record.declaration := by
  induction later using List.reverseRecOn with
  | nil => exact ⟨record, by rwa [List.append_nil], rfl⟩
  | append_singleton later call inductionHypothesis =>
      rw [← List.append_assoc, afterCalls_append]
      have changes := perform_changes inspector (keyed_afterCalls inspector (calls ++ later)) call
      generalize ((afterCalls inspector (calls ++ later)).perform inspector call).2 = after
        at changes ⊢
      induction changes with
      | refl => exact inductionHypothesis
      | tail _ change kept =>
          obtain ⟨current, stored, same⟩ := kept
          obtain ⟨next, nextStored, nextSame⟩ := change.persists stored
          exact ⟨next, nextStored, nextSame.trans same⟩

theorem scopedDeclaration_eq_ok
    {tenant : AccountContext}
    {given declaration : DatasetDeclaration} :
    scopedDeclaration tenant given = .ok declaration ↔
      tenant.tenantId = given.tenantId ∧ tenant.accountId = given.uploaderAccountId ∧
        ∃ datasetId, PyText.canonicalUuid? given.datasetId = some datasetId ∧
          given.withDatasetId datasetId = declaration := by
  simp only [scopedDeclaration, canonicalId, Checks.bind_eq_ok, Checks.require_eq_ok,
    Checks.requireSome_eq_ok, Checks.pure_eq_ok, exists_const]

/-- An equal declaration is scoped to an equal one. -/
theorem scopedDeclaration_congr
    {tenant : AccountContext}
    {given again declaration : DatasetDeclaration}
    (inScope : scopedDeclaration tenant given = .ok declaration)
    (same : again.pyEq given = true) :
    ∃ repeated, scopedDeclaration tenant again = .ok repeated ∧
      repeated.datasetId = declaration.datasetId ∧
        ∀ stored : DatasetDeclaration, stored.pyEq declaration = true →
          stored.pyEq repeated = true := by
  obtain ⟨sameTenant, sameAccount, datasetId, canonical, rfl⟩ := scopedDeclaration_eq_ok.mp inScope
  simp only [DatasetDeclaration.pyEq, DateTime.pyEq, Bool.and_eq_true, beq_iff_eq] at same
  refine ⟨again.withDatasetId datasetId, scopedDeclaration_eq_ok.mpr ⟨?_, ?_, datasetId, ?_, rfl⟩,
    rfl, fun stored equal => ?_⟩
  · grind
  · grind
  · grind
  · simp only [DatasetDeclaration.pyEq, DateTime.pyEq, DatasetDeclaration.withDatasetId,
      Bool.and_eq_true, beq_iff_eq] at equal ⊢
    grind

/-- An accepted declaration is stored under its canonical id. -/
theorem declare_eq_ok
    {tenant : AccountContext}
    {given : DatasetDeclaration}
    {record : DatasetAdmissionRecord}
    (accepted : (registry.declare tenant given).1 = .ok record) :
    ∃ declaration, scopedDeclaration tenant given = .ok declaration ∧
      (registry.declare tenant given).2.records.get? (tenant.tenantId, declaration.datasetId) =
        some record ∧ record.declaration.pyEq declaration = true := by
  unfold declare at accepted ⊢
  cases inScope : scopedDeclaration tenant given with
  | error failure => simp [inScope] at accepted
  | ok declaration =>
      refine ⟨declaration, rfl, ?_⟩
      simp only [inScope] at accepted ⊢
      cases found : registry.records.get? (tenant.tenantId, declaration.datasetId) with
      | some existing =>
          simp only [found] at accepted ⊢
          split_ifs at accepted ⊢ with same
          obtain rfl := Except.ok.inj accepted
          exact ⟨found, same⟩
      | none =>
          simp only [found] at accepted ⊢
          cases made : registry.newRecord tenant declaration with
          | error failure => simp [made] at accepted
          | ok new =>
              simp only [made, Except.ok.injEq] at accepted ⊢
              obtain rfl := accepted
              obtain ⟨-, -, decided, -, rfl⟩ := newRecord_eq_ok made
              refine ⟨Dict.get?_set_self _ _ _, ?_⟩
              simp [DatasetDeclaration.pyEq]

/-- A repeated declaration returns the record of the dataset as it now is and
changes nothing. -/
def Redeclares (inspector : XlsxPackageInspector) (calls : List Call) : Prop :=
  ∀ earlier later tenant given record,
    calls = earlier ++ .declare tenant given :: later →
    ((afterCalls inspector earlier).declare tenant given).1 = .ok record →
    ∀ again : DatasetDeclaration, again.pyEq given = true →
      ∃ current, (afterCalls inspector calls).Stored current ∧
        current.declaration = record.declaration ∧
          (afterCalls inspector calls).declare tenant again =
            (.ok current, afterCalls inspector calls)

theorem redeclares (inspector : XlsxPackageInspector) (calls : List Call) :
    Redeclares inspector calls := by
  rintro earlier later tenant given record rfl accepted again same
  obtain ⟨declaration, inScope, stored, equal⟩ := declare_eq_ok accepted
  obtain ⟨repeated, repeatedScope, sameId, transfer⟩ := scopedDeclaration_congr inScope same
  have first : (afterCalls inspector (earlier ++ [.declare tenant given])).records.get?
      (tenant.tenantId, declaration.datasetId) = some record := by
    rw [afterCalls_append]
    exact stored
  obtain ⟨current, found, kept⟩ := persists_afterCalls inspector _ later first
  rw [List.append_assoc, List.singleton_append] at found
  refine ⟨current, ⟨_, found⟩, kept, ?_⟩
  unfold declare
  simp only [repeatedScope, sameId, found]
  rw [if_pos]
  rw [kept]
  exact transfer _ equal

/-- After every run of calls, accepted or rejected, records of a tenant share no
original file, source, accepted workbook or evidence, and a repeated declaration
only returns its record. -/
theorem unique_afterCalls (inspector : XlsxPackageInspector) (calls : List Call) :
    (afterCalls inspector calls).Unique ∧ Redeclares inspector calls :=
  ⟨unique_of_consistent (keyed_afterCalls inspector calls) (consistent_afterCalls inspector calls),
    redeclares inspector calls⟩

end RealDatasetAdmissionRegistry
end Admission
end QuantumAnalytics
