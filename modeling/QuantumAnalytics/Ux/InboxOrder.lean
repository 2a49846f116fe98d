import Mathlib.Data.List.Lex
import Mathlib.Data.String.Basic
import QuantumAnalytics.Foundations.Collecting
import QuantumAnalytics.Foundations.Joining
import QuantumAnalytics.Reporting.Bundles
import QuantumAnalytics.Ux.Inbox

/-!
# The inbox in every order

The three loops are one loop over all inputs, whose contributions do not depend
on their order. What is left is the sort by id: it gives one list when the ids
differ, and they do unless a record or a form has the id of another one with a
separator and more behind it.
-/

namespace QuantumAnalytics
namespace Ux

open Reporting (GeneratedAt memberOf)

/-! ### One loop -/

/-- An element of one of the three collections. -/
inductive Input
  | record (value : PyJson)
  | form (value : PyJson)
  | importFile (record : RawFileMetadata)

/-- All inputs of a call. -/
def inputs (records forms : List PyJson) (imports : List RawFileMetadata) : List Input :=
  records.map .record ++ forms.map .form ++ imports.map .importFile

/-- The sources in a record that may be anything. -/
def sourcesOfRecord : PyJson → List Source
  | .obj record => recordSources record
  | _ => []

/-- The sources in a form that may be anything. -/
def sourcesOfForm : PyJson → List Source
  | .obj form => formSources form
  | _ => []

/-- The sources in an input. -/
def Input.sources : Input → List Source
  | .record value => sourcesOfRecord value
  | .form value => sourcesOfForm value
  | .importFile file => importSources file

/-- The sources in all inputs. -/
def sources (records forms : List PyJson) (imports : List RawFileMetadata) : List Source :=
  records.flatMap sourcesOfRecord ++ forms.flatMap sourcesOfForm ++ imports.flatMap importSources

theorem sources_eq (records forms : List PyJson) (imports : List RawFileMetadata) :
    sources records forms imports = (inputs records forms imports).flatMap Input.sources := by
  rw [sources, inputs, List.flatMap_append, List.flatMap_append, List.flatMap_map,
    List.flatMap_map, List.flatMap_map]
  rfl

variable {interpreter : Interpreter}

/-- The loop body of an input. -/
def inputStep (interpreter : Interpreter) (tenantId : PyStr) (state : InboxState) :
    Input → Result InboxState
  | .record value => recordStep interpreter state value
  | .form value => formStep interpreter state value
  | .importFile record => importStep interpreter tenantId state record

/-- A call with imported files has a tenant. -/
def HasTenant (imports : List RawFileMetadata) (tenantId : Option PyStr) : Prop :=
  imports = [] ∨ ∃ tenant, tenantId = some tenant ∧ tenant ≠ []

theorem requireTenant_eq_ok
    {tenantId : Option PyStr}
    {tenant : PyStr} :
    requireTenant tenantId = .ok tenant ↔ tenantId = some tenant ∧ tenant ≠ [] := by
  simp only [requireTenant, ↓Checks.bind_done_eq_ok, Checks.bind_eq_ok, Checks.requireSome_eq_ok,
    Checks.require_eq_ok, Checks.pure_eq_ok]
  constructor
  · rintro ⟨_, isTenant, nonempty, rfl⟩
    exact ⟨isTenant, nonempty⟩
  · rintro ⟨isTenant, nonempty⟩
    exact ⟨tenant, isTenant, nonempty, rfl⟩

theorem collect_eq_ok
    {records forms : List PyJson}
    {imports : List RawFileMetadata}
    {tenantId : Option PyStr}
    {state : InboxState} :
    collect interpreter records forms imports tenantId = .ok state ↔
      HasTenant imports tenantId ∧
        (inputs records forms imports).foldlM (inputStep interpreter (tenantId.getD [])) {} =
          .ok state := by
  have recordLoop : (fun state value => inputStep interpreter (tenantId.getD []) state
      (.record value)) = recordStep interpreter := rfl
  have formLoop : (fun state value => inputStep interpreter (tenantId.getD []) state
      (.form value)) = formStep interpreter := rfl
  have importLoop : (fun state record => inputStep interpreter (tenantId.getD []) state
      (.importFile record)) = importStep interpreter (tenantId.getD []) := rfl
  simp only [collect, inputs, List.foldlM_append, List.foldlM_map, recordLoop, formLoop,
    importLoop, Checks.bind_eq_ok, bind_assoc]
  cases imports with
  | nil => simp [HasTenant]
  | cons record imports =>
      simp only [HasTenant, List.isEmpty_cons, Bool.false_eq_true, if_false, Checks.bind_eq_ok,
        requireTenant_eq_ok, reduceCtorEq, false_or]
      constructor
      · rintro ⟨first, isFirst, second, isSecond, tenant, ⟨rfl, nonempty⟩, isLast⟩
        exact ⟨⟨tenant, rfl, nonempty⟩, first, isFirst, second, isSecond, isLast⟩
      · rintro ⟨⟨tenant, rfl, nonempty⟩, first, isFirst, second, isSecond, isLast⟩
        exact ⟨first, isFirst, second, isSecond, tenant, ⟨rfl, nonempty⟩, isLast⟩

/-! ### Contributions -/

/-- What an input contributes. -/
structure Contribution where
  /-- The context of a record or a form. -/
  context : Option Context := none
  /-- The entries. -/
  exceptions : List ExceptionItem
  /-- The metric with a value. -/
  availableMetricIds : List PyStr := []
  /-- The id of a record. -/
  seenRecords : List PyStr := []
  /-- The id of an imported file. -/
  seenImports : List String := []

/-- The inputs of two contributions can be in one inbox. -/
structure Compatible (first second : Contribution) : Prop where
  context : ∀ left ∈ first.context, ∀ right ∈ second.context, left = right
  records : ∀ left ∈ first.seenRecords, ∀ right ∈ second.seenRecords, left ≠ right
  imports : ∀ left ∈ first.seenImports, ∀ right ∈ second.seenImports, left ≠ right

theorem Compatible.symm
    {first second : Contribution}
    (compatible : Compatible first second) : Compatible second first where
  context left isLeft right isRight := (compatible.context right isRight left isLeft).symm
  records left isLeft right isRight := (compatible.records right isRight left isLeft).symm
  imports left isLeft right isRight := (compatible.imports right isRight left isLeft).symm

/-- What the state has collected, as one contribution. -/
def InboxState.contribution (state : InboxState) : Contribution :=
  { state with }

/-- The state admits what is compatible with what it has. -/
def InboxState.Admits (state : InboxState) (part : Contribution) : Prop :=
  Compatible state.contribution part

/-- The state with a contribution. -/
def InboxState.add (state : InboxState) (part : Contribution) : InboxState where
  context := state.context.or part.context
  exceptions := state.exceptions ++ part.exceptions
  availableMetricIds := state.availableMetricIds ++ part.availableMetricIds
  seenRecords := state.seenRecords ++ part.seenRecords
  seenImports := state.seenImports ++ part.seenImports

/-- What an input contributes, if it is valid. -/
def Input.contribution (interpreter : Interpreter) (tenantId : PyStr) :
    Input → Result Contribution
  | .record value => do
      validateRecord interpreter value
      let record ← mappingOf value .uxJsonInvalid
      let exceptions ← (recordSources record).mapM (Source.exception interpreter)
      return {
        context := some (contextOf record)
        exceptions
        availableMetricIds := if (PyJson.get record "state").isText "VALID" then
          [textOf (PyJson.get record "metric_snapshot_id")] else []
        seenRecords := [textOf (PyJson.get record "report_record_id")] }
  | .form value => do
      validateConfigurationForm interpreter value
      let form ← mappingOf value .uxFormMalformed
      let exceptions ← (formSources form).mapM (Source.exception interpreter)
      return { context := some (contextOf form), exceptions }
  | .importFile file => do
      check (file.tenantId = tenantId) .uxInboxTenantMixed
      let exceptions ← (importSources file).mapM (Source.exception interpreter)
      return { exceptions, seenImports := [file.rawFileId] }

theorem ensureSameBusinessContext_eq_ok
    {context : Option Context}
    {candidate result : Context} :
    ensureSameBusinessContext context candidate = .ok result ↔
      (∀ present ∈ context, present = candidate) ∧ context.or (some candidate) = some result := by
  cases context with
  | none => simp [ensureSameBusinessContext]
  | some present =>
      obtain ⟨organizationId, mode, scenarioId⟩ := present
      obtain ⟨otherOrganization, otherMode, otherScenario⟩ := candidate
      simp only [ensureSameBusinessContext, ↓Checks.bind_done_eq_ok, Checks.require_eq_ok,
        Checks.pure_eq_ok, Option.mem_some_iff, forall_eq', Option.some_or, Option.some.injEq,
        Context.mk.injEq, and_assoc]

theorem InboxState.admits_add
    {state : InboxState}
    {first second : Contribution}
    (admitted : state.Admits first) :
    (state.add first).Admits second ↔ state.Admits second ∧ Compatible first second := by
  constructor
  · intro later
    refine ⟨⟨?_, ?_, ?_⟩, ?_, ?_, ?_⟩
    · intro left isLeft right isRight
      refine later.context left ?_ right isRight
      exact Option.or_eq_some_iff.mpr (.inl isLeft)
    · exact fun left isLeft => later.records left (List.mem_append_left _ isLeft)
    · exact fun left isLeft => later.imports left (List.mem_append_left _ isLeft)
    · intro left isLeft right isRight
      cases present : state.context with
      | none =>
          refine later.context left ?_ right isRight
          simpa [contribution, add, present] using isLeft
      | some context =>
          have same : context = left := admitted.context context present left isLeft
          refine same ▸ later.context context ?_ right isRight
          simp [contribution, add, present]
    · exact fun left isLeft => later.records left (List.mem_append_right _ isLeft)
    · exact fun left isLeft => later.imports left (List.mem_append_right _ isLeft)
  · rintro ⟨before, compatible⟩
    refine ⟨?_, ?_, ?_⟩
    · intro left isLeft right isRight
      rcases Option.or_eq_some_iff.mp isLeft with isBefore | ⟨-, isFirst⟩
      · exact before.context left isBefore right isRight
      · exact compatible.context left isFirst right isRight
    · intro left isLeft
      rcases List.mem_append.mp isLeft with isBefore | isFirst
      · exact before.records left isBefore
      · exact compatible.records left isFirst
    · intro left isLeft
      rcases List.mem_append.mp isLeft with isBefore | isFirst
      · exact before.imports left isBefore
      · exact compatible.imports left isFirst

/-- A loop body adds what an input contributes. -/
theorem inputStep_eq_ok
    {tenantId : PyStr}
    {state next : InboxState}
    {input : Input} :
    inputStep interpreter tenantId state input = .ok next ↔
      ∃ part, input.contribution interpreter tenantId = .ok part ∧ state.Admits part ∧
        state.add part = next := by
  cases input with
  | record value =>
      simp only [inputStep, recordStep, Input.contribution]
      simp only [↓Checks.bind_done_eq_ok, Checks.bind_eq_ok, Checks.require_eq_ok, Checks.pure_eq_ok,
        ensureSameBusinessContext_eq_ok]
      constructor
      · rintro ⟨valid, record, isRecord, unseen, context, ⟨same, isContext⟩, exceptions,
          isExceptions, rfl⟩
        refine ⟨_, ⟨valid, record, isRecord, exceptions, isExceptions, rfl⟩, ⟨?_, ?_, ?_⟩, ?_⟩
        · rintro left isLeft right ⟨⟩
          exact same left isLeft
        · rintro left isLeft right isRight rfl
          exact unseen (List.mem_singleton.mp isRight ▸ isLeft)
        · simp
        · simp [InboxState.add, isContext]
      · rintro ⟨_, ⟨valid, record, isRecord, exceptions, isExceptions, rfl⟩, admitted, rfl⟩
        refine ⟨valid, record, isRecord, fun seen => ?_, state.context.getD (contextOf record),
          ⟨fun present isPresent => admitted.context present isPresent _ rfl, ?_⟩, exceptions,
          isExceptions, ?_⟩
        · exact admitted.records _ seen _ (List.mem_singleton.mpr rfl) rfl
        · cases state.context <;> rfl
        · cases present : state.context <;> simp [InboxState.add, present]
  | form value =>
      simp only [inputStep, formStep, Input.contribution]
      simp only [↓Checks.bind_done_eq_ok, Checks.bind_eq_ok, Checks.pure_eq_ok, ensureSameBusinessContext_eq_ok]
      constructor
      · rintro ⟨valid, form, isForm, context, ⟨same, isContext⟩, exceptions, isExceptions, rfl⟩
        refine ⟨_, ⟨valid, form, isForm, exceptions, isExceptions, rfl⟩, ⟨?_, ?_, ?_⟩, ?_⟩
        · rintro left isLeft right ⟨⟩
          exact same left isLeft
        · simp
        · simp
        · simp [InboxState.add, isContext]
      · rintro ⟨_, ⟨valid, form, isForm, exceptions, isExceptions, rfl⟩, admitted, rfl⟩
        refine ⟨valid, form, isForm, state.context.getD (contextOf form),
          ⟨fun present isPresent => admitted.context present isPresent _ rfl, ?_⟩, exceptions,
          isExceptions, ?_⟩
        · cases state.context <;> rfl
        · cases present : state.context <;> simp [InboxState.add, present]
  | importFile file =>
      simp only [inputStep, importStep, Input.contribution]
      simp only [↓Checks.bind_done_eq_ok, Checks.bind_eq_ok, Checks.require_eq_ok, Checks.pure_eq_ok]
      constructor
      · rintro ⟨sameTenant, unseen, exceptions, isExceptions, rfl⟩
        refine ⟨_, ⟨sameTenant, exceptions, isExceptions, rfl⟩, ⟨?_, ?_, ?_⟩, ?_⟩
        · simp
        · simp
        · rintro left isLeft right isRight rfl
          exact unseen (List.mem_singleton.mp isRight ▸ isLeft)
        · simp [InboxState.add]
      · rintro ⟨_, ⟨sameTenant, exceptions, isExceptions, rfl⟩, admitted, rfl⟩
        refine ⟨sameTenant, fun seen => ?_, exceptions, isExceptions, ?_⟩
        · exact admitted.imports _ seen _ (List.mem_singleton.mpr rfl) rfl
        · simp [InboxState.add]

theorem adds_inputStep (interpreter : Interpreter) (tenantId : PyStr) :
    Collecting.Adds (inputStep interpreter tenantId) (Input.contribution interpreter tenantId)
      InboxState.Admits InboxState.add Compatible where
  step_eq_ok := inputStep_eq_ok
  admits_add := InboxState.admits_add

/-! ### Every order -/

/-- What the loops collect. -/
theorem foldl_add (parts : List Contribution) (state : InboxState) :
    parts.foldl InboxState.add state =
      { context := state.context.or (parts.filterMap Contribution.context).head?
        exceptions := state.exceptions ++ parts.flatMap Contribution.exceptions
        availableMetricIds := state.availableMetricIds ++
          parts.flatMap Contribution.availableMetricIds
        seenRecords := state.seenRecords ++ parts.flatMap Contribution.seenRecords
        seenImports := state.seenImports ++ parts.flatMap Contribution.seenImports } := by
  induction parts generalizing state with
  | nil => simp
  | cons part parts inductionHypothesis =>
      rw [List.foldl_cons, inductionHypothesis]
      cases isContext : part.context with
      | none => simp [InboxState.add, isContext]
      | some context => simp [InboxState.add, isContext]

/-- The context of compatible contributions is that of each of them. -/
theorem filterMap_context_eq_of_perm
    {parts others : List Contribution}
    (perm : parts.Perm others)
    (compatible : parts.Pairwise Compatible) :
    parts.filterMap Contribution.context = others.filterMap Contribution.context := by
  refine Collecting.eq_of_perm_of_pairwise_eq (perm.filterMap _) ?_
  rw [List.pairwise_filterMap]
  exact compatible.imp fun both left isLeft right isRight => both.context left isLeft right isRight

/-- The metrics are a set. -/
theorem sortedSet_eq_of_perm
    {ids others : List PyStr}
    (perm : ids.Perm others) : sortedSet ids = sortedSet others :=
  Collecting.insertionSort_eq_of_perm (List.Nodup.map PyStr.ords_injective ids.nodup_dedup)
    perm.dedup

theorem inputs_perm
    {records forms otherRecords otherForms : List PyJson}
    {imports otherImports : List RawFileMetadata}
    (recordPerm : records.Perm otherRecords)
    (formPerm : forms.Perm otherForms)
    (importPerm : imports.Perm otherImports) :
    (inputs records forms imports).Perm (inputs otherRecords otherForms otherImports) :=
  ((recordPerm.map _).append (formPerm.map _)).append (importPerm.map _)

/-- The id of a form that is valid at the boundary. -/
def boundaryFormId (form : PyJson) : Result PyStr := do
  validateConfigurationFormBoundary form
  return formId form

/-- The id of an imported file that is valid at the boundary. -/
def boundaryFileId (tenantId : PyStr) (record : RawFileMetadata) : Result String := do
  validateRawFileRecordBoundary record
  check (record.tenantId = tenantId) .uxInboxTenantMixed
  return record.rawFileId

theorem adds_boundaryFormStep :
    Collecting.Adds boundaryFormStep boundaryFormId (fun seen part => part ∉ seen)
      (fun seen part => seen ++ [part]) (· ≠ ·) := by
  refine Collecting.adds_unseen fun seen form next => ?_
  simp only [boundaryFormStep, boundaryFormId]
  simp only [↓Checks.bind_done_eq_ok, Checks.require_eq_ok, Checks.pure_eq_ok]
  constructor
  · rintro ⟨valid, unseen, rfl⟩
    exact ⟨_, ⟨valid, rfl⟩, unseen, rfl⟩
  · rintro ⟨_, ⟨valid, rfl⟩, unseen, rfl⟩
    exact ⟨valid, unseen, rfl⟩

theorem adds_boundaryImportStep (tenantId : PyStr) :
    Collecting.Adds (boundaryImportStep tenantId) (boundaryFileId tenantId)
      (fun seen part => part ∉ seen) (fun seen part => seen ++ [part]) (· ≠ ·) := by
  refine Collecting.adds_unseen fun seen record next => ?_
  simp only [boundaryImportStep, boundaryFileId]
  simp only [↓Checks.bind_done_eq_ok, Checks.require_eq_ok, Checks.pure_eq_ok]
  constructor
  · rintro ⟨valid, sameTenant, unseen, rfl⟩
    exact ⟨_, ⟨valid, sameTenant, rfl⟩, unseen, rfl⟩
  · rintro ⟨_, ⟨valid, sameTenant, rfl⟩, unseen, rfl⟩
    exact ⟨valid, sameTenant, unseen, rfl⟩

/-- The boundary accepts imported files in any order. -/
theorem validateImportCollectionBoundary_of_perm
    {imports others : List RawFileMetadata}
    {tenantId : Option PyStr}
    (perm : imports.Perm others)
    (valid : validateImportCollectionBoundary imports tenantId = .ok ()) :
    validateImportCollectionBoundary others tenantId = .ok () := by
  simp only [validateImportCollectionBoundary, perm.isEmpty_eq] at valid ⊢
  split at valid
  next isEmpty => rw [if_pos isEmpty]; rfl
  next nonempty =>
    rw [if_neg nonempty]
    simp only [Checks.bind_eq_ok, Checks.pure_eq_ok] at valid ⊢
    obtain ⟨tenant, isTenant, seen, collected, -⟩ := valid
    obtain ⟨-, otherParts, -, -, -, -, otherCollected⟩ :=
      (adds_boundaryImportStep tenant).foldlM_of_perm Ne.symm perm collected
    exact ⟨tenant, isTenant, _, otherCollected, trivial⟩

theorem sealInbox_exceptions
    {tenantId : Option PyStr}
    {generatedAt : GeneratedAt}
    {context : Option Context}
    {exceptions : List ExceptionItem}
    {availableMetricIds : List PyStr}
    {inbox : ExceptionInbox}
    (sealed : sealInbox interpreter tenantId generatedAt context exceptions availableMetricIds =
      .ok inbox) : inbox.exceptions = exceptions := by
  simp only [sealInbox, Checks.bind_eq_ok, Checks.pure_eq_ok] at sealed
  obtain ⟨-, -, -, -, rfl⟩ := sealed
  rfl

section Built

variable {records forms : List PyJson} {imports : List RawFileMetadata} {tenantId : Option PyStr}
  {generatedAt : GeneratedAt} {inbox : ExceptionInbox}

/-- What an accepted call consists of. -/
theorem buildExceptionInbox_eq_ok :
    buildExceptionInbox interpreter records forms imports tenantId generatedAt = .ok inbox ↔
      tenantId ≠ some [] ∧ isStrictRfc3339 (rendered generatedAt) = true ∧
        (∃ seen, forms.foldlM boundaryFormStep [] = .ok seen) ∧
        validateImportCollectionBoundary imports tenantId = .ok () ∧
        ∃ state, collect interpreter records forms imports tenantId = .ok state ∧
          ¬(state.context = none ∧ imports.isEmpty = true) ∧
          sealInbox interpreter tenantId generatedAt state.context
            (sortExceptions state.exceptions) (sortedSet state.availableMetricIds) =
            .ok inbox := by
  simp only [buildExceptionInbox, buildRuntimeInbox]
  simp only [↓Checks.bind_done_eq_ok, Checks.bind_eq_ok, Checks.require_eq_ok, exists_and_right]

/-- When the ids differ, the inbox does not depend on the order of the inputs. -/
theorem buildExceptionInbox_of_perm
    (built : buildExceptionInbox interpreter records forms imports tenantId generatedAt =
      .ok inbox)
    (distinct : (inbox.exceptions.map ExceptionItem.exceptionId).Nodup)
    {otherRecords otherForms : List PyJson}
    {otherImports : List RawFileMetadata}
    (recordPerm : records.Perm otherRecords)
    (formPerm : forms.Perm otherForms)
    (importPerm : imports.Perm otherImports) :
    buildExceptionInbox interpreter otherRecords otherForms otherImports tenantId generatedAt =
      .ok inbox := by
  obtain ⟨tenant, time, ⟨seen, formsSeen⟩, boundary, state, collected, nonempty, isSealed⟩ :=
    buildExceptionInbox_eq_ok.mp built
  obtain ⟨hasTenant, loop⟩ := collect_eq_ok.mp collected
  obtain ⟨-, otherSeen, -, -, -, -, otherFormsSeen⟩ :=
    adds_boundaryFormStep.foldlM_of_perm Ne.symm formPerm formsSeen
  obtain ⟨parts, otherParts, -, partsPerm, compatible, rfl, otherLoop⟩ :=
    (adds_inputStep interpreter (tenantId.getD [])).foldlM_of_perm Compatible.symm
      (inputs_perm recordPerm formPerm importPerm) loop
  have otherTenant : HasTenant otherImports tenantId := by
    refine hasTenant.imp_left fun isEmpty => ?_
    exact (isEmpty ▸ importPerm).symm.eq_nil
  have contexts := filterMap_context_eq_of_perm partsPerm compatible
  have metrics := sortedSet_eq_of_perm (partsPerm.flatMap_right Contribution.availableMetricIds)
  rw [sealInbox_exceptions isSealed] at distinct
  rw [foldl_add] at nonempty isSealed distinct otherLoop
  have exceptions : sortExceptions (parts.flatMap Contribution.exceptions) =
      sortExceptions (otherParts.flatMap Contribution.exceptions) := by
    refine Collecting.insertionSort_eq_of_perm ?_
      (partsPerm.flatMap_right Contribution.exceptions)
    exact (((List.perm_insertionSort _ _).map _).nodup_iff).mp distinct
  refine buildExceptionInbox_eq_ok.mpr ⟨tenant, time, ⟨_, otherFormsSeen⟩,
    validateImportCollectionBoundary_of_perm importPerm boundary, _,
    collect_eq_ok.mpr ⟨otherTenant, otherLoop⟩, ?_, ?_⟩
  · rw [← contexts, ← importPerm.isEmpty_eq]
    exact nonempty
  · simp only [List.nil_append] at isSealed ⊢
    rw [← contexts, ← metrics, ← exceptions]
    exact isSealed

end Built

end Ux
end QuantumAnalytics
