import QuantumAnalytics.Foundations.IsolatedCalls
import QuantumAnalytics.Ingestion.Lifecycle

/-!
# Isolation of tenants in the raw storage

The files of a tenant lie under its token, and so do the files that its calls read and
write. What is stored, moved, read or inspected under other tokens is invisible to it.
-/

namespace QuantumAnalytics

/-- What a call of `LocalRawStorage` or of `CsvSchemaGate` returns or raises. -/
inductive LifecycleOutcome
  | record (result : Except StorageFailure RawFileMetadata)
  | content (result : Except StorageFailure PyBytes)
  | inspection (result : Except StorageFailure InspectionResult)

/-- The tenant that makes a call. -/
def LifecycleCall.tenant : LifecycleCall → TenantContext
  | .store tenant _ _ => tenant
  | .transition tenant _ _ _ => tenant
  | .read tenant _ => tenant
  | .inspect tenant _ => tenant

/-- The directory of the tenant that makes a call. -/
def LifecycleCall.token (call : LifecycleCall) : String := LocalRawStorage.tenantToken call.tenant

namespace RawFiles

open LocalRawStorage (tenantToken)
open OwnedSystem (Inside)

variable {library : ReaderLibrary} {interpreter : Interpreter} {files : RawFiles}
  {tenant : TenantContext} {token : String}

/-- The files of a directory. -/
def ofToken (token : String) (files : RawFiles) : RawFiles where
  metadata := files.metadata.filterKeys fun key => key.1 = token
  content := files.content.filterKeys fun key => key.1 = token

/-! ### What a tenant reads -/

@[simp] theorem get?_metadata_ofToken (rawFileId : String) :
    (files.ofToken (tenantToken tenant)).metadata.get? (metadataKey tenant rawFileId) =
      files.metadata.get? (metadataKey tenant rawFileId) :=
  Dict.get?_filterKeys (by simp [metadataKey])

@[simp] theorem get?_content_ofToken (digest : String) :
    (files.ofToken token).content.get? (token, digest) = files.content.get? (token, digest) :=
  Dict.get?_filterKeys (by simp)

@[simp] theorem getRecord_ofToken (rawFileId : String) :
    (files.ofToken (tenantToken tenant)).getRecord interpreter tenant rawFileId =
      files.getRecord interpreter tenant rawFileId := by
  simp only [getRecord, get?_metadata_ofToken]

@[simp] theorem read_ofToken (rawFileId : String) :
    (files.ofToken (tenantToken tenant)).read interpreter tenant rawFileId =
      files.read interpreter tenant rawFileId := by
  simp only [read, getRecord_ofToken, get?_content_ofToken]

/-! ### What a tenant writes -/

theorem writeRecord_ofToken (record : RawFileMetadata) :
    (files.ofToken (tenantToken tenant)).writeRecord interpreter tenant record =
      (files.writeRecord interpreter tenant record).map (ofToken (tenantToken tenant)) := by
  unfold writeRecord
  cases (recordPayload interpreter record).mapError writeFailure with
  | error failure => rfl
  | ok payload =>
      refine congrArg Except.ok ?_
      simp [ofToken, metadataKey, Dict.filterKeys_set_of_kept]

theorem ofToken_writeRecord
    {record : RawFileMetadata}
    {after : RawFiles}
    (different : tenantToken tenant ≠ token)
    (written : files.writeRecord interpreter tenant record = .ok after) :
    after.ofToken token = files.ofToken token := by
  simp only [writeRecord, Checks.bind_eq_ok, Checks.pure_eq_ok] at written
  obtain ⟨payload, -, rfl⟩ := written
  simp [ofToken, metadataKey, Dict.filterKeys_set_of_not_kept, different]

theorem storeContent_ofToken (digest : String) (payload : PyBytes) :
    (files.ofToken (tenantToken tenant)).storeContent tenant digest payload =
      (files.storeContent tenant digest payload).map (ofToken (tenantToken tenant)) := by
  unfold storeContent
  dsimp only
  rw [get?_content_ofToken]
  cases files.content.get? (tenantToken tenant, digest) with
  | some existing =>
      dsimp only
      rw [Checks.map_bind]
      rfl
  | none =>
      refine congrArg Except.ok ?_
      simp [ofToken, Dict.filterKeys_set_of_kept]

theorem ofToken_storeContent
    {digest : String}
    {payload : PyBytes}
    {after : RawFiles}
    (different : tenantToken tenant ≠ token)
    (stored : files.storeContent tenant digest payload = .ok after) :
    after.ofToken token = files.ofToken token := by
  unfold storeContent at stored
  dsimp only at stored
  split at stored
  next =>
    simp only [Checks.bind_done_eq_ok, Checks.pure_eq_ok] at stored
    rw [stored.2]
  next =>
    obtain rfl := Except.ok.inj stored
    simp [ofToken, Dict.filterKeys_set_of_not_kept, different]

/-! ### Transitions -/

/-- The files beside a result are those of a directory. -/
abbrev keeping {α : Type} (token : String) (outcome : α × RawFiles) : α × RawFiles :=
  (outcome.1, outcome.2.ofToken token)

theorem transitionTo_ofToken
    (rawFileId : String)
    (state : RawFileState)
    (description : StatePayload) :
    (files.ofToken (tenantToken tenant)).transitionTo interpreter tenant rawFileId state
        description =
      (files.transitionTo interpreter tenant rawFileId state description).map
        (keeping (tenantToken tenant)) := by
  simp only [transitionTo, getRecord_ofToken, writeRecord_ofToken, Checks.map_bind]
  refine bind_congr fun current => bind_congr fun _ => bind_congr fun _ => ?_
  cases files.writeRecord interpreter tenant (current.withState state description) <;> rfl

theorem ofToken_transitionTo
    {rawFileId : String}
    {state : RawFileState}
    {description : StatePayload}
    {record : RawFileMetadata}
    {after : RawFiles}
    (different : tenantToken tenant ≠ token)
    (moved : files.transitionTo interpreter tenant rawFileId state description =
      .ok (record, after)) : after.ofToken token = files.ofToken token := by
  simp only [transitionTo, Checks.bind_eq_ok, Checks.pure_eq_ok, Prod.mk.injEq] at moved
  obtain ⟨current, -, -, -, -, -, written, isWritten, -, rfl⟩ := moved
  exact ofToken_writeRecord different isWritten

theorem transition_eq_transitionTo
    (rawFileId : String)
    (state : RawFileState)
    (description : TransitionPayload) :
    files.transition interpreter tenant rawFileId state description =
      files.transitionTo interpreter tenant rawFileId state description.stored := rfl

/-! ### Inspections -/

theorem attempt_ofToken (rawFileId : String) :
    (files.ofToken (tenantToken tenant)).attempt library interpreter tenant rawFileId =
      (files.attempt library interpreter tenant rawFileId).map (keeping (tenantToken tenant)) := by
  simp only [attempt, read_ofToken, transition_eq_transitionTo, transitionTo_ofToken,
    Checks.map_bind]
  refine bind_congr fun content => bind_congr fun verdict => ?_
  cases files.transitionTo interpreter tenant rawFileId verdict.1 verdict.2.1.stored <;> rfl

theorem ofToken_attempt
    {rawFileId : String}
    {result : InspectionResult}
    {after : RawFiles}
    (different : tenantToken tenant ≠ token)
    (attempted : files.attempt library interpreter tenant rawFileId = .ok (result, after)) :
    after.ofToken token = files.ofToken token := by
  simp only [attempt, transition_eq_transitionTo, Checks.bind_eq_ok, Checks.pure_eq_ok,
    Prod.mk.injEq] at attempted
  obtain ⟨content, -, verdict, -, ⟨record, next⟩, moved, -, rfl⟩ := attempted
  exact ofToken_transitionTo different moved

theorem inside_check (rawFileId : String) :
    Inside (ofToken (tenantToken tenant))
      ((files.ofToken (tenantToken tenant)).check library interpreter tenant rawFileId)
      (files.check library interpreter tenant rawFileId) := by
  unfold check
  rw [attempt_ofToken]
  cases files.attempt library interpreter tenant rawFileId with
  | ok attempted => exact .refl _ _
  | error failure =>
      simp only [Except.map]
      cases failure.diagnostic? with
      | none => exact .refl _ _
      | some diagnostic =>
          dsimp only
          rw [transition_eq_transitionTo, transition_eq_transitionTo, transitionTo_ofToken]
          cases files.transitionTo interpreter tenant rawFileId .rejected _ with
          | error later => exact .refl _ _
          | ok moved => exact .refl _ _

theorem ofToken_check
    (different : tenantToken tenant ≠ token)
    (rawFileId : String) :
    (files.check library interpreter tenant rawFileId).2.ofToken token = files.ofToken token := by
  unfold check
  split
  next result after attempted => exact ofToken_attempt different attempted
  next =>
    split
    next => rfl
    next =>
      split
      next => rfl
      next record after moved => exact ofToken_transitionTo different moved

theorem inside_inspect (rawFileId : String) :
    Inside (ofToken (tenantToken tenant))
      ((files.ofToken (tenantToken tenant)).inspect library interpreter tenant rawFileId)
      (files.inspect library interpreter tenant rawFileId) := by
  unfold inspect
  rw [getRecord_ofToken]
  cases files.getRecord interpreter tenant rawFileId with
  | error failure => exact .refl _ _
  | ok current =>
      dsimp only
      cases current.state with
      | received =>
          dsimp only
          rw [transition_eq_transitionTo, transition_eq_transitionTo, transitionTo_ofToken]
          cases files.transitionTo interpreter tenant rawFileId .validating _ with
          | error failure => exact .refl _ _
          | ok moved => exact inside_check rawFileId
      | validating => exact inside_check rawFileId
      | valid => exact .refl _ _
      | quarantined => exact .refl _ _
      | rejected => exact .refl _ _

theorem ofToken_inspect
    (different : tenantToken tenant ≠ token)
    (rawFileId : String) :
    (files.inspect library interpreter tenant rawFileId).2.ofToken token = files.ofToken token := by
  unfold inspect
  split
  next => rfl
  next =>
    split
    next =>
      split
      next => rfl
      next record started moved =>
        exact (ofToken_check different rawFileId).trans (ofToken_transitionTo different moved)
    next => exact ofToken_check different rawFileId
    next => rfl

/-! ### Uploads -/

theorem inside_store (receipt : UploadReceipt) (payload : PyBytes) :
    Inside (ofToken (tenantToken tenant))
      ((files.ofToken (tenantToken tenant)).store interpreter tenant receipt payload)
      (files.store interpreter tenant receipt payload) := by
  unfold store
  cases checkUpload tenant receipt payload with
  | error failure => exact .refl _ _
  | ok upload =>
      obtain ⟨rawFileId, digest⟩ := upload
      dsimp only
      rw [get?_metadata_ofToken]
      cases files.metadata.get? (metadataKey tenant rawFileId) with
      | some metadata =>
          have again : (files.ofToken (tenantToken tenant)).storeAgain interpreter tenant receipt
              payload rawFileId digest metadata =
              (files.storeAgain interpreter tenant receipt payload rawFileId digest metadata).map
                (keeping (tenantToken tenant)) := by
            simp only [storeAgain, storeContent_ofToken, Checks.map_bind]
            refine bind_congr fun existing => bind_congr fun _ => ?_
            cases files.storeContent tenant digest payload <;> rfl
          dsimp only
          rw [again]
          cases files.storeAgain interpreter tenant receipt payload rawFileId digest metadata with
          | error failure => exact .refl _ _
          | ok stored => exact .refl _ _
      | none =>
          dsimp only
          rw [storeContent_ofToken]
          cases files.storeContent tenant digest payload with
          | error failure => exact .refl _ _
          | ok stored =>
              simp only [Except.map, writeRecord_ofToken]
              cases stored.writeRecord interpreter tenant
                (receivedRecord tenant receipt rawFileId digest payload) with
              | error failure => exact .refl _ _
              | ok after => exact .refl _ _

theorem ofToken_store
    (different : tenantToken tenant ≠ token)
    (receipt : UploadReceipt)
    (payload : PyBytes) :
    (files.store interpreter tenant receipt payload).2.ofToken token = files.ofToken token := by
  unfold store
  split
  next => rfl
  next =>
    split
    next =>
      split
      next => rfl
      next existing after again =>
        simp only [storeAgain, Checks.bind_eq_ok, Checks.pure_eq_ok, Prod.mk.injEq] at again
        obtain ⟨_, -, -, -, _, stored, -, rfl⟩ := again
        exact ofToken_storeContent different stored
    next =>
      split
      next => rfl
      next stored isStored =>
        have kept := ofToken_storeContent different isStored
        dsimp only
        split
        next => exact kept
        next after isWritten => exact (ofToken_writeRecord different isWritten).trans kept

/-! ### Calls -/

/-- A call, with the files after it. -/
def performLifecycle (library : ReaderLibrary) (interpreter : Interpreter) (files : RawFiles) :
    LifecycleCall → LifecycleOutcome × RawFiles
  | .store tenant receipt payload =>
      let (result, after) := files.store interpreter tenant receipt payload
      (.record result, after)
  | .transition tenant rawFileId state description =>
      match files.transitionTo interpreter tenant rawFileId state description.toStatePayload with
      | .error failure => (.record (.error failure), files)
      | .ok (record, after) => (.record (.ok record), after)
  | .read tenant rawFileId => (.content (files.read interpreter tenant rawFileId), files)
  | .inspect tenant rawFileId =>
      let (result, after) := files.inspect library interpreter tenant rawFileId
      (.inspection result, after)

/-- The storage as a system whose calls belong to directories. -/
def callSystem (library : ReaderLibrary) (interpreter : Interpreter) :
    OwnedSystem RawFiles LifecycleCall LifecycleOutcome String where
  step files call := files.performLifecycle library interpreter call
  owner := LifecycleCall.token

/-- The system runs as the storage does. -/
theorem callSystem_run
    (library : ReaderLibrary)
    (interpreter : Interpreter)
    (calls : List LifecycleCall) :
    (callSystem library interpreter).run empty calls = afterCalls library interpreter calls := by
  have step : (fun (files : RawFiles) call =>
      ((callSystem library interpreter).step files call).2) = afterCall library interpreter := by
    funext files call
    cases call with
    | store tenant receipt payload => rfl
    | transition tenant rawFileId state description =>
        simp only [callSystem, performLifecycle, afterCall]
        cases files.transitionTo interpreter tenant rawFileId state
          description.toStatePayload <;> rfl
    | read tenant rawFileId => rfl
    | inspect tenant rawFileId => rfl
  rw [OwnedSystem.run, step, afterCalls]

/-- A call of a tenant in its directory. -/
theorem inside_perform
    (library : ReaderLibrary)
    (interpreter : Interpreter)
    (files : RawFiles)
    (call : LifecycleCall) :
    Inside (ofToken call.token) ((files.ofToken call.token).performLifecycle library interpreter
      call) (files.performLifecycle library interpreter call) := by
  cases call with
  | store tenant receipt payload => exact (inside_store receipt payload).map LifecycleOutcome.record
  | transition tenant rawFileId state description =>
      have moved := @transitionTo_ofToken interpreter files tenant rawFileId state
        description.toStatePayload
      simp only [performLifecycle, LifecycleCall.token, LifecycleCall.tenant, moved]
      cases files.transitionTo interpreter tenant rawFileId state description.toStatePayload with
      | error failure => exact .refl _ _
      | ok moved => exact .refl _ _
  | read tenant rawFileId => exact ⟨congrArg LifecycleOutcome.content (read_ofToken rawFileId), rfl⟩
  | inspect tenant rawFileId => exact (inside_inspect rawFileId).map LifecycleOutcome.inspection

/-- A call of another tenant leaves the directory of a tenant alone. -/
theorem ofToken_perform
    (library : ReaderLibrary)
    (interpreter : Interpreter)
    (files : RawFiles)
    (call : LifecycleCall)
    (different : call.token ≠ token) :
    (files.performLifecycle library interpreter call).2.ofToken token = files.ofToken token := by
  cases call with
  | store tenant receipt payload => exact ofToken_store different receipt payload
  | transition tenant rawFileId state description =>
      rw [performLifecycle]
      split
      next => rfl
      next record after moved => exact ofToken_transitionTo different moved
  | read tenant rawFileId => rfl
  | inspect tenant rawFileId => exact ofToken_inspect different rawFileId

/-- A directory isolates its tenant. -/
theorem isolates_ofToken
    (library : ReaderLibrary)
    (interpreter : Interpreter)
    (token : String) : (callSystem library interpreter).Isolates token (ofToken token) := by
  apply OwnedSystem.isolates_of_inside
  · rintro files call rfl
    exact inside_perform library interpreter files call
  · exact ofToken_perform library interpreter

/-- Two storages answer every query of a tenant alike. -/
structure SameAnswers (interpreter : Interpreter) (tenant : TenantContext)
    (left right : RawFiles) : Prop where
  getRecord : ∀ rawFileId,
    left.getRecord interpreter tenant rawFileId = right.getRecord interpreter tenant rawFileId
  read : ∀ rawFileId,
    left.read interpreter tenant rawFileId = right.read interpreter tenant rawFileId

/-- Two runs with the same calls in the directory of a tenant, whatever is stored, moved,
read or inspected in other directories in between, give these calls the same outcomes
and answer the tenant's queries alike. -/
theorem storage_noninterference
    (library : ReaderLibrary)
    (interpreter : Interpreter)
    (tenant : TenantContext)
    {left right : List LifecycleCall}
    (same : (callSystem library interpreter).callsOf (tenantToken tenant) left =
      (callSystem library interpreter).callsOf (tenantToken tenant) right) :
    (callSystem library interpreter).outcomes (tenantToken tenant) empty left =
        (callSystem library interpreter).outcomes (tenantToken tenant) empty right ∧
      SameAnswers interpreter tenant (afterCalls library interpreter left)
        (afterCalls library interpreter right) := by
  obtain ⟨outcomes, parts⟩ :=
    (isolates_ofToken library interpreter (tenantToken tenant)).noninterference empty same
  rw [callSystem_run, callSystem_run] at parts
  refine ⟨outcomes, fun rawFileId => ?_, fun rawFileId => ?_⟩
  · rw [← getRecord_ofToken, parts, getRecord_ofToken]
  · rw [← read_ofToken, parts, read_ofToken]

theorem otherTenantId_nonempty : "other" ≠ "" := by decide

/-- A tenant with another directory. -/
def otherTenant : TenantContext := ⟨"other", otherTenantId_nonempty⟩

/-- An upload of the letter by another tenant. -/
def otherUpload : LifecycleCall :=
  .store otherTenant { letterReceipt with tenantId := "other" } letterBytes

/-- That another tenant stored the letter under the same id before is invisible. -/
theorem storage_noninterference_letter :
    (callSystem plainLibrary ⟨1000, by decide⟩).outcomes (tenantToken gateTenant) empty
        [.store gateTenant letterReceipt letterBytes] =
      (callSystem plainLibrary ⟨1000, by decide⟩).outcomes (tenantToken gateTenant) empty
        [otherUpload, .store gateTenant letterReceipt letterBytes] := by
  have different : tenantToken otherTenant ≠ tenantToken gateTenant := by decide +kernel
  refine (storage_noninterference plainLibrary _ gateTenant ?_).1
  simp [OwnedSystem.callsOf, callSystem, LifecycleCall.token, LifecycleCall.tenant, otherUpload,
    different]

end RawFiles
end QuantumAnalytics
