import QuantumAnalytics.Foundations.Correspondence
import QuantumAnalytics.Ingestion.Lifecycle

/-!
# The storage of records

An import and the schema gate are told on a storage that keeps records. The files keep
bytes, which every call decodes and encodes again. After any uploads and inspections the
files represent such a storage, and every call does on the bytes what it does on the
records.
-/

namespace QuantumAnalytics

/-- A record as a metadata file holds it. -/
def RawFileRecord.stored (record : RawFileRecord) (sanitizedFilename : String) :
    RawFileMetadata where
  schemaId := record.schemaId.map PyStr.ofString
  structuralFingerprint := record.structuralFingerprint.map PyJson.ofObject
  semanticFingerprint := record.semanticFingerprint.map PyJson.ofObject
  diagnostics := record.diagnostics.map PyStr.ofString
  rawFileId := record.rawFileId
  tenantId := PyStr.ofString record.tenantId
  sha256 := record.sha256
  sizeBytes := record.sizeBytes
  sanitizedFilename := sanitizedFilename
  storageKey := canonicalStorageKey (PyStr.ofString record.tenantId) record.sha256
  state := record.state

/-- The rules for the payload of a state are the same for texts and for Python's strings. -/
theorem isValidFor_stored
    (description : TransitionPayload)
    (state : RawFileState) :
    description.stored.isValidFor state = description.isValidFor state := by
  have isEmpty : ∀ text : String, PyStr.ofString text = [] ↔ text = "" := fun text =>
    ⟨fun isEmpty => PyStr.ofString_injective isEmpty, fun isEmpty => isEmpty ▸ rfl⟩
  have named : (description.schemaId.map PyStr.ofString).any (fun text => !decide (text = [])) =
      description.schemaId.any fun text => !decide (text = "") := by
    cases description.schemaId with
    | none => rfl
    | some schemaId => simp [isEmpty]
  cases state <;>
    simp [StatePayload.isValidFor, TransitionPayload.isValidFor, TransitionPayload.stored, named]

namespace RawFiles

open LocalRawStorage (tenantToken)

/-- A record of the files is a record of the storage. -/
def IsRecord (metadata : RawFileMetadata) (record : RawFileRecord) : Prop :=
  ∃ sanitizedFilename, metadata = record.stored sanitizedFilename ∧ Steady metadata

/-- A metadata file holds a record. -/
def HoldsRecord (interpreter : Interpreter) (payload : List UInt8)
    (decoded : Option RawFileRecord) : Prop :=
  ∃ metadata record, recordFromPayload interpreter payload = .ok metadata ∧
    decoded = some record ∧ IsRecord metadata record

/-- The files hold the records and the contents of a storage. -/
structure Represents (interpreter : Interpreter) (files : RawFiles) (storage : LocalRawStorage) :
    Prop where
  metadata : ∀ key,
    Option.Rel (HoldsRecord interpreter) (files.metadata.get? key) (storage.metadata.get? key)
  content : ∀ key, storage.content.get? key = (files.content.get? key).map PyBytes.bytes

variable {interpreter : Interpreter} {library : ReaderLibrary} {files : RawFiles}
  {storage : LocalRawStorage} {tenant : TenantContext} {rawFileId : String}
  {state : RawFileState} {description : TransitionPayload}

/-- A new root represents a storage without records. -/
theorem represents_empty (interpreter : Interpreter) :
    Represents interpreter empty ⟨Dict.empty, Dict.empty⟩ where
  metadata key := by
    rw [empty, Dict.get?_empty, Dict.get?_empty]
    exact .none
  content key := by
    rw [empty, Dict.get?_empty, Dict.get?_empty]
    rfl

/-- A metadata file and the record that it holds are written. -/
theorem Represents.set
    {payload : List UInt8}
    {record : RawFileRecord}
    (represents : Represents interpreter files storage)
    (holds : HoldsRecord interpreter payload (some record))
    (key : String × String) :
    Represents interpreter { files with metadata := files.metadata.set key payload }
      { storage with metadata := storage.metadata.set key (some record) } where
  metadata other := by
    by_cases same : other = key
    · subst same
      rw [Dict.get?_set_self, Dict.get?_set_self]
      exact .some holds
    · rw [Dict.get?_set_of_ne _ same, Dict.get?_set_of_ne _ same]
      exact represents.metadata other
  content := represents.content

/-! ### Reading -/

/-- The files and the storage find the same record, or raise the same code. -/
theorem corresponds_getRecord
    (represents : Represents interpreter files storage)
    (tenant : TenantContext)
    (rawFileId : String) :
    Corresponds StorageFailure.storage IsRecord (files.getRecord interpreter tenant rawFileId)
      (storage.getRecord tenant rawFileId) := by
  unfold getRecord LocalRawStorage.getRecord
  cases PyText.canonicalUuid? rawFileId with
  | none => exact .error _
  | some normalizedId =>
      have found := represents.metadata (metadataKey tenant normalizedId)
      simp only [requireSome, Checks.ok_bind, metadataKey] at found ⊢
      generalize files.metadata.get? (tenantToken tenant, normalizedId) = payload at found ⊢
      generalize storage.metadata.get? (tenantToken tenant, normalizedId) = decoded at found ⊢
      cases found with
      | none => exact .error _
      | some holds =>
          obtain ⟨metadata, record, isRead, rfl, sanitizedFilename, rfl, steady⟩ := holds
          simp only [Checks.ok_bind, isRead, Except.mapError]
          refine .bind (.require ⟨fun same => PyStr.ofString_injective same,
            congrArg PyStr.ofString⟩ _) fun _ _ _ => ?_
          refine .bind (.require Iff.rfl _) fun _ _ _ => ?_
          exact .ok ⟨sanitizedFilename, rfl, steady⟩

/-- The files and the storage read the same bytes, or raise the same code. -/
theorem corresponds_read
    (represents : Represents interpreter files storage)
    (tenant : TenantContext)
    (rawFileId : String) :
    Corresponds StorageFailure.storage (fun content payload => content.bytes = payload)
      (files.read interpreter tenant rawFileId) (storage.read tenant rawFileId) := by
  refine .bind (corresponds_getRecord represents tenant rawFileId) ?_
  rintro _ record ⟨sanitizedFilename, rfl, -⟩
  have found := represents.content (tenantToken tenant, record.sha256)
  dsimp only [RawFileRecord.stored]
  rw [found]
  cases files.content.get? (tenantToken tenant, record.sha256) with
  | none => exact .error _
  | some content =>
      simp only [requireSome, Checks.ok_bind, Option.map_some]
      refine .bind (.require ?_ _) fun _ _ _ => .ok rfl
      exact and_congr_left' Int.ofNat_inj

/-! ### Transitions -/

/-- A result of the files is one of the storage, and the files after it represent the
storage after it. -/
def SameAfter (interpreter : Interpreter) (left : RawFileMetadata × RawFiles)
    (right : RawFileRecord × LocalRawStorage) : Prop :=
  IsRecord left.1 right.1 ∧ Represents interpreter left.2 right.2

/-- A transition is made in the files and in the storage, or raises the same code. -/
theorem corresponds_transition
    (represents : Represents interpreter files storage)
    (codable : description.Codable)
    (tenant : TenantContext)
    (rawFileId : String)
    (state : RawFileState) :
    Corresponds StorageFailure.storage (SameAfter interpreter)
      (files.transition interpreter tenant rawFileId state description)
      (storage.transition tenant rawFileId state description) := by
  refine .bind (corresponds_getRecord represents tenant rawFileId) ?_
  rintro _ record ⟨sanitizedFilename, rfl, steady⟩
  refine .bind (.require Iff.rfl _) fun _ _ _ => ?_
  rw [isValidFor_stored]
  by_cases valid : description.isValidFor state = true
  · have isStored : description.stored.isValidFor state = true :=
      (isValidFor_stored description state).trans valid
    obtain ⟨payload, isWritten, isRead⟩ := @exists_recordPayload interpreter _
      (storable_moved steady.sound steady.sizeBytes steady.tenantId isStored codable)
    have moved : IsRecord ((record.stored sanitizedFilename).moved state description)
        (record.moved state description) :=
      ⟨sanitizedFilename, rfl, steady.moved isStored codable⟩
    simp only [require, if_pos valid, Checks.ok_bind, writeRecord, isWritten, Except.mapError]
    exact .ok ⟨moved, represents.set ⟨_, _, isRead, rfl, moved⟩ _⟩
  · simp only [require, if_neg valid, Checks.error_bind]
    exact .error _

/-! ### Inspections -/

/-- What an inspection returns of the files and of the storage. -/
def SameResult (left : InspectionResult) (right : SchemaGateResult) : Prop :=
  IsRecord left.record right.record ∧ left.detection = right.detection

/-- The outcomes of an inspection correspond, and the files after it represent the storage
after it. -/
structure SameOutcome (interpreter : Interpreter)
    (left : Except StorageFailure InspectionResult × RawFiles)
    (right : Except RawStorageErrorCode SchemaGateResult × LocalRawStorage) : Prop where
  result : Corresponds StorageFailure.storage SameResult left.1 right.1
  after : Represents interpreter left.2 right.2

/-- The outcome of an inspection whose last transition rejects the file. -/
def rejection (files : RawFiles) :
    Except StorageFailure (RawFileMetadata × RawFiles) →
      Except StorageFailure InspectionResult × RawFiles
  | .error later => (.error later, files)
  | .ok (record, after) => (.ok ⟨record, none⟩, after)

/-- A file is rejected in the files as in the storage. -/
theorem sameOutcome_reject
    (represents : Represents interpreter files storage)
    (tenant : TenantContext)
    (rawFileId diagnostic : String) :
    SameOutcome interpreter
      (files.rejection (files.transition interpreter tenant rawFileId .rejected
        { diagnostics := [diagnostic] }))
      (storage.reject tenant rawFileId diagnostic) := by
  have moved := corresponds_transition represents (codable_of_none [diagnostic]) tenant rawFileId
    .rejected
  unfold LocalRawStorage.reject
  generalize files.transition interpreter tenant rawFileId .rejected _ = left at moved ⊢
  generalize storage.transition tenant rawFileId .rejected _ = right at moved ⊢
  cases moved with
  | error code => exact ⟨.error code, represents⟩
  | ok same => exact ⟨.ok ⟨same.1, rfl⟩, same.2⟩

/-- An inspection that has begun goes on in the files as in the storage. -/
theorem sameOutcome_check
    (represents : Represents interpreter files storage)
    (library : ReaderLibrary)
    (tenant : TenantContext)
    (rawFileId : String) :
    SameOutcome interpreter (files.check library interpreter tenant rawFileId)
      (storage.check library.gate tenant rawFileId) := by
  have rejected := sameOutcome_reject represents tenant rawFileId
  have isRead := corresponds_read represents tenant rawFileId
  unfold check LocalRawStorage.check attempt
  generalize files.read interpreter tenant rawFileId = left at isRead ⊢
  generalize storage.read tenant rawFileId = right at isRead ⊢
  cases isRead with
  | error code => exact rejected code.text
  | @ok content payload same =>
      subst same
      have verdicts := toOption_readVerdict library content.bytes
      cases isVerdict : readVerdict library content.bytes with
      | error raised =>
          rw [isVerdict] at verdicts
          have caught : (StorageFailure.read raised).diagnostic? =
              some "CSV_SCHEMA_READ_FAILED" := if_pos (isCaught_of_readVerdict isVerdict)
          simp only [Checks.ok_bind, Checks.error_bind, Except.mapError, ← verdicts,
            Except.toOption, isVerdict, caught]
          exact rejected "CSV_SCHEMA_READ_FAILED"
      | ok outcome =>
          obtain ⟨state, description, detected⟩ := outcome
          have moved := corresponds_transition represents (readVerdict_spec isVerdict).2.2.2 tenant
            rawFileId state
          rw [isVerdict] at verdicts
          simp only [Checks.ok_bind, Except.mapError, ← verdicts, Except.toOption, isVerdict]
          generalize files.transition interpreter tenant rawFileId state description = left
            at moved ⊢
          generalize storage.transition tenant rawFileId state description = right at moved ⊢
          cases moved with
          | error code => exact rejected code.text
          | ok same => exact ⟨.ok ⟨same.1, rfl⟩, same.2⟩

/-- An inspection of the files is one of the storage. -/
theorem sameOutcome_inspect
    (represents : Represents interpreter files storage)
    (library : ReaderLibrary)
    (tenant : TenantContext)
    (rawFileId : String) :
    SameOutcome interpreter (files.inspect library interpreter tenant rawFileId)
      (storage.inspect library.gate tenant rawFileId) := by
  have found := corresponds_getRecord represents tenant rawFileId
  have started := corresponds_transition represents (codable_of_none []) tenant rawFileId
    .validating
  unfold inspect LocalRawStorage.inspect
  generalize files.getRecord interpreter tenant rawFileId = left at found ⊢
  generalize storage.getRecord tenant rawFileId = right at found ⊢
  cases found with
  | error code => exact ⟨.error code, represents⟩
  | @ok metadata record same =>
      have isState : metadata.state = record.state := by
        obtain ⟨sanitizedFilename, rfl, -⟩ := same
        rfl
      dsimp only
      rw [isState]
      cases record.state with
      | received =>
          dsimp only
          generalize files.transition interpreter tenant rawFileId .validating _ = left
            at started ⊢
          generalize storage.transition tenant rawFileId .validating _ = right at started ⊢
          cases started with
          | error code => exact ⟨.error code, represents⟩
          | ok same => exact sameOutcome_check same.2 library tenant rawFileId
      | validating => exact sameOutcome_check represents library tenant rawFileId
      | valid => exact ⟨.ok ⟨same, rfl⟩, represents⟩
      | quarantined => exact ⟨.ok ⟨same, rfl⟩, represents⟩
      | rejected => exact ⟨.ok ⟨same, rfl⟩, represents⟩

/-! ### Uploads -/

/-- The contents of an upload are kept, or written in both. -/
theorem exists_represents_storeContent
    {digest : String}
    {payload : PyBytes}
    {after : RawFiles}
    (represents : Represents interpreter files storage)
    (isStored : files.storeContent tenant digest payload = .ok after) :
    ∃ later, Represents interpreter after later := by
  unfold storeContent at isStored
  dsimp only at isStored
  split at isStored
  next =>
    simp only [Checks.bind_done_eq_ok, Checks.pure_eq_ok] at isStored
    obtain ⟨-, rfl⟩ := isStored
    exact ⟨storage, represents⟩
  next =>
    obtain rfl := Except.ok.inj isStored
    refine ⟨⟨storage.metadata, storage.content.set (tenantToken tenant, digest) payload.bytes⟩,
      represents.metadata, fun key => ?_⟩
    by_cases same : key = (tenantToken tenant, digest)
    · subst same
      rw [Dict.get?_set_self, Dict.get?_set_self]
      rfl
    · rw [Dict.get?_set_of_ne _ same, Dict.get?_set_of_ne _ same]
      exact represents.content key

/-- The record of a new upload. -/
theorem isRecord_receivedRecord
    {receipt : UploadReceipt}
    {payload : PyBytes}
    {digest : String}
    (checked : checkUpload tenant receipt payload = .ok (rawFileId, digest)) :
    ∃ record, IsRecord (receivedRecord tenant receipt rawFileId digest payload) record := by
  have storable := storable_receivedRecord checked
  exact ⟨{
    rawFileId := rawFileId
    tenantId := tenant.tenantId
    sha256 := digest
    sizeBytes := payload.bytes.length
    state := .received
    schemaId := none
    structuralFingerprint := none
    semanticFingerprint := none }, receipt.sanitizedFilename, rfl,
    ⟨storable.sound, storable.sizeBytes, storable.tenantId⟩⟩

/-- The files after an upload represent some storage. -/
theorem exists_represents_store
    (represents : Represents interpreter files storage)
    (tenant : TenantContext)
    (receipt : UploadReceipt)
    (payload : PyBytes) :
    ∃ later, Represents interpreter (files.store interpreter tenant receipt payload).2 later := by
  have stores := storeOutcome interpreter files tenant receipt payload
  cases outcome : files.store interpreter tenant receipt payload with
  | mk result after =>
      rw [outcome] at stores
      cases stores with
      | refused failure => exact ⟨storage, represents⟩
      | again checked found isRead isOf isStored =>
          exact exists_represents_storeContent represents isStored
      | first checked absent isStored isRead =>
          obtain ⟨later, stored⟩ := exists_represents_storeContent represents isStored
          obtain ⟨record, isRecord⟩ := isRecord_receivedRecord checked
          exact ⟨_, stored.set ⟨_, _, isRead, rfl, isRecord⟩ _⟩

/-! ### Runs -/

/-- The files after a call represent some storage. -/
theorem exists_represents_perform
    (represents : Represents interpreter files storage)
    (library : ReaderLibrary)
    (call : StorageCall) :
    ∃ later, Represents interpreter (files.perform library interpreter call).2 later := by
  cases call with
  | store tenant receipt payload =>
      rw [perform_store]
      exact exists_represents_store represents tenant receipt payload
  | inspect tenant rawFileId =>
      rw [perform_inspect]
      exact ⟨_, (sameOutcome_inspect represents library tenant rawFileId).after⟩
  | interrupted tenant rawFileId =>
      have started := corresponds_transition represents (codable_of_none []) tenant rawFileId
        .validating
      unfold perform
      dsimp only
      generalize files.transition interpreter tenant rawFileId .validating _ = left at started ⊢
      generalize storage.transition tenant rawFileId .validating _ = right at started
      cases started with
      | error code => exact ⟨storage, represents⟩
      | ok same => exact ⟨_, same.2⟩

theorem exists_represents_run
    (represents : Represents interpreter files storage)
    (library : ReaderLibrary)
    (calls : List StorageCall) :
    ∃ later, Represents interpreter (files.run library interpreter calls) later := by
  induction calls generalizing files storage with
  | nil => exact ⟨storage, represents⟩
  | cons call calls inductionHypothesis =>
      obtain ⟨later, performed⟩ := exists_represents_perform represents library call
      exact inductionHypothesis performed

/-- After any uploads and inspections the files represent a storage that keeps the records
themselves, and what is found, read and inspected in the files is what is found, read and
inspected in this storage. -/
theorem run_refines
    (library : ReaderLibrary)
    (interpreter : Interpreter)
    (calls : List StorageCall) :
    ∃ storage, Represents interpreter (empty.run library interpreter calls) storage ∧
      ∀ tenant rawFileId,
        Corresponds StorageFailure.storage IsRecord
          ((empty.run library interpreter calls).getRecord interpreter tenant rawFileId)
          (storage.getRecord tenant rawFileId) ∧
        Corresponds StorageFailure.storage (fun content payload => content.bytes = payload)
          ((empty.run library interpreter calls).read interpreter tenant rawFileId)
          (storage.read tenant rawFileId) ∧
        SameOutcome interpreter
          ((empty.run library interpreter calls).inspect library interpreter tenant rawFileId)
          (storage.inspect library.gate tenant rawFileId) := by
  obtain ⟨storage, represents⟩ := exists_represents_run (represents_empty interpreter) library calls
  exact ⟨storage, represents, fun tenant rawFileId =>
    ⟨corresponds_getRecord represents tenant rawFileId,
      corresponds_read represents tenant rawFileId,
      sameOutcome_inspect represents library tenant rawFileId⟩⟩

end RawFiles
end QuantumAnalytics
