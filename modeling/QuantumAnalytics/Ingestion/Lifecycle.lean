import QuantumAnalytics.Ingestion.Uploads

/-!
# The lifecycle of a stored file

Content files are shared by the uploads of a tenant, and every call decodes, checks
and writes the metadata of one upload. Over any calls a record only moves from
`RECEIVED` over `VALIDATING` to a state that it never leaves, and its bytes are those
that were stored first.
-/

namespace QuantumAnalytics

/-! ### Calls -/

/-- Members that the encoder lists in key order and whose floats it writes as `repr`
does. -/
def PyJson.IsMapping (fields : PyObject) : Prop :=
  PyJson.Canonical (.obj fields) ∧ JsonDecoder.Written (.obj fields)

/-- The arguments of `transition` that describe a file, with fingerprints of JSON
values. -/
structure FileDescription extends StatePayload where
  structural : ∀ fields ∈ structuralFingerprint, PyJson.IsMapping fields
  semantic : ∀ fields ∈ semanticFingerprint, PyJson.IsMapping fields

/-- The record of a file in another state. -/
def RawFileMetadata.withState (current : RawFileMetadata) (state : RawFileState)
    (description : StatePayload) : RawFileMetadata :=
  { current with toStatePayload := description, state }

/-- A call of `LocalRawStorage` or of `CsvSchemaGate`. -/
inductive LifecycleCall
  | store (tenant : TenantContext) (receipt : UploadReceipt) (payload : PyBytes)
  | transition (tenant : TenantContext) (rawFileId : String) (state : RawFileState)
      (description : FileDescription)
  | read (tenant : TenantContext) (rawFileId : String)
  | inspect (tenant : TenantContext) (rawFileId : String)

namespace RawFiles

/-- `transition` with any description, with the files after it. -/
def transitionTo (interpreter : Interpreter) (files : RawFiles) (tenant : TenantContext)
    (rawFileId : String) (state : RawFileState) (description : StatePayload) :
    Except StorageFailure (RawFileMetadata × RawFiles) := do
  let current ← files.getRecord interpreter tenant rawFileId
  require (state ∈ current.state.allowedTransitions) (.storage .rawFileStateTransitionInvalid)
  require (description.isValidFor state = true) (.storage .rawFileStatePayloadInvalid)
  let after ← files.writeRecord interpreter tenant (current.withState state description)
  return (current.withState state description, after)

/-- The files after a call. -/
def afterCall (library : ReaderLibrary) (interpreter : Interpreter) (files : RawFiles) :
    LifecycleCall → RawFiles
  | .store tenant receipt payload => (files.store interpreter tenant receipt payload).2
  | .transition tenant rawFileId state description =>
      match files.transitionTo interpreter tenant rawFileId state description.toStatePayload with
      | .error _ => files
      | .ok (_, after) => after
  | .read _ _ => files
  | .inspect tenant rawFileId => (files.inspect library interpreter tenant rawFileId).2

/-- The files after some calls on an empty root. -/
def afterCalls (library : ReaderLibrary) (interpreter : Interpreter)
    (calls : List LifecycleCall) : RawFiles :=
  calls.foldl (afterCall library interpreter) empty

end RawFiles

/-! ### Records that continue -/

/-- What a record may become. -/
structure RawFileMetadata.Continues (earlier later : RawFileMetadata) : Prop where
  rawFileId : later.rawFileId = earlier.rawFileId
  tenantId : later.tenantId = earlier.tenantId
  sha256 : later.sha256 = earlier.sha256
  sizeBytes : later.sizeBytes = earlier.sizeBytes
  sanitizedFilename : later.sanitizedFilename = earlier.sanitizedFilename
  storageKey : later.storageKey = earlier.storageKey
  /-- The state goes along the allowed transitions. -/
  states : Relation.ReflTransGen (fun state next : RawFileState => next ∈ state.allowedTransitions)
    earlier.state later.state
  /-- A terminal state is not left. -/
  settled : earlier.state.isTerminal = true → later = earlier

namespace RawFileMetadata.Continues

theorem refl (record : RawFileMetadata) : record.Continues record :=
  ⟨rfl, rfl, rfl, rfl, rfl, rfl, .refl, fun _ => rfl⟩

theorem trans
    {earlier middle later : RawFileMetadata}
    (first : earlier.Continues middle)
    (second : middle.Continues later) : earlier.Continues later where
  rawFileId := second.rawFileId.trans first.rawFileId
  tenantId := second.tenantId.trans first.tenantId
  sha256 := second.sha256.trans first.sha256
  sizeBytes := second.sizeBytes.trans first.sizeBytes
  sanitizedFilename := second.sanitizedFilename.trans first.sanitizedFilename
  storageKey := second.storageKey.trans first.storageKey
  states := first.states.trans second.states
  settled terminal := by
    have same := first.settled terminal
    subst same
    exact second.settled terminal

theorem withState
    {current : RawFileMetadata}
    {state : RawFileState}
    (allowed : state ∈ current.state.allowedTransitions)
    (description : StatePayload) : current.Continues (current.withState state description) where
  rawFileId := rfl
  tenantId := rfl
  sha256 := rfl
  sizeBytes := rfl
  sanitizedFilename := rfl
  storageKey := rfl
  states := .single allowed
  settled terminal := by
    exfalso
    revert allowed terminal
    cases current.state <;> simp [RawFileState.isTerminal, RawFileState.allowedTransitions]

end RawFileMetadata.Continues

/-! ### Records that are written -/

namespace RawFileMetadata

variable {record : RawFileMetadata}

/-- The document of a record whose fingerprints are mappings is one. -/
theorem isMapping_document
    (structural : ∀ fields ∈ record.structuralFingerprint, PyJson.IsMapping fields)
    (semantic : ∀ fields ∈ record.semanticFingerprint, PyJson.IsMapping fields) :
    PyJson.IsMapping record.document := by
  have ordered : (documentKeys.map fun key => (PyStr.ofString key).ords).Pairwise (· < ·) := by
    decide +kernel
  have keys : record.document.Pairwise fun left right => left.1.ords < right.1.ords :=
    (@List.pairwise_map _ _ (fun field : PyStr × PyJson => field.1.ords) _ _).mp ordered
  have texts : PyJson.Canonical (.arr (record.diagnostics.map .str)) ∧
      JsonDecoder.Written (.arr (record.diagnostics.map .str)) := by
    refine ⟨PyJson.CanonicalItems.of_forall fun item listed => ?_,
      JsonDecoder.WrittenItems.of_forall fun item listed => ?_⟩ <;>
    · obtain ⟨text, -, rfl⟩ := List.mem_map.mp listed
      trivial
  have optional : ∀ {value : Option PyObject}, (∀ fields ∈ value, PyJson.IsMapping fields) →
      PyJson.Canonical (value.elim .null .obj) ∧ JsonDecoder.Written (value.elim .null .obj) := by
    intro value each
    cases value with
    | none => exact ⟨trivial, trivial⟩
    | some fields => exact each fields rfl
  have schema : PyJson.Canonical (record.schemaId.elim .null .str) ∧
      JsonDecoder.Written (record.schemaId.elim .null .str) := by
    cases record.schemaId <;> exact ⟨trivial, trivial⟩
  have members : ∀ field ∈ record.document,
      PyJson.Canonical field.2 ∧ JsonDecoder.Written field.2 := by
    simp only [document, List.forall_mem_cons]
    exact ⟨texts, ⟨trivial, trivial⟩, ⟨trivial, trivial⟩, schema, optional semantic,
      ⟨trivial, trivial⟩, ⟨trivial, trivial⟩, ⟨trivial, trivial⟩, ⟨trivial, trivial⟩,
      optional structural, ⟨trivial, trivial⟩, fun _ listed => absurd listed List.not_mem_nil⟩
  exact ⟨⟨keys, PyJson.CanonicalFields.of_forall fun field listed => (members field listed).1⟩,
    JsonDecoder.WrittenFields.of_forall fun field listed => (members field listed).2⟩

end RawFileMetadata

/-- A sound record is read back from what is written for it. -/
theorem recordFromPayload_of_recordPayload
    {interpreter : Interpreter}
    {record : RawFileMetadata}
    {payload : List UInt8}
    (sound : record.Sound)
    (mapping : PyJson.IsMapping record.document)
    (isWritten : recordPayload interpreter record = .ok payload) :
    recordFromPayload interpreter payload = .ok record := by
  obtain ⟨text, dumped, encoded⟩ := Checks.bind_eq_ok.mp isWritten
  have loaded := PyJson.loads_of_dumpsSpecial mapping.1 mapping.2 dumped
  have decoded := PyStr.decode?_of_encode? (Checks.requireSome_eq_ok.mp encoded)
  have size : (PyJson.int record.sizeBytes).toInt = .ok record.sizeBytes := rfl
  rw [recordFromPayload, readMembers_eq_ok.mpr ⟨text, decoded, loaded⟩, Checks.ok_bind,
    readIdentity?_document sound]
  simp only [requireSome, Checks.ok_bind, size, readRecord?_document sound]

namespace RawFiles

variable {interpreter : Interpreter} {library : ReaderLibrary} {files after : RawFiles}
  {tenant : TenantContext} {rawFileId : String} {record : RawFileMetadata}
  {state : RawFileState} {holdsOf : String × String → RawFileMetadata → Prop}

/-! ### What one call does -/

/-- A metadata file is that of the record. -/
def HasRecord (interpreter : Interpreter) (files : RawFiles) (key : String × String)
    (record : RawFileMetadata) : Prop :=
  ∃ payload, files.metadata.get? key = some payload ∧
    recordFromPayload interpreter payload = .ok record

theorem HasRecord.unique
    {key : String × String}
    {other : RawFileMetadata}
    (has : HasRecord interpreter files key record)
    (hasOther : HasRecord interpreter files key other) : record = other := by
  obtain ⟨payload, found, isRecord⟩ := has
  obtain ⟨again, foundAgain, isOther⟩ := hasOther
  obtain rfl := Option.some.inj (found.symm.trans foundAgain)
  exact Except.ok.inj (isRecord.symm.trans isOther)

/-- Every metadata file is that of a record of which something holds. -/
def AllHave (interpreter : Interpreter) (holdsOf : String × String → RawFileMetadata → Prop)
    (files : RawFiles) : Prop :=
  ∀ key payload, files.metadata.get? key = some payload →
    ∃ record, recordFromPayload interpreter payload = .ok record ∧ holdsOf key record

/-- Files are not taken away, and content files are not changed. -/
structure Remains (files after : RawFiles) : Prop where
  metadata : ∀ key payload, files.metadata.get? key = some payload →
    ∃ later, after.metadata.get? key = some later
  content : ∀ key content, files.content.get? key = some content →
    after.content.get? key = some content

theorem Remains.refl (files : RawFiles) : Remains files files :=
  ⟨fun _ payload found => ⟨payload, found⟩, fun _ _ found => found⟩

theorem Remains.trans
    {middle : RawFiles}
    (first : Remains files middle)
    (second : Remains middle after) : Remains files after where
  metadata key payload found := by
    obtain ⟨later, foundLater⟩ := first.metadata key payload found
    exact second.metadata key later foundLater
  content key content found := second.content key content (first.content key content found)

/-- What a call may do to the files: something that holds of all records and of
whatever they become holds of all records after it. -/
structure Evolves (interpreter : Interpreter) (files after : RawFiles) : Prop where
  remains : Remains files after
  content : after.content = files.content
  records : ∀ holdsOf : String × String → RawFileMetadata → Prop,
    (∀ key record later, holdsOf key record → record.Continues later → holdsOf key later) →
      AllHave interpreter holdsOf files → AllHave interpreter holdsOf after

theorem Evolves.refl (interpreter : Interpreter) (files : RawFiles) :
    Evolves interpreter files files :=
  ⟨.refl files, rfl, fun _ _ all => all⟩

theorem Evolves.trans
    {middle : RawFiles}
    (first : Evolves interpreter files middle)
    (second : Evolves interpreter middle after) : Evolves interpreter files after :=
  ⟨first.remains.trans second.remains, second.content.trans first.content,
    fun holdsOf closed all => second.records holdsOf closed (first.records holdsOf closed all)⟩

theorem transitionTo_eq_ok
    {description : StatePayload} :
    files.transitionTo interpreter tenant rawFileId state description = .ok (record, after) ↔
      ∃ current payload, files.getRecord interpreter tenant rawFileId = .ok current ∧
        state ∈ current.state.allowedTransitions ∧ description.isValidFor state = true ∧
        record = current.withState state description ∧
        recordPayload interpreter record = .ok payload ∧
        after = { files with
          metadata := files.metadata.set (metadataKey tenant record.rawFileId) payload } := by
  simp only [transitionTo, writeRecord, Checks.bind_eq_ok, Checks.require_eq_ok,
    Checks.mapError_eq_ok, Checks.pure_eq_ok, exists_const, Prod.mk.injEq]
  constructor
  · rintro ⟨current, isCurrent, allowed, valid, _, ⟨payload, isWritten, rfl⟩, rfl, rfl⟩
    exact ⟨current, payload, isCurrent, allowed, valid, rfl, isWritten, rfl⟩
  · rintro ⟨current, payload, isCurrent, allowed, valid, rfl, isWritten, rfl⟩
    exact ⟨current, isCurrent, allowed, valid, _, ⟨payload, isWritten, rfl⟩, rfl, rfl⟩

/-- A transition continues one record. -/
theorem evolves_of_transitionTo
    {description : FileDescription}
    (moved : files.transitionTo interpreter tenant rawFileId state description.toStatePayload =
      .ok (record, after)) : Evolves interpreter files after := by
  obtain ⟨current, written, isCurrent, allowed, valid, rfl, isWritten, rfl⟩ :=
    transitionTo_eq_ok.mp moved
  obtain ⟨metadata, -, isMetadata, isRecord, -⟩ := getRecord_eq_ok.mp isCurrent
  have sound := sound_of_recordFromPayload isRecord
  have soundAfter : (current.withState state description.toStatePayload).Sound :=
    ⟨sound.rawFileId, sound.tenantId, sound.sha256, sound.sizeBytes, sound.sanitizedFilename,
      sound.storageKey, valid⟩
  have isReadBack := recordFromPayload_of_recordPayload soundAfter
    (RawFileMetadata.isMapping_document description.structural description.semantic) isWritten
  refine ⟨⟨fun key payload found => ?_, fun _ _ found => found⟩, rfl, fun holdsOf closed all => ?_⟩
  · rw [Dict.get?_set]
    split
    next => exact ⟨written, rfl⟩
    next => exact ⟨payload, found⟩
  · intro key payload found
    rw [Dict.get?_set] at found
    split at found
    next isKey =>
      obtain rfl := Option.some.inj found
      obtain ⟨before, isBefore, holdsBefore⟩ := all _ _ isMetadata
      obtain rfl := Except.ok.inj (isRecord.symm.trans isBefore)
      exact ⟨_, isReadBack, closed _ _ _ (isKey ▸ holdsBefore) (.withState allowed _)⟩
    next => exact all key payload found

theorem evolves_of_moved (moved : Moved interpreter files after) :
    Evolves interpreter files after := by
  induction moved with
  | start => exact .refl interpreter files
  | @next middle after tenant rawFileId state description record _ codable moved
      inductionHypothesis =>
      have mapping : ∀ {document : Option JsonObject},
          (∀ fields ∈ document, Json.Simple 7 (.obj fields)) →
            ∀ fields ∈ document.map PyJson.ofObject, PyJson.IsMapping fields := by
        intro document simple fields present
        obtain ⟨members, isMembers, rfl⟩ := Option.map_eq_some_iff.mp present
        have codable := PyJson.codable_ofJson (simple members isMembers)
        exact ⟨codable.canonical, codable.written⟩
      let general : FileDescription := ⟨description.stored, mapping codable.structuralFingerprint,
        mapping codable.semanticFingerprint⟩
      exact inductionHypothesis.trans (@evolves_of_transitionTo _ _ _ _ _ _ _ general moved)

/-! ### Storing -/

/-- The record is that of an upload. -/
structure IsOf (record : RawFileMetadata) (tenant : TenantContext) (receipt : UploadReceipt)
    (payload : PyBytes) (rawFileId digest : String) : Prop where
  rawFileId : record.rawFileId = rawFileId
  sha256 : record.sha256 = digest
  tenantId : record.tenantId = PyStr.ofString tenant.tenantId
  sizeBytes : record.sizeBytes = payload.bytes.length
  sanitizedFilename : record.sanitizedFilename = receipt.sanitizedFilename

theorem IsOf.continues
    {receipt : UploadReceipt}
    {payload : PyBytes}
    {digest : String}
    {later : RawFileMetadata}
    (isOf : IsOf record tenant receipt payload rawFileId digest)
    (continues : record.Continues later) :
    IsOf later tenant receipt payload rawFileId digest where
  rawFileId := continues.rawFileId.trans isOf.rawFileId
  sha256 := continues.sha256.trans isOf.sha256
  tenantId := continues.tenantId.trans isOf.tenantId
  sizeBytes := continues.sizeBytes.trans isOf.sizeBytes
  sanitizedFilename := continues.sanitizedFilename.trans isOf.sanitizedFilename

/-- The content file of an upload. -/
def contentKey (tenant : TenantContext) (digest : String) : String × String :=
  (LocalRawStorage.tenantToken tenant, digest)

/-- The content file is there afterwards, and it is new or was there before. -/
theorem storeContent_spec
    {digest : String}
    {payload : PyBytes}
    (isDigest : digest = Sha256.hexdigestOfBytes payload.bytes)
    (stored : files.storeContent tenant digest payload = .ok after) :
    after.metadata = files.metadata ∧
      (∀ key content, files.content.get? key = some content →
        after.content.get? key = some content) ∧
      (∃ content, after.content.get? (contentKey tenant digest) = some content ∧
        holds content digest payload.bytes.length) ∧
      ∀ key content, after.content.get? key = some content →
        files.content.get? key = some content ∨ content = payload := by
  refine ⟨metadata_storeContent stored, ?_⟩
  unfold storeContent at stored
  dsimp only at stored
  split at stored
  next existing found =>
    simp only [Checks.bind_done_eq_ok, Checks.require_eq_ok, Checks.pure_eq_ok] at stored
    obtain ⟨isContent, rfl⟩ := stored
    exact ⟨fun _ _ present => present, ⟨existing, found, isContent⟩, fun _ _ present => .inl present⟩
  next absent =>
    obtain rfl := Except.ok.inj stored
    refine ⟨fun key content present => ?_, ⟨payload, Dict.get?_set_self _ _ _, rfl, isDigest.symm⟩,
      fun key content present => ?_⟩
    · have apart : key ≠ contentKey tenant digest := by
        rintro rfl
        rw [contentKey, absent] at present
        cases present
      exact (Dict.get?_set_of_ne _ apart _).trans present
    · rw [Dict.get?_set] at present
      split at present
      next => exact .inr (Option.some.inj present).symm
      next => exact .inl present

theorem checkUpload_spec
    {receipt : UploadReceipt}
    {payload : PyBytes}
    {digest : String}
    (checked : checkUpload tenant receipt payload = .ok (rawFileId, digest)) :
    PyText.canonicalUuid? receipt.rawFileId = some rawFileId ∧
      digest = Sha256.hexdigestOfBytes payload.bytes := by
  simp only [checkUpload, Checks.bind_eq_ok, Checks.require_eq_ok, Checks.requireSome_eq_ok,
    Checks.pure_eq_ok, exists_const, Prod.mk.injEq] at checked
  obtain ⟨-, -, -, _, isId, -, rfl, rfl⟩ := checked
  exact ⟨isId, rfl⟩

/-- What `store` returns, with the files after it. -/
inductive StoreOutcome (interpreter : Interpreter) (files : RawFiles) (tenant : TenantContext)
    (receipt : UploadReceipt) (payload : PyBytes) :
    Except StorageFailure RawFileMetadata × RawFiles → Prop
  | refused (failure : StorageFailure) :
      StoreOutcome interpreter files tenant receipt payload (.error failure, files)
  | again
      {rawFileId digest : String}
      {metadata : List UInt8}
      {record : RawFileMetadata}
      {after : RawFiles}
      (checked : checkUpload tenant receipt payload = .ok (rawFileId, digest))
      (found : files.metadata.get? (metadataKey tenant rawFileId) = some metadata)
      (isRead : recordFromPayload interpreter metadata = .ok record)
      (isOf : IsOf record tenant receipt payload rawFileId digest)
      (isStored : files.storeContent tenant digest payload = .ok after) :
      StoreOutcome interpreter files tenant receipt payload (.ok record, after)
  | first
      {rawFileId digest : String}
      {metadata : List UInt8}
      {stored : RawFiles}
      (checked : checkUpload tenant receipt payload = .ok (rawFileId, digest))
      (absent : files.metadata.get? (metadataKey tenant rawFileId) = none)
      (isStored : files.storeContent tenant digest payload = .ok stored)
      (isRead : recordFromPayload interpreter metadata =
        .ok (receivedRecord tenant receipt rawFileId digest payload)) :
      StoreOutcome interpreter files tenant receipt payload
        (.ok (receivedRecord tenant receipt rawFileId digest payload),
          { stored with metadata := stored.metadata.set (metadataKey tenant rawFileId) metadata })

theorem storeOutcome
    (interpreter : Interpreter)
    (files : RawFiles)
    (tenant : TenantContext)
    (receipt : UploadReceipt)
    (payload : PyBytes) :
    StoreOutcome interpreter files tenant receipt payload
      (files.store interpreter tenant receipt payload) := by
  unfold store
  split
  next failure _ => exact .refused failure
  next rawFileId digest checked =>
    split
    next metadata found =>
      split
      next failure _ => exact .refused failure
      next record after again =>
        simp only [storeAgain, Checks.bind_eq_ok, Checks.mapError_eq_ok, Checks.require_eq_ok,
          Checks.pure_eq_ok, exists_const, Prod.mk.injEq] at again
        obtain ⟨_, isRead, ⟨isId, isSha, isTenant, isSize, isName⟩, _, isStored, rfl, rfl⟩ := again
        exact .again checked found isRead ⟨isId, isSha, isTenant, isSize, isName⟩ isStored
    next absent =>
      split
      next failure _ => exact .refused failure
      next stored isStored =>
        obtain ⟨metadata, isWritten, isRead⟩ :=
          @exists_recordPayload interpreter _ (storable_receivedRecord checked)
        have written : stored.writeRecord interpreter tenant
            (receivedRecord tenant receipt rawFileId digest payload) =
            .ok { stored with
              metadata := stored.metadata.set (metadataKey tenant rawFileId) metadata } := by
          simp only [writeRecord, isWritten, Except.mapError, Checks.ok_bind]
          rfl
        simp only [written]
        exact .first checked absent isStored isRead

variable {receipt : UploadReceipt} {payload : PyBytes}
  {outcome : Except StorageFailure RawFileMetadata × RawFiles}

theorem StoreOutcome.remains
    (stores : StoreOutcome interpreter files tenant receipt payload outcome) :
    Remains files outcome.2 := by
  cases stores with
  | refused failure => exact .refl files
  | again checked found isRead isOf isStored =>
      obtain ⟨sameMetadata, kept, -, -⟩ := storeContent_spec (checkUpload_spec checked).2 isStored
      exact ⟨fun key metadata isMetadata => ⟨metadata, sameMetadata ▸ isMetadata⟩, kept⟩
  | @first _ _ written stored checked absent isStored isRead =>
      obtain ⟨sameMetadata, kept, -, -⟩ := storeContent_spec (checkUpload_spec checked).2 isStored
      refine ⟨fun key metadata isMetadata => ?_, kept⟩
      rw [Dict.get?_set]
      split
      next => exact ⟨written, rfl⟩
      next => exact ⟨metadata, sameMetadata ▸ isMetadata⟩

/-- The content files are those before it and the payload. -/
theorem StoreOutcome.content
    (stores : StoreOutcome interpreter files tenant receipt payload outcome)
    {key : String × String}
    {content : PyBytes}
    (found : outcome.2.content.get? key = some content) :
    files.content.get? key = some content ∨ content = payload := by
  cases stores with
  | refused failure => exact .inl found
  | again checked _ _ _ isStored =>
      exact (storeContent_spec (checkUpload_spec checked).2 isStored).2.2.2 key content found
  | first checked _ isStored _ =>
      exact (storeContent_spec (checkUpload_spec checked).2 isStored).2.2.2 key content found

/-- The records are those before it and the record of a new upload. -/
theorem StoreOutcome.records
    (stores : StoreOutcome interpreter files tenant receipt payload outcome)
    (started : ∀ first : RawFileMetadata, outcome.1 = .ok first → first.state = .received →
      files.metadata.get? (metadataKey tenant first.rawFileId) = none →
        holdsOf (metadataKey tenant first.rawFileId) first)
    (all : AllHave interpreter holdsOf files) : AllHave interpreter holdsOf outcome.2 := by
  cases stores with
  | refused failure => exact all
  | again checked _ _ _ isStored =>
      intro key metadata found
      rw [metadata_storeContent isStored] at found
      exact all key metadata found
  | first checked absent isStored isRead =>
      intro key metadata found
      rw [Dict.get?_set] at found
      split at found
      next isKey =>
        obtain rfl := Option.some.inj found
        exact ⟨_, isRead, isKey ▸ started _ rfl rfl absent⟩
      next => exact all key metadata (metadata_storeContent isStored ▸ found)

/-- A stored upload has a record and a content file. -/
theorem StoreOutcome.of_ok
    (stores : StoreOutcome interpreter files tenant receipt payload outcome)
    (isOk : outcome.1 = .ok record) :
    ∃ rawFileId digest, checkUpload tenant receipt payload = .ok (rawFileId, digest) ∧
      IsOf record tenant receipt payload rawFileId digest ∧
      HasRecord interpreter outcome.2 (metadataKey tenant rawFileId) record ∧
      ∃ content, outcome.2.content.get? (contentKey tenant digest) = some content ∧
        holds content digest payload.bytes.length := by
  cases stores with
  | refused failure => cases isOk
  | @again rawFileId digest metadata _ _ checked found isRead isOf isStored =>
      obtain rfl := Except.ok.inj isOk
      obtain ⟨sameMetadata, -, isContent, -⟩ :=
        storeContent_spec (checkUpload_spec checked).2 isStored
      exact ⟨rawFileId, digest, checked, isOf, ⟨metadata, sameMetadata ▸ found, isRead⟩, isContent⟩
  | @first rawFileId digest metadata _ checked absent isStored isRead =>
      obtain rfl := Except.ok.inj isOk
      obtain ⟨-, -, isContent, -⟩ := storeContent_spec (checkUpload_spec checked).2 isStored
      exact ⟨rawFileId, digest, checked, ⟨rfl, rfl, rfl, rfl, rfl⟩,
        ⟨metadata, Dict.get?_set_self _ _ _, isRead⟩, isContent⟩

/-! ### Runs -/

/-- A call stores an upload, or continues the records. -/
theorem afterCall_cases
    (library : ReaderLibrary)
    (interpreter : Interpreter)
    (files : RawFiles)
    (call : LifecycleCall) :
    (∃ tenant receipt payload, call = .store tenant receipt payload ∧
        StoreOutcome interpreter files tenant receipt payload
          (files.store interpreter tenant receipt payload)) ∨
      Evolves interpreter files (files.afterCall library interpreter call) := by
  cases call with
  | store tenant receipt payload =>
      exact .inl ⟨tenant, receipt, payload, rfl,
        storeOutcome interpreter files tenant receipt payload⟩
  | transition tenant rawFileId state description =>
      refine .inr ?_
      unfold afterCall
      dsimp only
      split
      next => exact .refl interpreter files
      next moved => exact evolves_of_transitionTo moved
  | read tenant rawFileId => exact .inr (.refl interpreter files)
  | inspect tenant rawFileId =>
      have moved := moved_inspect library interpreter files tenant rawFileId
      rw [perform_inspect] at moved
      exact .inr (evolves_of_moved moved)

theorem remains_afterCall
    (library : ReaderLibrary)
    (interpreter : Interpreter)
    (files : RawFiles)
    (call : LifecycleCall) : Remains files (files.afterCall library interpreter call) := by
  rcases afterCall_cases library interpreter files call with ⟨_, _, _, rfl, stores⟩ | evolves
  · exact stores.remains
  · exact evolves.remains

/-- What holds of new records and of whatever records become holds after a call. -/
theorem AllHave.afterCall
    (all : AllHave interpreter holdsOf files)
    (library : ReaderLibrary)
    {call : LifecycleCall}
    (started : ∀ (tenant : TenantContext) (receipt : UploadReceipt) (payload : PyBytes)
      (first : RawFileMetadata), call = .store tenant receipt payload →
        (files.store interpreter tenant receipt payload).1 = .ok first →
        first.state = .received →
        files.metadata.get? (metadataKey tenant first.rawFileId) = none →
          holdsOf (metadataKey tenant first.rawFileId) first)
    (closed : ∀ key record later, holdsOf key record → record.Continues later →
      holdsOf key later) :
    AllHave interpreter holdsOf (files.afterCall library interpreter call) := by
  rcases afterCall_cases library interpreter files call with
    ⟨tenant, receipt, payload, isStore, stores⟩ | evolves
  · have records := stores.records (fun first => started tenant receipt payload first isStore) all
    rwa [isStore]
  · exact evolves.records holdsOf closed all

/-- The payloads that calls bring to `store`. -/
def payloadsOf (calls : List LifecycleCall) : List PyBytes :=
  calls.filterMap fun
    | .store _ _ payload => some payload
    | _ => none

/-- A call has stored the first record of an upload. -/
def Began (library : ReaderLibrary) (interpreter : Interpreter) (calls : List LifecycleCall)
    (key : String × String) (first : RawFileMetadata) : Prop :=
  ∃ before tenant receipt payload since,
    calls = before ++ LifecycleCall.store tenant receipt payload :: since ∧
      ((afterCalls library interpreter before).store interpreter tenant receipt payload).1 =
        .ok first ∧
      first.state = .received ∧ key = metadataKey tenant first.rawFileId

variable {calls later : List LifecycleCall} {call : LifecycleCall} {key : String × String}

theorem Began.snoc
    {first : RawFileMetadata}
    (began : Began library interpreter calls key first) (call : LifecycleCall) :
    Began library interpreter (calls ++ [call]) key first := by
  obtain ⟨before, tenant, receipt, payload, since, rfl, stored, received, isKey⟩ := began
  exact ⟨before, tenant, receipt, payload, since ++ [call], by
    rw [List.append_assoc, List.cons_append], stored, received, isKey⟩

theorem afterCalls_snoc (calls : List LifecycleCall) (call : LifecycleCall) :
    afterCalls library interpreter (calls ++ [call]) =
      (afterCalls library interpreter calls).afterCall library interpreter call :=
  List.foldl_append

/-- What holds after calls. -/
structure Lived (library : ReaderLibrary) (interpreter : Interpreter)
    (calls : List LifecycleCall) (files : RawFiles) : Prop where
  records : AllHave interpreter (fun key record =>
    ∃ first, Began library interpreter calls key first ∧ first.Continues record) files
  content : ∀ key content, files.content.get? key = some content → content ∈ payloadsOf calls

theorem lived_afterCalls
    (library : ReaderLibrary)
    (interpreter : Interpreter)
    (calls : List LifecycleCall) :
    Lived library interpreter calls (afterCalls library interpreter calls) := by
  induction calls using List.reverseRecOn with
  | nil =>
      refine ⟨fun key payload found => ?_, fun key content found => ?_⟩ <;>
      · rw [afterCalls, List.foldl_nil, empty, Dict.get?_empty] at found
        cases found
  | append_singleton calls call inductionHypothesis =>
      have payloads : payloadsOf (calls ++ [call]) = payloadsOf calls ++ payloadsOf [call] :=
        List.filterMap_append
      rw [afterCalls_snoc]
      constructor
      · have before : AllHave interpreter (fun key record =>
            ∃ first, Began library interpreter (calls ++ [call]) key first ∧
              first.Continues record) (afterCalls library interpreter calls) := by
          intro key payload found
          obtain ⟨record, isRead, first, began, continues⟩ :=
            inductionHypothesis.records key payload found
          exact ⟨record, isRead, first, began.snoc call, continues⟩
        refine before.afterCall library ?_ ?_
        · rintro tenant receipt payload first rfl stored received -
          exact ⟨first, ⟨calls, tenant, receipt, payload, [], rfl, stored, received, rfl⟩, .refl first⟩
        · rintro key record later ⟨first, began, continues⟩ next
          exact ⟨first, began, continues.trans next⟩
      · intro key content found
        rw [payloads]
        rcases afterCall_cases library interpreter (afterCalls library interpreter calls) call with
          ⟨tenant, receipt, payload, rfl, stores⟩ | evolves
        · rcases stores.content found with isOld | rfl
          · exact List.mem_append_left _ (inductionHypothesis.content key content isOld)
          · exact List.mem_append_right _ List.mem_cons_self
        · exact List.mem_append_left _
            (inductionHypothesis.content key content (evolves.content ▸ found))

/-- A record continues over a call. -/
theorem HasRecord.afterCall
    (has : HasRecord interpreter files key record)
    (lived : Lived library interpreter calls files)
    (call : LifecycleCall) :
    ∃ later, HasRecord interpreter (files.afterCall library interpreter call) key later ∧
      record.Continues later := by
  obtain ⟨metadata, found, isRead⟩ := has
  let continued (other : String × String) (later : RawFileMetadata) : Prop :=
    other = key → record.Continues later
  have before : AllHave interpreter continued files := by
    intro other payload isPayload
    obtain ⟨current, isCurrent, -⟩ := lived.records other payload isPayload
    refine ⟨current, isCurrent, ?_⟩
    rintro rfl
    obtain rfl := Option.some.inj (found.symm.trans isPayload)
    obtain rfl := Except.ok.inj (isRead.symm.trans isCurrent)
    exact .refl record
  have afterwards : AllHave interpreter continued (files.afterCall library interpreter call) := by
    refine before.afterCall library ?_ fun _ _ _ continues next same => (continues same).trans next
    rintro tenant receipt payload first - - - absent rfl
    cases absent.symm.trans found
  obtain ⟨payload, isPayload⟩ :=
    (remains_afterCall library interpreter files call).metadata key metadata found
  obtain ⟨later, isLater, continues⟩ := afterwards key payload isPayload
  exact ⟨later, ⟨payload, isPayload, isLater⟩, continues rfl⟩

theorem remains_afterCalls
    (library : ReaderLibrary)
    (interpreter : Interpreter)
    (calls later : List LifecycleCall) :
    Remains (afterCalls library interpreter calls)
      (afterCalls library interpreter (calls ++ later)) := by
  induction later using List.reverseRecOn with
  | nil =>
      rw [List.append_nil]
      exact .refl _
  | append_singleton later call inductionHypothesis =>
      rw [← List.append_assoc, afterCalls_snoc]
      exact inductionHypothesis.trans (remains_afterCall library interpreter _ call)

/-- A record continues over calls. -/
theorem HasRecord.afterCalls
    (has : HasRecord interpreter (afterCalls library interpreter calls) key record)
    (later : List LifecycleCall) :
    ∃ current, HasRecord interpreter (RawFiles.afterCalls library interpreter (calls ++ later)) key
        current ∧ record.Continues current := by
  induction later using List.reverseRecOn with
  | nil => exact ⟨record, (List.append_nil calls).symm ▸ has, .refl record⟩
  | append_singleton later call inductionHypothesis =>
      obtain ⟨middle, hasMiddle, first⟩ := inductionHypothesis
      obtain ⟨current, hasCurrent, next⟩ :=
        hasMiddle.afterCall (lived_afterCalls library interpreter (calls ++ later)) call
      rw [← List.append_assoc, afterCalls_snoc]
      exact ⟨current, hasCurrent, first.trans next⟩

/-! ### Files that are stored -/

/-- The digest tells the payloads of calls apart. -/
def CollisionFree (calls : List LifecycleCall) : Prop :=
  ∀ left ∈ payloadsOf calls, ∀ right ∈ payloadsOf calls,
    Sha256.hexdigestOfBytes left.bytes = Sha256.hexdigestOfBytes right.bytes → left = right

/-- The files have the record of an upload and its bytes. -/
structure Stores (interpreter : Interpreter) (files : RawFiles) (tenant : TenantContext)
    (receipt : UploadReceipt) (payload : PyBytes) (record : RawFileMetadata) : Prop where
  getRecord : ∀ rawFileId, PyText.canonicalUuid? rawFileId = PyText.canonicalUuid? receipt.rawFileId →
    files.getRecord interpreter tenant rawFileId = .ok record
  store : files.store interpreter tenant receipt payload = (.ok record, files)
  read : ∀ rawFileId, PyText.canonicalUuid? rawFileId = PyText.canonicalUuid? receipt.rawFileId →
    files.read interpreter tenant rawFileId = .ok payload

theorem stores_of_hasRecord
    {digest : String}
    (checked : checkUpload tenant receipt payload = .ok (rawFileId, digest))
    (isOf : IsOf record tenant receipt payload rawFileId digest)
    (has : HasRecord interpreter files (metadataKey tenant rawFileId) record)
    (isContent : files.content.get? (contentKey tenant digest) = some payload) :
    Stores interpreter files tenant receipt payload record := by
  obtain ⟨isId, isDigest⟩ := checkUpload_spec checked
  obtain ⟨metadata, found, isRead⟩ := has
  have isHeld : holds payload digest payload.bytes.length := ⟨rfl, isDigest.symm⟩
  have current : ∀ name, PyText.canonicalUuid? name = PyText.canonicalUuid? receipt.rawFileId →
      files.getRecord interpreter tenant name = .ok record := by
    intro name same
    refine getRecord_eq_ok.mpr ⟨metadata, ?_, ?_, isRead, isOf.tenantId⟩
    · rw [same, isId, isOf.rawFileId]
    · rw [isOf.rawFileId, found]
  have content : files.storeContent tenant digest payload = .ok files := by
    unfold storeContent
    dsimp only
    rw [show files.content.get? (LocalRawStorage.tenantToken tenant, digest) = some payload from
      isContent]
    dsimp only
    rw [require, if_pos isHeld]
    rfl
  have again : files.storeAgain interpreter tenant receipt payload rawFileId digest metadata =
      .ok (record, files) := by
    simp only [storeAgain, isRead, Except.mapError, Checks.ok_bind, content]
    rw [require, if_pos ⟨isOf.rawFileId, isOf.sha256, isOf.tenantId, isOf.sizeBytes,
      isOf.sanitizedFilename⟩]
    rfl
  refine ⟨current, ?_, fun name same => ?_⟩
  · simp only [store, checked, found, again]
  · rw [RawFiles.read, current name same, Checks.ok_bind, isOf.sha256, isOf.sizeBytes]
    rw [show files.content.get? (LocalRawStorage.tenantToken tenant, digest) = some payload from
      isContent]
    rw [requireSome, Checks.ok_bind, require, if_pos isHeld]
    rfl

/-- A stored upload keeps its record and its bytes. -/
theorem exists_stores
    (collisionFree : CollisionFree (calls ++ .store tenant receipt payload :: later))
    (stored : ((afterCalls library interpreter calls).store interpreter tenant receipt payload).1 =
      .ok record) :
    ∃ current, record.Continues current ∧
      Stores interpreter
        (afterCalls library interpreter (calls ++ .store tenant receipt payload :: later))
        tenant receipt payload current := by
  obtain ⟨rawFileId, digest, checked, isOf, has, content, found, isHeld⟩ :=
    (storeOutcome interpreter (afterCalls library interpreter calls) tenant receipt payload).of_ok
      stored
  have split : calls ++ .store tenant receipt payload :: later =
      (calls ++ [.store tenant receipt payload]) ++ later := by
    rw [List.append_assoc, List.singleton_append]
  have isNow : ((afterCalls library interpreter calls).store interpreter tenant receipt payload).2 =
      afterCalls library interpreter (calls ++ [.store tenant receipt payload]) :=
    (afterCalls_snoc calls (.store tenant receipt payload)).symm
  rw [isNow] at has found
  obtain ⟨current, hasCurrent, continues⟩ := has.afterCalls later
  have foundNow := (remains_afterCalls library interpreter _ later).content _ _ found
  rw [← split] at hasCurrent foundNow
  have isPayload : content = payload := by
    have listed := (lived_afterCalls library interpreter _).content _ _ foundNow
    refine collisionFree content listed payload ?_ (isHeld.2.trans (checkUpload_spec checked).2)
    exact List.mem_filterMap.mpr ⟨_, List.mem_append_right _ List.mem_cons_self, rfl⟩
  exact ⟨current, continues, stores_of_hasRecord checked (isOf.continues continues) hasCurrent
    (isPayload ▸ foundNow)⟩

/-- **A stored file keeps its record and its bytes**: whatever is called, each metadata
file holds a sound record that goes on from the `RECEIVED` record of a call of `store`,
and once an upload is stored, its current record and its bytes are found. -/
theorem lifecycle
    (library : ReaderLibrary)
    (interpreter : Interpreter) :
    (∀ calls later key metadata,
      (afterCalls library interpreter calls).metadata.get? key = some metadata →
        ∃ first record current, Began library interpreter calls key first ∧
          first.Continues record ∧ recordFromPayload interpreter metadata = .ok record ∧
          record.Sound ∧
          HasRecord interpreter (afterCalls library interpreter (calls ++ later)) key current ∧
          record.Continues current) ∧
      ∀ calls tenant receipt payload later record,
        CollisionFree (calls ++ .store tenant receipt payload :: later) →
        ((afterCalls library interpreter calls).store interpreter tenant receipt payload).1 =
            .ok record →
          ∃ current, record.Continues current ∧
            Stores interpreter
              (afterCalls library interpreter (calls ++ .store tenant receipt payload :: later))
              tenant receipt payload current := by
  refine ⟨fun calls later key metadata found => ?_,
    fun calls tenant receipt payload later record collisionFree stored =>
      exists_stores collisionFree stored⟩
  obtain ⟨record, isRead, first, began, continues⟩ :=
    (lived_afterCalls library interpreter calls).records key metadata found
  have has : HasRecord interpreter (afterCalls library interpreter calls) key record :=
    ⟨metadata, found, isRead⟩
  obtain ⟨current, hasCurrent, continuesOn⟩ := has.afterCalls later
  exact ⟨first, record, current, began, continues, isRead, sound_of_recordFromPayload isRead,
    hasCurrent, continuesOn⟩

/-- One upload is stored and inspected. -/
theorem lifecycle_letter :
    ∃ first record current : RawFileMetadata, first.state = .received ∧ first.Continues record ∧
      record.Sound ∧ record.Continues current ∧
      Stores ⟨1000, by decide⟩ (afterCalls plainLibrary ⟨1000, by decide⟩
        [.store gateTenant letterReceipt letterBytes, .inspect gateTenant uploadId])
        gateTenant letterReceipt letterBytes current := by
  obtain ⟨records, stores⟩ := lifecycle plainLibrary ⟨1000, by decide⟩
  obtain ⟨record, after, stored, isCurrent, -⟩ := exists_store_letter ⟨1000, by decide⟩
  obtain ⟨metadata, -, found, isRead, -⟩ := getRecord_eq_ok.mp isCurrent
  have isAfter : afterCalls plainLibrary ⟨1000, by decide⟩
      [.store gateTenant letterReceipt letterBytes] = after := congrArg Prod.snd stored
  obtain ⟨first, again, _, ⟨_, _, _, _, _, -, -, received, -⟩, continues, isAgain, sound, -, -⟩ :=
    records [.store gateTenant letterReceipt letterBytes] [] _ metadata (isAfter ▸ found)
  obtain rfl := Except.ok.inj (isRead.symm.trans isAgain)
  have collisionFree : CollisionFree
      ([] ++ .store gateTenant letterReceipt letterBytes :: [.inspect gateTenant uploadId]) := by
    intro left isLeft right isRight _
    exact (List.mem_singleton.mp isLeft).trans (List.mem_singleton.mp isRight).symm
  obtain ⟨current, continuesOn, isStored⟩ := stores [] gateTenant letterReceipt letterBytes
    [.inspect gateTenant uploadId] record collisionFree (congrArg Prod.fst stored)
  exact ⟨first, record, current, received, continues, sound, continuesOn, isStored⟩

end RawFiles
end QuantumAnalytics
