import QuantumAnalytics.Ingestion.Inspection
import QuantumAnalytics.Ingestion.Receipts

/-!
# Uploads are stored

The registry and the storage check file names, ids and digests on their own. They agree:
whatever was received, stored and inspected before, an upload that was received is
stored with its receipt.
-/

namespace QuantumAnalytics

/-- The record of a file says what its receipt says. -/
structure Matches (record : RawFileMetadata) (receipt : UploadReceipt) : Prop where
  rawFileId : record.rawFileId = receipt.rawFileId
  tenantId : record.tenantId = PyStr.ofString receipt.tenantId
  sha256 : record.sha256 = receipt.sha256
  sizeBytes : record.sizeBytes = receipt.sizeBytes
  sanitizedFilename : record.sanitizedFilename = receipt.sanitizedFilename

namespace RawFiles

variable {interpreter : Interpreter} {library : ReaderLibrary} {first files after : RawFiles}
  {tenant : TenantContext} {rawFileId : String}

/-! ### Transitions only -/

/-- The files after some transitions. -/
inductive Moved (interpreter : Interpreter) (first : RawFiles) : RawFiles → Prop
  | start : Moved interpreter first first
  | next
      {files after : RawFiles}
      {tenant : TenantContext}
      {rawFileId : String}
      {state : RawFileState}
      {description : TransitionPayload}
      {record : RawFileMetadata}
      (before : Moved interpreter first files)
      (codable : description.Codable)
      (moved : files.transition interpreter tenant rawFileId state description = .ok (record, after)) :
      Moved interpreter first after

theorem Moved.check
    (before : Moved interpreter first files)
    (library : ReaderLibrary)
    (tenant : TenantContext)
    (rawFileId : String) :
    Moved interpreter first (files.check library interpreter tenant rawFileId).2 := by
  unfold RawFiles.check
  split
  next result after attempted =>
    simp only [attempt, Checks.bind_eq_ok, Checks.mapError_eq_ok, Checks.pure_eq_ok, Prod.exists,
      Prod.mk.injEq] at attempted
    obtain ⟨_, -, _, _, _, isVerdict, _, _, moved, -, rfl⟩ := attempted
    exact before.next (readVerdict_spec isVerdict).2.2.2 moved
  next =>
    split
    next => exact before
    next diagnostic _ =>
      split
      next => exact before
      next moved => exact before.next (codable_of_none [diagnostic]) moved

/-- An inspection moves a file, and does nothing else. -/
theorem moved_inspect
    (library : ReaderLibrary)
    (interpreter : Interpreter)
    (files : RawFiles)
    (tenant : TenantContext)
    (rawFileId : String) :
    Moved interpreter files (files.perform library interpreter (.inspect tenant rawFileId)).2 := by
  rw [perform_inspect]
  unfold RawFiles.inspect
  split
  next => exact .start
  next =>
    split
    next =>
      split
      next => exact .start
      next moved =>
        exact (Moved.start.next (codable_of_none []) moved).check library tenant rawFileId
    next => exact Moved.start.check library tenant rawFileId
    next => exact .start

theorem moved_interrupted
    (library : ReaderLibrary)
    (interpreter : Interpreter)
    (files : RawFiles)
    (tenant : TenantContext)
    (rawFileId : String) :
    Moved interpreter files
      (files.perform library interpreter (.interrupted tenant rawFileId)).2 := by
  unfold RawFiles.perform
  dsimp only
  split
  next => exact .start
  next moved => exact Moved.start.next (codable_of_none []) moved

/-- Transitions keep the content files, and what the metadata files say of receipts. -/
theorem Moved.keeps
    (moved : Moved interpreter first after)
    {holds : String × String → UploadReceipt → Prop}
    (before : ∀ key payload, first.metadata.get? key = some payload → ∃ record,
      Coded interpreter record ∧ recordFromPayload interpreter payload = .ok record ∧
        ∃ receipt, holds key receipt ∧ Matches record receipt) :
    after.content = first.content ∧
      ∀ key payload, after.metadata.get? key = some payload → ∃ record,
        Coded interpreter record ∧ recordFromPayload interpreter payload = .ok record ∧
          ∃ receipt, holds key receipt ∧ Matches record receipt := by
  induction moved with
  | start => exact ⟨rfl, before⟩
  | @next files after tenant rawFileId state description record _ codable moved
      inductionHypothesis =>
      obtain ⟨sameContent, kept⟩ := inductionHypothesis
      obtain ⟨current, written, isCurrent, -, valid, rfl, isWritten, rfl⟩ := transition_eq_ok.mp moved
      refine ⟨sameContent, fun key payload found => ?_⟩
      by_cases same : key = metadataKey tenant current.rawFileId
      · subst same
        obtain rfl := Option.some.inj ((Dict.get?_set_self _ _ _).symm.trans found)
        obtain ⟨metadata, -, isMetadata, isRecord, -⟩ := getRecord_eq_ok.mp isCurrent
        obtain ⟨record, isCoded, isRead, receipt, isReceipt, agrees⟩ := kept _ _ isMetadata
        obtain rfl := Except.ok.inj (isRead.symm.trans isRecord)
        have steady := isCoded.steady
        have moved := @coded_of_storable interpreter _
          (storable_moved steady.sound steady.sizeBytes steady.tenantId valid codable)
        obtain ⟨payload, isPayload, isReadBack⟩ := moved.readBack
        obtain rfl := Except.ok.inj (isWritten.symm.trans isPayload)
        exact ⟨_, moved, isReadBack, receipt, isReceipt, agrees.rawFileId, agrees.tenantId,
          agrees.sha256, agrees.sizeBytes, agrees.sanitizedFilename⟩
      · exact kept key payload ((Dict.get?_set_of_ne _ same _).symm.trans found)

end RawFiles

/-! ### What holds in every state -/

/-- The receipt of an upload is about its payload, and the storage accepts it. -/
structure ReceivedUpload.Fits (upload : ReceivedUpload) : Prop where
  tenantId : upload.receipt.tenantId = upload.tenant.tenantId
  present : upload.payload.bytes ≠ []
  sanitizedFilename : isSafeFilename upload.receipt.sanitizedFilename = true
  rawFileId : PyText.canonicalUuid? upload.receipt.rawFileId = some upload.receipt.rawFileId
  sha256 : upload.receipt.sha256 = Sha256.hexdigestOfBytes upload.payload.bytes
  sizeBytes : upload.receipt.sizeBytes = upload.payload.bytes.length

/-- The record of a new upload matches its receipt. -/
theorem ReceivedUpload.Fits.matches_receivedRecord
    {upload : ReceivedUpload}
    (fits : upload.Fits) :
    Matches (RawFiles.receivedRecord upload.tenant upload.receipt.toUploadReceipt
      upload.receipt.rawFileId (Sha256.hexdigestOfBytes upload.payload.bytes) upload.payload)
      upload.receipt.toUploadReceipt where
  rawFileId := rfl
  tenantId := congrArg PyStr.ofString fits.tenantId.symm
  sha256 := fits.sha256.symm
  sizeBytes := fits.sizeBytes.symm
  sanitizedFilename := rfl

/-- What holds while these payloads are received. -/
structure UploadState.Sound (interpreter : Interpreter) (payloads : List PyBytes)
    (state : UploadState) : Prop where
  fits : ∀ upload ∈ state.received, upload.Fits ∧ upload.payload ∈ payloads
  registered : ∀ key receipt, state.registry.get? key = some receipt →
    key = (receipt.tenantId, receipt.sha256) ∧
      ∃ upload ∈ state.received, upload.receipt.toUploadReceipt = receipt.toUploadReceipt
  /-- An id stands for one receipt. -/
  unique : ∀ left ∈ state.received, ∀ right ∈ state.received,
    left.receipt.rawFileId = right.receipt.rawFileId →
      left.receipt.toUploadReceipt = right.receipt.toUploadReceipt
  metadata : ∀ key payload, state.files.metadata.get? key = some payload → ∃ record,
    RawFiles.Coded interpreter record ∧ recordFromPayload interpreter payload = .ok record ∧
      ∃ receipt, (key.2 = receipt.rawFileId ∧
        ∃ upload ∈ state.received, upload.receipt.toUploadReceipt = receipt) ∧ Matches record receipt
  content : ∀ key content, state.files.content.get? key = some content →
    content ∈ payloads ∧ key.2 = Sha256.hexdigestOfBytes content.bytes

namespace UploadState

variable {interpreter : Interpreter} {library : ReaderLibrary} {payloads : List PyBytes}
  {state : UploadState} {upload : ReceivedUpload}

theorem sound_empty (interpreter : Interpreter) (payloads : List PyBytes) :
    empty.Sound interpreter payloads where
  fits := nofun
  registered := fun key receipt found => by
    rw [empty, Dict.get?_empty] at found
    cases found
  unique := nofun
  metadata := fun key payload found => by
    rw [empty, RawFiles.empty, Dict.get?_empty] at found
    cases found
  content := fun key content found => by
    rw [empty, RawFiles.empty, Dict.get?_empty] at found
    cases found

/-- Files that transitions have changed. -/
theorem Sound.moved
    (sound : state.Sound interpreter payloads)
    {after : RawFiles}
    (moved : RawFiles.Moved interpreter state.files after) :
    UploadState.Sound interpreter payloads { state with files := after } := by
  obtain ⟨sameContent, metadata⟩ := moved.keeps sound.metadata
  exact ⟨sound.fits, sound.registered, sound.unique, metadata, fun key content found =>
    sound.content key content (sameContent ▸ found)⟩

/-- The content of a received upload can be stored. -/
theorem Sound.exists_storeContent
    (sound : state.Sound interpreter payloads)
    (lengths : LengthsByDigest payloads)
    {payload : PyBytes}
    (listed : payload ∈ payloads)
    (tenant : TenantContext) :
    ∃ after, state.files.storeContent tenant (Sha256.hexdigestOfBytes payload.bytes) payload =
        .ok after ∧ after.metadata = state.files.metadata ∧
      UploadState.Sound interpreter payloads { state with files := after } := by
  unfold RawFiles.storeContent
  dsimp only
  split
  next existing found =>
    obtain ⟨isListed, digest⟩ := sound.content _ _ found
    have holds : RawFiles.holds existing (Sha256.hexdigestOfBytes payload.bytes)
        payload.bytes.length := by
      refine ⟨?_, digest.symm⟩
      rw [lengths existing isListed payload listed digest.symm]
    refine ⟨state.files, ?_, rfl, sound⟩
    rw [require, if_pos holds]
    rfl
  next =>
    refine ⟨_, rfl, rfl, sound.fits, sound.registered, sound.unique, sound.metadata, ?_⟩
    intro key content found
    by_cases same : key = (LocalRawStorage.tenantToken tenant, Sha256.hexdigestOfBytes payload.bytes)
    · subst same
      obtain rfl := Option.some.inj ((Dict.get?_set_self _ _ _).symm.trans found)
      exact ⟨listed, rfl⟩
    · exact sound.content key content ((Dict.get?_set_of_ne _ same _).symm.trans found)

/-- The storage accepts a receipt that fits. -/
theorem checkUpload_of_fits
    (fits : upload.Fits) :
    RawFiles.checkUpload upload.tenant upload.receipt.toUploadReceipt upload.payload =
      .ok (upload.receipt.rawFileId, Sha256.hexdigestOfBytes upload.payload.bytes) := by
  simp only [RawFiles.checkUpload, Checks.bind_eq_ok, Checks.require_eq_ok,
    Checks.requireSome_eq_ok, Checks.pure_eq_ok, exists_const]
  exact ⟨fits.tenantId, fits.present, fits.sanitizedFilename, _, fits.rawFileId,
    ⟨fits.sha256.symm, fits.sizeBytes.symm⟩, rfl⟩

/-- A received upload is stored, and its record matches its receipt. -/
theorem Sound.exists_store
    (sound : state.Sound interpreter payloads)
    (lengths : LengthsByDigest payloads)
    (listed : upload ∈ state.received) :
    ∃ record after, state.files.store interpreter upload.tenant upload.receipt.toUploadReceipt
        upload.payload = (.ok record, after) ∧
      Matches record upload.receipt.toUploadReceipt ∧
      UploadState.Sound interpreter payloads { state with files := after } := by
  obtain ⟨fits, isListed⟩ := sound.fits upload listed
  have checked := checkUpload_of_fits fits
  obtain ⟨stored, isStored, sameMetadata, soundStored⟩ :=
    sound.exists_storeContent lengths isListed upload.tenant
  unfold RawFiles.store
  rw [checked]
  dsimp only
  split
  next metadata found =>
    obtain ⟨record, -, isRead, receipt, ⟨sameId, other, isOther, rfl⟩, agrees⟩ :=
      sound.metadata _ _ found
    rw [← sound.unique upload listed other isOther sameId] at agrees
    have again : state.files.storeAgain interpreter upload.tenant upload.receipt.toUploadReceipt
        upload.payload upload.receipt.rawFileId (Sha256.hexdigestOfBytes upload.payload.bytes)
        metadata = .ok (record, stored) := by
      simp only [RawFiles.storeAgain, isRead, Except.mapError, Checks.ok_bind, isStored]
      rw [require, if_pos ⟨agrees.rawFileId, agrees.sha256.trans fits.sha256,
        agrees.tenantId.trans (congrArg _ fits.tenantId), agrees.sizeBytes.trans fits.sizeBytes,
        agrees.sanitizedFilename⟩]
      rfl
    rw [again]
    exact ⟨record, stored, rfl, agrees, soundStored⟩
  next =>
    obtain ⟨payload, isWritten, isRead⟩ :=
      @exists_recordPayload interpreter _ (RawFiles.storable_receivedRecord checked)
    have written : stored.writeRecord interpreter upload.tenant
        (RawFiles.receivedRecord upload.tenant upload.receipt.toUploadReceipt
          upload.receipt.rawFileId (Sha256.hexdigestOfBytes upload.payload.bytes) upload.payload) =
        .ok { stored with
          metadata := stored.metadata.set
            (RawFiles.metadataKey upload.tenant upload.receipt.rawFileId) payload } := by
      simp only [RawFiles.writeRecord, isWritten, Except.mapError, Checks.ok_bind]
      rfl
    simp only [isStored, written]
    refine ⟨_, _, rfl, ?_, soundStored.fits, soundStored.registered, soundStored.unique, ?_,
      soundStored.content⟩
    · exact fits.matches_receivedRecord
    · intro key metadata found
      by_cases same : key = RawFiles.metadataKey upload.tenant upload.receipt.rawFileId
      · subst same
        obtain rfl := Option.some.inj ((Dict.get?_set_self _ _ _).symm.trans found)
        exact ⟨_, RawFiles.coded_of_storable (RawFiles.storable_receivedRecord checked), isRead,
          upload.receipt.toUploadReceipt, ⟨rfl, upload, listed, rfl⟩, fits.matches_receivedRecord⟩
      · exact soundStored.metadata key metadata ((Dict.get?_set_of_ne _ same _).symm.trans found)

/-! ### Runs -/

/-- What a call brings in is new or expected. -/
structure Admissible (payloads : List PyBytes) (state : UploadState) (call : UploadCall) : Prop where
  payload : ∀ payload ∈ payloadsOf [call], payload ∈ payloads
  uuid : ∀ uuid ∈ uuidsOf [call], PyText.canonicalUuid? uuid = some uuid ∧
    ∀ upload ∈ state.received, upload.receipt.rawFileId ≠ uuid

/-- Another upload is received. What the registry has of it besides is its receipt,
and its id stands for no other receipt. -/
theorem Sound.add
    (sound : state.Sound interpreter payloads)
    (upload : ReceivedUpload)
    {registry : UploadReceiptRegistry}
    (fits : upload.Fits ∧ upload.payload ∈ payloads)
    (registered : ∀ key receipt, registry.get? key = some receipt →
      state.registry.get? key = some receipt ∨
        key = (receipt.tenantId, receipt.sha256) ∧
          upload.receipt.toUploadReceipt = receipt.toUploadReceipt)
    (unique : ∀ before ∈ state.received, before.receipt.rawFileId = upload.receipt.rawFileId →
      before.receipt.toUploadReceipt = upload.receipt.toUploadReceipt) :
    UploadState.Sound interpreter payloads
      { state with registry, received := state.received ++ [upload] } where
  fits other isUpload := by
    rcases List.mem_append.mp isUpload with isOld | isNew
    · exact sound.fits other isOld
    · exact List.mem_singleton.mp isNew ▸ fits
  registered key receipt isReceipt := by
    rcases registered key receipt isReceipt with isOld | ⟨isKey, same⟩
    · obtain ⟨isKey, before, isBefore, same⟩ := sound.registered key receipt isOld
      exact ⟨isKey, before, List.mem_append_left _ isBefore, same⟩
    · exact ⟨isKey, upload, List.mem_append_right _ (List.mem_singleton_self _), same⟩
  unique left isLeft right isRight sameId := by
    rcases List.mem_append.mp isLeft with oldLeft | newLeft <;>
      rcases List.mem_append.mp isRight with oldRight | newRight
    · exact sound.unique left oldLeft right oldRight sameId
    · obtain rfl := List.mem_singleton.mp newRight
      exact unique left oldLeft sameId
    · obtain rfl := List.mem_singleton.mp newLeft
      exact (unique right oldRight sameId.symm).symm
    · obtain rfl := List.mem_singleton.mp newLeft
      obtain rfl := List.mem_singleton.mp newRight
      rfl
  metadata key metadata isMetadata := by
    obtain ⟨record, isCoded, isRead, receipt, ⟨sameId, before, isBefore, same⟩, agrees⟩ :=
      sound.metadata key metadata isMetadata
    exact ⟨record, isCoded, isRead, receipt,
      ⟨sameId, before, List.mem_append_left _ isBefore, same⟩, agrees⟩
  content := sound.content

/-- An upload is received. -/
theorem Sound.receive
    (sound : state.Sound interpreter payloads)
    (lengths : LengthsByDigest payloads)
    {tenant : TenantContext}
    {payload : PyBytes}
    {filename : PyStr}
    {uuid : String}
    (admissible : Admissible payloads state (.receive tenant payload filename uuid)) :
    (state.step library interpreter (.receive tenant payload filename uuid)).Sound interpreter
        payloads ∧
      ∀ upload ∈ (state.step library interpreter (.receive tenant payload filename uuid)).received,
        upload.receipt.rawFileId = uuid ∨
          ∃ before ∈ state.received, before.receipt.rawFileId = upload.receipt.rawFileId := by
  have listed := admissible.payload payload List.mem_cons_self
  obtain ⟨canonical, fresh⟩ := admissible.uuid uuid List.mem_cons_self
  unfold step UploadReceiptRegistry.receive
  dsimp only
  by_cases empty : payload.bytes = []
  · rw [if_pos empty]
    exact ⟨sound, fun upload isOld => .inr ⟨upload, isOld, rfl⟩⟩
  · rw [if_neg empty]
    cases found : state.registry.get? (tenant.tenantId, Sha256.hexdigestOfBytes payload.bytes) with
    | some existing =>
        obtain ⟨isKey, first, isFirst, same⟩ := sound.registered _ _ found
        obtain ⟨sameTenant, sameDigest⟩ := Prod.mk.inj isKey
        obtain ⟨fits, isFirstListed⟩ := sound.fits first isFirst
        have facts : existing.tenantId = tenant.tenantId ∧
            isSafeFilename existing.sanitizedFilename = true ∧
            PyText.canonicalUuid? existing.rawFileId = some existing.rawFileId ∧
            existing.sizeBytes = first.payload.bytes.length ∧
            existing.sha256 = Sha256.hexdigestOfBytes first.payload.bytes := by
          rw [← same]
          exact ⟨same ▸ sameTenant.symm, fits.sanitizedFilename, fits.rawFileId, fits.sizeBytes,
            fits.sha256⟩
        obtain ⟨isTenant, safe, isId, size, digest⟩ := facts
        have sameLength := lengths payload listed first.payload isFirstListed
          (sameDigest.trans digest)
        have sameId : first.receipt.rawFileId = existing.rawFileId :=
          congrArg UploadReceipt.rawFileId same
        refine ⟨sound.add ⟨tenant, payload, { existing with duplicate := true }⟩
          ⟨⟨isTenant, empty, safe, isId, sameDigest.symm, by rw [size, sameLength]⟩, listed⟩
          (fun key receipt isReceipt => .inl isReceipt) fun before isBefore sameBefore => ?_,
          fun upload isUpload => ?_⟩
        · exact (sound.unique before isBefore first isFirst (sameBefore.trans sameId.symm)).trans same
        · rcases List.mem_append.mp isUpload with isOld | isNew
          · exact .inr ⟨upload, isOld, rfl⟩
          · obtain rfl := List.mem_singleton.mp isNew
            exact .inr ⟨first, isFirst, sameId⟩
    | none =>
        refine ⟨sound.add _ ⟨⟨rfl, empty, isSafeFilename_sanitizeFilename filename, canonical, rfl,
          rfl⟩, listed⟩ (fun key receipt isReceipt => ?_) fun before isBefore sameBefore =>
          absurd sameBefore (fresh before isBefore), fun upload isUpload => ?_⟩
        · rw [Dict.get?_set] at isReceipt
          split at isReceipt
          next isKey =>
            obtain rfl := Option.some.inj isReceipt
            exact .inr ⟨isKey, rfl⟩
          next => exact .inl isReceipt
        · rcases List.mem_append.mp isUpload with isOld | isNew
          · exact .inr ⟨upload, isOld, rfl⟩
          · obtain rfl := List.mem_singleton.mp isNew
            exact .inl rfl

/-- Every call keeps the invariant and brings in no other ids. -/
theorem Sound.step
    (sound : state.Sound interpreter payloads)
    (lengths : LengthsByDigest payloads)
    {call : UploadCall}
    (admissible : Admissible payloads state call) :
    (state.step library interpreter call).Sound interpreter payloads ∧
      ∀ upload ∈ (state.step library interpreter call).received,
        upload.receipt.rawFileId ∈ uuidsOf [call] ∨
          ∃ before ∈ state.received, before.receipt.rawFileId = upload.receipt.rawFileId := by
  have old : ∀ upload ∈ state.received, upload.receipt.rawFileId ∈ uuidsOf [call] ∨
      ∃ before ∈ state.received, before.receipt.rawFileId = upload.receipt.rawFileId :=
    fun upload isUpload => .inr ⟨upload, isUpload, rfl⟩
  cases call with
  | receive tenant payload filename uuid =>
      obtain ⟨after, ids⟩ := @Sound.receive _ library _ _ sound lengths _ _ _ _ admissible
      exact ⟨after, fun upload isUpload => (ids upload isUpload).imp_left fun isId =>
        List.mem_singleton.mpr isId⟩
  | store position =>
      unfold UploadState.step
      dsimp only
      split
      next => exact ⟨sound, old⟩
      next upload isUpload =>
        obtain ⟨record, after, stored, -, soundAfter⟩ :=
          sound.exists_store lengths (List.mem_of_getElem? isUpload)
        rw [stored]
        exact ⟨soundAfter, old⟩
  | inspect tenant rawFileId =>
      exact ⟨sound.moved (RawFiles.moved_inspect library interpreter _ tenant rawFileId), old⟩
  | interrupted tenant rawFileId =>
      exact ⟨sound.moved (RawFiles.moved_interrupted library interpreter _ tenant rawFileId), old⟩
  | restart =>
      refine ⟨⟨sound.fits, fun key receipt found => ?_, sound.unique, sound.metadata,
        sound.content⟩, old⟩
      change (Dict.empty : UploadReceiptRegistry).get? key = some receipt at found
      rw [Dict.get?_empty] at found
      cases found

/-- Calls keep the invariant when what they bring in is new or expected. -/
theorem Sound.run
    (sound : state.Sound interpreter payloads)
    (lengths : LengthsByDigest payloads)
    {calls : List UploadCall}
    (listed : ∀ payload ∈ payloadsOf calls, payload ∈ payloads)
    (canonical : ∀ uuid ∈ uuidsOf calls, PyText.canonicalUuid? uuid = some uuid)
    (nodup : (uuidsOf calls).Nodup)
    (fresh : ∀ upload ∈ state.received, upload.receipt.rawFileId ∉ uuidsOf calls) :
    (state.run library interpreter calls).Sound interpreter payloads := by
  induction calls generalizing state with
  | nil => exact sound
  | cons call calls inductionHypothesis =>
      have uuids : uuidsOf (call :: calls) = uuidsOf [call] ++ uuidsOf calls :=
        List.filterMap_append (l := [call])
      have all : payloadsOf (call :: calls) = payloadsOf [call] ++ payloadsOf calls :=
        List.filterMap_append (l := [call])
      rw [uuids] at canonical nodup fresh
      rw [all] at listed
      have admissible : Admissible payloads state call :=
        ⟨fun payload isPayload => listed payload (List.mem_append_left _ isPayload),
          fun uuid isUuid => ⟨canonical uuid (List.mem_append_left _ isUuid), fun upload isUpload same =>
            fresh upload isUpload (same ▸ List.mem_append_left _ isUuid)⟩⟩
      obtain ⟨after, ids⟩ := @Sound.step _ library _ _ sound lengths _ admissible
      refine inductionHypothesis after (fun payload isPayload => listed payload
        (List.mem_append_right _ isPayload)) (fun uuid isUuid => canonical uuid
        (List.mem_append_right _ isUuid)) (List.nodup_append.mp nodup).2.1 fun upload isUpload later => ?_
      rcases ids upload isUpload with isNew | ⟨before, isBefore, same⟩
      · exact (List.nodup_append.mp nodup).2.2 _ isNew _ later rfl
      · exact fresh before isBefore (same ▸ List.mem_append_right _ later)

/-- **Uploads agree with the storage**: whatever was received, stored and inspected
before, the file name of a receipt is safe, and its upload is stored. -/
theorem store_of_received
    {calls : List UploadCall}
    (assumed : Assumed calls)
    (listed : upload ∈ (empty.run library interpreter calls).received) :
    isSafeFilename upload.receipt.sanitizedFilename = true ∧
      ∃ record, ((empty.run library interpreter calls).files.store interpreter upload.tenant
          upload.receipt.toUploadReceipt upload.payload).1 = .ok record ∧
        Matches record upload.receipt.toUploadReceipt := by
  have sound := @Sound.run _ library _ _ (sound_empty interpreter (payloadsOf calls)) assumed.lengths
    calls (fun _ => id) assumed.canonical assumed.fresh nofun
  obtain ⟨record, after, stored, agrees, -⟩ := sound.exists_store assumed.lengths listed
  exact ⟨(sound.fits upload listed).1.sanitizedFilename, record, congrArg Prod.fst stored, agrees⟩

/-- One upload is received and stored. -/
def letterCalls : List UploadCall :=
  [.receive gateTenant RawFiles.letterBytes (PyStr.ofString "a.csv") uploadId,
    .store 0]

theorem store_of_received_letter :
    ∃ receipt record, ((empty.run RawFiles.plainLibrary ⟨1000, by decide⟩ letterCalls).files.store
        ⟨1000, by decide⟩ gateTenant receipt RawFiles.letterBytes).1 = .ok record ∧
      Matches record receipt := by
  have assumed : Assumed letterCalls := by
    refine ⟨fun uuid isUuid => ?_, List.nodup_singleton _, fun left isLeft right isRight _ => ?_⟩
    · obtain rfl := List.mem_singleton.mp isUuid
      decide +kernel
    · obtain rfl := List.mem_singleton.mp isLeft
      obtain rfl := List.mem_singleton.mp isRight
      rfl
  have stored := @store_of_received ⟨1000, by decide⟩ RawFiles.plainLibrary _ letterCalls assumed
    (List.mem_singleton_self _)
  exact ⟨_, stored.2⟩

end UploadState
end QuantumAnalytics
