import QuantumAnalytics.Ingestion.Commit
import QuantumAnalytics.Ingestion.Representation

/-!
# From an upload to an import

Every record goes back to an upload, and it is settled by an inspection after it. The
ingestor reads files with a valid record, so it reads what was uploaded and then inspected.
-/

namespace QuantumAnalytics
namespace RawFiles

variable {interpreter : Interpreter} {library : ReaderLibrary} {files after : RawFiles}
  {tenant : TenantContext} {rawFileId : String} {record : RawFileMetadata}
  {calls : List StorageCall} {call : StorageCall} {key : String × String}

/-- A tenant is known by its id. -/
theorem eq_of_ofString_tenantId
    {left right : TenantContext}
    (same : PyStr.ofString left.tenantId = PyStr.ofString right.tenantId) : left = right := by
  cases left
  cases right
  cases PyStr.ofString_injective same
  rfl

/-! ### Records of a run -/

/-- A record is that of an upload. -/
structure UploadedBy (tenant : TenantContext) (receipt : UploadReceipt) (payload : PyBytes)
    (key : String × String) (record : RawFileMetadata) : Prop where
  isOf : IsOf record tenant receipt payload record.rawFileId
    (Sha256.hexdigestOfBytes payload.bytes)
  isId : PyText.canonicalUuid? receipt.rawFileId = some record.rawFileId
  isKey : key = metadataKey tenant record.rawFileId

/-- A record goes back to an upload of a run, and is only settled when `settled` says so
of what came after the upload. -/
def TracedBy (calls : List StorageCall)
    (settled : List StorageCall → TenantContext → String → Prop) (key : String × String)
    (record : RawFileMetadata) : Prop :=
  ∃ tenant receipt payload before since,
    calls = before ++ StorageCall.store tenant receipt payload :: since ∧
    UploadedBy tenant receipt payload key record ∧
    (record.state.isTerminal = true → settled since tenant record.rawFileId)

/-- An upload was inspected. -/
def Inspected (since : List StorageCall) (tenant : TenantContext) (rawFileId : String) : Prop :=
  ∃ name, StorageCall.inspect tenant name ∈ since ∧ PyText.canonicalUuid? name = some rawFileId

/-- An upload was inspected before a call or by it. -/
def InspectedWith (call : StorageCall) (since : List StorageCall) :
    TenantContext → String → Prop := Inspected (since ++ [call])

theorem Inspected.append
    {since : List StorageCall}
    (inspected : Inspected since tenant rawFileId)
    (later : List StorageCall) : Inspected (since ++ later) tenant rawFileId := by
  obtain ⟨name, listed, isId⟩ := inspected
  exact ⟨name, List.mem_append_left _ listed, isId⟩

theorem tracedBy_snoc
    (traced : TracedBy calls (InspectedWith call) key record) :
    TracedBy (calls ++ [call]) Inspected key record := by
  obtain ⟨tenant, receipt, payload, before, since, rfl, uploaded, settled⟩ := traced
  exact ⟨tenant, receipt, payload, before, since ++ [call], by
    rw [List.append_assoc, List.cons_append], uploaded, settled⟩

theorem tracedBy_with
    (traced : TracedBy calls Inspected key record)
    (call : StorageCall) : TracedBy calls (InspectedWith call) key record := by
  obtain ⟨tenant, receipt, payload, before, since, split, uploaded, settled⟩ := traced
  exact ⟨tenant, receipt, payload, before, since, split, uploaded,
    fun terminal => (settled terminal).append [call]⟩

/-- Every metadata file is that of a record that is traced, and can be written. -/
structure AllTraced (interpreter : Interpreter) (calls : List StorageCall)
    (settled : List StorageCall → TenantContext → String → Prop) (files : RawFiles) : Prop where
  traced : AllHave interpreter (TracedBy calls settled) files
  coded : AllCoded interpreter files

/-! ### Transitions -/

/-- A transition keeps the uploads of records; only the inspection of a file settles it. -/
theorem allTraced_transition
    {state : RawFileState}
    {description : TransitionPayload}
    (all : AllTraced interpreter calls (InspectedWith call) files)
    (codable : description.Codable)
    (settles : state.isTerminal = true → call = .inspect tenant rawFileId)
    (moved : files.transition interpreter tenant rawFileId state description =
      .ok (record, after)) : AllTraced interpreter calls (InspectedWith call) after := by
  obtain ⟨isCoded, coded⟩ := coded_of_transition all.coded codable moved
  refine ⟨?_, coded⟩
  obtain ⟨current, written, isCurrent, -, -, rfl, isWritten, rfl⟩ := transition_eq_ok.mp moved
  obtain ⟨metadata, isId, isMetadata, isRecord, isTenant⟩ := getRecord_eq_ok.mp isCurrent
  intro other payload found
  by_cases same : other = metadataKey tenant current.rawFileId
  · subst same
    obtain rfl := Option.some.inj ((Dict.get?_set_self _ _ _).symm.trans found)
    obtain ⟨again, isAgain, isRead⟩ := isCoded.readBack
    obtain rfl := Except.ok.inj (isWritten.symm.trans isAgain)
    obtain ⟨traced, isTraced, owner, receipt, content, before, since, split, uploaded, -⟩ :=
      all.traced _ metadata isMetadata
    obtain rfl := Except.ok.inj (isRecord.symm.trans isTraced)
    obtain rfl := eq_of_ofString_tenantId (uploaded.isOf.tenantId.symm.trans isTenant)
    refine ⟨_, isRead, owner, receipt, content, before, since, split,
      ⟨⟨rfl, uploaded.isOf.sha256, uploaded.isOf.tenantId, uploaded.isOf.sizeBytes,
        uploaded.isOf.sanitizedFilename⟩, uploaded.isId, rfl⟩, fun terminal => ?_⟩
    obtain rfl := settles terminal
    exact ⟨rawFileId, List.mem_append_right _ List.mem_cons_self, isId⟩
  · exact all.traced other payload ((Dict.get?_set_of_ne _ same _).symm.trans found)

theorem allTraced_check
    (all : AllTraced interpreter calls (InspectedWith (.inspect tenant rawFileId)) files)
    (library : ReaderLibrary) :
    AllTraced interpreter calls (InspectedWith (.inspect tenant rawFileId))
      (files.check library interpreter tenant rawFileId).2 := by
  unfold check
  split
  next result after attempted =>
    simp only [attempt, Checks.bind_eq_ok, Checks.mapError_eq_ok, Checks.pure_eq_ok, Prod.exists,
      Prod.mk.injEq] at attempted
    obtain ⟨_, -, _, _, _, isVerdict, _, _, moved, -, rfl⟩ := attempted
    exact allTraced_transition all (readVerdict_spec isVerdict).2.2.2 (fun _ => rfl) moved
  next =>
    split
    next => exact all
    next =>
      split
      next => exact all
      next moved => exact allTraced_transition all (codable_of_none _) (fun _ => rfl) moved

theorem allTraced_inspect
    (all : AllTraced interpreter calls (InspectedWith (.inspect tenant rawFileId)) files)
    (library : ReaderLibrary) :
    AllTraced interpreter calls (InspectedWith (.inspect tenant rawFileId))
      (files.inspect library interpreter tenant rawFileId).2 := by
  unfold inspect
  split
  next => exact all
  next =>
    split
    next =>
      split
      next => exact all
      next moved =>
        exact allTraced_check
          (allTraced_transition all (codable_of_none []) (fun _ => rfl) moved) library
    next => exact allTraced_check all library
    next => exact all

/-! ### Runs -/

/-- An upload is traced to its own call. -/
theorem allTraced_store
    (all : AllTraced interpreter calls Inspected files)
    (tenant : TenantContext)
    (receipt : UploadReceipt)
    (payload : PyBytes) :
    AllTraced interpreter (calls ++ [.store tenant receipt payload]) Inspected
      (files.store interpreter tenant receipt payload).2 := by
  have stores := storeOutcome interpreter files tenant receipt payload
  refine ⟨stores.records ?_ ?_, (coded_of_store all.coded Prod.mk.eta.symm).2⟩
  · intro first isFirst received _
    obtain ⟨rawFileId, digest, checked, isOf, -⟩ := stores.of_ok isFirst
    obtain ⟨isId, rfl⟩ := checkUpload_spec checked
    obtain rfl := isOf.rawFileId
    refine ⟨tenant, receipt, payload, calls, [], rfl, ⟨isOf, isId, rfl⟩, fun terminal => ?_⟩
    rw [received] at terminal
    cases terminal
  · intro key metadata found
    obtain ⟨record, isRead, traced⟩ := all.traced key metadata found
    exact ⟨record, isRead, tracedBy_snoc (tracedBy_with traced _)⟩

theorem allTraced_perform
    (all : AllTraced interpreter calls Inspected files)
    (library : ReaderLibrary)
    (call : StorageCall) :
    AllTraced interpreter (calls ++ [call]) Inspected
      (files.perform library interpreter call).2 := by
  have before : AllTraced interpreter calls (InspectedWith call) files := by
    refine ⟨fun key payload found => ?_, all.coded⟩
    obtain ⟨record, isRead, traced⟩ := all.traced key payload found
    exact ⟨record, isRead, tracedBy_with traced call⟩
  have later : ∀ {after}, AllTraced interpreter calls (InspectedWith call) after →
      AllTraced interpreter (calls ++ [call]) Inspected after := by
    refine fun all => ⟨fun key payload found => ?_, all.coded⟩
    obtain ⟨record, isRead, traced⟩ := all.traced key payload found
    exact ⟨record, isRead, tracedBy_snoc traced⟩
  cases call with
  | store tenant receipt payload =>
      rw [perform_store]
      exact allTraced_store all tenant receipt payload
  | inspect tenant rawFileId =>
      rw [perform_inspect]
      exact later (allTraced_inspect before library)
  | interrupted tenant rawFileId =>
      unfold perform
      dsimp only
      split
      next => exact later before
      next moved =>
        exact later (allTraced_transition before (codable_of_none []) (fun terminal => by
          cases terminal) moved)

/-- A run without its last call. -/
theorem run_snoc (calls : List StorageCall) (call : StorageCall) :
    empty.run library interpreter (calls ++ [call]) =
      ((empty.run library interpreter calls).perform library interpreter call).2 :=
  List.foldl_append

theorem allTraced_run
    (library : ReaderLibrary)
    (interpreter : Interpreter)
    (calls : List StorageCall) :
    AllTraced interpreter calls Inspected (empty.run library interpreter calls) := by
  induction calls using List.reverseRecOn with
  | nil =>
      refine ⟨fun key payload found => ?_, fun key payload found => ?_⟩ <;>
      · rw [run, List.foldl_nil, empty, Dict.get?_empty] at found
        cases found
  | append_singleton calls call inductionHypothesis =>
      rw [run_snoc]
      exact allTraced_perform inductionHypothesis library call

/-- The content files of a run are payloads of its uploads. -/
theorem content_run
    (library : ReaderLibrary)
    (interpreter : Interpreter)
    {calls : List StorageCall}
    {content : PyBytes}
    (found : (empty.run library interpreter calls).content.get? key = some content) :
    ∃ tenant receipt, StorageCall.store tenant receipt content ∈ calls := by
  induction calls using List.reverseRecOn with
  | nil =>
      rw [run, List.foldl_nil, empty, Dict.get?_empty] at found
      cases found
  | append_singleton calls call inductionHypothesis =>
      have earlier : (empty.run library interpreter calls).content.get? key = some content →
          ∃ tenant receipt, StorageCall.store tenant receipt content ∈ calls ++ [call] := by
        intro isOld
        obtain ⟨tenant, receipt, listed⟩ := inductionHypothesis isOld
        exact ⟨tenant, receipt, List.mem_append_left _ listed⟩
      rw [run_snoc] at found
      cases call with
      | store tenant receipt payload =>
          rw [perform_store] at found
          rcases (storeOutcome interpreter _ tenant receipt payload).content found with isOld | rfl
          · exact earlier isOld
          · exact ⟨tenant, receipt, List.mem_append_right _ List.mem_cons_self⟩
      | inspect tenant rawFileId =>
          have moved := evolves_of_moved (moved_inspect library interpreter
            (empty.run library interpreter calls) tenant rawFileId)
          exact earlier (moved.content ▸ found)
      | interrupted tenant rawFileId =>
          have moved := evolves_of_moved (moved_interrupted library interpreter
            (empty.run library interpreter calls) tenant rawFileId)
          exact earlier (moved.content ▸ found)

/-! ### Imports -/

/-- A record that is found after a run is traced. -/
theorem traced_of_getRecord
    (found : (empty.run library interpreter calls).getRecord interpreter tenant rawFileId =
      .ok record) :
    ∃ receipt payload before since,
      calls = before ++ StorageCall.store tenant receipt payload :: since ∧
      UploadedBy tenant receipt payload (metadataKey tenant record.rawFileId) record ∧
      (record.state.isTerminal = true → Inspected since tenant record.rawFileId) := by
  obtain ⟨metadata, -, isMetadata, isRecord, isTenant⟩ := getRecord_eq_ok.mp found
  obtain ⟨traced, isTraced, owner, receipt, payload, before, since, split, uploaded, settled⟩ :=
    (allTraced_run library interpreter calls).traced _ metadata isMetadata
  obtain rfl := Except.ok.inj (isRecord.symm.trans isTraced)
  obtain rfl := eq_of_ofString_tenantId (uploaded.isOf.tenantId.symm.trans isTenant)
  exact ⟨receipt, payload, before, since, split, uploaded, settled⟩

/-- An import is opened on bytes of a call that have the digest of an upload of its tenant,
which was inspected afterwards. -/
def OpensUpload (calls : List StorageCall) (tenant : TenantContext) (context : ImportContext)
    (rows : List RawPayload) : Prop :=
  ∃ receipt payload before since rawFileId,
    calls = before ++ StorageCall.store tenant receipt payload :: since ∧
    PyText.canonicalUuid? context.rawFileId = some rawFileId ∧
    PyText.canonicalUuid? receipt.rawFileId = some rawFileId ∧
    Inspected since tenant rawFileId ∧
    ∃ content, (∃ owner receipt, StorageCall.store owner receipt content ∈ calls) ∧
      Sha256.hexdigestOfBytes content.bytes = Sha256.hexdigestOfBytes payload.bytes ∧
      strictRows content.bytes = .ok rows ∧ context.tenantId = tenant.tenantId ∧
      context.sourceFileSha256 = Sha256.hexdigestOfBytes payload.bytes

theorem opensUpload_of_openImport
    {storage : LocalRawStorage}
    {arguments : IngestArguments}
    {context : ImportContext}
    {rows : List RawPayload}
    (represents : Represents interpreter (empty.run library interpreter calls) storage)
    (opened : openImport storage arguments = .ok (context, rows)) :
    OpensUpload calls arguments.tenant context rows ∧ context.rawFileId = arguments.rawFileId := by
  obtain ⟨-, -, -, -, ingestedAt, record, structural, semantic, payload, -, isRecord, valid, -, -,
    -, isPayload, isRows, rfl⟩ := openImport_eq_ok.mp opened
  have records := corresponds_getRecord represents arguments.tenant arguments.rawFileId
  have contents := corresponds_read represents arguments.tenant arguments.rawFileId
  rw [isRecord] at records
  rw [isPayload] at contents
  obtain ⟨metadata, found, sanitizedFilename, rfl, -⟩ := records.exists_of_ok
  obtain ⟨content, isRead, rfl⟩ := contents.exists_of_ok
  obtain ⟨_, isId, -⟩ := getRecord_eq_ok.mp found
  obtain ⟨receipt, upload, before, since, split, uploaded, settled⟩ := traced_of_getRecord found
  simp only [read, found, Checks.ok_bind, Checks.bind_eq_ok, Checks.requireSome_eq_ok,
    Checks.require_eq_ok, Checks.pure_eq_ok, exists_const] at isRead
  obtain ⟨_, isContent, isHeld, rfl⟩ := isRead
  have terminal : (record.stored sanitizedFilename).state.isTerminal = true := by
    rw [RawFileRecord.stored, valid]
    rfl
  exact ⟨⟨receipt, upload, before, since, _, split, isId, uploaded.isId, settled terminal, _,
    content_run library interpreter isContent, isHeld.2.trans uploaded.isOf.sha256, isRows, rfl,
    uploaded.isOf.sha256⟩, rfl⟩

end RawFiles
end QuantumAnalytics
