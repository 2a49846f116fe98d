import QuantumAnalytics.Ingestion.Fingerprints

/-!
# The raw storage as files

Metadata files hold bytes, which every call decodes and encodes. An upload is stored
as `RECEIVED`; an inspection moves it to `VALIDATING` and then to a state that it
never leaves.
-/

namespace QuantumAnalytics

/-- A `bytes` object. -/
structure PyBytes where
  bytes : List UInt8
  /-- Its length is at most `sys.maxsize`. -/
  fits : bytes.length < maxLength

/-! ### Reading a stored file -/

/-- What is raised while a stored file is read. -/
inductive ReadException
  | unicodeDecodeError
  | csvError
  | stopIteration
  | osError
  | valueError
  | runtimeError
  deriving DecidableEq

/-- The exceptions that `inspect` names. -/
def ReadException.isCaught : ReadException → Bool
  | .runtimeError => false
  | _ => true

/-- What the standard library decides about a file. -/
structure ReaderLibrary where
  /-- `csv.Sniffer().sniff(sample, delimiters=",;\t")`; `none` is a `csv.Error`. -/
  sniff : List Char → Option CsvDialect
  /-- How many bytes are decoded when the header of a file that is not UTF-8 has been
  read; `none` is a `UnicodeDecodeError` before that. -/
  readAhead : List UInt8 → Option Nat

namespace ReaderLibrary

/-- The text that is decoded when the header has been read. -/
def headerText (library : ReaderLibrary) (payload : List UInt8) : Except ReadException String :=
  match decodeUtf8Sig payload with
  | some text => .ok text
  | none =>
      requireSome ((library.readAhead payload).bind fun count => decodeUtf8Sig (payload.take count))
        .unicodeDecodeError

/-- `detect_csv_schema` of a text. -/
def detectText (library : ReaderLibrary) (text : List Char) :
    Except ReadException SchemaDetection := do
  let dialect ← requireSome (library.sniff (text.take 4096)) .csvError
  let first ← (dialect.nextRecord .start (csvLines text)).mapError fun _ => .csvError
  let (headers, _) ← requireSome first .stopIteration
  return detection dialect headers

/-- `detect_csv_schema`. -/
def detect (library : ReaderLibrary) (payload : List UInt8) :
    Except ReadException SchemaDetection := do
  library.detectText (← library.headerText payload).toList

/-- The library without its exceptions. -/
def gate (library : ReaderLibrary) : GateLibrary where
  sniff := library.sniff
  detectAhead payload := (library.detect payload).toOption

end ReaderLibrary

/-- How an error in the rows is raised. -/
def CsvRowsError.readException : CsvRowsError → ReadException
  | .parse => .csvError
  | .shape => .valueError

/-- `_validated_rows` of a text. -/
def readTextRows (text : List Char) : Except ReadException (List RawPayload) := do
  let first ← (CsvParser.start.nextRecord (csvLines text)).mapError fun _ => .csvError
  first.elim (.ok []) fun (header, rest) =>
    (csvRows header rest.length rest).mapError CsvRowsError.readException

/-- `_validated_rows`. -/
def readRows (payload : List UInt8) : Except ReadException (List RawPayload) := do
  let text ← requireSome (decodeUtf8Sig payload) .unicodeDecodeError
  readTextRows text.toList

/-- What `inspect` makes of the bytes of a file. `_infer_scalar_type` catches what its
conversions raise. -/
def readVerdict (library : ReaderLibrary) (payload : List UInt8) :
    Except ReadException (RawFileState × TransitionPayload × SchemaDetection) := do
  let detected ← library.detect payload
  if detected.status = .unknown then
    return (.quarantined,
      { structuralFingerprint := some detected.structuralFingerprint
        diagnostics :=
          if detected.diagnostics = [] then ["SCHEMA_UNKNOWN"] else detected.diagnostics },
      detected)
  else do
    let rows ← readRows payload
    return (.valid,
      { schemaId := detected.schemaId
        structuralFingerprint := some detected.structuralFingerprint
        semanticFingerprint := some (semanticFingerprint rows) },
      detected)

/-! ### Files -/

/-- The codes that `RawStorageError` carries when a file is stored. -/
inductive UploadErrorCode
  | uploadBytesRequired
  | uploadFilenameInvalid
  | uploadReceiptMismatch
  | storageMetadataConflict
  deriving DecidableEq

/-- The text of a code. -/
def UploadErrorCode.text : UploadErrorCode → String
  | uploadBytesRequired => "UPLOAD_BYTES_REQUIRED"
  | uploadFilenameInvalid => "UPLOAD_FILENAME_INVALID"
  | uploadReceiptMismatch => "UPLOAD_RECEIPT_MISMATCH"
  | storageMetadataConflict => "STORAGE_METADATA_CONFLICT"

/-- What a call of the storage raises. -/
inductive StorageFailure
  | storage (code : RawStorageErrorCode)
  | upload (code : UploadErrorCode)
  | read (raised : ReadException)
  /-- A `ValueError` of the encoder. -/
  | value
  /-- `OverflowError`. -/
  | overflow
  /-- `RecursionError`. -/
  | recursion
  deriving DecidableEq

/-- How an exception of `_record_from_payload` leaves a call. -/
def MetadataFailure.storageFailure : MetadataFailure → StorageFailure
  | .invalid => .storage .storageMetadataInvalid
  | .overflow => .overflow
  | .recursion => .recursion

/-- How an exception of `_record_payload` leaves a call. -/
def writeFailure : PyJson.DumpsError → StorageFailure
  | .value => .value
  | .recursion => .recursion

/-- The diagnostic of an exception that `inspect` catches. -/
def StorageFailure.diagnostic? : StorageFailure → Option String
  | .storage code => some code.text
  | .upload code => some code.text
  | .value => some "CSV_SCHEMA_READ_FAILED"
  | .read raised => if raised.isCaught then some "CSV_SCHEMA_READ_FAILED" else none
  | .overflow => none
  | .recursion => none

/-- The description of a state, as Python holds it. -/
def TransitionPayload.stored (description : TransitionPayload) : StatePayload where
  schemaId := description.schemaId.map PyStr.ofString
  structuralFingerprint := description.structuralFingerprint.map PyJson.ofObject
  semanticFingerprint := description.semanticFingerprint.map PyJson.ofObject
  diagnostics := description.diagnostics.map PyStr.ofString

/-- The states that are never left: `_TERMINAL_STATES`. -/
def RawFileState.isTerminal : RawFileState → Bool
  | .valid | .quarantined | .rejected => true
  | _ => false

/-- The record of a file after a transition. -/
def RawFileMetadata.moved (current : RawFileMetadata) (state : RawFileState)
    (description : TransitionPayload) : RawFileMetadata :=
  { current with toStatePayload := description.stored, state }

/-- The members of an `ImmutableUploadReceipt` that `store` reads. -/
structure UploadReceipt where
  rawFileId : String
  tenantId : String
  sha256 : String
  sizeBytes : Int
  sanitizedFilename : String

/-- The files of `LocalRawStorage`. -/
structure RawFiles where
  /-- The metadata files by tenant token and upload. -/
  metadata : Dict (String × String) (List UInt8)
  /-- The content files by tenant token and digest. -/
  content : Dict (String × String) PyBytes

/-- What `inspect` returns. -/
structure InspectionResult where
  /-- The record of the file. -/
  record : RawFileMetadata
  /-- What was detected. -/
  detection : Option SchemaDetection

namespace RawFiles

/-- No files. -/
def empty : RawFiles := ⟨Dict.empty, Dict.empty⟩

/-- The key of the metadata of an upload. -/
def metadataKey (tenant : TenantContext) (rawFileId : String) : String × String :=
  (LocalRawStorage.tenantToken tenant, rawFileId)

/-- `get_record`. -/
def getRecord (interpreter : Interpreter) (files : RawFiles) (tenant : TenantContext)
    (rawFileId : String) : Except StorageFailure RawFileMetadata := do
  let normalizedId ← requireSome (PyText.canonicalUuid? rawFileId) (.storage .rawFileIdInvalid)
  let payload ← requireSome (files.metadata.get? (metadataKey tenant normalizedId))
    (.storage .rawFileNotFound)
  let record ← (recordFromPayload interpreter payload).mapError MetadataFailure.storageFailure
  require (record.tenantId = PyStr.ofString tenant.tenantId) (.storage .rawFileNotFound)
  require (record.rawFileId = normalizedId) (.storage .storageMetadataInvalid)
  return record

/-- A content file has the bytes of a digest and a length. -/
def holds (content : PyBytes) (digest : String) (size : Int) : Prop :=
  (content.bytes.length : Int) = size ∧ Sha256.hexdigestOfBytes content.bytes = digest

instance (content : PyBytes) (digest : String) (size : Int) : Decidable (holds content digest size) :=
  inferInstanceAs (Decidable (_ ∧ _))

/-- `read`. -/
def read (interpreter : Interpreter) (files : RawFiles) (tenant : TenantContext)
    (rawFileId : String) : Except StorageFailure PyBytes := do
  let record ← files.getRecord interpreter tenant rawFileId
  let content ← requireSome
    (files.content.get? (LocalRawStorage.tenantToken tenant, record.sha256))
    (.storage .storageContentMissing)
  require (holds content record.sha256 record.sizeBytes) (.storage .storageIntegrityFailed)
  return content

/-- The metadata of a record is written. -/
def writeRecord (interpreter : Interpreter) (files : RawFiles) (tenant : TenantContext)
    (record : RawFileMetadata) : Except StorageFailure RawFiles := do
  let payload ← (recordPayload interpreter record).mapError writeFailure
  return { files with
    metadata := files.metadata.set (metadataKey tenant record.rawFileId) payload }

/-- `transition`, with the files after it. -/
def transition (interpreter : Interpreter) (files : RawFiles) (tenant : TenantContext)
    (rawFileId : String) (state : RawFileState) (description : TransitionPayload) :
    Except StorageFailure (RawFileMetadata × RawFiles) := do
  let current ← files.getRecord interpreter tenant rawFileId
  require (state ∈ current.state.allowedTransitions) (.storage .rawFileStateTransitionInvalid)
  require (description.stored.isValidFor state = true) (.storage .rawFileStatePayloadInvalid)
  let after ← files.writeRecord interpreter tenant (current.moved state description)
  return (current.moved state description, after)

/-- The `try` block of `inspect`. -/
def attempt (library : ReaderLibrary) (interpreter : Interpreter) (files : RawFiles)
    (tenant : TenantContext) (rawFileId : String) :
    Except StorageFailure (InspectionResult × RawFiles) := do
  let content ← files.read interpreter tenant rawFileId
  let (state, description, detected) ← (readVerdict library content.bytes).mapError .read
  let (record, after) ← files.transition interpreter tenant rawFileId state description
  return (⟨record, some detected⟩, after)

/-- The part of `inspect` after the state is `VALIDATING`. -/
def check (library : ReaderLibrary) (interpreter : Interpreter) (files : RawFiles)
    (tenant : TenantContext) (rawFileId : String) :
    Except StorageFailure InspectionResult × RawFiles :=
  match files.attempt library interpreter tenant rawFileId with
  | .ok (result, after) => (.ok result, after)
  | .error failure =>
      match failure.diagnostic? with
      | none => (.error failure, files)
      | some diagnostic =>
          match files.transition interpreter tenant rawFileId .rejected
              { diagnostics := [diagnostic] } with
          | .error later => (.error later, files)
          | .ok (record, after) => (.ok ⟨record, none⟩, after)

/-- `CsvSchemaGate.inspect`, with the files after it. -/
def inspect (library : ReaderLibrary) (interpreter : Interpreter) (files : RawFiles)
    (tenant : TenantContext) (rawFileId : String) :
    Except StorageFailure InspectionResult × RawFiles :=
  match files.getRecord interpreter tenant rawFileId with
  | .error failure => (.error failure, files)
  | .ok current =>
      match current.state with
      | .received =>
          match files.transition interpreter tenant rawFileId .validating {} with
          | .error failure => (.error failure, files)
          | .ok (_, started) => started.check library interpreter tenant rawFileId
      | .validating => files.check library interpreter tenant rawFileId
      | _ => (.ok ⟨current, none⟩, files)

/-- The checks of `store` in front of its files: the upload and the digest. -/
def checkUpload (tenant : TenantContext) (receipt : UploadReceipt) (payload : PyBytes) :
    Except StorageFailure (String × String) := do
  require (receipt.tenantId = tenant.tenantId) (.storage .rawFileNotFound)
  require (payload.bytes ≠ []) (.upload .uploadBytesRequired)
  require (isSafeFilename receipt.sanitizedFilename = true) (.upload .uploadFilenameInvalid)
  let rawFileId ← requireSome (PyText.canonicalUuid? receipt.rawFileId) (.storage .rawFileIdInvalid)
  let digest := Sha256.hexdigestOfBytes payload.bytes
  require (digest = receipt.sha256 ∧ (payload.bytes.length : Int) = receipt.sizeBytes)
    (.upload .uploadReceiptMismatch)
  return (rawFileId, digest)

/-- The content file of an upload is found as it should be, or written. -/
def storeContent (files : RawFiles) (tenant : TenantContext) (digest : String) (payload : PyBytes) :
    Except StorageFailure RawFiles :=
  let key := (LocalRawStorage.tenantToken tenant, digest)
  match files.content.get? key with
  | some existing => do
      require (holds existing digest payload.bytes.length) (.storage .storageIntegrityFailed)
      return files
  | none => .ok { files with content := files.content.set key payload }

/-- The record of a new upload. -/
def receivedRecord (tenant : TenantContext) (receipt : UploadReceipt)
    (rawFileId digest : String) (payload : PyBytes) : RawFileMetadata where
  schemaId := none
  structuralFingerprint := none
  semanticFingerprint := none
  diagnostics := []
  rawFileId := rawFileId
  tenantId := PyStr.ofString tenant.tenantId
  sha256 := digest
  sizeBytes := payload.bytes.length
  sanitizedFilename := receipt.sanitizedFilename
  storageKey := canonicalStorageKey (PyStr.ofString tenant.tenantId) digest
  state := .received

/-- `store` where the metadata of the upload exists. -/
def storeAgain (interpreter : Interpreter) (files : RawFiles) (tenant : TenantContext)
    (receipt : UploadReceipt) (payload : PyBytes) (rawFileId digest : String)
    (metadata : List UInt8) : Except StorageFailure (RawFileMetadata × RawFiles) := do
  let existing ← (recordFromPayload interpreter metadata).mapError MetadataFailure.storageFailure
  require (existing.rawFileId = rawFileId ∧ existing.sha256 = digest ∧
      existing.tenantId = PyStr.ofString tenant.tenantId ∧
      existing.sizeBytes = payload.bytes.length ∧
      existing.sanitizedFilename = receipt.sanitizedFilename) (.upload .storageMetadataConflict)
  let after ← files.storeContent tenant digest payload
  return (existing, after)

/-- `store`, with the files after it. -/
def store (interpreter : Interpreter) (files : RawFiles) (tenant : TenantContext)
    (receipt : UploadReceipt) (payload : PyBytes) :
    Except StorageFailure RawFileMetadata × RawFiles :=
  match checkUpload tenant receipt payload with
  | .error failure => (.error failure, files)
  | .ok (rawFileId, digest) =>
      match files.metadata.get? (metadataKey tenant rawFileId) with
      | some metadata =>
          match files.storeAgain interpreter tenant receipt payload rawFileId digest metadata with
          | .error failure => (.error failure, files)
          | .ok (existing, after) => (.ok existing, after)
      | none =>
          match files.storeContent tenant digest payload with
          | .error failure => (.error failure, files)
          | .ok stored =>
              -- The content file stays when the metadata cannot be written.
              let record := receivedRecord tenant receipt rawFileId digest payload
              match stored.writeRecord interpreter tenant record with
              | .error failure => (.error failure, stored)
              | .ok after => (.ok record, after)

end RawFiles

/-! ### Calls -/

/-- A call of the storage or of the gate. -/
inductive StorageCall
  | store (tenant : TenantContext) (receipt : UploadReceipt) (payload : PyBytes)
  | inspect (tenant : TenantContext) (rawFileId : String)
  /-- An inspection that is interrupted after its first transition. -/
  | interrupted (tenant : TenantContext) (rawFileId : String)

namespace RawFiles

/-- A call, with the files after it. -/
def perform (library : ReaderLibrary) (interpreter : Interpreter) (files : RawFiles) :
    StorageCall → Except StorageFailure RawFileMetadata × RawFiles
  | .store tenant receipt payload => files.store interpreter tenant receipt payload
  | .inspect tenant rawFileId =>
      let (result, after) := files.inspect library interpreter tenant rawFileId
      (result.map InspectionResult.record, after)
  | .interrupted tenant rawFileId =>
      match files.transition interpreter tenant rawFileId .validating {} with
      | .error failure => (.error failure, files)
      | .ok (record, after) => (.ok record, after)

/-- The files after some calls. -/
def run (library : ReaderLibrary) (interpreter : Interpreter) (files : RawFiles)
    (calls : List StorageCall) : RawFiles :=
  calls.foldl (fun files call => (files.perform library interpreter call).2) files

end RawFiles
end QuantumAnalytics
