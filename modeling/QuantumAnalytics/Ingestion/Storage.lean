import QuantumAnalytics.Foundations.Dict
import QuantumAnalytics.Foundations.Json
import QuantumAnalytics.Foundations.Sha256
import QuantumAnalytics.Ledger.Basic

/-!
# The raw storage

What an import reads from the raw storage: the record of an upload and the bytes
that it names. Reading the bytes checks them against the record.
-/

namespace QuantumAnalytics

/-- `RawFileState`. -/
inductive RawFileState
  | received
  | validating
  | valid
  | quarantined
  | rejected
  deriving DecidableEq

/-- The codes that `RawStorageError` carries when a file is read or its state
changes. -/
inductive RawStorageErrorCode
  | rawFileIdInvalid
  | rawFileNotFound
  | storageMetadataInvalid
  | storageContentMissing
  | storageIntegrityFailed
  | rawFileStateTransitionInvalid
  | rawFileStatePayloadInvalid
  deriving DecidableEq

/-- The text of a code. -/
def RawStorageErrorCode.text : RawStorageErrorCode → String
  | rawFileIdInvalid => "RAW_FILE_ID_INVALID"
  | rawFileNotFound => "RAW_FILE_NOT_FOUND"
  | storageMetadataInvalid => "STORAGE_METADATA_INVALID"
  | storageContentMissing => "STORAGE_CONTENT_MISSING"
  | storageIntegrityFailed => "STORAGE_INTEGRITY_FAILED"
  | rawFileStateTransitionInvalid => "RAW_FILE_STATE_TRANSITION_INVALID"
  | rawFileStatePayloadInvalid => "RAW_FILE_STATE_PAYLOAD_INVALID"

/-- The members of a `RawFileRecord` that an import reads or a check of the file sets. -/
structure RawFileRecord where
  /-- The upload. -/
  rawFileId : String
  /-- The tenant. -/
  tenantId : String
  /-- The digest of the file's bytes. -/
  sha256 : String
  /-- The number of bytes. -/
  sizeBytes : Nat
  /-- The state of the file. -/
  state : RawFileState
  /-- The detected schema. -/
  schemaId : Option String
  /-- The layout of the file. -/
  structuralFingerprint : Option JsonObject
  /-- The kinds of values in the file. -/
  semanticFingerprint : Option JsonObject
  /-- Why the file was turned down. -/
  diagnostics : List String := []

/-- The files of `LocalRawStorage`. -/
structure LocalRawStorage where
  /-- The metadata files by tenant token and upload, decoded; `none` stands for
  a file that cannot be decoded. -/
  metadata : Dict (String × String) (Option RawFileRecord)
  /-- The content files by tenant token and digest. -/
  content : Dict (String × String) (List UInt8)

namespace LocalRawStorage

/-- `_tenant_token`. -/
def tenantToken (tenant : TenantContext) : String := Sha256.hexdigest tenant.tenantId

/-- `get_record`. -/
def getRecord
    (storage : LocalRawStorage)
    (tenant : TenantContext)
    (rawFileId : String) : Except RawStorageErrorCode RawFileRecord :=
  match PyText.canonicalUuid? rawFileId with
  | none => .error .rawFileIdInvalid
  | some normalizedId =>
      match storage.metadata.get? (tenantToken tenant, normalizedId) with
      | none => .error .rawFileNotFound
      | some none => .error .storageMetadataInvalid
      | some (some record) => do
          require (record.tenantId = tenant.tenantId) .rawFileNotFound
          require (record.rawFileId = normalizedId) .storageMetadataInvalid
          return record

/-- `read`. -/
def read
    (storage : LocalRawStorage)
    (tenant : TenantContext)
    (rawFileId : String) : Except RawStorageErrorCode (List UInt8) := do
  let record ← storage.getRecord tenant rawFileId
  match storage.content.get? (tenantToken tenant, record.sha256) with
  | none => .error .storageContentMissing
  | some payload => do
      require (payload.length = record.sizeBytes ∧ Sha256.hexdigestOfBytes payload = record.sha256)
        .storageIntegrityFailed
      return payload

/-- The bytes that are read have the digest of the record. -/
theorem hexdigest_of_read
    {storage : LocalRawStorage}
    {tenant : TenantContext}
    {rawFileId : String}
    {record : RawFileRecord}
    {payload : List UInt8}
    (found : storage.getRecord tenant rawFileId = .ok record)
    (done : storage.read tenant rawFileId = .ok payload) :
    Sha256.hexdigestOfBytes payload = record.sha256 := by
  simp only [read, found, Checks.bind_eq_ok, Except.ok.injEq, exists_eq_left'] at done
  split at done
  · exact absurd done (by simp)
  · simp only [Checks.bind_done_eq_ok, Checks.require_eq_ok, Checks.pure_eq_ok] at done
    obtain ⟨⟨_, digest⟩, rfl⟩ := done
    exact digest

end LocalRawStorage
end QuantumAnalytics
