import QuantumAnalytics.Foundations.Joining
import QuantumAnalytics.Ingestion.Rows

/-!
# Identities

The ids that are digests of joined fields. The fields are joined with the unit
separator as they are, so two different tuples have one id when they are cut
into the same pieces; the fields of most tuples are free texts, which may hold
the separator. Only the id of a source row has a single free field.
-/

namespace QuantumAnalytics

/-- `_exception_id`. -/
def exceptionId (parts : List String) : String := "exc-" ++ PyText.takeText 24 (digest parts)

/-- The tuples of fields that have an id. -/
inductive Identity
  /-- `file_idempotency_key`. -/
  | file (organizationId marketplaceAccountId sourceFileSha256 adapterId adapterVersion : String)
  /-- `source_record_idempotency_key`. -/
  | sourceRecord (importBatchId sourceRowKey rawRowHash : String)
  /-- `event_idempotency_key`. -/
  | event (organizationId marketplaceAccountId eventType stableBusinessKey : String)
      (revision : Int) (semanticPayloadHash : String)
  /-- `_batch_id`. -/
  | batch (tenantId sourceFileSha256 schemaVersion adapterId adapterVersion : String)
  /-- `_source_record_id`. -/
  | row (tenantId sourceFileSha256 : String) (rowNumber : Nat) (rawRowHash : String)
  /-- `_exception_id` of a metric without a value. -/
  | metricException (recordId reason : String)
  /-- `_exception_id` of a field of a configuration form, or of its start of validity. -/
  | configurationException (formId fieldId cause : String)
  /-- `_exception_id` of an uploaded file. -/
  | importException (rawFileId cause : String)
  deriving DecidableEq

/-- The functions that make an id. -/
inductive IdentityKind
  | file
  | sourceRecord
  | event
  | batch
  | row
  | exception
  deriving DecidableEq

namespace Identity

/-- The function that makes the id. -/
def kind : Identity → IdentityKind
  | file .. => .file
  | sourceRecord .. => .sourceRecord
  | event .. => .event
  | batch .. => .batch
  | row .. => .row
  | metricException .. => .exception
  | configurationException .. => .exception
  | importException .. => .exception

/-- The joined fields. -/
def parts : Identity → List String
  | file organizationId marketplaceAccountId sourceFileSha256 adapterId adapterVersion =>
      [organizationId, marketplaceAccountId, sourceFileSha256, adapterId, adapterVersion]
  | sourceRecord importBatchId sourceRowKey rawRowHash => [importBatchId, sourceRowKey, rawRowHash]
  | event organizationId marketplaceAccountId eventType stableBusinessKey revision
      semanticPayloadHash =>
      [organizationId, marketplaceAccountId, eventType, stableBusinessKey, toString revision,
        semanticPayloadHash]
  | batch tenantId sourceFileSha256 schemaVersion adapterId adapterVersion =>
      [tenantId, sourceFileSha256, schemaVersion, adapterId, adapterVersion]
  | row tenantId sourceFileSha256 rowNumber rawRowHash =>
      [tenantId, sourceFileSha256, toString rowNumber, rawRowHash]
  | metricException recordId reason => ["metric", recordId, reason]
  | configurationException formId fieldId cause => ["configuration", formId, fieldId, cause]
  | importException rawFileId cause => ["import", rawFileId, cause]

/-- The id. -/
def id : Identity → String
  | file organizationId marketplaceAccountId sourceFileSha256 adapterId adapterVersion =>
      fileIdempotencyKey organizationId marketplaceAccountId sourceFileSha256 adapterId
        adapterVersion
  | sourceRecord importBatchId sourceRowKey rawRowHash =>
      sourceRecordIdempotencyKey importBatchId sourceRowKey rawRowHash
  | event organizationId marketplaceAccountId eventType stableBusinessKey revision
      semanticPayloadHash =>
      eventIdempotencyKey organizationId marketplaceAccountId eventType stableBusinessKey revision
        semanticPayloadHash
  | batch tenantId sourceFileSha256 schemaVersion adapterId adapterVersion =>
      "batch-" ++ PyText.takeText 24
        (digest [tenantId, sourceFileSha256, schemaVersion, adapterId, adapterVersion])
  | row tenantId sourceFileSha256 rowNumber rawRowHash =>
      "src-" ++ PyText.takeText 32
        (digest [tenantId, sourceFileSha256, toString rowNumber, rawRowHash])
  | metricException recordId reason => exceptionId ["metric", recordId, reason]
  | configurationException formId fieldId cause =>
      exceptionId ["configuration", formId, fieldId, cause]
  | importException rawFileId cause => exceptionId ["import", rawFileId, cause]

/-- The text that is hashed. -/
def joined (identity : Identity) : String := unitSeparator.intercalate identity.parts

/-- The fields cut at every separator. -/
def pieces (identity : Identity) : List (List Char) :=
  Joining.pieces '\x1f' (identity.parts.map String.toList)

end Identity

namespace IdentityKind

/-- What stands before the digest. -/
def label : IdentityKind → String
  | file => ""
  | sourceRecord => ""
  | event => ""
  | batch => "batch-"
  | row => "src-"
  | exception => "exc-"

/-- The digest of the joined fields, as far as the id keeps it. -/
def hash : IdentityKind → String → String
  | file, text => Sha256.hexdigest text
  | sourceRecord, text => Sha256.hexdigest text
  | event, text => Sha256.hexdigest text
  | batch, text => PyText.takeText 24 (Sha256.hexdigest text)
  | row, text => PyText.takeText 32 (Sha256.hexdigest text)
  | exception, text => PyText.takeText 24 (Sha256.hexdigest text)

end IdentityKind

/-- The id of an import is that of its tenant, file, schema and adapter. -/
theorem ImportContext.batchId_eq (context : ImportContext) :
    context.batchId = (Identity.batch context.tenantId context.sourceFileSha256
      context.schemaVersion context.adapterId context.adapterVersion).id := rfl

/-- The id of a source row is that of its tenant, file, number and content. -/
theorem ImportContext.sourceRecordId_eq
    (context : ImportContext)
    (rowNumber : Nat)
    (row : RawPayload) :
    context.sourceRecordId rowNumber row = (Identity.row context.tenantId
      context.sourceFileSha256 rowNumber (canonicalJsonHash row.toJson)).id := rfl

namespace Identity

/-- An id is a label and the digest of the joined fields. -/
theorem id_eq (identity : Identity) :
    identity.id = identity.kind.label ++ identity.kind.hash identity.joined := by
  cases identity with
  | file | sourceRecord | event => exact String.empty_append.symm
  | _ => rfl

theorem parts_ne_nil (identity : Identity) : identity.parts ≠ [] := by
  cases identity <;> exact List.cons_ne_nil _ _

/-- Two tuples are joined to one text when they have the same pieces. -/
theorem joined_eq_iff {left right : Identity} :
    left.joined = right.joined ↔ left.pieces = right.pieces := by
  have nonempty : ∀ identity : Identity, identity.parts.map String.toList ≠ [] := fun identity =>
    mt List.map_eq_nil_iff.mp identity.parts_ne_nil
  rw [← String.toList_inj, joined, joined, String.toList_intercalate, String.toList_intercalate]
  exact Joining.intercalate_eq_iff '\x1f' (nonempty left) (nonempty right)

/-- Two different tuples of one kind have different ids if and only if they are
not cut into the same pieces. -/
theorem id_ne_iff
    {left right : Identity}
    (sameKind : left.kind = right.kind)
    (injective : Set.InjOn left.kind.hash {left.joined, right.joined}) :
    left.id ≠ right.id ↔ left.pieces ≠ right.pieces := by
  apply not_congr
  rw [← joined_eq_iff, id_eq, id_eq, ← sameKind, String.append_right_inj]
  constructor
  · exact fun same => injective (by simp) (by simp) same
  · exact congrArg left.kind.hash

/-- Tuples whose fields do not hold the separator have different ids. -/
theorem pieces_ne_of_plain
    {left right : Identity}
    (different : left.parts ≠ right.parts)
    (leftPlain : ∀ part ∈ left.parts, '\x1f' ∉ part.toList)
    (rightPlain : ∀ part ∈ right.parts, '\x1f' ∉ part.toList) : left.pieces ≠ right.pieces := by
  rw [pieces, pieces, Joining.pieces_eq_self, Joining.pieces_eq_self]
  · exact fun same => different
      (List.map_injective_iff.mpr (fun _ _ => String.toList_injective) same)
  · simpa using rightPlain
  · simpa using leftPlain

/-- A digest does not hold the separator. -/
theorem plain_of_isHexDigest
    {text : String}
    (hex : PyText.isHexDigest text = true) : '\x1f' ∉ text.toList := by
  intro present
  rw [PyText.isHexDigest, Bool.and_eq_true, List.all_eq_true] at hex
  exact absurd (hex.2 _ present) (by decide)

/-- A number does not hold the separator. -/
theorem plain_toString (n : Nat) : '\x1f' ∉ (toString n).toList := by
  intro present
  have digits : '\x1f' ∈ Nat.toDigits 10 n := by rwa [← Nat.toList_repr]
  exact absurd (Nat.isDigit_of_mem_toDigits (by decide) (by decide) digits) (by decide)

/-- Only the tenant of a source row is a free text, so different source rows have
different ids. -/
theorem pieces_row_ne
    {leftTenant rightTenant leftFile rightFile leftHash rightHash : String}
    {leftNumber rightNumber : Nat}
    (leftFileHex : PyText.isHexDigest leftFile = true)
    (rightFileHex : PyText.isHexDigest rightFile = true)
    (leftHashHex : PyText.isHexDigest leftHash = true)
    (rightHashHex : PyText.isHexDigest rightHash = true)
    (different : row leftTenant leftFile leftNumber leftHash ≠
      row rightTenant rightFile rightNumber rightHash) :
    (row leftTenant leftFile leftNumber leftHash).pieces ≠
      (row rightTenant rightFile rightNumber rightHash).pieces := by
  intro same
  have plain : ∀ {file hash : String} (number : Nat), PyText.isHexDigest file = true →
      PyText.isHexDigest hash = true →
      ∀ part ∈ [file.toList, (toString number).toList, hash.toList], '\x1f' ∉ part := by
    intro file hash number fileHex hashHex
    simp only [List.forall_mem_cons, List.not_mem_nil, false_implies, implies_true, and_true]
    exact ⟨plain_of_isHexDigest fileHex, plain_toString number, plain_of_isHexDigest hashHex⟩
  have parts := @Joining.eq_of_pieces_eq_of_plain_tail _ _ '\x1f' leftTenant.toList
    rightTenant.toList [leftFile.toList, (toString leftNumber).toList, leftHash.toList]
    [rightFile.toList, (toString rightNumber).toList, rightHash.toList] rfl
    (plain leftNumber leftFileHex leftHashHex) (plain rightNumber rightFileHex rightHashHex) same
  simp only [List.cons.injEq, String.toList_inj, and_true] at parts
  obtain ⟨tenant, file, number, hash⟩ := parts
  refine different ?_
  rw [tenant, file, hash, Nat.repr_injective number]

/-! ### Fields that hold the separator -/

/-- Two imports of one file by one tenant. -/
def versionImport (adapterId adapterVersion : String) : Identity :=
  batch "tenant" "e3b0c44298fc1c149afbf4c8996fb92427ae41e4649b934ca495991b7852b855"
    "wb-synthetic-operations-v1" adapterId adapterVersion

/-- The separator at the end of an adapter's name or at the start of its version
gives one id to two imports. -/
theorem id_eq_shifted :
    versionImport "a\x1fb" "c" ≠ versionImport "a" "b\x1fc" ∧
      (versionImport "a\x1fb" "c").kind = (versionImport "a" "b\x1fc").kind ∧
      (versionImport "a\x1fb" "c").id = (versionImport "a" "b\x1fc").id := by
  refine ⟨by decide, rfl, ?_⟩
  have same : (versionImport "a\x1fb" "c").joined = (versionImport "a" "b\x1fc").joined :=
    joined_eq_iff.mpr (by decide)
  rw [id_eq, id_eq, same]
  rfl

/-- The ids of two imports by different versions. -/
theorem id_ne_iff_versions :
    (versionImport "a" "1").id ≠ (versionImport "a" "2").id ↔
      (versionImport "a" "1").pieces ≠ (versionImport "a" "2").pieces := by
  have apart : IdentityKind.batch.hash (versionImport "a" "1").joined ≠
      IdentityKind.batch.hash (versionImport "a" "2").joined := by decide +kernel
  refine id_ne_iff rfl ?_
  rintro left (rfl | rfl) right (rfl | rfl) same
  · rfl
  · exact absurd same apart
  · exact absurd same.symm apart
  · rfl

end Identity
end QuantumAnalytics
