import QuantumAnalytics.Domain.Idempotency
import QuantumAnalytics.Foundations.Checks
import QuantumAnalytics.Foundations.DateTime
import QuantumAnalytics.Foundations.Dict

/-!
# Immutable source rows

One data row of a raw file, as it was read and judged. A row that validated has
no diagnostics and carries a semantic fingerprint; a quarantined row says why.
The content fingerprint covers everything except where and when the row was
read: the raw file id and the ingestion time are left out.
-/

namespace QuantumAnalytics

/-- `SourceRowStatus`. -/
inductive SourceRowStatus
  | valid
  | quarantined
  deriving DecidableEq

/-- `status.value`. -/
def SourceRowStatus.text : SourceRowStatus → String
  | .valid => "VALID"
  | .quarantined => "QUARANTINED"

theorem SourceRowStatus.text_injective : Function.Injective SourceRowStatus.text := by
  intro left right same
  cases left <;> cases right <;> first | rfl | exact absurd same (by decide)

/-- The cells of a row by their column names. -/
abbrev RawPayload := Dict String String

/-- The cells as a JSON object. -/
def RawPayload.toJson (payload : RawPayload) : Json :=
  .ofFields (payload.entries.map fun cell => (cell.1, .str cell.2))

/-- The constructor arguments of a source row. -/
structure SourceRowFields where
  /-- The row's own id. -/
  sourceRecordId : String
  /-- The tenant. -/
  tenantId : String
  /-- The upload that the row was read from. -/
  rawFileId : String
  /-- The digest of the file's bytes. -/
  sourceFileSha256 : String
  /-- The import that read the row. -/
  importBatchId : String
  /-- The row's position in its file; the header is row 1. -/
  rowNumber : Int
  /-- The key of the row in its file. -/
  sourceRowKey : String
  /-- The digest of the cells. -/
  rawRowHash : String
  /-- The cells. -/
  rawPayload : RawPayload
  /-- The layout of the file. -/
  structuralFingerprint : JsonObject
  /-- The kinds of values in the file. -/
  semanticFingerprint : Option JsonObject
  /-- The verdict on the row. -/
  validationStatus : SourceRowStatus
  /-- Why the row was quarantined. -/
  diagnostics : List String
  /-- The adapter that read the row. -/
  adapterId : String
  /-- The version of the adapter. -/
  adapterVersion : String
  /-- The schema of the file. -/
  schemaVersion : String
  /-- When the row was read. -/
  ingestedAt : DateTime

namespace SourceRowFields

/-- The required strings in the order of their checks. -/
def requiredStrings (row : SourceRowFields) : List (String × String) :=
  [("source_record_id", row.sourceRecordId),
    ("tenant_id", row.tenantId),
    ("import_batch_id", row.importBatchId),
    ("source_row_key", row.sourceRowKey),
    ("adapter_id", row.adapterId),
    ("adapter_version", row.adapterVersion),
    ("schema_version", row.schemaVersion)]

/-- The fingerprint carries a digest. -/
def hasDigest (fingerprint : JsonObject) : Bool :=
  match Json.lookup fingerprint "sha256" with
  | some (.str digest) => PyText.isHexDigest digest
  | _ => false

/-- `_check_fingerprint`. -/
def checkFingerprint (fingerprint : JsonObject) (field : String) : Except String Unit := do
  require (fingerprint ≠ []) s!"{field}: required"
  require (hasDigest fingerprint = true) s!"{field}.sha256: invalid"

/-- `_check_fingerprint` of the semantic fingerprint, where there is one. -/
def checkSemantic : Option JsonObject → Except String Unit
  | none => .ok ()
  | some fingerprint => checkFingerprint fingerprint "semantic_fingerprint"

/-- `ImmutableSourceRow.__post_init__`: the message of the `ValueError`, if any. -/
def postInit (row : SourceRowFields) : Except String Unit := do
  forM row.requiredStrings fun field => require (field.2 ≠ "") s!"{field.1}: required"
  require (PyText.isUuid row.rawFileId = true) "raw_file_id: invalid UUID"
  require (PyText.isHexDigest row.sourceFileSha256 = true) "source_file_sha256: invalid SHA-256"
  require (PyText.isHexDigest row.rawRowHash = true) "raw_row_hash: invalid SHA-256"
  require (2 ≤ row.rowNumber) "row_number: must be >= 2"
  require (row.rawPayload.entries ≠ []) "raw_payload: non-empty string mapping required"
  require (canonicalJsonHash row.rawPayload.toJson = row.rawRowHash)
    "raw_row_hash: does not match raw_payload"
  checkFingerprint row.structuralFingerprint "structural_fingerprint"
  checkSemantic row.semanticFingerprint
  require (∀ item ∈ row.diagnostics, item ≠ "") "diagnostics: invalid"
  require (row.validationStatus = .valid → row.diagnostics = [])
    "diagnostics: forbidden for VALID row"
  require (row.validationStatus = .valid → row.semanticFingerprint.isSome = true)
    "semantic_fingerprint: required for VALID row"
  require (row.validationStatus = .quarantined → row.diagnostics ≠ [])
    "diagnostics: required for QUARANTINED row"
  require (row.ingestedAt.isAware = true) "ingested_at: timezone-aware datetime required"

/-- What the constructor checks. -/
theorem postInit_eq_ok {row : SourceRowFields} :
    row.postInit = .ok () ↔
      (∀ field ∈ row.requiredStrings, field.2 ≠ "") ∧ PyText.isUuid row.rawFileId = true ∧
      PyText.isHexDigest row.sourceFileSha256 = true ∧
      PyText.isHexDigest row.rawRowHash = true ∧ 2 ≤ row.rowNumber ∧
      row.rawPayload.entries ≠ [] ∧ canonicalJsonHash row.rawPayload.toJson = row.rawRowHash ∧
      checkFingerprint row.structuralFingerprint "structural_fingerprint" = .ok () ∧
      checkSemantic row.semanticFingerprint = .ok () ∧
      (∀ item ∈ row.diagnostics, item ≠ "") ∧
      (row.validationStatus = .valid → row.diagnostics = []) ∧
      (row.validationStatus = .valid → row.semanticFingerprint.isSome = true) ∧
      (row.validationStatus = .quarantined → row.diagnostics ≠ []) ∧
      row.ingestedAt.isAware = true := by
  simp only [postInit, Checks.bind_done_eq_ok, Checks.forM_require_eq_ok, Checks.require_eq_ok]

end SourceRowFields

/-- A source row. -/
structure ImmutableSourceRow extends SourceRowFields where
  /-- The constructor accepted the fields. -/
  wellFormed : toSourceRowFields.postInit = .ok ()

namespace ImmutableSourceRow

/-- The constructor. -/
def make (fields : SourceRowFields) : Except String ImmutableSourceRow :=
  match accepted : fields.postInit with
  | .ok () => .ok ⟨fields, accepted⟩
  | .error message => .error message

/-- The constructor returns the row with the given fields, or none exists. -/
theorem make_eq_ok
    {fields : SourceRowFields}
    {row : ImmutableSourceRow} :
    make fields = .ok row ↔ row.toSourceRowFields = fields := by
  obtain ⟨own, wellFormed⟩ := row
  unfold make
  split
  case h_1 accepted => simp [eq_comm]
  case h_2 message rejected =>
    simp only [reduceCtorEq, false_iff]
    rintro rfl
    simp [wellFormed] at rejected

/-- The fingerprinted members. -/
def contentFields (row : ImmutableSourceRow) : JsonObject :=
  [("source_record_id", .str row.sourceRecordId),
    ("tenant_id", .str row.tenantId),
    ("source_file_sha256", .str row.sourceFileSha256),
    ("import_batch_id", .str row.importBatchId),
    ("row_number", .int row.rowNumber),
    ("source_row_key", .str row.sourceRowKey),
    ("raw_row_hash", .str row.rawRowHash),
    ("raw_payload", row.rawPayload.toJson),
    ("structural_fingerprint", .obj row.structuralFingerprint),
    ("semantic_fingerprint", (row.semanticFingerprint.map Json.obj).getD .null),
    ("validation_status", .str row.validationStatus.text),
    ("diagnostics", .arr (row.diagnostics.map Json.str)),
    ("adapter_id", .str row.adapterId),
    ("adapter_version", .str row.adapterVersion),
    ("schema_version", .str row.schemaVersion)]

/-- The text that the content fingerprint is the digest of. -/
def contentText (row : ImmutableSourceRow) : String := (Json.ofFields row.contentFields).dumps

/-- `content_fingerprint`. -/
def contentFingerprint (row : ImmutableSourceRow) : String :=
  canonicalJsonHash (.ofFields row.contentFields)

/-- `left == right` of the dataclass. -/
def pyEq (left right : ImmutableSourceRow) : Bool :=
  left.sourceRecordId == right.sourceRecordId &&
    left.tenantId == right.tenantId &&
    left.rawFileId == right.rawFileId &&
    left.sourceFileSha256 == right.sourceFileSha256 &&
    left.importBatchId == right.importBatchId &&
    left.rowNumber == right.rowNumber &&
    left.sourceRowKey == right.sourceRowKey &&
    left.rawRowHash == right.rawRowHash &&
    left.rawPayload.toJson.pyEq right.rawPayload.toJson &&
    Json.pyEqFields left.structuralFingerprint right.structuralFingerprint &&
    ((left.semanticFingerprint.map Json.obj).getD .null).pyEq
      ((right.semanticFingerprint.map Json.obj).getD .null) &&
    left.validationStatus == right.validationStatus &&
    left.diagnostics == right.diagnostics &&
    left.adapterId == right.adapterId &&
    left.adapterVersion == right.adapterVersion &&
    left.schemaVersion == right.schemaVersion &&
    left.ingestedAt.pyEq right.ingestedAt

@[simp] theorem pyEq_refl (row : ImmutableSourceRow) : pyEq row row = true := by
  simp [pyEq]

/-- Rows with the same fingerprinted text agree on every fingerprinted field. -/
theorem contentFields_eq_of_contentText
    {left right : ImmutableSourceRow}
    (same : left.contentText = right.contentText) :
    left.contentFields = right.contentFields := by
  have objects := Json.dumps_injective same
  simp [Json.ofFields, Json.sortFields, contentFields] at objects
  simp [contentFields, objects]

/-- What the constructor checks about the verdict on a row. -/
theorem verdict_consistent (row : ImmutableSourceRow) :
    (row.validationStatus = .valid → row.diagnostics = []) ∧
      (row.validationStatus = .valid → row.semanticFingerprint.isSome = true) ∧
      (row.validationStatus = .quarantined → row.diagnostics ≠ []) := by
  obtain ⟨_, _, _, _, _, _, _, _, _, _, noDiagnostics, semantic, diagnosed, _⟩ :=
    SourceRowFields.postInit_eq_ok.mp row.wellFormed
  exact ⟨noDiagnostics, semantic, diagnosed⟩

theorem sourceRecordId_ne_empty (row : ImmutableSourceRow) : row.sourceRecordId ≠ "" :=
  (SourceRowFields.postInit_eq_ok.mp row.wellFormed).1 ("source_record_id", _)
    (by simp [SourceRowFields.requiredStrings])

end ImmutableSourceRow
end QuantumAnalytics
