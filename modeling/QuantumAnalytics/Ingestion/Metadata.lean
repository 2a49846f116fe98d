import QuantumAnalytics.Foundations.JsonWriting
import QuantumAnalytics.Foundations.Utf8
import QuantumAnalytics.Foundations.Uuid
import QuantumAnalytics.Ingestion.Storage

/-!
# Metadata files

The bytes in which the raw storage keeps the record of an upload: what is written
for a record, and what is read from any bytes that stand in a metadata file.
-/

namespace QuantumAnalytics

/-! ### Values of a metadata file -/

namespace PyFloat

/-- `int(value)` of a finite float. -/
def truncate (x : Binary64) : Int :=
  let magnitude : Int :=
    if 0 ≤ x.exponent then x.mantissa * 2 ^ x.exponent.toNat
    else ((x.mantissa / 2 ^ (-x.exponent).toNat : Nat) : Int)
  if x.negative then -magnitude else magnitude

end PyFloat

/-- What `_record_from_payload` raises. -/
inductive MetadataFailure
  /-- `RawStorageError("STORAGE_METADATA_INVALID")`. -/
  | invalid
  /-- `OverflowError`. -/
  | overflow
  /-- `RecursionError`. -/
  | recursion
  deriving DecidableEq

/-- How an exception of `json.loads` leaves `_record_from_payload`. -/
def LoadsError.metadataFailure : LoadsError → MetadataFailure
  | .recursion => .recursion
  | _ => .invalid

namespace PyJson

/-- `mapping[key]`; `none` is a `KeyError`. -/
def item? (fields : PyObject) (key : String) : Option PyJson :=
  (fields.find? fun field => field.1 = PyStr.ofString key).map Prod.snd

/-- The members of a mapping; only a mapping is indexed by a string. -/
def members? : PyJson → Option PyObject
  | .obj fields => some fields
  | _ => none

/-- The text of a `str`. -/
def string? : PyJson → Option PyStr
  | .str text => some text
  | _ => none

/-- A value that is `None` or passes. -/
def optional {α : Type} (read : PyJson → Option α) : PyJson → Option (Option α)
  | .null => some none
  | value => (read value).map some

/-- `tuple(value)`; `none` is a `TypeError`. -/
def tuple? : PyJson → Option (List PyJson)
  | .arr items => some items
  | .str text => some (text.map fun point => .str [point])
  | .obj fields => some (fields.map fun field => .str field.1)
  | _ => none

/-- `int(value)`. -/
def toInt : PyJson → Except MetadataFailure Int
  | .bool value => .ok (if value then 1 else 0)
  | .int value => .ok value
  | .float (.finite token _) => requireSome (token.nearest?.map PyFloat.truncate) .invalid
  | .float (.infinite _) => .error .overflow
  | .float .nan => .error .invalid
  | .str text => requireSome ((PyStr.text? text).bind (PyText.int? 10)) .invalid
  | _ => .error .invalid

end PyJson

/-! ### Records -/

/-- The values of `RawFileState`. -/
def RawFileState.value : RawFileState → String
  | .received => "RECEIVED"
  | .validating => "VALIDATING"
  | .valid => "VALID"
  | .quarantined => "QUARANTINED"
  | .rejected => "REJECTED"

/-- `RawFileState(value)`; `none` is a `ValueError`. -/
def RawFileState.ofValue? (value : PyJson) : Option RawFileState :=
  [RawFileState.received, .validating, .valid, .quarantined, .rejected].find? fun state =>
    value.isText state.value

/-- The members of a record that `_validate_transition_payload` checks. -/
structure StatePayload where
  /-- The detected schema. -/
  schemaId : Option PyStr
  /-- The layout of the file. -/
  structuralFingerprint : Option PyObject
  /-- The kinds of values in the file. -/
  semanticFingerprint : Option PyObject
  /-- Why the file was turned down. -/
  diagnostics : List PyStr

/-- `_validate_transition_payload`. -/
def StatePayload.isValidFor (payload : StatePayload) : RawFileState → Bool
  | .received | .validating =>
      payload.schemaId.isNone && payload.structuralFingerprint.isNone &&
        payload.semanticFingerprint.isNone && payload.diagnostics.isEmpty
  | .valid =>
      payload.schemaId.any (· ≠ []) && payload.structuralFingerprint.isSome &&
        payload.semanticFingerprint.isSome && payload.diagnostics.isEmpty
  | .quarantined =>
      payload.schemaId.isNone && payload.structuralFingerprint.isSome &&
        payload.semanticFingerprint.isNone && !payload.diagnostics.isEmpty
  | .rejected =>
      payload.schemaId.isNone && payload.structuralFingerprint.isNone &&
        payload.semanticFingerprint.isNone && !payload.diagnostics.isEmpty

/-- `RawFileRecord` with all of its members, as a metadata file holds it. -/
structure RawFileMetadata extends StatePayload where
  /-- The upload. -/
  rawFileId : String
  /-- The tenant. -/
  tenantId : PyStr
  /-- The digest of the file's bytes. -/
  sha256 : String
  /-- The number of bytes. -/
  sizeBytes : Int
  /-- The name of the file. -/
  sanitizedFilename : String
  /-- Where the bytes are. -/
  storageKey : PyStr
  /-- The state of the file. -/
  state : RawFileState

/-- `[A-Za-z0-9_-]`. -/
def isNameStart (c : Char) : Bool :=
  ('A' ≤ c && c ≤ 'Z') || ('a' ≤ c && c ≤ 'z') || ('0' ≤ c && c ≤ '9') || c == '_' || c == '-'

/-- `_SAFE_FILENAME` of the storage, on the whole text. -/
def isSafeFilename (text : String) : Bool :=
  match text.toList with
  | [] => false
  | c :: rest => isNameStart c && rest.length ≤ 119 && rest.all fun d => isNameStart d || d == '.'

/-- `_canonical_storage_key`. -/
def canonicalStorageKey (tenantId : PyStr) (digest : String) : PyStr :=
  PyStr.ofString "tenants/" ++ tenantId ++ PyStr.ofString "/raw/" ++ PyStr.ofString digest

/-- The rules for a record: its fields, its storage key, and the payload of its state. -/
structure RawFileMetadata.Sound (record : RawFileMetadata) : Prop where
  rawFileId : PyText.canonicalUuid? record.rawFileId = some record.rawFileId
  tenantId : record.tenantId ≠ []
  sha256 : PyText.isHexDigest record.sha256 = true
  sizeBytes : 0 ≤ record.sizeBytes
  sanitizedFilename : isSafeFilename record.sanitizedFilename = true
  storageKey : record.storageKey = canonicalStorageKey record.tenantId record.sha256
  statePayload : record.isValidFor record.state = true

/-! ### Reading -/

/-- A text without surrogates. -/
def plainText? (value : PyJson) : Option String := value.string?.bind PyStr.text?

/-- `_raw_id`; `none` is a `RawStorageError`. -/
def rawId? (value : PyJson) : Option String := (plainText? value).bind PyText.canonicalUuid?

/-- `_digest`; `none` is a `RawStorageError`. -/
def digest? (value : PyJson) : Option String :=
  (plainText? value).filter fun text => PyText.isHexDigest text

/-- `_filename`; `none` is a `RawStorageError`. -/
def filename? (value : PyJson) : Option String :=
  (plainText? value).filter fun text => isSafeFilename text

/-- The decoded document, of which members are taken. -/
def readMembers (interpreter : Interpreter) (payload : List UInt8) :
    Except MetadataFailure PyObject := do
  let text ← requireSome (PyStr.decode? payload) .invalid
  let data ← (PyJson.loads interpreter text).mapError LoadsError.metadataFailure
  requireSome data.members? .invalid

/-- What is read in front of `size_bytes`, and the value of `size_bytes`; every
exception is caught. -/
def readIdentity? (fields : PyObject) : Option (String × String × PyJson × PyJson) := do
  let rawFileId ← (PyJson.item? fields "raw_file_id").bind rawId?
  let digest ← (PyJson.item? fields "sha256").bind digest?
  let tenantId ← PyJson.item? fields "tenant_id"
  let sizeBytes ← PyJson.item? fields "size_bytes"
  return (rawFileId, digest, tenantId, sizeBytes)

/-- The members of a document that describe its state. -/
def readStatePayload? (fields : PyObject) : Option StatePayload := do
  let schemaId ← (PyJson.get fields "schema_id").optional PyJson.string?
  let structural ← (PyJson.get fields "structural_fingerprint").optional PyJson.members?
  let semantic ← (PyJson.get fields "semantic_fingerprint").optional PyJson.members?
  let items ← ((PyJson.item? fields "diagnostics").getD (.arr [])).tuple?
  let diagnostics ← items.mapM PyJson.string?
  return ⟨schemaId, structural, semantic, diagnostics⟩

/-- What follows `size_bytes`; every exception is caught. -/
def readRecord? (fields : PyObject) (rawFileId digest : String) (tenant : PyJson) (sizeBytes : Int) :
    Option RawFileMetadata := do
  let filename ← (PyJson.item? fields "sanitized_filename").bind filename?
  let storageKey ← (PyJson.item? fields "storage_key").bind PyJson.string?
  let state ← (PyJson.item? fields "state").bind RawFileState.ofValue?
  let payload ← readStatePayload? fields
  let tenantId ← tenant.string?
  if tenantId ≠ [] ∧ 0 ≤ sizeBytes ∧ storageKey = canonicalStorageKey tenantId digest ∧
      payload.isValidFor state = true then
    return ⟨payload, rawFileId, tenantId, digest, sizeBytes, filename, storageKey, state⟩
  else none

/-- `_record_from_payload`. -/
def recordFromPayload (interpreter : Interpreter) (payload : List UInt8) :
    Except MetadataFailure RawFileMetadata := do
  let fields ← readMembers interpreter payload
  let (rawFileId, digest, tenantId, size) ← requireSome (readIdentity? fields) .invalid
  let sizeBytes ← size.toInt
  requireSome (readRecord? fields rawFileId digest tenantId sizeBytes) .invalid

/-! ### Damaged files -/

/-- Containers are nested too deeply for the decoder. -/
def NestsTooDeeply (interpreter : Interpreter) (payload : List UInt8) : Prop :=
  ∃ text, PyStr.decode? payload = some text ∧ PyJson.loads interpreter text = .error .recursion

/-- The document names an upload, a digest and a tenant, and its size is an infinite
float. -/
def HasInfiniteSize (interpreter : Interpreter) (payload : List UInt8) : Prop :=
  ∃ text fields negative, PyStr.decode? payload = some text ∧
    PyJson.loads interpreter text = .ok (.obj fields) ∧
    ((PyJson.item? fields "raw_file_id").bind rawId?).isSome = true ∧
    ((PyJson.item? fields "sha256").bind digest?).isSome = true ∧
    (PyJson.item? fields "tenant_id").isSome = true ∧
    PyJson.item? fields "size_bytes" = some (.float (.infinite negative))

/-- A sound record is returned or the one error is raised. -/
def FailsClosed (outcome : Except MetadataFailure RawFileMetadata) : Prop :=
  (∃ record, outcome = .ok record ∧ record.Sound) ∨ outcome = .error .invalid

theorem canonical_of_rawId?
    {value : PyJson}
    {rawFileId : String}
    (isId : rawId? value = some rawFileId) :
    PyText.canonicalUuid? rawFileId = some rawFileId := by
  obtain ⟨text, -, isCanonical⟩ := Option.bind_eq_some_iff.mp isId
  exact PyText.canonicalUuid?_of_canonicalUuid? isCanonical

/-- A record that is read keeps the rules. -/
theorem sound_of_recordFromPayload
    {interpreter : Interpreter}
    {payload : List UInt8}
    {record : RawFileMetadata}
    (read : recordFromPayload interpreter payload = .ok record) : record.Sound := by
  simp only [recordFromPayload, Checks.bind_eq_ok, Checks.requireSome_eq_ok] at read
  obtain ⟨fields, -, ⟨rawFileId, digest, tenant, size⟩, isIdentity, sizeBytes, -, isRecord⟩ := read
  simp only [readIdentity?, Option.bind_eq_bind, Option.bind_eq_some_iff, Option.pure_def,
    Option.some.injEq, Prod.mk.injEq] at isIdentity
  obtain ⟨_, ⟨_, -, isId⟩, _, ⟨_, -, isDigest⟩, _, -, _, -, rfl, rfl, -, -⟩ := isIdentity
  simp only [readRecord?, Option.bind_eq_bind, Option.bind_eq_some_iff, filename?,
    Option.filter_eq_some_iff] at isRecord
  obtain ⟨filename, ⟨_, -, -, safe⟩, storageKey, -, state, -, statePayload, -, tenantId, -,
    isRecord⟩ := isRecord
  split at isRecord
  next holds =>
    obtain rfl := Option.some.inj isRecord
    obtain ⟨present, nonnegative, isKey, valid⟩ := holds
    exact {
      rawFileId := canonical_of_rawId? isId
      tenantId := present
      sha256 := (Option.filter_eq_some_iff.mp isDigest).2
      sizeBytes := nonnegative
      sanitizedFilename := safe
      storageKey := isKey
      statePayload := valid }
  next => cases isRecord

theorem requireSome_ne_error
    {α : Type}
    {value : Option α}
    {failure raised : MetadataFailure}
    (other : failure ≠ raised) : requireSome value failure ≠ .error raised := by
  cases value with
  | none => simpa [requireSome] using other
  | some present => simp [requireSome]

/-- Only an infinite float overflows. -/
theorem toInt_eq_error
    {value : PyJson}
    {failure : MetadataFailure}
    (raised : value.toInt = .error failure) :
    failure = .invalid ∨ failure = .overflow ∧ ∃ negative, value = .float (.infinite negative) := by
  have caught : ∀ found : Option Int, requireSome found MetadataFailure.invalid = .error failure →
      failure = .invalid := by
    intro found isError
    cases found with
    | none => exact (Except.error.inj isError).symm
    | some number => cases isError
  cases value with
  | float number =>
      cases number with
      | finite token shortest => exact .inl (caught _ raised)
      | infinite negative => exact .inr ⟨(Except.error.inj raised).symm, negative, rfl⟩
      | nan => exact .inl (Except.error.inj raised).symm
  | str text => exact .inl (caught _ raised)
  | bool value => cases raised
  | int value => cases raised
  | null => exact .inl (Except.error.inj raised).symm
  | arr items => exact .inl (Except.error.inj raised).symm
  | obj fields => exact .inl (Except.error.inj raised).symm

/-- Decoding a document raises the one error, or the decoder runs out of room. -/
theorem readMembers_eq_error
    {interpreter : Interpreter}
    {payload : List UInt8}
    {failure : MetadataFailure}
    (raised : readMembers interpreter payload = .error failure) :
    failure = .invalid ∨ failure = .recursion ∧ NestsTooDeeply interpreter payload := by
  unfold readMembers at raised
  cases decoded : PyStr.decode? payload with
  | none =>
      rw [decoded] at raised
      exact .inl (Except.error.inj raised).symm
  | some text =>
      rw [decoded] at raised
      change ((PyJson.loads interpreter text).mapError LoadsError.metadataFailure >>= _) = _ at raised
      cases loaded : PyJson.loads interpreter text with
      | ok value =>
          rw [loaded] at raised
          change requireSome value.members? MetadataFailure.invalid = _ at raised
          cases members : value.members? with
          | none =>
              rw [members] at raised
              exact .inl (Except.error.inj raised).symm
          | some fields =>
              rw [members] at raised
              cases raised
      | error problem =>
          rw [loaded] at raised
          obtain rfl : problem.metadataFailure = failure := Except.error.inj raised
          cases problem with
          | decode => exact .inl rfl
          | value => exact .inl rfl
          | recursion => exact .inr ⟨rfl, text, decoded, loaded⟩

theorem readMembers_eq_ok
    {interpreter : Interpreter}
    {payload : List UInt8}
    {fields : PyObject} :
    readMembers interpreter payload = .ok fields ↔ ∃ text, PyStr.decode? payload = some text ∧
      PyJson.loads interpreter text = .ok (.obj fields) := by
  have members : ∀ value : PyJson, value.members? = some fields ↔ value = .obj fields := by
    intro value
    cases value <;> simp [PyJson.members?]
  simp only [readMembers, Checks.bind_eq_ok, Checks.requireSome_eq_ok, Checks.mapError_eq_ok,
    members]
  constructor
  · rintro ⟨text, decoded, value, loaded, rfl⟩
    exact ⟨text, decoded, loaded⟩
  · rintro ⟨text, decoded, loaded⟩
    exact ⟨text, decoded, _, loaded, rfl⟩

/-- Another exception than the one error has one of two causes. -/
theorem recordFromPayload_eq_error
    {interpreter : Interpreter}
    {payload : List UInt8}
    {failure : MetadataFailure}
    (raised : recordFromPayload interpreter payload = .error failure) :
    failure = .invalid ∨ failure = .recursion ∧ NestsTooDeeply interpreter payload ∨
      failure = .overflow ∧ HasInfiniteSize interpreter payload := by
  rcases Checks.bind_eq_error.mp raised with first | ⟨fields, isMembers, later⟩
  · exact (readMembers_eq_error first).imp_right .inl
  · rcases Checks.bind_eq_error.mp later with second | ⟨⟨_, _, _, size⟩, isIdentity, later⟩
    · exact .inl (by_contra fun other => requireSome_ne_error (Ne.symm other) second)
    · rcases Checks.bind_eq_error.mp later with third | ⟨_, -, last⟩
      · refine (toInt_eq_error third).imp_right fun ⟨isOverflow, negative, isInfinite⟩ =>
          .inr ⟨isOverflow, ?_⟩
        obtain ⟨text, decoded, loaded⟩ := readMembers_eq_ok.mp isMembers
        rw [Checks.requireSome_eq_ok] at isIdentity
        simp only [readIdentity?, Option.bind_eq_bind, Option.bind_eq_some_iff (f := fun _ => _),
          Option.pure_def, Option.some.injEq, Prod.mk.injEq] at isIdentity
        obtain ⟨_, isId, _, isDigest, _, isTenant, _, isSize, -, -, -, rfl⟩ := isIdentity
        exact ⟨text, fields, negative, decoded, loaded,
          Option.isSome_iff_exists.mpr ⟨_, Option.bind_eq_some_iff.mpr isId⟩,
          Option.isSome_iff_exists.mpr ⟨_, Option.bind_eq_some_iff.mpr isDigest⟩,
          Option.isSome_iff_exists.mpr ⟨_, isTenant⟩, isInfinite ▸ isSize⟩
      · exact .inl (by_contra fun other => requireSome_ne_error (Ne.symm other) last)

theorem recordFromPayload_of_nestsTooDeeply
    {interpreter : Interpreter}
    {payload : List UInt8}
    (deep : NestsTooDeeply interpreter payload) :
    recordFromPayload interpreter payload = .error .recursion := by
  obtain ⟨text, decoded, loaded⟩ := deep
  rw [recordFromPayload, readMembers, decoded]
  change ((PyJson.loads interpreter text).mapError LoadsError.metadataFailure >>= _) >>= _ = _
  rw [loaded]
  rfl

theorem recordFromPayload_of_hasInfiniteSize
    {interpreter : Interpreter}
    {payload : List UInt8}
    (infinite : HasInfiniteSize interpreter payload) :
    recordFromPayload interpreter payload = .error .overflow := by
  obtain ⟨text, fields, negative, decoded, loaded, hasId, hasDigest, hasTenant, isSize⟩ := infinite
  obtain ⟨rawFileId, isId⟩ := Option.isSome_iff_exists.mp hasId
  obtain ⟨digest, isDigest⟩ := Option.isSome_iff_exists.mp hasDigest
  obtain ⟨tenantId, isTenant⟩ := Option.isSome_iff_exists.mp hasTenant
  have identity : readIdentity? fields =
      some (rawFileId, digest, tenantId, .float (.infinite negative)) := by
    simp only [readIdentity?, isId, isDigest, isTenant, isSize, Option.bind_eq_bind,
      Option.bind_some, Option.pure_def]
  rw [recordFromPayload, readMembers_eq_ok.mpr ⟨text, decoded, loaded⟩, Checks.ok_bind, identity]
  rfl

/-- Whatever bytes stand in a metadata file, a sound record is read or the one error is
raised, exactly when the document is not nested too deeply and does not state an
infinite size. -/
theorem recordFromPayload_failsClosed_iff
    {interpreter : Interpreter}
    {payload : List UInt8} :
    FailsClosed (recordFromPayload interpreter payload) ↔
      ¬NestsTooDeeply interpreter payload ∧ ¬HasInfiniteSize interpreter payload := by
  constructor
  · intro closed
    refine ⟨fun deep => ?_, fun infinite => ?_⟩
    · rw [recordFromPayload_of_nestsTooDeeply deep] at closed
      rcases closed with ⟨record, isOk, -⟩ | isInvalid
      · cases isOk
      · cases isInvalid
    · rw [recordFromPayload_of_hasInfiniteSize infinite] at closed
      rcases closed with ⟨record, isOk, -⟩ | isInvalid
      · cases isOk
      · cases isInvalid
  · rintro ⟨shallow, finite⟩
    cases outcome : recordFromPayload interpreter payload with
    | ok record => exact .inl ⟨record, rfl, sound_of_recordFromPayload outcome⟩
    | error failure =>
        rcases recordFromPayload_eq_error outcome with rfl | ⟨-, deep⟩ | ⟨-, infinite⟩
        · exact .inr rfl
        · exact absurd deep shallow
        · exact absurd infinite finite

/-- A document whose size is `Infinity`. -/
def infiniteSizeDocument : PyJson :=
  .obj [(PyStr.ofString "raw_file_id", .ofText "0f8fad5b-d9cb-469f-a165-70867728950e"),
    (PyStr.ofString "sha256",
      .ofText "e3b0c44298fc1c149afbf4c8996fb92427ae41e4649b934ca495991b7852b855"),
    (PyStr.ofString "size_bytes", .float (.infinite false)),
    (PyStr.ofString "tenant_id", .ofText "t")]

/-- The bytes of the document. -/
def infiniteSizePayload : List UInt8 := (PyStr.encode? infiniteSizeDocument.render).getD []

/-- The size of the document overflows. -/
theorem not_failsClosed_infiniteSize :
    ¬FailsClosed (recordFromPayload ⟨1000, by decide⟩ infiniteSizePayload) := by
  rw [recordFromPayload_failsClosed_iff]
  rintro ⟨-, finite⟩
  have plain : PyStr.isPlain infiniteSizeDocument.render = true := by decide +kernel
  obtain ⟨payload, encoded⟩ := PyStr.exists_encode?_iff.mpr plain
  have isPayload : infiniteSizePayload = payload := by rw [infiniteSizePayload, encoded]; rfl
  have canonical : infiniteSizeDocument.Canonical := by
    have ordered : (["raw_file_id", "sha256", "size_bytes", "tenant_id"].map fun key =>
        (PyStr.ofString key).ords).Pairwise (· < ·) := by decide +kernel
    refine ⟨(@List.pairwise_map _ _ (fun field : PyStr × PyJson => field.1.ords) _ _).mp ordered, ?_⟩
    simp [PyJson.CanonicalFields, PyJson.Canonical, PyJson.ofText]
  have readable : JsonDecoder.Readable 1000 infiniteSizeDocument := by
    simp [infiniteSizeDocument, JsonDecoder.Readable, JsonDecoder.ReadableFields, PyJson.ofText,
      JsonDecoder.IsWritten]
  rw [isPayload] at finite
  refine finite ⟨infiniteSizeDocument.render, _, false, PyStr.decode?_of_encode? encoded,
    PyJson.loads_render canonical readable, ?_, ?_, ?_, ?_⟩
  · decide +kernel
  · decide +kernel
  · rfl
  · rfl

end QuantumAnalytics
