import QuantumAnalytics.Ingestion.Metadata

/-!
# The codec of metadata files

The bytes that are written for a record are read back as the record, when its texts
have no surrogates and its numbers and containers fit the encoder.
-/

namespace QuantumAnalytics

/-! ### Values that can be written -/

namespace PyJson

/-- A value that is written in some room, and read back. -/
structure Codable (room : Nat) (value : PyJson) : Prop where
  canonical : value.Canonical
  written : JsonDecoder.Written value
  readable : JsonDecoder.Readable room value
  plain : PyStr.isPlain value.render = true

theorem isPlain_renderString
    {text : PyStr}
    (plain : PyStr.isPlain text = true) : PyStr.isPlain (renderString text) = true := by
  obtain ⟨chars, isChars⟩ := Option.isSome_iff_exists.mp plain
  rw [PyStr.chars?_eq_some_iff.mp isChars]
  exact isPlain_renderString_ofChars chars

theorem codable_null (room : Nat) : Codable room .null :=
  ⟨trivial, trivial, by cases room <;> trivial, by decide⟩

theorem codable_bool (room : Nat) (value : Bool) : Codable room (.bool value) :=
  ⟨trivial, trivial, by cases room <;> trivial, by cases value <;> decide⟩

theorem codable_int
    {value : Int}
    (room : Nat)
    (short : isShortInt value = true) : Codable room (.int value) :=
  ⟨trivial, trivial, by cases room <;> exact short, PyStr.isPlain_ofChars _⟩

theorem codable_str
    {text : PyStr}
    (room : Nat)
    (plain : PyStr.isPlain text = true) : Codable room (.str text) :=
  ⟨trivial, trivial, by cases room <;> trivial, by
    rw [render, PyStr.isPlain_scalar_cons, isPlain_renderString plain]⟩

theorem codable_ofText (room : Nat) (text : String) : Codable room (ofText text) :=
  codable_str room (PyStr.isPlain_ofChars _)

theorem readableItems_of_forall
    {room : Nat}
    {items : List PyJson}
    (readable : ∀ item ∈ items, JsonDecoder.Readable room item) :
    JsonDecoder.ReadableItems room items := by
  induction items with
  | nil => trivial
  | cons item items inductionHypothesis =>
      rw [List.forall_mem_cons] at readable
      exact ⟨readable.1, inductionHypothesis readable.2⟩

theorem readableFields_of_forall
    {room : Nat}
    {fields : PyObject}
    (readable : ∀ field ∈ fields, JsonDecoder.Readable room field.2) :
    JsonDecoder.ReadableFields room fields := by
  induction fields with
  | nil => trivial
  | cons field fields inductionHypothesis =>
      rw [List.forall_mem_cons] at readable
      exact ⟨readable.1, inductionHypothesis readable.2⟩

theorem codable_arr
    {room : Nat}
    {items : List PyJson}
    (each : ∀ item ∈ items, Codable room item) : Codable (room + 1) (.arr items) where
  canonical := CanonicalItems.of_forall fun item listed => (each item listed).canonical
  written := JsonDecoder.WrittenItems.of_forall fun item listed => (each item listed).written
  readable := ⟨room.succ_pos, readableItems_of_forall fun item listed => (each item listed).readable⟩
  plain := by
    rw [isPlain_render_arr, List.all_eq_true]
    exact fun item listed => (each item listed).plain

/-- A mapping whose members are listed in key order. -/
theorem codable_obj
    {room : Nat}
    {fields : PyObject}
    (ordered : fields.Pairwise fun left right => left.1.ords < right.1.ords)
    (keys : ∀ field ∈ fields, PyStr.isPlain field.1 = true)
    (each : ∀ field ∈ fields, Codable room field.2) : Codable (room + 1) (.obj fields) where
  canonical := ⟨ordered, CanonicalFields.of_forall fun field listed => (each field listed).canonical⟩
  written := JsonDecoder.WrittenFields.of_forall fun field listed => (each field listed).written
  readable :=
    ⟨room.succ_pos, readableFields_of_forall fun field listed => (each field listed).readable⟩
  plain := by
    rw [isPlain_render_obj, List.all_eq_true]
    intro field listed
    rw [isPlain_renderString (keys field listed), (each field listed).plain]
    rfl

mutual

/-- More room does no harm. -/
theorem readable_mono : (value : PyJson) → ∀ {room larger : Nat}, room ≤ larger →
    JsonDecoder.Readable room value → JsonDecoder.Readable larger value
  | .null, _, larger, _, _ => by cases larger <;> trivial
  | .bool _, _, larger, _, _ => by cases larger <;> trivial
  | .str _, _, larger, _, _ => by cases larger <;> trivial
  | .int _, room, larger, _, readable => by cases room <;> cases larger <;> exact readable
  | .float _, room, larger, _, readable => by cases room <;> cases larger <;> exact readable
  | .arr items, room, larger, le, readable => by
      obtain ⟨positive, each⟩ : 0 < room ∧ JsonDecoder.ReadableItems (room - 1) items := by
        cases room <;> exact readable
      have both : 0 < larger ∧ JsonDecoder.ReadableItems (larger - 1) items :=
        ⟨by omega, readableItems_mono items (by omega) each⟩
      cases larger <;> exact both
  | .obj fields, room, larger, le, readable => by
      obtain ⟨positive, each⟩ : 0 < room ∧ JsonDecoder.ReadableFields (room - 1) fields := by
        cases room <;> exact readable
      have both : 0 < larger ∧ JsonDecoder.ReadableFields (larger - 1) fields :=
        ⟨by omega, readableFields_mono fields (by omega) each⟩
      cases larger <;> exact both

theorem readableItems_mono : (items : List PyJson) → ∀ {room larger : Nat}, room ≤ larger →
    JsonDecoder.ReadableItems room items → JsonDecoder.ReadableItems larger items
  | [], _, _, _, _ => trivial
  | item :: items, _, _, le, readable =>
      ⟨readable_mono item le readable.1, readableItems_mono items le readable.2⟩

theorem readableFields_mono : (fields : PyObject) → ∀ {room larger : Nat}, room ≤ larger →
    JsonDecoder.ReadableFields room fields → JsonDecoder.ReadableFields larger fields
  | [], _, _, _, _ => trivial
  | (_, value) :: fields, _, _, le, readable =>
      ⟨readable_mono value le readable.1, readableFields_mono fields le readable.2⟩

end

theorem Codable.mono
    {room larger : Nat}
    {value : PyJson}
    (codable : Codable room value)
    (le : room ≤ larger) : Codable larger value :=
  ⟨codable.canonical, codable.written, readable_mono value le codable.readable, codable.plain⟩

/-- A value that fits is written, and what is written is read back. -/
theorem Codable.exists_written
    {interpreter : Interpreter}
    {value : PyJson}
    (codable : Codable interpreter.nesting value) :
    ∃ text payload, value.dumpsSpecial interpreter = .ok text ∧
      PyStr.encode? text = some payload ∧ PyStr.decode? payload = some text ∧
      loads interpreter text = .ok value := by
  obtain ⟨payload, encoded⟩ := PyStr.exists_encode?_iff.mpr codable.plain
  refine ⟨value.render, payload, ?_, encoded, PyStr.decode?_of_encode? encoded,
    loads_render codable.canonical codable.readable⟩
  rw [dumpsSpecial, (checkWritable_eq_ok value codable.written).mpr codable.readable]
  rfl

end PyJson

/-! ### Writing -/

namespace RawFileMetadata

/-- The document of a record, in key order. -/
def document (record : RawFileMetadata) : PyObject :=
  [(PyStr.ofString "diagnostics", .arr (record.diagnostics.map .str)),
    (PyStr.ofString "raw_file_id", .ofText record.rawFileId),
    (PyStr.ofString "sanitized_filename", .ofText record.sanitizedFilename),
    (PyStr.ofString "schema_id", record.schemaId.elim .null .str),
    (PyStr.ofString "semantic_fingerprint", record.semanticFingerprint.elim .null .obj),
    (PyStr.ofString "sha256", .ofText record.sha256),
    (PyStr.ofString "size_bytes", .int record.sizeBytes),
    (PyStr.ofString "state", .ofText record.state.value),
    (PyStr.ofString "storage_key", .str record.storageKey),
    (PyStr.ofString "structural_fingerprint", record.structuralFingerprint.elim .null .obj),
    (PyStr.ofString "tenant_id", .str record.tenantId)]

/-- The keys of the document. -/
def documentKeys : List String :=
  ["diagnostics", "raw_file_id", "sanitized_filename", "schema_id", "semantic_fingerprint",
    "sha256", "size_bytes", "state", "storage_key", "structural_fingerprint", "tenant_id"]

theorem keys_document (record : RawFileMetadata) :
    record.document.map Prod.fst = documentKeys.map PyStr.ofString := rfl

/-- A record whose values can be written and read back. -/
structure Storable (record : RawFileMetadata) : Prop where
  sound : record.Sound
  sizeBytes : PyJson.isShortInt record.sizeBytes = true
  tenantId : PyStr.isPlain record.tenantId = true
  schemaId : ∀ text ∈ record.schemaId, PyStr.isPlain text = true
  structuralFingerprint : ∀ fields ∈ record.structuralFingerprint, PyJson.Codable 8 (.obj fields)
  semanticFingerprint : ∀ fields ∈ record.semanticFingerprint, PyJson.Codable 8 (.obj fields)
  diagnostics : ∀ text ∈ record.diagnostics, PyStr.isPlain text = true

/-- The text of a storage key. -/
theorem isPlain_canonicalStorageKey
    {tenantId : PyStr}
    {digest : String}
    (plain : PyStr.isPlain tenantId = true) :
    PyStr.isPlain (canonicalStorageKey tenantId digest) = true := by
  simp only [canonicalStorageKey, PyStr.isPlain_append, plain, PyStr.ofString,
    PyStr.isPlain_ofChars, Bool.and_self]

theorem codable_elim
    {α : Type}
    {value : Option α}
    {make : α → PyJson}
    {room : Nat}
    (codable : ∀ present ∈ value, PyJson.Codable room (make present)) :
    PyJson.Codable room (value.elim .null make) := by
  cases value with
  | none => exact PyJson.codable_null room
  | some present => exact codable present rfl

/-- The document of a storable record can be written. -/
theorem Storable.codable
    {record : RawFileMetadata}
    (storable : record.Storable) : PyJson.Codable 9 (.obj record.document) := by
  have ordered : (documentKeys.map fun key => (PyStr.ofString key).ords).Pairwise (· < ·) := by
    decide +kernel
  refine PyJson.codable_obj ?_ ?_ ?_
  · exact (@List.pairwise_map _ _ (fun field : PyStr × PyJson => field.1.ords) _ _).mp ordered
  · intro field listed
    have isKey : field.1 ∈ documentKeys.map PyStr.ofString :=
      keys_document record ▸ List.mem_map_of_mem listed
    obtain ⟨key, -, same⟩ := List.mem_map.mp isKey
    exact same ▸ PyStr.isPlain_ofChars _
  · have key : PyStr.isPlain record.storageKey = true :=
      storable.sound.storageKey ▸ isPlain_canonicalStorageKey storable.tenantId
    simp only [document, List.forall_mem_cons]
    refine ⟨?_, PyJson.codable_ofText _ _, PyJson.codable_ofText _ _,
      codable_elim fun text present => PyJson.codable_str _ (storable.schemaId text present),
      codable_elim storable.semanticFingerprint, PyJson.codable_ofText _ _,
      PyJson.codable_int _ storable.sizeBytes, PyJson.codable_ofText _ _,
      PyJson.codable_str _ key, codable_elim storable.structuralFingerprint,
      PyJson.codable_str _ storable.tenantId, nofun⟩
    refine PyJson.codable_arr fun item listed => ?_
    obtain ⟨text, isText, rfl⟩ := List.mem_map.mp listed
    exact PyJson.codable_str _ (storable.diagnostics text isText)

end RawFileMetadata

/-- `_record_payload`; a surrogate is a `UnicodeEncodeError`, which is a `ValueError`. -/
def recordPayload (interpreter : Interpreter) (record : RawFileMetadata) :
    Except PyJson.DumpsError (List UInt8) := do
  let text ← (PyJson.obj record.document).dumpsSpecial interpreter
  requireSome (PyStr.encode? text) .value

/-- The size of a record that is written has few digits. -/
theorem isShortInt_of_recordPayload
    {interpreter : Interpreter}
    {record : RawFileMetadata}
    {payload : List UInt8}
    (isWritten : recordPayload interpreter record = .ok payload) :
    PyJson.isShortInt record.sizeBytes = true := by
  obtain ⟨text, dumped, -⟩ := Checks.bind_eq_ok.mp isWritten
  obtain ⟨done, writable, -⟩ := Checks.bind_eq_ok.mp dumped
  have listed : (PyStr.ofString "size_bytes", PyJson.int record.sizeBytes) ∈ record.document := by
    simp [RawFileMetadata.document]
  cases nesting : interpreter.nesting with
  | zero =>
      rw [nesting] at writable
      cases writable
  | succ room =>
      rw [nesting, PyJson.checkWritable] at writable
      have member := PyJson.forall_of_checkWritableFields writable _ listed
      cases room <;> simpa [PyJson.checkWritable] using member

/-! ### Reading back -/

theorem RawFileState.ofValue?_value (state : RawFileState) :
    RawFileState.ofValue? (.ofText state.value) = some state := by
  cases state <;> decide +kernel

theorem plainText?_ofText (text : String) : plainText? (.ofText text) = some text :=
  PyStr.text?_ofString text

theorem mapM_string? (texts : List PyStr) :
    (texts.map PyJson.str).mapM PyJson.string? = some texts := by
  induction texts with
  | nil => rfl
  | cons text texts inductionHypothesis =>
      rw [List.map_cons, List.mapM_cons, inductionHypothesis]
      rfl

theorem optional_elim
    {α : Type}
    {read : PyJson → Option α}
    {make : α → PyJson}
    (isRead : ∀ value, read (make value) = some value)
    (present : ∀ value, (make value).isNone = false)
    (value : Option α) : (value.elim PyJson.null make).optional read = some value := by
  cases value with
  | none => rfl
  | some value =>
      have notNone := present value
      have found := isRead value
      rw [Option.elim_some]
      generalize make value = json at notNone found
      cases json with
      | null => cases notNone
      | _ => simp only [PyJson.optional, found, Option.map_some]

theorem readStatePayload?_document (record : RawFileMetadata) :
    readStatePayload? record.document = some record.toStatePayload := by
  have schemaId : (PyJson.get record.document "schema_id").optional PyJson.string? =
      some record.schemaId :=
    @optional_elim _ PyJson.string? .str (fun _ => rfl) (fun _ => rfl) record.schemaId
  have structural : (PyJson.get record.document "structural_fingerprint").optional
      PyJson.members? = some record.structuralFingerprint :=
    @optional_elim _ PyJson.members? .obj (fun _ => rfl) (fun _ => rfl) record.structuralFingerprint
  have semantic : (PyJson.get record.document "semantic_fingerprint").optional
      PyJson.members? = some record.semanticFingerprint :=
    @optional_elim _ PyJson.members? .obj (fun _ => rfl) (fun _ => rfl) record.semanticFingerprint
  have items : ((PyJson.item? record.document "diagnostics").getD (.arr [])).tuple? =
      some (record.diagnostics.map .str) := rfl
  rw [readStatePayload?, schemaId, structural, semantic, items]
  simp only [Option.bind_eq_bind, Option.bind_some, mapM_string?, Option.pure_def]

/-- The document of a sound record is read as the record. -/
theorem readRecord?_document
    {record : RawFileMetadata}
    (sound : record.Sound) :
    readRecord? record.document record.rawFileId record.sha256 (.str record.tenantId)
      record.sizeBytes = some record := by
  have filename : (PyJson.item? record.document "sanitized_filename").bind filename? =
      some record.sanitizedFilename := by
    change filename? (.ofText record.sanitizedFilename) = _
    rw [filename?, plainText?_ofText]
    simp [sound.sanitizedFilename]
  have key : (PyJson.item? record.document "storage_key").bind PyJson.string? =
      some record.storageKey := rfl
  have state : (PyJson.item? record.document "state").bind RawFileState.ofValue? =
      some record.state := RawFileState.ofValue?_value record.state
  rw [readRecord?, filename, key, state, readStatePayload?_document]
  simp only [PyJson.string?, Option.bind_eq_bind, Option.bind_some]
  rw [if_pos ⟨sound.tenantId, sound.sizeBytes, sound.storageKey, sound.statePayload⟩]
  rfl

theorem readIdentity?_document
    {record : RawFileMetadata}
    (sound : record.Sound) :
    readIdentity? record.document =
      some (record.rawFileId, record.sha256, .str record.tenantId, .int record.sizeBytes) := by
  have rawFileId : (PyJson.item? record.document "raw_file_id").bind rawId? =
      some record.rawFileId := by
    change rawId? (.ofText record.rawFileId) = _
    rw [rawId?, plainText?_ofText]
    exact sound.rawFileId
  have digest : (PyJson.item? record.document "sha256").bind digest? = some record.sha256 := by
    change digest? (.ofText record.sha256) = _
    rw [digest?, plainText?_ofText]
    simp [sound.sha256]
  rw [readIdentity?, rawFileId, digest]
  rfl

/-- A storable record is written, and what is written for it is read as the record. -/
theorem exists_recordPayload
    {interpreter : Interpreter}
    {record : RawFileMetadata}
    (storable : record.Storable) :
    ∃ payload, recordPayload interpreter record = .ok payload ∧
      recordFromPayload interpreter payload = .ok record := by
  have room : 9 ≤ interpreter.nesting := le_trans (by decide) interpreter.roomy
  obtain ⟨text, payload, dumped, encoded, decoded, loaded⟩ :=
    (storable.codable.mono room).exists_written
  refine ⟨payload, ?_, ?_⟩
  · rw [recordPayload, dumped, Checks.ok_bind, encoded]
    rfl
  · have size : (PyJson.int record.sizeBytes).toInt = .ok record.sizeBytes := rfl
    rw [recordFromPayload, readMembers_eq_ok.mpr ⟨text, decoded, loaded⟩, Checks.ok_bind,
      readIdentity?_document storable.sound]
    simp only [requireSome, Checks.ok_bind, size, readRecord?_document storable.sound]

end QuantumAnalytics
