import QuantumAnalytics.Ingestion.RawFiles

/-!
# Inspections

What is read from a file gives a description that its state allows and that can be
written. So every record that a call writes is read back, and every inspection of a
readable record ends in a state that later calls keep.
-/

namespace QuantumAnalytics

/-! ### What is read from a file -/

/-- A description that can be written. -/
structure TransitionPayload.Codable (description : TransitionPayload) : Prop where
  structuralFingerprint : ∀ fields ∈ description.structuralFingerprint,
    Json.Simple 7 (.obj fields)
  semanticFingerprint : ∀ fields ∈ description.semanticFingerprint, Json.Simple 7 (.obj fields)

/-- A description without fingerprints. -/
theorem codable_of_none
    (diagnostics : List String) :
    ({ diagnostics := diagnostics } : TransitionPayload).Codable := ⟨nofun, nofun⟩

namespace ReaderLibrary

variable {library : ReaderLibrary} {payload : List UInt8} {text : String}

theorem length_le_of_headerText
    (opened : library.headerText payload = .ok text) : text.toList.length ≤ payload.length := by
  unfold headerText at opened
  split at opened
  next decoded =>
    obtain rfl := Except.ok.inj opened
    exact length_le_of_decodeUtf8Sig decoded
  next =>
    obtain ⟨count, -, decoded⟩ := Option.bind_eq_some_iff.mp (Checks.requireSome_eq_ok.mp opened)
    exact (length_le_of_decodeUtf8Sig decoded).trans (List.length_take_le' count payload)

/-- A detection describes a header that is not longer than the file. -/
theorem exists_detection
    {detected : SchemaDetection}
    (isDetected : library.detect payload = .ok detected) :
    ∃ dialect headers, detected = detection dialect headers ∧
      headers.length ≤ 2 * payload.length + 1 := by
  simp only [detect, detectText, Checks.bind_eq_ok, Checks.requireSome_eq_ok,
    Checks.mapError_eq_ok, Checks.pure_eq_ok, Prod.exists] at isDetected
  obtain ⟨text, opened, dialect, -, first, found, headers, rest, rfl, rfl⟩ := isDetected
  have fields := (CsvDialect.length_nextRecord found).1
  have weight := lineWeight_csvLines text.toList
  have length := length_le_of_headerText opened
  have start : CsvParser.start.fields.length = 0 := rfl
  exact ⟨dialect, headers, rfl, by omega⟩

/-- Everything that detection raises is caught. -/
theorem isCaught_of_detect
    {raised : ReadException}
    (isRaised : library.detect payload = .error raised) : raised.isCaught = true := by
  rcases Checks.bind_eq_error.mp isRaised with first | ⟨text, -, later⟩
  · unfold headerText at first
    split at first
    next => cases first
    next =>
      generalize (library.readAhead payload).bind _ = found at first
      cases found with
      | none => exact (Except.error.inj first) ▸ rfl
      | some text => cases first
  · unfold detectText at later
    rcases Checks.bind_eq_error.mp later with second | ⟨dialect, -, later⟩
    · generalize library.sniff _ = found at second
      cases found with
      | none => exact (Except.error.inj second) ▸ rfl
      | some dialect => cases second
    · rcases Checks.bind_eq_error.mp later with third | ⟨first, -, later⟩
      · generalize dialect.nextRecord _ _ = found at third
        cases found with
        | error raised => exact (Except.error.inj third) ▸ rfl
        | ok first => cases third
      · rcases Checks.bind_eq_error.mp later with fourth | ⟨header, -, last⟩
        · cases first with
          | none => exact (Except.error.inj fourth) ▸ rfl
          | some header => cases fourth
        · cases last

end ReaderLibrary

/-- There are at most as many rows as characters. -/
theorem length_readRows
    {payload : List UInt8}
    {rows : List RawPayload}
    (isRead : readRows payload = .ok rows) : rows.length ≤ 2 * payload.length := by
  simp only [readRows, readTextRows, Checks.bind_eq_ok, Checks.requireSome_eq_ok,
    Checks.mapError_eq_ok] at isRead
  obtain ⟨text, decoded, first, found, isRows⟩ := isRead
  have characters := length_le_of_decodeUtf8Sig decoded
  cases first with
  | none =>
      obtain rfl := Except.ok.inj isRows
      simp
  | some opened =>
      obtain ⟨header, rest⟩ := opened
      rw [← CsvDialect.excel_nextRecord] at found
      have count : rows.length ≤ rest.length :=
        length_csvRows (Checks.mapError_eq_ok.mp isRows)
      have lines := (CsvDialect.length_nextRecord found).2
      have weight := lineWeight_csvLines text.toList
      have few := length_le_lineWeight (csvLines text.toList)
      omega

/-- Everything that the rows raise is caught. -/
theorem isCaught_of_readRows
    {payload : List UInt8}
    {raised : ReadException}
    (isRaised : readRows payload = .error raised) : raised.isCaught = true := by
  rcases Checks.bind_eq_error.mp isRaised with first | ⟨text, -, later⟩
  · generalize decodeUtf8Sig payload = found at first
    cases found with
    | none => exact (Except.error.inj first) ▸ rfl
    | some text => cases first
  · unfold readTextRows at later
    rcases Checks.bind_eq_error.mp later with second | ⟨first, -, last⟩
    · generalize CsvParser.start.nextRecord _ = found at second
      cases found with
      | error raised => exact (Except.error.inj second) ▸ rfl
      | ok first => cases second
    · cases first with
      | none => cases last
      | some opened =>
          obtain ⟨header, rest⟩ := opened
          dsimp only [Option.elim] at last
          generalize csvRows _ _ _ = found at last
          cases found with
          | ok rows => cases last
          | error problem =>
              obtain rfl := Except.error.inj last
              cases problem <;> rfl

/-- An exception of the whole reading is caught. -/
theorem isCaught_of_readVerdict
    {library : ReaderLibrary}
    {payload : List UInt8}
    {raised : ReadException}
    (isRaised : readVerdict library payload = .error raised) : raised.isCaught = true := by
  rcases Checks.bind_eq_error.mp isRaised with first | ⟨detected, -, later⟩
  · exact ReaderLibrary.isCaught_of_detect first
  · split at later
    next => cases later
    next =>
      rcases Checks.bind_eq_error.mp later with second | ⟨rows, -, last⟩
      · exact isCaught_of_readRows second
      · cases last

/-- What is made of a file is a description that its state allows and that can be
written. -/
theorem readVerdict_spec
    {library : ReaderLibrary}
    {payload : PyBytes}
    {state : RawFileState}
    {description : TransitionPayload}
    {detected : SchemaDetection}
    (isVerdict : readVerdict library payload.bytes = .ok (state, description, detected)) :
    state ∈ RawFileState.validating.allowedTransitions ∧ state.isTerminal = true ∧
      description.stored.isValidFor state = true ∧ description.Codable := by
  obtain ⟨found, isDetected, later⟩ := Checks.bind_eq_ok.mp isVerdict
  obtain ⟨dialect, headers, rfl, few⟩ := ReaderLibrary.exists_detection isDetected
  have fits := payload.fits
  have structural : Json.Simple 7 (.obj (detection dialect headers).structuralFingerprint) := by
    have short : PyJson.isShortInt headers.length = true := isShortInt_of_le (by omega)
    unfold detection
    split
    next => exact simple_structuralFingerprint short
    next => exact simple_structuralFingerprint short
  split at later
  next unknown =>
    simp only [Checks.pure_eq_ok, Prod.mk.injEq] at later
    obtain ⟨rfl, rfl, -⟩ := later
    refine ⟨by decide, rfl, ?_, ⟨?_, ?_⟩⟩
    · split
      next => rfl
      next present =>
        simp only [TransitionPayload.stored, StatePayload.isValidFor, Option.map_none,
          Option.map_some, Option.isNone_none, Option.isSome_some, Bool.and_self, Bool.true_and,
          List.isEmpty_map, Bool.not_eq_true', List.isEmpty_eq_false_iff]
        exact present
    · rintro fields ⟨⟩
      exact structural
    · exact fun fields present => absurd present (Option.not_mem_none fields)
  next known =>
    obtain ⟨rows, isRows, last⟩ := Checks.bind_eq_ok.mp later
    simp only [Checks.pure_eq_ok, Prod.mk.injEq] at last
    obtain ⟨rfl, rfl, -⟩ := last
    have matched : headers = wbSyntheticHeaders := by
      by_contra other
      rw [detection, if_neg other] at known
      exact known rfl
    have short : PyJson.isShortInt rows.length = true := by
      have count := length_readRows isRows
      exact isShortInt_of_le (by omega)
    refine ⟨by decide, rfl, ?_, ⟨?_, ?_⟩⟩
    · have named : PyStr.ofString "wb-synthetic-operations-v1" ≠ [] := by decide +kernel
      simp [detection, matched, TransitionPayload.stored, StatePayload.isValidFor, named]
    · rintro fields ⟨⟩
      exact structural
    · rintro fields ⟨⟩
      exact simple_semanticFingerprint short

theorem toOption_detectText
    (library : ReaderLibrary)
    (text : List Char) : (library.detectText text).toOption = detectCsvSchema library.gate text := by
  simp only [ReaderLibrary.detectText, detectCsvSchema, Checks.toOption_bind, Checks.toOption_requireSome,
    Checks.toOption_mapError]
  rfl

theorem toOption_readTextRows (text : List Char) :
    (readTextRows text).toOption = validatedRows text := by
  unfold readTextRows validatedRows
  cases CsvParser.start.nextRecord (csvLines text) with
  | error raised => rfl
  | ok first =>
      cases first with
      | none => rfl
      | some opened => exact Checks.toOption_mapError _ _

/-- Without its exceptions the reading of a file is the verdict of the gate. -/
theorem toOption_readVerdict
    (library : ReaderLibrary)
    (payload : List UInt8) :
    (readVerdict library payload).toOption = verdict library.gate payload := by
  have detected : (library.detect payload).toOption =
      ((decodeUtf8Sig payload).map String.toList).elim (library.gate.detectAhead payload)
        (detectCsvSchema library.gate) := by
    cases decoded : decodeUtf8Sig payload with
    | none => rfl
    | some text =>
        simp only [ReaderLibrary.detect, ReaderLibrary.headerText, decoded, Checks.ok_bind,
          toOption_detectText, Option.map_some, Option.elim_some]
  have rows : (readRows payload).toOption =
      ((decodeUtf8Sig payload).map String.toList).bind validatedRows := by
    simp only [readRows, Checks.toOption_bind, Checks.toOption_requireSome, toOption_readTextRows,
      Option.bind_map, Function.comp_def]
  unfold readVerdict verdict
  rw [Checks.toOption_bind, detected]
  simp only [Option.bind_eq_bind]
  congr 1
  funext found
  split
  · rfl
  · rw [Checks.toOption_bind, rows]
    rfl

/-! ### Transitions -/

namespace RawFiles

variable {interpreter : Interpreter} {library : ReaderLibrary} {files after : RawFiles}
  {tenant : TenantContext} {rawFileId : String} {record current : RawFileMetadata}
  {state : RawFileState} {description : TransitionPayload}

/-- The record of an upload is that of its metadata file. -/
theorem getRecord_eq_ok :
    files.getRecord interpreter tenant rawFileId = .ok record ↔
      ∃ payload, PyText.canonicalUuid? rawFileId = some record.rawFileId ∧
        files.metadata.get? (metadataKey tenant record.rawFileId) = some payload ∧
        recordFromPayload interpreter payload = .ok record ∧
        record.tenantId = PyStr.ofString tenant.tenantId := by
  simp only [getRecord, Checks.bind_eq_ok, Checks.requireSome_eq_ok, Checks.mapError_eq_ok,
    Checks.require_eq_ok, Checks.pure_eq_ok, exists_const]
  constructor
  · rintro ⟨normalizedId, isId, payload, found, _, isRecord, isTenant, rfl, rfl⟩
    exact ⟨payload, isId, found, isRecord, isTenant⟩
  · rintro ⟨payload, isId, found, isRecord, isTenant⟩
    exact ⟨_, isId, payload, found, _, isRecord, isTenant, rfl, rfl⟩

/-- What a transition does. -/
theorem transition_eq_ok :
    files.transition interpreter tenant rawFileId state description = .ok (record, after) ↔
      ∃ current payload, files.getRecord interpreter tenant rawFileId = .ok current ∧
        state ∈ current.state.allowedTransitions ∧ description.stored.isValidFor state = true ∧
        record = current.moved state description ∧
        recordPayload interpreter record = .ok payload ∧
        after = { files with
          metadata := files.metadata.set (metadataKey tenant record.rawFileId) payload } := by
  simp only [transition, writeRecord, Checks.bind_eq_ok, Checks.require_eq_ok,
    Checks.mapError_eq_ok, Checks.pure_eq_ok, exists_const, Prod.mk.injEq]
  constructor
  · rintro ⟨current, isCurrent, allowed, valid, _, ⟨payload, isWritten, rfl⟩, rfl, rfl⟩
    exact ⟨current, payload, isCurrent, allowed, valid, rfl, isWritten, rfl⟩
  · rintro ⟨current, payload, isCurrent, allowed, valid, rfl, isWritten, rfl⟩
    exact ⟨current, isCurrent, allowed, valid, _, ⟨payload, isWritten, rfl⟩, rfl, rfl⟩

/-- A record after a transition can be written. -/
theorem storable_moved
    (sound : current.Sound)
    (short : PyJson.isShortInt current.sizeBytes = true)
    (plain : PyStr.isPlain current.tenantId = true)
    (valid : description.stored.isValidFor state = true)
    (codable : description.Codable) : (current.moved state description).Storable where
  sound := ⟨sound.rawFileId, sound.tenantId, sound.sha256, sound.sizeBytes,
    sound.sanitizedFilename, sound.storageKey, valid⟩
  sizeBytes := short
  tenantId := plain
  schemaId := by
    intro text present
    obtain ⟨schemaId, -, rfl⟩ := Option.map_eq_some_iff.mp present
    exact PyStr.isPlain_ofChars _
  structuralFingerprint := by
    intro fields present
    obtain ⟨document, isDocument, rfl⟩ := Option.map_eq_some_iff.mp present
    exact (PyJson.codable_ofJson (codable.structuralFingerprint document isDocument)).mono
      (by decide)
  semanticFingerprint := by
    intro fields present
    obtain ⟨document, isDocument, rfl⟩ := Option.map_eq_some_iff.mp present
    exact (PyJson.codable_ofJson (codable.semanticFingerprint document isDocument)).mono (by decide)
  diagnostics := by
    intro text listed
    obtain ⟨diagnostic, -, rfl⟩ := List.mem_map.mp listed
    exact PyStr.isPlain_ofChars _

/-- The parts of a record that a transition keeps can be written. -/
structure Steady (record : RawFileMetadata) : Prop where
  sound : record.Sound
  sizeBytes : PyJson.isShortInt record.sizeBytes = true
  tenantId : PyStr.isPlain record.tenantId = true

theorem Steady.moved
    (steady : Steady current)
    (valid : description.stored.isValidFor state = true)
    (codable : description.Codable) : Steady (current.moved state description) :=
  ⟨(storable_moved steady.sound steady.sizeBytes steady.tenantId valid codable).sound,
    steady.sizeBytes, steady.tenantId⟩

/-- A transition that is allowed is made, and its record is found after it. -/
theorem exists_transition
    (isCurrent : files.getRecord interpreter tenant rawFileId = .ok current)
    (steady : Steady current)
    (allowed : state ∈ current.state.allowedTransitions)
    (valid : description.stored.isValidFor state = true)
    (codable : description.Codable) :
    ∃ after, files.transition interpreter tenant rawFileId state description =
        .ok (current.moved state description, after) ∧
      after.getRecord interpreter tenant rawFileId = .ok (current.moved state description) ∧
      after.content = files.content := by
  obtain ⟨payload, isWritten, isRead⟩ := @exists_recordPayload interpreter _
    (storable_moved steady.sound steady.sizeBytes steady.tenantId valid codable)
  refine ⟨_, transition_eq_ok.mpr ⟨current, payload, isCurrent, allowed, valid, rfl, isWritten, rfl⟩,
    ?_, rfl⟩
  obtain ⟨_, isId, -, -, isTenant⟩ := getRecord_eq_ok.mp isCurrent
  exact getRecord_eq_ok.mpr ⟨payload, isId, Dict.get?_set_self _ _ _, isRead, isTenant⟩

/-! ### Every inspection settles -/

/-- What is raised while a readable record is inspected is caught. -/
theorem exists_diagnostic_of_attempt
    {failure : StorageFailure}
    (isCurrent : files.getRecord interpreter tenant rawFileId = .ok current)
    (steady : Steady current)
    (begun : current.state = .validating)
    (raised : files.attempt library interpreter tenant rawFileId = .error failure) :
    ∃ diagnostic, failure.diagnostic? = some diagnostic := by
  rcases Checks.bind_eq_error.mp raised with first | ⟨content, -, later⟩
  · rw [read, isCurrent, Checks.ok_bind] at first
    rcases Checks.bind_eq_error.mp first with missing | ⟨content, -, damaged⟩
    · generalize files.content.get? _ = found at missing
      cases found with
      | none =>
          obtain rfl := Except.error.inj missing
          exact ⟨_, rfl⟩
      | some content => cases missing
    · rcases Checks.bind_eq_error.mp damaged with broken | ⟨-, -, last⟩
      · obtain rfl := (Checks.require_eq_error.mp broken).2
        exact ⟨_, rfl⟩
      · cases last
  · rcases Checks.bind_eq_error.mp later with second | ⟨⟨state, description, detected⟩, isVerdict,
      later⟩
    · cases verdict : readVerdict library content.bytes with
      | ok outcome =>
          rw [verdict] at second
          cases second
      | error problem =>
          rw [verdict] at second
          obtain rfl := Except.error.inj second
          exact ⟨"CSV_SCHEMA_READ_FAILED", if_pos (isCaught_of_readVerdict verdict)⟩
    · obtain ⟨allowed, -, valid, codable⟩ :=
        readVerdict_spec (Checks.mapError_eq_ok.mp isVerdict)
      obtain ⟨after, isMoved, -⟩ :=
        @exists_transition interpreter _ _ _ _ _ _ isCurrent steady (begun ▸ allowed) valid codable
      dsimp only at later
      rw [isMoved] at later
      cases later

/-- An inspection that has begun ends in a state that is not left. -/
theorem exists_check
    (isCurrent : files.getRecord interpreter tenant rawFileId = .ok current)
    (steady : Steady current)
    (begun : current.state = .validating) :
    ∃ result after, files.check library interpreter tenant rawFileId = (.ok result, after) ∧
      result.record.state.isTerminal = true ∧
      after.getRecord interpreter tenant rawFileId = .ok result.record := by
  cases attempted : files.attempt library interpreter tenant rawFileId with
  | ok outcome =>
      obtain ⟨result, after⟩ := outcome
      have checked : files.check library interpreter tenant rawFileId = (.ok result, after) := by
        simp only [check, attempted]
      simp only [attempt, Checks.bind_eq_ok, Checks.mapError_eq_ok, Checks.pure_eq_ok, Prod.exists,
        Prod.mk.injEq] at attempted
      obtain ⟨content, -, state, description, detected, isVerdict, record, _, moved, rfl, rfl⟩ :=
        attempted
      obtain ⟨allowed, terminal, valid, codable⟩ := readVerdict_spec isVerdict
      obtain ⟨expected, isMoved, found, -⟩ :=
        exists_transition isCurrent steady (begun ▸ allowed) valid codable
      obtain ⟨rfl, rfl⟩ := Prod.mk.inj (Except.ok.inj (moved.symm.trans isMoved))
      exact ⟨_, _, checked, terminal, found⟩
  | error failure =>
      obtain ⟨diagnostic, isDiagnostic⟩ :=
        exists_diagnostic_of_attempt isCurrent steady begun attempted
      obtain ⟨after, isMoved, found, -⟩ := exists_transition isCurrent steady
        (begun ▸ (by decide : RawFileState.rejected ∈ RawFileState.validating.allowedTransitions))
        rfl (codable_of_none [diagnostic])
      refine ⟨⟨_, none⟩, after, ?_, rfl, found⟩
      simp only [check, attempted, isDiagnostic, isMoved]
      rfl

/-- A metadata file that can be read and written. -/
theorem steady_of_recordPayload
    {payload : List UInt8}
    (isCurrent : files.getRecord interpreter tenant rawFileId = .ok current)
    (isWritten : recordPayload interpreter current = .ok payload) : Steady current := by
  obtain ⟨metadata, -, -, isRecord, isTenant⟩ := getRecord_eq_ok.mp isCurrent
  exact ⟨sound_of_recordFromPayload isRecord, isShortInt_of_recordPayload isWritten,
    isTenant ▸ PyStr.isPlain_ofChars _⟩

/-- An inspection of a readable record ends in a state that is not left. -/
theorem exists_inspect
    (isCurrent : files.getRecord interpreter tenant rawFileId = .ok current)
    (steady : Steady current) :
    ∃ result after, files.inspect library interpreter tenant rawFileId = (.ok result, after) ∧
      result.record.state.isTerminal = true ∧
      after.getRecord interpreter tenant rawFileId = .ok result.record := by
  cases begun : current.state with
  | received =>
      obtain ⟨started, isStarted, found, -⟩ := exists_transition isCurrent steady
        (begun ▸ (by decide : RawFileState.validating ∈ RawFileState.received.allowedTransitions))
        rfl (codable_of_none [])
      obtain ⟨result, after, checked, terminal, kept⟩ :=
        @exists_check interpreter library _ _ _ _ found (steady.moved rfl (codable_of_none [])) rfl
      exact ⟨result, after, by simp only [inspect, isCurrent, begun, isStarted, checked], terminal,
        kept⟩
  | validating =>
      obtain ⟨result, after, checked, terminal, kept⟩ :=
        @exists_check interpreter library _ _ _ _ isCurrent steady begun
      exact ⟨result, after, by simp only [inspect, isCurrent, begun, checked], terminal, kept⟩
  | valid =>
      exact ⟨⟨current, none⟩, files, by simp only [inspect, isCurrent, begun], begun ▸ rfl, isCurrent⟩
  | quarantined =>
      exact ⟨⟨current, none⟩, files, by simp only [inspect, isCurrent, begun], begun ▸ rfl, isCurrent⟩
  | rejected =>
      exact ⟨⟨current, none⟩, files, by simp only [inspect, isCurrent, begun], begun ▸ rfl, isCurrent⟩

/-- A record in a state that is not left is what an inspection returns. -/
theorem inspect_of_terminal
    (isCurrent : files.getRecord interpreter tenant rawFileId = .ok current)
    (terminal : current.state.isTerminal = true) :
    files.inspect library interpreter tenant rawFileId = (.ok ⟨current, none⟩, files) := by
  cases state : current.state with
  | received => simp [state, RawFileState.isTerminal] at terminal
  | validating => simp [state, RawFileState.isTerminal] at terminal
  | valid => simp only [inspect, isCurrent, state]
  | quarantined => simp only [inspect, isCurrent, state]
  | rejected => simp only [inspect, isCurrent, state]

/-! ### What later calls keep -/

/-- Metadata files of records in a state that is not left are kept. -/
def Keeps (interpreter : Interpreter) (files after : RawFiles) : Prop :=
  ∀ key payload record, files.metadata.get? key = some payload →
    recordFromPayload interpreter payload = .ok record → record.state.isTerminal = true →
    after.metadata.get? key = some payload

theorem Keeps.refl (interpreter : Interpreter) (files : RawFiles) : Keeps interpreter files files :=
  fun _ _ _ found _ _ => found

theorem Keeps.trans
    {middle : RawFiles}
    (first : Keeps interpreter files middle)
    (second : Keeps interpreter middle after) : Keeps interpreter files after :=
  fun key payload record found isRecord terminal =>
    second key payload record (first key payload record found isRecord terminal) isRecord terminal

/-- A transition leaves records alone that are in a state that is not left. -/
theorem keeps_of_transition
    (moved : files.transition interpreter tenant rawFileId state description = .ok (record, after)) :
    Keeps interpreter files after := by
  obtain ⟨current, written, isCurrent, allowed, -, rfl, -, rfl⟩ := transition_eq_ok.mp moved
  obtain ⟨metadata, -, isMetadata, isRecord, -⟩ := getRecord_eq_ok.mp isCurrent
  intro key payload other found isOther terminal
  by_cases same : key = metadataKey tenant current.rawFileId
  · subst same
    obtain rfl := Option.some.inj (isMetadata.symm.trans found)
    obtain rfl := Except.ok.inj (isRecord.symm.trans isOther)
    revert terminal allowed
    cases current.state <;> simp [RawFileState.isTerminal, RawFileState.allowedTransitions]
  · exact (Dict.get?_set_of_ne _ same _).trans found

theorem keeps_of_check
    (interpreter : Interpreter)
    (library : ReaderLibrary)
    (files : RawFiles)
    (tenant : TenantContext)
    (rawFileId : String) :
    Keeps interpreter files (files.check library interpreter tenant rawFileId).2 := by
  unfold check
  split
  next result after attempted =>
    simp only [attempt, Checks.bind_eq_ok, Checks.pure_eq_ok, Prod.exists, Prod.mk.injEq]
      at attempted
    obtain ⟨_, -, _, _, _, -, _, _, moved, -, rfl⟩ := attempted
    exact keeps_of_transition moved
  next =>
    split
    next => exact .refl interpreter files
    next =>
      split
      next => exact .refl interpreter files
      next moved => exact keeps_of_transition moved

theorem keeps_of_inspect
    (interpreter : Interpreter)
    (library : ReaderLibrary)
    (files : RawFiles)
    (tenant : TenantContext)
    (rawFileId : String) :
    Keeps interpreter files (files.inspect library interpreter tenant rawFileId).2 := by
  unfold inspect
  split
  next => exact .refl interpreter files
  next =>
    split
    next =>
      split
      next => exact .refl interpreter files
      next moved => exact (keeps_of_transition moved).trans (keeps_of_check _ _ _ _ _)
    next => exact keeps_of_check _ _ _ _ _
    next => exact .refl interpreter files

theorem metadata_storeContent
    {digest : String}
    {payload : PyBytes}
    (stored : files.storeContent tenant digest payload = .ok after) :
    after.metadata = files.metadata := by
  unfold storeContent at stored
  dsimp only at stored
  split at stored
  next =>
    obtain ⟨-, -, isSame⟩ := Checks.bind_eq_ok.mp stored
    exact (Except.ok.inj isSame) ▸ rfl
  next => exact (Except.ok.inj stored) ▸ rfl

/-- Storing a file writes metadata where there are none. -/
theorem keeps_of_store
    (interpreter : Interpreter)
    (files : RawFiles)
    (tenant : TenantContext)
    (receipt : UploadReceipt)
    (payload : PyBytes) :
    Keeps interpreter files (files.store interpreter tenant receipt payload).2 := by
  unfold store
  split
  next => exact .refl interpreter files
  next rawFileId digest checked =>
    split
    next =>
      split
      next => exact .refl interpreter files
      next again =>
        simp only [storeAgain, Checks.bind_eq_ok, Checks.pure_eq_ok, Prod.mk.injEq] at again
        obtain ⟨_, -, _, -, _, stored, -, rfl⟩ := again
        intro key metadata record found _ _
        rw [metadata_storeContent stored]
        exact found
    next absent =>
      split
      next => exact .refl interpreter files
      next stored isStored =>
        have same := metadata_storeContent isStored
        dsimp only
        split
        next =>
          intro key metadata record found _ _
          rw [same]
          exact found
        next written =>
          obtain ⟨metadata, -, isWritten⟩ := Checks.bind_eq_ok.mp written
          obtain rfl := Except.ok.inj isWritten
          intro key other record found _ _
          have apart : key ≠ metadataKey tenant rawFileId := by
            rintro rfl
            rw [absent] at found
            cases found
          exact (Dict.get?_set_of_ne _ apart _).trans (same ▸ found)

theorem perform_store
    (receipt : UploadReceipt)
    (payload : PyBytes) :
    files.perform library interpreter (.store tenant receipt payload) =
      files.store interpreter tenant receipt payload := by
  rw [perform]

theorem perform_inspect
    (tenant : TenantContext)
    (rawFileId : String) :
    files.perform library interpreter (.inspect tenant rawFileId) =
      ((files.inspect library interpreter tenant rawFileId).1.map InspectionResult.record,
        (files.inspect library interpreter tenant rawFileId).2) := by
  rw [perform]

theorem keeps_of_perform
    (interpreter : Interpreter)
    (library : ReaderLibrary)
    (files : RawFiles)
    (call : StorageCall) : Keeps interpreter files (files.perform library interpreter call).2 := by
  cases call with
  | store tenant receipt payload =>
      rw [perform_store]
      exact keeps_of_store interpreter files tenant receipt payload
  | inspect tenant rawFileId =>
      rw [perform_inspect]
      exact keeps_of_inspect interpreter library files tenant rawFileId
  | interrupted tenant rawFileId =>
      unfold perform
      dsimp only
      split
      next => exact .refl interpreter files
      next moved => exact keeps_of_transition moved

theorem keeps_of_run
    (interpreter : Interpreter)
    (library : ReaderLibrary)
    (files : RawFiles)
    (calls : List StorageCall) : Keeps interpreter files (files.run library interpreter calls) := by
  induction calls generalizing files with
  | nil => exact .refl interpreter files
  | cons call calls inductionHypothesis =>
      exact (keeps_of_perform interpreter library files call).trans (inductionHypothesis _)

/-- Every inspection of a file whose metadata can be read and written ends in `VALID`,
`QUARANTINED` or `REJECTED`, and every later one returns the same record. -/
theorem inspect_settles
    {payload : List UInt8}
    (isCurrent : files.getRecord interpreter tenant rawFileId = .ok current)
    (isWritten : recordPayload interpreter current = .ok payload) :
    ∃ result after, files.inspect library interpreter tenant rawFileId = (.ok result, after) ∧
      result.record.state ∈ [RawFileState.valid, .quarantined, .rejected] ∧
      ∀ calls, ((after.run library interpreter calls).inspect library interpreter tenant
        rawFileId).1 = .ok ⟨result.record, none⟩ := by
  obtain ⟨result, after, inspected, terminal, found⟩ :=
    @exists_inspect interpreter library _ _ _ _ isCurrent
      (steady_of_recordPayload isCurrent isWritten)
  refine ⟨result, after, inspected, ?_, fun calls => ?_⟩
  · revert terminal
    cases result.record.state <;> simp [RawFileState.isTerminal]
  · obtain ⟨metadata, isId, isMetadata, isRecord, isTenant⟩ := getRecord_eq_ok.mp found
    have kept := keeps_of_run interpreter library after calls _ _ _ isMetadata isRecord terminal
    rw [inspect_of_terminal (getRecord_eq_ok.mpr ⟨metadata, isId, kept, isRecord, isTenant⟩) terminal]

/-! ### Every record that is produced is read back -/

/-- A record that is written is read back, also after a transition. -/
structure Coded (interpreter : Interpreter) (record : RawFileMetadata) : Prop where
  steady : Steady record
  readBack : ∃ payload, recordPayload interpreter record = .ok payload ∧
    recordFromPayload interpreter payload = .ok record

/-- Every metadata file is that of a record that is read back. -/
def AllCoded (interpreter : Interpreter) (files : RawFiles) : Prop :=
  ∀ key payload, files.metadata.get? key = some payload →
    ∃ record, Coded interpreter record ∧ recordFromPayload interpreter payload = .ok record

theorem coded_of_getRecord
    (coded : AllCoded interpreter files)
    (isCurrent : files.getRecord interpreter tenant rawFileId = .ok current) :
    Coded interpreter current := by
  obtain ⟨payload, -, found, isRecord, -⟩ := getRecord_eq_ok.mp isCurrent
  obtain ⟨record, isCoded, isRead⟩ := coded _ _ found
  exact Except.ok.inj (isRead.symm.trans isRecord) ▸ isCoded

/-- Writing a record that is read back. -/
theorem AllCoded.set
    (coded : AllCoded interpreter files)
    {payload : List UInt8}
    (isCoded : Coded interpreter record)
    (isRead : recordFromPayload interpreter payload = .ok record)
    (key : String × String) :
    AllCoded interpreter { files with metadata := files.metadata.set key payload } := by
  intro other written found
  by_cases same : other = key
  · subst same
    obtain rfl := Option.some.inj ((Dict.get?_set_self _ _ _).symm.trans found)
    exact ⟨record, isCoded, isRead⟩
  · exact coded other written ((Dict.get?_set_of_ne _ same _).symm.trans found)

theorem coded_of_transition
    (coded : AllCoded interpreter files)
    (codable : description.Codable)
    (moved : files.transition interpreter tenant rawFileId state description = .ok (record, after)) :
    Coded interpreter record ∧ AllCoded interpreter after := by
  obtain ⟨current, payload, isCurrent, -, valid, rfl, isWritten, rfl⟩ := transition_eq_ok.mp moved
  have steady := (coded_of_getRecord coded isCurrent).steady
  obtain ⟨written, isPayload, isRead⟩ := @exists_recordPayload interpreter _
    (storable_moved steady.sound steady.sizeBytes steady.tenantId valid codable)
  obtain rfl := Except.ok.inj (isWritten.symm.trans isPayload)
  have isCoded : Coded interpreter (current.moved state description) :=
    ⟨steady.moved valid codable, payload, isWritten, isRead⟩
  exact ⟨isCoded, coded.set isCoded isRead _⟩

theorem coded_of_check
    {result : Except StorageFailure InspectionResult}
    (coded : AllCoded interpreter files)
    (checked : files.check library interpreter tenant rawFileId = (result, after)) :
    (∀ found, result = .ok found → Coded interpreter found.record) ∧ AllCoded interpreter after := by
  unfold check at checked
  split at checked
  next found before attempted =>
    obtain ⟨rfl, rfl⟩ := Prod.mk.inj checked
    simp only [attempt, Checks.bind_eq_ok, Checks.mapError_eq_ok, Checks.pure_eq_ok, Prod.exists,
      Prod.mk.injEq] at attempted
    obtain ⟨_, -, _, _, _, isVerdict, _, _, moved, rfl, rfl⟩ := attempted
    obtain ⟨isCoded, allCoded⟩ :=
      coded_of_transition coded (readVerdict_spec isVerdict).2.2.2 moved
    exact ⟨fun found isFound => Except.ok.inj isFound ▸ isCoded, allCoded⟩
  next =>
    split at checked
    next =>
      obtain ⟨rfl, rfl⟩ := Prod.mk.inj checked
      exact ⟨fun _ isFound => (by cases isFound), coded⟩
    next =>
      split at checked
      next =>
        obtain ⟨rfl, rfl⟩ := Prod.mk.inj checked
        exact ⟨fun _ isFound => (by cases isFound), coded⟩
      next moved =>
        obtain ⟨rfl, rfl⟩ := Prod.mk.inj checked
        obtain ⟨isCoded, allCoded⟩ := coded_of_transition coded (codable_of_none _) moved
        exact ⟨fun found isFound => Except.ok.inj isFound ▸ isCoded, allCoded⟩

theorem coded_of_inspect
    {result : Except StorageFailure InspectionResult}
    (coded : AllCoded interpreter files)
    (inspected : files.inspect library interpreter tenant rawFileId = (result, after)) :
    (∀ found, result = .ok found → Coded interpreter found.record) ∧ AllCoded interpreter after := by
  unfold inspect at inspected
  split at inspected
  next =>
    obtain ⟨rfl, rfl⟩ := Prod.mk.inj inspected
    exact ⟨fun _ isFound => (by cases isFound), coded⟩
  next current isCurrent =>
    split at inspected
    next =>
      split at inspected
      next =>
        obtain ⟨rfl, rfl⟩ := Prod.mk.inj inspected
        exact ⟨fun _ isFound => (by cases isFound), coded⟩
      next moved =>
        exact coded_of_check (coded_of_transition coded (codable_of_none []) moved).2 inspected
    next => exact coded_of_check coded inspected
    next =>
      obtain ⟨rfl, rfl⟩ := Prod.mk.inj inspected
      exact ⟨fun found isFound => Except.ok.inj isFound ▸ coded_of_getRecord coded isCurrent, coded⟩

/-- The record of a new upload can be written. -/
theorem storable_receivedRecord
    {receipt : UploadReceipt}
    {payload : PyBytes}
    {digest : String}
    (checked : checkUpload tenant receipt payload = .ok (rawFileId, digest)) :
    (receivedRecord tenant receipt rawFileId digest payload).Storable := by
  simp only [checkUpload, Checks.bind_eq_ok, Checks.require_eq_ok, Checks.requireSome_eq_ok,
    Checks.pure_eq_ok, exists_const, Prod.mk.injEq] at checked
  obtain ⟨-, -, safe, _, isId, -, rfl, rfl⟩ := checked
  have fits := payload.fits
  have present : PyStr.ofString tenant.tenantId ≠ [] := by
    intro empty
    refine tenant.tenantIdNonempty (PyStr.ofString_injective (empty.trans ?_))
    decide +kernel
  exact {
    sound := ⟨PyText.canonicalUuid?_of_canonicalUuid? isId, present,
      Sha256.isHexDigest_hexdigestOfBytes _, Int.natCast_nonneg _, safe, rfl, rfl⟩
    sizeBytes := isShortInt_of_le (by omega)
    tenantId := PyStr.isPlain_ofChars _
    schemaId := fun text present => absurd present (Option.not_mem_none text)
    structuralFingerprint := fun fields present => absurd present (Option.not_mem_none fields)
    semanticFingerprint := fun fields present => absurd present (Option.not_mem_none fields)
    diagnostics := fun text listed => absurd listed List.not_mem_nil }

theorem coded_of_storable
    (storable : record.Storable) : Coded interpreter record :=
  ⟨⟨storable.sound, storable.sizeBytes, storable.tenantId⟩, exists_recordPayload storable⟩

theorem AllCoded.of_metadata_eq
    (coded : AllCoded interpreter files)
    (same : after.metadata = files.metadata) : AllCoded interpreter after :=
  fun key payload found => coded key payload (same ▸ found)

theorem coded_of_store
    {receipt : UploadReceipt}
    {payload : PyBytes}
    {result : Except StorageFailure RawFileMetadata}
    (coded : AllCoded interpreter files)
    (stored : files.store interpreter tenant receipt payload = (result, after)) :
    (∀ record, result = .ok record → Coded interpreter record) ∧ AllCoded interpreter after := by
  unfold store at stored
  split at stored
  next =>
    obtain ⟨rfl, rfl⟩ := Prod.mk.inj stored
    exact ⟨fun _ isFound => (by cases isFound), coded⟩
  next rawFileId digest checked =>
    split at stored
    next metadata found =>
      split at stored
      next =>
        obtain ⟨rfl, rfl⟩ := Prod.mk.inj stored
        exact ⟨fun _ isFound => (by cases isFound), coded⟩
      next again =>
        obtain ⟨rfl, rfl⟩ := Prod.mk.inj stored
        simp only [storeAgain, Checks.bind_eq_ok, Checks.mapError_eq_ok, Checks.pure_eq_ok,
          Prod.mk.injEq] at again
        obtain ⟨existing, isExisting, _, -, _, isStored, rfl, rfl⟩ := again
        obtain ⟨record, isCoded, isRead⟩ := coded _ _ found
        obtain rfl := Except.ok.inj (isRead.symm.trans isExisting)
        exact ⟨fun record isRecord => Except.ok.inj isRecord ▸ isCoded,
          coded.of_metadata_eq (metadata_storeContent isStored)⟩
    next =>
      split at stored
      next =>
        obtain ⟨rfl, rfl⟩ := Prod.mk.inj stored
        exact ⟨fun _ isFound => (by cases isFound), coded⟩
      next isStored =>
        have before := coded.of_metadata_eq (metadata_storeContent isStored)
        have isCoded := @coded_of_storable interpreter _ (storable_receivedRecord checked)
        dsimp only at stored
        split at stored
        next =>
          obtain ⟨rfl, rfl⟩ := Prod.mk.inj stored
          exact ⟨fun _ isFound => (by cases isFound), before⟩
        next written =>
          obtain ⟨rfl, rfl⟩ := Prod.mk.inj stored
          obtain ⟨metadata, isWritten, isAfter⟩ := Checks.bind_eq_ok.mp written
          obtain rfl := Except.ok.inj isAfter
          obtain ⟨payload, isPayload, isRead⟩ := isCoded.readBack
          obtain rfl := Except.ok.inj ((Checks.mapError_eq_ok.mp isWritten).symm.trans isPayload)
          exact ⟨fun record isRecord => Except.ok.inj isRecord ▸ isCoded,
            before.set isCoded isRead _⟩

theorem coded_of_perform
    {call : StorageCall}
    {result : Except StorageFailure RawFileMetadata}
    (coded : AllCoded interpreter files)
    (performed : files.perform library interpreter call = (result, after)) :
    (∀ record, result = .ok record → Coded interpreter record) ∧ AllCoded interpreter after := by
  cases call with
  | store tenant receipt payload =>
      rw [perform_store] at performed
      exact coded_of_store coded performed
  | inspect tenant rawFileId =>
      cases inspected : files.inspect library interpreter tenant rawFileId with
      | mk outcome later =>
          simp only [perform, inspected] at performed
          obtain ⟨rfl, rfl⟩ := Prod.mk.inj performed
          obtain ⟨isCoded, allCoded⟩ := coded_of_inspect coded inspected
          refine ⟨fun record isRecord => ?_, allCoded⟩
          obtain ⟨found, isFound, rfl⟩ := Checks.map_eq_ok.mp isRecord
          exact isCoded found isFound
  | interrupted tenant rawFileId =>
      unfold perform at performed
      dsimp only at performed
      split at performed
      next =>
        obtain ⟨rfl, rfl⟩ := Prod.mk.inj performed
        exact ⟨fun _ isFound => (by cases isFound), coded⟩
      next moved =>
        obtain ⟨rfl, rfl⟩ := Prod.mk.inj performed
        obtain ⟨isCoded, allCoded⟩ := coded_of_transition coded (codable_of_none []) moved
        exact ⟨fun record isRecord => Except.ok.inj isRecord ▸ isCoded, allCoded⟩

/-- Calls keep every metadata file that of a record that is read back. -/
theorem allCoded_of_run
    (interpreter : Interpreter)
    (library : ReaderLibrary)
    (calls : List StorageCall)
    (coded : AllCoded interpreter files) :
    AllCoded interpreter (files.run library interpreter calls) := by
  induction calls generalizing files with
  | nil => exact coded
  | cons call calls inductionHypothesis =>
      have performed := coded_of_perform coded
        (Prod.mk.eta (p := files.perform library interpreter call)).symm
      exact inductionHypothesis performed.2

/-- Whatever was stored and inspected before, the bytes that are written for a record
that a call produces are read back as this record. -/
theorem recordFromPayload_of_perform
    {calls : List StorageCall}
    {call : StorageCall}
    (produced : ((empty.run library interpreter calls).perform library interpreter call).1 =
      .ok record) :
    ∃ payload, recordPayload interpreter record = .ok payload ∧
      recordFromPayload interpreter payload = .ok record := by
  have none : AllCoded interpreter empty := fun key payload found => by
    rw [empty, Dict.get?_empty] at found
    cases found
  have performed := coded_of_perform (allCoded_of_run interpreter library calls none)
    (Prod.mk.eta (p := (empty.run library interpreter calls).perform library interpreter call)).symm
  exact (performed.1 record produced).readBack

/-! ### An upload -/

/-- A library that finds no dialect. -/
def plainLibrary : ReaderLibrary := ⟨fun _ => none, fun _ => none⟩

/-- A file of one letter. -/
def letterBytes : PyBytes := ⟨[97], by decide⟩

/-- The receipt of the file. -/
def letterReceipt : UploadReceipt :=
  ⟨uploadId, "t", Sha256.hexdigestOfBytes letterBytes.bytes, 1, "a.csv"⟩

/-- The first upload is stored, and its record is found. -/
theorem exists_store_letter (interpreter : Interpreter) :
    ∃ record after, empty.store interpreter gateTenant letterReceipt letterBytes =
        (.ok record, after) ∧
      after.getRecord interpreter gateTenant uploadId = .ok record ∧
      ∃ payload, recordPayload interpreter record = .ok payload := by
  have isId : PyText.canonicalUuid? uploadId = some uploadId := by decide +kernel
  have safe : isSafeFilename "a.csv" = true := by decide +kernel
  have checked : checkUpload gateTenant letterReceipt letterBytes =
      .ok (uploadId, Sha256.hexdigestOfBytes letterBytes.bytes) := by
    simp only [checkUpload, Checks.bind_eq_ok, Checks.require_eq_ok, Checks.requireSome_eq_ok,
      Checks.pure_eq_ok, exists_const]
    exact ⟨rfl, by decide, safe, uploadId, isId, ⟨rfl, rfl⟩, rfl⟩
  obtain ⟨payload, isWritten, isRead⟩ :=
    @exists_recordPayload interpreter _ (storable_receivedRecord checked)
  let after : RawFiles :=
    ⟨Dict.empty.set (metadataKey gateTenant uploadId) payload, Dict.empty.set
      (LocalRawStorage.tenantToken gateTenant, Sha256.hexdigestOfBytes letterBytes.bytes) letterBytes⟩
  refine ⟨_, after, ?_, getRecord_eq_ok.mpr ⟨payload, isId, Dict.get?_set_self _ _ _, isRead, rfl⟩,
    payload, isWritten⟩
  simp only [store, checked, empty, Dict.get?_empty, storeContent, writeRecord, isWritten]
  rfl

theorem recordFromPayload_of_perform_letter :
    ∃ record payload, recordPayload ⟨1000, by decide⟩ record = .ok payload ∧
      recordFromPayload ⟨1000, by decide⟩ payload = .ok record := by
  obtain ⟨record, after, stored, -, -⟩ := exists_store_letter ⟨1000, by decide⟩
  exact ⟨record, @recordFromPayload_of_perform _ plainLibrary record []
    (.store gateTenant letterReceipt letterBytes) (congrArg Prod.fst stored)⟩

theorem inspect_settles_letter :
    ∃ files result after, RawFiles.inspect plainLibrary ⟨1000, by decide⟩ files gateTenant uploadId =
        (.ok result, after) ∧
      result.record.state ∈ [RawFileState.valid, .quarantined, .rejected] := by
  obtain ⟨record, files, -, isCurrent, payload, isWritten⟩ :=
    exists_store_letter ⟨1000, by decide⟩
  obtain ⟨result, after, inspected, settled, -⟩ :=
    @inspect_settles _ plainLibrary _ _ _ _ _ isCurrent isWritten
  exact ⟨files, result, after, inspected, settled⟩

end RawFiles
end QuantumAnalytics
