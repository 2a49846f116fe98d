import QuantumAnalytics.Finance.Values
import QuantumAnalytics.Foundations.Utf8
import QuantumAnalytics.Ingestion.CsvDialect
import QuantumAnalytics.Ingestion.Pipeline

/-!
# The schema gate

`CsvSchemaGate.inspect` reads the header of a stored file with the dialect that
`csv.Sniffer` finds, and its rows, as the ingestor does, with the default one.
-/

namespace QuantumAnalytics

/-! ### Fingerprints -/

/-- `_sha256_json` next to what it digests. -/
def withDigest (descriptor : JsonObject) : JsonObject :=
  [("descriptor", .obj descriptor), ("sha256", .str (canonicalJsonHash (.obj descriptor)))]

/-- `structural_fingerprint` for the headers that are read with a dialect. -/
def structuralFingerprint (dialect : CsvDialect) (headers : List String) : JsonObject :=
  withDigest
    [("column_count", .int headers.length), ("delimiter", .str (toString dialect.delimiter)),
      ("encoding", .str "utf-8-sig"), ("format", .str "csv"),
      ("headers", .arr (headers.map .str)), ("quotechar", .str (toString dialect.quotechar))]

/-- `_infer_scalar_type`. -/
def inferScalarType (value : String) : String :=
  let value := PyText.stripText value
  if value = "" then "empty"
  else if value.toLower ∈ ["true", "false"] then "boolean"
  else if (PyText.int? 10 value).isSome then "integer"
  else if (Decimal.parse? value).isSome then "decimal"
  else if (DateTime.fromIsoFormat? (String.ofList
      (PyText.replaceChar 'Z' "+00:00".toList value.toList))).isSome then "datetime"
  else "string"

/-- The values of a column. -/
def columnValues (rows : List RawPayload) (key : String) : List String :=
  rows.filterMap fun row => row.get? key

/-- `column_types`. -/
def columnTypes (rows : List RawPayload) : JsonObject :=
  (Finance.sortedSet (rows.flatMap Dict.keys)).map fun key =>
    (key, .arr ((Finance.sortedSet ((columnValues rows key).map inferScalarType)).map .str))

/-- `enum_samples`. -/
def enumSamples (rows : List RawPayload) : JsonObject :=
  ["currency", "operation_type"].filterMap fun key =>
    let samples := Finance.sortedSet ((columnValues rows key).filter (· ≠ ""))
    if samples = [] then none else some (key, .arr (samples.map .str))

/-- `semantic_fingerprint`. -/
def semanticFingerprint (rows : List RawPayload) : JsonObject :=
  withDigest
    [("column_types", .obj (columnTypes rows)), ("enum_samples", .obj (enumSamples rows)),
      ("row_count", .int rows.length)]

/-- The number of rows that a semantic fingerprint states. -/
def rowCount? (fingerprint : JsonObject) : Option Json :=
  (Json.lookup fingerprint "descriptor").bind fun descriptor => descriptor.get? "row_count"

@[simp] theorem rowCount?_semanticFingerprint (rows : List RawPayload) :
    rowCount? (semanticFingerprint rows) = some (.int rows.length) := rfl

/-! ### Schemas -/

/-- `WB_SYNTHETIC_HEADERS`. -/
def wbSyntheticHeaders : List String :=
  ["row_id", "operation_id", "operation_type", "event_time", "recognition_time",
    "product_external_id", "quantity", "gross_amount", "currency", "revision",
    "supersedes_event_id", "reversal_of_event_id"]

/-- The status of a `SchemaDetection`. -/
inductive DetectionStatus
  | matched
  | unknown
  deriving DecidableEq

/-- `SchemaDetection`. -/
structure SchemaDetection where
  /-- Whether a schema is registered for the headers. -/
  status : DetectionStatus
  /-- The schema. -/
  schemaId : Option String
  /-- The adapter. -/
  adapterId : Option String
  /-- The version of the adapter. -/
  adapterVersion : Option String
  /-- The layout of the file. -/
  structuralFingerprint : JsonObject
  /-- How the headers differ from the registered ones. -/
  diagnostics : List String

/-- The diagnostics of headers without a schema. -/
def headerDiagnostics (headers : List String) : List String :=
  let missing := Finance.sortedSet (wbSyntheticHeaders.filter (· ∉ headers))
  let unexpected := Finance.sortedSet (headers.filter (· ∉ wbSyntheticHeaders))
  let diagnostics :=
    (if missing ≠ [] then ["missing_columns=" ++ ",".intercalate missing] else []) ++
    (if unexpected ≠ [] then ["unexpected_columns=" ++ ",".intercalate unexpected] else []) ++
    (if missing = [] ∧ unexpected = [] ∧ headers ≠ wbSyntheticHeaders then ["column_order_changed"]
      else [])
  if diagnostics = [] then ["no_registered_schema"] else diagnostics

/-- `detect_csv_schema` for the headers that are read with a dialect. -/
def detection (dialect : CsvDialect) (headers : List String) : SchemaDetection :=
  if headers = wbSyntheticHeaders then
    { status := .matched
      schemaId := some "wb-synthetic-operations-v1"
      adapterId := some "wildberries-synthetic"
      adapterVersion := some "1.0"
      structuralFingerprint := structuralFingerprint dialect headers
      diagnostics := [] }
  else
    { status := .unknown
      schemaId := none
      adapterId := none
      adapterVersion := none
      structuralFingerprint := structuralFingerprint dialect headers
      diagnostics := headerDiagnostics headers }

/-- What the standard library decides. -/
structure GateLibrary where
  /-- `csv.Sniffer().sniff(sample, delimiters=",;\t")`; `none` is a `csv.Error`. -/
  sniff : List Char → Option CsvDialect
  /-- What is detected in bytes that are not UTF-8, when they are decoded in blocks
  and the headers stand in front of the first bad one. -/
  detectAhead : List UInt8 → Option SchemaDetection

/-- `detect_csv_schema`; `none` is an exception. -/
def detectCsvSchema (library : GateLibrary) (text : List Char) : Option SchemaDetection := do
  let dialect ← library.sniff (text.take 4096)
  let first ← (dialect.nextRecord .start (csvLines text)).toOption
  let (headers, _) ← first
  return detection dialect headers

/-! ### Transitions -/

/-- The arguments of `transition` that describe a file. -/
structure TransitionPayload where
  schemaId : Option String := none
  structuralFingerprint : Option JsonObject := none
  semanticFingerprint : Option JsonObject := none
  diagnostics : List String := []

/-- `_validate_transition_payload`. -/
def TransitionPayload.isValidFor (payload : TransitionPayload) : RawFileState → Bool
  | .received | .validating =>
      payload.schemaId.isNone && payload.structuralFingerprint.isNone &&
        payload.semanticFingerprint.isNone && payload.diagnostics.isEmpty
  | .valid =>
      payload.schemaId.any (· ≠ "") && payload.structuralFingerprint.isSome &&
        payload.semanticFingerprint.isSome && payload.diagnostics.isEmpty
  | .quarantined =>
      payload.schemaId.isNone && payload.structuralFingerprint.isSome &&
        payload.semanticFingerprint.isNone && !payload.diagnostics.isEmpty
  | .rejected =>
      payload.schemaId.isNone && payload.structuralFingerprint.isNone &&
        payload.semanticFingerprint.isNone && !payload.diagnostics.isEmpty

/-- `_ALLOWED_TRANSITIONS`. -/
def RawFileState.allowedTransitions : RawFileState → List RawFileState
  | .received => [.validating]
  | .validating => [.valid, .quarantined, .rejected]
  | _ => []

/-- The record of a file after a transition. -/
def RawFileRecord.moved (current : RawFileRecord) (state : RawFileState)
    (payload : TransitionPayload) : RawFileRecord :=
  { current with
    state
    schemaId := payload.schemaId
    structuralFingerprint := payload.structuralFingerprint
    semanticFingerprint := payload.semanticFingerprint
    diagnostics := payload.diagnostics }

namespace LocalRawStorage

/-- The record of a file is written. -/
def setRecord (storage : LocalRawStorage) (tenant : TenantContext) (record : RawFileRecord) :
    LocalRawStorage :=
  { storage with
    metadata := storage.metadata.set (tenantToken tenant, record.rawFileId) (some record) }

/-- `transition`, with the storage after it. -/
def transition
    (storage : LocalRawStorage)
    (tenant : TenantContext)
    (rawFileId : String)
    (state : RawFileState)
    (payload : TransitionPayload) : Except RawStorageErrorCode (RawFileRecord × LocalRawStorage) := do
  let current ← storage.getRecord tenant rawFileId
  require (state ∈ current.state.allowedTransitions) .rawFileStateTransitionInvalid
  require (payload.isValidFor state = true) .rawFileStatePayloadInvalid
  let updated := current.moved state payload
  return (updated, storage.setRecord tenant updated)

end LocalRawStorage

/-! ### The gate -/

/-- `SchemaGateResult`. -/
structure SchemaGateResult where
  /-- The record of the file. -/
  record : RawFileRecord
  /-- What was detected. -/
  detection : Option SchemaDetection

/-- `_validated_rows`; `none` is an exception. -/
def validatedRows (text : List Char) : Option (List RawPayload) :=
  match CsvParser.start.nextRecord (csvLines text) with
  | .error _ => none
  | .ok none => some []
  | .ok (some (header, rest)) => (csvRows header rest.length rest).toOption

/-- What `inspect` makes of the bytes of a file: the new state, what describes the
file, and what was detected. The result `none` is an exception. -/
def verdict (library : GateLibrary) (payload : List UInt8) :
    Option (RawFileState × TransitionPayload × SchemaDetection) := do
  let text := (decodeUtf8Sig payload).map String.toList
  let detected ← (text.elim (library.detectAhead payload) (detectCsvSchema library))
  if detected.status = .unknown then
    return (.quarantined,
      { structuralFingerprint := some detected.structuralFingerprint
        diagnostics :=
          if detected.diagnostics = [] then ["SCHEMA_UNKNOWN"] else detected.diagnostics },
      detected)
  else do
    let rows ← text.bind validatedRows
    return (.valid,
      { schemaId := detected.schemaId
        structuralFingerprint := some detected.structuralFingerprint
        semanticFingerprint := some (semanticFingerprint rows) },
      detected)

namespace LocalRawStorage

/-- The file is rejected. -/
def reject
    (storage : LocalRawStorage)
    (tenant : TenantContext)
    (rawFileId : String)
    (diagnostic : String) : Except RawStorageErrorCode SchemaGateResult × LocalRawStorage :=
  match storage.transition tenant rawFileId .rejected { diagnostics := [diagnostic] } with
  | .error code => (.error code, storage)
  | .ok (record, after) => (.ok ⟨record, none⟩, after)

/-- The `try` block of `inspect`. -/
def check
    (library : GateLibrary)
    (storage : LocalRawStorage)
    (tenant : TenantContext)
    (rawFileId : String) : Except RawStorageErrorCode SchemaGateResult × LocalRawStorage :=
  match storage.read tenant rawFileId with
  | .error code => storage.reject tenant rawFileId code.text
  | .ok payload =>
      match verdict library payload with
      | none => storage.reject tenant rawFileId "CSV_SCHEMA_READ_FAILED"
      | some (state, description, detected) =>
          match storage.transition tenant rawFileId state description with
          | .error code => storage.reject tenant rawFileId code.text
          | .ok (record, after) => (.ok ⟨record, some detected⟩, after)

/-- `CsvSchemaGate.inspect`, with the storage after it. -/
def inspect
    (library : GateLibrary)
    (storage : LocalRawStorage)
    (tenant : TenantContext)
    (rawFileId : String) : Except RawStorageErrorCode SchemaGateResult × LocalRawStorage :=
  match storage.getRecord tenant rawFileId with
  | .error code => (.error code, storage)
  | .ok current =>
      match current.state with
      | .received =>
          match storage.transition tenant rawFileId .validating {} with
          | .error code => (.error code, storage)
          | .ok (_, started) => started.check library tenant rawFileId
      | .validating => storage.check library tenant rawFileId
      | _ => (.ok ⟨current, none⟩, storage)

/-- The record that was written is found. -/
theorem getRecord_setRecord
    {storage : LocalRawStorage}
    {tenant : TenantContext}
    {rawFileId : String}
    {current updated : RawFileRecord}
    (isCurrent : storage.getRecord tenant rawFileId = .ok current)
    (sameTenant : updated.tenantId = current.tenantId)
    (sameFile : updated.rawFileId = current.rawFileId) :
    (storage.setRecord tenant updated).getRecord tenant rawFileId = .ok updated := by
  unfold getRecord at isCurrent ⊢
  split at isCurrent
  next => cases isCurrent
  next normalizedId isId =>
    split at isCurrent
    next => cases isCurrent
    next => cases isCurrent
    next record found =>
      simp only [Checks.bind_done_eq_ok, Checks.require_eq_ok, Checks.pure_eq_ok] at isCurrent
      obtain ⟨isTenant, isFile, rfl⟩ := isCurrent
      simp only [setRecord, sameFile, isFile, Dict.get?_set_self, Checks.bind_done_eq_ok,
        Checks.require_eq_ok, Checks.pure_eq_ok, sameTenant, isTenant, and_self]

/-- A transition that is allowed is made. -/
theorem transition_of_allowed
    {storage : LocalRawStorage}
    {tenant : TenantContext}
    {rawFileId : String}
    {state : RawFileState}
    {description : TransitionPayload}
    {current : RawFileRecord}
    (isCurrent : storage.getRecord tenant rawFileId = .ok current)
    (allowed : state ∈ current.state.allowedTransitions)
    (isValid : description.isValidFor state = true) :
    storage.transition tenant rawFileId state description =
      .ok (current.moved state description,
        storage.setRecord tenant (current.moved state description)) := by
  simp only [transition, Checks.bind_eq_ok, Checks.require_eq_ok, Checks.pure_eq_ok, exists_const]
  exact ⟨current, isCurrent, allowed, isValid, rfl⟩

/-- What a transition changes. -/
theorem transition_eq_ok
    {storage after : LocalRawStorage}
    {tenant : TenantContext}
    {rawFileId : String}
    {state : RawFileState}
    {description : TransitionPayload}
    {record : RawFileRecord}
    (moved : storage.transition tenant rawFileId state description = .ok (record, after)) :
    record.state = state ∧ record.schemaId = description.schemaId ∧
      record.semanticFingerprint = description.semanticFingerprint ∧
      ∀ payload, storage.read tenant rawFileId = .ok payload →
        after.read tenant rawFileId = .ok payload := by
  simp only [transition, Checks.bind_eq_ok, Checks.require_eq_ok, Checks.pure_eq_ok, exists_const,
    Prod.mk.injEq] at moved
  obtain ⟨current, isCurrent, -, -, rfl, rfl⟩ := moved
  refine ⟨rfl, rfl, rfl, fun payload isRead => ?_⟩
  rw [read, isCurrent, Checks.ok_bind] at isRead
  have found : (storage.setRecord tenant (current.moved state description)).getRecord tenant
      rawFileId = .ok (current.moved state description) := getRecord_setRecord isCurrent rfl rfl
  rw [read, found, Checks.ok_bind]
  exact isRead

end LocalRawStorage

/-! ### What the gate and the ingestor read -/

/-- The ingestor reads a file as rows of the registered columns, as many as the gate
has fingerprinted. -/
def IngestorAgrees
    (storage : LocalRawStorage)
    (tenant : TenantContext)
    (rawFileId : String)
    (record : RawFileRecord) : Prop :=
  ∃ payload rows fingerprint, storage.read tenant rawFileId = .ok payload ∧
    strictRows payload = .ok rows ∧
    (∀ row ∈ rows, ∀ key, key ∈ row.keys ↔ key ∈ wbSyntheticHeaders) ∧
    record.semanticFingerprint = some fingerprint ∧
    rowCount? fingerprint = some (.int rows.length)

/-- The lines after the first one are blank, or the sniffed delimiter is the comma
and the first line has neither spaces nor apostrophes. -/
def WrittenByDefault
    (library : GateLibrary)
    (storage : LocalRawStorage)
    (tenant : TenantContext)
    (rawFileId : String) : Prop :=
  ∃ payload text dialect line lines, storage.read tenant rawFileId = .ok payload ∧
    decodeUtf8Sig payload = some text ∧
    library.sniff (text.toList.take 4096) = some dialect ∧
    csvLines text.toList = line :: lines ∧
    ((∀ other ∈ lines, CsvDialect.IsBlank other) ∨
      dialect.delimiter = ',' ∧ ' ' ∉ line ∧ '\'' ∉ line)

theorem strictRows_eq_ok
    {payload : List UInt8}
    {rows : List RawPayload} :
    strictRows payload = .ok rows ↔ ∃ text header rest, decodeUtf8Sig payload = some text ∧
      CsvParser.start.nextRecord (csvLines text.toList) = .ok (some (header, rest)) ∧
      csvRows header rest.length rest = .ok rows := by
  simp only [strictRows, Checks.bind_eq_ok, Checks.requireSome_eq_ok, Checks.mapError_eq_ok,
    Prod.exists]
  constructor
  · rintro ⟨text, decoded, _, opened, header, rest, rfl, read⟩
    exact ⟨text, header, rest, decoded, opened, read⟩
  · rintro ⟨text, header, rest, decoded, opened, read⟩
    exact ⟨text, decoded, _, opened, header, rest, rfl, read⟩

theorem detectCsvSchema_matched
    {library : GateLibrary}
    {text : List Char}
    {detected : SchemaDetection}
    (isDetected : detectCsvSchema library text = some detected)
    (isMatched : detected.status ≠ .unknown) :
    ∃ dialect rest, library.sniff (text.take 4096) = some dialect ∧
      dialect.nextRecord .start (csvLines text) = .ok (some (wbSyntheticHeaders, rest)) := by
  simp only [detectCsvSchema, Option.bind_eq_bind, Option.bind_eq_some_iff] at isDetected
  obtain ⟨dialect, sniffed, first, opened, ⟨headers, rest⟩, rfl, isDetection⟩ := isDetected
  obtain rfl := Option.some.inj isDetection
  have isRegistered : headers = wbSyntheticHeaders := by
    by_contra isOther
    rw [detection, if_neg isOther] at isMatched
    exact isMatched rfl
  subst isRegistered
  refine ⟨dialect, rest, sniffed, ?_⟩
  generalize dialect.nextRecord .start (csvLines text) = found at opened
  cases found with
  | error raised => cases opened
  | ok first => exact congrArg Except.ok (Option.some.inj opened)

/-- A verdict that is valid comes from a header that matches and from rows that the
default dialect reads. -/
theorem verdict_valid
    {library : GateLibrary}
    {payload : List UInt8}
    {description : TransitionPayload}
    {detected : SchemaDetection}
    (isVerdict : verdict library payload = some (.valid, description, detected)) :
    ∃ text dialect rest rows, decodeUtf8Sig payload = some text ∧
      library.sniff (text.toList.take 4096) = some dialect ∧
      dialect.nextRecord .start (csvLines text.toList) = .ok (some (wbSyntheticHeaders, rest)) ∧
      validatedRows text.toList = some rows ∧
      description.semanticFingerprint = some (semanticFingerprint rows) := by
  simp only [verdict, Option.bind_eq_bind, Option.bind_eq_some_iff] at isVerdict
  obtain ⟨found, isDetected, isVerdict⟩ := isVerdict
  split at isVerdict
  next =>
    cases isVerdict
  next isMatched =>
    obtain ⟨rows, isRead, isVerdict⟩ := Option.bind_eq_some_iff.mp isVerdict
    simp only [Option.pure_def, Option.some.injEq, Prod.mk.injEq, true_and] at isVerdict
    obtain ⟨rfl, rfl⟩ := isVerdict
    cases decoded : decodeUtf8Sig payload with
    | none =>
        rw [decoded] at isRead
        cases isRead
    | some text =>
        rw [decoded] at isDetected isRead
        obtain ⟨dialect, rest, sniffed, opened⟩ := detectCsvSchema_matched isDetected isMatched
        exact ⟨text, dialect, rest, rows, rfl, sniffed, opened, isRead, rfl⟩

namespace LocalRawStorage

variable {library : GateLibrary} {storage after : LocalRawStorage} {tenant : TenantContext}
  {rawFileId : String} {record : RawFileRecord} {detected : SchemaDetection}

theorem check_valid
    (checked : storage.check library tenant rawFileId = (.ok ⟨record, some detected⟩, after))
    (valid : record.state = .valid) :
    ∃ payload description, after.read tenant rawFileId = .ok payload ∧
      verdict library payload = some (.valid, description, detected) ∧
      record.semanticFingerprint = description.semanticFingerprint := by
  have notRejected : ∀ diagnostic,
      storage.reject tenant rawFileId diagnostic ≠ (.ok ⟨record, some detected⟩, after) := by
    intro diagnostic rejected
    unfold reject at rejected
    split at rejected
    next => cases rejected
    next => cases rejected
  unfold check at checked
  split at checked
  next => exact absurd checked (notRejected _)
  next payload isRead =>
    split at checked
    next => exact absurd checked (notRejected _)
    next state description _ isVerdict =>
      split at checked
      next => exact absurd checked (notRejected _)
      next moved =>
        simp only [Prod.mk.injEq, Except.ok.injEq, SchemaGateResult.mk.injEq,
          Option.some.injEq] at checked
        obtain ⟨⟨rfl, rfl⟩, rfl⟩ := checked
        obtain ⟨isState, -, fingerprint, sameRead⟩ := transition_eq_ok moved
        obtain rfl := isState.symm.trans valid
        exact ⟨payload, description, sameRead payload isRead, isVerdict, fingerprint⟩

/-- What a file that the gate marks as valid was read as. -/
theorem inspect_valid
    (inspected : storage.inspect library tenant rawFileId = (.ok ⟨record, some detected⟩, after))
    (valid : record.state = .valid) :
    ∃ payload description, after.read tenant rawFileId = .ok payload ∧
      verdict library payload = some (.valid, description, detected) ∧
      record.semanticFingerprint = description.semanticFingerprint := by
  unfold inspect at inspected
  split at inspected
  next => cases inspected
  next current _ =>
    split at inspected
    next =>
      split at inspected
      next => cases inspected
      next => exact check_valid inspected valid
    next => exact check_valid inspected valid
    next => cases inspected

end LocalRawStorage

/-- The registered columns have no character that means something in a dialect. -/
theorem clean_wbSyntheticHeaders :
    ∀ c ∈ wbSyntheticHeaders.flatMap String.toList, c ∉ CsvDialect.special := by
  have clean : (wbSyntheticHeaders.flatMap String.toList).all
      (fun c => !CsvDialect.special.contains c) = true := by
    decide +kernel
  intro c listed
  simpa using List.all_eq_true.mp clean c listed

/-- A line in front of another one has an end. -/
theorem exists_end_of_csvLines
    {text line next : List Char}
    {lines : List (List Char)}
    (isLines : csvLines text = line :: next :: lines) :
    ∃ body c, line = body ++ [c] ∧ CsvDialect.isLineEnd c = true := by
  induction text using csvLines.induct generalizing line with
  | case1 => cases isLines
  | case2 text inductionHypothesis =>
      rw [csvLines] at isLines
      obtain ⟨rfl, -⟩ := List.cons.inj isLines
      exact ⟨['\r'], '\n', rfl, rfl⟩
  | case3 c text notPair isEnd inductionHypothesis =>
      rw [csvLines, if_pos isEnd] at isLines
      · obtain ⟨rfl, -⟩ := List.cons.inj isLines
        exact ⟨[], c, rfl, by simpa [CsvDialect.isLineEnd] using isEnd⟩
      · exact notPair
  | case4 c text notPair notEnd isNil inductionHypothesis =>
      rw [csvLines, if_neg notEnd, isNil] at isLines
      · cases isLines
      · exact notPair
  | case5 c text notPair notEnd first others isCons inductionHypothesis =>
      rw [csvLines, if_neg notEnd, isCons] at isLines
      · obtain ⟨rfl, rfl⟩ := List.cons.inj isLines
        obtain ⟨body, last, rfl, isEnd⟩ := inductionHypothesis isCons
        exact ⟨c :: body, last, rfl, isEnd⟩
      · exact notPair

/-- Nothing is left after the only line. -/
theorem CsvDialect.rest_eq_nil
    {dialect : CsvDialect}
    {parser : CsvParser}
    {line : List Char}
    {fields : List String}
    {rest : List (List Char)}
    (opened : dialect.nextRecord parser [line] = .ok (some (fields, rest))) : rest = [] := by
  rw [nextRecord] at opened
  split at opened
  next => cases opened
  next =>
    split at opened
    next => exact (Prod.mk.inj (Option.some.inj (Except.ok.inj opened))).2.symm
    next =>
      rw [nextRecord] at opened
      split at opened
      next => exact (Prod.mk.inj (Option.some.inj (Except.ok.inj opened))).2.symm
      next => cases opened

/-- The header and the rows of a text that is not empty. -/
theorem exists_header_of_validatedRows
    {text line : List Char}
    {lines : List (List Char)}
    {rows : List RawPayload}
    (isLines : csvLines text = line :: lines)
    (isRead : validatedRows text = some rows) :
    ∃ header rest, CsvDialect.excel.nextRecord .start (line :: lines) = .ok (some (header, rest)) ∧
      csvRows header rest.length rest = .ok rows := by
  rw [validatedRows, isLines, ← CsvDialect.excel_nextRecord] at isRead
  split at isRead
  next => cases isRead
  next isNone =>
    by_cases blank : CsvDialect.IsBlank line
    · rw [CsvDialect.nextRecord_blank blank] at isNone
      cases isNone
    · obtain ⟨_, _, isSome, -⟩ := CsvDialect.fields_ne_nil_of_not_blank blank isNone
      cases isSome
  next header rest opened =>
    refine ⟨header, rest, opened, ?_⟩
    generalize csvRows header rest.length rest = found at isRead
    cases found with
    | error raised => cases isRead
    | ok read => exact congrArg Except.ok (Option.some.inj isRead)

section Valid

variable {text line : List Char} {lines rest : List (List Char)} {dialect : CsvDialect}
  {rows : List RawPayload} (isLines : csvLines text = line :: lines)
  (opened : dialect.nextRecord .start (csvLines text) = .ok (some (wbSyntheticHeaders, rest)))
  (isRead : validatedRows text = some rows)

include isLines opened isRead

/-- There are no rows when the lines after the first one are blank. -/
theorem rows_eq_nil_iff : rows = [] ↔ ∀ other ∈ lines, CsvDialect.IsBlank other := by
  obtain ⟨header, otherRest, otherOpened, read⟩ := exists_header_of_validatedRows isLines isRead
  rw [isLines] at opened
  have isRest : otherRest = lines := by
    cases lines with
    | nil => exact CsvDialect.rest_eq_nil otherOpened
    | cons next lines =>
        exact (CsvDialect.exists_eatCrNl_of_default (exists_end_of_csvLines isLines) opened
          clean_wbSyntheticHeaders otherOpened).1
  subst isRest
  exact csvRows_eq_nil_iff read le_rfl

/-- The rows have the registered columns exactly when there are none, or the header is
written in the default dialect. -/
theorem keys_iff :
    (∀ row ∈ rows, ∀ key, key ∈ row.keys ↔ key ∈ wbSyntheticHeaders) ↔
      (∀ other ∈ lines, CsvDialect.IsBlank other) ∨
        dialect.delimiter = ',' ∧ ' ' ∉ line ∧ '\'' ∉ line := by
  have noRows := rows_eq_nil_iff isLines opened isRead
  obtain ⟨header, otherRest, otherOpened, read⟩ := exists_header_of_validatedRows isLines isRead
  rw [isLines] at opened
  by_cases blank : ∀ other ∈ lines, CsvDialect.IsBlank other
  · rw [noRows.mpr blank]
    exact ⟨fun _ => .inl blank, fun _ => by simp⟩
  have endsLine : ∃ body c, line = body ++ [c] ∧ CsvDialect.isLineEnd c = true := by
    cases lines with
    | nil => exact absurd (by simp) blank
    | cons next lines => exact exists_end_of_csvLines isLines
  rw [or_iff_right blank]
  constructor
  · intro hasColumns
    obtain ⟨row, isRow⟩ := List.exists_mem_of_ne_nil rows fun none => blank (noRows.mp none)
    have columns : ∀ key, key ∈ header ↔ key ∈ wbSyntheticHeaders := fun key =>
      (mem_keys_of_csvRows read isRow).symm.trans (hasColumns row isRow key)
    refine CsvDialect.plain_of_header endsLine opened clean_wbSyntheticHeaders otherOpened ?_ ?_
    · intro c isKept
      obtain ⟨column, isColumn, inColumn⟩ := List.mem_flatMap.mp isKept
      exact clean_wbSyntheticHeaders c
        (List.mem_flatMap.mpr ⟨column, (columns column).mp isColumn, inColumn⟩)
    · have distinct : wbSyntheticHeaders.Nodup := by decide +kernel
      have subset : wbSyntheticHeaders ⊆ header := fun key isKey => (columns key).mpr isKey
      have enough := (List.subperm_of_subset distinct subset).length_le
      exact lt_of_lt_of_le (by decide) enough
  · rintro ⟨isComma, noSpace, noApostrophe⟩ row isRow key
    obtain rfl := CsvDialect.header_eq_of_plain endsLine opened clean_wbSyntheticHeaders
      otherOpened isComma noSpace noApostrophe
    exact mem_keys_of_csvRows read isRow

end Valid

/-- **The gate and the ingestor.** The ingestor reads a file that the gate has marked
as valid as the gate does exactly when the file has no data or its header is written in
the default dialect. -/
theorem ingestorAgrees_iff
    {library : GateLibrary}
    {storage after : LocalRawStorage}
    {tenant : TenantContext}
    {rawFileId : String}
    {record : RawFileRecord}
    {detected : SchemaDetection}
    (inspected : storage.inspect library tenant rawFileId = (.ok ⟨record, some detected⟩, after))
    (valid : record.state = .valid) :
    IngestorAgrees after tenant rawFileId record ↔
      WrittenByDefault library after tenant rawFileId := by
  obtain ⟨payload, description, stored, isVerdict, fingerprint⟩ :=
    LocalRawStorage.inspect_valid inspected valid
  obtain ⟨text, dialect, rest, rows, decoded, sniffed, opened, isRead, isFingerprint⟩ :=
    verdict_valid isVerdict
  obtain ⟨line, lines, isLines⟩ : ∃ line lines, csvLines text.toList = line :: lines := by
    cases isLines : csvLines text.toList with
    | nil =>
        rw [isLines, CsvDialect.nextRecord] at opened
        cases opened
    | cons line lines => exact ⟨line, lines, rfl⟩
  have columns := keys_iff isLines opened isRead
  obtain ⟨header, otherRest, otherOpened, read⟩ := exists_header_of_validatedRows isLines isRead
  have strict : strictRows payload = .ok rows := by
    refine strictRows_eq_ok.mpr ⟨text, header, otherRest, decoded, ?_, read⟩
    rw [isLines, ← CsvDialect.excel_nextRecord]
    exact otherOpened
  constructor
  · rintro ⟨payload, _, _, isStored, isStrict, hasColumns, -, -⟩
    obtain rfl := Except.ok.inj (stored.symm.trans isStored)
    obtain rfl := Except.ok.inj (strict.symm.trans isStrict)
    exact ⟨_, text, dialect, line, lines, stored, decoded, sniffed, isLines,
      columns.mp hasColumns⟩
  · rintro ⟨_, _, _, _, _, isStored, isDecoded, isSniffed, areLines, written⟩
    obtain rfl := Except.ok.inj (stored.symm.trans isStored)
    obtain rfl := Option.some.inj (decoded.symm.trans isDecoded)
    obtain rfl := Option.some.inj (sniffed.symm.trans isSniffed)
    obtain ⟨rfl, rfl⟩ := List.cons.inj (isLines.symm.trans areLines)
    exact ⟨_, rows, semanticFingerprint rows, stored, strict, columns.mpr written,
      fingerprint.trans isFingerprint, rowCount?_semanticFingerprint rows⟩

/-! ### Uploads -/

/-- Some tenant. -/
def gateTenant : TenantContext := ⟨"t", by decide⟩

/-- The id of an upload. -/
def uploadId : String := "0f8fad5b-d9cb-469f-a165-70867728950e"

/-- The record of a new upload. -/
def uploadRecord (payload : List UInt8) : RawFileRecord where
  rawFileId := uploadId
  tenantId := "t"
  sha256 := Sha256.hexdigestOfBytes payload
  sizeBytes := payload.length
  state := .received
  schemaId := none
  structuralFingerprint := none
  semanticFingerprint := none

/-- A storage with one new upload. -/
def storageOf (payload : List UInt8) : LocalRawStorage where
  metadata := Dict.empty.set (LocalRawStorage.tenantToken gateTenant, uploadId)
    (some (uploadRecord payload))
  content := Dict.empty.set
    (LocalRawStorage.tenantToken gateTenant, Sha256.hexdigestOfBytes payload) payload

/-- An upload with a valid verdict is marked as valid. -/
theorem inspect_upload
    {library : GateLibrary}
    {payload : List UInt8}
    {description : TransitionPayload}
    {detected : SchemaDetection}
    (isVerdict : verdict library payload = some (.valid, description, detected))
    (isValid : description.isValidFor .valid = true) :
    ∃ record after, (storageOf payload).inspect library gateTenant uploadId =
        (.ok ⟨record, some detected⟩, after) ∧
      record.state = .valid ∧ after.read gateTenant uploadId = .ok payload := by
  have isId : PyText.canonicalUuid? uploadId = some uploadId := by decide +kernel
  have received : (storageOf payload).getRecord gateTenant uploadId =
      .ok (uploadRecord payload) := by
    simp only [LocalRawStorage.getRecord, isId, storageOf, Dict.get?_set_self,
      Checks.bind_done_eq_ok, Checks.require_eq_ok, Checks.pure_eq_ok]
    exact ⟨rfl, rfl, trivial⟩
  have content : (storageOf payload).content.get?
      (LocalRawStorage.tenantToken gateTenant, (uploadRecord payload).sha256) = some payload :=
    Dict.get?_set_self ..
  have stored : (storageOf payload).read gateTenant uploadId = .ok payload := by
    rw [LocalRawStorage.read, received, Checks.ok_bind]
    simp only [content, Checks.bind_done_eq_ok, Checks.require_eq_ok, Checks.pure_eq_ok]
    exact ⟨⟨rfl, rfl⟩, trivial⟩
  have started : (storageOf payload).transition gateTenant uploadId .validating {} = _ :=
    LocalRawStorage.transition_of_allowed received List.mem_cons_self rfl
  have storedStarted := (LocalRawStorage.transition_eq_ok started).2.2.2 payload stored
  have validating := LocalRawStorage.getRecord_setRecord received
    (show ((uploadRecord payload).moved .validating {}).tenantId = _ from rfl) rfl
  have finished := LocalRawStorage.transition_of_allowed validating
    (show RawFileState.valid ∈ _ from List.mem_cons_self) isValid
  obtain ⟨isState, -, -, sameRead⟩ := LocalRawStorage.transition_eq_ok finished
  refine ⟨_, _, ?_, isState, sameRead payload storedStarted⟩
  rw [LocalRawStorage.inspect, received]
  have isReceived : (uploadRecord payload).state = .received := rfl
  simp only [isReceived, started, LocalRawStorage.check, storedStarted, isVerdict, finished]

/-- A sniffer that finds one dialect. -/
def libraryOf (dialect : CsvDialect) : GateLibrary := ⟨fun _ => some dialect, fun _ => none⟩

/-- The registered columns are detected. -/
theorem detectCsvSchema_libraryOf
    {dialect : CsvDialect}
    {text : List Char}
    (opened : (dialect.nextRecord .start (csvLines text)).toOption.map (Option.map Prod.fst) =
      some (some wbSyntheticHeaders)) :
    detectCsvSchema (libraryOf dialect) text = some (detection dialect wbSyntheticHeaders) := by
  rw [Option.map_eq_some_iff] at opened
  obtain ⟨first, isFirst, isHeader⟩ := opened
  rw [Option.map_eq_some_iff] at isHeader
  obtain ⟨⟨_, rest⟩, rfl, rfl⟩ := isHeader
  simp only [detectCsvSchema, libraryOf, Option.bind_eq_bind, Option.bind_some, isFirst,
    Option.pure_def]

/-- A text with the registered columns and with rows is marked as valid. -/
theorem inspect_text
    {dialect : CsvDialect}
    {text : List Char}
    {rows : List RawPayload}
    (unsigned : List.isPrefixOf [0xef, 0xbb, 0xbf] (bytesOf text) = false)
    (opened : (dialect.nextRecord .start (csvLines text)).toOption.map (Option.map Prod.fst) =
      some (some wbSyntheticHeaders))
    (isRead : validatedRows text = some rows) :
    ∃ record detected after, (storageOf (bytesOf text)).inspect (libraryOf dialect) gateTenant
        uploadId = (.ok ⟨record, some detected⟩, after) ∧
      record.state = .valid ∧ after.read gateTenant uploadId = .ok (bytesOf text) := by
  have isDetected := detectCsvSchema_libraryOf opened
  have isVerdict : verdict (libraryOf dialect) (bytesOf text) = some (.valid,
      { schemaId := some "wb-synthetic-operations-v1"
        structuralFingerprint := some (structuralFingerprint dialect wbSyntheticHeaders)
        semanticFingerprint := some (semanticFingerprint rows) },
      detection dialect wbSyntheticHeaders) := by
    simp only [verdict, decodeUtf8Sig_bytesOf unsigned, Option.map_some, String.toList_ofList,
      Option.elim_some, isDetected, Option.bind_eq_bind, Option.bind_some, isRead]
    rfl
  obtain ⟨record, after, inspected, valid, isStored⟩ := inspect_upload isVerdict rfl
  exact ⟨record, _, after, inspected, valid, isStored⟩

/-- The columns with a delimiter, and a sale below them. -/
def saleFile (delimiter : Char) : List Char :=
  [wbSyntheticHeaders, ["1", "op-1", "SALE", "2026-01-01T00:00:00Z", "2026-01-01T00:00:00Z", "p-1",
    "1", "10", "RUB", "1", "", ""]].flatMap fun cells =>
      [delimiter].intercalate (cells.map String.toList) ++ ['\n']

theorem ingestorAgrees_iff_commas :
    ∃ record detected after, (storageOf (bytesOf (saleFile ','))).inspect (libraryOf .excel)
        gateTenant uploadId = (.ok ⟨record, some detected⟩, after) ∧
      record.state = .valid ∧ IngestorAgrees after gateTenant uploadId record := by
  have unsigned : List.isPrefixOf [0xef, 0xbb, 0xbf] (bytesOf (saleFile ',')) = false := by
    decide +kernel
  obtain ⟨rows, isRead⟩ : ∃ rows, validatedRows (saleFile ',') = some rows :=
    Option.isSome_iff_exists.mp (by decide +kernel)
  have opened : (CsvDialect.excel.nextRecord .start (csvLines (saleFile ','))).toOption.map
      (Option.map Prod.fst) = some (some wbSyntheticHeaders) := by
    decide +kernel
  obtain ⟨record, detected, after, inspected, valid, isStored⟩ :=
    inspect_text unsigned opened isRead
  have plain : (csvLines (saleFile ',')).head?.any (fun line => ' ' ∉ line ∧ '\'' ∉ line) = true := by
    decide +kernel
  refine ⟨record, detected, after, inspected, valid, (ingestorAgrees_iff inspected valid).mpr ?_⟩
  cases isLines : csvLines (saleFile ',') with
  | nil =>
      rw [isLines] at plain
      cases plain
  | cons line lines =>
      rw [isLines] at plain
      refine ⟨_, _, _, line, lines, isStored, decodeUtf8Sig_bytesOf unsigned, rfl, ?_,
        .inr ⟨rfl, of_decide_eq_true plain⟩⟩
      rw [String.toList_ofList, isLines]

/-- The dialect of a file with semicolons. -/
def semicolonDialect : CsvDialect :=
  ⟨';', '"', true, false, by decide, CsvDialect.quotationMark_mem⟩

/-- A file that is written with semicolons is marked as valid, and is not read as rows
of the registered columns. -/
theorem not_ingestorAgrees_semicolons :
    ∃ record detected after, (storageOf (bytesOf (saleFile ';'))).inspect
        (libraryOf semicolonDialect) gateTenant uploadId = (.ok ⟨record, some detected⟩, after) ∧
      record.state = .valid ∧ ¬IngestorAgrees after gateTenant uploadId record := by
  have unsigned : List.isPrefixOf [0xef, 0xbb, 0xbf] (bytesOf (saleFile ';')) = false := by
    decide +kernel
  have lacks : (validatedRows (saleFile ';')).any
      (fun rows => rows.any fun row => "row_id" ∉ row.keys) = true := by
    decide +kernel
  obtain ⟨rows, isRead, lacks⟩ := Option.any_eq_true _ _ |>.mp lacks
  obtain ⟨row, isRow, lacksColumn⟩ := List.any_eq_true.mp lacks
  have opened : (semicolonDialect.nextRecord .start (csvLines (saleFile ';'))).toOption.map
      (Option.map Prod.fst) = some (some wbSyntheticHeaders) := by
    decide +kernel
  obtain ⟨record, detected, after, inspected, valid, isStored⟩ :=
    inspect_text unsigned opened isRead
  refine ⟨record, detected, after, inspected, valid, ?_⟩
  rintro ⟨_, strict, _, stored, isStrict, hasColumns, -, -⟩
  obtain rfl := Except.ok.inj (isStored.symm.trans stored)
  obtain ⟨text, header, rest, decoded, isOpened, read⟩ := strictRows_eq_ok.mp isStrict
  rw [decodeUtf8Sig_bytesOf unsigned] at decoded
  obtain rfl := Option.some.inj decoded
  rw [String.toList_ofList] at isOpened
  rw [validatedRows, isOpened] at isRead
  dsimp only at isRead
  rw [read] at isRead
  obtain rfl := Option.some.inj isRead
  exact of_decide_eq_true lacksColumn ((hasColumns row isRow "row_id").mpr (by decide))

end QuantumAnalytics
