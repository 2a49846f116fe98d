import QuantumAnalytics.Adapter.Synthetic
import QuantumAnalytics.Ingestion.SchemaGate

/-!
# The proof import

`import_csv_for_proof` checks all rows of a file, and then normalizes them one by
one and appends their events to a ledger file. The source records are written to
their own file after the last row.
-/

namespace QuantumAnalytics
namespace ProofPipeline

open Synthetic

/-! ### The ledger file -/

/-- The members of a serialized event that are texts or numbers. -/
structure SerializedHead where
  eventId : String
  organizationId : String
  marketplaceAccountId : String
  eventType : String
  eventTime : String
  recognitionTime : String
  stableBusinessKey : String
  sourceRowKey : String
  revision : Int
  idempotencyKey : String
  semanticPayloadHash : String
  supersedesEventId : Option String
  reversalOfEventId : Option String
  importBatchId : String
  sourceRecordId : String
  schemaVersion : String
  status : String
  createdAt : String
  deriving DecidableEq

/-- An event in the ledger file. -/
structure SerializedEvent extends SerializedHead where
  payload : JsonObject
  provenance : JsonObject

/-- `==` of two serialized events. -/
def SerializedEvent.pyEq (left right : SerializedEvent) : Bool :=
  left.toSerializedHead == right.toSerializedHead &&
    Json.pyEqFields left.payload right.payload &&
    Json.pyEqFields left.provenance right.provenance

/-- The text of a status. -/
def statusText : EventStatus → String
  | .valid => "VALID"
  | .superseded => "SUPERSEDED"
  | .reversed => "REVERSED"
  | .conflict => "CONFLICT"
  | .blocked => "BLOCKED"

/-- `JsonEventLedger._serialize`. -/
def serialize (event : EventFields) : SerializedEvent where
  eventId := event.eventId
  organizationId := event.organizationId
  marketplaceAccountId := event.marketplaceAccountId
  eventType := event.eventType
  eventTime := event.eventTime.isoformat
  recognitionTime := event.recognitionTime.isoformat
  stableBusinessKey := event.stableBusinessKey
  sourceRowKey := event.sourceRowKey
  revision := event.revision
  idempotencyKey := event.idempotencyKey
  semanticPayloadHash := event.semanticPayloadHash
  supersedesEventId := event.supersedesEventId
  reversalOfEventId := event.reversalOfEventId
  importBatchId := event.importBatchId
  sourceRecordId := event.sourceRecordId
  schemaVersion := event.schemaVersion
  payload := event.payload
  provenance := event.provenance
  status := statusText event.status
  createdAt := event.createdAt.isoformat

/-- The events by one of their keys; `none` is the `RuntimeError` for different
events with one key. -/
def indexBy (keyOf : SerializedEvent → String) (events : List SerializedEvent) :
    Option (Dict String SerializedEvent) :=
  events.foldlM
    (fun index item =>
      match index.get? (keyOf item) with
      | some existing => if existing.pyEq item then some (index.set (keyOf item) item) else none
      | none => some (index.set (keyOf item) item))
    Dict.empty

/-- `JsonEventLedger.add_if_absent`: the events after it, and whether the event was
added; `none` is a `RuntimeError`. -/
def addIfAbsent (events : List SerializedEvent) (event : EventFields) :
    Option (List SerializedEvent × Bool) := do
  let byEventId ← indexBy (fun item => item.eventId) events
  let byIdempotencyKey ← indexBy (fun item => item.idempotencyKey) events
  let serialized := serialize event
  match byEventId.get? event.eventId, byIdempotencyKey.get? event.idempotencyKey with
  | some existing, _ => if existing.pyEq serialized then return (events, false) else none
  | none, some existing => if existing.pyEq serialized then return (events, false) else none
  | none, none => return (events ++ [serialized], true)

/-! ### The source records -/

/-- A line of the source records file. -/
structure SourceRecord where
  sourceRecordId : String
  importBatchId : String
  sourceRowKey : String
  rawRowHash : String
  rawPayload : RawPayload
  structuralFingerprint : Json
  semanticFingerprint : Json
  validationStatus : String
  adapterId : Option String
  adapterVersion : Option String
  createdAt : String

/-- A source record as a mapping. -/
def SourceRecord.toJson (record : SourceRecord) : Json :=
  .ofFields
    [("source_record_id", .str record.sourceRecordId),
      ("import_batch_id", .str record.importBatchId),
      ("source_row_key", .str record.sourceRowKey),
      ("raw_row_hash", .str record.rawRowHash),
      ("raw_payload", record.rawPayload.toJson),
      ("structural_fingerprint", record.structuralFingerprint),
      ("semantic_fingerprint", record.semanticFingerprint),
      ("validation_status", .str record.validationStatus),
      ("adapter_id", record.adapterId.elim .null .str),
      ("adapter_version", record.adapterVersion.elim .null .str),
      ("created_at", .str record.createdAt)]

/-- The characters that `json.dumps` leaves alone and at which `str.splitlines` cuts. -/
def isSeparator (c : Char) : Bool := c.toNat == 0x85 || c.toNat == 0x2028 || c.toNat == 0x2029

/-- A line that would be cut has its first cut inside of a string, so that the first
piece is no JSON text. -/
def SourceRecord.isCut (record : SourceRecord) : Bool :=
  (Json.render record.toJson).any isSeparator

/-- The source records of a file by their ids; `none` is a `json.JSONDecodeError`. -/
def readSourceRecords (lines : List SourceRecord) : Option (Dict String SourceRecord) :=
  if lines.any SourceRecord.isCut then none
  else some (lines.foldl (fun records item => records.set item.sourceRecordId item) Dict.empty)

/-- The lines that are written for source records. -/
def writeSourceRecords (records : Dict String SourceRecord) : List SourceRecord :=
  (records.entries.insertionSort fun left right => left.1 ≤ right.1).map Prod.snd

/-! ### The import -/

/-- The ledger file and the source records file, if they exist. -/
structure ProofFiles where
  ledger : Option (List SerializedEvent)
  sourceRecords : Option (List SourceRecord)

/-- The events of the ledger file. -/
def ProofFiles.events (files : ProofFiles) : List SerializedEvent := files.ledger.getD []

/-- A call of `import_csv_for_proof`. -/
structure ProofImport where
  /-- The bytes of the source file. -/
  payload : List UInt8
  /-- The tenant. -/
  organizationId : String
  /-- The marketplace account. -/
  marketplaceAccountId : String
  /-- Whether the raw storage takes the bytes. -/
  isStored : Bool

/-- `ImportProofResult`. -/
structure ImportProofResult where
  status : String
  fileSha256 : String
  structuralFingerprint : JsonObject
  semanticFingerprint : Option JsonObject
  insertedEvents : Nat
  duplicateEvents : Nat
  quarantined : Bool
  diagnostics : List String

/-- `detect_csv_schema` for bytes; `none` is an exception. -/
def detectInBytes (library : GateLibrary) (payload : List UInt8) : Option SchemaDetection :=
  ((decodeUtf8Sig payload).map String.toList).elim (library.detectAhead payload)
    (detectCsvSchema library)

namespace ProofImport

/-- `file_sha256`. -/
def fileHash (call : ProofImport) : String := Sha256.hexdigestOfBytes call.payload

/-- `import_batch_id`. -/
def importBatchId (call : ProofImport) : String := "batch-" ++ PyText.takeText 16 call.fileHash

/-- `source_record_id`. -/
def sourceRecordId (call : ProofImport) (row : RawPayload) : String :=
  "src-" ++ PyText.takeText 12 call.fileHash ++ "-" ++ cell row "row_id"

/-- The arguments of `normalize_row`. -/
def normalization (call : ProofImport) (detection : SchemaDetection) (row : RawPayload) :
    NormalizationContext where
  organizationId := call.organizationId
  marketplaceAccountId := call.marketplaceAccountId
  importBatchId := call.importBatchId
  sourceRecordId := call.sourceRecordId row
  sourceFileSha256 := call.fileHash
  schemaVersion := (detection.schemaId.filter (· ≠ "")).getD "UNAVAILABLE"
  adapterId := (detection.adapterId.filter (· ≠ "")).getD "UNAVAILABLE"
  adapterVersion := (detection.adapterVersion.filter (· ≠ "")).getD "UNAVAILABLE"
  traceId := "trace-" ++ PyText.takeText 16 call.fileHash
  actor := "a6-proof-worker"

/-- The source record of a normalized row. -/
def sourceRecord
    (call : ProofImport)
    (detection : SchemaDetection)
    (semantic : JsonObject)
    (row : RawPayload)
    (normalized : NormalizedRow) : SourceRecord where
  sourceRecordId := call.sourceRecordId row
  importBatchId := call.importBatchId
  sourceRowKey := normalized.sourceRowKey
  rawRowHash := normalized.rawRowHash
  rawPayload := row
  structuralFingerprint := (Json.lookup detection.structuralFingerprint "sha256").getD .null
  semanticFingerprint := (Json.lookup semantic "sha256").getD .null
  validationStatus := "VALID"
  adapterId := detection.adapterId
  adapterVersion := detection.adapterVersion
  createdAt := cell row "recognition_time"

/-- `_quarantine`. -/
def quarantine
    (call : ProofImport)
    (detection : SchemaDetection)
    (semantic : Option JsonObject)
    (diagnostics : List String) : ImportProofResult where
  status := "QUARANTINED"
  fileSha256 := call.fileHash
  structuralFingerprint := detection.structuralFingerprint
  semanticFingerprint := semantic
  insertedEvents := 0
  duplicateEvents := 0
  quarantined := true
  diagnostics

/-- `validation_errors`. -/
def validationErrors (rows : List RawPayload) : List String :=
  (rows.zipIdx 2).filterMap fun (row, sourceLine) =>
    match validateRow row with
    | .ok () => none
    | .error message => some s!"row={sourceLine}: {message}"

/-- What a call does before it opens the ledger: a result, or the rows to import.
The result `none` is an exception. -/
def accept (library : GateLibrary) (call : ProofImport) :
    Option (ImportProofResult ⊕ SchemaDetection × List RawPayload) := do
  let detection ← detectInBytes library call.payload
  if detection.status = .unknown then
    return .inl (call.quarantine detection none detection.diagnostics)
  else do
    let text ← decodeUtf8Sig call.payload
    let rows ← validatedRows text.toList
    let errors := validationErrors rows
    if errors ≠ [] then
      return .inl (call.quarantine detection (some (semanticFingerprint rows)) errors)
    else if call.isStored then return .inr (detection, rows)
    else none

/-- What the loop over the rows holds. -/
structure ImportState where
  events : List SerializedEvent
  sourceRecords : Dict String SourceRecord
  inserted : Nat := 0
  duplicates : Nat := 0

/-- One row: the state after it, or `none` for an exception. -/
def importRow
    (call : ProofImport)
    (detection : SchemaDetection)
    (semantic : JsonObject)
    (state : ImportState)
    (row : RawPayload) : Option ImportState :=
  match normalizeRow row (call.normalization detection row) with
  | .error _ => none
  | .ok normalized =>
      match addIfAbsent state.events normalized.event.toEventFields with
      | none => none
      | some (events, isNew) =>
          let record := call.sourceRecord detection semantic row normalized
          some {
            events
            sourceRecords :=
              if (state.sourceRecords.get? record.sourceRecordId).isSome then state.sourceRecords
              else state.sourceRecords.set record.sourceRecordId record
            inserted := if isNew then state.inserted + 1 else state.inserted
            duplicates := if isNew then state.duplicates else state.duplicates + 1 }

/-- The loop over the rows: the state where it stops, and whether it went through. -/
def importRows
    (call : ProofImport)
    (detection : SchemaDetection)
    (semantic : JsonObject)
    (state : ImportState) : List RawPayload → ImportState × Bool
  | [] => (state, true)
  | row :: rows =>
      match call.importRow detection semantic state row with
      | none => (state, false)
      | some next => call.importRows detection semantic next rows

/-- `import_csv_for_proof`, with the files after it. The result `none` is an exception. -/
def run (library : GateLibrary) (call : ProofImport) (files : ProofFiles) :
    Option ImportProofResult × ProofFiles :=
  match call.accept library with
  | none => (none, files)
  | some (.inl result) => (some result, files)
  | some (.inr (detection, rows)) =>
      -- The ledger file is created when it is opened.
      let opened := { files with ledger := some files.events }
      match readSourceRecords (files.sourceRecords.getD []) with
      | none => (none, opened)
      | some sourceRecords =>
          let semantic := semanticFingerprint rows
          let (state, isDone) :=
            call.importRows detection semantic { events := files.events, sourceRecords } rows
          if isDone then
            (some
              { status := "PUBLISHED"
                fileSha256 := call.fileHash
                structuralFingerprint := detection.structuralFingerprint
                semanticFingerprint := some semantic
                insertedEvents := state.inserted
                duplicateEvents := state.duplicates
                quarantined := false
                diagnostics := [] },
              ⟨some state.events, some (writeSourceRecords state.sourceRecords)⟩)
          else (none, { opened with ledger := some state.events })

end ProofImport

/-- The files after calls that start without any. -/
def filesAfter (library : GateLibrary) (calls : List ProofImport) : ProofFiles :=
  calls.foldl (fun files call => (call.run library files).2) ⟨none, none⟩

end ProofPipeline
end QuantumAnalytics
