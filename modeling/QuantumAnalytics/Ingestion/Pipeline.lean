import QuantumAnalytics.Foundations.Utf8
import QuantumAnalytics.Ingestion.CsvReader
import QuantumAnalytics.Ingestion.Resolution

/-!
# The ingestor

An ingest call opens an upload, reads its rows, resolves them on a copy of the
ledger, and appends the plan to the ledger itself.
-/

namespace QuantumAnalytics

/-- The arguments of `ingest`. -/
structure IngestArguments where
  /-- The tenant. -/
  tenant : TenantContext
  /-- The upload. -/
  rawFileId : String
  /-- The marketplace account. -/
  marketplaceAccountId : String
  /-- The adapter. -/
  adapterId : String := "wildberries-synthetic"
  /-- The version of the adapter. -/
  adapterVersion : String := "1.0"
  /-- The time of the import, if the caller gives one. -/
  ingestedAt : Option DateTime := none
  /-- `datetime.now(UTC)`. -/
  now : DateTime

/-- `CanonicalImportResult`. -/
structure CanonicalImportResult where
  rawFileId : String
  importBatchId : String
  totalRows : Nat
  insertedSourceRows : Nat
  insertedEvents : Nat
  duplicateSourceRows : Nat
  duplicateEvents : Nat
  quarantinedRows : Nat
  insertedQuarantinedRows : Nat
  duplicateQuarantinedRows : Nat
  sourceRecordIds : List String
  eventIds : List String

/-- `payload.decode("utf-8-sig")`; `none` is a `UnicodeDecodeError`. -/
def decodeUtf8Sig (payload : List UInt8) : Option String :=
  let signature : List UInt8 := [0xef, 0xbb, 0xbf]
  let body := if signature.isPrefixOf payload then payload.drop 3 else payload
  String.fromUTF8? ⟨body.toArray⟩

/-- The bytes of a text. -/
def bytesOf (text : List Char) : List UInt8 := text.flatMap String.utf8EncodeChar

theorem decodeUtf8Sig_bytesOf
    {text : List Char}
    (unsigned : List.isPrefixOf [0xef, 0xbb, 0xbf] (bytesOf text) = false) :
    decodeUtf8Sig (bytesOf text) = some (String.ofList text) := by
  rw [decodeUtf8Sig, unsigned, if_neg (by decide), bytesOf, PyStr.fromUTF8?_flatMap]

/-- How an error in the rows is raised. -/
def CsvRowsError.failure : CsvRowsError → IngestFailure
  | .parse => .canonical .csvParseFailed
  | .shape => .canonical .csvRowShapeInvalid

/-- `_strict_rows`. -/
def strictRows (payload : List UInt8) : Except IngestFailure (List RawPayload) := do
  let text ← requireSome (decodeUtf8Sig payload) (.canonical .csvDecodeFailed)
  let first ← (CsvParser.start.nextRecord (csvLines text.toList)).mapError fun _ => .csv
  let (header, rest) ← requireSome first (.canonical .csvHeaderMissing)
  (csvRows header rest.length rest).mapError CsvRowsError.failure

/-- The part of `ingest` before the rows are normalized: what the rows share,
and the rows. -/
def openImport (storage : LocalRawStorage) (arguments : IngestArguments) :
    Except IngestFailure (ImportContext × List RawPayload) := do
  let { tenant, rawFileId, marketplaceAccountId, adapterId, adapterVersion, .. } := arguments
  require (marketplaceAccountId ≠ "") (.canonical .marketplaceAccountIdRequired)
  require (adapterId ≠ "") (.canonical .adapterIdRequired)
  require (adapterVersion ≠ "") (.canonical .adapterVersionRequired)
  let observedAt := arguments.ingestedAt.getD arguments.now
  require (observedAt.isAware = true) (.canonical .ingestedAtTimezoneRequired)
  let ingestedAt ← requireSome observedAt.toUtc? .overflow
  let record ← (storage.getRecord tenant rawFileId).mapError .storage
  require (record.state = .valid) (.canonical .rawFileNotValid)
  let schemaVersion ← requireSome (record.schemaId.filter (· = "wb-synthetic-operations-v1"))
    (.canonical .sourceSchemaUnsupported)
  let structuralFingerprint ← requireSome record.structuralFingerprint
    (.canonical .structuralFingerprintRequired)
  let semanticFingerprint ← requireSome record.semanticFingerprint
    (.canonical .semanticFingerprintRequired)
  let payload ← (storage.read tenant rawFileId).mapError .storage
  let rows ← strictRows payload
  let context : ImportContext :=
    { tenantId := tenant.tenantId, sourceFileSha256 := record.sha256, rawFileId,
      marketplaceAccountId, schemaVersion, structuralFingerprint, semanticFingerprint, adapterId,
      adapterVersion, ingestedAt }
  return (context, rows)

/-- What an import needs to be opened, and what it is opened with. -/
theorem openImport_eq_ok
    {storage : LocalRawStorage}
    {arguments : IngestArguments}
    {context : ImportContext}
    {rows : List RawPayload} :
    openImport storage arguments = .ok (context, rows) ↔
      arguments.marketplaceAccountId ≠ "" ∧ arguments.adapterId ≠ "" ∧
      arguments.adapterVersion ≠ "" ∧
      (arguments.ingestedAt.getD arguments.now).isAware = true ∧
      ∃ ingestedAt record structuralFingerprint semanticFingerprint payload,
        (arguments.ingestedAt.getD arguments.now).toUtc? = some ingestedAt ∧
        storage.getRecord arguments.tenant arguments.rawFileId = .ok record ∧
        record.state = .valid ∧
        record.schemaId = some "wb-synthetic-operations-v1" ∧
        record.structuralFingerprint = some structuralFingerprint ∧
        record.semanticFingerprint = some semanticFingerprint ∧
        storage.read arguments.tenant arguments.rawFileId = .ok payload ∧
        strictRows payload = .ok rows ∧
        context = {
          tenantId := arguments.tenant.tenantId
          rawFileId := arguments.rawFileId
          marketplaceAccountId := arguments.marketplaceAccountId
          sourceFileSha256 := record.sha256
          schemaVersion := "wb-synthetic-operations-v1"
          structuralFingerprint, semanticFingerprint, ingestedAt
          adapterId := arguments.adapterId
          adapterVersion := arguments.adapterVersion } := by
  simp only [openImport, Checks.bind_eq_ok, Checks.require_eq_ok, Checks.requireSome_eq_ok,
    Checks.mapError_eq_ok, Checks.pure_eq_ok, exists_const, Prod.mk.injEq,
    Option.filter_eq_some_iff, decide_eq_true_eq]
  constructor
  · rintro ⟨account, adapter, version, aware, ingestedAt, converted, record, found, valid, schema,
      ⟨hasSchema, rfl⟩, structural, hasStructural, semantic, hasSemantic, payload, bytes, read,
      rowsRead, rfl, rfl⟩
    exact ⟨account, adapter, version, aware, ingestedAt, record, structural, semantic, payload,
      converted, found, valid, hasSchema, hasStructural, hasSemantic, bytes, rowsRead, rfl⟩
  · rintro ⟨account, adapter, version, aware, ingestedAt, record, structural, semantic, payload,
      converted, found, valid, hasSchema, hasStructural, hasSemantic, bytes, rowsRead, rfl⟩
    exact ⟨account, adapter, version, aware, ingestedAt, converted, record, found, valid, _,
      ⟨hasSchema, rfl⟩, structural, hasStructural, semantic, hasSemantic, payload, bytes, rows,
      rowsRead, rfl, rfl⟩

/-- The rows of a file with their numbers; the header is row 1. -/
def numbered (rows : List RawPayload) : List (RawPayload × Nat) := rows.zipIdx 2

/-- The loop of `ingest` over the rows. -/
def ImportContext.readEntries (context : ImportContext) :
    List (RawPayload × Nat) → Except String (List (ImmutableSourceRow ⊕ Candidate))
  | [] => .ok []
  | (row, rowNumber) :: rows => do
      let entry ← context.readRow rowNumber row
      let entries ← context.readEntries rows
      return entry :: entries

/-- The rows that are quarantined at once. -/
def immediateOf (entries : List (ImmutableSourceRow ⊕ Candidate)) : List ImmutableSourceRow :=
  entries.filterMap Sum.getLeft?

/-- The candidates. -/
def candidatesOf (entries : List (ImmutableSourceRow ⊕ Candidate)) : List Candidate :=
  entries.filterMap Sum.getRight?

/-- What an ingest call plans. -/
structure ImportPlan where
  /-- What the rows share. -/
  context : ImportContext
  /-- The rows. -/
  rows : List RawPayload
  /-- The items to append. -/
  planned : List LedgerItem

/-- The part of `ingest` before the plan is appended. -/
def planImport
    (storage : LocalRawStorage)
    (ledger : InMemoryCanonicalLedger)
    (arguments : IngestArguments) : Except IngestFailure ImportPlan := do
  let (context, rows) ← openImport storage arguments
  let entries ← (context.readEntries (numbered rows)).mapError .value
  let planned ← resolveBatch ledger arguments.tenant (immediateOf entries) (candidatesOf entries)
  return { context, rows, planned }

/-- The result of an import whose plan is appended. -/
def importResult
    (arguments : IngestArguments)
    (plan : ImportPlan)
    (results : List LedgerAppendResult) : CanonicalImportResult :=
  let insertedSourceRows := results.countP fun item => item.sourceInserted
  let eventPairs := (plan.planned.zip results).filter fun pair => pair.1.2.isSome
  let quarantinePairs := (plan.planned.zip results).filter fun pair => pair.1.2.isNone
  let insertedQuarantined := quarantinePairs.countP fun pair => pair.2.sourceInserted
  { rawFileId := arguments.rawFileId
    importBatchId := plan.context.batchId
    totalRows := plan.rows.length
    insertedSourceRows
    insertedEvents := results.countP fun item => item.eventInserted
    duplicateSourceRows := results.length - insertedSourceRows
    duplicateEvents := eventPairs.countP fun pair => !pair.2.eventInserted
    quarantinedRows := quarantinePairs.length
    insertedQuarantinedRows := insertedQuarantined
    duplicateQuarantinedRows := quarantinePairs.length - insertedQuarantined
    sourceRecordIds := (numbered plan.rows).map fun entry =>
      plan.context.sourceRecordId entry.2 entry.1
    eventIds := eventPairs.filterMap fun pair => pair.1.2.map fun event => event.eventId }

/-- `ingest`: the result, or the exception, and the ledger after it. -/
def ingest
    (storage : LocalRawStorage)
    (ledger : InMemoryCanonicalLedger)
    (arguments : IngestArguments) :
    Except IngestFailure CanonicalImportResult × InMemoryCanonicalLedger :=
  match planImport storage ledger arguments with
  | .error failure => (.error failure, ledger)
  | .ok plan =>
      match ledger.appendBatch arguments.tenant plan.planned with
      | (.error failure, after) => (.error (.ledger failure), after)
      | (.ok results, after) => (.ok (importResult arguments plan results), after)

end QuantumAnalytics
