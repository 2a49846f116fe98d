import QuantumAnalytics.Adapter.Synthetic
import QuantumAnalytics.Ledger.Append

/-!
# From data rows to ledger items

What an ingest call does with one data row: it becomes a candidate, a valid
source row with its event, or it is quarantined at once because it cannot be
normalized. The ids of the import and of its rows are digests of what they
stand for.
-/

namespace QuantumAnalytics

/-- What the rows of one ingest call share. -/
structure ImportContext where
  /-- The tenant. -/
  tenantId : String
  /-- The upload. -/
  rawFileId : String
  /-- The marketplace account. -/
  marketplaceAccountId : String
  /-- The digest of the file's bytes. -/
  sourceFileSha256 : String
  /-- The schema of the file. -/
  schemaVersion : String
  /-- The layout of the file. -/
  structuralFingerprint : JsonObject
  /-- The kinds of values in the file. -/
  semanticFingerprint : JsonObject
  /-- The adapter. -/
  adapterId : String
  /-- The version of the adapter. -/
  adapterVersion : String
  /-- The time of the call, in UTC. -/
  ingestedAt : DateTime

/-- `_Candidate`: a valid row with its event. -/
structure Candidate where
  /-- The source row. -/
  sourceRow : ImmutableSourceRow
  /-- The event. -/
  event : CanonicalEvent

/-- A candidate as a ledger item. -/
def Candidate.item (candidate : Candidate) : LedgerItem :=
  (candidate.sourceRow, some candidate.event)

namespace ImportContext

/-- `_batch_id`. -/
def batchId (context : ImportContext) : String :=
  let digest := digest [context.tenantId, context.sourceFileSha256, context.schemaVersion,
    context.adapterId, context.adapterVersion]
  "batch-" ++ PyText.takeText 24 digest

/-- The trace id of the import. -/
def traceId (context : ImportContext) : String :=
  "trace-" ++ PyText.removePrefix "batch-" context.batchId

/-- `_source_record_id`. -/
def sourceRecordId (context : ImportContext) (rowNumber : Nat) (row : RawPayload) : String :=
  let digest := digest [context.tenantId, context.sourceFileSha256, toString rowNumber,
    canonicalJsonHash row.toJson]
  "src-" ++ PyText.takeText 32 digest

/-- The key of a row that cannot be normalized. -/
def fallbackKey (rowNumber : Nat) (row : RawPayload) : String :=
  let rowId := Synthetic.cell row "row_id"
  "csv:row:" ++ if rowId = "" then toString rowNumber else rowId

/-- The arguments of `normalize_row` for a row of the import. -/
def normalization (context : ImportContext) (rowNumber : Nat) (row : RawPayload) :
    Synthetic.NormalizationContext where
  organizationId := context.tenantId
  marketplaceAccountId := context.marketplaceAccountId
  importBatchId := context.batchId
  sourceRecordId := context.sourceRecordId rowNumber row
  sourceFileSha256 := context.sourceFileSha256
  schemaVersion := context.schemaVersion
  adapterId := context.adapterId
  adapterVersion := context.adapterVersion
  traceId := context.traceId
  actor := "p13-canonical-ingestor"

/-- The arguments of `_source_row` for a row of the import. -/
def sourceRowFields
    (context : ImportContext)
    (rowNumber : Nat)
    (row : RawPayload)
    (sourceRowKey : String)
    (status : SourceRowStatus)
    (diagnostics : List String) : SourceRowFields where
  sourceRecordId := context.sourceRecordId rowNumber row
  tenantId := context.tenantId
  rawFileId := context.rawFileId
  sourceFileSha256 := context.sourceFileSha256
  importBatchId := context.batchId
  rowNumber := rowNumber
  sourceRowKey := sourceRowKey
  rawRowHash := canonicalJsonHash row.toJson
  rawPayload := row
  structuralFingerprint := context.structuralFingerprint
  semanticFingerprint := some context.semanticFingerprint
  validationStatus := status
  diagnostics := diagnostics
  adapterId := context.adapterId
  adapterVersion := context.adapterVersion
  schemaVersion := context.schemaVersion
  ingestedAt := context.ingestedAt

/-- The loop body of `ingest`: a row that is quarantined at once, or a
candidate. An error is the message of a `ValueError` of the row's constructor. -/
def readRow (context : ImportContext) (rowNumber : Nat) (row : RawPayload) :
    Except String (ImmutableSourceRow ⊕ Candidate) :=
  match Synthetic.normalizeRow row (context.normalization rowNumber row) with
  | .error message => do
      let sourceRow ← ImmutableSourceRow.make
        (context.sourceRowFields rowNumber row (fallbackKey rowNumber row) .quarantined
          [s!"NORMALIZATION_FAILED:{message}"])
      return .inl sourceRow
  | .ok normalized => do
      let sourceRow ← ImmutableSourceRow.make
        (context.sourceRowFields rowNumber row normalized.sourceRowKey .valid [])
      return .inr ⟨sourceRow, normalized.event⟩

end ImportContext
end QuantumAnalytics
