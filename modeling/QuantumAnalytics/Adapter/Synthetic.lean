import QuantumAnalytics.Domain.Events
import QuantumAnalytics.Domain.SourceRows
import QuantumAnalytics.Foundations.Decimal

/-!
# The synthetic marketplace adapter

Validation of a raw row and its normalization to a canonical event. Every
problem of a row is a `ValueError` whose message names the column.
-/

namespace QuantumAnalytics
namespace Synthetic

/-- `row.get(field, "")`. -/
def cell (row : RawPayload) (field : String) : String := (row.get? field).getD ""

/-- `_OPERATION_TO_EVENT`. -/
def operationToEvent? : String → Option String
  | "SALE" => some "SALE_RECOGNIZED"
  | "RETURN" => some "RETURN_ACCEPTED"
  | _ => none

/-- The columns that every row must fill. -/
def requiredColumns : List String :=
  ["row_id", "operation_id", "operation_type", "event_time", "recognition_time",
    "product_external_id", "quantity", "gross_amount", "currency", "revision"]

/-- `int(row[field])`. -/
def integerCell (row : RawPayload) (field : String) : Except String Int :=
  match PyText.int? 10 (cell row field) with
  | some value => .ok value
  | none => .error s!"{field}: invalid integer"

/-- `Decimal(row["gross_amount"])`, which has to be finite. -/
def grossAmountCell (row : RawPayload) : Except String Decimal :=
  match Decimal.parse? (cell row "gross_amount") with
  | some (.finite value) => .ok value
  | some .special => .error "gross_amount: must be finite"
  | none => .error "gross_amount: invalid decimal"

/-- `_parse_datetime`. -/
def parseDatetime (row : RawPayload) (field : String) : Except String DateTime :=
  let text := PyText.replaceChar 'Z' "+00:00".toList (cell row field).toList
  match DateTime.fromIsoFormat? (String.ofList text) with
  | none => .error s!"{field}: invalid datetime"
  | some parsed => do
      require (parsed.isAware = true) s!"{field}: timezone is required"
      return parsed

/-- A reference to another event: the stripped cell, if it is not empty. -/
def reference (row : RawPayload) (field : String) : Option String :=
  let text := PyText.stripText (cell row field)
  if text = "" then none else some text

/-- `validate_row`: the message of the `ValueError`, if any. -/
def validateRow (row : RawPayload) : Except String Unit := do
  forM requiredColumns fun field =>
    require (PyText.stripText (cell row field) ≠ "") s!"{field}: required"
  require ((operationToEvent? (cell row "operation_type")).isSome = true)
    "operation_type: unsupported"
  require (PyText.isCurrencyCode (cell row "currency") = true)
    "currency: expected uppercase three-letter code"
  let quantity ← integerCell row "quantity"
  require (0 < quantity) "quantity: must be positive"
  let grossAmount ← grossAmountCell row
  require (¬grossAmount.lt (.ofInt 0) = true) "gross_amount: must be non-negative"
  let revision ← integerCell row "revision"
  require (1 ≤ revision) "revision: must be >= 1"
  let _ ← parseDatetime row "event_time"
  let _ ← parseDatetime row "recognition_time"
  require (1 < revision → reference row "supersedes_event_id" ≠ none)
    "supersedes_event_id: required for revision > 1"
  require (cell row "operation_type" = "RETURN" → reference row "reversal_of_event_id" ≠ none)
    "reversal_of_event_id: required for RETURN"

/-- The keyword arguments of `normalize_row`. -/
structure NormalizationContext where
  /-- The tenant. -/
  organizationId : String
  /-- The marketplace account. -/
  marketplaceAccountId : String
  /-- The import. -/
  importBatchId : String
  /-- The row's record id. -/
  sourceRecordId : String
  /-- The digest of the file. -/
  sourceFileSha256 : String
  /-- The schema of the file. -/
  schemaVersion : String
  /-- The adapter. -/
  adapterId : String
  /-- The version of the adapter. -/
  adapterVersion : String
  /-- The trace of the import. -/
  traceId : String
  /-- Who imports. -/
  actor : String

/-- The values that a row is normalized to. -/
structure RowValues where
  /-- The quantity. -/
  quantity : Int
  /-- The gross amount. -/
  grossAmount : Decimal
  /-- The revision. -/
  revision : Int
  /-- The event type of the operation. -/
  eventType : String
  /-- When it happened. -/
  eventTime : DateTime
  /-- When it counts. -/
  recognitionTime : DateTime

/-- The values of a row. -/
def rowValues (row : RawPayload) : Except String RowValues := do
  let quantity ← integerCell row "quantity"
  let grossAmount ← grossAmountCell row
  let revision ← integerCell row "revision"
  let eventTime ← parseDatetime row "event_time"
  let recognitionTime ← parseDatetime row "recognition_time"
  return {
    quantity, grossAmount, revision, eventTime, recognitionTime
    eventType := (operationToEvent? (cell row "operation_type")).getD "" }

/-- A typed value of an event payload. -/
def typedValue (value : Json) (valueType : String) (unit : Json) (sourceRecordId : String) :
    Json :=
  .ofFields [("state", .str "VALID"), ("value", value), ("value_type", .str valueType),
    ("unit", unit), ("reason_code", .null), ("source_record_id", .str sourceRecordId)]

/-- The payload of an event. -/
def payload (row : RawPayload) (sourceRecordId : String) (values : RowValues) : JsonObject :=
  Json.sortFields
    [("product_external_id",
        typedValue (.str (cell row "product_external_id")) "string" .null sourceRecordId),
      ("quantity", typedValue (.int values.quantity) "integer" (.str "item") sourceRecordId),
      ("gross_amount", typedValue (.str values.grossAmount.formatF) "decimal"
        (.str (cell row "currency")) sourceRecordId)]

/-- The provenance of an event. -/
def provenance (context : NormalizationContext) (recognitionTime : DateTime) : JsonObject :=
  Json.sortFields
    [("source_file_sha256", .str context.sourceFileSha256),
      ("source_adapter", .str context.adapterId),
      ("source_adapter_version", .str context.adapterVersion),
      ("source_schema_id", .str context.schemaVersion),
      ("normalization_rule_version", .str "wb-synthetic-normalization-v1"),
      ("product_master_version", .null),
      ("actor", .str (PyText.stripText context.actor)),
      ("created_at", .str recognitionTime.isoformat),
      ("trace_id", .str context.traceId)]

/-- The key of a row in its file. -/
def sourceRowKey (row : RawPayload) : String := "csv:row:" ++ cell row "row_id"

/-- The constructor arguments of the event of a row. -/
def eventFields
    (row : RawPayload)
    (context : NormalizationContext)
    (values : RowValues) : EventFields :=
  let payload := payload row context.sourceRecordId values
  let semanticPayloadHash := canonicalJsonHash (.obj payload)
  { eventId := "evt-" ++ cell row "operation_id" ++ "-r" ++ toString values.revision
    organizationId := context.organizationId
    marketplaceAccountId := context.marketplaceAccountId
    eventType := values.eventType
    eventTime := values.eventTime
    recognitionTime := values.recognitionTime
    stableBusinessKey := cell row "operation_id"
    sourceRowKey := sourceRowKey row
    revision := values.revision
    idempotencyKey := eventIdempotencyKey context.organizationId context.marketplaceAccountId
      values.eventType (cell row "operation_id") values.revision semanticPayloadHash
    semanticPayloadHash
    importBatchId := context.importBatchId
    sourceRecordId := context.sourceRecordId
    schemaVersion := context.schemaVersion
    payload
    provenance := provenance context values.recognitionTime
    status := .valid
    createdAt := values.recognitionTime
    supersedesEventId := reference row "supersedes_event_id"
    reversalOfEventId := reference row "reversal_of_event_id" }

/-- A normalized row. -/
structure NormalizedRow where
  /-- The key of the row in its file. -/
  sourceRowKey : String
  /-- The event of the row. -/
  event : CanonicalEvent
  /-- The digest of the cells. -/
  rawRowHash : String

/-- `normalize_row`: the normalized row, or the message of the `ValueError`. -/
def normalizeRow (row : RawPayload) (context : NormalizationContext) :
    Except String NormalizedRow := do
  validateRow row
  require (PyText.stripText context.actor ≠ "") "actor: required"
  let values ← rowValues row
  let event ← CanonicalEvent.make (eventFields row context values)
  return ⟨sourceRowKey row, event, canonicalJsonHash row.toJson⟩

/-- A normalized row carries the event with the fields of the row. -/
theorem normalizeRow_eq_ok
    {row : RawPayload}
    {context : NormalizationContext}
    {normalized : NormalizedRow}
    (accepted : normalizeRow row context = .ok normalized) :
    ∃ values, rowValues row = .ok values ∧
      normalized.event.toEventFields = eventFields row context values ∧
      normalized.sourceRowKey = sourceRowKey row := by
  simp only [normalizeRow, Checks.bind_eq_ok, Checks.require_eq_ok, Checks.pure_eq_ok,
    exists_const, CanonicalEvent.make_eq_ok] at accepted
  obtain ⟨_, _, _, values, read, event, fields, rfl⟩ := accepted
  exact ⟨values, read, fields, rfl⟩

/-- The times of a normalized row have a UTC offset. -/
theorem isAware_of_rowValues
    {row : RawPayload}
    {values : RowValues}
    (read : rowValues row = .ok values) :
    values.eventTime.isAware = true ∧ values.recognitionTime.isAware = true := by
  have aware : ∀ {field : String} {time : DateTime},
      parseDatetime row field = .ok time → time.isAware = true := by
    intro field time parsed
    simp only [parseDatetime] at parsed
    split at parsed
    · exact absurd parsed (by simp)
    · simp only [Checks.bind_eq_ok, Checks.require_eq_ok, Checks.pure_eq_ok,
        exists_const] at parsed
      obtain ⟨isAware, rfl⟩ := parsed
      exact isAware
  simp only [rowValues, Checks.bind_eq_ok, Checks.pure_eq_ok] at read
  obtain ⟨_, _, _, _, _, _, _, eventTime, _, recognitionTime, rfl⟩ := read
  exact ⟨aware eventTime, aware recognitionTime⟩

end Synthetic
end QuantumAnalytics
