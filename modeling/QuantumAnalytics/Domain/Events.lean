import QuantumAnalytics.Domain.Idempotency
import QuantumAnalytics.Foundations.Checks
import QuantumAnalytics.Foundations.DateTime

/-!
# Canonical events

A canonical event is its fields together with the fact that `__post_init__`
accepted them. Two events are compared as the dataclass compares them: field by
field, with instants compared across UTC offsets and payloads as mappings.
-/

namespace QuantumAnalytics

/-- `EventStatus`. -/
inductive EventStatus
  | valid
  | superseded
  | reversed
  | conflict
  | blocked
  deriving DecidableEq

/-- The constructor arguments of a canonical event. -/
structure EventFields where
  /-- The event's own id. -/
  eventId : String
  /-- The tenant. -/
  organizationId : String
  /-- The marketplace account of the tenant. -/
  marketplaceAccountId : String
  /-- What happened, such as `SALE_RECOGNIZED`. -/
  eventType : String
  /-- When it happened. -/
  eventTime : DateTime
  /-- When it counts. -/
  recognitionTime : DateTime
  /-- The key that all revisions of the event share. -/
  stableBusinessKey : String
  /-- The key of the source row in its file. -/
  sourceRowKey : String
  /-- The revision, counted from 1. -/
  revision : Int
  /-- The key under which a repeated event is recognised. -/
  idempotencyKey : String
  /-- The digest of the payload. -/
  semanticPayloadHash : String
  /-- The import that produced the event. -/
  importBatchId : String
  /-- The source row that produced the event. -/
  sourceRecordId : String
  /-- The schema of the source file. -/
  schemaVersion : String
  /-- The typed values. -/
  payload : JsonObject
  /-- Where the values come from. -/
  provenance : JsonObject
  /-- The status. -/
  status : EventStatus
  /-- When the event was created. -/
  createdAt : DateTime
  /-- The previous revision. -/
  supersedesEventId : Option String
  /-- The sale that a return reverses. -/
  reversalOfEventId : Option String

namespace EventFields

/-- The required strings in the order of their checks. -/
def requiredStrings (event : EventFields) : List (String × String) :=
  [("event_id", event.eventId),
    ("organization_id", event.organizationId),
    ("marketplace_account_id", event.marketplaceAccountId),
    ("event_type", event.eventType),
    ("stable_business_key", event.stableBusinessKey),
    ("source_row_key", event.sourceRowKey),
    ("idempotency_key", event.idempotencyKey),
    ("import_batch_id", event.importBatchId),
    ("source_record_id", event.sourceRecordId),
    ("schema_version", event.schemaVersion)]

/-- `CanonicalEvent.__post_init__`: the message of the `ValueError`, if any. -/
def postInit (event : EventFields) : Except String Unit := do
  forM event.requiredStrings fun field => require (field.2 ≠ "") s!"{field.1} is required."
  require (1 ≤ event.revision) "revision must be >= 1."
  require (event.semanticPayloadHash.length = 64)
    "semantic_payload_hash must be a SHA-256 hex digest."
  require ((PyText.int? 16 event.semanticPayloadHash).isSome = true)
    s!"invalid literal for int() with base 16: '{event.semanticPayloadHash}'"
  require (event.supersedesEventId ≠ some event.eventId) "An event cannot supersede itself."
  require (event.reversalOfEventId ≠ some event.eventId) "An event cannot reverse itself."
  require (event.payload ≠ []) "payload must not be empty."
  require (event.provenance ≠ []) "provenance must not be empty."

/-- What the constructor checks. -/
theorem postInit_eq_ok {event : EventFields} :
    event.postInit = .ok () ↔
      (∀ field ∈ event.requiredStrings, field.2 ≠ "") ∧ 1 ≤ event.revision ∧
      event.semanticPayloadHash.length = 64 ∧
      (PyText.int? 16 event.semanticPayloadHash).isSome = true ∧
      event.supersedesEventId ≠ some event.eventId ∧
      event.reversalOfEventId ≠ some event.eventId ∧
      event.payload ≠ [] ∧ event.provenance ≠ [] := by
  simp only [postInit, Checks.bind_done_eq_ok, Checks.forM_require_eq_ok, Checks.require_eq_ok]

end EventFields

/-- A canonical event. -/
structure CanonicalEvent extends EventFields where
  /-- The constructor accepted the fields. -/
  wellFormed : toEventFields.postInit = .ok ()

namespace CanonicalEvent

/-- The constructor. -/
def make (fields : EventFields) : Except String CanonicalEvent :=
  match accepted : fields.postInit with
  | .ok () => .ok ⟨fields, accepted⟩
  | .error message => .error message

/-- The constructor returns the event with the given fields, or none exists. -/
theorem make_eq_ok
    {fields : EventFields}
    {event : CanonicalEvent} :
    make fields = .ok event ↔ event.toEventFields = fields := by
  obtain ⟨own, wellFormed⟩ := event
  unfold make
  split
  case h_1 accepted => simp [eq_comm]
  case h_2 message rejected =>
    simp only [reduceCtorEq, false_iff]
    rintro rfl
    simp [wellFormed] at rejected

section WellFormed

variable (event : CanonicalEvent)

/-- Every required string is present. -/
theorem requiredStrings_ne_empty : ∀ field ∈ event.requiredStrings, field.2 ≠ "" :=
  (EventFields.postInit_eq_ok.mp event.wellFormed).1

theorem eventId_ne_empty : event.eventId ≠ "" :=
  event.requiredStrings_ne_empty ("event_id", _) (by simp [EventFields.requiredStrings])

theorem sourceRecordId_ne_empty : event.sourceRecordId ≠ "" :=
  event.requiredStrings_ne_empty ("source_record_id", _) (by simp [EventFields.requiredStrings])

/-- Revisions are counted from 1. -/
theorem one_le_revision : 1 ≤ event.revision :=
  (EventFields.postInit_eq_ok.mp event.wellFormed).2.1

/-- No event supersedes itself. -/
theorem supersedesEventId_ne_self : event.supersedesEventId ≠ some event.eventId :=
  (EventFields.postInit_eq_ok.mp event.wellFormed).2.2.2.2.1

/-- No event reverses itself. -/
theorem reversalOfEventId_ne_self : event.reversalOfEventId ≠ some event.eventId :=
  (EventFields.postInit_eq_ok.mp event.wellFormed).2.2.2.2.2.1

end WellFormed

/-- `left == right` of the dataclass. -/
def pyEq (left right : CanonicalEvent) : Bool :=
  left.eventId == right.eventId &&
    left.organizationId == right.organizationId &&
    left.marketplaceAccountId == right.marketplaceAccountId &&
    left.eventType == right.eventType &&
    left.eventTime.pyEq right.eventTime &&
    left.recognitionTime.pyEq right.recognitionTime &&
    left.stableBusinessKey == right.stableBusinessKey &&
    left.sourceRowKey == right.sourceRowKey &&
    left.revision == right.revision &&
    left.idempotencyKey == right.idempotencyKey &&
    left.semanticPayloadHash == right.semanticPayloadHash &&
    left.importBatchId == right.importBatchId &&
    left.sourceRecordId == right.sourceRecordId &&
    left.schemaVersion == right.schemaVersion &&
    Json.pyEqFields left.payload right.payload &&
    Json.pyEqFields left.provenance right.provenance &&
    left.status == right.status &&
    left.createdAt.pyEq right.createdAt &&
    left.supersedesEventId == right.supersedesEventId &&
    left.reversalOfEventId == right.reversalOfEventId

/-- An event equals itself. -/
@[simp] theorem pyEq_refl (event : CanonicalEvent) : pyEq event event = true := by
  simp [pyEq]

end CanonicalEvent
end QuantumAnalytics
