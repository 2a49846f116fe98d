import QuantumAnalytics.Ledger.Validation

/-!
# Small ledgers

An operation is what distinguishes the events of one small import from each
other; everything else is filled in so that the event has the lineage of its
row. Operations with new rows are accepted exactly when their events are, so
that a small ledger can be computed without computing a digest.
-/

namespace QuantumAnalytics

/-- A sale, a return or another operation of a small import. -/
structure Operation where
  /-- The row number, which also makes the idempotency key. -/
  serial : Nat
  /-- The id of the event and of its row. -/
  name : String
  /-- The event type. -/
  eventType : String
  /-- The key that all revisions share. -/
  businessKey : String
  /-- The revision. -/
  revision : Int := 1
  /-- The event that is superseded. -/
  supersedes : Option String := none
  /-- The sale that is reversed. -/
  reverses : Option String := none
  /-- The quantity. -/
  quantity : Int := 1
  /-- The gross amount. -/
  amount : String := "0"
  /-- The minute of the recognition time. -/
  minute : Nat := 0
  /-- The operation makes an event and a row. -/
  wellFormed : 2 ≤ serial ∧ serial < 100 ∧ name ≠ "" ∧ eventType ≠ "" ∧ businessKey ≠ "" ∧
    1 ≤ revision ∧ supersedes ≠ some name ∧ reverses ≠ some name ∧ minute < 60 := by decide

namespace Operation

/-- The tenant of the import. -/
def tenant : TenantContext where
  tenantId := "tenant"
  tenantIdNonempty := by decide

/-- The digest of the file of the import. -/
def fileDigest : String := Sha256.hexdigest "file"

/-- The recognition time. -/
def time (operation : Operation) : DateTime where
  year := 2026
  month := 6
  day := 1
  hour := 10
  minute := operation.minute
  second := 0
  microsecond := 0
  utcoffset := some 0
  validDate := by decide
  validTime := ⟨by decide, operation.wellFormed.2.2.2.2.2.2.2.2, by decide, by decide⟩

/-- A key of 64 digits. -/
def key (serial : Nat) : String :=
  String.ofList (List.replicate 62 '0' ++
    [Nat.digitChar (serial / 10), Nat.digitChar (serial % 10)])

theorem isHexDigest_key {serial : Nat} (small : serial < 100) :
    PyText.isHexDigest (key serial) = true := by
  have digit : ∀ n < 10, PyText.isHexChar (Nat.digitChar n) = true := by decide
  have tens : serial / 10 < 10 := by omega
  have ones : serial % 10 < 10 := by omega
  have zero : PyText.isHexChar '0' = true := by decide
  simp [PyText.isHexDigest, key, digit _ tens, digit _ ones, zero]

/-- A typed value. -/
def value (content : Json) (valueType unit : String) : Json :=
  .obj [("state", .str "VALID"), ("unit", .str unit), ("value", content),
    ("value_type", .str valueType)]

/-- The payload. -/
def payload (operation : Operation) : JsonObject :=
  [("gross_amount", value (.str operation.amount) "decimal" "RUB"),
    ("product_external_id", value (.str "product") "string" "id"),
    ("quantity", value (.int operation.quantity) "integer" "item")]

/-- The provenance. -/
def provenance (operation : Operation) : JsonObject :=
  [("actor", .str "actor"), ("created_at", .str operation.time.isoformat),
    ("normalization_rule_version", .str "1"), ("source_adapter", .str "adapter"),
    ("source_adapter_version", .str "1"), ("source_file_sha256", .str fileDigest),
    ("source_schema_id", .str "schema"), ("trace_id", .str "trace")]

/-- The event. -/
def event (operation : Operation) : CanonicalEvent where
  eventId := operation.name
  organizationId := "tenant"
  marketplaceAccountId := "account"
  eventType := operation.eventType
  eventTime := operation.time
  recognitionTime := operation.time
  stableBusinessKey := operation.businessKey
  sourceRowKey := operation.name
  revision := operation.revision
  idempotencyKey := key operation.serial
  semanticPayloadHash := canonicalJsonHash (.obj operation.payload)
  importBatchId := "batch"
  sourceRecordId := operation.name
  schemaVersion := "schema"
  payload := operation.payload
  provenance := operation.provenance
  status := .valid
  createdAt := operation.time
  supersedesEventId := operation.supersedes
  reversalOfEventId := operation.reverses
  wellFormed := by
    obtain ⟨_, small, name, eventType, businessKey, revision, supersedes, reverses, _⟩ :=
      operation.wellFormed
    have digest := isHexDigest_canonicalJsonHash (.obj operation.payload)
    have keyNonempty : key operation.serial ≠ "" := by
      intro empty
      have hex := isHexDigest_key small
      rw [empty] at hex
      exact absurd hex (by decide)
    rw [EventFields.postInit_eq_ok]
    refine ⟨?_, revision, PyText.length_of_isHexDigest digest,
      PyText.int?_isSome_of_isHexDigest digest, supersedes, reverses, by simp [payload],
      by simp [provenance]⟩
    simp [EventFields.requiredStrings, name, eventType, businessKey, keyNonempty]

/-- The cells of the row. -/
def cells (operation : Operation) : RawPayload := Dict.empty.set "row_id" operation.name

/-- The upload of the import. -/
def rawFileId : String := "0f8fad5b-d9cb-469f-a165-70867728950e"

theorem isUuid_rawFileId : PyText.isUuid rawFileId = true := by decide

/-- The source row. -/
def row (operation : Operation) : ImmutableSourceRow where
  sourceRecordId := operation.name
  tenantId := "tenant"
  rawFileId := rawFileId
  sourceFileSha256 := fileDigest
  importBatchId := "batch"
  rowNumber := operation.serial
  sourceRowKey := operation.name
  rawRowHash := canonicalJsonHash operation.cells.toJson
  rawPayload := operation.cells
  structuralFingerprint := [("sha256", .str fileDigest)]
  semanticFingerprint := some [("sha256", .str fileDigest)]
  validationStatus := .valid
  diagnostics := []
  adapterId := "adapter"
  adapterVersion := "1"
  schemaVersion := "schema"
  ingestedAt := operation.time
  wellFormed := by
    obtain ⟨serial, _, name, _⟩ := operation.wellFormed
    have digest : PyText.isHexDigest fileDigest = true := Sha256.isHexDigest_hexdigest "file"
    have cellsNonempty : operation.cells.entries ≠ [] := by
      rw [cells, Dict.entries_set_of_get?_eq_none rfl]
      simp
    have hasDigest : SourceRowFields.hasDigest [("sha256", .str fileDigest)] = true := digest
    rw [SourceRowFields.postInit_eq_ok]
    simp [SourceRowFields.requiredStrings, name, isUuid_rawFileId, digest,
      isHexDigest_canonicalJsonHash, cellsNonempty, SourceRowFields.checkSemantic,
      SourceRowFields.checkFingerprint, hasDigest, time, DateTime.isAware, serial]

/-- The operation as a ledger item. -/
def item (operation : Operation) : LedgerItem := (operation.row, some operation.event)

/-- A sale. -/
def sale (quantity : Int) (amount : String) : Operation where
  serial := 2
  name := "sale"
  eventType := "SALE_RECOGNIZED"
  businessKey := "sale"
  quantity := quantity
  amount := amount

/-- A first return of the sale. -/
def firstReturn (quantity : Int) (amount : String) : Operation where
  serial := 3
  name := "return-1"
  eventType := "RETURN_ACCEPTED"
  businessKey := "return-1"
  reverses := some "sale"
  quantity := quantity
  amount := amount

/-- A second return of the sale. -/
def secondReturn (quantity : Int) (amount : String) : Operation where
  serial := 4
  name := "return-2"
  eventType := "RETURN_ACCEPTED"
  businessKey := "return-2"
  reverses := some "sale"
  quantity := quantity
  amount := amount

/-- A revision of the first return. -/
def revisedReturn (quantity : Int) (amount : String) : Operation where
  serial := 5
  name := "return-1-revised"
  eventType := "RETURN_ACCEPTED"
  businessKey := "return-1"
  revision := 2
  supersedes := some "return-1"
  reverses := some "sale"
  quantity := quantity
  amount := amount

/-- A revision of the second return. -/
def revisedSecondReturn (quantity : Int) (amount : String) : Operation where
  serial := 6
  name := "return-2-revised"
  eventType := "RETURN_ACCEPTED"
  businessKey := "return-2"
  revision := 2
  supersedes := some "return-2"
  reverses := some "sale"
  quantity := quantity
  amount := amount

/-- The event of an operation has the lineage of its row. -/
theorem linked_item (operation : Operation) :
    InMemoryCanonicalLedger.Linked operation.item := by
  have digest : PyText.isHexDigest fileDigest = true := Sha256.isHexDigest_hexdigest "file"
  have digestNonempty : fileDigest ≠ "" := by
    intro empty
    rw [empty] at digest
    exact absurd digest (by decide)
  have timeNonempty : operation.time.isoformat ≠ "" := by
    intro empty
    have text := congrArg String.toList empty
    simp [DateTime.isoformat] at text
  have aware : operation.time.isAware = true := rfl
  simp [InMemoryCanonicalLedger.Linked, item, InMemoryCanonicalLedger.validateLineage, row, event,
    isHexDigest_key operation.wellFormed.2.1, InMemoryCanonicalLedger.requiredProvenance,
    InMemoryCanonicalLedger.provenanceIs, provenance, Json.lookup, Json.truthy, Json.pyEq,
    digestNonempty, timeNonempty, aware]

end Operation

namespace InMemoryCanonicalLedger

variable {ledger : InMemoryCanonicalLedger} {tenantId : String} {item : LedgerItem}

/-- The item's row is new and its event passes the event checks. -/
def acceptsNew (ledger : InMemoryCanonicalLedger) (tenantId : String) (item : LedgerItem) : Bool :=
  (ledger.sourceById.get? (tenantId, item.1.sourceRecordId)).isNone &&
    (ledger.sourceByLocator.get? (locatorKey tenantId item.1)).isNone &&
    item.2.all fun event => (ledger.validateEvent tenantId event).isOk

/-- A new row that is linked to its event passes every check of the row. -/
theorem validateRow_of_new
    (tenant : item.1.tenantId = tenantId)
    (linked : Linked item)
    (unused : ledger.sourceById.get? (tenantId, item.1.sourceRecordId) = none)
    (free : ledger.sourceByLocator.get? (locatorKey tenantId item.1) = none) :
    ledger.validateRow tenantId item.1 item.2 = .ok () := by
  rw [validateRow_eq_ok]
  exact ⟨tenant, linked, by simp [unused], by simp [free]⟩

/-- An item with a new row is accepted when its event is. -/
theorem validateAppend_of_acceptsNew
    (tenant : item.1.tenantId = tenantId)
    (linked : Linked item)
    (accepts : ledger.acceptsNew tenantId item = true) :
    ledger.validateAppend tenantId item = .ok () := by
  simp only [acceptsNew, Bool.and_eq_true, Option.isNone_iff_eq_none, Option.all_eq_true] at accepts
  obtain ⟨⟨unused, free⟩, eventOk⟩ := accepts
  refine validateAppend_eq_ok.mpr ⟨validateRow_of_new tenant linked unused free, ?_⟩
  intro event carried
  have ok := eventOk event carried
  cases checked : ledger.validateEvent tenantId event with
  | ok done => rfl
  | error failure => simp [checked, Except.isOk, Except.toBool] at ok

/-- Operations appended one after another, each with a new row. -/
def acceptsAll (ledger : InMemoryCanonicalLedger) : List Operation → Bool
  | [] => true
  | operation :: operations =>
      ledger.acceptsNew "tenant" operation.item &&
        (ledger.writeItem "tenant" operation.item).acceptsAll operations

/-- The calls that append operations one after another. -/
def appendCalls (operations : List Operation) : List LedgerCall :=
  operations.map fun operation => .append Operation.tenant operation.item

/-- The ledger with the given operations. -/
def ofOperations (operations : List Operation) : InMemoryCanonicalLedger :=
  operations.foldl (fun ledger operation => ledger.writeItem "tenant" operation.item) empty

/-- The steps that append operations one after another. -/
def operationSteps (ledger : InMemoryCanonicalLedger) : List Operation → List LedgerStep
  | [] => []
  | operation :: operations =>
      ⟨ledger, "tenant", operation.item⟩ ::
        (ledger.writeItem "tenant" operation.item).operationSteps operations

/-- Operations that are accepted one after another can be appended as a batch. -/
theorem appendItems_of_acceptsAll
    (operations : List Operation)
    (accepts : ledger.acceptsAll operations = true) :
    ∃ results final,
      ledger.appendItems "tenant" (operations.map Operation.item) = (.ok results, final) := by
  induction operations generalizing ledger with
  | nil => exact ⟨[], ledger, rfl⟩
  | cons operation operations inductionHypothesis =>
      simp only [acceptsAll, Bool.and_eq_true] at accepts
      obtain ⟨results, final, appended⟩ := inductionHypothesis accepts.2
      exact ⟨_, final, appendItems_cons_eq_ok.mpr
        ⟨validateAppend_of_acceptsNew rfl operation.linked_item accepts.1, results, appended, rfl⟩⟩

/-- Operations that are accepted one after another make the ledger with these
operations, and each of them is a committed step. -/
theorem run_of_acceptsAll
    (operations : List Operation)
    (accepts : ledger.acceptsAll operations = true) :
    (appendCalls operations).foldl afterCall ledger =
        operations.foldl (fun ledger operation => ledger.writeItem "tenant" operation.item) ledger ∧
      ledger.stepsFrom (appendCalls operations) = ledger.operationSteps operations := by
  induction operations generalizing ledger with
  | nil => exact ⟨rfl, rfl⟩
  | cons operation operations inductionHypothesis =>
      simp only [acceptsAll, Bool.and_eq_true] at accepts
      have checked : ledger.validateAppend "tenant" operation.item = .ok () :=
        validateAppend_of_acceptsNew rfl operation.linked_item accepts.1
      have appended : ledger.afterCall (.append Operation.tenant operation.item) =
          ledger.writeItem "tenant" operation.item := by
        simp only [afterCall, InMemoryCanonicalLedger.append, Operation.tenant,
          appendLocked_of_ok checked]
      obtain ⟨final, steps⟩ := inductionHypothesis accepts.2
      refine ⟨?_, ?_⟩
      · simp only [appendCalls, List.map_cons, List.foldl_cons, appended]
        exact final
      · have own : ledger.callSteps (.append Operation.tenant operation.item) =
            [⟨ledger, "tenant", operation.item⟩] := by
          simp only [callSteps, itemSteps, Operation.tenant, checked]
        simp only [appendCalls, List.map_cons, stepsFrom, appended, own, operationSteps]
        exact congrArg _ steps

/-- The run of operations that are accepted one after another. -/
theorem afterCalls_of_acceptsAll
    (operations : List Operation)
    (accepts : empty.acceptsAll operations = true) :
    afterCalls (appendCalls operations) = ofOperations operations ∧
      committedSteps (appendCalls operations) = empty.operationSteps operations :=
  run_of_acceptsAll operations accepts

end InMemoryCanonicalLedger
end QuantumAnalytics
