import QuantumAnalytics.Foundations.Base64
import QuantumAnalytics.Foundations.JsonNesting
import QuantumAnalytics.Reporting.Lines

/-!
# Pages of records

A page holds at most as many records as its limit allows, and a cursor to the
next one: the offset there and the digest of the whole list, as JSON in Base64
without padding. Following the cursors yields every record once, in order, and a
cursor does not work on another list.
-/

namespace QuantumAnalytics
namespace Reporting

/-- `MAX_PAGE_SIZE`. -/
def maxPageSize : Int := 100

/-- `ReportPage`. -/
structure ReportPage where
  records : List PyJson
  nextCursor : Option PyStr
  totalRecords : Nat

variable (interpreter : Interpreter)

/-- The bytes of the canonical text of a list of records. -/
def recordsPayload (records : List PyJson) : Result (List UInt8) := do
  let text ← canonicalJson interpreter (.arr records)
  encode text

/-- `_records_digest`. -/
def recordsDigest (records : List PyJson) : Result String := do
  let payload ← recordsPayload interpreter records
  return Sha256.hexdigestOfBytes payload

/-- `_encode_cursor`. -/
def encodeCursor (offset : Int) (digest : String) : Result PyStr := do
  let text ← canonicalJson interpreter
    (.obj (membersOf [("offset", .int offset), ("digest", .ofText digest)]))
  return PyStr.ofChars (Base64.stripPadding (Base64.encode (← encode text)))

/-- `REPORT_CURSOR_INVALID`, raised for every `ValueError` of the decoder. -/
def cursorFailure : LoadsError → ReportingFailure
  | .recursion => .recursion
  | _ => .reporting .reportCursorInvalid

/-- The bytes of a cursor: `base64.urlsafe_b64decode((cursor + padding).encode("ascii"))`. -/
def cursorBytes? (cursor : PyStr) : Option (List UInt8) := do
  let chars ← PyStr.chars? cursor
  if chars.all (fun c => c.toNat < 128) then Base64.decode (chars ++ Base64.padding chars)
  else none

/-- `_decode_cursor`. -/
def decodeCursor (cursor : PyStr) (digest : String) : Result Int := do
  check (cursor ≠ []) .reportCursorInvalid
  let raw ← requireSome (cursorBytes? cursor) (.reporting .reportCursorInvalid)
  let text ← requireSome (PyStr.decode? raw) (.reporting .reportCursorInvalid)
  let data ← (PyJson.loads interpreter text).mapError cursorFailure
  let fields ← checkMapping data ["offset", "digest"] .reportCursorInvalid
  match PyJson.get fields "offset" with
  | .int offset => do
      check (0 ≤ offset) .reportCursorInvalid
      check ((PyJson.get fields "digest").isText digest = true) .reportCursorInvalid
      return offset
  | _ => .error (.reporting .reportCursorInvalid)

/-- Where a page starts. -/
def startOffset (digest : String) : Option PyStr → Result Int
  | none => .ok 0
  | some cursor => decodeCursor interpreter cursor digest

/-- The cursor to an offset before the end of the list. -/
def cursorTo (nextOffset : Int) (length : Nat) (digest : String) : Result (Option PyStr) :=
  if nextOffset < length then (encodeCursor interpreter nextOffset digest).map some else .ok none

/-- `page_records`. -/
def pageRecords (records : List PyJson) (limit : Int) (cursor : Option PyStr) :
    Result ReportPage := do
  check (1 ≤ limit ∧ limit ≤ maxPageSize) .reportPageLimitInvalid
  let materialized ← records.mapM (cloneJson interpreter)
  validateRecordCollection interpreter materialized
  let digest ← recordsDigest interpreter materialized
  let offset ← startOffset interpreter digest cursor
  check (offset ≤ materialized.length) .reportCursorInvalid
  let page := (materialized.drop offset.toNat).take limit.toNat
  let nextCursor ← cursorTo interpreter (offset + page.length) materialized.length digest
  return ⟨page, nextCursor, materialized.length⟩

/-- The pages that a reader sees who starts at a cursor and follows the cursors
to the next pages, with a limit for each page. The last page has no cursor. -/
inductive Follows (records : List PyJson) :
    (Nat → Int) → Option PyStr → List ReportPage → Prop
  | last
      {limits : Nat → Int}
      {cursor : Option PyStr}
      {page : ReportPage}
      (paged : pageRecords interpreter records (limits 0) cursor = .ok page)
      (noMore : page.nextCursor = none) : Follows records limits cursor [page]
  | next
      {limits : Nat → Int}
      {cursor : Option PyStr}
      {later : PyStr}
      {page : ReportPage}
      {pages : List ReportPage}
      (paged : pageRecords interpreter records (limits 0) cursor = .ok page)
      (more : page.nextCursor = some later)
      (rest : Follows records (fun index => limits (index + 1)) (some later) pages) :
      Follows records limits cursor (page :: pages)

variable {interpreter}

/-! ### Records are shallow -/

section Shallow

variable {value : PyJson} {depth : Nat}

/-- Only containers have no hash. -/
theorem shallow_of_isHashable (hashable : isHashable value = true) : value.Shallow depth := by
  cases value with
  | arr items => cases hashable
  | obj fields => cases hashable
  | _ => cases depth <;> trivial

theorem shallow_of_isNonemptyString (nonempty : value.isNonemptyString = true) :
    value.Shallow depth := by
  obtain ⟨text, rfl, -⟩ := PyJson.exists_str_of_isNonemptyString nonempty
  exact shallow_of_isHashable rfl

theorem shallow_of_isText
    {text : String}
    (isText : value.isText text = true) : value.Shallow depth := by
  rw [PyJson.isText_iff] at isText
  exact isText ▸ shallow_of_isHashable rfl

theorem shallow_of_isTextWith
    {holds : String → Bool}
    (isText : value.isTextWith holds = true) : value.Shallow depth := by
  obtain ⟨text, rfl, -⟩ := PyJson.exists_text_of_isTextWith isText
  exact shallow_of_isHashable rfl

theorem shallow_of_isIntWith
    {holds : Int → Bool}
    (isInt : value.isIntWith holds = true) : value.Shallow depth := by
  obtain ⟨n, rfl, -⟩ := PyJson.exists_int_of_isIntWith isInt
  exact shallow_of_isHashable rfl

theorem shallow_of_isDatetime (isTime : value.isDatetime = true) : value.Shallow depth := by
  apply shallow_of_isHashable
  cases value with
  | arr items => cases isTime
  | obj fields => cases isTime
  | _ => rfl

theorem shallow_of_isNone (isNone : value.isNone = true) : value.Shallow depth := by
  apply shallow_of_isHashable
  cases value with
  | null => rfl
  | _ => cases isNone

theorem shallow_of_isNoneOr
    {holds : PyJson → Bool}
    (noneOr : isNoneOr holds value = true)
    (shallow : holds value = true → value.Shallow depth) : value.Shallow depth := by
  rcases Bool.or_eq_true_iff.mp noneOr with isNone | held
  · exact shallow_of_isNone isNone
  · exact shallow held

theorem shallow_of_checkMember
    {allowed : List String}
    {code : ReportingErrorCode}
    (checked : checkMember value allowed code = .ok ()) : value.Shallow depth := by
  rw [checkMember, Checks.bind_done_eq_ok, Checks.require_eq_ok] at checked
  exact shallow_of_isHashable checked.1

theorem shallow_of_checkDistinct
    {isAllowed : PyJson → Bool}
    {code : ReportingErrorCode}
    {items : List PyJson}
    (checked : checkDistinct value isAllowed code = .ok items) : value.Shallow (depth + 1) := by
  cases value with
  | arr listed =>
      simp only [checkDistinct, ↓Checks.bind_done_eq_ok, Checks.require_eq_ok,
        List.all_eq_true] at checked
      exact fun item isListed => shallow_of_isHashable (checked.1 item isListed)
  | _ => cases checked

end Shallow

section Parts

variable {fields : PyObject}

theorem shallow_evidenceRef
    (canonical : (PyJson.get fields "evidence_chain_ref").Canonical)
    (checked : checkEvidenceRef fields = .ok ()) :
    (PyJson.get fields "evidence_chain_ref").Shallow 1 := by
  simp only [checkEvidenceRef, Checks.bind_eq_ok, checkMapping_eq_ok,
    Checks.require_eq_ok] at checked
  obtain ⟨ref, ⟨isMapping, hasKeys⟩, idValid, versionValid⟩ := checked
  rw [isMapping] at canonical ⊢
  refine PyJson.shallow_obj canonical hasKeys ?_
  simp only [List.forall_mem_cons, List.not_mem_nil, false_implies, implies_true, and_true]
  exact ⟨shallow_of_isNonemptyString idValid, shallow_of_isIntWith versionValid⟩

theorem shallow_versionedRef
    {value : PyJson}
    {code : ReportingErrorCode}
    (canonical : value.Canonical)
    (checked : validateVersionedRef value code = .ok ()) : value.Shallow 1 := by
  simp only [validateVersionedRef, Checks.bind_eq_ok, checkMapping_eq_ok,
    Checks.require_eq_ok] at checked
  obtain ⟨ref, ⟨rfl, hasKeys⟩, idValid, versionValid, hashValid⟩ := checked
  refine PyJson.shallow_obj canonical hasKeys ?_
  simp only [List.forall_mem_cons, List.not_mem_nil, false_implies, implies_true, and_true]
  exact ⟨shallow_of_isNonemptyString idValid, shallow_of_isIntWith versionValid,
    shallow_of_isTextWith hashValid⟩

theorem shallow_rounding
    {value : PyJson}
    (canonical : value.Canonical)
    (checked : validateRounding value = .ok ()) : value.Shallow 2 := by
  simp only [validateRounding, ↓Checks.bind_done_eq_ok, Checks.bind_eq_ok, checkMapping_eq_ok,
    Checks.require_eq_ok] at checked
  obtain ⟨rounding, ⟨rfl, hasKeys⟩, policyRef, point, mode, scale⟩ := checked
  refine PyJson.shallow_obj canonical hasKeys ?_
  simp only [List.forall_mem_cons, List.not_mem_nil, false_implies, implies_true, and_true]
  exact ⟨shallow_versionedRef (canonical.get _) policyRef, shallow_of_checkMember point,
    shallow_of_checkMember mode, shallow_of_isIntWith scale⟩

theorem shallow_freshness
    {value : PyJson}
    (canonical : value.Canonical)
    (checked : validateFreshness value = .ok ()) : value.Shallow 1 := by
  simp only [validateFreshness, ↓Checks.bind_done_eq_ok, Checks.bind_eq_ok, checkMapping_eq_ok,
    Checks.require_eq_ok] at checked
  obtain ⟨freshness, ⟨rfl, hasKeys⟩, state, observed, deadline⟩ := checked
  refine PyJson.shallow_obj canonical hasKeys ?_
  simp only [List.forall_mem_cons, List.not_mem_nil, false_implies, implies_true, and_true]
  exact ⟨shallow_of_checkMember state, shallow_of_isDatetime observed,
    shallow_of_isNoneOr deadline shallow_of_isDatetime⟩

theorem shallow_confidence
    {value : PyJson}
    (canonical : value.Canonical)
    (checked : validateConfidence value = .ok ()) : value.Shallow 2 := by
  simp only [validateConfidence, ↓Checks.bind_done_eq_ok, Checks.bind_eq_ok,
    checkMapping_eq_ok] at checked
  obtain ⟨confidence, ⟨rfl, hasKeys⟩, state, items, reasons, -⟩ := checked
  refine PyJson.shallow_obj canonical hasKeys ?_
  simp only [List.forall_mem_cons, List.not_mem_nil, false_implies, implies_true, and_true]
  exact ⟨shallow_of_checkMember state, shallow_of_checkDistinct reasons⟩

/-- The value, its type, its unit, its currency and the reason. -/
theorem shallow_value
    (checked : checkValue fields = .ok ()) :
    ∀ key ∈ ["value", "value_type", "unit", "currency", "reason_code"],
      (PyJson.get fields key).Shallow 0 := by
  unfold checkValue at checked
  simp only [List.forall_mem_cons, List.not_mem_nil, false_implies, implies_true, and_true]
  split at checked
  next =>
    simp only [↓Checks.bind_done_eq_ok, Checks.require_eq_ok] at checked
    obtain ⟨valueType, unit, reason, typed⟩ := checked
    refine ⟨?_, shallow_of_checkMember valueType, shallow_of_checkMember unit, ?_,
      shallow_of_isNone reason⟩
    all_goals
      unfold isTyped isDecimalString at typed
      split at typed
      next =>
        simp only [Bool.and_eq_true] at typed
        first
          | exact shallow_of_isTextWith typed.1.1
          | exact shallow_of_isTextWith typed.2
      next =>
        split at typed
        all_goals
          simp only [Bool.and_eq_true] at typed
          first
            | exact shallow_of_isIntWith typed.1.1
            | exact shallow_of_isTextWith typed.1.1
            | exact shallow_of_isNone typed.2
  next =>
    simp only [↓Checks.bind_done_eq_ok, Checks.require_eq_ok, List.all_cons, List.all_nil,
      Bool.and_eq_true] at checked
    obtain ⟨⟨value, valueType, unit, currency, -⟩, reason⟩ := checked
    exact ⟨shallow_of_isNone value, shallow_of_isNone valueType, shallow_of_isNone unit,
      shallow_of_isNone currency, shallow_of_isNonemptyString reason⟩

theorem shallow_scenario
    {modeCode scenarioCode : ReportingErrorCode}
    (checked : checkMode fields modeCode scenarioCode = .ok ()) :
    (PyJson.get fields "mode").Shallow 0 ∧ (PyJson.get fields "scenario_id").Shallow 0 := by
  obtain ⟨⟨mode, isMode⟩, scenario⟩ := checkMode_spec checked
  refine ⟨isMode ▸ shallow_of_isHashable rfl, ?_⟩
  rcases scenario with ⟨text, isText⟩ | isNone
  · exact isText ▸ shallow_of_isHashable rfl
  · exact isNone ▸ shallow_of_isHashable rfl

theorem shallow_publication
    (checked : checkPublication fields = .ok ()) :
    (PyJson.get fields "limitations").Shallow 1 ∧
      (PyJson.get fields "evidence_chain_content_hash").Shallow 0 := by
  simp only [checkPublication, Checks.bind_eq_ok] at checked
  obtain ⟨items, distinct, checked⟩ := checked
  refine ⟨shallow_of_checkDistinct distinct, ?_⟩
  split at checked
  next => exact shallow_of_isNone (Checks.require_eq_ok.mp checked).1
  next => exact shallow_of_isTextWith (Checks.require_eq_ok.mp checked).1

end Parts

/-- Containers are nested in a valid record at most three times. -/
theorem shallow_of_validateReportRecord
    {record : PyJson}
    (canonical : record.Canonical)
    (valid : validateReportRecord interpreter record = .ok ()) : record.Shallow 3 := by
  simp only [validateReportRecord, ↓Checks.bind_done_eq_ok, Checks.bind_eq_ok, checkMapping_eq_ok,
    checkIdentity, checkHash, Checks.require_eq_ok, List.all_cons, List.all_nil,
    Bool.and_eq_true] at valid
  obtain ⟨fields, ⟨rfl, hasKeys⟩, ⟨version, ⟨recordId, organization, snapshot, content, -⟩, -,
    revision⟩, mode, account, view, state, publicationState, generated, ref, publication, value,
    boundaryItems, boundary, rounding, freshness, confidence, isHash, -⟩ := valid
  obtain ⟨modeShallow, scenarioShallow⟩ := shallow_scenario mode
  obtain ⟨limitationsShallow, chainHashShallow⟩ := shallow_publication publication
  have valueShallow := shallow_value value
  have within : ∀ {depth : Nat} {value : PyJson}, value.Shallow depth → depth ≤ 2 →
      value.Shallow 2 := fun shallow le => shallow.mono le
  refine PyJson.shallow_obj canonical hasKeys ?_
  simp only [reportFields, List.forall_mem_cons, List.not_mem_nil, false_implies, implies_true,
    and_true] at valueShallow ⊢
  obtain ⟨value, valueType, unit, currency, reason⟩ := valueShallow
  exact ⟨shallow_of_isNonemptyString recordId, shallow_of_isText version,
    shallow_of_isNonemptyString organization,
    shallow_of_isNoneOr account shallow_of_isNonemptyString, within modeShallow (by omega),
    within scenarioShallow (by omega), shallow_of_checkMember view,
    shallow_of_isNonemptyString snapshot, shallow_of_isIntWith revision,
    shallow_of_isNonemptyString content,
    within (shallow_evidenceRef (canonical.get _) ref) (by omega),
    within chainHashShallow (by omega), shallow_of_checkMember state,
    within value (by omega), within valueType (by omega), within unit (by omega),
    within currency (by omega), within reason (by omega),
    shallow_of_checkDistinct boundary, shallow_rounding (canonical.get _) rounding,
    within (shallow_freshness (canonical.get _) freshness) (by omega),
    shallow_confidence (canonical.get _) confidence, within limitationsShallow (by omega),
    shallow_of_checkMember publicationState, shallow_of_isDatetime generated,
    shallow_of_isTextWith isHash⟩

/-! ### Valid collections -/

/-- A collection of records, each of which is valid, with distinct identifiers. -/
structure IsCollection (interpreter : Interpreter) (records : List JsonDocument) : Prop where
  valid : ∀ record ∈ records, validateReportRecord interpreter record.value = .ok ()
  distinct : (records.map fun record => memberOf "report_record_id" record.value).Nodup

/-- The values of documents. -/
def valuesOf (records : List JsonDocument) : List PyJson := records.map fun record => record.value

/-- A valid record can be encoded, and its text has no surrogates. -/
theorem encodable_of_valid
    {record : JsonDocument}
    (valid : validateReportRecord interpreter record.value = .ok ()) :
    PyJson.checkEncodable interpreter.nesting record.value = .ok () ∧
      PyStr.isPlain record.value.render = true := by
  obtain ⟨-, fields, digest, isObject, isDigest, stated⟩ := validateReportRecord_spec valid
  have canonical := record.canonical
  rw [isObject] at canonical ⊢
  have text : ∀ field ∈ fields, field.1 = PyStr.ofString "record_hash" →
      field.2 = .ofText digest := by
    intro field listed isKey
    rw [← canonical.get_eq_of_mem listed isKey, stated]
  obtain ⟨payload, encoded⟩ := exists_payload digest isDigest text
  simp only [Checks.bind_eq_ok, canonicalJson_eq_ok, dumps_eq_ok, encode,
    Checks.requireSome_eq_ok] at encoded
  obtain ⟨-, ⟨encodable, rfl⟩, isEncoded⟩ := encoded
  exact ⟨encodable, PyStr.exists_encode?_iff.mp ⟨payload, isEncoded⟩⟩

/-- The copy of a document that can be encoded is the document. -/
theorem cloneJson_eq_ok
    {document : JsonDocument}
    (encodable : PyJson.checkEncodable interpreter.nesting document.value = .ok ()) :
    cloneJson interpreter document.value = .ok document.value := by
  simp only [cloneJson, Checks.bind_eq_ok, Checks.mapError_eq_ok, canonicalJson_eq_ok]
  have dumped := dumps_eq_ok.mpr ⟨encodable, rfl⟩
  exact ⟨_, dumped, PyJson.loads_of_dumps document.canonical document.written dumped⟩

/-- Valid records with distinct identifiers that were not seen are accepted. -/
theorem validateRecords_eq_ok
    {seen records : List PyJson}
    (valid : ∀ record ∈ records, validateReportRecord interpreter record = .ok ())
    (distinct : (records.map (memberOf "report_record_id")).Nodup)
    (unseen : ∀ record ∈ records, memberOf "report_record_id" record ∉ seen) :
    validateRecords interpreter seen records = .ok () := by
  induction records generalizing seen with
  | nil => rfl
  | cons record records inductionHypothesis =>
      obtain ⟨validRecord, validRest⟩ := List.forall_mem_cons.mp valid
      obtain ⟨unseenRecord, unseenRest⟩ := List.forall_mem_cons.mp unseen
      rw [List.map_cons, List.nodup_cons] at distinct
      obtain ⟨⟨recordId, isId⟩, -⟩ := validateReportRecord_spec validRecord
      simp only [validateRecords, ↓Checks.bind_done_eq_ok, Checks.require_eq_ok]
      refine ⟨validRecord, ?_, inductionHypothesis validRest distinct.2 fun other listed => ?_⟩
      · rw [Bool.eq_false_iff, ne_eq, List.any_eq_true]
        rintro ⟨other, wasSeen, same⟩
        refine unseenRecord ?_
        cases other with
        | str text =>
            rw [isId, PyJson.pyEq] at same
            rwa [isId, PyJson.str.inj (congrArg PyJson.str (eq_of_beq same))]
        | _ => rw [isId] at same; simp [PyJson.pyEq, PyJson.pyEqScalar, PyJson.numeric?] at same
      · rw [List.mem_cons, not_or]
        refine ⟨fun same => distinct.1 ?_, unseenRest other listed⟩
        exact List.mem_map.mpr ⟨other, listed, same⟩

namespace IsCollection

variable {records : List JsonDocument} (collection : IsCollection interpreter records)

include collection

theorem encodable :
    ∀ record ∈ valuesOf records, PyJson.checkEncodable interpreter.nesting record = .ok () ∧
      PyStr.isPlain record.render = true ∧ record.Shallow 3 := by
  intro value listed
  obtain ⟨record, isRecord, rfl⟩ := List.mem_map.mp listed
  have valid := collection.valid record isRecord
  obtain ⟨isEncodable, plain⟩ := encodable_of_valid valid
  exact ⟨isEncodable, plain, shallow_of_validateReportRecord record.canonical valid⟩

/-- The copies of the records are the records. -/
theorem mapM_cloneJson :
    (valuesOf records).mapM (cloneJson interpreter) = .ok (valuesOf records) := by
  rw [Checks.mapM_eq_ok, List.forall₂_same]
  intro value listed
  have encodable := (collection.encodable value listed).1
  obtain ⟨record, -, rfl⟩ := List.mem_map.mp listed
  exact cloneJson_eq_ok encodable

theorem validateRecordCollection_eq_ok :
    validateRecordCollection interpreter (valuesOf records) = .ok () := by
  apply validateRecords_eq_ok
  · intro value listed
    obtain ⟨record, isRecord, rfl⟩ := List.mem_map.mp listed
    exact collection.valid record isRecord
  · rw [valuesOf, List.map_map]
    exact collection.distinct
  · intro value _
    exact List.not_mem_nil

/-- The list of the records can be encoded. -/
theorem checkEncodable_arr :
    PyJson.checkEncodable interpreter.nesting (.arr (valuesOf records)) = .ok () := by
  have roomy := interpreter.roomy
  obtain ⟨room, isRoom⟩ : ∃ room, interpreter.nesting = room + 1 :=
    ⟨interpreter.nesting - 1, by omega⟩
  rw [isRoom, PyJson.checkEncodable, PyJson.checkItems_eq_ok]
  intro value listed
  obtain ⟨encodable, -, shallow⟩ := collection.encodable value listed
  exact PyJson.checkEncodable_of_shallow shallow (by omega) encodable

/-- The list of the records has a digest. -/
theorem exists_recordsPayload :
    ∃ payload, recordsPayload interpreter (valuesOf records) = .ok payload ∧
      PyStr.decode? payload = some (PyJson.render (.arr (valuesOf records))) := by
  have plain : PyStr.isPlain (PyJson.render (.arr (valuesOf records))) = true := by
    rw [PyJson.isPlain_render_arr, List.all_eq_true]
    exact fun value listed => (collection.encodable value listed).2.1
  obtain ⟨payload, encoded⟩ := PyStr.exists_encode?_iff.mpr plain
  refine ⟨payload, ?_, PyStr.decode?_of_encode? encoded⟩
  rw [recordsPayload, Checks.bind_eq_ok]
  refine ⟨_, canonicalJson_eq_ok.mpr (dumps_eq_ok.mpr ⟨collection.checkEncodable_arr, rfl⟩), ?_⟩
  rw [encode, Checks.requireSome_eq_ok]
  exact encoded

end IsCollection

/-! ### Cursors -/

/-- The members of a cursor. -/
def cursorMembers (offset : Int) (digest : String) : List (String × PyJson) :=
  [("offset", .int offset), ("digest", .ofText digest)]

theorem isDocument_cursor
    (offset : Int)
    (digest : String) : IsDocument (mapping (cursorMembers offset digest)) :=
  isDocument_mapping (by simp [cursorMembers])
    (by simp [cursorMembers, isDocument_int, isDocument_ofText])

/-- A cursor can be encoded when its offset is not too long. -/
theorem checkEncodable_cursor
    {offset : Int}
    (short : PyJson.isShortInt offset = true)
    (digest : String) :
    PyJson.checkEncodable interpreter.nesting (mapping (cursorMembers offset digest)) = .ok () := by
  have roomy := interpreter.roomy
  obtain ⟨room, isRoom⟩ : ∃ room, interpreter.nesting = room + 2 :=
    ⟨interpreter.nesting - 2, by omega⟩
  rw [isRoom, mapping, PyJson.checkEncodable, PyJson.checkFields_eq_ok]
  intro field listed
  obtain ⟨member, isMember, rfl⟩ := mem_membersOf.mp listed
  simp only [cursorMembers, List.mem_cons, List.not_mem_nil, or_false] at isMember
  rcases isMember with rfl | rfl
  · exact Checks.require_eq_ok.mpr short
  · rfl

/-- The text of a cursor has an encoding. -/
theorem exists_encode?_cursor
    (offset : Int)
    (digest : String) :
    ∃ payload, PyStr.encode? (PyJson.render (mapping (cursorMembers offset digest))) =
      some payload := by
  rw [PyStr.exists_encode?_iff, mapping, PyJson.isPlain_render_obj, List.all_eq_true]
  intro field listed
  obtain ⟨member, isMember, rfl⟩ := mem_membersOf.mp listed
  rw [Bool.and_eq_true]
  refine ⟨PyJson.isPlain_renderString_ofChars _, ?_⟩
  simp only [cursorMembers, List.mem_cons, List.not_mem_nil, or_false] at isMember
  rcases isMember with rfl | rfl
  · rw [PyJson.render, PyStr.isPlain_ofChars]
  · rw [PyJson.ofText, PyJson.render, PyStr.isPlain_scalar_cons]
    exact PyJson.isPlain_renderString_ofChars _

/-- What a cursor is made of. -/
theorem encodeCursor_eq_ok
    {offset : Int}
    {digest : String}
    {cursor : PyStr}
    (encoded : encodeCursor interpreter offset digest = .ok cursor) :
    PyJson.dumps interpreter (mapping (cursorMembers offset digest)) =
        .ok (PyJson.render (mapping (cursorMembers offset digest))) ∧
      ∃ payload, PyStr.encode? (PyJson.render (mapping (cursorMembers offset digest))) =
          some payload ∧
        cursor = PyStr.ofChars (Base64.stripPadding (Base64.encode payload)) := by
  simp only [encodeCursor, Checks.bind_eq_ok, Checks.pure_eq_ok, canonicalJson_eq_ok, encode,
    Checks.requireSome_eq_ok] at encoded
  obtain ⟨text, dumped, payload, isPayload, rfl⟩ := encoded
  obtain rfl := (dumps_eq_ok.mp dumped).2
  exact ⟨dumped, payload, isPayload, rfl⟩

theorem exists_encodeCursor
    {offset : Int}
    (short : PyJson.isShortInt offset = true)
    (digest : String) : ∃ cursor, encodeCursor interpreter offset digest = .ok cursor := by
  obtain ⟨payload, isPayload⟩ := exists_encode?_cursor offset digest
  simp only [encodeCursor, Checks.bind_eq_ok, Checks.pure_eq_ok, canonicalJson_eq_ok, encode,
    Checks.requireSome_eq_ok]
  exact ⟨_, _, dumps_eq_ok.mpr ⟨checkEncodable_cursor short digest, rfl⟩, payload, isPayload, rfl⟩

/-- A cursor has the bytes that it was made of. -/
theorem cursorBytes?_stripPadding (payload : List UInt8) :
    cursorBytes? (PyStr.ofChars (Base64.stripPadding (Base64.encode payload))) = some payload := by
  have ascii : (Base64.stripPadding (Base64.encode payload)).all (fun c => c.toNat < 128) =
      true := by
    rw [Base64.stripPadding_encode, List.all_eq_true]
    exact fun c present => decide_eq_true (Base64.mem_unpadded c present).2
  rw [cursorBytes?, PyStr.chars?_ofChars, Option.bind_eq_bind, Option.bind_some, if_pos ascii,
    Base64.decode_stripPadding]

/-- A cursor that was encoded is decoded as its offset with the same digest, and
rejected with any other one. -/
theorem decodeCursor_encodeCursor
    {offset : Int}
    {issued : String}
    {cursor : PyStr}
    (encoded : encodeCursor interpreter offset issued = .ok cursor)
    (nonnegative : 0 ≤ offset)
    (digest : String) :
    decodeCursor interpreter cursor digest =
      if issued = digest then .ok offset else .error (.reporting .reportCursorInvalid) := by
  obtain ⟨dumped, payload, isPayload, rfl⟩ := encodeCursor_eq_ok encoded
  have document := isDocument_cursor offset issued
  have loaded := PyJson.loads_of_dumps document.canonical document.written dumped
  have bytes := cursorBytes?_stripPadding payload
  have nonempty : PyStr.ofChars (Base64.stripPadding (Base64.encode payload)) ≠ [] := by
    intro empty
    rw [empty] at bytes
    obtain rfl : [] = payload := Option.some.inj bytes
    have decoded := PyStr.decode?_of_encode? isPayload
    rw [← Option.some.inj decoded] at loaded
    cases loaded
  have hasKeys := hasKeys_membersOf (cursorMembers offset issued)
  have offsetEq : PyJson.get (membersOf (cursorMembers offset issued)) "offset" = .int offset :=
    get_membersOf document List.mem_cons_self
  have digestEq : PyJson.get (membersOf (cursorMembers offset issued)) "digest" = .ofText issued :=
    get_membersOf document (List.mem_cons_of_mem _ List.mem_cons_self)
  have sameDigest : (PyJson.ofText issued).isText digest = true ↔ issued = digest := by
    rw [PyJson.isText_iff, PyJson.ofText, PyJson.ofText, PyJson.str.injEq,
      PyStr.ofString_injective.eq_iff]
  have isPresent : check (PyStr.ofChars (Base64.stripPadding (Base64.encode payload)) ≠ [])
      .reportCursorInvalid = .ok () := Checks.require_eq_ok.mpr nonempty
  have isLoaded : (PyJson.loads interpreter
      (PyJson.render (mapping (cursorMembers offset issued)))).mapError cursorFailure =
        .ok (mapping (cursorMembers offset issued)) := Checks.mapError_eq_ok.mpr loaded
  have isMapping : checkMapping (mapping (cursorMembers offset issued)) ["offset", "digest"]
      .reportCursorInvalid = .ok (membersOf (cursorMembers offset issued)) :=
    checkMapping_eq_ok.mpr ⟨rfl, hasKeys⟩
  have isOffset : check (0 ≤ offset) .reportCursorInvalid = .ok () :=
    Checks.require_eq_ok.mpr nonnegative
  rw [decodeCursor, isPresent, Checks.ok_bind, bytes, requireSome, Checks.ok_bind,
    PyStr.decode?_of_encode? isPayload, requireSome, Checks.ok_bind, isLoaded, Checks.ok_bind,
    isMapping, Checks.ok_bind, offsetEq, digestEq]
  change check (0 ≤ offset) _ >>= _ = _
  rw [isOffset, Checks.ok_bind]
  unfold check require
  simp only [sameDigest]
  split <;> rfl

/-! ### Following the cursors -/

/-- `sys.maxsize`, which no list is longer than. -/
def maxSize : Nat := 2 ^ 63 - 1

/-- The length of a list has a text. -/
theorem isShortInt_of_le_maxSize
    {n : Nat}
    (sized : n ≤ maxSize) : PyJson.isShortInt n = true := by
  have below : maxSize < 10 ^ 19 := by decide
  have digits : 10 ^ 19 ≤ 10 ^ PyText.maxIntDigits :=
    Nat.pow_le_pow_right (by decide) (by decide)
  rw [PyJson.isShortInt, decide_eq_true_eq, Nat.length_toDigits_le_iff (by decide) (by decide)]
  exact lt_of_le_of_lt sized (lt_of_lt_of_le below digits)

/-- No cursor points at the start of a list, and a cursor at the offset that it
was issued for. -/
inductive PointsAt (interpreter : Interpreter) (digest : String) : Nat → Option PyStr → Prop
  | start : PointsAt interpreter digest 0 none
  | issued
      {offset : Nat}
      {cursor : PyStr}
      (encoded : encodeCursor interpreter offset digest = .ok cursor) :
      PointsAt interpreter digest offset (some cursor)

/-- The page at an offset, and where its cursor points. -/
theorem exists_pageRecords
    {records : List JsonDocument}
    (collection : IsCollection interpreter records)
    (sized : records.length ≤ maxSize)
    {digest : String}
    (isDigest : recordsDigest interpreter (valuesOf records) = .ok digest)
    {limit : Int}
    (limited : 1 ≤ limit ∧ limit ≤ maxPageSize)
    {offset : Nat}
    (inside : offset ≤ records.length)
    {cursor : Option PyStr}
    (pointsAt : PointsAt interpreter digest offset cursor) :
    ∃ page, pageRecords interpreter (valuesOf records) limit cursor = .ok page ∧
      page.records = ((valuesOf records).drop offset).take limit.toNat ∧
      if offset + limit.toNat < records.length then
        ∃ later, page.nextCursor = some later ∧
          PointsAt interpreter digest (offset + limit.toNat) (some later)
      else page.nextCursor = none := by
  have isLimited : check (1 ≤ limit ∧ limit ≤ maxPageSize) .reportPageLimitInvalid = .ok () :=
    Checks.require_eq_ok.mpr limited
  have starts : startOffset interpreter digest cursor = .ok offset := by
    cases pointsAt with
    | start => rfl
    | issued encoded =>
        rw [startOffset, decodeCursor_encodeCursor encoded (Int.natCast_nonneg offset), if_pos rfl]
  have count : (valuesOf records).length = records.length := List.length_map _
  have isInside : check ((offset : Int) ≤ (valuesOf records).length) .reportCursorInvalid =
      .ok () := by
    rw [Checks.require_eq_ok, count]
    exact_mod_cast inside
  rw [pageRecords, isLimited, Checks.ok_bind, collection.mapM_cloneJson, Checks.ok_bind,
    collection.validateRecordCollection_eq_ok, Checks.ok_bind, isDigest, Checks.ok_bind, starts,
    Checks.ok_bind, isInside, Checks.ok_bind, Int.toNat_natCast, count]
  dsimp only
  have taken : (((valuesOf records).drop offset).take limit.toNat).length =
      min limit.toNat (records.length - offset) := by
    rw [List.length_take, List.length_drop, count]
  by_cases more : offset + limit.toNat < records.length
  · -- The page is full, and a cursor to the next one is issued.
    have full : (offset : Int) + (((valuesOf records).drop offset).take limit.toNat).length =
        (offset + limit.toNat : Nat) := by
      rw [taken]
      omega
    obtain ⟨later, encoded⟩ := @exists_encodeCursor interpreter (offset + limit.toNat : Nat)
      (isShortInt_of_le_maxSize (by omega)) digest
    have isNext : cursorTo interpreter (offset + limit.toNat : Nat) records.length digest =
        .ok (some later) := by
      rw [cursorTo, if_pos (by exact_mod_cast more), encoded]
      rfl
    rw [full, isNext]
    refine ⟨_, rfl, rfl, ?_⟩
    rw [if_pos more]
    exact ⟨later, rfl, .issued encoded⟩
  · -- The page reaches the end of the list.
    have isLast : cursorTo interpreter
        (offset + (((valuesOf records).drop offset).take limit.toNat).length) records.length
          digest = .ok none := by
      rw [cursorTo, if_neg]
      rw [taken]
      omega
    rw [isLast]
    refine ⟨_, rfl, rfl, ?_⟩
    rw [if_neg more]

/-- A reader sees only one sequence of pages. -/
theorem Follows.unique
    {records : List PyJson}
    {limits : Nat → Int}
    {cursor : Option PyStr}
    {pages others : List ReportPage}
    (follows : Follows interpreter records limits cursor pages)
    (followsOthers : Follows interpreter records limits cursor others) : others = pages := by
  induction follows generalizing others with
  | last paged noMore =>
      cases followsOthers with
      | last pagedOther _ =>
          rw [Except.ok.inj (pagedOther.symm.trans paged)]
      | next pagedOther more _ =>
          rw [Except.ok.inj (pagedOther.symm.trans paged), noMore] at more
          cases more
  | next paged more _ inductionHypothesis =>
      cases followsOthers with
      | last pagedOther noMore =>
          rw [Except.ok.inj (pagedOther.symm.trans paged), more] at noMore
          cases noMore
      | next pagedOther moreOther rest =>
          obtain rfl := Except.ok.inj (pagedOther.symm.trans paged)
          obtain rfl := Option.some.inj (moreOther.symm.trans more)
          rw [inductionHypothesis rest]

/-- From a cursor on, the pages hold the records from its offset on. -/
theorem exists_follows
    {records : List JsonDocument}
    (collection : IsCollection interpreter records)
    (sized : records.length ≤ maxSize)
    {digest : String}
    (isDigest : recordsDigest interpreter (valuesOf records) = .ok digest)
    {limits : Nat → Int}
    (limited : ∀ index, 1 ≤ limits index ∧ limits index ≤ maxPageSize)
    {offset : Nat}
    (inside : offset ≤ records.length)
    {cursor : Option PyStr}
    (pointsAt : PointsAt interpreter digest offset cursor) :
    ∃ pages, Follows interpreter (valuesOf records) limits cursor pages ∧
      (pages.flatMap fun page => page.records) = (valuesOf records).drop offset := by
  obtain ⟨page, paged, isPage, after⟩ :=
    exists_pageRecords collection sized isDigest (limited 0) inside pointsAt
  split at after
  next more =>
    have positive := limited 0
    obtain ⟨later, isNext, laterPoints⟩ := after
    obtain ⟨pages, follows, rest⟩ := exists_follows collection sized isDigest
      (fun index => limited (index + 1)) more.le laterPoints
    refine ⟨page :: pages, .next paged isNext follows, ?_⟩
    rw [List.flatMap_cons, rest, isPage, ← List.drop_drop, List.take_append_drop]
  next noMore =>
    refine ⟨[page], .last paged after, ?_⟩
    rw [List.flatMap_singleton, isPage, List.take_of_length_le]
    rw [List.length_drop, valuesOf, List.length_map]
    omega
  termination_by records.length - offset

/-! ### Cursors of other lists -/

/-- Different lists of records have different digests. -/
def DigestsDistinct (interpreter : Interpreter) (lists : Set (List PyJson)) : Prop :=
  Set.InjOn Sha256.hexdigestOfBytes
    {payload | ∃ records ∈ lists, recordsPayload interpreter records = .ok payload}

theorem recordsDigest_eq_ok
    {records : List PyJson}
    {digest : String} :
    recordsDigest interpreter records = .ok digest ↔
      ∃ payload, recordsPayload interpreter records = .ok payload ∧
        Sha256.hexdigestOfBytes payload = digest := by
  simp only [recordsDigest, Checks.bind_eq_ok, Checks.pure_eq_ok]

/-- Collections with one digest are the same list. -/
theorem eq_of_recordsDigest
    {records others : List JsonDocument}
    (collection : IsCollection interpreter records)
    (otherCollection : IsCollection interpreter others)
    (distinct : DigestsDistinct interpreter {valuesOf records, valuesOf others})
    {digest : String}
    (isDigest : recordsDigest interpreter (valuesOf records) = .ok digest)
    (isOther : recordsDigest interpreter (valuesOf others) = .ok digest) :
    valuesOf others = valuesOf records := by
  obtain ⟨payload, isPayload, rfl⟩ := recordsDigest_eq_ok.mp isDigest
  obtain ⟨otherPayload, isOtherPayload, same⟩ := recordsDigest_eq_ok.mp isOther
  obtain rfl := distinct ⟨_, by simp, isOtherPayload⟩ ⟨_, by simp, isPayload⟩ same
  obtain ⟨_, isKnown, decoded⟩ := collection.exists_recordsPayload
  obtain rfl := Except.ok.inj (isPayload.symm.trans isKnown)
  obtain ⟨_, isKnownOther, decodedOther⟩ := otherCollection.exists_recordsPayload
  obtain rfl := Except.ok.inj (isOtherPayload.symm.trans isKnownOther)
  have rendered := Option.some.inj (decodedOther.symm.trans decoded)
  have loads : ∀ {list : List JsonDocument}, IsCollection interpreter list →
      PyJson.loads interpreter (PyJson.render (.arr (valuesOf list))) =
        .ok (.arr (valuesOf list)) := by
    intro list isCollection
    apply PyJson.loads_of_dumps
    · apply PyJson.CanonicalItems.of_forall
      intro value listed
      obtain ⟨record, -, rfl⟩ := List.mem_map.mp listed
      exact record.canonical
    · apply JsonDecoder.WrittenItems.of_forall
      intro value listed
      obtain ⟨record, -, rfl⟩ := List.mem_map.mp listed
      exact record.written
    · exact dumps_eq_ok.mpr ⟨isCollection.checkEncodable_arr, rfl⟩
  have loaded := loads otherCollection
  rw [rendered, loads collection] at loaded
  exact (PyJson.arr.inj (Except.ok.inj loaded)).symm

/-- Offsets are not negative. -/
theorem startOffset_nonneg
    {digest : String}
    {cursor : Option PyStr}
    {offset : Int}
    (starts : startOffset interpreter digest cursor = .ok offset) : 0 ≤ offset := by
  cases cursor with
  | none => exact (Except.ok.inj starts).le
  | some cursor =>
      simp only [startOffset, decodeCursor, Checks.bind_eq_ok] at starts
      obtain ⟨⟨⟩, -, -, -, -, -, -, -, fields, -, starts⟩ := starts
      split at starts
      next read _ =>
        simp only [↓Checks.bind_done_eq_ok, Checks.require_eq_ok, Checks.pure_eq_ok] at starts
        obtain ⟨nonnegative, -, rfl⟩ := starts
        exact nonnegative
      next => cases starts

/-- The cursor of a page was issued for the digest of its list. -/
theorem exists_encodeCursor_of_pageRecords
    {records : List JsonDocument}
    (collection : IsCollection interpreter records)
    {limit : Int}
    {cursor : Option PyStr}
    {page : ReportPage}
    (paged : pageRecords interpreter (valuesOf records) limit cursor = .ok page)
    {later : PyStr}
    (issued : page.nextCursor = some later) :
    ∃ offset digest, 0 ≤ offset ∧
      recordsDigest interpreter (valuesOf records) = .ok digest ∧
      encodeCursor interpreter offset digest = .ok later := by
  simp only [pageRecords, ↓Checks.bind_done_eq_ok, Checks.bind_eq_ok, Checks.pure_eq_ok,
    collection.mapM_cloneJson, Except.ok.injEq, exists_eq_left'] at paged
  obtain ⟨⟨⟩, -, -, digest, isDigest, offset, starts, -, next, isNext, rfl⟩ := paged
  obtain rfl : next = some later := issued
  have nonnegative := startOffset_nonneg starts
  unfold cursorTo at isNext
  split at isNext
  next =>
    obtain ⟨encodedCursor, encoded, isLater⟩ := Checks.map_eq_ok.mp isNext
    obtain rfl := Option.some.inj isLater
    exact ⟨_, digest, by omega, isDigest, encoded⟩
  next => cases isNext

/-- For valid records with distinct identifiers, following the cursors yields
every record once and in order, on one finite sequence of pages whatever the
limits are; and a cursor to one list is rejected with any other list. -/
theorem pageRecords_complete_and_bound
    {records : List JsonDocument}
    (collection : IsCollection interpreter records)
    (sized : records.length ≤ maxSize) :
    (∀ limits : Nat → Int, (∀ index, 1 ≤ limits index ∧ limits index ≤ maxPageSize) →
      ∃ pages, Follows interpreter (valuesOf records) limits none pages ∧
        (∀ others, Follows interpreter (valuesOf records) limits none others → others = pages) ∧
        (pages.flatMap fun page => page.records) = valuesOf records) ∧
      ∀ others : List JsonDocument, IsCollection interpreter others →
        valuesOf others ≠ valuesOf records →
        DigestsDistinct interpreter {valuesOf records, valuesOf others} →
        ∀ (limit otherLimit : Int) (cursor : Option PyStr) (page : ReportPage) (issued : PyStr),
          pageRecords interpreter (valuesOf records) limit cursor = .ok page →
          page.nextCursor = some issued → 1 ≤ otherLimit ∧ otherLimit ≤ maxPageSize →
          pageRecords interpreter (valuesOf others) otherLimit (some issued) =
            .error (.reporting .reportCursorInvalid) := by
  constructor
  · intro limits limited
    obtain ⟨payload, isPayload, -⟩ := collection.exists_recordsPayload
    have isDigest := recordsDigest_eq_ok.mpr ⟨payload, isPayload, rfl⟩
    obtain ⟨pages, follows, rest⟩ :=
      exists_follows collection sized isDigest limited (Nat.zero_le _) .start
    exact ⟨pages, follows, fun others => follows.unique, rest⟩
  · intro others otherCollection different distinct limit otherLimit cursor page issued paged
      isNext limited
    obtain ⟨offset, digest, nonnegative, isDigest, encoded⟩ :=
      exists_encodeCursor_of_pageRecords collection paged isNext
    obtain ⟨payload, isPayload, -⟩ := otherCollection.exists_recordsPayload
    have isOther := recordsDigest_eq_ok.mpr ⟨payload, isPayload, rfl⟩
    have apart : digest ≠ Sha256.hexdigestOfBytes payload := by
      rintro rfl
      exact different
        (eq_of_recordsDigest collection otherCollection distinct isDigest isOther)
    have isLimited : check (1 ≤ otherLimit ∧ otherLimit ≤ maxPageSize) .reportPageLimitInvalid =
        .ok () := Checks.require_eq_ok.mpr limited
    rw [pageRecords, isLimited, Checks.ok_bind, otherCollection.mapM_cloneJson, Checks.ok_bind,
      otherCollection.validateRecordCollection_eq_ok, Checks.ok_bind, isOther, Checks.ok_bind,
      startOffset, decodeCursor_encodeCursor encoded nonnegative, if_neg apart]
    rfl

theorem one_le_maxPageSize : 1 ≤ maxPageSize := by decide

/-- The record with a line separator is a collection. -/
theorem isCollection_broken : IsCollection smallInterpreter [brokenRecord] := by
  obtain ⟨payload, exported⟩ := exists_export_broken
  obtain ⟨each, distinct, -⟩ := validateRecords_spec (exportRecordsJsonl_spec exported).1
  exact ⟨fun record listed => each record.value (List.mem_map_of_mem listed), by simp⟩

/-- The pages of one record. -/
theorem pageRecords_complete_and_bound_broken :
    ∃ pages, Follows smallInterpreter (valuesOf [brokenRecord]) (fun _ => 1) none pages ∧
      (pages.flatMap fun page => page.records) = valuesOf [brokenRecord] := by
  obtain ⟨pages, follows, -, rest⟩ :=
    (pageRecords_complete_and_bound isCollection_broken (by decide)).1 (fun _ => 1)
      fun _ => ⟨le_refl 1, one_le_maxPageSize⟩
  exact ⟨pages, follows, rest⟩

/-- A valid record that is listed twice has no page. -/
theorem not_follows_twice :
    ∃ (records : List JsonDocument) (limits : Nat → Int),
      (∀ record ∈ records, validateReportRecord smallInterpreter record.value = .ok ()) ∧
      (∀ index, 1 ≤ limits index ∧ limits index ≤ maxPageSize) ∧
      ∀ pages, ¬Follows smallInterpreter (valuesOf records) limits none pages := by
  have valid := isCollection_broken.valid brokenRecord List.mem_cons_self
  refine ⟨[brokenRecord, brokenRecord], fun _ => 1, by simpa using valid, fun _ => ⟨le_refl 1, one_le_maxPageSize⟩, ?_⟩
  intro pages follows
  have noPage : ∀ page, pageRecords smallInterpreter (valuesOf [brokenRecord, brokenRecord]) 1
      none ≠ .ok page := by
    intro page paged
    simp only [pageRecords, ↓Checks.bind_done_eq_ok, Checks.bind_eq_ok] at paged
    obtain ⟨⟨⟩, -, copies, cloned, accepted, -⟩ := paged
    rw [eq_of_mapM_cloneJson cloned] at accepted
    exact absurd (validateRecords_spec accepted).2.1 (by simp)
  cases follows with
  | last paged _ => exact noPage _ paged
  | next paged _ _ => exact noPage _ paged

end Reporting
end QuantumAnalytics
