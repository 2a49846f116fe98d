import QuantumAnalytics.Reporting.CsvExports

/-!
# Records that the CSV reader cannot read

A record of a metric without data may have an identifier of any length. With
its digest it is valid, and it is exported while the payload is small enough,
also when its canonical text does not fit a field of the reader.
-/

namespace QuantumAnalytics
namespace Reporting

variable {interpreter : Interpreter}

/-! ### A record with its digest -/

/-- The members of a record without data between its identifier and its digest. -/
def innerMembers : List (String × PyJson) := ((emptyMembers "" "").drop 1).dropLast

theorem emptyMembers_eq (recordId recordHash : String) :
    emptyMembers recordId recordHash = ("report_record_id", .ofText recordId) ::
      (innerMembers ++ [("record_hash", .ofText recordHash)]) := rfl

theorem keys_emptyMembers (recordId recordHash : String) :
    ((emptyMembers recordId recordHash).map Prod.fst) = reportFields := rfl

/-- A member with another value under a key. -/
def withValue (key : String) (value : PyJson) (field : PyStr × PyJson) : PyStr × PyJson :=
  if field.1 = PyStr.ofString key then (field.1, value) else field

theorem withValue_fst (key : String) (value : PyJson) (field : PyStr × PyJson) :
    (withValue key value field).1 = field.1 := by
  rw [withValue]
  split_ifs
  · rfl
  · rfl

/-- The other members do not see the value under a key. -/
theorem without_map_withValue (key : String) (value : PyJson) (fields : PyObject) :
    PyJson.without (fields.map (withValue key value)) key = PyJson.without fields key := by
  have kept : ∀ field, (withValue key value field).1 ≠ PyStr.ofString key ↔
      field.1 ≠ PyStr.ofString key := by
    intro field
    rw [withValue_fst]
  simp only [PyJson.without, List.filter_map, Function.comp_def, kept]
  refine (List.map_congr_left fun field listed => ?_).trans (List.map_id _)
  exact if_neg (of_decide_eq_true (List.mem_filter.mp listed).2)

theorem sortFields_map_withValue (key : String) (value : PyJson) (fields : PyObject) :
    PyJson.sortFields (fields.map (withValue key value)) =
      (PyJson.sortFields fields).map (withValue key value) := by
  rw [PyJson.sortFields, PyJson.sortFields]
  symm
  apply List.map_insertionSort
  intro left _ right _
  rw [withValue_fst, withValue_fst]

/-- The digest of a record is that of its other members. -/
theorem without_emptyMembers (recordId recordHash : String) :
    PyJson.without (membersOf (emptyMembers recordId recordHash)) "record_hash" =
      PyJson.without (membersOf (emptyMembers recordId "")) "record_hash" := by
  have changed : (emptyMembers recordId recordHash).map
        (fun member => (PyStr.ofString member.1, member.2)) =
      ((emptyMembers recordId "").map fun member => (PyStr.ofString member.1, member.2)).map
        (withValue "record_hash" (.ofText recordHash)) := by
    simp [emptyMembers, withValue, PyStr.ofString_injective.eq_iff]
  rw [membersOf, changed, sortFields_map_withValue, without_map_withValue, membersOf]

theorem forall_emptyMembers
    {recordId recordHash : String}
    {holds : String × PyJson → Prop}
    (ofText : ∀ key text, holds (key, .ofText text))
    (inner : ∀ member ∈ innerMembers, holds member) :
    ∀ member ∈ emptyMembers recordId recordHash, holds member := by
  rw [emptyMembers_eq, List.forall_mem_cons, List.forall_mem_append, List.forall_mem_singleton]
  exact ⟨ofText _ _, inner, ofText _ _⟩

theorem checkEncodable_emptyMembers (recordId recordHash : String) :
    PyJson.checkEncodable smallInterpreter.nesting (mapping (emptyMembers recordId recordHash)) =
      .ok () := by
  have each : ∀ member ∈ emptyMembers recordId recordHash,
      PyJson.checkEncodable 15 member.2 = .ok () := by
    apply forall_emptyMembers
    · exact fun _ _ => rfl
    · have inner : (innerMembers.all fun member =>
          (PyJson.checkEncodable 15 member.2).isOk) = true := by decide +kernel
      intro member listed
      obtain ⟨⟨⟩, isOk⟩ := Checks.exists_eq_ok _ (List.all_eq_true.mp inner member listed)
      exact isOk
  have room : smallInterpreter.nesting = 15 + 1 := rfl
  rw [mapping, room, PyJson.checkEncodable, PyJson.checkFields_eq_ok]
  intro field listed
  obtain ⟨member, given, rfl⟩ := mem_membersOf.mp listed
  exact each member given

theorem isPlain_emptyMembers (recordId recordHash : String) :
    PyStr.isPlain (mapping (emptyMembers recordId recordHash)).render = true := by
  have each : ∀ member ∈ emptyMembers recordId recordHash,
      (PyStr.isPlain (PyJson.renderString (PyStr.ofString member.1)) &&
        PyStr.isPlain member.2.render) = true := by
    apply forall_emptyMembers
    · intro key text
      rw [Bool.and_eq_true, PyJson.ofText, PyJson.render, PyStr.isPlain_scalar_cons]
      exact ⟨PyJson.isPlain_renderString_ofChars _, PyJson.isPlain_renderString_ofChars _⟩
    · exact List.all_eq_true.mp (by decide +kernel)
  rw [mapping, PyJson.isPlain_render_obj, List.all_eq_true]
  intro field listed
  obtain ⟨member, given, rfl⟩ := mem_membersOf.mp listed
  exact each member given

/-- A mapping that can be encoded has a digest. -/
theorem exists_canonicalHash
    {fields : PyObject}
    (encodable : PyJson.checkEncodable interpreter.nesting (.obj fields) = .ok ())
    (plain : PyStr.isPlain (PyJson.render (.obj fields)) = true)
    (key : String) :
    ∃ payload, canonicalHash interpreter fields key = .ok (Sha256.hexdigestOfBytes payload) := by
  have roomy := interpreter.roomy
  obtain ⟨room, isRoom⟩ : ∃ room, interpreter.nesting = room + 1 :=
    ⟨interpreter.nesting - 1, by omega⟩
  rw [isRoom, PyJson.checkEncodable, PyJson.checkFields_eq_ok] at encodable
  rw [PyJson.isPlain_render_obj, List.all_eq_true] at plain
  have kept : ∀ field ∈ PyJson.without fields key, field ∈ fields :=
    fun field listed => (List.mem_filter.mp listed).1
  have encodableRest : PyJson.checkEncodable interpreter.nesting
      (.obj (PyJson.without fields key)) = .ok () := by
    rw [isRoom, PyJson.checkEncodable, PyJson.checkFields_eq_ok]
    exact fun field listed => encodable field (kept field listed)
  have plainRest : PyStr.isPlain (PyJson.render (.obj (PyJson.without fields key))) = true := by
    rw [PyJson.isPlain_render_obj, List.all_eq_true]
    exact fun field listed => plain field (kept field listed)
  obtain ⟨payload, encoded⟩ := PyStr.exists_encode?_iff.mpr plainRest
  refine ⟨payload, ?_⟩
  rw [canonicalHash, canonicalJson_eq_ok.mpr (dumps_eq_ok.mpr ⟨encodableRest, rfl⟩),
    Checks.ok_bind, encode, encoded]
  rfl

/-- The digest that the record with an identifier states. -/
def emptyHash (recordId : String) : String :=
  let fields := membersOf (emptyMembers recordId "")
  (canonicalHash smallInterpreter fields "record_hash").toOption.getD ""

theorem canonicalHash_emptyMembers (recordId recordHash : String) :
    canonicalHash smallInterpreter (membersOf (emptyMembers recordId recordHash)) "record_hash" =
        .ok (emptyHash recordId) ∧ PyText.isHexDigest (emptyHash recordId) = true := by
  obtain ⟨payload, isDigest⟩ := exists_canonicalHash (checkEncodable_emptyMembers recordId "")
    (isPlain_emptyMembers recordId "") "record_hash"
  have isHash : emptyHash recordId = Sha256.hexdigestOfBytes payload := by
    rw [emptyHash, isDigest]
    rfl
  rw [isHash, ← isDigest, canonicalHash, canonicalHash, without_emptyMembers]
  exact ⟨rfl, Sha256.isHexDigest_hexdigestOfBytes payload⟩

/-- A record without data that states its digest. -/
def hashedRecord (recordId : String) : JsonDocument := emptyRecord recordId (emptyHash recordId)

theorem value_hashedRecord (recordId : String) :
    (hashedRecord recordId).value = mapping (emptyMembers recordId (emptyHash recordId)) := rfl

theorem checkEncodable_hashedRecord (recordId : String) :
    PyJson.checkEncodable smallInterpreter.nesting (hashedRecord recordId).value = .ok () := by
  rw [value_hashedRecord]
  exact checkEncodable_emptyMembers recordId (emptyHash recordId)

theorem validate_hashedRecord
    {recordId : String}
    (nonempty : recordId ≠ "") :
    validateReportRecord smallInterpreter (hashedRecord recordId).value = .ok () := by
  obtain ⟨isDigest, isHex⟩ := canonicalHash_emptyMembers recordId (emptyHash recordId)
  have document := isDocument_emptyMembers recordId (emptyHash recordId)
  have values : ∀ member ∈ emptyMembers recordId (emptyHash recordId), _ :=
    fun member listed => get_membersOf document listed
  have hasKeys := hasKeys_membersOf (emptyMembers recordId (emptyHash recordId))
  rw [keys_emptyMembers] at hasKeys
  change validateReportRecord smallInterpreter
    (.obj (membersOf (emptyMembers recordId (emptyHash recordId)))) = .ok ()
  generalize membersOf (emptyMembers recordId (emptyHash recordId)) = fields at *
  simp only [emptyMembers, List.forall_mem_cons] at values
  obtain ⟨isId, isSchema, isOrganization, isAccount, isMode, isScenario, isView, isSnapshot,
    isRevision, isContentHash, isRef, isChainHash, isState, isValue, isValueType, isUnit,
    isCurrency, isReason, isBoundary, isRounding, isFreshness, isConfidence, isLimitations,
    isPublication, isTime, isStated, -⟩ := values
  have identity : checkIdentity fields = .ok () := by
    simp only [checkIdentity, ↓Checks.bind_done_eq_ok, Checks.require_eq_ok, isSchema,
      List.all_cons, List.all_nil, isId, isOrganization, isSnapshot, isContentHash, isRevision,
      Bool.and_eq_true]
    refine ⟨by decide, ⟨?_, by decide⟩, by decide, by decide⟩
    rw [PyJson.ofText, PyJson.isNonemptyString]
    simpa [PyStr.ofString, PyStr.ofChars] using nonempty
  have mode : checkMode fields .reportModeInvalid .reportModeContamination = .ok () := by
    rw [checkMode, isMode, isScenario]
    rfl
  have ref : checkEvidenceRef fields = .ok () := by
    rw [checkEvidenceRef, isRef]
    rfl
  have publication : checkPublication fields = .ok () := by
    simp only [checkPublication, isLimitations, isChainHash, isPublication]
    rfl
  have value : checkValue fields = .ok () := by
    simp only [checkValue, isState, isReason, List.all_cons, List.all_nil, isValue, isValueType,
      isUnit, isCurrency]
    rfl
  simp only [validateReportRecord, ↓Checks.bind_done_eq_ok, Checks.bind_eq_ok, checkMapping_eq_ok,
    Checks.require_eq_ok]
  refine ⟨fields, ⟨rfl, hasKeys⟩, identity, mode, ?_, ?_, ?_, ?_, ?_, ref, publication, value, [],
    ?_, ?_, ?_, ?_, ?_⟩
  · rw [isAccount]; rfl
  · rw [isView]; rfl
  · rw [isState]; rfl
  · rw [isPublication]; rfl
  · rw [isTime]; decide +kernel
  · rw [isBoundary]; rfl
  · rw [isRounding]; rfl
  · rw [isFreshness]
    obtain ⟨⟨⟩, isOk⟩ := Checks.exists_eq_ok (validateFreshness (mapping
      [("state", .ofText "UNKNOWN"), ("observed_at", .ofText "2026-01-01T00:00:00Z"),
        ("deadline", .null)])) (by decide +kernel)
    exact isOk
  · rw [isConfidence]; rfl
  · simp only [checkHash, Checks.bind_eq_ok, Checks.require_eq_ok, isStated]
    refine ⟨(), ?_, emptyHash recordId, isDigest, PyJson.isText_iff.mpr rfl⟩
    simp [PyJson.isHash, PyJson.isTextWith, PyJson.ofText, PyStr.text?, PyStr.ofString, isHex]

/-! ### Its export -/

/-- The cells of a record without data between its identifier and its digest. -/
def innerCells : List PyStr :=
  ["o", "", "ACTUAL", "", "OPERATIONAL", "m", "EMPTY", "", "", "", "e", "1", "",
    "PREVIEW_ONLY"].map PyStr.ofString

/-- The cells of a record without data, other than its canonical text. -/
def emptyCells (recordId recordHash : String) : List PyStr :=
  guardText (PyStr.ofString recordId) :: (innerCells ++ [guardText (PyStr.ofString recordHash)])

theorem csvColumns_hashedRecord (recordId : String) :
    csvColumns (hashedRecord recordId).value =
      [("report_record_id", .ofText recordId), ("organization_id", .ofText "o"),
        ("marketplace_account_id", .null), ("mode", .ofText "ACTUAL"), ("scenario_id", .null),
        ("accounting_view", .ofText "OPERATIONAL"), ("metric_snapshot_id", .ofText "m"),
        ("state", .ofText "EMPTY"), ("value", .null), ("currency", .null), ("unit", .null),
        ("evidence_chain_id", .ofText "e"), ("evidence_chain_version", .int 1),
        ("evidence_chain_content_hash", .null), ("publication_state", .ofText "PREVIEW_ONLY"),
        ("record_hash", .ofText (emptyHash recordId))] := by
  have document := isDocument_emptyMembers recordId (emptyHash recordId)
  have values : ∀ member ∈ emptyMembers recordId (emptyHash recordId), _ :=
    fun member listed => get_membersOf document listed
  change csvColumns (.obj (membersOf (emptyMembers recordId (emptyHash recordId)))) = _
  generalize membersOf (emptyMembers recordId (emptyHash recordId)) = fields at *
  simp only [emptyMembers, List.forall_mem_cons] at values
  obtain ⟨isId, -, isOrganization, isAccount, isMode, isScenario, isView, isSnapshot, -, -, isRef,
    isChainHash, isState, isValue, -, isUnit, isCurrency, -, -, -, -, -, -, isPublication, -,
    isStated, -⟩ := values
  simp only [csvColumns, memberOf, isId, isOrganization, isAccount, isMode, isScenario, isView,
    isSnapshot, isRef, isChainHash, isState, isValue, isUnit, isCurrency, isPublication, isStated]
  rfl

theorem csvCells_hashedRecord (recordId : String) :
    csvCells smallInterpreter (hashedRecord recordId).value =
      .ok (emptyCells recordId (emptyHash recordId) ++ [(hashedRecord recordId).value.render]) := by
  have projected : csvProjection (hashedRecord recordId).value =
      .ok ((csvFields.take 16).zip (emptyCells recordId (emptyHash recordId))) := by
    rw [csvProjection, csvColumns_hashedRecord]
    rfl
  have cells : ((csvFields.take 16).zip (emptyCells recordId (emptyHash recordId))).map Prod.snd =
      emptyCells recordId (emptyHash recordId) :=
    List.map_snd_zip (le_of_eq (show 16 = (csvFields.take 16).length by decide))
  rw [← cells]
  exact csvCells_eq_ok.mpr ⟨_, projected, checkEncodable_hashedRecord recordId, rfl⟩

/-! ### The size of the export -/

/-- A string grows to six times its length and the quote at most. -/
theorem length_renderString_le (text : PyStr) :
    (PyJson.renderString text).length ≤ 6 * text.length + 1 := by
  induction text with
  | nil => exact le_rfl
  | cons point text inductionHypothesis =>
      have short : (PyJson.escapePoint point).length ≤ 6 := by
        cases point with
        | surrogate =>
            exact show 1 ≤ 6 by decide
        | scalar c =>
            rw [PyJson.escapePoint, PyStr.ofChars, List.length_map, Json.escapeChar]
            split_ifs
            all_goals simp only [List.length_cons, List.length_nil]
            all_goals omega
      rw [PyJson.renderString, List.length_append, List.length_cons]
      omega

/-- The length of a member in the text of a mapping. -/
def memberLength (field : PyStr × PyJson) : Nat :=
  (PyJson.renderString field.1).length + field.2.render.length + 3

theorem length_render_obj_le (fields : PyObject) :
    (PyJson.render (.obj fields)).length ≤ (fields.map memberLength).sum + 2 := by
  have rest : ∀ fields : PyObject,
      (PyJson.renderFields fields).length ≤ (fields.map memberLength).sum + 1 := by
    intro fields
    induction fields with
    | nil => exact le_rfl
    | cons field fields inductionHypothesis =>
        simp only [PyJson.renderFields, List.length_cons, List.length_append, List.map_cons,
          List.sum_cons, memberLength] at inductionHypothesis ⊢
        omega
  cases fields with
  | nil => exact le_rfl
  | cons field fields =>
      have := rest fields
      simp only [PyJson.render, List.length_cons, List.length_append, List.map_cons,
        List.sum_cons, memberLength]
      omega

/-- The length of a member that is a text. -/
theorem memberLength_ofText_le (key text : String) :
    memberLength (PyStr.ofString key, .ofText text) ≤
      6 * key.toList.length + 6 * text.toList.length + 6 := by
  have lengths : ∀ text : String, (PyStr.ofString text).length = text.toList.length :=
    fun text => List.length_map _
  have ofKey := length_renderString_le (PyStr.ofString key)
  have ofText := length_renderString_le (PyStr.ofString text)
  rw [lengths] at ofKey ofText
  simp only [memberLength, PyJson.ofText, PyJson.render, List.length_cons]
  omega

theorem length_emptyHash (recordId : String) : (emptyHash recordId).toList.length = 64 := by
  have isHex := (canonicalHash_emptyMembers recordId "").2
  rw [PyText.isHexDigest, Bool.and_eq_true] at isHex
  simpa using isHex.1

theorem length_render_hashedRecord_le (recordId : String) :
    (hashedRecord recordId).value.render.length ≤ 6 * recordId.toList.length + 3000 := by
  have perm : ((membersOf (emptyMembers recordId (emptyHash recordId))).map memberLength).sum =
      ((emptyMembers recordId (emptyHash recordId)).map fun member =>
        memberLength (PyStr.ofString member.1, member.2)).sum := by
    rw [membersOf, PyJson.sortFields]
    refine ((List.perm_insertionSort _ _).map memberLength).sum_eq.trans ?_
    rw [List.map_map]
    rfl
  have parts : ((emptyMembers recordId (emptyHash recordId)).map fun member =>
        memberLength (PyStr.ofString member.1, member.2)).sum =
      memberLength (PyStr.ofString "report_record_id", .ofText recordId) +
        ((innerMembers.map fun member => memberLength (PyStr.ofString member.1, member.2)).sum +
          memberLength (PyStr.ofString "record_hash", .ofText (emptyHash recordId))) := by
    rw [emptyMembers_eq, List.map_cons, List.map_append, List.map_singleton, List.sum_cons,
      List.sum_append, List.sum_singleton]
  have inner : (innerMembers.map fun member =>
      memberLength (PyStr.ofString member.1, member.2)).sum ≤ 2000 := by decide +kernel
  have first := memberLength_ofText_le "report_record_id" recordId
  have last := memberLength_ofText_le "record_hash" (emptyHash recordId)
  have firstKey : "report_record_id".toList.length = 16 := rfl
  have lastKey : "record_hash".toList.length = 11 := rfl
  have whole := length_render_obj_le (membersOf (emptyMembers recordId (emptyHash recordId)))
  rw [length_emptyHash] at last
  rw [perm, parts] at whole
  rw [value_hashedRecord, mapping]
  omega

/-! ### Exports -/

theorem guardText_spec (text : String) :
    guardText (PyStr.ofString text) ∈ Set.range PyStr.ofChars ∧
      (guardText (PyStr.ofString text)).length ≤ text.toList.length + 1 := by
  rw [guardText]
  split_ifs
  · refine ⟨⟨"'".toList ++ text.toList, List.map_append⟩, ?_⟩
    rw [List.length_append, PyStr.ofString, PyStr.ofString, PyStr.ofChars, PyStr.ofChars,
      List.length_map, List.length_map]
    exact (Nat.add_comm _ _).le
  · refine ⟨⟨text.toList, rfl⟩, ?_⟩
    rw [PyStr.ofString, PyStr.ofChars, List.length_map]
    exact Nat.le_succ _

/-- The row of the record and a bound on its length. -/
theorem exists_row_hashedRecord (recordId : String) :
    ∃ row : List (List Char), csvCells smallInterpreter (hashedRecord recordId).value =
        .ok (row.map PyStr.ofChars) ∧
      (row.map fun field => 2 * field.length + 3).sum ≤ 14 * recordId.toList.length + 7000 := by
  have cells := csvCells_hashedRecord recordId
  obtain ⟨plainId, idLength⟩ := guardText_spec recordId
  obtain ⟨plainHash, hashLength⟩ := guardText_spec (emptyHash recordId)
  have jsonLength := length_render_hashedRecord_le recordId
  have plainJson : (hashedRecord recordId).value.render ∈ Set.range PyStr.ofChars := by
    have plain := isPlain_emptyMembers recordId (emptyHash recordId)
    rw [← value_hashedRecord] at plain
    obtain ⟨chars, isChars⟩ := Option.isSome_iff_exists.mp plain
    exact ⟨chars, (PyStr.chars?_eq_some_iff.mp isChars).symm⟩
  have plainInner : ∀ cell ∈ innerCells, cell ∈ Set.range PyStr.ofChars := by
    intro cell listed
    obtain ⟨text, -, rfl⟩ := List.mem_map.mp listed
    exact ⟨text.toList, rfl⟩
  have isRange : emptyCells recordId (emptyHash recordId) ++
      [(hashedRecord recordId).value.render] ∈ Set.range (List.map PyStr.ofChars) := by
    rw [Set.range_list_map]
    change ∀ cell ∈ _, _
    rw [List.forall_mem_append, List.forall_mem_singleton, emptyCells, List.forall_mem_cons,
      List.forall_mem_append, List.forall_mem_singleton]
    exact ⟨⟨plainId, plainInner, plainHash⟩, plainJson⟩
  obtain ⟨row, isRow⟩ := isRange
  refine ⟨row, isRow ▸ cells, ?_⟩
  have lengths : row.map (fun field => 2 * field.length + 3) =
      (row.map PyStr.ofChars).map fun cell => 2 * cell.length + 3 := by
    rw [List.map_map]
    apply List.map_congr_left
    intro field _
    rw [Function.comp_apply, PyStr.ofChars, List.length_map]
  have inner : (innerCells.map fun cell => 2 * cell.length + 3).sum ≤ 200 := by decide
  rw [length_emptyHash] at hashLength
  rw [lengths, isRow, emptyCells]
  simp only [List.map_cons, List.map_append, List.map_nil, List.sum_cons, List.sum_append,
    List.sum_nil, List.cons_append, List.append_assoc]
  omega

/-- The copy of a document that can be encoded is the document. -/
theorem cloneJson_of_checkEncodable
    {document : JsonDocument}
    (encodable : PyJson.checkEncodable interpreter.nesting document.value = .ok ()) :
    cloneJson interpreter document.value = .ok document.value := by
  have dumped := dumps_eq_ok.mpr ⟨encodable, rfl⟩
  rw [cloneJson, canonicalJson_eq_ok.mpr dumped, Checks.ok_bind, Checks.mapError_eq_ok]
  exact PyJson.loads_of_dumps document.canonical document.written dumped

/-- The export of the record fits the limit of bytes. -/
theorem exists_export_hashedRecord
    {recordId : String}
    (nonempty : recordId ≠ "")
    (small : recordId.toList.length ≤ 150000) :
    ∃ payload, exportRecordsCsv smallInterpreter
      ([hashedRecord recordId].map fun record => record.value) = .ok payload := by
  obtain ⟨row, isRow, rowLength⟩ := exists_row_hashedRecord recordId
  have header := CsvWriter.length_rowText_le id (csvFields.map String.toList)
  have headerLength : ((csvFields.map String.toList).map fun field => 2 * field.length + 3).sum ≤
      1000 := by decide
  have written := CsvWriter.length_rowText_le id row
  have valid : validateRecordCollection smallInterpreter [(hashedRecord recordId).value] =
      .ok () := by
    rw [validateRecordCollection, validateRecords, validate_hashedRecord nonempty]
    rfl
  have cloned := cloneJson_of_checkEncodable (checkEncodable_hashedRecord recordId)
  have materialized : materialize smallInterpreter [(hashedRecord recordId).value] =
      .ok [(hashedRecord recordId).value] := by
    simp only [materialize, Checks.bind_eq_ok, Checks.pure_eq_ok, Checks.require_eq_ok]
    refine ⟨_, Checks.mapM_eq_ok.mpr (.cons cloned .nil), (), ?_, (),
      valid, rfl⟩
    exact show 1 ≤ maxExportRecords by decide
  have rows : [(hashedRecord recordId).value].mapM (csvCells smallInterpreter) =
      .ok [row.map PyStr.ofChars] := Checks.mapM_eq_ok.mpr (.cons isRow .nil)
  have plain : PyStr.encode? (csvText [row.map PyStr.ofChars]) =
      some ((CsvWriter.rowText id (csvFields.map String.toList) ++
        CsvWriter.rowText id row).flatMap String.utf8EncodeChar) := by
    have text := csvText_map [row]
    rw [List.map_singleton, List.flatMap_singleton] at text
    rw [text, PyStr.encode?, PyStr.chars?_ofChars]
    rfl
  have bytes : ∀ chars : List Char,
      (chars.flatMap String.utf8EncodeChar).length ≤ 4 * chars.length := by
    intro chars
    induction chars with
    | nil => exact le_rfl
    | cons c chars inductionHypothesis =>
        have := c.utf8Size_le_four
        rw [List.flatMap_cons, List.length_append, String.length_utf8EncodeChar, List.length_cons]
        omega
  have payload := bytes (CsvWriter.rowText id (csvFields.map String.toList) ++
    CsvWriter.rowText id row)
  rw [List.length_append] at payload
  have fits : ((CsvWriter.rowText id (csvFields.map String.toList) ++
      CsvWriter.rowText id row).flatMap String.utf8EncodeChar).length ≤ maxExportBytes := by
    rw [maxExportBytes]
    omega
  rw [List.map_singleton]
  simp only [exportRecordsCsv, Checks.bind_eq_ok, Checks.pure_eq_ok, encode,
    Checks.requireSome_eq_ok, checkSize, Checks.require_eq_ok]
  exact ⟨_, _, materialized, _, rows, _, plain, (), fits, rfl⟩

/-! ### Short and long records -/

/-- An identifier with a quote and the ends of a line. -/
def quotedId : String := "=\"\r\n"

/-- An identifier of a number of letters. -/
def letters (count : Nat) : String := String.ofList (List.replicate count 'r')

theorem length_letters (count : Nat) : (letters count).toList.length = count := by
  rw [letters, String.toList_ofList, List.length_replicate]

/-- A record whose identifier alone is longer than a field of the reader may be. -/
def longRecord : JsonDocument := hashedRecord (letters (CsvParser.fieldLimit + 1))

/-- The text of a record is longer than its identifier. -/
theorem length_lt_render_hashedRecord (recordId : String) :
    recordId.toList.length < (hashedRecord recordId).value.render.length := by
  have listed : (PyStr.ofString "report_record_id", PyJson.ofText recordId) ∈
      membersOf (emptyMembers recordId (emptyHash recordId)) :=
    mem_membersOf.mpr ⟨_, List.mem_cons_self, rfl⟩
  have inside := length_render_lt listed
  have letters := length_lt_renderString (PyStr.ofString recordId)
  rw [PyStr.ofString, PyStr.ofChars, List.length_map] at letters
  rw [value_hashedRecord, mapping]
  refine lt_trans ?_ inside
  exact letters.trans (Nat.lt_succ_self _)

/-- The round trip of a record with an identifier that is quoted. -/
theorem importRecordsCsv_iff_quoted :
    ∃ payload, exportRecordsCsv smallInterpreter
        ([hashedRecord quotedId].map fun record => record.value) = .ok payload ∧
      (importRecordsCsv smallInterpreter payload =
          .ok ([hashedRecord quotedId].map fun record => record.value) ↔
        ∀ record ∈ [hashedRecord quotedId], record.value.render.length ≤ CsvParser.fieldLimit) := by
  obtain ⟨payload, exported⟩ := @exists_export_hashedRecord quotedId (by decide) (by decide)
  exact ⟨payload, exported, importRecordsCsv_iff exported⟩

/-- The long record is exported and not imported. -/
theorem importRecordsCsv_ne_long :
    ∃ payload, exportRecordsCsv smallInterpreter
        ([longRecord].map fun record => record.value) = .ok payload ∧
      importRecordsCsv smallInterpreter payload ≠
        .ok ([longRecord].map fun record => record.value) := by
  have count := length_letters (CsvParser.fieldLimit + 1)
  have nonempty : letters (CsvParser.fieldLimit + 1) ≠ "" := by
    intro isEmpty
    rw [isEmpty] at count
    cases count
  have small : CsvParser.fieldLimit + 1 ≤ 150000 := by
    rw [CsvParser.fieldLimit]
    omega
  obtain ⟨payload, exported⟩ := exists_export_hashedRecord nonempty (count.le.trans small)
  refine ⟨payload, exported, fun imported => ?_⟩
  have fits := (importRecordsCsv_iff exported).mp imported _ List.mem_cons_self
  have longer := length_lt_render_hashedRecord (letters (CsvParser.fieldLimit + 1))
  rw [count] at longer
  omega

end Reporting
end QuantumAnalytics
