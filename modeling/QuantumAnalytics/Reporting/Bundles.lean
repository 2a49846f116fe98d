import QuantumAnalytics.Foundations.JsonRoundTrip
import QuantumAnalytics.Reporting.Exports

/-!
# Bundles

A bundle that the validator accepts belongs to one organization, mode and
scenario, and its records are valid, distinct and match their digests. A bundle
that was built is exported unless it is too long, and read back as it was.
-/

namespace QuantumAnalytics
namespace Reporting

variable {interpreter : Interpreter}

/-! ### Documents survive a copy -/

theorem canonicalJson_eq_ok
    {value : PyJson}
    {text : PyStr} :
    canonicalJson interpreter value = .ok text ↔ value.dumps interpreter = .ok text := by
  rw [canonicalJson, Checks.mapError_eq_ok]

/-- A document has a canonical text when it can be encoded as JSON. -/
theorem dumps_eq_ok
    {value : PyJson}
    {text : PyStr} :
    value.dumps interpreter = .ok text ↔
      PyJson.checkEncodable interpreter.nesting value = .ok () ∧ value.render = text := by
  rw [PyJson.dumps, Checks.bind_done_eq_ok, Checks.pure_eq_ok]

/-- The copy of a document is the document. -/
theorem eq_of_cloneJson
    {document : JsonDocument}
    {copy : PyJson}
    (cloned : cloneJson interpreter document.value = .ok copy) : copy = document.value := by
  simp only [cloneJson, Checks.bind_eq_ok, Checks.mapError_eq_ok, canonicalJson_eq_ok] at cloned
  obtain ⟨text, dumped, loaded⟩ := cloned
  rw [PyJson.loads_of_dumps document.canonical document.written dumped] at loaded
  exact (Except.ok.inj loaded).symm

/-- The copies of documents are the documents. -/
theorem eq_of_mapM_cloneJson
    {records : List JsonDocument}
    {copies : List PyJson}
    (cloned : (records.map fun record => record.value).mapM (cloneJson interpreter) = .ok copies) :
    copies = records.map fun record => record.value := by
  have each := Checks.mapM_eq_ok.mp cloned
  clear cloned
  induction records generalizing copies with
  | nil => exact List.forall₂_nil_left_iff.mp each
  | cons record records inductionHypothesis =>
      obtain ⟨copy, rest, first, later, rfl⟩ := List.forall₂_cons_left_iff.mp each
      rw [eq_of_cloneJson first, inductionHypothesis later, List.map_cons]

/-! ### Accepted bundles -/

/-- Only `None` equals `None`. -/
theorem pyEq_null_iff {value : PyJson} : PyJson.pyEq value .null = true ↔ value = .null := by
  cases value <;> simp [PyJson.pyEq, PyJson.pyEqScalar, PyJson.numeric?]

/-- The mode and the scenario of a mapping: actual data has no scenario. -/
theorem checkMode_spec
    {fields : PyObject}
    {modeCode scenarioCode : ReportingErrorCode}
    (checked : checkMode fields modeCode scenarioCode = .ok ()) :
    (∃ mode, PyJson.get fields "mode" = .str mode) ∧
      ((∃ scenario, PyJson.get fields "scenario_id" = .str scenario) ∨
        PyJson.get fields "scenario_id" = .null) := by
  simp only [checkMode, ↓Checks.bind_done_eq_ok, Checks.require_eq_ok] at checked
  obtain ⟨mode, actual, scenario⟩ := checked
  obtain ⟨text, listed, isMode⟩ := PyJson.exists_text_of_isAllowedString mode
  refine ⟨⟨_, isMode⟩, ?_⟩
  simp only [List.mem_cons, List.not_mem_nil, or_false] at listed
  rcases listed with rfl | rfl
  · right
    have none := actual (PyJson.isText_iff.mpr isMode)
    cases member : PyJson.get fields "scenario_id" <;> simp_all [PyJson.isNone]
  · left
    obtain ⟨text, isText, -⟩ :=
      PyJson.exists_str_of_isNonemptyString (scenario (PyJson.isText_iff.mpr isMode))
    exact ⟨text, isText⟩

/-- A record whose digest is that of its content. -/
def HashMatches (interpreter : Interpreter) (key : String) (document : PyJson) : Prop :=
  ∃ fields digest, document = .obj fields ∧
    canonicalHash interpreter fields key = .ok digest ∧
    PyJson.get fields key = .ofText digest

/-- What an accepted bundle promises: valid and distinct records of one
organization, mode and scenario, and digests of what they are digests of. -/
structure BundleSound (interpreter : Interpreter) (bundle : PyJson) : Prop where
  hash : HashMatches interpreter "bundle_hash" bundle
  records : ∃ records, memberOf "records" bundle = .arr records ∧ records ≠ [] ∧
    memberOf "record_count" bundle = .int records.length ∧
    (∀ record ∈ records, validateReportRecord interpreter record = .ok () ∧
      HashMatches interpreter "record_hash" record ∧
      memberOf "organization_id" record = memberOf "organization_id" bundle ∧
      memberOf "mode" record = memberOf "mode" bundle ∧
      memberOf "scenario_id" record = memberOf "scenario_id" bundle) ∧
    (records.map (memberOf "report_record_id")).Nodup

theorem checkMapping_eq_ok
    {value : PyJson}
    {keys : List String}
    {code : ReportingErrorCode}
    {fields : PyObject} :
    checkMapping value keys code = .ok fields ↔
      value = .obj fields ∧ PyJson.hasKeys fields keys = true := by
  cases value with
  | obj members =>
      simp only [checkMapping, ↓Checks.bind_done_eq_ok, Checks.require_eq_ok, Checks.pure_eq_ok,
        PyJson.obj.injEq]
      constructor
      · rintro ⟨hasKeys, rfl⟩
        exact ⟨rfl, hasKeys⟩
      · rintro ⟨rfl, hasKeys⟩
        exact ⟨hasKeys, rfl⟩
  | _ => simp [checkMapping]

/-- A valid record is a mapping whose id is a text and whose digest is right. -/
theorem validateReportRecord_spec
    {record : PyJson}
    (valid : validateReportRecord interpreter record = .ok ()) :
    (∃ recordId, memberOf "report_record_id" record = .str recordId) ∧
      HashMatches interpreter "record_hash" record := by
  simp only [validateReportRecord, ↓Checks.bind_done_eq_ok, Checks.bind_eq_ok, checkMapping_eq_ok,
    checkHash, Checks.require_eq_ok, checkIdentity, List.all_cons, Bool.and_eq_true] at valid
  obtain ⟨fields, ⟨rfl, -⟩, ⟨-, ⟨recordId, -⟩, -⟩, -, -, -, -, -, -, -, -, -, boundary, -, -, -, -,
    -, digest, isDigest, same⟩ := valid
  obtain ⟨text, isText, -⟩ := PyJson.exists_str_of_isNonemptyString recordId
  exact ⟨⟨text, isText⟩, fields, digest, rfl, isDigest, PyJson.isText_iff.mp same⟩

/-- An accepted collection holds valid records with distinct ids, which were
not seen before. -/
theorem validateRecords_spec
    {seen records : List PyJson}
    (valid : validateRecords interpreter seen records = .ok ()) :
    (∀ record ∈ records, validateReportRecord interpreter record = .ok ()) ∧
      (records.map (memberOf "report_record_id")).Nodup ∧
      ∀ record ∈ records, memberOf "report_record_id" record ∉ seen := by
  induction records generalizing seen with
  | nil => simp
  | cons record records inductionHypothesis =>
      simp only [validateRecords, ↓Checks.bind_done_eq_ok, Checks.require_eq_ok] at valid
      obtain ⟨validRecord, unseen, validRest⟩ := valid
      obtain ⟨each, distinct, unseenRest⟩ := inductionHypothesis validRest
      obtain ⟨⟨recordId, isId⟩, -⟩ := validateReportRecord_spec validRecord
      have notSeen : memberOf "report_record_id" record ∉ seen := by
        intro present
        rw [isId] at present unseen
        exact absurd unseen (by
          rw [Bool.not_eq_false, List.any_eq_true]
          exact ⟨_, present, PyJson.pyEq_str_iff.mpr rfl⟩)
      refine ⟨List.forall_mem_cons.mpr ⟨validRecord, each⟩, ?_, ?_⟩
      · rw [List.map_cons, List.nodup_cons]
        refine ⟨fun present => ?_, distinct⟩
        obtain ⟨other, listed, same⟩ := List.mem_map.mp present
        exact unseenRest other listed (same ▸ List.mem_cons_self)
      · refine List.forall_mem_cons.mpr ⟨notSeen, fun other listed present => ?_⟩
        exact unseenRest other listed (List.mem_cons_of_mem _ present)

theorem bundleHash_eq_ok
    {bundle : PyObject}
    {digest : String} :
    bundleHash interpreter bundle = .ok digest ↔
      canonicalHash interpreter bundle "bundle_hash" = .ok digest := by
  unfold bundleHash
  split <;> simp_all

/-- The records of an accepted bundle and their number. -/
theorem bundleRecords_spec
    {bundle : PyObject}
    {records : List PyJson}
    (read : bundleRecords bundle = .ok records) :
    PyJson.get bundle "records" = .arr records ∧ records ≠ [] ∧
      PyJson.get bundle "record_count" = .int records.length := by
  unfold bundleRecords at read
  split at read
  next items isItems =>
    simp only [↓Checks.bind_done_eq_ok, Checks.require_eq_ok, Checks.pure_eq_ok] at read
    obtain ⟨nonempty, -, count, rfl⟩ := read
    obtain ⟨n, isCount, same⟩ := PyJson.exists_int_of_isIntWith count
    refine ⟨isItems, nonempty, ?_⟩
    rw [isCount, of_decide_eq_true same]
  next => simp at read

/-- Every accepted bundle is sound. -/
theorem bundleSound_of_validate
    {bundle : PyJson}
    (valid : validateExportBundle interpreter bundle = .ok ()) :
    BundleSound interpreter bundle := by
  simp only [validateExportBundle, ↓Checks.bind_done_eq_ok, Checks.bind_eq_ok,
    checkMapping_eq_ok, Checks.require_eq_ok, checkBundleHeader, Checks.forM_eq_ok,
    checkOwner] at valid
  obtain ⟨fields, ⟨rfl, -⟩, ⟨-, -, organization, -, mode⟩, records, isRecords, digest, isDigest,
    ⟨-, same⟩, collection, owners⟩ := valid
  obtain ⟨isList, nonempty, count⟩ := bundleRecords_spec isRecords
  obtain ⟨owner, isOwner, -⟩ := PyJson.exists_str_of_isNonemptyString organization
  obtain ⟨⟨modeText, isMode⟩, scenario⟩ := checkMode_spec mode
  obtain ⟨each, distinct, -⟩ := validateRecords_spec collection
  refine ⟨⟨fields, digest, rfl, bundleHash_eq_ok.mp isDigest, PyJson.isText_iff.mp same⟩,
    records, isList, nonempty, count, fun record listed => ?_, distinct⟩
  obtain ⟨-, sameOwner, sameMode, sameScenario⟩ := owners record listed
  refine ⟨each record listed, (validateReportRecord_spec (each record listed)).2, ?_, ?_, ?_⟩
  · rw [memberOf, isOwner] at *
    exact PyJson.pyEq_str_iff.mp (isOwner ▸ sameOwner)
  · rw [isMode] at sameMode
    exact (PyJson.pyEq_str_iff.mp sameMode).trans isMode.symm
  · rcases scenario with ⟨text, isText⟩ | isNone
    · rw [isText] at sameScenario
      exact (PyJson.pyEq_str_iff.mp sameScenario).trans isText.symm
    · rw [isNone] at sameScenario
      exact (pyEq_null_iff.mp sameScenario).trans isNone.symm

/-! ### Bundles that were built -/

/-- The value of a member of a built bundle: a value that was given, a number, a
text or the records. -/
theorem mem_membersOf
    {members : List (String × PyJson)}
    {field : PyStr × PyJson} :
    field ∈ membersOf members ↔ ∃ member ∈ members, (PyStr.ofString member.1, member.2) = field := by
  rw [membersOf, PyJson.mem_sortFields, List.mem_map]

/-- A built mapping is canonical and written when its values are. -/
theorem canonical_membersOf
    {members : List (String × PyJson)}
    (distinct : (members.map Prod.fst).Nodup)
    (values : ∀ member ∈ members, member.2.Canonical ∧ JsonDecoder.Written member.2) :
    PyJson.Canonical (.obj (membersOf members)) ∧
      JsonDecoder.Written (.obj (membersOf members)) := by
  constructor
  · apply PyJson.canonical_sortFields
    · rw [List.map_map]
      have keys := distinct.map PyStr.ofString_injective
      rwa [List.map_map] at keys
    · rintro field listed
      obtain ⟨member, given, rfl⟩ := List.mem_map.mp listed
      exact (values member given).1
  · apply JsonDecoder.WrittenFields.of_forall
    rintro field listed
    obtain ⟨member, given, rfl⟩ := mem_membersOf.mp listed
    exact (values member given).2

/-- A mapping with a digest has a canonical text that can be encoded. -/
theorem exists_payload
    {fields : PyObject}
    {key digest : String}
    (text : String)
    (isDigest : canonicalHash interpreter fields key = .ok digest)
    (stated : ∀ field ∈ fields, field.1 = PyStr.ofString key → field.2 = .ofText text) :
    ∃ payload, canonicalJson interpreter (.obj fields) >>= encode = .ok payload := by
  simp only [canonicalHash, Checks.bind_eq_ok, canonicalJson_eq_ok, dumps_eq_ok, encode,
    Checks.requireSome_eq_ok] at isDigest
  obtain ⟨-, ⟨encodable, rfl⟩, payload, encoded, -⟩ := isDigest
  have plain := PyStr.exists_encode?_iff.mp ⟨payload, encoded⟩
  have roomy := interpreter.roomy
  obtain ⟨room, isRoom⟩ : ∃ room, interpreter.nesting = room + 1 := ⟨interpreter.nesting - 1, by omega⟩
  rw [isRoom, PyJson.checkEncodable, PyJson.checkFields_eq_ok] at encodable
  rw [PyJson.isPlain_render_obj, List.all_eq_true] at plain
  -- The member that was left out is a text without surrogates.
  have each : ∀ field ∈ fields, PyJson.checkEncodable room field.2 = .ok () ∧
      (PyStr.isPlain (PyJson.renderString field.1) && PyStr.isPlain field.2.render) = true := by
    intro field listed
    by_cases isKey : field.1 = PyStr.ofString key
    · rw [stated field listed isKey, isKey]
      refine ⟨by cases room <;> rfl, ?_⟩
      rw [Bool.and_eq_true, PyJson.ofText, PyJson.render, PyStr.isPlain_scalar_cons]
      exact ⟨PyJson.isPlain_renderString_ofChars _, PyJson.isPlain_renderString_ofChars _⟩
    · have kept : field ∈ PyJson.without fields key :=
        List.mem_filter.mpr ⟨listed, by simpa using isKey⟩
      exact ⟨encodable field kept, plain field kept⟩
  have whole : PyJson.checkEncodable interpreter.nesting (.obj fields) = .ok () := by
    rw [isRoom, PyJson.checkEncodable, PyJson.checkFields_eq_ok]
    exact fun field listed => (each field listed).1
  have wholePlain : PyStr.isPlain (PyJson.render (.obj fields)) = true := by
    rw [PyJson.isPlain_render_obj, List.all_eq_true]
    exact fun field listed => (each field listed).2
  obtain ⟨payload, encoded⟩ := PyStr.exists_encode?_iff.mpr wholePlain
  refine ⟨payload, Checks.bind_eq_ok.mpr ⟨_, canonicalJson_eq_ok.mpr
    (dumps_eq_ok.mpr ⟨whole, rfl⟩), ?_⟩⟩
  rw [encode, encoded]
  rfl

/-- A member of a document is a document. -/
theorem memberOf_document
    (key : String)
    {value : PyJson}
    (canonical : value.Canonical)
    (written : JsonDecoder.Written value) :
    (memberOf key value).Canonical ∧ JsonDecoder.Written (memberOf key value) := by
  cases value with
  | obj fields =>
      refine ⟨canonical.get key, ?_⟩
      rw [memberOf, PyJson.get]
      cases found : fields.find? fun field => field.1 = PyStr.ofString key with
      | none => trivial
      | some field =>
          exact JsonDecoder.WrittenFields.of_mem written field (List.mem_of_find?_eq_some found)
  | _ => exact ⟨trivial, trivial⟩

/-- A time of generation is written as a text. -/
theorem GeneratedAt.read_spec
    {generatedAt : GeneratedAt}
    {time : PyJson}
    (read : generatedAt.read = .ok time) : ∃ text, time = .str text := by
  cases generatedAt with
  | datetime moment =>
      simp only [GeneratedAt.read, ↓Checks.bind_done_eq_ok, Checks.pure_eq_ok] at read
      exact ⟨_, read.2.symm⟩
  | text value =>
      simp only [GeneratedAt.read, ↓Checks.bind_done_eq_ok, Checks.pure_eq_ok] at read
      exact ⟨_, read.2.symm⟩

/-- A bundle that was built is a document that the validator accepts and whose
text can be encoded. -/
theorem buildExportBundle_spec
    {records : List JsonDocument}
    {bundleId : PyStr}
    {generatedAt : GeneratedAt}
    {bundle : PyJson}
    (built : buildExportBundle interpreter (records.map fun record => record.value)
      (.str bundleId) generatedAt = .ok bundle) :
    bundle.Canonical ∧ JsonDecoder.Written bundle ∧
      validateExportBundle interpreter bundle = .ok () ∧
      ∃ payload, canonicalJson interpreter bundle >>= encode = .ok payload := by
  simp only [buildExportBundle, Checks.bind_eq_ok] at built
  obtain ⟨-, -, copies, cloned, built⟩ := built
  have copied := eq_of_mapM_cloneJson cloned
  cases copies with
  | nil => simp at built
  | cons first rest =>
      simp only [↓Checks.bind_done_eq_ok, Checks.bind_eq_ok, Checks.pure_eq_ok] at built
      obtain ⟨-, -, -, -, time, isTime, digest, -, valid, rfl⟩ := built
      obtain ⟨moment, rfl⟩ := GeneratedAt.read_spec isTime
      have documents : ∀ record ∈ first :: rest, record.Canonical ∧ JsonDecoder.Written record := by
        intro record listed
        rw [copied] at listed
        obtain ⟨document, -, rfl⟩ := List.mem_map.mp listed
        exact ⟨document.canonical, document.written⟩
      obtain ⟨canonicalFirst, writtenFirst⟩ := documents first List.mem_cons_self
      obtain ⟨canonical, written⟩ := canonical_membersOf
        (show ((bundleMembers (.str bundleId) (.str moment) first (first :: rest) digest).map
          Prod.fst).Nodup by simp [bundleMembers]) (by
          intro member listed
          simp only [bundleMembers, List.mem_cons, List.not_mem_nil, or_false] at listed
          rcases listed with rfl | rfl | rfl | rfl | rfl | rfl | rfl | rfl | rfl
          case inr.inr.inl => exact memberOf_document _ canonicalFirst writtenFirst
          case inr.inr.inr.inl => exact memberOf_document _ canonicalFirst writtenFirst
          case inr.inr.inr.inr.inl => exact memberOf_document _ canonicalFirst writtenFirst
          case inr.inr.inr.inr.inr.inr.inr.inl =>
            exact ⟨PyJson.CanonicalItems.of_forall fun record listed => (documents record listed).1,
              JsonDecoder.WrittenItems.of_forall fun record listed => (documents record listed).2⟩
          all_goals exact ⟨trivial, trivial⟩)
      refine ⟨canonical, written, valid, ?_⟩
      obtain ⟨fields, stated, isBundle, isDigest, -⟩ := (bundleSound_of_validate valid).hash
      obtain rfl := PyJson.obj.inj isBundle
      refine exists_payload digest isDigest fun field listed isKey => ?_
      obtain ⟨member, given, rfl⟩ := mem_membersOf.mp listed
      have named : member.1 = "bundle_hash" := PyStr.ofString_injective isKey
      simp only [bundleMembers, List.mem_cons, List.not_mem_nil, or_false] at given
      rcases given with rfl | rfl | rfl | rfl | rfl | rfl | rfl | rfl | rfl
      all_goals first | rfl | exact absurd named (by simp)

/-- Bundles survive an export and an import, and every bundle that the validator
or the importer accepts is sound. -/
theorem bundles_roundTrip_and_sound :
    (∀ (interpreter : Interpreter) (records : List JsonDocument) (bundleId : PyStr)
        (generatedAt : GeneratedAt) (bundle : PyJson),
      buildExportBundle interpreter (records.map fun record => record.value) (.str bundleId)
        generatedAt = .ok bundle →
      exportBundleJson interpreter bundle ≠ .error (.reporting .exportByteLimitExceeded) →
      ∃ payload, exportBundleJson interpreter bundle = .ok payload ∧
        importBundleJson interpreter payload = .ok bundle) ∧
    (∀ (interpreter : Interpreter) (bundle : PyJson),
      validateExportBundle interpreter bundle = .ok () → BundleSound interpreter bundle) ∧
    ∀ (interpreter : Interpreter) (payload : List UInt8) (bundle : PyJson),
      importBundleJson interpreter payload = .ok bundle → BundleSound interpreter bundle := by
  refine ⟨?_, fun _ _ => bundleSound_of_validate, ?_⟩
  · intro interpreter records bundleId generatedAt bundle built withinLimit
    obtain ⟨canonical, written, valid, payload, isPayload⟩ := buildExportBundle_spec built
    obtain ⟨text, isText, encoded⟩ := Checks.bind_eq_ok.mp isPayload
    have exported : exportBundleJson interpreter bundle =
        checkSize payload >>= fun _ => .ok payload := by
      rw [exportBundleJson, valid, Checks.ok_bind, isText, Checks.ok_bind, encoded, Checks.ok_bind]
      rfl
    have sized : checkSize payload = .ok () := by
      by_contra tooLong
      refine withinLimit ?_
      rw [checkSize, Checks.require_eq_ok] at tooLong
      rw [exported, checkSize, check, require, if_neg tooLong]
      rfl
    have decoded : PyStr.decode? payload = some text := by
      apply PyStr.decode?_of_encode?
      rwa [encode, Checks.requireSome_eq_ok] at encoded
    have loaded : loadsImported interpreter text = .ok bundle := by
      rw [loadsImported, Checks.mapError_eq_ok]
      exact PyJson.loads_of_dumps canonical written (canonicalJson_eq_ok.mp isText)
    refine ⟨payload, by rw [exported, sized]; rfl, ?_⟩
    rw [importBundleJson, sized, Checks.ok_bind, decoded]
    simp only [requireSome, Checks.ok_bind]
    rw [loaded, Checks.ok_bind, valid]
    rfl
  · intro interpreter payload bundle imported
    simp only [importBundleJson, ↓Checks.bind_done_eq_ok, Checks.bind_eq_ok,
      Checks.pure_eq_ok] at imported
    obtain ⟨-, -, text, -, loaded, -, valid, rfl⟩ := imported
    exact bundleSound_of_validate valid

end Reporting
end QuantumAnalytics
