import QuantumAnalytics.Evidence.Reading
import QuantumAnalytics.Reporting.Building
import QuantumAnalytics.Reporting.Pages

/-!
# Records that are built

Every requirement of the validator of records is one of the verifier of
snapshots, so a record of a verified snapshot is never refused at the end.
-/

namespace QuantumAnalytics
namespace Reporting

open Evidence (verifyMetricSnapshot verifyEvidenceChain isStringSet string? itemsOf noteUnless)
open PyJson (setMember)

variable {interpreter : Interpreter} {snapshot : PyObject}

/-! ### Lists of strings -/

/-- A list of distinct strings with a property. -/
def IsStringList (isAllowed : PyJson → Bool) (items : List PyJson) : Prop :=
  items.Nodup ∧ ∀ item ∈ items, isAllowed item = true ∧ ∃ text, item = .str text

theorem isDistinct_of_isStringList
    {isAllowed : PyJson → Bool}
    {items : List PyJson}
    (list : IsStringList isAllowed items) : isDistinct items = true := by
  obtain ⟨distinct, strings⟩ := list
  induction items with
  | nil => rfl
  | cons item items inductionHypothesis =>
      obtain ⟨⟨-, text, rfl⟩, rest⟩ := List.forall_mem_cons.mp strings
      obtain ⟨fresh, distinct⟩ := List.nodup_cons.mp distinct
      rw [isDistinct, inductionHypothesis distinct rest, Bool.and_true, List.all_eq_true]
      intro other listed
      obtain ⟨-, otherText, rfl⟩ := rest other listed
      have different : text ≠ otherText := by
        rintro rfl
        exact fresh listed
      simp [PyJson.sameNan, PyJson.pyEq, different]

theorem checkDistinct_of_isStringList
    {isAllowed : PyJson → Bool}
    {items : List PyJson}
    (list : IsStringList isAllowed items)
    (code : ReportingErrorCode) : checkDistinct (.arr items) isAllowed code = .ok items := by
  simp only [checkDistinct, ↓Checks.bind_done_eq_ok, Checks.require_eq_ok, Checks.pure_eq_ok,
    and_true]
  refine ⟨List.all_eq_true.mpr ?_, isDistinct_of_isStringList list, List.all_eq_true.mpr ?_⟩
  · intro item listed
    obtain ⟨-, text, rfl⟩ := list.2 item listed
    rfl
  · exact fun item listed => (list.2 item listed).1

/-- The list of a set of strings. -/
theorem exists_stringList
    {isAllowed : PyJson → Bool}
    {value : PyJson}
    (strings : ∀ item, isAllowed item = true → ∃ text, item = .str text)
    (isSet : isStringSet isAllowed value = true) :
    ∃ items, value = .arr items ∧ IsStringList isAllowed items := by
  cases value with
  | arr items =>
      rw [isStringSet, Bool.and_eq_true, List.all_eq_true, decide_eq_true_eq] at isSet
      obtain ⟨allowed, sameLength⟩ := isSet
      have texts : (items.filterMap string?).map PyJson.str = items := by
        clear sameLength
        induction items with
        | nil => rfl
        | cons item items inductionHypothesis =>
            obtain ⟨isAllowed, rest⟩ := List.forall_mem_cons.mp allowed
            obtain ⟨text, rfl⟩ := strings item isAllowed
            rw [List.filterMap_cons, string?, List.map_cons, inductionHypothesis rest]
      have distinct : (items.filterMap string?).Nodup := by
        rw [← List.dedup_eq_self]
        apply (List.dedup_sublist _).eq_of_length
        rw [sameLength, ← List.length_map PyJson.str, texts]
      have distinctItems := distinct.map fun _ _ same => PyJson.str.inj same
      rw [texts] at distinctItems
      exact ⟨items, rfl, distinctItems, fun item listed =>
        ⟨allowed item listed, strings item (allowed item listed)⟩⟩
  | _ => cases isSet

theorem exists_str_of_isAllowedString
    {allowed : List String}
    (item : PyJson)
    (isAllowed : item.isAllowedString allowed = true) : ∃ text, item = .str text := by
  obtain ⟨text, -, rfl⟩ := PyJson.exists_text_of_isAllowedString isAllowed
  exact ⟨_, rfl⟩

theorem exists_str_of_isNonemptyString
    (item : PyJson)
    (nonempty : item.isNonemptyString = true) : ∃ text, item = .str text := by
  obtain ⟨text, rfl, -⟩ := PyJson.exists_str_of_isNonemptyString nonempty
  exact ⟨text, rfl⟩

theorem checkMember_of_isAllowedString
    {value : PyJson}
    {allowed : List String}
    (isAllowed : value.isAllowedString allowed = true)
    (code : ReportingErrorCode) : checkMember value allowed code = .ok () := by
  obtain ⟨text, rfl⟩ := exists_str_of_isAllowedString value isAllowed
  rw [checkMember, Checks.bind_done_eq_ok, Checks.require_eq_ok, Checks.require_eq_ok]
  exact ⟨rfl, isAllowed⟩

/-! ### Verified snapshots -/

/-- What a verified snapshot offers to a record, as the validator of records asks
for it. -/
structure IsSource (interpreter : Interpreter) (snapshot : PyObject) : Prop where
  metricSnapshotId : (PyJson.get snapshot "metric_snapshot_id").isNonemptyString = true
  organizationId : (PyJson.get snapshot "organization_id").isNonemptyString = true
  snapshotRevision : (PyJson.get snapshot "snapshot_revision").isPositiveInt = true
  contentHash : (PyJson.get snapshot "content_hash").isHash = true
  mode : checkMode snapshot .reportModeInvalid .reportModeContamination = .ok ()
  account : isNoneOr PyJson.isNonemptyString (PyJson.get snapshot "marketplace_account_id") = true
  view : (PyJson.get snapshot "accounting_view").isAllowedString accountingViews = true
  state : (PyJson.get snapshot "state").isAllowedString states = true
  evidenceRef : checkEvidenceRef snapshot = .ok ()
  value : checkValue snapshot = .ok ()
  boundary : ∃ items, PyJson.get snapshot "expense_boundary" = .arr items ∧
    IsStringList (PyJson.isAllowedString · expenseBoundaries) items
  rounding : validateRounding (PyJson.get snapshot "rounding") = .ok ()
  freshness : (PyJson.get snapshot "data_freshness_state").isAllowedString freshnessStates = true
  observedAt : (PyJson.get snapshot "freshness_observed_at").isDatetime = true
  deadline : isNoneOr PyJson.isDatetime (PyJson.get snapshot "freshness_deadline") = true
  confidence : (PyJson.get snapshot "confidence_state").isAllowedString confidenceStates = true
  reasons : ∃ items, PyJson.get snapshot "confidence_reasons" = .arr items ∧
    IsStringList PyJson.isNonemptyString items
  limitations : ∃ items, PyJson.get snapshot "limitations" = .arr items ∧
    IsStringList PyJson.isNonemptyString items
  digest : ∃ digest, canonicalHash interpreter snapshot "content_hash" = .ok digest

theorem checkMode_of_isMode
    (isMode : Evidence.isMode snapshot = true)
    (modeCode scenarioCode : ReportingErrorCode) :
    checkMode snapshot modeCode scenarioCode = .ok () := by
  simp only [Evidence.isMode] at isMode
  simp only [checkMode, Checks.bind_done_eq_ok, Checks.require_eq_ok]
  split at isMode
  next isActual =>
    have modeEq := PyJson.isText_iff.mp isActual
    rw [modeEq]
    exact ⟨by decide, fun _ => isMode, fun isScenario => absurd isScenario (by decide)⟩
  next =>
    obtain ⟨isScenario, named⟩ := Bool.and_eq_true_iff.mp isMode
    have modeEq := PyJson.isText_iff.mp isScenario
    rw [modeEq]
    exact ⟨by decide, fun isActual => absurd isActual (by decide), fun _ => named⟩

theorem checkEvidenceRef_of_isChainLocator
    (isLocator : Evidence.isChainLocator (PyJson.get snapshot "evidence_chain_ref") = true) :
    checkEvidenceRef snapshot = .ok () := by
  simp only [checkEvidenceRef, Checks.bind_eq_ok, checkMapping_eq_ok, Checks.require_eq_ok]
  cases isRef : PyJson.get snapshot "evidence_chain_ref" with
  | obj ref =>
      rw [isRef, Evidence.isChainLocator, Bool.and_eq_true, Bool.and_eq_true] at isLocator
      exact ⟨ref, ⟨rfl, isLocator.1.1⟩, isLocator.1.2, isLocator.2⟩
  | _ =>
      rw [isRef] at isLocator
      cases isLocator

theorem validateRounding_of_isRounding
    {value : PyJson}
    (isRounding : Evidence.isRounding value = true)
    (named : Evidence.hasRoundingNames value = true) : validateRounding value = .ok () := by
  cases value with
  | obj rounding =>
      simp only [Evidence.isRounding, Bool.and_eq_true] at isRounding
      simp only [Evidence.hasRoundingNames, Bool.and_eq_true] at named
      obtain ⟨⟨hasKeys, isRef⟩, scale⟩ := isRounding
      simp only [validateRounding, ↓Checks.bind_done_eq_ok, Checks.bind_eq_ok, checkMapping_eq_ok,
        Checks.require_eq_ok]
      refine ⟨rounding, ⟨rfl, hasKeys⟩, ?_, checkMember_of_isAllowedString named.1 _,
        checkMember_of_isAllowedString named.2 _, scale⟩
      simp only [validateVersionedRef, Checks.bind_eq_ok, checkMapping_eq_ok, Checks.require_eq_ok]
      cases isPolicy : PyJson.get rounding "policy_ref" with
      | obj ref =>
          simp only [isPolicy, Evidence.validRef, Bool.and_eq_true] at isRef
          exact ⟨ref, ⟨rfl, isRef.1.1.1⟩, isRef.1.1.2, isRef.1.2, isRef.2⟩
      | _ =>
          rw [isPolicy] at isRef
          cases isRef
  | _ => cases isRounding

theorem checkValue_of_valueDiagnostics
    (clean : Evidence.valueDiagnostics snapshot = []) : checkValue snapshot = .ok () := by
  simp only [Evidence.valueDiagnostics] at clean
  unfold checkValue
  split at clean
  next => cases clean
  next =>
    split at clean
    next isValid =>
      rw [if_pos isValid]
      simp only [List.append_eq_nil_iff, Evidence.noteUnless_eq_nil, Bool.and_eq_true] at clean
      obtain ⟨⟨⟨-, typed⟩, inUnits, noReason⟩, clean⟩ := clean
      simp only [Checks.bind_done_eq_ok, Checks.require_eq_ok]
      refine ⟨checkMember_of_isAllowedString typed _, checkMember_of_isAllowedString inUnits _,
        noReason, ?_⟩
      unfold isTyped
      split at clean
      next isMoney =>
        simp only [List.append_eq_nil_iff, Evidence.noteUnless_eq_nil, Bool.and_eq_true] at clean
        rw [if_pos isMoney, clean.1, clean.2.1, clean.2.2]
        rfl
      next notMoney =>
        rw [if_neg notMoney]
        split at clean
        next isInteger =>
          simp only [List.append_eq_nil_iff, Evidence.noteUnless_eq_nil, Bool.and_eq_true] at clean
          rw [if_pos isInteger, clean.1.1, clean.1.2, clean.2]
          rfl
        next notInteger =>
          rw [if_neg notInteger]
          split at clean
          next =>
            simp only [List.append_eq_nil_iff, Evidence.noteUnless_eq_nil,
              Bool.and_eq_true] at clean
            rw [clean.1.1, clean.1.2, clean.2]
            rfl
          next notDecimal =>
            exfalso
            obtain ⟨text, listed, isText⟩ := PyJson.exists_text_of_isAllowedString typed
            rw [isText] at notMoney notInteger notDecimal
            simp only [Evidence.valueTypes, List.mem_cons, List.not_mem_nil, or_false] at listed
            rcases listed with rfl | rfl | rfl | rfl
            · exact notMoney (by decide)
            · exact notInteger (by decide)
            · exact notDecimal (by decide)
            · exact notDecimal (by decide)
    next notValid =>
      rw [if_neg notValid]
      simp only [List.append_eq_nil_iff, Evidence.noteUnless_eq_nil] at clean
      simp only [Checks.bind_done_eq_ok, Checks.require_eq_ok]
      exact ⟨by simpa using clean.1, clean.2⟩

theorem state_of_valueDiagnostics
    (clean : Evidence.valueDiagnostics snapshot = []) :
    (PyJson.get snapshot "state").isAllowedString states = true := by
  simp only [Evidence.valueDiagnostics] at clean
  split at clean
  next => cases clean
  next isState =>
    have allowed : (PyJson.get snapshot "state").isAllowedString Evidence.states = true := by
      simpa using isState
    exact allowed

/-- The digests of the two packages are the same. -/
theorem canonicalHash_eq_ok
    {document : PyObject}
    {excluded digest : String} :
    Evidence.canonicalHash interpreter document excluded = .ok digest ↔
      canonicalHash interpreter document excluded = .ok digest := by
  simp only [Evidence.canonicalHash, canonicalHash, Checks.bind_eq_ok, Checks.requireSome_eq_ok,
    canonicalJson_eq_ok, encode, Checks.pure_eq_ok]

/-- The digest of a snapshot without diagnostics of its hash. -/
theorem digest_of_snapshotHashDiagnostics
    (clean : Evidence.snapshotHashDiagnostics snapshot interpreter = .ok []) :
    (PyJson.get snapshot "content_hash").isHash = true ∧
      ∃ digest, canonicalHash interpreter snapshot "content_hash" = .ok digest := by
  simp only [Evidence.snapshotHashDiagnostics] at clean
  split at clean
  next isHash =>
    refine ⟨isHash, ?_⟩
    split at clean
    next digest isDigest => exact ⟨digest, canonicalHash_eq_ok.mp isDigest⟩
    next => cases clean
    next => cases clean
  next => cases clean

/-- A verified snapshot is a source of a record. -/
theorem exists_source
    {value : PyJson}
    (verified : verifyMetricSnapshot interpreter value = .ok []) :
    ∃ snapshot, value = .obj snapshot ∧ IsSource interpreter snapshot := by
  simp only [verifyMetricSnapshot, Checks.bind_eq_ok] at verified
  obtain ⟨errors, base, strict⟩ := verified
  cases value with
  | obj snapshot =>
      obtain ⟨rfl, noStrict⟩ := List.append_eq_nil_iff.mp
        (Evidence.eraseDups_eq_nil_iff.mp (Except.ok.inj strict))
      simp only [Evidence.baseSnapshotDiagnostics, Checks.bind_eq_ok] at base
      obtain ⟨ofHash, hashed, base⟩ := base
      have clean := Evidence.eraseDups_eq_nil_iff.mp (Except.ok.inj base)
      simp only [List.append_eq_nil_iff] at clean
      obtain ⟨⟨head, rfl⟩, tail⟩ := clean
      simp only [Evidence.snapshotHeadDiagnostics, Evidence.timeDiagnostics, List.append_eq_nil_iff,
        Evidence.noteUnless_eq_nil, List.flatMap_cons, List.flatMap_nil, and_true] at head
      simp only [Evidence.snapshotTailDiagnostics, List.append_eq_nil_iff,
        Evidence.noteUnless_eq_nil, List.flatMap_cons, List.flatMap_nil, and_true] at tail
      simp only [Evidence.strictSnapshotDiagnostics, List.append_eq_nil_iff,
        Evidence.noteUnless_eq_nil, List.flatMap_cons, List.flatMap_nil, and_true] at noStrict
      obtain ⟨⟨⟨⟨⟨⟨⟨-, snapshotId, organizationId, -⟩, revision⟩, isMode⟩, -⟩, locator⟩,
        isRounding⟩, ⟨⟨⟨-, -, observedAt, -⟩, deadline, -⟩, -⟩, -⟩ := head
      obtain ⟨⟨⟨⟨⟨clean, boundary⟩, view⟩, freshness⟩, confidence⟩, reasons, limitations⟩ := tail
      obtain ⟨⟨⟨⟨⟨account, -⟩, -⟩, -⟩, -⟩, named⟩ := noStrict
      obtain ⟨isHash, digest, isDigest⟩ := digest_of_snapshotHashDiagnostics hashed
      have value := checkValue_of_valueDiagnostics clean
      refine ⟨snapshot, rfl, snapshotId, organizationId, revision, isHash,
        checkMode_of_isMode isMode _ _, account, view, state_of_valueDiagnostics clean,
        checkEvidenceRef_of_isChainLocator locator, value,
        exists_stringList exists_str_of_isAllowedString boundary,
        validateRounding_of_isRounding isRounding named, freshness, observedAt, deadline,
        confidence,
        exists_stringList exists_str_of_isNonemptyString reasons,
        exists_stringList exists_str_of_isNonemptyString limitations, digest, isDigest⟩
  | _ =>
      obtain rfl := Except.ok.inj strict
      cases base

/-! ### Values that can be encoded -/

/-- A document without surrogates that is encoded in any room for its depth. -/
structure Fits (depth : Nat) (value : PyJson) : Prop where
  document : IsDocument value
  encodable : ∀ room, depth ≤ room → PyJson.checkEncodable room value = .ok ()
  plain : PyStr.isPlain value.render = true

theorem Fits.mono
    {depth greater : Nat}
    {value : PyJson}
    (fits : Fits depth value)
    (le : depth ≤ greater) : Fits greater value :=
  ⟨fits.document, fun room enough => fits.encodable room (le.trans enough), fits.plain⟩

theorem fits_null (depth : Nat) : Fits depth .null :=
  ⟨isDocument_null, fun room _ => by cases room <;> rfl, by decide⟩

theorem fits_str
    {text : PyStr}
    (depth : Nat)
    (plain : PyStr.isPlain text = true) : Fits depth (.str text) := by
  refine ⟨⟨trivial, trivial⟩, fun room _ => by cases room <;> rfl, ?_⟩
  rw [PyJson.render, PyStr.isPlain_scalar_cons]
  obtain ⟨chars, isChars⟩ := Option.isSome_iff_exists.mp plain
  rw [PyStr.chars?_eq_some_iff.mp isChars]
  exact PyJson.isPlain_renderString_ofChars chars

theorem fits_ofText (depth : Nat) (text : String) : Fits depth (.ofText text) :=
  fits_str depth (PyStr.isPlain_ofChars _)

theorem fits_arr
    {depth : Nat}
    {items : List PyJson}
    (each : ∀ item ∈ items, Fits depth item) : Fits (depth + 1) (.arr items) := by
  refine ⟨⟨PyJson.CanonicalItems.of_forall fun item listed => (each item listed).document.canonical,
    JsonDecoder.WrittenItems.of_forall fun item listed => (each item listed).document.written⟩,
    ?_, ?_⟩
  · intro room enough
    obtain ⟨smaller, rfl⟩ : ∃ smaller, room = smaller + 1 := ⟨room - 1, by omega⟩
    rw [PyJson.checkEncodable, PyJson.checkItems_eq_ok]
    exact fun item listed => (each item listed).encodable smaller (by omega)
  · rw [PyJson.isPlain_render_arr, List.all_eq_true]
    exact fun item listed => (each item listed).plain

theorem fits_mapping
    {depth : Nat}
    {members : List (String × PyJson)}
    (distinct : (members.map Prod.fst).Nodup)
    (each : ∀ member ∈ members, Fits depth member.2) : Fits (depth + 1) (mapping members) := by
  refine ⟨isDocument_mapping distinct fun member listed => (each member listed).document, ?_, ?_⟩
  · intro room enough
    obtain ⟨smaller, rfl⟩ : ∃ smaller, room = smaller + 1 := ⟨room - 1, by omega⟩
    rw [mapping, PyJson.checkEncodable, PyJson.checkFields_eq_ok]
    intro field listed
    obtain ⟨member, given, rfl⟩ := mem_membersOf.mp listed
    exact (each member given).encodable smaller (by omega)
  · rw [mapping, PyJson.isPlain_render_obj, List.all_eq_true]
    intro field listed
    obtain ⟨member, given, rfl⟩ := mem_membersOf.mp listed
    rw [Bool.and_eq_true]
    exact ⟨PyJson.isPlain_renderString_ofChars _, (each member given).plain⟩

/-- A written member that fits keeps a mapping fit. -/
theorem fits_setMember
    {depth : Nat}
    {fields : PyObject}
    {key : String}
    {value : PyJson}
    (fits : Fits (depth + 1) (.obj fields))
    (valueFits : Fits depth value) : Fits (depth + 1) (.obj (setMember fields key value)) := by
  have plain := fits.plain
  rw [PyJson.isPlain_render_obj, List.all_eq_true] at plain
  refine ⟨⟨fits.document.canonical.setMember valueFits.document.canonical, ?_⟩, ?_, ?_⟩
  · refine JsonDecoder.WrittenFields.of_forall fun field listed => ?_
    rcases PyJson.mem_setMember listed with rfl | old
    · exact valueFits.document.written
    · exact JsonDecoder.WrittenFields.of_mem fits.document.written field old
  · intro room enough
    have encodable := fits.encodable room enough
    obtain ⟨smaller, rfl⟩ : ∃ smaller, room = smaller + 1 := ⟨room - 1, by omega⟩
    rw [PyJson.checkEncodable, PyJson.checkFields_eq_ok] at encodable ⊢
    intro field listed
    rcases PyJson.mem_setMember listed with rfl | old
    · exact valueFits.encodable smaller (by omega)
    · exact encodable field old
  · rw [PyJson.isPlain_render_obj, List.all_eq_true]
    intro field listed
    rcases PyJson.mem_setMember listed with rfl | old
    · rw [Bool.and_eq_true]
      exact ⟨PyJson.isPlain_renderString_ofChars _, valueFits.plain⟩
    · exact plain field old

/-- A member of a mapping whose digest is known, other than the digest. -/
theorem fits_get
    {excluded digest key : String}
    {depth : Nat}
    (document : IsDocument (.obj snapshot))
    (isDigest : canonicalHash interpreter snapshot excluded = .ok digest)
    (other : key ≠ excluded)
    (shallow : (PyJson.get snapshot key).Shallow depth) : Fits depth (PyJson.get snapshot key) := by
  simp only [canonicalHash, Checks.bind_eq_ok, canonicalJson_eq_ok, dumps_eq_ok, encode,
    Checks.requireSome_eq_ok] at isDigest
  obtain ⟨-, ⟨encodable, rfl⟩, payload, encoded, -⟩ := isDigest
  have plain := PyStr.exists_encode?_iff.mp ⟨payload, encoded⟩
  have roomy := interpreter.roomy
  obtain ⟨room, isRoom⟩ : ∃ room, interpreter.nesting = room + 1 :=
    ⟨interpreter.nesting - 1, by omega⟩
  rw [isRoom, PyJson.checkEncodable, PyJson.checkFields_eq_ok] at encodable
  rw [PyJson.isPlain_render_obj, List.all_eq_true] at plain
  have isMember := memberOf_document key document.canonical document.written
  have cases : PyJson.get snapshot key = .null ∨
      ∃ field ∈ snapshot, field.1 = PyStr.ofString key ∧ field.2 = PyJson.get snapshot key := by
    rw [PyJson.get]
    cases found : snapshot.find? fun field => field.1 = PyStr.ofString key with
    | none => exact .inl rfl
    | some field =>
        have isKey := List.find?_some found
        rw [decide_eq_true_eq] at isKey
        exact .inr ⟨field, List.mem_of_find?_eq_some found, isKey, rfl⟩
  rcases cases with isNull | ⟨field, listed, isKey, isValue⟩
  · rw [isNull]
    exact fits_null depth
  · have kept : field ∈ PyJson.without snapshot excluded := by
      refine List.mem_filter.mpr ⟨listed, decide_eq_true ?_⟩
      rw [isKey]
      exact fun same => other (PyStr.ofString_injective same)
    rw [← isValue] at shallow ⊢
    refine ⟨?_, fun room enough => PyJson.checkEncodable_of_shallow shallow enough
      (encodable field kept), (Bool.and_eq_true_iff.mp (plain field kept)).2⟩
    rw [isValue]
    exact ⟨isMember.1, isMember.2⟩

/-! ### The record of a source -/

/-- What is said of the evidence of a record fits its publication state. -/
def IsPublishable (publication : Publication) : Prop :=
  IsStringList PyJson.isNonemptyString publication.limitations ∧
    (∀ item ∈ publication.limitations, Fits 0 item) ∧
    (publication.state = "PREVIEW_ONLY" ∧ publication.chainHash = .null ∧
        (publication.limitations.any fun item => item.isText notVerified) = true ∨
      publication.state = "EVIDENCE_VERIFIED" ∧ publication.chainHash.isHash = true ∧
        (publication.limitations.any fun item => item.isText notVerified) = false)

section Source

variable {reportRecordId generatedAt : PyStr} {publication : Publication}

/-- The record of a snapshot, before its digest is known. -/
def recordOf (snapshot : PyObject) (reportRecordId : PyStr) (publication : Publication)
    (generatedAt : PyStr) : List (String × PyJson) :=
  recordMembers snapshot (.str reportRecordId) publication
    (PyJson.get snapshot "evidence_chain_ref") (PyJson.get snapshot "rounding") (.str generatedAt)

theorem map_fst_recordOf :
    (recordOf snapshot reportRecordId publication generatedAt).map Prod.fst = reportFields := rfl

theorem fits_items
    {digest key : String}
    {items : List PyJson}
    (document : IsDocument (.obj snapshot))
    (isDigest : canonicalHash interpreter snapshot "content_hash" = .ok digest)
    (other : key ≠ "content_hash")
    {isAllowed : PyJson → Bool}
    (isList : PyJson.get snapshot key = .arr items)
    (list : IsStringList isAllowed items) : ∀ item ∈ items, Fits 0 item := by
  have shallow : (PyJson.get snapshot key).Shallow 1 := by
    rw [isList]
    intro item listed
    obtain ⟨-, text, rfl⟩ := list.2 item listed
    exact shallow_of_isHashable rfl
  have plain := (fits_get document isDigest other shallow).plain
  rw [isList, PyJson.isPlain_render_arr, List.all_eq_true] at plain
  intro item listed
  have isPlain := plain item listed
  obtain ⟨-, text, rfl⟩ := list.2 item listed
  exact ⟨⟨trivial, trivial⟩, fun room _ => by cases room <;> rfl, isPlain⟩

theorem fits_of_isHash
    {value : PyJson}
    (isHash : value.isHash = true)
    (depth : Nat) : Fits depth value := by
  obtain ⟨text, rfl, -⟩ := PyJson.exists_text_of_isTextWith isHash
  exact fits_ofText depth text

theorem shallow_of_isAllowedString
    {value : PyJson}
    {allowed : List String}
    {depth : Nat}
    (isAllowed : value.isAllowedString allowed = true) : value.Shallow depth := by
  obtain ⟨text, rfl⟩ := exists_str_of_isAllowedString value isAllowed
  exact shallow_of_isHashable rfl

theorem fits_freshness
    (document : IsDocument (.obj snapshot))
    (source : IsSource interpreter snapshot) : Fits 1 (mapping (freshnessMembers snapshot)) := by
  obtain ⟨digest, isDigest⟩ := source.digest
  refine fits_mapping (show ["state", "observed_at", "deadline"].Nodup by decide) ?_
  simp only [freshnessMembers, List.forall_mem_cons, List.not_mem_nil, false_implies, implies_true,
    and_true]
  exact ⟨fits_get document isDigest (by decide) (shallow_of_isAllowedString source.freshness),
    fits_get document isDigest (by decide) (shallow_of_isDatetime source.observedAt),
    fits_get document isDigest (by decide)
      (shallow_of_isNoneOr source.deadline shallow_of_isDatetime)⟩

theorem fits_confidence
    (document : IsDocument (.obj snapshot))
    (source : IsSource interpreter snapshot) : Fits 2 (mapping (confidenceMembers snapshot)) := by
  obtain ⟨digest, isDigest⟩ := source.digest
  obtain ⟨reasons, isReasons, reasonList⟩ := source.reasons
  refine fits_mapping (show ["state", "reasons"].Nodup by decide) ?_
  simp only [confidenceMembers, List.forall_mem_cons, List.not_mem_nil, false_implies, implies_true,
    and_true]
  refine ⟨fits_get document isDigest (by decide) (shallow_of_isAllowedString source.confidence), ?_⟩
  rw [isReasons]
  exact fits_arr (fits_items document isDigest (by decide) isReasons reasonList)

/-- Everything in the record can be encoded. -/
theorem fits_recordOf
    (document : IsDocument (.obj snapshot))
    (source : IsSource interpreter snapshot)
    (publishable : IsPublishable publication)
    (plainId : PyStr.isPlain reportRecordId = true)
    (plainTime : PyStr.isPlain generatedAt = true) :
    Fits 3 (mapping (recordOf snapshot reportRecordId publication generatedAt)) := by
  obtain ⟨digest, isDigest⟩ := source.digest
  have member : ∀ {depth : Nat} {key : String}, key ≠ "content_hash" →
      (PyJson.get snapshot key).Shallow depth → depth ≤ 2 → Fits 2 (PyJson.get snapshot key) :=
    fun other shallow le => (fits_get document isDigest other shallow).mono le
  have atom : ∀ {key : String}, key ≠ "content_hash" → (PyJson.get snapshot key).Shallow 0 →
      Fits 0 (PyJson.get snapshot key) :=
    fun other shallow => fits_get document isDigest other shallow
  obtain ⟨modeShallow, scenarioShallow⟩ := shallow_scenario source.mode
  have valueShallow := shallow_value source.value
  simp only [List.forall_mem_cons, List.not_mem_nil, false_implies, implies_true,
    and_true] at valueShallow
  obtain ⟨value, valueType, unit, currency, reason⟩ := valueShallow
  obtain ⟨boundary, isBoundary, boundaryList⟩ := source.boundary
  have chainHash : Fits 2 publication.chainHash := by
    rcases publishable.2.2 with ⟨-, isNull, -⟩ | ⟨-, isHash, -⟩
    · rw [isNull]
      exact fits_null 2
    · exact fits_of_isHash isHash 2
  have boundaryFits : Fits 1 (.arr (itemsOf (PyJson.get snapshot "expense_boundary"))) := by
    rw [isBoundary]
    exact fits_arr (fits_items document isDigest (by decide) isBoundary boundaryList)
  refine fits_mapping (show reportFields.Nodup by decide) ?_
  simp only [recordOf, recordMembers, List.forall_mem_cons, List.not_mem_nil, false_implies,
    implies_true, and_true]
  exact ⟨fits_str 2 plainId, fits_ofText 2 _,
    member (by decide) (shallow_of_isNonemptyString source.organizationId) le_rfl,
    member (by decide) (shallow_of_isNoneOr source.account shallow_of_isNonemptyString) le_rfl,
    (atom (by decide) modeShallow).mono (by decide),
    (atom (by decide) scenarioShallow).mono (by decide),
    member (by decide) (shallow_of_isAllowedString source.view) le_rfl,
    member (by decide) (shallow_of_isNonemptyString source.metricSnapshotId) le_rfl,
    member (by decide) (shallow_of_isIntWith source.snapshotRevision) le_rfl,
    fits_of_isHash source.contentHash 2,
    member (by decide) (shallow_evidenceRef (document.canonical.get _) source.evidenceRef)
      (by decide),
    chainHash, member (by decide) (shallow_of_isAllowedString source.state) le_rfl,
    (atom (by decide) value).mono (by decide), (atom (by decide) valueType).mono (by decide),
    (atom (by decide) unit).mono (by decide), (atom (by decide) currency).mono (by decide),
    (atom (by decide) reason).mono (by decide), boundaryFits.mono (by decide),
    member (by decide) (shallow_rounding (document.canonical.get _) source.rounding) le_rfl,
    (fits_freshness document source).mono (by decide), fits_confidence document source,
    (fits_arr publishable.2.1).mono (by decide),
    fits_ofText 2 _, fits_str 2 plainTime, fits_ofText 2 _⟩

/-- What fits has a digest. -/
theorem exists_digest_of_fits
    {fields : PyObject}
    (fits : Fits 3 (.obj fields))
    (key : String) :
    ∃ payload, canonicalHash interpreter fields key = .ok (Sha256.hexdigestOfBytes payload) := by
  have roomy := interpreter.roomy
  obtain ⟨room, isRoom⟩ : ∃ room, interpreter.nesting = room + 1 :=
    ⟨interpreter.nesting - 1, by omega⟩
  have encodable := fits.encodable (room + 1) (by omega)
  have plain := fits.plain
  rw [PyJson.checkEncodable, PyJson.checkFields_eq_ok] at encodable
  rw [PyJson.isPlain_render_obj, List.all_eq_true] at plain
  have kept : PyJson.checkEncodable interpreter.nesting (.obj (PyJson.without fields key)) =
      .ok () := by
    rw [isRoom, PyJson.checkEncodable, PyJson.checkFields_eq_ok]
    exact fun field listed => encodable field (List.mem_filter.mp listed).1
  have keptPlain : PyStr.isPlain (PyJson.render (.obj (PyJson.without fields key))) = true := by
    rw [PyJson.isPlain_render_obj, List.all_eq_true]
    exact fun field listed => plain field (List.mem_filter.mp listed).1
  obtain ⟨payload, encoded⟩ := PyStr.exists_encode?_iff.mpr keptPlain
  refine ⟨payload, ?_⟩
  rw [canonicalHash, canonicalJson_eq_ok.mpr (dumps_eq_ok.mpr ⟨kept, rfl⟩), Checks.ok_bind, encode,
    encoded]
  rfl

theorem validateFreshness_of_source
    (document : IsDocument (.obj snapshot))
    (source : IsSource interpreter snapshot) :
    validateFreshness (mapping (freshnessMembers snapshot)) = .ok () := by
  have values : ∀ member ∈ freshnessMembers snapshot, _ :=
    fun member listed => get_membersOf (fits_freshness document source).document listed
  simp only [freshnessMembers, List.forall_mem_cons] at values
  obtain ⟨isState, isObserved, isDeadline, -⟩ := values
  simp only [validateFreshness, ↓Checks.bind_done_eq_ok, Checks.bind_eq_ok, checkMapping_eq_ok,
    Checks.require_eq_ok]
  refine ⟨_, ⟨rfl, hasKeys_membersOf _⟩, ?_, ?_, ?_⟩
  · rw [freshnessMembers, isState]
    exact checkMember_of_isAllowedString source.freshness _
  · rw [freshnessMembers, isObserved]
    exact source.observedAt
  · rw [freshnessMembers, isDeadline]
    exact source.deadline

theorem validateConfidence_of_source
    (document : IsDocument (.obj snapshot))
    (source : IsSource interpreter snapshot) :
    validateConfidence (mapping (confidenceMembers snapshot)) = .ok () := by
  obtain ⟨reasons, reasonsEq, reasonList⟩ := source.reasons
  have values : ∀ member ∈ confidenceMembers snapshot, _ :=
    fun member listed => get_membersOf (fits_confidence document source).document listed
  simp only [confidenceMembers, List.forall_mem_cons] at values
  obtain ⟨isState, isReasons, -⟩ := values
  simp only [validateConfidence, ↓Checks.bind_done_eq_ok, Checks.bind_eq_ok, checkMapping_eq_ok,
    Checks.pure_eq_ok]
  refine ⟨_, ⟨rfl, hasKeys_membersOf _⟩, ?_, reasons, ?_, trivial⟩
  · rw [confidenceMembers, isState]
    exact checkMember_of_isAllowedString source.confidence _
  · rw [confidenceMembers, isReasons, reasonsEq]
    exact checkDistinct_of_isStringList reasonList _

/-- A record with the members of a source and its digest is valid. -/
theorem validate_sealed
    {fields : PyObject}
    {digest : String}
    (document : IsDocument (.obj snapshot))
    (source : IsSource interpreter snapshot)
    (publishable : IsPublishable publication)
    (named : reportRecordId ≠ [])
    (isTime : (PyJson.str generatedAt).isDatetime = true)
    (isHex : PyText.isHexDigest digest = true)
    (isDigest : canonicalHash interpreter fields "record_hash" = .ok digest)
    (keys : PyJson.hasKeys fields reportFields = true)
    (values : ∀ member ∈ recordOf snapshot reportRecordId publication generatedAt,
      PyJson.get fields member.1 = member.2) :
    validateReportRecord interpreter (.obj (setMember fields "record_hash" (.ofText digest))) =
      .ok () := by
  have sealedHash : PyJson.get (setMember fields "record_hash" (.ofText digest)) "record_hash" =
      .ofText digest := PyJson.get_setMember_of_hasKeys keys (by decide) _
  have sealedDigest : canonicalHash interpreter (setMember fields "record_hash" (.ofText digest))
      "record_hash" = .ok digest := by
    rw [canonicalHash, PyJson.without_setMember]
    exact isDigest
  have sealedKeys := (@PyJson.hasKeys_setMember fields "record_hash" (.ofText digest)
    reportFields).trans keys
  have sealedValues : ∀ member ∈ recordOf snapshot reportRecordId publication generatedAt,
      member.1 ≠ "record_hash" →
      PyJson.get (setMember fields "record_hash" (.ofText digest)) member.1 = member.2 :=
    fun member listed other => (PyJson.get_setMember_of_ne other).trans (values member listed)
  generalize setMember fields "record_hash" (.ofText digest) = record at *
  simp only [recordOf, recordMembers, List.forall_mem_cons, ne_eq, String.reduceEq,
    not_false_eq_true, forall_const] at sealedValues
  obtain ⟨isId, isSchema, isOrganization, isAccount, isMode, isScenario, isView, isSnapshot,
    isRevision, isContentHash, isRef, isChainHash, isState, isValue, isValueType, isUnit,
    isCurrency, isReason, isBoundary, isRounding, isFreshness, isConfidence, isLimitations,
    isPublication, isGenerated, -⟩ := sealedValues
  have identity : checkIdentity record = .ok () := by
    simp only [checkIdentity, ↓Checks.bind_done_eq_ok, Checks.require_eq_ok, List.all_cons,
      List.all_nil, isSchema, isId, isOrganization, isSnapshot, isContentHash, isRevision,
      source.organizationId, source.metricSnapshotId, source.contentHash, source.snapshotRevision,
      Bool.and_true, Bool.true_and, and_true]
    refine ⟨PyJson.isText_iff.mpr rfl, ?_⟩
    obtain ⟨text, isHash, hex⟩ := PyJson.exists_text_of_isTextWith source.contentHash
    rw [Bool.and_eq_true, isHash]
    constructor
    · rw [PyJson.isNonemptyString, Bool.not_eq_true', List.isEmpty_eq_false_iff]
      exact named
    · apply PyJson.isNonemptyString_ofText
      rintro rfl
      exact absurd hex (by decide)
  have mode : checkMode record .reportModeInvalid .reportModeContamination = .ok () := by
    have checked := source.mode
    unfold checkMode at checked ⊢
    rw [isMode, isScenario]
    exact checked
  have ref : checkEvidenceRef record = .ok () := by
    have checked := source.evidenceRef
    unfold checkEvidenceRef at checked ⊢
    rw [isRef]
    exact checked
  have publicationChecked : checkPublication record = .ok () := by
    obtain ⟨list, -, ⟨isPreview, isNull, limited⟩ | ⟨isVerified, isHash, unlimited⟩⟩ := publishable
    · simp only [checkPublication, Checks.bind_eq_ok, isLimitations, isChainHash, isPublication]
      refine ⟨_, checkDistinct_of_isStringList list _, ?_⟩
      rw [isPreview, if_pos (PyJson.isText_iff.mpr rfl), Checks.require_eq_ok, isNull]
      exact ⟨rfl, limited⟩
    · simp only [checkPublication, Checks.bind_eq_ok, isLimitations, isChainHash, isPublication]
      refine ⟨_, checkDistinct_of_isStringList list _, ?_⟩
      rw [isVerified, if_neg (by decide), Checks.require_eq_ok]
      exact ⟨isHash, unlimited⟩
  have value : checkValue record = .ok () := by
    have checked := source.value
    simp only [checkValue, List.all_cons, List.all_nil, isState, isValue, isValueType, isUnit,
      isCurrency, isReason] at checked ⊢
    exact checked
  have freshness : validateFreshness (PyJson.get record "freshness") = .ok () := by
    rw [isFreshness]
    exact validateFreshness_of_source document source
  have confidence : validateConfidence (PyJson.get record "confidence") = .ok () := by
    rw [isConfidence]
    exact validateConfidence_of_source document source
  simp only [validateReportRecord, ↓Checks.bind_done_eq_ok, Checks.bind_eq_ok, checkMapping_eq_ok,
    Checks.require_eq_ok]
  obtain ⟨boundary, boundaryEq, boundaryList⟩ := source.boundary
  refine ⟨record, ⟨rfl, sealedKeys⟩, identity, mode, ?_, ?_, ?_, ?_, ?_, ref, publicationChecked,
    value, boundary, ?_, ?_, freshness, confidence, ?_⟩
  · rw [isAccount]
    exact source.account
  · rw [isView]
    exact checkMember_of_isAllowedString source.view _
  · rw [isState]
    exact checkMember_of_isAllowedString source.state _
  · rw [isPublication]
    rcases publishable.2.2 with ⟨isPreview, -⟩ | ⟨isVerified, -⟩
    · rw [isPreview]
      rfl
    · rw [isVerified]
      rfl
  · rw [isGenerated]
    exact isTime
  · rw [isBoundary, boundaryEq]
    exact checkDistinct_of_isStringList boundaryList _
  · rw [isRounding]
    exact source.rounding
  · rw [checkHash, Checks.bind_done_eq_ok, Checks.require_eq_ok, sealedDigest, Checks.ok_bind,
      Checks.require_eq_ok, sealedHash]
    refine ⟨?_, PyJson.isText_iff.mpr rfl⟩
    rw [PyJson.isHash, PyJson.ofText, PyJson.isTextWith, PyStr.text?_ofString]
    exact isHex

/-- The record of a source passes the validator. -/
theorem exists_sealRecord
    (document : IsDocument (.obj snapshot))
    (source : IsSource interpreter snapshot)
    (publishable : IsPublishable publication)
    (named : reportRecordId ≠ [])
    (plainId : PyStr.isPlain reportRecordId = true)
    (isTime : (PyJson.str generatedAt).isDatetime = true)
    (plainTime : PyStr.isPlain generatedAt = true) :
    ∃ record, sealRecord interpreter (membersOf (recordOf snapshot reportRecordId publication
      generatedAt)) = .ok record := by
  have fits := fits_recordOf document source publishable plainId plainTime
  obtain ⟨payload, isDigest⟩ := @exists_digest_of_fits interpreter _ fits "record_hash"
  have isHex := Sha256.isHexDigest_hexdigestOfBytes payload
  have keys := hasKeys_membersOf (recordOf snapshot reportRecordId publication generatedAt)
  rw [map_fst_recordOf] at keys
  have values : ∀ member ∈ recordOf snapshot reportRecordId publication generatedAt, _ :=
    fun member listed => get_membersOf fits.document listed
  generalize Sha256.hexdigestOfBytes payload = digest at *
  generalize membersOf (recordOf snapshot reportRecordId publication generatedAt) = fields at *
  refine ⟨.obj (setMember fields "record_hash" (.ofText digest)), ?_⟩
  rw [sealRecord, isDigest, Checks.ok_bind]
  dsimp only
  rw [validate_sealed document source publishable named isTime isHex isDigest keys values]
  rfl

end Source

/-! ### What is built -/

/-- A verified chain states a digest. -/
theorem isHash_of_verifyEvidenceChain
    {options : Evidence.VerifierOptions}
    {chain : PyJson}
    (verified : verifyEvidenceChain interpreter options chain = .ok []) :
    (memberOf "content_hash" chain).isHash = true := by
  simp only [verifyEvidenceChain, Checks.bind_eq_ok] at verified
  obtain ⟨errors, base, strict⟩ := verified
  cases chain with
  | obj graph =>
      obtain ⟨rfl, -⟩ := List.append_eq_nil_iff.mp
        (Evidence.eraseDups_eq_nil_iff.mp (Except.ok.inj strict))
      simp only [Evidence.baseDiagnostics, Checks.bind_eq_ok] at base
      obtain ⟨ofHash, hashed, base⟩ := base
      have clean := Evidence.eraseDups_eq_nil_iff.mp (Except.ok.inj base)
      simp only [List.append_eq_nil_iff] at clean
      obtain ⟨⟨⟨-, rfl⟩, -⟩, -⟩ := clean
      simp only [Evidence.hashDiagnostics] at hashed
      split at hashed
      next isHash => exact isHash
      next => cases hashed
  | _ =>
      obtain rfl := Except.ok.inj strict
      cases base

theorem requireVerified_eq_ok
    {δ : Type}
    {errors : Except PyJson.DumpsError (List δ)}
    {failure : δ → BuildFailure} :
    requireVerified errors failure = .ok () ↔ errors = .ok [] := by
  rw [requireVerified, Checks.bind_eq_ok]
  constructor
  · rintro ⟨diagnostics, isOk, none⟩
    rw [Checks.mapError_eq_ok] at isOk
    cases diagnostics with
    | nil => exact isOk
    | cons first rest => cases none
  · rintro rfl
    exact ⟨[], rfl, rfl⟩

/-- What is published of a source fits its publication state. -/
theorem isPublishable_of_publish
    {chain : Option PyJson}
    {publication : Publication}
    (document : IsDocument (.obj snapshot))
    (source : IsSource interpreter snapshot)
    (published : publish interpreter snapshot chain = .ok publication) :
    IsPublishable publication := by
  obtain ⟨digest, isDigest⟩ := source.digest
  obtain ⟨limitations, isLimitations, list⟩ := source.limitations
  have fits := fits_items document isDigest (by decide) isLimitations list
  have textual : (PyJson.ofText notVerified).isText notVerified = true := PyJson.isText_iff.mpr rfl
  cases chain with
  | some chain =>
      simp only [publish, ↓Checks.bind_done_eq_ok, Checks.pure_eq_ok, validateEvidenceBinding,
        requireVerified_eq_ok, isLimitations, itemsOf] at published
      obtain ⟨⟨verified, -⟩, rfl⟩ := published
      refine ⟨⟨list.1.filter _, fun item listed => list.2 item (List.mem_filter.mp listed).1⟩,
        fun item listed => fits item (List.mem_filter.mp listed).1,
        .inr ⟨rfl, isHash_of_verifyEvidenceChain verified, ?_⟩⟩
      rw [List.any_eq_false]
      intro item listed
      simpa using (List.mem_filter.mp listed).2
  | none =>
      simp only [publish, isLimitations, itemsOf, Except.ok.injEq] at published
      subst published
      split
      next limited => exact ⟨list, fits, .inl ⟨rfl, rfl, limited⟩⟩
      next unlimited =>
        have fresh : PyJson.ofText notVerified ∉ limitations := fun listed =>
          unlimited (List.any_eq_true.mpr ⟨_, listed, textual⟩)
        refine ⟨⟨?_, ?_⟩, ?_, .inl ⟨rfl, rfl, ?_⟩⟩
        · exact List.nodup_append.mpr ⟨list.1, List.nodup_singleton _, by
            intro item listed other isOther same
            rw [List.mem_singleton] at isOther
            exact fresh (isOther ▸ same ▸ listed)⟩
        · intro item listed
          rcases List.mem_append.mp listed with old | isNew
          · exact list.2 item old
          · obtain rfl := List.mem_singleton.mp isNew
            exact ⟨by decide, _, rfl⟩
        · intro item listed
          rcases List.mem_append.mp listed with old | isNew
          · exact fits item old
          · obtain rfl := List.mem_singleton.mp isNew
            exact fits_ofText 0 _
        · rw [List.any_append, Bool.or_eq_true]
          exact .inr (List.any_eq_true.mpr ⟨_, List.mem_singleton_self _, textual⟩)

/-- The parts of a source are their own copies. -/
theorem cloneJson_of_fits
    {depth : Nat}
    {value : PyJson}
    (fits : Fits depth value)
    (enough : depth ≤ 16) : cloneJson interpreter value = .ok value := by
  have encodable := fits.encodable interpreter.nesting (enough.trans interpreter.roomy)
  have dumped := dumps_eq_ok.mpr ⟨encodable, rfl⟩
  rw [cloneJson, canonicalJson_eq_ok.mpr dumped, Checks.ok_bind, Checks.mapError_eq_ok]
  exact PyJson.loads_of_dumps fits.document.canonical fits.document.written dumped

theorem clones_of_source
    (document : IsDocument (.obj snapshot))
    (source : IsSource interpreter snapshot) :
    cloneJson interpreter (PyJson.get snapshot "evidence_chain_ref") =
        .ok (PyJson.get snapshot "evidence_chain_ref") ∧
      cloneJson interpreter (PyJson.get snapshot "rounding") =
        .ok (PyJson.get snapshot "rounding") := by
  obtain ⟨digest, isDigest⟩ := source.digest
  have ref := fits_get document isDigest (by decide)
    (shallow_evidenceRef (document.canonical.get _) source.evidenceRef)
  have rounding := fits_get document isDigest (by decide)
    (shallow_rounding (document.canonical.get _) source.rounding)
  exact ⟨cloneJson_of_fits ref (by decide), cloneJson_of_fits rounding (by decide)⟩

/-- Escapes hide no surrogate. -/
theorem isPlain_of_renderString
    {text : PyStr}
    (plain : PyStr.isPlain (PyJson.renderString text) = true) : PyStr.isPlain text = true := by
  induction text with
  | nil => rfl
  | cons point text inductionHypothesis =>
      rw [PyJson.renderString, PyStr.isPlain_append, Bool.and_eq_true] at plain
      cases point with
      | scalar c =>
          rw [PyStr.isPlain_scalar_cons]
          exact inductionHypothesis plain.2
      | surrogate offset =>
          exact absurd plain.1 (by simp [PyJson.escapePoint, PyStr.isPlain, PyStr.chars?])

/-- A text that is stated in a record with a digest has no surrogates. -/
theorem isPlain_of_sealRecord
    {members : List (String × PyJson)}
    {record : PyJson}
    (isSealed : sealRecord interpreter (membersOf members) = .ok record)
    {key : String}
    {text : PyStr}
    (other : key ≠ "record_hash")
    (listed : (key, PyJson.str text) ∈ members) : PyStr.isPlain text = true := by
  simp only [sealRecord, Checks.bind_eq_ok] at isSealed
  obtain ⟨digest, isDigest, -⟩ := isSealed
  simp only [canonicalHash, Checks.bind_eq_ok, canonicalJson_eq_ok, dumps_eq_ok, encode,
    Checks.requireSome_eq_ok] at isDigest
  obtain ⟨-, ⟨-, rfl⟩, payload, encoded, -⟩ := isDigest
  have plain := PyStr.exists_encode?_iff.mp ⟨payload, encoded⟩
  rw [PyJson.isPlain_render_obj, List.all_eq_true] at plain
  have kept : (PyStr.ofString key, PyJson.str text) ∈
      PyJson.without (membersOf members) "record_hash" := by
    refine List.mem_filter.mpr ⟨mem_membersOf.mpr ⟨_, listed, rfl⟩, decide_eq_true ?_⟩
    exact fun same => other (PyStr.ofString_injective same)
  have isPlain := (Bool.and_eq_true_iff.mp (plain _ kept)).2
  rw [PyJson.render, PyStr.isPlain_scalar_cons] at isPlain
  exact isPlain_of_renderString isPlain

/-- The time of a record is one that its validator reads. -/
theorem isDatetime_of_sealRecord
    {members : List (String × PyJson)}
    {record : PyJson}
    (document : IsDocument (mapping members))
    (isSealed : sealRecord interpreter (membersOf members) = .ok record)
    {time : PyJson}
    (listed : ("generated_at", time) ∈ members) : time.isDatetime = true := by
  simp only [sealRecord, ↓Checks.bind_done_eq_ok, Checks.bind_eq_ok] at isSealed
  obtain ⟨digest, -, valid, -⟩ := isSealed
  simp only [validateReportRecord, ↓Checks.bind_done_eq_ok, Checks.bind_eq_ok, checkMapping_eq_ok,
    Checks.require_eq_ok, PyJson.obj.injEq] at valid
  obtain ⟨_, ⟨rfl, -⟩, -, -, -, -, -, -, isTime, -⟩ := valid
  rw [PyJson.get_setMember_of_ne (by decide), get_membersOf document listed] at isTime
  exact isTime

/-- What a record is built of: a verified snapshot, a nonempty id, a chain, if one is given,
that is verified and bound to the snapshot, and a time. Id and time have no surrogates. -/
structure IsBuildable (interpreter : Interpreter) (snapshot reportRecordId : PyJson)
    (generatedAt : GeneratedAt) (evidenceChain : Option PyJson) : Prop where
  recordId : ∃ text, reportRecordId = .str text ∧ text ≠ [] ∧ PyStr.isPlain text = true
  verified : verifyMetricSnapshot interpreter snapshot = .ok []
  evidence : ∀ chain ∈ evidenceChain,
    validateEvidenceBinding interpreter (membersIn snapshot) chain = .ok ()
  time : ∃ text, generatedAt.read = .ok (.str text) ∧ (PyJson.str text).isDatetime = true ∧
    PyStr.isPlain text = true

/-- A valid record that says what was known of its evidence. -/
structure IsBuilt (interpreter : Interpreter) (evidenceChain : Option PyJson) (record : PyObject) :
    Prop where
  document : IsDocument (.obj record)
  valid : validateReportRecord interpreter (.obj record) = .ok ()
  publicationState : PyJson.get record "publication_state" =
    .ofText (if evidenceChain.isSome then "EVIDENCE_VERIFIED" else "PREVIEW_ONLY")

section Built

variable {reportRecordId : PyJson} {generatedAt : GeneratedAt} {evidenceChain : Option PyJson}

theorem state_of_publish
    {publication : Publication}
    (published : publish interpreter snapshot evidenceChain = .ok publication) :
    publication.state = if evidenceChain.isSome then "EVIDENCE_VERIFIED" else "PREVIEW_ONLY" := by
  cases evidenceChain with
  | some chain =>
      simp only [publish, ↓Checks.bind_done_eq_ok, Checks.pure_eq_ok] at published
      obtain ⟨-, rfl⟩ := published
      rfl
  | none =>
      obtain rfl := Except.ok.inj published
      rfl

/-- A sealed record that fits is built. -/
theorem isBuilt_of_sealRecord
    {members : List (String × PyJson)}
    {record : PyJson}
    {state : String}
    (fits : Fits 3 (mapping members))
    (listed : ("publication_state", .ofText state) ∈ members)
    (isState : state = if evidenceChain.isSome then "EVIDENCE_VERIFIED" else "PREVIEW_ONLY")
    (isSealed : sealRecord interpreter (membersOf members) = .ok record) :
    ∃ fields, record = .obj fields ∧ IsBuilt interpreter evidenceChain fields := by
  simp only [sealRecord, ↓Checks.bind_done_eq_ok, Checks.bind_eq_ok, Checks.pure_eq_ok] at isSealed
  obtain ⟨digest, -, valid, rfl⟩ := isSealed
  refine ⟨_, rfl, (fits_setMember fits (fits_ofText 2 digest)).document, valid, ?_⟩
  rw [PyJson.get_setMember_of_ne (by decide), get_membersOf fits.document listed, isState]

/-- What was built was buildable, and is a valid record. -/
theorem buildReportRecord_spec
    {document : JsonDocument}
    {record : PyJson}
    (isBuilt : buildReportRecord interpreter document.value reportRecordId generatedAt
      evidenceChain = .ok record) :
    IsBuildable interpreter document.value reportRecordId generatedAt evidenceChain ∧
      ∃ fields, record = .obj fields ∧ IsBuilt interpreter evidenceChain fields := by
  simp only [buildReportRecord, ofReporting] at isBuilt
  simp only [↓Checks.bind_done_eq_ok, Checks.bind_eq_ok, Checks.require_eq_ok,
    requireVerified_eq_ok, Checks.mapError_eq_ok] at isBuilt
  obtain ⟨named, verified, publication, published, ref, isRef, rounding, isRounding, time, isTime,
    isSealed⟩ := isBuilt
  obtain ⟨text, rfl, nonempty⟩ := PyJson.exists_str_of_isNonemptyString named
  obtain ⟨moment, rfl⟩ := GeneratedAt.read_spec isTime
  have plainId := @isPlain_of_sealRecord _ _ _ isSealed "report_record_id" text (by decide)
    (by simp [recordMembers])
  have plainTime := @isPlain_of_sealRecord _ _ _ isSealed "generated_at" moment (by decide)
    (by simp [recordMembers])
  obtain ⟨snapshot, isSnapshot, source⟩ := exists_source verified
  have sourceDocument : IsDocument (.obj snapshot) := by
    rw [← isSnapshot]
    exact ⟨document.canonical, document.written⟩
  rw [isSnapshot] at verified ⊢
  rw [isSnapshot, membersIn] at published isRef isRounding isSealed
  -- The parts of the snapshot that are copied come out as they were.
  obtain ⟨cloneRef, cloneRounding⟩ := @clones_of_source interpreter _ sourceDocument source
  obtain rfl := Except.ok.inj (isRef.symm.trans cloneRef)
  obtain rfl := Except.ok.inj (isRounding.symm.trans cloneRounding)
  have publishable := isPublishable_of_publish sourceDocument source published
  have fits := fits_recordOf sourceDocument source publishable plainId plainTime
  have isDatetime : (PyJson.str moment).isDatetime = true :=
    isDatetime_of_sealRecord fits.document isSealed (by simp [recordOf, recordMembers])
  refine ⟨⟨⟨text, rfl, nonempty, plainId⟩, verified, ?_, moment, isTime, isDatetime, plainTime⟩,
    isBuilt_of_sealRecord fits (by simp [recordOf, recordMembers]) (state_of_publish published)
      isSealed⟩
  rintro chain rfl
  simp only [publish, Checks.bind_done_eq_ok] at published
  exact published.1

/-- What is buildable is built: the validator does not refuse it in the end. -/
theorem exists_of_isBuildable
    {document : JsonDocument}
    (buildable : IsBuildable interpreter document.value reportRecordId generatedAt evidenceChain) :
    ∃ record, buildReportRecord interpreter document.value reportRecordId generatedAt
      evidenceChain = .ok record := by
  obtain ⟨⟨text, rfl, named, plainId⟩, verified, bound, moment, isTime, isDatetime, plainTime⟩ :=
    buildable
  obtain ⟨snapshot, isSnapshot, source⟩ := exists_source verified
  have sourceDocument : IsDocument (.obj snapshot) := by
    rw [← isSnapshot]
    exact ⟨document.canonical, document.written⟩
  rw [isSnapshot] at verified bound ⊢
  obtain ⟨publication, published⟩ : ∃ publication,
      publish interpreter snapshot evidenceChain = .ok publication := by
    cases evidenceChain with
    | none => exact ⟨_, rfl⟩
    | some chain =>
        rw [publish, show validateEvidenceBinding interpreter snapshot chain = .ok () from
          bound chain rfl]
        exact ⟨_, rfl⟩
  have publishable := isPublishable_of_publish sourceDocument source published
  obtain ⟨cloneRef, cloneRounding⟩ := @clones_of_source interpreter _ sourceDocument source
  obtain ⟨record, isSealed⟩ := exists_sealRecord sourceDocument source publishable named plainId
    isDatetime plainTime
  have isNamed : (PyJson.str text).isNonemptyString = true := by
    rw [PyJson.isNonemptyString, Bool.not_eq_true', List.isEmpty_eq_false_iff]
    exact named
  refine ⟨record, ?_⟩
  rw [buildReportRecord, isNamed, requireVerified_eq_ok.mpr verified, membersIn]
  dsimp only
  rw [published, cloneRef, cloneRounding, isTime]
  rw [recordOf] at isSealed
  simp only [ofReporting, require, if_true, Checks.ok_bind, Except.mapError, isSealed]

end Built

/-- A record is built of a snapshot exactly when the snapshot is verified, the chain that
is given, if any, is verified and bound to it, the id is a nonempty text and the time
is one, both without surrogates: no record is refused by its validator in the end. -/
theorem exists_buildReportRecord_iff
    (document : JsonDocument)
    (reportRecordId : PyJson)
    (generatedAt : GeneratedAt)
    (evidenceChain : Option PyJson) :
    (∃ record, buildReportRecord interpreter document.value reportRecordId generatedAt
        evidenceChain = .ok record) ↔
      IsBuildable interpreter document.value reportRecordId generatedAt evidenceChain := by
  constructor
  · rintro ⟨record, isBuilt⟩
    exact (buildReportRecord_spec isBuilt).1
  · exact exists_of_isBuildable

end Reporting
end QuantumAnalytics
