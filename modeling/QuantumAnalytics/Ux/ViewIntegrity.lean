import QuantumAnalytics.Foundations.DecimalLaws
import QuantumAnalytics.Reporting.BuiltRecords
import QuantumAnalytics.Ux.InboxCompleteness
import QuantumAnalytics.Ux.Views

/-!
# What views say

Every valid record has a view whose digest is right. It shows a value exactly
when the record is valid and says zero exactly when that value is zero, and a
drilldown claims evidence only of records that were built with a verified chain.
-/

namespace QuantumAnalytics
namespace Ux

open Reporting (membersOf memberOf mapping IsDocument Fits GeneratedAt fits_setMember
  validateReportRecord)
open PyJson (setMember)

variable {interpreter : Interpreter} {record : PyObject} {presentation : Presentation}

/-! ### Zero -/

/-- A value of a record that is the number zero. -/
def IsZero (value : PyJson) : Prop :=
  value = .int 0 ∨ ∃ text number, value = .ofText text ∧
    Decimal.parse? text = some (.finite number) ∧ number.toRat = 0

theorem isZeroText_iff {text : String} :
    isZeroText text = true ↔
      ∃ number, Decimal.parse? text = some (.finite number) ∧ number.toRat = 0 := by
  unfold isZeroText
  constructor
  · intro isZero
    split at isZero
    next number parsed =>
      refine ⟨number, parsed, Decimal.toRat_eq_zero_iff.mpr ?_⟩
      exact eq_of_beq isZero
    next => cases isZero
  · rintro ⟨number, parsed, isZero⟩
    rw [parsed]
    exact beq_of_eq (Decimal.toRat_eq_zero_iff.mp isZero)

theorem isNumericZero_iff {value : PyJson} : isNumericZero value = true ↔ IsZero value := by
  have textual : ∀ other : PyJson, other.isTextWith isZeroText = true ↔
      ∃ text number, other = .ofText text ∧ Decimal.parse? text = some (.finite number) ∧
        number.toRat = 0 := by
    intro other
    constructor
    · intro isText
      obtain ⟨text, isOther, isZero⟩ := PyJson.exists_text_of_isTextWith isText
      obtain ⟨number, parsed, zero⟩ := isZeroText_iff.mp isZero
      exact ⟨text, number, isOther, parsed, zero⟩
    · rintro ⟨text, number, rfl, parsed, zero⟩
      rw [PyJson.ofText, PyJson.isTextWith, PyStr.text?_ofString, Option.any_some]
      exact isZeroText_iff.mpr ⟨number, parsed, zero⟩
  rw [IsZero, ← textual]
  cases value with
  | int number => simp [isNumericZero, PyJson.isTextWith]
  | _ => simp [isNumericZero]

/-- The runtime knows zero only as `0`, which is zero. -/
theorem isZero_of_isPlainZero
    {value : PyJson}
    (isNumber : (∃ text, value = .ofText text) ∨ ∃ number, value = .int number)
    (isPlain : isPlainZero value = true) : IsZero value := by
  rcases isNumber with ⟨text, rfl⟩ | ⟨number, rfl⟩
  · have isText : PyJson.ofText text = .ofText "0" := by
      simpa [isPlainZero, PyJson.ofText, PyJson.pyEq, PyJson.pyEqScalar, PyJson.numeric?,
        PyJson.isText_iff] using isPlain
    rw [isText]
    exact isNumericZero_iff.mp (by decide)
  · have isNumber : number = 0 := by
      simpa [isPlainZero, PyJson.isText, PyJson.ofText, PyJson.pyEq, PyJson.pyEqScalar,
        PyJson.numeric?] using isPlain
    rw [isNumber]
    exact .inl rfl

/-! ### Values that can be encoded -/

theorem fits_bool
    (depth : Nat)
    (value : Bool) : Fits depth (.bool value) :=
  ⟨⟨trivial, trivial⟩, fun room _ => by cases room <;> rfl, by cases value <;> decide⟩

/-- A member of a shallow mapping. -/
theorem shallow_get
    {depth : Nat}
    (shallow : (PyJson.obj record).Shallow (depth + 1))
    (key : String) : (PyJson.get record key).Shallow depth := by
  rw [PyJson.get]
  cases found : record.find? fun field => field.1 = PyStr.ofString key with
  | none => exact Reporting.shallow_of_isHashable rfl
  | some field => exact shallow field (List.mem_of_find?_eq_some found)

/-- A text that fits has no surrogates. -/
theorem isPlain_of_fits
    {depth : Nat}
    {text : PyStr}
    (fits : Fits depth (.str text)) : PyStr.isPlain text = true := by
  have plain := fits.plain
  rw [PyJson.render, PyStr.isPlain_scalar_cons] at plain
  exact Reporting.isPlain_of_renderString plain

/-! ### What is known of a valid record -/

/-- What views need of a record. -/
structure IsShown (record : PyObject) : Prop where
  recordId : ∃ text, PyJson.get record "report_record_id" = .str text
  state : (PyJson.get record "state").isAllowedString Reporting.states = true
  /-- The value of a valid record is a number. -/
  value : (PyJson.get record "state").isText "VALID" = true →
    (∃ text, PyJson.get record "value" = .ofText text) ∨
      ∃ number, PyJson.get record "value" = .int number
  limitations : ∃ items, PyJson.get record "limitations" = .arr items
  /-- A record names a chain exactly when its evidence was verified. -/
  evidence : (PyJson.get record "evidence_chain_content_hash").isNone =
    !(PyJson.get record "publication_state").isText "EVIDENCE_VERIFIED"
  fits : ∀ key, key ≠ "record_hash" → Fits 2 (PyJson.get record key)

/-- The value of a valid record is a text or an integer. -/
theorem number_of_checkValue
    (checked : Reporting.checkValue record = .ok ())
    (isValid : (PyJson.get record "state").isText "VALID" = true) :
    (∃ text, PyJson.get record "value" = .ofText text) ∨
      ∃ number, PyJson.get record "value" = .int number := by
  rw [Reporting.checkValue, if_pos isValid] at checked
  simp only [↓Checks.bind_done_eq_ok, Checks.require_eq_ok] at checked
  obtain ⟨-, -, -, typed⟩ := checked
  have textual : Reporting.isDecimalString (PyJson.get record "value") = true →
      ∃ text, PyJson.get record "value" = .ofText text := by
    intro isDecimal
    obtain ⟨text, isText, -⟩ := PyJson.exists_text_of_isTextWith isDecimal
    exact ⟨text, isText⟩
  unfold Reporting.isTyped at typed
  split at typed
  next =>
    simp only [Bool.and_eq_true] at typed
    exact .inl (textual typed.1.1)
  next =>
    split at typed
    next =>
      simp only [Bool.and_eq_true] at typed
      obtain ⟨number, isNumber, -⟩ := PyJson.exists_int_of_isIntWith typed.1.1
      exact .inr ⟨number, isNumber⟩
    next =>
      simp only [Bool.and_eq_true] at typed
      exact .inl (textual typed.1.1)

theorem exists_arr_of_checkDistinct
    {value : PyJson}
    {isAllowed : PyJson → Bool}
    {code : Reporting.ReportingErrorCode}
    {distinct : List PyJson}
    (checked : Reporting.checkDistinct value isAllowed code = .ok distinct) :
    ∃ items, value = .arr items := by
  cases value with
  | arr items => exact ⟨items, rfl⟩
  | _ => cases checked

theorem isAllowed_of_checkMember
    {value : PyJson}
    {allowed : List String}
    {code : Reporting.ReportingErrorCode}
    (checked : Reporting.checkMember value allowed code = .ok ()) :
    value.isAllowedString allowed = true := by
  rw [Reporting.checkMember, Checks.bind_done_eq_ok, Checks.require_eq_ok,
    Checks.require_eq_ok] at checked
  exact checked.2

theorem evidence_of_checkPublication
    (isState : (PyJson.get record "publication_state").isAllowedString
      Reporting.publicationStates = true)
    (checked : Reporting.checkPublication record = .ok ()) :
    (∃ items, PyJson.get record "limitations" = .arr items) ∧
      (PyJson.get record "evidence_chain_content_hash").isNone =
        !(PyJson.get record "publication_state").isText "EVIDENCE_VERIFIED" := by
  simp only [Reporting.checkPublication, Checks.bind_eq_ok] at checked
  obtain ⟨items, distinct, checked⟩ := checked
  refine ⟨exists_arr_of_checkDistinct distinct, ?_⟩
  obtain ⟨text, listed, isText⟩ := PyJson.exists_text_of_isAllowedString isState
  rw [isText] at checked ⊢
  simp only [Reporting.publicationStates, List.mem_cons, List.not_mem_nil, or_false] at listed
  rcases listed with rfl | rfl
  · rw [if_pos (PyJson.isText_iff.mpr rfl), Checks.require_eq_ok] at checked
    rw [checked.1]
    rfl
  · rw [if_neg (by decide), Checks.require_eq_ok] at checked
    obtain ⟨digest, isDigest, -⟩ := PyJson.exists_text_of_isTextWith checked.1
    rw [isDigest]
    rfl

/-- A valid record can be shown. -/
theorem isShown_of_valid
    (document : IsDocument (.obj record))
    (valid : validateReportRecord interpreter (.obj record) = .ok ()) : IsShown record := by
  obtain ⟨⟨recordId, isId⟩, fields, digest, isRecord, isDigest, -⟩ :=
    Reporting.validateReportRecord_spec valid
  obtain rfl := PyJson.obj.inj isRecord
  have shallow := Reporting.shallow_of_validateReportRecord document.canonical valid
  simp only [validateReportRecord, ↓Checks.bind_done_eq_ok, Checks.bind_eq_ok,
    Reporting.checkMapping_eq_ok, Checks.require_eq_ok, PyJson.obj.injEq] at valid
  obtain ⟨_, ⟨rfl, -⟩, -, -, -, -, state, publicationState, -, -, publication, value, -⟩ := valid
  have evidence := evidence_of_checkPublication (isAllowed_of_checkMember publicationState)
    publication
  exact ⟨⟨recordId, isId⟩, isAllowed_of_checkMember state, number_of_checkValue value,
    evidence.1, evidence.2,
    fun key other => Reporting.fits_get document isDigest other (shallow_get shallow key)⟩

/-! ### Presentations -/

/-- The value that a record shows. -/
def shownValue (record : PyObject) : PyStr :=
  if (PyJson.get record "state").isText "VALID" then valueText (PyJson.get record "value")
  else PyStr.ofString "—"

/-- A presentation that shows the value of a record. -/
structure IsPresented (record : PyObject) (presentation : Presentation) : Prop where
  plainSummary : PyStr.isPlain presentation.summary = true
  plainValue : PyStr.isPlain presentation.valueText = true
  valueText : presentation.valueText = shownValue record
  zero : presentation.isNumericZero =
    ((PyJson.get record "state").isText "VALID" && isPlainZero (PyJson.get record "value"))
  token : presentation.token = "valid-zero" ↔ presentation.isNumericZero = true

theorem isPlain_valueText
    {value : PyJson}
    (isNumber : (∃ text, value = .ofText text) ∨ ∃ number, value = .int number) :
    PyStr.isPlain (valueText value) = true := by
  rcases isNumber with ⟨text, rfl⟩ | ⟨number, rfl⟩
  · exact PyStr.isPlain_ofChars _
  · exact PyStr.isPlain_ofChars _

/-- Every state has a presentation. -/
theorem exists_presentation (shown : IsShown record) :
    ∃ presentation, present record = .ok presentation ∧ IsPresented record presentation := by
  by_cases isValid : (PyJson.get record "state").isText "VALID" = true
  · have plain := isPlain_valueText (shown.value isValid)
    have shows : shownValue record = valueText (PyJson.get record "value") := if_pos isValid
    by_cases isZero : isPlainZero (PyJson.get record "value") = true
    · refine ⟨zeroPresentation (PyJson.get record "value"), ?_,
        ⟨PyStr.isPlain_ofChars _, plain, shows.symm, ?_, by simp [zeroPresentation]⟩⟩
      · simp only [present, isValid, isZero, if_true]
      · rw [isValid, isZero]
        rfl
    · rw [Bool.not_eq_true] at isZero
      refine ⟨_, by simp only [present, isValid, isZero, if_true]; rfl,
        ⟨?_, plain, shows.symm, ?_, by simp⟩⟩
      · rw [PyStr.isPlain_append, PyStr.isPlain_append, plain]
        decide
      · rw [isValid, isZero]
        rfl
  · rw [Bool.not_eq_true] at isValid
    have shows : shownValue record = PyStr.ofString "—" := by
      rw [shownValue, isValid]
      rfl
    obtain ⟨text, listed, isText⟩ := PyJson.exists_text_of_isAllowedString shown.state
    simp only [present, isText]
    simp only [Reporting.states, List.mem_cons, List.not_mem_nil, or_false] at listed
    have notZero : false = ((PyJson.get record "state").isText "VALID" &&
        isPlainZero (PyJson.get record "value")) := by
      rw [isValid]
      rfl
    rcases listed with rfl | rfl | rfl | rfl | rfl | rfl | rfl
    · rw [isText] at isValid
      cases isValid
    all_goals
      exact ⟨_, rfl, PyStr.isPlain_ofChars _, PyStr.isPlain_ofChars _, shows.symm, notZero,
        by decide⟩

/-! ### Views with a digest -/

/-- A mapping that fits is sealed, and its digest is validated. -/
theorem exists_sealed
    {view : PyObject}
    {keys : List String}
    (fits : Fits 3 (.obj view))
    (hasKeys : PyJson.hasKeys view keys = true)
    (isKey : "view_hash" ∈ keys) :
    ∃ digest, Reporting.canonicalHash interpreter view "view_hash" = .ok digest ∧
      validateUxHash interpreter (.obj (setMember view "view_hash" (.ofText digest))) "view_hash" =
        .ok () := by
  obtain ⟨payload, isDigest⟩ := @Reporting.exists_digest_of_fits interpreter _ fits "view_hash"
  have isHex := Sha256.isHexDigest_hexdigestOfBytes payload
  generalize Sha256.hexdigestOfBytes payload = digest at *
  refine ⟨digest, isDigest, ?_⟩
  have sealedDigest : ofUx (canonicalHash interpreter (setMember view "view_hash" (.ofText digest))
      "view_hash") = .ok digest := by
    rw [ofUx, canonicalHash, orJsonInvalid, Reporting.canonicalHash, PyJson.without_setMember]
    rw [Reporting.canonicalHash] at isDigest
    rw [isDigest]
    rfl
  rw [validateUxHash, PyJson.get_setMember_of_hasKeys hasKeys isKey, sealedDigest, Checks.ok_bind,
    Checks.bind_done_eq_ok, Checks.require_eq_ok, Checks.require_eq_ok]
  refine ⟨?_, PyJson.isText_iff.mpr rfl⟩
  rw [PyJson.isHash, PyJson.ofText, PyJson.isTextWith, PyStr.text?_ofString]
  exact isHex

theorem sealView_eq
    {view : PyObject}
    {digest : String}
    (isDigest : Reporting.canonicalHash interpreter view "view_hash" = .ok digest) :
    sealView interpreter view = .ok (setMember view "view_hash" (.ofText digest)) := by
  rw [sealView, ofUx, canonicalHash, orJsonInvalid, isDigest]
  rfl

theorem fits_viewId
    (shown : IsShown record)
    (kind : String) : Fits 2 (viewId kind record) := by
  obtain ⟨text, isText⟩ := shown.recordId
  have fits := shown.fits "report_record_id" (by decide)
  rw [isText] at fits
  rw [viewId, isText]
  refine Reporting.fits_str 2 ?_
  rw [PyStr.isPlain_append, textOf, isPlain_of_fits fits, Bool.and_true]
  exact PyStr.isPlain_ofChars _

theorem fits_limitations (shown : IsShown record) :
    Fits 2 (.arr (Evidence.itemsOf (PyJson.get record "limitations"))) := by
  obtain ⟨items, isList⟩ := shown.limitations
  have fits := shown.fits "limitations" (by decide)
  rw [isList] at fits ⊢
  exact fits

/-- The keys of a view. -/
def viewKeys : List String :=
  ["schema_version", "view_type", "view_id", "organization_id", "mode", "scenario_id",
    "metric_snapshot_id", "state", "status_label", "status_token", "semantic_role",
    "accessible_summary", "value_text", "is_numeric_zero", "reason_code", "publication_state",
    "evidence_available", "limitations", "view_hash"]

theorem map_fst_viewMembers : (viewMembers record presentation).map Prod.fst = viewKeys := rfl

theorem fits_viewMembers
    (shown : IsShown record)
    (presented : IsPresented record presentation) :
    Fits 3 (.obj (membersOf (viewMembers record presentation))) := by
  refine Reporting.fits_mapping (by rw [map_fst_viewMembers]; decide) ?_
  have text := Reporting.fits_ofText 2
  have member := fun key => shown.fits key
  simp only [viewMembers, List.forall_mem_cons, List.not_mem_nil, false_implies, implies_true,
    and_true]
  exact ⟨text _, text _, fits_viewId shown _, member _ (by decide), member _ (by decide),
    member _ (by decide), member _ (by decide), member _ (by decide), text _, text _, text _,
    Reporting.fits_str 2 presented.plainSummary, Reporting.fits_str 2 presented.plainValue,
    fits_bool 2 _, member _ (by decide), member _ (by decide), fits_bool 2 _,
    fits_limitations shown, text _⟩

/-! ### What a view says -/

/-- A view that says what a record says. -/
structure IsViewOf (interpreter : Interpreter) (record view : PyObject) : Prop where
  /-- Its digest is right. -/
  digest : validateUxHash interpreter (.obj view) "view_hash" = .ok ()
  kept : ∀ key ∈ ["organization_id", "mode", "scenario_id", "metric_snapshot_id", "state",
    "reason_code", "publication_state", "limitations"],
    PyJson.get view key = PyJson.get record key
  /-- It shows the value of a valid record and of no other. -/
  value : PyJson.get view "value_text" = .str (shownValue record)
  /-- It says zero exactly of a value that is zero. -/
  zero : PyJson.get view "is_numeric_zero" = .bool true ↔
    (PyJson.get record "state").isText "VALID" = true ∧ IsZero (PyJson.get record "value")
  token : (PyJson.get view "status_token").isText "valid-zero" = true ↔
    (PyJson.get record "state").isText "VALID" = true ∧ IsZero (PyJson.get record "value")
  /-- It offers evidence exactly when the evidence of the record was verified. -/
  evidence : PyJson.get view "evidence_available" =
    .bool ((PyJson.get record "publication_state").isText "EVIDENCE_VERIFIED")

section Views

variable (shown : IsShown record) (presented : IsPresented record presentation)

include shown presented

/-- The members of a view, whatever its digest is. -/
theorem get_view
    {key : String}
    {value : PyJson}
    (other : key ≠ "view_hash")
    (listed : (key, value) ∈ viewMembers record presentation)
    (digest : PyJson) :
    PyJson.get (setMember (membersOf (viewMembers record presentation)) "view_hash" digest) key =
      value := by
  rw [PyJson.get_setMember_of_ne other]
  exact Reporting.get_membersOf (fits_viewMembers shown presented).document listed

/-- What a view keeps of a record. -/
theorem get_view_kept
    {key : String}
    (isKept : key ∈ ["organization_id", "mode", "scenario_id", "metric_snapshot_id", "state",
      "reason_code", "publication_state", "limitations"])
    (digest : PyJson) :
    PyJson.get (setMember (membersOf (viewMembers record presentation)) "view_hash" digest) key =
      PyJson.get record key := by
  obtain ⟨items, isList⟩ := shown.limitations
  simp only [List.mem_cons, List.not_mem_nil, or_false] at isKept
  rcases isKept with rfl | rfl | rfl | rfl | rfl | rfl | rfl | rfl
  all_goals
    refine get_view shown presented (by decide) ?_ digest
    simp [viewMembers, isList, Evidence.itemsOf]

/-- What the runtime says of a record, unless a zero of it must be written. -/
theorem isViewOf_rendered
    {digest : PyJson}
    (isRight : validateUxHash interpreter (.obj (setMember (membersOf (viewMembers record
      presentation)) "view_hash" digest)) "view_hash" = .ok ())
    (notZero : ¬((PyJson.get record "state").isText "VALID" = true ∧
      IsZero (PyJson.get record "value"))) :
    IsViewOf interpreter record
      (setMember (membersOf (viewMembers record presentation)) "view_hash" digest) := by
  have member := fun key value => @get_view _ _ shown presented key value
  have plain : presentation.isNumericZero = false := by
    rw [presented.zero, Bool.and_eq_false_iff, ← Bool.not_eq_true, ← Bool.not_eq_true, ← not_and_or]
    rintro ⟨isValid, isZero⟩
    exact notZero ⟨isValid, isZero_of_isPlainZero (shown.value isValid) isZero⟩
  refine ⟨isRight, fun key isKept => get_view_kept shown presented isKept digest, ?_, ?_, ?_, ?_⟩
  · rw [member "value_text" _ (by decide) (by simp [viewMembers]; rfl) digest, presented.valueText]
  · rw [member "is_numeric_zero" _ (by decide) (by simp [viewMembers]; rfl) digest, plain]
    simp only [notZero, PyJson.bool.injEq, Bool.false_eq_true]
  · rw [member "status_token" _ (by decide) (by simp [viewMembers]; rfl) digest, PyJson.isText_iff]
    refine iff_of_false (fun same => ?_) notZero
    have token := presented.token.mp (PyStr.ofString_injective (PyJson.str.inj same))
    rw [plain] at token
    cases token
  · rw [member "evidence_available" _ (by decide) (by simp [viewMembers]; rfl) digest,
      shown.evidence, Bool.not_not]

end Views

/-! ### Zeros that are written -/

/-- The members of a view that are written for a zero. -/
def zeroKeys : List String :=
  ["status_label", "status_token", "accessible_summary", "value_text", "is_numeric_zero"]

theorem get_writeZero_of_not_mem
    {view : PyObject}
    {key : String}
    (other : key ∉ zeroKeys)
    (value : PyJson) : PyJson.get (writeZero view value) key = PyJson.get view key := by
  simp only [zeroKeys, List.mem_cons, List.not_mem_nil, or_false, not_or] at other
  obtain ⟨label, token, summary, shown, isZero⟩ := other
  rw [writeZero, PyJson.get_setMember_of_ne isZero, PyJson.get_setMember_of_ne shown,
    PyJson.get_setMember_of_ne summary, PyJson.get_setMember_of_ne token,
    PyJson.get_setMember_of_ne label]

@[simp] theorem hasKeys_writeZero
    (view : PyObject)
    (value : PyJson)
    (keys : List String) :
    PyJson.hasKeys (writeZero view value) keys = PyJson.hasKeys view keys := by
  simp only [writeZero, PyJson.hasKeys_setMember]

theorem fits_writeZero
    {view : PyObject}
    {value : PyJson}
    (fits : Fits 3 (.obj view))
    (plain : PyStr.isPlain (valueText value) = true) : Fits 3 (.obj (writeZero view value)) :=
  fits_setMember (fits_setMember (fits_setMember (fits_setMember (fits_setMember fits
    (Reporting.fits_ofText 2 _)) (Reporting.fits_ofText 2 _)) (Reporting.fits_ofText 2 _))
    (Reporting.fits_str 2 plain)) (fits_bool 2 true)

/-- A view whose zero was written says zero. -/
theorem isViewOf_writeZero
    {base : PyObject}
    {digest : PyJson}
    (hasKeys : PyJson.hasKeys base viewKeys = true)
    (kept : ∀ key ∈ ["organization_id", "mode", "scenario_id", "metric_snapshot_id", "state",
      "reason_code", "publication_state", "limitations"],
      PyJson.get base key = PyJson.get record key)
    (evidence : PyJson.get base "evidence_available" =
      .bool ((PyJson.get record "publication_state").isText "EVIDENCE_VERIFIED"))
    (isZero : (PyJson.get record "state").isText "VALID" = true ∧
      IsZero (PyJson.get record "value"))
    (isRight : validateUxHash interpreter (.obj (setMember (writeZero base
      (PyJson.get record "value")) "view_hash" digest)) "view_hash" = .ok ()) :
    IsViewOf interpreter record
      (setMember (writeZero base (PyJson.get record "value")) "view_hash" digest) := by
  have shows : shownValue record = valueText (PyJson.get record "value") := if_pos isZero.1
  have written : ∀ view : PyObject, PyJson.hasKeys view viewKeys = PyJson.hasKeys base viewKeys →
      ∀ key ∈ viewKeys, ∀ value, PyJson.get (setMember view key value) key = value :=
    fun view same key listed value =>
      PyJson.get_setMember_of_hasKeys (same.trans hasKeys) listed value
  refine ⟨isRight, fun key isKept => ?_, ?_, ?_, ?_, ?_⟩
  · have other : key ≠ "view_hash" ∧ key ∉ zeroKeys := by
      simp only [List.mem_cons, List.not_mem_nil, or_false] at isKept
      rcases isKept with rfl | rfl | rfl | rfl | rfl | rfl | rfl | rfl <;> decide
    rw [PyJson.get_setMember_of_ne other.1, get_writeZero_of_not_mem other.2]
    exact kept key isKept
  · rw [PyJson.get_setMember_of_ne (by decide), writeZero, PyJson.get_setMember_of_ne (by decide),
      written _ (by simp only [PyJson.hasKeys_setMember]) _ (by decide), shows]
    rfl
  · rw [PyJson.get_setMember_of_ne (by decide), writeZero,
      written _ (by simp only [PyJson.hasKeys_setMember]) _ (by decide)]
    exact iff_of_true rfl isZero
  · rw [PyJson.get_setMember_of_ne (by decide), writeZero, PyJson.get_setMember_of_ne (by decide),
      PyJson.get_setMember_of_ne (by decide), PyJson.get_setMember_of_ne (by decide),
      written _ (by simp only [PyJson.hasKeys_setMember]) _ (by decide)]
    exact iff_of_true (PyJson.isText_iff.mpr rfl) isZero
  · rw [PyJson.get_setMember_of_ne (by decide), get_writeZero_of_not_mem (by decide), evidence]

/-- A record has a view exactly when it is valid, and every view has a right digest and
says of the value, of zero and of the evidence what the record does. -/
theorem exists_view_iff (document : JsonDocument) :
    (∃ fields view, document.value = .obj fields ∧
      renderReportRecord interpreter document.value = .ok view ∧
      IsViewOf interpreter fields view) ↔
    validateReportRecord interpreter document.value = .ok () := by
  constructor
  · rintro ⟨fields, view, -, rendered, -⟩
    simp only [renderReportRecord, renderRuntimeRecord, validRecord, ofUx, validateRecord,
      ↓Checks.bind_done_eq_ok, Checks.bind_eq_ok, Checks.mapError_eq_ok] at rendered
    obtain ⟨_, ⟨_, ⟨valid, -⟩, -⟩, -⟩ := rendered
    exact valid
  · intro valid
    obtain ⟨-, fields, -, isRecord, -, -⟩ := Reporting.validateReportRecord_spec valid
    have document : IsDocument (.obj fields) := by
      rw [← isRecord]
      exact ⟨document.canonical, document.written⟩
    rw [isRecord] at valid ⊢
    have shown := isShown_of_valid document valid
    obtain ⟨presentation, isPresentation, presented⟩ := exists_presentation shown
    have fits := fits_viewMembers shown presented
    have hasKeys := Reporting.hasKeys_membersOf (viewMembers fields presentation)
    rw [map_fst_viewMembers] at hasKeys
    obtain ⟨digest, isDigest, isRight⟩ := @exists_sealed interpreter _ _ fits hasKeys (by decide)
    have rendered : renderRuntimeRecord interpreter (.obj fields) = .ok (setMember
        (membersOf (viewMembers fields presentation)) "view_hash" (.ofText digest)) := by
      simp only [renderRuntimeRecord, validRecord, ofUx, validateRecord, valid, Except.mapError,
        mappingOf, Checks.ok_bind, shown.state, require, if_true, isPresentation,
        sealView_eq isDigest]
    have sameState := get_view_kept shown presented (by simp : "state" ∈ _) (.ofText digest)
    refine ⟨fields, ?_⟩
    by_cases isZero : (PyJson.get fields "state").isText "VALID" = true ∧
        IsZero (PyJson.get fields "value")
    · have fitsSealed : Fits 3 (.obj (setMember (membersOf (viewMembers fields presentation))
          "view_hash" (.ofText digest))) := fits_setMember fits (Reporting.fits_ofText 2 digest)
      have fitsZero := fits_writeZero fitsSealed (isPlain_valueText (shown.value isZero.1))
      obtain ⟨newDigest, isNew, isNewRight⟩ := @exists_sealed interpreter _ viewKeys fitsZero
        (by rw [hasKeys_writeZero, PyJson.hasKeys_setMember, hasKeys]) (by decide)
      refine ⟨_, rfl, ?_, isViewOf_writeZero (by rw [PyJson.hasKeys_setMember, hasKeys])
        (fun key isKept => get_view_kept shown presented isKept _) ?_ isZero isNewRight⟩
      · rw [renderReportRecord, rendered, Checks.ok_bind]
        simp only [Reporting.memberOf, sameState, isZero.1, isNumericZero_iff.mpr isZero.2,
          Bool.and_self, if_true, Reporting.canonicalHash_eq_ok.mpr isNew]
        rfl
      · rw [get_view shown presented (by decide) (by simp [viewMembers]; rfl), shown.evidence,
          Bool.not_not]
    · refine ⟨_, rfl, ?_, isViewOf_rendered shown presented isRight isZero⟩
      have stays : ((PyJson.get fields "state").isText "VALID" &&
          isNumericZero (PyJson.get fields "value")) = false := by
        rw [Bool.eq_false_iff, ne_eq, Bool.and_eq_true, isNumericZero_iff]
        exact isZero
      rw [renderReportRecord, rendered, Checks.ok_bind]
      simp only [Reporting.memberOf, sameState, stays, Bool.false_eq_true, if_false]
      rfl

/-! ### Drilldowns -/

/-- The keys of a drilldown. -/
def drilldownKeys : List String :=
  ["schema_version", "view_type", "view_id", "organization_id", "mode", "scenario_id",
    "metric_snapshot_id", "metric_content_hash", "evidence_chain_ref",
    "evidence_chain_content_hash", "verification_status", "can_claim_verified_evidence",
    "limitations", "view_hash"]

theorem map_fst_drilldownMembers
    {evidenceChainRef : PyJson} :
    (drilldownMembers record evidenceChainRef).map Prod.fst = drilldownKeys := rfl

theorem fits_drilldownMembers (shown : IsShown record) :
    Fits 3 (.obj (membersOf (drilldownMembers record
      (PyJson.get record "evidence_chain_ref")))) := by
  refine Reporting.fits_mapping (by rw [map_fst_drilldownMembers]; decide) ?_
  have text := Reporting.fits_ofText 2
  have member := fun key => shown.fits key
  simp only [drilldownMembers, List.forall_mem_cons, List.not_mem_nil, false_implies, implies_true,
    and_true]
  exact ⟨text _, text _, fits_viewId shown _, member _ (by decide), member _ (by decide),
    member _ (by decide), member _ (by decide), member _ (by decide), member _ (by decide),
    member _ (by decide), text _, fits_bool 2 _, fits_limitations shown, text _⟩

/-- A valid record has a drilldown with a right digest, which claims verified evidence
exactly when the record is published with it. -/
theorem exists_drilldown
    (document : IsDocument (.obj record))
    (valid : validateReportRecord interpreter (.obj record) = .ok ()) :
    ∃ drilldown, buildReportDrilldown interpreter (.obj record) = .ok drilldown ∧
      validateUxHash interpreter (.obj drilldown) "view_hash" = .ok () ∧
      PyJson.get drilldown "can_claim_verified_evidence" =
        .bool ((PyJson.get record "publication_state").isText "EVIDENCE_VERIFIED") := by
  have shown := isShown_of_valid document valid
  have fits := fits_drilldownMembers shown
  have hasKeys := Reporting.hasKeys_membersOf
    (drilldownMembers record (PyJson.get record "evidence_chain_ref"))
  rw [map_fst_drilldownMembers] at hasKeys
  obtain ⟨digest, isDigest, isRight⟩ := @exists_sealed interpreter _ _ fits hasKeys (by decide)
  have isClone := @Reporting.cloneJson_of_fits interpreter _ _
    (shown.fits "evidence_chain_ref" (by decide)) (by decide)
  refine ⟨_, ?_, isRight, ?_⟩
  · simp only [buildReportDrilldown, validRecord, ofUx, validateRecord, valid, Except.mapError,
      mappingOf, Checks.ok_bind, cloneJson, orJsonInvalid, isClone, sealView_eq isDigest]
  · rw [PyJson.get_setMember_of_ne (by decide)]
    exact Reporting.get_membersOf fits.document (by simp [drilldownMembers])

section Claims

variable {document : JsonDocument} {reportRecordId : PyJson} {generatedAt : GeneratedAt}
  {evidenceChain : Option PyJson}

/-- The drilldown of a record that was built claims verified evidence exactly when a chain
was given. -/
theorem claims_of_buildReportRecord
    {built : PyJson}
    {drilldown : PyObject}
    (isBuilt : Reporting.buildReportRecord interpreter document.value reportRecordId generatedAt
      evidenceChain = .ok built)
    (isDrilldown : buildReportDrilldown interpreter built = .ok drilldown) :
    PyJson.get drilldown "can_claim_verified_evidence" = .bool evidenceChain.isSome := by
  obtain ⟨-, record, rfl, isRecord⟩ := Reporting.buildReportRecord_spec isBuilt
  obtain ⟨other, isOther, -, claims⟩ :=
    @exists_drilldown interpreter _ isRecord.document isRecord.valid
  obtain rfl := Except.ok.inj (isOther.symm.trans isDrilldown)
  rw [claims, isRecord.publicationState]
  cases evidenceChain with
  | none => rfl
  | some chain => rw [Option.isSome_some, if_pos rfl, PyJson.isText_iff.mpr rfl]

end Claims

/-- Verified evidence can be claimed of a snapshot exactly when a record can be built of it
with a chain: no drilldown of a record without a verified and bound chain claims it. -/
theorem exists_verified_drilldown_iff
    (document : JsonDocument)
    (reportRecordId : PyJson)
    (generatedAt : GeneratedAt)
    (evidenceChain : Option PyJson) :
    (∃ built drilldown, Reporting.buildReportRecord interpreter document.value reportRecordId
        generatedAt evidenceChain = .ok built ∧
      buildReportDrilldown interpreter built = .ok drilldown ∧
      validateUxHash interpreter (.obj drilldown) "view_hash" = .ok () ∧
      PyJson.get drilldown "can_claim_verified_evidence" = .bool true) ↔
    Reporting.IsBuildable interpreter document.value reportRecordId generatedAt evidenceChain ∧
      evidenceChain.isSome = true := by
  constructor
  · rintro ⟨built, drilldown, isBuilt, isDrilldown, -, claims⟩
    rw [claims_of_buildReportRecord isBuilt isDrilldown, PyJson.bool.injEq] at claims
    exact ⟨(Reporting.buildReportRecord_spec isBuilt).1, claims⟩
  · rintro ⟨buildable, given⟩
    obtain ⟨built, isBuilt⟩ := Reporting.exists_of_isBuildable buildable
    obtain ⟨-, record, rfl, isRecord⟩ := Reporting.buildReportRecord_spec isBuilt
    obtain ⟨drilldown, isDrilldown, isRight, -⟩ :=
      @exists_drilldown interpreter _ isRecord.document isRecord.valid
    refine ⟨_, drilldown, isBuilt, isDrilldown, isRight, ?_⟩
    rw [claims_of_buildReportRecord isBuilt isDrilldown, given]

end Ux
end QuantumAnalytics
