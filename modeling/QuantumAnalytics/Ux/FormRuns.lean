import QuantumAnalytics.Ux.FormValidity

/-!
# Runs of a form

Every form that the package builds and edits is accepted by both validators.
The values that are applied last decide what a form is, and a form is ready
exactly when nothing in it is left for the inbox.
-/

namespace QuantumAnalytics
namespace Ux

open Reporting (membersOf memberOf mapping GeneratedAt isNoneOr IsDocument)
open PyJson (setMember)

variable {interpreter : Interpreter} {form : PyObject}

/-! ### Documents -/

theorem isDocument_of_isNonemptyString
    {value : PyJson}
    (isString : value.isNonemptyString = true) : IsDocument value := by
  cases value with
  | str text => exact ⟨trivial, trivial⟩
  | _ => cases isString

theorem isDocument_arr
    {items : List PyJson}
    (each : ∀ item ∈ items, IsDocument item) : IsDocument (.arr items) :=
  ⟨PyJson.CanonicalItems.of_forall fun item listed => (each item listed).canonical,
    JsonDecoder.WrittenItems.of_forall fun item listed => (each item listed).written⟩

/-- The items of a document are documents. -/
theorem isDocument_of_mem
    {items : List PyJson}
    (document : IsDocument (.arr items)) : ∀ item ∈ items, IsDocument item := by
  have written : ∀ {items}, JsonDecoder.WrittenItems items →
      ∀ item ∈ items, JsonDecoder.Written item := by
    intro items isWritten
    induction items with
    | nil => simp
    | cons first rest inductionHypothesis =>
        exact List.forall_mem_cons.mpr ⟨isWritten.1, inductionHypothesis isWritten.2⟩
  exact fun item listed => ⟨PyJson.CanonicalItems.of_mem document.canonical item listed,
    written document.written item listed⟩

theorem isDocument_get
    (document : IsDocument (.obj form))
    (key : String) : IsDocument (PyJson.get form key) :=
  have parts := Reporting.memberOf_document key document.canonical document.written
  ⟨parts.1, parts.2⟩

theorem isDocument_setMember
    {fields : PyObject}
    {key : String}
    {value : PyJson}
    (document : IsDocument (.obj fields))
    (isDocument : IsDocument value) : IsDocument (.obj (setMember fields key value)) := by
  refine ⟨document.canonical.setMember isDocument.canonical, ?_⟩
  apply JsonDecoder.WrittenFields.of_forall
  intro field listed
  rcases PyJson.mem_setMember listed with rfl | old
  · exact isDocument.written
  · exact JsonDecoder.WrittenFields.of_mem document.written field old

theorem isDocument_problem
    (code message : String)
    {fieldId : PyJson}
    (document : IsDocument fieldId) : IsDocument (problem code fieldId message) := by
  refine Reporting.isDocument_mapping (show ["code", "field_id", "message"].Nodup by decide) ?_
  intro member listed
  simp only [List.mem_cons, List.not_mem_nil, or_false] at listed
  rcases listed with rfl | rfl | rfl
  · exact Reporting.isDocument_ofText code
  · exact document
  · exact Reporting.isDocument_ofText message

/-- What an edit writes is a document. -/
theorem FieldEdit.Fits.isDocument
    {fieldId : PyJson}
    {edit : FieldEdit}
    (fits : edit.Fits fieldId)
    (document : IsDocument fieldId) :
    IsDocument edit.value ∧ IsDocument edit.diagnostic ∧
      ∀ issue ∈ edit.problems, IsDocument issue := by
  cases fits with
  | valid nonempty _ _ =>
      exact ⟨isDocument_of_isNonemptyString nonempty, Reporting.isDocument_null, by simp⟩
  | missing => exact ⟨Reporting.isDocument_null, Reporting.isDocument_ofText _, by simp⟩
  | @refused _ code message _ _ _ =>
      refine ⟨Reporting.isDocument_null, Reporting.isDocument_ofText code, ?_⟩
      exact List.forall_mem_singleton.mpr (isDocument_problem code message document)

/-- The fields of a document are documents. -/
theorem isDocument_formFields
    (document : IsDocument (.obj form)) :
    ∀ field ∈ formFields form, IsDocument (.obj field) := by
  intro field listed
  have fields := isDocument_get document "fields"
  rw [formFields] at listed
  split at listed
  next items isItems =>
    rw [isItems] at fields
    obtain ⟨item, isItem, isField⟩ := List.mem_filterMap.mp listed
    have member := isDocument_of_mem fields item isItem
    cases item with
    | obj members =>
        obtain rfl := Option.some.inj isField
        exact member
    | _ => cases isField
  next => cases listed

/-- An edited form is a document. -/
theorem isDocument_editedForm
    (document : IsDocument (.obj form))
    (values : PyObject) : IsDocument (.obj (editedForm form values)) := by
  have edits : ∀ field ∈ formFields form, _ := fun field listed =>
    (fits_editField (PyJson.get form "currency") values field).isDocument
      (isDocument_get (isDocument_formFields document field listed) "field_id")
  unfold editedForm
  dsimp only
  refine isDocument_setMember (isDocument_setMember (isDocument_setMember document ?_)
    (Reporting.isDocument_ofText _)) ?_
  · apply isDocument_arr
    intro edited listed
    obtain ⟨field, isField, rfl⟩ := List.mem_map.mp listed
    obtain ⟨value, diagnostic, -⟩ := edits field isField
    exact isDocument_setMember (isDocument_setMember (isDocument_setMember
      (isDocument_formFields document field isField) value) (Reporting.isDocument_ofText _))
      diagnostic
  · apply isDocument_arr
    intro issue listed
    rcases List.mem_append.mp listed with isStart | later
    · rw [startProblems] at isStart
      split at isStart
      next =>
        obtain rfl := List.mem_singleton.mp isStart
        exact isDocument_problem _ _ (Reporting.isDocument_ofText _)
      next => cases isStart
    · obtain ⟨edit, isEdit, isIssue⟩ := List.mem_flatMap.mp later
      obtain ⟨field, isField, rfl⟩ := List.mem_map.mp isEdit
      exact (edits field isField).2.2 issue isIssue

theorem isDocument_seal
    {edited : PyJson}
    (document : IsDocument (.obj form))
    (isSealed : sealForm interpreter form = .ok edited) : IsDocument edited := by
  obtain ⟨formHash, -, rfl⟩ := sealForm_eq_ok.mp isSealed
  exact isDocument_setMember document (Reporting.isDocument_ofText formHash)

/-! ### Forms that are built -/

theorem timestamp_eq_ok
    {time : GeneratedAt}
    {code : UxErrorCode}
    {value : PyJson}
    (isTime : timestamp time code = .ok value) : value = rendered time := by
  cases time with
  | datetime time =>
      simp only [timestamp, Checks.bind_done_eq_ok, Checks.pure_eq_ok] at isTime
      exact isTime.2.symm
  | text text =>
      simp only [timestamp, Checks.bind_done_eq_ok, Checks.pure_eq_ok] at isTime
      exact isTime.2.symm

/-- A time that may be missing is strict. -/
theorem isStrict_of_optionalTimestamp
    {time : Option GeneratedAt}
    {code inputCode : UxErrorCode}
    {value : PyJson}
    (strict : checkTimestampInput time inputCode = .ok ())
    (isTime : optionalTimestamp time code = .ok value) :
    isNoneOr isStrictRfc3339 value = true := by
  rw [checkTimestampInput, Checks.require_eq_ok] at strict
  cases time with
  | none =>
      obtain rfl := Except.ok.inj isTime
      rfl
  | some time =>
      rw [timestamp_eq_ok isTime, isNoneOr, Bool.or_eq_true]
      exact .inr strict

theorem isDocument_of_isNoneOr
    {holds : PyJson → Bool}
    {value : PyJson}
    (isString : ∀ value, holds value = true → IsDocument value)
    (checked : isNoneOr holds value = true) : IsDocument value := by
  rw [isNoneOr, Bool.or_eq_true] at checked
  rcases checked with isNone | holds
  · cases value with
    | null => exact Reporting.isDocument_null
    | _ => cases isNone
  · exact isString value holds

theorem isDocument_of_isTextWith
    {holds : String → Bool}
    {value : PyJson}
    (isText : value.isTextWith holds = true) : IsDocument value := by
  obtain ⟨text, rfl, -⟩ := PyJson.exists_text_of_isTextWith isText
  exact Reporting.isDocument_ofText text

/-- The fields of a form that is built are valid. -/
theorem validateFormField_base :
    ∀ fieldId ∈ configurationFields, validateFormField (.obj (membersOf (fieldMembersOf fieldId
      .null "EMPTY" (.ofText "CONFIGURATION_REQUIRED")))) fieldId = .ok () := by
  decide +kernel

theorem isDocument_baseField (fieldId : String) :
    IsDocument (.obj (membersOf (fieldMembersOf fieldId .null "EMPTY"
      (.ofText "CONFIGURATION_REQUIRED")))) := by
  refine Reporting.isDocument_mapping (show fieldKeys.Nodup by decide) ?_
  intro member listed
  simp only [fieldMembersOf, List.mem_cons, List.not_mem_nil, or_false] at listed
  rcases listed with rfl | rfl | rfl | rfl | rfl | rfl | rfl | rfl | rfl | rfl | rfl
  all_goals exact ⟨trivial, trivial⟩

/-- A scope that is accepted is a document. -/
theorem isDocument_scope
    {value organizationId : PyJson}
    {scope : PyObject}
    (canonical : value.Canonical)
    (isScope : validateScope value organizationId = .ok scope) : IsDocument (.obj scope) := by
  obtain ⟨rfl, -, -, -, nonempty⟩ := validateScope_eq_ok.mp isScope
  refine ⟨canonical, JsonDecoder.WrittenFields.of_forall fun field listed => ?_⟩
  exact (isDocument_of_isNonemptyString (List.all_eq_true.mp nonempty field listed)).written

section Built

variable {request : FormRequest}

theorem map_fst_members (scope : PyObject) (validFrom validTo createdAt : PyJson) :
    (request.members scope validFrom validTo createdAt).map Prod.fst = formKeys := rfl

/-- A form before it is sealed, as it is built. -/
structure IsFresh (form : PyObject) : Prop where
  document : IsDocument (.obj form)
  keys : PyJson.hasKeys form formKeys = true
  header : ValidHeader form
  status : PyJson.get form "status" = .ofText "BLOCKED"
  problems : PyJson.get form "problems" = .arr []
  fields : PyJson.get form "fields" = .arr baseFormFields

/-- What is checked of a request and of what its form is made of. -/
structure FormRequest.Accepted (request : FormRequest) (scope : PyObject)
    (validFrom validTo : PyJson) : Prop where
  formId : request.formId.isNonemptyString = true
  organizationId : request.organizationId.isNonemptyString = true
  mode : request.mode.isAllowedString modes = true
  actual : request.mode.isText "ACTUAL" = true → request.scenarioId.isNone = true
  scenario : request.mode.isText "SCENARIO" = true → request.scenarioId.isNonemptyString = true
  actor : request.actor.isNonemptyString = true
  isScope : validateScope request.scope request.organizationId = .ok scope
  sameScenario : request.mode.isText "SCENARIO" = true →
    PyJson.pyEq (PyJson.get scope "scenario_id") request.scenarioId = true
  noScenario : request.mode.isText "ACTUAL" = true → hasKey scope "scenario_id" = false
  currency : isNoneOr (PyJson.isTextWith PyText.isCurrencyCode) request.currency = true
  strictFrom : isNoneOr isStrictRfc3339 validFrom = true
  strictTo : isNoneOr isStrictRfc3339 validTo = true
  interval : isInterval validFrom validTo = true
  strictCreated : isStrictRfc3339 (rendered request.createdAt) = true

/-- The form of a request. -/
theorem exists_accepted_of_built
    {built : PyJson}
    (isBuilt : buildConfigurationForm interpreter request = .ok built) :
    ∃ scope validFrom validTo, request.Accepted scope validFrom validTo ∧
      sealForm interpreter (membersOf (request.members scope validFrom validTo
        (rendered request.createdAt))) = .ok built := by
  simp only [buildConfigurationForm, inner, Checks.mapError_eq_ok] at isBuilt
  simp only [↓Checks.bind_done_eq_ok, Checks.bind_eq_ok] at isBuilt
  obtain ⟨fromStrict, toStrict, createdStrict, members, checked, isSealed⟩ := isBuilt
  simp only [FormRequest.validate] at checked
  simp only [↓Checks.bind_done_eq_ok, Checks.bind_eq_ok, Checks.require_eq_ok,
    checkMember_eq_ok, Checks.pure_eq_ok] at checked
  obtain ⟨formId, owner, mode, actual, scenario, actor, scope, isScope, sameScenario, noScenario,
    currency, validFrom, isFrom, validTo, isTo, interval, createdAt, isCreated, rfl⟩ := checked
  rw [checkTimestampInput, Checks.require_eq_ok, Option.all_some] at createdStrict
  rw [timestamp_eq_ok isCreated] at isSealed
  exact ⟨scope, validFrom, validTo, ⟨formId, owner, mode, actual, scenario, actor, isScope,
    sameScenario, noScenario, currency, isStrict_of_optionalTimestamp fromStrict isFrom,
    isStrict_of_optionalTimestamp toStrict isTo, interval, createdStrict⟩, isSealed⟩

section Accepted

variable {scope : PyObject} {validFrom validTo : PyJson}

theorem FormRequest.Accepted.isDocument_mode
    (accepted : request.Accepted scope validFrom validTo) :
    IsDocument request.mode ∧ IsDocument request.scenarioId := by
  obtain ⟨text, listed, isText⟩ := PyJson.exists_text_of_isAllowedString accepted.mode
  simp only [modes, List.mem_cons, List.not_mem_nil, or_false] at listed
  rw [isText]
  refine ⟨Reporting.isDocument_ofText text, ?_⟩
  rcases listed with rfl | rfl
  · refine isDocument_of_isNoneOr (fun _ => isDocument_of_isNonemptyString) ?_
    rw [isNoneOr, accepted.actual (PyJson.isText_iff.mpr isText), Bool.true_or]
  · exact isDocument_of_isNonemptyString (accepted.scenario (PyJson.isText_iff.mpr isText))

/-- The members of a form that is built make a document. -/
theorem FormRequest.Accepted.isDocument
    (accepted : request.Accepted scope validFrom validTo) :
    IsDocument (mapping (request.members scope validFrom validTo
      (rendered request.createdAt))) := by
  have textual : ∀ value, isStrictRfc3339 value = true → IsDocument value := fun value isStrict =>
    isDocument_of_isTextWith (Bool.and_eq_true_iff.mp isStrict).1
  refine Reporting.isDocument_mapping (show formKeys.Nodup by decide) ?_
  simp only [FormRequest.members, List.forall_mem_cons, Reporting.isDocument_ofText, true_and]
  refine ⟨isDocument_of_isNonemptyString accepted.formId,
    isDocument_of_isNonemptyString accepted.organizationId, accepted.isDocument_mode.1,
    accepted.isDocument_mode.2, isDocument_of_isNonemptyString accepted.actor,
    isDocument_scope request.scopeCanonical accepted.isScope,
    isDocument_of_isNoneOr textual accepted.strictFrom,
    isDocument_of_isNoneOr textual accepted.strictTo,
    isDocument_of_isNoneOr (fun _ => isDocument_of_isTextWith) accepted.currency,
    textual _ accepted.strictCreated, ?_, Reporting.isDocument_empty, List.forall_mem_nil _⟩
  apply isDocument_arr
  intro field listed
  obtain ⟨fieldId, -, rfl⟩ := List.mem_map.mp listed
  exact isDocument_baseField fieldId

/-- A form with the members of an accepted request is fresh. -/
theorem FormRequest.Accepted.isFresh
    (accepted : request.Accepted scope validFrom validTo) :
    IsFresh (membersOf (request.members scope validFrom validTo
      (rendered request.createdAt))) := by
  have document := accepted.isDocument
  have keys := Reporting.hasKeys_membersOf (request.members scope validFrom validTo
    (rendered request.createdAt))
  rw [map_fst_members] at keys
  have values : ∀ member ∈ request.members scope validFrom validTo (rendered request.createdAt),
      _ := fun member listed => Reporting.get_membersOf document listed
  rw [mapping] at document
  generalize membersOf (request.members scope validFrom validTo (rendered request.createdAt)) =
    form at *
  simp only [FormRequest.members, List.forall_mem_cons] at values
  obtain ⟨isVersion, isId, isOwner, isMode, isScenario, isActor, isScope, isFrom, isTo,
    isCurrency, isCreated, isPublication, isFields, isStatus, isProblems, -⟩ := values
  refine ⟨document, keys, ⟨?_, ?_, ?_, ?_, ?_, ?_, ?_, ?_, ?_⟩, isStatus, isProblems, isFields⟩
  · rw [isVersion]
    exact PyJson.isText_iff.mpr rfl
  · rw [isPublication]
    exact PyJson.isText_iff.mpr rfl
  · rw [isId]
    exact accepted.formId
  · rw [isOwner]
    exact accepted.organizationId
  · rw [isActor]
    exact accepted.actor
  · simp only [checkMode, Checks.bind_done_eq_ok, Checks.require_eq_ok, checkMember_eq_ok]
    rw [isMode, isScenario]
    exact ⟨accepted.mode, accepted.actual, accepted.scenario⟩
  · simp only [checkScopeScenario, Checks.bind_done_eq_ok, Checks.require_eq_ok]
    rw [isScope, isOwner, isMode, isScenario]
    obtain ⟨-, asked⟩ := validateScope_eq_ok.mp accepted.isScope
    exact ⟨scope, validateScope_eq_ok.mpr ⟨rfl, asked⟩, accepted.noScenario,
      accepted.sameScenario⟩
  · rw [checkCurrency, isCurrency, Checks.require_eq_ok]
    exact accepted.currency
  · simp only [checkTimes, Checks.bind_done_eq_ok, Checks.require_eq_ok]
    rw [isCreated, isFrom, isTo]
    exact ⟨accepted.strictCreated, accepted.strictFrom, accepted.strictTo, accepted.interval⟩

end Accepted

/-- What is built. -/
theorem exists_fresh_of_built
    {built : PyJson}
    (isBuilt : buildConfigurationForm interpreter request = .ok built) :
    ∃ form, IsFresh form ∧ sealForm interpreter form = .ok built := by
  obtain ⟨scope, validFrom, validTo, accepted, isSealed⟩ := exists_accepted_of_built isBuilt
  exact ⟨_, accepted.isFresh, isSealed⟩

/-- A form that is built is valid, and a document. -/
theorem isValidForm_of_built
    {built : PyJson}
    (isBuilt : buildConfigurationForm interpreter request = .ok built) :
    IsValidForm interpreter built ∧ IsDocument built := by
  obtain ⟨form, fresh, isSealed⟩ := exists_fresh_of_built isBuilt
  refine ⟨isValidForm_of_seal isSealed fresh.keys fresh.header ?_ ?_ ?_,
    isDocument_seal fresh.document isSealed⟩
  · rw [fresh.status]
    decide
  · rw [checkProblems, fresh.problems]
    rfl
  · refine ⟨_, fresh.fields, ?_⟩
    rw [baseFormFields, List.forall₂_map_left_iff, List.forall₂_same]
    exact validateFormField_base

end Built

/-! ### Applying values -/

/-- A valid form is a mapping. -/
theorem exists_form_of_valid
    {value : PyJson}
    (valid : IsValidForm interpreter value) : ∃ form, value = .obj form := by
  have boundary := valid.boundary
  simp only [validateConfigurationFormBoundary] at boundary
  simp only [↓Checks.bind_done_eq_ok, Checks.bind_eq_ok, mappingOf_eq_ok] at boundary
  obtain ⟨form, isForm, -⟩ := boundary
  exact ⟨form, isForm⟩

/-- The copy of a valid document is the document. -/
theorem cloneJson_of_valid
    (valid : IsValidForm interpreter (.obj form))
    (document : IsDocument (.obj form)) :
    cloneJson interpreter (.obj form) = .ok (.obj form) := by
  obtain ⟨-, -, body⟩ := isValidForm_iff.mp valid
  obtain ⟨formHash, isHash, stated⟩ := body.formHash
  rw [canonicalHash, orJsonInvalid, Checks.mapError_eq_ok] at isHash
  have states : ∀ field ∈ form, field.1 = PyStr.ofString "form_hash" →
      field.2 = .ofText formHash := by
    intro field listed isKey
    rw [← document.canonical.get_eq_of_mem listed isKey]
    exact PyJson.isText_iff.mp stated
  obtain ⟨payload, isPayload⟩ := Reporting.exists_payload formHash isHash states
  obtain ⟨text, isText, -⟩ := Checks.bind_eq_ok.mp isPayload
  have loaded := PyJson.loads_of_dumps document.canonical document.written
    (Reporting.canonicalJson_eq_ok.mp isText)
  rw [cloneJson, orJsonInvalid, Reporting.cloneJson, isText, Checks.ok_bind, loaded]
  rfl

/-- What values make of a valid document. -/
theorem applyConfigurationValues_eq
    (valid : IsValidForm interpreter (.obj form))
    (document : IsDocument (.obj form))
    (values : PyJson) :
    applyConfigurationValues interpreter (.obj form) values = (do
      let values ← configurationValues values
      inner (sealForm interpreter (editedForm form values))) := by
  rw [applyConfigurationValues, applyRuntimeValues, valid.boundary, valid.runtime,
    cloneJson_of_valid valid document]
  rfl

/-- Every form that is built and edited is valid, and a document. -/
theorem Reachable.valid_and_document
    {value : PyJson}
    (reachable : Reachable interpreter value) :
    IsValidForm interpreter value ∧ IsDocument value := by
  induction reachable with
  | built isBuilt => exact isValidForm_of_built isBuilt
  | applied _ isApplied inductionHypothesis =>
      obtain ⟨valid, document⟩ := inductionHypothesis
      obtain ⟨form, rfl⟩ := exists_form_of_valid valid
      rw [applyConfigurationValues_eq valid document, Checks.bind_eq_ok] at isApplied
      obtain ⟨values, -, isSealed⟩ := isApplied
      rw [inner, Checks.mapError_eq_ok] at isSealed
      exact ⟨isValidForm_edit valid isSealed,
        isDocument_seal (isDocument_editedForm document values) isSealed⟩

/-- Every form that the package builds and edits is accepted by both validators,
the digest that it states included. -/
theorem Reachable.isValidForm
    {value : PyJson}
    (reachable : Reachable interpreter value) : IsValidForm interpreter value :=
  reachable.valid_and_document.1

/-! ### The last values -/

/-- A later edit of a field overwrites an earlier one. -/
theorem FieldEdit.write_write (edit later : FieldEdit) (field : PyObject) :
    later.write (edit.write field) = later.write field := by
  simp only [FieldEdit.write]
  rw [PyJson.setMember_comm (show "value" ≠ "diagnostic" by decide),
    PyJson.setMember_comm (show "value" ≠ "state" by decide), PyJson.setMember_setMember,
    PyJson.setMember_comm (show "state" ≠ "diagnostic" by decide), PyJson.setMember_setMember,
    PyJson.setMember_setMember]

/-- An edit does not depend on what an earlier edit wrote. -/
theorem editField_write
    {field : PyObject}
    (currency : PyJson)
    (values : PyObject)
    (edit : FieldEdit) :
    editField currency values (edit.write field) = editField currency values field := by
  have others : ∀ key, key ≠ "value" → key ≠ "state" → key ≠ "diagnostic" →
      PyJson.get (edit.write field) key = PyJson.get field key := by
    intro key notValue notState notDiagnostic
    rw [FieldEdit.write, PyJson.get_setMember_of_ne notDiagnostic,
      PyJson.get_setMember_of_ne notState, PyJson.get_setMember_of_ne notValue]
  rw [editField, editField, others "field_id" (by decide) (by decide) (by decide),
    others "requires_currency" (by decide) (by decide) (by decide)]

theorem sealForm_setMember (formHash : PyJson) :
    sealForm interpreter (setMember form "form_hash" formHash) = sealForm interpreter form := by
  rw [sealForm, sealForm, canonicalHash_setMember]
  simp only [PyJson.setMember_setMember]

/-- The fields of a form that was edited and sealed. -/
theorem formFields_edited
    (keys : PyJson.hasKeys form formKeys = true)
    (values : PyObject)
    (formHash : PyJson) :
    formFields (setMember (editedForm form values) "form_hash" formHash) =
      (formFields form).map fun field =>
        (editField (PyJson.get form "currency") values field).write field := by
  have isFields := (@get_editedForm form values keys).1
  rw [formFields, PyJson.get_setMember_of_ne (by decide), isFields]
  dsimp only
  rw [List.filterMap_map]
  exact List.filterMap_eq_map ▸ rfl

/-- The members of a form that a later edit writes again. -/
theorem setMember_edited (fields status problems formHash laterFields laterStatus
    laterProblems : PyJson) :
    setMember (setMember (setMember (setMember (setMember (setMember (setMember form "fields"
      fields) "status" status) "problems" problems) "form_hash" formHash) "fields" laterFields)
      "status" laterStatus) "problems" laterProblems =
    setMember (setMember (setMember (setMember form "fields" laterFields) "status" laterStatus)
      "problems" laterProblems) "form_hash" formHash := by
  rw [PyJson.setMember_comm (show "fields" ≠ "form_hash" by decide),
    PyJson.setMember_comm (show "status" ≠ "form_hash" by decide),
    PyJson.setMember_comm (show "problems" ≠ "form_hash" by decide),
    PyJson.setMember_comm (show "fields" ≠ "problems" by decide),
    PyJson.setMember_comm (show "fields" ≠ "status" by decide), PyJson.setMember_setMember,
    PyJson.setMember_comm (show "status" ≠ "problems" by decide), PyJson.setMember_setMember,
    PyJson.setMember_setMember]

/-- An edit of an edited form is an edit of the form. -/
theorem sealForm_editedForm
    (keys : PyJson.hasKeys form formKeys = true)
    (values later : PyObject)
    (formHash : PyJson) :
    sealForm interpreter (editedForm (setMember (editedForm form values) "form_hash" formHash)
      later) = sealForm interpreter (editedForm form later) := by
  obtain ⟨-, -, -, -, others⟩ := @get_editedForm form values keys
  have same : ∀ key, key ≠ "fields" → key ≠ "problems" → key ≠ "status" → key ≠ "form_hash" →
      PyJson.get (setMember (editedForm form values) "form_hash" formHash) key =
        PyJson.get form key := by
    intro key notFields notProblems notStatus notHash
    rw [PyJson.get_setMember_of_ne notHash, others key notFields notProblems notStatus]
  have currency := same "currency" (by decide) (by decide) (by decide) (by decide)
  have start : startProblems (setMember (editedForm form values) "form_hash" formHash) =
      startProblems form := by
    rw [startProblems, startProblems, same "valid_from" (by decide) (by decide) (by decide)
      (by decide)]
  have fields := formFields_edited keys values formHash
  generalize isEdited : setMember (editedForm form values) "form_hash" formHash = edited at *
  rw [editedForm, currency, start, fields]
  simp only [List.map_map, Function.comp_def, editField_write, FieldEdit.write_write]
  rw [← isEdited, editedForm, setMember_edited, sealForm_setMember, editedForm]
  simp only [List.map_map, Function.comp_def]

/-- However a form was edited, the values that are applied last decide what it
becomes: they make of it what they make of the form as it was built. -/
theorem Reachable.applyConfigurationValues_last
    {value edited : PyJson}
    {earlier : List PyJson}
    (reachable : Reachable interpreter value)
    (isEdited : earlier.foldlM (applyConfigurationValues interpreter) value = .ok edited)
    (last : PyJson) :
    applyConfigurationValues interpreter edited last =
      applyConfigurationValues interpreter value last := by
  induction earlier generalizing value with
  | nil =>
      obtain rfl := Except.ok.inj isEdited
      rfl
  | cons first earlier inductionHypothesis =>
      rw [List.foldlM_cons, Checks.bind_eq_ok] at isEdited
      obtain ⟨next, isNext, isEdited⟩ := isEdited
      rw [inductionHypothesis (.applied reachable isNext) isEdited]
      obtain ⟨valid, document⟩ := reachable.valid_and_document
      obtain ⟨form, rfl⟩ := exists_form_of_valid valid
      obtain ⟨nextValid, nextDocument⟩ := (reachable.applied isNext).valid_and_document
      obtain ⟨nextForm, rfl⟩ := exists_form_of_valid nextValid
      rw [applyConfigurationValues_eq valid document, Checks.bind_eq_ok] at isNext
      obtain ⟨values, -, isSealed⟩ := isNext
      rw [inner, Checks.mapError_eq_ok, sealForm_eq_ok] at isSealed
      obtain ⟨formHash, -, isNextForm⟩ := isSealed
      obtain rfl := PyJson.obj.inj isNextForm
      rw [applyConfigurationValues_eq valid document,
        applyConfigurationValues_eq nextValid nextDocument]
      simp only [sealForm_editedForm (isValidForm_iff.mp valid).1]

/-! ### Forms that are ready -/

theorem formSources_eq_nil_iff :
    formSources form = [] ↔
      (∀ field ∈ formFields form, (PyJson.get field "state").isText "VALID" = true) ∧
        (PyJson.get form "valid_from").isNone = false := by
  rw [formSources, List.append_eq_nil_iff, List.map_eq_nil_iff, List.filter_eq_nil_iff]
  simp

theorem statusOf_eq_ready_iff
    {problems : List PyJson}
    {states : List String}
    (sameLength : states.length = configurationFields.length) :
    statusOf problems states = "READY_FOR_RULE_DRAFT" ↔
      problems = [] ∧ ∀ state ∈ states, state = "VALID" := by
  have allValid : states.count "VALID" = configurationFields.length ↔
      ∀ state ∈ states, state = "VALID" := by
    rw [← sameLength, List.count_eq_length]
    exact forall₂_congr fun _ _ => eq_comm
  have noneInvalid : (∀ state ∈ states, state = "VALID") →
      (states.countP fun state => state = "INVALID" ∨ state = "BLOCKED") = 0 := by
    intro valid
    rw [List.countP_eq_zero]
    intro state listed
    rw [valid state listed]
    decide
  unfold statusOf
  dsimp only
  split_ifs with blocked ready partly
  · refine iff_of_false (by decide) ?_
    rintro ⟨noProblems, valid⟩
    exact blocked.elim (fun some => some noProblems) (fun some => some (noneInvalid valid))
  · rw [not_or, not_not] at blocked
    exact iff_of_true rfl ⟨blocked.1, allValid.mp ready⟩
  · exact iff_of_false (by decide) fun valid => ready (allValid.mpr valid.2)
  · exact iff_of_false (by decide) fun valid => ready (allValid.mpr valid.2)

/-- An edit that makes a field valid has no problem. -/
theorem FieldEdit.Fits.problems_eq_nil
    {fieldId : PyJson}
    {edit : FieldEdit}
    (fits : edit.Fits fieldId)
    (isValid : edit.state = "VALID") : edit.problems = [] := by
  cases fits with
  | valid => rfl
  | missing => rfl
  | refused isState _ _ =>
      rcases isState with rfl | rfl
      · exact absurd (show "INVALID" = "VALID" from isValid) (by decide)
      · exact absurd (show "BLOCKED" = "VALID" from isValid) (by decide)

/-- The status of a form is that it is ready exactly when it has no source. -/
def IsTold (form : PyObject) : Prop :=
  (PyJson.get form "status").isText "READY_FOR_RULE_DRAFT" = true ↔ formSources form = []

theorem startProblems_eq_nil_iff :
    startProblems form = [] ↔ (PyJson.get form "valid_from").isNone = false := by
  rw [startProblems]
  split
  next isNone => simp [isNone]
  next isSome => simpa using isSome

theorem ofText_eq_iff {first second : String} :
    PyJson.ofText first = .ofText second ↔ first = second :=
  ⟨fun same => PyStr.ofString_injective (PyJson.str.inj same), congrArg PyJson.ofText⟩

theorem isTold_edited
    {edited : PyObject}
    {values : PyObject}
    (valid : IsValidForm interpreter (.obj form))
    (isSealed : sealForm interpreter (editedForm form values) = .ok (.obj edited)) :
    IsTold edited := by
  obtain ⟨keys, -, body⟩ := isValidForm_iff.mp valid
  obtain ⟨formHash, -, isEdited⟩ := sealForm_eq_ok.mp isSealed
  obtain rfl := PyJson.obj.inj isEdited
  obtain ⟨-, -, isStatus, -, others⟩ := @get_editedForm form values keys
  have each := forall₂_formFields body.fields
  have sameLength : (((formFields form).map (editField (PyJson.get form "currency") values)).map
      fun edit => edit.state).length = configurationFields.length := by
    rw [List.length_map, List.length_map, each.length_eq]
  have states : ∀ field ∈ formFields form, ∀ edit : FieldEdit,
      (PyJson.get (edit.write field) "state").isText "VALID" = true ↔ edit.state = "VALID" := by
    intro field listed edit
    obtain ⟨fieldId, -, isValid⟩ := exists_valid_of_mem body.fields field listed
    rw [(get_write (keys_and_id_of_valid isValid).1 edit).2.1, PyJson.isText_iff, ofText_eq_iff]
  rw [IsTold, PyJson.get_setMember_of_ne (by decide), isStatus, PyJson.isText_iff, ofText_eq_iff,
    statusOf_eq_ready_iff sameLength, formSources_eq_nil_iff, formFields_edited keys values,
    PyJson.get_setMember_of_ne (by decide), others "valid_from" (by decide) (by decide) (by decide),
    List.append_eq_nil_iff, startProblems_eq_nil_iff, List.forall_mem_map, List.forall_mem_map,
    List.forall_mem_map]
  constructor
  · rintro ⟨⟨given, -⟩, allValid⟩
    exact ⟨fun field listed => (states field listed _).mpr (allValid field listed), given⟩
  · rintro ⟨allValid, given⟩
    have isValid := fun field listed => (states field listed _).mp (allValid field listed)
    refine ⟨⟨given, ?_⟩, isValid⟩
    rw [List.flatMap_eq_nil_iff, List.forall_mem_map]
    exact fun field listed => (fits_editField _ values field).problems_eq_nil (isValid field listed)

/-- The fields of a form that is built have no value. -/
theorem isEmpty_baseFormFields :
    baseFormFields.filterMap fieldMembers? ≠ [] ∧
      ∀ field ∈ baseFormFields.filterMap fieldMembers?,
        (PyJson.get field "state").isText "VALID" = false := by
  decide +kernel

theorem isTold_built
    {request : FormRequest}
    {built : PyObject}
    (isBuilt : buildConfigurationForm interpreter request = .ok (.obj built)) : IsTold built := by
  obtain ⟨form, fresh, isSealed⟩ := exists_fresh_of_built isBuilt
  obtain ⟨formHash, -, isForm⟩ := sealForm_eq_ok.mp isSealed
  obtain rfl := PyJson.obj.inj isForm
  refine iff_of_false ?_ ?_
  · rw [PyJson.get_setMember_of_ne (by decide), fresh.status]
    decide
  · rw [formSources_eq_nil_iff, formFields, PyJson.get_setMember_of_ne (by decide), fresh.fields]
    rintro ⟨allValid, -⟩
    obtain ⟨nonempty, isEmpty⟩ := isEmpty_baseFormFields
    obtain ⟨field, listed⟩ := List.exists_mem_of_ne_nil _ nonempty
    exact Bool.noConfusion ((isEmpty field listed).symm.trans (allValid field listed))

theorem Reachable.isTold
    {form : PyObject}
    (reachable : Reachable interpreter (.obj form)) : IsTold form := by
  generalize isForm : PyJson.obj form = value at reachable
  cases reachable with
  | built isBuilt => exact isTold_built (isForm ▸ isBuilt)
  | applied reachable isApplied =>
      subst isForm
      obtain ⟨valid, document⟩ := reachable.valid_and_document
      obtain ⟨earlier, rfl⟩ := exists_form_of_valid valid
      rw [applyConfigurationValues_eq valid document, Checks.bind_eq_ok] at isApplied
      obtain ⟨values, -, isSealed⟩ := isApplied
      rw [inner, Checks.mapError_eq_ok] at isSealed
      exact isTold_edited valid isSealed

/-! ### The inbox of edited forms -/

section Inbox

variable {records forms : List PyJson} {imports : List RawFileMetadata} {tenantId : Option PyStr}
  {generatedAt : GeneratedAt} {inbox : ExceptionInbox}

/-- An accepted call has no entry exactly when it has no source. -/
theorem exceptions_eq_nil_of_sources
    (built : buildExceptionInbox interpreter records forms imports tenantId generatedAt =
      .ok inbox) :
    (inbox.exceptions = [] ↔ sources records forms imports = []) ∧
      ∀ record ∈ records, ∃ members, record = .obj members := by
  obtain ⟨-, -, -, -, state, collected, -, isSealed⟩ := buildExceptionInbox_eq_ok.mp built
  obtain ⟨-, loop⟩ := collect_eq_ok.mp collected
  obtain ⟨parts, contributed, -, -, isState⟩ :=
    (adds_inputStep interpreter (tenantId.getD [])).foldlM_eq_ok.mp loop
  have read := Collecting.mapM_flatMap exceptions_of_contribution contributed
  rw [← sources_eq] at read
  have sameLength := (Checks.mapM_eq_ok.mp read).length_eq
  constructor
  · rw [sealInbox_exceptions isSealed, ← List.length_eq_zero_iff, ← List.length_eq_zero_iff,
      sameLength, ← isState, foldl_add, sortExceptions, List.length_insertionSort]
    simp
  · intro record listed
    have isInput : Input.record record ∈ inputs records forms imports :=
      List.mem_append_left _ (List.mem_append_left _ (List.mem_map_of_mem listed))
    obtain ⟨part, -, isPart⟩ := Checks.exists_left_of_mem
      (List.Forall₂.flip (Checks.mapM_eq_ok.mp contributed)) isInput
    simp only [Input.contribution] at isPart
    simp only [↓Checks.bind_done_eq_ok, Checks.bind_eq_ok, mappingOf_eq_ok] at isPart
    obtain ⟨-, members, isMapping, -⟩ := isPart
    exact ⟨members, isMapping⟩

/-- The inbox of an accepted call is empty exactly when every record has a value or
needs none, every form is ready and no file was held back. -/
theorem exceptions_eq_nil_iff
    (built : buildExceptionInbox interpreter records forms imports tenantId generatedAt =
      .ok inbox)
    (reachable : ∀ form ∈ forms, Reachable interpreter form) :
    inbox.exceptions = [] ↔
      (∀ record ∈ records, (memberOf "state" record).isAllowedString ["VALID", "NOT_APPLICABLE"] =
        true) ∧
      (∀ form ∈ forms, (memberOf "status" form).isText "READY_FOR_RULE_DRAFT" = true) ∧
      ∀ file ∈ imports, file.state ≠ .quarantined ∧ file.state ≠ .rejected := by
  obtain ⟨empty, mappings⟩ := exceptions_eq_nil_of_sources built
  rw [empty, sources, List.append_eq_nil_iff, List.append_eq_nil_iff, List.flatMap_eq_nil_iff,
    List.flatMap_eq_nil_iff, List.flatMap_eq_nil_iff, and_assoc]
  refine and_congr ?_ (and_congr ?_ ?_)
  · refine forall₂_congr fun record listed => ?_
    obtain ⟨members, rfl⟩ := mappings record listed
    rw [sourcesOfRecord, recordSources, memberOf]
    split
    next isValid => simp [isValid]
    next isOther => simp [isOther]
  · refine forall₂_congr fun form listed => ?_
    obtain ⟨members, rfl⟩ := exists_form_of_valid (reachable form listed).valid_and_document.1
    exact (reachable _ listed).isTold.symm
  · refine forall₂_congr fun file _ => ?_
    rw [importSources, ← not_or]
    split
    next heldBack => simp [heldBack]
    next clear => simp [clear]

end Inbox

/-! ### A form that is built -/

/-- The scope of an organization. -/
def organizationScope : PyJson := .obj [(PyStr.ofString "organization_id", .ofText "o")]

theorem canonical_organizationScope : organizationScope.Canonical :=
  ⟨List.pairwise_singleton _ _, trivial, trivial⟩

/-- A request for a form of actual data. -/
def actualRequest : FormRequest where
  formId := .ofText "f"
  organizationId := .ofText "o"
  mode := .ofText "ACTUAL"
  scenarioId := .null
  actor := .ofText "a"
  scope := organizationScope
  validFrom := some noon
  validTo := none
  currency := .ofText "RUB"
  createdAt := noon
  scopeCanonical := canonical_organizationScope

/-- Values for the four fields. -/
def allValues : PyJson :=
  .obj [(PyStr.ofString "cost", .ofText "10.5"), (PyStr.ofString "tax_rate", .ofText "0.2"),
    (PyStr.ofString "tax_base", .ofText "NET_SALES"), (PyStr.ofString "other_expense", .ofText "0")]

/-- The form of the request with the values. -/
def editedRequest : EditResult PyObject := do
  let form ← buildConfigurationForm Reporting.smallInterpreter actualRequest
  let form ← inner (mappingOf form .uxFormMalformed)
  let values ← configurationValues allValues
  let edited ← inner (sealForm Reporting.smallInterpreter (editedForm form values))
  inner (mappingOf edited .uxFormMalformed)

/-- Whose form it is. -/
def actualContext : Context := ⟨PyStr.ofString "o", PyStr.ofString "ACTUAL", none⟩

/-- The form with the values is ready. -/
theorem exists_ready_editedRequest :
    ∃ edited, editedRequest = .ok edited ∧
      (PyJson.get edited "status").isText "READY_FOR_RULE_DRAFT" = true ∧
      contextOf edited = actualContext := by
  have evaluated : (editedRequest.map fun edited =>
      ((PyJson.get edited "status").isText "READY_FOR_RULE_DRAFT", contextOf edited)).toOption =
        some (true, actualContext) := by
    decide +kernel
  cases isEdited : editedRequest with
  | error failure =>
      rw [isEdited] at evaluated
      cases evaluated
  | ok edited =>
      rw [isEdited] at evaluated
      obtain ⟨ready, isContext⟩ := Prod.mk.inj (Option.some.inj evaluated)
      exact ⟨edited, rfl, ready, isContext⟩

/-- The form is built, given its values and ready. -/
theorem exists_edited_actualRequest :
    ∃ form edited,
      buildConfigurationForm Reporting.smallInterpreter actualRequest = .ok form ∧
      applyConfigurationValues Reporting.smallInterpreter form allValues = .ok (.obj edited) ∧
      (PyJson.get edited "status").isText "READY_FOR_RULE_DRAFT" = true ∧
      contextOf edited = actualContext := by
  obtain ⟨edited, isEdited, ready, isContext⟩ := exists_ready_editedRequest
  simp only [editedRequest, Checks.bind_eq_ok] at isEdited
  obtain ⟨value, isBuilt, form, isForm, values, isValues, sealed, isSealed, isMapping⟩ := isEdited
  rw [inner, Checks.mapError_eq_ok, mappingOf_eq_ok] at isForm isMapping
  obtain rfl := isForm
  obtain rfl := isMapping
  obtain ⟨valid, document⟩ := isValidForm_of_built isBuilt
  refine ⟨_, edited, isBuilt, ?_, ready, isContext⟩
  rw [applyConfigurationValues_eq valid document, isValues]
  exact isSealed

/-- The inbox of the form is built. -/
theorem exists_inbox_of_ready
    {edited : PyObject}
    (reachable : Reachable Reporting.smallInterpreter (.obj edited))
    (ready : (PyJson.get edited "status").isText "READY_FOR_RULE_DRAFT" = true)
    (isContext : contextOf edited = actualContext) :
    ∃ inbox, buildExceptionInbox Reporting.smallInterpreter [] [.obj edited] [] none noon =
      .ok inbox := by
  have valid := reachable.valid_and_document.1
  have noSource := reachable.isTold.mp ready
  obtain ⟨inbox, isSealed⟩ := Checks.exists_eq_ok (sealInbox Reporting.smallInterpreter none noon
    (some actualContext) (sortExceptions []) (sortedSet [])) (by decide +kernel)
  refine ⟨inbox, buildExceptionInbox_eq_ok.mpr ⟨by simp, by decide, ⟨[formId (.obj edited)], ?_⟩,
    rfl, ⟨some actualContext, [], [], [], []⟩, ?_, by simp, isSealed⟩⟩
  · rw [List.foldlM_cons, boundaryFormStep, valid.boundary]
    rfl
  · refine collect_eq_ok.mpr ⟨.inl rfl, ?_⟩
    rw [inputs, List.map_nil, List.nil_append, List.map_nil, List.append_nil, List.map_singleton,
      List.foldlM_cons, inputStep, formStep, valid.runtime, mappingOf, Checks.ok_bind,
      Checks.ok_bind, isContext, noSource]
    rfl

theorem Reachable.isValidForm_actualRequest :
    ∃ form edited,
      buildConfigurationForm Reporting.smallInterpreter actualRequest = .ok form ∧
      applyConfigurationValues Reporting.smallInterpreter form allValues = .ok edited ∧
      IsValidForm Reporting.smallInterpreter edited := by
  obtain ⟨form, edited, isBuilt, isApplied, -⟩ := exists_edited_actualRequest
  exact ⟨form, .obj edited, isBuilt, isApplied,
    Reachable.isValidForm (.applied (.built isBuilt) isApplied)⟩

theorem Reachable.applyConfigurationValues_last_actualRequest :
    ∃ form edited,
      buildConfigurationForm Reporting.smallInterpreter actualRequest = .ok form ∧
      applyConfigurationValues Reporting.smallInterpreter form allValues = .ok edited ∧
      applyConfigurationValues Reporting.smallInterpreter edited allValues = .ok edited := by
  obtain ⟨form, edited, isBuilt, isApplied, -⟩ := exists_edited_actualRequest
  refine ⟨form, .obj edited, isBuilt, isApplied, ?_⟩
  have isEdited : [allValues].foldlM (applyConfigurationValues Reporting.smallInterpreter) form =
      .ok (.obj edited) := by
    rw [List.foldlM_cons, isApplied]
    rfl
  rw [Reachable.applyConfigurationValues_last (.built isBuilt) isEdited allValues]
  exact isApplied

theorem exceptions_eq_nil_iff_actualRequest :
    ∃ edited inbox,
      buildExceptionInbox Reporting.smallInterpreter [] [edited] [] none noon = .ok inbox ∧
      inbox.exceptions = [] := by
  obtain ⟨form, edited, isBuilt, isApplied, ready, isContext⟩ := exists_edited_actualRequest
  have reachable : Reachable Reporting.smallInterpreter (.obj edited) :=
    .applied (.built isBuilt) isApplied
  obtain ⟨inbox, isShown⟩ := exists_inbox_of_ready reachable ready isContext
  refine ⟨.obj edited, inbox, isShown, (exceptions_eq_nil_iff isShown ?_).mpr ⟨?_, ?_, ?_⟩⟩
  · exact List.forall_mem_singleton.mpr reachable
  · exact List.forall_mem_nil _
  · exact List.forall_mem_singleton.mpr ready
  · exact List.forall_mem_nil _

end Ux
end QuantumAnalytics
