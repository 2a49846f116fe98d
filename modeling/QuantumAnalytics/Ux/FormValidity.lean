import QuantumAnalytics.Ux.FormEditing
import QuantumAnalytics.Ux.InboxCompleteness

/-!
# Valid forms

Both validators ask the same of the members that no edit changes, of the fields
and of what is stated about them. An edit of a valid form makes a valid form.
-/

namespace QuantumAnalytics
namespace Ux

open Reporting (membersOf isNoneOr)
open PyJson (setMember)

variable {interpreter : Interpreter} {form : PyObject}

/-! ### What the validators ask of a form -/

/-- Both validators accept a form. -/
structure IsValidForm (interpreter : Interpreter) (form : PyJson) : Prop where
  boundary : validateConfigurationFormBoundary form = .ok ()
  runtime : validateConfigurationForm interpreter form = .ok ()

/-- What is asked of the members that no edit changes. -/
structure ValidHeader (form : PyObject) : Prop where
  schemaVersion : (PyJson.get form "schema_version").isText "quantum-configuration-form-v1" = true
  publicationState : (PyJson.get form "publication_state").isText "PREVIEW_ONLY" = true
  formId : (PyJson.get form "form_id").isNonemptyString = true
  organizationId : (PyJson.get form "organization_id").isNonemptyString = true
  actor : (PyJson.get form "actor").isNonemptyString = true
  mode : checkMode form = .ok ()
  scope : ∃ scope, validateScope (PyJson.get form "scope") (PyJson.get form "organization_id") =
    .ok scope ∧ checkScopeScenario form scope = .ok ()
  currency : checkCurrency form = .ok ()
  times : checkTimes form isStrictRfc3339 = .ok ()

/-- The fields are those of a configuration, each of them valid. -/
def HasValidFields (form : PyObject) : Prop :=
  ∃ fields, PyJson.get form "fields" = .arr fields ∧
    List.Forall₂ (fun field fieldId => validateFormField field fieldId = .ok ()) fields
      configurationFields

/-- What is asked of the members that an edit changes. -/
structure ValidBody (interpreter : Interpreter) (form : PyObject) : Prop where
  status : (PyJson.get form "status").isAllowedString formStatuses = true
  problems : checkProblems form = .ok ()
  fields : HasValidFields form
  formHash : ∃ formHash, canonicalHash interpreter form "form_hash" = .ok formHash ∧
    (PyJson.get form "form_hash").isText formHash = true

theorem checkMember_eq_ok
    {value : PyJson}
    {allowed : List String}
    {code : UxErrorCode} :
    checkMember value allowed code = .ok () ↔ value.isAllowedString allowed = true := by
  simp only [checkMember, Checks.bind_done_eq_ok, Checks.require_eq_ok, and_iff_right_iff_imp]
  intro isAllowed
  obtain ⟨text, -, rfl⟩ := PyJson.exists_text_of_isAllowedString isAllowed
  rfl

/-- A scope is a mapping that is returned as it is. -/
theorem validateScope_eq_ok
    {scope organizationId : PyJson}
    {members : PyObject} :
    validateScope scope organizationId = .ok members ↔ scope = .obj members ∧
      (members.all fun member => scopeKeys.any fun key => member.1 = PyStr.ofString key) = true ∧
      PyJson.pyEq (PyJson.get members "organization_id") organizationId = true ∧
      (hasKey members "product_id" && hasKey members "product_group_id") = false ∧
      (members.all fun member => member.2.isNonemptyString) = true := by
  simp only [validateScope]
  simp only [↓Checks.bind_done_eq_ok, Checks.bind_eq_ok, mappingOf_eq_ok, Checks.require_eq_ok,
    Checks.pure_eq_ok]
  constructor
  · rintro ⟨_, rfl, known, sameOwner, single, nonempty, rfl⟩
    exact ⟨rfl, known, sameOwner, single, nonempty⟩
  · rintro ⟨rfl, known, sameOwner, single, nonempty⟩
    exact ⟨_, rfl, known, sameOwner, single, nonempty, rfl⟩

/-- A strict time is a time. -/
theorem checkTimes_of_strict
    (strict : checkTimes form isStrictRfc3339 = .ok ()) :
    checkTimes form PyJson.isDatetime = .ok () := by
  have isTime : ∀ {value}, isStrictRfc3339 value = true → value.isDatetime = true :=
    fun isStrict => (Bool.and_eq_true_iff.mp isStrict).2
  have isOptional : ∀ {value}, isNoneOr isStrictRfc3339 value = true →
      isNoneOr PyJson.isDatetime value = true := by
    intro value
    simp only [isNoneOr, Bool.or_eq_true]
    exact Or.imp_right isTime
  simp only [checkTimes, Checks.bind_done_eq_ok, Checks.require_eq_ok] at strict ⊢
  exact ⟨isTime strict.1, isOptional strict.2.1, isOptional strict.2.2.1, strict.2.2.2⟩

/-- The ids of valid fields are those of a configuration. -/
theorem filterMap_fieldId?
    {fields : List PyJson}
    {fieldIds : List String}
    (valid : List.Forall₂ (fun field fieldId => validateFormField field fieldId = .ok ()) fields
      fieldIds) : fields.filterMap fieldId? = fieldIds.map PyJson.ofText := by
  induction valid with
  | nil => rfl
  | @cons field fieldId fields fieldIds isValid _ inductionHypothesis =>
      simp only [validateFormField] at isValid
      simp only [↓Checks.bind_done_eq_ok, Checks.bind_eq_ok, mappingOf_eq_ok,
        Checks.require_eq_ok] at isValid
      obtain ⟨members, rfl, ⟨-, isId⟩, -⟩ := isValid
      rw [List.filterMap_cons, fieldId?, PyJson.isText_iff.mp isId, inductionHypothesis]
      rfl

/-- The ids of a configuration equal themselves. -/
theorem pyEqItems_configurationFields : PyJson.pyEqItems (configurationFields.map PyJson.ofText)
    (configurationFields.map PyJson.ofText) = true := by decide

/-- A form is valid when its keys, its header and its body are. -/
theorem isValidForm_iff :
    IsValidForm interpreter (.obj form) ↔
      PyJson.hasKeys form formKeys = true ∧ ValidHeader form ∧ ValidBody interpreter form := by
  constructor
  · rintro ⟨boundary, runtime⟩
    simp only [validateConfigurationFormBoundary] at boundary
    simp only [↓Checks.bind_done_eq_ok, Checks.bind_eq_ok, mappingOf_eq_ok, listOf_eq_ok,
      Checks.require_eq_ok, PyJson.obj.injEq, exists_eq_left'] at boundary
    simp only [validateConfigurationForm] at runtime
    simp only [↓Checks.bind_done_eq_ok, Checks.bind_eq_ok, mappingOf_eq_ok, listOf_eq_ok,
      Checks.require_eq_ok, PyJson.obj.injEq, exists_eq_left', checkMember_eq_ok,
      Checks.forM_eq_ok] at runtime
    obtain ⟨-, -, -, -, _, -, -, -, -, -, -, times, -⟩ := boundary
    obtain ⟨keys, version, publication, formId, owner, actor, mode, scope, isScope, scenario,
      currency, -, status, problems, fields, isFields, sameLength, valid, formHash, isHash,
      stated⟩ := runtime
    refine ⟨keys, ⟨version, publication, formId, owner, actor, mode, ⟨scope, isScope, scenario⟩,
      currency, times⟩, ⟨status, problems, ⟨fields, isFields, ?_⟩, ⟨formHash, isHash, stated⟩⟩⟩
    exact List.forall₂_iff_zip.mpr ⟨sameLength, fun isMember => valid _ isMember⟩
  · rintro ⟨keys, header, body⟩
    obtain ⟨scope, isScope, scenario⟩ := header.scope
    obtain ⟨isMapping, known, sameOwner, single, nonempty⟩ := validateScope_eq_ok.mp isScope
    obtain ⟨fields, isFields, valid⟩ := body.fields
    obtain ⟨formHash, isHash, stated⟩ := body.formHash
    constructor
    · simp only [validateConfigurationFormBoundary]
      simp only [↓Checks.bind_done_eq_ok, Checks.bind_eq_ok, mappingOf_eq_ok, listOf_eq_ok,
        Checks.require_eq_ok, PyJson.obj.injEq, exists_eq_left', checkMember_eq_ok]
      refine ⟨header.formId, header.organizationId, header.actor, header.mode, scope, isMapping,
        sameOwner, single, nonempty, scenario, header.currency, header.times, body.status, fields,
        isFields, valid.length_eq, ?_, body.problems⟩
      rw [filterMap_fieldId? valid]
      exact pyEqItems_configurationFields
    · simp only [validateConfigurationForm]
      simp only [↓Checks.bind_done_eq_ok, Checks.bind_eq_ok, mappingOf_eq_ok, listOf_eq_ok,
        Checks.require_eq_ok, PyJson.obj.injEq, exists_eq_left', checkMember_eq_ok,
        Checks.forM_eq_ok]
      exact ⟨keys, header.schemaVersion, header.publicationState, header.formId,
        header.organizationId, header.actor, header.mode, scope, isScope, scenario,
        header.currency, checkTimes_of_strict header.times, body.status, body.problems, fields,
        isFields, valid.length_eq, fun field listed => List.forall₂_zip valid listed, formHash,
        isHash, stated⟩

/-! ### Headers -/

/-- The members of a form that no edit changes. -/
def headerKeys : List String :=
  ["schema_version", "form_id", "organization_id", "mode", "scenario_id", "actor", "scope",
    "valid_from", "valid_to", "currency", "created_at", "publication_state"]

/-- A form with the header of a valid one has a valid header. -/
theorem ValidHeader.of_same
    {other : PyObject}
    (header : ValidHeader form)
    (same : ∀ key ∈ headerKeys, PyJson.get other key = PyJson.get form key) :
    ValidHeader other := by
  have mode := same "mode" (by simp [headerKeys])
  have scenarioId := same "scenario_id" (by simp [headerKeys])
  have scope := same "scope" (by simp [headerKeys])
  have organizationId := same "organization_id" (by simp [headerKeys])
  have currency := same "currency" (by simp [headerKeys])
  have validFrom := same "valid_from" (by simp [headerKeys])
  have validTo := same "valid_to" (by simp [headerKeys])
  have createdAt := same "created_at" (by simp [headerKeys])
  constructor
  · rw [same "schema_version" (by simp [headerKeys])]
    exact header.schemaVersion
  · rw [same "publication_state" (by simp [headerKeys])]
    exact header.publicationState
  · rw [same "form_id" (by simp [headerKeys])]
    exact header.formId
  · rw [organizationId]
    exact header.organizationId
  · rw [same "actor" (by simp [headerKeys])]
    exact header.actor
  · have checked := header.mode
    unfold checkMode at checked ⊢
    rw [mode, scenarioId]
    exact checked
  · obtain ⟨members, isScope, scenario⟩ := header.scope
    unfold checkScopeScenario at scenario ⊢
    rw [scope, organizationId, mode, scenarioId]
    exact ⟨members, isScope, scenario⟩
  · have checked := header.currency
    unfold checkCurrency at checked ⊢
    rw [currency]
    exact checked
  · have checked := header.times
    unfold checkTimes at checked ⊢
    rw [validFrom, validTo, createdAt]
    exact checked

/-! ### Fields -/

/-- A field has a value that fits it, or none and a diagnostic. -/
inductive FieldEdit.Fits (fieldId : PyJson) : FieldEdit → Prop
  | valid {value : PyJson} (nonempty : value.isNonemptyString = true)
      (isBase : fieldId.isText "tax_base" = true → value.isAllowedString taxBases = true)
      (isDecimal : fieldId.isText "tax_base" = false → Reporting.isDecimalString value = true) :
      FieldEdit.Fits fieldId ⟨value, "VALID", .null, []⟩
  | missing : FieldEdit.Fits fieldId ⟨.null, "EMPTY", .ofText "CONFIGURATION_REQUIRED", []⟩
  | refused {state code message : String} (isState : state = "INVALID" ∨ state = "BLOCKED")
      (named : code ≠ "") (worded : message ≠ "") :
      FieldEdit.Fits fieldId (.refused state fieldId code message)

/-- Every edit fits its field. -/
theorem fits_editField (currency : PyJson) (values field : PyObject) :
    (editField currency values field).Fits (PyJson.get field "field_id") := by
  unfold editField
  dsimp only
  split_ifs with missing isBase isDecimal blocked
  · exact .missing
  · exact .refused (.inl rfl) (by decide) (by decide)
  · exact .refused (.inl rfl) (by decide) (by decide)
  · exact .refused (.inr rfl) (by decide) (by decide)
  · rw [not_and, Bool.not_eq_false] at isBase isDecimal
    refine .valid ?_ isBase isDecimal
    obtain ⟨text, isText⟩ : ∃ text, valueFor values (PyJson.get field "field_id") = .ofText text := by
      cases named : (PyJson.get field "field_id").isText "tax_base" with
      | true =>
          obtain ⟨text, -, isText⟩ := PyJson.exists_text_of_isAllowedString (isBase named)
          exact ⟨text, isText⟩
      | false =>
          obtain ⟨text, isText, -⟩ := PyJson.exists_text_of_isTextWith (isDecimal named)
          exact ⟨text, isText⟩
    rw [isText] at missing ⊢
    apply PyJson.isNonemptyString_ofText
    rintro rfl
    exact missing (.inr (PyJson.isText_iff.mpr rfl))

/-- What a field has after an edit. -/
theorem get_write
    {field : PyObject}
    (keys : PyJson.hasKeys field fieldKeys = true)
    (edit : FieldEdit) :
    PyJson.get (edit.write field) "value" = edit.value ∧
      PyJson.get (edit.write field) "state" = .ofText edit.state ∧
      PyJson.get (edit.write field) "diagnostic" = edit.diagnostic ∧
      ∀ key, key ≠ "value" → key ≠ "state" → key ≠ "diagnostic" →
        PyJson.get (edit.write field) key = PyJson.get field key := by
  unfold FieldEdit.write
  refine ⟨?_, ?_, ?_, ?_⟩
  · rw [PyJson.get_setMember_of_ne (by decide), PyJson.get_setMember_of_ne (by decide)]
    exact PyJson.get_setMember_of_hasKeys keys (by decide) _
  · rw [PyJson.get_setMember_of_ne (by decide)]
    exact PyJson.get_setMember_of_hasKeys (by rw [PyJson.hasKeys_setMember]; exact keys) (by decide) _
  · apply PyJson.get_setMember_of_hasKeys
    · rw [PyJson.hasKeys_setMember, PyJson.hasKeys_setMember]
      exact keys
    · decide
  · intro key notValue notState notDiagnostic
    rw [PyJson.get_setMember_of_ne notDiagnostic, PyJson.get_setMember_of_ne notState,
      PyJson.get_setMember_of_ne notValue]

theorem isAllowedString_valid : (PyJson.ofText "VALID").isAllowedString fieldStates = true := by
  decide

/-- The other states of a field. -/
theorem isAllowedString_other :
    ∀ state ∈ ["EMPTY", "INVALID", "BLOCKED"],
      (PyJson.ofText state).isAllowedString fieldStates = true ∧
        ¬(PyJson.ofText state).isText "VALID" = true := by
  decide

/-- An edit keeps a field valid. -/
theorem validateFormField_write
    {field : PyObject}
    {fieldId : String}
    (valid : validateFormField (.obj field) fieldId = .ok ())
    {edit : FieldEdit}
    (fits : edit.Fits (.ofText fieldId)) :
    validateFormField (.obj (edit.write field)) fieldId = .ok () := by
  simp only [validateFormField] at valid ⊢
  simp only [↓Checks.bind_done_eq_ok, Checks.bind_eq_ok, mappingOf_eq_ok, Checks.require_eq_ok,
    PyJson.obj.injEq, exists_eq_left', checkMember_eq_ok] at valid ⊢
  obtain ⟨⟨keys, isId⟩, definition, -⟩ := valid
  obtain ⟨hasValue, hasState, hasDiagnostic, others⟩ := get_write keys edit
  have sameKeys : PyJson.hasKeys (edit.write field) fieldKeys = true := by
    rw [FieldEdit.write, PyJson.hasKeys_setMember, PyJson.hasKeys_setMember,
      PyJson.hasKeys_setMember]
    exact keys
  rw [hasValue, hasState, hasDiagnostic, others "field_id" (by decide) (by decide) (by decide),
    others "label" (by decide) (by decide) (by decide),
    others "input_kind" (by decide) (by decide) (by decide),
    others "control" (by decide) (by decide) (by decide),
    others "required" (by decide) (by decide) (by decide),
    others "requires_currency" (by decide) (by decide) (by decide),
    others "contract_unit" (by decide) (by decide) (by decide),
    others "accessible_name" (by decide) (by decide) (by decide)]
  refine ⟨⟨sameKeys, isId⟩, definition, ?_⟩
  cases fits with
  | @valid value nonempty isBase isDecimal =>
      dsimp only
      refine ⟨isAllowedString_valid, ?_⟩
      rw [if_pos (PyJson.isText_iff.mpr rfl), Checks.bind_done_eq_ok, Checks.require_eq_ok]
      refine ⟨⟨nonempty, rfl⟩, ?_⟩
      split_ifs with named
      · rw [Checks.require_eq_ok]
        exact isBase (PyJson.isText_iff.mpr (congrArg PyJson.ofText named))
      · rw [Checks.require_eq_ok]
        apply isDecimal
        rw [Bool.eq_false_iff, ne_eq, PyJson.isText_iff]
        intro same
        exact named (PyStr.ofString_injective (PyJson.str.inj same))
  | missing =>
      obtain ⟨isState, notValid⟩ := isAllowedString_other "EMPTY" (by simp)
      dsimp only
      rw [if_neg notValid, Checks.require_eq_ok]
      exact ⟨isState, rfl, rfl⟩
  | @refused state code message isState named _ =>
      obtain ⟨isAllowed, notValid⟩ := isAllowedString_other state (by simp [isState])
      rw [if_neg, Checks.require_eq_ok]
      · exact ⟨isAllowed, rfl, PyJson.isNonemptyString_ofText named⟩
      · exact notValid

/-! ### Problems and status -/

theorem validateProblem_problem
    {code message : String}
    {fieldId : PyJson}
    (named : code ≠ "")
    (isField : fieldId.isNonemptyString = true)
    (worded : message ≠ "") : validateProblem (problem code fieldId message) = .ok () := by
  simp only [validateProblem, problem]
  simp only [↓Checks.bind_done_eq_ok, Checks.bind_eq_ok, mappingOf_eq_ok, Checks.require_eq_ok,
    PyJson.obj.injEq, exists_eq_left']
  refine ⟨Reporting.hasKeys_membersOf _, List.all_eq_true.mpr fun member listed => ?_⟩
  obtain ⟨other, given, rfl⟩ := Reporting.mem_membersOf.mp listed
  simp only [List.mem_cons, List.not_mem_nil, or_false] at given
  rcases given with rfl | rfl | rfl
  · exact PyJson.isNonemptyString_ofText named
  · exact isField
  · exact PyJson.isNonemptyString_ofText worded

/-- The problems of an edit are valid. -/
theorem validateProblem_of_fits
    {fieldId : PyJson}
    {edit : FieldEdit}
    (isField : fieldId.isNonemptyString = true)
    (fits : edit.Fits fieldId) : ∀ issue ∈ edit.problems, validateProblem issue = .ok () := by
  intro issue listed
  cases fits with
  | valid => cases listed
  | missing => cases listed
  | refused _ named worded =>
      obtain rfl := List.mem_singleton.mp listed
      exact validateProblem_problem named isField worded

theorem validateProblem_start (form : PyObject) :
    ∀ issue ∈ startProblems form, validateProblem issue = .ok () := by
  intro issue listed
  rw [startProblems] at listed
  split at listed
  next =>
    obtain rfl := List.mem_singleton.mp listed
    exact validateProblem_problem (by decide) (by decide) (by decide)
  next => cases listed

theorem statusOf_mem (problems : List PyJson) (states : List String) :
    statusOf problems states ∈ formStatuses := by
  unfold statusOf
  dsimp only
  split_ifs <;> decide

/-! ### Edited forms -/

/-- The members of an edited form. -/
theorem get_editedForm
    {values : PyObject}
    (keys : PyJson.hasKeys form formKeys = true) :
    let edits := (formFields form).map (editField (PyJson.get form "currency") values)
    PyJson.get (editedForm form values) "fields" = .arr ((formFields form).map fun field =>
        .obj ((editField (PyJson.get form "currency") values field).write field)) ∧
      PyJson.get (editedForm form values) "problems" =
        .arr (startProblems form ++ edits.flatMap fun edit => edit.problems) ∧
      PyJson.get (editedForm form values) "status" =
        .ofText (statusOf (startProblems form ++ edits.flatMap fun edit => edit.problems)
          (edits.map fun edit => edit.state)) ∧
      PyJson.hasKeys (editedForm form values) formKeys = true ∧
      ∀ key, key ≠ "fields" → key ≠ "problems" → key ≠ "status" →
        PyJson.get (editedForm form values) key = PyJson.get form key := by
  dsimp only
  unfold editedForm
  dsimp only
  refine ⟨?_, ?_, ?_, ?_, ?_⟩
  · rw [PyJson.get_setMember_of_ne (by decide), PyJson.get_setMember_of_ne (by decide)]
    exact PyJson.get_setMember_of_hasKeys keys (by decide) _
  · apply PyJson.get_setMember_of_hasKeys
    · rw [PyJson.hasKeys_setMember, PyJson.hasKeys_setMember]
      exact keys
    · decide
  · rw [PyJson.get_setMember_of_ne (by decide)]
    apply PyJson.get_setMember_of_hasKeys
    · rw [PyJson.hasKeys_setMember]
      exact keys
    · decide
  · rw [PyJson.hasKeys_setMember, PyJson.hasKeys_setMember, PyJson.hasKeys_setMember]
    exact keys
  · intro key notFields notProblems notStatus
    rw [PyJson.get_setMember_of_ne notProblems, PyJson.get_setMember_of_ne notStatus,
      PyJson.get_setMember_of_ne notFields]

/-- The mappings of valid fields. -/
theorem forall₂_fieldMembers
    {fields : List PyJson}
    {fieldIds : List String}
    (valid : List.Forall₂ (fun field fieldId => validateFormField field fieldId = .ok ()) fields
      fieldIds) :
    List.Forall₂ (fun members fieldId => validateFormField (.obj members) fieldId = .ok ())
      (fields.filterMap fieldMembers?) fieldIds := by
  induction valid with
  | nil => exact .nil
  | @cons field fieldId fields fieldIds isValid _ inductionHypothesis =>
      obtain ⟨members, rfl, -⟩ := fieldId_of_validateFormField isValid
      exact .cons isValid inductionHypothesis

/-- The fields of a form, as the builder reads them. -/
theorem forall₂_formFields
    (valid : HasValidFields form) :
    List.Forall₂ (fun members fieldId => validateFormField (.obj members) fieldId = .ok ())
      (formFields form) configurationFields := by
  obtain ⟨fields, isFields, each⟩ := valid
  rw [formFields, isFields]
  exact forall₂_fieldMembers each

/-- A valid field has its keys and its id. -/
theorem keys_and_id_of_valid
    {field : PyObject}
    {fieldId : String}
    (valid : validateFormField (.obj field) fieldId = .ok ()) :
    PyJson.hasKeys field fieldKeys = true ∧ PyJson.get field "field_id" = .ofText fieldId := by
  simp only [validateFormField] at valid
  simp only [↓Checks.bind_done_eq_ok, Checks.bind_eq_ok, mappingOf_eq_ok, Checks.require_eq_ok,
    PyJson.obj.injEq, exists_eq_left'] at valid
  exact ⟨valid.1.1, PyJson.isText_iff.mp valid.1.2⟩

/-- A form with its digest is sealed. -/
theorem sealForm_eq_ok
    {edited : PyJson} :
    sealForm interpreter form = .ok edited ↔ ∃ formHash,
      canonicalHash interpreter form "form_hash" = .ok formHash ∧
        edited = .obj (setMember form "form_hash" (.ofText formHash)) := by
  simp only [sealForm, Checks.bind_eq_ok, Checks.pure_eq_ok]
  exact exists_congr fun formHash => and_congr_right fun _ => eq_comm

/-- The digest of a form does not depend on the digest that it states. -/
theorem canonicalHash_setMember (formHash : PyJson) :
    canonicalHash interpreter (setMember form "form_hash" formHash) "form_hash" =
      canonicalHash interpreter form "form_hash" := by
  rw [canonicalHash, canonicalHash, Reporting.canonicalHash, Reporting.canonicalHash,
    PyJson.without_setMember]

/-- A sealed form is valid when its members are. -/
theorem isValidForm_of_seal
    {edited : PyJson}
    (isSealed : sealForm interpreter form = .ok edited)
    (keys : PyJson.hasKeys form formKeys = true)
    (header : ValidHeader form)
    (status : (PyJson.get form "status").isAllowedString formStatuses = true)
    (problems : checkProblems form = .ok ())
    (fields : HasValidFields form) : IsValidForm interpreter edited := by
  obtain ⟨formHash, isHash, rfl⟩ := sealForm_eq_ok.mp isSealed
  have others : ∀ key, key ≠ "form_hash" →
      PyJson.get (setMember form "form_hash" (.ofText formHash)) key = PyJson.get form key :=
    fun key different => PyJson.get_setMember_of_ne different
  refine isValidForm_iff.mpr ⟨?_, header.of_same ?_, ?_, ?_, ?_, formHash, ?_, ?_⟩
  · rw [PyJson.hasKeys_setMember]
    exact keys
  · intro key isHeader
    apply others
    rintro rfl
    exact absurd isHeader (by decide)
  · rw [others "status" (by decide)]
    exact status
  · rw [checkProblems, others "problems" (by decide)]
    exact problems
  · rw [HasValidFields, others "fields" (by decide)]
    exact fields
  · rw [canonicalHash_setMember]
    exact isHash
  · rw [PyJson.get_setMember_of_hasKeys keys (by decide)]
    exact PyJson.isText_iff.mpr rfl

/-- Every field of a form is one of a configuration. -/
theorem exists_valid_of_mem
    (valid : HasValidFields form) :
    ∀ field ∈ formFields form, ∃ fieldId ∈ configurationFields,
      validateFormField (.obj field) fieldId = .ok () := by
  intro field listed
  obtain ⟨fieldId, isKnown, isValid⟩ :=
    Checks.exists_left_of_mem (List.Forall₂.flip (forall₂_formFields valid)) listed
  exact ⟨fieldId, isKnown, isValid⟩

theorem ne_empty_of_mem_configurationFields : ∀ fieldId ∈ configurationFields, fieldId ≠ "" := by
  decide

/-- An edit keeps a form valid. -/
theorem isValidForm_edit
    {values : PyObject}
    {edited : PyJson}
    (valid : IsValidForm interpreter (.obj form))
    (isSealed : sealForm interpreter (editedForm form values) = .ok edited) :
    IsValidForm interpreter edited := by
  obtain ⟨keys, header, body⟩ := isValidForm_iff.mp valid
  obtain ⟨isFields, isProblems, isStatus, sameKeys, others⟩ := @get_editedForm form values keys
  have each := forall₂_formFields body.fields
  refine isValidForm_of_seal isSealed sameKeys (header.of_same ?_) ?_ ?_ ?_
  · intro key isHeader
    apply others
    all_goals
      rintro rfl
      exact absurd isHeader (by decide)
  · rw [isStatus, PyJson.isAllowedString, List.any_eq_true]
    exact ⟨_, statusOf_mem _ _, PyJson.isText_iff.mpr rfl⟩
  · rw [checkProblems, isProblems, listOf, Checks.ok_bind, Checks.forM_eq_ok]
    intro issue listed
    rcases List.mem_append.mp listed with isStart | later
    · exact validateProblem_start form issue isStart
    · obtain ⟨edit, isEdit, isIssue⟩ := List.mem_flatMap.mp later
      obtain ⟨field, isField, rfl⟩ := List.mem_map.mp isEdit
      obtain ⟨fieldId, isKnown, isValid⟩ := exists_valid_of_mem body.fields field isField
      refine validateProblem_of_fits ?_ (fits_editField _ values field) issue isIssue
      rw [(keys_and_id_of_valid isValid).2]
      exact PyJson.isNonemptyString_ofText (ne_empty_of_mem_configurationFields fieldId isKnown)
  · refine ⟨_, isFields, ?_⟩
    rw [List.forall₂_map_left_iff]
    refine each.imp ?_
    intro field fieldId isValid
    have fits := fits_editField (PyJson.get form "currency") values field
    rw [(keys_and_id_of_valid isValid).2] at fits
    exact validateFormField_write isValid fits

end Ux
end QuantumAnalytics
