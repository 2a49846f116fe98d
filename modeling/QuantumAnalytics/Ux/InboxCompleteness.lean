import QuantumAnalytics.Reporting.Lines
import QuantumAnalytics.Ux.InboxIds

/-!
# What the inbox contains

An accepted call lists every source once. The ids of the entries differ, and the
inbox does not depend on the order of the inputs, if and only if no two sources
collide.
-/

namespace QuantumAnalytics
namespace Ux

open Reporting (GeneratedAt memberOf)

variable {interpreter : Interpreter}

theorem mappingOf_eq_ok
    {value : PyJson}
    {code : UxErrorCode}
    {fields : PyObject} : mappingOf value code = .ok fields ↔ value = .obj fields := by
  cases value <;> simp [mappingOf]

theorem listOf_eq_ok
    {value : PyJson}
    {code : UxErrorCode}
    {items : List PyJson} : listOf value code = .ok items ↔ value = .arr items := by
  cases value <;> simp [listOf]

/-- An input contributes the entries of its sources. -/
theorem exceptions_of_contribution
    {tenantId : PyStr}
    {input : Input}
    {part : Contribution}
    (contributed : input.contribution interpreter tenantId = .ok part) :
    input.sources.mapM (Source.exception interpreter) = .ok part.exceptions := by
  cases input with
  | record value =>
      simp only [Input.contribution] at contributed
      simp only [↓Checks.bind_done_eq_ok, Checks.bind_eq_ok, mappingOf_eq_ok,
        Checks.pure_eq_ok] at contributed
      obtain ⟨-, record, rfl, exceptions, isExceptions, rfl⟩ := contributed
      exact isExceptions
  | form value =>
      simp only [Input.contribution] at contributed
      simp only [↓Checks.bind_done_eq_ok, Checks.bind_eq_ok, mappingOf_eq_ok,
        Checks.pure_eq_ok] at contributed
      obtain ⟨-, form, rfl, exceptions, isExceptions, rfl⟩ := contributed
      exact isExceptions
  | importFile file =>
      simp only [Input.contribution] at contributed
      simp only [↓Checks.bind_done_eq_ok, Checks.bind_eq_ok, Checks.pure_eq_ok] at contributed
      obtain ⟨-, exceptions, isExceptions, rfl⟩ := contributed
      exact isExceptions

/-! ### Sources of one input -/

theorem kind_owner_of_record
    {value : PyJson}
    {source : Source}
    (listed : source ∈ sourcesOfRecord value) :
    source.kind = "metric" ∧ source.owner = textOf (memberOf "report_record_id" value) := by
  cases value with
  | obj record =>
      simp only [sourcesOfRecord, recordSources] at listed
      split at listed
      next => cases listed
      next =>
        obtain rfl := List.mem_singleton.mp listed
        exact ⟨rfl, rfl⟩
  | _ => cases listed

theorem kind_owner_of_form
    {value : PyJson}
    {source : Source}
    (listed : source ∈ sourcesOfForm value) :
    source.kind = "configuration" ∧ source.owner = formId value := by
  cases value with
  | obj form =>
      rcases List.mem_append.mp listed with isField | isStart
      · obtain ⟨field, -, rfl⟩ := List.mem_map.mp isField
        exact ⟨rfl, rfl⟩
      · split at isStart
        next =>
          obtain rfl := List.mem_singleton.mp isStart
          exact ⟨rfl, rfl⟩
        next => cases isStart
  | _ => cases listed

theorem kind_owner_of_import
    {file : RawFileMetadata}
    {source : Source}
    (listed : source ∈ importSources file) :
    source.kind = "import" ∧ source.owner = PyStr.ofString file.rawFileId := by
  rw [importSources] at listed
  split at listed
  next =>
    obtain rfl := List.mem_singleton.mp listed
    exact ⟨rfl, rfl⟩
  next => cases listed

/-- Sources of different owners are apart. -/
theorem apart_of_owner_ne
    {first second : Source}
    (different : first.owner ≠ second.owner) : first.Apart second := fun same => different same.2.1

theorem apart_of_kind_ne
    {first second : Source}
    (different : first.kind ≠ second.kind) : first.Apart second := fun same => different same.1

theorem pairwise_sourcesOfRecord (value : PyJson) :
    (sourcesOfRecord value).Pairwise Source.Apart := by
  cases value with
  | obj record =>
      simp only [sourcesOfRecord, recordSources]
      split <;> simp
  | _ => exact List.Pairwise.nil

theorem pairwise_importSources (file : RawFileMetadata) :
    (importSources file).Pairwise Source.Apart := by
  rw [importSources]
  split <;> simp

/-! ### The fields of a form -/

theorem fieldId_of_validateFormField
    {field : PyJson}
    {expected : String}
    (valid : validateFormField field expected = .ok ()) :
    ∃ members, field = .obj members ∧
      textOf (PyJson.get members "field_id") = PyStr.ofString expected := by
  simp only [validateFormField] at valid
  simp only [↓Checks.bind_done_eq_ok, Checks.bind_eq_ok, mappingOf_eq_ok,
    Checks.require_eq_ok] at valid
  obtain ⟨members, rfl, ⟨-, isField⟩, -⟩ := valid
  refine ⟨members, rfl, ?_⟩
  rw [PyJson.isText_iff.mp isField]
  rfl

theorem map_fieldId_of_valid
    {fields : List PyJson}
    {expected : List String}
    (sameLength : fields.length = expected.length)
    (valid : ∀ field ∈ fields.zip expected, validateFormField field.1 field.2 = .ok ()) :
    ((fields.filterMap fieldMembers?).map fun field => textOf (PyJson.get field "field_id")) =
      expected.map PyStr.ofString := by
  induction fields generalizing expected with
  | nil => rw [List.eq_nil_of_length_eq_zero sameLength.symm]; rfl
  | cons field fields inductionHypothesis =>
      cases expected with
      | nil => simp at sameLength
      | cons first expected =>
          obtain ⟨isFirst, rest⟩ := List.forall_mem_cons.mp valid
          obtain ⟨members, rfl, isId⟩ := fieldId_of_validateFormField isFirst
          have isMembers : fieldMembers? (.obj members) = some members := rfl
          rw [List.filterMap_cons_some isMembers, List.map_cons, isId, List.map_cons,
            inductionHypothesis (Nat.succ.inj sameLength) rest]

/-- The fields of a valid form are the four inputs of a configuration. -/
theorem map_formFields
    {value : PyJson}
    {form : PyObject}
    (valid : validateConfigurationForm interpreter value = .ok ())
    (isForm : value = .obj form) :
    ((formFields form).map fun field => textOf (PyJson.get field "field_id")) =
      configurationFields.map PyStr.ofString := by
  simp only [validateConfigurationForm] at valid
  simp only [↓Checks.bind_done_eq_ok, Checks.bind_eq_ok, mappingOf_eq_ok, listOf_eq_ok,
    Checks.require_eq_ok, Checks.forM_eq_ok] at valid
  obtain ⟨_, rfl, -, -, -, -, -, -, -, -, -, -, -, -, -, -, fields, isFields, sameLength, each, -⟩ :=
    valid
  obtain rfl := PyJson.obj.inj isForm
  have members := map_fieldId_of_valid sameLength each
  rw [formFields, isFields]
  exact members

/-- The part of a cause that names a field does not hold the separator. -/
theorem fieldId_eq_of_rest_eq
    {first second : PyStr}
    {cause otherCause : PyStr}
    (plain : separator ∉ first)
    (otherPlain : separator ∉ second)
    (same : first ++ separator :: cause = second ++ separator :: otherCause) :
    first = second := by
  rcases Joining.append_cons_eq_iff.mp same with ⟨isSame, -⟩ | ⟨middle, isLonger, -⟩ |
    ⟨middle, isLonger, -⟩
  · exact isSame
  · exact absurd (by rw [isLonger]; simp) otherPlain
  · exact absurd (by rw [isLonger]; simp) plain

/-- The fields that sources of a form name. -/
def namedFields : List PyStr := (configurationFields ++ ["valid_from"]).map PyStr.ofString

theorem separator_not_mem_namedFields : ∀ name ∈ namedFields, separator ∉ name := by decide

theorem nodup_namedFields : namedFields.Nodup := by decide

/-- The sources of a valid form are about different fields. -/
theorem pairwise_formSources
    {form : PyObject}
    (fields : ((formFields form).map fun field => textOf (PyJson.get field "field_id")) =
      configurationFields.map PyStr.ofString) :
    (formSources form).Pairwise Source.Apart := by
  have named : ((formFields form).map fun field => textOf (PyJson.get field "field_id")) ++
      [PyStr.ofString "valid_from"] = namedFields := by rw [fields]; rfl
  have plain : ∀ field ∈ formFields form,
      separator ∉ textOf (PyJson.get field "field_id") := fun field listed =>
    separator_not_mem_namedFields _
      (named ▸ List.mem_append_left _ (List.mem_map_of_mem listed))
  obtain ⟨distinct, -, apartFromStart⟩ := List.nodup_append.mp (named ▸ nodup_namedFields)
  have startPlain : separator ∉ PyStr.ofString "valid_from" := by decide
  refine List.pairwise_append.mpr ⟨?_, ?_, ?_⟩
  · rw [List.pairwise_map]
    refine List.Pairwise.filter _ ((List.pairwise_map.mp distinct).imp_of_mem ?_)
    intro field other isListed isOther different same
    exact different (fieldId_eq_of_rest_eq (plain field isListed) (plain other isOther) same.2.2)
  · split <;> simp
  · intro source isField other isStart same
    obtain ⟨field, isListed, rfl⟩ := List.mem_map.mp isField
    have isListed := (List.mem_filter.mp isListed).1
    split at isStart
    next =>
      obtain rfl := List.mem_singleton.mp isStart
      exact apartFromStart _ (List.mem_map_of_mem isListed) _ (List.mem_singleton.mpr rfl)
        (fieldId_eq_of_rest_eq (plain field isListed) startPlain same.2.2)
    next => cases isStart

/-! ### Sources of an accepted call -/

section Accepted

variable {records forms : List PyJson} {imports : List RawFileMetadata} {tenantId : Option PyStr}
  {state : InboxState}

/-- The records that are collected have different ids. -/
theorem pairwise_recordIds
    (loop : (inputs records forms imports).foldlM
      (inputStep interpreter (tenantId.getD [])) {} = .ok state) :
    records.Pairwise fun first second =>
      textOf (memberOf "report_record_id" first) ≠ textOf (memberOf "report_record_id" second) := by
  have pairwise := (adds_inputStep interpreter (tenantId.getD [])).pairwise_of_foldlM loop
  have isRecord : ∀ {value part},
      (Input.record value).contribution interpreter (tenantId.getD []) = .ok part →
        part.seenRecords = [textOf (memberOf "report_record_id" value)] := by
    intro value part contributed
    simp only [Input.contribution] at contributed
    simp only [↓Checks.bind_done_eq_ok, Checks.bind_eq_ok, mappingOf_eq_ok,
      Checks.pure_eq_ok] at contributed
    obtain ⟨-, record, rfl, exceptions, -, rfl⟩ := contributed
    rfl
  have onRecords := List.pairwise_map.mp
    (List.pairwise_append.mp (List.pairwise_append.mp pairwise).1).1
  refine onRecords.imp ?_
  rintro first second ⟨part, other, isPart, isOther, compatible⟩
  exact compatible.records _ (isRecord isPart ▸ List.mem_singleton.mpr rfl) _
    (isRecord isOther ▸ List.mem_singleton.mpr rfl)

/-- The files that are collected have different ids. -/
theorem pairwise_rawFileIds
    (loop : (inputs records forms imports).foldlM
      (inputStep interpreter (tenantId.getD [])) {} = .ok state) :
    imports.Pairwise fun first second => first.rawFileId ≠ second.rawFileId := by
  have pairwise := (adds_inputStep interpreter (tenantId.getD [])).pairwise_of_foldlM loop
  have isFile : ∀ {file part},
      (Input.importFile file).contribution interpreter (tenantId.getD []) = .ok part →
        part.seenImports = [file.rawFileId] := by
    intro file part contributed
    simp only [Input.contribution] at contributed
    simp only [↓Checks.bind_done_eq_ok, Checks.bind_eq_ok, Checks.pure_eq_ok] at contributed
    obtain ⟨-, exceptions, -, rfl⟩ := contributed
    rfl
  have onFiles := List.pairwise_map.mp (List.pairwise_append.mp pairwise).2.1
  refine onFiles.imp ?_
  rintro first second ⟨part, other, isPart, isOther, compatible⟩
  exact compatible.imports _ (isFile isPart ▸ List.mem_singleton.mpr rfl) _
    (isFile isOther ▸ List.mem_singleton.mpr rfl)

/-- The forms that the boundary accepts have different ids. -/
theorem pairwise_formIds
    {seen : List PyStr}
    (loop : forms.foldlM boundaryFormStep [] = .ok seen) :
    forms.Pairwise fun first second => formId first ≠ formId second := by
  refine (adds_boundaryFormStep.pairwise_of_foldlM loop).imp ?_
  rintro first second ⟨part, other, isPart, isOther, different⟩
  simp only [boundaryFormId] at isPart isOther
  simp only [↓Checks.bind_done_eq_ok, Checks.pure_eq_ok] at isPart isOther
  rwa [isPart.2, isOther.2]

/-- The sources in a form that was collected are about different fields. -/
theorem pairwise_sourcesOfForm
    (loop : (inputs records forms imports).foldlM
      (inputStep interpreter (tenantId.getD [])) {} = .ok state)
    {value : PyJson}
    (listed : value ∈ forms) : (sourcesOfForm value).Pairwise Source.Apart := by
  obtain ⟨parts, contributed, -⟩ :=
    (adds_inputStep interpreter (tenantId.getD [])).foldlM_eq_ok.mp loop
  have isInput : Input.form value ∈ inputs records forms imports :=
    List.mem_append_left _ (List.mem_append_right _ (List.mem_map_of_mem listed))
  obtain ⟨part, -, isPart⟩ :=
    Checks.exists_left_of_mem (List.Forall₂.flip (Checks.mapM_eq_ok.mp contributed)) isInput
  simp only [Input.contribution] at isPart
  simp only [↓Checks.bind_done_eq_ok, Checks.bind_eq_ok, mappingOf_eq_ok] at isPart
  obtain ⟨valid, form, rfl, -⟩ := isPart
  exact pairwise_formSources (map_formFields valid rfl)

/-- The sources of an accepted call are about different things. -/
theorem pairwise_apart
    {seen : List PyStr}
    (formLoop : forms.foldlM boundaryFormStep [] = .ok seen)
    (loop : (inputs records forms imports).foldlM
      (inputStep interpreter (tenantId.getD [])) {} = .ok state) :
    (sources records forms imports).Pairwise Source.Apart := by
  have metric : ∀ source ∈ records.flatMap sourcesOfRecord, source.kind = "metric" := by
    intro source listed
    obtain ⟨value, -, isSource⟩ := List.mem_flatMap.mp listed
    exact (kind_owner_of_record isSource).1
  have configuration : ∀ source ∈ forms.flatMap sourcesOfForm, source.kind = "configuration" := by
    intro source listed
    obtain ⟨value, -, isSource⟩ := List.mem_flatMap.mp listed
    exact (kind_owner_of_form isSource).1
  have schema : ∀ source ∈ imports.flatMap importSources, source.kind = "import" := by
    intro source listed
    obtain ⟨file, -, isSource⟩ := List.mem_flatMap.mp listed
    exact (kind_owner_of_import isSource).1
  refine List.pairwise_append.mpr ⟨List.pairwise_append.mpr ⟨?_, ?_, ?_⟩, ?_, ?_⟩
  · refine List.pairwise_flatMap.mpr ⟨fun value _ => pairwise_sourcesOfRecord value, ?_⟩
    refine (pairwise_recordIds loop).imp fun different first isFirst second isSecond => ?_
    apply apart_of_owner_ne
    rwa [(kind_owner_of_record isFirst).2, (kind_owner_of_record isSecond).2]
  · refine List.pairwise_flatMap.mpr ⟨fun value listed => pairwise_sourcesOfForm loop listed, ?_⟩
    refine (pairwise_formIds formLoop).imp fun different first isFirst second isSecond => ?_
    apply apart_of_owner_ne
    rwa [(kind_owner_of_form isFirst).2, (kind_owner_of_form isSecond).2]
  · intro first isFirst second isSecond
    apply apart_of_kind_ne
    rw [metric first isFirst, configuration second isSecond]
    decide
  · refine List.pairwise_flatMap.mpr ⟨fun file _ => pairwise_importSources file, ?_⟩
    refine (pairwise_rawFileIds loop).imp fun different first isFirst second isSecond => ?_
    apply apart_of_owner_ne
    rw [(kind_owner_of_import isFirst).2, (kind_owner_of_import isSecond).2]
    exact fun same => different (PyStr.ofString_injective same)
  · intro first isFirst second isSecond
    apply apart_of_kind_ne
    rw [schema second isSecond]
    rcases List.mem_append.mp isFirst with isMetric | isForm
    · rw [metric first isMetric]
      decide
    · rw [configuration first isForm]
      decide

end Accepted

/-! ### The inbox -/

/-- The inbox has one entry for each source and no other, and their ids differ. -/
structure IsComplete (interpreter : Interpreter) (list : List Source) (inbox : ExceptionInbox) :
    Prop where
  /-- The entries are those of the sources. -/
  entries : ∃ items, AreEntries interpreter list items ∧ inbox.exceptions.Perm items
  /-- No two of them have one id. -/
  distinct : (inbox.exceptions.map ExceptionItem.exceptionId).Nodup

/-- An accepted call has an inbox that is complete and that no order of its inputs
changes, its digest included, if and only if no two of its sources collide: no id
of a record or a form is that of another one with a separator behind it and the
start of the other one's cause. -/
theorem isComplete_and_orderFree_iff
    {records forms : List PyJson}
    {imports : List RawFileMetadata}
    {tenantId : Option PyStr}
    {generatedAt : GeneratedAt}
    {inbox : ExceptionInbox}
    (digests : DigestsDistinct (sources records forms imports))
    (built : buildExceptionInbox interpreter records forms imports tenantId generatedAt =
      .ok inbox) :
    IsComplete interpreter (sources records forms imports) inbox ∧
        (∀ otherRecords otherForms otherImports, records.Perm otherRecords →
          forms.Perm otherForms → imports.Perm otherImports →
          buildExceptionInbox interpreter otherRecords otherForms otherImports tenantId
            generatedAt = .ok inbox) ↔
      (sources records forms imports).Pairwise fun first second => ¬first.Collide second := by
  obtain ⟨-, -, ⟨seen, formLoop⟩, -, state, collected, -, isSealed⟩ :=
    buildExceptionInbox_eq_ok.mp built
  obtain ⟨-, loop⟩ := collect_eq_ok.mp collected
  obtain ⟨parts, contributed, -, -, isState⟩ :=
    (adds_inputStep interpreter (tenantId.getD [])).foldlM_eq_ok.mp loop
  have read := Collecting.mapM_flatMap exceptions_of_contribution contributed
  rw [← sources_eq] at read
  have entries : AreEntries interpreter (sources records forms imports) state.exceptions := by
    rw [← isState, foldl_add]
    exact Checks.mapM_eq_ok.mp read
  have sorted : inbox.exceptions.Perm state.exceptions := by
    rw [sealInbox_exceptions isSealed]
    exact List.perm_insertionSort _ _
  have ids := entries.nodup_iff digests
  rw [pairwise_text_ne_iff (pairwise_apart formLoop loop),
    ← (sorted.map ExceptionItem.exceptionId).nodup_iff] at ids
  constructor
  · exact fun complete => ids.mp complete.1.distinct
  · intro noCollision
    refine ⟨⟨⟨_, entries, sorted⟩, ids.mpr noCollision⟩, ?_⟩
    intro otherRecords otherForms otherImports recordPerm formPerm importPerm
    exact buildExceptionInbox_of_perm built (ids.mpr noCollision) recordPerm formPerm importPerm

/-! ### A rejected file -/

/-- A file that was rejected. -/
def rejectedFile : RawFileMetadata where
  rawFileId := "0f8fad5b-d9cb-469f-a165-70867728950e"
  tenantId := PyStr.ofString "t"
  sha256 := Reporting.zeroHash
  sizeBytes := 1
  sanitizedFilename := "a.csv"
  storageKey := canonicalStorageKey (PyStr.ofString "t") Reporting.zeroHash
  state := .rejected
  schemaId := none
  structuralFingerprint := none
  semanticFingerprint := none
  diagnostics := [PyStr.ofString "CSV_HEADER_MISSING"]

/-- A time of generation. -/
def noon : GeneratedAt := .text (PyStr.ofString "2026-06-01T12:00:00Z")

/-- The inbox of a rejected file. -/
theorem isComplete_and_orderFree_iff_rejectedFile :
    ∃ inbox, buildExceptionInbox Reporting.smallInterpreter [] [] [rejectedFile]
        (some (PyStr.ofString "t")) noon = .ok inbox ∧
      IsComplete Reporting.smallInterpreter (sources [] [] [rejectedFile]) inbox := by
  have digests : DigestsDistinct (sources [] [] [rejectedFile]) := by
    rintro payload ⟨source, listed, isPayload⟩ other ⟨otherSource, otherListed, isOther⟩ -
    obtain rfl := List.mem_singleton.mp listed
    obtain rfl := List.mem_singleton.mp otherListed
    exact Option.some.inj (isPayload.symm.trans isOther)
  obtain ⟨inbox, built⟩ := Checks.exists_eq_ok (buildExceptionInbox Reporting.smallInterpreter [] []
    [rejectedFile] (some (PyStr.ofString "t")) noon) (by decide +kernel)
  exact ⟨inbox, built, ((isComplete_and_orderFree_iff digests built).mpr
    (List.pairwise_singleton _ _)).1⟩

/-! ### Records whose ids hold the separator -/

/-- A record of a metric without data for a reason. -/
def recordWithReason (recordId reason recordHash : String) : PyJson :=
  Reporting.mapping ((Reporting.emptyMembers recordId recordHash).map fun member =>
    if member.1 = "reason_code" then (member.1, .ofText reason) else member)

/-- A record whose reason holds the separator, and one whose id does. -/
def collidingRecords : List PyJson :=
  [recordWithReason "r" "a\x1fb"
      "00c0a88a6a04c00d4d4567ae966c7f9e7f198cbe427bfd3b351bd284259a83bb",
    recordWithReason "r\x1fa" "b"
      "062e4b8d38813b090632cf199d1b9c3012574f955cd3b675869245db4a091629"]

/-- The entries of an inbox have different ids. -/
def hasDistinctIds (inbox : ExceptionInbox) : Bool :=
  (inbox.exceptions.map ExceptionItem.exceptionId).Nodup

/-- The two records are accepted, and their entries have one id. -/
theorem not_isComplete_collidingRecords :
    ∃ inbox, DigestsDistinct (sources collidingRecords [] []) ∧
      buildExceptionInbox Reporting.smallInterpreter collidingRecords [] [] none noon =
        .ok inbox ∧
      ¬IsComplete Reporting.smallInterpreter (sources collidingRecords [] []) inbox := by
  have oneText : (sources collidingRecords [] []).all
      (fun source => source.text = PyStr.ofString "metric\x1fr\x1fa\x1fb") = true := by
    decide +kernel
  have hasText := fun source listed => of_decide_eq_true (List.all_eq_true.mp oneText source listed)
  have evaluated : ((buildExceptionInbox Reporting.smallInterpreter collidingRecords [] [] none
      noon).map hasDistinctIds).toOption = some false := by decide +kernel
  cases built : buildExceptionInbox Reporting.smallInterpreter collidingRecords [] [] none noon with
  | error failure =>
      rw [built] at evaluated
      cases evaluated
  | ok inbox =>
      rw [built] at evaluated
      refine ⟨inbox, ?_, rfl, fun complete => ?_⟩
      · rintro payload ⟨source, listed, isPayload⟩ other ⟨otherSource, otherListed, isOther⟩ -
        rw [hasText source listed] at isPayload
        rw [hasText otherSource otherListed] at isOther
        exact Option.some.inj (isPayload.symm.trans isOther)
      · exact absurd complete.distinct (of_decide_eq_false (Option.some.inj evaluated))

end Ux
end QuantumAnalytics
