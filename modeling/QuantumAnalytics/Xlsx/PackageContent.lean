import QuantumAnalytics.Xlsx.SheetTargets

/-!
# The content of a package

What counts as a part is decided by the safe name of an entry, which collapses its
path. What validates the content of an entry is decided by its file name, where
only backslashes are replaced, and folders are passed over.
-/

namespace QuantumAnalytics
namespace Xlsx

/-- An entry with its size. -/
structure SizedEntry extends Entry where
  /-- `info.file_size`. -/
  fileSize : Nat
  /-- A document is not empty. -/
  sized : ∀ root, content = .xml root → 0 < fileSize

/-- What a validator of content is for. -/
inductive ContentKind
  | contentTypes
  | workbook
  | rootRelationships
  | workbookRelationships
  | worksheet
  | sharedStrings
  | auxiliary (path : List Char)
  deriving DecidableEq

/-- The code of a part that is not XML. -/
def ContentKind.code : ContentKind → String
  | contentTypes => "XLSX_CONTENT_TYPES_INVALID"
  | workbook => "XLSX_WORKBOOK_INVALID"
  | rootRelationships => "XLSX_ROOT_RELATIONSHIPS_INVALID"
  | workbookRelationships => "XLSX_WORKBOOK_RELATIONSHIPS_INVALID"
  | worksheet => "XLSX_WORKSHEET_INVALID"
  | sharedStrings => "XLSX_SHARED_STRINGS_INVALID"
  | auxiliary _ => "XLSX_AUXILIARY_PART_INVALID"

/-- `_AUXILIARY_PARTS`. -/
def auxiliaryParts : List (List Char) :=
  ["docprops/app.xml", "docprops/core.xml", "xl/styles.xml", "xl/theme/theme1.xml"].map
    String.toList

/-- The branch that `validate_modeled_xml_content` takes for a name. -/
def contentKind? (path : List Char) : Option ContentKind :=
  if "xl/worksheets/".toList.isPrefixOf path && ".xml".toList.isSuffixOf path then some .worksheet
  else if path = sharedStringsPart then some .sharedStrings
  else if path ∈ auxiliaryParts then some (.auxiliary path)
  else none

/-- The parts that are read under one name, with the validators that read them. -/
def namedParts : List (String × ContentKind) :=
  [("[Content_Types].xml", .contentTypes), ("xl/workbook.xml", .workbook),
    ("_rels/.rels", .rootRelationships),
    ("xl/_rels/workbook.xml.rels", .workbookRelationships)]

/-- The validators: `_validate_content_types`, `_validate_workbook_root`,
`validate_relationships`, `_validate_worksheet_root`, `_validate_shared_strings` and
`validate_auxiliary_content`. -/
abbrev ContentValidators := ContentKind → Element → Result Unit

/-- A validator and the entry that went through it. -/
abbrev ContentCheck := ContentKind × Entry

section Inspection

variable (rules : NameRules) (validators : ContentValidators)

/-- An entry goes through a validator. -/
def validateContent (kind : ContentKind) (entry : Entry) : Result ContentCheck := do
  let root ← xmlRoot entry.content kind.code
  validators kind root
  return (kind, entry)

/-- The entry of a name goes through a validator. -/
def validateNamed (entries : List Entry) (named : String × ContentKind) : Result ContentCheck := do
  let entry ← requireSome (getinfo entries named.1) "XLSX_REQUIRED_PART_MISSING"
  validateContent validators named.2 entry

/-- The loop body of `validate_modeled_xml_content`. -/
def contentStep (entry : Entry) : Result (Option ContentCheck) :=
  if entry.isDir then return none
  else match contentKind? (foldedName rules entry) with
    | none => return none
    | some kind => do
        let check ← validateContent validators kind entry
        return some check

/-- `validate_modeled_xml_content`. -/
def validateXmlContent (entries : List Entry) : Result (List ContentCheck) := do
  let checks ← entries.mapM (contentStep rules validators)
  return checks.filterMap id

/-- `XlsxPackageInspector.inspect`, as far as the entries and their validators are
concerned, with the checks that were made. -/
def inspectParts (entries : List Entry) (relations : List Relation) (sheetIds : List String) :
    Result (List ContentCheck) := do
  validatePackageParts rules entries
  let types ← validateNamed validators entries ("[Content_Types].xml", .contentTypes)
  let workbook ← validateNamed validators entries ("xl/workbook.xml", .workbook)
  let checks ← validateXmlContent rules validators entries
  let root ← validateNamed validators entries ("_rels/.rels", .rootRelationships)
  let bindings ← validateNamed validators entries
    ("xl/_rels/workbook.xml.rels", .workbookRelationships)
  validateRelationships rules entries relations sheetIds
  let _ ← sheetEntries rules entries relations sheetIds
  return [types, workbook] ++ checks ++ [root, bindings]

end Inspection

/-! ### What the inspection is for -/

/-- The part that an entry with a safe name is. -/
def partOf (rules : NameRules) (entry : Entry) : List Char :=
  rules.casefold (rules.nfc (pathText (slashed entry.filename.toList)))

/-- The validator for a part. -/
def partKind? (part : List Char) : Option ContentKind :=
  if part = "[content_types].xml".toList then some .contentTypes
  else if part = "xl/workbook.xml".toList then some .workbook
  else if part = "_rels/.rels".toList then some .rootRelationships
  else if part = "xl/_rels/workbook.xml.rels".toList then some .workbookRelationships
  else contentKind? part

/-- The entry is found by the relationship of a sheet. -/
def BoundSheet (entries : List Entry) (relations : List Relation) (sheetIds : List String)
    (entry : Entry) : Prop :=
  ∃ relation ∈ relations, relation.id ∈ sheetIds ∧ ∃ path,
    relationshipTarget relation.target = .ok path ∧
      getinfo entries (String.ofList path) = some entry

/-- The entry is a part of the package, and its content went through the validator for
the part. -/
structure Inspected (rules : NameRules) (validators : ContentValidators) (entries : List Entry)
    (relations : List Relation) (sheetIds : List String) (checks : List ContentCheck)
    (entry : Entry) : Prop where
  modeled : partOf rules entry ∈ allowedExactParts ∨
    isWorksheetPart (partOf rules entry) = true ∧ BoundSheet entries relations sheetIds entry
  checked : ∃ kind root, partKind? (partOf rules entry) = some kind ∧ (kind, entry) ∈ checks ∧
    entry.content = .xml root ∧ validators kind root = .ok ()

/-- Every entry with data is a part of its own that went through its validator. -/
structure FullyInspected (rules : NameRules) (validators : ContentValidators)
    (entries : List SizedEntry) (relations : List Relation) (sheetIds : List String)
    (checks : List ContentCheck) : Prop where
  inspected : ∀ entry ∈ entries, 0 < entry.fileSize →
    Inspected rules validators (entries.map SizedEntry.toEntry) relations sheetIds checks
      entry.toEntry
  apart : (entries.map SizedEntry.toEntry).Pairwise fun entry other =>
    partOf rules entry ≠ partOf rules other

/-- The names of the entries are spelled so that both readings of them agree. -/
structure WellSpelled (rules : NameRules) (entries : List SizedEntry) : Prop where
  /-- An entry with data is no folder, and its file name is of the kind of its part. -/
  kinds : ∀ entry ∈ entries, 0 < entry.fileSize → entry.isDir = false ∧
    ∀ kind, contentKind? (partOf rules entry.toEntry) = some kind →
      contentKind? (foldedName rules entry.toEntry) = some kind
  /-- The names of worksheets stay distinct when they are folded. -/
  worksheets : ∀ entry ∈ entries.map SizedEntry.toEntry,
    ∀ other ∈ entries.map SizedEntry.toEntry, isWorksheet rules entry = true →
      isWorksheet rules other = true → foldedName rules entry = foldedName rules other →
        entry = other

variable {rules : NameRules} {validators : ContentValidators} {entries : List Entry}
  {entry : Entry} {kind : ContentKind}

/-! ### Parts -/

theorem partOf_eq
    {name : List Char}
    (safe : safeMemberName rules entry.filename = .ok name) :
    partOf rules entry = rules.casefold name := by
  rw [safeMemberName_spec safe, partOf]

theorem partOf_of_keyOf
    {part : List Char}
    (isKey : keyOf rules entry = .ok part) : partOf rules entry = part := by
  simp only [keyOf, Checks.bind_eq_ok, Checks.pure_eq_ok] at isKey
  obtain ⟨name, safe, rfl⟩ := isKey
  rw [key_of_safeMemberName safe, partOf_eq safe]

/-- The entries of an archive are different parts. -/
theorem pairwise_partOf
    {keys : List (List Char)}
    (names : validateArchive rules entries = .ok keys) :
    entries.Pairwise fun entry other => partOf rules entry ≠ partOf rules other := by
  refine ((adds_archiveStep rules).pairwise_of_foldlM names).imp ?_
  rintro first second ⟨part, otherPart, isPart, isOther, distinct⟩
  rwa [partOf_of_keyOf isPart, partOf_of_keyOf isOther]

/-- The part of a name of ASCII characters that is a path as it stands. -/
theorem partOf_of_filename
    {name : String}
    (small : (name.toList.all fun c => decide (c.toNat < 128)) = true)
    (path : pathText (slashed name.toList) = name.toList)
    (named : entry.filename = name) : partOf rules entry = name.toList.map Char.toLower := by
  have ascii : ∀ c ∈ name.toList, c.toNat < 128 := fun c listed =>
    of_decide_eq_true (List.all_eq_true.mp small c listed)
  rw [partOf, named, path, rules.nfc_ascii _ ascii, rules.casefold_ascii ascii]

theorem foldedName_of_filename
    {name : String}
    (small : (name.toList.all fun c => decide (c.toNat < 128)) = true)
    (path : slashed name.toList = name.toList)
    (named : entry.filename = name) : foldedName rules entry = name.toList.map Char.toLower := by
  have ascii : ∀ c ∈ name.toList, c.toNat < 128 := fun c listed =>
    of_decide_eq_true (List.all_eq_true.mp small c listed)
  rw [foldedName, named, path, rules.casefold_ascii ascii]

/-- What is read under one name is no folder, is the part of that name and is of no
kind that `validate_modeled_xml_content` knows. -/
theorem namedPart_spec
    {named : String × ContentKind}
    (listed : named ∈ namedParts)
    (isNamed : entry.filename = named.1) :
    entry.isDir = false ∧ partOf rules entry = named.1.toList.map Char.toLower ∧
      partKind? (partOf rules entry) = some named.2 ∧
      contentKind? (foldedName rules entry) = none ∧ ∀ path, contentKind? path ≠ some named.2 := by
  have plain : ∀ named ∈ namedParts,
      (named.1.toList.all fun c => decide (c.toNat < 128)) = true ∧
        pathText (slashed named.1.toList) = named.1.toList ∧
        slashed named.1.toList = named.1.toList ∧
        named.1.toList.getLast? ≠ some '/' ∧
        partKind? (named.1.toList.map Char.toLower) = some named.2 ∧
        contentKind? (named.1.toList.map Char.toLower) = none := by
    decide +kernel
  obtain ⟨small, path, slash, isFile, isKind, noKind⟩ := plain named listed
  rw [partOf_of_filename small path isNamed, foldedName_of_filename small slash isNamed]
  refine ⟨by rw [Entry.isDir, isNamed]; exact decide_eq_false isFile, rfl, isKind, noKind, ?_⟩
  intro path isPath
  simp only [namedParts, List.mem_cons, List.not_mem_nil, or_false] at listed
  unfold contentKind? at isPath
  rcases listed with rfl | rfl | rfl | rfl <;> split_ifs at isPath <;> cases isPath

/-! ### What went through a validator -/

/-- The content of the entry is a document that the validator accepts. -/
def Passed (validators : ContentValidators) (check : ContentCheck) : Prop :=
  ∃ root, check.2.content = .xml root ∧ validators check.1 root = .ok ()

theorem validateContent_eq_ok
    {check : ContentCheck} :
    validateContent validators kind entry = .ok check ↔
      check = (kind, entry) ∧ Passed validators (kind, entry) := by
  simp only [validateContent, Passed, Checks.bind_eq_ok, Checks.pure_eq_ok, xmlRoot_eq_ok]
  constructor
  · rintro ⟨root, isRoot, _, valid, rfl⟩
    exact ⟨rfl, root, isRoot, valid⟩
  · rintro ⟨rfl, root, isRoot, valid⟩
    exact ⟨root, isRoot, (), valid, rfl⟩

theorem validateNamed_spec
    {named : String × ContentKind}
    {check : ContentCheck}
    (valid : validateNamed validators entries named = .ok check) :
    getinfo entries named.1 = some check.2 ∧ check.1 = named.2 ∧ Passed validators check := by
  simp only [validateNamed, Checks.bind_eq_ok, Checks.requireSome_eq_ok,
    validateContent_eq_ok] at valid
  obtain ⟨entry, found, rfl, passed⟩ := valid
  exact ⟨found, rfl, passed⟩

theorem contentStep_spec
    {made : Option ContentCheck}
    (stepped : contentStep rules validators entry = .ok made) :
    (∀ check ∈ made, check.2 = entry ∧ entry.isDir = false ∧
        contentKind? (foldedName rules entry) = some check.1 ∧ Passed validators check) ∧
      (entry.isDir = false → ∀ kind, contentKind? (foldedName rules entry) = some kind →
        made = some (kind, entry)) := by
  unfold contentStep at stepped
  split at stepped
  next isFolder =>
    obtain rfl := Checks.pure_eq_ok.mp stepped
    exact ⟨fun check isMade => (by cases isMade), fun isFile => absurd isFolder (by simp [isFile])⟩
  next notFolder =>
    have isFile : entry.isDir = false := Bool.not_eq_true _ ▸ notFolder
    split at stepped
    next unknown =>
      obtain rfl := Checks.pure_eq_ok.mp stepped
      exact ⟨fun check isMade => (by cases isMade), fun _ kind isKind =>
        absurd (unknown.symm.trans isKind) (by simp)⟩
    next kind known =>
      simp only [Checks.bind_eq_ok, Checks.pure_eq_ok, validateContent_eq_ok] at stepped
      obtain ⟨_, ⟨rfl, passed⟩, rfl⟩ := stepped
      constructor
      · rintro check isMade
        obtain rfl := Option.some.inj isMade
        exact ⟨rfl, isFile, known, passed⟩
      · intro _ other isOther
        rw [Option.some.inj (known.symm.trans isOther)]

/-- The checks of the loop over the entries. -/
theorem validateXmlContent_spec
    {checks : List ContentCheck}
    (valid : validateXmlContent rules validators entries = .ok checks) :
    (∀ check ∈ checks, Passed validators check) ∧
      ∀ kind entry, (kind, entry) ∈ checks ↔ entry ∈ entries ∧ entry.isDir = false ∧
        contentKind? (foldedName rules entry) = some kind := by
  simp only [validateXmlContent, Checks.bind_eq_ok, Checks.pure_eq_ok] at valid
  obtain ⟨made, areMade, rfl⟩ := valid
  have each := Checks.mapM_eq_ok.mp areMade
  have ofMade : ∀ check ∈ made.filterMap id, ∃ entry ∈ entries,
      contentStep rules validators entry = .ok (some check) := by
    intro check isCheck
    obtain ⟨option, isMade, isSome⟩ := List.mem_filterMap.mp isCheck
    obtain ⟨entry, listed, stepped⟩ := Checks.exists_left_of_mem each isMade
    exact ⟨entry, listed, isSome ▸ stepped⟩
  refine ⟨fun check isCheck => ?_, fun kind entry => ⟨fun isCheck => ?_, ?_⟩⟩
  · obtain ⟨entry, -, stepped⟩ := ofMade check isCheck
    exact ((contentStep_spec stepped).1 check rfl).2.2.2
  · obtain ⟨other, listed, stepped⟩ := ofMade _ isCheck
    obtain ⟨rfl, isFile, isKind, -⟩ := (contentStep_spec stepped).1 _ rfl
    exact ⟨listed, isFile, isKind⟩
  · rintro ⟨listed, isFile, isKind⟩
    obtain ⟨option, isMade, stepped⟩ := Checks.exists_left_of_mem (List.Forall₂.flip each) listed
    obtain rfl := (contentStep_spec stepped).2 isFile kind isKind
    exact List.mem_filterMap.mpr ⟨_, isMade, rfl⟩

/-- What an inspection that ends has checked. -/
structure Ran (rules : NameRules) (validators : ContentValidators) (entries : List Entry)
    (relations : List Relation) (sheetIds : List String) (checks : List ContentCheck) : Prop where
  parts : validatePackageParts rules entries = .ok ()
  relationships : validateRelationships rules entries relations sheetIds = .ok ()
  sheets : ∃ read, sheetEntries rules entries relations sheetIds = .ok read
  passed : ∀ check ∈ checks, Passed validators check
  /-- Every part that is read under one name is there. -/
  named : ∀ named ∈ namedParts, ∃ entry, getinfo entries named.1 = some entry ∧
    (named.2, entry) ∈ checks
  /-- Every other check is one of the loop over the entries. -/
  mem : ∀ kind entry, (kind, entry) ∈ checks →
    (∃ named ∈ namedParts, named.2 = kind ∧ entry.filename = named.1) ∨
      entry ∈ entries ∧ entry.isDir = false ∧ contentKind? (foldedName rules entry) = some kind
  dispatched : ∀ entry ∈ entries, entry.isDir = false → ∀ kind,
    contentKind? (foldedName rules entry) = some kind → (kind, entry) ∈ checks

theorem ran_of_inspectParts
    {relations : List Relation}
    {sheetIds : List String}
    {checks : List ContentCheck}
    (inspected : inspectParts rules validators entries relations sheetIds = .ok checks) :
    Ran rules validators entries relations sheetIds checks := by
  simp only [inspectParts, Checks.bind_eq_ok, Checks.pure_eq_ok] at inspected
  obtain ⟨_, parts, types, isTypes, workbook, isWorkbook, loop, isLoop, root, isRoot, bindings,
    areBindings, _, relationships, read, isRead, rfl⟩ := inspected
  have each : List.Forall₂
      (fun named check => validateNamed validators entries named = .ok check) namedParts
      [types, workbook, root, bindings] :=
    .cons isTypes (.cons isWorkbook (.cons isRoot (.cons areBindings .nil)))
  have mem : ∀ check, check ∈ [types, workbook] ++ loop ++ [root, bindings] ↔
      check ∈ [types, workbook, root, bindings] ∨ check ∈ loop := by
    intro check
    simp only [List.mem_append, List.mem_cons, List.not_mem_nil, or_false]
    tauto
  obtain ⟨loopPassed, loopMem⟩ := validateXmlContent_spec isLoop
  refine ⟨parts, relationships, ⟨read, isRead⟩, fun check isCheck => ?_, fun part listed => ?_,
    fun kind entry isCheck => ?_, fun entry listed isFile kind isKind => ?_⟩
  · rcases (mem check).mp isCheck with isNamed | isDispatched
    · obtain ⟨part, -, valid⟩ := Checks.exists_left_of_mem each isNamed
      exact (validateNamed_spec valid).2.2
    · exact loopPassed check isDispatched
  · obtain ⟨check, isCheck, valid⟩ := Checks.exists_left_of_mem (List.Forall₂.flip each) listed
    obtain ⟨found, isKind, -⟩ := validateNamed_spec valid
    exact ⟨check.2, found, (mem _).mpr (.inl (isKind ▸ isCheck))⟩
  · rcases (mem _).mp isCheck with isNamed | isDispatched
    · obtain ⟨part, listed, valid⟩ := Checks.exists_left_of_mem each isNamed
      obtain ⟨found, isKind, -⟩ := validateNamed_spec valid
      exact .inl ⟨part, listed, isKind.symm, (getinfo_spec found).2⟩
    · exact .inr ((loopMem kind entry).mp isDispatched)
  · exact (mem _).mpr (.inr ((loopMem kind entry).mpr ⟨listed, isFile, isKind⟩))

/-! ### Kinds -/

/-- What the loop over the entries takes for a worksheet. -/
theorem isWorksheet_iff :
    isWorksheet rules entry = true ↔
      entry.isDir = false ∧ contentKind? (foldedName rules entry) = some .worksheet := by
  have folded : foldedName rules entry = rules.casefold (slashed entry.filename.toList) := rfl
  rw [isWorksheet, folded, contentKind?, Bool.and_eq_true, Bool.and_eq_true, Bool.not_eq_true',
    and_assoc]
  refine and_congr_right fun _ => ⟨fun shape => ?_, fun isSheet => ?_⟩
  · rw [shape.1, shape.2]
    rfl
  · split_ifs at isSheet with shape
    · exact Bool.and_eq_true_iff.mp shape
    all_goals cases isSheet

theorem partKind?_of_contentKind?
    {part : List Char}
    (isKind : contentKind? part = some kind) : partKind? part = some kind := by
  have other : ∀ {name : String}, contentKind? name.toList = none → part ≠ name.toList := by
    rintro name isNone rfl
    exact absurd (isNone.symm.trans isKind) (by simp)
  unfold partKind?
  rw [if_neg (other (by decide +kernel)), if_neg (other (by decide +kernel)),
    if_neg (other (by decide +kernel)), if_neg (other (by decide +kernel)), isKind]

theorem contentKind?_of_isWorksheetPart
    {part : List Char}
    (isSheet : isWorksheetPart part = true) : contentKind? part = some .worksheet := by
  simp only [isWorksheetPart, Bool.and_eq_true] at isSheet
  obtain ⟨⟨⟨starts, ends⟩, -⟩, -⟩ := isSheet
  have isSuffix : ".xml".toList.isSuffixOf part = true :=
    List.isSuffixOf_iff_suffix.mpr
      ((List.isSuffixOf_iff_suffix.mp ends).trans (List.drop_suffix 14 part))
  rw [contentKind?, starts, isSuffix]
  rfl

/-- A part that is modelled by its name is read under one name, or of a kind that the
loop over the entries knows. -/
theorem exact_cases
    {part : List Char}
    (isExact : part ∈ allowedExactParts) :
    partKind? part ≠ some .worksheet ∧
      ((∃ named ∈ namedParts, named.1.toList.map Char.toLower = part) ∨
        ∃ kind, contentKind? part = some kind) := by
  have each : ∀ part ∈ allowedExactParts, partKind? part ≠ some .worksheet ∧
      ((∃ named ∈ namedParts, named.1.toList.map Char.toLower = part) ∨
        (contentKind? part).isSome = true) := by
    decide +kernel
  obtain ⟨noSheet, known⟩ := each part isExact
  exact ⟨noSheet, known.imp_right Option.isSome_iff_exists.mp⟩

/-! ### Sheets -/

variable {relations : List Relation} {sheetIds : List String} {checks : List ContentCheck}

/-- The paths of sheets stay distinct when they are folded. -/
theorem path_eq_of_casefold
    {read : List Entry}
    (isRead : sheetEntries rules entries relations sheetIds = .ok read)
    {first second : Relation}
    {path other : List Char}
    (isFirst : first ∈ relations ∧ first.id ∈ sheetIds ∧ first.id ≠ "")
    (isSecond : second ∈ relations ∧ second.id ∈ sheetIds ∧ second.id ≠ "")
    (isPath : relationshipTarget first.target = .ok path)
    (isOther : relationshipTarget second.target = .ok other)
    (same : rules.casefold path = rules.casefold other) : path = other := by
  simp only [sheetEntries] at isRead
  simp only [↓Checks.bind_done_eq_ok, Checks.bind_eq_ok, Checks.require_eq_ok] at isRead
  obtain ⟨targets, run, paths, arePaths, nodup, -⟩ := isRead
  have targetsOf := targetsOf_run run
  have eachPath := Checks.mapM_eq_ok.mp arePaths
  have listedPath : ∀ {relation : Relation} {path : List Char},
      relation ∈ relations ∧ relation.id ∈ sheetIds ∧ relation.id ≠ "" →
        relationshipTarget relation.target = .ok path → path ∈ paths := by
    rintro relation path ⟨listed, isSheet, named⟩ isPath
    obtain ⟨again, isAgain, isTarget⟩ := targetsOf.listed relation listed named
    obtain ⟨found, isFound, isSheetPath⟩ :=
      Checks.exists_left_of_mem (List.Forall₂.flip eachPath) isSheet
    have same := congrArg Prod.snd (List.inj_on_of_nodup_map targetsOf.nodup isTarget
      (sheetPath_spec isSheetPath).1 rfl)
    obtain rfl := Except.ok.inj (isPath.symm.trans isAgain)
    obtain rfl : path = found := same
    exact isFound
  exact List.inj_on_of_nodup_map nodup (listedPath isFirst isPath) (listedPath isSecond isOther)
    same

/-- The path of the relationship of a sheet is plain. -/
theorem Ran.plain
    (ran : Ran rules validators entries relations sheetIds checks)
    {relation : Relation}
    (listed : relation ∈ relations)
    {path : List Char}
    (isPath : relationshipTarget relation.target = .ok path) :
    Plain path ∧ slashed path = path := by
  obtain ⟨-, resolved⟩ := resolved_of_validateRelationships ran.relationships
  obtain ⟨folded, isFolded, -⟩ := resolved relation listed
  obtain ⟨plain, isSlashed, -⟩ := targets_agree isPath isFolded
  exact ⟨plain, isSlashed⟩

/-- Worksheets that are found by relationships and have one folded name are one. -/
theorem Ran.eq_of_boundSheet
    (ran : Ran rules validators entries relations sheetIds checks)
    {other : Entry}
    (bound : BoundSheet entries relations sheetIds entry)
    (otherBound : BoundSheet entries relations sheetIds other)
    (same : foldedName rules entry = foldedName rules other) : entry = other := by
  obtain ⟨first, isFirst, firstId, path, isPath, found⟩ := bound
  obtain ⟨second, isSecond, secondId, otherPath, isOther, otherFound⟩ := otherBound
  obtain ⟨read, isRead⟩ := ran.sheets
  have named := (resolved_of_validateRelationships ran.relationships).1
  have folded : ∀ {relation : Relation} {path : List Char} {entry : Entry},
      relation ∈ relations → relationshipTarget relation.target = .ok path →
        getinfo entries (String.ofList path) = some entry →
          foldedName rules entry = rules.casefold path := by
    intro relation path entry listed isPath found
    rw [foldedName, (getinfo_spec found).2, String.toList_ofList, (ran.plain listed isPath).2]
  rw [folded isFirst isPath found, folded isSecond isOther otherFound] at same
  obtain rfl := path_eq_of_casefold isRead ⟨isFirst, firstId, named _ firstId⟩
    ⟨isSecond, secondId, named _ secondId⟩ isPath isOther same
  exact Option.some.inj (found.symm.trans otherFound)

/-- A worksheet whose folded name is no other's is found by a relationship. -/
theorem Ran.boundSheet
    (ran : Ran rules validators entries relations sheetIds checks)
    (distinct : ∀ entry ∈ entries, ∀ other ∈ entries, isWorksheet rules entry = true →
      isWorksheet rules other = true → foldedName rules entry = foldedName rules other →
        entry = other)
    (listed : entry ∈ entries)
    (isSheet : isWorksheet rules entry = true) :
    BoundSheet entries relations sheetIds entry := by
  obtain ⟨read, isRead⟩ := ran.sheets
  have found := found_of_sheetEntries isRead
  have named := (resolved_of_validateRelationships ran.relationships).1
  obtain ⟨relation, isRelation, isId, path, isPath, samePath⟩ := found.relation entry listed isSheet
  obtain ⟨again, other, isAgain, starts, ends, isOther⟩ :=
    found.entry relation isRelation isId (named _ isId)
  obtain rfl := Except.ok.inj (isPath.symm.trans isAgain)
  obtain ⟨plain, isSlashed⟩ := ran.plain isRelation isPath
  obtain ⟨otherSheet, otherFolded⟩ :=
    isWorksheet_of_getinfo plain isSlashed ⟨starts, ends⟩ isOther
  obtain rfl := distinct entry listed other (getinfo_spec isOther).1 isSheet otherSheet
    (samePath.symm.trans otherFolded.symm)
  exact ⟨relation, isRelation, isId, path, isPath, isOther⟩

/-! ### Spellings -/

/-- The kind of the check of an inspected part is that of its folded name. -/
theorem Ran.contentKind_of_checked
    (ran : Ran rules validators entries relations sheetIds checks)
    (isCheck : (kind, entry) ∈ checks) :
    entry.isDir = false ∧ (contentKind? (foldedName rules entry) = some kind ∨
      contentKind? (foldedName rules entry) = none ∧ ∀ path, contentKind? path ≠ some kind) := by
  rcases ran.mem kind entry isCheck with ⟨named, listed, rfl, isNamed⟩ | ⟨-, isFile, isKind⟩
  · obtain ⟨isFile, -, -, noKind, never⟩ := @namedPart_spec rules _ _ listed isNamed
    exact ⟨isFile, .inr ⟨noKind, never⟩⟩
  · exact ⟨isFile, .inl isKind⟩

variable {sized : List SizedEntry}

theorem wellSpelled_of_fullyInspected
    (ran : Ran rules validators (sized.map SizedEntry.toEntry) relations sheetIds checks)
    (full : FullyInspected rules validators sized relations sheetIds checks) :
    WellSpelled rules sized := by
  have bound : ∀ entry ∈ sized.map SizedEntry.toEntry, isWorksheet rules entry = true →
      BoundSheet (sized.map SizedEntry.toEntry) relations sheetIds entry := by
    intro entry listed isSheet
    obtain ⟨isFile, isKind⟩ := isWorksheet_iff.mp isSheet
    obtain ⟨root, isRoot, -⟩ := ran.passed _ (ran.dispatched entry listed isFile _ isKind)
    obtain ⟨original, isOriginal, rfl⟩ := List.mem_map.mp listed
    have inspected := full.inspected original isOriginal (original.sized root isRoot)
    obtain ⟨kind, -, isPart, isCheck, -, -⟩ := inspected.checked
    rcases (ran.contentKind_of_checked isCheck).2 with same | ⟨isNone, -⟩
    · obtain rfl := Option.some.inj (isKind.symm.trans same)
      rcases inspected.modeled with isExact | ⟨-, isBound⟩
      · exact absurd isPart (exact_cases isExact).1
      · exact isBound
    · exact absurd (isNone.symm.trans isKind) (by simp)
  refine ⟨fun entry listed carries => ?_, fun entry listed other otherListed isSheet isOther same =>
    ran.eq_of_boundSheet (bound entry listed isSheet) (bound other otherListed isOther) same⟩
  obtain ⟨kind, -, isPart, isCheck, -, -⟩ := (full.inspected entry listed carries).checked
  obtain ⟨isFile, dispatched⟩ := ran.contentKind_of_checked isCheck
  refine ⟨isFile, fun other isOther => ?_⟩
  obtain rfl := Option.some.inj (isPart.symm.trans (partKind?_of_contentKind? isOther))
  exact dispatched.resolve_right fun never => never.2 _ isOther

theorem fullyInspected_of_wellSpelled
    (ran : Ran rules validators (sized.map SizedEntry.toEntry) relations sheetIds checks)
    (spelled : WellSpelled rules sized) :
    FullyInspected rules validators sized relations sheetIds checks := by
  have parts := ran.parts
  simp only [validatePackageParts, Checks.bind_eq_ok] at parts
  obtain ⟨keys, isArchive, each⟩ := parts
  have apart := pairwise_partOf isArchive
  refine ⟨fun entry listed carries => ?_, apart⟩
  have isEntry := List.mem_map_of_mem (f := SizedEntry.toEntry) listed
  obtain ⟨isFile, kinds⟩ := spelled.kinds entry listed carries
  have valid := Checks.forM_eq_ok.mp each entry.toEntry isEntry
  rw [validatePart, isFile, if_neg (by decide)] at valid
  simp only [Checks.bind_eq_ok, Checks.require_eq_ok] at valid
  obtain ⟨name, safe, modeled⟩ := valid
  rw [← partOf_eq safe] at modeled
  -- A part of a kind that the loop knows goes through the validator of that kind.
  have dispatched : ∀ kind, contentKind? (partOf rules entry.toEntry) = some kind →
      ∃ kind root, partKind? (partOf rules entry.toEntry) = some kind ∧
        (kind, entry.toEntry) ∈ checks ∧ entry.content = .xml root ∧
          validators kind root = .ok () := by
    intro kind isKind
    have isCheck := ran.dispatched entry.toEntry isEntry isFile kind (kinds kind isKind)
    obtain ⟨root, isRoot, accepted⟩ := ran.passed _ isCheck
    exact ⟨kind, root, partKind?_of_contentKind? isKind, isCheck, isRoot, accepted⟩
  rcases modeled with isExact | isSheet
  · refine ⟨.inl isExact, ?_⟩
    rcases (exact_cases isExact).2 with ⟨named, isNamed, samePart⟩ | ⟨kind, isKind⟩
    · obtain ⟨other, found, isCheck⟩ := ran.named named isNamed
      obtain ⟨isOther, otherNamed⟩ := getinfo_spec found
      obtain ⟨-, otherPart, isPart, -, -⟩ := @namedPart_spec rules _ _ isNamed otherNamed
      obtain rfl := List.inj_on_of_nodup_map (List.pairwise_map.mpr apart) isEntry isOther
        (samePart.symm.trans otherPart.symm)
      obtain ⟨root, isRoot, accepted⟩ := ran.passed _ isCheck
      exact ⟨named.2, root, isPart, isCheck, isRoot, accepted⟩
    · exact dispatched kind isKind
  · have isKind := contentKind?_of_isWorksheetPart isSheet
    exact ⟨.inr ⟨isSheet, ran.boundSheet spelled.worksheets isEntry
      (isWorksheet_iff.mpr ⟨isFile, kinds _ isKind⟩)⟩, dispatched _ isKind⟩

/-- In a workbook that is accepted, every entry with data is a part of its own that went
through its validator if and only if the names of the entries are well spelled. -/
theorem fullyInspected_iff
    (inspected : inspectParts rules validators (sized.map SizedEntry.toEntry) relations sheetIds =
      .ok checks) :
    FullyInspected rules validators sized relations sheetIds checks ↔ WellSpelled rules sized :=
  ⟨wellSpelled_of_fullyInspected (ran_of_inspectParts inspected),
    fullyInspected_of_wellSpelled (ran_of_inspectParts inspected)⟩

/-! ### Entries that nothing reads -/

/-- A document with an empty root. -/
def documentOf (filename tag : String) : SizedEntry :=
  ⟨⟨filename, .xml (.mk tag [] "" [])⟩, 1, fun _ _ => Nat.one_pos⟩

/-- The first check of every validator, where it is one of worksheets. -/
def worksheetTags : ContentValidators := fun kind root =>
  require (kind = .worksheet → root.tag = spreadsheetTag "worksheet") "XLSX_WORKSHEET_INVALID"

/-- A package with one worksheet. -/
def packageEntries : List SizedEntry :=
  [documentOf "[Content_Types].xml" "Types", documentOf "_rels/.rels" "Relationships",
    documentOf "xl/workbook.xml" "workbook",
    documentOf "xl/_rels/workbook.xml.rels" "Relationships",
    documentOf "xl/worksheets/sheet1.xml" (spreadsheetTag "worksheet")]

/-- Everything in the package went through its validator. -/
theorem fullyInspected_iff_package :
    ∃ checks, inspectParts asciiNames worksheetTags (packageEntries.map SizedEntry.toEntry)
        [worksheetRelation "worksheets/sheet1.xml"] ["rId1"] = .ok checks ∧
      FullyInspected asciiNames worksheetTags packageEntries
        [worksheetRelation "worksheets/sheet1.xml"] ["rId1"] checks := by
  obtain ⟨checks, inspected⟩ := Checks.exists_eq_ok
    (inspectParts asciiNames worksheetTags (packageEntries.map SizedEntry.toEntry)
      [worksheetRelation "worksheets/sheet1.xml"] ["rId1"]) (by decide +kernel)
  have kinds : ∀ entry ∈ packageEntries, entry.isDir = false ∧
      contentKind? (partOf asciiNames entry.toEntry) =
        contentKind? (foldedName asciiNames entry.toEntry) := by
    decide +kernel
  have sheet : ∀ entry ∈ packageEntries.map SizedEntry.toEntry,
      isWorksheet asciiNames entry = true →
        entry = (documentOf "xl/worksheets/sheet1.xml" (spreadsheetTag "worksheet")).toEntry := by
    intro entry listed isSheet
    simp only [packageEntries, List.map_cons, List.map_nil, List.mem_cons, List.not_mem_nil,
      or_false] at listed
    rcases listed with rfl | rfl | rfl | rfl | rfl
    · exact absurd isSheet (by decide +kernel)
    · exact absurd isSheet (by decide +kernel)
    · exact absurd isSheet (by decide +kernel)
    · exact absurd isSheet (by decide +kernel)
    · rfl
  refine ⟨checks, inspected, (fullyInspected_iff inspected).mpr ⟨fun entry listed _ => ?_,
    fun entry listed other otherListed isSheet isOther _ =>
      (sheet entry listed isSheet).trans (sheet other otherListed isOther).symm⟩⟩
  obtain ⟨isFile, same⟩ := kinds entry listed
  exact ⟨isFile, fun kind isKind => same ▸ isKind⟩

/-- A worksheet whose path has a doubled separator, and a folder with data. -/
def hiddenEntries : List SizedEntry :=
  [documentOf "xl//worksheets/sheet2.xml" "script", documentOf "xl/media/" "script"]

/-- A package with hidden entries is accepted, and no validator reads them. -/
theorem not_fullyInspected_hidden :
    ∃ checks, inspectParts asciiNames worksheetTags
        ((packageEntries ++ hiddenEntries).map SizedEntry.toEntry)
        [worksheetRelation "worksheets/sheet1.xml"] ["rId1"] = .ok checks ∧
      (∀ entry ∈ hiddenEntries, ∀ kind, (kind, entry.toEntry) ∉ checks) ∧
      ¬FullyInspected asciiNames worksheetTags (packageEntries ++ hiddenEntries)
        [worksheetRelation "worksheets/sheet1.xml"] ["rId1"] checks := by
  obtain ⟨checks, inspected⟩ := Checks.exists_eq_ok
    (inspectParts asciiNames worksheetTags
      ((packageEntries ++ hiddenEntries).map SizedEntry.toEntry)
      [worksheetRelation "worksheets/sheet1.xml"] ["rId1"]) (by decide +kernel)
  have hidden : ∀ entry ∈ hiddenEntries,
      (∀ named ∈ namedParts, entry.filename ≠ named.1) ∧
        (entry.isDir = true ∨ contentKind? (foldedName asciiNames entry.toEntry) = none) := by
    decide +kernel
  have unread : ∀ entry ∈ hiddenEntries, ∀ kind, (kind, entry.toEntry) ∉ checks := by
    intro entry listed kind isCheck
    obtain ⟨unnamed, skipped⟩ := hidden entry listed
    rcases (ran_of_inspectParts inspected).mem kind _ isCheck with
      ⟨named, isNamed, -, same⟩ | ⟨-, isFile, isKind⟩
    · exact unnamed named isNamed same
    · rcases skipped with isFolder | isNone
      · exact absurd isFolder (by simp [isFile])
      · exact absurd (isNone.symm.trans isKind) (by simp)
  refine ⟨checks, inspected, unread, fun full => ?_⟩
  have first := full.inspected (documentOf "xl//worksheets/sheet2.xml" "script")
    (List.mem_append_right _ List.mem_cons_self) Nat.one_pos
  obtain ⟨kind, -, -, isCheck, -, -⟩ := first.checked
  exact unread _ List.mem_cons_self kind isCheck

end Xlsx
end QuantumAnalytics
