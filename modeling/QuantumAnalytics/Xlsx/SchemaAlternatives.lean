import Mathlib.Data.List.TakeWhile
import Mathlib.Data.String.Basic
import QuantumAnalytics.Foundations.Collecting
import QuantumAnalytics.Xlsx.SchemaChoice

/-!
# Schemas as alternatives

A schema fits a workbook by what is found on the sheet with its name. With several
schemas only one sheet is read, so a sheet in front of the right one that has the
name of another candidate hides the schema that fits.
-/

namespace QuantumAnalytics
namespace Xlsx

/-- An inspection matches a schema. -/
def Matches (result : Result Verdict) (schema : XlsxSchemaExpectation) : Prop :=
  ∃ verdict, result = .ok verdict ∧ verdict.matched = some schema

variable {setting : Setting}

/-- The sheet with the name of the schema is as the schema expects. -/
def Fits (setting : Setting) (schema : XlsxSchemaExpectation) : Prop :=
  schema.packageKind = setting.packageKind ∧ ∃ sheet ∈ setting.workbook.sheets,
    sheet.name = schema.sheetName ∧ ∃ shape,
      shapeAt setting sheet schema.headerRowIndex = .ok shape ∧ localCodes shape schema = [] ∧
        shape.prohibitedHeaderCount = 0

/-- No sheet in front of the one with the name of the schema has the name of a
candidate. -/
def Unobstructed (setting : Setting) (schemas : List XlsxSchemaExpectation)
    (schema : XlsxSchemaExpectation) : Prop :=
  ∀ front sheet back, setting.workbook.sheets = front ++ sheet :: back →
    sheet.name = schema.sheetName → ∀ other ∈ front,
      other.name ∉ (candidates setting schemas).map XlsxSchemaExpectation.sheetName

/-- What `XlsxInspectionPolicy.__post_init__` checks of the schemas together. -/
structure AreValid (schemas : List XlsxSchemaExpectation) : Prop where
  /-- No schema is listed twice. -/
  distinct : schemas.Nodup
  /-- Schemas for one sheet have their headers in one row. -/
  headerRows : ∀ schema ∈ schemas, ∀ other ∈ schemas, schema.packageKind = other.packageKind →
    schema.sheetName = other.sheetName → schema.headerRowIndex = other.headerRowIndex

theorem areValid_singleton (schema : XlsxSchemaExpectation) : AreValid [schema] where
  distinct := List.nodup_singleton schema
  headerRows := by
    intro first isFirst second isSecond _ _
    rw [List.mem_singleton.mp isFirst, List.mem_singleton.mp isSecond]

/-! ### Headers have text -/

theorem all_of_stripWith_eq_nil
    {drop : Char → Bool}
    {text : List Char}
    (stripped : PyText.stripWith drop text = []) : ∀ c ∈ text, drop c = true := by
  rw [PyText.stripWith, List.reverse_eq_nil_iff, List.dropWhile_eq_nil_iff] at stripped
  have none : text.dropWhile drop = [] := by
    cases rest : text.dropWhile drop with
    | nil => rfl
    | cons c others =>
        have dropped := stripped c (by rw [rest]; simp)
        have kept := List.head?_dropWhile_not drop text
        rw [rest] at kept
        simp [dropped] at kept
  exact List.dropWhile_eq_nil_iff.mp none

/-- A cell with a header has a text. -/
theorem hasText_of_normalizedHeader
    {unicode : UnicodeData}
    {value : String}
    (isHeader : normalizedHeader unicode value ≠ "") : hasText value = true := by
  by_contra noText
  rw [hasText, Bool.not_eq_true, Bool.not_eq_false', List.isEmpty_iff] at noText
  have blank := unicode.nfc_blank (all_of_stripWith_eq_nil noText)
  have stripped : PyText.strip (unicode.nfc value.toList) = [] := by
    rw [PyText.strip, PyText.stripWith, List.dropWhile_eq_nil_iff.mpr blank]
    rfl
  exact isHeader (by rw [normalizedHeader, stripped]; rfl)

/-- A row of headers has a cell with a text. -/
theorem exists_hasText_of_headersOf
    {unicode : UnicodeData}
    {cells : CellTexts}
    (nonempty : headersOf unicode cells ≠ [])
    (noGap : "" ∉ headersOf unicode cells) : ∃ cell ∈ cells, hasText cell.2 = true := by
  obtain ⟨header, isHeader⟩ := List.exists_mem_of_ne_nil _ nonempty
  have different : header ≠ "" := fun same => noGap (same ▸ isHeader)
  obtain ⟨index, -, rfl⟩ := List.mem_map.mp isHeader
  cases found : cells.find? fun cell => cell.1 = index + 1 with
  | none => simp [found] at different
  | some cell =>
      rw [found, Option.map_some, Option.getD_some] at different
      exact ⟨cell, List.mem_of_find?_eq_some found, hasText_of_normalizedHeader different⟩

/-! ### What a shape says -/

/-- What a shape is the shape of. -/
structure ShapeSpec (setting : Setting) (sheet : SheetElement) (headerRowIndex : Nat)
    (shape : WorkbookShape) (parsedSheets : List (SheetElement × ParsedWorksheet)) : Prop where
  sheetName : shape.sheetName = sheet.name
  headerRow : shape.headerRowIndex = headerRowIndex
  parsed : parseSheets setting = .ok parsedSheets
  content : ∃ candidate ∈ parsedSheets, candidate.1.path = sheet.path ∧
    candidate.2.hasContent = true
  unmodeled : shape.unmodeledWorksheetCount = (parsedSheets.filter fun candidate =>
    candidate.1.path ≠ sheet.path && candidate.2.hasContent).length

theorem shapeAt_spec
    {sheet : SheetElement}
    {headerRowIndex : Nat}
    {shape : WorkbookShape}
    (isShape : shapeAt setting sheet headerRowIndex = .ok shape) :
    ∃ parsedSheets, ShapeSpec setting sheet headerRowIndex shape parsedSheets := by
  simp only [shapeAt, normalizedHeaderSha256] at isShape
  simp only [↓Checks.bind_done_eq_ok, Checks.bind_eq_ok, Checks.requireSome_eq_ok,
    Checks.require_eq_ok, Checks.pure_eq_ok] at isShape
  obtain ⟨-, parsedSheets, isParsed, ⟨found, parsed⟩, isFound, ⟨row, cells⟩, isRow, -, noGap, -,
    ⟨nonempty, -, -⟩, rfl⟩ := isShape
  obtain ⟨cell, isCell, isText⟩ := exists_hasText_of_headersOf nonempty noGap
  have isContent := parsed.sound _ (List.mem_of_find?_eq_some isRow) cell isCell isText
  refine ⟨parsedSheets, rfl, rfl, isParsed, ⟨(found, parsed), List.mem_of_find?_eq_some isFound,
    by simpa using List.find?_some isFound, ?_⟩, rfl⟩
  rw [ParsedWorksheet.hasContent, Bool.or_eq_true, Bool.not_eq_true', List.isEmpty_eq_false_iff]
  exact .inl (List.ne_nil_of_mem isContent)

theorem codeIf_eq_nil_iff {condition : Bool} {code : String} :
    codeIf condition code = [] ↔ condition = false := by
  cases condition <;> simp [codeIf]

theorem localCodes_spec
    {shape : WorkbookShape}
    {schema : XlsxSchemaExpectation}
    (fits : localCodes shape schema = []) :
    shape.sheetName = schema.sheetName ∧ shape.headerRowIndex = schema.headerRowIndex ∧
      shape.unmodeledWorksheetCount = 0 := by
  simp only [localCodes, List.append_eq_nil_iff, codeIf_eq_nil_iff, decide_eq_false_iff_not,
    ne_eq, not_not] at fits
  obtain ⟨⟨⟨⟨⟨⟨⟨⟨sheetName, -⟩, headerRow⟩, -⟩, -⟩, -⟩, unmodeled⟩, -⟩, -⟩ := fits
  exact ⟨sheetName, headerRow, unmodeled⟩

/-- Two sheets with headers are one sheet when the first shape has no content
elsewhere. -/
theorem sheet_eq_of_shapes
    {sheet other : SheetElement}
    {headerRowIndex otherRow : Nat}
    {shape otherShape : WorkbookShape}
    (isListed : sheet ∈ setting.workbook.sheets)
    (otherListed : other ∈ setting.workbook.sheets)
    (isShape : shapeAt setting sheet headerRowIndex = .ok shape)
    (isOther : shapeAt setting other otherRow = .ok otherShape)
    (alone : shape.unmodeledWorksheetCount = 0) : other = sheet := by
  obtain ⟨parsedSheets, spec⟩ := shapeAt_spec isShape
  obtain ⟨otherSheets, otherSpec⟩ := shapeAt_spec isOther
  obtain rfl : parsedSheets = otherSheets := Except.ok.inj (spec.parsed.symm.trans otherSpec.parsed)
  obtain ⟨candidate, listed, isPath, hasContent⟩ := otherSpec.content
  by_contra different
  have paths : candidate.1.path ≠ sheet.path := fun same => different
    (List.inj_on_of_nodup_map setting.workbook.paths otherListed isListed (isPath ▸ same))
  have counted := List.length_eq_zero_iff.mp (spec.unmodeled.symm.trans alone)
  have present : candidate ∈ parsedSheets.filter fun candidate =>
      candidate.1.path ≠ sheet.path && candidate.2.hasContent :=
    List.mem_filter.mpr ⟨listed, by simp [paths, hasContent]⟩
  rw [counted] at present
  cases present

/-! ### The selected sheet -/

theorem mem_candidates
    {schemas : List XlsxSchemaExpectation}
    {schema : XlsxSchemaExpectation} :
    schema ∈ candidates setting schemas ↔
      schema ∈ schemas ∧ schema.packageKind = setting.packageKind := by
  rw [candidates, List.mem_filter, decide_eq_true_eq]

theorem selectedSheet_mem (schemas : List XlsxSchemaExpectation) :
    selectedSheet setting schemas ∈ setting.workbook.sheets := by
  rw [selectedSheet]
  cases found : setting.workbook.sheets.find? fun sheet =>
      sheet.name ∈ (candidates setting schemas).map XlsxSchemaExpectation.sheetName with
  | none => exact List.mem_cons_self
  | some sheet => exact List.mem_of_find?_eq_some found

theorem sheet_eq_of_name
    {sheet other : SheetElement}
    (isListed : sheet ∈ setting.workbook.sheets)
    (otherListed : other ∈ setting.workbook.sheets)
    (same : sheet.name = other.name) : sheet = other :=
  List.inj_on_of_nodup_map setting.workbook.names isListed otherListed same

/-- The sheet of a candidate is selected if and only if no sheet in front of it has
the name of a candidate. -/
theorem selectedSheet_eq_iff
    {schemas : List XlsxSchemaExpectation}
    {schema : XlsxSchemaExpectation}
    {sheet : SheetElement}
    (isCandidate : schema ∈ candidates setting schemas)
    (isListed : sheet ∈ setting.workbook.sheets)
    (named : sheet.name = schema.sheetName) :
    selectedSheet setting schemas = sheet ↔ Unobstructed setting schemas schema := by
  have preferred : sheet.name ∈ (candidates setting schemas).map
      XlsxSchemaExpectation.sheetName := named ▸ List.mem_map_of_mem isCandidate
  constructor
  · intro selected front found back split isNamed other isFront isPreferred
    have isFound : found = sheet :=
      sheet_eq_of_name (split ▸ by simp) isListed (isNamed.trans named.symm)
    obtain ⟨first, isFirst⟩ : ∃ first, (front.find? fun sheet =>
        sheet.name ∈ (candidates setting schemas).map XlsxSchemaExpectation.sheetName) =
          some first := by
      rw [← Option.isSome_iff_exists, List.find?_isSome]
      exact ⟨other, isFront, decide_eq_true isPreferred⟩
    rw [selectedSheet, split, List.find?_append, isFirst, Option.some_or, Option.getD_some]
      at selected
    have distinct := List.Nodup.of_map _ setting.workbook.names
    change setting.workbook.sheets.Nodup at distinct
    rw [split] at distinct
    refine (List.nodup_append.mp distinct).2.2 found ?_ found List.mem_cons_self rfl
    rw [isFound, ← selected]
    exact List.mem_of_find?_eq_some isFirst
  · intro unobstructed
    obtain ⟨front, back, split⟩ := List.append_of_mem isListed
    have none : (front.find? fun sheet =>
        sheet.name ∈ (candidates setting schemas).map XlsxSchemaExpectation.sheetName) = none := by
      rw [List.find?_eq_none]
      intro other isFront isPreferred
      exact unobstructed front sheet back split named other isFront (of_decide_eq_true isPreferred)
    rw [selectedSheet, split, List.find?_append, none, Option.none_or]
    simp only [List.find?_cons, decide_eq_true preferred, Option.getD_some]

/-- The row of headers for the sheet of a candidate. -/
theorem headerRowFor_eq
    {schemas : List XlsxSchemaExpectation}
    (valid : AreValid schemas)
    {schema : XlsxSchemaExpectation}
    {sheet : SheetElement}
    (isCandidate : schema ∈ candidates setting schemas)
    (named : sheet.name = schema.sheetName) :
    headerRowFor setting schemas sheet = schema.headerRowIndex := by
  have listed : schema ∈ (candidates setting schemas).filter fun other =>
      other.sheetName = sheet.name :=
    List.mem_filter.mpr ⟨isCandidate, decide_eq_true named.symm⟩
  have least : ((((candidates setting schemas).filter fun other => other.sheetName =
      sheet.name).map XlsxSchemaExpectation.headerRowIndex).min?) = some schema.headerRowIndex := by
    refine List.min?_eq_some_iff.mpr ⟨List.mem_map_of_mem listed, fun row isRow => ?_⟩
    obtain ⟨other, isOther, rfl⟩ := List.mem_map.mp isRow
    obtain ⟨otherCandidate, otherNamed⟩ := List.mem_filter.mp isOther
    obtain ⟨isListed, isKind⟩ := mem_candidates.mp isCandidate
    obtain ⟨otherListed, otherKind⟩ := mem_candidates.mp otherCandidate
    exact le_of_eq (valid.headerRows schema isListed other otherListed
      (isKind.trans otherKind.symm) (named.symm.trans (of_decide_eq_true otherNamed).symm))
  rw [headerRowFor, least, Option.getD_some]

/-! ### When a schema is matched -/

theorem matches_iff_workbookShape
    {schemas : List XlsxSchemaExpectation}
    {schema : XlsxSchemaExpectation} :
    Matches (inspect setting schemas) schema ↔ ∃ shape,
      workbookShape setting schemas = .ok shape ∧ matching setting schemas shape = [schema] ∧
        shape.prohibitedHeaderCount = 0 := by
  simp only [Matches, inspect, Checks.bind_eq_ok, Checks.pure_eq_ok]
  constructor
  · rintro ⟨_, ⟨shape, isShape, rfl⟩, isMatched⟩
    refine ⟨shape, isShape, ?_⟩
    simp only [matchedSchema] at isMatched
    split at isMatched
    next only isOnly =>
      split at isMatched
      next clean => exact ⟨Option.some.inj isMatched ▸ isOnly, clean⟩
      next => cases isMatched
    next => cases isMatched
  · rintro ⟨shape, isShape, only, clean⟩
    exact ⟨_, ⟨shape, isShape, rfl⟩, by simp [matchedSchema, only, clean]⟩

/-- A schema is matched when it is the only one that fits and its sheet is selected. -/
theorem matches_inspect_iff
    {schemas : List XlsxSchemaExpectation}
    (valid : AreValid schemas)
    {schema : XlsxSchemaExpectation}
    (listed : schema ∈ schemas) :
    Matches (inspect setting schemas) schema ↔
      Fits setting schema ∧ (∀ other ∈ schemas, other ≠ schema → ¬Fits setting other) ∧
        Unobstructed setting schemas schema := by
  rw [matches_iff_workbookShape]
  constructor
  · rintro ⟨shape, isShape, only, clean⟩
    obtain ⟨isCandidate, noCode⟩ := List.mem_filter.mp
      (show schema ∈ matching setting schemas shape from only ▸ List.mem_singleton.mpr rfl)
    have fits := List.isEmpty_iff.mp noCode
    obtain ⟨sheetName, -, alone⟩ := localCodes_spec fits
    rw [workbookShape] at isShape
    obtain ⟨parsedSheets, spec⟩ := shapeAt_spec isShape
    have named := spec.sheetName.symm.trans sheetName
    have isSelected : selectedSheet setting schemas ∈ setting.workbook.sheets :=
      selectedSheet_mem schemas
    have isRow := headerRowFor_eq valid isCandidate named
    refine ⟨⟨(mem_candidates.mp isCandidate).2, _, isSelected, named, shape, isRow ▸ isShape, fits,
      clean⟩, ?_, (selectedSheet_eq_iff isCandidate isSelected named).mp rfl⟩
    rintro other otherListed different ⟨otherKind, sheet, isSheet, otherNamed, otherShape,
      isOtherShape, otherFits, -⟩
    obtain rfl := sheet_eq_of_shapes isSelected isSheet isShape isOtherShape alone
    have otherCandidate : other ∈ candidates setting schemas :=
      mem_candidates.mpr ⟨otherListed, otherKind⟩
    rw [headerRowFor_eq valid otherCandidate otherNamed] at isShape
    obtain rfl := Except.ok.inj (isShape.symm.trans isOtherShape)
    have isMatching : other ∈ matching setting schemas shape :=
      List.mem_filter.mpr ⟨otherCandidate, List.isEmpty_iff.mpr otherFits⟩
    rw [only] at isMatching
    exact different (List.mem_singleton.mp isMatching)
  · rintro ⟨⟨isKind, sheet, isSheet, named, shape, isShape, fits, clean⟩, others, unobstructed⟩
    have isCandidate : schema ∈ candidates setting schemas := mem_candidates.mpr ⟨listed, isKind⟩
    have selected := (selectedSheet_eq_iff isCandidate isSheet named).mpr unobstructed
    refine ⟨shape, ?_, ?_, clean⟩
    · rw [workbookShape, selected, headerRowFor_eq valid isCandidate named]
      exact isShape
    · have distinct : (matching setting schemas shape).Nodup :=
        (valid.distinct.filter _).filter _
      have isMatching : schema ∈ matching setting schemas shape :=
        List.mem_filter.mpr ⟨isCandidate, List.isEmpty_iff.mpr fits⟩
      refine List.perm_singleton.mp
        ((List.perm_ext_iff_of_nodup distinct (List.nodup_singleton schema)).mpr fun other => ?_)
      rw [List.mem_singleton]
      refine ⟨fun isOther => ?_, fun same => same ▸ isMatching⟩
      obtain ⟨otherCandidate, noCode⟩ := List.mem_filter.mp isOther
      obtain ⟨otherListed, otherKind⟩ := mem_candidates.mp otherCandidate
      have otherFits := List.isEmpty_iff.mp noCode
      obtain ⟨sheetName, headerRow, -⟩ := localCodes_spec otherFits
      obtain ⟨parsedSheets, spec⟩ := shapeAt_spec isShape
      by_contra different
      refine others other otherListed different ⟨otherKind, sheet, isSheet,
        spec.sheetName.symm.trans sheetName, shape, ?_, otherFits, clean⟩
      rw [← headerRow, spec.headerRow]
      exact isShape

/-- A schema alone is matched when it fits. -/
theorem matches_inspect_singleton
    {schema : XlsxSchemaExpectation} :
    Matches (inspect setting [schema]) schema ↔ Fits setting schema := by
  rw [matches_inspect_iff (areValid_singleton schema) (List.mem_singleton.mpr rfl)]
  constructor
  · exact fun both => both.1
  · intro fits
    refine ⟨fits, fun other isOther different => absurd (List.mem_singleton.mp isOther) different, ?_⟩
    intro front sheet back split named other isFront isPreferred
    have isName : other.name = sheet.name := by
      obtain ⟨only, isOnly, same⟩ := List.mem_map.mp isPreferred
      rw [← same, List.mem_singleton.mp (mem_candidates.mp isOnly).1, named]
    have distinct := setting.workbook.names
    change (setting.workbook.sheets.map SheetElement.name).Nodup at distinct
    rw [split, List.map_append, List.map_cons] at distinct
    exact (List.nodup_append.mp distinct).2.2 _ (List.mem_map_of_mem isFront) _
      List.mem_cons_self isName

/-! ### Diagnostics -/

theorem sortedCodes_ne_nil
    {codes : List String}
    (nonempty : codes ≠ []) : sortedCodes codes ≠ [] := by
  obtain ⟨code, listed⟩ := List.exists_mem_of_ne_nil codes nonempty
  exact List.ne_nil_of_mem
    ((List.perm_insertionSort _ _).mem_iff.mpr (List.mem_dedup.mpr listed))

/-- A verdict has no diagnostics if and only if it has a match. -/
theorem diagnostics_eq_nil_iff
    {schemas : List XlsxSchemaExpectation}
    {verdict : Verdict}
    (inspected : inspect setting schemas = .ok verdict) :
    verdict.diagnostics = [] ↔ verdict.matched.isSome = true := by
  simp only [inspect, Checks.bind_eq_ok, Checks.pure_eq_ok] at inspected
  obtain ⟨shape, -, rfl⟩ := inspected
  cases isMatched : matchedSchema setting schemas shape with
  | some schema => simp
  | none =>
      suffices mismatchCodes setting schemas shape ≠ [] by
        simpa using sortedCodes_ne_nil this
      intro noCode
      simp only [mismatchCodes, List.append_eq_nil_iff, codeIf_eq_nil_iff,
        decide_eq_false_iff_not, ne_eq, not_not, not_lt] at noCode
      obtain ⟨⟨⟨-, few⟩, clean⟩, some⟩ := noCode
      have one : (matching setting schemas shape).length = 1 := by
        have nonempty := List.length_pos_iff.mpr (List.isEmpty_eq_false_iff.mp some)
        omega
      obtain ⟨schema, only⟩ := List.length_eq_one_iff.mp one
      simp [matchedSchema, only, clean] at isMatched

/-! ### The order of the schemas -/

theorem min?_eq_of_perm
    {rows others : List Nat}
    (perm : rows.Perm others) : rows.min? = others.min? := by
  cases least : rows.min? with
  | none =>
      obtain rfl := List.min?_eq_none_iff.mp least
      rw [perm.symm.eq_nil]
      rfl
  | some row =>
      obtain ⟨listed, below⟩ := List.min?_eq_some_iff.mp least
      exact (List.min?_eq_some_iff.mpr ⟨perm.mem_iff.mp listed, fun other isOther =>
        below other (perm.mem_iff.mpr isOther)⟩).symm

theorem sortedCodes_eq_of_perm
    {codes others : List String}
    (perm : codes.Perm others) : sortedCodes codes = sortedCodes others := by
  have distinct : (codes.dedup.map id).Nodup := by
    rw [List.map_id]
    exact codes.nodup_dedup
  exact Collecting.insertionSort_eq_of_perm distinct perm.dedup

section Order

variable {schemas others : List XlsxSchemaExpectation}

theorem candidates_perm (perm : schemas.Perm others) :
    (candidates setting schemas).Perm (candidates setting others) := perm.filter _

theorem workbookShape_eq_of_perm (perm : schemas.Perm others) :
    workbookShape setting schemas = workbookShape setting others := by
  have isCandidate : (candidates setting schemas).Perm (candidates setting others) :=
    candidates_perm perm
  have selected : selectedSheet setting schemas = selectedSheet setting others := by
    rw [selectedSheet, selectedSheet]
    congr 2
    funext sheet
    exact decide_eq_decide.mpr (isCandidate.map _).mem_iff
  rw [workbookShape, workbookShape, selected, headerRowFor, headerRowFor,
    min?_eq_of_perm ((isCandidate.filter _).map _)]

theorem matching_perm (perm : schemas.Perm others) (shape : WorkbookShape) :
    (matching setting schemas shape).Perm (matching setting others shape) :=
  (candidates_perm perm).filter _

theorem matchedSchema_eq_of_perm (perm : schemas.Perm others) (shape : WorkbookShape) :
    matchedSchema setting schemas shape = matchedSchema setting others shape := by
  have fits : (matching setting schemas shape).Perm (matching setting others shape) :=
    matching_perm perm shape
  have sameLength := fits.length_eq
  rw [matchedSchema, matchedSchema]
  match first : matching setting schemas shape, second : matching setting others shape with
  | [], [] => rfl
  | [schema], [other] =>
      rw [first, second] at fits
      rw [List.singleton_perm_singleton.mp fits]
  | _ :: _ :: _, _ :: _ :: _ => rfl
  | [], _ :: _ | [_], [] | [_], _ :: _ :: _ | _ :: _ :: _, [] | _ :: _ :: _, [_] =>
      simp [first, second] at sameLength

theorem mismatchCodes_perm (perm : schemas.Perm others) (shape : WorkbookShape) :
    (mismatchCodes setting schemas shape).Perm (mismatchCodes setting others shape) := by
  have isCandidate : (candidates setting schemas).Perm (candidates setting others) :=
    candidates_perm perm
  have fits : (matching setting schemas shape).Perm (matching setting others shape) :=
    matching_perm perm shape
  rw [mismatchCodes, mismatchCodes, isCandidate.isEmpty_eq, fits.length_eq, fits.isEmpty_eq]
  exact (((isCandidate.flatMap_right _).append_left _).append_right _).append_right _ |>.append_right _

/-- An inspection does not depend on the order of the schemas. -/
theorem inspect_eq_of_perm (perm : schemas.Perm others) :
    inspect setting schemas = inspect setting others := by
  have codes (shape : WorkbookShape) :
      sortedCodes (mismatchCodes setting schemas shape) =
        sortedCodes (mismatchCodes setting others shape) :=
    sortedCodes_eq_of_perm (mismatchCodes_perm perm shape)
  simp only [inspect, workbookShape_eq_of_perm perm, matchedSchema_eq_of_perm perm, codes]

end Order

/-- The schemas of a policy are independent alternatives, a verdict without
diagnostics is a match, and the order of the schemas does not matter, if and only
if no sheet in front of that of the only schema that fits has the name of another
candidate. -/
theorem alternatives_iff
    {schemas : List XlsxSchemaExpectation}
    (valid : AreValid schemas) :
    ((∀ schema ∈ schemas, Matches (inspect setting schemas) schema ↔
          Matches (inspect setting [schema]) schema ∧
            ∀ other ∈ schemas, other ≠ schema → ¬Matches (inspect setting [other]) other) ∧
        (∀ verdict, inspect setting schemas = .ok verdict →
          (verdict.diagnostics = [] ↔ verdict.matched.isSome = true)) ∧
        ∀ others, schemas.Perm others → inspect setting others = inspect setting schemas) ↔
      ∀ schema ∈ schemas, Fits setting schema →
        (∀ other ∈ schemas, other ≠ schema → ¬Fits setting other) →
          Unobstructed setting schemas schema := by
  simp only [matches_inspect_singleton]
  constructor
  · rintro ⟨independent, -, -⟩ schema listed fits only
    exact ((matches_inspect_iff valid listed).mp ((independent schema listed).mpr ⟨fits, only⟩)).2.2
  · intro unobstructed
    refine ⟨fun schema listed => ?_, fun verdict => diagnostics_eq_nil_iff,
      fun others perm => (inspect_eq_of_perm perm).symm⟩
    rw [matches_inspect_iff valid listed]
    exact ⟨fun ⟨fits, only, _⟩ => ⟨fits, only⟩,
      fun ⟨fits, only⟩ => ⟨fits, only, unobstructed schema listed fits only⟩⟩

/-! ### A sheet in front -/

/-- The Unicode database, as far as ASCII is concerned. -/
def asciiData : UnicodeData where
  nfc := id
  nfkc := id
  casefold text := text.map Char.toLower
  isAlnum := Char.isAlphanum
  nfc_blank := fun blank => blank

/-- Limits of an inspection. -/
def someLimits : XlsxInspectionLimits where
  maxFileBytes := 1000000
  maxArchiveEntries := 100
  maxTotalUncompressedBytes := 1000000
  maxEntryUncompressedBytes := 1000000
  maxCompressionRatio := 100
  maxXmlBytes := 1000000
  maxRows := 100
  maxColumns := 10
  entryBounded := le_refl _

/-- An empty sheet. -/
def coverSheet : SheetElement := ⟨"Cover", "xl/worksheets/sheet1.xml", .ok []⟩

/-- A sheet with one header. -/
def dataSheet : SheetElement :=
  ⟨"Data", "xl/worksheets/sheet2.xml", .ok [⟨"1", [⟨"A1", .ok "amount", false⟩]⟩]⟩

/-- A workbook with an empty sheet in front of the data. -/
def coverSetting : Setting where
  unicode := asciiData
  limits := someLimits
  prohibitedHeaderTokens := ["email"]
  packageKind := "XLSX"
  workbook := ⟨coverSheet, [dataSheet], by decide, by decide⟩

/-- A schema for one header on a sheet. -/
def schemaFor (sheetName : String) : XlsxSchemaExpectation where
  schemaId := "schema-" ++ sheetName
  schemaVersion := "1"
  schemaAuthorityReference := "owner"
  directIdentifiersExpected := false
  packageKind := "XLSX"
  sheetName := sheetName
  sheetCount := 2
  headerRowIndex := 1
  headerSha256 := "ad6dfddc65119a95719517c45512ba3e54199871ab8a8ebf57b8dbc6f6a6475f"
  columnCount := 1
  minDataRows := 0
  maxDataRows := 10
  maxFormulaCount := 0
  noIdentifiers := rfl
  rowRange := Nat.zero_le _

/-- A schema for the data and one for the sheet in front. -/
def coverSchemas : List XlsxSchemaExpectation := [schemaFor "Data", schemaFor "Cover"]

theorem schemaFor_ne : schemaFor "Data" ≠ schemaFor "Cover" := fun same =>
  absurd (congrArg XlsxSchemaExpectation.sheetName same) (by decide)

theorem areValid_coverSchemas : AreValid coverSchemas where
  distinct := by simpa [coverSchemas] using schemaFor_ne
  headerRows := by
    intro first isFirst second isSecond _ _
    simp only [coverSchemas, List.mem_cons, List.not_mem_nil, or_false] at isFirst isSecond
    rcases isFirst with rfl | rfl <;> rcases isSecond with rfl | rfl <;> rfl

/-- The two schemas are alternatives if and only if the data are not behind the
other sheet. -/
theorem alternatives_iff_coverSchemas :
    ((∀ schema ∈ coverSchemas, Matches (inspect coverSetting coverSchemas) schema ↔
          Matches (inspect coverSetting [schema]) schema ∧
            ∀ other ∈ coverSchemas, other ≠ schema →
              ¬Matches (inspect coverSetting [other]) other) ∧
        (∀ verdict, inspect coverSetting coverSchemas = .ok verdict →
          (verdict.diagnostics = [] ↔ verdict.matched.isSome = true)) ∧
        ∀ others, coverSchemas.Perm others →
          inspect coverSetting others = inspect coverSetting coverSchemas) ↔
      ∀ schema ∈ coverSchemas, Fits coverSetting schema →
        (∀ other ∈ coverSchemas, other ≠ schema → ¬Fits coverSetting other) →
          Unobstructed coverSetting coverSchemas schema :=
  alternatives_iff areValid_coverSchemas

/-- The schema for the data matches alone and the other one does not, but with both
of them the inspection fails. -/
theorem inspect_coverSchemas :
    AreValid coverSchemas ∧
      Matches (inspect coverSetting [schemaFor "Data"]) (schemaFor "Data") ∧
      (∀ other ∈ coverSchemas, other ≠ schemaFor "Data" →
        ¬Matches (inspect coverSetting [other]) other) ∧
      ∀ verdict, inspect coverSetting coverSchemas ≠ .ok verdict := by
  have shape : shapeAt coverSetting dataSheet 1 = .ok
      { sheetName := "Data", sheetCount := 2, headerRowIndex := 1
        headerSha256 := "ad6dfddc65119a95719517c45512ba3e54199871ab8a8ebf57b8dbc6f6a6475f"
        columnCount := 1, maxUsedColumn := 1, unmodeledWorksheetCount := 0, dataRowCount := 0
        formulaCount := 0, prohibitedHeaderCount := 0 } := by decide +kernel
  have noHeaders : shapeAt coverSetting coverSheet 1 = .error "XLSX_HEADER_ROW_MISSING" := by
    decide +kernel
  refine ⟨areValid_coverSchemas, matches_inspect_singleton.mpr ⟨rfl, dataSheet,
    List.mem_cons_of_mem _ (List.mem_singleton.mpr rfl), rfl, _, shape, by decide +kernel, rfl⟩,
    ?_, ?_⟩
  · intro other listed different matched
    obtain ⟨-, sheet, isSheet, named, found, isShape, -⟩ := matches_inspect_singleton.mp matched
    rcases List.mem_cons.mp listed with rfl | isCover
    · exact different rfl
    · obtain rfl := List.mem_singleton.mp isCover
      rcases List.mem_cons.mp isSheet with rfl | isData
      · exact absurd (noHeaders.symm.trans isShape) (by simp)
      · obtain rfl := List.mem_singleton.mp isData
        exact absurd named (by decide)
  · intro verdict inspected
    have failed : workbookShape coverSetting coverSchemas = .error "XLSX_HEADER_ROW_MISSING" := by
      decide +kernel
    rw [inspect, failed] at inspected
    cases inspected

end Xlsx
end QuantumAnalytics
