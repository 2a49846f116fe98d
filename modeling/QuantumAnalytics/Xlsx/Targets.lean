import QuantumAnalytics.Xlsx.Archive

/-!
# Targets of relationships

Two functions find the part of a sheet. The parser of the workbook resolves the
target of a relationship to a name and reads the entry of that name; the validator
of the relationships folds the target and compares it with the folded names of all
entries.
-/

namespace QuantumAnalytics
namespace Xlsx

/-- `Relationship` of `xl/_rels/workbook.xml.rels`. -/
structure Relation where
  /-- `Id`. -/
  id : String
  /-- `Type`. -/
  type : String
  /-- `Target`. -/
  target : String

/-! ### The parser -/

/-- `[A-Za-z0-9+.-]`. -/
def isSchemePart (c : Char) : Bool := c.isAlphanum || c == '+' || c == '.' || c == '-'

/-- `^[A-Za-z][A-Za-z0-9+.-]*:`. -/
def hasScheme : List Char → Bool
  | c :: text => c.isAlpha && (text.dropWhile isSchemePart).head? = some ':'
  | [] => false

/-- The root of a POSIX path: two slashes are kept, more are one. -/
def rootText : List Char → List Char
  | '/' :: '/' :: '/' :: _ => ['/']
  | '/' :: '/' :: _ => ['/', '/']
  | '/' :: _ => ['/']
  | _ => []

/-- `str(PurePosixPath(text))`. -/
def posixText (text : List Char) : List Char :=
  if rootText text = [] then pathText text
  else rootText text ++ ['/'].intercalate (pathParts text)

/-- The folder of the workbook. -/
def workbookFolder : List Char := ['x', 'l', '/']

/-- `_relationship_target`. -/
def relationshipTarget (target : String) : Result (List Char) := do
  let normalized := slashed target.toList
  require (hasScheme normalized = false) "XLSX_RELATIONSHIP_TARGET_INVALID"
  let rooted := if normalized.head? = some '/' then normalized.drop 1
    else if workbookFolder.isPrefixOf normalized then normalized
    else workbookFolder ++ normalized
  require (['.', '.'] ∉ pathParts rooted) "XLSX_RELATIONSHIP_TARGET_INVALID"
  return posixText rooted

/-- The loop body over the relationships in `_workbook_shape`. -/
def targetStep (targets : List (String × List Char)) (relation : Relation) :
    Result (List (String × List Char)) :=
  if relation.id = "" then return targets
  else do
    require (relation.id ∉ targets.map Prod.fst) "XLSX_RELATIONSHIP_ID_DUPLICATE"
    let target ← relationshipTarget relation.target
    return targets ++ [(relation.id, target)]

section Rules

variable (rules : NameRules)

/-- `info.filename.replace("\\", "/").casefold()`. -/
def foldedName (entry : Entry) : List Char := rules.casefold (slashed entry.filename.toList)

/-- The path of the sheet with a relationship. -/
def sheetPath (targets : List (String × List Char)) (relationId : String) :
    Result (List Char) := do
  let (_, path) ← requireSome (targets.find? fun target => target.1 = relationId)
    "XLSX_SHEET_RELATIONSHIP_MISSING"
  require ("xl/worksheets/".toList.isPrefixOf (rules.casefold path) ∧
    ".xml".toList.isSuffixOf (rules.casefold path)) "XLSX_WORKSHEET_TOPOLOGY_INVALID"
  return path

/-- The part of `_workbook_shape` that finds and reads the sheets. -/
def sheetEntries (entries : List Entry) (relations : List Relation) (sheetIds : List String) :
    Result (List Entry) := do
  let targets ← relations.foldlM targetStep []
  let paths ← sheetIds.mapM (sheetPath rules targets)
  let folded := paths.map rules.casefold
  require folded.Nodup "XLSX_SHEET_TARGET_DUPLICATE"
  let worksheets := (entries.filter (isWorksheet rules)).map (foldedName rules)
  require ((∀ path ∈ worksheets, path ∈ folded) ∧ ∀ path ∈ folded, path ∈ worksheets)
    "XLSX_WORKSHEET_TOPOLOGY_INVALID"
  paths.mapM fun path => requireSome (getinfo entries (String.ofList path))
    "XLSX_REQUIRED_PART_MISSING"

/-! ### The validator -/

/-- `_workbook_target`. -/
def workbookTarget (target : String) : Result (List Char) := do
  let normalized := slashed target.toList
  require (normalized.head? ≠ some '/' ∧ ¬(normalized.tails.any ['/', '/'].isPrefixOf) = true)
    "XLSX_WORKBOOK_RELATIONSHIPS_INVALID"
  require (∀ piece ∈ pieces normalized, piece ≠ [] ∧ piece ≠ ['.'] ∧ piece ≠ ['.', '.'])
    "XLSX_WORKBOOK_RELATIONSHIPS_INVALID"
  return workbookFolder ++ rules.casefold (['/'].intercalate (pieces normalized))

/-- `_WORKBOOK_RELATIONSHIP_ID`. -/
def isRelationshipId (id : String) : Bool :=
  ["rStyles", "rTheme", "rSharedStrings"].contains id ||
    match id.toList with
    | 'r' :: 'I' :: 'd' :: first :: digits =>
        first.isDigit && first ≠ '0' && digits.length ≤ 5 && digits.all Char.isDigit
    | _ => false

/-- `_WORKSHEET_RELATIONSHIP_TYPES`. -/
def worksheetTypes : List String :=
  ["http://schemas.openxmlformats.org/officeDocument/2006/relationships/worksheet",
    "http://purl.oclc.org/ooxml/officeDocument/relationships/worksheet"]

/-- `_AUXILIARY_TARGETS`. -/
def auxiliaryTarget? (kind : List Char) : Option (List Char) :=
  if kind = "styles".toList then some "xl/styles.xml".toList
  else if kind = "theme".toList then some "xl/theme/theme1.xml".toList
  else if kind = "sharedStrings".toList then some "xl/sharedstrings.xml".toList
  else none

/-- What the loop over the relationships has seen. -/
structure RelationState where
  /-- The ids. -/
  seenIds : List String := []
  /-- The targets. -/
  seenTargets : List (List Char) := []
  /-- The ids of worksheets. -/
  worksheetIds : List String := []
  /-- The kinds of the other parts. -/
  auxiliaryKinds : List (List Char) := []

/-- The loop body over the relationships in `validate_relationships`. -/
def relationStep (names : List (List Char)) (referencedIds : List String)
    (state : RelationState) (relation : Relation) : Result RelationState := do
  require (isRelationshipId relation.id = true ∧ relation.id ∉ state.seenIds ∧
    PyText.stripText relation.type = relation.type ∧ relation.type ≠ "")
    "XLSX_WORKBOOK_RELATIONSHIPS_INVALID"
  let target ← workbookTarget rules relation.target
  require (target ∈ names ∧ target ∉ state.seenTargets) "XLSX_WORKBOOK_RELATIONSHIPS_INVALID"
  let next := { state with
    seenIds := state.seenIds ++ [relation.id]
    seenTargets := state.seenTargets ++ [target] }
  if relation.type ∈ worksheetTypes then
    require (relation.id ∈ referencedIds) "XLSX_WORKBOOK_RELATIONSHIP_UNREFERENCED"
    return { next with worksheetIds := state.worksheetIds ++ [relation.id] }
  else
    let kind := (pieces relation.type.toList).getLastD []
    require (relation.id ∉ referencedIds) "XLSX_WORKSHEET_RELATIONSHIP_TYPE_INVALID"
    require (auxiliaryTarget? kind = some target ∧ kind ∉ state.auxiliaryKinds)
      "XLSX_WORKBOOK_RELATIONSHIPS_INVALID"
    return { next with auxiliaryKinds := state.auxiliaryKinds ++ [kind] }

/-- `validate_relationships`, as far as the sheets are concerned. -/
def validateRelationships (entries : List Entry) (relations : List Relation)
    (sheetIds : List String) : Result Unit := do
  require ((∀ id ∈ sheetIds, isRelationshipId id = true) ∧ sheetIds.Nodup)
    "XLSX_SHEET_RELATIONSHIP_MISSING"
  let names := (entries.filter fun entry => !entry.isDir).map (foldedName rules)
  let state ← relations.foldlM (relationStep rules names sheetIds) {}
  require ((∀ id ∈ state.worksheetIds, id ∈ sheetIds) ∧ ∀ id ∈ sheetIds, id ∈ state.worksheetIds)
    "XLSX_SHEET_RELATIONSHIP_MISSING"

/-! ### The parts of the package -/

/-- `_ALLOWED_EXACT_PARTS`. -/
def allowedExactParts : List (List Char) :=
  ["[content_types].xml", "_rels/.rels", "docprops/app.xml", "docprops/core.xml",
    "xl/workbook.xml", "xl/_rels/workbook.xml.rels", "xl/sharedstrings.xml", "xl/styles.xml",
    "xl/theme/theme1.xml"].map String.toList

/-- `_WORKSHEET_PART`: `xl/worksheets/[^/]+[.]xml`. -/
def isWorksheetPart (part : List Char) : Bool :=
  let name := (part.drop 14).dropLast.dropLast.dropLast.dropLast
  "xl/worksheets/".toList.isPrefixOf part && ".xml".toList.isSuffixOf (part.drop 14) &&
    name ≠ [] && !name.contains '/'

/-- The check of an entry in `validate_modeled_package_parts`. -/
def validatePart (entry : Entry) : Result Unit :=
  if entry.isDir then return ()
  else do
    let name ← safeMemberName rules entry.filename
    require (rules.casefold name ∈ allowedExactParts ∨
      isWorksheetPart (rules.casefold name) = true) "XLSX_PACKAGE_PART_UNMODELED"

/-- `validate_modeled_package_parts`, as far as the names of the parts are concerned. -/
def validatePackageParts (entries : List Entry) : Result Unit := do
  let _ ← validateArchive rules entries
  forM entries (validatePart rules)

end Rules

end Xlsx
end QuantumAnalytics
