import QuantumAnalytics.Foundations.TextTrees
import QuantumAnalytics.Xlsx.Formula
import QuantumAnalytics.Xlsx.Worksheet

/-!
# The content of parts

`validate_modeled_xml_content` asks of every element of a worksheet and of the table of
shared strings that it is known. What the code reads of them later are the texts of
cells and of items.
-/

namespace QuantumAnalytics
namespace Xlsx

/-- The tag and the attributes of an element. -/
structure Label where
  /-- `element.tag`. -/
  tag : String
  /-- `element.attrib`. -/
  attributes : List (String × String)

/-- An element with its texts; a missing text is empty. -/
abbrev Node := TextTree Label

end Xlsx

namespace TextTree

open Xlsx (Label Element)

/-- `element.tag`. -/
def tag (node : TextTree Label) : String := node.label.tag

/-- `element.attrib`. -/
def attributes (node : TextTree Label) : List (String × String) := node.label.attributes

/-- `element.get(name)`. -/
def get (name : String) (node : TextTree Label) : Option String :=
  (node.attributes.find? fun pair => pair.1 = name).map Prod.snd

/-- `element.findall(tag)`. -/
def findall (tag : String) (node : TextTree Label) : List (TextTree Label) :=
  node.children.filter fun child => child.tag = tag

/-- `element.find(tag)`. -/
def find? (tag : String) (node : TextTree Label) : Option (TextTree Label) :=
  node.children.find? fun child => child.tag = tag

/-- `element.findall(".//" + tag)`. -/
def findallBelow (tag : String) (node : TextTree Label) : List (TextTree Label) :=
  (iterAll node.children).filter fun child => child.tag = tag

mutual

/-- The element without the texts behind elements, as other validators read it. -/
def element : TextTree Label → Element
  | node label text _ children => .mk label.tag label.attributes text (elements children)

/-- Elements without the texts behind them. -/
def elements : List (TextTree Label) → List Element
  | [] => []
  | tree :: trees => element tree :: elements trees

end

end TextTree

namespace Xlsx

/-! ### Attributes and blanks -/

/-- `{http://www.w3.org/XML/1998/namespace}space`. -/
def xmlSpace : String := "\x7bhttp://www.w3.org/XML/1998/namespace\x7dspace"

/-- `{http://schemas.openxmlformats.org/markup-compatibility/2006}Ignorable`. -/
def ignorable : String :=
  "\x7bhttp://schemas.openxmlformats.org/markup-compatibility/2006\x7dIgnorable"

/-- `_require_attributes`. -/
def requireAttributes (node : Node) (allowed : List String) (code : String) : Result Unit :=
  require (∀ pair ∈ node.attributes, pair.1 ∈ allowed) code

/-- The values that a rule of an attribute accepts. -/
abbrev ValueRule := String → Bool

/-- `value in rule`. -/
def oneOf (values : List String) : ValueRule := fun value => values.contains value

/-- `rule.fullmatch(value) is not None`. -/
def fullmatch (pattern : Regex) : ValueRule := fun value => [] ∈ pattern.rests value.toList

/-- `_value_matches`. -/
def valueMatches (rule : ValueRule) (value : String) : Bool :=
  value ≠ "" && value = PyText.stripText value && value.length ≤ 128 &&
    value.toList.all (fun c => c.toNat < 128) && rule value

/-- `_require_attribute_values`. -/
def requireAttributeValues (node : Node) (rules : List (String × ValueRule)) (code : String) :
    Result Unit := do
  require (∀ pair ∈ node.attributes, pair.1 ∈ rules.map Prod.fst) code
  require (∀ pair ∈ node.attributes, ∀ rule ∈ rules, rule.1 = pair.1 →
    valueMatches rule.2 pair.2 = true) code

/-- `_has_text(element.text) or _has_text(element.tail)`. -/
def hasTexts (node : Node) : Bool := hasText node.text || hasText node.tail

/-- `_require_whitespace_only`. -/
def requireWhitespaceOnly (node : Node) (code : String) : Result Unit :=
  require (hasTexts node = false) code

/-! ### Strings -/

/-- `_BOOLEAN`. -/
def booleans : List String := ["0", "1", "true", "false"]

/-- `_validate_text_node`. -/
def validateTextNode (node : Node) (code : String) : Result Unit := do
  require (node.tag = spreadsheetTag "t" ∧ node.children.isEmpty = true ∧
    hasText node.tail = false) code
  requireAttributes node [xmlSpace] code
  require (node.attributes ≠ [] → node.get xmlSpace ∈ [some "default", some "preserve"]) code

/-- The loop body of `_validate_rich_properties`. -/
def validateRichProperty (child : Node) : Result Unit := do
  let code := "XLSX_RICH_TEXT_PROPERTIES_UNMODELED"
  require (child.tag ∈ ["b", "i"].map spreadsheetTag) code
  require (child.children.isEmpty = true ∧ hasTexts child = false) code
  requireAttributes child ["val"] code
  require (child.attributes ≠ [] → child.get "val" ∈ booleans.map some) code

/-- `_validate_rich_properties`. -/
def validateRichProperties (node : Node) (code : String) : Result Unit := do
  require (node.tag = spreadsheetTag "rPr" ∧ node.attributes = []) code
  requireWhitespaceOnly node code
  forM node.children validateRichProperty

/-- `_validate_rich_run`. -/
def validateRichRun (node : Node) (code : String) : Result Unit := do
  require (node.tag = spreadsheetTag "r" ∧ node.attributes = []) code
  requireWhitespaceOnly node code
  match node.children with
  | [] => .error code
  | first :: rest =>
      if first.tag = spreadsheetTag "rPr" then do
        validateRichProperties first code
        match rest with
        | [only] => validateTextNode only code
        | _ => .error code
      else match rest with
        | [] => validateTextNode first code
        | _ => .error code

/-- `_validate_string_container`. -/
def validateStringContainer (node : Node) (code : String) : Result Unit := do
  require (node.attributes = []) code
  requireWhitespaceOnly node code
  require (node.children.isEmpty = false) code
  match node.children with
  | [only] =>
      if only.tag = spreadsheetTag "t" then validateTextNode only code
      else do
        require (only.tag = spreadsheetTag "r") code
        validateRichRun only code
  | children => do
      require (∀ child ∈ children, child.tag = spreadsheetTag "r") code
      forM children fun child => validateRichRun child code

/-! ### Formulas -/

/-- `_ALLOWED_ATTRIBUTES` of formulas. -/
def formulaAttributes : List String :=
  ["t", "ref", "si", "ca", "dt2D", "dtr", "del1", "del2", "r1", "r2", "bx"]

/-- The value of an attribute of a formula. -/
def isFormulaAttribute (name value : String) : Bool :=
  value ≠ "" && value = PyText.stripText value &&
    if name = "t" then ["normal", "array", "shared", "dataTable"].contains value
    else if name ∈ ["ref", "r1", "r2"] then fullmatch cellReference value
    else if name = "si" then
      value.toList.all (fun c => (PyText.decimalDigit? c).isSome) &&
        (PyText.int? 10 value).any fun index => index ≤ 1000000
    else value = "0" || value = "1"

/-- The digits are too many for `int`, which raises a `ValueError`. -/
def isLongIndex (value : String) : Bool :=
  value.toList.all (fun c => (PyText.decimalDigit? c).isSome) &&
    decide (PyText.maxIntDigits < value.length)

/-- `_validate_attributes` of formulas. The attributes are checked in their order. -/
def validateFormulaAttributes (node : Node) : Result Unit := do
  requireAttributes node formulaAttributes "XLSX_FORMULA_CONTENT_UNMODELED"
  forM node.attributes fun pair => do
    require (pair.1 = "si" → isLongIndex pair.2 = false) "XLSX_ARCHIVE_INVALID"
    require (isFormulaAttribute pair.1 pair.2 = true) "XLSX_FORMULA_CONTENT_UNMODELED"

/-- `validate_formula_element`. -/
def validateFormulaElement (node : Node) : Result Unit := do
  require (node.children.isEmpty = true ∧ hasText node.tail = false)
    "XLSX_FORMULA_CONTENT_UNMODELED"
  validateFormulaAttributes node
  require (if hasText node.text then validateFormulaText node.text = true
    else node.get "t" = some "shared" ∧ (node.get "si").isSome = true)
    "XLSX_FORMULA_CONTENT_UNMODELED"

/-! ### Worksheets -/

/-- `[1-9][0-9]{0,9}`. -/
def positiveUint : Regex := .seq (.one isNonzeroDigit) (.many Regex.isDigit 0 (some 9))

/-- `_UINT`. -/
def uint : Regex := .alt (.one (· == '0')) positiveUint

/-- `_DECIMAL`. -/
def decimalNumber : Regex :=
  .seq uint (.opt (.seq (.one (· == '.')) (.many Regex.isDigit 1 (some 8))))

/-- `_SPANS`. -/
def spans : Regex :=
  let bound := .seq (.one isNonzeroDigit) (.many Regex.isDigit 0 (some 5))
  .seq bound (.seq (.one (· == ':')) bound)

/-- `_CELL_REFERENCE` of the content of worksheets. -/
def upperReference : Regex :=
  .seq dollar (.seq (.many (fun c => 'A' ≤ c && c ≤ 'Z') 1 (some 3)) (.seq dollar
    (.seq (.one isNonzeroDigit) (.many Regex.isDigit 0 (some 6)))))

/-- `_ROW_ATTRIBUTE_RULES`. -/
def rowAttributeRules : List (String × ValueRule) :=
  [("r", fullmatch positiveUint), ("spans", fullmatch spans), ("s", fullmatch uint),
    ("customFormat", oneOf booleans), ("ht", fullmatch decimalNumber), ("hidden", oneOf booleans),
    ("customHeight", oneOf booleans), ("outlineLevel", fullmatch uint),
    ("collapsed", oneOf booleans), ("thickTop", oneOf booleans), ("thickBot", oneOf booleans),
    ("ph", oneOf booleans)]

/-- `_CELL_ATTRIBUTE_RULES`. -/
def cellAttributeRules : List (String × ValueRule) :=
  [("r", fullmatch upperReference), ("s", fullmatch uint),
    ("t", oneOf ["b", "d", "e", "inlineStr", "n", "s", "str"])]

/-- The loop body of `_validate_cell_content`. -/
def validateCellChild (child : Node) : Result Unit :=
  if child.tag = spreadsheetTag "f" then validateFormulaElement child
  else if child.tag = spreadsheetTag "v" then
    require (child.attributes = [] ∧ child.children.isEmpty = true ∧ hasText child.tail = false)
      "XLSX_SHEET_DATA_CONTENT_UNMODELED"
  else if child.tag = spreadsheetTag "is" then
    validateStringContainer child "XLSX_INLINE_STRING_STRUCTURE_UNMODELED"
  else .error "XLSX_CELL_CHILD_UNMODELED"

/-- `_validate_cell_content`. -/
def validateCellContent (cell : Node) : Result Unit := do
  requireAttributeValues cell cellAttributeRules "XLSX_CELL_ATTRIBUTE_UNMODELED"
  require (hasTexts cell = false) "XLSX_SHEET_DATA_CONTENT_UNMODELED"
  forM cell.children validateCellChild

/-- `_ALLOWED_WORKSHEET_STRUCTURE_TAGS`, the local names. -/
def structureNames : List String :=
  ["sheetPr", "outlinePr", "pageSetUpPr", "dimension", "sheetViews", "sheetView", "pane",
    "selection", "sheetFormatPr", "cols", "col", "mergeCells", "mergeCell", "printOptions",
    "pageMargins", "pageSetup", "sheetProtection", "phoneticPr"]

/-- `_validate_non_sheet_data_child`, and the loop body of `_validate_unmodeled_worksheet_nodes`,
which raises the same. -/
def validateNonSheetDataChild (child : Node) : Result Unit := do
  require (∀ node ∈ child.iter, hasTexts node = false) "XLSX_UNMODELED_WORKSHEET_TEXT"
  require (∀ node ∈ child.iter, node.tag ∈ structureNames.map spreadsheetTag)
    "XLSX_WORKSHEET_ELEMENT_UNMODELED"

/-- The check of a child of a row. -/
def validateRowChild (cell : Node) : Result Unit :=
  if cell.tag = spreadsheetTag "c" then validateCellContent cell
  else do
    require (∀ node ∈ cell.iter, hasTexts node = false) "XLSX_SHEET_DATA_CONTENT_UNMODELED"
    .error "XLSX_ROW_CHILD_UNMODELED"

/-- The check of a child of `sheetData`. A cell is passed over. -/
def validateSheetDataChild (row : Node) : Result Unit :=
  if row.tag = spreadsheetTag "c" then .ok ()
  else do
    require (row.tag = spreadsheetTag "row") "XLSX_SHEET_DATA_CHILD_UNMODELED"
    requireAttributeValues row rowAttributeRules "XLSX_ROW_ATTRIBUTE_UNMODELED"
    require (hasTexts row = false) "XLSX_SHEET_DATA_CONTENT_UNMODELED"
    forM row.children validateRowChild

/-- The check of a child of a worksheet. -/
def validateWorksheetChild (child : Node) : Result Unit :=
  if child.tag = spreadsheetTag "sheetData" then .ok ()
  else do
    require (child.tag ≠ spreadsheetTag "row") "XLSX_ROW_OUTSIDE_SHEET_DATA"
    require (child.tag ≠ spreadsheetTag "c") "XLSX_CELL_OUTSIDE_SHEET_DATA"
    validateNonSheetDataChild child

/-- `text.split()` of an attribute. -/
def splitBlanks (text : String) : List (List Char) :=
  (text.toList.splitOnP PyText.isSpace).filter fun piece => piece ≠ []

/-- The only element of a list. -/
def onlyOne (nodes : List Node) (code : String) : Result Node :=
  match nodes with
  | [node] => .ok node
  | _ => .error code

/-- `_validate_worksheet_root`. -/
def validateWorksheetRoot (root : Node) : Result Unit := do
  require (root.tag = spreadsheetTag "worksheet" ∧ hasTexts root = false)
    "XLSX_UNMODELED_WORKSHEET_TEXT"
  requireAttributes root [ignorable] "XLSX_WORKSHEET_ATTRIBUTE_UNMODELED"
  require (∀ value ∈ root.get ignorable, splitBlanks value ≠ [] ∧
    ∀ token ∈ splitBlanks value, token = "x14ac".toList) "XLSX_WORKSHEET_ATTRIBUTE_VALUE_INVALID"
  let sheetData ← onlyOne (root.findall (spreadsheetTag "sheetData"))
    "XLSX_SHEET_DATA_STRUCTURE_INVALID"
  forM root.children validateWorksheetChild
  require (sheetData.attributes = [] ∧ hasTexts sheetData = false)
    "XLSX_SHEET_DATA_CONTENT_UNMODELED"
  forM sheetData.children validateSheetDataChild

/-! ### The table of shared strings -/

/-- The loop body of `_validate_shared_strings`. -/
def validateSharedItem (item : Node) : Result Unit := do
  require (item.tag = spreadsheetTag "si") "XLSX_SHARED_STRING_STRUCTURE_UNMODELED"
  validateStringContainer item "XLSX_SHARED_STRING_STRUCTURE_UNMODELED"

/-- `_validate_shared_strings`. -/
def validateSharedStrings (root : Node) : Result Unit := do
  require (root.tag = spreadsheetTag "sst" ∧ hasTexts root = false)
    "XLSX_SHARED_STRING_STRUCTURE_UNMODELED"
  requireAttributeValues root [("count", fullmatch uint), ("uniqueCount", fullmatch uint)]
    "XLSX_SHARED_STRING_STRUCTURE_UNMODELED"
  forM root.children validateSharedItem

/-! ### What is read -/

/-- `"".join(node.text or "" for node in element.iter(t))`. -/
def joinedText (node : Node) : String :=
  String.ofList ((node.iter.filter fun other => other.tag = spreadsheetTag "t").flatMap
    fun other => other.text.toList)

/-- `_shared_strings` of the root of the table. -/
def sharedTexts (root : Node) : List String :=
  (root.findall (spreadsheetTag "si")).map joinedText

/-- The text that a cell has itself. -/
def storedText (cell : Node) : String :=
  if cell.get "t" = some "inlineStr" then
    ((cell.find? (spreadsheetTag "is")).map joinedText).getD ""
  else ((cell.find? (spreadsheetTag "v")).map TextTree.text).getD ""

/-- `_cell_text`. -/
def cellText (shared : List String) (cell : Node) : Result String :=
  if cell.get "t" = some "s" then do
    let index ← requireSome (PyText.int? 10 (storedText cell))
      "XLSX_SHARED_STRING_REFERENCE_INVALID"
    require (0 ≤ index) "XLSX_SHARED_STRING_REFERENCE_INVALID"
    requireSome shared[index.toNat]? "XLSX_SHARED_STRING_REFERENCE_INVALID"
  else .ok (storedText cell)

/-- A cell as `_parse_worksheet` walks it. -/
def cellElement (shared : List String) (cell : Node) : CellElement :=
  ⟨(cell.get "r").getD "", cellText shared cell, (cell.find? (spreadsheetTag "f")).isSome⟩

/-- A row as `_parse_worksheet` walks it. -/
def rowElement (shared : List String) (row : Node) : RowElement :=
  ⟨((row.get "r").filter (· ≠ "")).getD "0",
    (row.findall (spreadsheetTag "c")).map (cellElement shared)⟩

/-- The checks of `_parse_worksheet` before it walks the rows, with the rows. -/
def sheetRows (limits : XlsxInspectionLimits) (root : Node) : Result (List Node) := do
  let sheetData ← onlyOne (root.findall (spreadsheetTag "sheetData"))
    "XLSX_SHEET_DATA_STRUCTURE_INVALID"
  let rows := sheetData.findall (spreadsheetTag "row")
  require ((sheetData.findallBelow (spreadsheetTag "row")).length = rows.length)
    "XLSX_ROW_STRUCTURE_INVALID"
  require ((root.findallBelow (spreadsheetTag "row")).length = rows.length)
    "XLSX_ROW_OUTSIDE_SHEET_DATA"
  require (rows.length ≤ limits.maxRows) "XLSX_ROW_LIMIT_EXCEEDED"
  let directCells := (rows.map fun row => (row.findall (spreadsheetTag "c")).length).sum
  require ((sheetData.findallBelow (spreadsheetTag "c")).length = directCells)
    "XLSX_CELL_OUTSIDE_ROW"
  require ((root.findallBelow (spreadsheetTag "c")).length = directCells)
    "XLSX_CELL_OUTSIDE_SHEET_DATA"
  forM (root.children.filter fun child => child.tag ≠ spreadsheetTag "sheetData")
    validateNonSheetDataChild
  return rows

/-- `_parse_worksheet` of the root of a sheet. -/
def parseSheet (limits : XlsxInspectionLimits) (shared : List String) (root : Node) :
    Result ParsedWorksheet :=
  parseWorksheet limits do
    let rows ← sheetRows limits root
    return rows.map (rowElement shared)

end Xlsx
end QuantumAnalytics
