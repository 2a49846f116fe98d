import Mathlib.Data.List.Dedup
import Mathlib.Data.List.Sort
import QuantumAnalytics.Xlsx.Worksheet

/-!
# The choice of a schema

What `inspect` does with a workbook that has passed the structural validators. All
schemas of the policy together decide which sheet and which row of headers are
read, and each of them is compared with what is found there.
-/

namespace QuantumAnalytics
namespace Xlsx

/-- What the code takes from the Unicode database. -/
structure UnicodeData where
  /-- `unicodedata.normalize("NFC", text)`. -/
  nfc : List Char → List Char
  /-- `unicodedata.normalize("NFKC", text)`. -/
  nfkc : List Char → List Char
  /-- `text.casefold()`. -/
  casefold : List Char → List Char
  /-- `c.isalnum()`. -/
  isAlnum : Char → Bool
  /-- A text of blanks is normalized to blanks. -/
  nfc_blank : ∀ {text}, (∀ c ∈ text, PyText.isSpace c = true) →
    ∀ c ∈ nfc text, PyText.isSpace c = true

/-- A sheet of a workbook. -/
structure SheetElement where
  /-- `node.get("name") or ""`. -/
  name : String
  /-- The part with the sheet. -/
  path : String
  /-- The rows, or why the part cannot be read. -/
  rows : Result (List RowElement)

/-- The sheets of a workbook that `_workbook_shape` looks at: it rejects a workbook
without sheets, or with two sheets of one name or one part, before it looks at the
schemas. -/
structure Workbook where
  /-- The first sheet. -/
  first : SheetElement
  /-- The other sheets. -/
  others : List SheetElement
  /-- The names differ. -/
  names : ((first :: others).map SheetElement.name).Nodup
  /-- The parts differ. -/
  paths : ((first :: others).map SheetElement.path).Nodup

/-- The sheets in order. -/
def Workbook.sheets (workbook : Workbook) : List SheetElement := workbook.first :: workbook.others

/-! ### Headers -/

section Headers

variable (unicode : UnicodeData)

/-- `text.split()`. -/
def words (text : List Char) : List (List Char) :=
  (text.splitOnP PyText.isSpace).filter fun word => word ≠ []

/-- `_normalized_header`. -/
def normalizedHeader (value : String) : String :=
  String.ofList ([' '].intercalate (words (PyText.strip (unicode.nfc value.toList))))

/-- `_normalized_sensitive_token`. -/
def normalizedSensitiveToken (value : String) : List Char :=
  (unicode.casefold (unicode.nfkc value.toList)).filter unicode.isAlnum

/-- `normalized_header_sha256`. -/
def normalizedHeaderSha256 (headers : List String) : Result String := do
  require (headers ≠ []) "XLSX_HEADERS_INVALID"
  let normalized := headers.map (normalizedHeader unicode)
  require ("" ∉ normalized) "XLSX_HEADERS_INVALID"
  return Sha256.hexdigest (Json.dumps (.arr (normalized.map .str)))

/-- `_safe_text(value, code)`. -/
def safeText (value code : String) : Result Unit :=
  let normalized := PyText.strip value.toList
  require (normalized ≠ [] ∧ normalized.length ≤ 160) code

/-- The headers of a row up to its last column: a column without a cell has an
empty one. -/
def headersOf (cells : CellTexts) : List String :=
  (List.range ((cells.map Prod.fst).foldr max 0)).map fun index =>
    ((cells.find? fun cell => cell.1 = index + 1).map fun cell =>
      normalizedHeader unicode cell.2).getD ""

/-- The number of headers with a prohibited word. -/
def prohibitedHeaderCount (tokens headers : List String) : Nat :=
  (headers.filter fun header => tokens.any fun token =>
    (normalizedSensitiveToken unicode header).tails.any
      (normalizedSensitiveToken unicode token).isPrefixOf).length

end Headers

/-! ### The shape of a workbook -/

/-- `_WorkbookShape`. -/
structure WorkbookShape where
  /-- The name of the sheet. -/
  sheetName : String
  /-- The number of sheets. -/
  sheetCount : Nat
  /-- The row of the headers. -/
  headerRowIndex : Nat
  /-- The digest of the headers. -/
  headerSha256 : String
  /-- The number of columns. -/
  columnCount : Nat
  /-- The last column with content. -/
  maxUsedColumn : Nat
  /-- The number of other sheets with content. -/
  unmodeledWorksheetCount : Nat
  /-- The number of rows with content below the headers. -/
  dataRowCount : Nat
  /-- The number of formulas. -/
  formulaCount : Nat
  /-- The number of headers with a prohibited word. -/
  prohibitedHeaderCount : Nat
  deriving DecidableEq

/-- What an inspection depends on besides the schemas. -/
structure Setting where
  /-- The Unicode database. -/
  unicode : UnicodeData
  /-- The limits of the policy. -/
  limits : XlsxInspectionLimits
  /-- The prohibited words of the policy. -/
  prohibitedHeaderTokens : List String
  /-- The kind of the package. -/
  packageKind : String
  /-- The workbook. -/
  workbook : Workbook

variable (setting : Setting)

/-- The sheets with what `_parse_worksheet` returns, or the first error. -/
def parseSheets : Result (List (SheetElement × ParsedWorksheet)) :=
  setting.workbook.sheets.mapM fun sheet => do
    let parsed ← parseWorksheet setting.limits sheet.rows
    return (sheet, parsed)

/-- A sheet has content. -/
def ParsedWorksheet.hasContent (parsed : ParsedWorksheet) : Bool :=
  !parsed.nonemptyRows.isEmpty || parsed.formulaCount ≠ 0

/-- `_workbook_shape` after a sheet is selected, for a row of headers. -/
def shapeAt (sheet : SheetElement) (headerRowIndex : Nat) : Result WorkbookShape := do
  safeText sheet.name "XLSX_SHEET_NAME_INVALID"
  let parsedSheets ← parseSheets setting
  let unmodeledWorksheetCount := (parsedSheets.filter fun candidate =>
    candidate.1.path ≠ sheet.path && candidate.2.hasContent).length
  let (_, parsed) ← requireSome (parsedSheets.find? fun candidate =>
    candidate.1.path = sheet.path) "XLSX_ARCHIVE_INVALID"
  let (_, headerCells) ← requireSome (parsed.rows.find? fun row =>
    row.1 = (headerRowIndex : Int))
    "XLSX_HEADER_ROW_MISSING"
  require (headerCells ≠ []) "XLSX_HEADERS_INVALID"
  let headers := headersOf setting.unicode headerCells
  require ("" ∉ headers) "XLSX_HEADER_GAP_INVALID"
  let headerSha256 ← normalizedHeaderSha256 setting.unicode headers
  return {
    sheetName := sheet.name
    sheetCount := setting.workbook.sheets.length
    headerRowIndex
    headerSha256
    columnCount := headers.length
    maxUsedColumn := parsed.maxUsedColumn
    unmodeledWorksheetCount
    dataRowCount := (parsed.nonemptyRows.filter fun row => (headerRowIndex : Int) < row).length
    formulaCount := parsed.formulaCount
    prohibitedHeaderCount :=
      prohibitedHeaderCount setting.unicode setting.prohibitedHeaderTokens headers }

/-- The schemas for the kind of the package. -/
def candidates (schemas : List XlsxSchemaExpectation) : List XlsxSchemaExpectation :=
  schemas.filter fun schema => schema.packageKind = setting.packageKind

/-- The first sheet that has the name of a candidate, or the first sheet. -/
def selectedSheet (schemas : List XlsxSchemaExpectation) : SheetElement :=
  (setting.workbook.sheets.find? fun sheet =>
    sheet.name ∈ (candidates setting schemas).map XlsxSchemaExpectation.sheetName).getD
      setting.workbook.first

/-- The least row of headers of the candidates for a sheet. -/
def headerRowFor (schemas : List XlsxSchemaExpectation) (sheet : SheetElement) : Nat :=
  ((((candidates setting schemas).filter fun schema => schema.sheetName = sheet.name).map
    XlsxSchemaExpectation.headerRowIndex).min?).getD 1

/-- `_workbook_shape`. -/
def workbookShape (schemas : List XlsxSchemaExpectation) : Result WorkbookShape :=
  let sheet := selectedSheet setting schemas
  shapeAt setting sheet (headerRowFor setting schemas sheet)

/-! ### The comparison -/

/-- `[code]` if a condition holds. -/
def codeIf (condition : Bool) (code : String) : List String := if condition then [code] else []

/-- The codes that `inspect` collects for a schema. -/
def localCodes (shape : WorkbookShape) (schema : XlsxSchemaExpectation) : List String :=
  codeIf (shape.sheetName ≠ schema.sheetName) "XLSX_SHEET_NAME_MISMATCH" ++
  codeIf (shape.sheetCount ≠ schema.sheetCount) "XLSX_SHEET_COUNT_MISMATCH" ++
  codeIf (shape.headerRowIndex ≠ schema.headerRowIndex) "XLSX_HEADER_ROW_MISMATCH" ++
  codeIf (shape.headerSha256 ≠ schema.headerSha256) "XLSX_HEADER_HASH_MISMATCH" ++
  codeIf (shape.columnCount ≠ schema.columnCount) "XLSX_COLUMN_COUNT_MISMATCH" ++
  codeIf (schema.columnCount < shape.maxUsedColumn) "XLSX_DATA_COLUMN_COUNT_EXCEEDED" ++
  codeIf (shape.unmodeledWorksheetCount ≠ 0) "XLSX_UNMODELED_WORKSHEET_CONTENT" ++
  codeIf (!(schema.minDataRows ≤ shape.dataRowCount && shape.dataRowCount ≤ schema.maxDataRows))
    "XLSX_ROW_COUNT_OUT_OF_RANGE" ++
  codeIf (schema.maxFormulaCount < shape.formulaCount) "XLSX_FORMULA_COUNT_EXCEEDED"

/-- The schemas that fit. -/
def matching (schemas : List XlsxSchemaExpectation) (shape : WorkbookShape) :
    List XlsxSchemaExpectation :=
  (candidates setting schemas).filter fun schema => (localCodes shape schema).isEmpty

/-- The codes of the schemas that do not fit, and what is wrong with the choice. -/
def mismatchCodes (schemas : List XlsxSchemaExpectation) (shape : WorkbookShape) : List String :=
  let matched := matching setting schemas shape
  codeIf (candidates setting schemas).isEmpty "XLSX_PACKAGE_KIND_UNREGISTERED" ++
  (candidates setting schemas).flatMap (localCodes shape) ++
  codeIf (1 < matched.length) "XLSX_SCHEMA_MATCH_AMBIGUOUS" ++
  codeIf (shape.prohibitedHeaderCount ≠ 0) "XLSX_DIRECT_IDENTIFIER_HEADER_PRESENT" ++
  codeIf matched.isEmpty "XLSX_SCHEMA_UNKNOWN"

/-- The only schema that fits, if no header is prohibited. -/
def matchedSchema (schemas : List XlsxSchemaExpectation) (shape : WorkbookShape) :
    Option XlsxSchemaExpectation :=
  match matching setting schemas shape with
  | [schema] => if shape.prohibitedHeaderCount = 0 then some schema else none
  | _ => none

/-- What an inspection says about the schemas. -/
structure Verdict where
  /-- What was found. -/
  shape : WorkbookShape
  /-- The schema that the workbook matches. -/
  matched : Option XlsxSchemaExpectation
  /-- What the inspection objects to. -/
  diagnostics : List String

/-- `sorted(codes)` of a set. -/
def sortedCodes (codes : List String) : List String := codes.dedup.insertionSort (· ≤ ·)

/-- `inspect` of a workbook that has passed the structural validators. -/
def inspect (schemas : List XlsxSchemaExpectation) : Result Verdict := do
  let shape ← workbookShape setting schemas
  let matched := matchedSchema setting schemas shape
  return {
    shape
    matched
    diagnostics := if matched.isNone then sortedCodes (mismatchCodes setting schemas shape)
      else [] }

end Xlsx
end QuantumAnalytics
