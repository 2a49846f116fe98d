import QuantumAnalytics.Foundations.Collecting
import QuantumAnalytics.Foundations.Json
import QuantumAnalytics.Foundations.Sha256
import QuantumAnalytics.Xlsx.Archive
import QuantumAnalytics.Xlsx.Contracts

/-!
# Worksheets

`_parse_worksheet` walks the rows and cells of a sheet. It keeps the text of every
cell and which rows have content: a cell with a text other than blanks gives its
row content.
-/

namespace QuantumAnalytics
namespace Xlsx

/-- A cell element. -/
structure CellElement where
  /-- `cell.get("r") or ""`. -/
  reference : String
  /-- What `_cell_text` returns or raises. -/
  text : Result String
  /-- The cell has a formula. -/
  hasFormula : Bool

/-- A row element of `sheetData`. -/
structure RowElement where
  /-- `row.get("r") or "0"`. -/
  index : String
  /-- The cells. -/
  cells : List CellElement

/-- The cells of a row, by column. -/
abbrev CellTexts := List (Nat × String)

/-- The text has a character that is no blank: `bool(text.strip())`. -/
def hasText (text : String) : Bool := !(PyText.strip text.toList).isEmpty

/-- The letters of a column as a number. -/
def columnNumber (letters : List Char) : Nat :=
  letters.foldl (fun column c => column * 26 + (c.toNat - 64)) 0

/-- `_cell_position`: `^([A-Z]+)([1-9][0-9]*)$` on the whole text. The `ValueError` of a
row number that is too long for `int` is caught in `_workbook_shape`. -/
def cellPosition (reference : String) : Result (Nat × Nat) := do
  let letters := reference.toList.takeWhile fun c => 'A' ≤ c && c ≤ 'Z'
  let digits := reference.toList.dropWhile fun c => 'A' ≤ c && c ≤ 'Z'
  require (letters ≠ [] ∧ digits ≠ [] ∧ digits.all Char.isDigit = true ∧ digits.head? ≠ some '0')
    "XLSX_CELL_REFERENCE_INVALID"
  require (digits.length ≤ PyText.maxIntDigits) "XLSX_ARCHIVE_INVALID"
  return (columnNumber letters,
    digits.foldl (fun number c => number * 10 + (c.toNat - '0'.toNat)) 0)

/-- What is collected of a row. -/
structure RowState where
  /-- The texts of the cells. -/
  cells : CellTexts := []
  /-- A cell has a formula or a text. -/
  hasContent : Bool := false
  /-- The number of formulas. -/
  formulaCount : Nat := 0
  /-- The last column with content. -/
  maxUsedColumn : Nat := 0

/-- The loop body of a cell. -/
def cellStep (limits : XlsxInspectionLimits) (rowIndex : Int) (state : RowState)
    (cell : CellElement) : Result RowState := do
  let (column, cellRow) ← cellPosition cell.reference
  require ((cellRow : Int) = rowIndex) "XLSX_CELL_ROW_MISMATCH"
  require (column ≤ limits.maxColumns) "XLSX_COLUMN_LIMIT_EXCEEDED"
  require (column ∉ state.cells.map Prod.fst) "XLSX_CELL_DUPLICATE"
  let value ← cell.text
  let isUsed := cell.hasFormula || hasText value
  return {
    cells := state.cells ++ [(column, value)]
    hasContent := state.hasContent || isUsed
    formulaCount := state.formulaCount + if cell.hasFormula then 1 else 0
    maxUsedColumn := if isUsed then max state.maxUsedColumn column else state.maxUsedColumn }

/-- What is collected of a sheet. -/
structure SheetState where
  /-- The texts of the cells, by row. -/
  rows : List (Int × CellTexts) := []
  /-- The rows with content. -/
  nonemptyRows : List Int := []
  /-- The number of formulas. -/
  formulaCount : Nat := 0
  /-- The last column with content. -/
  maxUsedColumn : Nat := 0
  /-- The row before. -/
  priorRowIndex : Int := 0

/-- The loop body of a row. -/
def rowStep (limits : XlsxInspectionLimits) (state : SheetState) (row : RowElement) :
    Result SheetState := do
  let rowIndex ← requireSome (PyText.int? 10 row.index) "XLSX_ROW_INDEX_INVALID"
  require (1 ≤ rowIndex ∧ rowIndex ≤ limits.maxRows) "XLSX_ROW_INDEX_INVALID"
  require (state.priorRowIndex < rowIndex) "XLSX_ROW_ORDER_INVALID"
  let cells ← row.cells.foldlM (cellStep limits rowIndex)
    { formulaCount := state.formulaCount, maxUsedColumn := state.maxUsedColumn }
  return {
    rows := state.rows ++ [(rowIndex, cells.cells)]
    nonemptyRows := state.nonemptyRows ++ if cells.hasContent then [rowIndex] else []
    formulaCount := cells.formulaCount
    maxUsedColumn := cells.maxUsedColumn
    priorRowIndex := rowIndex }

/-- A cell with a text gives its row content. -/
def RowState.Sound (state : RowState) : Prop :=
  ∀ cell ∈ state.cells, hasText cell.2 = true → state.hasContent = true

/-- A row with a text in one of its cells is a row with content. -/
def SheetState.Sound (state : SheetState) : Prop :=
  ∀ row ∈ state.rows, ∀ cell ∈ row.2, hasText cell.2 = true → row.1 ∈ state.nonemptyRows

/-- `_ParsedWorksheet`. -/
structure ParsedWorksheet where
  /-- The texts of the cells, by row. -/
  rows : List (Int × CellTexts)
  /-- The rows with content. -/
  nonemptyRows : List Int
  /-- The number of formulas. -/
  formulaCount : Nat
  /-- The last column with content. -/
  maxUsedColumn : Nat
  /-- A row with a text in one of its cells is a row with content. -/
  sound : ∀ row ∈ rows, ∀ cell ∈ row.2, hasText cell.2 = true → row.1 ∈ nonemptyRows

theorem RowState.sound_of_cellStep
    {limits : XlsxInspectionLimits}
    {rowIndex : Int}
    {state next : RowState}
    {cell : CellElement}
    (stepped : cellStep limits rowIndex state cell = .ok next)
    (sound : state.Sound) : next.Sound := by
  simp only [cellStep] at stepped
  simp only [↓Checks.bind_done_eq_ok, Checks.bind_eq_ok, Checks.pure_eq_ok] at stepped
  obtain ⟨position, -, -, -, -, value, -, rfl⟩ := stepped
  intro other listed isText
  rcases List.mem_append.mp listed with before | isNew
  · simp [sound other before isText]
  · obtain rfl := List.mem_singleton.mp isNew
    simp [isText]

theorem SheetState.sound_of_rowStep
    {limits : XlsxInspectionLimits}
    {state next : SheetState}
    {row : RowElement}
    (stepped : rowStep limits state row = .ok next)
    (sound : state.Sound) : next.Sound := by
  simp only [rowStep] at stepped
  simp only [↓Checks.bind_done_eq_ok, Checks.bind_eq_ok, Checks.pure_eq_ok] at stepped
  obtain ⟨rowIndex, -, -, -, cells, collected, rfl⟩ := stepped
  have soundRow : cells.Sound :=
    Collecting.foldlM_preserves RowState.sound_of_cellStep (by simp [RowState.Sound]) collected
  intro other listed cell isCell isText
  rcases List.mem_append.mp listed with before | isNew
  · exact List.mem_append_left _ (sound other before cell isCell isText)
  · obtain rfl := List.mem_singleton.mp isNew
    refine List.mem_append_right _ ?_
    rw [if_pos (soundRow cell isCell isText)]
    exact List.mem_singleton.mpr rfl

/-- What the loops of `_parse_worksheet` collect is sound. -/
theorem SheetState.sound_of_run
    {limits : XlsxInspectionLimits}
    {rows : List RowElement}
    {final : SheetState}
    (run : rows.foldlM (rowStep limits) {} = .ok final) : final.Sound :=
  Collecting.foldlM_preserves SheetState.sound_of_rowStep (by simp [SheetState.Sound]) run

/-- `_parse_worksheet`, of the rows that reading the part and the checks of its
structure give. -/
def parseWorksheet (limits : XlsxInspectionLimits) (read : Result (List RowElement)) :
    Result ParsedWorksheet := do
  let rows ← read
  match run : rows.foldlM (rowStep limits) {} with
  | .error code => .error code
  | .ok final => .ok {
      rows := final.rows
      nonemptyRows := final.nonemptyRows
      formulaCount := final.formulaCount
      maxUsedColumn := final.maxUsedColumn
      sound := SheetState.sound_of_run run }

end Xlsx
end QuantumAnalytics
