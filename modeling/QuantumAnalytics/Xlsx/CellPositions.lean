import Mathlib.Data.List.TakeWhile
import QuantumAnalytics.Foundations.Dict
import QuantumAnalytics.Foundations.Numerals
import QuantumAnalytics.Xlsx.Worksheet

/-!
# Cells do not share a position

The letters of a reference are a number in bijective base 26 and its digits one in
base ten that does not begin with zero, so a reference is known from its position. In a
sheet that is parsed no two cells have one position, and the text of each of them is
kept.
-/

namespace QuantumAnalytics
namespace Xlsx

/-! ### References -/

/-- The value of a letter. -/
def letterValue (c : Char) : Nat := c.toNat - 64

/-- The value of a digit. -/
def digitValue (c : Char) : Nat := c.toNat - '0'.toNat

theorem columnNumber_eq_value (letters : List Char) :
    columnNumber letters = Numerals.value 26 (letters.map letterValue) := by
  rw [columnNumber, Numerals.value, List.foldl_map]
  rfl

/-- Characters whose values say which they are. -/
theorem eq_of_map_eq
    (read : Char → Nat)
    (write : Nat → Char)
    {left right : List Char}
    (leftKept : ∀ c ∈ left, write (read c) = c)
    (rightKept : ∀ c ∈ right, write (read c) = c)
    (same : left.map read = right.map read) : left = right := by
  have restored : ∀ text : List Char, (∀ c ∈ text, write (read c) = c) →
      (text.map read).map write = text := by
    intro text kept
    rw [List.map_map]
    exact (List.map_congr_left kept).trans (List.map_id text)
  rw [← restored left leftKept, same, restored right rightKept]

/-- A reference is letters and digits. -/
structure IsReference (letters digits : List Char) : Prop where
  areLetters : ∀ c ∈ letters, 65 ≤ c.toNat ∧ c.toNat ≤ 90
  areDigits : ∀ c ∈ digits, 48 ≤ c.toNat ∧ c.toNat ≤ 57
  noZero : digits.head? ≠ some '0'

/-- What a position is the position of. -/
theorem cellPosition_spec
    {reference : String}
    {column row : Nat}
    (position : cellPosition reference = .ok (column, row)) :
    ∃ letters digits, reference.toList = letters ++ digits ∧ IsReference letters digits ∧
      column = columnNumber letters ∧ row = Numerals.value 10 (digits.map digitValue) := by
  simp only [cellPosition] at position
  simp only [↓Checks.bind_done_eq_ok, Checks.require_eq_ok, Checks.pure_eq_ok,
    Prod.mk.injEq] at position
  obtain ⟨⟨-, -, areDigits, noZero⟩, -, rfl, rfl⟩ := position
  refine ⟨_, _, (List.takeWhile_append_dropWhile ..).symm, ⟨fun c listed => ?_, fun c listed => ?_,
    noZero⟩, rfl, ?_⟩
  · have isLetter := List.mem_takeWhile_imp listed
    rw [Bool.and_eq_true, decide_eq_true_eq, decide_eq_true_eq] at isLetter
    exact ⟨UInt32.le_iff_toNat_le.mp isLetter.1, UInt32.le_iff_toNat_le.mp isLetter.2⟩
  · have isDigit := List.all_eq_true.mp areDigits c listed
    rw [Char.isDigit, Bool.and_eq_true, decide_eq_true_eq, decide_eq_true_eq] at isDigit
    exact ⟨UInt32.le_iff_toNat_le.mp isDigit.1, UInt32.le_iff_toNat_le.mp isDigit.2⟩
  · rw [Numerals.value, List.foldl_map]
    rfl

/-- A position is the position of one reference. -/
theorem eq_of_cellPosition
    {left right : String}
    {position : Nat × Nat}
    (isLeft : cellPosition left = .ok position)
    (isRight : cellPosition right = .ok position) : left = right := by
  obtain ⟨column, row⟩ := position
  obtain ⟨letters, digits, isText, ofLeft, rfl, rfl⟩ := cellPosition_spec isLeft
  obtain ⟨otherLetters, otherDigits, isOther, ofRight, sameColumn, sameRow⟩ :=
    cellPosition_spec isRight
  have lettersKept : ∀ {text digits : List Char}, IsReference text digits →
      (∀ c ∈ text, Char.ofNat (letterValue c + 64) = c) ∧
        ∀ digit ∈ text.map letterValue, 1 ≤ digit ∧ digit ≤ 26 := by
    intro text digits ofText
    refine ⟨fun c listed => ?_, fun digit listed => ?_⟩
    · have bounds := ofText.areLetters c listed
      rw [letterValue, Nat.sub_add_cancel (by omega), Char.ofNat_toNat]
    · obtain ⟨c, isLetter, rfl⟩ := List.mem_map.mp listed
      have bounds := ofText.areLetters c isLetter
      rw [letterValue]
      omega
  have digitsKept : ∀ {letters text : List Char}, IsReference letters text →
      (∀ c ∈ text, Char.ofNat (digitValue c + '0'.toNat) = c) ∧
        (∀ digit ∈ text.map digitValue, digit < 10) ∧ (text.map digitValue).head? ≠ some 0 := by
    intro letters text ofText
    have zero : '0'.toNat = 48 := rfl
    refine ⟨fun c listed => ?_, fun digit listed => ?_, fun isZero => ?_⟩
    · have bounds := ofText.areDigits c listed
      rw [digitValue, Nat.sub_add_cancel (by omega), Char.ofNat_toNat]
    · obtain ⟨c, isDigit, rfl⟩ := List.mem_map.mp listed
      have bounds := ofText.areDigits c isDigit
      rw [digitValue]
      omega
    · rw [List.head?_map, Option.map_eq_some_iff] at isZero
      obtain ⟨c, isFirst, noValue⟩ := isZero
      have bounds := ofText.areDigits c (List.mem_of_head? isFirst)
      have isNat : c.toNat = '0'.toNat := by
        rw [digitValue] at noValue
        omega
      have isChar : c = '0' := by rw [← Char.ofNat_toNat c, isNat, Char.ofNat_toNat]
      exact ofText.noZero (isChar ▸ isFirst)
  rw [columnNumber_eq_value, columnNumber_eq_value] at sameColumn
  have sameLetters := eq_of_map_eq letterValue (fun digit => Char.ofNat (digit + 64))
    (lettersKept ofLeft).1 (lettersKept ofRight).1
    (Numerals.eq_of_value_eq_of_bijective (lettersKept ofLeft).2 (lettersKept ofRight).2 sameColumn)
  have sameDigits := eq_of_map_eq digitValue (fun digit => Char.ofNat (digit + '0'.toNat))
    (digitsKept ofLeft).1 (digitsKept ofRight).1
    (Numerals.eq_of_value_eq (by decide) (digitsKept ofLeft).2.1 (digitsKept ofRight).2.1
      (digitsKept ofLeft).2.2 (digitsKept ofRight).2.2 sameRow)
  apply String.toList_inj.mp
  rw [isText, isOther, sameLetters, sameDigits]

/-! ### Sheets -/

/-- The cells of a sheet, in document order. -/
def cellsOf (rows : List RowElement) : List CellElement := rows.flatMap RowElement.cells

/-- The texts of the cells under their positions. -/
def entriesOf (rows : List (Int × CellTexts)) : List ((Int × Nat) × String) :=
  rows.flatMap fun row => row.2.map fun cell => ((row.1, cell.1), cell.2)

/-- The entry has the position and the text of the cell. -/
def Keeps (cell : CellElement) (entry : (Int × Nat) × String) : Prop :=
  ∃ column row, cellPosition cell.reference = .ok (column, row) ∧
    entry.1 = ((row : Int), column) ∧ cell.text = .ok entry.2

/-- What a row has collected of the cells that were seen. -/
structure RowState.Kept (rowIndex : Int) (seen : List CellElement) (state : RowState) : Prop where
  kept : List.Forall₂ Keeps seen (state.cells.map fun cell => ((rowIndex, cell.1), cell.2))
  distinct : (state.cells.map Prod.fst).Nodup

theorem RowState.Kept.step
    {limits : XlsxInspectionLimits}
    {rowIndex : Int}
    {seen : List CellElement}
    {cell : CellElement}
    {state next : RowState}
    (before : state.Kept rowIndex seen)
    (stepped : cellStep limits rowIndex state cell = .ok next) :
    next.Kept rowIndex (seen ++ [cell]) := by
  simp only [cellStep] at stepped
  simp only [↓Checks.bind_done_eq_ok, Checks.bind_eq_ok, Checks.require_eq_ok,
    Checks.pure_eq_ok] at stepped
  obtain ⟨⟨column, row⟩, position, sameRow, -, fresh, text, isText, rfl⟩ := stepped
  constructor
  · rw [List.map_append]
    exact List.rel_append before.kept
      (.cons ⟨column, row, position, by rw [sameRow], isText⟩ .nil)
  · rw [List.map_append]
    refine List.nodup_append.mpr ⟨before.distinct, List.nodup_singleton _, ?_⟩
    rintro other isOther _ isNew rfl
    exact fresh (List.mem_singleton.mp isNew ▸ isOther)

/-- What a sheet has collected of the rows that were seen. -/
structure SheetState.Kept (seen : List RowElement) (state : SheetState) : Prop where
  kept : List.Forall₂ Keeps (cellsOf seen) (entriesOf state.rows)
  bounded : ∀ row ∈ state.rows, row.1 ≤ state.priorRowIndex
  distinct : ((entriesOf state.rows).map Prod.fst).Nodup

theorem SheetState.Kept.step
    {limits : XlsxInspectionLimits}
    {seen : List RowElement}
    {row : RowElement}
    {state next : SheetState}
    (before : state.Kept seen)
    (stepped : rowStep limits state row = .ok next) : next.Kept (seen ++ [row]) := by
  simp only [rowStep] at stepped
  simp only [↓Checks.bind_done_eq_ok, Checks.bind_eq_ok, Checks.require_eq_ok,
    Checks.pure_eq_ok] at stepped
  obtain ⟨rowIndex, -, -, later, cells, collected, rfl⟩ := stepped
  have start : RowState.Kept rowIndex []
      { formulaCount := state.formulaCount, maxUsedColumn := state.maxUsedColumn } :=
    ⟨.nil, List.nodup_nil⟩
  have ofRow := Collecting.foldlM_seen (RowState.Kept rowIndex) RowState.Kept.step start collected
  have entries : entriesOf (state.rows ++ [(rowIndex, cells.cells)]) = entriesOf state.rows ++
      cells.cells.map fun cell => ((rowIndex, cell.1), cell.2) := by
    rw [entriesOf, List.flatMap_append, List.flatMap_singleton]
    rfl
  have columns : ((cells.cells.map fun cell => ((rowIndex, cell.1), cell.2)).map Prod.fst) =
      (cells.cells.map Prod.fst).map (Prod.mk rowIndex) := by
    rw [List.map_map, List.map_map]
    rfl
  refine ⟨?_, fun other listed => ?_, ?_⟩
  · rw [entries, cellsOf, List.flatMap_append, List.flatMap_singleton]
    exact List.rel_append before.kept ofRow.kept
  · rcases List.mem_append.mp listed with earlier | isNew
    · exact (before.bounded other earlier).trans later.le
    · rw [List.mem_singleton.mp isNew]
  · rw [entries, List.map_append, columns]
    refine List.nodup_append.mpr ⟨before.distinct,
      ofRow.distinct.map fun _ _ same => (Prod.mk.inj same).2, ?_⟩
    -- Rows that were seen before have smaller indexes.
    rintro position isEarlier _ isNew rfl
    obtain ⟨column, -, rfl⟩ := List.mem_map.mp isNew
    obtain ⟨entry, isEntry, isPosition⟩ := List.mem_map.mp isEarlier
    obtain ⟨earlier, isRow, inRow⟩ := List.mem_flatMap.mp isEntry
    obtain ⟨cell, -, rfl⟩ := List.mem_map.mp inRow
    have sameIndex : earlier.1 = rowIndex := congrArg Prod.fst isPosition
    have bound := before.bounded earlier isRow
    omega

/-- **Positions are injective**: two references with one position are the same. In a
sheet that is parsed every cell is kept with its position and its text, no two cells
share a position, and writing the texts under their positions overwrites none. -/
theorem cellPosition_injective
    {limits : XlsxInspectionLimits}
    {rows : List RowElement}
    {parsed : ParsedWorksheet}
    (isParsed : parseWorksheet limits (.ok rows) = .ok parsed) :
    (∀ left right position, cellPosition left = .ok position →
      cellPosition right = .ok position → left = right) ∧
      List.Forall₂ Keeps (cellsOf rows) (entriesOf parsed.rows) ∧
      ((entriesOf parsed.rows).map Prod.fst).Nodup ∧
      ((entriesOf parsed.rows).foldl (fun (written : Dict (Int × Nat) String) entry =>
        written.set entry.1 entry.2) Dict.empty).entries = entriesOf parsed.rows := by
  have ran : ∃ final, rows.foldlM (rowStep limits) {} = .ok final ∧ parsed.rows = final.rows := by
    simp only [parseWorksheet, Checks.ok_bind] at isParsed
    split at isParsed
    next => cases isParsed
    next final run =>
      obtain rfl := Except.ok.inj isParsed
      exact ⟨final, run, rfl⟩
  obtain ⟨final, run, sameRows⟩ := ran
  have start : SheetState.Kept [] {} :=
    ⟨.nil, fun _ listed => absurd listed List.not_mem_nil, List.nodup_nil⟩
  have kept := Collecting.foldlM_seen SheetState.Kept SheetState.Kept.step start run
  rw [sameRows]
  refine ⟨fun left right position => eq_of_cellPosition, kept.kept, kept.distinct, ?_⟩
  have distinct : ((Dict.empty : Dict (Int × Nat) String).keys ++
      (entriesOf final.rows).map Prod.fst).Nodup := kept.distinct
  rw [Dict.entries_foldl_set Prod.fst Prod.snd distinct]
  exact List.map_id _

/-- Ten rows of a thousand columns. -/
def narrowLimits : XlsxInspectionLimits where
  maxFileBytes := 1000
  maxArchiveEntries := 10
  maxTotalUncompressedBytes := 1000
  maxEntryUncompressedBytes := 1000
  maxCompressionRatio := 10
  maxXmlBytes := 1000
  maxRows := 10
  maxColumns := 1000
  entryBounded := le_rfl

/-- Headers in the columns 1, 26, 27 and 703, and one value below them. -/
def headerRows : List RowElement :=
  [⟨"1", [⟨"A1", .ok "date", false⟩, ⟨"Z1", .ok "sku", false⟩, ⟨"AA1", .ok "amount", false⟩,
    ⟨"AAA1", .ok "note", false⟩]⟩, ⟨"2", [⟨"A2", .ok "today", false⟩]⟩]

theorem exists_parseWorksheet_headers :
    ∃ parsed, parseWorksheet narrowLimits (.ok headerRows) = .ok parsed :=
  Checks.exists_eq_ok _ (by decide +kernel)

/-- The headers and the value are kept. -/
theorem cellPosition_injective_headers :
    ∃ parsed, parseWorksheet narrowLimits (.ok headerRows) = .ok parsed ∧
      List.Forall₂ Keeps (cellsOf headerRows) (entriesOf parsed.rows) ∧
      ((entriesOf parsed.rows).map Prod.fst).Nodup := by
  obtain ⟨parsed, isParsed⟩ := exists_parseWorksheet_headers
  obtain ⟨-, kept, distinct, -⟩ := cellPosition_injective isParsed
  exact ⟨parsed, isParsed, kept, distinct⟩

end Xlsx
end QuantumAnalytics
