import Mathlib.Data.List.Pairwise
import QuantumAnalytics.Foundations.Collecting
import QuantumAnalytics.Xlsx.Archive

/-!
# Shared strings are accounted for

The table of shared strings is looked up by one spelling of its name. A table with
another spelling is a part of the workbook as well, and nothing refers to its
items.
-/

namespace QuantumAnalytics
namespace Xlsx

/-- The normalized name of the table of shared strings. -/
def sharedStringsPart : List Char := "xl/sharedstrings.xml".toList

variable {rules : NameRules} {entries : List Entry}

/-- The entry is the table of shared strings, whatever the spelling of its name. -/
def IsSharedStrings (rules : NameRules) (entry : Entry) : Prop :=
  entry.isDir = false ∧ ∃ name, safeMemberName rules entry.filename = .ok name ∧
    rules.casefold name = sharedStringsPart

/-- The number of items in a table. -/
def itemCount (entry : Entry) : Nat :=
  match entry.content with
  | .xml root => (root.findall (spreadsheetTag "si")).length
  | _ => 0

/-- The cells of a worksheet. -/
def cellsIn (entry : Entry) : List Element :=
  match entry.content with
  | .xml root => root.iter.filter fun element => element.tag = spreadsheetTag "c"
  | _ => []

/-- The cells of the worksheets that are validated. -/
def worksheetCells (rules : NameRules) (entries : List Entry) : List Element :=
  (entries.filter (isWorksheet rules)).flatMap cellsIn

/-- The cell is of type `s` and names an item. -/
def Refers (cell : Element) (index : Int) : Prop :=
  cell.get "t" = some "s" ∧ sharedIndex? cell = some index

/-- Every cell of type `s` names an item of a table, and every item of a table is
named by a cell. -/
structure Accounted (rules : NameRules) (entries : List Entry) : Prop where
  /-- Cells name items. -/
  cells : ∀ cell ∈ worksheetCells rules entries, cell.get "t" = some "s" →
    ∃ entry ∈ entries, IsSharedStrings rules entry ∧ ∃ index : Nat, index < itemCount entry ∧
      Refers cell index
  /-- Items are named by cells. -/
  items : ∀ entry ∈ entries, IsSharedStrings rules entry → ∀ index : Nat,
    index < itemCount entry → ∃ cell ∈ worksheetCells rules entries, Refers cell index

/-! ### Names -/

/-- A safe name is the path that the entry has, composed. -/
theorem safeMemberName_spec
    {filename : String}
    {name : List Char}
    (safe : safeMemberName rules filename = .ok name) :
    name = rules.nfc (pathText (slashed filename.toList)) := by
  simp only [safeMemberName] at safe
  simp only [↓Checks.bind_done_eq_ok, Checks.pure_eq_ok] at safe
  obtain ⟨-, -, -, -, rfl⟩ := safe
  rfl

/-- The key of an entry with a safe name. -/
theorem key_of_safeMemberName
    {filename : String}
    {name : List Char}
    (safe : safeMemberName rules filename = .ok name) : rules.nfc name = name := by
  rw [safeMemberName_spec safe, rules.nfc_nfc]

/-- The key of an entry. -/
def keyOf (rules : NameRules) (entry : Entry) : Result (List Char) := do
  let name ← safeMemberName rules entry.filename
  return rules.casefold (rules.nfc name)

theorem adds_archiveStep (rules : NameRules) :
    Collecting.Adds (archiveStep rules) (keyOf rules) (fun seen part => part ∉ seen)
      (fun seen part => seen ++ [part]) (· ≠ ·) := by
  refine Collecting.adds_unseen fun seen entry next => ?_
  simp only [archiveStep, keyOf]
  simp only [↓Checks.bind_done_eq_ok, Checks.bind_eq_ok, Checks.require_eq_ok,
    Checks.pure_eq_ok]
  constructor
  · rintro ⟨name, safe, unseen, rfl⟩
    exact ⟨_, ⟨name, safe, rfl⟩, unseen, rfl⟩
  · rintro ⟨_, ⟨name, safe, rfl⟩, unseen, rfl⟩
    exact ⟨name, safe, unseen, rfl⟩

theorem IsSharedStrings.keyOf
    {entry : Entry}
    (isTable : IsSharedStrings rules entry) : keyOf rules entry = .ok sharedStringsPart := by
  obtain ⟨-, name, safe, folded⟩ := isTable
  rw [Xlsx.keyOf, safe, Checks.ok_bind, key_of_safeMemberName safe, folded]
  rfl

/-- An archive has one table of shared strings at most. -/
theorem eq_of_isSharedStrings
    {keys : List (List Char)}
    (names : validateArchive rules entries = .ok keys)
    {entry other : Entry}
    (listed : entry ∈ entries)
    (otherListed : other ∈ entries)
    (isTable : IsSharedStrings rules entry)
    (isOther : IsSharedStrings rules other) : entry = other := by
  have nodup : (entries.map (keyOf rules)).Nodup := by
    refine List.pairwise_map.mpr (((adds_archiveStep rules).pairwise_of_foldlM names).imp ?_)
    rintro first second ⟨part, otherPart, isPart, isOtherPart, distinct⟩ same
    exact distinct (Except.ok.inj (isPart.symm.trans (same.trans isOtherPart)))
  exact List.inj_on_of_nodup_map nodup listed otherListed (isTable.keyOf.trans isOther.keyOf.symm)

/-- The name under which the table is read is a name of the table. -/
theorem isSharedStrings_of_filename
    {entry : Entry}
    (named : entry.filename = sharedStringsName) : IsSharedStrings rules entry := by
  have small : (sharedStringsName.toList.all fun c => decide (c.toNat < 128)) = true := by
    decide +kernel
  have ascii : ∀ c ∈ sharedStringsName.toList, c.toNat < 128 := fun c listed =>
    of_decide_eq_true (List.all_eq_true.mp small c listed)
  have path : pathText (slashed sharedStringsName.toList) = sharedStringsName.toList := by decide
  refine ⟨by rw [Entry.isDir, named]; decide, sharedStringsName.toList, ?_, ?_⟩
  · simp only [safeMemberName, named]
    simp only [↓Checks.bind_done_eq_ok, Checks.require_eq_ok, Checks.pure_eq_ok]
    rw [path, rules.nfc_ascii _ ascii]
    decide
  · rw [rules.casefold_ascii ascii]
    decide

/-! ### What the validator checks -/

theorem getinfo_spec
    {name : String}
    {entry : Entry}
    (found : getinfo entries name = some entry) : entry ∈ entries ∧ entry.filename = name :=
  ⟨List.mem_reverse.mp (List.mem_of_find?_eq_some found), by simpa using List.find?_some found⟩

theorem xmlRoot_eq_ok
    {content : PartContent}
    {code : String}
    {root : Element} : xmlRoot content code = .ok root ↔ content = .xml root := by
  cases content <;> simp [xmlRoot]

theorem sharedStringCount_spec
    {count : Nat}
    (counted : sharedStringCount entries = .ok (some count)) :
    ∃ entry, getinfo entries sharedStringsName = some entry ∧ count = itemCount entry := by
  unfold sharedStringCount at counted
  split at counted
  next => cases counted
  next entry found =>
    simp only [↓Checks.bind_done_eq_ok, Checks.bind_eq_ok, Checks.pure_eq_ok, xmlRoot_eq_ok]
      at counted
    obtain ⟨root, isRoot, -, isCount⟩ := counted
    refine ⟨entry, found, ?_⟩
    rw [itemCount, isRoot]
    exact (Option.some.inj isCount).symm

theorem sharedStringCount_ne_none
    {entry : Entry}
    {result : Option Nat}
    (found : getinfo entries sharedStringsName = some entry)
    (counted : sharedStringCount entries = .ok result) : ∃ count, result = some count := by
  simp only [sharedStringCount, found, ↓Checks.bind_done_eq_ok, Checks.bind_eq_ok,
    Checks.pure_eq_ok] at counted
  obtain ⟨root, -, -, -, rfl⟩ := counted
  exact ⟨_, rfl⟩

/-- What is checked of a cell. -/
theorem validateCell_spec
    {sharedCount : Option Nat}
    {cell : Element}
    {used : Option Int}
    (valid : validateCell sharedCount cell = .ok used) :
    (cell.get "t" = some "s" → ∃ count index, sharedCount = some count ∧ used = some index ∧
      sharedIndex? cell = some index ∧ 0 ≤ index ∧ index < count) ∧
    ∀ index, used = some index → Refers cell index := by
  simp only [validateCell] at valid
  simp only [↓Checks.bind_done_eq_ok] at valid
  obtain ⟨-, -, -, valid⟩ := valid
  split at valid
  next isShared =>
    simp only [↓Checks.bind_done_eq_ok, Checks.bind_eq_ok, Checks.requireSome_eq_ok,
      Checks.require_eq_ok, Checks.pure_eq_ok] at valid
    obtain ⟨-, index, isIndex, count, isCount, bounds, rfl⟩ := valid
    refine ⟨fun _ => ⟨count, index, isCount, rfl, isIndex, bounds⟩, ?_⟩
    rintro other ⟨⟩
    exact ⟨isShared, isIndex⟩
  next notShared =>
    obtain rfl := Checks.pure_eq_ok.mp valid
    exact ⟨fun isShared => absurd isShared notShared, fun index isIndex => by cases isIndex⟩

theorem validateWorksheet_spec
    {sharedCount : Option Nat}
    {entry : Entry}
    {used : List (Option Int)}
    (valid : validateWorksheet sharedCount entry = .ok used) :
    (cellsIn entry).mapM (validateCell sharedCount) = .ok used := by
  simp only [validateWorksheet, Checks.bind_eq_ok, xmlRoot_eq_ok] at valid
  obtain ⟨root, isRoot, checked⟩ := valid
  rw [cellsIn, isRoot]
  exact checked

/-- What is checked of all cells. -/
theorem validateCellStructures_spec
    (valid : validateCellStructures rules entries = .ok ()) :
    ∃ sharedCount used, sharedStringCount entries = .ok sharedCount ∧
      (worksheetCells rules entries).mapM (validateCell sharedCount) = .ok used ∧
      ∀ count, sharedCount = some count → ∀ index : Nat, index < count →
        some (index : Int) ∈ used := by
  simp only [validateCellStructures, Checks.bind_eq_ok] at valid
  obtain ⟨sharedCount, counted, used, checked, complete⟩ := valid
  refine ⟨sharedCount, used.flatten, counted, ?_, ?_⟩
  · have flat : (worksheetCells rules entries).mapM (validateCell sharedCount) =
        .ok (used.flatMap id) := Collecting.mapM_flatMap validateWorksheet_spec checked
    rwa [List.flatMap_id] at flat
  · rintro count rfl index below
    simp only [Checks.require_eq_ok] at complete
    have isUsed := complete.2 index (List.mem_range.mpr below)
    obtain ⟨item, listed, same⟩ := List.mem_filterMap.mp isUsed
    rwa [id, ← same] at *

/-- In a workbook whose names and cells are valid, cells and items are accounted
for if and only if every table of shared strings has the name under which it is
read or has no items. -/
theorem accounted_iff
    {keys : List (List Char)}
    (names : validateArchive rules entries = .ok keys)
    (valid : validateCellStructures rules entries = .ok ()) :
    Accounted rules entries ↔ ∀ entry ∈ entries, IsSharedStrings rules entry →
      entry.filename = sharedStringsName ∨ itemCount entry = 0 := by
  obtain ⟨sharedCount, used, counted, checked, complete⟩ := validateCellStructures_spec valid
  have each := Checks.mapM_eq_ok.mp checked
  have isRead : ∀ cell ∈ worksheetCells rules entries, cell.get "t" = some "s" →
      ∃ entry index, getinfo entries sharedStringsName = some entry ∧
        sharedIndex? cell = some index ∧ 0 ≤ index ∧ index < itemCount entry := by
    intro cell listed isShared
    obtain ⟨result, -, checkedCell⟩ := Checks.exists_left_of_mem (List.Forall₂.flip each) listed
    obtain ⟨count, index, rfl, -, isIndex, nonnegative, below⟩ :=
      (validateCell_spec checkedCell).1 isShared
    obtain ⟨entry, found, rfl⟩ := sharedStringCount_spec counted
    exact ⟨entry, index, found, isIndex, nonnegative, below⟩
  constructor
  · intro accounted entry listed isTable
    by_contra bad
    obtain ⟨misnamed, hasItems⟩ := not_or.mp bad
    obtain ⟨cell, isCell, isShared, -⟩ :=
      accounted.items entry listed isTable 0 (Nat.pos_of_ne_zero hasItems)
    obtain ⟨table, -, found, -⟩ := isRead cell isCell isShared
    obtain ⟨tableListed, named⟩ := getinfo_spec found
    exact misnamed (eq_of_isSharedStrings names listed tableListed isTable
      (isSharedStrings_of_filename named) ▸ named)
  · intro spelled
    refine ⟨fun cell listed isShared => ?_, fun entry listed isTable index below => ?_⟩
    · obtain ⟨table, index, found, isIndex, nonnegative, below⟩ := isRead cell listed isShared
      obtain ⟨tableListed, named⟩ := getinfo_spec found
      obtain ⟨number, rfl⟩ := Int.eq_ofNat_of_zero_le nonnegative
      exact ⟨table, tableListed, isSharedStrings_of_filename named, number, by omega, isShared,
        isIndex⟩
    · rcases spelled entry listed isTable with named | empty
      · obtain ⟨table, found⟩ : ∃ table, getinfo entries sharedStringsName = some table := by
          rw [← Option.isSome_iff_exists, getinfo, List.find?_isSome]
          exact ⟨entry, List.mem_reverse.mpr listed, decide_eq_true named⟩
        obtain ⟨tableListed, tableNamed⟩ := getinfo_spec found
        obtain rfl := eq_of_isSharedStrings names tableListed listed
          (isSharedStrings_of_filename tableNamed) isTable
        obtain ⟨count, rfl⟩ := sharedStringCount_ne_none found counted
        obtain ⟨table, again, rfl⟩ := sharedStringCount_spec counted
        obtain rfl := Option.some.inj (found.symm.trans again)
        have isUsed := complete _ rfl index below
        obtain ⟨cell, isCell, checkedCell⟩ := Checks.exists_left_of_mem each isUsed
        exact ⟨cell, isCell, (validateCell_spec checkedCell).2 _ rfl⟩
      · rw [empty] at below
        cases below

/-! ### Two spellings -/

/-- Only a slash has a slash as its lower case. -/
theorem eq_slash_of_toLower {c : Char} (lower : c.toLower = '/') : c = '/' := by
  delta Char.toLower at lower
  split at lower
  next upper =>
    have number : (c.val + ('a'.val - 'A'.val)).toNat = '/'.val.toNat :=
      congrArg (fun d => d.val.toNat) lower
    have least : 65 ≤ c.val.toNat := UInt32.le_iff_toNat_le.mp upper.1
    have greatest : c.val.toNat ≤ 90 := UInt32.le_iff_toNat_le.mp upper.2
    have shift : ('a'.val - 'A'.val).toNat = 32 := rfl
    have slash : '/'.val.toNat = 47 := rfl
    rw [UInt32.toNat_add, shift, slash] at number
    omega
  next => exact lower

/-- Names of ASCII characters. -/
def asciiNames : NameRules where
  nfc := id
  foldChar c := [c.toLower]
  nfc_nfc _ := rfl
  nfc_ascii _ _ := rfl
  nfc_slash _ _ := rfl
  foldChar_ascii _ _ := rfl
  slash_of_mem _ present := eq_slash_of_toLower (List.mem_singleton.mp present).symm
  fold_nfc _ _ := rfl

/-- A table of one shared string. -/
def oneString : PartContent :=
  .xml (.mk (spreadsheetTag "sst") [] "" [.mk (spreadsheetTag "si") [] ""
    [.mk (spreadsheetTag "t") [] "hidden" []]])

/-- A worksheet with the given cells. -/
def sheetOf (cells : List Element) : Entry :=
  ⟨"xl/worksheets/sheet1.xml", .xml (.mk (spreadsheetTag "worksheet") [] ""
    [.mk (spreadsheetTag "sheetData") [] "" [.mk (spreadsheetTag "row") [("r", "1")] "" cells]])⟩

/-- A cell that names the first shared string. -/
def sharedCell : Element :=
  .mk (spreadsheetTag "c") [("r", "A1"), ("t", "s")] "" [.mk (spreadsheetTag "v") [] "0" []]

/-- A worksheet and the table that it uses. -/
def spelledEntries : List Entry := [sheetOf [sharedCell], ⟨sharedStringsName, oneString⟩]

/-- A worksheet without shared strings and a table. -/
def misspelledEntries : List Entry := [sheetOf [], ⟨"xl/SharedStrings.xml", oneString⟩]

theorem exists_validateArchive_spelled :
    ∃ keys, validateArchive asciiNames spelledEntries = .ok keys :=
  Checks.exists_eq_ok _ (by decide +kernel)

/-- The table that is used is accounted for. -/
theorem accounted_iff_spelled :
    Accounted asciiNames spelledEntries ↔ ∀ entry ∈ spelledEntries,
      IsSharedStrings asciiNames entry →
        entry.filename = sharedStringsName ∨ itemCount entry = 0 := by
  obtain ⟨keys, names⟩ := exists_validateArchive_spelled
  exact accounted_iff names (by decide +kernel)

/-- A table with another spelling passes, and no cell names its item. -/
theorem not_accounted_misspelled :
    (∃ keys, validateArchive asciiNames misspelledEntries = .ok keys) ∧
      validateCellStructures asciiNames misspelledEntries = .ok () ∧
      ¬Accounted asciiNames misspelledEntries := by
  refine ⟨Checks.exists_eq_ok _ (by decide +kernel), by decide +kernel, fun accounted => ?_⟩
  have isTable : IsSharedStrings asciiNames ⟨"xl/SharedStrings.xml", oneString⟩ :=
    ⟨by decide, "xl/SharedStrings.xml".toList, by decide +kernel, by decide⟩
  obtain ⟨cell, isCell, -⟩ := accounted.items _ (List.mem_cons_of_mem _ List.mem_cons_self)
    isTable 0 (by decide)
  have none : worksheetCells asciiNames misspelledEntries = [] := by decide +kernel
  rw [none] at isCell
  cases isCell

end Xlsx
end QuantumAnalytics
