import QuantumAnalytics.Foundations.Checks
import QuantumAnalytics.Foundations.PyText

/-!
# Parts of a workbook

An archive names its entries freely. What counts as a part is decided by a
normalized name, but most code looks an entry up by the name that it has.
-/

namespace QuantumAnalytics
namespace Xlsx

/-- A result or the code of an `XlsxInspectionError`. -/
abbrev Result := Except String

/-- An element of a parsed part. -/
inductive Element
  | mk (tag : String) (attributes : List (String × String)) (text : String)
      (children : List Element)

namespace Element

/-- `element.tag`. -/
def tag : Element → String
  | mk tag _ _ _ => tag

/-- `element.get(name)`. -/
def get (name : String) : Element → Option String
  | mk _ attributes _ _ => (attributes.find? fun pair => pair.1 = name).map Prod.snd

/-- `element.text or ""`. -/
def text : Element → String
  | mk _ _ text _ => text

/-- `list(element)`. -/
def children : Element → List Element
  | mk _ _ _ children => children

mutual

/-- `element.iter()`. -/
def iter : Element → List Element
  | mk tag attributes text children => mk tag attributes text children :: iterAll children

/-- The elements below a list of elements, in document order. -/
def iterAll : List Element → List Element
  | [] => []
  | element :: elements => iter element ++ iterAll elements

end

/-- `element.findall(tag)`. -/
def findall (tag : String) (element : Element) : List Element :=
  element.children.filter fun child => child.tag = tag

/-- `element.findall(".//" + tag)`. -/
def findallBelow (tag : String) (element : Element) : List Element :=
  (iterAll element.children).filter fun child => child.tag = tag

end Element

/-- What `_read_limited` and the parser find in an entry. -/
inductive PartContent
  /-- `_read_limited` raises an error. -/
  | unreadable (code : String)
  /-- `ElementTree.ParseError`. -/
  | malformed
  /-- The root. -/
  | xml (root : Element)

/-- `_xml_root` of what was read. -/
def xmlRoot (content : PartContent) (code : String) : Result Element :=
  match content with
  | .unreadable readCode => .error readCode
  | .malformed => .error code
  | .xml root => .ok root

/-- An entry of an archive. -/
structure Entry where
  /-- `info.filename`. -/
  filename : String
  /-- What is in it. -/
  content : PartContent

/-- `info.is_dir()`. -/
def Entry.isDir (entry : Entry) : Bool := entry.filename.toList.getLast? = some '/'

/-- What the code takes from the Unicode database about names. -/
structure NameRules where
  /-- `unicodedata.normalize("NFC", text)`. -/
  nfc : List Char → List Char
  /-- `c.casefold()`. -/
  foldChar : Char → List Char
  /-- A normalized text stays as it is. -/
  nfc_nfc : ∀ text, nfc (nfc text) = nfc text
  /-- A text of ASCII characters is normalized. -/
  nfc_ascii : ∀ text, (∀ c ∈ text, c.toNat < 128) → nfc text = text
  /-- No character is composed with a slash. -/
  nfc_slash : ∀ text rest, nfc (text ++ '/' :: rest) = nfc text ++ '/' :: nfc rest
  /-- ASCII characters are folded to lower case. -/
  foldChar_ascii : ∀ c, c.toNat < 128 → foldChar c = [c.toLower]
  /-- No other character is folded to a slash. -/
  slash_of_mem : ∀ c, '/' ∈ foldChar c → c = '/'
  /-- Characters that are folded to ASCII are not composed. -/
  fold_nfc : ∀ text, (∀ c ∈ text.flatMap foldChar, c.toNat < 128) →
    (nfc text).flatMap foldChar = text.flatMap foldChar

/-- `text.casefold()`. -/
def NameRules.casefold (rules : NameRules) (text : List Char) : List Char :=
  text.flatMap rules.foldChar

theorem NameRules.casefold_ascii
    (rules : NameRules)
    {text : List Char}
    (ascii : ∀ c ∈ text, c.toNat < 128) : rules.casefold text = text.map Char.toLower := by
  rw [casefold, List.map_eq_flatMap]
  exact List.flatMap_congr fun c listed => rules.foldChar_ascii c (ascii c listed)

/-! ### Names -/

section Names

/-- The pieces of a text between slashes. -/
def pieces : List Char → List (List Char)
  | [] => [[]]
  | c :: text =>
      if c = '/' then [] :: pieces text
      else match pieces text with
        | piece :: rest => (c :: piece) :: rest
        | [] => [[c]]

/-- `text.replace("\\", "/")`. -/
def slashed (text : List Char) : List Char := text.map fun c => if c = '\\' then '/' else c

/-- `PurePosixPath(text).parts` of a path that is not absolute. -/
def pathParts (text : List Char) : List (List Char) :=
  (pieces text).filter fun piece => piece ≠ [] && piece ≠ ['.']

/-- `str(PurePosixPath(text))` of a path that is not absolute. -/
def pathText (text : List Char) : List Char :=
  if pathParts text = [] then ['.'] else ['/'].intercalate (pathParts text)

/-- `^[A-Za-z]:`. -/
def hasDrive : List Char → Bool
  | c :: ':' :: _ => c.isAlpha
  | _ => false

variable (rules : NameRules)

/-- `_safe_member_name`. -/
def safeMemberName (name : String) : Result (List Char) := do
  require (name.toList ≠ [] ∧ Char.ofNat 0 ∉ name.toList) "XLSX_ARCHIVE_PATH_INVALID"
  let normalized := slashed name.toList
  require (hasDrive normalized = false) "XLSX_ARCHIVE_PATH_INVALID"
  require (normalized.head? ≠ some '/' ∧ ['.', '.'] ∉ pathParts normalized)
    "XLSX_ARCHIVE_PATH_INVALID"
  let canonical := rules.nfc (pathText normalized)
  require (':' ∉ canonical) "XLSX_ARCHIVE_PATH_INVALID"
  return canonical

/-- The loop body of `_validate_archive` with the keys that it has seen, as far as
names are concerned. -/
def archiveStep (seen : List (List Char)) (entry : Entry) : Result (List (List Char)) := do
  let name ← safeMemberName rules entry.filename
  let key := rules.casefold (rules.nfc name)
  require (key ∉ seen) "XLSX_ARCHIVE_DUPLICATE_PATH"
  return seen ++ [key]

/-- `_validate_archive`, as far as names are concerned. -/
def validateArchive (entries : List Entry) : Result (List (List Char)) :=
  entries.foldlM (archiveStep rules) []

end Names

/-! ### Shared strings -/

/-- `{spreadsheetml}` and a local name. -/
def spreadsheetTag (name : String) : String :=
  "\x7bhttp://schemas.openxmlformats.org/spreadsheetml/2006/main\x7d" ++ name

/-- `zf.getinfo(name)`: the last entry of the name. -/
def getinfo (entries : List Entry) (name : String) : Option Entry :=
  entries.reverse.find? fun entry => entry.filename = name

/-- The name under which the table of shared strings is read. -/
def sharedStringsName : String := "xl/sharedStrings.xml"

/-- `_shared_string_count`. -/
def sharedStringCount (entries : List Entry) : Result (Option Nat) :=
  match getinfo entries sharedStringsName with
  | none => .ok none
  | some entry => do
      let root ← xmlRoot entry.content "XLSX_SHARED_STRINGS_INVALID"
      let items := root.findall (spreadsheetTag "si")
      require ((root.findallBelow (spreadsheetTag "si")).length = items.length)
        "XLSX_SHARED_STRINGS_INVALID"
      return some items.length

/-- The index of a shared string that a cell names. -/
def sharedIndex? (cell : Element) : Option Int :=
  match cell.findall (spreadsheetTag "v") with
  | [value] => PyText.int? 10 value.text
  | _ => none

/-- The checks of a cell, with the index of the shared string that it uses. -/
def validateCell (sharedCount : Option Nat) (cell : Element) : Result (Option Int) := do
  require (∀ child ∈ cell.children, child.tag ∈ ["f", "v", "is"].map spreadsheetTag)
    "XLSX_CELL_CHILD_UNMODELED"
  let formulas := cell.findall (spreadsheetTag "f")
  let values := cell.findall (spreadsheetTag "v")
  let inlines := cell.findall (spreadsheetTag "is")
  require (formulas.length ≤ 1 ∧ values.length ≤ 1 ∧ inlines.length ≤ 1)
    "XLSX_CELL_STRUCTURE_INVALID"
  require ((cell.get "t" = some "inlineStr" → inlines.length = 1 ∧ values = []) ∧
    (cell.get "t" ≠ some "inlineStr" → inlines = [])) "XLSX_CELL_STRUCTURE_INVALID"
  if cell.get "t" = some "s" then
    require (values.length = 1) "XLSX_CELL_STRUCTURE_INVALID"
    let index ← requireSome (sharedIndex? cell) "XLSX_SHARED_STRING_REFERENCE_INVALID"
    let count ← requireSome sharedCount "XLSX_SHARED_STRING_REFERENCE_INVALID"
    require (0 ≤ index ∧ index < count) "XLSX_SHARED_STRING_REFERENCE_INVALID"
    return some index
  else return none

section Validator

variable (rules : NameRules)

/-- The entry is read as a worksheet. -/
def isWorksheet (entry : Entry) : Bool :=
  let path := rules.casefold (slashed entry.filename.toList)
  !entry.isDir && "xl/worksheets/".toList.isPrefixOf path && ".xml".toList.isSuffixOf path

/-- The cells of a worksheet with the indexes that they use. -/
def validateWorksheet (sharedCount : Option Nat) (entry : Entry) : Result (List (Option Int)) := do
  let root ← xmlRoot entry.content "XLSX_WORKSHEET_INVALID"
  (root.iter.filter fun element => element.tag = spreadsheetTag "c").mapM
    (validateCell sharedCount)

/-- `validate_cell_structures`. -/
def validateCellStructures (entries : List Entry) : Result Unit := do
  let sharedCount ← sharedStringCount entries
  let used ← (entries.filter (isWorksheet rules)).mapM (validateWorksheet sharedCount)
  match sharedCount with
  | none => return ()
  | some count =>
      let indexes := used.flatten.filterMap id
      require ((∀ index ∈ indexes, 0 ≤ index ∧ index < count) ∧
        ∀ index ∈ List.range count, (index : Int) ∈ indexes) "XLSX_SHARED_STRING_UNUSED"

end Validator

end Xlsx
end QuantumAnalytics
