import Mathlib.Data.List.Basic
import QuantumAnalytics.Foundations.Collecting
import QuantumAnalytics.Foundations.Joining
import QuantumAnalytics.Xlsx.SharedStrings
import QuantumAnalytics.Xlsx.Targets

/-!
# Two readers of the target of a sheet

The target of a relationship denotes an entry by its name for the parser and by its
folded name for the validator. The names of an archive are told apart after they are
composed, and folding alone may take two of them to one.
-/

namespace QuantumAnalytics
namespace Xlsx

/-! ### Pieces -/

theorem pieces_eq_splitOn (text : List Char) : pieces text = text.splitOn '/' := by
  induction text with
  | nil => rfl
  | cons c text inductionHypothesis =>
      rw [pieces, List.splitOn_cons_eq_if_modifyHead, inductionHypothesis]
      by_cases isSlash : c = '/'
      · rw [if_pos isSlash, if_pos (beq_iff_eq.mpr isSlash)]
      · rw [if_neg isSlash, if_neg (mt beq_iff_eq.mp isSlash)]
        cases rest : text.splitOn '/' with
        | nil => exact absurd rest (List.splitOn_ne_nil '/' text)
        | cons piece rest => rfl

theorem intercalate_pieces (text : List Char) : ['/'].intercalate (pieces text) = text := by
  rw [pieces_eq_splitOn, List.intercalate_splitOn]

theorem pieces_append_slash (text rest : List Char) :
    pieces (text ++ '/' :: rest) = pieces text ++ pieces rest := by
  rw [pieces_eq_splitOn, pieces_eq_splitOn, pieces_eq_splitOn, List.splitOn_append_cons_self]

theorem pieces_of_plain {text : List Char} (plain : '/' ∉ text) : pieces text = [text] := by
  rw [pieces_eq_splitOn, List.splitOn_eq_singleton plain]

/-- No piece is empty or is left out of a path. -/
def Plain (text : List Char) : Prop :=
  ∀ piece ∈ pieces text, piece ≠ [] ∧ piece ≠ ['.'] ∧ piece ≠ ['.', '.']

namespace Plain

variable {text : List Char}

theorem pathParts_eq (plain : Plain text) : pathParts text = pieces text := by
  refine List.filter_eq_self.mpr fun piece listed => ?_
  obtain ⟨nonempty, notDot, -⟩ := plain piece listed
  simp [nonempty, notDot]

theorem head_ne (plain : Plain text) : text.head? ≠ some '/' := by
  intro rooted
  obtain ⟨rest, rfl⟩ := List.head?_eq_some_iff.mp rooted
  exact (plain [] (pieces_append_slash [] rest ▸ List.mem_append_left _ List.mem_cons_self)).1 rfl

theorem getLast_ne (plain : Plain text) : text.getLast? ≠ some '/' := by
  intro ended
  obtain ⟨front, rfl⟩ := List.getLast?_eq_some_iff.mp ended
  exact (plain [] (pieces_append_slash front [] ▸
    List.mem_append_right _ List.mem_cons_self)).1 rfl

theorem posixText_eq (plain : Plain text) : posixText text = text := by
  have noRoot : rootText text = [] := by
    cases text with
    | nil => rfl
    | cons c text =>
        have notSlash : c ≠ '/' := fun isSlash => plain.head_ne (by rw [isSlash]; rfl)
        unfold rootText
        split
        all_goals simp_all
  have nonempty : pieces text ≠ [] := by
    rw [pieces_eq_splitOn]
    exact List.splitOn_ne_nil '/' text
  rw [posixText, if_pos noRoot, pathText, plain.pathParts_eq, if_neg nonempty,
    intercalate_pieces]

theorem append (plain : Plain text) {rest : List Char} (plainRest : Plain rest) :
    Plain (text ++ '/' :: rest) := by
  intro piece listed
  rw [pieces_append_slash] at listed
  exact (List.mem_append.mp listed).elim (plain piece) (plainRest piece)

end Plain

/-- Backslashes are replaced once. -/
theorem slashed_slashed (text : List Char) : slashed (slashed text) = slashed text := by
  rw [slashed, slashed, List.map_map]
  refine List.map_congr_left fun c _ => ?_
  simp only [Function.comp_apply]
  split <;> simp_all

/-! ### Folded names -/

namespace NameRules

variable (rules : NameRules)

theorem casefold_append (text rest : List Char) :
    rules.casefold (text ++ rest) = rules.casefold text ++ rules.casefold rest :=
  List.flatMap_append

theorem casefold_slash (text rest : List Char) :
    rules.casefold (text ++ '/' :: rest) =
      rules.casefold text ++ '/' :: rules.casefold rest := by
  have slash : rules.foldChar '/' = ['/'] := rules.foldChar_ascii '/' (by decide)
  rw [casefold, List.flatMap_append, List.flatMap_cons, slash]
  rfl

theorem slash_mem_casefold {text : List Char} : '/' ∈ rules.casefold text ↔ '/' ∈ text := by
  constructor
  · intro folded
    obtain ⟨c, listed, isSlash⟩ := List.mem_flatMap.mp folded
    exact rules.slash_of_mem c isSlash ▸ listed
  · intro listed
    refine List.mem_flatMap.mpr ⟨'/', listed, ?_⟩
    rw [rules.foldChar_ascii '/' (by decide)]
    exact List.mem_cons_self

/-- A slash in a folded text comes from a slash. -/
theorem casefold_eq_append_slash
    {text rest : List Char}
    (first : List Char)
    (plain : '/' ∉ first)
    (folded : rules.casefold text = first ++ '/' :: rest) :
    ∃ start tail, text = start ++ '/' :: tail ∧ '/' ∉ start ∧ rules.casefold start = first ∧
      rules.casefold tail = rest := by
  have listed : '/' ∈ text := by
    rw [← rules.slash_mem_casefold, folded]
    exact List.mem_append_right _ List.mem_cons_self
  obtain ⟨start, tail, rfl, plainStart⟩ := List.eq_append_cons_of_mem listed
  rw [casefold_slash] at folded
  refine ⟨start, tail, rfl, plainStart, ?_⟩
  rcases Joining.append_cons_eq_iff.mp folded with same | ⟨middle, isFirst, -⟩ | ⟨middle, isStart, -⟩
  · exact same
  · exact absurd (isFirst ▸ List.mem_append_right _ List.mem_cons_self) plain
  · refine absurd (rules.slash_mem_casefold.mp ?_) plainStart
    exact isStart ▸ List.mem_append_right _ List.mem_cons_self

end NameRules

variable {rules : NameRules} {entries : List Entry}

/-! ### What the parts of a package are not called -/

/-- The folder of the workbook inside of itself. -/
def nestedFolder : List Char := ['x', 'l', '/', 'x', 'l']

/-- A path with two folders named `xl` keeps them when it is composed. -/
theorem nestedFolder_prefix_casefold
    {start second tail : List Char}
    (plainStart : '/' ∉ start)
    (plainSecond : '/' ∉ second)
    (foldedStart : rules.casefold start = ['x', 'l'])
    (foldedSecond : rules.casefold second = ['x', 'l']) :
    nestedFolder <+: rules.casefold
      (rules.nfc (pathText (start ++ '/' :: (second ++ '/' :: tail)))) := by
  have kept : ∀ {piece}, rules.casefold piece = ['x', 'l'] →
      (piece ≠ [] && piece ≠ ['.']) = true := by
    intro piece folded
    rw [Bool.and_eq_true, decide_eq_true_eq, decide_eq_true_eq]
    constructor
    · rintro rfl
      cases folded
    · rintro rfl
      rw [rules.casefold_ascii (by simp)] at folded
      exact absurd folded (by decide)
  have composed : ∀ {piece}, rules.casefold piece = ['x', 'l'] →
      rules.casefold (rules.nfc piece) = ['x', 'l'] := fun {piece} folded =>
    (rules.fold_nfc piece (show ∀ c ∈ rules.casefold piece, c.toNat < 128 by
      simp [folded])).trans folded
  have parts : pathParts (start ++ '/' :: (second ++ '/' :: tail)) =
      start :: second :: pathParts tail := by
    rw [pathParts, pieces_append_slash, pieces_append_slash, pieces_of_plain plainStart,
      pieces_of_plain plainSecond, List.singleton_append, List.singleton_append,
      List.filter_cons, if_pos (kept foldedStart), List.filter_cons,
      if_pos (kept foldedSecond)]
    rfl
  rw [pathText, parts, if_neg (List.cons_ne_nil _ _), List.intercalate_cons_cons,
    List.append_assoc, List.singleton_append, rules.nfc_slash, rules.casefold_slash,
    composed foldedStart]
  cases pathParts tail with
  | nil =>
      rw [List.intercalate_singleton, composed foldedSecond]
      exact List.prefix_rfl
  | cons part parts =>
      rw [List.intercalate_cons_cons, List.append_assoc, List.singleton_append, rules.nfc_slash,
        rules.casefold_slash, composed foldedSecond]
      exact List.prefix_append nestedFolder _

/-- No part of a package is in a folder `xl` of the folder `xl`. -/
theorem foldedName_ne_nested
    {entry : Entry}
    (valid : validatePart rules entry = .ok ())
    (isFile : entry.isDir = false)
    (rest : List Char) : foldedName rules entry ≠ workbookFolder ++ (workbookFolder ++ rest) := by
  intro nested
  obtain ⟨start, middle, isName, plainStart, foldedStart, foldedMiddle⟩ :=
    rules.casefold_eq_append_slash ['x', 'l'] (by decide) nested
  obtain ⟨second, tail, rfl, plainSecond, foldedSecond, -⟩ :=
    rules.casefold_eq_append_slash ['x', 'l'] (by decide) foldedMiddle
  have isNested : nestedFolder <+:
      rules.casefold (rules.nfc (pathText (slashed entry.filename.toList))) := by
    rw [isName]
    exact nestedFolder_prefix_casefold plainStart plainSecond foldedStart foldedSecond
  rw [validatePart, isFile, if_neg (by decide)] at valid
  simp only [Checks.bind_eq_ok, Checks.require_eq_ok] at valid
  obtain ⟨name, safe, modeled⟩ := valid
  rw [safeMemberName_spec safe] at modeled
  rcases modeled with isExact | isSheet
  · have noneNested : (allowedExactParts.all fun part => !nestedFolder.isPrefixOf part) = true := by
      decide
    have notNested := List.all_eq_true.mp noneNested _ isExact
    rw [Bool.not_eq_true', ← Bool.not_eq_true, List.isPrefixOf_iff_prefix] at notNested
    exact notNested isNested
  · simp only [isWorksheetPart, Bool.and_eq_true, List.isPrefixOf_iff_prefix] at isSheet
    have same := List.prefix_of_prefix_length_le isNested isSheet.1.1.1 (by decide)
    exact absurd (List.isPrefixOf_iff_prefix.mpr same) (by decide)

/-! ### The two readers of one target -/

/-- What both readers make of a target. -/
theorem targets_agree
    {target : String}
    {path folded : List Char}
    (isPath : relationshipTarget target = .ok path)
    (isFolded : workbookTarget rules target = .ok folded) :
    Plain path ∧ slashed path = path ∧ (folded = rules.casefold path ∨
      ∃ rest, folded = workbookFolder ++ (workbookFolder ++ rest)) := by
  simp only [relationshipTarget] at isPath
  simp only [workbookTarget] at isFolded
  simp only [↓Checks.bind_done_eq_ok, Checks.require_eq_ok, Checks.pure_eq_ok] at isPath isFolded
  obtain ⟨-, -, isPath⟩ := isPath
  obtain ⟨-, plain, rfl⟩ := isFolded
  rw [intercalate_pieces]
  generalize isText : slashed target.toList = text at *
  have isSlashed : slashed text = text := isText ▸ slashed_slashed target.toList
  have plainText : Plain text := plain
  have folder : rules.casefold workbookFolder = workbookFolder := by
    rw [rules.casefold_ascii (by simp [workbookFolder])]
    decide
  rw [if_neg plainText.head_ne] at isPath
  by_cases rooted : workbookFolder.isPrefixOf text = true
  · rw [if_pos rooted, plainText.posixText_eq] at isPath
    obtain ⟨rest, rfl⟩ := List.isPrefixOf_iff_prefix.mp rooted
    refine ⟨isPath ▸ plainText, isPath ▸ isSlashed, .inr ⟨rules.casefold rest, ?_⟩⟩
    rw [rules.casefold_append, folder]
  · have plainName : Plain ['x', 'l'] := by
      unfold Plain
      decide
    have plainFolder : Plain (['x', 'l'] ++ '/' :: text) := plainName.append plainText
    rw [if_neg rooted, show workbookFolder ++ text = ['x', 'l'] ++ '/' :: text from rfl,
      plainFolder.posixText_eq] at isPath
    subst isPath
    refine ⟨plainFolder, ?_, .inl ?_⟩
    · rw [slashed, List.map_append, List.map_cons]
      exact congrArg _ (congrArg _ isSlashed)
    · rw [show ['x', 'l'] ++ '/' :: text = workbookFolder ++ text from rfl,
        rules.casefold_append, folder]

/-! ### The loops over the relationships -/

/-- What a loop over the relationships finds in the ones that it has seen. -/
structure TargetsOf (relations : List Relation) (targets : List (String × List Char)) : Prop where
  /-- An id is not used twice. -/
  nodup : (targets.map Prod.fst).Nodup
  /-- Every relationship with an id is there. -/
  listed : ∀ relation ∈ relations, relation.id ≠ "" →
    ∃ path, relationshipTarget relation.target = .ok path ∧ (relation.id, path) ∈ targets
  /-- Nothing else is there. -/
  sound : ∀ target ∈ targets, ∃ relation ∈ relations, relation.id = target.1 ∧
    relationshipTarget relation.target = .ok target.2

theorem TargetsOf.step
    {relations : List Relation}
    {relation : Relation}
    {targets next : List (String × List Char)}
    (before : TargetsOf relations targets)
    (stepped : targetStep targets relation = .ok next) :
    TargetsOf (relations ++ [relation]) next := by
  unfold targetStep at stepped
  split at stepped
  next unnamed =>
    obtain rfl := Checks.pure_eq_ok.mp stepped
    refine ⟨before.nodup, fun other listed named => ?_, fun target listed => ?_⟩
    · rcases List.mem_append.mp listed with earlier | last
      · exact before.listed other earlier named
      · exact absurd (List.mem_singleton.mp last ▸ unnamed) named
    · obtain ⟨other, earlier, same⟩ := before.sound target listed
      exact ⟨other, List.mem_append_left _ earlier, same⟩
  next named =>
    simp only [↓Checks.bind_done_eq_ok, Checks.bind_eq_ok, Checks.require_eq_ok,
      Checks.pure_eq_ok] at stepped
    obtain ⟨unseen, path, isPath, rfl⟩ := stepped
    refine ⟨?_, fun other listed otherNamed => ?_, fun target listed => ?_⟩
    · rw [List.map_append, List.map_singleton]
      exact List.nodup_append.mpr ⟨before.nodup, List.nodup_singleton _, by
        rintro id isBefore last isLast rfl
        have isNew : id = relation.id := List.mem_singleton.mp isLast
        exact unseen (isNew ▸ isBefore)⟩
    · rcases List.mem_append.mp listed with earlier | last
      · obtain ⟨otherPath, isOther, otherListed⟩ := before.listed other earlier otherNamed
        exact ⟨otherPath, isOther, List.mem_append_left _ otherListed⟩
      · obtain rfl := List.mem_singleton.mp last
        exact ⟨path, isPath, List.mem_append_right _ List.mem_cons_self⟩
    · rcases List.mem_append.mp listed with earlier | last
      · obtain ⟨other, isOther, same⟩ := before.sound target earlier
        exact ⟨other, List.mem_append_left _ isOther, same⟩
      · obtain rfl := List.mem_singleton.mp last
        exact ⟨relation, List.mem_append_right _ List.mem_cons_self, rfl, isPath⟩

theorem targetsOf_run
    {relations : List Relation}
    {targets : List (String × List Char)}
    (run : relations.foldlM targetStep [] = .ok targets) : TargetsOf relations targets := by
  have start : TargetsOf [] [] :=
    ⟨List.nodup_nil, fun _ listed => (by cases listed), fun _ listed => (by cases listed)⟩
  exact Collecting.foldlM_seen TargetsOf TargetsOf.step start run

/-- The validator has resolved the relationships that it has seen to names. -/
def Resolved (rules : NameRules) (names : List (List Char)) (relations : List Relation) : Prop :=
  ∀ relation ∈ relations, ∃ folded, workbookTarget rules relation.target = .ok folded ∧
    folded ∈ names

theorem Resolved.step
    {names : List (List Char)}
    {referencedIds : List String}
    {relations : List Relation}
    {relation : Relation}
    {state next : RelationState}
    (before : Resolved rules names relations)
    (stepped : relationStep rules names referencedIds state relation = .ok next) :
    Resolved rules names (relations ++ [relation]) := by
  simp only [relationStep] at stepped
  simp only [↓Checks.bind_done_eq_ok, Checks.bind_eq_ok, Checks.require_eq_ok] at stepped
  obtain ⟨-, folded, isFolded, ⟨isName, -⟩, -⟩ := stepped
  intro other listed
  rcases List.mem_append.mp listed with earlier | last
  · exact before other earlier
  · exact List.mem_singleton.mp last ▸ ⟨folded, isFolded, isName⟩

theorem resolved_run
    {names : List (List Char)}
    {referencedIds : List String}
    {relations : List Relation}
    {state final : RelationState}
    (run : relations.foldlM (relationStep rules names referencedIds) state = .ok final) :
    Resolved rules names relations := by
  have start : Resolved rules names [] := fun _ listed => by cases listed
  exact Collecting.foldlM_seen (fun seen _ => Resolved rules names seen) Resolved.step start run

/-! ### What has been checked -/

theorem sheetPath_spec
    {targets : List (String × List Char)}
    {id : String}
    {path : List Char}
    (isPath : sheetPath rules targets id = .ok path) :
    (id, path) ∈ targets ∧ "xl/worksheets/".toList.isPrefixOf (rules.casefold path) = true ∧
      ".xml".toList.isSuffixOf (rules.casefold path) = true := by
  simp only [sheetPath] at isPath
  simp only [↓Checks.bind_done_eq_ok, Checks.bind_eq_ok, Checks.requireSome_eq_ok,
    Checks.require_eq_ok, Checks.pure_eq_ok] at isPath
  obtain ⟨⟨other, found⟩, isFound, shape, rfl⟩ := isPath
  have same : other = id := by simpa using List.find?_some isFound
  exact ⟨same ▸ List.mem_of_find?_eq_some isFound, shape⟩

/-- The entries are found by the relationships of the sheets. -/
structure Found (rules : NameRules) (entries : List Entry) (relations : List Relation)
    (sheetIds : List String) : Prop where
  /-- A sheet has a path of the shape of a worksheet, and an entry has that path. -/
  entry : ∀ relation ∈ relations, relation.id ∈ sheetIds → relation.id ≠ "" →
    ∃ path entry, relationshipTarget relation.target = .ok path ∧
      "xl/worksheets/".toList.isPrefixOf (rules.casefold path) = true ∧
      ".xml".toList.isSuffixOf (rules.casefold path) = true ∧
      getinfo entries (String.ofList path) = some entry
  /-- Every worksheet of the archive is the target of a sheet. -/
  relation : ∀ entry ∈ entries, isWorksheet rules entry = true →
    ∃ relation ∈ relations, relation.id ∈ sheetIds ∧ ∃ path,
      relationshipTarget relation.target = .ok path ∧ rules.casefold path = foldedName rules entry

theorem found_of_sheetEntries
    {relations : List Relation}
    {sheetIds : List String}
    {read : List Entry}
    (isRead : sheetEntries rules entries relations sheetIds = .ok read) :
    Found rules entries relations sheetIds := by
  simp only [sheetEntries] at isRead
  simp only [↓Checks.bind_done_eq_ok, Checks.bind_eq_ok, Checks.require_eq_ok] at isRead
  obtain ⟨targets, run, paths, arePaths, -, ⟨worksheets, -⟩, areEntries⟩ := isRead
  have targetsOf := targetsOf_run run
  have eachPath := Checks.mapM_eq_ok.mp arePaths
  have eachEntry := Checks.mapM_eq_ok.mp areEntries
  constructor
  · intro relation listed isSheet named
    obtain ⟨path, isPath, isTarget⟩ := targetsOf.listed relation listed named
    obtain ⟨found, isFound, isSheetPath⟩ :=
      Checks.exists_left_of_mem (List.Forall₂.flip eachPath) isSheet
    obtain ⟨foundListed, shape⟩ := sheetPath_spec isSheetPath
    have same := congrArg Prod.snd
      (List.inj_on_of_nodup_map targetsOf.nodup isTarget foundListed rfl)
    obtain rfl : path = found := same
    obtain ⟨entry, -, isEntry⟩ := Checks.exists_left_of_mem (List.Forall₂.flip eachEntry) isFound
    exact ⟨path, entry, isPath, shape.1, shape.2, Checks.requireSome_eq_ok.mp isEntry⟩
  · intro entry listed isSheet
    obtain ⟨path, isFound, same⟩ := List.mem_map.mp (worksheets _
      (List.mem_map_of_mem (List.mem_filter.mpr ⟨listed, isSheet⟩)))
    obtain ⟨id, isId, isSheetPath⟩ := Checks.exists_left_of_mem eachPath isFound
    obtain ⟨relation, relationListed, isRelation, isPath⟩ :=
      targetsOf.sound _ (sheetPath_spec isSheetPath).1
    exact ⟨relation, relationListed, isRelation ▸ isId, path, isPath, same⟩

theorem resolved_of_validateRelationships
    {relations : List Relation}
    {sheetIds : List String}
    (valid : validateRelationships rules entries relations sheetIds = .ok ()) :
    (∀ id ∈ sheetIds, id ≠ "") ∧ Resolved rules
      ((entries.filter fun entry => !entry.isDir).map (foldedName rules)) relations := by
  simp only [validateRelationships] at valid
  simp only [↓Checks.bind_done_eq_ok, Checks.bind_eq_ok, Checks.require_eq_ok] at valid
  obtain ⟨⟨areIds, -⟩, state, run, -⟩ := valid
  refine ⟨?_, resolved_run run⟩
  rintro _ isId rfl
  exact absurd (areIds "" isId) (by decide)

/-- What the validator compares with the names is the folded path of the parser. -/
theorem eq_casefold_of_mem
    (parts : validatePackageParts rules entries = .ok ())
    {target : String}
    {path folded : List Char}
    (isPath : relationshipTarget target = .ok path)
    (isFolded : workbookTarget rules target = .ok folded)
    (isName : folded ∈ (entries.filter fun entry => !entry.isDir).map (foldedName rules)) :
    folded = rules.casefold path := by
  obtain ⟨-, -, same | ⟨rest, nested⟩⟩ := targets_agree isPath isFolded
  · exact same
  · simp only [validatePackageParts, Checks.bind_eq_ok] at parts
    obtain ⟨-, -, each⟩ := parts
    obtain ⟨entry, listed, rfl⟩ := List.mem_map.mp isName
    obtain ⟨isEntry, isFile⟩ := List.mem_filter.mp listed
    rw [Bool.not_eq_true'] at isFile
    exact absurd nested
      (foldedName_ne_nested (Checks.forM_eq_ok.mp each entry isEntry) isFile rest)

theorem isDir_of_isWorksheet
    {entry : Entry}
    (isSheet : isWorksheet rules entry = true) : entry.isDir = false := by
  simp only [isWorksheet, Bool.and_eq_true, Bool.not_eq_true'] at isSheet
  exact isSheet.1.1

/-- The entry that is read under the path of a sheet is a worksheet, and its folded
name is the folded path. -/
theorem isWorksheet_of_getinfo
    {path : List Char}
    {entry : Entry}
    (plain : Plain path)
    (isSlashed : slashed path = path)
    (shape : "xl/worksheets/".toList.isPrefixOf (rules.casefold path) = true ∧
      ".xml".toList.isSuffixOf (rules.casefold path) = true)
    (found : getinfo entries (String.ofList path) = some entry) :
    isWorksheet rules entry = true ∧ foldedName rules entry = rules.casefold path := by
  have named : entry.filename.toList = path := by
    rw [(getinfo_spec found).2, String.toList_ofList]
  have isFile : entry.isDir = false := by
    rw [Entry.isDir, named]
    exact decide_eq_false plain.getLast_ne
  rw [foldedName, isWorksheet, named, isSlashed, isFile, shape.1, shape.2]
  exact ⟨rfl, rfl⟩

/-! ### Agreement -/

/-- Both readers of the relationship of a sheet denote one entry of the archive. -/
def SheetsAgree (rules : NameRules) (entries : List Entry) (relations : List Relation)
    (sheetIds : List String) : Prop :=
  ∀ relation ∈ relations, relation.id ∈ sheetIds → ∃ path folded entry,
    relationshipTarget relation.target = .ok path ∧
    workbookTarget rules relation.target = .ok folded ∧
    getinfo entries (String.ofList path) = some entry ∧
    ∀ other, other ∈ entries ∧ other.isDir = false ∧ foldedName rules other = folded ↔
      other = entry

/-- In a workbook that is accepted, both readers of the relationships of its sheets
agree if and only if the names of its worksheets stay distinct when they are
folded. -/
theorem sheetsAgree_iff
    {relations : List Relation}
    {sheetIds : List String}
    {read : List Entry}
    (parts : validatePackageParts rules entries = .ok ())
    (valid : validateRelationships rules entries relations sheetIds = .ok ())
    (isRead : sheetEntries rules entries relations sheetIds = .ok read) :
    SheetsAgree rules entries relations sheetIds ↔
      ∀ entry ∈ entries, ∀ other ∈ entries, isWorksheet rules entry = true →
        isWorksheet rules other = true → foldedName rules entry = foldedName rules other →
          entry = other := by
  have found := found_of_sheetEntries isRead
  obtain ⟨named, resolved⟩ := resolved_of_validateRelationships valid
  constructor
  · intro agree entry listed other otherListed isSheet isOther same
    obtain ⟨relation, isRelation, isId, path, isPath, samePath⟩ :=
      found.relation entry listed isSheet
    obtain ⟨again, folded, denoted, isAgain, isFolded, -, only⟩ := agree relation isRelation isId
    obtain rfl := Except.ok.inj (isPath.symm.trans isAgain)
    obtain ⟨resolvedTo, isResolved, isName⟩ := resolved relation isRelation
    obtain rfl := Except.ok.inj (isFolded.symm.trans isResolved)
    have sameFolded := eq_casefold_of_mem parts isPath isFolded isName
    have first := (only entry).mp
      ⟨listed, isDir_of_isWorksheet isSheet, samePath.symm.trans sameFolded.symm⟩
    have second := (only other).mp ⟨otherListed, isDir_of_isWorksheet isOther,
      same.symm.trans (samePath.symm.trans sameFolded.symm)⟩
    exact first.trans second.symm
  · intro distinct relation isRelation isId
    obtain ⟨path, entry, isPath, starts, ends, isEntry⟩ :=
      found.entry relation isRelation isId (named _ isId)
    obtain ⟨folded, isFolded, isName⟩ := resolved relation isRelation
    have sameFolded := eq_casefold_of_mem parts isPath isFolded isName
    obtain ⟨plain, isSlashed, -⟩ := targets_agree isPath isFolded
    obtain ⟨isSheet, samePath⟩ :=
      isWorksheet_of_getinfo plain isSlashed ⟨starts, ends⟩ isEntry
    refine ⟨path, folded, entry, isPath, isFolded, isEntry, fun other => ⟨?_, ?_⟩⟩
    · rintro ⟨otherListed, isFile, otherName⟩
      have isOther : isWorksheet rules other = true := by
        rw [foldedName] at otherName
        rw [isWorksheet, otherName, sameFolded, isFile, starts, ends]
        rfl
      exact distinct other otherListed entry (getinfo_spec isEntry).1 isOther isSheet
        (otherName.trans (sameFolded.trans samePath.symm))
    · rintro rfl
      exact ⟨(getinfo_spec isEntry).1, isDir_of_isWorksheet isSheet,
        samePath.trans sameFolded.symm⟩

/-! ### Names that are folded to one -/

/-- A character before a composed text. -/
def joinAccent (c : Char) (text : List Char) : List Char :=
  if c = 's' ∧ text.head? = some '\u0301' then '\u015b' :: text.tail else c :: text

/-- Composition of the letter `s` with an acute accent. -/
def compose (text : List Char) : List Char := text.foldr joinAccent []

theorem joinAccent_of_ne
    {c : Char}
    (other : c ≠ 's')
    (text : List Char) : joinAccent c text = c :: text :=
  if_neg fun accented => other accented.1

theorem joinAccent_append
    (c : Char)
    (text rest : List Char) :
    joinAccent c (text ++ '/' :: rest) = joinAccent c text ++ '/' :: rest := by
  unfold joinAccent
  cases text with
  | nil => simp
  | cons d text =>
      rw [List.cons_append, List.head?_cons, List.head?_cons, List.tail_cons, List.tail_cons]
      split <;> rfl

theorem compose_slash (text rest : List Char) :
    compose (text ++ '/' :: rest) = compose text ++ '/' :: compose rest := by
  induction text with
  | nil => exact joinAccent_of_ne (c := '/') (by decide) (compose rest)
  | cons c text inductionHypothesis =>
      rw [compose, compose] at inductionHypothesis ⊢
      rw [List.cons_append, List.foldr_cons, inductionHypothesis, joinAccent_append]
      rfl

theorem compose_compose (text : List Char) : compose (compose text) = compose text := by
  induction text with
  | nil => rfl
  | cons c text inductionHypothesis =>
      change compose (joinAccent c (compose text)) = joinAccent c (compose text)
      by_cases accented : c = 's' ∧ (compose text).head? = some '\u0301'
      · obtain ⟨rest, isText⟩ := List.head?_eq_some_iff.mp accented.2
        have composedRest : joinAccent '\u0301' (compose rest) = '\u0301' :: rest := by
          rw [isText] at inductionHypothesis
          exact inductionHypothesis
        rw [joinAccent_of_ne (by decide)] at composedRest
        rw [joinAccent, if_pos accented, isText, List.tail_cons]
        change joinAccent '\u015b' (compose rest) = '\u015b' :: rest
        rw [joinAccent_of_ne (by decide), (List.cons.inj composedRest).2]
      · rw [joinAccent, if_neg accented]
        change joinAccent c (compose (compose text)) = c :: compose text
        rw [inductionHypothesis, joinAccent, if_neg accented]

theorem compose_eq_self
    {text : List Char}
    (plain : '\u0301' ∉ text) : compose text = text := by
  induction text with
  | nil => rfl
  | cons c text inductionHypothesis =>
      obtain ⟨-, plainRest⟩ := not_or.mp (mt List.mem_cons.mpr plain)
      change joinAccent c (compose text) = c :: text
      rw [inductionHypothesis plainRest, joinAccent, if_neg]
      rintro ⟨-, accent⟩
      exact plainRest (List.mem_of_head? accent)

/-- Names of ASCII characters, the sharp s and the letter `s` with an accent. -/
def accentNames : NameRules where
  nfc := compose
  foldChar c := if c = '\u00df' then ['s', 's'] else [c.toLower]
  nfc_nfc := compose_compose
  nfc_ascii text ascii :=
    compose_eq_self fun listed => absurd (ascii _ listed) (by decide)
  nfc_slash := compose_slash
  foldChar_ascii c small := if_neg (by
    rintro rfl
    exact absurd small (by decide))
  slash_of_mem c present := by
    split at present
    next => exact absurd present (by decide)
    next => exact eq_slash_of_toLower (List.mem_singleton.mp present).symm
  fold_nfc text small := by
    rw [compose_eq_self]
    intro listed
    exact absurd (small '\u0301' (List.mem_flatMap.mpr ⟨_, listed, by decide⟩)) (by decide)

/-- A worksheet of the name. -/
def worksheetNamed (filename : String) : Entry :=
  ⟨filename, .xml (.mk (spreadsheetTag "worksheet") [] "" [])⟩

/-- The relationship of a worksheet. -/
def worksheetRelation (target : String) : Relation :=
  ⟨"rId1", "http://schemas.openxmlformats.org/officeDocument/2006/relationships/worksheet", target⟩

theorem exists_sheetEntries_plain :
    ∃ read, sheetEntries accentNames [worksheetNamed "xl/worksheets/sheet1.xml"]
      [worksheetRelation "worksheets/sheet1.xml"] ["rId1"] = .ok read :=
  Checks.exists_eq_ok _ (by decide +kernel)

/-- Both readers agree about the sheet of a plain workbook. -/
theorem sheetsAgree_iff_plain :
    SheetsAgree accentNames [worksheetNamed "xl/worksheets/sheet1.xml"]
        [worksheetRelation "worksheets/sheet1.xml"] ["rId1"] ↔
      ∀ entry ∈ [worksheetNamed "xl/worksheets/sheet1.xml"],
        ∀ other ∈ [worksheetNamed "xl/worksheets/sheet1.xml"],
          isWorksheet accentNames entry = true → isWorksheet accentNames other = true →
            foldedName accentNames entry = foldedName accentNames other → entry = other := by
  obtain ⟨read, isRead⟩ := exists_sheetEntries_plain
  exact sheetsAgree_iff (by decide +kernel) (by decide +kernel) isRead

/-- Two worksheets whose names differ after they are composed and are folded to one. -/
def accentedEntries : List Entry :=
  [worksheetNamed "xl/worksheets/\u00df\u0301.xml", worksheetNamed "xl/worksheets/ss\u0301.xml"]

/-- The relationship of the first of them. -/
def accentedRelation : Relation := worksheetRelation "worksheets/\u00df\u0301.xml"

/-- The validator takes both worksheets for the target of the relationship. -/
theorem not_sheetsAgree_accented :
    validatePackageParts accentNames accentedEntries = .ok () ∧
      validateRelationships accentNames accentedEntries [accentedRelation] ["rId1"] = .ok () ∧
      (∃ read, sheetEntries accentNames accentedEntries [accentedRelation] ["rId1"] = .ok read) ∧
      ¬SheetsAgree accentNames accentedEntries [accentedRelation] ["rId1"] := by
  refine ⟨by decide +kernel, by decide +kernel, Checks.exists_eq_ok _ (by decide +kernel),
    fun agree => ?_⟩
  obtain ⟨-, folded, entry, -, isFolded, -, only⟩ :=
    agree accentedRelation List.mem_cons_self (by decide)
  have isTarget : workbookTarget accentNames accentedRelation.target =
      .ok "xl/worksheets/ss\u0301.xml".toList := by decide +kernel
  obtain rfl := Except.ok.inj (isTarget.symm.trans isFolded)
  have first := (only (worksheetNamed "xl/worksheets/\u00df\u0301.xml")).mp
    ⟨List.mem_cons_self, by decide +kernel, by decide +kernel⟩
  have second := (only (worksheetNamed "xl/worksheets/ss\u0301.xml")).mp
    ⟨List.mem_cons_of_mem _ List.mem_cons_self, by decide +kernel, by decide +kernel⟩
  have sameName := congrArg Entry.filename (first.trans second.symm)
  exact absurd sameName (by decide)

end Xlsx
end QuantumAnalytics
