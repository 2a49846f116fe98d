import QuantumAnalytics.Xlsx.CellPositions
import QuantumAnalytics.Xlsx.Content
import QuantumAnalytics.Xlsx.SchemaAlternatives
import QuantumAnalytics.Xlsx.SharedStrings

/-!
# All text is read

A part that is accepted has no text in a place where it is not read. The items of
the table of shared strings show what is read of them, and a worksheet shows its
formulas and what is read of its cells, in order.
-/

namespace QuantumAnalytics
namespace Xlsx

open TextTree (IsBlank visible shows iter iterAll)

/-! ### Tags and blanks -/

theorem eq_of_append_eq
    {front first second : String}
    (same : front ++ first = front ++ second) : first = second := by
  have chars := congrArg String.toList same
  rw [String.toList_append, String.toList_append, List.append_cancel_left_eq] at chars
  exact String.toList_injective chars

theorem spreadsheetTag_injective : Function.Injective spreadsheetTag := by
  intro name other same
  exact eq_of_append_eq same

/-- A text that has only blanks. -/
theorem isBlank_of_hasText
    {text : String}
    (noText : hasText text = false) : IsBlank text := by
  rw [hasText, Bool.not_eq_false', List.isEmpty_iff] at noText
  rw [IsBlank, visible, List.filter_eq_nil_iff]
  intro c listed
  rw [all_of_stripWith_eq_nil noText c listed]
  decide

theorem isBlank_of_hasTexts
    {node : Node}
    (noTexts : hasTexts node = false) : IsBlank node.text ∧ IsBlank node.tail := by
  rw [hasTexts, Bool.or_eq_false_iff] at noTexts
  exact ⟨isBlank_of_hasText noTexts.1, isBlank_of_hasText noTexts.2⟩

/-! ### Texts that are joined -/

/-- The texts of the text nodes among some nodes. -/
def textsOf (nodes : List Node) : List Char :=
  (nodes.filter fun other => other.tag = spreadsheetTag "t").flatMap fun other => other.text.toList

@[simp] theorem textsOf_append (first second : List Node) :
    textsOf (first ++ second) = textsOf first ++ textsOf second := by
  rw [textsOf, List.filter_append, List.flatMap_append]
  rfl

theorem toList_joinedText (node : Node) : (joinedText node).toList = textsOf node.iter := by
  rw [joinedText, String.toList_ofList]
  rfl

/-- The text nodes of a node have all that it shows. -/
def IsJoined (node : Node) : Prop := visible (textsOf node.iter) = node.shows

theorem visible_textsOf_iterAll
    {nodes : List Node}
    (joined : ∀ node ∈ nodes, IsJoined node) :
    visible (textsOf (iterAll nodes)) = nodes.flatMap shows := by
  induction nodes with
  | nil => rfl
  | cons node nodes inductionHypothesis =>
      obtain ⟨first, rest⟩ := List.forall_mem_cons.mp joined
      rw [TextTree.iterAll, textsOf_append, TextTree.visible_append, first,
        inductionHypothesis rest, List.flatMap_cons]

/-- A node that is no text node has its texts in its children. -/
theorem isJoined_of_children
    {node : Node}
    (other : node.tag ≠ spreadsheetTag "t")
    (blankText : IsBlank node.text)
    (joined : ∀ child ∈ node.children, IsJoined child ∧ IsBlank child.tail) : IsJoined node := by
  rw [IsJoined, TextTree.shows_eq_flatMap blankText fun child listed => (joined child listed).2,
    ← visible_textsOf_iterAll fun child listed => (joined child listed).1, TextTree.iter_eq,
    textsOf, List.filter_cons_of_neg (by simpa using other)]
  rfl

/-! ### Strings -/

theorem isJoined_of_validateTextNode
    {node : Node}
    {code : String}
    (valid : validateTextNode node code = .ok ()) : IsJoined node ∧ IsBlank node.tail := by
  simp only [validateTextNode, ↓Checks.bind_done_eq_ok, Checks.require_eq_ok,
    List.isEmpty_iff] at valid
  obtain ⟨⟨isText, noChildren, noTail⟩, -⟩ := valid
  refine ⟨?_, isBlank_of_hasText noTail⟩
  rw [IsJoined, TextTree.shows_of_children_eq_nil noChildren, TextTree.iter_eq, noChildren,
    textsOf, TextTree.iterAll, List.filter_cons_of_pos (by simpa using isText)]
  simp

/-- The properties of a run have no text. -/
theorem isJoined_of_validateRichProperties
    {node : Node}
    {code : String}
    (valid : validateRichProperties node code = .ok ()) : IsJoined node ∧ IsBlank node.tail := by
  simp only [validateRichProperties, ↓Checks.bind_done_eq_ok, Checks.require_eq_ok,
    requireWhitespaceOnly, Checks.forM_eq_ok] at valid
  obtain ⟨⟨isProperties, -⟩, noTexts, properties⟩ := valid
  obtain ⟨blankText, blankTail⟩ := isBlank_of_hasTexts noTexts
  refine ⟨isJoined_of_children ?_ blankText fun child listed => ?_, blankTail⟩
  · rw [isProperties]
    exact fun same => absurd (spreadsheetTag_injective same) (by decide)
  · have property := properties child listed
    simp only [validateRichProperty, ↓Checks.bind_done_eq_ok, Checks.require_eq_ok,
      List.isEmpty_iff] at property
    obtain ⟨isProperty, ⟨noChildren, noTexts⟩, -⟩ := property
    obtain ⟨blankChild, blankBehind⟩ := isBlank_of_hasTexts noTexts
    refine ⟨isJoined_of_children ?_ blankChild (by simp [noChildren]), blankBehind⟩
    intro same
    obtain ⟨name, listedName, isName⟩ := List.mem_map.mp isProperty
    obtain rfl := spreadsheetTag_injective (isName.trans same)
    simp at listedName

theorem isJoined_of_validateRichRun
    {node : Node}
    {code : String}
    (valid : validateRichRun node code = .ok ()) : IsJoined node ∧ IsBlank node.tail := by
  simp only [validateRichRun, ↓Checks.bind_done_eq_ok, Checks.require_eq_ok,
    requireWhitespaceOnly] at valid
  obtain ⟨⟨isRun, -⟩, noTexts, parts⟩ := valid
  obtain ⟨blankText, blankTail⟩ := isBlank_of_hasTexts noTexts
  refine ⟨isJoined_of_children ?_ blankText ?_, blankTail⟩
  · rw [isRun]
    exact fun same => absurd (spreadsheetTag_injective same) (by decide)
  · cases children : node.children with
    | nil => simp
    | cons first rest =>
        rw [children] at parts
        dsimp only at parts
        split at parts
        next =>
          rw [Checks.bind_done_eq_ok] at parts
          cases rest with
          | nil => cases parts.2
          | cons only others =>
              cases others with
              | cons _ _ => cases parts.2
              | nil =>
                  intro child listed
                  rcases List.mem_pair.mp listed with rfl | rfl
                  · exact isJoined_of_validateRichProperties parts.1
                  · exact isJoined_of_validateTextNode parts.2
        next =>
          cases rest with
          | cons _ _ => cases parts
          | nil =>
              intro child listed
              obtain rfl := List.mem_singleton.mp listed
              exact isJoined_of_validateTextNode parts

/-- A string shows the texts that are joined of it. -/
theorem isJoined_of_validateStringContainer
    {node : Node}
    {code name : String}
    (isNode : node.tag = spreadsheetTag name)
    (other : name ≠ "t")
    (valid : validateStringContainer node code = .ok ()) : IsJoined node ∧ IsBlank node.tail := by
  simp only [validateStringContainer, ↓Checks.bind_done_eq_ok, Checks.require_eq_ok,
    requireWhitespaceOnly] at valid
  obtain ⟨-, noTexts, -, parts⟩ := valid
  obtain ⟨blankText, blankTail⟩ := isBlank_of_hasTexts noTexts
  refine ⟨isJoined_of_children ?_ blankText ?_, blankTail⟩
  · rw [isNode]
    exact fun same => other (spreadsheetTag_injective same)
  · split at parts
    next only single =>
      rw [single]
      intro child listed
      obtain rfl := List.mem_singleton.mp listed
      split at parts
      next => exact isJoined_of_validateTextNode parts
      next =>
        rw [Checks.bind_done_eq_ok] at parts
        exact isJoined_of_validateRichRun parts.2
    next =>
      rw [Checks.bind_done_eq_ok, Checks.forM_eq_ok] at parts
      exact fun child listed => isJoined_of_validateRichRun (parts.2 child listed)

/-! ### Elements -/

theorem element_tag (node : Node) : node.element.tag = node.tag := by
  cases node with
  | node label text tail children => rfl

theorem element_get
    (name : String)
    (node : Node) : node.element.get name = node.get name := by
  cases node with
  | node label text tail children => rfl

theorem elements_eq (nodes : List Node) : TextTree.elements nodes = nodes.map TextTree.element := by
  induction nodes with
  | nil => rfl
  | cons node nodes inductionHypothesis =>
      rw [TextTree.elements, inductionHypothesis, List.map_cons]

theorem element_children (node : Node) :
    node.element.children = node.children.map TextTree.element := by
  cases node with
  | node label text tail children => exact elements_eq children

theorem element_findall
    (tag : String)
    (node : Node) : node.element.findall tag = (node.findall tag).map TextTree.element := by
  rw [Element.findall, element_children, List.filter_map, TextTree.findall]
  refine congrArg (List.map _) (List.filter_congr fun child _ => ?_)
  rw [Function.comp_apply, element_tag]

mutual

theorem element_iter : (node : Node) → node.element.iter = node.iter.map TextTree.element
  | .node label text tail children => by
      rw [TextTree.element, Element.iter, elements_iterAll children, TextTree.iter, List.map_cons,
        TextTree.element]

theorem elements_iterAll : (nodes : List Node) →
    Element.iterAll (TextTree.elements nodes) = (iterAll nodes).map TextTree.element
  | [] => rfl
  | node :: nodes => by
      rw [TextTree.elements, Element.iterAll, element_iter node, elements_iterAll nodes,
        TextTree.iterAll, List.map_append]

end

/-! ### Cells -/

/-- The text of the formula of a cell. -/
def formulaText (cell : Node) : String :=
  ((cell.find? (spreadsheetTag "f")).map TextTree.text).getD ""

/-- A cell shows its formula and the text that is read of it, and a shared string is the
one that its text names. -/
structure CellRead (shared : List String) (cell : Node) (value : String) : Prop where
  text : cell.shows = visible (formulaText cell).toList ++ visible (storedText cell).toList ∨
    cell.shows = visible (storedText cell).toList ++ visible (formulaText cell).toList
  formula : hasText (formulaText cell) = true → validateFormulaText (formulaText cell) = true
  own : cell.get "t" ≠ some "s" → value = storedText cell
  named : cell.get "t" = some "s" → ∃ index : Nat,
    PyText.int? 10 (storedText cell) = some (index : Int) ∧ shared[index]? = some value

/-- What is known of a child of a cell. -/
theorem validateCellChild_spec
    {child : Node}
    (valid : validateCellChild child = .ok ()) :
    IsBlank child.tail ∧
      ((child.tag = spreadsheetTag "f" ∧ child.children = [] ∧
          (hasText child.text = true → validateFormulaText child.text = true)) ∨
        (child.tag = spreadsheetTag "v" ∧ child.children = []) ∨
        (child.tag = spreadsheetTag "is" ∧ IsJoined child)) := by
  rw [validateCellChild] at valid
  split at valid
  next isFormula =>
    simp only [validateFormulaElement, ↓Checks.bind_done_eq_ok, Checks.require_eq_ok,
      List.isEmpty_iff] at valid
    obtain ⟨⟨noChildren, noTail⟩, -, formula⟩ := valid
    refine ⟨isBlank_of_hasText noTail, .inl ⟨isFormula, noChildren, fun hasFormula => ?_⟩⟩
    rwa [if_pos hasFormula] at formula
  next =>
    split at valid
    next isValue =>
      rw [Checks.require_eq_ok, List.isEmpty_iff] at valid
      exact ⟨isBlank_of_hasText valid.2.2, .inr (.inl ⟨isValue, valid.2.1⟩)⟩
    next =>
      split at valid
      next isInline =>
        obtain ⟨joined, blank⟩ := isJoined_of_validateStringContainer isInline (by decide) valid
        exact ⟨blank, .inr (.inr ⟨isInline, joined⟩)⟩
      next => cases valid

/-- At most one item of each of two kinds: what a list gives is what the kinds give, in
one of the two orders. -/
theorem flatMap_of_few
    {α β : Type}
    {items : List α}
    {isFirst : α → Bool}
    (texts : α → List β)
    (few : (items.filter isFirst).length ≤ 1)
    (fewOther : (items.filter fun item => !isFirst item).length ≤ 1) :
    items.flatMap texts = (items.filter isFirst).flatMap texts ++
        (items.filter fun item => !isFirst item).flatMap texts ∨
      items.flatMap texts = (items.filter fun item => !isFirst item).flatMap texts ++
        (items.filter isFirst).flatMap texts := by
  cases items with
  | nil => exact .inl rfl
  | cons item items =>
      cases items with
      | nil => cases isItem : isFirst item <;> simp [isItem]
      | cons other items =>
          have sizes := List.length_eq_length_filter_add
            (l := item :: other :: items) isFirst
          obtain rfl : items = [] := by
            cases items with
            | nil => rfl
            | cons _ _ =>
                simp only [List.length_cons] at sizes
                omega
          clear sizes
          cases isItem : isFirst item <;> cases isOther : isFirst other <;>
            simp [isItem, isOther] at few fewOther ⊢

/-- The kinds of children of a cell whose structure was validated. -/
theorem validateCell_structure
    {sharedCount : Option Nat}
    {cell : Node}
    {used : Option Int}
    (valid : validateCell sharedCount cell.element = .ok used) :
    (cell.findall (spreadsheetTag "f")).length ≤ 1 ∧
      (cell.findall (spreadsheetTag "v")).length ≤ 1 ∧
      (cell.get "t" = some "inlineStr" → (cell.findall (spreadsheetTag "is")).length = 1 ∧
        cell.findall (spreadsheetTag "v") = []) ∧
      (cell.get "t" ≠ some "inlineStr" → cell.findall (spreadsheetTag "is") = []) := by
  simp only [validateCell, element_findall, element_get, List.length_map, List.map_eq_nil_iff]
    at valid
  simp only [↓Checks.bind_done_eq_ok, Checks.require_eq_ok] at valid
  obtain ⟨-, ⟨formulas, values, -⟩, ⟨inlined, plain⟩, -⟩ := valid
  exact ⟨formulas, values, inlined, plain⟩

/-- The first child of a kind is the first of all of the kind. -/
theorem find?_eq_head?
    (tag : String)
    (node : Node) : node.find? tag = (node.findall tag).head? := by
  rw [TextTree.find?, TextTree.findall, List.head?_filter]

/-- The children of a kind of which there is one at most show what the first shows. -/
theorem flatMap_shows_findall
    {tag : String}
    {node : Node}
    {shown : Node → String}
    (few : (node.findall tag).length ≤ 1)
    (each : ∀ child ∈ node.findall tag, child.shows = visible (shown child).toList) :
    (node.findall tag).flatMap shows = visible (((node.find? tag).map shown).getD "").toList := by
  rw [find?_eq_head?]
  cases found : node.findall tag with
  | nil => rfl
  | cons child rest =>
      rw [found] at few each
      obtain rfl : rest = [] := by
        cases rest with
        | nil => rfl
        | cons _ _ => simp at few
      rw [List.flatMap_cons, List.flatMap_nil, List.append_nil, each child List.mem_cons_self]
      rfl

/-- A cell that was validated is read. -/
theorem cellRead_of_valid
    {sharedCount : Option Nat}
    {shared : List String}
    {cell : Node}
    {used : Option Int}
    {value : String}
    (content : validateCellContent cell = .ok ())
    (structured : validateCell sharedCount cell.element = .ok used)
    (read : cellText shared cell = .ok value) : CellRead shared cell value := by
  simp only [validateCellContent, ↓Checks.bind_done_eq_ok, Checks.require_eq_ok,
    Checks.forM_eq_ok] at content
  obtain ⟨-, noTexts, children⟩ := content
  have blankText := (isBlank_of_hasTexts noTexts).1
  have kinds := fun child listed => validateCellChild_spec (children child listed)
  obtain ⟨formulas, values, inlined, plain⟩ := validateCell_structure structured
  have distinct : ∀ {name other : String}, name ≠ other →
      spreadsheetTag name ≠ spreadsheetTag other :=
    fun different same => different (spreadsheetTag_injective same)
  have ofFormula : ∀ child ∈ cell.findall (spreadsheetTag "f"),
      child.shows = visible child.text.toList ∧
        (hasText child.text = true → validateFormulaText child.text = true) := by
    intro child listed
    obtain ⟨isChild, isTag⟩ := List.mem_filter.mp listed
    rw [decide_eq_true_eq] at isTag
    rcases (kinds child isChild).2 with ⟨-, noChildren, formula⟩ | ⟨isValue, -⟩ | ⟨isInline, -⟩
    · exact ⟨TextTree.shows_of_children_eq_nil noChildren, formula⟩
    · exact absurd (isTag.symm.trans isValue) (distinct (by decide))
    · exact absurd (isTag.symm.trans isInline) (distinct (by decide))
  have ofValue : ∀ child ∈ cell.findall (spreadsheetTag "v"),
      child.shows = visible child.text.toList := by
    intro child listed
    obtain ⟨isChild, isTag⟩ := List.mem_filter.mp listed
    rw [decide_eq_true_eq] at isTag
    rcases (kinds child isChild).2 with ⟨isFormula, -⟩ | ⟨-, noChildren⟩ | ⟨isInline, -⟩
    · exact absurd (isTag.symm.trans isFormula) (distinct (by decide))
    · exact TextTree.shows_of_children_eq_nil noChildren
    · exact absurd (isTag.symm.trans isInline) (distinct (by decide))
  have ofInline : ∀ child ∈ cell.findall (spreadsheetTag "is"),
      child.shows = visible (joinedText child).toList := by
    intro child listed
    obtain ⟨isChild, isTag⟩ := List.mem_filter.mp listed
    rw [decide_eq_true_eq] at isTag
    rcases (kinds child isChild).2 with ⟨isFormula, -⟩ | ⟨isValue, -⟩ | ⟨-, joined⟩
    · exact absurd (isTag.symm.trans isFormula) (distinct (by decide))
    · exact absurd (isTag.symm.trans isValue) (distinct (by decide))
    · rw [toList_joinedText]
      exact joined.symm
  -- The children other than a formula are the ones that are read.
  have stored : ∃ tag shown, (cell.findall (spreadsheetTag tag)).length ≤ 1 ∧
      (cell.children.filter fun child => !decide (child.tag = spreadsheetTag "f")) =
        cell.findall (spreadsheetTag tag) ∧
      (∀ child ∈ cell.findall (spreadsheetTag tag), child.shows = visible (shown child).toList) ∧
      storedText cell = ((cell.find? (spreadsheetTag tag)).map shown).getD "" := by
    by_cases isInline : cell.get "t" = some "inlineStr"
    · obtain ⟨one, none⟩ := inlined isInline
      refine ⟨"is", joinedText, one.le, ?_, ofInline, by rw [storedText, if_pos isInline]⟩
      refine List.filter_congr fun child listed => ?_
      rcases (kinds child listed).2 with ⟨isTag, -⟩ | ⟨isTag, -⟩ | ⟨isTag, -⟩
      · simp [isTag, distinct (show "f" ≠ "is" by decide)]
      · have isValue : child ∈ cell.findall (spreadsheetTag "v") :=
          List.mem_filter.mpr ⟨listed, decide_eq_true isTag⟩
        rw [none] at isValue
        cases isValue
      · simp [isTag, distinct (show "is" ≠ "f" by decide)]
    · have none := plain isInline
      refine ⟨"v", TextTree.text, values, ?_, ofValue, by rw [storedText, if_neg isInline]⟩
      refine List.filter_congr fun child listed => ?_
      rcases (kinds child listed).2 with ⟨isTag, -⟩ | ⟨isTag, -⟩ | ⟨isTag, -⟩
      · simp [isTag, distinct (show "f" ≠ "v" by decide)]
      · simp [isTag, distinct (show "v" ≠ "f" by decide)]
      · have isChild : child ∈ cell.findall (spreadsheetTag "is") :=
          List.mem_filter.mpr ⟨listed, decide_eq_true isTag⟩
        rw [none] at isChild
        cases isChild
  obtain ⟨tag, shown, few, others, each, isStored⟩ := stored
  have formulaShows : (cell.findall (spreadsheetTag "f")).flatMap shows =
      visible (formulaText cell).toList :=
    flatMap_shows_findall formulas fun child listed => (ofFormula child listed).1
  refine ⟨?_, ?_, ?_, ?_⟩
  · rw [TextTree.shows_eq_flatMap blankText fun child listed => (kinds child listed).1, isStored,
      ← flatMap_shows_findall few each, ← formulaShows, ← others]
    exact flatMap_of_few shows formulas (by rw [others]; exact few)
  · intro hasFormula
    rw [formulaText, find?_eq_head?] at hasFormula ⊢
    cases found : cell.findall (spreadsheetTag "f") with
    | nil =>
        rw [found] at hasFormula
        exact absurd hasFormula (by decide)
    | cons child rest =>
        rw [found] at hasFormula
        exact (ofFormula child (by rw [found]; exact List.mem_cons_self)).2 hasFormula
  · intro notShared
    rw [cellText, if_neg notShared] at read
    exact (Except.ok.inj read).symm
  · intro isShared
    rw [cellText, if_pos isShared] at read
    simp only [↓Checks.bind_done_eq_ok, Checks.bind_eq_ok, Checks.requireSome_eq_ok,
      Checks.require_eq_ok] at read
    obtain ⟨index, isIndex, nonneg, isValue⟩ := read
    exact ⟨index.toNat, by rw [isIndex, Int.toNat_of_nonneg nonneg], isValue⟩

/-! ### Rows -/

/-- The cells of some rows, in document order. -/
def cellsBelow (rows : List Node) : List Node :=
  rows.flatMap fun row => row.findall (spreadsheetTag "c")

theorem length_findall_le
    (tag : String)
    (node : Node) : (node.findall tag).length ≤ (node.findallBelow tag).length :=
  ((TextTree.sublist_iterAll node.children).filter _).length_le

theorem length_cells_le_iterAll (nodes : List Node) :
    ((nodes.filter fun node => node.tag = spreadsheetTag "row").map fun row =>
        (row.findall (spreadsheetTag "c")).length).sum +
      (nodes.filter fun node => node.tag = spreadsheetTag "c").length ≤
    ((iterAll nodes).filter fun node => node.tag = spreadsheetTag "c").length := by
  induction nodes with
  | nil => simp
  | cons node nodes inductionHypothesis =>
      have below := length_findall_le (spreadsheetTag "c") node
      rw [TextTree.findallBelow] at below
      rw [TextTree.iterAll, TextTree.iter_eq, List.cons_append]
      by_cases isRow : node.tag = spreadsheetTag "row"
      · have notCell : node.tag ≠ spreadsheetTag "c" := by
          rw [isRow]
          exact fun same => absurd (spreadsheetTag_injective same) (by decide)
        rw [List.filter_cons_of_pos (by simpa using isRow),
          List.filter_cons_of_neg (by simpa using notCell),
          List.filter_cons_of_neg (by simpa using notCell), List.filter_append, List.length_append,
          List.map_cons, List.sum_cons]
        omega
      · rw [List.filter_cons_of_neg (by simpa using isRow)]
        by_cases isCell : node.tag = spreadsheetTag "c"
        · rw [List.filter_cons_of_pos (by simpa using isCell),
            List.filter_cons_of_pos (by simpa using isCell), List.length_cons, List.length_cons,
            List.filter_append, List.length_append]
          omega
        · rw [List.filter_cons_of_neg (by simpa using isCell),
            List.filter_cons_of_neg (by simpa using isCell), List.filter_append,
            List.length_append]
          omega

/-- The cells of rows and the cells beside rows are all among the cells below. -/
theorem length_cells_le (node : Node) :
    ((node.findall (spreadsheetTag "row")).map fun row =>
        (row.findall (spreadsheetTag "c")).length).sum +
      (node.findall (spreadsheetTag "c")).length ≤
    (node.findallBelow (spreadsheetTag "c")).length :=
  length_cells_le_iterAll node.children

theorem onlyOne_eq_ok
    {nodes : List Node}
    {code : String}
    {node : Node} : onlyOne nodes code = .ok node ↔ nodes = [node] := by
  unfold onlyOne
  split <;> simp_all

/-- What is known of the parts of a worksheet that was validated and of its rows. -/
structure SheetParts (root sheetData : Node) (rows : List Node) : Prop where
  isOnly : root.findall (spreadsheetTag "sheetData") = [sheetData]
  blank : IsBlank root.text
  blankData : IsBlank sheetData.text ∧ IsBlank sheetData.tail
  others : ∀ child ∈ root.children, child.tag ≠ spreadsheetTag "sheetData" →
    ∀ node ∈ child.iter, IsBlank node.text ∧ IsBlank node.tail
  isRows : sheetData.children = rows
  blankRows : ∀ row ∈ rows, IsBlank row.text ∧ IsBlank row.tail
  cells : ∀ row ∈ rows, ∀ cell ∈ row.children,
    cell.tag = spreadsheetTag "c" ∧ validateCellContent cell = .ok ()

/-- A worksheet has its cells in its rows and all other text is blank. -/
theorem sheetParts_of_valid
    {limits : XlsxInspectionLimits}
    {root : Node}
    {rows : List Node}
    (valid : validateWorksheetRoot root = .ok ())
    (read : sheetRows limits root = .ok rows) : ∃ sheetData, SheetParts root sheetData rows := by
  simp only [sheetRows, ↓Checks.bind_done_eq_ok, Checks.bind_eq_ok, Checks.require_eq_ok,
    onlyOne_eq_ok, Checks.pure_eq_ok, Checks.forM_eq_ok] at read
  obtain ⟨sheetData, isOnly, -, -, -, direct, -, -, isRows⟩ := read
  simp only [validateWorksheetRoot, ↓Checks.bind_done_eq_ok, Checks.bind_eq_ok,
    Checks.require_eq_ok, onlyOne_eq_ok, Checks.forM_eq_ok] at valid
  obtain ⟨-, ⟨-, noTexts⟩, -, -, other, isOther, children, ⟨-, noData⟩, dataChildren⟩ := valid
  obtain rfl : sheetData = other := (List.cons.inj (isOnly.symm.trans isOther)).1
  -- No cell is beside the rows, since their cells are all cells.
  have noCells : sheetData.findall (spreadsheetTag "c") = [] := by
    have counted := length_cells_le sheetData
    rw [direct] at counted
    rw [← List.length_eq_zero_iff]
    omega
  have areRows : ∀ row ∈ sheetData.children, row.tag = spreadsheetTag "row" ∧
      hasTexts row = false ∧ ∀ cell ∈ row.children, validateRowChild cell = .ok () := by
    intro row listed
    have checked := dataChildren row listed
    rw [validateSheetDataChild] at checked
    split at checked
    next isCell =>
      have isListed : row ∈ sheetData.findall (spreadsheetTag "c") :=
        List.mem_filter.mpr ⟨listed, decide_eq_true isCell⟩
      rw [noCells] at isListed
      cases isListed
    next =>
      simp only [↓Checks.bind_done_eq_ok, Checks.require_eq_ok, Checks.forM_eq_ok] at checked
      exact ⟨checked.1, checked.2.2.1, checked.2.2.2⟩
  have allRows : sheetData.children = rows := by
    rw [← isRows, TextTree.findall]
    exact (List.filter_eq_self.mpr fun row listed => decide_eq_true (areRows row listed).1).symm
  refine ⟨sheetData, isOnly, (isBlank_of_hasTexts noTexts).1, isBlank_of_hasTexts noData, ?_,
    allRows, ?_, ?_⟩
  · intro child listed isOtherTag node inside
    have checked := children child listed
    rw [validateWorksheetChild, if_neg isOtherTag] at checked
    simp only [validateNonSheetDataChild, ↓Checks.bind_done_eq_ok, Checks.require_eq_ok] at checked
    exact isBlank_of_hasTexts (checked.2.2.1 node inside)
  · rw [← allRows]
    exact fun row listed => isBlank_of_hasTexts (areRows row listed).2.1
  · rw [← allRows]
    intro row listed cell inside
    have checked := (areRows row listed).2.2 cell inside
    rw [validateRowChild] at checked
    split at checked
    next isCell => exact ⟨isCell, checked⟩
    next =>
      rw [Checks.bind_done_eq_ok] at checked
      cases checked.2

/-- The text behind a cell that was validated is blank. -/
theorem isBlank_of_validateCellContent
    {cell : Node}
    (valid : validateCellContent cell = .ok ()) : IsBlank cell.tail := by
  simp only [validateCellContent, ↓Checks.bind_done_eq_ok, Checks.require_eq_ok] at valid
  exact (isBlank_of_hasTexts valid.2.1).2

/-- A worksheet shows what its cells show. -/
theorem SheetParts.shows_eq
    {root sheetData : Node}
    {rows : List Node}
    (parts : SheetParts root sheetData rows) : root.shows = (cellsBelow rows).flatMap shows := by
  have dataShows : sheetData.shows = (cellsBelow rows).flatMap shows := by
    rw [TextTree.shows_eq_flatMap parts.blankData.1 (by
        rw [parts.isRows]
        exact fun row listed => (parts.blankRows row listed).2),
      parts.isRows, cellsBelow, List.flatMap_assoc]
    refine List.flatMap_congr fun row listed => ?_
    have isCell := parts.cells row listed
    have allCells : row.findall (spreadsheetTag "c") = row.children :=
      List.filter_eq_self.mpr fun cell inside => decide_eq_true (isCell cell inside).1
    rw [allCells]
    exact TextTree.shows_eq_flatMap (parts.blankRows row listed).1
      fun cell inside => isBlank_of_validateCellContent (isCell cell inside).2
  have nothing : ∀ child ∈ root.children, child.tag ≠ spreadsheetTag "sheetData" →
      child.shows = [] :=
    fun child listed other => TextTree.shows_eq_nil child (parts.others child listed other)
  have kept : root.children.flatMap shows =
      (root.findall (spreadsheetTag "sheetData")).flatMap shows := by
    rw [TextTree.findall]
    generalize root.children = children at nothing
    induction children with
    | nil => rfl
    | cons child children inductionHypothesis =>
        obtain ⟨first, rest⟩ := List.forall_mem_cons.mp nothing
        rw [List.flatMap_cons, inductionHypothesis rest]
        by_cases isData : child.tag = spreadsheetTag "sheetData"
        · rw [List.filter_cons_of_pos (by simpa using isData), List.flatMap_cons]
        · rw [List.filter_cons_of_neg (by simpa using isData), first isData, List.nil_append]
  rw [TextTree.shows_eq_flatMap parts.blank, kept, parts.isOnly, List.flatMap_cons,
    List.flatMap_nil, List.append_nil, dataShows]
  intro child listed
  by_cases isData : child.tag = spreadsheetTag "sheetData"
  · have isListed : child ∈ root.findall (spreadsheetTag "sheetData") :=
      List.mem_filter.mpr ⟨listed, decide_eq_true isData⟩
    rw [parts.isOnly] at isListed
    rw [List.mem_singleton.mp isListed]
    exact parts.blankData.2
  · exact (parts.others child listed isData child (TextTree.self_mem_iter child)).2

/-! ### What is read of a worksheet -/

/-- The cells that a worksheet is parsed of, and what is kept of them. -/
theorem parseSheet_spec
    {limits : XlsxInspectionLimits}
    {shared : List String}
    {root : Node}
    {parsed : ParsedWorksheet}
    (read : parseSheet limits shared root = .ok parsed) :
    ∃ rows, sheetRows limits root = .ok rows ∧
      List.Forall₂ (fun cell entry => Keeps (cellElement shared cell) entry) (cellsBelow rows)
        (entriesOf parsed.rows) := by
  simp only [parseSheet, parseWorksheet, Checks.bind_eq_ok, Checks.pure_eq_ok] at read
  obtain ⟨elements, ⟨rows, isRows, rfl⟩, read⟩ := read
  refine ⟨rows, isRows, ?_⟩
  have start : SheetState.Kept [] {} :=
    ⟨.nil, fun _ listed => absurd listed List.not_mem_nil, List.nodup_nil⟩
  split at read
  next => cases read
  next final run =>
    obtain rfl := Except.ok.inj read
    have kept := (Collecting.foldlM_seen SheetState.Kept SheetState.Kept.step start run).kept
    have same : cellsOf (rows.map (rowElement shared)) =
        (cellsBelow rows).map (cellElement shared) := by
      rw [cellsOf, cellsBelow, List.flatMap_map, List.map_flatMap]
      rfl
    rwa [same, List.forall₂_map_left_iff] at kept

/-- A cell of a row is an element of the worksheet. -/
theorem SheetParts.mem_iter
    {root sheetData cell : Node}
    {rows : List Node}
    (parts : SheetParts root sheetData rows)
    (listed : cell ∈ cellsBelow rows) :
    cell ∈ root.iter ∧ cell.tag = spreadsheetTag "c" ∧ validateCellContent cell = .ok () := by
  obtain ⟨row, isRow, isCell⟩ := List.mem_flatMap.mp listed
  have inRow := (List.mem_filter.mp isCell).1
  obtain ⟨isTag, valid⟩ := parts.cells row isRow cell inRow
  have child : ∀ {node other : Node}, other ∈ node.children → ∀ {below : Node},
      below ∈ other.iter → below ∈ node.iter := by
    intro node other isChild below inside
    rw [TextTree.iter_eq]
    exact List.mem_cons_of_mem _ (TextTree.mem_iterAll.mpr ⟨other, isChild, inside⟩)
  have isData : sheetData ∈ root.findall (spreadsheetTag "sheetData") := by
    rw [parts.isOnly]
    exact List.mem_singleton_self _
  have inData : row ∈ sheetData.children := by
    rw [parts.isRows]
    exact isRow
  exact ⟨child (List.mem_filter.mp isData).1 (child inData (child inRow
    (TextTree.self_mem_iter cell))), isTag, valid⟩

/-- The cells of a worksheet whose structures were validated. -/
theorem exists_validateCell
    {filename : String}
    {sharedCount : Option Nat}
    {root cell : Node}
    {used : List (Option Int)}
    (structured : validateWorksheet sharedCount ⟨filename, .xml root.element⟩ = .ok used)
    (listed : cell ∈ root.iter)
    (isCell : cell.tag = spreadsheetTag "c") :
    ∃ index, validateCell sharedCount cell.element = .ok index := by
  have checked := validateWorksheet_spec structured
  rw [Checks.mapM_eq_ok] at checked
  have isListed : cell.element ∈ cellsIn ⟨filename, .xml root.element⟩ := by
    rw [cellsIn]
    dsimp only
    rw [element_iter]
    refine List.mem_filter.mpr ⟨List.mem_map_of_mem listed, decide_eq_true ?_⟩
    rw [element_tag, isCell]
  obtain ⟨index, -, valid⟩ := Checks.exists_left_of_mem (List.Forall₂.flip checked) isListed
  exact ⟨index, valid⟩

/-- All text of a worksheet that is accepted is read: the worksheet shows what its cells
show, in order, each cell is kept under its position, and a cell shows its formula and
the text that is kept of it, or the index of the shared string that is kept. -/
theorem worksheet_text_is_read
    {limits : XlsxInspectionLimits}
    {shared : List String}
    {filename : String}
    {sharedCount : Option Nat}
    {root : Node}
    {used : List (Option Int)}
    {parsed : ParsedWorksheet}
    (content : validateWorksheetRoot root = .ok ())
    (structured : validateWorksheet sharedCount ⟨filename, .xml root.element⟩ = .ok used)
    (read : parseSheet limits shared root = .ok parsed) :
    ∃ cells : List Node, root.shows = cells.flatMap shows ∧
      List.Forall₂ (fun cell entry => Keeps (cellElement shared cell) entry ∧
        CellRead shared cell entry.2) cells (entriesOf parsed.rows) := by
  obtain ⟨rows, isRows, kept⟩ := parseSheet_spec read
  obtain ⟨sheetData, parts⟩ := sheetParts_of_valid content isRows
  refine ⟨cellsBelow rows, parts.shows_eq, ?_⟩
  have each := (List.forall₂_and_left _ _).mpr ⟨fun cell listed => parts.mem_iter listed, kept⟩
  refine each.imp fun cell entry => ?_
  rintro ⟨⟨inside, isCell, valid⟩, keeps⟩
  obtain ⟨index, isValid⟩ := exists_validateCell structured inside isCell
  have keeping := keeps
  obtain ⟨column, row, -, -, isText⟩ := keeping
  exact ⟨keeps, cellRead_of_valid valid isValid isText⟩

/-- An element without a text behind it. -/
def plainNode (name : String) (attributes : List (String × String)) (text : String)
    (children : List Node) : Node :=
  .node ⟨spreadsheetTag name, attributes⟩ text "" children

/-- A row with a text, a sum and a shared string. -/
def mixedRow : Node :=
  plainNode "row" [("r", "1")] ""
    [plainNode "c" [("r", "A1"), ("t", "inlineStr")] ""
      [plainNode "is" [] "" [plainNode "t" [] "net sales" []]],
      plainNode "c" [("r", "B1")] "" [plainNode "f" [] "SUM(C2:C9)" [], plainNode "v" [] "7" []],
      plainNode "c" [("r", "C1"), ("t", "s")] "" [plainNode "v" [] "0" []]]

/-- A worksheet of the row. -/
def mixedSheet : Node :=
  plainNode "worksheet" [] "\n" [plainNode "cols" [] "" [plainNode "col" [("min", "1")] "" []],
    plainNode "sheetData" [] " " [mixedRow]]

theorem exists_parseSheet_mixed :
    ∃ parsed, parseSheet narrowLimits ["total"] mixedSheet = .ok parsed :=
  Checks.exists_eq_ok _ (by decide +kernel)

/-- The cells of the row are read. -/
theorem worksheet_text_is_read_mixed :
    ∃ parsed, parseSheet narrowLimits ["total"] mixedSheet = .ok parsed ∧
      ∃ cells : List Node, mixedSheet.shows = cells.flatMap shows ∧
        List.Forall₂ (fun cell entry => Keeps (cellElement ["total"] cell) entry ∧
          CellRead ["total"] cell entry.2) cells (entriesOf parsed.rows) := by
  obtain ⟨parsed, isParsed⟩ := exists_parseSheet_mixed
  have structured : validateWorksheet (some 1)
      ⟨"xl/worksheets/sheet1.xml", .xml mixedSheet.element⟩ = .ok [none, none, some 0] := by
    decide +kernel
  exact ⟨parsed, isParsed, worksheet_text_is_read (by decide +kernel) structured isParsed⟩

/-! ### What is read of the table -/

/-- All text of a table of shared strings that is accepted is read: every child is an
item, and shows what is read of it. -/
theorem shared_text_is_read
    {root : Node}
    (valid : validateSharedStrings root = .ok ()) :
    root.shows = (sharedTexts root).flatMap (fun value => visible value.toList) ∧
      List.Forall₂ (fun item value => item.shows = visible value.toList) root.children
        (sharedTexts root) := by
  simp only [validateSharedStrings, ↓Checks.bind_done_eq_ok, Checks.require_eq_ok,
    Checks.forM_eq_ok] at valid
  obtain ⟨⟨-, noTexts⟩, -, items⟩ := valid
  have isItem : ∀ item ∈ root.children, item.tag = spreadsheetTag "si" ∧ IsJoined item ∧
      IsBlank item.tail := by
    intro item listed
    have checked := items item listed
    rw [validateSharedItem, Checks.bind_done_eq_ok, Checks.require_eq_ok] at checked
    exact ⟨checked.1, isJoined_of_validateStringContainer checked.1 (by decide) checked.2⟩
  have allItems : root.findall (spreadsheetTag "si") = root.children :=
    List.filter_eq_self.mpr fun item listed => decide_eq_true (isItem item listed).1
  have shown : ∀ item ∈ root.children, item.shows = visible (joinedText item).toList := by
    intro item listed
    rw [toList_joinedText]
    exact (isItem item listed).2.1.symm
  rw [sharedTexts, allItems]
  constructor
  · rw [TextTree.shows_eq_flatMap (isBlank_of_hasTexts noTexts).1 fun item listed =>
      (isItem item listed).2.2, List.flatMap_map]
    exact List.flatMap_congr shown
  · rw [List.forall₂_map_right_iff, List.forall₂_same]
    exact shown

/-- A table with a plain text and a text of two runs, one of which is bold. -/
def richTable : Node :=
  plainNode "sst" [("count", "2")] ""
    [plainNode "si" [] "" [plainNode "t" [] "total" []],
      plainNode "si" [] " " [plainNode "r" [] "" [plainNode "rPr" [] "" [plainNode "b" [] "" []],
        plainNode "t" [] "net" []], plainNode "r" [] "" [plainNode "t" [] " sales" []]]]

/-- The texts of the table are read. -/
theorem shared_text_is_read_rich :
    richTable.shows = (sharedTexts richTable).flatMap (fun value => visible value.toList) ∧
      List.Forall₂ (fun item value => item.shows = visible value.toList) richTable.children
        (sharedTexts richTable) :=
  shared_text_is_read (by decide +kernel)

end Xlsx
end QuantumAnalytics
