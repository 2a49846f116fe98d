import QuantumAnalytics.Foundations.PyText

/-!
# Trees with text

A parsed document is a tree whose nodes have a label, a text in front of their
children and a text behind themselves. What a node shows is the text of its whole
tree without blanks.
-/

namespace QuantumAnalytics

/-- A node with a label, the text before its children, the text behind it, and its children. -/
inductive TextTree (α : Type)
  | node (label : α) (text tail : String) (children : List (TextTree α))

namespace TextTree

variable {α : Type}

/-- The label of a node. -/
def label : TextTree α → α
  | node label _ _ _ => label

/-- The text before the children. -/
def text : TextTree α → String
  | node _ text _ _ => text

/-- The text behind a node. -/
def tail : TextTree α → String
  | node _ _ tail _ => tail

/-- The children of a node. -/
def children : TextTree α → List (TextTree α)
  | node _ _ _ children => children

mutual

/-- A node and all nodes below it, in document order. -/
def iter : TextTree α → List (TextTree α)
  | node label text tail children => node label text tail children :: iterAll children

/-- The nodes of some trees, in document order. -/
def iterAll : List (TextTree α) → List (TextTree α)
  | [] => []
  | tree :: trees => iter tree ++ iterAll trees

end

mutual

/-- All text inside of a node, in document order. -/
def allText : TextTree α → List Char
  | node _ text _ children => text.toList ++ textOfAll children

/-- All text inside of some trees and behind them. -/
def textOfAll : List (TextTree α) → List Char
  | [] => []
  | tree :: trees => allText tree ++ tree.tail.toList ++ textOfAll trees

end

/-! ### Blanks -/

/-- A text without its blanks. -/
def visible (text : List Char) : List Char := text.filter fun c => !PyText.isSpace c

@[simp] theorem visible_nil : visible [] = [] := rfl

@[simp] theorem visible_append (first second : List Char) :
    visible (first ++ second) = visible first ++ visible second := List.filter_append ..

/-- A text is blank when nothing of it is left. -/
def IsBlank (text : String) : Prop := visible text.toList = []

/-! ### What nodes show -/

/-- What a node shows. -/
def shows (tree : TextTree α) : List Char := visible tree.allText

theorem mem_iterAll
    {trees : List (TextTree α)}
    {other : TextTree α} : other ∈ iterAll trees ↔ ∃ tree ∈ trees, other ∈ tree.iter := by
  induction trees with
  | nil => simp [iterAll]
  | cons tree trees inductionHypothesis =>
      simp only [iterAll, List.mem_append, inductionHypothesis, List.exists_mem_cons_iff]

theorem self_mem_iter (tree : TextTree α) : tree ∈ tree.iter := by
  cases tree with
  | node label text tail children => exact List.mem_cons_self

theorem iter_eq (tree : TextTree α) : tree.iter = tree :: iterAll tree.children := by
  cases tree with
  | node label text tail children => rfl

/-- The children of some trees are among their nodes. -/
theorem sublist_iterAll (trees : List (TextTree α)) : trees.Sublist (iterAll trees) := by
  induction trees with
  | nil => exact List.Sublist.slnil
  | cons tree trees inductionHypothesis =>
      rw [iterAll, iter_eq, List.cons_append]
      exact (inductionHypothesis.trans (List.sublist_append_right _ _)).cons_cons _

/-- A node with a blank text whose children have blanks behind them shows what its
children show. -/
theorem visible_textOfAll
    {trees : List (TextTree α)}
    (blank : ∀ tree ∈ trees, IsBlank tree.tail) :
    visible (textOfAll trees) = trees.flatMap shows := by
  induction trees with
  | nil => rfl
  | cons tree trees inductionHypothesis =>
      obtain ⟨first, rest⟩ := List.forall_mem_cons.mp blank
      rw [textOfAll, visible_append, visible_append, first, List.append_nil,
        inductionHypothesis rest, List.flatMap_cons, shows]

theorem shows_eq_flatMap
    {tree : TextTree α}
    (blankText : IsBlank tree.text)
    (blankTails : ∀ child ∈ tree.children, IsBlank child.tail) :
    tree.shows = tree.children.flatMap shows := by
  cases tree with
  | node label text tail children =>
      have blank : visible text.toList = [] := blankText
      rw [shows, allText, visible_append, blank, List.nil_append]
      exact visible_textOfAll blankTails

/-- A node without children shows its text. -/
theorem shows_of_children_eq_nil
    {tree : TextTree α}
    (noChildren : tree.children = []) : tree.shows = visible tree.text.toList := by
  cases tree with
  | node label text tail children =>
      obtain rfl : children = [] := noChildren
      rw [shows, allText, textOfAll, List.append_nil]
      rfl

/-! ### Nothing but blanks -/

mutual

/-- A tree of blanks shows nothing. -/
theorem shows_eq_nil : (tree : TextTree α) →
    (∀ other ∈ tree.iter, IsBlank other.text ∧ IsBlank other.tail) → tree.shows = []
  | node label text tail children, blank => by
      rw [iter] at blank
      obtain ⟨first, rest⟩ := List.forall_mem_cons.mp blank
      have blankText : visible text.toList = [] := first.1
      rw [shows, allText, visible_append, blankText, List.nil_append]
      exact visible_textOfAll_eq_nil children rest

theorem visible_textOfAll_eq_nil : (trees : List (TextTree α)) →
    (∀ other ∈ iterAll trees, IsBlank other.text ∧ IsBlank other.tail) →
      visible (textOfAll trees) = []
  | [], _ => rfl
  | tree :: trees, blank => by
      rw [iterAll] at blank
      have inTree := fun other listed => blank other (List.mem_append_left _ listed)
      have inTrees := fun other listed => blank other (List.mem_append_right _ listed)
      have nothing := shows_eq_nil tree inTree
      rw [shows] at nothing
      rw [textOfAll, visible_append, visible_append, nothing, (inTree tree (self_mem_iter tree)).2,
        visible_textOfAll_eq_nil trees inTrees]
      rfl

end

end TextTree
end QuantumAnalytics
