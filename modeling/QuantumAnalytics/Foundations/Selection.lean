import Mathlib.Data.List.Sort

/-!
# Selection by a key

The elements of a list that are greatest under a key, found as a program finds
them: sort the list in descending order, take the key of the first element, and
keep every element with that key.
-/

namespace QuantumAnalytics
namespace Selection

variable {α β : Type} [LinearOrder β]

/-- The elements with the greatest key, in the order of the list. -/
def greatest (key : α → β) (elements : List α) : List α :=
  match elements.insertionSort fun left right => key right ≤ key left with
  | [] => []
  | best :: _ => elements.filter fun element => key element = key best

/-- The first element of a descending list has the greatest key. -/
theorem le_of_insertionSort_eq_cons
    {key : α → β}
    {elements rest : List α}
    {best : α}
    (sorted : elements.insertionSort (fun left right => key right ≤ key left) = best :: rest) :
    best ∈ elements ∧ ∀ element ∈ elements, key element ≤ key best := by
  have present : ∀ {element : α}, element ∈ elements ↔ element ∈ best :: rest := by
    intro element
    rw [← sorted]
    exact (List.mem_insertionSort _).symm
  have : Std.Total fun left right : α => key right ≤ key left := ⟨fun _ _ => le_total _ _⟩
  have : IsTrans α fun left right : α => key right ≤ key left :=
    ⟨fun _ _ _ first second => second.trans first⟩
  have descending := List.pairwise_insertionSort (fun left right : α => key right ≤ key left) elements
  rw [sorted, List.pairwise_cons] at descending
  refine ⟨present.mpr (by simp), ?_⟩
  intro element inList
  rcases List.mem_cons.mp (present.mp inList) with rfl | later
  · exact le_rfl
  · exact descending.1 element later

/-- Only the empty list sorts to the empty list. -/
private theorem eq_nil_of_insertionSort
    {before : α → α → Prop}
    [DecidableRel before]
    {elements : List α}
    (sorted : elements.insertionSort before = []) : elements = [] := by
  apply List.eq_nil_of_length_eq_zero
  rw [← List.length_insertionSort before elements, sorted, List.length_nil]

/-- The greatest elements are those that no element exceeds. -/
theorem greatest_eq_filter (key : α → β) (elements : List α) :
    greatest key elements =
      elements.filter fun element => ∀ other ∈ elements, key other ≤ key element := by
  unfold greatest
  split
  case h_1 sorted =>
    simp [eq_nil_of_insertionSort sorted]
  case h_2 best rest sorted =>
    obtain ⟨bestPresent, bound⟩ := le_of_insertionSort_eq_cons sorted
    apply List.filter_congr
    intro element present
    have same : key element = key best ↔ ∀ other ∈ elements, key other ≤ key element := by
      constructor
      · intro equal other inList
        rw [equal]
        exact bound other inList
      · intro greatest
        exact le_antisymm (bound element present) (greatest best bestPresent)
    simp only [same]

end Selection
end QuantumAnalytics
