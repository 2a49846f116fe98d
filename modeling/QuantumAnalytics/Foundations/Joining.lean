import Mathlib.Data.List.Basic

/-!
# Joined parts

Parts that are joined with a separator are not quoted, so a separator inside a
part looks like one between two parts. Two lists of parts are joined to the same
text exactly when they have the same pieces: what is left between separators,
inside of a part or not.
-/

namespace QuantumAnalytics
namespace Joining

variable {α : Type} [DecidableEq α] (separator : α)

/-- The parts of a text, cut at every separator. -/
def pieces (parts : List (List α)) : List (List α) := parts.flatMap (List.splitOn separator)

/-- What the joined text is cut into. -/
theorem splitOn_intercalate
    {parts : List (List α)}
    (nonempty : parts ≠ []) :
    ([separator].intercalate parts).splitOn separator = pieces separator parts := by
  induction parts with
  | nil => exact absurd rfl nonempty
  | cons part parts inductionHypothesis =>
      cases parts with
      | nil => simp [pieces]
      | cons next parts =>
          rw [List.intercalate_cons_cons, List.append_assoc, List.singleton_append,
            List.splitOn_append_cons_self, inductionHypothesis (List.cons_ne_nil next parts)]
          rfl

/-- The joined text of a list of parts is that of its pieces. -/
theorem intercalate_pieces
    {parts : List (List α)}
    (nonempty : parts ≠ []) :
    [separator].intercalate (pieces separator parts) = [separator].intercalate parts := by
  rw [← splitOn_intercalate separator nonempty, List.intercalate_splitOn]

/-- Two lists of parts have one joined text when they have the same pieces. -/
theorem intercalate_eq_iff
    {left right : List (List α)}
    (leftNonempty : left ≠ [])
    (rightNonempty : right ≠ []) :
    [separator].intercalate left = [separator].intercalate right ↔
      pieces separator left = pieces separator right := by
  constructor
  · intro same
    rw [← splitOn_intercalate separator leftNonempty, same,
      splitOn_intercalate separator rightNonempty]
  · intro same
    rw [← intercalate_pieces separator leftNonempty, same,
      intercalate_pieces separator rightNonempty]

/-- Parts without the separator are their own pieces. -/
theorem pieces_eq_self
    {parts : List (List α)}
    (plain : ∀ part ∈ parts, separator ∉ part) : pieces separator parts = parts := by
  induction parts with
  | nil => rfl
  | cons part parts inductionHypothesis =>
      obtain ⟨plainPart, plainRest⟩ := List.forall_mem_cons.mp plain
      have rest := inductionHypothesis plainRest
      rw [pieces] at rest ⊢
      rw [List.flatMap_cons, List.splitOn_eq_singleton plainPart, rest, List.singleton_append]

/-- When only the first part may hold the separator, the parts can be told apart. -/
theorem eq_of_pieces_eq_of_plain_tail
    {left right : List α}
    {leftRest rightRest : List (List α)}
    (sameLength : leftRest.length = rightRest.length)
    (leftPlain : ∀ part ∈ leftRest, separator ∉ part)
    (rightPlain : ∀ part ∈ rightRest, separator ∉ part)
    (same : pieces separator (left :: leftRest) = pieces separator (right :: rightRest)) :
    left :: leftRest = right :: rightRest := by
  have leftTail := pieces_eq_self separator leftPlain
  have rightTail := pieces_eq_self separator rightPlain
  rw [pieces] at leftTail rightTail
  rw [pieces, pieces, List.flatMap_cons, List.flatMap_cons, leftTail, rightTail] at same
  obtain ⟨first, rest⟩ := List.append_inj' same sameLength
  have joined := congrArg [separator].intercalate first
  rw [List.intercalate_splitOn, List.intercalate_splitOn] at joined
  rw [joined, rest]

omit [DecidableEq α] in
/-- Where two texts with a separator in them can differ when they are equal. -/
theorem append_cons_eq_iff
    {separator : α}
    {first rest otherFirst otherRest : List α} :
    first ++ separator :: rest = otherFirst ++ separator :: otherRest ↔
      first = otherFirst ∧ rest = otherRest ∨
      (∃ middle, otherFirst = first ++ separator :: middle ∧
        rest = middle ++ separator :: otherRest) ∨
      ∃ middle, first = otherFirst ++ separator :: middle ∧
        otherRest = middle ++ separator :: rest := by
  constructor
  · intro same
    rcases List.append_eq_append_iff.mp same with ⟨tail, isFirst, isRest⟩ | ⟨tail, isFirst, isRest⟩
    · cases tail with
      | nil =>
          simp only [List.append_nil, List.nil_append, List.cons.injEq, true_and] at isFirst isRest
          exact .inl ⟨isFirst.symm, isRest⟩
      | cons head middle =>
          simp only [List.cons_append, List.cons.injEq] at isRest
          obtain ⟨rfl, isRest⟩ := isRest
          exact .inr (.inl ⟨middle, isFirst, isRest⟩)
    · cases tail with
      | nil =>
          simp only [List.append_nil, List.nil_append, List.cons.injEq, true_and] at isFirst isRest
          exact .inl ⟨isFirst, isRest.symm⟩
      | cons head middle =>
          simp only [List.cons_append, List.cons.injEq] at isRest
          obtain ⟨rfl, isRest⟩ := isRest
          exact .inr (.inr ⟨middle, isFirst, isRest⟩)
  · rintro (⟨rfl, rfl⟩ | ⟨middle, rfl, rfl⟩ | ⟨middle, rfl, rfl⟩) <;> simp

end Joining
end QuantumAnalytics
