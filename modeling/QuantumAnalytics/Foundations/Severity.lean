import Mathlib.Order.BoundedOrder.Lattice
import Mathlib.Order.Lattice

/-!
# Severities

Outcomes ordered by their severity, with the good outcome at the bottom. The
outcome of several steps is either the worst of them, when all of them are
looked at, or that of the first step that goes wrong.
-/

namespace QuantumAnalytics
namespace Severity

variable {α : Type} [LinearOrder α] [OrderBot α]

/-- The greatest of the outcomes; the good one if there are none. -/
def worst (outcomes : List α) : α := outcomes.foldr (· ⊔ ·) ⊥

/-- The first outcome unless it is good. -/
def orNext (first second : α) : α := if first = ⊥ then second else first

@[simp] theorem worst_nil : worst ([] : List α) = ⊥ := rfl

@[simp] theorem worst_cons (outcome : α) (outcomes : List α) :
    worst (outcome :: outcomes) = outcome ⊔ worst outcomes := rfl

theorem worst_singleton (outcome : α) : worst [outcome] = outcome := by simp

@[simp] theorem worst_append (left right : List α) :
    worst (left ++ right) = worst left ⊔ worst right := by
  induction left with
  | nil => simp
  | cons outcome outcomes inductionHypothesis => simp [inductionHypothesis, sup_assoc]

/-- The worst outcome is good when all are. -/
theorem worst_eq_bot_iff {outcomes : List α} :
    worst outcomes = ⊥ ↔ ∀ outcome ∈ outcomes, outcome = ⊥ := by
  induction outcomes with
  | nil => simp
  | cons outcome outcomes inductionHypothesis => simp [inductionHypothesis]

theorem le_worst
    {outcome : α}
    {outcomes : List α}
    (present : outcome ∈ outcomes) : outcome ≤ worst outcomes := by
  induction present with
  | head => exact le_sup_left
  | tail _ _ inductionHypothesis => exact inductionHypothesis.trans le_sup_right

/-- The worst outcome is one of the outcomes, unless there are none. -/
theorem worst_mem {outcomes : List α} (bad : worst outcomes ≠ ⊥) : worst outcomes ∈ outcomes := by
  induction outcomes with
  | nil => exact absurd rfl bad
  | cons outcome outcomes inductionHypothesis =>
      rw [worst_cons] at bad ⊢
      rcases le_total outcome (worst outcomes) with below | above
      · rw [sup_eq_right.mpr below] at bad ⊢
        exact List.mem_cons_of_mem _ (inductionHypothesis bad)
      · rw [sup_eq_left.mpr above]
        exact List.mem_cons_self

/-- An outcome that occurs and that no other exceeds is the worst. -/
theorem worst_eq_of_greatest
    {outcome : α}
    {outcomes : List α}
    (present : outcome ∈ outcomes)
    (greatest : ∀ other ∈ outcomes, other ≤ outcome) : worst outcomes = outcome := by
  refine le_antisymm ?_ (le_worst present)
  by_cases good : worst outcomes = ⊥
  · rw [good]
    exact bot_le
  · exact greatest _ (worst_mem good)

@[simp] theorem orNext_bot (second : α) : orNext ⊥ second = second := if_pos rfl

theorem orNext_of_ne_bot {first : α} (bad : first ≠ ⊥) (second : α) : orNext first second = first :=
  if_neg bad

/-- Two steps go well when both do. -/
theorem orNext_eq_bot_iff {first second : α} : orNext first second = ⊥ ↔ first = ⊥ ∧ second = ⊥ := by
  unfold orNext
  split <;> simp_all

end Severity
end QuantumAnalytics
