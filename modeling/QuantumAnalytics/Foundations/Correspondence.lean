import QuantumAnalytics.Foundations.Checks

/-!
# Correspondence of computations

Two computations correspond when both return related values or both raise the same error,
the first one as its image among its own errors. Chains of corresponding steps correspond.
-/

namespace QuantumAnalytics

variable {ε δ α β α' β' : Type}

/-- Two outcomes are related values, or an error and its image. -/
inductive Corresponds (raise : δ → ε) (same : α → β → Prop) : Except ε α → Except δ β → Prop
  | ok {left : α} {right : β} (isSame : same left right) :
      Corresponds raise same (.ok left) (.ok right)
  | error (failure : δ) : Corresponds raise same (.error (raise failure)) (.error failure)

namespace Corresponds

variable {raise : δ → ε} {same : α → β → Prop} {same' : α' → β' → Prop}

/-- Chains correspond when their first links do and what comes after related values does. -/
theorem bind
    {left : Except ε α}
    {right : Except δ β}
    {leftRest : α → Except ε α'}
    {rightRest : β → Except δ β'}
    (first : Corresponds raise same left right)
    (rest : ∀ leftValue rightValue, same leftValue rightValue →
      Corresponds raise same' (leftRest leftValue) (rightRest rightValue)) :
    Corresponds raise same' (left >>= leftRest) (right >>= rightRest) := by
  cases first with
  | ok isSame => exact rest _ _ isSame
  | error failure => exact .error failure

/-- Equivalent conditions are checked alike. -/
theorem require
    {leftCondition rightCondition : Prop}
    [Decidable leftCondition]
    [Decidable rightCondition]
    (iff : leftCondition ↔ rightCondition)
    (failure : δ) :
    Corresponds raise (fun _ _ => True) (QuantumAnalytics.require leftCondition (raise failure))
      (QuantumAnalytics.require rightCondition failure) := by
  by_cases holds : rightCondition
  · rw [QuantumAnalytics.require, QuantumAnalytics.require, if_pos holds, if_pos (iff.mpr holds)]
    exact .ok trivial
  · rw [QuantumAnalytics.require, QuantumAnalytics.require, if_neg holds,
      if_neg fun left => holds (iff.mp left)]
    exact .error failure

/-- What the second computation returns, the first one returns as well. -/
theorem exists_of_ok
    {left : Except ε α}
    {right : β}
    (corresponds : Corresponds raise same left (.ok right)) :
    ∃ value, left = .ok value ∧ same value right := by
  cases corresponds with
  | ok isSame => exact ⟨_, rfl, isSame⟩

end Corresponds
end QuantumAnalytics
