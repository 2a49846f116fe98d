import QuantumAnalytics.Foundations.Checks

/-!
# Outcomes of computations

What a computation that may fail guarantees: a property of its result and the
failures that it permits.
-/

namespace QuantumAnalytics

/-- The computation has a good result or fails in a permitted way. -/
def Yields {ε α : Type} (permitted : ε → Prop) (good : α → Prop) : Except ε α → Prop
  | .ok result => good result
  | .error failure => permitted failure

namespace Yields

variable {ε α β : Type} {permitted : ε → Prop} {good : α → Prop}

theorem of_eq_ok
    {outcome : Except ε α}
    {result : α}
    (succeeded : outcome = .ok result)
    (isGood : good result) : Yields permitted good outcome := by
  rw [succeeded]
  exact isGood

/-- A chain guarantees what its rest guarantees after every good first result. -/
theorem bind
    {first : Except ε α}
    {rest : α → Except ε β}
    {final : β → Prop}
    (firstYields : Yields permitted good first)
    (restYields : ∀ value, first = .ok value → good value → Yields permitted final (rest value)) :
    Yields permitted final (first >>= rest) := by
  cases first with
  | error failure => exact firstYields
  | ok value => exact restYields value rfl firstYields

theorem map
    {outcome : Except ε α}
    {change : α → β}
    {final : β → Prop}
    (yields : Yields permitted good outcome)
    (changed : ∀ value, good value → final (change value)) :
    Yields permitted final (change <$> outcome) := by
  cases outcome with
  | error failure => exact yields
  | ok value => exact changed value yields

theorem imp
    {outcome : Except ε α}
    {other : ε → Prop}
    {final : α → Prop}
    (yields : Yields permitted good outcome)
    (failures : ∀ failure, permitted failure → other failure)
    (results : ∀ result, outcome = .ok result → good result → final result) :
    Yields other final outcome := by
  cases outcome with
  | error failure => exact failures failure yields
  | ok result => exact results result rfl yields

/-- Without permitted failures there is a good result. -/
theorem exists_ok
    {outcome : Except ε α}
    (yields : Yields permitted good outcome)
    (never : ∀ failure, ¬permitted failure) : ∃ result, outcome = .ok result ∧ good result := by
  cases outcome with
  | error failure => exact absurd yields (never failure)
  | ok result => exact ⟨result, rfl, yields⟩

end Yields
end QuantumAnalytics
