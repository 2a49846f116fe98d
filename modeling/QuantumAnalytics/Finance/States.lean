import QuantumAnalytics.Foundations.Severity
import QuantumAnalytics.Finance.Kernel

/-!
# States of values

The states in the order of their precedence, and what each step of the kernel
does to the state and the signature of a value. A value is made by a step from
values of known states, and its own state is the worst of these or that of the
first step that goes wrong.
-/

namespace QuantumAnalytics
namespace Finance

open Severity

/-! ### Precedence -/

namespace ValueState

/-- The place of a state in the order of precedence, from `VALID` up. -/
def severity : ValueState → Nat
  | valid => 0
  | nonvalid .empty => 1
  | nonvalid .unavailable => 2
  | nonvalid .blocked => 3
  | nonvalid .conflict => 4

theorem severity_injective : Function.Injective severity := by
  intro left right same
  rcases left with _ | left <;> rcases right with _ | right
  · rfl
  · cases right <;> cases same
  · cases left <;> cases same
  · cases left <;> cases right <;> first | rfl | cases same

instance : LinearOrder ValueState := LinearOrder.lift' severity severity_injective

instance : OrderBot ValueState where
  bot := valid
  bot_le := fun state => Nat.zero_le (severity state)

theorem bot_eq : (⊥ : ValueState) = valid := rfl

/-- A state without a value is above `VALID`. -/
@[simp] theorem nonvalid_ne_bot (state : NonvalidState) : nonvalid state ≠ ⊥ := nofun

/-- The earlier states of `_STATE_PRECEDENCE` are the worse ones. -/
theorem precedence_pairwise :
    NonvalidState.precedence.Pairwise fun left right => nonvalid right ≤ nonvalid left := by
  decide

end ValueState

/-- A rule that is broken blocks a value. -/
def blockedUnless (rule : Prop) [Decidable rule] : ValueState :=
  if rule then .valid else .nonvalid .blocked

theorem blockedUnless_eq_bot {rule : Prop} [Decidable rule] : blockedUnless rule = ⊥ ↔ rule := by
  unfold blockedUnless
  split <;> simp_all [ValueState.bot_eq]

theorem blockedUnless_congr
    {rule other : Prop}
    [Decidable rule]
    [Decidable other]
    (same : rule ↔ other) : blockedUnless rule = blockedUnless other := by
  simp only [blockedUnless, same]

/-! ### Constructors -/

namespace Value

@[simp] theorem state_eq_valid_iff {value : Value} :
    value.state = .valid ↔ ∃ payload, value.content = .valid payload := by
  unfold state
  cases value.content <;> simp

@[simp] theorem state_eq_nonvalid_iff {value : Value} {state : NonvalidState} :
    value.state = .nonvalid state ↔ ∃ reasonCode, value.content = .nonvalid state reasonCode := by
  unfold Value.state
  cases value.content <;> simp

theorem state_of_content
    {value : Value}
    {payload : Payload}
    (content : value.content = .valid payload) : value.state = .valid := by
  rw [state, content]

theorem state_of_nonvalid
    {value : Value}
    {state : NonvalidState}
    {reasonCode : String}
    (content : value.content = .nonvalid state reasonCode) : value.state = .nonvalid state := by
  rw [Value.state, content]

theorem payload?_eq_some_iff {value : Value} {payload : Payload} :
    value.payload? = some payload ↔ value.content = .valid payload := by
  unfold payload?
  cases value.content <;> simp

theorem payload?_eq_none_iff {value : Value} : value.payload? = none ↔ value.state ≠ .valid := by
  unfold payload? state
  cases value.content <;> simp

end Value

@[simp] theorem nonvalidValue_state
    (state : NonvalidState)
    (signature : Signature)
    (reasonCode : String)
    (sourceIds : List String)
    (present : reasonCode ≠ "") :
    (nonvalidValue state signature reasonCode sourceIds present).state = .nonvalid state := rfl

@[simp] theorem nonvalidValue_signature
    (state : NonvalidState)
    (signature : Signature)
    (reasonCode : String)
    (sourceIds : List String)
    (present : reasonCode ≠ "") :
    (nonvalidValue state signature reasonCode sourceIds present).signature = signature := rfl

/-! ### Propagation -/

/-- The states of some values. -/
def statesOf (values : List Value) : List ValueState := values.map Value.state

/-- The values of one state, in the order of `_propagate`. -/
def matchingValues (values : List Value) (state : NonvalidState) : List Value :=
  (values.filter fun value => value.state = .nonvalid state).insertionSort
    fun left right => propagatesBefore left right = true

theorem propagate_eq (values : List Value) (signature : Signature) :
    propagate values signature = NonvalidState.precedence.findSome? fun state =>
      (matchingValues values state).head?.map fun chosen =>
        inherit state chosen (matchingValues values state) signature := rfl

/-- Some value has a state when there are values of that state. -/
theorem mem_statesOf_iff {values : List Value} {state : NonvalidState} :
    .nonvalid state ∈ statesOf values ↔ (matchingValues values state).head? ≠ none := by
  rw [ne_eq, List.head?_eq_none_iff, ← List.length_eq_zero_iff, matchingValues,
    List.length_insertionSort, List.length_eq_zero_iff, List.filter_eq_nil_iff]
  simp [statesOf]

/-- A missing value inherits the worst of the states. -/
theorem state_of_propagate
    {values : List Value}
    {signature : Signature}
    {result : Value}
    (propagated : propagate values signature = some result) :
    result.state = worst (statesOf values) ∧ result.signature = signature := by
  rw [propagate_eq, List.findSome?_eq_some_iff] at propagated
  obtain ⟨before, state, after, split, found, notBefore⟩ := propagated
  obtain ⟨chosen, first, rfl⟩ := Option.map_eq_some_iff.mp found
  refine ⟨(worst_eq_of_greatest ?_ ?_).symm, rfl⟩
  · exact mem_statesOf_iff.mpr (by simp [first])
  · rintro (_ | other) present
    · exact bot_le
    · have order := ValueState.precedence_pairwise
      have member := NonvalidState.mem_precedence other
      rw [split] at order member
      rcases List.mem_append.mp member with earlier | later
      · have absent := notBefore other earlier
        rw [Option.map_eq_none_iff] at absent
        exact absurd absent (mem_statesOf_iff.mp present)
      · rcases List.mem_cons.mp later with rfl | later
        · exact le_rfl
        · exact List.rel_of_pairwise_cons (List.pairwise_append.mp order).2.1 later

/-- Nothing is inherited when all values are valid. -/
theorem propagate_eq_none_iff {values : List Value} {signature : Signature} :
    propagate values signature = none ↔ worst (statesOf values) = ⊥ := by
  rw [propagate_eq, List.findSome?_eq_none_iff, worst_eq_bot_iff]
  constructor
  · rintro absent (_ | state) present
    · rfl
    · have none := absent state (NonvalidState.mem_precedence state)
      rw [Option.map_eq_none_iff] at none
      exact absurd none (mem_statesOf_iff.mp present)
  · intro allValid state _
    rw [Option.map_eq_none_iff]
    by_contra present
    exact ValueState.nonvalid_ne_bot state (allValid _ (mem_statesOf_iff.mpr present))

/-- What is inherited is the worst state, which is not `VALID`. -/
theorem propagate_eq_some
    {values : List Value}
    {signature : Signature}
    {result : Value}
    (propagated : propagate values signature = some result) :
    worst (statesOf values) ≠ ⊥ ∧ result.state = worst (statesOf values) ∧
      result.signature = signature := by
  refine ⟨fun good => ?_, state_of_propagate propagated⟩
  rw [propagate_eq_none_iff.mpr good] at propagated
  cases propagated

end Finance
end QuantumAnalytics
