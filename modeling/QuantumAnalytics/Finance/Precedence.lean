import QuantumAnalytics.Finance.FailClosed

/-!
# Precedence of missing states

A metric without a value should have the worst of the states of its mandatory
dependencies. The kernel looks at some dependencies only after others, so a
state that is found first can hide a worse one. This module says for which
requests no state is hidden.
-/

namespace QuantumAnalytics
namespace Finance

open Severity

/-- A state is the highest in the order of precedence among the states of the
dependencies, if one of these is not `VALID`. -/
def FollowsPrecedence (state : ValueState) (dependencies : List ValueState) : Prop :=
  (∃ dependency ∈ dependencies, dependency ≠ .valid) →
    state ∈ dependencies ∧ ∀ dependency ∈ dependencies, dependency ≤ state

/-- The highest state is the worst one. -/
theorem followsPrecedence_iff {state : ValueState} {dependencies : List ValueState} :
    FollowsPrecedence state dependencies ↔
      worst dependencies = ⊥ ∨ state = worst dependencies := by
  have missing : (∃ dependency ∈ dependencies, dependency ≠ .valid) ↔ worst dependencies ≠ ⊥ := by
    rw [ne_eq, worst_eq_bot_iff]
    push Not
    rfl
  unfold FollowsPrecedence
  rw [missing]
  constructor
  · intro follows
    by_cases good : worst dependencies = ⊥
    · exact .inl good
    · obtain ⟨present, highest⟩ := follows good
      exact .inr (worst_eq_of_greatest present highest).symm
  · rintro (good | rfl) bad
    · exact absurd good bad
    · exact ⟨worst_mem bad, fun _ => le_worst⟩

/-- Looking at a first group of states and a rule before the rest follows the
precedence of all states exactly when a missing state of the group is not
exceeded, and a broken rule meets no other missing state than `BLOCKED`. -/
theorem followsPrecedence_guarded_iff
    {first rest : List ValueState}
    {rule : Prop}
    [Decidable rule] :
    FollowsPrecedence (orNext (orNext (worst first) (blockedUnless rule)) (worst rest))
        (first ++ rest) ↔
      (worst first ≠ .valid → worst rest ≤ worst first) ∧
        (worst first = .valid → ¬rule → worst rest ∈ [.valid, .nonvalid .blocked]) := by
  rw [followsPrecedence_iff, worst_append, ← ValueState.bot_eq]
  by_cases good : worst first = ⊥
  · rw [good, orNext_bot, bot_sup_eq]
    by_cases kept : rule
    · rw [blockedUnless_eq_bot.mpr kept, orNext_bot]
      simp [kept]
    · have blocked : blockedUnless rule = .nonvalid .blocked := if_neg kept
      rw [blocked, orNext_of_ne_bot (ValueState.nonvalid_ne_bot _)]
      simp [kept, eq_comm]
  · have bad : worst first ⊔ worst rest ≠ ⊥ := fun both => good (sup_eq_bot_iff.mp both).1
    rw [orNext_of_ne_bot good, orNext_of_ne_bot good]
    simp only [bad, false_or, ne_eq, good, not_false_eq_true, true_imp_iff, false_imp_iff, and_true,
      left_eq_sup]

/-! ### Conflicts -/

namespace ValueState

/-- No state is worse than a conflict. -/
theorem le_conflict (state : ValueState) : state ≤ nonvalid .conflict := by
  rcases state with _ | state
  · decide
  · cases state <;> decide

theorem worst_eq_conflict_iff {states : List ValueState} :
    worst states = nonvalid .conflict ↔ nonvalid .conflict ∈ states := by
  constructor
  · intro conflict
    rw [← conflict]
    exact worst_mem (by simp [conflict])
  · intro present
    exact worst_eq_of_greatest present fun other _ => le_conflict other

theorem orNext_eq_conflict_iff {first second : ValueState} :
    orNext first second = nonvalid .conflict ↔
      first = nonvalid .conflict ∨ first = ⊥ ∧ second = nonvalid .conflict := by
  unfold orNext
  split <;> simp_all

theorem blockedUnless_ne_conflict (rule : Prop) [Decidable rule] :
    blockedUnless rule ≠ nonvalid .conflict := by
  unfold blockedUnless
  split <;> simp

/-- A blocked dependency is the worst one unless the other is in conflict. -/
theorem followsPrecedence_blocked_iff {other : ValueState} :
    FollowsPrecedence (nonvalid .blocked) [other, nonvalid .blocked] ↔
      other ≠ nonvalid .conflict := by
  rw [followsPrecedence_iff]
  rcases other with _ | state
  · decide
  · cases state <;> decide

/-- The order of two dependencies does not matter. -/
theorem followsPrecedence_swap {state first second : ValueState} :
    FollowsPrecedence state [first, second] ↔ FollowsPrecedence state [second, first] := by
  simp only [followsPrecedence_iff, worst_cons, worst_nil, sup_bot_eq, sup_comm]

/-- A valid dependency that is taken for a blocked one changes the state unless
the other dependency is valid, or no better than a blocked one. -/
theorem followsPrecedence_taken_iff {other : ValueState} :
    FollowsPrecedence (worst [other, nonvalid .blocked]) [other, valid] ↔
      other ∈ [valid, nonvalid .blocked, nonvalid .conflict] := by
  rw [followsPrecedence_iff]
  rcases other with _ | state
  · decide
  · cases state <;> decide

end ValueState

namespace KernelRequest

variable (request : KernelRequest)

/-! ### Dependencies -/

/-- What the product cost depends on. -/
def costDependencies : List ValueState := request.returnStates ++ [stateOf request.statedCost?]

/-- What the income depends on. -/
def incomeDependencies : List ValueState :=
  [request.unitState "compensated_returned_units",
    request.amountState "return_compensation_amount"] ++ incomeNames.map request.amountState

/-- The published state of the tax base, or that of the input under its name. -/
def baseDependency (results : KernelResults) : ValueState :=
  if request.taxBaseMetricId = "other_expense_amount" then
    results.otherExpenseAmount.value.state
  else if request.taxBaseMetricId = "product_cost_amount" then
    results.productCostAmount.value.state
  else if request.taxBaseMetricId = "net_marketplace_income_amount" then
    results.netMarketplaceIncomeAmount.value.state
  else request.amountState request.taxBaseMetricId

end KernelRequest

/-- Every metric has the highest state of its dependencies. -/
structure StatesFollowPrecedence (request : KernelRequest) (results : KernelResults) : Prop where
  /-- The net units. -/
  netSoldUnits : FollowsPrecedence results.netSoldUnits.value.state request.soldStates
  /-- The product cost. -/
  productCost : FollowsPrecedence results.productCostAmount.value.state request.costDependencies
  /-- The income. -/
  income : FollowsPrecedence results.netMarketplaceIncomeAmount.value.state
    request.incomeDependencies
  /-- The tax. -/
  tax : FollowsPrecedence results.taxAmount.value.state
    [stateOf request.statedRate?, request.baseDependency results]
  /-- The profit. -/
  profit : FollowsPrecedence results.netProfitAmount.value.state
    [results.netMarketplaceIncomeAmount.value.state, results.productCostAmount.value.state,
      results.otherExpenseAmount.value.state, results.taxAmount.value.state]

/-! ### Requests that hide no state -/

namespace KernelRequest

variable (request : KernelRequest)

/-- The cost per unit is not worse than a missing number of items, and returns
that do not split meet no other missing state than `BLOCKED`. -/
structure CostInOrder : Prop where
  /-- Missing items come first. -/
  items : worst request.returnStates ≠ .valid →
    stateOf request.statedCost? ≤ worst request.returnStates
  /-- Returns that do not split come first. -/
  returns : worst request.returnStates = .valid → ¬request.ReturnsSplit →
    stateOf request.statedCost? ∈ [.valid, .nonvalid .blocked]

/-- The nine amounts are not worse than a missing compensation or number of
compensated items, and a compensation that breaks its rules meets no missing
state that `BLOCKED` would hide or exceed. -/
structure IncomeInOrder : Prop where
  /-- A missing compensation comes first. -/
  missing : request.CompensationAgrees →
    worst [request.unitState "compensated_returned_units",
      request.amountState "return_compensation_amount"] ≠ .valid →
    worst (incomeNames.map request.amountState) ≤
      worst [request.unitState "compensated_returned_units",
        request.amountState "return_compensation_amount"]
  /-- A negative number of compensated items comes first. -/
  uncounted : request.CompensationAgrees → ¬request.CompensatedCounts →
    worst [request.unitState "compensated_returned_units",
      request.amountState "return_compensation_amount"] = .valid →
    worst (incomeNames.map request.amountState) ∈ [.valid, .nonvalid .blocked]
  /-- A compensation that contradicts the compensated items is blocked. -/
  contradicted : ¬request.CompensationAgrees →
    worst (request.unitState "compensated_returned_units" ::
      incomeNames.map request.amountState) = .valid ∨
    worst (request.unitState "compensated_returned_units" ::
      incomeNames.map request.amountState) =
        worst [request.unitState "compensated_returned_units", .nonvalid .blocked]

/-- Some number of items is in conflict, or all are known and their cost is. -/
def CostConflicts : Prop :=
  .nonvalid .conflict ∈ request.returnStates ∨
    worst request.returnStates = .valid ∧ request.ReturnsSplit ∧
      stateOf request.statedCost? = .nonvalid .conflict

/-- The compensation is in conflict, or it is known and some amount is. -/
def IncomeConflicts : Prop :=
  request.unitState "compensated_returned_units" = .nonvalid .conflict ∨
    request.amountState "return_compensation_amount" = .nonvalid .conflict ∨
    request.HasCompensation ∧ .nonvalid .conflict ∈ incomeNames.map request.amountState

/-- All components have admitted signatures, and one of them is in conflict, or
one is stated per item and a number of sold or returned items is. -/
def OtherExpenseConflicts : Prop :=
  ∃ item items, request.otherExpenseComponents = .arr (item :: items) ∧
    (∀ component ∈ item :: items, (statedExpense? request.currency component).isSome = true) ∧
    ∃ component ∈ item :: items, ∃ expense ∈ statedExpense? request.currency component,
      expense.state = .nonvalid .conflict ∨
        expense.signature.unit = "MONEY_PER_ITEM" ∧ .nonvalid .conflict ∈ request.soldStates

/-- The tax base is in conflict. -/
def BaseConflicts : Prop :=
  if request.taxBaseMetricId = "other_expense_amount" then request.OtherExpenseConflicts
  else if request.taxBaseMetricId = "product_cost_amount" then request.CostConflicts
  else if request.taxBaseMetricId = "net_marketplace_income_amount" then request.IncomeConflicts
  else request.amountState request.taxBaseMetricId = .nonvalid .conflict

/-- The tax base is an input that is missing or is no amount. -/
def BaseMissing : Prop :=
  request.taxBaseMetricId ≠ "other_expense_amount" ∧
    request.taxBaseMetricId ≠ "product_cost_amount" ∧
    request.taxBaseMetricId ≠ "net_marketplace_income_amount" ∧
    request.stated? request.taxBaseMetricId (.amount request.currency) = none

/-- A missing rate or base meets no conflict of the other one, and a rate on a
contradictory return compensation is not missing in a lesser way than
`BLOCKED`. -/
structure TaxInOrder : Prop where
  /-- A missing rate hides a conflict of the base. -/
  rate : request.statedRate? = none → ¬request.BaseConflicts
  /-- A missing base hides a conflict of the rate. -/
  base : request.BaseMissing → stateOf request.statedRate? ≠ .nonvalid .conflict
  /-- A contradictory compensation is blocked although it is stated. -/
  contradicted : request.taxBaseMetricId = "return_compensation_amount" →
    ¬request.CompensationAgrees → ∀ rate ∈ request.statedRate?,
      rate.state ∈ [.valid, .nonvalid .blocked, .nonvalid .conflict]

/-- No state is hidden. -/
structure InOrder : Prop where
  /-- By the product cost. -/
  cost : request.CostInOrder
  /-- By the income. -/
  income : request.IncomeInOrder
  /-- By the tax. -/
  tax : request.TaxInOrder

end KernelRequest

namespace KernelRequest

variable {request : KernelRequest}

/-! ### Cost and income -/

theorem cost_followsPrecedence_iff :
    FollowsPrecedence request.costState request.costDependencies ↔ request.CostInOrder := by
  have guarded : FollowsPrecedence
      (orNext (orNext (worst request.returnStates) (blockedUnless request.ReturnsSplit))
        (worst [stateOf request.statedCost?]))
      (request.returnStates ++ [stateOf request.statedCost?]) ↔ _ := followsPrecedence_guarded_iff
  rw [worst_singleton] at guarded
  rw [costState, costDependencies, guarded]
  exact ⟨fun both => ⟨both.1, both.2⟩, fun order => ⟨order.items, order.returns⟩⟩

/-- A contradictory compensation is valid as stated, and blocked when used. -/
theorem states_of_disagreement (disagrees : ¬request.CompensationAgrees) :
    request.amountState "return_compensation_amount" = ⊥ ∧
      request.usedState "return_compensation_amount" = .nonvalid .blocked := by
  constructor
  · rw [amountState_eq_bot_iff]
    by_contra absent
    refine disagrees (compensationAgrees_of_none ?_)
    rw [Option.eq_none_iff_forall_ne_some]
    exact fun amount present => absent ⟨amount, present⟩
  · rw [usedState, usable?, if_pos ⟨rfl, rfl, disagrees⟩]
    rfl

theorem usedState_of_agreement
    (agrees : request.CompensationAgrees)
    (name : String) : request.usedState name = request.amountState name := by
  rw [usedState, amountState, usable?, if_neg fun all => all.2.2 agrees]

theorem income_followsPrecedence_iff :
    FollowsPrecedence request.incomeState request.incomeDependencies ↔ request.IncomeInOrder := by
  by_cases agrees : request.CompensationAgrees
  · rw [incomeState, incomeDependencies, compensationState, usedState_of_agreement agrees,
      followsPrecedence_guarded_iff]
    exact ⟨fun both => ⟨fun _ => both.1, fun _ negative known => both.2 known negative,
        fun disagrees => absurd agrees disagrees⟩,
      fun order => ⟨order.missing agrees, fun known negative => order.uncounted agrees negative known⟩⟩
  · obtain ⟨stated, used⟩ := states_of_disagreement agrees
    have group : worst [request.unitState "compensated_returned_units",
        request.usedState "return_compensation_amount"] ≠ ⊥ := by
      intro good
      have blocked := worst_eq_bot_iff.mp good _ (List.mem_cons_of_mem _ List.mem_cons_self)
      rw [used] at blocked
      cases blocked
    have dependencies : worst request.incomeDependencies =
        worst (request.unitState "compensated_returned_units" ::
          incomeNames.map request.amountState) := by
      simp only [incomeDependencies, List.cons_append, List.nil_append, worst_cons, stated,
        bot_sup_eq]
    rw [followsPrecedence_iff, dependencies, incomeState, compensationState, orNext_of_ne_bot group,
      orNext_of_ne_bot group, used]
    constructor
    · intro follows
      exact ⟨fun holds => absurd holds agrees, fun holds => absurd holds agrees,
        fun _ => follows.imp id Eq.symm⟩
    · exact fun order => (order.contradicted agrees).imp id Eq.symm

/-! ### Tax -/

theorem costState_eq_conflict_iff :
    request.costState = .nonvalid .conflict ↔ request.CostConflicts := by
  unfold costState CostConflicts
  rw [ValueState.orNext_eq_conflict_iff, ValueState.orNext_eq_conflict_iff,
    ValueState.worst_eq_conflict_iff, orNext_eq_bot_iff, blockedUnless_eq_bot]
  simp only [ValueState.blockedUnless_ne_conflict, and_false, or_false, ValueState.bot_eq,
    and_assoc]

theorem incomeState_eq_conflict_iff :
    request.incomeState = .nonvalid .conflict ↔ request.IncomeConflicts := by
  have used : request.usedState "return_compensation_amount" = .nonvalid .conflict ↔
      request.amountState "return_compensation_amount" = .nonvalid .conflict := by
    by_cases agrees : request.CompensationAgrees
    · rw [usedState_of_agreement agrees]
    · obtain ⟨stated, blocked⟩ := states_of_disagreement agrees
      rw [stated, blocked]
      decide
  unfold incomeState IncomeConflicts
  rw [ValueState.orNext_eq_conflict_iff, compensationState_eq_bot_iff,
    ValueState.worst_eq_conflict_iff, compensationState, ValueState.orNext_eq_conflict_iff,
    ValueState.worst_eq_conflict_iff]
  simp only [ValueState.blockedUnless_ne_conflict, and_false, or_false, List.mem_cons,
    List.not_mem_nil, eq_comm (a := ValueState.nonvalid .conflict), used, or_assoc]

theorem otherState_eq_conflict_iff :
    request.otherState = .nonvalid .conflict ↔ request.OtherExpenseConflicts := by
  have net : request.netState = .nonvalid .conflict ↔ .nonvalid .conflict ∈ request.soldStates := by
    unfold netState
    rw [ValueState.orNext_eq_conflict_iff, ValueState.worst_eq_conflict_iff]
    simp only [ValueState.blockedUnless_ne_conflict, and_false, or_false]
  have each : ∀ {expense : Value}, expenseState request.netState expense = .nonvalid .conflict ↔
      expense.state = .nonvalid .conflict ∨
        expense.signature.unit = "MONEY_PER_ITEM" ∧ .nonvalid .conflict ∈ request.soldStates := by
    intro expense
    unfold expenseState
    split_ifs with perItem
    · rw [ValueState.worst_eq_conflict_iff, ← net, List.mem_cons, List.mem_singleton, or_comm]
      simp only [perItem, true_and, eq_comm]
    · simp only [perItem, false_and, or_false]
  unfold otherState OtherExpenseConflicts otherExpenseState
  split
  · rename_i item items components
    rw [components]
    split_ifs with allStated
    · rw [ValueState.worst_eq_conflict_iff]
      constructor
      · intro present
        obtain ⟨expense, stated, conflict⟩ := List.mem_map.mp present
        obtain ⟨component, inItems, statedEq⟩ := List.mem_filterMap.mp stated
        exact ⟨item, items, rfl, allStated, component, inItems, expense, statedEq, each.mp conflict⟩
      · rintro ⟨first, rest, same, -, component, inItems, expense, statedEq, conflict⟩
        obtain ⟨rfl, rfl⟩ := List.cons.inj (Json.arr.inj same)
        exact List.mem_map.mpr ⟨expense, List.mem_filterMap.mpr ⟨component, inItems, statedEq⟩,
          each.mpr conflict⟩
    · refine ⟨fun conflict => absurd conflict (by simp), ?_⟩
      rintro ⟨first, rest, same, all, -⟩
      obtain ⟨rfl, rfl⟩ := List.cons.inj (Json.arr.inj same)
      exact absurd all allStated
  · rename_i notList
    refine ⟨fun conflict => absurd conflict (by simp), ?_⟩
    rintro ⟨item, items, components, -⟩
    exact absurd components (notList item items)

/-- The state of the tax base, as its dependency. -/
def levied (request : KernelRequest) : ValueState :=
  if request.taxBaseMetricId = "other_expense_amount" then request.otherState
  else if request.taxBaseMetricId = "product_cost_amount" then request.costState
  else if request.taxBaseMetricId = "net_marketplace_income_amount" then request.incomeState
  else request.amountState request.taxBaseMetricId

theorem levied_eq_conflict_iff : request.levied = .nonvalid .conflict ↔ request.BaseConflicts := by
  unfold levied BaseConflicts
  split_ifs
  · exact otherState_eq_conflict_iff
  · exact costState_eq_conflict_iff
  · exact incomeState_eq_conflict_iff
  · rfl

/-- The base is missing, or has its own state, or is a contradictory
compensation. -/
theorem baseState_cases :
    request.BaseMissing ∧ request.baseState = none ∧ request.levied = .nonvalid .blocked ∨
    ¬request.BaseMissing ∧ request.baseState = some request.levied ∧
      (request.taxBaseMetricId = "return_compensation_amount" → request.CompensationAgrees) ∨
    ¬request.BaseMissing ∧ request.baseState = some (.nonvalid .blocked) ∧
      request.levied = .valid ∧ request.taxBaseMetricId = "return_compensation_amount" ∧
      ¬request.CompensationAgrees := by
  unfold BaseMissing baseState levied
  split_ifs with other cost income
  · exact .inr (.inl ⟨fun missing => missing.1 other, rfl,
      fun compensation => absurd (other.symm.trans compensation) (by decide)⟩)
  · exact .inr (.inl ⟨fun missing => missing.2.1 cost, rfl,
      fun compensation => absurd (cost.symm.trans compensation) (by decide)⟩)
  · exact .inr (.inl ⟨fun missing => missing.2.2.1 income, rfl,
      fun compensation => absurd (income.symm.trans compensation) (by decide)⟩)
  · cases stated : request.stated? request.taxBaseMetricId (.amount request.currency) with
    | none => exact .inl ⟨⟨other, cost, income, rfl⟩, rfl, by rw [amountState, stated]; rfl⟩
    | some value =>
        refine .inr ?_
        by_cases agrees : request.taxBaseMetricId = "return_compensation_amount" →
            request.CompensationAgrees
        · refine .inl ⟨fun missing => Option.some_ne_none value missing.2.2.2, ?_, agrees⟩
          by_cases compensation : request.taxBaseMetricId = "return_compensation_amount"
          · rw [usedState_of_agreement (agrees compensation)]
            rfl
          · rw [usedState_of_ne compensation]
            rfl
        · rw [Classical.not_imp] at agrees
          obtain ⟨compensation, disagrees⟩ := agrees
          obtain ⟨known, blocked⟩ := states_of_disagreement disagrees
          rw [compensation]
          exact .inr ⟨fun missing => Option.some_ne_none value missing.2.2.2, by rw [blocked]; rfl, known, rfl,
            disagrees⟩

theorem tax_followsPrecedence_iff :
    FollowsPrecedence request.taxState [stateOf request.statedRate?, request.levied] ↔
      request.TaxInOrder := by
  have conflicts : request.levied = .nonvalid .conflict ↔ _ := levied_eq_conflict_iff
  rcases request.baseState_cases with
    ⟨missing, none, blocked⟩ | ⟨present, own, agrees⟩ |
    ⟨present, used, known, compensation, disagrees⟩
  · have state : request.taxState = .nonvalid .blocked := by
      unfold taxState
      rw [none]
      cases request.statedRate? <;> rfl
    rw [state, blocked, ValueState.followsPrecedence_blocked_iff]
    refine ⟨fun noConflict => ⟨fun _ conflict => ?_, fun _ => noConflict,
      fun compensation disagrees => ?_⟩, fun order => order.base missing⟩
    · rw [← conflicts, blocked] at conflict
      cases conflict
    · have absent := missing.2.2.2
      rw [compensation] at absent
      exact absurd (compensationAgrees_of_none (by rw [amount?, absent]; rfl)) disagrees
  · cases rate : request.statedRate? with
    | none =>
        have state : request.taxState = .nonvalid .blocked := by
          unfold taxState
          rw [rate]
        rw [state, stateOf, Option.map_none, Option.getD_none, ValueState.followsPrecedence_swap,
          ValueState.followsPrecedence_blocked_iff, ne_eq, conflicts]
        exact ⟨fun noConflict => ⟨fun _ => noConflict, fun missing => absurd missing present,
          fun compensation disagrees => absurd (agrees compensation) disagrees⟩,
          fun order => order.rate rate⟩
    | some value =>
        have state : request.taxState = worst [value.state, request.levied] := by
          unfold taxState
          rw [rate, own]
        rw [state, followsPrecedence_iff]
        refine iff_of_true (.inr rfl) ⟨fun absent => ?_, fun missing => absurd missing present,
          fun compensation disagrees => absurd (agrees compensation) disagrees⟩
        rw [rate] at absent
        cases absent
  · cases rate : request.statedRate? with
    | none =>
        have state : request.taxState = .nonvalid .blocked := by
          unfold taxState
          rw [rate]
        rw [state, known]
        refine iff_of_true (followsPrecedence_iff.mpr (.inr (by decide)))
          ⟨fun _ conflict => ?_, fun missing => absurd missing present,
            fun _ _ value stated => ?_⟩
        · rw [← conflicts, known] at conflict
          cases conflict
        · rw [rate] at stated
          cases stated
    | some value =>
        have state : request.taxState = worst [value.state, .nonvalid .blocked] := by
          unfold taxState
          rw [rate, used]
        rw [state, known, stateOf, Option.map_some, Option.getD_some,
          ValueState.followsPrecedence_taken_iff]
        constructor
        · intro allowed
          refine ⟨fun absent => ?_, fun missing => absurd missing present, fun _ _ stated same => ?_⟩
          · rw [rate] at absent
            cases absent
          · rw [rate] at same
            exact Option.some.inj same ▸ allowed
        · exact fun order => order.contradicted compensation disagrees value rate

end KernelRequest

/-! ### The published states -/

/-- The published states follow the precedence exactly when the request hides no
state. -/
theorem statesFollowPrecedence_iff
    {request : Json}
    {payload : KernelPayload}
    (accepted : calculate request = .ok payload) :
    ∃ read, readRequest request = .ok read ∧
      (StatesFollowPrecedence read payload.results ↔ read.InOrder) := by
  obtain ⟨read, readEq, states⟩ := calculate_publishesStates accepted
  refine ⟨read, readEq, ?_⟩
  have base : read.baseDependency payload.results = read.levied := by
    unfold KernelRequest.baseDependency KernelRequest.levied
    rw [states.otherExpense, states.productCost, states.income]
  constructor
  · intro follows
    exact {
      cost := KernelRequest.cost_followsPrecedence_iff.mp (states.productCost ▸ follows.productCost)
      income := KernelRequest.income_followsPrecedence_iff.mp (states.income ▸ follows.income)
      tax := KernelRequest.tax_followsPrecedence_iff.mp
        (base ▸ (states.tax ▸ follows.tax)) }
  · intro order
    refine {
      netSoldUnits := ?_
      productCost := ?_
      income := ?_
      tax := ?_
      profit := ?_ }
    · -- Only a rule is checked after the units, and only when all are known.
      rw [states.netSoldUnits, followsPrecedence_iff, KernelRequest.netState]
      by_cases good : worst read.soldStates = ⊥
      · exact .inl good
      · exact .inr (orNext_of_ne_bot good _)
    · rw [states.productCost]
      exact KernelRequest.cost_followsPrecedence_iff.mpr order.cost
    · rw [states.income]
      exact KernelRequest.income_followsPrecedence_iff.mpr order.income
    · rw [states.tax, base]
      exact KernelRequest.tax_followsPrecedence_iff.mpr order.tax
    · rw [states.profit, states.income, states.productCost, states.otherExpense, states.tax,
        followsPrecedence_iff]
      exact .inr rfl

theorem statesFollowPrecedence_iff_sale :
    ∃ payload read, calculate (saleRequest (saleInputs "VALID" "VALID" "VALID") "VALID") =
      .ok payload ∧
      readRequest (saleRequest (saleInputs "VALID" "VALID" "VALID") "VALID") = .ok read ∧
      (StatesFollowPrecedence read payload.results ↔ read.InOrder) := by
  obtain ⟨payload, accepted⟩ := saleRequest_accepted
  obtain ⟨read, readEq, order⟩ := statesFollowPrecedence_iff accepted
  exact ⟨payload, read, accepted, readEq, order⟩

/-- Empty returned items hide a conflict of the cost per unit. -/
theorem emptyReturns_hide_conflict :
    ∃ payload read, calculate (saleRequest (saleInputs "VALID" "EMPTY" "VALID") "CONFLICT") =
      .ok payload ∧
      readRequest (saleRequest (saleInputs "VALID" "EMPTY" "VALID") "CONFLICT") = .ok read ∧
      payload.results.productCostAmount.value.state = .nonvalid .empty ∧
      .nonvalid .conflict ∈ read.costDependencies ∧
      ¬StatesFollowPrecedence read payload.results := by
  have published : (calculate (saleRequest (saleInputs "VALID" "EMPTY" "VALID") "CONFLICT")).map
      (fun payload => payload.results.productCostAmount.value.state) =
        .ok (.nonvalid .empty) := by
    decide +kernel
  have stated : (readRequest (saleRequest (saleInputs "VALID" "EMPTY" "VALID") "CONFLICT")).map
      (fun read => decide (.nonvalid .conflict ∈ read.costDependencies)) = .ok true := by
    decide +kernel
  obtain ⟨payload, accepted, state⟩ := Checks.map_eq_ok.mp published
  obtain ⟨read, readEq, conflict⟩ := Checks.map_eq_ok.mp stated
  rw [decide_eq_true_eq] at conflict
  refine ⟨payload, read, accepted, readEq, state, conflict, fun follows => ?_⟩
  have highest := (follows.productCost ⟨_, conflict, nofun⟩).2 _ conflict
  rw [state] at highest
  exact absurd highest (by decide)

end Finance
end QuantumAnalytics
