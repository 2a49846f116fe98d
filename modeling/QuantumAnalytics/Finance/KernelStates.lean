import QuantumAnalytics.Finance.KernelSteps

/-!
# States of the kernel's metrics

The state of every metric as a function of what the request states: of the
states of its inputs and of the rules that the stated numbers follow or break.
-/

namespace QuantumAnalytics
namespace Finance

open Severity

/-! ### The metrics of a request -/

namespace KernelRequest

variable (request : KernelRequest)

/-- The state of the items under a name. -/
def unitState (name : String) : ValueState := stateOf (request.stated? name .items)

/-- The state of the amount under a name, as the request states it. -/
def amountState (name : String) : ValueState :=
  stateOf (request.stated? name (.amount request.currency))

/-- The state of the amount under a name, as the formulas use it. -/
def usedState (name : String) : ValueState :=
  stateOf (request.usable? name (.amount request.currency))

/-- Returned items are a part of the sold ones. -/
def ReturnsFit : Prop :=
  Finance.ReturnsFit (request.units? "gross_sales_units") (request.units? "returned_units")

/-- Resold and compensated items are parts of the returned ones. -/
def ReturnsSplit : Prop :=
  Finance.ReturnsSplit (request.units? "gross_sales_units") (request.units? "returned_units")
    (request.units? "resalable_returned_units") (request.units? "compensated_returned_units")

/-- The number of compensated items is not negative. -/
def CompensatedCounts : Prop := ∀ count ∈ request.units? "compensated_returned_units", 0 ≤ count

/-- More items were sold than returned. -/
def SoldMore : Prop :=
  ∀ sold ∈ request.units? "gross_sales_units", ∀ back ∈ request.units? "returned_units", back < sold

instance : Decidable request.ReturnsFit := by unfold ReturnsFit; infer_instance

instance : Decidable request.ReturnsSplit := by unfold ReturnsSplit; infer_instance

instance : Decidable request.CompensatedCounts := by unfold CompensatedCounts; infer_instance

instance : Decidable request.SoldMore := by unfold SoldMore; infer_instance

/-- The cost per unit that a request states. -/
def statedCost? : Option Value :=
  statedValue? (some request.costPerUnit) "cost_per_unit" (.amountPerItem request.currency)

/-- The tax rate that a request states. -/
def statedRate? : Option Value := statedValue? (some request.taxRate) "tax_rate" .rate

/-- The states of the units that the net units depend on. -/
def soldStates : List ValueState :=
  [request.unitState "gross_sales_units", request.unitState "returned_units"]

/-- The states of the units that the product cost depends on. -/
def returnStates : List ValueState :=
  request.soldStates ++ [request.unitState "resalable_returned_units",
    request.unitState "compensated_returned_units"]

/-- The state of the net units. -/
def netState : ValueState := orNext (worst request.soldStates) (blockedUnless request.ReturnsFit)

/-- The state of the product cost. -/
def costState : ValueState :=
  orNext (orNext (worst request.returnStates) (blockedUnless request.ReturnsSplit))
    (stateOf request.statedCost?)

/-- The state of the other expenses. -/
def otherState : ValueState :=
  otherExpenseState request.currency request.netState request.otherExpenseComponents

/-- The state of the return compensation. -/
def compensationState : ValueState :=
  orNext (worst [request.unitState "compensated_returned_units",
    request.usedState "return_compensation_amount"]) (blockedUnless request.CompensatedCounts)

/-- The state of the income. -/
def incomeState : ValueState :=
  orNext request.compensationState (worst (incomeNames.map request.amountState))

/-- The state of the metric on which tax is levied; `none` for an input that is
missing or no amount. -/
def baseState : Option ValueState :=
  if request.taxBaseMetricId = "other_expense_amount" then some request.otherState
  else if request.taxBaseMetricId = "product_cost_amount" then some request.costState
  else if request.taxBaseMetricId = "net_marketplace_income_amount" then some request.incomeState
  else (request.stated? request.taxBaseMetricId (.amount request.currency)).map fun _ =>
    request.usedState request.taxBaseMetricId

/-- The state of the tax. -/
def taxState : ValueState :=
  match request.statedRate?, request.baseState with
  | some rate, some base => worst [rate.state, base]
  | _, _ => .nonvalid .blocked

/-- The state of the profit. -/
def profitState : ValueState :=
  worst [request.incomeState, request.costState, request.otherState, request.taxState]

/-- The state of the profit per unit. -/
def perUnitState : ValueState :=
  orNext (worst [request.profitState, request.netState]) (blockedUnless request.SoldMore)

end KernelRequest

/-! ### A calculation step by step -/

/-- The steps of a calculation, with the values that pass between them. -/
structure KernelSteps
    (request : KernelRequest)
    (inputs : Inputs)
    (costUnits costPerUnit taxRate : Value)
    (values : KernelValues) : Prop where
  /-- The normalized inputs. -/
  inputsMade : kernelInputs request = .ok inputs
  /-- The net units. -/
  netUnitsMade : netUnitsOf (expect inputs "gross_sales_units" .items)
    (expect inputs "returned_units" .items) = .ok values.netUnits
  /-- The units whose cost is borne. -/
  costUnitsMade : costUnitsOf (expect inputs "gross_sales_units" .items)
    (expect inputs "returned_units" .items) (expect inputs "resalable_returned_units" .items)
    (expect inputs "compensated_returned_units" .items) = .ok costUnits
  /-- The cost per unit. -/
  costPerUnitMade : ∃ stated, valueFromDict request.costPerUnit "cost_per_unit" = .ok stated ∧
    normalizeValue stated request.policy = .ok costPerUnit
  /-- The product cost. -/
  productCostMade : productCostOf request.context costUnits costPerUnit request.currency =
    .ok values.productCost
  /-- The other expenses. -/
  otherExpenseMade : calculateOtherExpense request.context request.otherExpenseComponents
    values.netUnits request.policy request.currency = .ok values.otherExpense
  /-- The income. -/
  incomeMade : incomeOf request.context inputs request.currency = .ok values.settlement.income
  /-- The tax rate. -/
  taxRateMade : ∃ stated, valueFromDict request.taxRate "tax_rate" = .ok stated ∧
    normalizeValue stated request.policy = .ok taxRate
  /-- The tax. -/
  taxMade : taxOf request.context taxRate (taxBaseOf inputs request.taxBaseMetricId
    values.settlement.income values.productCost values.otherExpense) request.taxBaseMetricId
    request.currency = .ok values.settlement.tax
  /-- The profit. -/
  profitMade : moneySum request.context [(1, values.settlement.income), (-1, values.productCost),
    (-1, values.otherExpense), (-1, values.settlement.tax)] request.currency =
    .ok values.settlement.profit
  /-- The profit per unit. -/
  profitPerUnitMade : profitPerUnitOf request.context values.settlement.profit values.netUnits
    request.currency = .ok values.settlement.profitPerUnit
  /-- The profitability of costs. -/
  profitability : values.settlement.profitability = profitabilityBlocked

/-- A calculation takes these steps. -/
theorem exists_kernelSteps
    {request : KernelRequest}
    {values : KernelValues}
    (made : kernelValues request = .ok values) :
    ∃ inputs costUnits costPerUnit taxRate,
      KernelSteps request inputs costUnits costPerUnit taxRate values := by
  simp only [kernelValues, calculateUnitsAndProductCost, calculateSettlementTaxProfit,
    Checks.bind_eq_ok, Checks.pure_eq_ok] at made
  obtain ⟨inputs, inputsEq, ⟨netUnits, productCost⟩, ⟨net, netEq, costUnits, costUnitsEq, stated,
    statedEq, costPerUnit, costPerUnitEq, cost, costEq, pairEq⟩, otherExpense, otherEq, settlement,
    ⟨income, incomeEq, statedRate, statedRateEq, taxRate, taxRateEq, tax, taxEq, profit, profitEq,
    profitPerUnit, perUnitEq, rfl⟩, rfl⟩ := made
  obtain ⟨rfl, rfl⟩ := Prod.mk.inj pairEq
  exact ⟨inputs, costUnits, costPerUnit, taxRate, {
    inputsMade := inputsEq
    netUnitsMade := netEq
    costUnitsMade := costUnitsEq
    costPerUnitMade := ⟨stated, statedEq, costPerUnitEq⟩
    productCostMade := costEq
    otherExpenseMade := otherEq
    incomeMade := incomeEq
    taxRateMade := ⟨statedRate, statedRateEq, taxRateEq⟩
    taxMade := taxEq
    profitMade := profitEq
    profitPerUnitMade := perUnitEq
    profitability := rfl }⟩

/-- A value in place of the stated one has its state, if the signature is the
required one. -/
theorem stateOf_withSignature
    {policy : RoundingPolicy}
    {raw : Json}
    {sourceId : String}
    {stated normalized : Value}
    (read : valueFromDict raw sourceId = .ok stated)
    (normalizes : normalizeValue stated policy = .ok normalized)
    (signature : Signature) :
    (withSignature normalized signature).map Value.state =
      (statedValue? (some raw) sourceId signature).map Value.state := by
  have represents := represents_of_normalizeValue normalizes
  unfold withSignature statedValue?
  rw [Option.bind_some, read, represents.signature]
  simp only [Except.toOption, Option.filter_some, decide_eq_true_eq]
  split_ifs
  · exact congrArg some represents.state
  · rfl

namespace KernelRequest

variable {request : KernelRequest}

/-- Every input but the return compensation is used as stated. -/
theorem usable?_of_ne
    {name : String}
    {signature : Signature}
    (other : name ≠ "return_compensation_amount") :
    request.usable? name signature = request.stated? name signature :=
  if_neg fun all => other all.1

theorem usable?_items (name : String) : request.usable? name .items = request.stated? name .items :=
  if_neg fun all =>
    nomatch (show ValueType.integer = .money from congrArg Signature.valueType all.2.1)

theorem usedState_of_ne {name : String} (other : name ≠ "return_compensation_amount") :
    request.usedState name = request.amountState name := by
  rw [usedState, amountState, usable?_of_ne other]

/-- A usable return compensation agrees with the compensated units. -/
theorem compensationAgrees_of_usable
    (usable : request.usable? "return_compensation_amount" (.amount request.currency) ≠ none) :
    request.CompensationAgrees := by
  by_contra disagrees
  exact usable (if_pos ⟨rfl, rfl, disagrees⟩)

end KernelRequest

/-! ### The states of a calculation -/

section States

variable
    {request : KernelRequest}
    {inputs : Inputs}
    {costUnits costPerUnit taxRate : Value}
    {values : KernelValues}
    (steps : KernelSteps request inputs costUnits costPerUnit taxRate values)

include steps

/-- The items that a formula gets. -/
theorem KernelSteps.units (name : String) :
    Represents request.policy (request.stated? name .items) .items (expect inputs name .items) := by
  rw [← KernelRequest.usable?_items]
  exact represents_expect steps.inputsMade name .items

/-- The amount that a formula gets. -/
theorem KernelSteps.amount (name : String) :
    Represents request.policy (request.usable? name (.amount request.currency))
      (.amount request.currency) (expect inputs name (.amount request.currency)) :=
  represents_expect steps.inputsMade name _

theorem KernelSteps.netUnits_state :
    values.netUnits.signature = .items ∧ values.netUnits.state = request.netState := by
  obtain ⟨signature, state, -⟩ := netUnitsOf_result steps.netUnitsMade
  rw [(steps.units _).integer, (steps.units _).integer] at state
  refine ⟨signature, state.trans ?_⟩
  simp only [statesOf, List.map_cons, List.map_nil, (steps.units _).state]
  rfl

theorem KernelSteps.productCost_state :
    values.productCost.signature = .amount request.currency ∧
      values.productCost.state = request.costState := by
  obtain ⟨stateUnits, -⟩ := costUnitsOf_result steps.costUnitsMade
  obtain ⟨signature, state, -⟩ := productCostOf_result steps.productCostMade
  obtain ⟨stated, read, normalizes⟩ := steps.costPerUnitMade
  have unitCost := stateOf_withSignature read normalizes (.amountPerItem request.currency)
  refine ⟨signature, state.trans ?_⟩
  rw [stateUnits]
  simp only [statesOf, List.map_cons, List.map_nil, (steps.units _).state,
    (steps.units _).integer, stateOf, unitCost]
  rfl

theorem KernelSteps.otherExpense_state :
    values.otherExpense.signature = .amount request.currency ∧
      values.otherExpense.state = request.otherState := by
  obtain ⟨signature, state, -⟩ := calculateOtherExpense_result steps.otherExpenseMade
  rw [steps.netUnits_state.2] at state
  exact ⟨signature, state⟩

/-- A usable compensation fits the units when these are counted. -/
theorem KernelSteps.compensationFits_iff
    (good : request.usedState "return_compensation_amount" = ⊥) :
    CompensationFits (expect inputs "compensated_returned_units" .items).integer?
      (expect inputs "return_compensation_amount" (.amount request.currency)).number? ↔
        request.CompensatedCounts := by
  have amount := steps.amount "return_compensation_amount"
  obtain ⟨paid, paidEq⟩ := Value.exists_number (amount.state.trans good) (by
    rw [amount.signature]
    rfl)
  have usable : request.usable? "return_compensation_amount" (.amount request.currency) ≠ none := by
    intro absent
    rw [KernelRequest.usedState, absent] at good
    cases good
  have agrees := KernelRequest.compensationAgrees_of_usable usable
  have rounded := amount.number
  rw [paidEq, KernelRequest.usable?, if_neg fun all => all.2.2 agrees] at rounded
  obtain ⟨exact, exactEq, same⟩ := Option.map_eq_some_iff.mp rounded.symm
  obtain ⟨nonnegative, matching⟩ := agrees exact exactEq
  rw [(steps.units _).integer, paidEq]
  simp only [CompensationFits, Option.mem_some_iff, forall_eq', ← same]
  constructor
  · exact fun fits count present => (fits count present).1
  · intro counts count present
    refine ⟨counts count present, RoundingMode.atScale_nonneg _ _ nonnegative, fun none => ?_⟩
    rw [(matching count present).1 none, RoundingMode.atScale_zero]

/-- The state of the return compensation after its rule is checked. -/
theorem KernelSteps.compensation_state
    {compensation : Value}
    (validated : validatedReturnCompensation inputs request.currency = .ok compensation) :
    compensation.state = request.compensationState := by
  have units := steps.units "compensated_returned_units"
  have amount := steps.amount "return_compensation_amount"
  obtain ⟨-, state, -⟩ := validatedReturnCompensation_result rfl rfl amount.signature validated
  have operands : worst (statesOf [expect inputs "compensated_returned_units" .items,
      expect inputs "return_compensation_amount" (.amount request.currency)]) =
      worst [request.unitState "compensated_returned_units",
        request.usedState "return_compensation_amount"] := by
    simp only [statesOf, List.map_cons, List.map_nil, units.state, amount.state]
    rfl
  rw [operands] at state
  rw [state, KernelRequest.compensationState]
  by_cases good : worst [request.unitState "compensated_returned_units",
      request.usedState "return_compensation_amount"] = ⊥
  · have usable := worst_eq_bot_iff.mp good _ (List.mem_cons_of_mem _ List.mem_cons_self)
    rw [good, orNext_bot, orNext_bot, blockedUnless_congr (steps.compensationFits_iff usable)]
  · rw [orNext_of_ne_bot good, orNext_of_ne_bot good]

theorem KernelSteps.income_state :
    values.settlement.income.signature = .amount request.currency ∧
      values.settlement.income.state = request.incomeState := by
  obtain ⟨signature, compensation, validated, state, -⟩ :=
    incomeOf_result (fun name => (steps.amount name).signature) steps.incomeMade
  refine ⟨signature, state.trans ?_⟩
  rw [steps.compensation_state validated, KernelRequest.incomeState, statesOf, List.map_map]
  congr 2
  refine List.map_congr_left fun name present => ?_
  have other : name ≠ "return_compensation_amount" := by
    rintro rfl
    revert present
    decide
  rw [Function.comp_apply, (steps.amount name).state, ← KernelRequest.usedState_of_ne other]
  rfl

/-- The state of an input that has the signature of an amount. -/
theorem KernelSteps.lookup_state (name : String) :
    ((inputs.lookup name).bind fun value =>
      withSignature value (.amount request.currency)).map Value.state =
        (request.stated? name (.amount request.currency)).map fun _ => request.usedState name := by
  have signatures := signature_lookup steps.inputsMade name
  unfold KernelRequest.stated? statedValue?
  generalize (Json.lookup request.inputs name).bind
    (fun raw => (valueFromDict raw name).toOption) = stated at signatures ⊢
  cases found : inputs.lookup name with
  | none =>
      rw [found, Option.map_none, eq_comm, Option.map_eq_none_iff] at signatures
      rw [signatures]
      rfl
  | some value =>
      rw [found, Option.map_some, eq_comm, Option.map_eq_some_iff] at signatures
      obtain ⟨written, rfl, same⟩ := signatures
      simp only [Option.bind_some, withSignature, Option.filter_some, same, decide_eq_true_eq]
      split_ifs with typed
      · have got := (steps.amount name).state
        rw [← typed, expect_of_lookup found] at got
        exact congrArg some (by rw [got, KernelRequest.usedState, typed])
      · rfl

/-- The state of the tax base, if it has the signature of an amount. -/
theorem KernelSteps.base_state :
    ((taxBaseOf inputs request.taxBaseMetricId values.settlement.income values.productCost
      values.otherExpense).bind fun base => withSignature base (.amount request.currency)).map
        Value.state = request.baseState := by
  have derived : ∀ {value : Value}, value.signature = .amount request.currency →
      (withSignature value (.amount request.currency)).map Value.state = some value.state := by
    intro value typed
    rw [withSignature, if_pos typed]
    rfl
  unfold taxBaseOf KernelRequest.baseState
  split_ifs with other cost income
  · rw [Option.bind_some, derived steps.otherExpense_state.1, steps.otherExpense_state.2]
  · rw [Option.bind_some, derived steps.productCost_state.1, steps.productCost_state.2]
  · rw [Option.bind_some, derived steps.income_state.1, steps.income_state.2]
  · exact steps.lookup_state request.taxBaseMetricId

theorem KernelSteps.tax_state :
    values.settlement.tax.signature = .amount request.currency ∧
      values.settlement.tax.state = request.taxState := by
  obtain ⟨signature, state, -⟩ := taxOf_result steps.taxMade
  obtain ⟨stated, read, normalizes⟩ := steps.taxRateMade
  have rate := stateOf_withSignature read normalizes .rate
  have base := steps.base_state
  refine ⟨signature, state.trans ?_⟩
  unfold KernelRequest.taxState KernelRequest.statedRate?
  rw [← base]
  generalize (taxBaseOf inputs request.taxBaseMetricId values.settlement.income
    values.productCost values.otherExpense).bind
      (fun base => withSignature base (.amount request.currency)) = levied
  generalize withSignature taxRate .rate = used at rate
  generalize statedValue? (some request.taxRate) "tax_rate" .rate = written at rate
  cases used <;> cases written <;> cases levied <;> simp_all [taxState]

theorem KernelSteps.profit_state :
    values.settlement.profit.signature = .amount request.currency ∧
      values.settlement.profit.state = request.profitState := by
  obtain ⟨signature, state, -⟩ := moneySum_result (by
    simp [steps.income_state.1, steps.productCost_state.1, steps.otherExpense_state.1,
      steps.tax_state.1]) steps.profitMade
  refine ⟨signature, state.trans ?_⟩
  simp only [List.map_cons, List.map_nil, statesOf, steps.income_state.2,
    steps.productCost_state.2, steps.otherExpense_state.2, steps.tax_state.2]
  rfl

/-- The net units are positive when more items were sold than returned. -/
theorem KernelSteps.netUnits_pos_iff
    (good : request.netState = ⊥) :
    (∀ units ∈ values.netUnits.integer?, 0 < units) ↔ request.SoldMore := by
  obtain ⟨-, -, payload⟩ := netUnitsOf_result steps.netUnitsMade
  obtain ⟨sold, soldEq, back, backEq, difference⟩ := payload (steps.netUnits_state.2.trans good)
  rw [Option.mem_def, (steps.units _).integer] at soldEq backEq
  have soldUnits : request.units? "gross_sales_units" = some sold := soldEq
  have backUnits : request.units? "returned_units" = some back := backEq
  simp only [difference, KernelRequest.SoldMore, soldUnits, backUnits, Option.mem_some_iff,
    forall_eq', Int.sub_pos]

theorem KernelSteps.profitPerUnit_state :
    values.settlement.profitPerUnit.signature = .amountPerItem request.currency ∧
      values.settlement.profitPerUnit.state = request.perUnitState := by
  obtain ⟨signature, state, -⟩ := profitPerUnitOf_result steps.profitPerUnitMade
  refine ⟨signature, state.trans ?_⟩
  have operands : worst (statesOf [values.settlement.profit, values.netUnits]) =
      worst [request.profitState, request.netState] := by
    simp only [statesOf, List.map_cons, List.map_nil, steps.profit_state.2, steps.netUnits_state.2]
  rw [operands, KernelRequest.perUnitState]
  by_cases good : worst [request.profitState, request.netState] = ⊥
  · have net := worst_eq_bot_iff.mp good _ (List.mem_cons_of_mem _ List.mem_cons_self)
    rw [good, orNext_bot, orNext_bot, blockedUnless_congr (steps.netUnits_pos_iff net)]
  · rw [orNext_of_ne_bot good, orNext_of_ne_bot good]


end States

/-! ### Published states -/

/-- A published metric has the state of its value; without a value it is `null`
and has a reason. -/
theorem metric_result
    {value : Value}
    {accountingView : String}
    {expenseBoundary : List String}
    {policy : RoundingPolicy}
    {finalRound : Bool}
    {published : Metric}
    (made : metric value accountingView expenseBoundary policy finalRound = .ok published) :
    published.value.state = value.state ∧ (published.value.state ≠ .valid →
      published.value.value = .null ∧
        ∃ reason, published.value.reasonCode = some reason ∧ reason ≠ "") := by
  unfold metric at made
  split at made
  · rename_i d payload
    have content := Value.payload?_eq_some_iff.mp payload
    simp only [Checks.bind_eq_ok, Checks.pure_eq_ok] at made
    obtain ⟨⟨rounded, scale⟩, -, kept, keptMade, rfl⟩ := made
    have keptState := Value.state_of_content (makeValid_eq_ok.mp keptMade).1
    exact ⟨keptState.trans (Value.state_of_content content).symm,
      fun nonvalid => absurd keptState nonvalid⟩
  · obtain rfl := Except.ok.inj made
    refine ⟨rfl, fun nonvalid => ?_⟩
    have fits := value.fits
    cases content : value.content with
    | valid payload => exact absurd (Value.state_of_content content) nonvalid
    | nonvalid state reason =>
        rw [content] at fits
        refine ⟨by simp [valueToDict, Value.payload?, content], reason, ?_, by
          simpa [Content.fits] using fits⟩
        simp [valueToDict, content]

/-- The metrics of the results. -/
def KernelResults.metrics (results : KernelResults) : List Metric :=
  [results.netSoldUnits, results.productCostAmount, results.otherExpenseAmount, results.taxAmount,
    results.netMarketplaceIncomeAmount, results.netProfitAmount, results.profitPerSoldUnit,
    results.profitabilityOfCosts]

/-- The published states are those of the request. -/
structure PublishesStates (request : KernelRequest) (results : KernelResults) : Prop where
  /-- The net units. -/
  netSoldUnits : results.netSoldUnits.value.state = request.netState
  /-- The product cost. -/
  productCost : results.productCostAmount.value.state = request.costState
  /-- The other expenses. -/
  otherExpense : results.otherExpenseAmount.value.state = request.otherState
  /-- The tax. -/
  tax : results.taxAmount.value.state = request.taxState
  /-- The income. -/
  income : results.netMarketplaceIncomeAmount.value.state = request.incomeState
  /-- The profit. -/
  profit : results.netProfitAmount.value.state = request.profitState
  /-- The profit per unit. -/
  profitPerUnit : results.profitPerSoldUnit.value.state = request.perUnitState
  /-- The profitability of costs. -/
  profitability : results.profitabilityOfCosts.value.state = .nonvalid .blocked
  /-- A metric without a value is `null` and has a reason. -/
  nonvalid : ∀ published ∈ results.metrics, published.value.state ≠ .valid →
    published.value.value = .null ∧ ∃ reason, published.value.reasonCode = some reason ∧ reason ≠ ""

/-- An accepted calculation publishes the states that its request determines. -/
theorem calculate_publishesStates
    {request : Json}
    {payload : KernelPayload}
    (accepted : calculate request = .ok payload) :
    ∃ read, readRequest request = .ok read ∧ PublishesStates read payload.results := by
  obtain ⟨read, values, results, readEq, calculated, published, rfl⟩ := calculate_eq_ok.mp accepted
  obtain ⟨inputs, costUnits, costPerUnit, taxRate, steps⟩ := exists_kernelSteps calculated
  simp only [publish, Checks.bind_eq_ok, Checks.pure_eq_ok] at published
  obtain ⟨net, netMade, cost, costMade, other, otherMade, tax, taxMade, income, incomeMade, profit,
    profitMade, perUnit, perUnitMade, profitability, profitabilityMade, rfl⟩ := published
  refine ⟨read, readEq, {
    netSoldUnits := (metric_result netMade).1.trans steps.netUnits_state.2
    productCost := (metric_result costMade).1.trans steps.productCost_state.2
    otherExpense := (metric_result otherMade).1.trans steps.otherExpense_state.2
    tax := (metric_result taxMade).1.trans steps.tax_state.2
    income := (metric_result incomeMade).1.trans steps.income_state.2
    profit := (metric_result profitMade).1.trans steps.profit_state.2
    profitPerUnit := (metric_result perUnitMade).1.trans steps.profitPerUnit_state.2
    profitability := ?_
    nonvalid := ?_ }⟩
  · rw [(metric_result profitabilityMade).1, steps.profitability]
    rfl
  · intro metric present
    simp only [KernelResults.metrics, List.mem_cons, List.not_mem_nil, or_false] at present
    rcases present with rfl | rfl | rfl | rfl | rfl | rfl | rfl | rfl
    · exact (metric_result netMade).2
    · exact (metric_result costMade).2
    · exact (metric_result otherMade).2
    · exact (metric_result taxMade).2
    · exact (metric_result incomeMade).2
    · exact (metric_result profitMade).2
    · exact (metric_result perUnitMade).2
    · exact (metric_result profitabilityMade).2

end Finance
end QuantumAnalytics
