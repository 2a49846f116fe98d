import QuantumAnalytics.Finance.KernelStates

/-!
# Fail-closed metrics

A metric has a value exactly when everything that its formula mandates is
present with a value and the required signature, and when the rules on which
the formula relies are kept. A metric without a value is `null` and has a
reason.
-/

namespace QuantumAnalytics
namespace Finance

open Severity

theorem stateOf_eq_bot_iff {stated : Option Value} :
    stateOf stated = ⊥ ↔ ∃ value, stated = some value ∧ value.state = .valid := by
  cases stated with
  | none => simp [stateOf]
  | some value => simp [stateOf, ValueState.bot_eq]

theorem signature_of_statedValue?
    {raw : Option Json}
    {sourceId : String}
    {signature : Signature}
    {value : Value}
    (stated : statedValue? raw sourceId signature = some value) : value.signature = signature := by
  simpa using (Option.filter_eq_some_iff.mp stated).2

namespace KernelRequest

variable (request : KernelRequest)

/-! ### What the metrics mandate -/

/-- The net units: sold and returned items, of which the returned are a part. -/
def HasNetUnits : Prop :=
  ∃ sold back, request.units? "gross_sales_units" = some sold ∧
    request.units? "returned_units" = some back ∧ 0 ≤ back ∧ back ≤ sold

/-- The product cost: all four numbers of items, returned items that split into
resold, compensated and other ones, and the cost per unit. -/
def HasProductCost : Prop :=
  request.HasNetUnits ∧
    (∃ back resold paid, request.units? "returned_units" = some back ∧
      request.units? "resalable_returned_units" = some resold ∧
      request.units? "compensated_returned_units" = some paid ∧
      0 ≤ resold ∧ 0 ≤ paid ∧ resold + paid ≤ back) ∧
    ∃ cost, request.statedCost? = some cost ∧ cost.state = .valid

/-- The other expenses: at least one component, every component of an admitted
signature and with a value, and the net units for a component per item. -/
def HasOtherExpense : Prop :=
  ∃ item items, request.otherExpenseComponents = .arr (item :: items) ∧
    ∀ component ∈ item :: items, ∃ expense,
      statedExpense? request.currency component = some expense ∧ expense.state = .valid ∧
        (expense.signature.unit = "MONEY_PER_ITEM" → request.HasNetUnits)

/-- The return compensation: an amount that agrees with the compensated items. -/
def HasCompensation : Prop :=
  ∃ paid amount, request.units? "compensated_returned_units" = some paid ∧
    request.amount? "return_compensation_amount" = some amount ∧ 0 ≤ paid ∧ 0 ≤ amount.toRat ∧
    (paid = 0 → amount.toRat = 0) ∧ (0 < paid → 0 < amount.toRat)

/-- The income: the return compensation and the nine other amounts. -/
def HasIncome : Prop :=
  request.HasCompensation ∧ ∀ name ∈ incomeNames, ∃ amount, request.amount? name = some amount

/-- The tax base: the named metric, or the named amount of the inputs. A return
compensation has to agree with the compensated items, as far as these are
stated. -/
def HasTaxBase : Prop :=
  if request.taxBaseMetricId = "other_expense_amount" then request.HasOtherExpense
  else if request.taxBaseMetricId = "product_cost_amount" then request.HasProductCost
  else if request.taxBaseMetricId = "net_marketplace_income_amount" then request.HasIncome
  else (∃ amount, request.amount? request.taxBaseMetricId = some amount) ∧
    (request.taxBaseMetricId = "return_compensation_amount" → request.CompensationAgrees)

/-- The tax: rate and base. -/
def HasTax : Prop :=
  (∃ rate, request.statedRate? = some rate ∧ rate.state = .valid) ∧ request.HasTaxBase

/-- The profit: everything that income, cost, other expenses and tax mandate. -/
def HasProfit : Prop :=
  request.HasIncome ∧ request.HasProductCost ∧ request.HasOtherExpense ∧ request.HasTax

/-- The profit per unit: the profit and a positive number of net units. -/
def HasProfitPerUnit : Prop :=
  request.HasProfit ∧ ∃ sold back, request.units? "gross_sales_units" = some sold ∧
    request.units? "returned_units" = some back ∧ 0 < sold - back

/-! ### States and what they mean -/

variable {request}

theorem unitState_eq_bot_iff {name : String} :
    request.unitState name = ⊥ ↔ ∃ count, request.units? name = some count := by
  unfold unitState units?
  rw [stateOf_eq_bot_iff]
  constructor
  · rintro ⟨value, stated, valid⟩
    have signature := signature_of_statedValue? stated
    obtain ⟨count, counted⟩ := Value.exists_integer valid (by rw [signature]; rfl)
    exact ⟨count, by rw [stated, Option.bind_some, counted]⟩
  · rintro ⟨count, counted⟩
    obtain ⟨value, stated, present⟩ := Option.bind_eq_some_iff.mp counted
    exact ⟨value, stated, Value.state_of_integer? present⟩

theorem amountState_eq_bot_iff {name : String} :
    request.amountState name = ⊥ ↔ ∃ amount, request.amount? name = some amount := by
  unfold amountState amount?
  rw [stateOf_eq_bot_iff]
  constructor
  · rintro ⟨value, stated, valid⟩
    have signature := signature_of_statedValue? stated
    obtain ⟨amount, present⟩ := Value.exists_number valid (by rw [signature]; rfl)
    exact ⟨amount, by rw [stated, Option.bind_some, present]⟩
  · rintro ⟨amount, counted⟩
    obtain ⟨value, stated, present⟩ := Option.bind_eq_some_iff.mp counted
    exact ⟨value, stated, Value.state_of_number? present⟩

/-- A usable compensation is a valid one that agrees. -/
theorem usedState_compensation_eq_bot_iff :
    request.usedState "return_compensation_amount" = ⊥ ↔
      (∃ amount, request.amount? "return_compensation_amount" = some amount) ∧
        request.CompensationAgrees := by
  rw [← amountState_eq_bot_iff]
  by_cases agrees : request.CompensationAgrees
  · have same : request.usedState "return_compensation_amount" =
        request.amountState "return_compensation_amount" := by
      rw [usedState, amountState, usable?, if_neg fun all => all.2.2 agrees]
    simp [same, agrees]
  · have none : request.usedState "return_compensation_amount" = .nonvalid .blocked := by
      rw [usedState, usable?, if_pos ⟨rfl, rfl, agrees⟩]
      rfl
    simp [none, agrees]

theorem netState_eq_bot_iff : request.netState = ⊥ ↔ request.HasNetUnits := by
  unfold netState HasNetUnits soldStates
  rw [orNext_eq_bot_iff, worst_eq_bot_iff, blockedUnless_eq_bot]
  simp only [List.forall_mem_cons, List.not_mem_nil, false_imp_iff, implies_true, and_true,
    unitState_eq_bot_iff, ReturnsFit, Finance.ReturnsFit, Option.mem_def]
  constructor
  · rintro ⟨⟨⟨sold, soldEq⟩, back, backEq⟩, fits⟩
    exact ⟨sold, back, soldEq, backEq, fits sold soldEq back backEq⟩
  · rintro ⟨sold, back, soldEq, backEq, fits⟩
    refine ⟨⟨⟨sold, soldEq⟩, back, backEq⟩, ?_⟩
    simpa [soldEq, backEq] using fits

theorem costState_eq_bot_iff : request.costState = ⊥ ↔ request.HasProductCost := by
  unfold costState HasProductCost HasNetUnits returnStates soldStates
  rw [orNext_eq_bot_iff, orNext_eq_bot_iff, worst_eq_bot_iff, blockedUnless_eq_bot,
    stateOf_eq_bot_iff]
  simp only [List.cons_append, List.nil_append, List.forall_mem_cons, List.not_mem_nil,
    false_imp_iff, implies_true, and_true, unitState_eq_bot_iff, ReturnsSplit,
    Finance.ReturnsSplit, Finance.ReturnsFit, Option.mem_def]
  constructor
  · rintro ⟨⟨⟨⟨sold, soldEq⟩, ⟨back, backEq⟩, ⟨resold, resoldEq⟩, paid, paidEq⟩, fits, splits⟩, cost⟩
    exact ⟨⟨sold, back, soldEq, backEq, fits sold soldEq back backEq⟩,
      ⟨back, resold, paid, backEq, resoldEq, paidEq,
        splits back backEq resold resoldEq paid paidEq⟩, cost⟩
  · rintro ⟨⟨sold, back, soldEq, backEq, fits⟩, ⟨same, resold, paid, sameEq, resoldEq, paidEq,
      splits⟩, cost⟩
    obtain rfl := Option.some.inj (sameEq.symm.trans backEq)
    refine ⟨⟨⟨⟨sold, soldEq⟩, ⟨same, backEq⟩, ⟨resold, resoldEq⟩, paid, paidEq⟩, ?_⟩, cost⟩
    simpa [soldEq, backEq, resoldEq, paidEq] using ⟨fits, splits⟩

theorem otherState_eq_bot_iff : request.otherState = ⊥ ↔ request.HasOtherExpense := by
  unfold otherState HasOtherExpense otherExpenseState
  have each : ∀ {expense : Value}, expenseState request.netState expense = ⊥ ↔
      expense.state = .valid ∧
        (expense.signature.unit = "MONEY_PER_ITEM" → request.HasNetUnits) := by
    intro expense
    unfold expenseState
    split_ifs with perItem
    · simp only [worst_eq_bot_iff, List.forall_mem_cons, List.not_mem_nil, false_imp_iff,
        implies_true, and_true, netState_eq_bot_iff, perItem, true_imp_iff]
      exact and_comm
    · simp [perItem, ValueState.bot_eq]
  split
  · rename_i item items components
    rw [components]
    split_ifs with allStated
    · rw [worst_eq_bot_iff]
      constructor
      · intro good
        refine ⟨item, items, rfl, fun component present => ?_⟩
        obtain ⟨expense, stated⟩ := Option.isSome_iff_exists.mp (allStated component present)
        exact ⟨expense, stated, each.mp (good _ (List.mem_map.mpr
          ⟨expense, List.mem_filterMap.mpr ⟨component, present, stated⟩, rfl⟩))⟩
      · rintro ⟨first, rest, same, all⟩ state present
        obtain ⟨rfl, rfl⟩ := List.cons.inj (Json.arr.inj same)
        obtain ⟨expense, stated, rfl⟩ := List.mem_map.mp present
        obtain ⟨component, inItems, statedEq⟩ := List.mem_filterMap.mp stated
        obtain ⟨other, otherEq, valid⟩ := all component inItems
        obtain rfl := Option.some.inj (statedEq.symm.trans otherEq)
        exact each.mpr valid
    · refine ⟨nofun, ?_⟩
      rintro ⟨first, rest, same, all⟩
      obtain ⟨rfl, rfl⟩ := List.cons.inj (Json.arr.inj same)
      refine absurd (fun component present => ?_) allStated
      obtain ⟨expense, stated, -⟩ := all component present
      rw [stated]
      rfl
  · rename_i notList
    refine ⟨nofun, ?_⟩
    rintro ⟨item, items, components, -⟩
    exact absurd components (notList item items)

theorem compensationState_eq_bot_iff : request.compensationState = ⊥ ↔ request.HasCompensation := by
  unfold compensationState HasCompensation
  rw [orNext_eq_bot_iff, worst_eq_bot_iff, blockedUnless_eq_bot]
  simp only [List.forall_mem_cons, List.not_mem_nil, false_imp_iff, implies_true, and_true,
    unitState_eq_bot_iff, usedState_compensation_eq_bot_iff, CompensatedCounts, Option.mem_def]
  constructor
  · rintro ⟨⟨⟨paid, paidEq⟩, ⟨amount, amountEq⟩, agrees⟩, counts⟩
    obtain ⟨nonnegative, matching⟩ := agrees amount amountEq
    exact ⟨paid, amount, paidEq, amountEq, counts paid paidEq, nonnegative, matching paid paidEq⟩
  · rintro ⟨paid, amount, paidEq, amountEq, counts, nonnegative, matching⟩
    refine ⟨⟨⟨paid, paidEq⟩, ⟨amount, amountEq⟩, ?_⟩, ?_⟩
    · simpa [CompensationAgrees, paidEq, amountEq] using ⟨nonnegative, matching⟩
    · simpa [paidEq] using counts

theorem incomeState_eq_bot_iff : request.incomeState = ⊥ ↔ request.HasIncome := by
  unfold incomeState HasIncome
  rw [orNext_eq_bot_iff, compensationState_eq_bot_iff, worst_eq_bot_iff]
  simp only [List.mem_map, forall_exists_index, and_imp, forall_apply_eq_imp_iff₂,
    amountState_eq_bot_iff]

theorem baseState_eq_some_bot_iff : request.baseState = some ⊥ ↔ request.HasTaxBase := by
  unfold baseState HasTaxBase
  split_ifs
  · rw [Option.some_inj, otherState_eq_bot_iff]
  · rw [Option.some_inj, costState_eq_bot_iff]
  · rw [Option.some_inj, incomeState_eq_bot_iff]
  · have stated : (∃ amount, request.amount? request.taxBaseMetricId = some amount) →
        ∃ value, request.stated? request.taxBaseMetricId (.amount request.currency) = some value := by
      rintro ⟨amount, present⟩
      obtain ⟨value, stated, -⟩ := Option.bind_eq_some_iff.mp present
      exact ⟨value, stated⟩
    have used : request.usedState request.taxBaseMetricId = ⊥ ↔
        (∃ amount, request.amount? request.taxBaseMetricId = some amount) ∧
          (request.taxBaseMetricId = "return_compensation_amount" → request.CompensationAgrees) := by
      by_cases compensation : request.taxBaseMetricId = "return_compensation_amount"
      · rw [compensation, usedState_compensation_eq_bot_iff]
        simp
      · rw [usedState_of_ne compensation, amountState_eq_bot_iff]
        simp [compensation]
    rw [Option.map_eq_some_iff, ← used]
    constructor
    · rintro ⟨value, -, state⟩
      exact state
    · intro state
      obtain ⟨value, present⟩ := stated (used.mp state).1
      exact ⟨value, present, state⟩

theorem taxState_eq_bot_iff : request.taxState = ⊥ ↔ request.HasTax := by
  unfold HasTax
  rw [← baseState_eq_some_bot_iff]
  unfold taxState
  cases request.statedRate? with
  | none => simp
  | some rate =>
      cases request.baseState with
      | none => simp
      | some base =>
          simp only [worst_eq_bot_iff, List.forall_mem_cons, List.not_mem_nil, false_imp_iff,
            implies_true, and_true, Option.some_inj, exists_eq_left']
          rfl

theorem profitState_eq_bot_iff : request.profitState = ⊥ ↔ request.HasProfit := by
  unfold profitState HasProfit
  rw [worst_eq_bot_iff]
  simp only [List.forall_mem_cons, List.not_mem_nil, false_imp_iff, implies_true, and_true,
    incomeState_eq_bot_iff, costState_eq_bot_iff, otherState_eq_bot_iff, taxState_eq_bot_iff]

theorem perUnitState_eq_bot_iff : request.perUnitState = ⊥ ↔ request.HasProfitPerUnit := by
  unfold perUnitState HasProfitPerUnit
  rw [orNext_eq_bot_iff, worst_eq_bot_iff, blockedUnless_eq_bot]
  simp only [List.forall_mem_cons, List.not_mem_nil, false_imp_iff, implies_true, and_true,
    profitState_eq_bot_iff, netState_eq_bot_iff, SoldMore, Option.mem_def]
  constructor
  · rintro ⟨⟨profit, sold, back, soldEq, backEq, -⟩, more⟩
    exact ⟨profit, sold, back, soldEq, backEq, Int.sub_pos.mpr (more sold soldEq back backEq)⟩
  · rintro ⟨profit, sold, back, soldEq, backEq, more⟩
    -- The product cost already needs the net units.
    refine ⟨⟨profit, profit.2.1.1⟩, ?_⟩
    simpa [soldEq, backEq] using Int.sub_pos.mp more

end KernelRequest

/-! ### The published metrics -/

/-- Every metric has a value exactly when all that it mandates is given, and a
metric without a value is `null` with a reason. -/
structure FailsClosed (request : KernelRequest) (results : KernelResults) : Prop where
  /-- The net units. -/
  netSoldUnits : results.netSoldUnits.value.state = .valid ↔ request.HasNetUnits
  /-- The product cost. -/
  productCost : results.productCostAmount.value.state = .valid ↔ request.HasProductCost
  /-- The other expenses. -/
  otherExpense : results.otherExpenseAmount.value.state = .valid ↔ request.HasOtherExpense
  /-- The tax. -/
  tax : results.taxAmount.value.state = .valid ↔ request.HasTax
  /-- The income. -/
  income : results.netMarketplaceIncomeAmount.value.state = .valid ↔ request.HasIncome
  /-- The profit. -/
  profit : results.netProfitAmount.value.state = .valid ↔ request.HasProfit
  /-- The profit per unit. -/
  profitPerUnit : results.profitPerSoldUnit.value.state = .valid ↔ request.HasProfitPerUnit
  /-- The profitability of costs. -/
  profitability : results.profitabilityOfCosts.value.state = .nonvalid .blocked
  /-- A metric without a value is `null` and has a reason. -/
  nonvalid : ∀ published ∈ results.metrics, published.value.state ≠ .valid →
    published.value.value = .null ∧ ∃ reason, published.value.reasonCode = some reason ∧ reason ≠ ""

/-- Every accepted calculation fails closed. -/
theorem calculate_failsClosed
    {request : Json}
    {payload : KernelPayload}
    (accepted : calculate request = .ok payload) :
    ∃ read, readRequest request = .ok read ∧ FailsClosed read payload.results := by
  obtain ⟨read, readEq, states⟩ := calculate_publishesStates accepted
  refine ⟨read, readEq, {
    netSoldUnits := ?_
    productCost := ?_
    otherExpense := ?_
    tax := ?_
    income := ?_
    profit := ?_
    profitPerUnit := ?_
    profitability := states.profitability
    nonvalid := states.nonvalid }⟩
  · rw [states.netSoldUnits]
    exact KernelRequest.netState_eq_bot_iff
  · rw [states.productCost]
    exact KernelRequest.costState_eq_bot_iff
  · rw [states.otherExpense]
    exact KernelRequest.otherState_eq_bot_iff
  · rw [states.tax]
    exact KernelRequest.taxState_eq_bot_iff
  · rw [states.income]
    exact KernelRequest.incomeState_eq_bot_iff
  · rw [states.profit]
    exact KernelRequest.profitState_eq_bot_iff
  · rw [states.profitPerUnit]
    exact KernelRequest.perUnitState_eq_bot_iff

/-! ### A request -/

/-- A rounding policy with kopecks as the money scale. -/
def roublePolicy : Json :=
  .obj [("actor", .str "a"),
    ("application_points", .arr [.str "RULE_INPUT_NORMALIZATION", .str "RULE_COMPONENT_RESULT",
      .str "METRIC_FINAL_ACCOUNTING"]),
    ("approval_reference", .null), ("calculation_mode", .str "HALF_UP"),
    ("calculation_scale", .int 4), ("change_reason", .str "r"),
    ("content_hash", .str "b2c67252fe929620d8e1754d2fa46037ac3fb42ebb4f6960772c244a21bf70da"),
    ("created_at", .str "2026-01-01T00:00:00Z"), ("currency_presentation_scales", .obj []),
    ("max_input_precision", .int 12), ("max_input_scale", .int 4), ("money_scale", .int 2),
    ("policy_id", .str "p"), ("presentation_mode", .str "HALF_UP"), ("presentation_scale", .int 2),
    ("rate_scale", .int 4), ("source", .str "s"), ("status", .str "ACTIVE"), ("supersedes", .null),
    ("version", .int 1)]

/-- A value as it is written; a state other than `VALID` has a reason and no
value. -/
def writtenValue (state valueType unit : String) (currency value : Json) : Json :=
  .obj [("currency", currency), ("reason_code", if state = "VALID" then .null else .str "R"),
    ("source_ids", .arr []), ("state", .str state), ("unit", .str unit),
    ("value", if state = "VALID" then value else .null), ("value_type", .str valueType)]

/-- A number of items as it is written. -/
def writtenItems (state value : String) : Json :=
  writtenValue state "INTEGER" "ITEM" .null (.str value)

/-- An amount in roubles as it is written. -/
def writtenAmount (state unit value : String) : Json :=
  writtenValue state "MONEY" unit (.str "RUB") (.str value)

/-- The inputs of a calculation for ten sold and two returned items, with the
states of the gross amount, the returned items and the compensated items. -/
def saleInputs (gross returned compensated : String) : JsonObject :=
  [("advertising_amount", writtenAmount "VALID" "MONEY" "50"),
    ("compensated_returned_units", writtenItems compensated "1"),
    ("discounts_amount", writtenAmount "VALID" "MONEY" "120.5"),
    ("fines_withholdings_amount", writtenAmount "VALID" "MONEY" "0"),
    ("forward_logistics_amount", writtenAmount "VALID" "MONEY" "300"),
    ("gross_sales_amount", writtenAmount gross "MONEY" "5000"),
    ("gross_sales_units", writtenItems "VALID" "10"),
    ("marketplace_commission_amount", writtenAmount "VALID" "MONEY" "750.25"),
    ("resalable_returned_units", writtenItems "VALID" "1"),
    ("return_compensation_amount", writtenAmount "VALID" "MONEY" "90"),
    ("returned_units", writtenItems returned "2"),
    ("reverse_logistics_amount", writtenAmount "VALID" "MONEY" "60"),
    ("storage_amount", writtenAmount "VALID" "MONEY" "15"),
    ("subsidies_excluding_return_compensation_amount", writtenAmount "VALID" "MONEY" "10")]

/-- A request for a calculation with a tax on the income. -/
def saleRequest (inputs : JsonObject) (costState : String) : Json :=
  .obj [("calculated_at", .str "2026-06-02T00:00:00Z"), ("calculation_id", .str "c"),
    ("cost_per_unit", writtenAmount costState "MONEY_PER_ITEM" "200.5"), ("currency", .str "RUB"),
    ("inputs", .obj inputs), ("mode", .str "ACTUAL"), ("organization_id", .str "org"),
    ("other_expense_components", .arr [.obj [("component_id", .str "packing"),
      ("value", writtenAmount "VALID" "MONEY_PER_ITEM" "3")]]),
    ("profile_ref", .obj [("content_hash",
      .str "b2c67252fe929620d8e1754d2fa46037ac3fb42ebb4f6960772c244a21bf70da"), ("id", .str "f"),
      ("version", .int 1)]),
    ("profile_status", .str "PILOT"), ("rounding_policy", roublePolicy), ("scenario_id", .null),
    ("tax_base_metric_id", .str "net_marketplace_income_amount"),
    ("tax_rate", writtenValue "VALID" "RATE" "RATE" .null (.str "0.06"))]

/-- A request in which every value is stated is accepted. -/
theorem saleRequest_accepted :
    ∃ payload, calculate (saleRequest (saleInputs "VALID" "VALID" "VALID") "VALID") =
      .ok payload :=
  Checks.exists_eq_ok _ (by decide +kernel)

theorem calculate_failsClosed_sale :
    ∃ payload read, calculate (saleRequest (saleInputs "VALID" "VALID" "VALID") "VALID") =
      .ok payload ∧
      readRequest (saleRequest (saleInputs "VALID" "VALID" "VALID") "VALID") = .ok read ∧
      FailsClosed read payload.results := by
  obtain ⟨payload, accepted⟩ := saleRequest_accepted
  obtain ⟨read, readEq, closed⟩ := calculate_failsClosed accepted
  exact ⟨payload, read, accepted, readEq, closed⟩

end Finance
end QuantumAnalytics
