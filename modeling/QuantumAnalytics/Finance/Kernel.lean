import QuantumAnalytics.Finance.Rules

/-!
# The calculation kernel

The metrics of one calculation: units and product cost, other expenses,
marketplace income, tax, profit and profit per unit. Each metric is computed
from typed inputs and from other metrics, and a dependency without a value
leaves the metric without a value.
-/

namespace QuantumAnalytics
namespace Finance

/-! ### Signatures of the kernel -/

/-- `("MONEY", unit, currency)`. -/
def Signature.money (currency : CurrencyCode) (unit : String) (present : unit ≠ "") :
    Signature where
  valueType := .money
  unit := unit
  currency := some currency.val
  unitNonempty := present
  currencyFits := currency.property

/-- An amount of money. -/
abbrev Signature.amount (currency : CurrencyCode) : Signature :=
  .money currency "MONEY" moneyUnit_ne_empty

/-- An amount of money per item. -/
abbrev Signature.amountPerItem (currency : CurrencyCode) : Signature :=
  .money currency "MONEY_PER_ITEM" (by decide)

/-- A number of items. -/
def Signature.items : Signature where
  valueType := .integer
  unit := "ITEM"
  currency := none
  unitNonempty := by decide
  currencyFits := rfl

/-- A rate. -/
def Signature.rate : Signature where
  valueType := .rate
  unit := "RATE"
  currency := none
  unitNonempty := by decide
  currencyFits := rfl

/-- A rate in percent. -/
def Signature.percent : Signature where
  valueType := .rate
  unit := "PERCENT"
  currency := none
  unitNonempty := by decide
  currencyFits := rfl

/-! ### Common steps -/

/-- The typed inputs of a calculation. -/
abbrev Inputs := List (String × Value)

/-- The integer of a value that is asserted to have one. -/
def integerOf (value : Value) : Result Int :=
  match value.payload? with
  | some (.integer n) => .ok n
  | _ => .error .assertion

/-- The number of a value that is asserted to have one. -/
def numberOf (value : Value) : Result Decimal :=
  match value.payload? with
  | some (.number d) => .ok d
  | _ => .error .assertion

/-- The number that a decimal operation returns. -/
def decimalResult (outcome : Except DecimalSignal Decimal) : Result Decimal :=
  outcome.mapError .decimal

/-- A blocked value for a fixed reason and an id. -/
def blockedFor (signature : Signature) (reason metricId : String) (sourceIds : List String) :
    Value :=
  nonvalidValue .blocked signature (reason ++ ":" ++ metricId) sourceIds (by
    intro absent
    have lengths := congrArg String.length absent
    simp at lengths)

/-- `_expect`. -/
def expect (inputs : Inputs) (metricId : String) (signature : Signature) : Value :=
  match inputs.lookup metricId with
  | none => blockedFor signature "INPUT_REQUIRED_MISSING" metricId [metricId]
  | some value =>
      if value.signature.valueType ≠ signature.valueType ∨ value.signature.unit ≠ signature.unit then
        blockedFor signature "INPUT_SIGNATURE_MISMATCH" metricId value.sourceIds
      else if value.signature.currency ≠ signature.currency then
        blockedFor signature "CURRENCY_MISMATCH" metricId value.sourceIds
      else value

/-- The loop of `_money_sum`. -/
def sumTerms
    (ctx : DecimalContext)
    (currency : CurrencyCode)
    (total : Decimal)
    (sources : List String) : List (Int × Value) → Result Value
  | [] => makeValid (.number total) (.amount currency) sources
  | (sign, value) :: terms =>
      if value.signature.valueType ≠ .money ∨ value.signature.currency ≠ some currency.val then
        makeNonvalid .blocked (.amount currency) "CURRENCY_OR_TYPE_MISMATCH"
          (sources ++ value.sourceIds)
      else do
        let signed ← decimalResult (Decimal.mul ctx (Decimal.ofInt sign) (← numberOf value))
        let total ← decimalResult (Decimal.add ctx total signed)
        sumTerms ctx currency total (sources ++ value.sourceIds) terms

/-- `_money_sum`. -/
def moneySum (ctx : DecimalContext) (terms : List (Int × Value)) (currency : CurrencyCode) :
    Result Value :=
  match propagate (terms.map Prod.snd) (.amount currency) with
  | some propagated => .ok propagated
  | none => sumTerms ctx currency (Decimal.ofInt 0) [] terms

/-- The source prefix of an inherited reason. -/
def inheritedPrefix (state : NonvalidState) : String := "DEPENDENCY_" ++ state.text ++ ":"

/-- `while reason.startswith(prefix): reason = reason[len(prefix):]`, with the
length of the text as fuel. -/
def stripInherited (start : List Char) : Nat → List Char → List Char
  | 0, reason => reason
  | fuel + 1, reason =>
      if start.isPrefixOf reason then stripInherited start fuel (reason.drop start.length)
      else reason

/-- The reason without the prefixes that its state added. -/
def primaryReason (state : NonvalidState) (reason : String) : String :=
  String.ofList
    (stripInherited (inheritedPrefix state).toList reason.toList.length reason.toList)

/-! ### Units and product cost -/

/-- `_return_semantics_blocked`. -/
def returnSemanticsBlocked (sourceIds : List String) : Value :=
  nonvalidValue .blocked .items "RETURN_UNIT_SEMANTICS_INVALID" sourceIds (by decide)

/-- `_preserve_primary_reason`. -/
def preservePrimaryReason (value : Value) : Result Value :=
  match value.content with
  | .nonvalid state reason =>
      makeNonvalid state .items (primaryReason state reason) value.sourceIds
  | .valid _ => raise .valueStateInvalid

/-- The units that were not returned. -/
def netUnitsOf (gross returned : Value) : Result Value :=
  match propagate [gross, returned] .items with
  | some propagated => .ok propagated
  | none => do
      let grossUnits ← integerOf gross
      let returnedUnits ← integerOf returned
      let sources := gross.sourceIds ++ returned.sourceIds
      if grossUnits < 0 ∨ returnedUnits < 0 ∨ grossUnits < returnedUnits then
        return returnSemanticsBlocked sources
      else makeValid (.integer (grossUnits - returnedUnits)) .items sources

/-- The units whose cost is borne. -/
def costUnitsOf (gross returned resalable compensated : Value) : Result Value :=
  match propagate [gross, returned, resalable, compensated] .items with
  | some propagated => preservePrimaryReason propagated
  | none => do
      let grossUnits ← integerOf gross
      let returnedUnits ← integerOf returned
      let resalableUnits ← integerOf resalable
      let compensatedUnits ← integerOf compensated
      let sources :=
        gross.sourceIds ++ returned.sourceIds ++ resalable.sourceIds ++ compensated.sourceIds
      if grossUnits < 0 ∨ returnedUnits < 0 ∨ resalableUnits < 0 ∨ compensatedUnits < 0 ∨
          grossUnits < returnedUnits ∨ returnedUnits < resalableUnits + compensatedUnits then
        return returnSemanticsBlocked sources
      else makeValid (.integer (grossUnits - resalableUnits)) .items sources

/-- The cost of the given units. -/
def productCostOf
    (ctx : DecimalContext)
    (costUnits costPerUnit : Value)
    (currency : CurrencyCode) : Result Value :=
  match costUnits.content with
  | .nonvalid state reason => makeNonvalid state (.amount currency) reason costUnits.sourceIds
  | .valid _ =>
      if costPerUnit.signature ≠ .amountPerItem currency then
        makeNonvalid .blocked (.amount currency) "COST_RULE_SIGNATURE_MISMATCH"
          costPerUnit.sourceIds
      else
        match propagate [costPerUnit] (.amount currency) with
        | some propagated => .ok propagated
        | none => do
            let units ← integerOf costUnits
            let cost ← decimalResult
              (Decimal.mul ctx (Decimal.ofInt units) (← numberOf costPerUnit))
            makeValid (.number cost) (.amount currency)
              (costUnits.sourceIds ++ costPerUnit.sourceIds)

/-- `calculate_units_and_product_cost`. -/
def calculateUnitsAndProductCost
    (ctx : DecimalContext)
    (inputs : Inputs)
    (costPerUnit : Json)
    (policy : RoundingPolicy)
    (currency : CurrencyCode) : Result (Value × Value) := do
  let gross := expect inputs "gross_sales_units" .items
  let returned := expect inputs "returned_units" .items
  let resalable := expect inputs "resalable_returned_units" .items
  let compensated := expect inputs "compensated_returned_units" .items
  let net ← netUnitsOf gross returned
  let costUnits ← costUnitsOf gross returned resalable compensated
  let costPerUnit ← normalizeValue (← valueFromDict costPerUnit "cost_per_unit") policy
  return (net, ← productCostOf ctx costUnits costPerUnit currency)

/-! ### Other expenses -/

/-- The amount of one expense component. -/
def expenseAmount
    (ctx : DecimalContext)
    (net value : Value)
    (currency : CurrencyCode) : Result Value :=
  if value.signature.unit = "MONEY_PER_ITEM" then
    match propagate [net, value] (.amount currency) with
    | some propagated => .ok propagated
    | none => do
        let units ← integerOf net
        let amount ← decimalResult (Decimal.mul ctx (Decimal.ofInt units) (← numberOf value))
        makeValid (.number amount) (.amount currency) (net.sourceIds ++ value.sourceIds)
  else .ok value

/-- The signature of an expense component. -/
def isExpenseSignature (signature : Signature) (currency : CurrencyCode) : Bool :=
  signature.valueType = .money && signature.currency = some currency.val &&
    (signature.unit = "MONEY" || signature.unit = "MONEY_PER_ITEM")

/-- The members of an expense component. -/
def readComponent (item : Json) (seen : List String) : Result (String × Json) := do
  let .obj fields := item | raise .otherExpenseComponentsInvalid
  check (hasExactKeys fields ["component_id", "value"] = true) .otherExpenseComponentsInvalid
  let componentId ← requireSome (nonemptyString? (member fields "component_id"))
    (.finance .otherExpenseComponentsInvalid)
  check (componentId ∉ seen) .otherExpenseComponentsInvalid
  return (componentId, member fields "value")

/-- The loop of `calculate_other_expense`. -/
def sumExpenses
    (ctx : DecimalContext)
    (net : Value)
    (policy : RoundingPolicy)
    (currency : CurrencyCode)
    (seen : List String)
    (terms : List (Int × Value)) : List Json → Result Value
  | [] => moneySum ctx terms currency
  | item :: items => do
      let (componentId, raw) ← readComponent item seen
      let value ← normalizeValue (← valueFromDict raw ("other_expense:" ++ componentId)) policy
      if isExpenseSignature value.signature currency = false then
        makeNonvalid .blocked (.amount currency) "OTHER_EXPENSE_SIGNATURE_MISMATCH" value.sourceIds
      else
        let amount ← expenseAmount ctx net value currency
        sumExpenses ctx net policy currency (componentId :: seen) (terms ++ [(1, amount)]) items

/-- `calculate_other_expense`. -/
def calculateOtherExpense
    (ctx : DecimalContext)
    (raw : Json)
    (net : Value)
    (policy : RoundingPolicy)
    (currency : CurrencyCode) : Result Value :=
  match raw with
  | .arr (item :: items) => sumExpenses ctx net policy currency [] [] (item :: items)
  | _ => makeNonvalid .blocked (.amount currency) "OTHER_EXPENSE_RULE_REQUIRED_MISSING" []

/-! ### Income, tax and profit -/

/-- `_validated_return_compensation`. -/
def validatedReturnCompensation (inputs : Inputs) (currency : CurrencyCode) : Result Value :=
  let compensatedUnits := expect inputs "compensated_returned_units" .items
  let amount := expect inputs "return_compensation_amount" (.amount currency)
  match propagate [compensatedUnits, amount] (.amount currency) with
  | some propagated => .ok propagated
  | none => do
      let units ← integerOf compensatedUnits
      let number ← numberOf amount
      if units < 0 ∨ Decimal.lt number (Decimal.ofInt 0) = true ∨
          (units = 0 ∧ number.isZero = false) then
        makeNonvalid .blocked (.amount currency) "RETURN_COMPENSATION_SEMANTICS_INVALID"
          (compensatedUnits.sourceIds ++ amount.sourceIds)
      else return amount

/-- The amounts of the income with their signs, in the order in which they are
added; `none` stands for the return compensation. -/
def incomeTerms : List (Int × Option String) :=
  [(1, some "gross_sales_amount"), (-1, some "discounts_amount"),
    (1, some "subsidies_excluding_return_compensation_amount"), (1, none),
    (-1, some "marketplace_commission_amount"), (-1, some "forward_logistics_amount"),
    (-1, some "reverse_logistics_amount"), (-1, some "storage_amount"),
    (-1, some "advertising_amount"), (-1, some "fines_withholdings_amount")]

/-- The net marketplace income. -/
def incomeOf (ctx : DecimalContext) (inputs : Inputs) (currency : CurrencyCode) :
    Result Value := do
  let compensation ← validatedReturnCompensation inputs currency
  match compensation.content with
  | .nonvalid state reason =>
      makeNonvalid state (.amount currency) (primaryReason state reason) compensation.sourceIds
  | .valid _ =>
      moneySum ctx (incomeTerms.map fun (sign, metricId) =>
        (sign, (metricId.map fun id => expect inputs id (.amount currency)).getD compensation))
        currency

/-- The value of the metric on which tax is levied. -/
def taxBaseOf
    (inputs : Inputs)
    (taxBaseMetricId : String)
    (income productCost otherExpense : Value) : Option Value :=
  if taxBaseMetricId = "other_expense_amount" then some otherExpense
  else if taxBaseMetricId = "product_cost_amount" then some productCost
  else if taxBaseMetricId = "net_marketplace_income_amount" then some income
  else inputs.lookup taxBaseMetricId

/-- The tax at a rate on a base. -/
def taxOf
    (ctx : DecimalContext)
    (rate : Value)
    (base : Option Value)
    (taxBaseMetricId : String)
    (currency : CurrencyCode) : Result Value :=
  match base with
  | none => .ok (blockedFor (.amount currency) "TAX_BASE_MISSING" taxBaseMetricId [taxBaseMetricId])
  | some base =>
      if rate.signature ≠ .rate ∨ base.signature ≠ .amount currency then
        makeNonvalid .blocked (.amount currency) "TAX_RULE_SIGNATURE_MISMATCH"
          (rate.sourceIds ++ base.sourceIds)
      else
        match propagate [rate, base] (.amount currency) with
        | some propagated => .ok propagated
        | none => do
            let rateNumber ← numberOf rate
            let baseNumber ← numberOf base
            let tax ← decimalResult (Decimal.mul ctx baseNumber rateNumber)
            makeValid (.number tax) (.amount currency) (rate.sourceIds ++ base.sourceIds)

/-- The profit per unit that was not returned. -/
def profitPerUnitOf
    (ctx : DecimalContext)
    (profit netUnits : Value)
    (currency : CurrencyCode) : Result Value :=
  match propagate [profit, netUnits] (.amountPerItem currency) with
  | some propagated => .ok propagated
  | none => do
      let sources := profit.sourceIds ++ netUnits.sourceIds
      let units ← integerOf netUnits
      if units ≤ 0 then
        makeNonvalid .blocked (.amountPerItem currency)
          (if units = 0 then "ZERO_DENOMINATOR" else "NON_POSITIVE_DENOMINATOR") sources
      else
        let quotient ← decimalResult
          (Decimal.div ctx (← numberOf profit) (Decimal.ofInt units))
        makeValid (.number quotient) (.amountPerItem currency) sources

/-- The profitability of costs, whose denominator is not approved. -/
def profitabilityBlocked : Value :=
  nonvalidValue .blocked .percent "COST_DENOMINATOR_NOT_APPROVED" [] (by decide)

/-- What `calculate_settlement_tax_profit` returns. -/
structure Settlement where
  /-- The net marketplace income. -/
  income : Value
  /-- The tax. -/
  tax : Value
  /-- The net profit. -/
  profit : Value
  /-- The profit per sold unit. -/
  profitPerUnit : Value
  /-- The profitability of costs. -/
  profitability : Value

/-- `calculate_settlement_tax_profit`. -/
def calculateSettlementTaxProfit
    (ctx : DecimalContext)
    (inputs : Inputs)
    (taxRate : Json)
    (taxBaseMetricId : String)
    (policy : RoundingPolicy)
    (currency : CurrencyCode)
    (netUnits productCost otherExpense : Value) : Result Settlement := do
  let income ← incomeOf ctx inputs currency
  let rate ← normalizeValue (← valueFromDict taxRate "tax_rate") policy
  let base := taxBaseOf inputs taxBaseMetricId income productCost otherExpense
  let tax ← taxOf ctx rate base taxBaseMetricId currency
  let profit ← moneySum ctx [(1, income), (-1, productCost), (-1, otherExpense), (-1, tax)] currency
  let profitPerUnit ← profitPerUnitOf ctx profit netUnits currency
  return { income, tax, profit, profitPerUnit, profitability := profitabilityBlocked }

/-! ### Published metrics -/

/-- A reference to a version of a document. -/
structure VersionRef where
  /-- The id. -/
  id : String
  /-- The version. -/
  version : Int
  /-- The digest. -/
  contentHash : String

/-- The reference to a rounding policy. -/
def RoundingPolicy.ref (policy : RoundingPolicy) : VersionRef where
  id := policy.policyId
  version := policy.version
  contentHash := policy.contentHash

/-- The rounding that a published metric records. -/
structure MetricRounding where
  /-- The policy. -/
  policyRef : VersionRef
  /-- The mode. -/
  resolvedMode : RoundingMode
  /-- The scale. -/
  resolvedScale : Nat

/-- A published metric. -/
structure Metric where
  /-- The value as written. -/
  value : ValueDict
  /-- The accounting view. -/
  accountingView : String
  /-- The kinds of expense within the metric. -/
  expenseBoundary : List String
  /-- The rounding of a rounded value. -/
  rounding : Option MetricRounding

/-- `_metric`. -/
def metric
    (value : Value)
    (accountingView : String)
    (expenseBoundary : List String)
    (policy : RoundingPolicy)
    (finalRound : Bool) : Result Metric :=
  match value.payload?, finalRound with
  | some (.number d), true => do
      let (rounded, scale) ← quantize d policy .metricFinalAccounting value.signature.valueType
      let value ← makeValid (.number rounded) value.signature value.sourceIds
      return {
        value := valueToDict value (some scale)
        accountingView, expenseBoundary
        rounding := some {
          policyRef := policy.ref
          resolvedMode := policy.calculationMode
          resolvedScale := scale } }
  | _, _ => .ok {
      value := valueToDict value none
      accountingView, expenseBoundary
      rounding := none }

/-- The results of a calculation. -/
structure KernelResults where
  netSoldUnits : Metric
  productCostAmount : Metric
  otherExpenseAmount : Metric
  taxAmount : Metric
  netMarketplaceIncomeAmount : Metric
  netProfitAmount : Metric
  profitPerSoldUnit : Metric
  profitabilityOfCosts : Metric

/-- The expenses of the marketplace. -/
def marketplaceBoundary : List String :=
  ["MARKETPLACE_COMMISSION", "FORWARD_LOGISTICS", "REVERSE_LOGISTICS", "STORAGE", "ADVERTISING",
    "FINES_WITHHOLDINGS"]

/-- All expenses. -/
def profitBoundary : List String :=
  marketplaceBoundary ++ ["PRODUCT_COST", "OTHER_EXPENSE", "TAX"]

/-! ### Requests -/

/-- `_KERNEL_INPUT_NAMES`. -/
def kernelInputNames : List String :=
  ["gross_sales_units", "returned_units", "resalable_returned_units",
    "compensated_returned_units", "return_compensation_amount", "gross_sales_amount",
    "discounts_amount", "subsidies_excluding_return_compensation_amount",
    "marketplace_commission_amount", "forward_logistics_amount", "reverse_logistics_amount",
    "storage_amount", "advertising_amount", "fines_withholdings_amount"]

/-- `_MAX_OTHER_EXPENSE_COMPONENTS`. -/
def maxOtherExpenseComponents : Nat := 64

/-- `_validate_ref`. -/
def validateRef (value : Json) (code : FinanceCode) : Result VersionRef := do
  let .obj fields := value | raise code
  check (hasExactKeys fields ["id", "version", "content_hash"] = true) code
  let id ← requireSome (nonemptyString? (member fields "id")) (.finance code)
  let version ← requireSome (positiveInt? (member fields "version")) (.finance code)
  let contentHash ← requireSome ((text? (member fields "content_hash")).filter PyText.isHexDigest)
    (.finance code)
  return { id, version, contentHash }

/-- A request whose envelope is accepted; the values are still as written. -/
structure KernelRequest where
  /-- The document. -/
  document : JsonObject
  /-- The calculation's id. -/
  calculationId : String
  /-- The tenant. -/
  organizationId : String
  /-- The mode. -/
  mode : CalculationMode
  /-- When, as written. -/
  calculatedAt : String
  /-- The calculation profile. -/
  profileRef : VersionRef
  /-- The rounding policy. -/
  policy : RoundingPolicy
  /-- The currency. -/
  currency : CurrencyCode
  /-- The inputs. -/
  inputs : JsonObject
  /-- The cost per unit. -/
  costPerUnit : Json
  /-- The expense components. -/
  otherExpenseComponents : Json
  /-- The tax rate. -/
  taxRate : Json
  /-- The metric on which tax is levied. -/
  taxBaseMetricId : String

/-- The members of a request. -/
def requestKeys : List String :=
  ["calculation_id", "organization_id", "mode", "scenario_id", "calculated_at", "profile_ref",
    "profile_status", "rounding_policy", "currency", "inputs", "cost_per_unit",
    "other_expense_components", "tax_rate", "tax_base_metric_id"]

/-- A currency code. -/
def readCurrency (value : Json) : Result CurrencyCode :=
  match text? value with
  | some code =>
      if valid : PyText.isCurrencyCode code = true then .ok ⟨code, valid⟩
      else raise .kernelCurrencyInvalid
  | none => raise .kernelCurrencyInvalid

/-- `raw_inputs`: a mapping of known names. -/
def readInputs (value : Json) : Result JsonObject :=
  match value with
  | .obj fields =>
      if fields.length ≤ kernelInputNames.length ∧
          fields.all (fun field => field.1 ∈ kernelInputNames) = true then .ok fields
      else raise .kernelInputsInvalid
  | _ => raise .kernelInputsInvalid

/-- The number of expense components; anything but a list counts as one. -/
def countExpenses (value : Json) : Result Nat :=
  match value with
  | .arr items =>
      if items.length ≤ maxOtherExpenseComponents then .ok items.length
      else raise .otherExpenseComponentsInvalid
  | _ => .ok 1

/-- The checks of `calculate` before any value is read. -/
def readRequest (request : Json) : Result KernelRequest := do
  let .obj fields := request | raise .kernelRequestInvalid
  check (hasExactKeys fields requestKeys = true) .kernelRequestInvalid
  let calculationId ← requireSome (nonemptyString? (member fields "calculation_id"))
    (.finance .kernelRequestInvalid)
  let organizationId ← requireSome (nonemptyString? (member fields "organization_id"))
    (.finance .kernelRequestInvalid)
  let taxBaseMetricId ← requireSome (nonemptyString? (member fields "tax_base_metric_id"))
    (.finance .kernelRequestInvalid)
  let mode ← readMode (member fields "mode") (member fields "scenario_id") .kernelRequestInvalid
  let _ ← lookUpOr (oneOf ["SHADOW", "PILOT"]) (member fields "profile_status")
    .profilePublicationBlocked
  let _ ← parseRfc3339 (member fields "calculated_at") .kernelTimestampInvalid
  let calculatedAt ← requireSome (text? (member fields "calculated_at"))
    (.finance .kernelTimestampInvalid)
  let profileRef ← validateRef (member fields "profile_ref") .profileReferenceMissing
  let policy ← validateRoundingPolicy (member fields "rounding_policy") true
  let currency ← readCurrency (member fields "currency")
  let inputs ← readInputs (member fields "inputs")
  let _ ← countExpenses (member fields "other_expense_components")
  return {
    document := fields
    calculationId, organizationId, mode, calculatedAt, profileRef, policy, currency, inputs
    costPerUnit := member fields "cost_per_unit"
    otherExpenseComponents := member fields "other_expense_components"
    taxRate := member fields "tax_rate"
    taxBaseMetricId }

namespace KernelRequest

/-- `expense_count`. -/
def expenseCount (request : KernelRequest) : Nat :=
  match request.otherExpenseComponents with
  | .arr items => items.length
  | _ => 1

/-- The working context of a calculation. -/
def context (request : KernelRequest) : DecimalContext :=
  request.policy.decimalContext (max 2 (request.inputs.length + request.expenseCount + 8))

end KernelRequest

/-! ### Calculation -/

/-- `parsed_inputs`. -/
def parseInputs : JsonObject → Result Inputs
  | [] => .ok []
  | (name, raw) :: fields => do
      let value ← valueFromDict raw name
      return (name, value) :: (← parseInputs fields)

/-- The compensation contradicts the compensated units, if these are known. -/
def contradicts (amount : Decimal) (units : Option Value) : Bool :=
  Decimal.lt amount (Decimal.ofInt 0) ||
    match units with
    | some units =>
        if units.signature = .items then
          match units.payload? with
          | some (.integer n) =>
              (n = 0 && !amount.isZero) || (0 < n && Decimal.le amount (Decimal.ofInt 0))
          | _ => false
        else false
    | none => false

/-- The sources of a contradiction: those of the amount and of valid units. -/
def contradictionSources (amount : Value) (units : Option Value) : List String :=
  match units with
  | some units =>
      if units.signature = .items ∧ units.payload?.isSome = true then
        amount.sourceIds ++ units.sourceIds
      else amount.sourceIds
  | none => amount.sourceIds

/-- `values[name] = value` of a present name. -/
def replaceInput (inputs : Inputs) (name : String) (value : Value) : Inputs :=
  inputs.map fun entry => if entry.1 = name then (name, value) else entry

theorem contradictionReason_ne_empty : "RETURN_COMPENSATION_SEMANTICS_INVALID" ≠ "" := by decide

/-- `_prevalidate_return_compensation`. -/
def prevalidateReturnCompensation (inputs : Inputs) (currency : CurrencyCode) : Inputs :=
  match inputs.lookup "return_compensation_amount" with
  | none => inputs
  | some amount =>
      match amount.payload? with
      | some (.number number) =>
          let units := inputs.lookup "compensated_returned_units"
          if amount.signature = .amount currency ∧ contradicts number units = true then
            replaceInput inputs "return_compensation_amount"
              (nonvalidValue .blocked (.amount currency) "RETURN_COMPENSATION_SEMANTICS_INVALID"
                (contradictionSources amount units) contradictionReason_ne_empty)
          else inputs
      | _ => inputs

/-- `inputs`: every value normalized. -/
def normalizeInputs (policy : RoundingPolicy) : Inputs → Result Inputs
  | [] => .ok []
  | (name, value) :: entries => do
      let value ← normalizeValue value policy
      return (name, value) :: (← normalizeInputs policy entries)

/-- The values from which the results are published. -/
structure KernelValues where
  /-- The net units. -/
  netUnits : Value
  /-- The product cost. -/
  productCost : Value
  /-- The other expenses. -/
  otherExpense : Value
  /-- Income, tax and profit. -/
  settlement : Settlement

/-- The normalized inputs of a request. -/
def kernelInputs (request : KernelRequest) : Result Inputs := do
  let parsed ← parseInputs request.inputs
  normalizeInputs request.policy (prevalidateReturnCompensation parsed request.currency)

/-- The values of a calculation. -/
def kernelValues (request : KernelRequest) : Result KernelValues := do
  let inputs ← kernelInputs request
  let (netUnits, productCost) ← calculateUnitsAndProductCost request.context inputs
    request.costPerUnit request.policy request.currency
  let otherExpense ← calculateOtherExpense request.context request.otherExpenseComponents netUnits
    request.policy request.currency
  let settlement ← calculateSettlementTaxProfit request.context inputs request.taxRate
    request.taxBaseMetricId request.policy request.currency netUnits productCost otherExpense
  return { netUnits, productCost, otherExpense, settlement }

/-- The published results of a calculation. -/
def publish (values : KernelValues) (policy : RoundingPolicy) : Result KernelResults := do
  let netSoldUnits ← metric values.netUnits "OPERATIONAL" [] policy false
  let productCostAmount ← metric values.productCost "OPERATIONAL" ["PRODUCT_COST"] policy true
  let otherExpenseAmount ← metric values.otherExpense "OPERATIONAL" ["OTHER_EXPENSE"] policy true
  let taxAmount ← metric values.settlement.tax "TAX_RECOGNITION" ["TAX"] policy true
  let netMarketplaceIncomeAmount ← metric values.settlement.income "SETTLEMENT" marketplaceBoundary
    policy true
  let netProfitAmount ← metric values.settlement.profit "SETTLEMENT" profitBoundary policy true
  let profitPerSoldUnit ← metric values.settlement.profitPerUnit "SETTLEMENT" profitBoundary policy
    true
  let profitabilityOfCosts ← metric values.settlement.profitability "SETTLEMENT" [] policy true
  return {
    netSoldUnits, productCostAmount, otherExpenseAmount, taxAmount, netMarketplaceIncomeAmount,
    netProfitAmount, profitPerSoldUnit, profitabilityOfCosts }

/-! ### The payload -/

/-- `KERNEL_SCHEMA_VERSION`. -/
def kernelSchemaVersion : String := "quantum-financial-kernel-result-v1"

/-- `PUBLICATION_STATE`. -/
def publicationState : String := "PREVIEW_ONLY"

/-- The limitations that every payload names. -/
def kernelLimitations : List String :=
  ["SOURCE_AUTHORITY_NOT_ACTIVATED", "REAL_COMMERCIAL_DATA_REQUIRES_ADMISSION",
    "B2_RECONCILIATION_REQUIRED", "EXPENSE_UNITS_PILOT_SCOPE",
    "PROFITABILITY_DENOMINATOR_NOT_APPROVED", "PRODUCTION_RELEASE_BLOCKED"]

/-- A reference as a JSON object. -/
def VersionRef.toJson (ref : VersionRef) : Json :=
  .obj [("content_hash", .str ref.contentHash), ("id", .str ref.id), ("version", .int ref.version)]

/-- The rounding of a metric as a JSON object. -/
def MetricRounding.toJson (rounding : MetricRounding) : Json :=
  .obj [("application_point", .str "METRIC_FINAL_ACCOUNTING"),
    ("policy_ref", rounding.policyRef.toJson),
    ("resolved_mode", .str rounding.resolvedMode.text),
    ("resolved_scale", .int rounding.resolvedScale)]

/-- A metric as a JSON object. -/
def Metric.toJson (metric : Metric) : Json :=
  .obj [("accounting_view", .str metric.accountingView),
    ("currency", optionalText metric.value.signature.currency),
    ("expense_boundary", .arr (metric.expenseBoundary.map .str)),
    ("reason_code", optionalText metric.value.reasonCode),
    ("rounding", (metric.rounding.map MetricRounding.toJson).getD .null),
    ("source_ids", .arr (metric.value.sourceIds.map .str)),
    ("state", .str metric.value.state.text),
    ("unit", .str metric.value.signature.unit),
    ("value", metric.value.value.toJson),
    ("value_type", .str metric.value.signature.valueType.text)]

/-- The results as a JSON object. -/
def KernelResults.toJson (results : KernelResults) : Json :=
  .obj [("net_marketplace_income_amount", results.netMarketplaceIncomeAmount.toJson),
    ("net_profit_amount", results.netProfitAmount.toJson),
    ("net_sold_units", results.netSoldUnits.toJson),
    ("other_expense_amount", results.otherExpenseAmount.toJson),
    ("product_cost_amount", results.productCostAmount.toJson),
    ("profit_per_sold_unit", results.profitPerSoldUnit.toJson),
    ("profitability_of_costs", results.profitabilityOfCosts.toJson),
    ("tax_amount", results.taxAmount.toJson)]

/-- The members of the payload, except for the digest of these members. -/
def payloadFields (request : KernelRequest) (results : KernelResults) : JsonObject :=
  [("calculated_at", .str request.calculatedAt),
    ("calculation_id", .str request.calculationId),
    ("input_hash", .str (canonicalHash request.document [])),
    ("limitations", .arr (kernelLimitations.map .str)),
    ("mode", member request.document "mode"),
    ("organization_id", .str request.organizationId),
    ("profile_ref", request.profileRef.toJson),
    ("publication_state", .str publicationState),
    ("results", results.toJson),
    ("rounding_policy_ref", request.policy.ref.toJson),
    ("scenario_id", member request.document "scenario_id"),
    ("schema_version", .str kernelSchemaVersion)]

/-- What `calculate` returns. -/
structure KernelPayload where
  /-- The results. -/
  results : KernelResults
  /-- The members of the payload, except for `result_hash`. -/
  fields : JsonObject
  /-- The digest of the members. -/
  resultHash : String

/-- `calculate`. -/
def calculate (request : Json) : Result KernelPayload := do
  let accepted ← readRequest request
  let results ← publish (← kernelValues accepted) accepted.policy
  let fields := payloadFields accepted results
  return { results, fields, resultHash := canonicalHash fields [] }

/-- An accepted request has been read, calculated and published. -/
theorem calculate_eq_ok {request : Json} {payload : KernelPayload} :
    calculate request = .ok payload ↔ ∃ accepted values results,
      readRequest request = .ok accepted ∧ kernelValues accepted = .ok values ∧
        publish values accepted.policy = .ok results ∧
          payload = ⟨results, payloadFields accepted results,
            canonicalHash (payloadFields accepted results) []⟩ := by
  unfold calculate
  simp only [Checks.bind_eq_ok, Checks.pure_eq_ok]
  constructor
  · rintro ⟨accepted, read, values, calculated, results, published, rfl⟩
    exact ⟨accepted, values, results, read, calculated, published, rfl⟩
  · rintro ⟨accepted, values, results, read, calculated, published, rfl⟩
    exact ⟨accepted, read, values, calculated, results, published, rfl⟩

end Finance
end QuantumAnalytics
