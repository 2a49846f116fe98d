import Mathlib.Tactic.MkIffOfInductiveProp
import QuantumAnalytics.Finance.KernelStates
import QuantumAnalytics.Foundations.DecimalDivision

/-!
# The oracle of the calculation

The reference calculation in exact arithmetic: every metric is one formula over
the numbers of a case. For numbers of a known size the metrics have known sizes.
-/

namespace QuantumAnalytics
namespace Finance

/-- The names of the amounts of a case. -/
def amountNames : List String := "return_compensation_amount" :: incomeNames

/-- The metrics besides the amounts on which tax may be levied. -/
def derivedNames : List String :=
  ["net_marketplace_income_amount", "product_cost_amount", "other_expense_amount"]

/-- An expense of a case. -/
structure OracleExpense where
  /-- The unit. -/
  unit : String
  /-- The amount, or the amount per item. -/
  value : ℚ
  deriving DecidableEq

/-- A case of `reference_calculate`. -/
structure OracleCase where
  /-- The amounts by their names. -/
  inputs : String → ℚ
  /-- The number of sold items. -/
  grossSalesUnits : ℤ
  /-- The number of returned items. -/
  returnedUnits : ℤ
  /-- The number of returned items that are sold again. -/
  resalableReturnedUnits : ℤ
  /-- The number of returned items that are compensated. -/
  compensatedReturnedUnits : ℤ
  /-- The cost per unit. -/
  costPerUnit : ℚ
  /-- The other expenses. -/
  otherExpenses : List OracleExpense
  /-- The metric on which tax is levied. -/
  taxBaseMetricId : String
  /-- The tax rate. -/
  taxRate : ℚ

namespace OracleCase

variable (oracle : OracleCase)

/-- The case passes the check `RETURN_UNIT_SEMANTICS_INVALID`. -/
def ReturnUnitSemantics : Prop :=
  0 ≤ oracle.grossSalesUnits ∧ 0 ≤ oracle.returnedUnits ∧ 0 ≤ oracle.resalableReturnedUnits ∧
    0 ≤ oracle.compensatedReturnedUnits ∧ oracle.returnedUnits ≤ oracle.grossSalesUnits ∧
      oracle.resalableReturnedUnits + oracle.compensatedReturnedUnits ≤ oracle.returnedUnits

/-- The case passes the check `RETURN_COMPENSATION_SEMANTICS_INVALID`. -/
def ReturnCompensationSemantics : Prop :=
  0 ≤ oracle.inputs "return_compensation_amount" ∧
    (oracle.compensatedReturnedUnits = 0 → oracle.inputs "return_compensation_amount" = 0) ∧
    (0 < oracle.compensatedReturnedUnits → 0 < oracle.inputs "return_compensation_amount")

instance : Decidable oracle.ReturnUnitSemantics := by
  unfold ReturnUnitSemantics
  infer_instance

instance : Decidable oracle.ReturnCompensationSemantics := by
  unfold ReturnCompensationSemantics
  infer_instance

/-! ### The formulas -/

/-- `net_units`. -/
def netUnits : ℤ := oracle.grossSalesUnits - oracle.returnedUnits

/-- `cost`. -/
def cost : ℚ := oracle.costPerUnit * (oracle.grossSalesUnits - oracle.resalableReturnedUnits : ℤ)

/-- The amount of an expense. -/
def expenseAmount (expense : OracleExpense) : ℚ :=
  if expense.unit = "MONEY_PER_ITEM" then expense.value * oracle.netUnits else expense.value

/-- `other`. -/
def other : ℚ := (oracle.otherExpenses.map oracle.expenseAmount).sum

/-- `marketplace`. -/
def marketplace : ℚ :=
  oracle.inputs "gross_sales_amount"
    - oracle.inputs "discounts_amount"
    + oracle.inputs "subsidies_excluding_return_compensation_amount"
    + oracle.inputs "return_compensation_amount"
    - oracle.inputs "marketplace_commission_amount"
    - oracle.inputs "forward_logistics_amount"
    - oracle.inputs "reverse_logistics_amount"
    - oracle.inputs "storage_amount"
    - oracle.inputs "advertising_amount"
    - oracle.inputs "fines_withholdings_amount"

/-- `bases`: a derived amount comes before an input of the same name. -/
def base (metricId : String) : ℚ :=
  if metricId = "other_expense_amount" then oracle.other
  else if metricId = "product_cost_amount" then oracle.cost
  else if metricId = "net_marketplace_income_amount" then oracle.marketplace
  else oracle.inputs metricId

/-- `tax`. -/
def tax : ℚ := oracle.base oracle.taxBaseMetricId * oracle.taxRate

/-- `profit`. -/
def profit : ℚ := oracle.marketplace - oracle.cost - oracle.other - oracle.tax

/-- `ppu`: the profit per unit, without a value unless there are net units. -/
def profitPerUnit : Option ℚ :=
  if oracle.netUnits ≤ 0 then none else some (oracle.profit / oracle.netUnits)

/-- Every number of the case has at most `scale` decimal places. -/
@[mk_iff] structure OnScale (scale : Nat) : Prop where
  /-- The amounts. -/
  amounts : ∀ name ∈ amountNames, OnGrid scale (oracle.inputs name)
  /-- The cost per unit. -/
  costPerUnit : OnGrid scale oracle.costPerUnit
  /-- The expenses. -/
  otherExpenses : ∀ expense ∈ oracle.otherExpenses, OnGrid scale expense.value
  /-- The tax rate. -/
  taxRate : OnGrid scale oracle.taxRate

instance (scale : Nat) : Decidable (oracle.OnScale scale) :=
  decidable_of_iff _ (onScale_iff oracle scale).symm

/-! ### The sizes of the metrics -/

/-- The numbers of the case have a size. -/
structure Within (scale : Nat) (bound : ℚ) : Prop where
  /-- The amounts. -/
  amounts : ∀ name ∈ amountNames, Sized scale bound (oracle.inputs name)
  /-- The cost per unit. -/
  costPerUnit : Sized scale bound oracle.costPerUnit
  /-- The expenses. -/
  otherExpenses : ∀ expense ∈ oracle.otherExpenses, Sized scale bound expense.value
  /-- The tax rate. -/
  taxRate : Sized scale bound oracle.taxRate
  /-- The number of sold items. -/
  counted : |(oracle.grossSalesUnits : ℚ)| ≤ bound
  /-- The number of expenses. -/
  few : oracle.otherExpenses.length ≤ maxOtherExpenseComponents
  /-- The bound is at least one. -/
  one : 1 ≤ bound

variable {oracle} {scale : Nat} {bound : ℚ}

theorem netUnits_nonneg (semantics : oracle.ReturnUnitSemantics) : 0 ≤ oracle.netUnits :=
  Int.sub_nonneg.mpr semantics.2.2.2.2.1

/-- A part of the sold items is bounded like these. -/
theorem sized_part
    (counted : |(oracle.grossSalesUnits : ℚ)| ≤ bound)
    {part : ℤ}
    (nonnegative : 0 ≤ part)
    (le : part ≤ oracle.grossSalesUnits) : Sized 0 bound part := by
  refine .intCast (le_trans ?_ counted)
  exact_mod_cast abs_le_abs_of_nonneg nonnegative le

theorem sized_netUnits
    (counted : |(oracle.grossSalesUnits : ℚ)| ≤ bound)
    (semantics : oracle.ReturnUnitSemantics) : Sized 0 bound oracle.netUnits :=
  sized_part counted (netUnits_nonneg semantics) (by
    have := semantics.2.1
    unfold netUnits
    omega)

theorem sized_cost
    (within : oracle.Within scale bound)
    (semantics : oracle.ReturnUnitSemantics) : Sized scale (bound * bound) oracle.cost := by
  obtain ⟨-, -, resold, paid, part, split⟩ := semantics
  exact within.costPerUnit.mul (sized_part within.counted (by omega) (by omega))

theorem sized_expenseAmount
    (within : oracle.Within scale bound)
    (semantics : oracle.ReturnUnitSemantics)
    {expense : OracleExpense}
    (present : expense ∈ oracle.otherExpenses) :
    Sized scale (bound * bound) (oracle.expenseAmount expense) := by
  have sized := within.otherExpenses expense present
  unfold expenseAmount
  split_ifs
  · exact sized.mul (sized_netUnits within.counted semantics)
  · have one := within.one
    exact sized.mono le_rfl (by nlinarith)

theorem sized_other
    (within : oracle.Within scale bound)
    (semantics : oracle.ReturnUnitSemantics) :
    Sized scale (64 * (bound * bound)) oracle.other := by
  have each : ∀ x ∈ oracle.otherExpenses.map oracle.expenseAmount,
      Sized scale (bound * bound) x := by
    intro x present
    obtain ⟨expense, inExpenses, rfl⟩ := List.mem_map.mp present
    exact sized_expenseAmount within semantics inExpenses
  have one := within.one
  have few : ((oracle.otherExpenses.map oracle.expenseAmount).length : ℚ) ≤ 64 := by
    rw [List.length_map]
    exact_mod_cast within.few
  exact (Sized.sum each).mono le_rfl (mul_le_mul_of_nonneg_right few (by nlinarith))

theorem sized_marketplace (within : oracle.Within scale bound) :
    Sized scale (10 * bound) oracle.marketplace := by
  have each : ∀ name ∈ amountNames, Sized scale bound (oracle.inputs name) := within.amounts
  simp only [amountNames, incomeNames, List.forall_mem_cons, List.not_mem_nil, false_imp_iff,
    implies_true, and_true] at each
  obtain ⟨paid, gross, discounts, subsidies, commission, forward, reverse, storage, advertising,
    fines⟩ := each
  exact (((((((((gross.sub discounts).add subsidies).add paid).sub commission).sub forward).sub
    reverse).sub storage).sub advertising).sub fines).mono le_rfl (by linarith)

theorem sized_base
    (within : oracle.Within scale bound)
    (semantics : oracle.ReturnUnitSemantics)
    (known : oracle.taxBaseMetricId ∈ derivedNames ++ amountNames) :
    Sized scale (64 * (bound * bound)) (oracle.base oracle.taxBaseMetricId) := by
  have one := within.one
  unfold base
  split_ifs with other cost income
  · exact sized_other within semantics
  · exact (sized_cost within semantics).mono le_rfl (by nlinarith)
  · exact (sized_marketplace within).mono le_rfl (by nlinarith)
  · have input : oracle.taxBaseMetricId ∈ amountNames := by
      simpa [derivedNames, other, cost, income] using known
    exact (within.amounts _ input).mono le_rfl (by nlinarith)

theorem sized_tax
    (within : oracle.Within scale bound)
    (semantics : oracle.ReturnUnitSemantics)
    (known : oracle.taxBaseMetricId ∈ derivedNames ++ amountNames) :
    Sized (scale + scale) (64 * bound ^ 3) oracle.tax :=
  ((sized_base within semantics known).mul within.taxRate).mono le_rfl (by
    rw [pow_succ, pow_two, mul_assoc])

theorem sized_profit
    (within : oracle.Within scale bound)
    (semantics : oracle.ReturnUnitSemantics)
    (known : oracle.taxBaseMetricId ∈ derivedNames ++ amountNames) :
    Sized (scale + scale) (200 * bound ^ 3) oracle.profit := by
  have wide := Nat.le_add_right scale scale
  have income := (sized_marketplace within).mono wide le_rfl
  have cost := (sized_cost within semantics).mono wide le_rfl
  have other := (sized_other within semantics).mono wide le_rfl
  refine (((income.sub cost).sub other).sub (sized_tax within semantics known)).mono le_rfl ?_
  have one := within.one
  have square : bound ≤ bound ^ 2 := by nlinarith
  have cube : bound ^ 2 ≤ bound ^ 3 := by nlinarith
  nlinarith

end OracleCase

/-! ### The case of a request -/

/-- The expense that a component states. -/
def oracleExpense? (currency : CurrencyCode) (item : Json) : Option OracleExpense :=
  (statedExpense? currency item).bind fun stated =>
    stated.number?.map fun d => ⟨stated.signature.unit, d.toRat⟩

/-- The expenses that a request states. -/
def KernelRequest.oracleExpenses (request : KernelRequest) : List (Option OracleExpense) :=
  match request.otherExpenseComponents with
  | .arr items => items.map (oracleExpense? request.currency)
  | _ => []

/-- The request states the case: every input has a value of the required
signature, the units and the compensation pass the oracle's checks, and all
numbers are representable at the scale of the calculation. -/
@[mk_iff] structure IsOracleCase (request : KernelRequest) (oracle : OracleCase) : Prop where
  /-- The number of sold items. -/
  grossSalesUnits : request.units? "gross_sales_units" = some oracle.grossSalesUnits
  /-- The number of returned items. -/
  returnedUnits : request.units? "returned_units" = some oracle.returnedUnits
  /-- The number of returned items that are sold again. -/
  resalableReturnedUnits :
    request.units? "resalable_returned_units" = some oracle.resalableReturnedUnits
  /-- The number of returned items that are compensated. -/
  compensatedReturnedUnits :
    request.units? "compensated_returned_units" = some oracle.compensatedReturnedUnits
  /-- The amounts. -/
  amounts : ∀ name ∈ amountNames,
    (request.amount? name).map Decimal.toRat = some (oracle.inputs name)
  /-- The cost per unit. -/
  costPerUnit :
    (request.statedCost?.bind Value.number?).map Decimal.toRat = some oracle.costPerUnit
  /-- The expenses. -/
  otherExpenses : request.oracleExpenses = oracle.otherExpenses.map some
  /-- There is at least one expense. -/
  someExpense : oracle.otherExpenses ≠ []
  /-- The tax rate. -/
  taxRate : (request.statedRate?.bind Value.number?).map Decimal.toRat = some oracle.taxRate
  /-- The metric on which tax is levied. -/
  taxBase : request.taxBaseMetricId = oracle.taxBaseMetricId
  /-- Tax is levied on an amount of the inputs or on a derived one. -/
  taxBaseKnown : oracle.taxBaseMetricId ∈ derivedNames ++ amountNames
  /-- The units pass their check. -/
  unitSemantics : oracle.ReturnUnitSemantics
  /-- The compensation passes its check. -/
  compensationSemantics : oracle.ReturnCompensationSemantics
  /-- The numbers are representable at the scale of the calculation. -/
  representable : oracle.OnScale request.policy.calculationScale

instance (request : KernelRequest) (oracle : OracleCase) :
    Decidable (IsOracleCase request oracle) :=
  decidable_of_iff _ (isOracleCase_iff request oracle).symm

end Finance
end QuantumAnalytics
