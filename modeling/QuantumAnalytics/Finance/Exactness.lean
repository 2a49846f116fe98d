import QuantumAnalytics.Finance.FailClosed
import QuantumAnalytics.Finance.Oracle

/-!
# Exactness of the calculation

Every published metric is the value of the oracle's formula, rounded once. The
working precision covers the digits of every intermediate result, so that only
the division by the net units and the final rounding lose digits; the division
keeps enough of them to be rounded like the exact quotient.
-/

namespace QuantumAnalytics
namespace Finance

open Severity

/-! ### Numbers of values -/

/-- The value carries the number. -/
def Carries (value : Value) (x : ℚ) : Prop := value.number?.map Decimal.toRat = some x

theorem Carries.exists
    {value : Value}
    {x : ℚ}
    (carries : Carries value x) : ∃ d, value.number? = some d ∧ d.toRat = x :=
  Option.map_eq_some_iff.mp carries

theorem Carries.valid
    {value : Value}
    {x : ℚ}
    (carries : Carries value x) : value.state = .valid := by
  obtain ⟨d, number, -⟩ := carries.exists
  exact Value.state_of_number? number

theorem Carries.toRat_eq
    {value : Value}
    {x : ℚ}
    {d : Decimal}
    (carries : Carries value x)
    (number : d ∈ value.number?) : d.toRat = x := by
  rw [Carries, number, Option.map_some] at carries
  exact Option.some.inj carries

theorem carries_of_number?
    {value : Value}
    {d : Decimal}
    (number : value.number? = some d) : Carries value d.toRat := by
  rw [Carries, number]
  rfl

/-! ### Rounded inputs -/

/-- The decimal places that a normalized input may have. -/
def RoundingPolicy.inputScale (policy : RoundingPolicy) : Nat :=
  min policy.calculationScale policy.maxInputScale

/-- The bound of a normalized input. -/
def RoundingPolicy.inputBound (policy : RoundingPolicy) : ℚ := 10 ^ policy.maxInputPrecision

section Represented

variable
    {policy : RoundingPolicy}
    {stated : Option Value}
    {signature : Signature}
    {value : Value}
    {d : Decimal}
    (represents : Represents policy stated signature value)
    (present : stated.bind Value.number? = some d)

include represents present

/-- A normalized input carries the rounded number. -/
theorem Represents.carries :
    Carries value (policy.calculationMode.atScale policy.calculationScale d.toRat) := by
  rw [Carries, represents.number, present]
  rfl

/-- The rounded number is within the limits of the policy. -/
theorem Represents.sized : Sized policy.inputScale policy.inputBound
    (policy.calculationMode.atScale policy.calculationScale d.toRat) := by
  obtain ⟨small, exponent⟩ := represents.limited d present
  refine ⟨?_, ?_⟩
  · rcases le_total policy.calculationScale policy.maxInputScale with coarse | fine
    · rw [RoundingPolicy.inputScale, min_eq_left coarse]
      exact .atScale _ _ _
    · have onGrid := d.onGrid exponent
      rw [RoundingPolicy.inputScale, min_eq_right fine, (onGrid.mono fine).atScale_eq]
      exact onGrid
  · have cast : |d.toRat| ≤ ((10 ^ policy.maxInputPrecision : ℤ) : ℚ) := by
      push_cast
      exact small.le
    have rounded := policy.calculationMode.abs_atScale_le policy.calculationScale cast
    rw [RoundingPolicy.inputBound]
    exact_mod_cast rounded

/-- A number at the scale of the calculation is kept. -/
theorem Represents.exact (onGrid : OnGrid policy.calculationScale d.toRat) :
    Carries value d.toRat ∧ Sized policy.inputScale policy.inputBound d.toRat := by
  have carries := represents.carries present
  have sized := represents.sized present
  rw [onGrid.atScale_eq] at carries sized
  exact ⟨carries, sized⟩

end Represented

/-! ### Exact sums -/

/-- The value of a term, with its sign. -/
def CarriesTerm (term : Int × Value) (number : Int × ℚ) : Prop :=
  term.1 = number.1 ∧ Carries term.2 number.2

/-- The sum of signed numbers. -/
def signedSum (numbers : List (Int × ℚ)) : ℚ :=
  (numbers.map fun number => (number.1 : ℚ) * number.2).sum

/-- Every addition of a money sum is exact while the precision covers the sum. -/
theorem toRat_of_addTerms
    {ctx : DecimalContext}
    {scale : Nat}
    {limit start bound : ℚ}
    (covers : Decimal.Covers ctx scale limit)
    {total sum : Decimal}
    {terms : List (Int × Value)}
    {amounts : List (Int × Decimal)}
    {numbers : List (Int × ℚ)}
    (related : List.Forall₂ IsAmountOf terms amounts)
    (carried : List.Forall₂ CarriesTerm terms numbers)
    (sized : ∀ number ∈ numbers, Sized scale bound (number.1 * number.2))
    (started : Sized scale start total.toRat)
    (fits : start + numbers.length * bound < limit)
    (added : addTerms ctx total amounts = .ok sum) :
    sum.toRat = total.toRat + signedSum numbers := by
  induction related generalizing total start numbers with
  | nil =>
      cases carried
      obtain rfl := Except.ok.inj added
      simp [signedSum]
  | @cons term amount terms amounts isAmount related inductionHypothesis =>
      cases carried with
      | @cons _ number _ rest carries carriedRest =>
          obtain ⟨signEq, amountEq⟩ := isAmount
          obtain ⟨sameSign, carriesAmount⟩ := carries
          have value := carriesAmount.toRat_eq amountEq
          have size := sized number List.mem_cons_self
          have startNonneg : 0 ≤ start := (abs_nonneg _).trans started.small
          have boundNonneg : 0 ≤ bound := (abs_nonneg _).trans size.small
          have restNonneg : 0 ≤ (rest.length : ℚ) * bound := by positivity
          rw [List.length_cons] at fits
          push_cast at fits
          simp only [addTerms, Checks.bind_eq_ok] at added
          obtain ⟨signed, multiplied, next, sumMade, added⟩ := added
          have operands : (Decimal.ofInt amount.1).toRat * amount.2.toRat =
              (number.1 : ℚ) * number.2 := by
            rw [Decimal.toRat_ofInt, signEq, sameSign, value]
          have signedEq := Decimal.toRat_of_mul multiplied (by
            rw [operands]
            exact covers.of_sized size le_rfl (by linarith))
          have nextSize : Sized scale (start + bound) (total.toRat + signed.toRat) := by
            rw [signedEq, operands]
            exact started.add size
          have nextEq := Decimal.toRat_of_add sumMade
            (covers.of_sized nextSize le_rfl (by linarith))
          rw [← nextEq] at nextSize
          have sumEq := inductionHypothesis carriedRest
            (fun other present => sized other (List.mem_cons_of_mem _ present)) nextSize
            (by linarith) added
          rw [sumEq, nextEq, signedEq, operands, signedSum, signedSum, List.map_cons,
            List.sum_cons, add_assoc]

/-- A sum that starts from zero is the sum of the signed numbers. -/
theorem sum_exact
    {ctx : DecimalContext}
    {scale : Nat}
    {limit bound : ℚ}
    (covers : Decimal.Covers ctx scale limit)
    {sum : Decimal}
    {terms : List (Int × Value)}
    {amounts : List (Int × Decimal)}
    {numbers : List (Int × ℚ)}
    (related : List.Forall₂ IsAmountOf terms amounts)
    (carried : List.Forall₂ CarriesTerm terms numbers)
    (sized : ∀ number ∈ numbers, Sized scale bound (number.1 * number.2))
    (fits : numbers.length * bound < limit)
    (added : addTerms ctx (Decimal.ofInt 0) amounts = .ok sum) :
    sum.toRat = signedSum numbers := by
  have zero : (Decimal.ofInt 0).toRat = 0 := by rw [Decimal.toRat_ofInt, Int.cast_zero]
  have started : Sized scale 0 (Decimal.ofInt 0).toRat := by
    rw [zero]
    exact ⟨.zero scale, by rw [abs_zero]⟩
  rw [toRat_of_addTerms covers related carried sized started (by rwa [zero_add]) added, zero,
    zero_add]

theorem valid_of_carriesTerm
    {terms : List (Int × Value)}
    {numbers : List (Int × ℚ)}
    (carried : List.Forall₂ CarriesTerm terms numbers) :
    ∀ term ∈ terms, term.2.state = .valid := by
  induction carried with
  | nil => nofun
  | cons first _ inductionHypothesis =>
      exact List.forall_mem_cons.mpr ⟨first.2.valid, inductionHypothesis⟩

/-- A money sum of carried numbers carries their sum. -/
theorem carries_moneySum
    {ctx : DecimalContext}
    {scale : Nat}
    {limit bound : ℚ}
    (covers : Decimal.Covers ctx scale limit)
    {currency : CurrencyCode}
    {terms : List (Int × Value)}
    {numbers : List (Int × ℚ)}
    {result : Value}
    (typed : ∀ term ∈ terms, term.2.signature = .amount currency)
    (carried : List.Forall₂ CarriesTerm terms numbers)
    (sized : ∀ number ∈ numbers, Sized scale bound (number.1 * number.2))
    (fits : numbers.length * bound < limit)
    (made : moneySum ctx terms currency = .ok result) : Carries result (signedSum numbers) := by
  obtain ⟨-, state, payload⟩ := moneySum_result typed made
  have valid : result.state = .valid := by
    rw [state]
    refine worst_eq_bot_iff.mpr fun state present => ?_
    obtain ⟨value, inValues, rfl⟩ := List.mem_map.mp present
    obtain ⟨term, inTerms, rfl⟩ := List.mem_map.mp inValues
    exact valid_of_carriesTerm carried term inTerms
  obtain ⟨amounts, sum, related, added, number⟩ := payload valid
  rw [← sum_exact covers related carried sized fits added]
  exact carries_of_number? number

/-! ### The working precision -/

namespace KernelRequest

variable (request : KernelRequest)

/-- The places of the largest product of inputs. -/
def workPlaces : Nat := request.policy.inputScale + request.policy.inputScale

/-- With a component there are at least nine numbers in the budget. -/
theorem le_prec (counted : 1 ≤ request.expenseCount) :
    9 * request.policy.maxInputPrecision + request.policy.workScale + 8 ≤ request.context.prec := by
  have budget : 9 ≤ max 2 (request.inputs.length + request.expenseCount + 8) :=
    le_max_of_le_right (by omega)
  have digits := Nat.mul_le_mul_left request.policy.maxInputPrecision budget
  simp only [context, RoundingPolicy.decimalContext]
  omega

theorem inputScale_le (policy : RoundingPolicy) :
    policy.inputScale ≤ policy.maxInputPrecision ∧ policy.inputScale ≤ policy.workScale ∧
      policy.inputScale ≤ maxRoundingScale := by
  have coarse := min_le_left policy.calculationScale policy.maxInputScale
  have fine := min_le_right policy.calculationScale policy.maxInputScale
  have agree := policy.limitsAgree.2
  have bounded := policy.scalesBounded.1
  unfold RoundingPolicy.inputScale RoundingPolicy.workScale
  refine ⟨by omega, ?_, by omega⟩
  simp only [le_sup_iff]
  omega

/-- The precision covers the digits of the profit. -/
theorem covers_context (counted : 1 ≤ request.expenseCount) :
    Decimal.Covers request.context request.workPlaces
      (10 ^ (3 * request.policy.maxInputPrecision + 3)) := by
  have prec := request.le_prec counted
  obtain ⟨digits, work, places⟩ := inputScale_le request.policy
  have limit := request.policy.limitsBounded.1
  have emin : request.context.emin = -999999 := rfl
  have emax : request.context.emax = 999999 := rfl
  unfold maxDecimalInputPrecision at limit
  unfold maxRoundingScale at places
  refine Decimal.covers_of_digits ?_ ?_ ?_
  · unfold workPlaces
    omega
  · unfold DecimalContext.etiny workPlaces
    rw [emin]
    push_cast
    omega
  · rw [emax]
    push_cast
    omega

theorem one_le_inputBound : 1 ≤ request.policy.inputBound := by
  unfold RoundingPolicy.inputBound
  exact one_le_pow₀ (by norm_num)

/-- The covered digits leave room beside the size of the profit. -/
theorem lt_covered
    {bound : ℚ}
    (below : bound ≤ 300 * request.policy.inputBound ^ 3) :
    bound < 10 ^ (3 * request.policy.maxInputPrecision + 3) := by
  have power : (10 : ℚ) ^ (3 * request.policy.maxInputPrecision + 3) =
      1000 * request.policy.inputBound ^ 3 := by
    rw [RoundingPolicy.inputBound, ← pow_mul, mul_comm _ 3, pow_add]
    norm_num
    ring
  have positive : 0 < request.policy.inputBound ^ 3 :=
    pow_pos (zero_lt_one.trans_le request.one_le_inputBound) 3
  rw [power]
  linarith

/-- A number within the size of the profit is representable. -/
theorem representable_of_sized
    (counted : 1 ≤ request.expenseCount)
    {scale : Nat}
    {bound x : ℚ}
    (sized : Sized scale bound x)
    (places : scale ≤ request.workPlaces)
    (below : bound ≤ 300 * request.policy.inputBound ^ 3) :
    Decimal.Representable request.context x :=
  (request.covers_context counted).of_sized sized places (request.lt_covered below)

end KernelRequest

/-! ### The metrics of a case -/

namespace IsOracleCase

variable {request : KernelRequest} {oracle : OracleCase} (stated : IsOracleCase request oracle)

include stated

/-- The expenses are a list of components, of which there is at least one. -/
theorem exists_components : ∃ items, request.otherExpenseComponents = .arr items ∧ items ≠ [] ∧
    items.map (oracleExpense? request.currency) = oracle.otherExpenses.map some := by
  have expenses := stated.otherExpenses
  have nonempty := stated.someExpense
  unfold KernelRequest.oracleExpenses at expenses
  split at expenses
  · rename_i items components
    refine ⟨items, components, ?_, expenses⟩
    rintro rfl
    exact nonempty (List.map_eq_nil_iff.mp expenses.symm)
  · exact absurd (List.map_eq_nil_iff.mp expenses.symm) nonempty

theorem counted : 1 ≤ request.expenseCount := by
  obtain ⟨items, components, nonempty, -⟩ := stated.exists_components
  unfold KernelRequest.expenseCount
  rw [components]
  exact List.length_pos_iff.mpr nonempty

theorem exists_amount {name : String} (present : name ∈ amountNames) :
    ∃ d, request.amount? name = some d ∧ d.toRat = oracle.inputs name :=
  Option.map_eq_some_iff.mp (stated.amounts name present)

theorem compensationAgrees : request.CompensationAgrees := by
  obtain ⟨nonnegative, none, some⟩ := stated.compensationSemantics
  intro amount present
  have same : amount.toRat = oracle.inputs "return_compensation_amount" := by
    have stated := stated.amounts "return_compensation_amount" (by decide)
    rw [present, Option.map_some] at stated
    exact Option.some.inj stated
  refine ⟨same ▸ nonnegative, fun units counted => ?_⟩
  obtain rfl := Option.some.inj (counted.symm.trans stated.compensatedReturnedUnits)
  exact ⟨fun zero => same.trans (none zero), fun positive => same ▸ some positive⟩

/-- Every amount is used as stated. -/
theorem usable_amount (name : String) :
    (request.usable? name (.amount request.currency)).bind Value.number? =
      request.amount? name := by
  rw [KernelRequest.usable?, if_neg fun all => all.2.2 stated.compensationAgrees]
  rfl

/-- Everything that the profit mandates is stated. -/
theorem hasProfit : request.HasProfit := by
  obtain ⟨gross, back, resold, paid, part, split⟩ := stated.unitSemantics
  have net : request.HasNetUnits :=
    ⟨_, _, stated.grossSalesUnits, stated.returnedUnits, back, part⟩
  have income : request.HasIncome := by
    have compensation : "return_compensation_amount" ∈ amountNames := List.mem_cons_self
    obtain ⟨amount, amountEq, value⟩ := stated.exists_amount compensation
    obtain ⟨nonnegative, none, some⟩ := stated.compensationSemantics
    rw [← value] at nonnegative none some
    refine ⟨⟨_, amount, stated.compensatedReturnedUnits, amountEq, paid, nonnegative, none, some⟩,
      fun name present => ?_⟩
    obtain ⟨other, otherEq, -⟩ := stated.exists_amount (List.mem_cons_of_mem _ present)
    exact ⟨other, otherEq⟩
  have cost : request.HasProductCost := by
    refine ⟨net, ⟨_, _, _, stated.returnedUnits, stated.resalableReturnedUnits,
      stated.compensatedReturnedUnits, resold, paid, split⟩, ?_⟩
    obtain ⟨d, present, -⟩ := Option.map_eq_some_iff.mp stated.costPerUnit
    obtain ⟨value, statedEq, number⟩ := Option.bind_eq_some_iff.mp present
    exact ⟨value, statedEq, Value.state_of_number? number⟩
  have other : request.HasOtherExpense := by
    obtain ⟨items, components, nonempty, all⟩ := stated.exists_components
    obtain ⟨item, rest, rfl⟩ := List.exists_cons_of_ne_nil nonempty
    refine ⟨item, rest, components, fun component present => ?_⟩
    have image := List.mem_map_of_mem (f := oracleExpense? request.currency) present
    rw [all] at image
    obtain ⟨expense, -, expenseEq⟩ := List.mem_map.mp image
    obtain ⟨value, statedEq, number⟩ := Option.bind_eq_some_iff.mp expenseEq.symm
    obtain ⟨d, numberEq, -⟩ := Option.map_eq_some_iff.mp number
    exact ⟨value, statedEq, Value.state_of_number? numberEq, fun _ => net⟩
  have base : request.HasTaxBase := by
    have known := stated.taxBaseKnown
    unfold KernelRequest.HasTaxBase
    rw [stated.taxBase]
    split_ifs with isOther isCost isIncome
    · exact other
    · exact cost
    · exact income
    · have input : oracle.taxBaseMetricId ∈ amountNames := by
        simpa [derivedNames, isOther, isCost, isIncome] using known
      obtain ⟨amount, amountEq, -⟩ := stated.exists_amount input
      exact ⟨⟨amount, amountEq⟩, fun _ => stated.compensationAgrees⟩
  obtain ⟨d, present, -⟩ := Option.map_eq_some_iff.mp stated.taxRate
  obtain ⟨rate, rateEq, number⟩ := Option.bind_eq_some_iff.mp present
  exact ⟨income, cost, other, ⟨rate, rateEq, Value.state_of_number? number⟩, base⟩

end IsOracleCase

/-! ### The numbers of a calculation -/

section Steps

variable
    {request : KernelRequest}
    {inputs : Inputs}
    {costUnits costPerUnit taxRate : Value}
    {values : KernelValues}
    {oracle : OracleCase}

/-- A stated number at the scale of the calculation is kept. -/
theorem exact_of_normalizes
    {policy : RoundingPolicy}
    {raw : Json}
    {sourceId : String}
    {written normalized : Value}
    {signature : Signature}
    {x : ℚ}
    (read : valueFromDict raw sourceId = .ok written)
    (normalizes : normalizeValue written policy = .ok normalized)
    (stated : ((statedValue? (some raw) sourceId signature).bind Value.number?).map
      Decimal.toRat = some x)
    (onGrid : OnGrid policy.calculationScale x) :
    Carries normalized x ∧ Sized policy.inputScale policy.inputBound x := by
  obtain ⟨d, present, rfl⟩ := Option.map_eq_some_iff.mp stated
  obtain ⟨value, statedEq, number⟩ := Option.bind_eq_some_iff.mp present
  obtain rfl : written = value := by
    simpa [statedValue?, read, Except.toOption] using (Option.filter_eq_some_iff.mp statedEq).1
  exact (represents_of_normalizeValue normalizes).exact number onGrid

/-- The amount of an expense is exact. -/
theorem expense_exact
    (counted : 1 ≤ request.expenseCount)
    {net amount : Value}
    {item : Json}
    {expense : OracleExpense}
    (isAmount : IsExpenseAmount request.context request.policy request.currency net item amount)
    (expenseEq : oracleExpense? request.currency item = some expense)
    (onGrid : OnGrid request.policy.calculationScale expense.value)
    (netEq : net.integer? = some oracle.netUnits)
    (netSized : Sized 0 request.policy.inputBound oracle.netUnits) :
    Carries amount (oracle.expenseAmount expense) ∧
      Sized request.policy.inputScale request.policy.inputBound expense.value := by
  obtain ⟨stated, normalized, statedEq, represents, made⟩ := isAmount
  rw [oracleExpense?, statedEq, Option.bind_some] at expenseEq
  obtain ⟨d, number, rfl⟩ := Option.map_eq_some_iff.mp expenseEq
  obtain ⟨carries, sized⟩ := represents.exact number onGrid
  have signature := represents.signature
  have admitted : isExpenseSignature normalized.signature request.currency = true := by
    rw [signature]
    unfold statedExpense? at statedEq
    split at statedEq
    · exact (Option.filter_eq_some_iff.mp statedEq).2
    · cases statedEq
  obtain ⟨-, state, payload⟩ := expenseAmount_result admitted made
  have valid : amount.state = .valid := by
    rw [state, expenseState, Value.state_of_integer? netEq, carries.valid]
    split_ifs <;> rfl
  obtain ⟨used, usedEq, amountEq⟩ := payload valid
  have value := carries.toRat_eq usedEq
  rw [signature] at amountEq
  refine ⟨?_, sized⟩
  unfold OracleCase.expenseAmount
  split_ifs at amountEq ⊢ with perItem
  · obtain ⟨units, unitsEq, product, multiplied, productEq⟩ := amountEq
    obtain rfl := Option.some.inj (unitsEq.symm.trans netEq)
    have operands : (Decimal.ofInt oracle.netUnits).toRat * used.toRat =
        d.toRat * oracle.netUnits := by
      rw [Decimal.toRat_ofInt, value, mul_comm]
    have one := request.one_le_inputBound
    have exact := Decimal.toRat_of_mul multiplied (by
      rw [operands]
      exact request.representable_of_sized counted (sized.mul netSized)
        (Nat.le_add_right _ _) (by nlinarith))
    rw [← operands, ← exact]
    exact carries_of_number? productEq
  · rw [← value]
    exact carries_of_number? amountEq

/-- The amounts of all expenses are exact. -/
theorem expenses_exact
    (counted : 1 ≤ request.expenseCount)
    {net : Value}
    {items : List Json}
    {amounts : List Value}
    {expenses : List OracleExpense}
    (related : List.Forall₂
      (IsExpenseAmount request.context request.policy request.currency net) items amounts)
    (all : items.map (oracleExpense? request.currency) = expenses.map some)
    (onGrid : ∀ expense ∈ expenses, OnGrid request.policy.calculationScale expense.value)
    (netEq : net.integer? = some oracle.netUnits)
    (netSized : Sized 0 request.policy.inputBound oracle.netUnits) :
    List.Forall₂ CarriesTerm (amounts.map fun amount => (1, amount))
        (expenses.map fun expense => (1, oracle.expenseAmount expense)) ∧
      ∀ expense ∈ expenses,
        Sized request.policy.inputScale request.policy.inputBound expense.value := by
  induction related generalizing expenses with
  | nil =>
      obtain rfl := List.map_eq_nil_iff.mp all.symm
      exact ⟨.nil, nofun⟩
  | cons isAmount _ inductionHypothesis =>
      cases expenses with
      | nil => cases all
      | cons expense rest =>
          obtain ⟨expenseEq, restEq⟩ := List.cons.inj all
          obtain ⟨onGridFirst, onGridRest⟩ := List.forall_mem_cons.mp onGrid
          obtain ⟨carries, sized⟩ :=
            expense_exact counted isAmount expenseEq onGridFirst netEq netSized
          obtain ⟨carriesRest, sizedRest⟩ := inductionHypothesis restEq onGridRest
          exact ⟨.cons ⟨rfl, carries⟩ carriesRest, List.forall_mem_cons.mpr ⟨sized, sizedRest⟩⟩

variable
    (steps : KernelSteps request inputs costUnits costPerUnit taxRate values)
    (stated : IsOracleCase request oracle)

include steps stated

/-- An amount is kept. -/
theorem KernelSteps.amount_exact {name : String} (present : name ∈ amountNames) :
    Carries (expect inputs name (.amount request.currency)) (oracle.inputs name) ∧
      Sized request.policy.inputScale request.policy.inputBound (oracle.inputs name) := by
  obtain ⟨d, amountEq, value⟩ := stated.exists_amount present
  have onGrid := stated.representable.amounts name present
  rw [← value] at onGrid ⊢
  exact (steps.amount name).exact ((stated.usable_amount name).trans amountEq) onGrid

theorem KernelSteps.gross_small :
    |(oracle.grossSalesUnits : ℚ)| ≤ request.policy.inputBound := by
  have small := (steps.units "gross_sales_units").counted _ stated.grossSalesUnits
  unfold RoundingPolicy.inputBound
  exact_mod_cast small.le

/-- The net units are those of the oracle. -/
theorem KernelSteps.netUnits_exact : values.netUnits.integer? = some oracle.netUnits := by
  obtain ⟨-, -, payload⟩ := netUnitsOf_result steps.netUnitsMade
  have valid : values.netUnits.state = .valid := by
    rw [steps.netUnits_state.2]
    exact KernelRequest.netState_eq_bot_iff.mpr stated.hasProfit.2.1.1
  obtain ⟨sold, soldEq, back, backEq, difference⟩ := payload valid
  rw [Option.mem_def, (steps.units _).integer] at soldEq backEq
  obtain rfl := Option.some.inj (soldEq.symm.trans stated.grossSalesUnits)
  obtain rfl := Option.some.inj (backEq.symm.trans stated.returnedUnits)
  exact difference

/-- The terms of the other expenses. -/
theorem KernelSteps.expenseTerms :
    (∀ expense ∈ oracle.otherExpenses,
      Sized request.policy.inputScale request.policy.inputBound expense.value) ∧
    ∃ terms amounts sum, List.Forall₂ CarriesTerm terms
        (oracle.otherExpenses.map fun expense => (1, oracle.expenseAmount expense)) ∧
      List.Forall₂ IsAmountOf terms amounts ∧
      addTerms request.context (Decimal.ofInt 0) amounts = .ok sum ∧
      values.otherExpense.number? = some sum := by
  obtain ⟨-, -, payload⟩ := calculateOtherExpense_result steps.otherExpenseMade
  have valid : values.otherExpense.state = .valid := by
    rw [steps.otherExpense_state.2]
    exact KernelRequest.otherState_eq_bot_iff.mpr stated.hasProfit.2.2.1
  obtain ⟨items, amounts, numbers, sum, components, related, amountsOf, added, number⟩ :=
    payload valid
  obtain ⟨same, sameEq, -, all⟩ := stated.exists_components
  obtain rfl := Json.arr.inj (components.symm.trans sameEq)
  obtain ⟨carried, sized⟩ := expenses_exact stated.counted related all
    stated.representable.otherExpenses (steps.netUnits_exact stated)
    (OracleCase.sized_netUnits (steps.gross_small stated) stated.unitSemantics)
  exact ⟨sized, _, numbers, sum, carried, amountsOf, added, number⟩

/-- The cost per unit is kept. -/
theorem KernelSteps.costPerUnit_exact :
    Carries costPerUnit oracle.costPerUnit ∧
      Sized request.policy.inputScale request.policy.inputBound oracle.costPerUnit := by
  obtain ⟨written, read, normalizes⟩ := steps.costPerUnitMade
  exact exact_of_normalizes read normalizes stated.costPerUnit stated.representable.costPerUnit

/-- The tax rate is kept. -/
theorem KernelSteps.taxRate_exact :
    Carries taxRate oracle.taxRate ∧
      Sized request.policy.inputScale request.policy.inputBound oracle.taxRate := by
  obtain ⟨written, read, normalizes⟩ := steps.taxRateMade
  exact exact_of_normalizes read normalizes stated.taxRate stated.representable.taxRate

/-- The case is within the limits of the policy. -/
theorem KernelSteps.within (few : oracle.otherExpenses.length ≤ maxOtherExpenseComponents) :
    oracle.Within request.policy.inputScale request.policy.inputBound where
  amounts _ present := (steps.amount_exact stated present).2
  costPerUnit := (steps.costPerUnit_exact stated).2
  otherExpenses := (steps.expenseTerms stated).1
  taxRate := (steps.taxRate_exact stated).2
  counted := steps.gross_small stated
  few := few
  one := request.one_le_inputBound

/-! ### The metrics are those of the oracle -/

variable (within : oracle.Within request.policy.inputScale request.policy.inputBound)

include within

/-- The other expenses. -/
theorem KernelSteps.otherExpense_exact : Carries values.otherExpense oracle.other := by
  obtain ⟨-, terms, amounts, sum, carried, related, added, number⟩ := steps.expenseTerms stated
  have one := within.one
  have sized : ∀ number ∈ oracle.otherExpenses.map fun expense =>
      ((1 : ℤ), oracle.expenseAmount expense),
      Sized request.workPlaces (request.policy.inputBound * request.policy.inputBound)
        (number.1 * number.2) := by
    intro number present
    obtain ⟨expense, inExpenses, rfl⟩ := List.mem_map.mp present
    have amount := OracleCase.sized_expenseAmount within stated.unitSemantics inExpenses
    simpa [KernelRequest.workPlaces] using amount.mono (Nat.le_add_right _ _) le_rfl
  have few : (oracle.otherExpenses.length : ℚ) ≤ 64 := by exact_mod_cast within.few
  have exact := sum_exact (request.covers_context stated.counted) related carried sized
    (request.lt_covered (by
      rw [List.length_map]
      have square : 0 ≤ request.policy.inputBound * request.policy.inputBound := by nlinarith
      have total := mul_le_mul_of_nonneg_right few square
      nlinarith)) added
  have total : signedSum (oracle.otherExpenses.map fun expense =>
      ((1 : ℤ), oracle.expenseAmount expense)) = oracle.other := by
    simp [signedSum, OracleCase.other, Function.comp_def]
  rw [← total, ← exact]
  exact carries_of_number? number

/-- The product cost. -/
theorem KernelSteps.productCost_exact : Carries values.productCost oracle.cost := by
  obtain ⟨-, unitsPayload⟩ := costUnitsOf_result steps.costUnitsMade
  obtain ⟨-, state, payload⟩ := productCostOf_result steps.productCostMade
  have valid : values.productCost.state = .valid := by
    rw [steps.productCost_state.2]
    exact KernelRequest.costState_eq_bot_iff.mpr stated.hasProfit.2.1
  have unitsValid : costUnits.state = .valid :=
    (orNext_eq_bot_iff.mp (state.symm.trans valid)).1
  obtain ⟨sold, soldEq, resold, resoldEq, difference⟩ := unitsPayload unitsValid
  rw [Option.mem_def, (steps.units _).integer] at soldEq resoldEq
  obtain rfl := Option.some.inj (soldEq.symm.trans stated.grossSalesUnits)
  obtain rfl := Option.some.inj (resoldEq.symm.trans stated.resalableReturnedUnits)
  obtain ⟨units, unitsEq, unitCost, unitCostEq, cost, multiplied, number⟩ := payload valid
  obtain rfl := Option.some.inj (unitsEq.symm.trans difference)
  have value := (steps.costPerUnit_exact stated).1.toRat_eq unitCostEq
  have operands : (Decimal.ofInt (oracle.grossSalesUnits - oracle.resalableReturnedUnits)).toRat *
      unitCost.toRat = oracle.cost := by
    rw [Decimal.toRat_ofInt, value, mul_comm]
    rfl
  have one := within.one
  have exact := Decimal.toRat_of_mul multiplied (by
    rw [operands]
    exact request.representable_of_sized stated.counted
      (OracleCase.sized_cost within stated.unitSemantics) (Nat.le_add_right _ _) (by nlinarith))
  rw [← operands, ← exact]
  exact carries_of_number? number

/-- The income. -/
theorem KernelSteps.income_exact : Carries values.settlement.income oracle.marketplace := by
  obtain ⟨-, compensation, validated, state, payload⟩ :=
    incomeOf_result (fun name => (steps.amount name).signature) steps.incomeMade
  have valid : values.settlement.income.state = .valid := by
    rw [steps.income_state.2]
    exact KernelRequest.incomeState_eq_bot_iff.mpr stated.hasProfit.1
  have compensationValid : compensation.state = .valid :=
    (orNext_eq_bot_iff.mp (state.symm.trans valid)).1
  obtain ⟨-, -, same⟩ :=
    validatedReturnCompensation_result rfl rfl (steps.amount _).signature validated
  obtain rfl := same compensationValid
  obtain ⟨amounts, sum, related, added, number⟩ := payload valid
  have names : ∀ term ∈ incomeTerms, term.2.getD "return_compensation_amount" ∈ amountNames ∧
      (term.1 = 1 ∨ term.1 = -1) := by decide
  have carried : List.Forall₂ CarriesTerm
      (incomeValues inputs request.currency
        (expect inputs "return_compensation_amount" (.amount request.currency)))
      (incomeTerms.map fun term =>
        (term.1, oracle.inputs (term.2.getD "return_compensation_amount"))) := by
    rw [incomeValues, List.forall₂_map_left_iff, List.forall₂_map_right_iff, List.forall₂_same]
    intro term present
    refine ⟨rfl, ?_⟩
    have carries := (steps.amount_exact stated (names term present).1).1
    obtain ⟨sign, metricId⟩ := term
    cases metricId <;> exact carries
  have sized : ∀ number ∈ incomeTerms.map fun term =>
      (term.1, oracle.inputs (term.2.getD "return_compensation_amount")),
      Sized request.workPlaces request.policy.inputBound (number.1 * number.2) := by
    intro number present
    obtain ⟨term, inTerms, rfl⟩ := List.mem_map.mp present
    obtain ⟨known, unit⟩ := names term inTerms
    exact ((within.amounts _ known).signed unit).mono (Nat.le_add_right _ _) le_rfl
  have one := within.one
  have square : request.policy.inputBound ≤ request.policy.inputBound ^ 2 := by nlinarith
  have cube : request.policy.inputBound ^ 2 ≤ request.policy.inputBound ^ 3 := by nlinarith
  have exact := sum_exact (request.covers_context stated.counted) related carried sized
    (request.lt_covered (by
      rw [List.length_map, incomeTerms]
      norm_num
      linarith)) added
  have total : signedSum (incomeTerms.map fun term =>
      (term.1, oracle.inputs (term.2.getD "return_compensation_amount"))) =
        oracle.marketplace := by
    simp only [signedSum, incomeTerms, List.map_cons, List.map_nil, List.sum_cons, List.sum_nil,
      Option.getD_some, Option.getD_none, OracleCase.marketplace]
    push_cast
    ring
  rw [← total, ← exact]
  exact carries_of_number? number

/-- The amount on which tax is levied. -/
theorem KernelSteps.base_exact
    {levied : Value}
    (levies : taxBaseOf inputs request.taxBaseMetricId values.settlement.income
      values.productCost values.otherExpense = some levied)
    (typed : levied.signature = .amount request.currency) :
    Carries levied (oracle.base oracle.taxBaseMetricId) := by
  rw [stated.taxBase, taxBaseOf] at levies
  unfold OracleCase.base
  split_ifs at levies ⊢ with other cost income
  · obtain rfl := Option.some.inj levies
    exact steps.otherExpense_exact stated within
  · obtain rfl := Option.some.inj levies
    exact steps.productCost_exact stated within
  · obtain rfl := Option.some.inj levies
    exact steps.income_exact stated within
  · have input : oracle.taxBaseMetricId ∈ amountNames := by
      simpa [derivedNames, other, cost, income] using stated.taxBaseKnown
    have carries := (steps.amount_exact stated input).1
    rwa [← typed, expect_of_lookup levies] at carries

/-- The tax. -/
theorem KernelSteps.tax_exact : Carries values.settlement.tax oracle.tax := by
  obtain ⟨-, state, payload⟩ := taxOf_result steps.taxMade
  have valid : values.settlement.tax.state = .valid := by
    rw [steps.tax_state.2]
    exact KernelRequest.taxState_eq_bot_iff.mpr stated.hasProfit.2.2.2
  obtain ⟨levied, levies, factor, factorEq, amount, amountEq, product, multiplied, number⟩ :=
    payload valid
  have typed : levied.signature = .amount request.currency := by
    by_contra other
    have mismatch : withSignature levied (.amount request.currency) = none := if_neg other
    rw [levies, Option.bind_some, mismatch, valid] at state
    generalize withSignature taxRate .rate = rate at state
    cases rate <;> cases state
  have base := (steps.base_exact stated within levies typed).toRat_eq amountEq
  have rate := (steps.taxRate_exact stated).1.toRat_eq factorEq
  have operands : amount.toRat * factor.toRat = oracle.tax := by
    rw [base, rate]
    rfl
  have one := within.one
  have exact := Decimal.toRat_of_mul multiplied (by
    rw [operands]
    exact request.representable_of_sized stated.counted
      (OracleCase.sized_tax within stated.unitSemantics stated.taxBaseKnown) le_rfl (by
        have cube : 0 ≤ request.policy.inputBound ^ 3 := by positivity
        linarith))
  rw [← operands, ← exact]
  exact carries_of_number? number

/-- The profit. -/
theorem KernelSteps.profit_exact : Carries values.settlement.profit oracle.profit := by
  have one := within.one
  have square : request.policy.inputBound ≤ request.policy.inputBound ^ 2 := by nlinarith
  have cube : request.policy.inputBound ^ 2 ≤ request.policy.inputBound ^ 3 := by nlinarith
  have wide : request.policy.inputScale ≤ request.workPlaces := Nat.le_add_right _ _
  have income := steps.income_exact stated within
  have cost := steps.productCost_exact stated within
  have other := steps.otherExpense_exact stated within
  have tax := steps.tax_exact stated within
  have typed : ∀ term ∈ [((1 : ℤ), values.settlement.income), (-1, values.productCost),
      (-1, values.otherExpense), (-1, values.settlement.tax)],
      term.2.signature = .amount request.currency := by
    simp [steps.income_state.1, steps.productCost_state.1, steps.otherExpense_state.1,
      steps.tax_state.1]
  have carried : List.Forall₂ CarriesTerm [((1 : ℤ), values.settlement.income),
      (-1, values.productCost), (-1, values.otherExpense), (-1, values.settlement.tax)]
      [(1, oracle.marketplace), (-1, oracle.cost), (-1, oracle.other), (-1, oracle.tax)] :=
    .cons ⟨rfl, steps.income_exact stated within⟩ (.cons ⟨rfl, steps.productCost_exact stated within⟩
      (.cons ⟨rfl, steps.otherExpense_exact stated within⟩
        (.cons ⟨rfl, steps.tax_exact stated within⟩ .nil)))
  have sized : ∀ number ∈ [((1 : ℤ), oracle.marketplace), (-1, oracle.cost), (-1, oracle.other),
      (-1, oracle.tax)],
      Sized request.workPlaces (64 * request.policy.inputBound ^ 3) (number.1 * number.2) := by
    have income := OracleCase.sized_marketplace within
    have cost := OracleCase.sized_cost within stated.unitSemantics
    have other := OracleCase.sized_other within stated.unitSemantics
    have tax := OracleCase.sized_tax within stated.unitSemantics stated.taxBaseKnown
    simp only [List.forall_mem_cons, List.not_mem_nil, false_imp_iff, implies_true, and_true]
    refine ⟨?_, ?_, ?_, ?_⟩
    · exact (income.signed (.inl rfl)).mono wide (by linarith)
    · exact (cost.signed (.inr rfl)).mono wide (by linarith)
    · exact (other.signed (.inr rfl)).mono wide (by linarith)
    · exact tax.signed (.inr rfl)
  have carries := carries_moneySum (request.covers_context stated.counted) typed carried sized
    (request.lt_covered (by norm_num; linarith)) steps.profitMade
  have total : signedSum [((1 : ℤ), oracle.marketplace), (-1, oracle.cost), (-1, oracle.other),
      (-1, oracle.tax)] = oracle.profit := by
    simp only [signedSum, List.map_cons, List.map_nil, List.sum_cons, List.sum_nil,
      OracleCase.profit]
    push_cast
    ring
  rwa [total] at carries

/-- Rounding the profit per unit rounds the exact quotient. -/
theorem KernelSteps.profitPerUnit_exact
    (sold : 0 < oracle.netUnits) :
    ∃ d, values.settlement.profitPerUnit.number? = some d ∧
      request.policy.calculationMode.atScale request.policy.moneyScale d.toRat =
        request.policy.calculationMode.atScale request.policy.moneyScale
          (oracle.profit / oracle.netUnits) := by
  obtain ⟨-, -, payload⟩ := profitPerUnitOf_result steps.profitPerUnitMade
  have valid : values.settlement.profitPerUnit.state = .valid := by
    rw [steps.profitPerUnit_state.2]
    exact KernelRequest.perUnitState_eq_bot_iff.mpr
      ⟨stated.hasProfit, _, _, stated.grossSalesUnits, stated.returnedUnits, sold⟩
  obtain ⟨units, unitsEq, amount, amountEq, quotient, divided, number⟩ := payload valid
  obtain rfl := Option.some.inj (unitsEq.symm.trans (steps.netUnits_exact stated))
  have value := (steps.profit_exact stated within).toRat_eq amountEq
  have profit := OracleCase.sized_profit within stated.unitSemantics stated.taxBaseKnown
  rw [← value] at profit
  have one := within.one
  have prec := request.le_prec stated.counted
  obtain ⟨digits, -, places⟩ := KernelRequest.inputScale_le request.policy
  have limit := request.policy.limitsBounded.1
  have moneyBounded := request.policy.scalesBounded.2.1
  have moneyWork : request.policy.moneyScale ≤ request.policy.workScale := by
    simp only [RoundingPolicy.workScale, le_sup_iff, le_refl, true_or, or_true]
  have emin : request.context.emin = -999999 := rfl
  have emax : request.context.emax = 999999 := rfl
  unfold maxDecimalInputPrecision at limit
  unfold maxRoundingScale at places moneyBounded
  have units : oracle.netUnits ≤ 10 ^ request.policy.maxInputPrecision := by
    have small := (OracleCase.sized_netUnits within.counted stated.unitSemantics).small
    rw [abs_of_pos (by exact_mod_cast sold), RoundingPolicy.inputBound] at small
    exact_mod_cast small
  refine ⟨quotient, number, ?_⟩
  rw [← value]
  refine Decimal.atScale_div _ sold units profit.onGrid
    (profit.small.trans_lt (request.lt_covered ?_)) ?_ ?_ ?_ divided
  · have cube : 0 ≤ request.policy.inputBound ^ 3 := by positivity
    linarith
  · omega
  · unfold DecimalContext.etiny
    rw [emin]
    push_cast
    omega
  · rw [emax]
    push_cast
    omega

end Steps

/-! ### Published metrics -/

/-- The metric publishes the number, rounded once to the scale of money. -/
def PublishesRounded (policy : RoundingPolicy) (published : Metric) (x : ℚ) : Prop :=
  published.value.state = .valid ∧ ∃ text, published.value.value = .text text ∧
    Denotes text (policy.calculationMode.atScale policy.moneyScale x)

/-- A money metric publishes its number, rounded to the scale of money. -/
theorem publishesRounded_of_metric
    {value : Value}
    {accountingView : String}
    {expenseBoundary : List String}
    {policy : RoundingPolicy}
    {published : Metric}
    {d : Decimal}
    {x : ℚ}
    (money : value.signature.valueType = .money)
    (number : value.number? = some d)
    (rounds : policy.calculationMode.atScale policy.moneyScale d.toRat =
      policy.calculationMode.atScale policy.moneyScale x)
    (made : metric value accountingView expenseBoundary policy true = .ok published) :
    PublishesRounded policy published x := by
  have payload := Value.payload?_eq_some_iff.mpr (Value.number?_eq_some_iff.mp number)
  simp only [metric, payload, Checks.bind_eq_ok, Checks.pure_eq_ok] at made
  obtain ⟨⟨rounded, scale⟩, quantized, kept, keptMade, rfl⟩ := made
  obtain ⟨-, rfl, rfl⟩ := quantize_result quantized
  obtain ⟨content, -, -⟩ := makeValid_eq_ok.mp keptMade
  have prescribed : policy.roundingAt .metricFinalAccounting value.signature.valueType =
      (policy.calculationMode, policy.moneyScale) := by
    rw [money]
    rfl
  rw [prescribed] at content ⊢
  refine ⟨Value.state_of_content content, decimalText (Decimal.rescale policy.calculationMode d
    (-policy.moneyScale)) (some policy.moneyScale), ?_, ?_⟩
  · simp only [valueToDict, Value.payload?_eq_some_iff.mpr content, Option.map_some,
      Option.getD_some, encodePayload]
  · rw [← rounds, ← Decimal.toRat_rescale]
    exact denotes_decimalText (by rw [Decimal.rescale_exponent])

/-- The metrics are those of the oracle: every money metric is its formula
rounded once, the net units are exact, and the profit per unit is blocked
exactly when there are none. -/
structure MatchesOracle
    (policy : RoundingPolicy)
    (oracle : OracleCase)
    (results : KernelResults) : Prop where
  /-- The net units. -/
  netSoldUnits : results.netSoldUnits.value.state = .valid ∧
    results.netSoldUnits.value.value = .text (toString oracle.netUnits)
  /-- The product cost. -/
  productCost : PublishesRounded policy results.productCostAmount oracle.cost
  /-- The other expenses. -/
  otherExpense : PublishesRounded policy results.otherExpenseAmount oracle.other
  /-- The tax. -/
  tax : PublishesRounded policy results.taxAmount oracle.tax
  /-- The income. -/
  income : PublishesRounded policy results.netMarketplaceIncomeAmount oracle.marketplace
  /-- The profit. -/
  profit : PublishesRounded policy results.netProfitAmount oracle.profit
  /-- The profit per unit. -/
  profitPerUnit : ∀ x ∈ oracle.profitPerUnit, PublishesRounded policy results.profitPerSoldUnit x
  /-- Without net units there is no profit per unit. -/
  blocked : results.profitPerSoldUnit.value.state = .nonvalid .blocked ↔ oracle.netUnits = 0

/-- A list of expenses is counted. -/
theorem expenses_few
    {request : Json}
    {read : KernelRequest}
    {items : List Json}
    (readEq : readRequest request = .ok read)
    (components : read.otherExpenseComponents = .arr items) :
    items.length ≤ maxOtherExpenseComponents := by
  unfold readRequest at readEq
  split at readEq
  · simp only [Checks.bind_eq_ok, Checks.pure_eq_ok] at readEq
    obtain ⟨_, -, _, -, _, -, _, -, _, -, _, -, _, -, _, -, _, -, _, -, _, -, _, -, count, counted,
      rfl⟩ := readEq
    rw [show member _ "other_expense_components" = .arr items from components,
      countExpenses] at counted
    by_contra many
    rw [if_neg many] at counted
    cases counted
  · cases readEq

/-- A count is published as its numeral. -/
theorem published_of_integer
    {value : Value}
    {accountingView : String}
    {expenseBoundary : List String}
    {policy : RoundingPolicy}
    {published : Metric}
    {n : ℤ}
    (counted : value.integer? = some n)
    (made : metric value accountingView expenseBoundary policy false = .ok published) :
    published.value.state = .valid ∧ published.value.value = .text (toString n) := by
  have content := Value.integer?_eq_some_iff.mp counted
  have payload := Value.payload?_eq_some_iff.mpr content
  simp only [metric, payload] at made
  obtain rfl := Except.ok.inj made
  exact ⟨Value.state_of_content content, by simp [valueToDict, payload, encodePayload]⟩

/-- Every accepted calculation of a case publishes the metrics of the oracle. -/
theorem calculate_matchesOracle
    {request : Json}
    {payload : KernelPayload}
    (accepted : calculate request = .ok payload) :
    ∃ read, readRequest request = .ok read ∧ ∀ oracle, IsOracleCase read oracle →
      MatchesOracle read.policy oracle payload.results := by
  obtain ⟨read, values, results, readEq, calculated, published, rfl⟩ := calculate_eq_ok.mp accepted
  obtain ⟨inputs, costUnits, costPerUnit, taxRate, steps⟩ := exists_kernelSteps calculated
  simp only [publish, Checks.bind_eq_ok, Checks.pure_eq_ok] at published
  obtain ⟨net, netMade, cost, costMade, other, otherMade, tax, taxMade, income, incomeMade, profit,
    profitMade, perUnit, perUnitMade, profitability, profitabilityMade, rfl⟩ := published
  refine ⟨read, readEq, fun oracle stated => ?_⟩
  obtain ⟨items, components, -, all⟩ := stated.exists_components
  have within := steps.within stated (by
    have few := expenses_few readEq components
    have lengths := congrArg List.length all
    rw [List.length_map, List.length_map] at lengths
    omega)
  have money : ∀ {value : Value} {x : ℚ} {view boundary published},
      value.signature = .amount read.currency → Carries value x →
        metric value view boundary read.policy true = .ok published →
          PublishesRounded read.policy published x := by
    intro value x view boundary published typed carries made
    obtain ⟨d, number, rfl⟩ := carries.exists
    exact publishesRounded_of_metric (by rw [typed]; rfl) number rfl made
  have perUnitRounded : 0 < oracle.netUnits →
      PublishesRounded read.policy perUnit (oracle.profit / oracle.netUnits) := by
    intro sold
    obtain ⟨d, number, rounds⟩ := steps.profitPerUnit_exact stated within sold
    exact publishesRounded_of_metric (by rw [steps.profitPerUnit_state.1]; rfl) number rounds
      perUnitMade
  have netNonneg := OracleCase.netUnits_nonneg stated.unitSemantics
  refine {
    netSoldUnits := published_of_integer (steps.netUnits_exact stated) netMade
    productCost := money steps.productCost_state.1 (steps.productCost_exact stated within) costMade
    otherExpense := money steps.otherExpense_state.1 (steps.otherExpense_exact stated within)
      otherMade
    tax := money steps.tax_state.1 (steps.tax_exact stated within) taxMade
    income := money steps.income_state.1 (steps.income_exact stated within) incomeMade
    profit := money steps.profit_state.1 (steps.profit_exact stated within) profitMade
    profitPerUnit := ?_
    blocked := ?_ }
  · intro x present
    rw [OracleCase.profitPerUnit] at present
    split_ifs at present with none
    · cases present
    · obtain rfl := Option.some.inj present
      exact perUnitRounded (not_le.mp none)
  · constructor
    · intro blocked
      by_contra sold
      have valid := (perUnitRounded (by omega)).1
      rw [show perUnit.value.state = .nonvalid .blocked from blocked] at valid
      cases valid
    · intro none
      have profitGood := KernelRequest.profitState_eq_bot_iff.mpr stated.hasProfit
      have netGood := KernelRequest.netState_eq_bot_iff.mpr stated.hasProfit.2.1.1
      have notMore : ¬read.SoldMore := by
        unfold KernelRequest.SoldMore
        rw [stated.grossSalesUnits, stated.returnedUnits]
        simp only [Option.mem_some_iff, forall_eq']
        unfold OracleCase.netUnits at none
        omega
      rw [(metric_result perUnitMade).1, steps.profitPerUnit_state.2, KernelRequest.perUnitState,
        profitGood, netGood]
      simp only [blockedUnless, if_neg notMore]
      rfl

/-- The case of the sale request. -/
def saleCase : OracleCase where
  inputs
    | "advertising_amount" => 50
    | "discounts_amount" => 241 / 2
    | "forward_logistics_amount" => 300
    | "gross_sales_amount" => 5000
    | "marketplace_commission_amount" => 3001 / 4
    | "return_compensation_amount" => 90
    | "reverse_logistics_amount" => 60
    | "storage_amount" => 15
    | "subsidies_excluding_return_compensation_amount" => 10
    | _ => 0
  grossSalesUnits := 10
  returnedUnits := 2
  resalableReturnedUnits := 1
  compensatedReturnedUnits := 1
  costPerUnit := 401 / 2
  otherExpenses := [⟨"MONEY_PER_ITEM", 3⟩]
  taxBaseMetricId := "net_marketplace_income_amount"
  taxRate := 3 / 50

theorem calculate_matchesOracle_sale :
    ∃ payload read, calculate (saleRequest (saleInputs "VALID" "VALID" "VALID") "VALID") =
      .ok payload ∧
      readRequest (saleRequest (saleInputs "VALID" "VALID" "VALID") "VALID") = .ok read ∧
      IsOracleCase read saleCase ∧ MatchesOracle read.policy saleCase payload.results := by
  obtain ⟨payload, accepted⟩ := saleRequest_accepted
  obtain ⟨read, readEq, exact⟩ := calculate_matchesOracle accepted
  have facts : (readRequest (saleRequest (saleInputs "VALID" "VALID" "VALID")
      "VALID")).toOption.any (fun read => decide (IsOracleCase read saleCase)) = true := by
    decide +kernel
  rw [readEq] at facts
  have stated : IsOracleCase read saleCase := by simpa [Except.toOption] using facts
  exact ⟨payload, read, accepted, readEq, stated, exact saleCase stated⟩

end Finance
end QuantumAnalytics
