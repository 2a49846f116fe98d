import QuantumAnalytics.Finance.Stated

/-!
# The steps of the kernel

For every step of the kernel: the signature of its result, the state of the
result as a function of the states of its operands, and the number that a valid
result carries.
-/

namespace QuantumAnalytics
namespace Finance

open Severity

theorem integerOf_eq_ok {value : Value} {n : Int} :
    integerOf value = .ok n ↔ value.integer? = some n := by
  rw [Value.integer?_eq_some_iff, ← Value.payload?_eq_some_iff]
  unfold integerOf
  split <;> simp_all

theorem numberOf_eq_ok {value : Value} {d : Decimal} :
    numberOf value = .ok d ↔ value.number? = some d := by
  rw [Value.number?_eq_some_iff, ← Value.payload?_eq_some_iff]
  unfold numberOf
  split <;> simp_all

theorem decimalResult_eq_ok {outcome : Except DecimalSignal Decimal} {d : Decimal} :
    decimalResult outcome = .ok d ↔ outcome = .ok d :=
  Checks.mapError_eq_ok

/-! ### Units -/

/-- Returned items are a part of the sold ones. -/
def ReturnsFit (gross returned : Option Int) : Prop :=
  ∀ sold ∈ gross, ∀ back ∈ returned, 0 ≤ back ∧ back ≤ sold

/-- Resold and compensated items are parts of the returned ones. -/
def ReturnsSplit (gross returned resalable compensated : Option Int) : Prop :=
  ReturnsFit gross returned ∧ ∀ back ∈ returned, ∀ resold ∈ resalable, ∀ paid ∈ compensated,
    0 ≤ resold ∧ 0 ≤ paid ∧ resold + paid ≤ back

instance (gross returned : Option Int) : Decidable (ReturnsFit gross returned) := by
  unfold ReturnsFit
  infer_instance

instance (gross returned resalable compensated : Option Int) :
    Decidable (ReturnsSplit gross returned resalable compensated) := by
  unfold ReturnsSplit
  infer_instance

/-- The net units: the difference when the returns fit. -/
theorem netUnitsOf_result
    {gross returned result : Value}
    (made : netUnitsOf gross returned = .ok result) :
    result.signature = .items ∧
      result.state = orNext (worst (statesOf [gross, returned]))
        (blockedUnless (ReturnsFit gross.integer? returned.integer?)) ∧
      (result.state = .valid → ∃ sold ∈ gross.integer?, ∃ back ∈ returned.integer?,
        result.integer? = some (sold - back)) := by
  unfold netUnitsOf at made
  split at made
  · rename_i propagated inherited
    obtain rfl := Except.ok.inj made
    obtain ⟨bad, state, signature⟩ := propagate_eq_some inherited
    rw [orNext_of_ne_bot bad]
    exact ⟨signature, state, fun valid => absurd (state.symm.trans valid) bad⟩
  · rename_i notInherited
    have good := propagate_eq_none_iff.mp notInherited
    simp only [Checks.bind_eq_ok, integerOf_eq_ok] at made
    obtain ⟨sold, soldEq, back, backEq, made⟩ := made
    rw [good, orNext_bot, soldEq, backEq]
    split_ifs at made with broken
    · obtain rfl := Checks.pure_eq_ok.mp made
      have rule : ¬ReturnsFit (some sold) (some back) := by
        simp only [ReturnsFit, Option.mem_some_iff, forall_eq']
        omega
      exact ⟨rfl, (if_neg rule).symm, fun valid => absurd valid (ValueState.nonvalid_ne_bot _)⟩
    · obtain ⟨content, signature, -⟩ := makeValid_eq_ok.mp made
      have rule : ReturnsFit (some sold) (some back) := by
        simp only [ReturnsFit, Option.mem_some_iff, forall_eq']
        omega
      refine ⟨signature, ?_, fun _ => ⟨sold, rfl, back, rfl, Value.integer?_eq_some_iff.mpr content⟩⟩
      rw [Value.state_of_content content]
      exact (if_pos rule).symm

/-- The units whose cost is borne: those that were not resold, when the returns
split. -/
theorem costUnitsOf_result
    {gross returned resalable compensated result : Value}
    (made : costUnitsOf gross returned resalable compensated = .ok result) :
    result.state = orNext (worst (statesOf [gross, returned, resalable, compensated]))
        (blockedUnless (ReturnsSplit gross.integer? returned.integer? resalable.integer?
          compensated.integer?)) ∧
      (result.state = .valid → ∃ sold ∈ gross.integer?, ∃ resold ∈ resalable.integer?,
        result.integer? = some (sold - resold)) := by
  unfold costUnitsOf at made
  split at made
  · rename_i propagated inherited
    obtain ⟨bad, state, -⟩ := propagate_eq_some inherited
    have preserved : result.state = propagated.state := by
      unfold preservePrimaryReason at made
      split at made
      · rename_i kept reason content
        rw [Value.state_of_nonvalid content]
        exact Value.state_of_nonvalid (makeNonvalid_eq_ok.mp made).1
      · cases made
    rw [orNext_of_ne_bot bad, ← state]
    exact ⟨preserved, fun valid => absurd (state.symm.trans (preserved.symm.trans valid)) bad⟩
  · rename_i notInherited
    have good := propagate_eq_none_iff.mp notInherited
    simp only [Checks.bind_eq_ok, integerOf_eq_ok] at made
    obtain ⟨sold, soldEq, back, backEq, resold, resoldEq, paid, paidEq, made⟩ := made
    rw [good, orNext_bot, soldEq, backEq, resoldEq, paidEq]
    split_ifs at made with broken
    · obtain rfl := Checks.pure_eq_ok.mp made
      have rule : ¬ReturnsSplit (some sold) (some back) (some resold) (some paid) := by
        simp only [ReturnsSplit, ReturnsFit, Option.mem_some_iff, forall_eq']
        omega
      exact ⟨(if_neg rule).symm, fun valid => absurd valid (ValueState.nonvalid_ne_bot _)⟩
    · obtain ⟨content, -, -⟩ := makeValid_eq_ok.mp made
      have rule : ReturnsSplit (some sold) (some back) (some resold) (some paid) := by
        simp only [ReturnsSplit, ReturnsFit, Option.mem_some_iff, forall_eq']
        omega
      refine ⟨?_, fun _ => ⟨sold, rfl, resold, rfl, Value.integer?_eq_some_iff.mpr content⟩⟩
      rw [Value.state_of_content content]
      exact (if_pos rule).symm

/-- The value if it has the required signature. -/
def withSignature (value : Value) (signature : Signature) : Option Value :=
  if value.signature = signature then some value else none

/-- The product cost: the product of the units and the cost per unit. -/
theorem productCostOf_result
    {ctx : DecimalContext}
    {costUnits costPerUnit result : Value}
    {currency : CurrencyCode}
    (made : productCostOf ctx costUnits costPerUnit currency = .ok result) :
    result.signature = .amount currency ∧
      result.state = orNext costUnits.state
        (stateOf (withSignature costPerUnit (.amountPerItem currency))) ∧
      (result.state = .valid → ∃ units ∈ costUnits.integer?, ∃ unitCost ∈ costPerUnit.number?,
        ∃ cost, Decimal.mul ctx (Decimal.ofInt units) unitCost = .ok cost ∧
          result.number? = some cost) := by
  unfold productCostOf at made
  split at made
  · rename_i state reason content
    obtain ⟨resultContent, signature, -⟩ := makeNonvalid_eq_ok.mp made
    have unitsState := Value.state_of_nonvalid content
    have resultState := Value.state_of_nonvalid resultContent
    rw [resultState, unitsState, orNext_of_ne_bot (ValueState.nonvalid_ne_bot state)]
    exact ⟨signature, rfl, fun valid => absurd valid (by simp)⟩
  · rename_i payload content
    rw [Value.state_of_content content, ← ValueState.bot_eq, orNext_bot]
    unfold withSignature
    by_cases typed : costPerUnit.signature = .amountPerItem currency
    · rw [if_neg (not_not.mpr typed)] at made
      rw [if_pos typed]
      split at made
      · rename_i propagated inherited
        obtain rfl := Except.ok.inj made
        obtain ⟨bad, state, signature⟩ := propagate_eq_some inherited
        refine ⟨signature, ?_, fun valid => absurd (state.symm.trans valid) bad⟩
        exact state.trans (worst_singleton costPerUnit.state)
      · rename_i notInherited
        have good := propagate_eq_none_iff.mp notInherited
        simp only [Checks.bind_eq_ok, integerOf_eq_ok, numberOf_eq_ok, decimalResult_eq_ok] at made
        obtain ⟨units, unitsEq, unitCost, unitCostEq, cost, product, made⟩ := made
        obtain ⟨resultContent, signature, -⟩ := makeValid_eq_ok.mp made
        refine ⟨signature, ?_, fun _ => ⟨units, unitsEq, unitCost, unitCostEq, cost, product,
          Value.number?_eq_some_iff.mpr resultContent⟩⟩
        rw [Value.state_of_content resultContent]
        exact good.symm.trans (worst_singleton costPerUnit.state)
    · rw [if_pos typed] at made
      obtain ⟨resultContent, signature, -⟩ := makeNonvalid_eq_ok.mp made
      rw [Value.state_of_nonvalid resultContent, if_neg typed]
      exact ⟨signature, rfl, fun valid => absurd valid (by simp)⟩

/-! ### Sums -/

/-- The additions of a money sum. -/
def addTerms (ctx : DecimalContext) (total : Decimal) :
    List (Int × Decimal) → Except DecimalSignal Decimal
  | [] => .ok total
  | (sign, amount) :: terms => do
      let signed ← Decimal.mul ctx (Decimal.ofInt sign) amount
      addTerms ctx (← Decimal.add ctx total signed) terms

/-- The amount of a term of a money sum. -/
def IsAmountOf (term : Int × Value) (amount : Int × Decimal) : Prop :=
  amount.1 = term.1 ∧ term.2.number? = some amount.2

theorem sumTerms_result
    {ctx : DecimalContext}
    {currency : CurrencyCode}
    {total : Decimal}
    {sources : List String}
    {terms : List (Int × Value)}
    {result : Value}
    (typed : ∀ term ∈ terms, term.2.signature = .amount currency)
    (made : sumTerms ctx currency total sources terms = .ok result) :
    result.signature = .amount currency ∧ ∃ amounts sum, List.Forall₂ IsAmountOf terms amounts ∧
      addTerms ctx total amounts = .ok sum ∧ result.number? = some sum := by
  induction terms generalizing total sources with
  | nil =>
      obtain ⟨content, signature, -⟩ := makeValid_eq_ok.mp made
      exact ⟨signature, [], total, .nil, rfl, Value.number?_eq_some_iff.mpr content⟩
  | cons term terms inductionHypothesis =>
      obtain ⟨sign, value⟩ := term
      have signature := typed _ List.mem_cons_self
      have matching : ¬(value.signature.valueType ≠ .money ∨
          value.signature.currency ≠ some currency.val) := by
        simp only at signature
        rw [signature]
        exact fun either => either.elim (· rfl) (· rfl)
      simp only [sumTerms, if_neg matching, Checks.bind_eq_ok, decimalResult_eq_ok,
        numberOf_eq_ok] at made
      obtain ⟨amount, amountEq, signed, product, next, added, made⟩ := made
      obtain ⟨resultSignature, amounts, sum, related, rest, number⟩ :=
        inductionHypothesis (fun term present => typed term (List.mem_cons_of_mem _ present)) made
      refine ⟨resultSignature, (sign, amount) :: amounts, sum, .cons ⟨rfl, amountEq⟩ related, ?_,
        number⟩
      simp only [addTerms, Checks.bind_eq_ok]
      exact ⟨signed, product, next, added, rest⟩

/-- A money sum has the worst state of its terms, and it is their sum when all
are valid. -/
theorem moneySum_result
    {ctx : DecimalContext}
    {currency : CurrencyCode}
    {terms : List (Int × Value)}
    {result : Value}
    (typed : ∀ term ∈ terms, term.2.signature = .amount currency)
    (made : moneySum ctx terms currency = .ok result) :
    result.signature = .amount currency ∧
      result.state = worst (statesOf (terms.map Prod.snd)) ∧
      (result.state = .valid → ∃ amounts sum, List.Forall₂ IsAmountOf terms amounts ∧
        addTerms ctx (Decimal.ofInt 0) amounts = .ok sum ∧ result.number? = some sum) := by
  unfold moneySum at made
  split at made
  · rename_i propagated inherited
    obtain rfl := Except.ok.inj made
    obtain ⟨bad, state, signature⟩ := propagate_eq_some inherited
    exact ⟨signature, state, fun valid => absurd (state.symm.trans valid) bad⟩
  · rename_i notInherited
    obtain ⟨signature, amounts, sum, related, added, number⟩ := sumTerms_result typed made
    refine ⟨signature, ?_, fun _ => ⟨amounts, sum, related, added, number⟩⟩
    rw [Value.state_of_number? number, propagate_eq_none_iff.mp notInherited]
    rfl

/-! ### Other expenses -/

/-- The expense that a component states, when it has an admitted signature. -/
def statedExpense? (currency : CurrencyCode) (item : Json) : Option Value :=
  match item with
  | .obj fields =>
      ((valueFromDict (member fields "value") ("other_expense:" ++
        (text? (member fields "component_id")).getD "")).toOption).filter fun value =>
          isExpenseSignature value.signature currency
  | _ => none

/-- The state of an expense, which depends on the net units if it is stated per
item. -/
def expenseState (net : ValueState) (expense : Value) : ValueState :=
  if expense.signature.unit = "MONEY_PER_ITEM" then worst [net, expense.state] else expense.state

/-- The amount that the kernel adds for a component. -/
def IsExpenseAmount
    (ctx : DecimalContext)
    (policy : RoundingPolicy)
    (currency : CurrencyCode)
    (net : Value)
    (item : Json)
    (amount : Value) : Prop :=
  ∃ stated normalized, statedExpense? currency item = some stated ∧
    Represents policy (some stated) stated.signature normalized ∧
    expenseAmount ctx net normalized currency = .ok amount

theorem readComponent_eq_ok
    {item raw : Json}
    {seen : List String}
    {componentId : String}
    (succeeded : readComponent item seen = .ok (componentId, raw)) :
    ∃ fields, item = .obj fields ∧ text? (member fields "component_id") = some componentId ∧
      raw = member fields "value" := by
  unfold readComponent at succeeded
  split at succeeded
  · rename_i fields
    simp only [Checks.bind_eq_ok, Checks.requireSome_eq_ok, Checks.pure_eq_ok, nonemptyString?,
      Option.filter_eq_some_iff, Prod.mk.injEq] at succeeded
    obtain ⟨-, -, found, ⟨textEq, -⟩, -, -, rfl, rfl⟩ := succeeded
    exact ⟨fields, rfl, textEq, rfl⟩
  · cases succeeded

/-- The amounts of the components are added, unless one has a wrong signature. -/
theorem sumExpenses_cases
    {ctx : DecimalContext}
    {net : Value}
    {policy : RoundingPolicy}
    {currency : CurrencyCode}
    {seen : List String}
    {terms : List (Int × Value)}
    {items : List Json}
    {result : Value}
    (made : sumExpenses ctx net policy currency seen terms items = .ok result) :
    ((∃ item ∈ items, statedExpense? currency item = none) ∧
      result.state = .nonvalid .blocked ∧ result.signature = .amount currency) ∨
    ∃ amounts, List.Forall₂ (IsExpenseAmount ctx policy currency net) items amounts ∧
      moneySum ctx (terms ++ amounts.map fun amount => (1, amount)) currency = .ok result := by
  induction items generalizing seen terms with
  | nil => exact .inr ⟨[], .nil, by simpa [sumExpenses] using made⟩
  | cons item items inductionHypothesis =>
      simp only [sumExpenses, Checks.bind_eq_ok] at made
      obtain ⟨⟨componentId, raw⟩, component, value, read, normalized, normalizes, made⟩ := made
      obtain ⟨fields, rfl, textEq, rfl⟩ := readComponent_eq_ok component
      have represents := represents_of_normalizeValue normalizes
      have statedEq : statedExpense? currency (.obj fields) =
          if isExpenseSignature value.signature currency = true then some value else none := by
        simp [statedExpense?, textEq, read, Except.toOption, Option.filter_some]
      rw [represents.signature] at made
      split_ifs at made with mismatch
      · obtain ⟨content, signature, -⟩ := makeNonvalid_eq_ok.mp made
        refine .inl ⟨⟨_, List.mem_cons_self, ?_⟩, Value.state_of_nonvalid content, signature⟩
        rw [statedEq, mismatch]
        rfl
      · rw [Bool.not_eq_false] at mismatch
        rw [if_pos mismatch] at statedEq
        obtain ⟨amount, amountMade, made⟩ := Checks.bind_eq_ok.mp made
        rcases inductionHypothesis made with ⟨⟨other, present, wrong⟩, blocked⟩ | ⟨amounts, related, sum⟩
        · exact .inl ⟨⟨other, List.mem_cons_of_mem _ present, wrong⟩, blocked⟩
        · exact .inr ⟨amount :: amounts,
            .cons ⟨value, normalized, statedEq, represents, amountMade⟩ related, by simpa using sum⟩

/-- An expense signature without a unit per item is that of an amount. -/
theorem eq_amount_of_isExpenseSignature
    {signature : Signature}
    {currency : CurrencyCode}
    (admitted : isExpenseSignature signature currency = true)
    (plain : signature.unit ≠ "MONEY_PER_ITEM") : signature = .amount currency := by
  simp only [isExpenseSignature, Bool.and_eq_true, decide_eq_true_eq, Bool.or_eq_true, plain,
    or_false] at admitted
  exact Signature.ext admitted.1.1 admitted.2 admitted.1.2

/-- The amount of a component has its state; per item it is the product of the
net units and the amount per item. -/
theorem expenseAmount_result
    {ctx : DecimalContext}
    {net value amount : Value}
    {currency : CurrencyCode}
    (admitted : isExpenseSignature value.signature currency = true)
    (made : expenseAmount ctx net value currency = .ok amount) :
    amount.signature = .amount currency ∧ amount.state = expenseState net.state value ∧
      (amount.state = .valid → ∃ number ∈ value.number?,
        if value.signature.unit = "MONEY_PER_ITEM" then
          ∃ units ∈ net.integer?, ∃ product,
            Decimal.mul ctx (Decimal.ofInt units) number = .ok product ∧
              amount.number? = some product
        else amount.number? = some number) := by
  unfold expenseAmount at made
  unfold expenseState
  split_ifs at made ⊢ with perItem
  · split at made
    · rename_i propagated inherited
      obtain rfl := Except.ok.inj made
      obtain ⟨bad, state, signature⟩ := propagate_eq_some inherited
      exact ⟨signature, state, fun valid => absurd (state.symm.trans valid) bad⟩
    · rename_i notInherited
      have good := propagate_eq_none_iff.mp notInherited
      simp only [Checks.bind_eq_ok, integerOf_eq_ok, numberOf_eq_ok, decimalResult_eq_ok] at made
      obtain ⟨units, unitsEq, number, numberEq, product, multiplied, made⟩ := made
      obtain ⟨content, signature, -⟩ := makeValid_eq_ok.mp made
      refine ⟨signature, ?_, fun _ => ⟨number, numberEq, units, unitsEq, product, multiplied,
        Value.number?_eq_some_iff.mpr content⟩⟩
      rw [Value.state_of_content content]
      exact good.symm
  · obtain rfl := Except.ok.inj made
    have signature := eq_amount_of_isExpenseSignature admitted perItem
    refine ⟨signature, rfl, fun valid => ?_⟩
    obtain ⟨number, numberEq⟩ := Value.exists_number valid (by rw [signature]; rfl)
    exact ⟨number, numberEq, numberEq⟩

/-- The state of the other expenses: blocked without components or with one of
a wrong signature. -/
def otherExpenseState (currency : CurrencyCode) (net : ValueState) (components : Json) :
    ValueState :=
  match components with
  | .arr (item :: items) =>
      if ∀ component ∈ item :: items, (statedExpense? currency component).isSome = true then
        worst (((item :: items).filterMap (statedExpense? currency)).map (expenseState net))
      else .nonvalid .blocked
  | _ => .nonvalid .blocked

/-- The amounts of the components have the states of the stated expenses. -/
theorem statesOf_amounts
    {ctx : DecimalContext}
    {policy : RoundingPolicy}
    {currency : CurrencyCode}
    {net : Value}
    {items : List Json}
    {amounts : List Value}
    (related : List.Forall₂ (IsExpenseAmount ctx policy currency net) items amounts) :
    (∀ item ∈ items, (statedExpense? currency item).isSome = true) ∧
      (∀ amount ∈ amounts, amount.signature = .amount currency) ∧
      statesOf amounts =
        (items.filterMap (statedExpense? currency)).map (expenseState net.state) := by
  induction related with
  | nil => exact ⟨nofun, nofun, rfl⟩
  | cons first _ inductionHypothesis =>
      obtain ⟨stated, normalized, statedEq, represents, made⟩ := first
      obtain ⟨allStated, allTyped, states⟩ := inductionHypothesis
      have admitted : isExpenseSignature stated.signature currency = true := by
        unfold statedExpense? at statedEq
        split at statedEq
        · exact (Option.filter_eq_some_iff.mp statedEq).2
        · cases statedEq
      have signature := represents.signature
      obtain ⟨typed, state, -⟩ := expenseAmount_result (signature.symm ▸ admitted) made
      have sameState : expenseState net.state normalized = expenseState net.state stated := by
        unfold expenseState
        rw [signature, represents.state]
        rfl
      refine ⟨?_, ?_, ?_⟩
      · simpa [statedEq] using allStated
      · simpa [typed] using allTyped
      · rw [List.filterMap_cons_some statedEq, List.map_cons, ← states, ← sameState, ← state]
        rfl

/-- The other expenses are the sum of the amounts of the components. -/
theorem calculateOtherExpense_result
    {ctx : DecimalContext}
    {raw : Json}
    {net result : Value}
    {policy : RoundingPolicy}
    {currency : CurrencyCode}
    (made : calculateOtherExpense ctx raw net policy currency = .ok result) :
    result.signature = .amount currency ∧ result.state = otherExpenseState currency net.state raw ∧
      (result.state = .valid → ∃ items amounts numbers sum, raw = .arr items ∧
        List.Forall₂ (IsExpenseAmount ctx policy currency net) items amounts ∧
        List.Forall₂ IsAmountOf (amounts.map fun amount => (1, amount)) numbers ∧
        addTerms ctx (Decimal.ofInt 0) numbers = .ok sum ∧ result.number? = some sum) := by
  unfold calculateOtherExpense at made
  split at made
  · rename_i item items
    dsimp only [otherExpenseState]
    rcases sumExpenses_cases made with ⟨⟨wrong, present, absent⟩, state, signature⟩ | ⟨amounts, related, sum⟩
    · have notAll : ¬∀ component ∈ item :: items, (statedExpense? currency component).isSome = true :=
        fun all => by simpa [absent] using all wrong present
      rw [if_neg notAll, state]
      exact ⟨signature, rfl, nofun⟩
    · obtain ⟨allStated, allTyped, states⟩ := statesOf_amounts related
      rw [List.nil_append] at sum
      have values : (amounts.map fun amount => ((1 : Int), amount)).map Prod.snd = amounts := by
        simp [Function.comp_def]
      obtain ⟨signature, state, total⟩ := moneySum_result (by
        intro term present
        obtain ⟨amount, inAmounts, rfl⟩ := List.mem_map.mp present
        exact allTyped amount inAmounts) sum
      rw [values, states] at state
      rw [if_pos allStated]
      refine ⟨signature, state, fun valid => ?_⟩
      obtain ⟨numbers, sum, amountsOf, added, number⟩ := total valid
      exact ⟨item :: items, amounts, numbers, sum, rfl, related, amountsOf, added, number⟩
  · rename_i notList
    obtain ⟨content, signature, -⟩ := makeNonvalid_eq_ok.mp made
    rw [Value.state_of_nonvalid content]
    refine ⟨signature, ?_, nofun⟩
    unfold otherExpenseState
    split
    · rename_i item items
      exact absurd rfl (notList item items)
    · rfl

/-! ### Income -/

/-- The return compensation is not negative, and zero without compensated units. -/
def CompensationFits (units : Option Int) (amount : Option Decimal) : Prop :=
  ∀ count ∈ units, ∀ paid ∈ amount, 0 ≤ count ∧ 0 ≤ paid.toRat ∧ (count = 0 → paid.toRat = 0)

instance (units : Option Int) (amount : Option Decimal) :
    Decidable (CompensationFits units amount) := by
  unfold CompensationFits
  infer_instance

/-- The return compensation, when it fits the compensated units. -/
theorem validatedReturnCompensation_result
    {inputs : Inputs}
    {currency : CurrencyCode}
    {units amount result : Value}
    (unitsEq : expect inputs "compensated_returned_units" .items = units)
    (amountEq : expect inputs "return_compensation_amount" (.amount currency) = amount)
    (typed : amount.signature = .amount currency)
    (made : validatedReturnCompensation inputs currency = .ok result) :
    result.signature = .amount currency ∧
      result.state = orNext (worst (statesOf [units, amount]))
        (blockedUnless (CompensationFits units.integer? amount.number?)) ∧
      (result.state = .valid → result = amount) := by
  unfold validatedReturnCompensation at made
  simp only [unitsEq, amountEq] at made
  split at made
  · rename_i propagated inherited
    obtain rfl := Except.ok.inj made
    obtain ⟨bad, state, signature⟩ := propagate_eq_some inherited
    rw [orNext_of_ne_bot bad]
    exact ⟨signature, state, fun valid => absurd (state.symm.trans valid) bad⟩
  · rename_i notInherited
    have good := propagate_eq_none_iff.mp notInherited
    simp only [Checks.bind_eq_ok, integerOf_eq_ok, numberOf_eq_ok] at made
    obtain ⟨count, countEq, paid, paidEq, made⟩ := made
    rw [good, orNext_bot, countEq, paidEq]
    have zero : paid.isZero = false ↔ ¬paid.toRat = 0 := by
      rw [Decimal.toRat_eq_zero_iff, ← Decimal.isZero_iff, Bool.not_eq_true]
    have broken : (count < 0 ∨ Decimal.lt paid (Decimal.ofInt 0) = true ∨
        (count = 0 ∧ paid.isZero = false)) ↔ ¬CompensationFits (some count) (some paid) := by
      simp only [CompensationFits, Option.mem_some_iff, forall_eq', Decimal.lt_iff,
        Decimal.toRat_ofInt, Int.cast_zero, zero, not_and_or, not_le, Classical.not_imp]
    by_cases rule : CompensationFits (some count) (some paid)
    · rw [if_neg (broken.not.mpr (not_not.mpr rule))] at made
      obtain rfl := Checks.pure_eq_ok.mp made
      refine ⟨typed, ?_, fun _ => rfl⟩
      rw [Value.state_of_number? paidEq]
      exact (if_pos rule).symm
    · rw [if_pos (broken.mpr rule)] at made
      obtain ⟨content, signature, -⟩ := makeNonvalid_eq_ok.mp made
      rw [Value.state_of_nonvalid content]
      exact ⟨signature, (if_neg rule).symm, fun valid => absurd valid (by simp)⟩

/-- The names of the amounts of the income. -/
def incomeNames : List String :=
  ["gross_sales_amount", "discounts_amount", "subsidies_excluding_return_compensation_amount",
    "marketplace_commission_amount", "forward_logistics_amount", "reverse_logistics_amount",
    "storage_amount", "advertising_amount", "fines_withholdings_amount"]

/-- The terms of the income with their values. -/
def incomeValues (inputs : Inputs) (currency : CurrencyCode) (compensation : Value) :
    List (Int × Value) :=
  incomeTerms.map fun (sign, metricId) =>
    (sign, (metricId.map fun id => expect inputs id (.amount currency)).getD compensation)

/-- The income: the sum of its terms when the compensation is valid. -/
theorem incomeOf_result
    {ctx : DecimalContext}
    {inputs : Inputs}
    {currency : CurrencyCode}
    {result : Value}
    (typed : ∀ name, (expect inputs name (.amount currency)).signature = .amount currency)
    (made : incomeOf ctx inputs currency = .ok result) :
    result.signature = .amount currency ∧ ∃ compensation,
      validatedReturnCompensation inputs currency = .ok compensation ∧
      result.state = orNext compensation.state (worst (statesOf (incomeNames.map fun name =>
        expect inputs name (.amount currency)))) ∧
      (result.state = .valid → ∃ amounts sum,
        List.Forall₂ IsAmountOf (incomeValues inputs currency compensation) amounts ∧
        addTerms ctx (Decimal.ofInt 0) amounts = .ok sum ∧ result.number? = some sum) := by
  unfold incomeOf at made
  obtain ⟨compensation, validated, made⟩ := Checks.bind_eq_ok.mp made
  have compensationTyped :=
    (validatedReturnCompensation_result rfl rfl (typed _) validated).1
  split at made
  · rename_i state reason content
    obtain ⟨resultContent, signature, -⟩ := makeNonvalid_eq_ok.mp made
    refine ⟨signature, compensation, validated, ?_, ?_⟩
    · rw [Value.state_of_nonvalid content, Value.state_of_nonvalid resultContent,
        orNext_of_ne_bot (ValueState.nonvalid_ne_bot state)]
    · intro valid
      rw [Value.state_of_nonvalid resultContent] at valid
      cases valid
  · rename_i payload content
    obtain ⟨signature, state, total⟩ := moneySum_result (by
      intro term present
      obtain ⟨⟨sign, name⟩, -, rfl⟩ := List.mem_map.mp present
      cases name with
      | none => exact compensationTyped
      | some name => exact typed name) made
    have good : compensation.state = ⊥ := Value.state_of_content content
    refine ⟨signature, compensation, validated, ?_, total⟩
    rw [good, orNext_bot, state]
    simp [incomeTerms, incomeNames, statesOf, good]

/-! ### Tax and profit -/

/-- The state of a tax: blocked unless rate and base have the required
signatures. -/
def taxState (rate base : Option Value) : ValueState :=
  match rate, base with
  | some rate, some base => worst [rate.state, base.state]
  | _, _ => .nonvalid .blocked

/-- The tax: the product of base and rate. -/
theorem taxOf_result
    {ctx : DecimalContext}
    {rate result : Value}
    {base : Option Value}
    {taxBaseMetricId : String}
    {currency : CurrencyCode}
    (made : taxOf ctx rate base taxBaseMetricId currency = .ok result) :
    result.signature = .amount currency ∧
      result.state = taxState (withSignature rate .rate)
        (base.bind fun base => withSignature base (.amount currency)) ∧
      (result.state = .valid → ∃ levied ∈ base, ∃ factor ∈ rate.number?,
        ∃ amount ∈ levied.number?, ∃ product, Decimal.mul ctx amount factor = .ok product ∧
          result.number? = some product) := by
  unfold taxOf at made
  cases base with
  | none =>
      obtain rfl := Except.ok.inj made
      refine ⟨rfl, ?_, fun valid => absurd valid (ValueState.nonvalid_ne_bot _)⟩
      cases withSignature rate .rate <;> rfl
  | some base =>
      simp only at made
      by_cases typed : rate.signature = .rate ∧ base.signature = .amount currency
      · have matching : ¬(rate.signature ≠ .rate ∨ base.signature ≠ .amount currency) := by
          simp [typed]
        rw [if_neg matching] at made
        simp only [withSignature, Option.bind_some, if_pos typed.1, if_pos typed.2]
        split at made
        · rename_i propagated inherited
          obtain rfl := Except.ok.inj made
          obtain ⟨bad, state, signature⟩ := propagate_eq_some inherited
          exact ⟨signature, state, fun valid => absurd (state.symm.trans valid) bad⟩
        · rename_i notInherited
          have good := propagate_eq_none_iff.mp notInherited
          simp only [Checks.bind_eq_ok, numberOf_eq_ok, decimalResult_eq_ok] at made
          obtain ⟨factor, factorEq, amount, amountEq, product, multiplied, made⟩ := made
          obtain ⟨content, signature, -⟩ := makeValid_eq_ok.mp made
          refine ⟨signature, ?_, fun _ => ⟨base, rfl, factor, factorEq, amount, amountEq, product,
            multiplied, Value.number?_eq_some_iff.mpr content⟩⟩
          rw [Value.state_of_content content]
          exact good.symm
      · have mismatch : rate.signature ≠ .rate ∨ base.signature ≠ .amount currency := by
          rwa [not_and_or] at typed
        rw [if_pos mismatch] at made
        obtain ⟨content, signature, -⟩ := makeNonvalid_eq_ok.mp made
        rw [Value.state_of_nonvalid content]
        refine ⟨signature, ?_, fun valid => absurd valid (by simp)⟩
        simp only [withSignature, Option.bind_some]
        rcases mismatch with wrong | wrong
        · rw [if_neg wrong]
          rfl
        · rw [if_neg wrong]
          split <;> rfl

/-- The profit per unit, which needs a positive number of units. -/
theorem profitPerUnitOf_result
    {ctx : DecimalContext}
    {profit netUnits result : Value}
    {currency : CurrencyCode}
    (made : profitPerUnitOf ctx profit netUnits currency = .ok result) :
    result.signature = .amountPerItem currency ∧
      result.state = orNext (worst (statesOf [profit, netUnits]))
        (blockedUnless (∀ units ∈ netUnits.integer?, 0 < units)) ∧
      (result.state = .valid → ∃ units ∈ netUnits.integer?, ∃ amount ∈ profit.number?,
        ∃ quotient, Decimal.div ctx amount (Decimal.ofInt units) = .ok quotient ∧
          result.number? = some quotient) := by
  unfold profitPerUnitOf at made
  split at made
  · rename_i propagated inherited
    obtain rfl := Except.ok.inj made
    obtain ⟨bad, state, signature⟩ := propagate_eq_some inherited
    rw [orNext_of_ne_bot bad]
    exact ⟨signature, state, fun valid => absurd (state.symm.trans valid) bad⟩
  · rename_i notInherited
    have good := propagate_eq_none_iff.mp notInherited
    simp only [Checks.bind_eq_ok, integerOf_eq_ok] at made
    obtain ⟨units, unitsEq, made⟩ := made
    rw [good, orNext_bot, unitsEq]
    simp only [Option.mem_some_iff, forall_eq']
    by_cases positive : 0 < units
    · rw [if_neg (not_le.mpr positive)] at made
      simp only [Checks.bind_eq_ok, numberOf_eq_ok, decimalResult_eq_ok] at made
      obtain ⟨amount, amountEq, quotient, divided, made⟩ := made
      obtain ⟨content, signature, -⟩ := makeValid_eq_ok.mp made
      refine ⟨signature, ?_, fun _ => ⟨units, rfl, amount, amountEq, quotient, divided,
        Value.number?_eq_some_iff.mpr content⟩⟩
      rw [Value.state_of_content content]
      exact (if_pos positive).symm
    · rw [if_pos (not_lt.mp positive)] at made
      obtain ⟨content, signature, -⟩ := makeNonvalid_eq_ok.mp made
      rw [Value.state_of_nonvalid content]
      exact ⟨signature, (if_neg positive).symm, fun valid => absurd valid (by simp)⟩

end Finance
end QuantumAnalytics
