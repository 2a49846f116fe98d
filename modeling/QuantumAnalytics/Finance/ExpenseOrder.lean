import QuantumAnalytics.Finance.Exactness
import QuantumAnalytics.Finance.FailClosed
import QuantumAnalytics.Finance.SumOrder

/-!
# The order of the expense components

The loop over the expense components ends at the first one that is malformed,
repeats an id, has a value that cannot be read or a signature that does not
match. When there is none the amounts are added, in any order with the same
sum. Otherwise the first offence decides: an error is raised, or the expenses
are blocked with the sources of that component and the calculation goes on.
-/

namespace QuantumAnalytics
namespace Finance

/-! ### Components -/

/-- What the loop makes of a component that has an id of its own. -/
inductive ComponentReading
  /-- The amount that is added. -/
  | amount (value : Value)
  /-- The signature does not match. -/
  | mismatch (sourceIds : List String)

/-- How a component ends the loop. -/
inductive Offence
  /-- An error is raised. -/
  | raised (error : FinanceFailure)
  /-- The expenses are blocked with the sources of a component. -/
  | mismatch (sourceIds : List String)
  deriving DecidableEq

/-- The id and the value of a component with the members of one. -/
def component? : Json → Option (String × Json)
  | .obj fields =>
      if hasExactKeys fields ["component_id", "value"] = true then
        (nonemptyString? (member fields "component_id")).map fun id => (id, member fields "value")
      else none
  | _ => none

section Loop

variable (ctx : DecimalContext) (net : Value) (policy : RoundingPolicy) (currency : CurrencyCode)

/-- The value of a component. -/
def readAmount (id : String) (raw : Json) : Result ComponentReading := do
  let value ← normalizeValue (← valueFromDict raw ("other_expense:" ++ id)) policy
  if isExpenseSignature value.signature currency = false then
    return .mismatch (sortedSet value.sourceIds)
  else return .amount (← expenseAmount ctx net value currency)

/-- The first component that ends the loop. -/
def firstOffence : List String → List Json → Option Offence
  | _, [] => none
  | seen, item :: items =>
      match component? item with
      | none => some (.raised (.finance .otherExpenseComponentsInvalid))
      | some (id, raw) =>
          if id ∈ seen then some (.raised (.finance .otherExpenseComponentsInvalid))
          else
            match readAmount ctx net policy currency id raw with
            | .error error => some (.raised error)
            | .ok (.mismatch sourceIds) => some (.mismatch sourceIds)
            | .ok (.amount _) => firstOffence (id :: seen) items

/-- The amount of a component that does not end the loop. -/
def amount? (item : Json) : Option Value :=
  (component? item).bind fun (id, raw) =>
    match readAmount ctx net policy currency id raw with
    | .ok (.amount value) => some value
    | _ => none

/-- The expenses with a component whose signature does not match. -/
def blockedExpense (sourceIds : List String) : Value where
  signature := .amount currency
  content := .nonvalid .blocked "OTHER_EXPENSE_SIGNATURE_MISMATCH"
  sourceIds := sourceIds
  fits := rfl

theorem readComponent_eq (item : Json) (seen : List String) :
    readComponent item seen =
      match component? item with
      | none => raise .otherExpenseComponentsInvalid
      | some (id, raw) =>
          if id ∈ seen then raise .otherExpenseComponentsInvalid else .ok (id, raw) := by
  unfold readComponent component?
  cases item with
  | obj fields =>
      dsimp only
      by_cases exact : hasExactKeys fields ["component_id", "value"] = true
      · rw [if_pos exact, check, require, if_pos exact]
        cases nonemptyString? (member fields "component_id") with
        | none => rfl
        | some id =>
            by_cases known : id ∈ seen
            · simp [known, requireSome, check, require, raise, Checks.ok_bind]
            · simp [known, requireSome, check, require, Checks.ok_bind, pure, Except.pure]
      · rw [if_neg exact, check, require, if_neg exact]
        rfl
  | _ => rfl

/-- The loop ends at the first offence, or with the sum of all amounts. -/
theorem sumExpenses_eq
    (items : List Json)
    (seen : List String)
    (terms : List (Int × Value)) :
    sumExpenses ctx net policy currency seen terms items =
      match firstOffence ctx net policy currency seen items with
      | some (.raised error) => .error error
      | some (.mismatch sourceIds) => .ok (blockedExpense currency sourceIds)
      | none => moneySum ctx (terms ++ (items.filterMap (amount? ctx net policy currency)).map
          fun value => (1, value)) currency := by
  induction items generalizing seen terms with
  | nil => simp [sumExpenses, firstOffence]
  | cons item items inductionHypothesis =>
      rw [sumExpenses, firstOffence, readComponent_eq]
      cases found : component? item with
      | none => rfl
      | some entry =>
          obtain ⟨id, raw⟩ := entry
          dsimp only
          by_cases known : id ∈ seen
          · rw [if_pos known, if_pos known]
            rfl
          · rw [if_neg known, if_neg known, Checks.ok_bind]
            dsimp only
            cases read : valueFromDict raw ("other_expense:" ++ id) with
            | error failure => simp [readAmount, read, Checks.error_bind]
            | ok written =>
                cases normal : normalizeValue written policy with
                | error failure => simp [readAmount, read, normal, Checks.ok_bind, Checks.error_bind]
                | ok value =>
                    rw [Checks.ok_bind, normal, Checks.ok_bind]
                    by_cases differs : isExpenseSignature value.signature currency = false
                    · have reading : readAmount ctx net policy currency id raw =
                          .ok (.mismatch (sortedSet value.sourceIds)) := by
                        simp only [readAmount, read, normal, Checks.ok_bind, if_pos differs]
                        rfl
                      rw [if_pos differs, reading, makeNonvalid, dif_pos (by decide)]
                      rfl
                    · rw [if_neg differs]
                      cases made : expenseAmount ctx net value currency with
                      | error failure =>
                          have reading : readAmount ctx net policy currency id raw =
                              .error failure := by
                            simp only [readAmount, read, normal, Checks.ok_bind, if_neg differs,
                              made, Checks.error_bind]
                          rw [reading]
                          rfl
                      | ok amount =>
                          have reading : readAmount ctx net policy currency id raw =
                              .ok (.amount amount) := by
                            simp only [readAmount, read, normal, Checks.ok_bind, if_neg differs,
                              made]
                            rfl
                          have isAmount : amount? ctx net policy currency item = some amount := by
                            simp only [amount?, found, Option.bind_some, reading]
                          rw [reading, Checks.ok_bind, List.filterMap_cons_some isAmount,
                            inductionHypothesis]
                          simp only [List.map_cons, List.append_assoc, List.cons_append,
                            List.nil_append]

/-- No component ends the loop when each has an id of its own and an amount. -/
theorem firstOffence_eq_none_iff
    (items : List Json)
    (seen : List String) :
    firstOffence ctx net policy currency seen items = none ↔
      (∀ item ∈ items, (amount? ctx net policy currency item).isSome = true) ∧
        ((items.filterMap component?).map Prod.fst).Nodup ∧
        ∀ id ∈ (items.filterMap component?).map Prod.fst, id ∉ seen := by
  induction items generalizing seen with
  | nil => simp [firstOffence]
  | cons item items inductionHypothesis =>
      rw [firstOffence, List.forall_mem_cons]
      cases found : component? item with
      | none => simp [amount?, found]
      | some entry =>
          obtain ⟨id, raw⟩ := entry
          rw [List.filterMap_cons_some found, List.map_cons, List.nodup_cons, List.forall_mem_cons]
          dsimp only
          by_cases known : id ∈ seen
          · simp [known]
          · rw [if_neg known]
            cases read : readAmount ctx net policy currency id raw with
            | error failure => simp [amount?, found, read]
            | ok reading =>
                cases reading with
                | mismatch sourceIds => simp [amount?, found, read]
                | amount value =>
                    dsimp only
                    rw [inductionHypothesis (id :: seen)]
                    simp only [amount?, found, Option.bind_some, read, Option.isSome_some, true_and,
                      known, not_false_eq_true, List.mem_cons, not_or]
                    constructor
                    · rintro ⟨amounts, distinct, fresh⟩
                      exact ⟨amounts, ⟨fun again => (fresh id again).1 rfl, distinct⟩,
                        fun other present => (fresh other present).2⟩
                    · rintro ⟨amounts, ⟨once, distinct⟩, fresh⟩
                      exact ⟨amounts, distinct, fun other present =>
                        ⟨fun same => once (same ▸ present), fresh other present⟩⟩

end Loop

/-! ### The digits of the amounts -/

/-- A normalized number stands at the scale of the calculation. -/
theorem normalized_aligned
    {value normalized : Value}
    {policy : RoundingPolicy}
    {d : Decimal}
    (succeeded : normalizeValue value policy = .ok normalized)
    (number : normalized.number? = some d) :
    d.exponent = -(policy.calculationScale : ℤ) ∧
      d.signed.natAbs ≤ 10 ^ (policy.maxInputPrecision + policy.calculationScale) := by
  have represents := represents_of_normalizeValue succeeded
  have exponent : d.exponent = -(policy.calculationScale : ℤ) := by
    unfold normalizeValue at succeeded
    split at succeeded
    · rw [Checks.bind_done_eq_ok, Checks.bind_eq_ok] at succeeded
      obtain ⟨-, ⟨rounded, scale⟩, quantized, made⟩ := succeeded
      obtain ⟨madeContent, -⟩ := makeValid_eq_ok.mp made
      obtain ⟨-, rfl, rfl⟩ := quantize_result quantized
      rw [Value.number?_eq_some_iff.mpr madeContent] at number
      obtain rfl := Option.some.inj number
      rw [Decimal.rescale_exponent]
      rfl
    · rename_i payload notNumber present
      rw [Checks.bind_done_eq_ok] at succeeded
      obtain rfl := Checks.pure_eq_ok.mp succeeded.2
      have content := Value.payload?_eq_some_iff.mpr (Value.number?_eq_some_iff.mp number)
      exact absurd (Option.some.inj (present.symm.trans content)) (notNumber d)
    · rename_i absent
      obtain rfl := Except.ok.inj succeeded
      have content := Value.payload?_eq_some_iff.mpr (Value.number?_eq_some_iff.mp number)
      simp [absent] at content
  refine ⟨exponent, ?_⟩
  have carried := represents.number
  rw [number, Option.map_some] at carried
  obtain ⟨before, present, same⟩ := Option.map_eq_some_iff.mp carried.symm
  have small := (represents.sized present).small
  rw [same, RoundingPolicy.inputBound, Decimal.toRat_eq_signed, exponent, abs_mul, zpow_neg,
    zpow_natCast, abs_inv, abs_of_pos (by positivity : (0 : ℚ) < 10 ^ policy.calculationScale),
    ← div_eq_mul_inv, div_le_iff₀ (by positivity), ← pow_add] at small
  have cast : (d.signed.natAbs : ℚ) ≤ (10 ^ (policy.maxInputPrecision + policy.calculationScale) :
      ℕ) := by
    rw [Nat.cast_natAbs, Int.cast_abs]
    push_cast
    exact small
  exact_mod_cast cast

/-- The digits of an amount: those of the units and those of a normalized number. -/
def amountBound (policy : RoundingPolicy) : Nat :=
  10 ^ (2 * policy.maxInputPrecision + policy.calculationScale)

/-- A valid amount stands at the scale of the calculation. -/
theorem isAligned_of_amount?
    {ctx : DecimalContext}
    {net value : Value}
    {policy : RoundingPolicy}
    {currency : CurrencyCode}
    {item : Json}
    (counted : ∀ units ∈ net.integer?, units.natAbs ≤ 10 ^ policy.maxInputPrecision)
    (room : HasRoom ctx (-(policy.calculationScale : ℤ)) (amountBound policy))
    (isAmount : amount? ctx net policy currency item = some value)
    (valid : value.state = .valid) :
    IsAligned currency (-(policy.calculationScale : ℤ)) (amountBound policy) value := by
  obtain ⟨⟨id, raw⟩, -, read⟩ := Option.bind_eq_some_iff.mp isAmount
  dsimp only at read
  split at read
  · rename_i amount reading
    obtain rfl := Option.some.inj read
    simp only [readAmount, Checks.bind_eq_ok] at reading
    obtain ⟨written, -, normalized, normal, reading⟩ := reading
    split_ifs at reading with differs
    · simp [pure, Except.pure] at reading
    · rw [Checks.bind_eq_ok] at reading
      obtain ⟨made, isMade, same⟩ := reading
      simp only [Checks.pure_eq_ok, ComponentReading.amount.injEq] at same
      subst same
      have admitted : isExpenseSignature normalized.signature currency = true := by
        simpa using differs
      obtain ⟨signature, -, payload⟩ := expenseAmount_result admitted isMade
      obtain ⟨number, numberEq, payload⟩ := payload valid
      obtain ⟨exponent, digits⟩ := normalized_aligned normal numberEq
      refine ⟨signature, ?_⟩
      split_ifs at payload with perItem
      · obtain ⟨units, unitsEq, product, multiplied, productEq⟩ := payload
        have few := counted units unitsEq
        have size : (Decimal.exactMul (Decimal.ofInt units) number).coefficient ≤
            amountBound policy := by
          have whole : amountBound policy = 10 ^ policy.maxInputPrecision *
              10 ^ (policy.maxInputPrecision + policy.calculationScale) := by
            rw [amountBound, ← pow_add]
            congr 1
            omega
          rw [whole]
          rw [Decimal.natAbs_signed] at digits
          exact Nat.mul_le_mul few digits
        have place : (Decimal.exactMul (Decimal.ofInt units) number).exponent =
            -(policy.calculationScale : ℤ) := by
          simp [Decimal.exactMul, Decimal.ofInt, exponent]
        have kept := Decimal.fix_eq_self (size.trans_lt room.fits) (place ▸ room.least)
          (place ▸ room.small) room.wide
        rw [Decimal.mul, kept] at multiplied
        obtain rfl := Except.ok.inj multiplied
        exact ⟨_, productEq, place, (Decimal.natAbs_signed _).trans_le size⟩
      · refine ⟨number, payload, exponent, digits.trans ?_⟩
        exact Nat.pow_le_pow_right (by decide) (by omega)
  · simp at read

/-- The context of a calculation has room for the sum of all amounts. -/
theorem KernelRequest.hasRoom
    (request : KernelRequest)
    (counted : 1 ≤ request.expenseCount)
    {count : Nat}
    (few : count ≤ maxOtherExpenseComponents) :
    HasRoom request.context (-(request.policy.calculationScale : ℤ))
      (count * amountBound request.policy) := by
  have prec := request.le_prec counted
  have scale := request.policy.scalesBounded.1
  have limit := request.policy.limitsBounded.1
  have work : request.policy.calculationScale ≤ request.policy.workScale := by
    unfold RoundingPolicy.workScale
    simp only [le_sup_iff]
    omega
  have positive := request.policy.limitsAgree.1
  unfold maxDecimalInputPrecision at limit
  unfold maxRoundingScale at scale
  have emin : request.context.emin = -999999 := rfl
  have emax : request.context.emax = 999999 := rfl
  refine ⟨?_, by omega, by rw [emax]; decide, ?_⟩
  · unfold DecimalContext.etiny
    rw [emin]
    omega
  · have room : 2 + (2 * request.policy.maxInputPrecision + request.policy.calculationScale) ≤
        min request.context.prec request.context.emax.toNat := by
      rw [emax]
      refine le_min ?_ ?_
      · omega
      · have cast : (999999 : ℤ).toNat = 999999 := rfl
        rw [cast]
        omega
    calc count * amountBound request.policy
        ≤ 64 * amountBound request.policy := Nat.mul_le_mul_right _ few
      _ < 10 ^ 2 * amountBound request.policy :=
          Nat.mul_lt_mul_of_pos_right (by decide) (Nat.pow_pos (by decide))
      _ = 10 ^ (2 + (2 * request.policy.maxInputPrecision + request.policy.calculationScale)) :=
          (pow_add 10 2 _).symm
      _ ≤ 10 ^ min request.context.prec request.context.emax.toNat :=
          Nat.pow_le_pow_right (by decide) room

/-- The net units of a calculation are within the limits of the policy. -/
theorem netUnits_counted
    {request : KernelRequest}
    {inputs : Inputs}
    {net cost : Value}
    (made : kernelInputs request = .ok inputs)
    (calculated : calculateUnitsAndProductCost request.context inputs request.costPerUnit
      request.policy request.currency = .ok (net, cost)) :
    ∀ units ∈ net.integer?, units.natAbs ≤ 10 ^ request.policy.maxInputPrecision := by
  intro units counted
  unfold calculateUnitsAndProductCost at calculated
  simp only [Checks.bind_eq_ok, Checks.pure_eq_ok, Prod.mk.injEq] at calculated
  obtain ⟨netMade, isMade, -, -, -, -, -, -, -, -, rfl, -⟩ := calculated
  obtain ⟨-, state, payload⟩ := netUnitsOf_result isMade
  have valid : netMade.state = .valid :=
    Value.state_of_content (Value.integer?_eq_some_iff.mp counted)
  obtain ⟨sold, soldEq, back, backEq, difference⟩ := payload valid
  have fit : ReturnsFit (expect inputs "gross_sales_units" .items).integer?
      (expect inputs "returned_units" .items).integer? :=
    blockedUnless_eq_bot.mp (Severity.orNext_eq_bot_iff.mp (state.symm.trans valid)).2
  obtain ⟨nonnegative, part⟩ := fit sold soldEq back backEq
  have represents := represents_expect made "gross_sales_units" .items
  rw [Option.mem_def, represents.integer] at soldEq
  have small := represents.counted sold soldEq
  have same : units = sold - back := Option.some.inj ((Option.mem_def.mp counted).symm.trans difference)
  have bounded : (units.natAbs : ℤ) ≤ 10 ^ request.policy.maxInputPrecision := by
    rw [Int.natCast_natAbs, abs_of_nonneg (by omega)]
    have size := le_abs_self sold
    omega
  exact_mod_cast bounded

/-! ### Permuted components -/

section Permuted

variable {ctx : DecimalContext} {net : Value} {policy : RoundingPolicy} {currency : CurrencyCode}
  {items items' : List Json}

/-- Whether some component ends the loop does not depend on the order. -/
theorem firstOffence_eq_none_of_perm
    (perm : items.Perm items') :
    firstOffence ctx net policy currency [] items = none ↔
      firstOffence ctx net policy currency [] items' = none := by
  have ids : ((items.filterMap component?).map Prod.fst).Perm
      ((items'.filterMap component?).map Prod.fst) := (perm.filterMap _).map _
  simp only [firstOffence_eq_none_iff, perm.mem_iff, ids.nodup_iff, ids.mem_iff]

/-- The expenses of a list of components. -/
theorem calculateOtherExpense_arr :
    calculateOtherExpense ctx (.arr items) net policy currency =
      match firstOffence ctx net policy currency [] items with
      | some (.raised error) => .error error
      | some (.mismatch sourceIds) => .ok (blockedExpense currency sourceIds)
      | none =>
          if items = [] then
            makeNonvalid .blocked (.amount currency) "OTHER_EXPENSE_RULE_REQUIRED_MISSING" []
          else moneySum ctx ((items.filterMap (amount? ctx net policy currency)).map
            fun value => (1, value)) currency := by
  cases items with
  | nil => rfl
  | cons item items =>
      rw [calculateOtherExpense, sumExpenses_eq, if_neg (List.cons_ne_nil _ _), List.nil_append]

/-- Without an offence the order of the components does not matter. -/
theorem calculateOtherExpense_eq_of_perm
    (perm : items.Perm items')
    (counted : ∀ units ∈ net.integer?, units.natAbs ≤ 10 ^ policy.maxInputPrecision)
    (room : 1 ≤ items.length → ∀ count ≤ items.length,
      HasRoom ctx (-(policy.calculationScale : ℤ)) (count * amountBound policy))
    (inOrder : firstOffence ctx net policy currency [] items = none) :
    calculateOtherExpense ctx (.arr items) net policy currency =
      calculateOtherExpense ctx (.arr items') net policy currency := by
  have inOrder' := (firstOffence_eq_none_of_perm perm).mp inOrder
  have empty : items = [] ↔ items' = [] := by
    rw [← List.length_eq_zero_iff, ← List.length_eq_zero_iff, perm.length_eq]
  rw [calculateOtherExpense_arr, calculateOtherExpense_arr, inOrder, inOrder']
  simp only [empty]
  by_cases none : items' = []
  · rw [if_pos none, if_pos none]
  · rw [if_neg none, if_neg none]
    have nonempty : 1 ≤ items.length := List.length_pos_iff.mpr (empty.not.mpr none)
    apply moneySum_eq_of_perm (perm.filterMap _)
    · intro value present valid
      obtain ⟨item, -, isAmount⟩ := List.mem_filterMap.mp present
      have one := room nonempty 1 nonempty
      rw [one_mul] at one
      exact isAligned_of_amount? counted one isAmount valid
    · exact room nonempty _ (List.length_filterMap_le _ _)

end Permuted

/-! ### Requests -/

/-- The members of a request with the given components. -/
def withComponents (fields : JsonObject) (items : List Json) : JsonObject :=
  fields.map fun field =>
    if field.1 = "other_expense_components" then (field.1, .arr items) else field

/-- The steps of a calculation before the other expenses. -/
def beforeExpenses (request : KernelRequest) : Result (Inputs × Value × Value) := do
  let inputs ← kernelInputs request
  let (net, cost) ← calculateUnitsAndProductCost request.context inputs request.costPerUnit
    request.policy request.currency
  return (inputs, net, cost)

/-- The steps of a calculation after the other expenses. -/
def afterExpenses (request : KernelRequest) (before : Inputs × Value × Value)
    (otherExpense : Value) : Result KernelResults := do
  let (inputs, net, cost) := before
  let settlement ← calculateSettlementTaxProfit request.context inputs request.taxRate
    request.taxBaseMetricId request.policy request.currency net cost otherExpense
  publish ⟨net, cost, otherExpense, settlement⟩ request.policy

/-- The first component of a request that ends the loop over them. -/
def offence (request : Json) : Option Offence :=
  match readRequest request with
  | .error _ => none
  | .ok accepted =>
      match beforeExpenses accepted, accepted.otherExpenseComponents with
      | .ok (_, net, _), .arr items =>
          firstOffence accepted.context net accepted.policy accepted.currency [] items
      | _, _ => none

/-- An offence makes the calculation of a request raise an error: its own, or
the one of the later steps, which find the expenses blocked. -/
def Offence.LeadsTo (request : Json) (error : FinanceFailure) : Offence → Prop
  | .raised own => own = error
  | .mismatch sourceIds =>
      ∃ accepted before, readRequest request = .ok accepted ∧
        beforeExpenses accepted = .ok before ∧
        afterExpenses accepted before (blockedExpense accepted.currency sourceIds) = .error error

/-- The results that `calculate` returns, or the error that it raises. -/
def outcome (request : Json) : Result KernelResults :=
  (calculate request).map KernelPayload.results

/-- The steps of a calculation around the other expenses. -/
def runAround (accepted : KernelRequest) : Result KernelResults := do
  let before ← beforeExpenses accepted
  let otherExpense ← calculateOtherExpense accepted.context accepted.otherExpenseComponents
    before.2.1 accepted.policy accepted.currency
  afterExpenses accepted before otherExpense

theorem outcome_eq (request : Json) : outcome request = readRequest request >>= runAround := by
  unfold outcome calculate
  cases readRequest request with
  | error failure => rfl
  | ok accepted =>
      simp only [Checks.ok_bind, runAround, beforeExpenses, kernelValues]
      cases kernelInputs accepted with
      | error failure => rfl
      | ok inputs =>
          simp only [Checks.ok_bind]
          cases calculateUnitsAndProductCost accepted.context inputs accepted.costPerUnit
              accepted.policy accepted.currency with
          | error failure => rfl
          | ok units =>
              obtain ⟨net, cost⟩ := units
              simp only [Checks.ok_bind, pure, Except.pure]
              cases calculateOtherExpense accepted.context accepted.otherExpenseComponents net
                  accepted.policy accepted.currency with
              | error failure => rfl
              | ok otherExpense =>
                  simp only [Checks.ok_bind, afterExpenses]
                  cases calculateSettlementTaxProfit accepted.context inputs accepted.taxRate
                      accepted.taxBaseMetricId accepted.policy accepted.currency net cost
                      otherExpense with
                  | error failure => rfl
                  | ok settlement =>
                      simp only [Checks.ok_bind]
                      cases publish ⟨net, cost, otherExpense, settlement⟩ accepted.policy <;> rfl

/-- The results tell the sources of blocked expenses. -/
theorem sourceIds_of_afterExpenses
    {request : KernelRequest}
    {before : Inputs × Value × Value}
    {sourceIds : List String}
    {results : KernelResults}
    (finished : afterExpenses request before (blockedExpense request.currency sourceIds) =
      .ok results) : results.otherExpenseAmount.value.sourceIds = sourceIds := by
  obtain ⟨inputs, net, cost⟩ := before
  simp only [afterExpenses, publish, Checks.bind_eq_ok, Checks.pure_eq_ok] at finished
  obtain ⟨settlement, -, first, -, second, -, third, isThird, fourth, -, fifth, -, sixth, -,
    seventh, -, eighth, -, rfl⟩ := finished
  have same := Except.ok.inj isThird
  subst same
  rfl

theorem keys_withComponents (fields : JsonObject) (items : List Json) :
    (withComponents fields items).map Prod.fst = fields.map Prod.fst := by
  rw [withComponents, List.map_map]
  apply List.map_congr_left
  intro field _
  simp only [Function.comp_apply]
  split_ifs <;> rfl

theorem hasExactKeys_withComponents (fields : JsonObject) (items : List Json)
    (required : List String) :
    hasExactKeys (withComponents fields items) required = hasExactKeys fields required := by
  have allKeys : ∀ others : JsonObject, (others.all fun field => field.1 ∈ required) =
      (others.map Prod.fst).all fun key => key ∈ required := by
    intro others
    rw [List.all_map]
    rfl
  rw [hasExactKeys, hasExactKeys, allKeys, allKeys, keys_withComponents]

/-- The other members are kept. -/
theorem member_withComponents_of_ne
    (fields : JsonObject)
    (items : List Json)
    {key : String}
    (other : key ≠ "other_expense_components") :
    member (withComponents fields items) key = member fields key := by
  unfold member Json.lookup withComponents
  congr 1
  induction fields with
  | nil => rfl
  | cons field fields inductionHypothesis =>
      by_cases isKey : field.1 = key
      · simp [isKey, other]
      · rw [List.map_cons, List.find?_cons_of_neg (by split_ifs <;> simpa using isKey),
          List.find?_cons_of_neg (by simpa using isKey)]
        exact inductionHypothesis

theorem member_withComponents
    {fields : JsonObject}
    (items : List Json)
    (present : "other_expense_components" ∈ fields.map Prod.fst) :
    member (withComponents fields items) "other_expense_components" = .arr items := by
  unfold member Json.lookup withComponents
  induction fields with
  | nil => exact absurd present List.not_mem_nil
  | cons field fields inductionHypothesis =>
      by_cases isKey : field.1 = "other_expense_components"
      · simp [isKey]
      · rw [List.map_cons, List.find?_cons_of_neg (by split_ifs; simpa using isKey)]
        apply inductionHypothesis
        exact (List.mem_cons.mp present).resolve_left (Ne.symm isKey)

/-- The request with other components is read in the same way. -/
theorem readRequest_withComponents
    (fields : JsonObject)
    {items items' : List Json}
    (sameLength : items.length = items'.length) :
    readRequest (.obj (withComponents fields items')) =
      (readRequest (.obj (withComponents fields items))).map fun accepted =>
        { accepted with
          document := withComponents fields items'
          otherExpenseComponents := .arr items' } := by
  unfold readRequest
  dsimp only
  rw [hasExactKeys_withComponents, hasExactKeys_withComponents]
  by_cases exact : hasExactKeys fields requestKeys = true
  · have present : "other_expense_components" ∈ fields.map Prod.fst := by
      unfold hasExactKeys at exact
      rw [Bool.and_eq_true] at exact
      have each := List.all_eq_true.mp exact.2 "other_expense_components" (by decide)
      exact of_decide_eq_true each
    have counted : countExpenses (.arr items') = countExpenses (.arr items) := by
      simp only [countExpenses, sameLength]
    simp (disch := decide) only [member_withComponents items present,
      member_withComponents items' present, counted, member_withComponents_of_ne fields items,
      member_withComponents_of_ne fields items', Checks.map_bind]
    rfl
  · rw [check, require, if_neg exact]
    rfl

/-- An accepted request has the given components, of which there are not too many. -/
theorem components_of_readRequest
    {fields : JsonObject}
    {items : List Json}
    {accepted : KernelRequest}
    (read : readRequest (.obj (withComponents fields items)) = .ok accepted) :
    accepted.otherExpenseComponents = .arr items ∧ items.length ≤ maxOtherExpenseComponents := by
  unfold readRequest at read
  simp only [Checks.bind_eq_ok, check_eq_ok, hasExactKeys_withComponents] at read
  obtain ⟨_, exact, _, _, _, _, _, _, _, _, _, _, _, _, _, _, _, _, _, _, _, _, _, _, count,
    counted, made⟩ := read
  have present : "other_expense_components" ∈ fields.map Prod.fst := by
    unfold hasExactKeys at exact
    rw [Bool.and_eq_true] at exact
    exact of_decide_eq_true (List.all_eq_true.mp exact.2 "other_expense_components" (by decide))
  rw [member_withComponents items present] at counted made
  obtain rfl := Checks.pure_eq_ok.mp made
  refine ⟨rfl, ?_⟩
  by_contra many
  rw [countExpenses, if_neg many] at counted
  cases counted

section Components

variable {accepted : KernelRequest} {items items' : List Json}
  (sameLength : items.length = items'.length)
  (components : accepted.otherExpenseComponents = .arr items)
  (document : JsonObject)

include sameLength components

/-- As many components need the same context. -/
theorem context_eq_of_components :
    { accepted with document := document, otherExpenseComponents := .arr items' }.context =
      accepted.context := by
  have count : accepted.expenseCount = items'.length := by
    rw [KernelRequest.expenseCount, components]
    exact sameLength
  unfold KernelRequest.context
  rw [count]
  rfl

/-- The steps before the expenses do not read the components. -/
theorem beforeExpenses_eq_of_components :
    beforeExpenses
        { accepted with document := document, otherExpenseComponents := .arr items' } =
      beforeExpenses accepted := by
  unfold beforeExpenses
  rw [context_eq_of_components sameLength components]
  rfl

/-- The steps after the expenses do not read the components. -/
theorem afterExpenses_eq_of_components :
    afterExpenses
        { accepted with document := document, otherExpenseComponents := .arr items' } =
      afterExpenses accepted := by
  funext before otherExpense
  unfold afterExpenses
  rw [context_eq_of_components sameLength components]

end Components

/-- What a calculation makes of its first offence. -/
def ofOffence (accepted : KernelRequest) (before : Inputs × Value × Value) :
    Offence → Result KernelResults
  | .raised error => .error error
  | .mismatch sourceIds => afterExpenses accepted before (blockedExpense accepted.currency sourceIds)

/-- Two offences have the same outcome when they are equal or lead to one error. -/
theorem ofOffence_eq_iff
    (accepted : KernelRequest)
    (before : Inputs × Value × Value)
    (first second : Offence) :
    ofOffence accepted before first = ofOffence accepted before second ↔
      first = second ∨ ∃ error, ofOffence accepted before first = .error error ∧
        ofOffence accepted before second = .error error := by
  constructor
  · intro same
    cases finished : ofOffence accepted before first with
    | error error => exact .inr ⟨error, rfl, finished ▸ same.symm⟩
    | ok results =>
        rw [finished] at same
        cases first with
        | raised error => cases finished
        | mismatch sourceIds =>
            cases second with
            | raised error => cases same
            | mismatch others =>
                have named := sourceIds_of_afterExpenses finished
                have namedToo := sourceIds_of_afterExpenses same.symm
                exact .inl (by rw [← named, ← namedToo])
  · rintro (rfl | ⟨error, ofFirst, ofSecond⟩)
    · rfl
    · rw [ofFirst, ofSecond]

theorem netUnits_of_beforeExpenses
    {request : KernelRequest}
    {before : Inputs × Value × Value}
    (ran : beforeExpenses request = .ok before) :
    ∀ units ∈ before.2.1.integer?, units.natAbs ≤ 10 ^ request.policy.maxInputPrecision := by
  simp only [beforeExpenses, Checks.bind_eq_ok, Checks.pure_eq_ok] at ran
  obtain ⟨inputs, made, ⟨net, cost⟩, calculated, rfl⟩ := ran
  exact netUnits_counted made calculated

section Accepted

variable {request : Json} {accepted : KernelRequest} {before : Inputs × Value × Value}
  {items : List Json}
  (read : readRequest request = .ok accepted)
  (ran : beforeExpenses accepted = .ok before)

include read ran

theorem offence_of_accepted
    (components : accepted.otherExpenseComponents = .arr items) :
    offence request =
      firstOffence accepted.context before.2.1 accepted.policy accepted.currency [] items := by
  simp only [offence, read, ran, components]

/-- The first offence of an accepted request decides its outcome. -/
theorem outcome_of_offence
    (components : accepted.otherExpenseComponents = .arr items)
    {met : Offence}
    (first : offence request = some met) : outcome request = ofOffence accepted before met := by
  rw [offence_of_accepted read ran components] at first
  rw [outcome_eq, read, Checks.ok_bind, runAround, ran, Checks.ok_bind, components,
    calculateOtherExpense_arr, first]
  cases met <;> rfl

theorem leadsTo_iff
    {met : Offence}
    {error : FinanceFailure} :
    met.LeadsTo request error ↔ ofOffence accepted before met = .error error := by
  cases met with
  | raised own => simp [Offence.LeadsTo, ofOffence]
  | mismatch sourceIds =>
      unfold Offence.LeadsTo ofOffence
      constructor
      · rintro ⟨other, otherBefore, otherRead, otherRan, failed⟩
        obtain rfl := Except.ok.inj (read.symm.trans otherRead)
        obtain rfl := Except.ok.inj (ran.symm.trans otherRan)
        exact failed
      · exact fun failed => ⟨accepted, before, read, ran, failed⟩

end Accepted

/-- Two orders of the expense components have the same outcome exactly when
they meet the same offence first, or offences that lead to the same error. -/
theorem outcome_withComponents_eq_iff
    (fields : JsonObject)
    {items items' : List Json}
    (perm : items.Perm items') :
    outcome (.obj (withComponents fields items)) = outcome (.obj (withComponents fields items')) ↔
      offence (.obj (withComponents fields items)) =
          offence (.obj (withComponents fields items')) ∨
        ∃ error,
          (∃ met ∈ offence (.obj (withComponents fields items)),
            met.LeadsTo (.obj (withComponents fields items)) error) ∧
          ∃ met ∈ offence (.obj (withComponents fields items')),
            met.LeadsTo (.obj (withComponents fields items')) error := by
  have read' := readRequest_withComponents fields perm.length_eq
  cases read : readRequest (.obj (withComponents fields items)) with
  | error failure =>
      rw [read] at read'
      replace read' : readRequest (.obj (withComponents fields items')) = .error failure := read'
      simp [outcome_eq, offence, read, read', Checks.error_bind]
  | ok accepted =>
      rw [read] at read'
      obtain ⟨components, few⟩ := components_of_readRequest read
      have before' := beforeExpenses_eq_of_components perm.length_eq components
        (withComponents fields items')
      have context' := context_eq_of_components perm.length_eq components
        (withComponents fields items')
      have after' := afterExpenses_eq_of_components perm.length_eq components
        (withComponents fields items')
      obtain ⟨accepted', isAccepted⟩ : ∃ other : KernelRequest, other =
          { accepted with
            document := withComponents fields items'
            otherExpenseComponents := .arr items' } := ⟨_, rfl⟩
      rw [← isAccepted] at before' context' after'
      replace read' : readRequest (.obj (withComponents fields items')) = .ok accepted' :=
        isAccepted ▸ read'
      have components' : accepted'.otherExpenseComponents = .arr items' := by rw [isAccepted]
      have policy' : accepted'.policy = accepted.policy := by rw [isAccepted]
      have currency' : accepted'.currency = accepted.currency := by rw [isAccepted]
      cases ran : beforeExpenses accepted with
      | error failure =>
          rw [ran] at before'
          simp [outcome_eq, runAround, offence, read, read', ran, before', Checks.ok_bind,
            Checks.error_bind]
      | ok before =>
          rw [ran] at before'
          have first := offence_of_accepted read ran components
          have first' := offence_of_accepted read' before' components'
          rw [context', policy', currency'] at first'
          have sameOf : ofOffence accepted' before = ofOffence accepted before := by
            funext met
            cases met with
            | raised error => rfl
            | mismatch sourceIds => simp only [ofOffence, after', currency']
          have agree := @firstOffence_eq_none_of_perm accepted.context before.2.1 accepted.policy
            accepted.currency _ _ perm
          cases met : firstOffence accepted.context before.2.1 accepted.policy accepted.currency []
              items with
          | none =>
              rw [met] at first
              rw [agree.mp met] at first'
              refine iff_of_true ?_ (.inl (first.trans first'.symm))
              have sameExpenses := calculateOtherExpense_eq_of_perm perm
                (netUnits_of_beforeExpenses ran) (fun nonempty count le =>
                  accepted.hasRoom (by rwa [KernelRequest.expenseCount, components])
                    (le.trans few)) met
              rw [outcome_eq, outcome_eq, read, read', Checks.ok_bind, Checks.ok_bind, runAround,
                runAround, ran, before', Checks.ok_bind, Checks.ok_bind, components, components',
                context', policy', currency', after', sameExpenses]
          | some offence₁ =>
              cases met' : firstOffence accepted.context before.2.1 accepted.policy
                  accepted.currency [] items' with
              | none => exact absurd (agree.mpr met') (by simp [met])
              | some offence₂ =>
                  rw [met] at first
                  rw [met'] at first'
                  rw [outcome_of_offence read ran components first,
                    outcome_of_offence read' before' components' first', sameOf, ofOffence_eq_iff,
                    first, first']
                  simp only [Option.some.injEq, Option.mem_def, exists_eq_left',
                    leadsTo_iff read ran, leadsTo_iff read' before', sameOf]

/-- The members of a request for a calculation. -/
def saleFields : JsonObject :=
  match saleRequest (saleInputs "VALID" "VALID" "VALID") "VALID" with
  | .obj fields => fields
  | _ => []

/-- An expense component in the given currency. -/
def expenseIn (currency id : String) : Json :=
  .obj [("component_id", .str id),
    ("value", writtenValue "VALID" "MONEY" "MONEY" (.str currency) (.str "3"))]

theorem outcome_withComponents_eq_roubles :
    outcome (.obj (withComponents saleFields [expenseIn "RUB" "a", expenseIn "RUB" "b"])) =
      outcome (.obj (withComponents saleFields [expenseIn "RUB" "b", expenseIn "RUB" "a"])) :=
  (outcome_withComponents_eq_iff saleFields (.swap _ _ [])).mpr (.inl (by decide +kernel))

/-- A component in another currency blocks the expenses when it comes before a
component that is malformed, which raises an error when it comes first. -/
theorem outcome_not_orderIndependent :
    ¬∀ (fields : JsonObject) (items items' : List Json), items.Perm items' →
      outcome (.obj (withComponents fields items)) =
        outcome (.obj (withComponents fields items')) := by
  intro independent
  have same := independent saleFields [expenseIn "USD" "a", .null] [.null, expenseIn "USD" "a"]
    (.swap _ _ [])
  have blocked : (outcome (.obj (withComponents saleFields [expenseIn "USD" "a", .null]))).map
      (fun results => results.otherExpenseAmount.value.state) = .ok (.nonvalid .blocked) := by
    decide +kernel
  have raised : (outcome (.obj (withComponents saleFields [.null, expenseIn "USD" "a"]))).map
      (fun results => results.otherExpenseAmount.value.state) =
        .error (.finance .otherExpenseComponentsInvalid) := by
    decide +kernel
  rw [same, raised] at blocked
  exact nomatch blocked

end Finance
end QuantumAnalytics
