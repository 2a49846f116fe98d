import QuantumAnalytics.Ledger.Reversals

/-!
# Amounts of returns

The amounts of the active returns are added in the default decimal context,
where a sum of more than 28 digits is rounded. As long as no running total is
rounded, the active returns stay within the amount of their sale exactly.
-/

namespace QuantumAnalytics

/-- Every running total is a number that the context represents exactly. -/
def ExactSums (ctx : DecimalContext) : ℚ → List ℚ → Prop
  | _, [] => True
  | total, amount :: amounts =>
      Decimal.Representable ctx (total + amount) ∧ ExactSums ctx (total + amount) amounts

/-- Without rounding, adding decimals adds the numbers. -/
theorem addAll_of_exactSums
    {ctx : DecimalContext}
    (start : Decimal)
    (amounts : List Decimal)
    (exact : ExactSums ctx start.toRat (amounts.map Decimal.toRat)) :
    ∃ total, addAll ctx start amounts = .ok total ∧
      total.toRat = start.toRat + (amounts.map Decimal.toRat).sum := by
  induction amounts generalizing start with
  | nil => exact ⟨start, rfl, by simp⟩
  | cons amount amounts inductionHypothesis =>
      obtain ⟨representable, rest⟩ := exact
      rw [← Decimal.toRat_exactAdd] at representable
      obtain ⟨sum, added, sumEq⟩ := Decimal.fix_of_representable representable
      rw [Decimal.toRat_exactAdd] at sumEq
      obtain ⟨total, addedAll, totalEq⟩ := inductionHypothesis sum (by rwa [sumEq])
      refine ⟨total, ?_, ?_⟩
      · have step : addAll ctx start (amount :: amounts) =
            Decimal.add ctx start amount >>= fun sum => addAll ctx sum amounts := rfl
        rw [step]
        exact Checks.bind_eq_ok.mpr ⟨sum, added, addedAll⟩
      · rw [totalEq, sumEq, List.map_cons, List.sum_cons]
        ring

namespace InMemoryCanonicalLedger

open CanonicalEvent

/-- The exact gross amount of an event. -/
def exactAmount (event : CanonicalEvent) : ℚ := event.amountOf.toRat

/-- When a return is inserted, no running total of its amount and the amounts
of the returns that stay active, in the order of the ledger, is rounded. -/
def ExactTotals (step : LedgerStep) : Prop :=
  ∀ event original, step.ledger.newEvent step.tenantId step.item = some event →
    step.ledger.eventById.get? (step.tenantId, original.eventId) = some original →
    returns.target event = some original.eventId →
    ExactSums .default (exactAmount event)
      ((step.ledger.activeReversals step.tenantId original.eventId event).map exactAmount)

/-- An accepted return whose totals are exact fits its sale exactly. -/
theorem fitsBy_exactAmount
    {step : LedgerStep}
    (indexed : Indexed step.ledger)
    (accepted : step.ledger.validateAppend step.tenantId step.item = .ok ())
    (exact : ExactTotals step) : FitsBy exactAmount step := by
  intro event original new found target
  obtain ⟨total, added, within⟩ :=
    (returnFits_of_accepted indexed accepted new found target).amount
  have sums := exact event original new found target
  rw [activeReversals_of_absent indexed (newEvent_eq_some.mp new).2] at sums
  obtain ⟨exactTotal, exactAdded, totalEq⟩ :=
    addAll_of_exactSums event.amountOf
      ((returns.remaining (step.ledger.tenantEvents step.tenantId) original.eventId event).map
        amountOf) (by rwa [List.map_map])
  obtain rfl := Except.ok.inj (added.symm.trans exactAdded)
  rw [Decimal.lt_iff, not_lt, totalEq, List.map_map] at within
  exact within

/-- In a run in which no running total is rounded, the exact amounts of the
active returns of every stored event sum up to at most its own amount. -/
theorem amountCap_afterCalls
    (calls : List LedgerCall)
    (exact : ∀ step ∈ committedSteps calls, ExactTotals step) :
    ∀ original ∈ (afterCalls calls).events,
      (((afterCalls calls).activeReturns original.organizationId original.eventId).map
        exactAmount).sum ≤ exactAmount original :=
  (reachableBy_afterCalls exact).capped amountOf_nonneg
    fun _ reachable accepted guarded => fitsBy_exactAmount reachable.indexed accepted guarded

/-- An integer of at most 28 digits is exact in the default context. -/
theorem representable_natCast
    {n : Nat}
    (small : n < 10 ^ 28) : Decimal.Representable .default (n : ℚ) := by
  refine ⟨n, 0, by simp, by exact_mod_cast small, by decide, ?_⟩
  calc |(n : ℚ)| < 10 ^ 28 := by
        rw [abs_of_nonneg (by positivity)]
        exact_mod_cast small
    _ ≤ (10 : ℚ) ^ (DecimalContext.default.emax + 1) := by
        rw [← zpow_natCast]
        exact zpow_le_zpow_right₀ (by norm_num) (by decide)

/-- The decimals are natural numbers of at most 28 digits in total. -/
def smallWholes (amounts : List Decimal) : Bool :=
  amounts.all (fun amount => !amount.negative && amount.exponent == 0) &&
    decide ((amounts.map Decimal.coefficient).sum < 10 ^ 28)

/-- Natural numbers that do not exceed 28 digits in total are added exactly. -/
theorem exactSums_of_smallWholes
    {start : Decimal}
    {amounts : List Decimal}
    (small : smallWholes (start :: amounts) = true) :
    ExactSums .default start.toRat (amounts.map Decimal.toRat) := by
  simp only [smallWholes, Bool.and_eq_true, List.all_eq_true, Bool.not_eq_true', beq_iff_eq,
    decide_eq_true_eq, List.map_cons, List.sum_cons] at small
  obtain ⟨whole, total⟩ := small
  have value : ∀ amount ∈ start :: amounts, amount.toRat = (amount.coefficient : ℚ) := by
    intro amount present
    simp [Decimal.toRat, whole amount present]
  rw [value start (by simp), List.map_congr_left fun amount present => value amount (by simp [present])]
  have naturals : ∀ (amounts : List Decimal) (total : Nat),
      total + (amounts.map Decimal.coefficient).sum < 10 ^ 28 →
      ExactSums .default (total : ℚ) (amounts.map fun amount => (amount.coefficient : ℚ)) := by
    intro amounts
    induction amounts with
    | nil => exact fun _ _ => trivial
    | cons amount amounts inductionHypothesis =>
        intro total small
        rw [List.map_cons, List.sum_cons] at small
        rw [List.map_cons]
        refine ⟨?_, ?_⟩
        · rw [← Nat.cast_add]
          exact representable_natCast (by omega)
        · rw [← Nat.cast_add]
          exact inductionHypothesis _ (by omega)
  exact naturals amounts start.coefficient total

/-- A step whose amounts are natural numbers of at most 28 digits in total is
exact. -/
theorem exactTotals_of_smallWholes
    {step : LedgerStep}
    {event : CanonicalEvent}
    (carried : step.item.2 = some event)
    (small : ∀ originalId, returns.target event = some originalId →
      smallWholes (event.amountOf ::
        (step.ledger.activeReversals step.tenantId originalId event).map amountOf) = true) :
    ExactTotals step := by
  intro inserted original new _ target
  obtain rfl := Option.some.inj (carried.symm.trans (newEvent_eq_some.mp new).1)
  have exact := exactSums_of_smallWholes (small original.eventId target)
  rwa [List.map_map] at exact

/-- The amounts of two returns of a sale. -/
theorem amountCap_twoReturns :
    (((afterCalls (appendCalls [.sale 3 "9", .firstReturn 2 "6", .secondReturn 1
      "3"])).activeReturns "tenant" "sale").map exactAmount).sum ≤
        exactAmount (Operation.sale 3 "9").event := by
  have run := afterCalls_of_acceptsAll
    [.sale 3 "9", .firstReturn 2 "6", .secondReturn 1 "3"] (by decide +kernel)
  have stored : (Operation.sale 3 "9").event ∈
      (afterCalls (appendCalls [.sale 3 "9", .firstReturn 2 "6", .secondReturn 1
        "3"])).events := by
    rw [run.1]
    exact List.mem_of_mem_head? rfl
  refine amountCap_afterCalls _ ?_ (Operation.sale 3 "9").event stored
  rw [run.2]
  simp only [operationSteps, List.forall_mem_cons, List.not_mem_nil, false_implies,
    implies_true, and_true]
  refine ⟨?_, ?_, ?_⟩
  · refine exactTotals_of_smallWholes rfl fun originalId target => ?_
    exact absurd (target_eq_some.mp target).1 (by decide)
  · refine exactTotals_of_smallWholes rfl fun originalId target => ?_
    obtain rfl := Option.some.inj (target_eq_some.mp target).2
    decide +kernel
  · refine exactTotals_of_smallWholes rfl fun originalId target => ?_
    obtain rfl := Option.some.inj (target_eq_some.mp target).2
    decide +kernel

/-- A sale of ten octillion with returns of ten octillion and of 1. -/
def roundedReturns : List Operation :=
  [.sale 2 "10000000000000000000000000000", .firstReturn 1 "10000000000000000000000000000",
    .secondReturn 1 "1"]

/-- Both returns are accepted and active, since the total of 29 digits is
rounded down to the amount of the sale. -/
theorem amountCap_rounded :
    ∃ original ∈ (afterCalls (appendCalls roundedReturns)).events,
      exactAmount original <
        (((afterCalls (appendCalls roundedReturns)).activeReturns original.organizationId
          original.eventId).map exactAmount).sum := by
  have run := afterCalls_of_acceptsAll roundedReturns (by decide +kernel)
  rw [run.1]
  refine ⟨(Operation.sale 2 "10000000000000000000000000000").event,
    List.mem_of_mem_head? rfl, ?_⟩
  have active : ((ofOperations roundedReturns).activeReturns "tenant" "sale").map amountOf =
      [⟨false, 10000000000000000000000000000, 0⟩, ⟨false, 1, 0⟩] := by decide +kernel
  have amount : (Operation.sale 2 "10000000000000000000000000000").event.amountOf =
      ⟨false, 10000000000000000000000000000, 0⟩ := by decide +kernel
  have exact := congrArg (List.map Decimal.toRat) active
  rw [List.map_map] at exact
  show exactAmount _ < (((ofOperations roundedReturns).activeReturns "tenant" "sale").map
    (Decimal.toRat ∘ amountOf)).sum
  rw [exact, exactAmount, amount]
  norm_num [Decimal.toRat]

end InMemoryCanonicalLedger
end QuantumAnalytics
