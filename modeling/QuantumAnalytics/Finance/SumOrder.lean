import QuantumAnalytics.Finance.KernelSteps
import QuantumAnalytics.Foundations.DecimalSums

/-!
# Money sums in any order

Missing values are propagated from a sorted list, and the sources of a value are
a sorted set, so neither depends on the order of the values. Amounts at one
scale are added exactly while the context has room for their digits, so their
sum does not depend on it either.
-/

namespace QuantumAnalytics
namespace Finance

/-! ### Propagation in any order -/

/-- The sorted set of sources does not depend on their order. -/
theorem sortedSet_eq_of_mem_iff
    {sourceIds sourceIds' : List String}
    (same : ∀ sourceId, sourceId ∈ sourceIds ↔ sourceId ∈ sourceIds') :
    sortedSet sourceIds = sortedSet sourceIds' := by
  apply List.Perm.eq_of_pairwise' (List.pairwise_insertionSort _ _)
    (List.pairwise_insertionSort _ _)
  refine (List.perm_insertionSort _ _).trans (List.Perm.trans ?_ (List.perm_insertionSort _ _).symm)
  rw [List.perm_ext_iff_of_nodup (List.nodup_dedup _) (List.nodup_dedup _)]
  simpa only [List.mem_dedup] using same

theorem propagatesBefore_iff {left right : Value} :
    propagatesBefore left right = true ↔ left.reasonText < right.reasonText ∨
      left.reasonText = right.reasonText ∧
        ¬List.Lex (· < ·) right.sourceIds left.sourceIds := by
  unfold propagatesBefore
  rw [Bool.or_eq_true, Bool.and_eq_true, beq_iff_eq]
  refine or_congr decide_eq_true_iff (and_congr Iff.rfl (decide_eq_true_iff.trans ?_))
  -- The order of lists is that of core, or of the linear order that extends it.
  first | exact Iff.rfl | exact not_lt.symm

instance : Std.Total fun left right => propagatesBefore left right = true where
  total left right := by
    rw [propagatesBefore_iff, propagatesBefore_iff]
    rcases lt_trichotomy left.reasonText right.reasonText with less | same | more
    · exact .inl (.inl less)
    · rcases List.le_total left.sourceIds right.sourceIds with below | above
      · exact .inl (.inr ⟨same, below⟩)
      · exact .inr (.inr ⟨same.symm, above⟩)
    · exact .inr (.inl more)

instance : IsTrans Value fun left right => propagatesBefore left right = true where
  trans left middle right first second := by
    rw [propagatesBefore_iff] at first second ⊢
    rcases first with less | ⟨same, below⟩
    · rcases second with later | ⟨equal, -⟩
      · exact .inl (less.trans later)
      · exact .inl (equal ▸ less)
    · rcases second with later | ⟨equal, above⟩
      · exact .inl (same ▸ later)
      · exact .inr ⟨same.trans equal, List.le_trans below above⟩

/-- Values of one state in any order: the first ones have the same reason. -/
theorem matchingValues_perm
    {values values' : List Value}
    (perm : values.Perm values')
    (state : NonvalidState) : (matchingValues values state).Perm (matchingValues values' state) :=
  ((List.perm_insertionSort _ _).trans (perm.filter _)).trans (List.perm_insertionSort _ _).symm

theorem before_of_mem_matchingValues
    {values : List Value}
    {state : NonvalidState}
    {first : Value}
    {rest : List Value}
    (sorted : matchingValues values state = first :: rest) :
    ∀ value ∈ first :: rest, value ≠ first → propagatesBefore first value = true := by
  have pairwise : (matchingValues values state).Pairwise fun left right =>
      propagatesBefore left right = true := List.pairwise_insertionSort _ _
  rw [sorted, List.pairwise_cons] at pairwise
  rintro value (_ | ⟨_, later⟩) other
  · exact absurd rfl other
  · exact pairwise.1 value later

theorem propagate_eq_of_perm
    {values values' : List Value}
    (perm : values.Perm values')
    (signature : Signature) : propagate values signature = propagate values' signature := by
  rw [propagate_eq, propagate_eq]
  congr 1
  funext state
  have sorted := matchingValues_perm perm state
  cases first : matchingValues values state with
  | nil =>
      rw [first] at sorted
      rw [List.nil_perm.mp sorted]
  | cons chosen rest =>
      cases first' : matchingValues values' state with
      | nil => simp [first, first'] at sorted
      | cons chosen' rest' =>
          rw [first, first'] at sorted
          have sameReason : chosen.reasonText = chosen'.reasonText := by
            by_cases same : chosen' = chosen
            · rw [same]
            · have before := before_of_mem_matchingValues first chosen'
                (sorted.mem_iff.mpr List.mem_cons_self) same
              have after := before_of_mem_matchingValues first' chosen
                (sorted.mem_iff.mp List.mem_cons_self) (Ne.symm same)
              rw [propagatesBefore_iff] at before after
              rcases before with less | ⟨equal, -⟩
              · rcases after with more | ⟨equal, -⟩
                · exact absurd more less.asymm
                · exact equal.symm
              · exact equal
          simp only [List.head?_cons, Option.map_some, inherit, nonvalidValue, sameReason,
            Option.some.injEq, Value.mk.injEq, true_and]
          apply sortedSet_eq_of_mem_iff
          intro sourceId
          simp only [List.mem_flatMap, sorted.mem_iff]

/-! ### Sums in any order -/

/-- A valid amount whose digits stand at one exponent. -/
structure IsAligned (currency : CurrencyCode) (exponent : Int) (bound : Nat) (value : Value) :
    Prop where
  signature : value.signature = .amount currency
  aligned : ∃ d, value.number? = some d ∧ d.exponent = exponent ∧ d.signed.natAbs ≤ bound

/-- The digits of a valid amount. -/
def digitsOf (value : Value) : Int := (value.number?.map Decimal.signed).getD 0

/-- The context has room for sums of aligned amounts. -/
structure HasRoom (ctx : DecimalContext) (exponent : Int) (total : Nat) : Prop where
  least : ctx.etiny ≤ exponent
  small : exponent ≤ 0
  wide : 0 ≤ ctx.emax
  fits : total < 10 ^ min ctx.prec ctx.emax.toNat

section Sums

variable {ctx : DecimalContext} {currency : CurrencyCode} {exponent : Int} {bound : Nat}

/-- A money sum of aligned amounts adds their digits and collects their sources. -/
theorem sumTerms_aligned
    {values : List Value}
    {total : Decimal}
    {digits : Int}
    {sources : List String}
    (aligned : ∀ value ∈ values, IsAligned currency exponent bound value)
    (isTotal : Decimal.IsTotal exponent digits total)
    (room : HasRoom ctx exponent (digits.natAbs + values.length * bound)) :
    sumTerms ctx currency total sources (values.map fun value => (1, value)) =
      makeValid
        (.number (if values = [] then total
          else .ofSigned (digits + (values.map digitsOf).sum) exponent))
        (.amount currency) (sources ++ values.flatMap Value.sourceIds) := by
  induction values generalizing total digits sources with
  | nil => simp [sumTerms]
  | cons value rest inductionHypothesis =>
      obtain ⟨first, later⟩ := List.forall_mem_cons.mp aligned
      obtain ⟨typed, d, number, atExponent, bounded⟩ := first
      have digitsEq : digitsOf value = d.signed := by simp [digitsOf, number]
      have fits := room.fits
      rw [List.length_cons, Nat.succ_mul] at fits
      have one : Decimal.mul ctx (Decimal.ofInt 1) d = .ok d := by
        rw [Decimal.mul, Decimal.exactMul_one]
        refine Decimal.fix_eq_self ?_ (atExponent ▸ room.least) (atExponent ▸ room.small) room.wide
        have digitsOfD : d.signed.natAbs = d.coefficient := d.natAbs_signed
        omega
      have added : Decimal.add ctx total d = .ok (.ofSigned (digits + d.signed) exponent) :=
        Decimal.add_aligned room.least room.small room.wide isTotal atExponent (by omega)
      have next := @inductionHypothesis (.ofSigned (digits + d.signed) exponent)
        (digits + d.signed) (sources ++ value.sourceIds) later (.inl rfl)
        ⟨room.least, room.small, room.wide, by omega⟩
      have typedAs : ¬(value.signature.valueType ≠ .money ∨
          value.signature.currency ≠ some currency.val) := by
        rw [typed]
        simp [Signature.amount, Signature.money]
      rw [List.map_cons, sumTerms, if_neg typedAs, numberOf_eq_ok.mpr number, Checks.ok_bind,
        decimalResult_eq_ok.mpr one, Checks.ok_bind, decimalResult_eq_ok.mpr added,
        Checks.ok_bind, next, List.flatMap_cons, List.append_assoc,
        if_neg (List.cons_ne_nil _ _), List.map_cons, List.sum_cons, digitsEq]
      by_cases last : rest = []
      · simp [last]
      · rw [if_neg last, add_assoc]

theorem makeValid_eq_of_mem_iff
    {sources sources' : List String}
    (same : ∀ sourceId, sourceId ∈ sources ↔ sourceId ∈ sources')
    (payload : Payload)
    (signature : Signature) :
    makeValid payload signature sources = makeValid payload signature sources' := by
  simp only [makeValid, sortedSet_eq_of_mem_iff same]

/-- A money sum does not depend on the order of aligned amounts. -/
theorem moneySum_eq_of_perm
    {values values' : List Value}
    (perm : values.Perm values')
    (aligned : ∀ value ∈ values, value.state = .valid → IsAligned currency exponent bound value)
    (room : HasRoom ctx exponent (values.length * bound)) :
    moneySum ctx (values.map fun value => (1, value)) currency =
      moneySum ctx (values'.map fun value => (1, value)) currency := by
  have values_eq : ∀ others : List Value,
      (others.map fun value => ((1 : Int), value)).map Prod.snd = others := by
    intro others
    rw [List.map_map]
    exact List.map_id others
  unfold moneySum
  rw [values_eq, values_eq, propagate_eq_of_perm perm]
  cases inherited : propagate values' (.amount currency) with
  | some propagated => rfl
  | none =>
      rw [← propagate_eq_of_perm perm, propagate_eq_none_iff, Severity.worst_eq_bot_iff] at inherited
      have all : ∀ value ∈ values, IsAligned currency exponent bound value :=
        fun value present => aligned value present (inherited _ (List.mem_map_of_mem present))
      have all' : ∀ value ∈ values', IsAligned currency exponent bound value :=
        fun value present => all value (perm.mem_iff.mpr present)
      have start : Decimal.IsTotal exponent 0 (Decimal.ofInt 0) := .inr ⟨rfl, rfl⟩
      have room₀ : HasRoom ctx exponent ((0 : Int).natAbs + values.length * bound) := by
        simpa using room
      have empty : values = [] ↔ values' = [] := by
        rw [← List.length_eq_zero_iff, ← List.length_eq_zero_iff, perm.length_eq]
      dsimp only
      rw [sumTerms_aligned all start room₀, sumTerms_aligned all' start (perm.length_eq ▸ room₀),
        (perm.map digitsOf).sum_eq]
      simp only [empty]
      apply makeValid_eq_of_mem_iff
      intro sourceId
      simp only [List.nil_append, List.mem_flatMap, perm.mem_iff]

end Sums

end Finance
end QuantumAnalytics
