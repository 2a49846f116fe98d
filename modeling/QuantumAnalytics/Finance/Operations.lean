import QuantumAnalytics.Finance.TypeRules
import QuantumAnalytics.Foundations.DecimalLimits

/-!
# Operators on typed payloads

Under its type rule an operator makes a payload of the declared type, or its
result has a too large exponent; only a division has no payload.
-/

namespace QuantumAnalytics
namespace Finance

/-- The failure of an operation whose exponent is too large. -/
def IsOverflow (failure : FinanceFailure) : Prop := failure = .decimal .overflow

/-- A context with the exponents of the default one and fewer digits than these. -/
structure IsStandard (ctx : DecimalContext) : Prop where
  /-- The largest exponent. -/
  emax : ctx.emax = 999999
  /-- The least exponent. -/
  emin : ctx.emin = -999999
  /-- The precision. -/
  prec : ctx.prec ≤ 999999

/-- The number of a payload can be rounded to a scale. -/
def Payload.Settled : Payload → Prop
  | .number d => d.Settled
  | _ => True

/-- A payload of a type whose number can be rounded. -/
structure Payload.Sound (type : ValueType) (payload : Payload) : Prop where
  /-- The type. -/
  typed : payload.hasType type = true
  /-- The number. -/
  settled : payload.Settled

theorem Payload.Sound.exists_number
    {type : ValueType}
    {payload : Payload}
    (sound : payload.Sound type)
    (decimal : type.isDecimal = true) : ∃ d, payload = .number d := by
  have typed := sound.typed
  cases payload with
  | number d => exact ⟨d, rfl⟩
  | integer n => cases type <;> simp [Payload.hasType, ValueType.isDecimal] at typed decimal
  | truth flag => cases type <;> simp [Payload.hasType, ValueType.isDecimal] at typed decimal

theorem Payload.Sound.exists_integer
    {payload : Payload}
    (sound : payload.Sound .integer) : ∃ n, payload = .integer n := by
  have typed := sound.typed
  cases payload with
  | number d => simp [Payload.hasType, ValueType.isDecimal] at typed
  | integer n => exact ⟨n, rfl⟩
  | truth flag => simp [Payload.hasType] at typed

theorem Payload.Sound.exists_truth
    {payload : Payload}
    (sound : payload.Sound .boolean) : ∃ flag, payload = .truth flag := by
  have typed := sound.typed
  cases payload with
  | number d => simp [Payload.hasType, ValueType.isDecimal] at typed
  | integer n => simp [Payload.hasType] at typed
  | truth flag => exact ⟨flag, rfl⟩

/-- Payloads of one numeric type are both decimals or both integers. -/
theorem Payload.Sound.both
    {type : ValueType}
    {left right : Payload}
    (leftSound : left.Sound type)
    (rightSound : right.Sound type)
    (numeric : type.isNumeric = true) :
    (∃ l r, left = .number l ∧ right = .number r ∧ type.isDecimal = true) ∨
      ∃ m n, left = .integer m ∧ right = .integer n ∧ type = .integer := by
  have decimals : type.isDecimal = true → (∃ l r, left = .number l ∧ right = .number r ∧
      type.isDecimal = true) ∨
        ∃ m n, left = .integer m ∧ right = .integer n ∧ type = .integer := by
    intro decimal
    obtain ⟨l, rfl⟩ := leftSound.exists_number decimal
    obtain ⟨r, rfl⟩ := rightSound.exists_number decimal
    exact .inl ⟨l, r, rfl, rfl, decimal⟩
  cases type with
  | money => exact decimals rfl
  | decimal => exact decimals rfl
  | rate => exact decimals rfl
  | integer =>
      obtain ⟨m, rfl⟩ := leftSound.exists_integer
      obtain ⟨n, rfl⟩ := rightSound.exists_integer
      exact .inr ⟨m, n, rfl, rfl, rfl⟩
  | boolean => cases numeric

theorem Payload.sound_number
    {type : ValueType}
    {d : Decimal}
    (decimal : type.isDecimal = true)
    (settled : d.Settled) : (Payload.number d).Sound type :=
  ⟨by cases type <;> simp_all [Payload.hasType, ValueType.isDecimal], settled⟩

theorem Payload.sound_integer (n : Int) : (Payload.integer n).Sound .integer := ⟨rfl, trivial⟩

theorem Payload.sound_truth (flag : Bool) : (Payload.truth flag).Sound .boolean := ⟨rfl, trivial⟩

theorem computePayload_divide (ctx : DecimalContext) (left right : Decimal) :
    computePayload ctx .divide [.number left, .number right] =
      if right.isZero = true then .ok none
      else some <$> decimalPayload (Decimal.div ctx left right) := rfl

theorem computePayload_comparison
    (ctx : DecimalContext)
    {operator : Operator}
    (family : operator.isComparison = true)
    (left right : Payload) :
    computePayload ctx operator [left, right] =
      (some ∘ .truth) <$> comparePayloads operator left right := by
  cases operator <;> first | rfl | cases family

/-! ### Soundness of the operators -/

section Sound

variable {ctx : DecimalContext} (standard : IsStandard ctx)

include standard

theorem decimalPayload_yields
    {type : ValueType}
    (decimal : type.isDecimal = true)
    {outcome : Except DecimalSignal Decimal}
    (fitted : Yields (fun failure => failure = .overflow) (Decimal.Fits ctx) outcome) :
    Yields IsOverflow (Payload.Sound type) (decimalPayload outcome) := by
  cases outcome with
  | error signal => exact congrArg FinanceFailure.decimal fitted
  | ok d => exact Payload.sound_number decimal (Decimal.Fits.settled fitted standard.emax standard.prec)

section Arithmetic

variable
    {type : ValueType}
    {left right : Payload}
    (leftSound : left.Sound type)
    (rightSound : right.Sound type)
    (numeric : type.isNumeric = true)

include leftSound rightSound numeric

theorem addPayloads_yields :
    Yields IsOverflow (Payload.Sound type) (addPayloads ctx left right) := by
  rcases leftSound.both rightSound numeric with ⟨l, r, rfl, rfl, decimal⟩ | ⟨m, n, rfl, rfl, rfl⟩
  · exact decimalPayload_yields standard decimal (Decimal.fix_yields ctx _)
  · exact Payload.sound_integer _

theorem subtractPayloads_yields :
    Yields IsOverflow (Payload.Sound type) (subtractPayloads ctx left right) := by
  rcases leftSound.both rightSound numeric with ⟨l, r, rfl, rfl, decimal⟩ | ⟨m, n, rfl, rfl, rfl⟩
  · exact decimalPayload_yields standard decimal (Decimal.fix_yields ctx _)
  · exact Payload.sound_integer _

omit standard in
theorem exists_payloadLess : ∃ less, payloadLess left right = .ok less := by
  rcases leftSound.both rightSound numeric with ⟨l, r, rfl, rfl, -⟩ | ⟨m, n, rfl, rfl, -⟩
  · exact ⟨_, rfl⟩
  · exact ⟨_, rfl⟩

end Arithmetic

theorem sumPayloads_yields
    {type : ValueType}
    (numeric : type.isNumeric = true)
    {others : List Payload}
    {total : Payload}
    (totalSound : total.Sound type)
    (sound : ∀ other ∈ others, Payload.Sound type other) :
    Yields IsOverflow (Payload.Sound type) (sumPayloads ctx total others) := by
  induction others generalizing total with
  | nil => exact totalSound
  | cons other others inductionHypothesis =>
      obtain ⟨first, rest⟩ := List.forall_mem_cons.mp sound
      exact (addPayloads_yields standard totalSound first numeric).bind
        fun next _ nextSound => inductionHypothesis nextSound rest

omit standard in
/-- The least payload is one of the payloads. -/
theorem leastPayload_mem
    {type : ValueType}
    (numeric : type.isNumeric = true)
    {others : List Payload}
    {first : Payload}
    (firstSound : first.Sound type)
    (sound : ∀ other ∈ others, Payload.Sound type other) :
    ∃ least, leastPayload first others = .ok least ∧ least.Sound type := by
  induction others generalizing first with
  | nil => exact ⟨first, rfl, firstSound⟩
  | cons other others inductionHypothesis =>
      obtain ⟨otherSound, rest⟩ := List.forall_mem_cons.mp sound
      obtain ⟨less, lessEq⟩ := exists_payloadLess otherSound firstSound numeric
      simp only [leastPayload, lessEq, Checks.ok_bind]
      cases less with
      | true => exact inductionHypothesis otherSound rest
      | false => exact inductionHypothesis firstSound rest

omit standard in
/-- The greatest payload is one of the payloads. -/
theorem greatestPayload_mem
    {type : ValueType}
    (numeric : type.isNumeric = true)
    {others : List Payload}
    {first : Payload}
    (firstSound : first.Sound type)
    (sound : ∀ other ∈ others, Payload.Sound type other) :
    ∃ greatest, greatestPayload first others = .ok greatest ∧ greatest.Sound type := by
  induction others generalizing first with
  | nil => exact ⟨first, rfl, firstSound⟩
  | cons other others inductionHypothesis =>
      obtain ⟨otherSound, rest⟩ := List.forall_mem_cons.mp sound
      obtain ⟨less, lessEq⟩ := exists_payloadLess firstSound otherSound numeric
      simp only [greatestPayload, lessEq, Checks.ok_bind]
      cases less with
      | true => exact inductionHypothesis otherSound rest
      | false => exact inductionHypothesis firstSound rest

theorem negatePayload_yields
    {type : ValueType}
    {payload : Payload}
    (sound : payload.Sound type)
    (numeric : type.isNumeric = true) :
    Yields IsOverflow (Payload.Sound type) (negatePayload ctx payload) := by
  rcases sound.both sound numeric with ⟨d, -, rfl, -, decimal⟩ | ⟨n, -, rfl, -, rfl⟩
  · exact decimalPayload_yields standard decimal (Decimal.fix_yields ctx _)
  · exact Payload.sound_integer _

theorem absPayload_yields
    {type : ValueType}
    {payload : Payload}
    (sound : payload.Sound type)
    (numeric : type.isNumeric = true) :
    Yields IsOverflow (Payload.Sound type) (absPayload ctx payload) := by
  rcases sound.both sound numeric with ⟨d, -, rfl, -, decimal⟩ | ⟨n, -, rfl, -, rfl⟩
  · exact decimalPayload_yields standard decimal (Decimal.fix_yields ctx _)
  · exact Payload.sound_integer _

omit standard in
/-- Comparable payloads are compared. -/
theorem exists_comparePayloads
    {operator : Operator}
    {type : ValueType}
    {left right : Payload}
    (leftSound : left.Sound type)
    (rightSound : right.Sound type)
    (comparable : operator = .equal ∨ type ≠ .boolean) :
    ∃ flag, comparePayloads operator left right = .ok flag := by
  by_cases equal : operator = .equal
  · subst equal
    exact ⟨_, rfl⟩
  · have numeric : type.isNumeric = true := by
      cases type <;> simp_all [ValueType.isNumeric]
    obtain ⟨less, lessEq⟩ := exists_payloadLess leftSound rightSound numeric
    obtain ⟨greater, greaterEq⟩ := exists_payloadLess rightSound leftSound numeric
    unfold comparePayloads
    split <;> simp [lessEq, greaterEq, Checks.ok_bind, pure, Except.pure]

omit standard in
theorem sound_of_same
    {type : ValueType}
    {others : List ValueType}
    {payloads : List Payload}
    (same : ∀ other ∈ others, other = type)
    (sound : List.Forall₂ (fun payload type => Payload.Sound type payload) payloads others) :
    ∀ payload ∈ payloads, Payload.Sound type payload := by
  induction sound with
  | nil => nofun
  | cons otherSound _ inductionHypothesis =>
      obtain ⟨rfl, rest⟩ := List.forall_mem_cons.mp same
      exact List.forall_mem_cons.mpr ⟨otherSound, inductionHypothesis rest⟩

/-- Under its type rule an operator makes a payload of the declared type. Only
a division may have none. -/
theorem computePayload_yields
    {operator : Operator}
    {types : List ValueType}
    {type : ValueType}
    (rule : TypeRule operator types type)
    {payloads : List Payload}
    (sound : List.Forall₂ (fun payload type => Payload.Sound type payload) payloads types) :
    Yields IsOverflow
      (fun result => (result = none → operator = .divide) ∧
        ∀ payload ∈ result, Payload.Sound type payload)
      (computePayload ctx operator payloads) := by
  have computed : ∀ {outcome : Result Payload}, Yields IsOverflow (Payload.Sound type) outcome →
      Yields IsOverflow (fun result => (result = none → operator = .divide) ∧
        ∀ payload ∈ result, Payload.Sound type payload) (some <$> outcome) :=
    fun yields => yields.map fun payload sound => ⟨nofun, by simpa using sound⟩
  cases rule with
  | arithmetic family numeric same arity =>
      cases sound with
      | cons firstSound restSound =>
          rename_i payload rest
          have others := sound_of_same same restSound
          cases operator with
          | add => exact computed (sumPayloads_yields standard numeric firstSound others)
          | min =>
              obtain ⟨least, leastEq, leastSound⟩ := leastPayload_mem numeric firstSound others
              exact computed (.of_eq_ok leastEq leastSound)
          | max =>
              obtain ⟨greatest, greatestEq, greatestSound⟩ :=
                greatestPayload_mem numeric firstSound others
              exact computed (.of_eq_ok greatestEq greatestSound)
          | subtract =>
              cases restSound with
              | nil => cases arity
              | cons _ _ =>
                  exact computed (subtractPayloads_yields standard firstSound
                    (others _ List.mem_cons_self) numeric)
          | _ => cases family
  | signed family numeric =>
      obtain ⟨payload, _, firstSound, none, rfl⟩ := List.forall₂_cons_right_iff.mp sound
      obtain rfl := List.forall₂_nil_right_iff.mp none
      cases operator with
      | negate => exact computed (negatePayload_yields standard firstSound numeric)
      | abs => exact computed (absPayload_yields standard firstSound numeric)
      | _ => cases family
  | scaling family leftDecimal rightDecimal decimal =>
      obtain ⟨left, _, leftSound, rest, rfl⟩ := List.forall₂_cons_right_iff.mp sound
      obtain ⟨right, _, rightSound, none, rfl⟩ := List.forall₂_cons_right_iff.mp rest
      obtain rfl := List.forall₂_nil_right_iff.mp none
      obtain ⟨l, rfl⟩ := leftSound.exists_number leftDecimal
      obtain ⟨r, rfl⟩ := rightSound.exists_number rightDecimal
      cases operator with
      | multiply => exact computed (decimalPayload_yields standard decimal (Decimal.fix_yields ctx _))
      | divide =>
          rw [computePayload_divide]
          split_ifs with zero
          · exact ⟨fun _ => rfl, nofun⟩
          · exact computed (decimalPayload_yields standard decimal (Decimal.div_yields ctx zero))
      | _ => cases family
  | choice =>
      obtain ⟨condition, _, conditionSound, branches, rfl⟩ := List.forall₂_cons_right_iff.mp sound
      obtain ⟨whenTrue, _, trueSound, rest, rfl⟩ := List.forall₂_cons_right_iff.mp branches
      obtain ⟨whenFalse, _, falseSound, none, rfl⟩ := List.forall₂_cons_right_iff.mp rest
      obtain rfl := List.forall₂_nil_right_iff.mp none
      obtain ⟨flag, rfl⟩ := conditionSound.exists_truth
      refine ⟨nofun, ?_⟩
      cases flag <;> simpa
  | comparison family comparable =>
      obtain ⟨left, _, leftSound, rest, rfl⟩ := List.forall₂_cons_right_iff.mp sound
      obtain ⟨right, _, rightSound, none, rfl⟩ := List.forall₂_cons_right_iff.mp rest
      obtain rfl := List.forall₂_nil_right_iff.mp none
      obtain ⟨flag, flagEq⟩ := exists_comparePayloads leftSound rightSound comparable
      rw [computePayload_comparison ctx family, flagEq]
      exact ⟨nofun, by simpa using Payload.sound_truth flag⟩

end Sound

end Finance
end QuantumAnalytics
