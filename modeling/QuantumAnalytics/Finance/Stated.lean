import QuantumAnalytics.Finance.NumberTexts
import QuantumAnalytics.Finance.States

/-!
# What a request states

The values that a kernel request states under the names of its inputs, when
they have the required type, unit and currency, and what the kernel computes
with: the same values, rounded to the scale of the calculation. A return
compensation that contradicts the compensated units is not used.
-/

namespace QuantumAnalytics
namespace Finance

open Severity

/-! ### Numbers of values -/

namespace Value

/-- The integer of a valid value. -/
def integer? (value : Value) : Option Int :=
  match value.content with
  | .valid (.integer n) => some n
  | _ => none

/-- The decimal of a valid value. -/
def number? (value : Value) : Option Decimal :=
  match value.content with
  | .valid (.number d) => some d
  | _ => none

theorem integer?_eq_some_iff {value : Value} {n : Int} :
    value.integer? = some n ↔ value.content = .valid (.integer n) := by
  unfold integer?
  split <;> simp_all

theorem number?_eq_some_iff {value : Value} {d : Decimal} :
    value.number? = some d ↔ value.content = .valid (.number d) := by
  unfold number?
  split <;> simp_all

/-- A valid integer value has an integer. -/
theorem exists_integer
    {value : Value}
    (valid : value.state = .valid)
    (typed : value.signature.valueType = .integer) : ∃ n, value.integer? = some n := by
  obtain ⟨payload, content⟩ := state_eq_valid_iff.mp valid
  have fits := value.fits
  rw [content, typed] at fits
  cases payload with
  | integer n => exact ⟨n, integer?_eq_some_iff.mpr content⟩
  | number d => cases fits
  | truth flag => cases fits

/-- A valid money or rate value has a decimal. -/
theorem exists_number
    {value : Value}
    (valid : value.state = .valid)
    (typed : value.signature.valueType.isDecimal = true) : ∃ d, value.number? = some d := by
  obtain ⟨payload, content⟩ := state_eq_valid_iff.mp valid
  have fits := value.fits
  rw [content] at fits
  cases payload with
  | number d => exact ⟨d, number?_eq_some_iff.mpr content⟩
  | integer n =>
      have : value.signature.valueType = .integer := by simpa [Content.fits, Payload.hasType] using fits
      rw [this] at typed
      cases typed
  | truth flag =>
      have : value.signature.valueType = .boolean := by simpa [Content.fits, Payload.hasType] using fits
      rw [this] at typed
      cases typed

theorem state_of_integer?
    {value : Value}
    {n : Int}
    (present : value.integer? = some n) : value.state = .valid :=
  state_of_content (integer?_eq_some_iff.mp present)

theorem state_of_number?
    {value : Value}
    {d : Decimal}
    (present : value.number? = some d) : value.state = .valid :=
  state_of_content (number?_eq_some_iff.mp present)

end Value

/-! ### Stated values -/

/-- The value that a document states, when it has the required signature. -/
def statedValue? (raw : Option Json) (sourceId : String) (signature : Signature) : Option Value :=
  (raw.bind fun raw => (valueFromDict raw sourceId).toOption).filter fun value =>
    value.signature = signature

/-- The state of a value; one that is missing or has another signature is
blocked. -/
def stateOf (value : Option Value) : ValueState :=
  (value.map Value.state).getD (.nonvalid .blocked)

namespace KernelRequest

/-- The input that a request states under a name. -/
def stated? (request : KernelRequest) (name : String) (signature : Signature) : Option Value :=
  statedValue? (Json.lookup request.inputs name) name signature

/-- The number of items that a request states under a name. -/
def units? (request : KernelRequest) (name : String) : Option Int :=
  (request.stated? name .items).bind Value.integer?

/-- The amount that a request states under a name. -/
def amount? (request : KernelRequest) (name : String) : Option Decimal :=
  (request.stated? name (.amount request.currency)).bind Value.number?

/-- The return compensation is not negative, and it is zero exactly when no
units were compensated. -/
def CompensationAgrees (request : KernelRequest) : Prop :=
  ∀ amount ∈ request.amount? "return_compensation_amount", 0 ≤ amount.toRat ∧
    ∀ units ∈ request.units? "compensated_returned_units",
      (units = 0 → amount.toRat = 0) ∧ (0 < units → 0 < amount.toRat)

instance (request : KernelRequest) : Decidable request.CompensationAgrees := by
  unfold CompensationAgrees
  infer_instance

/-- The input that the formulas use under a name. -/
def usable? (request : KernelRequest) (name : String) (signature : Signature) : Option Value :=
  if name = "return_compensation_amount" ∧ signature = .amount request.currency ∧
      ¬request.CompensationAgrees then none
  else request.stated? name signature

end KernelRequest

/-- A value that stands for a stated one: the same state and integer, and the
decimal rounded to the scale of the calculation. -/
structure Represents
    (policy : RoundingPolicy)
    (stated : Option Value)
    (signature : Signature)
    (value : Value) : Prop where
  /-- The required signature. -/
  signature : value.signature = signature
  /-- The same state. -/
  state : value.state = stateOf stated
  /-- The same integer. -/
  integer : value.integer? = stated.bind Value.integer?
  /-- The rounded decimal. -/
  number : value.number?.map Decimal.toRat = (stated.bind Value.number?).map fun d =>
    policy.calculationMode.atScale policy.calculationScale d.toRat
  /-- The stated decimal is within the limits of the policy. -/
  limited : ∀ d ∈ stated.bind Value.number?,
    |d.toRat| < 10 ^ policy.maxInputPrecision ∧ -(policy.maxInputScale : ℤ) ≤ d.exponent
  /-- The stated integer is within the limits of the policy. -/
  counted : ∀ n ∈ stated.bind Value.integer?, |n| < 10 ^ policy.maxInputPrecision

/-- What represents nothing is blocked. -/
theorem Represents.none
    {policy : RoundingPolicy}
    {signature : Signature}
    {value : Value}
    (typed : value.signature = signature)
    (blocked : value.state = .nonvalid .blocked)
    (noInteger : value.integer? = .none)
    (noNumber : value.number? = .none) : Represents policy .none signature value :=
  ⟨typed, blocked, noInteger, by rw [noNumber]; rfl, nofun, nofun⟩

/-! ### Normalization -/

/-- What `_quantize` returns. -/
theorem quantize_result
    {value rounded : Decimal}
    {policy : RoundingPolicy}
    {point : ApplicationPoint}
    {valueType : ValueType}
    {scale : Nat}
    (succeeded : quantize value policy point valueType = .ok (rounded, scale)) :
    point ∈ policy.applicationPoints ∧ scale = (policy.roundingAt point valueType).2 ∧
      rounded = Decimal.rescale (policy.roundingAt point valueType).1 value (-scale) := by
  unfold quantize at succeeded
  rw [Checks.bind_done_eq_ok] at succeeded
  obtain ⟨permitted, succeeded⟩ := succeeded
  rw [check_eq_ok] at permitted
  generalize policy.roundingAt point valueType = prescribed at succeeded ⊢
  obtain ⟨mode, places⟩ := prescribed
  simp only at succeeded ⊢
  split at succeeded
  · rename_i result quantized
    obtain ⟨rfl, rfl⟩ := Prod.mk.inj (Checks.pure_eq_ok.mp succeeded)
    exact ⟨permitted, rfl, Decimal.eq_rescale_of_quantize quantized⟩
  · cases succeeded
  · cases succeeded

theorem Value.integer?_eq_none
    {value : Value}
    (absent : ∀ n, value.payload? ≠ some (.integer n)) : value.integer? = none := by
  rw [Option.eq_none_iff_forall_ne_some]
  intro n counted
  exact absent n (payload?_eq_some_iff.mpr (integer?_eq_some_iff.mp counted))

theorem Value.number?_eq_none
    {value : Value}
    (absent : ∀ d, value.payload? ≠ some (.number d)) : value.number? = none := by
  rw [Option.eq_none_iff_forall_ne_some]
  intro d present
  exact absent d (payload?_eq_some_iff.mpr (number?_eq_some_iff.mp present))

/-- Normalization rounds the number of a value. -/
theorem represents_of_normalizeValue
    {value normalized : Value}
    {policy : RoundingPolicy}
    (succeeded : normalizeValue value policy = .ok normalized) :
    Represents policy (some value) value.signature normalized := by
  unfold normalizeValue at succeeded
  split at succeeded
  · rename_i d payload
    have content := Value.payload?_eq_some_iff.mp payload
    rw [Checks.bind_done_eq_ok, Checks.bind_eq_ok] at succeeded
    obtain ⟨withinLimits, ⟨rounded, scale⟩, quantized, made⟩ := succeeded
    obtain ⟨madeContent, signature, -⟩ := makeValid_eq_ok.mp made
    obtain ⟨-, rfl, rfl⟩ := quantize_result quantized
    have number := Value.number?_eq_some_iff.mpr madeContent
    have before := Value.number?_eq_some_iff.mpr content
    have noInteger : value.integer? = none := by simp [Value.integer?, content]
    refine ⟨signature, ?_, ?_, ?_, ?_, ?_⟩
    · rw [Value.state_of_content madeContent]
      exact (Value.state_of_content content).symm
    · rw [Option.bind_some, noInteger]
      simp [Value.integer?, madeContent]
    · rw [number, Option.bind_some, before, Option.map_some, Option.map_some,
        Decimal.toRat_rescale]
      rfl
    · rw [Option.bind_some, before]
      simp only [Option.mem_some_iff, forall_eq']
      simp only [validatePolicyInputLimits, payload, Checks.bind_eq_ok] at withinLimits
      obtain ⟨parsed, read, -⟩ := withinLimits
      exact parseDecimal_formatF read
    · rw [Option.bind_some, noInteger]
      exact fun n counted => absurd counted (Option.not_mem_none n)
  · rename_i payload notNumber present
    rw [Checks.bind_done_eq_ok] at succeeded
    obtain ⟨withinLimits, made⟩ := succeeded
    obtain rfl := Checks.pure_eq_ok.mp made
    have noNumber := Value.number?_eq_none fun d same =>
      notNumber d (Option.some.inj (present.symm.trans same))
    refine ⟨rfl, rfl, rfl, by simp [noNumber], by simp [noNumber], ?_⟩
    intro n counted
    have payloadEq := Value.payload?_eq_some_iff.mpr (Value.integer?_eq_some_iff.mp counted)
    simp only [validatePolicyInputLimits, payloadEq, check_eq_ok] at withinLimits
    rw [Decimal.digitCount_le_iff policy.limitsAgree.1] at withinLimits
    have cast : (n.natAbs : ℤ) < 10 ^ policy.maxInputPrecision := by exact_mod_cast withinLimits
    rwa [Int.natCast_natAbs] at cast
  · rename_i absent
    obtain rfl := Except.ok.inj succeeded
    have noNumber := Value.number?_eq_none fun d same =>
      Option.some_ne_none _ (same.symm.trans absent)
    have noInteger := Value.integer?_eq_none fun n same =>
      Option.some_ne_none _ (same.symm.trans absent)
    exact ⟨rfl, rfl, rfl, by simp [noNumber], by simp [noNumber], by simp [noInteger]⟩

/-! ### The inputs of a calculation -/

/-- The parsed inputs are the values that the request states. -/
theorem lookup_parseInputs
    {fields : JsonObject}
    {parsed : Inputs}
    (succeeded : parseInputs fields = .ok parsed)
    (name : String) :
    parsed.lookup name =
      (Json.lookup fields name).bind fun raw => (valueFromDict raw name).toOption := by
  induction fields generalizing parsed with
  | nil =>
      obtain rfl := Except.ok.inj succeeded
      rfl
  | cons field fields inductionHypothesis =>
      obtain ⟨key, raw⟩ := field
      simp only [parseInputs, Checks.bind_eq_ok, Checks.pure_eq_ok] at succeeded
      obtain ⟨value, read, rest, parsedRest, rfl⟩ := succeeded
      by_cases same : key = name
      · subst same
        simp [Json.lookup, read, Except.toOption]
      · have different : (name == key) = false := by simpa using Ne.symm same
        rw [List.lookup_cons, different]
        simpa [Json.lookup, List.find?_cons, same] using inductionHypothesis parsedRest

/-- Every input is normalized. -/
theorem lookup_normalizeInputs
    {policy : RoundingPolicy}
    {inputs normalized : Inputs}
    (succeeded : normalizeInputs policy inputs = .ok normalized)
    (name : String) :
    Option.Rel (fun value result => normalizeValue value policy = .ok result)
      (inputs.lookup name) (normalized.lookup name) := by
  induction inputs generalizing normalized with
  | nil =>
      obtain rfl := Except.ok.inj succeeded
      exact .none
  | cons entry entries inductionHypothesis =>
      obtain ⟨key, value⟩ := entry
      simp only [normalizeInputs, Checks.bind_eq_ok, Checks.pure_eq_ok] at succeeded
      obtain ⟨result, made, rest, normalizedRest, rfl⟩ := succeeded
      cases same : name == key with
      | true =>
          simp only [List.lookup_cons, same]
          exact .some made
      | false =>
          simp only [List.lookup_cons, same]
          exact inductionHypothesis normalizedRest

theorem lookup_replaceInput
    (inputs : Inputs)
    (name key : String)
    (value : Value) :
    (replaceInput inputs name value).lookup key =
      if key = name then (inputs.lookup key).map fun _ => value else inputs.lookup key := by
  induction inputs with
  | nil => simp [replaceInput]
  | cons entry entries inductionHypothesis =>
      obtain ⟨first, present⟩ := entry
      unfold replaceInput at inductionHypothesis ⊢
      rw [List.map_cons]
      by_cases replaced : first = name
      · subst replaced
        simp only [if_true, List.lookup_cons, inductionHypothesis]
        by_cases same : key = first
        · simp [same]
        · have different : (key == first) = false := by simpa using same
          simp only [different, if_neg same]
      · simp only [if_neg replaced, List.lookup_cons, inductionHypothesis]
        by_cases same : key = first
        · subst same
          simp [replaced]
        · have different : (key == first) = false := by simpa using same
          simp only [different]

theorem stated?_eq
    {request : KernelRequest}
    {parsed : Inputs}
    (succeeded : parseInputs request.inputs = .ok parsed)
    (name : String)
    (signature : Signature) :
    request.stated? name signature =
      (parsed.lookup name).filter fun value => value.signature = signature := by
  rw [lookup_parseInputs succeeded]
  rfl

/-- What contradicts an amount is the number of items, if it is known. -/
theorem contradicts_eq (amount : Decimal) (units : Option Value) :
    contradicts amount units = (Decimal.lt amount (Decimal.ofInt 0) ||
      ((units.filter fun value => value.signature = .items).bind Value.integer?).any fun n =>
        (n = 0 && !amount.isZero) || (0 < n && Decimal.le amount (Decimal.ofInt 0))) := by
  unfold contradicts
  congr 1
  cases units with
  | none => rfl
  | some value =>
      by_cases counted : value.signature = .items
      · rw [Option.filter_some, if_pos (by simpa using counted), Option.bind_some]
        simp only [if_pos counted, Value.payload?, Value.integer?]
        cases content : value.content with
        | nonvalid state reason => rfl
        | valid payload => cases payload <;> rfl
      · rw [Option.filter_some, if_neg (by simpa using counted)]
        simp [if_neg counted]

/-- An amount and units contradict each other exactly when they do not agree. -/
theorem contradicts_iff {amount : Decimal} {units : Option Value} :
    contradicts amount units = true ↔ ¬(0 ≤ amount.toRat ∧
      ∀ n ∈ (units.filter fun value => value.signature = .items).bind Value.integer?,
        (n = 0 → amount.toRat = 0) ∧ (0 < n → 0 < amount.toRat)) := by
  rw [contradicts_eq]
  generalize (units.filter fun value => value.signature = .items).bind Value.integer? = count
  have zero : amount.isZero = false ↔ ¬amount.toRat = 0 := by
    rw [Decimal.toRat_eq_zero_iff, ← Decimal.isZero_iff, Bool.not_eq_true]
  cases count with
  | none => simp [Decimal.lt_iff]
  | some n =>
      simp only [Option.any_some, Bool.or_eq_true, Bool.and_eq_true, decide_eq_true_eq,
        Bool.not_eq_true', Decimal.lt_iff, Decimal.le_iff, zero, Decimal.toRat_ofInt, Int.cast_zero,
        Option.mem_some_iff, forall_eq']
      constructor
      · rintro (negative | ⟨none, nonzero⟩ | ⟨some, notPositive⟩) ⟨nonnegative, agree⟩
        · exact absurd nonnegative (not_le.mpr negative)
        · exact nonzero (agree.1 none)
        · exact absurd (agree.2 some) (not_lt.mpr notPositive)
      · intro contrary
        by_contra consistent
        push Not at consistent
        exact contrary ⟨consistent.1, consistent.2.1, consistent.2.2⟩

/-- The value of the return compensation that a contradiction leaves. -/
def rejectedCompensation (amount : Value) (units : Option Value) (currency : CurrencyCode) : Value :=
  nonvalidValue .blocked (.amount currency) "RETURN_COMPENSATION_SEMANTICS_INVALID"
    (contradictionSources amount units) contradictionReason_ne_empty

/-- The compensation agrees when there is no amount of the required type. -/
theorem compensationAgrees_of_none
    {request : KernelRequest}
    (absent : request.amount? "return_compensation_amount" = none) : request.CompensationAgrees := by
  intro amount present
  rw [absent] at present
  cases present

/-- Prevalidation rejects a contradictory compensation. -/
theorem prevalidate_eq
    {request : KernelRequest}
    {parsed : Inputs}
    (succeeded : parseInputs request.inputs = .ok parsed) :
    request.CompensationAgrees ∧ prevalidateReturnCompensation parsed request.currency = parsed ∨
      ¬request.CompensationAgrees ∧ ∃ amount, parsed.lookup "return_compensation_amount" = some amount ∧
        amount.signature = .amount request.currency ∧
        prevalidateReturnCompensation parsed request.currency =
          replaceInput parsed "return_compensation_amount" (rejectedCompensation amount
            (parsed.lookup "compensated_returned_units") request.currency) := by
  have amountEq : request.amount? "return_compensation_amount" =
      ((parsed.lookup "return_compensation_amount").filter fun value =>
        value.signature = .amount request.currency).bind Value.number? := by
    rw [KernelRequest.amount?, stated?_eq succeeded]
  have unitsEq : request.units? "compensated_returned_units" =
      ((parsed.lookup "compensated_returned_units").filter fun value =>
        value.signature = .items).bind Value.integer? := by
    rw [KernelRequest.units?, stated?_eq succeeded]
  unfold prevalidateReturnCompensation
  cases found : parsed.lookup "return_compensation_amount" with
  | none =>
      rw [found] at amountEq
      exact .inl ⟨compensationAgrees_of_none amountEq, rfl⟩
  | some amount =>
      rw [found, Option.filter_some] at amountEq
      simp only
      split
      · rename_i d payload
        have number := Value.number?_eq_some_iff.mpr (Value.payload?_eq_some_iff.mp payload)
        by_cases typed : amount.signature = .amount request.currency
        · rw [if_pos (by simpa using typed), Option.bind_some, number] at amountEq
          have agrees : request.CompensationAgrees ↔
              ¬contradicts d (parsed.lookup "compensated_returned_units") = true := by
            rw [contradicts_iff, not_not, KernelRequest.CompensationAgrees, amountEq, unitsEq]
            simp
          by_cases contradictory : contradicts d (parsed.lookup "compensated_returned_units") = true
          · rw [if_pos ⟨typed, contradictory⟩]
            exact .inr ⟨fun holds => agrees.mp holds contradictory, amount, rfl, typed, rfl⟩
          · rw [if_neg fun both => contradictory both.2]
            exact .inl ⟨agrees.mpr contradictory, rfl⟩
        · rw [if_neg (by simpa using typed), Option.bind_none] at amountEq
          rw [if_neg fun both => typed both.1]
          exact .inl ⟨compensationAgrees_of_none amountEq, rfl⟩
      · rename_i notNumber
        refine .inl ⟨compensationAgrees_of_none ?_, rfl⟩
        have noNumber : amount.number? = none := by
          rw [Option.eq_none_iff_forall_ne_some]
          intro d number
          exact notNumber d (Value.payload?_eq_some_iff.mpr (Value.number?_eq_some_iff.mp number))
        rw [amountEq]
        split
        · rw [Option.bind_some, noNumber]
        · rfl

/-- What `_expect` finds represents a value with the required signature. -/
theorem represents_expect_of_rel
    {policy : RoundingPolicy}
    {before after : Inputs}
    {name : String}
    (related : Option.Rel (fun value result => normalizeValue value policy = .ok result)
      (before.lookup name) (after.lookup name))
    (signature : Signature) :
    Represents policy ((before.lookup name).filter fun value => value.signature = signature)
      signature (expect after name signature) := by
  unfold expect
  generalize before.lookup name = stated at related ⊢
  generalize after.lookup name = normalized at related ⊢
  cases related with
  | none => exact .none rfl rfl rfl rfl
  | some made =>
      rename_i value result
      have represents := represents_of_normalizeValue made
      have signatureEq := represents.signature
      by_cases typed : value.signature = signature
      · subst typed
        simp only [Option.filter_some, decide_true, if_true, signatureEq, ne_eq, not_true_eq_false,
          or_self, if_false]
        exact represents
      · rw [Option.filter_some, if_neg (by simpa using typed)]
        simp only [signatureEq]
        split_ifs with mismatch otherCurrency
        · exact .none rfl rfl rfl rfl
        · exact .none rfl rfl rfl rfl
        · rw [not_or, not_not, not_not] at mismatch
          exact absurd (Signature.ext mismatch.1 mismatch.2 (not_not.mp otherCurrency)) typed

/-- What a formula gets under a name represents the usable input. -/
theorem represents_expect
    {request : KernelRequest}
    {inputs : Inputs}
    (made : kernelInputs request = .ok inputs)
    (name : String)
    (signature : Signature) :
    Represents request.policy (request.usable? name signature) signature
      (expect inputs name signature) := by
  unfold kernelInputs at made
  rw [Checks.bind_eq_ok] at made
  obtain ⟨parsed, succeeded, normalized⟩ := made
  have represents := represents_expect_of_rel (lookup_normalizeInputs normalized name) signature
  have stated := stated?_eq succeeded name signature
  unfold KernelRequest.usable?
  rcases prevalidate_eq succeeded with ⟨agrees, same⟩ | ⟨disagrees, amount, found, typed, replaced⟩
  · rw [if_neg fun all => all.2.2 agrees, stated]
    rwa [same] at represents
  · rw [replaced, lookup_replaceInput] at represents
    by_cases compensation : name = "return_compensation_amount"
    · subst compensation
      rw [if_pos rfl, found, Option.map_some, Option.filter_some] at represents
      by_cases required : signature = .amount request.currency
      · subst required
        rw [if_pos (by simp [rejectedCompensation])] at represents
        rw [if_pos ⟨rfl, rfl, disagrees⟩]
        exact .none represents.signature represents.state represents.integer
          (Option.map_eq_none_iff.mp represents.number)
      · rw [if_neg fun all => required all.2.1, stated, found, Option.filter_some,
          if_neg (by simpa [typed] using Ne.symm required)]
        rwa [if_neg (by simp [rejectedCompensation, Ne.symm required])] at represents
    · rw [if_neg compensation] at represents
      rwa [if_neg fun all => compensation all.1, stated]

/-- The inputs keep the signatures that the request states. -/
theorem signature_lookup
    {request : KernelRequest}
    {inputs : Inputs}
    (made : kernelInputs request = .ok inputs)
    (name : String) :
    (inputs.lookup name).map Value.signature =
      ((Json.lookup request.inputs name).bind fun raw =>
        (valueFromDict raw name).toOption).map Value.signature := by
  unfold kernelInputs at made
  rw [Checks.bind_eq_ok] at made
  obtain ⟨parsed, succeeded, normalized⟩ := made
  have kept : (inputs.lookup name).map Value.signature =
      ((prevalidateReturnCompensation parsed request.currency).lookup name).map
        Value.signature := by
    have related := lookup_normalizeInputs normalized name
    generalize (prevalidateReturnCompensation parsed request.currency).lookup name = before
      at related ⊢
    generalize inputs.lookup name = after at related ⊢
    cases related with
    | none => rfl
    | some result => exact congrArg some (represents_of_normalizeValue result).signature
  rw [kept, ← lookup_parseInputs succeeded]
  rcases prevalidate_eq succeeded with ⟨-, same⟩ | ⟨-, amount, found, typed, replaced⟩
  · rw [same]
  · rw [replaced, lookup_replaceInput]
    split_ifs with compensation
    · rw [compensation, found, Option.map_some, Option.map_some, Option.map_some, typed]
      rfl
    · rfl

/-- An input that has the required signature is what the formulas get. -/
theorem expect_of_lookup
    {inputs : Inputs}
    {name : String}
    {value : Value}
    (found : inputs.lookup name = some value) :
    expect inputs name value.signature = value := by
  simp [expect, found]

end Finance
end QuantumAnalytics
