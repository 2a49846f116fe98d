import QuantumAnalytics.Foundations.DecimalLimits
import QuantumAnalytics.Finance.RuleEvaluation
import QuantumAnalytics.Finance.Stated
import QuantumAnalytics.Finance.ValueCodec

/-!
# Results as inputs

A number that an evaluator returns is written at the calculation scale of its
policy, while inputs are bounded by the input precision and the input scale. So a
result can be an input under the same policy exactly when the policy relates the
three.
-/

namespace QuantumAnalytics
namespace Finance

/-- How a variable, a kernel input, a cost, a rate and an expense are read. -/
def readInput (raw : Json) (sourceId : String) (policy : RoundingPolicy) : Result Value := do
  normalizeValue (← valueFromDict raw sourceId) policy

/-! ### Numbers at a scale -/

namespace NumberText

/-- A number without a positive exponent is read back as it is. -/
theorem toDecimal_ofDecimal
    {d : Decimal}
    (places : d.exponent ≤ 0) : (ofDecimal d).toDecimal = d := by
  have value : Decimal.digitsValue (ofDecimal d).digits = d.coefficient := by
    rw [digits_ofDecimal]
    split_ifs with whole zero
    · have none : d.coefficient = 0 := by simpa using zero
      rw [none]
      rfl
    · rw [show d.exponent.toNat = 0 by omega, List.replicate_zero, List.append_nil,
        digitsValue_toDigits]
    · exact digitsValue_paddedDigits d
  have fraction := length_fraction_ofDecimal d
  obtain ⟨negative, coefficient, exponent⟩ := d
  dsimp only at places
  simp only [toDecimal, value, fraction, Decimal.mk.injEq, true_and]
  refine ⟨?_, by omega⟩
  rw [ofDecimal]
  split <;> rfl

/-- The number of digits at a scale. -/
theorem length_digits_ofDecimal
    {d : Decimal}
    {scale : Nat}
    (places : d.exponent = -scale) :
    (ofDecimal d).digits.length = max (scale + 1) (Decimal.digitCount d.coefficient) := by
  have positive := Decimal.digitCount_pos d.coefficient
  rw [digits_ofDecimal]
  split_ifs with whole zero
  · rw [List.replicate_zero, List.append_nil, length_toDigits]
    omega
  · rw [show d.exponent.toNat = 0 by omega, List.replicate_zero, List.append_nil, length_toDigits]
    omega
  · rw [length_paddedDigits]
    omega

end NumberText

/-- A number at a scale is read within limits on its digits and on the scale. -/
theorem parseDecimal_formatF_iff
    {d read : Decimal}
    {scale maxPrecision maxScale : Nat}
    {code : FinanceCode}
    (places : d.exponent = -scale) :
    parseDecimal (.str d.formatF) code maxPrecision maxScale = .ok read ↔
      max (scale + 1) (Decimal.digitCount d.coefficient) ≤ maxPrecision ∧ scale ≤ maxScale ∧
        read = d := by
  have isText : NumberText.matchDecimal? d.formatF.toList = some (NumberText.ofDecimal d) := by
    rw [NumberText.formatF_eq_render, String.toList_ofList,
      NumberText.matchDecimal?_render (NumberText.ofDecimal_wellFormed d)]
  have digits := NumberText.length_digits_ofDecimal places
  have fraction := NumberText.length_fraction_ofDecimal d
  have same := NumberText.toDecimal_ofDecimal (d := d) (by omega)
  simp only [parseDecimal, text?, Checks.bind_eq_ok, Checks.requireSome_eq_ok, check_eq_ok,
    Checks.pure_eq_ok]
  constructor
  · rintro ⟨_, ⟨⟩, parts, isParts, -, precise, -, scaled, rfl⟩
    obtain rfl := Option.some.inj (isText.symm.trans isParts)
    rw [digits] at precise
    exact ⟨precise, by omega, same⟩
  · rintro ⟨precise, scaled, rfl⟩
    exact ⟨_, rfl, _, isText, (), digits ▸ precise, (), by omega, same⟩

/-- A short number with too many places is rejected for its scale. -/
theorem parseDecimal_formatF_of_lt
    {d : Decimal}
    {scale maxPrecision maxScale : Nat}
    {code : FinanceCode}
    (places : d.exponent = -scale)
    (precise : max (scale + 1) (Decimal.digitCount d.coefficient) ≤ maxPrecision)
    (beyond : maxScale < scale) :
    parseDecimal (.str d.formatF) code maxPrecision maxScale =
      .error (.finance .roundingInputScaleExceeded) := by
  have isText : NumberText.matchDecimal? d.formatF.toList = some (NumberText.ofDecimal d) := by
    rw [NumberText.formatF_eq_render, String.toList_ofList,
      NumberText.matchDecimal?_render (NumberText.ofDecimal_wellFormed d)]
  have digits := NumberText.length_digits_ofDecimal places
  have fraction := NumberText.length_fraction_ofDecimal d
  have passes : check ((NumberText.ofDecimal d).digits.length ≤ maxPrecision)
      .roundingInputPrecisionExceeded = .ok () := check_eq_ok.mpr (digits ▸ precise)
  have fails : check ((NumberText.ofDecimal d).fraction.length ≤ maxScale)
      .roundingInputScaleExceeded = .error (.finance .roundingInputScaleExceeded) :=
    if_neg (by omega)
  simp only [parseDecimal, text?, isText, requireSome, Checks.ok_bind, passes, fails]
  rfl

/-- The rounding of a policy is defined on settled numbers. -/
theorem quantize_of_settled
    {d : Decimal}
    {policy : RoundingPolicy}
    {point : ApplicationPoint}
    (valueType : ValueType)
    (settled : d.Settled)
    (allowed : point ∈ policy.applicationPoints) :
    ∃ rounded, quantize d policy point valueType = .ok rounded := by
  obtain ⟨calculation, money, rate, presentation⟩ := policy.scalesBounded
  have bounded : (policy.roundingAt point valueType).2 ≤ 28 := by
    unfold maxRoundingScale at calculation money rate presentation
    cases point <;> simp only [RoundingPolicy.roundingAt] <;> first | assumption | split <;> assumption
  have rounds : ∀ mode scale, scale ≤ 28 → Decimal.quantize (quantizePrecision d scale) mode d
      (-(scale : ℤ)) = .ok (Decimal.rescale mode d (-(scale : ℤ))) := by
    intro mode scale small
    apply Decimal.quantize_of_settled mode settled rfl
    · unfold DecimalContext.etiny quantizePrecision
      dsimp only
      omega
    · unfold quantizePrecision
      dsimp only
      omega
  have passes : check (point ∈ policy.applicationPoints) .roundingPointForbidden = .ok () :=
    check_eq_ok.mpr allowed
  rw [quantize, passes, Checks.ok_bind]
  cases prescribed : policy.roundingAt point valueType with
  | mk mode scale =>
      rw [prescribed] at bounded
      dsimp only
      rw [rounds mode scale bounded]
      exact ⟨_, rfl⟩

/-- A short number at a scale is settled. -/
theorem settled_of_short
    {d : Decimal}
    {scale : Nat}
    (places : d.exponent = -scale)
    (short : Decimal.digitCount d.coefficient ≤ 1000) : d.Settled := by
  refine .inr ⟨?_, .inr ?_⟩ <;> unfold Decimal.adjusted <;> omega

/-! ### Printed results -/

/-- A number of an evaluator, which is printed at the calculation scale. -/
structure IsPrintedNumber (policy : RoundingPolicy) (result : ValueDict) : Prop where
  /-- Sources are listed once. -/
  distinct : result.sourceIds.Nodup
  /-- There is no reason for a missing value. -/
  undiagnosed : result.reasonCode = none
  /-- The policy rounds inputs. -/
  allowed : .ruleInputNormalization ∈ policy.applicationPoints
  /-- The text is that of a number at the calculation scale. -/
  printed : ∃ d : Decimal, d.exponent = -policy.calculationScale ∧ result.value = .text d.formatF

/-- What the evaluators return under a policy. -/
structure IsPrinted (policy : RoundingPolicy) (result : ValueDict) : Prop where
  /-- Sources have names. -/
  named : ∀ sourceId ∈ result.sourceIds, sourceId ≠ ""
  /-- A number is printed. -/
  number : result.state = .valid → result.signature.valueType.isDecimal = true →
    IsPrintedNumber policy result

/-- The value that a written number is read as. -/
theorem valueFromDict_number_eq_ok
    {result : ValueDict}
    {d : Decimal}
    {sourceId : String}
    {value : Value}
    (valid : result.state = .valid)
    (isDecimal : result.signature.valueType.isDecimal = true)
    (undiagnosed : result.reasonCode = none)
    (named : ∀ sourceId ∈ result.sourceIds, sourceId ≠ "")
    (distinct : result.sourceIds.Nodup)
    (number : result.value = .text d.formatF) :
    valueFromDict result.toJson sourceId = .ok value ↔
      ∃ read, parseDecimal (.str d.formatF) .valueDecimalInvalid maxDecimalInputPrecision
        maxDecimalInputScale = .ok read ∧
        makeValid (.number read) result.signature (sourceId :: result.sourceIds) = .ok value := by
  obtain ⟨state, encoded, signature, reasonCode, sourceIds⟩ := result
  dsimp only at valid isDecimal undiagnosed named distinct number ⊢
  subst valid undiagnosed number
  have isSignature := validateSignature_written signature
  have isSources := readSourceIds_map named distinct
  have payloads : readPayload signature.valueType (.str d.formatF) =
      (parseDecimal (.str d.formatF) .valueDecimalInvalid maxDecimalInputPrecision
        maxDecimalInputScale).map Payload.number := by
    cases valueType : signature.valueType with
    | integer =>
        rw [valueType] at isDecimal
        cases isDecimal
    | boolean =>
        rw [valueType] at isDecimal
        cases isDecimal
    | _ => rfl
  simp only [valueFromDict, ValueDict.toJson, Checks.bind_eq_ok, check_eq_ok,
    Checks.requireSome_eq_ok, lookUpOr_eq_ok]
  constructor
  · rintro ⟨-, -, other, isOther, _, ⟨text, isText, isState⟩, ids, isIds, made⟩
    obtain rfl := Except.ok.inj (isSignature.symm.trans isOther)
    obtain rfl := Option.some.inj (isSources.symm.trans isIds)
    obtain rfl : ValueState.valid.text = text := Json.str.inj isText
    obtain rfl := Option.some.inj ((ValueState.ofText?_text .valid).symm.trans isState)
    obtain ⟨-, -, made⟩ := Checks.bind_eq_ok.mp made
    obtain ⟨payload, isPayload, made⟩ := Checks.bind_eq_ok.mp made
    obtain ⟨read, isRead, rfl⟩ := Checks.map_eq_ok.mp (payloads.symm.trans isPayload)
    exact ⟨read, isRead, made⟩
  · rintro ⟨read, isRead, made⟩
    have isPayload : readPayload signature.valueType (.str d.formatF) = .ok (.number read) :=
      payloads.trans (Checks.map_eq_ok.mpr ⟨read, isRead, rfl⟩)
    exact ⟨(), rfl, signature, isSignature, .valid, ⟨"VALID", rfl, rfl⟩, sourceIds, isSources,
      Checks.bind_eq_ok.mpr ⟨(), check_eq_ok.mpr rfl, Checks.bind_eq_ok.mpr
        ⟨_, isPayload, made⟩⟩⟩

/-- A printed number is accepted as an input when its digits and its scale are within
the limits. -/
theorem readInput_printed_iff
    {policy : RoundingPolicy}
    {result : ValueDict}
    {d : Decimal}
    {sourceId : String}
    (printed : IsPrinted policy result)
    (valid : result.state = .valid)
    (isDecimal : result.signature.valueType.isDecimal = true)
    (places : d.exponent = -policy.calculationScale)
    (number : result.value = .text d.formatF) :
    (∃ value, readInput result.toJson sourceId policy = .ok value) ↔
      max (policy.calculationScale + 1) (Decimal.digitCount d.coefficient) ≤
        policy.maxInputPrecision ∧ policy.calculationScale ≤ policy.maxInputScale := by
  have isNumber := printed.number valid isDecimal
  have bounded := policy.limitsBounded
  have reads := fun value => @valueFromDict_number_eq_ok result d sourceId value valid isDecimal
    isNumber.undiagnosed printed.named isNumber.distinct number
  constructor
  · rintro ⟨value, accepted⟩
    obtain ⟨stated, isStated, normalized⟩ := Checks.bind_eq_ok.mp accepted
    obtain ⟨read, isRead, made⟩ := (reads stated).mp isStated
    obtain ⟨-, -, rfl⟩ := (parseDecimal_formatF_iff places).mp isRead
    have content := (makeValid_eq_ok.mp made).1
    rw [normalizeValue, Value.payload?_eq_some_iff.mpr content] at normalized
    obtain ⟨_, withinLimits, -⟩ := Checks.bind_eq_ok.mp normalized
    simp only [validatePolicyInputLimits, Value.payload?_eq_some_iff.mpr content]
      at withinLimits
    obtain ⟨again, isAgain, -⟩ := Checks.bind_eq_ok.mp withinLimits
    obtain ⟨precise, scaled, -⟩ := (parseDecimal_formatF_iff places).mp isAgain
    exact ⟨precise, scaled⟩
  · rintro ⟨precise, scaled⟩
    have isRead : parseDecimal (.str d.formatF) .valueDecimalInvalid maxDecimalInputPrecision
        maxDecimalInputScale = .ok d :=
      (parseDecimal_formatF_iff places).mpr ⟨by omega, by omega, rfl⟩
    have fits : (Payload.number d).hasType result.signature.valueType = true := isDecimal
    have settled : d.Settled := settled_of_short places (by
      unfold maxDecimalInputPrecision at bounded
      omega)
    obtain ⟨rounded, isRounded⟩ :=
      quantize_of_settled result.signature.valueType settled isNumber.allowed
    obtain ⟨stated, made⟩ : ∃ stated, makeValid (.number d) result.signature
        (sourceId :: result.sourceIds) = .ok stated := by
      rw [makeValid, dif_pos fits]
      exact ⟨_, rfl⟩
    have content := (makeValid_eq_ok.mp made).1
    have signature := (makeValid_eq_ok.mp made).2.1
    have withinLimits : validatePolicyInputLimits stated policy = .ok () := by
      rw [validatePolicyInputLimits, Value.payload?_eq_some_iff.mpr content]
      have isAgain : parseDecimal (.str d.formatF) .valueDecimalInvalid policy.maxInputPrecision
          policy.maxInputScale = .ok d :=
        (parseDecimal_formatF_iff places).mpr ⟨precise, scaled, rfl⟩
      exact Checks.bind_eq_ok.mpr ⟨d, isAgain, rfl⟩
    rw [readInput, (reads stated).mpr ⟨d, isRead, made⟩, Checks.ok_bind, normalizeValue,
      Value.payload?_eq_some_iff.mpr content]
    dsimp only
    rw [withinLimits, Checks.ok_bind, signature, isRounded, Checks.ok_bind]
    obtain ⟨number, scale⟩ := rounded
    dsimp only
    rw [makeValid, dif_pos (show (Payload.number number).hasType _ = true from isDecimal)]
    exact ⟨_, rfl⟩

/-- A printed number with too many places is rejected for its scale. -/
theorem readInput_printed_of_lt
    {policy : RoundingPolicy}
    {result : ValueDict}
    {d : Decimal}
    {sourceId : String}
    (printed : IsPrinted policy result)
    (valid : result.state = .valid)
    (isDecimal : result.signature.valueType.isDecimal = true)
    (places : d.exponent = -policy.calculationScale)
    (number : result.value = .text d.formatF)
    (precise : max (policy.calculationScale + 1) (Decimal.digitCount d.coefficient) ≤
      policy.maxInputPrecision)
    (beyond : policy.maxInputScale < policy.calculationScale) :
    readInput result.toJson sourceId policy = .error (.finance .roundingInputScaleExceeded) := by
  have isNumber := printed.number valid isDecimal
  have bounded := policy.limitsBounded
  have scaleBounded : policy.calculationScale ≤ 28 := policy.scalesBounded.1
  have isRead : parseDecimal (.str d.formatF) .valueDecimalInvalid maxDecimalInputPrecision
      maxDecimalInputScale = .ok d :=
    (parseDecimal_formatF_iff places).mpr
      ⟨by omega, by unfold maxDecimalInputScale; omega, rfl⟩
  obtain ⟨stated, made⟩ : ∃ stated, makeValid (.number d) result.signature
      (sourceId :: result.sourceIds) = .ok stated := by
    rw [makeValid, dif_pos (show (Payload.number d).hasType _ = true from isDecimal)]
    exact ⟨_, rfl⟩
  have isStated := (valueFromDict_number_eq_ok valid isDecimal isNumber.undiagnosed printed.named
    isNumber.distinct number).mpr ⟨d, isRead, made⟩
  have content := (makeValid_eq_ok.mp made).1
  rw [readInput, isStated, Checks.ok_bind, normalizeValue, Value.payload?_eq_some_iff.mpr content]
  simp only [validatePolicyInputLimits, Value.payload?_eq_some_iff.mpr content,
    parseDecimal_formatF_of_lt places precise beyond]
  rfl

/-- A number below the magnitude that the limits leave is accepted when the
calculation scale is an input scale and leaves a digit before the point. -/
theorem digits_le_iff
    {policy : RoundingPolicy}
    {d : Decimal}
    (places : d.exponent = -policy.calculationScale)
    (small : |d.toRat| < 10 ^ (policy.maxInputPrecision - policy.maxInputScale)) :
    (max (policy.calculationScale + 1) (Decimal.digitCount d.coefficient) ≤
        policy.maxInputPrecision ∧ policy.calculationScale ≤ policy.maxInputScale) ↔
      policy.calculationScale ≤ policy.maxInputScale ∧
        policy.calculationScale < policy.maxInputPrecision := by
  constructor
  · rintro ⟨precise, scaled⟩
    exact ⟨scaled, by omega⟩
  · rintro ⟨scaled, room⟩
    refine ⟨?_, scaled⟩
    have agree := policy.limitsAgree.2
    have bound : d.coefficient < 10 ^ (policy.maxInputPrecision - policy.maxInputScale +
        policy.calculationScale) := by
      rw [Decimal.abs_toRat, places, zpow_neg, zpow_natCast, ← div_eq_mul_inv,
        div_lt_iff₀ (by positivity), ← pow_add] at small
      exact_mod_cast small
    have digits : Decimal.digitCount d.coefficient ≤ policy.maxInputPrecision := by
      by_cases zero : d.coefficient = 0
      · rw [zero]
        exact policy.limitsAgree.1
      · refine (Decimal.digitCount_le_iff (by omega)).mpr (bound.trans_le ?_)
        exact Nat.pow_le_pow_right (by decide) (by omega)
    omega

/-! ### Where numbers come from -/

section Numbers

variable {ctx : DecimalContext} {payload left right : Payload} {others : List Payload} {d : Decimal}

/-- A payload is a number. -/
def Payload.IsNumber (payload : Payload) : Prop := ∃ d, payload = .number d

theorem isNumber_of_addPayloads
    (made : addPayloads ctx left right = .ok payload)
    (number : payload.IsNumber) : left.IsNumber := by
  obtain ⟨d, rfl⟩ := number
  cases left <;> cases right <;> first | exact ⟨_, rfl⟩ | cases made

theorem isNumber_of_subtractPayloads
    (made : subtractPayloads ctx left right = .ok payload)
    (number : payload.IsNumber) : left.IsNumber := by
  obtain ⟨d, rfl⟩ := number
  cases left <;> cases right <;> first | exact ⟨_, rfl⟩ | cases made

theorem isNumber_of_negatePayload
    (made : negatePayload ctx left = .ok payload)
    (number : payload.IsNumber) : left.IsNumber := by
  obtain ⟨d, rfl⟩ := number
  cases left <;> first | exact ⟨_, rfl⟩ | cases made

theorem isNumber_of_absPayload
    (made : absPayload ctx left = .ok payload)
    (number : payload.IsNumber) : left.IsNumber := by
  obtain ⟨d, rfl⟩ := number
  cases left <;> first | exact ⟨_, rfl⟩ | cases made

theorem isNumber_of_sumPayloads
    (made : sumPayloads ctx left others = .ok payload)
    (number : payload.IsNumber) : left.IsNumber := by
  induction others generalizing left with
  | nil => exact Except.ok.inj made ▸ number
  | cons other others inductionHypothesis =>
      obtain ⟨next, added, made⟩ := Checks.bind_eq_ok.mp made
      exact isNumber_of_addPayloads added (inductionHypothesis made)

theorem mem_of_leastPayload
    (made : leastPayload left others = .ok payload) : payload ∈ left :: others := by
  induction others generalizing left with
  | nil => exact Except.ok.inj made ▸ List.mem_cons_self
  | cons other others inductionHypothesis =>
      obtain ⟨less, -, made⟩ := Checks.bind_eq_ok.mp made
      split at made
      · exact List.mem_cons_of_mem _ (inductionHypothesis made)
      · rcases List.mem_cons.mp (inductionHypothesis made) with rfl | listed
        · exact List.mem_cons_self
        · exact List.mem_cons_of_mem _ (List.mem_cons_of_mem _ listed)

theorem mem_of_greatestPayload
    (made : greatestPayload left others = .ok payload) : payload ∈ left :: others := by
  induction others generalizing left with
  | nil => exact Except.ok.inj made ▸ List.mem_cons_self
  | cons other others inductionHypothesis =>
      obtain ⟨less, -, made⟩ := Checks.bind_eq_ok.mp made
      split at made
      · exact List.mem_cons_of_mem _ (inductionHypothesis made)
      · rcases List.mem_cons.mp (inductionHypothesis made) with rfl | listed
        · exact List.mem_cons_self
        · exact List.mem_cons_of_mem _ (List.mem_cons_of_mem _ listed)

/-- An operation makes a number only of numbers. -/
theorem exists_isNumber_of_computePayload
    {operator : Operator}
    {payloads : List Payload}
    (made : computePayload ctx operator payloads = .ok (some payload))
    (number : payload.IsNumber) : ∃ given ∈ payloads, given.IsNumber := by
  have unwrap : ∀ {outcome : Result Payload}, some <$> outcome = .ok (some payload) →
      outcome = .ok payload := by
    intro outcome mapped
    obtain ⟨before, isBefore, isSome⟩ := Checks.map_eq_ok.mp mapped
    exact Option.some.inj isSome ▸ isBefore
  unfold computePayload at made
  split at made
  case h_1 => exact ⟨_, List.mem_cons_self, isNumber_of_sumPayloads (unwrap made) number⟩
  case h_2 => exact ⟨_, List.mem_cons_self, isNumber_of_subtractPayloads (unwrap made) number⟩
  case h_3 => exact ⟨payload, mem_of_leastPayload (unwrap made), number⟩
  case h_4 => exact ⟨payload, mem_of_greatestPayload (unwrap made), number⟩
  case h_5 => exact ⟨_, List.mem_cons_self, isNumber_of_negatePayload (unwrap made) number⟩
  case h_6 => exact ⟨_, List.mem_cons_self, isNumber_of_absPayload (unwrap made) number⟩
  case h_7 => exact ⟨_, List.mem_cons_self, _, rfl⟩
  case h_8 => cases made
  case h_9 => exact ⟨_, List.mem_cons_self, _, rfl⟩
  case h_10 => cases made
  case h_11 condition whenTrue whenFalse =>
    refine ⟨payload, ?_, number⟩
    rw [← Option.some.inj (Except.ok.inj made)]
    cases condition <;> simp
  case h_12 => cases made
  case h_13 =>
    obtain ⟨flag, -, isSome⟩ := Checks.map_eq_ok.mp made
    obtain ⟨d, rfl⟩ := number
    cases isSome
  case h_14 => cases made

end Numbers

/-! ### Values during an evaluation -/

/-- The sources of a value have names, and a number was rounded as an input. -/
structure IsTraced (policy : RoundingPolicy) (value : Value) : Prop where
  /-- Sources have names. -/
  named : ∀ sourceId ∈ value.sourceIds, sourceId ≠ ""
  /-- The policy rounds inputs. -/
  allowed : ∀ d, value.payload? = some (.number d) →
    .ruleInputNormalization ∈ policy.applicationPoints

/-- What is propagated has the sources of the values. -/
theorem mem_sourceIds_of_propagate
    {values : List Value}
    {signature : Signature}
    {result : Value}
    (propagated : propagate values signature = some result) :
    (∀ sourceId ∈ result.sourceIds, ∃ value ∈ values, sourceId ∈ value.sourceIds) ∧
      result.payload? = none := by
  obtain ⟨state, -, chosen⟩ := List.exists_of_findSome?_eq_some propagated
  obtain ⟨first, -, rfl⟩ := Option.map_eq_some_iff.mp chosen
  refine ⟨fun sourceId listed => ?_, rfl⟩
  obtain ⟨value, isMatch, isSource⟩ := List.mem_flatMap.mp (mem_sortedSet.mp listed)
  exact ⟨value, (List.mem_filter.mp ((List.perm_insertionSort _ _).mem_iff.mp isMatch)).1, isSource⟩

section Traced

variable {policy : RoundingPolicy} {values : List Value} {signature : Signature} {result : Value}

theorem allowed_of_inputDecimal
    {raw : Json}
    {code : FinanceCode}
    {d : Decimal}
    (read : inputDecimal raw policy code = .ok d) :
    .ruleInputNormalization ∈ policy.applicationPoints := by
  obtain ⟨parsed, -, rounded⟩ := Checks.bind_eq_ok.mp read
  obtain ⟨⟨_, _⟩, isRounded, -⟩ := Checks.bind_eq_ok.mp rounded
  exact (quantize_result isRounded).1

theorem IsTraced.of_literal
    {exactKeys : Bool}
    {value valueType unit currency : Json}
    (made : literalValue policy exactKeys value valueType unit currency = .ok result) :
    IsTraced policy result := by
  obtain ⟨_, -, made⟩ := Checks.bind_eq_ok.mp made
  obtain ⟨declared, -, made⟩ := Checks.bind_eq_ok.mp made
  have unsourced : ∀ {payload : Payload}, makeValid payload declared [] = .ok result →
      (∀ d, payload = .number d → .ruleInputNormalization ∈ policy.applicationPoints) →
      IsTraced policy result := by
    intro payload made allowed
    obtain ⟨content, -, sources⟩ := makeValid_eq_ok.mp made
    refine ⟨fun sourceId listed => ?_, fun d isNumber => allowed d ?_⟩
    · rw [sources, mem_sortedSet] at listed
      cases listed
    · exact Content.valid.inj (content.symm.trans (Value.payload?_eq_some_iff.mp isNumber))
  split at made
  case h_1 => exact unsourced made nofun
  case h_2 => cases made
  case h_3 =>
    obtain ⟨text, -, made⟩ := Checks.bind_eq_ok.mp made
    obtain ⟨parts, -, made⟩ := Checks.bind_eq_ok.mp made
    obtain ⟨_, -, made⟩ := Checks.bind_eq_ok.mp made
    exact unsourced made nofun
  case h_4 =>
    obtain ⟨d, isInput, made⟩ := Checks.bind_eq_ok.mp made
    exact unsourced made fun _ _ => allowed_of_inputDecimal isInput

theorem IsTraced.of_propagate
    (traced : ∀ value ∈ values, IsTraced policy value)
    (propagated : propagate values signature = some result) : IsTraced policy result := by
  obtain ⟨sources, noPayload⟩ := mem_sourceIds_of_propagate propagated
  refine ⟨fun sourceId listed => ?_, fun d isNumber => by simp [noPayload] at isNumber⟩
  obtain ⟨value, isValue, isSource⟩ := sources sourceId listed
  exact (traced value isValue).named sourceId isSource

theorem IsTraced.of_applyOperator
    {ctx : DecimalContext}
    {operator : Operator}
    (traced : ∀ value ∈ values, IsTraced policy value)
    (made : applyOperator ctx operator values signature = .ok result) : IsTraced policy result := by
  obtain ⟨computed, isComputed, made⟩ := Checks.bind_eq_ok.mp made
  have named : ∀ sourceId ∈ sortedSet (values.flatMap Value.sourceIds), sourceId ≠ "" := by
    intro sourceId listed
    obtain ⟨value, isValue, isSource⟩ := List.mem_flatMap.mp (mem_sortedSet.mp listed)
    exact (traced value isValue).named sourceId isSource
  cases computed with
  | none =>
      obtain ⟨content, -, sources⟩ := makeNonvalid_eq_ok.mp made
      exact ⟨sources ▸ named, fun d isNumber => by simp [Value.payload?, content] at isNumber⟩
  | some payload =>
      obtain ⟨content, -, sources⟩ := makeValid_eq_ok.mp made
      refine ⟨sources ▸ named, fun d isNumber => ?_⟩
      obtain rfl := Content.valid.inj (content.symm.trans (Value.payload?_eq_some_iff.mp isNumber))
      obtain ⟨given, isGiven, e, rfl⟩ := exists_isNumber_of_computePayload isComputed ⟨d, rfl⟩
      obtain ⟨value, isValue, isPayload⟩ := List.mem_filterMap.mp isGiven
      exact (traced value isValue).allowed e isPayload

/-- The source ids that are read are not empty. -/
theorem named_of_readSourceIds
    {raw : Json}
    {ids : List String}
    (read : readSourceIds raw = some ids) : ∀ sourceId ∈ ids, sourceId ≠ "" := by
  unfold readSourceIds at read
  split at read
  · obtain ⟨-, valid⟩ := Option.filter_eq_some_iff.mp read
    simp only [Bool.and_eq_true, List.all_eq_true, decide_eq_true_eq] at valid
    exact valid.1
  · cases read

theorem named_of_valueFromDict
    {raw : Json}
    {sourceId : String}
    (named : sourceId ≠ "")
    (read : valueFromDict raw sourceId = .ok result) :
    ∀ other ∈ result.sourceIds, other ≠ "" := by
  cases raw with
  | obj fields =>
      simp only [valueFromDict, Checks.bind_eq_ok, Checks.requireSome_eq_ok] at read
      obtain ⟨_, -, read, -, state, -, ids, isIds, made⟩ := read
      have all : ∀ other ∈ sourceId :: ids, other ≠ "" :=
        List.forall_mem_cons.mpr ⟨named, named_of_readSourceIds isIds⟩
      have sources : result.sourceIds = sortedSet (sourceId :: ids) := by
        split at made
        · obtain ⟨_, -, made⟩ := Checks.bind_eq_ok.mp made
          obtain ⟨_, -, made⟩ := Checks.bind_eq_ok.mp made
          exact (makeNonvalid_eq_ok.mp made).2.2
        · obtain ⟨_, -, made⟩ := Checks.bind_eq_ok.mp made
          obtain ⟨_, -, made⟩ := Checks.bind_eq_ok.mp made
          exact (makeValid_eq_ok.mp made).2.2
      intro other listed
      rw [sources, mem_sortedSet] at listed
      exact all other listed
  | _ => cases read

/-- An input that was read has named sources. -/
theorem IsTraced.of_readInput
    {raw : Json}
    {sourceId : String}
    (named : sourceId ≠ "")
    (read : readInput raw sourceId policy = .ok result) : IsTraced policy result := by
  obtain ⟨stated, isStated, normalized⟩ := Checks.bind_eq_ok.mp read
  have statedNamed := named_of_valueFromDict named isStated
  rw [normalizeValue] at normalized
  split at normalized
  case h_1 d isNumber =>
    obtain ⟨_, -, normalized⟩ := Checks.bind_eq_ok.mp normalized
    obtain ⟨⟨rounded, scale⟩, isRounded, made⟩ := Checks.bind_eq_ok.mp normalized
    obtain ⟨-, -, sources⟩ := makeValid_eq_ok.mp made
    refine ⟨fun other listed => ?_, fun _ _ => (quantize_result isRounded).1⟩
    rw [sources, mem_sortedSet] at listed
    exact statedNamed other listed
  case h_2 payload notNumber isPayload =>
    obtain ⟨_, -, same⟩ := Checks.bind_eq_ok.mp normalized
    obtain rfl := Except.ok.inj same
    exact ⟨statedNamed, fun d isNumber =>
      absurd (Option.some.inj (isPayload.symm.trans isNumber)) (notNumber d)⟩
  case h_3 none =>
    obtain rfl := Except.ok.inj normalized
    exact ⟨statedNamed, fun d isNumber => by simp [none] at isNumber⟩

end Traced

mutual

/-- The walk of the evaluator makes traced values of traced variables. -/
theorem isTraced_of_evaluateNode
    {env : Environment}
    (traced : ∀ name value, env.variableMap.lookup name = some value → IsTraced env.policy value)
    {node : Node}
    {depth counter next : Nat}
    {value : Value}
    (evaluated : evaluateNode env node depth counter = .ok (value, next)) :
    IsTraced env.policy value := by
  cases node with
  | literal exactKeys raw valueType unit currency =>
      simp only [evaluateNode, Checks.bind_eq_ok, Checks.pure_eq_ok, Prod.mk.injEq] at evaluated
      obtain ⟨_, -, _, made, rfl, -⟩ := evaluated
      exact .of_literal made
  | «variable» exactKeys name valueType unit currency =>
      simp only [evaluateNode, variableValue, Checks.bind_eq_ok, Checks.requireSome_eq_ok,
        Checks.pure_eq_ok, Prod.mk.injEq] at evaluated
      obtain ⟨_, -, _, ⟨declared, -, actual, found, _, -, _, -, _, -, _, -, rfl⟩, rfl, -⟩ := evaluated
      exact traced declared actual found
  | operation exactKeys operator valueType unit currency arguments =>
      simp only [evaluateNode, Checks.bind_eq_ok] at evaluated
      obtain ⟨_, -, ⟨found, declared⟩, -, ⟨values, last⟩, walked, _, -, made⟩ := evaluated
      have each := isTraced_of_evaluateNodes traced walked
      split at made
      · rename_i propagated inherited
        obtain ⟨rfl, -⟩ := Prod.mk.inj (Except.ok.inj made)
        exact .of_propagate each inherited
      · obtain ⟨_, applied, same⟩ := Checks.bind_eq_ok.mp made
        obtain ⟨rfl, -⟩ := Prod.mk.inj (Except.ok.inj same)
        exact .of_applyOperator each applied
  | unlistedOperation exactKeys => simp [evaluateNode, raise, Checks.bind_eq_ok] at evaluated
  | unknownKind => simp [evaluateNode, raise, Checks.bind_eq_ok] at evaluated
  | notMapping => simp [evaluateNode, raise, Checks.bind_eq_ok] at evaluated

theorem isTraced_of_evaluateNodes
    {env : Environment}
    (traced : ∀ name value, env.variableMap.lookup name = some value → IsTraced env.policy value)
    {nodes : List Node}
    {depth counter next : Nat}
    {values : List Value}
    (evaluated : evaluateNodes env nodes depth counter = .ok (values, next)) :
    ∀ value ∈ values, IsTraced env.policy value := by
  cases nodes with
  | nil =>
      obtain ⟨rfl, -⟩ := Prod.mk.inj (Except.ok.inj evaluated)
      nofun
  | cons node nodes =>
      simp only [evaluateNodes, Checks.bind_eq_ok, Checks.pure_eq_ok, Prod.mk.injEq] at evaluated
      obtain ⟨⟨first, middle⟩, isFirst, ⟨rest, last⟩, isRest, rfl, -⟩ := evaluated
      exact List.forall_mem_cons.mpr
        ⟨isTraced_of_evaluateNode traced isFirst, isTraced_of_evaluateNodes traced isRest⟩

end

/-! ### Results of the evaluators -/

/-- The typed variables are inputs that were read. -/
theorem exists_readInput_of_typedVariables
    {policy : RoundingPolicy}
    {entries : List (String × Json)}
    {typed : List (String × Value)}
    (parsed : typedVariables policy entries = .ok typed)
    {name : String}
    {value : Value}
    (found : typed.lookup name = some value) :
    ∃ raw, (name, raw) ∈ entries ∧ readInput raw name policy = .ok value := by
  induction entries generalizing typed with
  | nil =>
      obtain rfl := Except.ok.inj parsed
      cases found
  | cons entry entries inductionHypothesis =>
      obtain ⟨entryName, raw⟩ := entry
      simp only [typedVariables, Checks.bind_eq_ok, Checks.pure_eq_ok] at parsed
      obtain ⟨stated, isStated, read, isRead, rest, isRest, rfl⟩ := parsed
      rw [List.lookup_cons] at found
      split at found
      · rename_i same
        obtain rfl := eq_of_beq same
        obtain rfl := Option.some.inj found
        exact ⟨raw, List.mem_cons_self, Checks.bind_eq_ok.mpr ⟨stated, isStated, isRead⟩⟩
      · obtain ⟨other, listed, isOther⟩ := inductionHypothesis isRest found
        exact ⟨other, List.mem_cons_of_mem _ listed, isOther⟩

theorem ne_empty_of_isVariableName {name : String} (valid : isVariableName name = true) :
    name ≠ "" := by
  rintro rfl
  exact absurd valid (by decide)

theorem Payload.exists_number_of_hasType
    {payload : Payload}
    {valueType : ValueType}
    (typed : payload.hasType valueType = true)
    (isDecimal : valueType.isDecimal = true) : ∃ d, payload = .number d := by
  cases payload with
  | number d => exact ⟨d, rfl⟩
  | integer n => cases valueType <;> simp [Payload.hasType, ValueType.isDecimal] at typed isDecimal
  | truth flag => cases valueType <;> simp [Payload.hasType, ValueType.isDecimal] at typed isDecimal

/-- A rounded component is printed at the calculation scale. -/
theorem isPrinted_of_quantize
    {policy : RoundingPolicy}
    {d rounded : Decimal}
    {valueType : ValueType}
    {scale : Nat}
    {signature : Signature}
    {sourceIds : List String}
    {value : Value}
    (named : ∀ sourceId ∈ sourceIds, sourceId ≠ "")
    (allowed : .ruleInputNormalization ∈ policy.applicationPoints)
    (isRounded : quantize d policy .ruleComponentResult valueType = .ok (rounded, scale))
    (made : makeValid (.number rounded) signature sourceIds = .ok value) :
    IsPrinted policy (valueToDict value (some scale)) := by
  obtain ⟨content, -, sources⟩ := makeValid_eq_ok.mp made
  obtain ⟨-, isScale, -⟩ := quantize_result isRounded
  refine ⟨fun sourceId listed => ?_, fun _ _ => ⟨?_, ?_, allowed,
    Decimal.rescale .halfEven (written rounded) (-scale), ?_, ?_⟩⟩
  · rw [valueToDict, sources, mem_sortedSet] at listed
    exact named sourceId listed
  · rw [valueToDict, sources]
    exact nodup_sortedSet _
  · simp [valueToDict, content]
  · rw [Decimal.rescale_exponent, isScale]
    rfl
  · simp [valueToDict, Value.payload?, content, encodePayload, decimalText_some]

/-- A traced value is printed. -/
theorem isPrinted_of_finishEvaluation
    {policy : RoundingPolicy}
    {value : Value}
    {result : ValueDict}
    (traced : IsTraced policy value)
    (finished : finishEvaluation policy value = .ok result) : IsPrinted policy result := by
  unfold finishEvaluation at finished
  split at finished
  case h_1 d isNumber =>
    obtain ⟨⟨rounded, scale⟩, isRounded, finished⟩ := Checks.bind_eq_ok.mp finished
    obtain ⟨made, isMade, same⟩ := Checks.bind_eq_ok.mp finished
    obtain rfl := Except.ok.inj same
    exact isPrinted_of_quantize traced.named (traced.allowed d isNumber) isRounded isMade
  case h_2 notNumber =>
    obtain rfl := Except.ok.inj finished
    refine ⟨traced.named, fun valid isDecimal => absurd ?_ (not_exists.mpr notNumber)⟩
    obtain ⟨signature, content, sourceIds, fits⟩ := value
    cases content with
    | valid payload =>
        obtain ⟨d, rfl⟩ := Payload.exists_number_of_hasType fits isDecimal
        exact ⟨d, rfl⟩
    | nonvalid state reasonCode => cases valid

/-- The eager evaluator prints its results. -/
theorem isPrinted_of_evaluateEager
    {ctx : DecimalContext}
    {expression : Node}
    {variableMap : Dict String Json}
    {dependencies : List String}
    {document : Json}
    {policy : RoundingPolicy}
    {result : ValueDict}
    (accepted : validateRoundingPolicy document true = .ok policy)
    (evaluated : evaluateEager ctx expression variableMap dependencies document = .ok result) :
    IsPrinted policy result := by
  simp only [evaluateEager, accepted, Checks.ok_bind, Checks.bind_eq_ok, validateDependencies,
    check_eq_ok] at evaluated
  obtain ⟨_, ⟨-, -, valid⟩, _, declared, typed, parsed, ⟨value, counter⟩, walked, finished⟩ :=
    evaluated
  refine isPrinted_of_finishEvaluation ?_ finished
  refine isTraced_of_evaluateNode (fun name value found => ?_) walked
  obtain ⟨raw, listed, read⟩ := exists_readInput_of_typedVariables parsed found
  refine .of_readInput (ne_empty_of_isVariableName ?_) read
  have isKey : name ∈ variableMap.keys := List.mem_map_of_mem listed
  have isDependency := of_decide_eq_true (List.all_eq_true.mp declared name isKey)
  exact List.all_eq_true.mp valid name isDependency

mutual

/-- The sources of the conditions have names. -/
theorem named_of_resolve
    {ctx : DecimalContext}
    {document : Json}
    {policy : RoundingPolicy}
    (accepted : validateRoundingPolicy document true = .ok policy)
    {node transformed : Node}
    {state final : Resolution}
    (named : ∀ sourceId ∈ state.conditionSources, sourceId ≠ "")
    (resolved : resolve ctx document node state = .ok (transformed, final)) :
    ∀ sourceId ∈ final.conditionSources, sourceId ≠ "" := by
  cases node with
  | operation exactKeys operator valueType unit currency arguments =>
      unfold resolve at resolved
      split at resolved
      · split at resolved
        case h_1 condition whenTrue whenFalse =>
          obtain ⟨⟨conditionAst, middle⟩, isCondition, resolved⟩ := Checks.bind_eq_ok.mp resolved
          obtain ⟨outcome, isOutcome, resolved⟩ := Checks.bind_eq_ok.mp resolved
          have middleNamed := named_of_resolve accepted named isCondition
          have outcomeNamed := (isPrinted_of_evaluateEager accepted isOutcome).named
          have bothNamed : ∀ sourceId ∈ middle.conditionSources ++
              outcome.sourceIds.filter isOwnSource, sourceId ≠ "" := by
            intro sourceId listed
            rcases List.mem_append.mp listed with earlier | later
            · exact middleNamed sourceId earlier
            · exact outcomeNamed sourceId (List.mem_filter.mp later).1
          split at resolved
          case h_1 =>
            obtain ⟨-, rfl⟩ := Prod.mk.inj (Except.ok.inj resolved)
            exact bothNamed
          case h_2 => cases resolved
          case h_3 =>
            split at resolved
            case h_1 => exact named_of_resolve accepted bothNamed resolved
            case h_2 => exact named_of_resolve accepted bothNamed resolved
            case h_3 => cases resolved
        case h_2 => cases resolved
      · obtain ⟨⟨nodes, last⟩, isLast, same⟩ := Checks.bind_eq_ok.mp resolved
        obtain ⟨-, rfl⟩ := Prod.mk.inj (Except.ok.inj same)
        exact named_of_resolveAll accepted named isLast
  | unlistedOperation exactKeys => cases resolved
  | notMapping => cases resolved
  | literal exactKeys value valueType unit currency =>
      obtain ⟨-, rfl⟩ := Prod.mk.inj (Except.ok.inj resolved)
      exact named
  | «variable» exactKeys name valueType unit currency =>
      obtain ⟨-, rfl⟩ := Prod.mk.inj (Except.ok.inj resolved)
      exact named
  | unknownKind =>
      obtain ⟨-, rfl⟩ := Prod.mk.inj (Except.ok.inj resolved)
      exact named

theorem named_of_resolveAll
    {ctx : DecimalContext}
    {document : Json}
    {policy : RoundingPolicy}
    (accepted : validateRoundingPolicy document true = .ok policy)
    {nodes transformed : List Node}
    {state final : Resolution}
    (named : ∀ sourceId ∈ state.conditionSources, sourceId ≠ "")
    (resolved : resolveAll ctx document nodes state = .ok (transformed, final)) :
    ∀ sourceId ∈ final.conditionSources, sourceId ≠ "" := by
  cases nodes with
  | nil =>
      obtain ⟨-, rfl⟩ := Prod.mk.inj (Except.ok.inj resolved)
      exact named
  | cons node nodes =>
      simp only [resolveAll, Checks.bind_eq_ok, Checks.pure_eq_ok, Prod.mk.injEq] at resolved
      obtain ⟨⟨first, middle⟩, isFirst, ⟨rest, last⟩, isRest, -, rfl⟩ := resolved
      exact named_of_resolveAll accepted (named_of_resolve accepted named isFirst) isRest

end

/-- Other sources do not change what is printed. -/
theorem IsPrinted.withSources
    {policy : RoundingPolicy}
    {result : ValueDict}
    (printed : IsPrinted policy result)
    {sourceIds : List String}
    (named : ∀ sourceId ∈ sourceIds, sourceId ≠ "") :
    IsPrinted policy { result with sourceIds := sortedSet sourceIds } where
  named := fun sourceId listed => named sourceId (mem_sortedSet.mp listed)
  number := fun valid isDecimal =>
    let isNumber := printed.number valid isDecimal
    ⟨nodup_sortedSet _, isNumber.undiagnosed, isNumber.allowed, isNumber.printed⟩

/-- The short-circuit evaluator prints its results. -/
theorem isPrinted_of_evaluateLazy
    {ctx : DecimalContext}
    {expression : Node}
    {variableMap : Dict String Json}
    {dependencies : List String}
    {document : Json}
    {policy : RoundingPolicy}
    {result : ValueDict}
    (accepted : validateRoundingPolicy document true = .ok policy)
    (evaluated : evaluateLazy ctx expression variableMap dependencies document = .ok result) :
    IsPrinted policy result := by
  simp only [evaluateLazy, Checks.bind_eq_ok, Checks.pure_eq_ok] at evaluated
  obtain ⟨_, -, ⟨transformed, state⟩, resolved, outcome, isOutcome, rfl⟩ := evaluated
  have printed := isPrinted_of_evaluateEager accepted isOutcome
  have conditions := named_of_resolve accepted (by nofun) resolved
  refine printed.withSources fun sourceId listed => ?_
  rcases List.mem_append.mp listed with own | condition
  · exact printed.named sourceId (List.mem_filter.mp own).1
  · exact conditions sourceId condition

/-- A rule prints its value. -/
theorem isPrinted_of_evaluateRule
    {rule : RuleDocument}
    {traceId : String}
    {variableMap : Dict String Json}
    {document : Json}
    {policy : RoundingPolicy}
    {result : ValueDict}
    (traceNamed : traceId ≠ "")
    (ruleNamed : rule.contentHash ≠ "")
    (accepted : validateRoundingPolicy document true = .ok policy)
    (evaluated : evaluateRule rule traceId variableMap document = .ok result)
    (valid : result.state = .valid) : IsPrinted policy result := by
  have named : ∀ sourceId ∈ [traceId, rule.contentHash], sourceId ≠ "" :=
    List.forall_mem_cons.mpr ⟨traceNamed, List.forall_mem_singleton.mpr ruleNamed⟩
  obtain ⟨_, -, evaluated⟩ := Checks.bind_eq_ok.mp evaluated
  split at evaluated
  case h_1 =>
    simp only [unavailableDependency, Checks.bind_eq_ok, Checks.pure_eq_ok] at evaluated
    obtain ⟨declared, -, value, made, rfl⟩ := evaluated
    have missing := Value.state_of_nonvalid (makeNonvalid_eq_ok.mp made).1
    cases valid.symm.trans missing
  case h_2 =>
    rw [accepted, Checks.ok_bind] at evaluated
    have evaluated : evaluateMethod rule traceId variableMap document policy = .ok result := by
      split at evaluated
      · obtain ⟨_, -, evaluated⟩ := Checks.bind_eq_ok.mp evaluated
        exact evaluated
      · exact evaluated
    obtain ⟨typed, -, evaluated⟩ := Checks.bind_eq_ok.mp evaluated
    split_ifs at evaluated
    · obtain ⟨outcome, isOutcome, evaluated⟩ := Checks.bind_eq_ok.mp evaluated
      simp only [Checks.bind_eq_ok, Checks.pure_eq_ok] at evaluated
      obtain ⟨_, -, _, -, rfl⟩ := evaluated
      have printed := isPrinted_of_evaluateLazy accepted isOutcome
      exact printed.withSources (List.forall_mem_append.mpr ⟨printed.named, named⟩)
    · simp only [evaluateFixedValue, Checks.bind_eq_ok, Checks.pure_eq_ok] at evaluated
      obtain ⟨d, isInput, ⟨rounded, scale⟩, isRounded, signature, -, value, made, rfl⟩ := evaluated
      exact isPrinted_of_quantize named (allowed_of_inputDecimal isInput) isRounded made
    · split at evaluated
      · rename_i propagated inherited
        obtain rfl := Checks.pure_eq_ok.mp evaluated
        obtain ⟨bad, isWorst, -⟩ := propagate_eq_some inherited
        exact absurd (isWorst.symm.trans valid) bad
      · simp only [evaluateRate, Checks.bind_eq_ok, Checks.pure_eq_ok] at evaluated
        obtain ⟨d, isInput, ⟨rounded, scale⟩, isRounded, value, made, rfl⟩ := evaluated
        exact isPrinted_of_quantize named (allowed_of_inputDecimal isInput) isRounded made

/-! ### Closure -/

/-- The value is a result of an evaluator under a policy. -/
inductive ProducedUnder (document : Json) (result : ValueDict) : Prop
  | expression
    (expression : Node)
    (variableMap : Dict String Json)
    (dependencies : List String)
    (evaluated : evaluateExpression expression variableMap dependencies document = .ok result)
  | rule
    (resolution : Json)
    (rules : List Json)
    (variableMap : Dict String Json)
    (cache : TraceCache)
    (evaluated : (evaluateResolvedRule resolution rules variableMap document cache).1 = .ok result)

theorem ne_empty_of_isHexDigest {text : String} (isHex : PyText.isHexDigest text = true) :
    text ≠ "" := by
  rintro rfl
  exact absurd isHex (by decide)

/-- The evaluators print their results. -/
theorem isPrinted_of_producedUnder
    {document : Json}
    {policy : RoundingPolicy}
    {result : ValueDict}
    (accepted : validateRoundingPolicy document true = .ok policy)
    (produced : ProducedUnder document result)
    (valid : result.state = .valid) : IsPrinted policy result := by
  cases produced with
  | expression expression variableMap dependencies evaluated =>
      obtain ⟨_, -, evaluated⟩ := Checks.bind_eq_ok.mp evaluated
      obtain ⟨_, -, evaluated⟩ := Checks.bind_eq_ok.mp evaluated
      exact isPrinted_of_evaluateLazy accepted evaluated
  | rule resolution rules variableMap cache evaluated =>
      cases opened : openReplay resolution rules with
      | error raised =>
          rw [evaluateResolvedRule, opened] at evaluated
          cases evaluated
      | ok value =>
          obtain ⟨fields, traceId, documents⟩ := value
          obtain ⟨-, isSnapshot, trace⟩ := openReplay_spec opened
          rw [evaluateResolvedRule, opened] at evaluated
          dsimp only at evaluated
          obtain ⟨_, -, evaluated⟩ := Checks.bind_eq_ok.mp evaluated
          have traceNamed : traceId ≠ "" :=
            trace ▸ ne_empty_of_isHexDigest (isHexDigest_canonicalJsonHash _)
          unfold evaluateTrusted at evaluated
          split at evaluated
          case h_1 =>
            split at evaluated
            case h_1 rule selected =>
              obtain ⟨_, isRule⟩ :=
                exists_validateRuleDocument isSnapshot (mem_of_selectedRule selected)
              have digest := (validateRuleDocument_spec isRule).2.2
              rw [canonicalHash_eq] at digest
              exact isPrinted_of_evaluateRule traceNamed
                (digest ▸ ne_empty_of_isHexDigest (isHexDigest_canonicalJsonHash _)) accepted
                evaluated valid
            case h_2 =>
              obtain ⟨_, -, raised⟩ := Checks.bind_eq_ok.mp evaluated
              cases raised
          case h_2 state =>
            simp only [Checks.bind_eq_ok, Checks.pure_eq_ok] at evaluated
            obtain ⟨_, -, diagnostic, -, value, made, rfl⟩ := evaluated
            have missing := Value.state_of_nonvalid (makeNonvalid_eq_ok.mp made).1
            cases valid.symm.trans missing
          case h_3 => cases evaluated

theorem eq_of_denotes_formatF
    {d : Decimal}
    {x : ℚ}
    (denotes : Denotes d.formatF x) : d.toRat = x := by
  obtain ⟨parts, isParts, same⟩ := denotes
  obtain ⟨others, isOthers, isValue⟩ := denotes_formatF d
  obtain rfl := Option.some.inj (isParts.symm.trans isOthers)
  exact isValue.symm.trans same

/-- A number that an evaluator produced, below the magnitude that the input limits
leave, is accepted as an input under the same policy exactly when the calculation
scale is an input scale and leaves a digit before the point. -/
theorem readInput_produced_iff
    {document : Json}
    {policy : RoundingPolicy}
    {result : ValueDict}
    {text sourceId : String}
    {x : ℚ}
    (accepted : validateRoundingPolicy document true = .ok policy)
    (produced : ProducedUnder document result)
    (valid : result.state = .valid)
    (isDecimal : result.signature.valueType.isDecimal = true)
    (number : result.value = .text text)
    (denotes : Denotes text x)
    (small : |x| < 10 ^ (policy.maxInputPrecision - policy.maxInputScale)) :
    (∃ value, readInput result.toJson sourceId policy = .ok value) ↔
      policy.calculationScale ≤ policy.maxInputScale ∧
        policy.calculationScale < policy.maxInputPrecision := by
  have printed := isPrinted_of_producedUnder accepted produced valid
  obtain ⟨d, places, isText⟩ := (printed.number valid isDecimal).printed
  obtain rfl := Encoded.text.inj (number.symm.trans isText)
  obtain rfl := eq_of_denotes_formatF denotes
  rw [readInput_printed_iff printed valid isDecimal places number, digits_le_iff places small]

/-! ### A policy that rejects its results -/

/-- The literal zero. -/
def zeroLiteral : Node :=
  .literal true (.str "0") (.str "DECIMAL") (.str "DIMENSIONLESS") .null

theorem coefficient_rescale_of_zero
    {d : Decimal}
    (zero : d.coefficient = 0)
    (mode : RoundingMode)
    {exponent : Int}
    (padded : exponent ≤ d.exponent) : (Decimal.rescale mode d exponent).coefficient = 0 := by
  rw [Decimal.rescale, if_pos padded]
  simp [zero]

/-- Zero is evaluated under every policy that rounds inputs and components. -/
theorem evaluateExpression_zero
    {document : Json}
    {policy : RoundingPolicy}
    (accepted : validateRoundingPolicy document true = .ok policy)
    (input : .ruleInputNormalization ∈ policy.applicationPoints)
    (component : .ruleComponentResult ∈ policy.applicationPoints) :
    ∃ result, evaluateExpression zeroLiteral Dict.empty [] document = .ok result ∧
      result.state = .valid ∧ result.signature = .dimensionless ∧
      ∃ text, result.value = .text text ∧ Denotes text 0 := by
  have parsed : parseDecimal (.str "0") .expressionNonFiniteLiteral policy.maxInputPrecision
      policy.maxInputScale = .ok ⟨false, 0, 0⟩ := by
    have agree := policy.limitsAgree.1
    simp only [parseDecimal, text?, Checks.bind_eq_ok, Checks.requireSome_eq_ok, check_eq_ok,
      Checks.pure_eq_ok]
    exact ⟨_, rfl, ⟨false, ['0'], []⟩, rfl, (), agree, (), Nat.zero_le _, rfl⟩
  obtain ⟨⟨rounded, scale⟩, isRounded⟩ := @quantize_of_settled ⟨false, 0, 0⟩ policy
    .ruleInputNormalization .decimal (.inl rfl) input
  obtain ⟨-, isScale, isRescaled⟩ := quantize_result isRounded
  have roundedZero : rounded.coefficient = 0 := by
    rw [isRescaled]
    exact coefficient_rescale_of_zero rfl _ (by simp)
  obtain ⟨⟨final, finalScale⟩, isFinal⟩ := @quantize_of_settled rounded policy
    .ruleComponentResult .decimal (.inl roundedZero) component
  obtain ⟨-, isFinalScale, isFinalRescaled⟩ := quantize_result isFinal
  have places : rounded.exponent = -finalScale := by
    rw [isRescaled, Decimal.rescale_exponent, isScale, isFinalScale]
    rfl
  have finalZero : final.toRat = 0 := by
    rw [isFinalRescaled, Decimal.toRat_eq_zero_iff]
    exact coefficient_rescale_of_zero roundedZero _ places.ge
  have read : inputDecimal (.str "0") policy .expressionNonFiniteLiteral = .ok rounded :=
    Checks.bind_eq_ok.mpr ⟨_, parsed, Checks.bind_eq_ok.mpr ⟨_, isRounded, rfl⟩⟩
  have literal : literalValue policy true (.str "0") (.str "DECIMAL") (.str "DIMENSIONLESS") .null =
      .ok ⟨.dimensionless, .valid (.number rounded), [], rfl⟩ := by
    refine Checks.bind_eq_ok.mpr ⟨(), rfl, Checks.bind_eq_ok.mpr ⟨.dimensionless, rfl, ?_⟩⟩
    exact Checks.bind_eq_ok.mpr ⟨rounded, read, rfl⟩
  have walked : ∀ env : Environment, env.policy = policy →
      evaluateNode env zeroLiteral 1 0 = .ok (⟨.dimensionless, .valid (.number rounded), [], rfl⟩, 1) := by
    rintro env rfl
    exact Checks.bind_eq_ok.mpr ⟨1, rfl, Checks.bind_eq_ok.mpr ⟨_, literal, rfl⟩⟩
  have finished : finishEvaluation policy ⟨.dimensionless, .valid (.number rounded), [], rfl⟩ =
      .ok (valueToDict ⟨.dimensionless, .valid (.number final), [], rfl⟩ (some finalScale)) :=
    Checks.bind_eq_ok.mpr ⟨_, isFinal, rfl⟩
  have eager : ∀ ctx, evaluateEager ctx zeroLiteral Dict.empty [] document =
      .ok (valueToDict ⟨.dimensionless, .valid (.number final), [], rfl⟩ (some finalScale)) := by
    intro ctx
    refine Checks.bind_eq_ok.mpr ⟨policy, accepted, Checks.bind_eq_ok.mpr ⟨(), rfl,
      Checks.bind_eq_ok.mpr ⟨(), rfl, Checks.bind_eq_ok.mpr ⟨[], rfl, ?_⟩⟩⟩⟩
    exact Checks.bind_eq_ok.mpr ⟨_, walked _ rfl, finished⟩
  refine ⟨_, Checks.bind_eq_ok.mpr ⟨policy, accepted, Checks.bind_eq_ok.mpr ⟨(), rfl,
    Checks.bind_eq_ok.mpr ⟨(), rfl, Checks.bind_eq_ok.mpr ⟨_, rfl, Checks.bind_eq_ok.mpr
      ⟨_, eager _, rfl⟩⟩⟩⟩⟩, rfl, rfl, decimalText final (some finalScale), rfl, ?_⟩
  rw [← finalZero]
  exact denotes_decimalText (by rw [isFinalRescaled, Decimal.rescale_exponent])

/-- A policy that computes to four places and accepts inputs with two. -/
def twoPlaceInputPolicy : Json :=
  .obj [("actor", .str "a"),
    ("application_points", .arr [.str "RULE_INPUT_NORMALIZATION", .str "RULE_COMPONENT_RESULT",
      .str "METRIC_FINAL_ACCOUNTING"]),
    ("approval_reference", .null), ("calculation_mode", .str "HALF_UP"),
    ("calculation_scale", .int 4), ("change_reason", .str "r"),
    ("content_hash", .str "3aae57ba562cbaac7d40e78e1c61b608a2b641a9f14dafd83b37658a04ca9a8a"),
    ("created_at", .str "2026-01-01T00:00:00Z"), ("currency_presentation_scales", .obj []),
    ("max_input_precision", .int 12), ("max_input_scale", .int 2), ("money_scale", .int 2),
    ("policy_id", .str "p"), ("presentation_mode", .str "HALF_UP"), ("presentation_scale", .int 2),
    ("rate_scale", .int 4), ("source", .str "s"), ("status", .str "ACTIVE"), ("supersedes", .null),
    ("version", .int 1)]

/-- The policy is accepted, and it evaluates zero. -/
theorem exists_twoPlaceZero :
    ∃ policy result text, validateRoundingPolicy twoPlaceInputPolicy true = .ok policy ∧
      policy.calculationScale = 4 ∧ policy.maxInputScale = 2 ∧ policy.maxInputPrecision = 12 ∧
      ProducedUnder twoPlaceInputPolicy result ∧ result.state = .valid ∧
      result.signature.valueType.isDecimal = true ∧ result.value = .text text ∧ Denotes text 0 := by
  have evaluated : ((validateRoundingPolicy twoPlaceInputPolicy true).map fun policy =>
      decide (policy.calculationScale = 4 ∧ policy.maxInputScale = 2 ∧
        policy.maxInputPrecision = 12 ∧
        .ruleInputNormalization ∈ policy.applicationPoints ∧
        .ruleComponentResult ∈ policy.applicationPoints)).toOption = some true := by
    decide +kernel
  cases outcome : validateRoundingPolicy twoPlaceInputPolicy true with
  | error raised =>
      rw [outcome] at evaluated
      cases evaluated
  | ok policy =>
      rw [outcome] at evaluated
      obtain ⟨scale, inputScale, precision, input, component⟩ :=
        of_decide_eq_true (Option.some.inj evaluated)
      obtain ⟨result, isResult, valid, signature, text, isText, denotes⟩ :=
        evaluateExpression_zero outcome input component
      exact ⟨policy, result, text, rfl, scale, inputScale, precision, .expression _ _ _ isResult, valid,
        signature ▸ rfl, isText, denotes⟩

theorem readInput_produced_iff_zero :
    ∃ (policy : RoundingPolicy) (result : ValueDict), ProducedUnder twoPlaceInputPolicy result ∧
      ((∃ value, readInput result.toJson "zero" policy = .ok value) ↔
        policy.calculationScale ≤ policy.maxInputScale ∧
          policy.calculationScale < policy.maxInputPrecision) := by
  obtain ⟨policy, result, text, accepted, -, -, -, produced, valid, isDecimal, isText, denotes⟩ :=
    exists_twoPlaceZero
  exact ⟨policy, result, produced,
    readInput_produced_iff accepted produced valid isDecimal isText denotes (by simp)⟩

/-- Zero is written with four places, which the same policy rejects as an input. -/
theorem exists_rejected_result :
    ∃ (policy : RoundingPolicy) (result : ValueDict) (text : String),
      validateRoundingPolicy twoPlaceInputPolicy true = .ok policy ∧
      ProducedUnder twoPlaceInputPolicy result ∧ result.state = .valid ∧
      result.value = .text text ∧ Denotes text 0 ∧
      readInput result.toJson "zero" policy = .error (.finance .roundingInputScaleExceeded) := by
  obtain ⟨policy, result, text, accepted, scale, inputScale, precision, produced, valid, isDecimal,
    isText, denotes⟩ := exists_twoPlaceZero
  have printed := isPrinted_of_producedUnder accepted produced valid
  obtain ⟨d, places, number⟩ := (printed.number valid isDecimal).printed
  have zero : d.coefficient = 0 := by
    obtain rfl := Encoded.text.inj (isText.symm.trans number)
    exact Decimal.toRat_eq_zero_iff.mp (eq_of_denotes_formatF denotes)
  refine ⟨policy, result, text, accepted, produced, valid, isText, denotes,
    readInput_printed_of_lt printed valid isDecimal places number ?_ (by omega)⟩
  rw [scale, precision, zero]
  decide

end Finance
end QuantumAnalytics
