import QuantumAnalytics.Finance.NumberTexts

/-!
# The codec of typed values

A written value is read back as the same value. A number is written without the
trailing zeros of its fraction, or at a given scale.
-/

namespace QuantumAnalytics
namespace Finance

/-! ### Trailing zeros -/

namespace NumberText

/-- The parts without trailing zeros of the fraction. -/
def strip (parts : NumberText) : NumberText :=
  { parts with fraction := (parts.fraction.reverse.dropWhile fun c => c = '0').reverse }

/-- The fraction is the stripped one and zeros. -/
theorem exists_fraction_eq (parts : NumberText) :
    ∃ zeros, parts.fraction = parts.strip.fraction ++ List.replicate zeros '0' := by
  have split := List.takeWhile_append_dropWhile (p := fun c : Char => c = '0')
    (l := parts.fraction.reverse)
  have allZero : ∀ c ∈ parts.fraction.reverse.takeWhile fun c => c = '0', c = '0' := by
    intro c listed
    simpa using List.mem_takeWhile_imp listed
  refine ⟨(parts.fraction.reverse.takeWhile fun c => c = '0').length, ?_⟩
  rw [← List.reverse_replicate, ← List.eq_replicate_of_mem allZero, strip,
    ← List.reverse_append, split, List.reverse_reverse]

theorem strip_wellFormed
    {parts : NumberText}
    (wellFormed : parts.WellFormed) : parts.strip.WellFormed := by
  obtain ⟨zeros, split⟩ := parts.exists_fraction_eq
  refine ⟨wellFormed.whole, wellFormed.wholeDigits, fun c listed => wellFormed.fractionDigits c ?_⟩
  rw [split]
  exact List.mem_append_left _ listed

theorem length_digits_strip_le (parts : NumberText) :
    parts.strip.digits.length ≤ parts.digits.length := by
  obtain ⟨zeros, split⟩ := parts.exists_fraction_eq
  have lengths := congrArg List.length split
  rw [List.length_append, List.length_replicate] at lengths
  simp only [digits, List.length_append, strip] at lengths ⊢
  omega

/-- Trailing zeros do not change the number. -/
theorem toRat_strip (parts : NumberText) : parts.strip.toDecimal.toRat = parts.toDecimal.toRat := by
  obtain ⟨zeros, split⟩ := parts.exists_fraction_eq
  have value : Decimal.digitsValue parts.digits =
      10 ^ zeros * Decimal.digitsValue parts.strip.digits := by
    have appended := Nat.ofDigitChars_append (b := 10) (l := parts.strip.digits)
      (m := List.replicate zeros '0') 0
    rw [Nat.ofDigitChars_replicate_zero] at appended
    rw [digits, split, ← List.append_assoc]
    exact appended
  have lengths : parts.fraction.length = parts.strip.fraction.length + zeros := by
    rw [split, List.length_append, List.length_replicate]
  simp only [Decimal.toRat, toDecimal, value, lengths]
  have power : (10 : ℚ) ^ (-((parts.strip.fraction.length + zeros : ℕ) : ℤ)) * 10 ^ zeros =
      10 ^ (-(parts.strip.fraction.length : ℤ)) := by
    rw [← zpow_natCast (10 : ℚ) zeros, ← zpow_add₀ (by norm_num)]
    congr 1
    push_cast
    ring
  rw [← power]
  push_cast
  simp only [strip]
  ring

/-- The sign and the whole part. -/
def front (parts : NumberText) : List Char :=
  if parts.negative then '-' :: parts.whole else parts.whole

theorem render_eq_front (parts : NumberText) :
    parts.render =
      if parts.fraction.isEmpty then parts.front else parts.front ++ '.' :: parts.fraction := by
  unfold render unsigned front
  cases parts.negative <;> cases parts.fraction <;> rfl

/-- The last character in front of the point is a digit. -/
theorem exists_front_reverse
    {parts : NumberText}
    (wellFormed : parts.WellFormed) :
    ∃ c rest, parts.front.reverse = c :: rest ∧ c ≠ '.' := by
  have nonempty : parts.whole.reverse ≠ [] := by
    have whole := wellFormed.whole
    intro empty
    rw [List.reverse_eq_nil_iff] at empty
    rw [empty] at whole
    exact absurd whole (by decide)
  obtain ⟨c, rest, isLast⟩ := List.exists_cons_of_ne_nil nonempty
  have isDigit : c.isDigit = true :=
    wellFormed.wholeDigits c (List.mem_reverse.mp (isLast ▸ List.mem_cons_self))
  refine ⟨c, rest ++ (if parts.negative then ['-'] else []), ?_, ?_⟩
  · unfold front
    cases parts.negative <;> simp [isLast]
  · rintro rfl
    exact absurd isDigit (by decide)

/-- What is left of a text with a point. -/
theorem strip_render
    {parts : NumberText}
    (wellFormed : parts.WellFormed)
    (fraction : parts.fraction ≠ []) :
    ((parts.render.reverse.dropWhile fun c => c = '0').dropWhile fun c => c = '.').reverse =
      parts.strip.render := by
  obtain ⟨last, rest, isLast, notPoint⟩ := exists_front_reverse wellFormed
  have isRender : parts.render.reverse =
      parts.fraction.reverse ++ '.' :: parts.front.reverse := by
    rw [render_eq_front, if_neg (by simpa using fraction)]
    simp
  have isFront : parts.strip.front = parts.front := rfl
  have isStripped : parts.strip.fraction.reverse =
      parts.fraction.reverse.dropWhile fun c => c = '0' := List.reverse_reverse _
  rw [isRender, List.dropWhile_append, render_eq_front, isFront, ← isStripped]
  cases kept : parts.strip.fraction.reverse with
  | nil =>
      have none : parts.strip.fraction = [] := List.reverse_eq_nil_iff.mp kept
      have pointStays : ('.' :: parts.front.reverse).dropWhile (fun c => c = '0') =
          '.' :: parts.front.reverse := rfl
      have pointGoes : ('.' :: parts.front.reverse).dropWhile (fun c => c = '.') =
          parts.front.reverse := by
        rw [List.dropWhile_cons_of_pos (by simp), isLast,
          List.dropWhile_cons_of_neg (by simpa using notPoint)]
      simp only [none, List.isEmpty_nil, if_true, pointStays, pointGoes, List.reverse_reverse]
  | cons c others =>
      have isKept : parts.strip.fraction = (c :: others).reverse := by
        rw [← kept, List.reverse_reverse]
      have isDigit : c.isDigit = true :=
        (strip_wellFormed wellFormed).fractionDigits c (by rw [isKept]; simp)
      have digitStays : ((c :: others) ++ '.' :: parts.front.reverse).dropWhile
          (fun c => c = '.') = (c :: others) ++ '.' :: parts.front.reverse := by
        rw [List.cons_append, List.dropWhile_cons_of_neg]
        rintro point
        rw [of_decide_eq_true point] at isDigit
        exact absurd isDigit (by decide)
      rw [if_neg (by simp), if_neg (by simp [isKept]), digitStays, isKept]
      simp

/-- Only a text with a fraction has a point. -/
theorem point_mem_render_iff
    {parts : NumberText}
    (wellFormed : parts.WellFormed) : '.' ∈ parts.render ↔ parts.fraction ≠ [] := by
  have noPoint : '.' ∉ parts.front := by
    have digits : '.' ∉ parts.whole := fun listed =>
      absurd (wellFormed.wholeDigits '.' listed) (by decide)
    unfold front
    cases parts.negative <;> simp [digits]
  rw [render_eq_front]
  cases parts.fraction <;> simp [noPoint]

end NumberText

/-! ### Number texts that are written -/

/-- The number that is written: zero has no sign. -/
def written (d : Decimal) : Decimal := if d.isZero then d.copyAbs else d

theorem toRat_written (d : Decimal) : (written d).toRat = d.toRat := by
  unfold written
  split_ifs with zero
  · rw [Decimal.isZero_iff] at zero
    rw [Decimal.toRat_eq_zero_iff.mpr zero, Decimal.toRat_eq_zero_iff]
    exact zero
  · rfl

/-- The parts of the text without a scale. -/
def plainParts (d : Decimal) : NumberText := (NumberText.ofDecimal (written d)).strip

theorem plainParts_wellFormed (d : Decimal) : (plainParts d).WellFormed :=
  NumberText.strip_wellFormed (NumberText.ofDecimal_wellFormed _)

theorem decimalText_none (d : Decimal) :
    decimalText d none = String.ofList (plainParts d).render := by
  have wellFormed := NumberText.ofDecimal_wellFormed (written d)
  have text : (written d).formatF.toList = (NumberText.ofDecimal (written d)).render := by
    rw [NumberText.formatF_eq_render, String.toList_ofList]
  have unfolded : decimalText d none =
      if '.' ∈ (written d).formatF.toList then
        String.ofList (((written d).formatF.toList.reverse.dropWhile fun c => c = '0').dropWhile
          fun c => c = '.').reverse
      else String.ofList (written d).formatF.toList := rfl
  rw [unfolded, text]
  by_cases whole : (NumberText.ofDecimal (written d)).fraction = []
  · rw [if_neg (mt (NumberText.point_mem_render_iff wellFormed).mp (not_not.mpr whole)), plainParts,
      NumberText.render_eq_front, NumberText.render_eq_front, NumberText.strip, whole]
    rfl
  · rw [if_pos ((NumberText.point_mem_render_iff wellFormed).mpr whole),
      NumberText.strip_render wellFormed whole, plainParts]

/-- The text without a scale is a number text that denotes the number. -/
theorem toRat_plainParts (d : Decimal) : (plainParts d).toDecimal.toRat = d.toRat := by
  rw [plainParts, NumberText.toRat_strip, NumberText.toRat_ofDecimal, toRat_written]

/-- A text shows zero with a minus sign. -/
def ShowsNegativeZero (text : String) : Prop :=
  ∃ parts, NumberText.matchDecimal? text.toList = some parts ∧ parts.negative = true ∧
    parts.toDecimal.toRat = 0

/-- The digits of the plain notation. -/
def plainDigits (d : Decimal) : List Char := (NumberText.ofDecimal d).digits

theorem plainDigits_written (d : Decimal) : plainDigits (written d) = plainDigits d := by
  unfold written plainDigits
  split
  · rw [NumberText.digits_ofDecimal, NumberText.digits_ofDecimal]
    rfl
  · rfl

/-- The text without a scale is read back. -/
theorem parseDecimal_decimalText
    {d : Decimal}
    {code : FinanceCode}
    {limit : Nat}
    (short : (plainDigits d).length ≤ limit) :
    ∃ read, parseDecimal (.str (decimalText d none)) code limit limit = .ok read ∧
      read.toRat = d.toRat := by
  have isText : NumberText.matchDecimal? (decimalText d none).toList = some (plainParts d) := by
    rw [decimalText_none, String.toList_ofList,
      NumberText.matchDecimal?_render (plainParts_wellFormed d)]
  have digits : (plainParts d).digits.length ≤ limit := by
    refine (NumberText.length_digits_strip_le _).trans ?_
    have same := plainDigits_written d
    unfold plainDigits at same short
    rw [same]
    exact short
  have fraction : (plainParts d).fraction.length ≤ limit := by
    have appended : (plainParts d).digits.length =
        (plainParts d).whole.length + (plainParts d).fraction.length := List.length_append
    omega
  refine ⟨(plainParts d).toDecimal, ?_, toRat_plainParts d⟩
  simp only [parseDecimal, text?, Checks.bind_eq_ok, Checks.requireSome_eq_ok, check_eq_ok,
    Checks.pure_eq_ok]
  exact ⟨_, rfl, _, isText, (), digits, (), fraction, rfl⟩

/-! ### Integer texts -/

/-- The parts of the text of an integer. -/
def integerParts (n : Int) : NumberText := ⟨n < 0, Nat.toDigits 10 n.natAbs, []⟩

theorem toString_eq_render (n : Int) : toString n = String.ofList (integerParts n).render := by
  cases n with
  | ofNat n =>
      rw [integerParts, NumberText.render, if_neg (by simp)]
      rfl
  | negSucc n =>
      rw [integerParts, NumberText.render, if_pos (by simp [Int.negSucc_lt_zero])]
      have written : toString (Int.negSucc n) =
          String.ofList ['-'] ++ String.ofList (Nat.toDigits 10 (n + 1)) := rfl
      rw [written, ← String.ofList_append]
      rfl

theorem integerParts_wellFormed (n : Int) : (integerParts n).WellFormed := by
  have plain := NumberText.ofDecimal_wellFormed (Decimal.ofInt n)
  have same : NumberText.ofDecimal (Decimal.ofInt n) = integerParts n := by
    rw [NumberText.ofDecimal, if_pos (by rfl)]
    simp [integerParts, Decimal.ofInt]
  rwa [same] at plain

theorem matchInteger?_toString (n : Int) :
    NumberText.matchInteger? (toString n).toList = some (integerParts n) := by
  rw [toString_eq_render, String.toList_ofList, NumberText.matchInteger?,
    NumberText.matchDecimal?_render (integerParts_wellFormed n)]
  rfl

theorem digits_integerParts (n : Int) : (integerParts n).digits = Nat.toDigits 10 n.natAbs :=
  List.append_nil _

theorem toInt_integerParts (n : Int) : (integerParts n).toInt = n := by
  rw [NumberText.toInt, digits_integerParts, digitsValue_toDigits, integerParts]
  by_cases negative : n < 0
  · simp only [negative, decide_true, RoundingMode.sign, if_true]
    omega
  · simp only [negative, decide_false, RoundingMode.sign, Bool.false_eq_true, if_false]
    omega

/-- The text of an integer is read back. -/
theorem parseInteger_toString
    {n : Int}
    {code : FinanceCode}
    {limit : Nat}
    (short : (Nat.toDigits 10 n.natAbs).length ≤ limit) :
    parseInteger (.str (toString n)) code limit = .ok n := by
  have digits : (integerParts n).digits.length ≤ limit := by
    rw [digits_integerParts]
    exact short
  simp only [parseInteger, text?, Checks.bind_eq_ok, Checks.requireSome_eq_ok, check_eq_ok,
    Checks.pure_eq_ok]
  exact ⟨_, rfl, _, matchInteger?_toString n, (), digits, toInt_integerParts n⟩

/-! ### Members of a written value -/

theorem strings?_map (texts : List String) : strings? (texts.map .str) = some texts := by
  induction texts with
  | nil => rfl
  | cons text texts inductionHypothesis =>
      rw [List.map_cons, strings?, inductionHypothesis]
      rfl

/-- Distinct nonempty source ids are read back. -/
theorem readSourceIds_map
    {sourceIds : List String}
    (nonempty : ∀ sourceId ∈ sourceIds, sourceId ≠ "")
    (distinct : sourceIds.Nodup) : readSourceIds (.arr (sourceIds.map .str)) = some sourceIds := by
  rw [readSourceIds, strings?_map, Option.filter_eq_some_iff]
  exact ⟨rfl, by simpa [distinct] using nonempty⟩

theorem nodup_sortedSet (sourceIds : List String) : (sortedSet sourceIds).Nodup :=
  (List.perm_insertionSort _ _).nodup_iff.mpr (List.nodup_dedup _)

/-- A signature is read back. -/
theorem validateSignature_written (signature : Signature) :
    validateSignature (.str signature.valueType.text) (.str signature.unit)
      (optionalText signature.currency) = .ok signature := by
  obtain ⟨valueType, unit, currency, unitNonempty, fits⟩ := signature
  have isCurrency : currency? (optionalText currency) = some currency := by
    cases currency <;> rfl
  have isType : lookUpOr ValueType.ofText? (.str valueType.text) .valueSignatureInvalid =
      .ok valueType := by
    rw [lookUpOr, lookUp, Checks.ok_bind, ValueType.ofText?_text]
    rfl
  have isUnit : requireSome (text? (.str unit)) (.finance .valueSignatureInvalid) =
      (.ok unit : Result String) := rfl
  simp only [validateSignature, isType, isUnit, Checks.ok_bind, isCurrency, dif_pos unitNonempty]
  exact dif_pos fits

/-! ### The round trip -/

/-- Payloads are equal, numbers numerically. -/
def Payload.Same : Payload → Payload → Prop
  | .number left, .number right => left.toRat = right.toRat
  | left, right => left = right

/-- Contents are equal, numbers numerically. -/
def Content.Same : Content → Content → Prop
  | .valid left, .valid right => left.Same right
  | left, right => left = right

/-- The digits of a number in plain notation. -/
def Payload.plainDigits : Payload → List Char
  | .number value => Finance.plainDigits value
  | .integer value => Nat.toDigits 10 value.natAbs
  | .truth _ => []

/-- A written payload is read back. -/
theorem readPayload_encodePayload
    {payload : Payload}
    {valueType : ValueType}
    (hasType : payload.hasType valueType = true)
    (short : payload.plainDigits.length ≤ maxDecimalInputPrecision) :
    ∃ read, readPayload valueType (encodePayload payload none).toJson = .ok read ∧
      payload.Same read ∧ read.hasType valueType = true := by
  cases payload with
  | number value =>
      obtain ⟨read, isRead, same⟩ :=
        @parseDecimal_decimalText value .valueDecimalInvalid maxDecimalInputPrecision short
      refine ⟨.number read, ?_, same.symm, hasType⟩
      have parsed : (parseDecimal (.str (decimalText value none)) .valueDecimalInvalid
          maxDecimalInputPrecision maxDecimalInputScale).map Payload.number = .ok (.number read) := by
        rw [show maxDecimalInputScale = maxDecimalInputPrecision from rfl, isRead]
        rfl
      cases valueType with
      | money => exact parsed
      | decimal => exact parsed
      | rate => exact parsed
      | integer => cases hasType
      | boolean => cases hasType
  | integer value =>
      obtain rfl : valueType = .integer := of_decide_eq_true hasType
      refine ⟨.integer value, ?_, rfl, rfl⟩
      have isRead := @parseInteger_toString value .valueTypeInvalid maxDecimalInputPrecision short
      change (parseInteger (.str (toString value)) .valueTypeInvalid
        maxDecimalInputPrecision).map Payload.integer = _
      rw [isRead]
      rfl
  | truth value =>
      obtain rfl : valueType = .boolean := of_decide_eq_true hasType
      exact ⟨.truth value, rfl, rfl, rfl⟩

/-- A written value is read back with one more source. -/
theorem valueFromDict_valueToDict
    {value : Value}
    {sourceId : String}
    (nonempty : ∀ other ∈ value.sourceIds, other ≠ "")
    (distinct : value.sourceIds.Nodup)
    (short : ∀ payload, value.payload? = some payload →
      payload.plainDigits.length ≤ maxDecimalInputPrecision) :
    ∃ read, valueFromDict (valueToDict value none).toJson sourceId = .ok read ∧
      read.signature = value.signature ∧ value.content.Same read.content ∧
      read.sourceIds = sortedSet (sourceId :: value.sourceIds) := by
  obtain ⟨signature, content, sourceIds, fits⟩ := value
  have isSignature := validateSignature_written signature
  have isSources := readSourceIds_map nonempty distinct
  cases content with
  | valid payload =>
      obtain ⟨read, isRead, same, hasType⟩ := readPayload_encodePayload fits (short payload rfl)
      refine ⟨⟨signature, .valid read, sortedSet (sourceId :: sourceIds), hasType⟩, ?_, rfl, same,
        rfl⟩
      simp only [valueFromDict, ValueDict.toJson, Checks.bind_eq_ok, check_eq_ok,
        Checks.requireSome_eq_ok, lookUpOr_eq_ok]
      exact ⟨(), rfl, signature, isSignature, .valid, ⟨"VALID", rfl, rfl⟩, sourceIds, isSources,
        Checks.bind_eq_ok.mpr ⟨(), check_eq_ok.mpr rfl, Checks.bind_eq_ok.mpr
          ⟨read, isRead, makeValid_eq_ok.mpr ⟨rfl, rfl, rfl⟩⟩⟩⟩
  | nonvalid state reasonCode =>
      have present : reasonCode ≠ "" := by simpa [Content.fits] using fits
      refine ⟨⟨signature, .nonvalid state reasonCode, sortedSet (sourceId :: sourceIds), fits⟩, ?_,
        rfl, rfl, rfl⟩
      simp only [valueFromDict, ValueDict.toJson, Checks.bind_eq_ok, check_eq_ok,
        Checks.requireSome_eq_ok, lookUpOr_eq_ok]
      have isReason : nonemptyString? (.str reasonCode) = some reasonCode := by
        simp [nonemptyString?, text?, present]
      exact ⟨(), rfl, signature, isSignature, .nonvalid state,
        ⟨_, rfl, ValueState.ofText?_text (.nonvalid state)⟩, sourceIds, isSources,
        Checks.bind_eq_ok.mpr ⟨(), check_eq_ok.mpr rfl, Checks.bind_eq_ok.mpr
          ⟨reasonCode, Checks.requireSome_eq_ok.mpr isReason,
            makeNonvalid_eq_ok.mpr ⟨rfl, rfl, rfl⟩⟩⟩⟩

/-! ### The texts -/

/-- The number that is written at a scale. -/
def scaled (d : Decimal) : Option Nat → Decimal
  | some scale => Decimal.rescale .halfEven (written d) (-scale)
  | none => written d

theorem decimalText_some (d : Decimal) (scale : Nat) :
    decimalText d (some scale) = (Decimal.rescale .halfEven (written d) (-scale)).formatF := rfl

/-- The parts of a decimal text. -/
theorem exists_decimalText_parts (d : Decimal) (scale : Option Nat) :
    ∃ parts, NumberText.matchDecimal? (decimalText d scale).toList = some parts ∧
      parts.negative = (scaled d scale).negative ∧
      parts.toDecimal.toRat = (scaled d scale).toRat := by
  cases scale with
  | none =>
      refine ⟨plainParts d, ?_, ?_, ?_⟩
      · rw [decimalText_none, String.toList_ofList,
          NumberText.matchDecimal?_render (plainParts_wellFormed d)]
      · rw [plainParts, NumberText.strip, NumberText.ofDecimal, scaled]
        split <;> rfl
      · rw [toRat_plainParts, scaled, toRat_written]
  | some scale =>
      refine ⟨NumberText.ofDecimal (scaled d (some scale)), ?_, ?_, NumberText.toRat_ofDecimal _⟩
      · rw [decimalText_some, NumberText.formatF_eq_render, String.toList_ofList,
          NumberText.matchDecimal?_render (NumberText.ofDecimal_wellFormed _)]
        rfl
      · rw [NumberText.ofDecimal]
        split <;> rfl

theorem toRat_neg_iff (d : Decimal) : d.toRat < 0 ↔ d.negative = true ∧ d.coefficient ≠ 0 := by
  have power : (0 : ℚ) < 10 ^ d.exponent := zpow_pos (by norm_num) _
  rw [← not_le, Decimal.toRat, mul_nonneg_iff_of_pos_right power]
  cases d.negative with
  | false => simp
  | true => simp

theorem negative_written_iff (d : Decimal) : (written d).negative = true ↔ d.toRat < 0 := by
  rw [toRat_neg_iff, written]
  split
  next zero =>
    rw [Decimal.isZero_iff] at zero
    simp [Decimal.copyAbs, zero]
  next nonzero =>
    rw [Decimal.isZero_iff] at nonzero
    simp [nonzero]

theorem negative_scaled (d : Decimal) (scale : Option Nat) :
    (scaled d scale).negative = (written d).negative := by
  cases scale with
  | none => rfl
  | some scale =>
      rw [scaled, Decimal.rescale]
      split <;> rfl

/-- A text shows a negative zero exactly when its scale rounds a negative number to
zero. -/
theorem showsNegativeZero_decimalText_iff (d : Decimal) (scale : Option Nat) :
    ShowsNegativeZero (decimalText d scale) ↔
      d.toRat < 0 ∧ (scaled d scale).toRat = 0 := by
  obtain ⟨parts, isText, negative, value⟩ := exists_decimalText_parts d scale
  unfold ShowsNegativeZero
  rw [isText]
  simp only [Option.some.injEq, exists_eq_left', negative, value, negative_scaled,
    negative_written_iff]

/-! ### The codec -/

/-- A value that a constructor makes from the given sources. -/
def BuiltFrom (sourceIds : List String) (value : Value) : Prop :=
  (∃ payload signature, makeValid payload signature sourceIds = .ok value) ∨
    ∃ state signature reasonCode, makeNonvalid state signature reasonCode sourceIds = .ok value

theorem BuiltFrom.sourceIds_eq
    {sourceIds : List String}
    {value : Value}
    (built : BuiltFrom sourceIds value) : value.sourceIds = sortedSet sourceIds := by
  rcases built with ⟨payload, signature, made⟩ | ⟨state, signature, reasonCode, made⟩
  · exact (makeValid_eq_ok.mp made).2.2
  · exact (makeNonvalid_eq_ok.mp made).2.2

/-- The own scale of a payload is at most the given one. -/
def Payload.FitsScale : Payload → Option Nat → Prop
  | .number value, some scale => -(scale : ℤ) ≤ value.exponent
  | _, _ => True

/-- What the codec guarantees of the text of a payload. -/
structure TextOf (payload : Payload) (scale : Option Nat) (text : String) : Prop where
  /-- An integer is written as an integer text. -/
  integer : ∀ n, payload = .integer n → ∃ parts,
    NumberText.matchInteger? text.toList = some parts ∧ parts.toInt = n
  /-- A number is written as a decimal text. -/
  number : (NumberText.matchDecimal? text.toList).isSome = true
  /-- A text that does not round a negative number to zero shows no negative zero. -/
  negativeZero : ShowsNegativeZero text ↔ ∃ value, payload = .number value ∧
    value.toRat < 0 ∧ (scaled value scale).toRat = 0
  /-- A number that fits the scale is not changed. -/
  exact : ∀ value, payload = .number value → payload.FitsScale scale → Denotes text value.toRat

/-- The text of a payload. -/
theorem textOf_encodePayload
    {payload : Payload}
    {scale : Option Nat}
    {text : String}
    (encoded : encodePayload payload scale = .text text) : TextOf payload scale text := by
  cases payload with
  | number value =>
      obtain rfl := Encoded.text.inj encoded
      obtain ⟨parts, isText, negative, isValue⟩ := exists_decimalText_parts value scale
      refine ⟨nofun, by rw [isText]; rfl, ?_, ?_⟩
      · rw [showsNegativeZero_decimalText_iff]
        simp
      · rintro _ ⟨⟩ fits
        cases scale with
        | none => exact ⟨parts, isText, isValue.trans (toRat_written value)⟩
        | some scale => exact denotes_decimalText fits
  | integer n =>
      obtain rfl := Encoded.text.inj encoded
      have isText := matchInteger?_toString n
      have isDecimal : NumberText.matchDecimal? (toString n).toList = some (integerParts n) :=
        (Option.filter_eq_some_iff.mp isText).1
      refine ⟨?_, by rw [isDecimal]; rfl, ?_, nofun⟩
      · rintro _ ⟨⟩
        exact ⟨integerParts n, isText, toInt_integerParts n⟩
      · refine iff_of_false ?_ (by simp)
        rintro ⟨parts, isParts, negative, zero⟩
        obtain rfl := Option.some.inj (isDecimal.symm.trans isParts)
        rw [Decimal.toRat_eq_zero_iff, NumberText.toDecimal, digits_integerParts,
          digitsValue_toDigits] at zero
        dsimp only at zero
        have below : n < 0 := of_decide_eq_true negative
        omega
  | truth value => cases encoded

/-- A value is read back as it was written, with one more source, and its text is a
number text that does not change a number that fits the scale; a negative zero is
shown only where the scale rounds a negative number to zero. -/
theorem valueToDict_valueFromDict
    {sourceIds : List String}
    {value : Value}
    {sourceId : String}
    (built : BuiltFrom sourceIds value)
    (nonempty : ∀ other ∈ sourceIds, other ≠ "")
    (short : ∀ payload, value.payload? = some payload → payload.plainDigits.length ≤ 1000) :
    (∃ read, valueFromDict (valueToDict value none).toJson sourceId = .ok read ∧
      read.signature = value.signature ∧ value.content.Same read.content ∧
      read.sourceIds = sortedSet (sourceId :: value.sourceIds)) ∧
    ∀ scale text, (valueToDict value scale).value = .text text →
      ∃ payload, value.payload? = some payload ∧ TextOf payload scale text := by
  have sources := built.sourceIds_eq
  refine ⟨valueFromDict_valueToDict ?_ ?_ short, ?_⟩
  · intro other listed
    rw [sources, mem_sortedSet] at listed
    exact nonempty other listed
  · rw [sources]
    exact nodup_sortedSet _
  · intro scale text isText
    cases present : value.payload? with
    | none => simp [valueToDict, present] at isText
    | some payload =>
        refine ⟨payload, rfl, textOf_encodePayload ?_⟩
        simpa [valueToDict, present] using isText

/-- An amount of minus a tenth of a cent. -/
def smallLoss : Value where
  signature := ⟨.money, "MONEY", some "RUB", moneyUnit_ne_empty, by decide⟩
  content := .valid (.number ⟨true, 1, -3⟩)
  sourceIds := ["row-1"]
  fits := rfl

theorem valueToDict_valueFromDict_smallLoss :
    BuiltFrom ["row-1"] smallLoss ∧
    (∃ read, valueFromDict (valueToDict smallLoss none).toJson "kernel" = .ok read ∧
      read.signature = smallLoss.signature ∧ smallLoss.content.Same read.content ∧
      read.sourceIds = sortedSet ["kernel", "row-1"]) ∧
    ∀ scale text, (valueToDict smallLoss scale).value = .text text →
      ∃ payload, smallLoss.payload? = some payload ∧ TextOf payload scale text := by
  have built : BuiltFrom ["row-1"] smallLoss := .inl ⟨_, _, makeValid_eq_ok.mpr ⟨rfl, rfl, rfl⟩⟩
  refine ⟨built, valueToDict_valueFromDict built (by decide) ?_⟩
  rintro payload ⟨⟩
  decide

/-- At two places the amount is written as a negative zero. -/
theorem showsNegativeZero_smallLoss :
    BuiltFrom ["row-1"] smallLoss ∧
    (∀ payload, smallLoss.payload? = some payload → payload.plainDigits.length ≤ 1000) ∧
    (valueToDict smallLoss (some 2)).value = .text "-0.00" ∧ ShowsNegativeZero "-0.00" := by
  refine ⟨.inl ⟨_, _, makeValid_eq_ok.mpr ⟨rfl, rfl, rfl⟩⟩, ?_, by decide,
    NumberText.mk true ['0'] ['0', '0'], rfl, rfl, ?_⟩
  · rintro payload ⟨⟩
    decide
  rw [Decimal.toRat_eq_zero_iff]
  decide

end Finance
end QuantumAnalytics
