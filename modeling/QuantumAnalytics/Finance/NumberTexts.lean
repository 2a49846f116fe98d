import Mathlib.Data.List.TakeWhile
import QuantumAnalytics.Foundations.DecimalExact
import QuantumAnalytics.Finance.Policy

/-!
# Texts of numbers

The text that `format(d, "f")` writes is a number text that is read back as the
same number. Its digits tell how large the number is and how many decimal
places it has, which is what the limits of a policy are about.
-/

namespace QuantumAnalytics
namespace Finance

/-! ### Digits -/

/-- Digits denote a number with at most as many digits. -/
theorem digitsValue_lt
    {digits : List Char}
    (allDigits : ∀ c ∈ digits, c.isDigit = true) :
    Decimal.digitsValue digits < 10 ^ digits.length := by
  suffices bounded : ∀ total, digits.foldl
      (fun total c => 10 * total + (c.toNat - '0'.toNat)) total <
        10 ^ digits.length * (total + 1) by
    simpa [Decimal.digitsValue] using bounded 0
  induction digits with
  | nil => simp
  | cons c digits inductionHypothesis =>
      intro total
      have digit : c.toNat - '0'.toNat < 10 := by
        have isDigit := allDigits c List.mem_cons_self
        simp only [Char.isDigit, Bool.and_eq_true, decide_eq_true_eq] at isDigit
        have upper : c.toNat ≤ 57 := UInt32.le_iff_toNat_le.mp isDigit.2
        have zero : '0'.toNat = 48 := rfl
        omega
      rw [List.foldl_cons, List.length_cons, pow_succ]
      refine (inductionHypothesis (fun d present => allDigits d (List.mem_cons_of_mem _ present))
        _).trans_le ?_
      rw [mul_assoc]
      exact Nat.mul_le_mul_left _ (by omega)

theorem length_toDigits (n : Nat) : (Nat.toDigits 10 n).length = Decimal.digitCount n := by
  have positive : 0 < (Nat.toDigits 10 n).length := Nat.length_toDigits_pos
  have same : ∀ {k : Nat}, 0 < k → ((Nat.toDigits 10 n).length ≤ k ↔ Decimal.digitCount n ≤ k) :=
    fun above => by rw [Nat.length_toDigits_le_iff (by decide) above, Decimal.digitCount_le_iff above]
  exact le_antisymm ((same (Decimal.digitCount_pos n)).mpr le_rfl) ((same positive).mp le_rfl)

@[simp] theorem digitsValue_toDigits (n : Nat) : Decimal.digitsValue (Nat.toDigits 10 n) = n :=
  Nat.ofDigitChars_ten_toDigits

/-! ### Number texts -/

namespace NumberText

/-- The text without its sign. -/
def unsigned (parts : NumberText) : List Char :=
  if parts.fraction.isEmpty then parts.whole else parts.whole ++ '.' :: parts.fraction

/-- The characters of a number text. -/
def render (parts : NumberText) : List Char :=
  if parts.negative then '-' :: parts.unsigned else parts.unsigned

/-- The parts are digits, and the whole part has no leading zero. -/
structure WellFormed (parts : NumberText) : Prop where
  /-- The whole part. -/
  whole : isWhole parts.whole = true
  /-- The whole part has digits. -/
  wholeDigits : ∀ c ∈ parts.whole, c.isDigit = true
  /-- The fraction has digits. -/
  fractionDigits : ∀ c ∈ parts.fraction, c.isDigit = true

/-- The whole part ends before the point. -/
theorem span_unsigned
    {parts : NumberText}
    (wellFormed : parts.WellFormed) :
    parts.unsigned.takeWhile Char.isDigit = parts.whole ∧
      parts.unsigned.dropWhile Char.isDigit =
        if parts.fraction.isEmpty then [] else '.' :: parts.fraction := by
  have all := wellFormed.wholeDigits
  have point : ('.').isDigit = false := by decide
  unfold unsigned
  split_ifs
  · exact ⟨List.takeWhile_eq_self_iff.mpr all, List.dropWhile_eq_nil_iff.mpr all⟩
  · rw [List.takeWhile_append_of_pos all, List.dropWhile_append_of_pos all]
    simp [point]

/-- A well-formed text does not start with a sign. -/
theorem head?_unsigned
    {parts : NumberText}
    (wellFormed : parts.WellFormed) : parts.unsigned.head? ≠ some '-' := by
  have whole := wellFormed.whole
  have digits := wellFormed.wholeDigits
  unfold unsigned
  cases content : parts.whole with
  | nil =>
      rw [content] at whole
      simp [isWhole] at whole
  | cons first rest =>
      rw [content] at digits
      have minus : first ≠ '-' := by
        rintro rfl
        exact absurd (digits '-' List.mem_cons_self) (by decide)
      split_ifs <;> simpa using minus

/-- A rendered number text is split at its sign and its point. -/
theorem matchDecimal?_render
    {parts : NumberText}
    (wellFormed : parts.WellFormed) : matchDecimal? parts.render = some parts := by
  obtain ⟨whole, rest⟩ := span_unsigned wellFormed
  have signEq : (parts.render.head? = some '-') ↔ parts.negative = true := by
    unfold render
    cases negative : parts.negative with
    | false => simpa [negative] using head?_unsigned wellFormed
    | true => simp
  have unsignedEq : (if parts.render.head? = some '-' then parts.render.drop 1 else parts.render) =
      parts.unsigned := by
    simp only [signEq]
    unfold render unsigned
    cases parts.negative <;> simp
  unfold matchDecimal?
  simp only [signEq] at unsignedEq ⊢
  rw [unsignedEq, whole, rest]
  have fractionDigits := wellFormed.fractionDigits
  obtain ⟨negative, wholePart, fraction⟩ := parts
  cases fraction with
  | nil => simp [wellFormed.whole]
  | cons first fraction => simpa [wellFormed.whole] using fractionDigits

/-! ### The plain notation of a decimal -/

/-- The number of zeros before the digits of a small decimal. -/
def leadingZeros (d : Decimal) : Nat :=
  d.exponent.natAbs + 1 - (Nat.toDigits 10 d.coefficient).length

/-- The digits of a decimal with a fraction. -/
def paddedDigits (d : Decimal) : List Char :=
  List.replicate (leadingZeros d) '0' ++ Nat.toDigits 10 d.coefficient

/-- The parts of the plain notation. -/
def ofDecimal (d : Decimal) : NumberText :=
  if 0 ≤ d.exponent then
    ⟨d.negative, Nat.toDigits 10 d.coefficient ++
      List.replicate (if d.isZero then 0 else d.exponent.toNat) '0', []⟩
  else
    ⟨d.negative, (paddedDigits d).take ((paddedDigits d).length - d.exponent.natAbs),
      (paddedDigits d).drop ((paddedDigits d).length - d.exponent.natAbs)⟩

theorem length_paddedDigits (d : Decimal) :
    (paddedDigits d).length = max (d.exponent.natAbs + 1) (Decimal.digitCount d.coefficient) := by
  unfold paddedDigits leadingZeros
  rw [List.length_append, List.length_replicate, length_toDigits]
  omega

theorem isDigit_of_mem_toDigits
    {n : Nat}
    {c : Char}
    (present : c ∈ Nat.toDigits 10 n) : c.isDigit = true :=
  Nat.isDigit_of_mem_toDigits (by decide) (by decide) present

theorem isDigit_of_mem_paddedDigits
    {d : Decimal}
    {c : Char}
    (present : c ∈ paddedDigits d) : c.isDigit = true := by
  rcases List.mem_append.mp present with zero | digit
  · rw [List.eq_of_mem_replicate zero]
    decide
  · exact isDigit_of_mem_toDigits digit

/-- `format(d, "f")` renders the parts of the plain notation. -/
theorem formatF_eq_render (d : Decimal) : d.formatF = String.ofList (ofDecimal d).render := by
  unfold Decimal.formatF ofDecimal render unsigned
  dsimp only
  by_cases whole : 0 ≤ d.exponent
  · rw [if_pos whole, if_pos whole]
    simp
  · rw [if_neg whole, if_neg whole]
    have fraction : ((paddedDigits d).drop
        ((paddedDigits d).length - d.exponent.natAbs)).isEmpty = false := by
      rw [List.isEmpty_eq_false_iff, ne_eq, List.drop_eq_nil_iff, length_paddedDigits]
      omega
    simp only [fraction, Bool.false_eq_true, if_false]
    rfl

/-- The whole part of digits without a leading zero. -/
theorem isWhole_of_head?
    {digits : List Char}
    (nonempty : digits ≠ [])
    (noZero : digits.head? ≠ some '0') : isWhole digits = true := by
  cases digits with
  | nil => exact absurd rfl nonempty
  | cons first rest => simpa [isWhole] using Or.inr (by simpa using noZero)

theorem ofDecimal_wellFormed (d : Decimal) : (ofDecimal d).WellFormed := by
  unfold ofDecimal
  by_cases whole : 0 ≤ d.exponent
  · rw [if_pos whole]
    refine ⟨?_, ?_, nofun⟩
    · by_cases zero : d.coefficient = 0
      · simp [zero, Decimal.isZero, isWhole]
      · refine isWhole_of_head? (by simp [Nat.toDigits_ne_nil]) ?_
        rw [List.head?_append_of_ne_nil _ Nat.toDigits_ne_nil]
        exact Decimal.head?_toDigits (Nat.pos_of_ne_zero zero)
    · intro c present
      rcases List.mem_append.mp present with digit | zero
      · exact isDigit_of_mem_toDigits digit
      · rw [List.eq_of_mem_replicate zero]
        decide
  · rw [if_neg whole]
    refine ⟨?_, fun c present => isDigit_of_mem_paddedDigits (List.mem_of_mem_take present),
      fun c present => isDigit_of_mem_paddedDigits (List.mem_of_mem_drop present)⟩
    have length := length_paddedDigits d
    by_cases small : Decimal.digitCount d.coefficient ≤ d.exponent.natAbs
    · -- A number below one has the whole part zero.
      have one : (paddedDigits d).length - d.exponent.natAbs = 1 := by omega
      have zeros : leadingZeros d = (leadingZeros d - 1) + 1 := by
        unfold leadingZeros
        rw [length_toDigits]
        omega
      rw [one]
      unfold paddedDigits
      rw [zeros, List.replicate_succ]
      rfl
    · have none : leadingZeros d = 0 := by
        unfold leadingZeros
        rw [length_toDigits]
        omega
      have digits : paddedDigits d = Nat.toDigits 10 d.coefficient := by
        unfold paddedDigits
        rw [none, List.replicate_zero, List.nil_append]
      have positive : 0 < d.coefficient := by
        by_contra zero
        rw [Nat.eq_zero_of_not_pos zero] at small
        have one : Decimal.digitCount 0 = 1 := by decide
        omega
      refine isWhole_of_head? ?_ ?_
      · rw [ne_eq, List.take_eq_nil_iff]
        rintro (empty | nil)
        · omega
        · rw [nil] at length
          simp at length
          omega
      · rw [List.head?_take, if_neg (by omega), digits]
        exact Decimal.head?_toDigits positive

/-- The digits of the plain notation. -/
theorem digits_ofDecimal (d : Decimal) :
    (ofDecimal d).digits =
      if 0 ≤ d.exponent then Nat.toDigits 10 d.coefficient ++
        List.replicate (if d.isZero then 0 else d.exponent.toNat) '0'
      else paddedDigits d := by
  unfold ofDecimal digits
  split_ifs <;> simp

theorem length_fraction_ofDecimal (d : Decimal) :
    (ofDecimal d).fraction.length = (-d.exponent).toNat := by
  have length := length_paddedDigits d
  unfold ofDecimal
  by_cases whole : 0 ≤ d.exponent
  · rw [if_pos whole]
    simp only [List.length_nil]
    omega
  · rw [if_neg whole, List.length_drop]
    omega

theorem digitsValue_paddedDigits (d : Decimal) :
    Decimal.digitsValue (paddedDigits d) = d.coefficient := by
  have appended := Nat.ofDigitChars_append (b := 10) (l := List.replicate (leadingZeros d) '0')
    (m := Nat.toDigits 10 d.coefficient) 0
  rw [Nat.ofDigitChars_replicate_zero, mul_zero, Nat.ofDigitChars_ten_toDigits] at appended
  exact appended

/-- The plain notation denotes the number. -/
theorem toRat_ofDecimal (d : Decimal) : (ofDecimal d).toDecimal.toRat = d.toRat := by
  have value : ((Decimal.digitsValue (ofDecimal d).digits : ℕ) : ℚ) *
      10 ^ (-((ofDecimal d).fraction.length : ℤ)) = d.coefficient * 10 ^ d.exponent := by
    rw [digits_ofDecimal, length_fraction_ofDecimal]
    split_ifs with whole zero
    · have none : d.coefficient = 0 := by simpa using zero
      simp [none, show Decimal.digitsValue ['0'] = 0 from rfl]
    · have shifted : Decimal.digitsValue (Nat.toDigits 10 d.coefficient ++
          List.replicate d.exponent.toNat '0') = 10 ^ d.exponent.toNat * d.coefficient := by
        have appended := Nat.ofDigitChars_append (b := 10) (l := Nat.toDigits 10 d.coefficient)
          (m := List.replicate d.exponent.toNat '0') 0
        rw [Nat.ofDigitChars_replicate_zero, Nat.ofDigitChars_ten_toDigits] at appended
        exact appended
      have noFraction : (-d.exponent).toNat = 0 := by omega
      have natural : (10 : ℚ) ^ d.exponent = 10 ^ d.exponent.toNat := by
        rw [← zpow_natCast, Int.toNat_of_nonneg whole]
      rw [shifted, noFraction, natural]
      push_cast
      ring
    · have places : -(((-d.exponent).toNat : ℕ) : ℤ) = d.exponent := by omega
      rw [digitsValue_paddedDigits, places]
  have sign : (ofDecimal d).negative = d.negative := by
    unfold ofDecimal
    split_ifs <;> rfl
  unfold toDecimal Decimal.toRat
  rw [sign, mul_assoc, value, mul_assoc]

/-- The digits of a number text bound the number. -/
theorem abs_toDecimal_lt
    {parts : NumberText}
    (wellFormed : parts.WellFormed) :
    |parts.toDecimal.toRat| < 10 ^ (parts.digits.length - parts.fraction.length : ℤ) := by
  rw [Decimal.abs_toRat, zpow_sub₀ (by norm_num), zpow_natCast, zpow_natCast]
  have small : Decimal.digitsValue parts.digits < 10 ^ parts.digits.length := by
    refine digitsValue_lt fun c present => ?_
    rcases List.mem_append.mp present with whole | fraction
    · exact wellFormed.wholeDigits c whole
    · exact wellFormed.fractionDigits c fraction
  have smallRat : (Decimal.digitsValue parts.digits : ℚ) < 10 ^ parts.digits.length := by
    exact_mod_cast small
  have power : (0 : ℚ) < 10 ^ parts.fraction.length := by positivity
  simp only [toDecimal, zpow_neg, zpow_natCast, ← div_eq_mul_inv]
  exact div_lt_div_of_pos_right smallRat power

end NumberText

/-! ### Limits of a policy -/

/-- The plain notation is read within limits on its digits. -/
theorem parseDecimal_formatF
    {d parsed : Decimal}
    {code : FinanceCode}
    {maxPrecision maxScale : Nat}
    (succeeded : parseDecimal (.str d.formatF) code maxPrecision maxScale = .ok parsed) :
    |d.toRat| < 10 ^ maxPrecision ∧ -(maxScale : ℤ) ≤ d.exponent := by
  have wellFormed := NumberText.ofDecimal_wellFormed d
  unfold parseDecimal at succeeded
  simp only [text?, Checks.bind_eq_ok, Checks.requireSome_eq_ok, check_eq_ok,
    NumberText.formatF_eq_render] at succeeded
  obtain ⟨text, textEq, parts, matched, -, precise, -, scaled, -⟩ := succeeded
  obtain rfl := Option.some.inj textEq
  rw [String.toList_ofList, NumberText.matchDecimal?_render wellFormed] at matched
  obtain rfl := Option.some.inj matched
  have bounded := NumberText.abs_toDecimal_lt wellFormed
  rw [NumberText.toRat_ofDecimal] at bounded
  rw [NumberText.length_fraction_ofDecimal] at scaled
  constructor
  · refine bounded.trans_le ?_
    rw [← zpow_natCast]
    exact zpow_le_zpow_right₀ (by norm_num) (by omega)
  · omega

/-- The text of a number. -/
def Denotes (text : String) (x : ℚ) : Prop :=
  ∃ parts, NumberText.matchDecimal? text.toList = some parts ∧ parts.toDecimal.toRat = x

/-- The plain notation denotes the number. -/
theorem denotes_formatF (d : Decimal) : Denotes d.formatF d.toRat := by
  refine ⟨NumberText.ofDecimal d, ?_, NumberText.toRat_ofDecimal d⟩
  rw [NumberText.formatF_eq_render, String.toList_ofList,
    NumberText.matchDecimal?_render (NumberText.ofDecimal_wellFormed d)]

/-- A number that is written at a scale that it fits is not changed. -/
theorem denotes_decimalText
    {d : Decimal}
    {scale : Nat}
    (fits : -(scale : ℤ) ≤ d.exponent) : Denotes (decimalText d (some scale)) d.toRat := by
  obtain ⟨written, writtenEq, same, exponent⟩ : ∃ written : Decimal,
      (if d.isZero then d.copyAbs else d) = written ∧ written.toRat = d.toRat ∧
        written.exponent = d.exponent := by
    refine ⟨_, rfl, ?_, ?_⟩
    · split_ifs with zero
      · rw [Decimal.isZero_iff] at zero
        rw [Decimal.toRat_eq_zero_iff.mpr zero, Decimal.toRat_eq_zero_iff]
        exact zero
      · rfl
    · split_ifs <;> rfl
  have onGrid := written.onGrid (exponent ▸ fits)
  have text := denotes_formatF (Decimal.rescale .halfEven written (-scale))
  rw [Decimal.toRat_rescale, onGrid.atScale_eq, same] at text
  unfold decimalText
  simp only [writtenEq]
  exact text

end Finance
end QuantumAnalytics
