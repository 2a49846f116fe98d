import Mathlib.Data.List.Induction
import Mathlib.Data.Nat.Digits.Defs
import Mathlib.Tactic.Ring

/-!
# Numerals

A numeral is read from the left: each digit is added to the base times what stands in
front of it. With the digits from one to the base every number has one numeral, of
whatever length. With the digits below the base the same holds of numerals that do
not begin with zero.
-/

namespace QuantumAnalytics
namespace Numerals

/-- The number that a numeral denotes. -/
def value (base : Nat) (digits : List Nat) : Nat :=
  digits.foldl (fun total digit => total * base + digit) 0

@[simp] theorem value_nil (base : Nat) : value base [] = 0 := rfl

@[simp] theorem value_append_singleton
    (base : Nat)
    (digits : List Nat)
    (digit : Nat) : value base (digits ++ [digit]) = value base digits * base + digit := by
  rw [value, List.foldl_append]
  rfl

theorem value_eq_ofDigits (base : Nat) (digits : List Nat) :
    value base digits = Nat.ofDigits base digits.reverse := by
  induction digits using List.reverseRecOn with
  | nil => rfl
  | append_singleton digits digit inductionHypothesis =>
      rw [value_append_singleton, inductionHypothesis, List.reverse_append, List.reverse_singleton,
        List.singleton_append, Nat.ofDigits_cons]
      ring

/-- A number has one numeral whose digits are at least one and at most the base. -/
theorem eq_of_value_eq_of_bijective
    {base : Nat}
    {left right : List Nat}
    (leftDigits : ∀ digit ∈ left, 1 ≤ digit ∧ digit ≤ base)
    (rightDigits : ∀ digit ∈ right, 1 ≤ digit ∧ digit ≤ base)
    (same : value base left = value base right) : left = right := by
  induction left using List.reverseRecOn generalizing right with
  | nil =>
      rcases List.eq_nil_or_concat right with rfl | ⟨others, last, rfl⟩
      · rfl
      · have isDigit := rightDigits last (by simp)
        rw [value_nil, List.concat_eq_append, value_append_singleton] at same
        omega
  | append_singleton digits digit inductionHypothesis =>
      have isDigit := leftDigits digit (by simp)
      rw [value_append_singleton] at same
      rcases List.eq_nil_or_concat right with rfl | ⟨others, last, rfl⟩
      · rw [value_nil] at same
        omega
      · rw [List.concat_eq_append] at rightDigits same ⊢
        have isLast := rightDigits last (by simp)
        rw [value_append_singleton] at same
        -- The last digits are less than the base apart.
        obtain ⟨samePrefix, sameDigit⟩ : value base digits = value base others ∧ digit = last := by
          rcases Nat.lt_trichotomy (value base digits) (value base others) with less | equal | more
          · have step := Nat.mul_le_mul_right base (Nat.succ_le_of_lt less)
            rw [Nat.succ_mul] at step
            omega
          · exact ⟨equal, by rw [equal] at same; omega⟩
          · have step := Nat.mul_le_mul_right base (Nat.succ_le_of_lt more)
            rw [Nat.succ_mul] at step
            omega
        have digitsKept : ∀ other ∈ digits, 1 ≤ other ∧ other ≤ base :=
          fun other listed => leftDigits other (List.mem_append_left _ listed)
        have othersKept : ∀ other ∈ others, 1 ≤ other ∧ other ≤ base :=
          fun other listed => rightDigits other (List.mem_append_left _ listed)
        rw [inductionHypothesis digitsKept othersKept samePrefix, sameDigit]

/-- A number has one numeral of digits below the base that does not begin with zero. -/
theorem eq_of_value_eq
    {base : Nat}
    (large : 1 < base)
    {left right : List Nat}
    (leftDigits : ∀ digit ∈ left, digit < base)
    (rightDigits : ∀ digit ∈ right, digit < base)
    (leftHead : left.head? ≠ some 0)
    (rightHead : right.head? ≠ some 0)
    (same : value base left = value base right) : left = right := by
  have restored : ∀ digits : List Nat, (∀ digit ∈ digits, digit < base) →
      digits.head? ≠ some 0 → Nat.digits base (value base digits) = digits.reverse := by
    intro digits areDigits noZero
    rw [value_eq_ofDigits]
    refine Nat.digits_ofDigits base large _ (fun digit listed =>
      areDigits digit (List.mem_reverse.mp listed)) fun nonempty isZero => noZero ?_
    rw [← List.getLast?_reverse, List.getLast?_eq_some_getLast nonempty, isZero]
  have reversed := restored right rightDigits rightHead
  rw [← same, restored left leftDigits leftHead] at reversed
  exact (List.reverse_inj.mp reversed)

end Numerals
end QuantumAnalytics
