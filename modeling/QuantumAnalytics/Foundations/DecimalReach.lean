import QuantumAnalytics.Foundations.DecimalExact

/-!
# Numbers that an expression can reach

A number that sums and products make of bounded inputs has a size that depends
on the number of nodes of the expression: every two nodes add one factor, and a
sum adds at most one digit for each of its terms.
-/

namespace QuantumAnalytics

/-- A number that an expression of some nodes can make of inputs with at most
`places` decimal places and a magnitude of at most `10 ^ digits`: a sum of
products of at most `degree` inputs, where the sums add `slack` digits. -/
def Reach (places digits nodes : Nat) (x : ℚ) : Prop :=
  ∃ degree slack, 1 ≤ degree ∧ 2 * degree + slack ≤ nodes + 1 ∧
    Sized (places * degree) (10 ^ (digits * degree + slack)) x

namespace Reach

variable {places digits nodes more : Nat} {x y : ℚ}

theorem leaf (sized : Sized places (10 ^ digits) x) : Reach places digits 1 x :=
  ⟨1, 0, le_rfl, le_rfl, by simpa using sized⟩

theorem mono
    (reach : Reach places digits nodes x)
    (le : nodes ≤ more) : Reach places digits more x := by
  obtain ⟨degree, slack, positive, few, sized⟩ := reach
  exact ⟨degree, slack, positive, by omega, sized⟩

theorem neg (reach : Reach places digits nodes x) : Reach places digits nodes (-x) := by
  obtain ⟨degree, slack, positive, few, sized⟩ := reach
  exact ⟨degree, slack, positive, few, sized.neg⟩

theorem abs (reach : Reach places digits nodes x) : Reach places digits nodes |x| := by
  rcases abs_choice x with same | opposite
  · rwa [same]
  · rw [opposite]
    exact reach.neg

/-- A sum has the larger degree and one digit more. -/
theorem add
    (left : Reach places digits nodes x)
    (right : Reach places digits more y) : Reach places digits (nodes + more) (x + y) := by
  obtain ⟨degree, slack, positive, few, sized⟩ := left
  obtain ⟨otherDegree, otherSlack, otherPositive, otherFew, otherSized⟩ := right
  have ten : (1 : ℚ) ≤ 10 := by norm_num
  refine ⟨max degree otherDegree, max slack otherSlack + 1, by omega, by omega, ?_⟩
  have places_le := Nat.mul_le_mul_left places (le_max_left degree otherDegree)
  have otherPlaces_le := Nat.mul_le_mul_left places (le_max_right degree otherDegree)
  have digits_le := Nat.mul_le_mul_left digits (le_max_left degree otherDegree)
  have otherDigits_le := Nat.mul_le_mul_left digits (le_max_right degree otherDegree)
  have first := sized.mono places_le (pow_le_pow_right₀ ten
    (show _ ≤ digits * max degree otherDegree + max slack otherSlack by omega))
  have second := otherSized.mono otherPlaces_le (pow_le_pow_right₀ ten
    (show _ ≤ digits * max degree otherDegree + max slack otherSlack by omega))
  refine (first.add second).mono le_rfl ?_
  have power : (0 : ℚ) < 10 ^ (digits * max degree otherDegree + max slack otherSlack) := by
    positivity
  rw [← add_assoc, pow_succ]
  linarith

theorem sub
    (left : Reach places digits nodes x)
    (right : Reach places digits more y) : Reach places digits (nodes + more) (x - y) := by
  rw [sub_eq_add_neg]
  exact left.add right.neg

/-- A product has the sum of the degrees. -/
theorem mul
    (left : Reach places digits nodes x)
    (right : Reach places digits more y) :
    Reach places digits (1 + (nodes + more)) (x * y) := by
  obtain ⟨degree, slack, positive, few, sized⟩ := left
  obtain ⟨otherDegree, otherSlack, otherPositive, otherFew, otherSized⟩ := right
  refine ⟨degree + otherDegree, slack + otherSlack, by omega, by omega, ?_⟩
  refine (sized.mul otherSized).mono (le_of_eq (Nat.mul_add _ _ _).symm) (le_of_eq ?_)
  rw [← pow_add]
  congr 1
  ring

/-- A precision for all nodes represents every number that they reach. -/
theorem representable
    {ctx : DecimalContext}
    {half : Nat}
    (reach : Reach places digits nodes x)
    (few : nodes ≤ 2 * half)
    (agree : places ≤ digits)
    (positiveDigits : 1 ≤ digits)
    (precise : digits * (2 * half) + 2 ≤ ctx.prec)
    (least : ctx.etiny + (places * half : ℕ) ≤ 0)
    (greatest : (digits * (2 * half) + 1 : ℕ) ≤ ctx.emax) : Decimal.Representable ctx x := by
  obtain ⟨degree, slack, positive, count, sized⟩ := reach
  have factors : degree ≤ half := by omega
  have placesBound := Nat.mul_le_mul_right degree agree
  have factorBound := Nat.mul_le_mul_left digits factors
  -- One digit of slack is paid for with half a factor.
  have total : 2 * (digits * degree) + slack ≤ digits * (2 * half) + 1 := by
    rcases Nat.eq_zero_or_pos slack with none | some
    · subst none
      nlinarith
    · have room : 2 * degree + slack ≤ 2 * half + 1 := by omega
      have product := Nat.mul_le_mul_left digits room
      nlinarith
  have smallPlaces : places * degree ≤ places * half := Nat.mul_le_mul_left places factors
  have covers : Decimal.Covers ctx (places * degree) (10 ^ (digits * degree + slack + 1)) := by
    refine Decimal.covers_of_digits (by omega) (by omega) ?_
    have : digits * degree + slack ≤ digits * (2 * half) + 1 := by omega
    push_cast at greatest ⊢
    have cast : ((digits * degree + slack : ℕ) : ℤ) ≤ (digits * (2 * half) + 1 : ℕ) := by
      exact_mod_cast this
    push_cast at cast
    linarith
  refine covers.of_sized sized le_rfl ?_
  rw [pow_succ]
  have power : (0 : ℚ) < 10 ^ (digits * degree + slack) := by positivity
  linarith

end Reach
end QuantumAnalytics
