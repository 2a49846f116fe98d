import QuantumAnalytics.Finance.Walks

/-!
# Type rules of the operators

What the signature check of an operation requires of the types: one rule for
each family of operators.
-/

namespace QuantumAnalytics
namespace Finance

namespace Operator

/-- `ADD`, `SUBTRACT`, `MIN` and `MAX`. -/
def isArithmetic : Operator → Bool
  | add => true
  | subtract => true
  | min => true
  | max => true
  | _ => false

/-- `NEGATE` and `ABS`. -/
def isSigned : Operator → Bool
  | negate => true
  | abs => true
  | _ => false

/-- `MULTIPLY` and `DIVIDE`. -/
def isScaling : Operator → Bool
  | multiply => true
  | divide => true
  | _ => false

/-- The comparisons. -/
def isComparison : Operator → Bool
  | equal => true
  | lessThan => true
  | lessOrEqual => true
  | greaterThan => true
  | greaterOrEqual => true
  | _ => false

end Operator

/-- The types of the arguments and of the result of an operator. -/
inductive TypeRule : Operator → List ValueType → ValueType → Prop
  /-- Arithmetic keeps the one numeric type of its arguments. -/
  | arithmetic
      {operator : Operator}
      {first : ValueType}
      {others : List ValueType}
      (family : operator.isArithmetic = true)
      (numeric : first.isNumeric = true)
      (same : ∀ other ∈ others, other = first)
      (arity : operator.arityFits (others.length + 1) = true) :
      TypeRule operator (first :: others) first
  /-- A sign operator keeps a numeric type. -/
  | signed
      {operator : Operator}
      {type : ValueType}
      (family : operator.isSigned = true)
      (numeric : type.isNumeric = true) : TypeRule operator [type] type
  /-- Products and quotients are of decimal types. -/
  | scaling
      {operator : Operator}
      {left right type : ValueType}
      (family : operator.isScaling = true)
      (leftDecimal : left.isDecimal = true)
      (rightDecimal : right.isDecimal = true)
      (decimal : type.isDecimal = true) : TypeRule operator [left, right] type
  /-- A choice has the type of its branches. -/
  | choice {type : ValueType} : TypeRule .ifThenElse [.boolean, type, type] type
  /-- A comparison is a truth value; only `EQUAL` compares truth values. -/
  | comparison
      {operator : Operator}
      {type : ValueType}
      (family : operator.isComparison = true)
      (comparable : operator = .equal ∨ type ≠ .boolean) :
      TypeRule operator [type, type] .boolean

theorem requireSame_eq_ok {first other : Signature} {done : Unit} :
    requireSame first other = .ok done ↔ other = first := by
  unfold requireSame
  simp only [Checks.bind_done_eq_ok, check_eq_ok]
  constructor
  · rintro ⟨type, unit, currency⟩
    exact Signature.ext type unit currency
  · rintro rfl
    exact ⟨rfl, rfl, rfl⟩

theorem requireCompatible_eq_ok {signatures : List Signature} {done : Unit} :
    requireCompatible signatures = .ok done ↔
      ∃ first others, signatures = first :: others ∧ ∀ other ∈ others, other = first := by
  cases signatures with
  | nil => simp [requireCompatible, raise]
  | cons first others =>
      simp [requireCompatible, Checks.forM_eq_ok, requireSame_eq_ok]

theorem validateArithmetic_result
    {signatures : List Signature}
    {declared : Signature}
    {done : Unit}
    (validated : validateArithmetic signatures declared = .ok done) :
    declared.valueType.isNumeric = true ∧ ∃ others, signatures = declared :: others ∧
      ∀ other ∈ others, other = declared := by
  unfold validateArithmetic at validated
  rw [Checks.bind_done_eq_ok, requireCompatible_eq_ok] at validated
  obtain ⟨⟨first, others, rfl, same⟩, checked⟩ := validated
  simp only [Checks.bind_done_eq_ok, check_eq_ok] at checked
  obtain ⟨numeric, rfl⟩ := checked
  exact ⟨numeric, others, rfl, same⟩

theorem multiplyResultSignature_result
    {left right result : Signature}
    (found : multiplyResultSignature left right = .ok result) :
    left.valueType.isDecimal = true ∧ right.valueType.isDecimal = true ∧
      result.valueType.isDecimal = true := by
  unfold multiplyResultSignature at found
  split at found
  all_goals
    first
    | cases found
    | rename_i leftType rightType
      simp only [Checks.bind_done_eq_ok, Checks.pure_eq_ok] at found
      obtain ⟨-, rfl⟩ := found
      simp [leftType, rightType, ValueType.isDecimal, Signature.dimensionless]

theorem divideResultSignature_result
    {left right result : Signature}
    (found : divideResultSignature left right = .ok result) :
    left.valueType.isDecimal = true ∧ right.valueType.isDecimal = true ∧
      result.valueType.isDecimal = true := by
  unfold divideResultSignature at found
  split at found
  · rename_i leftType rightType
    simp only [Checks.bind_done_eq_ok, Checks.pure_eq_ok] at found
    obtain ⟨-, -, rfl⟩ := found
    simp [leftType, rightType, ValueType.isDecimal, Signature.dimensionless]
  · rename_i leftType rightType
    simp only [Checks.bind_done_eq_ok, Checks.pure_eq_ok] at found
    obtain ⟨-, rfl⟩ := found
    simp [leftType, rightType, ValueType.isDecimal]
  · rename_i leftType rightType
    simp only [Checks.bind_done_eq_ok, Checks.pure_eq_ok] at found
    obtain ⟨-, rfl⟩ := found
    simp [leftType, rightType, ValueType.isDecimal, Signature.dimensionless]
  · cases found

/-- What the signature check requires of the types. -/
theorem typeRule_of_validateOperationSignature
    {operator : Operator}
    {signatures : List Signature}
    {declared : Signature}
    {done : Unit}
    (arity : operator.arityFits signatures.length = true)
    (validated : validateOperationSignature operator signatures declared = .ok done) :
    TypeRule operator (signatures.map Signature.valueType) declared.valueType := by
  have arithmetic : ∀ {operator : Operator}, operator.isArithmetic = true →
      operator.arityFits signatures.length = true →
        validateArithmetic signatures declared = .ok done →
          TypeRule operator (signatures.map Signature.valueType) declared.valueType := by
    intro operator family arity validated
    obtain ⟨numeric, others, rfl, same⟩ := validateArithmetic_result validated
    rw [List.map_cons]
    refine .arithmetic family numeric ?_ (by simpa using arity)
    intro type present
    obtain ⟨other, inOthers, rfl⟩ := List.mem_map.mp present
    rw [same other inOthers]
  have signed : ∀ {operator : Operator}, operator.isSigned = true → signatures.length = 1 →
        validateSigned signatures declared = .ok done →
          TypeRule operator (signatures.map Signature.valueType) declared.valueType := by
    intro operator family arity validated
    obtain ⟨first, rfl⟩ := List.length_eq_one_iff.mp arity
    simp only [validateSigned, check_eq_ok] at validated
    obtain ⟨numeric, rfl⟩ := validated
    exact .signed family numeric
  have comparison : ∀ {operator : Operator}, operator.isComparison = true →
        validateComparison operator signatures declared = .ok done →
          TypeRule operator (signatures.map Signature.valueType) declared.valueType := by
    intro operator family validated
    unfold validateComparison at validated
    split at validated
    · rename_i left right _
      simp only [Checks.bind_done_eq_ok, requireCompatible_eq_ok, check_eq_ok] at validated
      obtain ⟨⟨first, others, sameList, same⟩, rfl, comparable⟩ := validated
      obtain ⟨rfl, rfl⟩ := List.cons.inj sameList
      obtain rfl := same right List.mem_cons_self
      exact .comparison family comparable
    · cases validated
  cases operator with
  | add => exact arithmetic rfl arity validated
  | subtract => exact arithmetic rfl arity validated
  | min => exact arithmetic rfl arity validated
  | max => exact arithmetic rfl arity validated
  | negate => exact signed rfl (by simpa [Operator.arityFits] using arity) validated
  | abs => exact signed rfl (by simpa [Operator.arityFits] using arity) validated
  | multiply =>
      obtain ⟨left, right, rfl⟩ := List.length_eq_two.mp (by simpa [Operator.arityFits] using arity)
      simp only [validateOperationSignature, Checks.bind_eq_ok, check_eq_ok] at validated
      obtain ⟨result, found, rfl⟩ := validated
      obtain ⟨leftDecimal, rightDecimal, decimal⟩ := multiplyResultSignature_result found
      exact .scaling rfl leftDecimal rightDecimal decimal
  | divide =>
      obtain ⟨left, right, rfl⟩ := List.length_eq_two.mp (by simpa [Operator.arityFits] using arity)
      simp only [validateOperationSignature, Checks.bind_eq_ok, check_eq_ok] at validated
      obtain ⟨result, found, rfl⟩ := validated
      obtain ⟨leftDecimal, rightDecimal, decimal⟩ := divideResultSignature_result found
      exact .scaling rfl leftDecimal rightDecimal decimal
  | ifThenElse =>
      obtain ⟨condition, whenTrue, whenFalse, rfl⟩ :=
        List.length_eq_three.mp (by simpa [Operator.arityFits] using arity)
      simp only [validateOperationSignature, Checks.bind_done_eq_ok, check_eq_ok,
        requireCompatible_eq_ok] at validated
      obtain ⟨boolean, ⟨first, others, sameList, same⟩, rfl⟩ := validated
      obtain ⟨rfl, rfl⟩ := List.cons.inj sameList
      obtain rfl := same whenFalse List.mem_cons_self
      simp only [List.map_cons, List.map_nil, boolean]
      exact .choice
  | equal => exact comparison rfl validated
  | lessThan => exact comparison rfl validated
  | lessOrEqual => exact comparison rfl validated
  | greaterThan => exact comparison rfl validated
  | greaterOrEqual => exact comparison rfl validated

end Finance
end QuantumAnalytics
