import QuantumAnalytics.Finance.Policy

/-!
# Safe expressions

The syntax tree of a safe expression as the walks over its JSON document see
it, the signature rules of the operators, and the two checks that precede an
evaluation: the validation of the whole tree and the input limits of a policy.
Both count the nodes that they enter and stop at the limits on their number and
depth.
-/

namespace QuantumAnalytics
namespace Finance

/-! ### Syntax -/

/-- A node of an expression document. A node that is an object of a known kind
carries whether it has exactly the members of its kind; a member that it lacks
reads as `null`. -/
inductive Node
  | literal (exactKeys : Bool) (value valueType unit currency : Json)
  | variable (exactKeys : Bool) (name valueType unit currency : Json)
  | operation (exactKeys : Bool) (operator valueType unit currency : Json) (arguments : List Node)
  /-- An operation whose arguments are not a list. -/
  | unlistedOperation (exactKeys : Bool)
  /-- An object of another kind. -/
  | unknownKind
  /-- Not an object. -/
  | notMapping

namespace Node

/-- The members of a literal. -/
def literalKeys : List String := ["kind", "value", "value_type", "currency", "unit"]

/-- The members of a variable. -/
def variableKeys : List String := ["kind", "name", "value_type", "currency", "unit"]

/-- The members of an operation. -/
def operationKeys : List String :=
  ["kind", "operator", "value_type", "currency", "unit", "arguments"]

/-- A node from its members and its arguments, if they are a list. -/
def ofMembers (fields : JsonObject) (arguments : Option (List Node)) : Node :=
  match member fields "kind" with
  | .str "LITERAL" =>
      .literal (hasExactKeys fields literalKeys) (member fields "value")
        (member fields "value_type") (member fields "unit") (member fields "currency")
  | .str "VARIABLE" =>
      .variable (hasExactKeys fields variableKeys) (member fields "name")
        (member fields "value_type") (member fields "unit") (member fields "currency")
  | .str "OPERATION" =>
      match arguments with
      | some arguments =>
          .operation (hasExactKeys fields operationKeys) (member fields "operator")
            (member fields "value_type") (member fields "unit") (member fields "currency") arguments
      | none => .unlistedOperation (hasExactKeys fields operationKeys)
  | _ => .unknownKind

mutual

/-- The node of a JSON document. -/
def ofJson : Json → Node
  | .obj fields => ofMembers fields (argumentsOf fields)
  | _ => .notMapping

/-- The arguments among the members of a document, if they are a list. -/
def argumentsOf : JsonObject → Option (List Node)
  | [] => none
  | (key, value) :: fields => if key = "arguments" then listOf value else argumentsOf fields

/-- The nodes of a list. -/
def listOf : Json → Option (List Node)
  | .arr items => some (nodesOf items)
  | _ => none

/-- The nodes of the items of a list. -/
def nodesOf : List Json → List Node
  | [] => []
  | item :: items => ofJson item :: nodesOf items

end

end Node

/-- The operators. -/
inductive Operator
  | add
  | subtract
  | multiply
  | divide
  | negate
  | abs
  | min
  | max
  | ifThenElse
  | equal
  | lessThan
  | lessOrEqual
  | greaterThan
  | greaterOrEqual
  deriving DecidableEq

namespace Operator

/-- The operator of a text. -/
def ofText? : String → Option Operator
  | "ADD" => some add
  | "SUBTRACT" => some subtract
  | "MULTIPLY" => some multiply
  | "DIVIDE" => some divide
  | "NEGATE" => some negate
  | "ABS" => some abs
  | "MIN" => some min
  | "MAX" => some max
  | "IF" => some ifThenElse
  | "EQUAL" => some equal
  | "LESS_THAN" => some lessThan
  | "LESS_OR_EQUAL" => some lessOrEqual
  | "GREATER_THAN" => some greaterThan
  | "GREATER_OR_EQUAL" => some greaterOrEqual
  | _ => none

/-- `arity_rules`. -/
def arityFits (operator : Operator) (arity : Nat) : Bool :=
  match operator with
  | add => 2 ≤ arity
  | min => 2 ≤ arity
  | max => 2 ≤ arity
  | negate => arity = 1
  | abs => arity = 1
  | ifThenElse => arity = 3
  | _ => arity = 2

end Operator

/-- `_MAX_EXPRESSION_NODES`. -/
def maxExpressionNodes : Nat := 128

/-- `_MAX_EXPRESSION_DEPTH`. -/
def maxExpressionDepth : Nat := 24

/-- `_MAX_EXPRESSION_ARGUMENTS`. -/
def maxExpressionArguments : Nat := 16

/-- `_MAX_EXPRESSION_DEPENDENCIES`. -/
def maxExpressionDependencies : Nat := 128

/-! ### Signature rules -/

/-- `("DECIMAL", "DIMENSIONLESS", None)`. -/
def Signature.dimensionless : Signature where
  valueType := .decimal
  unit := "DIMENSIONLESS"
  currency := none
  unitNonempty := by decide
  currencyFits := rfl

/-- `("BOOLEAN", "BOOLEAN", None)`. -/
def Signature.boolean : Signature where
  valueType := .boolean
  unit := "BOOLEAN"
  currency := none
  unitNonempty := by decide
  currencyFits := rfl

/-- One comparison of `_require_compatible`. -/
def requireSame (first other : Signature) : Result Unit := do
  check (other.valueType = first.valueType) .expressionTypeMismatch
  check (other.unit = first.unit) .expressionUnitMismatch
  check (other.currency = first.currency) .expressionCurrencyMismatch

/-- `_require_compatible`. -/
def requireCompatible : List Signature → Result Unit
  | [] => raise .expressionArityInvalid
  | first :: others => others.forM (requireSame first)

/-- `_multiply_result_signature`. -/
def multiplyResultSignature (left right : Signature) : Result Signature :=
  match left.valueType, right.valueType with
  | .money, .rate => do
      check (right.unit = "RATE") .expressionUnitMismatch
      return left
  | .rate, .money => do
      check (left.unit = "RATE") .expressionUnitMismatch
      return right
  | .money, .decimal => do
      check (right.unit = "DIMENSIONLESS") .expressionUnitMismatch
      return left
  | .decimal, .money => do
      check (left.unit = "DIMENSIONLESS") .expressionUnitMismatch
      return right
  | .decimal, .decimal => do
      check (left.unit = "DIMENSIONLESS" ∧ right.unit = "DIMENSIONLESS") .expressionUnitMismatch
      return .dimensionless
  | _, _ => raise .expressionTypeMismatch

/-- `_divide_result_signature`. -/
def divideResultSignature (left right : Signature) : Result Signature :=
  match left.valueType, right.valueType with
  | .money, .money => do
      check (left.currency = right.currency) .expressionCurrencyMismatch
      check (left.unit = right.unit) .expressionUnitMismatch
      return .dimensionless
  | .money, .decimal => do
      check (right.unit = "DIMENSIONLESS") .expressionUnitMismatch
      return left
  | .decimal, .decimal => do
      check (left.unit = "DIMENSIONLESS" ∧ right.unit = "DIMENSIONLESS") .expressionUnitMismatch
      return .dimensionless
  | _, _ => raise .expressionTypeMismatch

/-- The rule of `ADD`, `SUBTRACT`, `MIN` and `MAX`. -/
def validateArithmetic (signatures : List Signature) (declared : Signature) : Result Unit := do
  requireCompatible signatures
  match signatures with
  | [] => .error .indexError
  | first :: _ =>
      check (first.valueType.isNumeric = true) .expressionTypeMismatch
      check (first = declared) .expressionTypeMismatch

/-- The rule of `NEGATE` and `ABS`. -/
def validateSigned (signatures : List Signature) (declared : Signature) : Result Unit :=
  match signatures with
  | [] => .error .indexError
  | first :: _ =>
      check (first.valueType.isNumeric = true ∧ first = declared) .expressionTypeMismatch

/-- The rule of the comparisons; only `EQUAL` compares booleans. -/
def validateComparison (operator : Operator) (signatures : List Signature) (declared : Signature) :
    Result Unit :=
  match signatures with
  | [left, right] => do
      requireCompatible [left, right]
      check (declared = .boolean) .expressionTypeMismatch
      check (operator = .equal ∨ left.valueType ≠ .boolean) .expressionTypeMismatch
  | _ => .error .valueError

/-- `_validate_operation_signature`. -/
def validateOperationSignature
    (operator : Operator)
    (signatures : List Signature)
    (declared : Signature) : Result Unit :=
  match operator with
  | .add => validateArithmetic signatures declared
  | .subtract => validateArithmetic signatures declared
  | .min => validateArithmetic signatures declared
  | .max => validateArithmetic signatures declared
  | .negate => validateSigned signatures declared
  | .abs => validateSigned signatures declared
  | .multiply =>
      match signatures with
      | left :: right :: _ => do
          check ((← multiplyResultSignature left right) = declared) .expressionTypeMismatch
      | _ => .error .indexError
  | .divide =>
      match signatures with
      | left :: right :: _ => do
          check ((← divideResultSignature left right) = declared) .expressionTypeMismatch
      | _ => .error .indexError
  | .ifThenElse =>
      match signatures with
      | [condition, whenTrue, whenFalse] => do
          check (condition.valueType = .boolean) .expressionTypeMismatch
          requireCompatible [whenTrue, whenFalse]
          check (whenTrue = declared) .expressionTypeMismatch
      | _ => .error .valueError
  | operator => validateComparison operator signatures declared

/-! ### Validation -/

/-- Enter a node: count it and stop at the limits. -/
def enterNode (depth counter : Nat) : Result Nat := do
  check (counter + 1 ≤ maxExpressionNodes ∧ depth ≤ maxExpressionDepth) .expressionLimitExceeded
  return counter + 1

/-- The checks of an operation before its arguments are walked: its operator and
its declared signature. -/
def operationHeader
    (exactKeys : Bool)
    (operator valueType unit currency : Json)
    (arity : Nat) : Result (Operator × Signature) := do
  check (exactKeys = true) .expressionSchemaInvalid
  check (arity ≤ maxExpressionArguments) .expressionLimitExceeded
  let operator ← lookUpOr Operator.ofText? operator .expressionOperatorForbidden
  check (operator.arityFits arity = true) .expressionArityInvalid
  let declared ← validateSignature valueType unit currency
  return (operator, declared)

/-- The name of a variable that is a declared dependency. -/
def declaredName (exactKeys : Bool) (name : Json) (dependencies : List String) : Result String := do
  check (exactKeys = true) .expressionSchemaInvalid
  let name ← requireSome ((text? name).filter isVariableName) (.finance .expressionSchemaInvalid)
  check (name ∈ dependencies) .expressionDependencyUndeclared
  return name

/-- The checks of a literal: its declared signature. -/
def validateLiteral (exactKeys : Bool) (value valueType unit currency : Json) :
    Result Signature := do
  check (exactKeys = true) .expressionSchemaInvalid
  let declared ← validateSignature valueType unit currency
  match declared.valueType, value with
  | .boolean, .bool _ => return declared
  | .boolean, _ => raise .expressionTypeMismatch
  | .integer, value =>
      let _ ← parseInteger value .expressionTypeMismatch maxDecimalInputPrecision
      return declared
  | _, value =>
      let _ ← parseDecimal value .expressionNonFiniteLiteral maxDecimalInputPrecision
        maxDecimalInputScale
      return declared

mutual

/-- The walk of `validate_expression_ast`, with the signature of the node's dummy
value. -/
def validateNode (dependencies : List String) : Node → Nat → Nat → Result (Signature × Nat)
  | .literal exactKeys value valueType unit currency, depth, counter => do
      let counter ← enterNode depth counter
      return (← validateLiteral exactKeys value valueType unit currency, counter)
  | .variable exactKeys name valueType unit currency, depth, counter => do
      let counter ← enterNode depth counter
      let _ ← declaredName exactKeys name dependencies
      return (← validateSignature valueType unit currency, counter)
  | .operation exactKeys operator valueType unit currency arguments, depth, counter => do
      let counter ← enterNode depth counter
      let (operator, declared) ← operationHeader exactKeys operator valueType unit currency
        arguments.length
      let (signatures, counter) ← validateNodes dependencies arguments (depth + 1) counter
      validateOperationSignature operator signatures declared
      return (declared, counter)
  | .unlistedOperation exactKeys, depth, counter => do
      let _ ← enterNode depth counter
      check (exactKeys = true) .expressionSchemaInvalid
      raise .expressionLimitExceeded
  | .unknownKind, depth, counter => do
      let _ ← enterNode depth counter
      raise .expressionSchemaInvalid
  | .notMapping, depth, counter => do
      let _ ← enterNode depth counter
      raise .expressionSchemaInvalid

/-- The walk over a list of arguments. -/
def validateNodes (dependencies : List String) :
    List Node → Nat → Nat → Result (List Signature × Nat)
  | [], _, counter => .ok ([], counter)
  | node :: nodes, depth, counter => do
      let (signature, counter) ← validateNode dependencies node depth counter
      let (signatures, counter) ← validateNodes dependencies nodes depth counter
      return (signature :: signatures, counter)

end

/-- The check of the declared dependencies. -/
def validateDependencies (dependencies : List String) : Result Unit :=
  check (dependencies.length ≤ maxExpressionDependencies ∧ dependencies.Nodup ∧
    dependencies.all isVariableName = true) .expressionDependencyUndeclared

/-- `validate_expression_ast`. Every value type is numeric or boolean, so the
final check of the source always passes. -/
def validateExpressionAst (expression : Node) (dependencies : List String) : Result Unit := do
  validateDependencies dependencies
  let _ ← validateNode dependencies expression 1 0

/-! ### Policy limits -/

mutual

/-- The walk of `validate_expression_policy_limits`. -/
def limitNode (policy : RoundingPolicy) : Node → Nat → Nat → Result Nat
  | .literal _ value valueType _ _, depth, counter => do
      let counter ← enterNode depth counter
      if text? valueType = some ValueType.integer.text then
        let _ ← parseInteger value .expressionTypeMismatch policy.maxInputPrecision
      return counter
  | .variable _ _ _ _ _, depth, counter => enterNode depth counter
  | .operation _ _ _ _ _ arguments, depth, counter => do
      let counter ← enterNode depth counter
      limitNodes policy arguments (depth + 1) counter
  | .unlistedOperation _, depth, counter => do
      let _ ← enterNode depth counter
      raise .expressionSchemaInvalid
  | .unknownKind, depth, counter => do
      let _ ← enterNode depth counter
      raise .expressionSchemaInvalid
  | .notMapping, depth, counter => do
      let _ ← enterNode depth counter
      raise .expressionSchemaInvalid

/-- The walk over a list of arguments. -/
def limitNodes (policy : RoundingPolicy) : List Node → Nat → Nat → Result Nat
  | [], _, counter => .ok counter
  | node :: nodes, depth, counter => do
      let counter ← limitNode policy node depth counter
      limitNodes policy nodes depth counter

end

/-- `validate_expression_policy_limits`. -/
def validateExpressionPolicyLimits (expression : Node) (policy : RoundingPolicy) : Result Unit := do
  let _ ← limitNode policy expression 1 0

end Finance
end QuantumAnalytics
