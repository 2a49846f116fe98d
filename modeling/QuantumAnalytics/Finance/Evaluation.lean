import QuantumAnalytics.Finance.Expression
import QuantumAnalytics.Foundations.Dict

/-!
# Evaluation of safe expressions

The eager evaluator, which evaluates every argument of every operation, and the
evaluator that callers use: it evaluates the conditions of `IF` nodes first,
replaces each such node by its selected branch or by a synthetic variable that
carries the state of its condition, and evaluates what is left eagerly.
-/

namespace QuantumAnalytics
namespace Finance

/-! ### Operators on payloads -/

/-- The payload of a decimal operation. -/
def decimalPayload (outcome : Except DecimalSignal Decimal) : Result Payload :=
  match outcome with
  | .ok value => .ok (.number value)
  | .error signal => .error (.decimal signal)

/-- `left + right`. -/
def addPayloads (ctx : DecimalContext) : Payload → Payload → Result Payload
  | .number left, .number right => decimalPayload (Decimal.add ctx left right)
  | .integer left, .integer right => .ok (.integer (left + right))
  | _, _ => .error .typeError

/-- `left - right`. -/
def subtractPayloads (ctx : DecimalContext) : Payload → Payload → Result Payload
  | .number left, .number right => decimalPayload (Decimal.sub ctx left right)
  | .integer left, .integer right => .ok (.integer (left - right))
  | _, _ => .error .typeError

/-- `left < right`. -/
def payloadLess : Payload → Payload → Result Bool
  | .number left, .number right => .ok (Decimal.lt left right)
  | .integer left, .integer right => .ok (left < right)
  | _, _ => .error .typeError

/-- `left == right`. -/
def payloadEqual : Payload → Payload → Bool
  | .number left, .number right => Decimal.eq left right
  | .integer left, .integer right => left = right
  | .truth left, .truth right => left = right
  | _, _ => false

/-- `min(payloads)`: the first of the least. -/
def leastPayload (first : Payload) : List Payload → Result Payload
  | [] => .ok first
  | other :: others => do
      if (← payloadLess other first) = true then leastPayload other others
      else leastPayload first others

/-- `max(payloads)`: the first of the greatest. -/
def greatestPayload (first : Payload) : List Payload → Result Payload
  | [] => .ok first
  | other :: others => do
      if (← payloadLess first other) = true then greatestPayload other others
      else greatestPayload first others

/-- The sum from left to right. -/
def sumPayloads (ctx : DecimalContext) (total : Payload) : List Payload → Result Payload
  | [] => .ok total
  | other :: others => do sumPayloads ctx (← addPayloads ctx total other) others

/-- `-payload`. -/
def negatePayload (ctx : DecimalContext) : Payload → Result Payload
  | .number value => decimalPayload (Decimal.neg ctx value)
  | .integer value => .ok (.integer (-value))
  | .truth _ => .error .assertion

/-- `abs(payload)`. -/
def absPayload (ctx : DecimalContext) : Payload → Result Payload
  | .number value => decimalPayload (Decimal.abs ctx value)
  | .integer value => .ok (.integer |value|)
  | .truth _ => .error .assertion

/-- The result of a comparison operator. -/
def comparePayloads (operator : Operator) (left right : Payload) : Result Bool :=
  match operator with
  | .equal => .ok (payloadEqual left right)
  | .lessThan => payloadLess left right
  | .lessOrEqual => do return (← payloadLess left right) || payloadEqual left right
  | .greaterThan => payloadLess right left
  | _ => do return (← payloadLess right left) || payloadEqual left right

/-- What an operator makes of the payloads of its arguments. A division by zero
has no payload. -/
def computePayload (ctx : DecimalContext) (operator : Operator) (payloads : List Payload) :
    Result (Option Payload) :=
  match operator, payloads with
  | .add, first :: others => some <$> sumPayloads ctx first others
  | .subtract, left :: right :: _ => some <$> subtractPayloads ctx left right
  | .min, first :: others => some <$> leastPayload first others
  | .max, first :: others => some <$> greatestPayload first others
  | .negate, value :: _ => some <$> negatePayload ctx value
  | .abs, value :: _ => some <$> absPayload ctx value
  | .multiply, [.number left, .number right] =>
      some <$> decimalPayload (Decimal.mul ctx left right)
  | .multiply, _ => raise .expressionTypeMismatch
  | .divide, [.number left, .number right] =>
      if right.isZero = true then .ok none
      else some <$> decimalPayload (Decimal.div ctx left right)
  | .divide, _ => raise .expressionTypeMismatch
  | .ifThenElse, [.truth condition, whenTrue, whenFalse] =>
      .ok (some (if condition then whenTrue else whenFalse))
  | .ifThenElse, _ => .error .assertion
  | operator, [left, right] => (some ∘ .truth) <$> comparePayloads operator left right
  | _, _ => .error .valueError

/-- The value of an operation whose arguments are all `VALID`. -/
def applyOperator
    (ctx : DecimalContext)
    (operator : Operator)
    (values : List Value)
    (declared : Signature) : Result Value := do
  let sourceIds := values.flatMap Value.sourceIds
  match ← computePayload ctx operator (values.filterMap Value.payload?) with
  | some payload => makeValid payload declared sourceIds
  | none => makeNonvalid .blocked declared "EXPRESSION_DIVISION_BY_ZERO" sourceIds

/-! ### The eager evaluator -/

/-- The value of a literal. -/
def literalValue
    (policy : RoundingPolicy)
    (exactKeys : Bool)
    (value valueType unit currency : Json) : Result Value := do
  check (exactKeys = true) .expressionSchemaInvalid
  let declared ← validateSignature valueType unit currency
  match declared.valueType, value with
  | .boolean, .bool truth => makeValid (.truth truth) declared []
  | .boolean, _ => raise .expressionTypeMismatch
  | .integer, value => do
      let text ← requireSome (text? value) (.finance .expressionTypeMismatch)
      let parts ← requireSome (NumberText.matchInteger? text.toList)
        (.finance .expressionTypeMismatch)
      require (parts.digits.length ≤ PyText.maxIntDigits) .valueError
      makeValid (.integer parts.toInt) declared []
  | _, value => do
      makeValid (.number (← inputDecimal value policy .expressionNonFiniteLiteral)) declared []

/-- The value of a variable. -/
def variableValue
    (variableMap : List (String × Value))
    (dependencies : List String)
    (exactKeys : Bool)
    (name valueType unit currency : Json) : Result Value := do
  let name ← declaredName exactKeys name dependencies
  let actual ← requireSome (variableMap.lookup name) (.finance .expressionVariableUnknown)
  let declared ← validateSignature valueType unit currency
  check (declared.valueType = actual.signature.valueType) .expressionTypeMismatch
  check (declared.unit = actual.signature.unit) .expressionUnitMismatch
  check (declared.currency = actual.signature.currency) .expressionCurrencyMismatch
  return actual

/-- What an evaluation reads: the context of its decimal operations, the policy,
the typed variables and the declared dependencies. -/
structure Environment where
  /-- The ambient decimal context. -/
  ctx : DecimalContext
  /-- The accepted policy. -/
  policy : RoundingPolicy
  /-- The typed variables. -/
  variableMap : List (String × Value)
  /-- The declared dependencies. -/
  dependencies : List String

mutual

/-- The walk of the eager `evaluate_expression`. -/
def evaluateNode (env : Environment) : Node → Nat → Nat → Result (Value × Nat)
  | .literal exactKeys value valueType unit currency, depth, counter => do
      let counter ← enterNode depth counter
      return (← literalValue env.policy exactKeys value valueType unit currency, counter)
  | .variable exactKeys name valueType unit currency, depth, counter => do
      let counter ← enterNode depth counter
      return (← variableValue env.variableMap env.dependencies exactKeys name valueType unit currency,
        counter)
  | .operation exactKeys operator valueType unit currency arguments, depth, counter => do
      let counter ← enterNode depth counter
      let (operator, declared) ← operationHeader exactKeys operator valueType unit currency
        arguments.length
      let (values, counter) ← evaluateNodes env arguments (depth + 1) counter
      validateOperationSignature operator (values.map Value.signature) declared
      match propagate values declared with
      | some propagated => return (propagated, counter)
      | none => return (← applyOperator env.ctx operator values declared, counter)
  | .unlistedOperation exactKeys, depth, counter => do
      let _ ← enterNode depth counter
      check (exactKeys = true) .expressionSchemaInvalid
      raise .expressionLimitExceeded
  | .unknownKind, depth, counter => do
      let _ ← enterNode depth counter
      raise .expressionSchemaInvalid
  | .notMapping, depth, counter => do
      let _ ← enterNode depth counter
      raise .expressionSchemaInvalid

/-- The walk over a list of arguments. -/
def evaluateNodes (env : Environment) : List Node → Nat → Nat → Result (List Value × Nat)
  | [], _, counter => .ok ([], counter)
  | node :: nodes, depth, counter => do
      let (value, counter) ← evaluateNode env node depth counter
      let (values, counter) ← evaluateNodes env nodes depth counter
      return (value :: values, counter)

end

/-- The typed variables of an evaluation. -/
def typedVariables (policy : RoundingPolicy) : List (String × Json) → Result (List (String × Value))
  | [] => .ok []
  | (name, raw) :: entries => do
      let value ← normalizeValue (← valueFromDict raw name) policy
      return (name, value) :: (← typedVariables policy entries)

/-- Round the result of a walk and write it. -/
def finishEvaluation (policy : RoundingPolicy) (result : Value) : Result ValueDict :=
  match result.payload? with
  | some (.number value) => do
      let (rounded, scale) ← quantize value policy .ruleComponentResult result.signature.valueType
      return valueToDict (← makeValid (.number rounded) result.signature result.sourceIds)
        (some scale)
  | _ => .ok (valueToDict result none)

/-- The eager `evaluate_expression`, in an ambient decimal context. -/
def evaluateEager
    (ctx : DecimalContext)
    (expression : Node)
    (variableMap : Dict String Json)
    (dependencies : List String)
    (policy : Json) : Result ValueDict := do
  let policy ← validateRoundingPolicy policy true
  validateDependencies dependencies
  check (variableMap.keys.all (fun name => name ∈ dependencies) = true)
    .expressionDependencyUndeclared
  let typed ← typedVariables policy variableMap.entries
  let (result, _) ← evaluateNode ⟨ctx, policy, typed, dependencies⟩ expression 1 0
  finishEvaluation policy result

/-! ### Short-circuit evaluation -/

/-- `_SYNTHETIC_PREFIX`. -/
def syntheticPrefix : String := "if_state."

/-- A source that is not synthetic. -/
def isOwnSource (sourceId : String) : Bool :=
  !syntheticPrefix.toList.isPrefixOf sourceId.toList

/-- The working state of the short-circuit evaluator. -/
structure Resolution where
  /-- The variables, with the synthetic ones. -/
  variableMap : Dict String Json
  /-- The dependencies, with the synthetic ones. -/
  dependencies : List String
  /-- The sources of the conditions so far. -/
  conditionSources : List String
  /-- The synthetic names, one for each count below the counter. -/
  syntheticNames : List String
  /-- The number of synthetic variables. -/
  counter : Nat

/-- The name of a synthetic variable. -/
def syntheticName (counter : Nat) : String := syntheticPrefix ++ toString counter

/-- The `propagated` value of an `IF` node whose condition has no value. -/
def propagatedCondition
    (state : NonvalidState)
    (reasonCode : String)
    (sourceIds : List String)
    (valueType unit currency : Json) : Json :=
  .obj [("currency", currency),
    ("reason_code", .str (dependencyReason state reasonCode)),
    ("source_ids", .arr ((sourceIds.filter isOwnSource).map .str)),
    ("state", .str state.text),
    ("unit", unit),
    ("value", .null),
    ("value_type", valueType)]

/-- `register_nonvalid`. -/
def registerNonvalid (state : Resolution) (value valueType unit currency : Json) :
    Node × Resolution :=
  let name := syntheticName state.counter
  (.variable true (.str name) valueType unit currency,
    { state with
      variableMap := state.variableMap.set name value
      dependencies := state.dependencies ++ [name]
      syntheticNames := state.syntheticNames ++ [name]
      counter := state.counter + 1 })

/-- The node is an `IF`. -/
def isIf (operator : Json) : Bool := text? operator = some "IF"

mutual

/-- `resolve`: remove the `IF` nodes. The validator has checked that an `IF` has
three arguments. -/
def resolve (ctx : DecimalContext) (policy : Json) :
    Node → Resolution → Result (Node × Resolution)
  | .operation exactKeys operator valueType unit currency arguments, state =>
      if isIf operator = true then
        match arguments with
        | [condition, whenTrue, whenFalse] => do
            let (conditionAst, state) ← resolve ctx policy condition state
            let outcome ← evaluateEager ctx conditionAst state.variableMap state.dependencies policy
            let state := { state with
              conditionSources := state.conditionSources ++ outcome.sourceIds.filter isOwnSource }
            match outcome.state, outcome.reasonCode with
            | .nonvalid missing, some reasonCode =>
                return registerNonvalid state
                  (propagatedCondition missing reasonCode outcome.sourceIds valueType unit currency)
                  valueType unit currency
            | .nonvalid _, none => raise .typedValueMalformed
            | .valid, _ =>
                match outcome.signature.valueType, outcome.value with
                | .boolean, .flag true => resolve ctx policy whenTrue state
                | .boolean, .flag false => resolve ctx policy whenFalse state
                | _, _ => raise .expressionTypeMismatch
        | _ => .error .indexError
      else do
        let (arguments, state) ← resolveAll ctx policy arguments state
        return (.operation exactKeys operator valueType unit currency arguments, state)
  | .unlistedOperation _, _ => raise .expressionSchemaInvalid
  | .notMapping, _ => raise .expressionSchemaInvalid
  | node, state => .ok (node, state)

/-- `resolve` on a list of arguments. -/
def resolveAll (ctx : DecimalContext) (policy : Json) :
    List Node → Resolution → Result (List Node × Resolution)
  | [], state => .ok ([], state)
  | node :: nodes, state => do
      let (node, state) ← resolve ctx policy node state
      let (nodes, state) ← resolveAll ctx policy nodes state
      return (node :: nodes, state)

end

/-- The short-circuit `evaluate_expression`, in an ambient decimal context. -/
def evaluateLazy
    (ctx : DecimalContext)
    (expression : Node)
    (variableMap : Dict String Json)
    (dependencies : List String)
    (policy : Json) : Result ValueDict := do
  validateExpressionAst expression dependencies
  let (transformed, state) ← resolve ctx policy expression ⟨variableMap, dependencies, [], [], 0⟩
  let result ← evaluateEager ctx transformed state.variableMap state.dependencies policy
  let ownSources := result.sourceIds.filter fun source => source ∉ state.syntheticNames
  return { result with sourceIds := sortedSet (ownSources ++ state.conditionSources) }

/-- The public `evaluate_expression`. -/
def evaluateExpression
    (expression : Node)
    (variableMap : Dict String Json)
    (dependencies : List String)
    (policy : Json) : Result ValueDict := do
  let accepted ← validateRoundingPolicy policy true
  validateExpressionPolicyLimits expression accepted
  evaluateLazy (accepted.decimalContext maxExpressionNodes) expression variableMap dependencies policy

end Finance
end QuantumAnalytics
