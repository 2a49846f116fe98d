import QuantumAnalytics.Finance.Evaluation

/-!
# Walks without counters

The walks of the validator and of the eager evaluator count the nodes that they
enter. On a tree within the limits the counts decide nothing: both walks are the
plain recursions of this module.
-/

namespace QuantumAnalytics
namespace Finance

/-! ### The extent of a tree -/

namespace Node

mutual

/-- The number of nodes. -/
def size : Node → Nat
  | .operation _ _ _ _ _ arguments => 1 + sizes arguments
  | _ => 1

/-- The number of nodes of some trees. -/
def sizes : List Node → Nat
  | [] => 0
  | node :: nodes => size node + sizes nodes

end

mutual

/-- The number of levels. -/
def height : Node → Nat
  | .operation _ _ _ _ _ arguments => 1 + heights arguments
  | _ => 1

/-- The number of levels of the highest of some trees. -/
def heights : List Node → Nat
  | [] => 0
  | node :: nodes => max (height node) (heights nodes)

end

theorem size_pos (node : Node) : 0 < node.size := by
  cases node <;> simp [size]

theorem height_pos (node : Node) : 0 < node.height := by
  cases node <;> simp [height]

end Node

theorem enterNode_eq_ok {depth counter next : Nat} :
    enterNode depth counter = .ok next ↔
      (counter + 1 ≤ maxExpressionNodes ∧ depth ≤ maxExpressionDepth) ∧ next = counter + 1 := by
  unfold enterNode
  simp only [Checks.bind_done_eq_ok, check_eq_ok, Checks.pure_eq_ok]
  exact and_congr_right' eq_comm

theorem enterNode_of_le
    {depth counter : Nat}
    (few : counter + 1 ≤ maxExpressionNodes)
    (shallow : depth ≤ maxExpressionDepth) : enterNode depth counter = .ok (counter + 1) :=
  enterNode_eq_ok.mpr ⟨⟨few, shallow⟩, rfl⟩

/-! ### Validation -/

mutual

/-- The signature of a tree whose nodes pass their checks. -/
def signatureOf (dependencies : List String) : Node → Result Signature
  | .literal exactKeys value valueType unit currency =>
      validateLiteral exactKeys value valueType unit currency
  | .variable exactKeys name valueType unit currency => do
      let _ ← declaredName exactKeys name dependencies
      validateSignature valueType unit currency
  | .operation exactKeys operator valueType unit currency arguments => do
      let (operator, declared) ← operationHeader exactKeys operator valueType unit currency
        arguments.length
      let signatures ← signaturesOf dependencies arguments
      validateOperationSignature operator signatures declared
      return declared
  | .unlistedOperation _ => raise .expressionLimitExceeded
  | .unknownKind => raise .expressionSchemaInvalid
  | .notMapping => raise .expressionSchemaInvalid

/-- The signatures of some trees. -/
def signaturesOf (dependencies : List String) : List Node → Result (List Signature)
  | [] => .ok []
  | node :: nodes => do
      let signature ← signatureOf dependencies node
      let signatures ← signaturesOf dependencies nodes
      return signature :: signatures

end

/-- The tree is within the limits when it is entered at a depth after some nodes. -/
structure WithinLimits (size height depth counter : Nat) : Prop where
  /-- The number of nodes. -/
  few : counter + size ≤ maxExpressionNodes
  /-- The number of levels. -/
  shallow : depth + height ≤ maxExpressionDepth + 1

mutual

/-- A validated tree has a signature and is within the limits. -/
theorem validateNode_result
    {dependencies : List String}
    {node : Node}
    {depth counter next : Nat}
    {signature : Signature}
    (validated : validateNode dependencies node depth counter = .ok (signature, next)) :
    signatureOf dependencies node = .ok signature ∧ next = counter + node.size ∧
      WithinLimits node.size node.height depth counter := by
  cases node with
  | literal exactKeys value valueType unit currency =>
      simp only [validateNode, Checks.bind_eq_ok, enterNode_eq_ok, Checks.pure_eq_ok,
        Prod.mk.injEq] at validated
      obtain ⟨_, ⟨⟨few, shallow⟩, rfl⟩, _, checked, rfl, rfl⟩ := validated
      exact ⟨checked, rfl, few, by simp [Node.height, shallow]⟩
  | «variable» exactKeys name valueType unit currency =>
      simp only [validateNode, Checks.bind_eq_ok, enterNode_eq_ok, Checks.pure_eq_ok,
        Prod.mk.injEq] at validated
      obtain ⟨_, ⟨⟨few, shallow⟩, rfl⟩, _, declared, _, checked, rfl, rfl⟩ := validated
      refine ⟨?_, rfl, few, by simp [Node.height, shallow]⟩
      simp only [signatureOf, Checks.bind_eq_ok]
      exact ⟨_, declared, checked⟩
  | operation exactKeys operator valueType unit currency arguments =>
      simp only [validateNode, Checks.bind_eq_ok, enterNode_eq_ok, Checks.pure_eq_ok,
        Prod.mk.injEq] at validated
      obtain ⟨_, ⟨⟨few, shallow⟩, rfl⟩, ⟨found, declared⟩, header, ⟨signatures, last⟩, walked,
        ⟨⟩, fits, rfl, rfl⟩ := validated
      obtain ⟨checked, rfl, limits⟩ := validateNodes_result few (by omega) walked
      refine ⟨?_, by simp [Node.size, Nat.add_assoc], ?_, ?_⟩
      · simp only [signatureOf, Checks.bind_eq_ok, Checks.pure_eq_ok]
        exact ⟨_, header, _, checked, _, fits, rfl⟩
      · have := limits.few
        simp only [Node.size]
        omega
      · have := limits.shallow
        simp only [Node.height]
        omega
  | unlistedOperation exactKeys =>
      simp [validateNode, raise] at validated
  | unknownKind => simp [validateNode, raise] at validated
  | notMapping => simp [validateNode, raise] at validated

theorem validateNodes_result
    {dependencies : List String}
    {nodes : List Node}
    {depth counter next : Nat}
    {signatures : List Signature}
    (few : counter ≤ maxExpressionNodes)
    (shallow : depth ≤ maxExpressionDepth + 1)
    (validated : validateNodes dependencies nodes depth counter = .ok (signatures, next)) :
    signaturesOf dependencies nodes = .ok signatures ∧ next = counter + Node.sizes nodes ∧
      WithinLimits (Node.sizes nodes) (Node.heights nodes) depth counter := by
  cases nodes with
  | nil =>
      obtain ⟨rfl, rfl⟩ := Prod.mk.inj (Except.ok.inj validated)
      exact ⟨rfl, rfl, few, by simpa [Node.heights] using shallow⟩
  | cons node nodes =>
      simp only [validateNodes, Checks.bind_eq_ok, Checks.pure_eq_ok, Prod.mk.injEq] at validated
      obtain ⟨⟨signature, middle⟩, first, ⟨rest, last⟩, others, rfl, rfl⟩ := validated
      obtain ⟨checked, rfl, limits⟩ := validateNode_result first
      have firstFew := limits.few
      have firstShallow := limits.shallow
      obtain ⟨checkedRest, rfl, restLimits⟩ := validateNodes_result firstFew shallow others
      have restFew := restLimits.few
      have restShallow := restLimits.shallow
      refine ⟨?_, by simp [Node.sizes, Nat.add_assoc], ?_, ?_⟩
      · simp only [signaturesOf, Checks.bind_eq_ok, Checks.pure_eq_ok]
        exact ⟨_, checked, _, checkedRest, rfl⟩
      · simp only [Node.sizes]
        omega
      · simp only [Node.heights]
        omega

end

/-! ### Evaluation -/

/-- The value of an operation with evaluated arguments. -/
def operationValue
    (ctx : DecimalContext)
    (operator : Operator)
    (values : List Value)
    (declared : Signature) : Result Value :=
  match propagate values declared with
  | some propagated => .ok propagated
  | none => applyOperator ctx operator values declared

mutual

/-- The value of a tree when every argument is evaluated. -/
def valueOf (env : Environment) : Node → Result Value
  | .literal exactKeys value valueType unit currency =>
      literalValue env.policy exactKeys value valueType unit currency
  | .variable exactKeys name valueType unit currency =>
      variableValue env.variableMap env.dependencies exactKeys name valueType unit currency
  | .operation exactKeys operator valueType unit currency arguments => do
      let (operator, declared) ← operationHeader exactKeys operator valueType unit currency
        arguments.length
      let values ← valuesOf env arguments
      validateOperationSignature operator (values.map Value.signature) declared
      operationValue env.ctx operator values declared
  | .unlistedOperation exactKeys => do
      check (exactKeys = true) .expressionSchemaInvalid
      raise .expressionLimitExceeded
  | .unknownKind => raise .expressionSchemaInvalid
  | .notMapping => raise .expressionSchemaInvalid

/-- The values of some trees. -/
def valuesOf (env : Environment) : List Node → Result (List Value)
  | [] => .ok []
  | node :: nodes => do
      let value ← valueOf env node
      let values ← valuesOf env nodes
      return value :: values

end

mutual

/-- Within the limits the walk of the evaluator has the value of the tree. -/
theorem evaluateNode_eq
    (env : Environment)
    (node : Node)
    {depth counter : Nat}
    (limits : WithinLimits node.size node.height depth counter) :
    evaluateNode env node depth counter =
      (valueOf env node).map fun value => (value, counter + node.size) := by
  have few := limits.few
  have shallow := limits.shallow
  have entered : enterNode depth counter = .ok (counter + 1) := by
    have size := node.size_pos
    have height := node.height_pos
    exact enterNode_of_le (by omega) (by omega)
  cases node with
  | literal exactKeys value valueType unit currency =>
      simp only [evaluateNode, entered, valueOf]
      cases literalValue env.policy exactKeys value valueType unit currency <;> rfl
  | «variable» exactKeys name valueType unit currency =>
      simp only [evaluateNode, entered, valueOf]
      cases variableValue env.variableMap env.dependencies exactKeys name valueType unit
        currency <;> rfl
  | operation exactKeys operator valueType unit currency arguments =>
      simp only [Node.size, Node.height] at few shallow
      have inner : WithinLimits (Node.sizes arguments) (Node.heights arguments) (depth + 1)
          (counter + 1) := ⟨by omega, by omega⟩
      simp only [evaluateNode, entered, valueOf, Checks.ok_bind, evaluateNodes_eq env arguments inner]
      cases operationHeader exactKeys operator valueType unit currency arguments.length with
      | error raised => rfl
      | ok header =>
          obtain ⟨operator, declared⟩ := header
          simp only [Checks.ok_bind]
          cases valuesOf env arguments with
          | error raised => rfl
          | ok values =>
              simp only [Checks.ok_bind, Except.map]
              cases validateOperationSignature operator (values.map Value.signature) declared with
              | error raised => rfl
              | ok done =>
                  simp only [Checks.ok_bind, operationValue, Node.size, Nat.add_assoc]
                  cases propagate values declared with
                  | some propagated => rfl
                  | none =>
                      cases applyOperator env.ctx operator values declared <;> rfl
  | unlistedOperation exactKeys =>
      simp only [evaluateNode, entered, valueOf]
      cases exactKeys <;> rfl
  | unknownKind =>
      simp only [evaluateNode, entered, valueOf]
      rfl
  | notMapping =>
      simp only [evaluateNode, entered, valueOf]
      rfl

theorem evaluateNodes_eq
    (env : Environment)
    (nodes : List Node)
    {depth counter : Nat}
    (limits : WithinLimits (Node.sizes nodes) (Node.heights nodes) depth counter) :
    evaluateNodes env nodes depth counter =
      (valuesOf env nodes).map fun values => (values, counter + Node.sizes nodes) := by
  have few := limits.few
  have shallow := limits.shallow
  cases nodes with
  | nil => rfl
  | cons node nodes =>
      simp only [Node.sizes, Node.heights] at few shallow
      rw [evaluateNodes, valuesOf, evaluateNode_eq env node ⟨by omega, by omega⟩]
      cases valueOf env node with
      | error raised => rfl
      | ok value =>
          simp only [Checks.ok_bind, Except.map]
          rw [evaluateNodes_eq env nodes ⟨by omega, by omega⟩]
          cases valuesOf env nodes with
          | error raised => rfl
          | ok values =>
              simp only [Checks.ok_bind, Except.map, Node.sizes, Nat.add_assoc]
              rfl

end

end Finance
end QuantumAnalytics
