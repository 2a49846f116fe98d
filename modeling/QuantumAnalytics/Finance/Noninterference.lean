import QuantumAnalytics.Finance.PolicyClosure

/-!
# Noninterference of unselected branches

Two evaluations of an expression whose variables differ only inside branches that are
not selected. Every step of the short-circuit evaluator keeps a relation between the
two working states, so that both evaluations end with the same result or error.
-/

namespace QuantumAnalytics
namespace Finance

/-! ### Names -/

namespace Node

mutual

/-- The names of the variables of a tree. -/
def names : Node → List String
  | .variable _ name _ _ _ => (text? name).toList
  | .operation _ _ _ _ _ arguments => namesAll arguments
  | _ => []

/-- The names of the variables of some trees. -/
def namesAll : List Node → List String
  | [] => []
  | node :: nodes => names node ++ namesAll nodes

end

end Node

/-- The branch that the condition of an `IF` selects, and the state after the condition. -/
def selection (ctx : DecimalContext) (policy : Json) (condition : Node) (state : Resolution) :
    Option (Bool × Resolution) :=
  match resolve ctx policy condition state with
  | .error _ => none
  | .ok (conditionAst, state) =>
      match evaluateEager ctx conditionAst state.variableMap state.dependencies policy with
      | .error _ => none
      | .ok outcome =>
          match outcome.state, outcome.signature.valueType, outcome.value with
          | .valid, .boolean, .flag flag =>
              some (flag, { state with
                conditionSources :=
                  state.conditionSources ++ outcome.sourceIds.filter isOwnSource })
          | _, _, _ => none

mutual

/-- The names of the variables outside the branches that are not selected. Without a
`VALID` condition neither branch is selected. -/
def outsideNames (ctx : DecimalContext) (policy : Json) : Node → Resolution → List String
  | .variable _ name _ _ _, _ => (text? name).toList
  | .operation _ operator _ _ _ arguments, state =>
      if isIf operator = true then
        match arguments with
        | [condition, whenTrue, whenFalse] =>
            outsideNames ctx policy condition state ++
              match selection ctx policy condition state with
              | some (true, state) => outsideNames ctx policy whenTrue state
              | some (false, state) => outsideNames ctx policy whenFalse state
              | none => []
        | _ => []
      else outsideNamesAll ctx policy arguments state
  | _, _ => []

/-- The names outside the branches of some trees that are not selected. -/
def outsideNamesAll (ctx : DecimalContext) (policy : Json) : List Node → Resolution → List String
  | [], _ => []
  | node :: nodes, state =>
      outsideNames ctx policy node state ++
        match resolve ctx policy node state with
        | .ok (_, state) => outsideNamesAll ctx policy nodes state
        | .error _ => []

end

mutual

/-- The variables of an accepted tree are declared. -/
theorem mem_dependencies_of_validateNode
    {dependencies : List String}
    {node : Node}
    {depth counter next : Nat}
    {signature : Signature}
    (validated : validateNode dependencies node depth counter = .ok (signature, next)) :
    ∀ name ∈ node.names, name ∈ dependencies := by
  cases node with
  | «variable» exactKeys name valueType unit currency =>
      simp only [validateNode, declaredName, Checks.bind_eq_ok, Checks.requireSome_eq_ok,
        check_eq_ok, Checks.pure_eq_ok, Option.filter_eq_some_iff] at validated
      obtain ⟨_, -, declared, ⟨_, -, text, ⟨isText, -⟩, _, listed, rfl⟩, -⟩ := validated
      simpa [Node.names, isText] using listed
  | operation exactKeys operator valueType unit currency arguments =>
      simp only [validateNode, Checks.bind_eq_ok] at validated
      obtain ⟨_, -, _, -, ⟨signatures, last⟩, walked, -⟩ := validated
      exact mem_dependencies_of_validateNodes walked
  | literal exactKeys value valueType unit currency => nofun
  | unlistedOperation exactKeys => nofun
  | unknownKind => nofun
  | notMapping => nofun

theorem mem_dependencies_of_validateNodes
    {dependencies : List String}
    {nodes : List Node}
    {depth counter next : Nat}
    {signatures : List Signature}
    (validated : validateNodes dependencies nodes depth counter = .ok (signatures, next)) :
    ∀ name ∈ Node.namesAll nodes, name ∈ dependencies := by
  cases nodes with
  | nil => nofun
  | cons node nodes =>
      simp only [validateNodes, Checks.bind_eq_ok] at validated
      obtain ⟨⟨_, _⟩, first, ⟨_, _⟩, others, -⟩ := validated
      rw [Node.namesAll, List.forall_mem_append]
      exact ⟨mem_dependencies_of_validateNode first, mem_dependencies_of_validateNodes others⟩

end

/-! ### What an eager evaluation reads -/

/-- An entry that cannot be read as an input. -/
def isUnreadable (policy : RoundingPolicy) (entry : String × Json) : Bool :=
  (readInput entry.2 entry.1 policy).toOption.isNone

theorem not_isUnreadable_iff {policy : RoundingPolicy} {entry : String × Json} :
    isUnreadable policy entry = false ↔ ∃ value, readInput entry.2 entry.1 policy = .ok value := by
  unfold isUnreadable
  cases readInput entry.2 entry.1 policy <;> simp [Except.toOption]

theorem typedVariables_cons (policy : RoundingPolicy) (name : String) (raw : Json)
    (entries : List (String × Json)) :
    typedVariables policy ((name, raw) :: entries) = (do
      let value ← readInput raw name policy
      return (name, value) :: (← typedVariables policy entries)) := by
  rw [typedVariables, readInput]
  cases valueFromDict raw name <;> rfl

/-- Of entries that cannot all be read the first one raises. -/
theorem typedVariables_of_unreadable
    {policy : RoundingPolicy}
    {entries rest : List (String × Json)}
    {entry : String × Json}
    {raised : FinanceFailure}
    (first : entries.filter (isUnreadable policy) = entry :: rest)
    (raises : readInput entry.2 entry.1 policy = .error raised) :
    typedVariables policy entries = .error raised := by
  induction entries with
  | nil => cases first
  | cons other entries inductionHypothesis =>
      rw [typedVariables_cons policy other.1 other.2]
      cases readable : isUnreadable policy other with
      | true =>
          rw [List.filter_cons_of_pos readable] at first
          obtain ⟨rfl, -⟩ := List.cons.inj first
          rw [raises]
          rfl
      | false =>
          rw [List.filter_cons_of_neg (by simp [readable])] at first
          obtain ⟨value, read⟩ := not_isUnreadable_iff.mp readable
          rw [read, Checks.ok_bind, inductionHypothesis first]
          rfl

/-- Entries that can all be read are looked up and read. -/
theorem exists_typedVariables
    {policy : RoundingPolicy}
    {entries : List (String × Json)}
    (readable : entries.filter (isUnreadable policy) = []) :
    ∃ typed, typedVariables policy entries = .ok typed ∧ ∀ name, typed.lookup name =
      ((entries.find? fun entry => entry.1 = name).map Prod.snd).bind fun raw =>
        (readInput raw name policy).toOption := by
  induction entries with
  | nil => exact ⟨[], rfl, fun name => rfl⟩
  | cons entry entries inductionHypothesis =>
      obtain ⟨entryName, raw⟩ := entry
      have both := List.filter_eq_nil_iff.mp readable
      obtain ⟨value, read⟩ : ∃ value, readInput raw entryName policy = .ok value :=
        not_isUnreadable_iff.mp (Bool.eq_false_of_not_eq_true (both _ List.mem_cons_self))
      obtain ⟨typed, isTyped, lookups⟩ := inductionHypothesis
        (List.filter_eq_nil_iff.mpr fun other listed => both other (List.mem_cons_of_mem _ listed))
      refine ⟨(entryName, value) :: typed, ?_, fun name => ?_⟩
      · rw [typedVariables_cons, read, Checks.ok_bind, isTyped]
        rfl
      · rw [List.lookup_cons]
        by_cases same : entryName = name
        · subst same
          simp [read, Except.toOption]
        · have apart : (name == entryName) = false := by simpa using Ne.symm same
          rw [apart, lookups, List.find?_cons_of_neg (by simpa using same)]

theorem text_of_declaredName
    {exactKeys : Bool}
    {name : Json}
    {dependencies : List String}
    {text : String}
    (declared : declaredName exactKeys name dependencies = .ok text) : text? name = some text := by
  simp only [declaredName, Checks.bind_eq_ok, Checks.requireSome_eq_ok, Checks.pure_eq_ok,
    Option.filter_eq_some_iff] at declared
  obtain ⟨_, -, _, ⟨isText, -⟩, _, -, rfl⟩ := declared
  exact isText

theorem variableValue_congr
    {dependencies : List String}
    {first second : List (String × Value)}
    {exactKeys : Bool}
    {name valueType unit currency : Json}
    (same : ∀ text, text? name = some text → first.lookup text = second.lookup text) :
    variableValue first dependencies exactKeys name valueType unit currency =
      variableValue second dependencies exactKeys name valueType unit currency := by
  unfold variableValue
  cases declared : declaredName exactKeys name dependencies with
  | error raised => rfl
  | ok text =>
      rw [Checks.ok_bind, Checks.ok_bind, same text (text_of_declaredName declared)]

mutual

/-- An evaluation depends on the variables of the tree only. -/
theorem evaluateNode_congr
    {ctx : DecimalContext}
    {policy : RoundingPolicy}
    {dependencies : List String}
    {first second : List (String × Value)}
    {node : Node}
    {depth counter : Nat}
    (same : ∀ name ∈ node.names, first.lookup name = second.lookup name) :
    evaluateNode ⟨ctx, policy, first, dependencies⟩ node depth counter =
      evaluateNode ⟨ctx, policy, second, dependencies⟩ node depth counter := by
  cases node with
  | «variable» exactKeys name valueType unit currency =>
      have found : ∀ text, text? name = some text → first.lookup text = second.lookup text :=
        fun text isText => same text (by simp [Node.names, isText])
      simp only [evaluateNode, variableValue_congr found]
  | operation exactKeys operator valueType unit currency arguments =>
      have inner : ∀ name ∈ Node.namesAll arguments, first.lookup name = second.lookup name := same
      simp only [evaluateNode, evaluateNodes_congr inner]
  | literal exactKeys value valueType unit currency => rfl
  | unlistedOperation exactKeys => rfl
  | unknownKind => rfl
  | notMapping => rfl

theorem evaluateNodes_congr
    {ctx : DecimalContext}
    {policy : RoundingPolicy}
    {dependencies : List String}
    {first second : List (String × Value)}
    {nodes : List Node}
    {depth counter : Nat}
    (same : ∀ name ∈ Node.namesAll nodes, first.lookup name = second.lookup name) :
    evaluateNodes ⟨ctx, policy, first, dependencies⟩ nodes depth counter =
      evaluateNodes ⟨ctx, policy, second, dependencies⟩ nodes depth counter := by
  cases nodes with
  | nil => rfl
  | cons node nodes =>
      rw [Node.namesAll, List.forall_mem_append] at same
      simp only [evaluateNodes, evaluateNode_congr same.1, evaluateNodes_congr same.2]

end

/-! ### Variables that agree -/

section Agreement

variable {policy : RoundingPolicy} {differing : String → Prop} {first second : Dict String Json}

/-- Variables that are equal up to some names, whose values can be read; those that
cannot be read are listed in one order. -/
structure Agree (policy : RoundingPolicy) (differing : String → Prop)
    (first second : Dict String Json) : Prop where
  /-- Other names have equal values. -/
  same : ∀ name, ¬differing name → first.get? name = second.get? name
  /-- Values that cannot be read are equal. -/
  unreadable : first.entries.filter (isUnreadable policy) =
    second.entries.filter (isUnreadable policy)

/-- The typed variables are the same up to the differing names. -/
theorem Agree.typedVariables
    (agree : Agree policy differing first second) :
    (∃ raised, Finance.typedVariables policy first.entries = .error raised ∧
      Finance.typedVariables policy second.entries = .error raised) ∨
    ∃ typed others, Finance.typedVariables policy first.entries = .ok typed ∧
      Finance.typedVariables policy second.entries = .ok others ∧
      ∀ name, ¬differing name → typed.lookup name = others.lookup name := by
  cases unread : first.entries.filter (isUnreadable policy) with
  | nil =>
      obtain ⟨typed, isTyped, lookups⟩ := exists_typedVariables unread
      obtain ⟨others, isOthers, otherLookups⟩ := exists_typedVariables (agree.unreadable ▸ unread)
      refine .inr ⟨typed, others, isTyped, isOthers, fun name same => ?_⟩
      have found := agree.same name same
      unfold Dict.get? at found
      rw [lookups, otherLookups, found]
  | cons entry rest =>
      have listed : isUnreadable policy entry = true :=
        (List.mem_filter.mp (unread ▸ List.mem_cons_self)).2
      cases read : readInput entry.2 entry.1 policy with
      | ok value => simp [isUnreadable, read, Except.toOption] at listed
      | error raised =>
          exact .inl ⟨raised, typedVariables_of_unreadable unread read,
            typedVariables_of_unreadable (agree.unreadable ▸ unread) read⟩

theorem Agree.symm (agree : Agree policy differing first second) :
    Agree policy differing second first :=
  ⟨fun name same => (agree.same name same).symm, agree.unreadable.symm⟩

theorem Agree.keys_subset
    (agree : Agree policy differing first second)
    {dependencies : List String}
    (declared : ∀ name, differing name → name ∈ dependencies)
    (subset : ∀ name ∈ first.keys, decide (name ∈ dependencies) = true) :
    ∀ name ∈ second.keys, decide (name ∈ dependencies) = true := by
  intro name listed
  by_cases differs : differing name
  · exact decide_eq_true (declared name differs)
  · refine subset name (by_contra fun absent => ?_)
    have none := (agree.same name differs).symm.trans (Dict.get?_eq_none_iff.mpr absent)
    exact Dict.get?_eq_none_iff.mp none listed

/-- Agreement is kept when one new value is added to both. -/
theorem Agree.set
    (agree : Agree policy differing first second)
    {name : String}
    (firstAbsent : first.get? name = none)
    (secondAbsent : second.get? name = none)
    (raw : Json) : Agree policy differing (first.set name raw) (second.set name raw) where
  same := by
    intro other same
    rw [Dict.get?_set, Dict.get?_set, agree.same other same]
  unreadable := by
    rw [Dict.entries_set_of_get?_eq_none firstAbsent, Dict.entries_set_of_get?_eq_none secondAbsent,
      List.filter_append, List.filter_append, agree.unreadable]

end Agreement

/-- An eager evaluation of a tree without differing variables. -/
theorem evaluateEager_congr
    {ctx : DecimalContext}
    {node : Node}
    {document : Json}
    {dependencies : List String}
    {differing : String → Prop}
    {first second : Dict String Json}
    (agree : ∀ policy, validateRoundingPolicy document true = .ok policy →
      Agree policy differing first second)
    (declared : ∀ name, differing name → name ∈ dependencies)
    (free : ∀ name ∈ node.names, ¬differing name) :
    evaluateEager ctx node first dependencies document =
      evaluateEager ctx node second dependencies document := by
  unfold evaluateEager
  cases accepted : validateRoundingPolicy document true with
  | error raised => rfl
  | ok policy =>
      have agrees := agree policy accepted
      have keys : first.keys.all (fun name => name ∈ dependencies) =
          second.keys.all fun name => name ∈ dependencies := by
        rw [Bool.eq_iff_iff, List.all_eq_true, List.all_eq_true]
        exact ⟨agrees.keys_subset declared, agrees.symm.keys_subset declared⟩
      simp only [Checks.ok_bind, keys]
      rcases agrees.typedVariables with ⟨raised, isFirst, isSecond⟩ | ⟨typed, others, isFirst,
        isSecond, lookups⟩
      · rw [isFirst, isSecond]
      · simp only [isFirst, isSecond, Checks.ok_bind,
          evaluateNode_congr fun name listed => lookups name (free name listed)]

/-! ### Working states that agree -/

/-- Working states whose variables agree. With a repeated dependency every evaluation
raises, whatever the variables are. -/
structure Resolution.Related (document : Json) (differing : String → Prop)
    (first second : Resolution) : Prop where
  /-- The dependencies. -/
  dependencies : first.dependencies = second.dependencies
  /-- The sources of the conditions. -/
  conditionSources : first.conditionSources = second.conditionSources
  /-- The synthetic names. -/
  syntheticNames : first.syntheticNames = second.syntheticNames
  /-- The number of synthetic names. -/
  counter : first.counter = second.counter
  /-- The differing names are declared. -/
  declared : ∀ name, differing name → name ∈ first.dependencies
  /-- The variables agree. -/
  agree : first.dependencies.Nodup → ∀ policy, validateRoundingPolicy document true = .ok policy →
    Agree policy differing first.variableMap second.variableMap

section Related

variable {ctx : DecimalContext} {document : Json} {differing : String → Prop}
  {first second : Resolution}

theorem evaluateEager_of_repeated
    {node : Node}
    {variableMap others : Dict String Json}
    {dependencies : List String}
    (repeated : ¬dependencies.Nodup) :
    evaluateEager ctx node variableMap dependencies document =
      evaluateEager ctx node others dependencies document := by
  have raises : validateDependencies dependencies =
      .error (.finance .expressionDependencyUndeclared) := if_neg fun both => repeated both.2.1
  simp only [evaluateEager, raises]
  rfl

/-- Related states evaluate a tree without differing variables to the same. -/
theorem Resolution.Related.evaluateEager_eq
    (related : Resolution.Related document differing first second)
    {node : Node}
    (free : first.dependencies.Nodup → ∀ name ∈ node.names, ¬differing name) :
    evaluateEager ctx node first.variableMap first.dependencies document =
      evaluateEager ctx node second.variableMap second.dependencies document := by
  rw [← related.dependencies]
  by_cases distinct : first.dependencies.Nodup
  · exact evaluateEager_congr (related.agree distinct) related.declared (free distinct)
  · exact evaluateEager_of_repeated distinct

/-- The variables of an evaluation that returns are declared. -/
theorem keys_subset_of_evaluateEager
    {node : Node}
    {variableMap : Dict String Json}
    {dependencies : List String}
    {result : ValueDict}
    (evaluated : evaluateEager ctx node variableMap dependencies document = .ok result) :
    ∀ name ∈ variableMap.keys, name ∈ dependencies := by
  simp only [evaluateEager, Checks.bind_eq_ok, check_eq_ok] at evaluated
  obtain ⟨_, -, _, -, _, declared, -⟩ := evaluated
  exact fun name listed => of_decide_eq_true (List.all_eq_true.mp declared name listed)

/-- Adding the sources of a condition keeps states related. -/
theorem Resolution.Related.addSources
    (related : Resolution.Related document differing first second)
    (sources : List String) :
    Resolution.Related document differing
      { first with conditionSources := first.conditionSources ++ sources }
      { second with conditionSources := second.conditionSources ++ sources } where
  dependencies := related.dependencies
  conditionSources := by rw [related.conditionSources]
  syntheticNames := related.syntheticNames
  counter := related.counter
  declared := related.declared
  agree := related.agree

/-- Registering a missing value keeps states related. -/
theorem Resolution.Related.registerNonvalid
    (related : Resolution.Related document differing first second)
    (firstKeys : ∀ name ∈ first.variableMap.keys, name ∈ first.dependencies)
    (secondKeys : ∀ name ∈ second.variableMap.keys, name ∈ second.dependencies)
    (value valueType unit currency : Json) :
    (Finance.registerNonvalid first value valueType unit currency).1 =
      (Finance.registerNonvalid second value valueType unit currency).1 ∧
    Resolution.Related document differing
      (Finance.registerNonvalid first value valueType unit currency).2
      (Finance.registerNonvalid second value valueType unit currency).2 := by
  refine ⟨?_, ?_, related.conditionSources, ?_, ?_, ?_, ?_⟩
  · simp only [Finance.registerNonvalid, related.counter]
  · simp only [Finance.registerNonvalid, related.counter, related.dependencies]
  · simp only [Finance.registerNonvalid, related.counter, related.syntheticNames]
  · simp only [Finance.registerNonvalid, related.counter]
  · exact fun name differs => List.mem_append_left _ (related.declared name differs)
  · intro distinct policy accepted
    obtain ⟨distinctBefore, -, fresh⟩ := List.nodup_append.mp distinct
    have absent : syntheticName first.counter ∉ first.dependencies :=
      fun listed => fresh _ listed _ (List.mem_singleton_self _) rfl
    have agree := related.agree distinctBefore policy accepted
    simp only [Finance.registerNonvalid, ← related.counter]
    refine agree.set (Dict.get?_eq_none_iff.mpr ?_) (Dict.get?_eq_none_iff.mpr ?_) value
    · exact fun listed => absent (firstKeys _ listed)
    · exact fun listed => absent (related.dependencies ▸ secondKeys _ listed)

/-- Two outcomes of a step from related states: the same error, or trees without
differing variables, which are equal, and related states. -/
inductive SameOutcome {α : Type} (document : Json) (differing : String → Prop)
    (names : α → List String) (start : Resolution) :
    Result (α × Resolution) → Result (α × Resolution) → Prop
  | raised (raised : FinanceFailure) : SameOutcome document differing names start
      (.error raised) (.error raised)
  | returned
      {tree : α}
      {first second : Resolution}
      (related : Resolution.Related document differing first second)
      (extended : start.dependencies <+: first.dependencies)
      (free : first.dependencies.Nodup → ∀ name ∈ names tree, ¬differing name) :
      SameOutcome document differing names start (.ok (tree, first)) (.ok (tree, second))

theorem SameOutcome.prepend
    {α : Type}
    {names : α → List String}
    {start middle : Resolution}
    {left right : Result (α × Resolution)}
    (extended : start.dependencies <+: middle.dependencies)
    (same : SameOutcome document differing names middle left right) :
    SameOutcome document differing names start left right := by
  cases same with
  | raised raised => exact .raised raised
  | returned related further free => exact .returned related (extended.trans further) free

/-- A registered value is a tree with a name that does not differ. -/
theorem Resolution.Related.registered
    (related : Resolution.Related document differing first second)
    (firstKeys : ∀ name ∈ first.variableMap.keys, name ∈ first.dependencies)
    (secondKeys : ∀ name ∈ second.variableMap.keys, name ∈ second.dependencies)
    (value valueType unit currency : Json) :
    SameOutcome document differing Node.names first
      (.ok (Finance.registerNonvalid first value valueType unit currency))
      (.ok (Finance.registerNonvalid second value valueType unit currency)) := by
  obtain ⟨sameNode, after⟩ :=
    related.registerNonvalid firstKeys secondKeys value valueType unit currency
  have pair : Finance.registerNonvalid second value valueType unit currency =
      ((Finance.registerNonvalid first value valueType unit currency).1,
        (Finance.registerNonvalid second value valueType unit currency).2) :=
    Prod.ext sameNode.symm rfl
  rw [pair]
  refine .returned after (List.prefix_append _ _) fun distinct name listed differs => ?_
  obtain ⟨-, -, fresh⟩ := List.nodup_append.mp distinct
  obtain rfl : name = syntheticName first.counter := by
    simpa [Finance.registerNonvalid, Node.names, text?] using listed
  exact fresh _ (related.declared _ differs) _ (List.mem_singleton_self _) rfl

end Related

mutual

/-- The short-circuit evaluator keeps states related. -/
theorem resolve_sameOutcome
    {ctx : DecimalContext}
    {document : Json}
    {differing : String → Prop}
    {first second : Resolution}
    (related : Resolution.Related document differing first second)
    {node : Node}
    (outside : ∀ name ∈ outsideNames ctx document node first, ¬differing name) :
    SameOutcome document differing Node.names first (resolve ctx document node first)
      (resolve ctx document node second) := by
  cases node with
  | operation exactKeys operator valueType unit currency arguments =>
      by_cases choice : isIf operator = true
      · match arguments with
        | [condition, whenTrue, whenFalse] =>
            unfold outsideNames at outside
            rw [if_pos choice] at outside
            dsimp only at outside
            rw [List.forall_mem_append] at outside
            have head := resolve_sameOutcome related outside.1
            have later := outside.2
            unfold selection at later
            unfold resolve
            rw [if_pos choice, if_pos choice]
            dsimp only
            generalize resolve ctx document condition first = left at head later ⊢
            generalize resolve ctx document condition second = right at head ⊢
            cases head with
            | raised raised => exact .raised raised
            | @returned tree middle other same extended free =>
                have evaluation : evaluateEager ctx tree middle.variableMap middle.dependencies
                    document = evaluateEager ctx tree other.variableMap other.dependencies
                      document := same.evaluateEager_eq free
                simp only [Checks.ok_bind] at later ⊢
                rw [← evaluation]
                cases evaluated : evaluateEager ctx tree middle.variableMap middle.dependencies
                    document with
                | error raised => exact .raised raised
                | ok outcome =>
                    simp only [evaluated] at later
                    simp only [Checks.ok_bind]
                    have after := same.addSources (outcome.sourceIds.filter isOwnSource)
                    have firstKeys := keys_subset_of_evaluateEager evaluated
                    have secondKeys := keys_subset_of_evaluateEager (evaluation ▸ evaluated)
                    obtain ⟨state, value, signature, reasonCode, sourceIds⟩ := outcome
                    cases state with
                    | nonvalid missing =>
                        cases reasonCode with
                        | none => exact .raised _
                        | some reasonCode =>
                            refine .prepend ?_ (after.registered firstKeys secondKeys
                              (propagatedCondition missing reasonCode sourceIds valueType unit
                                currency) valueType unit currency)
                            exact extended
                    | valid =>
                        cases value with
                        | null => cases signature.valueType <;> exact .raised _
                        | text _ => cases signature.valueType <;> exact .raised _
                        | flag flag =>
                            cases typed : signature.valueType with
                            | boolean =>
                                simp only [typed] at later ⊢
                                cases flag with
                                | true =>
                                    refine .prepend ?_ (resolve_sameOutcome after later)
                                    exact extended
                                | false =>
                                    refine .prepend ?_ (resolve_sameOutcome after later)
                                    exact extended
                            | _ =>
                                simp only
                                exact .raised _
        | [] =>
            simp only [resolve, if_pos choice]
            exact .raised _
        | [_] =>
            simp only [resolve, if_pos choice]
            exact .raised _
        | [_, _] =>
            simp only [resolve, if_pos choice]
            exact .raised _
        | _ :: _ :: _ :: _ :: _ =>
            simp only [resolve, if_pos choice]
            exact .raised _
      · unfold outsideNames at outside
        rw [if_neg choice] at outside
        have inner := resolveAll_sameOutcome related outside
        unfold resolve
        rw [if_neg choice, if_neg choice]
        generalize resolveAll ctx document arguments first = left at inner ⊢
        generalize resolveAll ctx document arguments second = right at inner ⊢
        cases inner with
        | raised raised => exact .raised raised
        | returned after extended free => exact .returned after extended free
  | unlistedOperation exactKeys => exact .raised _
  | notMapping => exact .raised _
  | literal exactKeys value valueType unit currency =>
      exact .returned related (List.prefix_refl _) fun _ => nofun
  | «variable» exactKeys name valueType unit currency =>
      exact .returned related (List.prefix_refl _) fun _ => outside
  | unknownKind => exact .returned related (List.prefix_refl _) fun _ => nofun

theorem resolveAll_sameOutcome
    {ctx : DecimalContext}
    {document : Json}
    {differing : String → Prop}
    {first second : Resolution}
    (related : Resolution.Related document differing first second)
    {nodes : List Node}
    (outside : ∀ name ∈ outsideNamesAll ctx document nodes first, ¬differing name) :
    SameOutcome document differing Node.namesAll first (resolveAll ctx document nodes first)
      (resolveAll ctx document nodes second) := by
  cases nodes with
  | nil => exact .returned related (List.prefix_refl _) fun _ => nofun
  | cons node nodes =>
      rw [outsideNamesAll, List.forall_mem_append] at outside
      have head := resolve_sameOutcome related outside.1
      have later := outside.2
      unfold resolveAll
      generalize resolve ctx document node first = left at head later ⊢
      generalize resolve ctx document node second = right at head ⊢
      cases head with
      | raised raised => exact .raised raised
      | returned middle extended free =>
          have tail := resolveAll_sameOutcome middle later
          simp only [Checks.ok_bind]
          generalize resolveAll ctx document nodes _ = left at tail ⊢
          generalize resolveAll ctx document nodes _ = right at tail ⊢
          cases tail with
          | raised raised => exact .raised raised
          | returned after further freeRest =>
              refine .returned after (extended.trans further) fun distinct => ?_
              rw [Node.namesAll, List.forall_mem_append]
              exact ⟨free (distinct.sublist further.sublist), freeRest distinct⟩

end

/-! ### Noninterference -/

/-- Values that differ only in branches that are not selected, and that can be read as
inputs, do not change the result or the error. -/
theorem evaluateLazy_noninterference
    {ctx : DecimalContext}
    {expression : Node}
    {first second : Dict String Json}
    {dependencies : List String}
    {document : Json}
    (agree : ∀ name ∈ outsideNames ctx document expression ⟨first, dependencies, [], [], 0⟩,
      first.get? name = second.get? name)
    (occurs : ∀ name, first.get? name ≠ second.get? name → name ∈ expression.names)
    (unreadable : ∀ policy, validateRoundingPolicy document true = .ok policy →
      first.entries.filter (isUnreadable policy) = second.entries.filter (isUnreadable policy)) :
    evaluateLazy ctx expression first dependencies document =
      evaluateLazy ctx expression second dependencies document := by
  unfold evaluateLazy
  cases validated : validateExpressionAst expression dependencies with
  | error raised => rfl
  | ok done =>
      obtain ⟨_, -, accepted⟩ := Checks.bind_eq_ok.mp validated
      obtain ⟨⟨signature, next⟩, walked, -⟩ := Checks.bind_eq_ok.mp accepted
      have related : Resolution.Related document
          (fun name => first.get? name ≠ second.get? name)
          ⟨first, dependencies, [], [], 0⟩ ⟨second, dependencies, [], [], 0⟩ := {
        dependencies := rfl
        conditionSources := rfl
        syntheticNames := rfl
        counter := rfl
        declared := fun name differs =>
          mem_dependencies_of_validateNode walked name (occurs name differs)
        agree := fun _ policy isPolicy =>
          ⟨fun name same => not_not.mp same, unreadable policy isPolicy⟩ }
      have steps := @resolve_sameOutcome ctx _ _ _ _ related expression
        fun name listed differs => differs (agree name listed)
      simp only [Checks.ok_bind]
      generalize resolve ctx document expression _ = left at steps ⊢
      generalize resolve ctx document expression _ = right at steps ⊢
      cases steps with
      | raised raised => rfl
      | @returned tree firstFinal secondFinal final extended free =>
          simp only [Checks.ok_bind, final.evaluateEager_eq free, final.syntheticNames,
            final.conditionSources]

/-! ### A choice -/

/-- The literal `true`. -/
def trueLiteral : Node := .literal true (.bool true) (.str "BOOLEAN") (.str "BOOLEAN") .null

/-- An amount. -/
def amountVariable : Node :=
  .variable true (.str "x") (.str "MONEY") (.str "MONEY") (.str "RUB")

/-- A choice whose condition is true and whose other branch compares an amount. -/
def trueChoice : Node :=
  .operation true (.str "IF") (.str "BOOLEAN") (.str "BOOLEAN") .null
    [trueLiteral, trueLiteral,
      .operation true (.str "LESS_THAN") (.str "BOOLEAN") (.str "BOOLEAN") .null
        [amountVariable, amountVariable]]

/-- The value of the choice. -/
def trueValue : ValueDict := ⟨.valid, .flag true, .boolean, none, []⟩

/-- A variable that maps one name. -/
def oneVariable (raw : Json) : Dict String Json := ⟨[("x", raw)], List.nodup_singleton _⟩

/-- An amount that is not available. -/
def missingAmount : Json :=
  .obj [("currency", .str "RUB"), ("reason_code", .str "ABSENT"), ("source_ids", .arr []),
    ("state", .str "UNAVAILABLE"), ("unit", .str "MONEY"), ("value", .null),
    ("value_type", .str "MONEY")]

/-- An amount of one. -/
def oneAmount : Json :=
  .obj [("currency", .str "RUB"), ("reason_code", .null), ("source_ids", .arr []),
    ("state", .str "VALID"), ("unit", .str "MONEY"), ("value", .str "1"),
    ("value_type", .str "MONEY")]

section Choice

variable {ctx : DecimalContext} {document : Json} {policy : RoundingPolicy}
  (accepted : validateRoundingPolicy document true = .ok policy)

include accepted

/-- The literal is evaluated when the variables can be read. -/
theorem evaluateEager_true
    {variableMap : Dict String Json}
    {typed : List (String × Value)}
    (declared : variableMap.keys.all (fun name => name ∈ ["x"]) = true)
    (read : typedVariables policy variableMap.entries = .ok typed) :
    evaluateEager ctx trueLiteral variableMap ["x"] document = .ok trueValue :=
  Checks.bind_eq_ok.mpr ⟨policy, accepted, Checks.bind_eq_ok.mpr ⟨(), rfl,
    Checks.bind_eq_ok.mpr ⟨(), check_eq_ok.mpr declared, Checks.bind_eq_ok.mpr ⟨typed, read, rfl⟩⟩⟩⟩

omit accepted in
theorem resolve_trueLiteral (state : Resolution) :
    resolve ctx document trueLiteral state = .ok (trueLiteral, state) := by
  unfold trueLiteral resolve
  rfl

/-- The choice selects its first branch. -/
theorem resolve_trueChoice
    {variableMap : Dict String Json}
    {typed : List (String × Value)}
    (declared : variableMap.keys.all (fun name => name ∈ ["x"]) = true)
    (read : typedVariables policy variableMap.entries = .ok typed) :
    resolve ctx document trueChoice ⟨variableMap, ["x"], [], [], 0⟩ =
      .ok (trueLiteral, ⟨variableMap, ["x"], [], [], 0⟩) := by
  have condition : evaluateEager ctx trueLiteral variableMap ["x"] document = .ok trueValue :=
    evaluateEager_true accepted declared read
  unfold trueChoice resolve
  rw [if_pos (show isIf (.str "IF") = true by decide)]
  dsimp only
  rw [resolve_trueLiteral, Checks.ok_bind]
  dsimp only
  rw [condition, Checks.ok_bind]
  exact resolve_trueLiteral _

theorem evaluateLazy_trueChoice
    {variableMap : Dict String Json}
    {typed : List (String × Value)}
    (declared : variableMap.keys.all (fun name => name ∈ ["x"]) = true)
    (read : typedVariables policy variableMap.entries = .ok typed) :
    evaluateLazy ctx trueChoice variableMap ["x"] document = .ok trueValue := by
  refine Checks.bind_eq_ok.mpr ⟨(), by decide +kernel, ?_⟩
  rw [resolve_trueChoice accepted declared read, Checks.ok_bind]
  dsimp only
  rw [evaluateEager_true accepted declared read, Checks.ok_bind]
  rfl

/-- The choice raises what reading its variables raises. -/
theorem evaluateLazy_trueChoice_of_error
    {dependencies : List String}
    {variableMap : Dict String Json}
    {raised : FinanceFailure}
    (validated : validateExpressionAst trueChoice dependencies = .ok ())
    (valid : validateDependencies dependencies = .ok ())
    (declared : variableMap.keys.all (fun name => name ∈ dependencies) = true)
    (read : typedVariables policy variableMap.entries = .error raised) :
    evaluateLazy ctx trueChoice variableMap dependencies document = .error raised := by
  have condition :
      evaluateEager ctx trueLiteral variableMap dependencies document = .error raised := by
    have passes : check (variableMap.keys.all (fun name => name ∈ dependencies) = true)
        .expressionDependencyUndeclared = .ok () := check_eq_ok.mpr declared
    rw [evaluateEager, accepted, Checks.ok_bind, valid, Checks.ok_bind, passes, Checks.ok_bind, read]
    rfl
  rw [evaluateLazy, validated, Checks.ok_bind]
  unfold trueChoice resolve
  rw [if_pos (show isIf (.str "IF") = true by decide)]
  dsimp only
  rw [resolve_trueLiteral, Checks.ok_bind]
  dsimp only
  rw [condition]
  rfl

/-- No variable occurs outside the branch that is not selected. -/
theorem outsideNames_trueChoice
    {variableMap : Dict String Json}
    {typed : List (String × Value)}
    (declared : variableMap.keys.all (fun name => name ∈ ["x"]) = true)
    (read : typedVariables policy variableMap.entries = .ok typed) :
    outsideNames ctx document trueChoice ⟨variableMap, ["x"], [], [], 0⟩ = [] := by
  have condition : evaluateEager ctx trueLiteral variableMap ["x"] document = .ok trueValue :=
    evaluateEager_true accepted declared read
  have selected : selection ctx document trueLiteral ⟨variableMap, ["x"], [], [], 0⟩ =
      some (true, ⟨variableMap, ["x"], [], [], 0⟩) := by
    unfold selection
    rw [resolve_trueLiteral]
    dsimp only
    rw [condition]
    rfl
  unfold trueChoice outsideNames
  rw [if_pos (show isIf (.str "IF") = true by decide)]
  dsimp only
  rw [selected]
  rfl

end Choice

/-- A policy that rounds components but no inputs. -/
def componentPolicy : Json :=
  .obj [("actor", .str "a"), ("application_points", .arr [.str "RULE_COMPONENT_RESULT"]),
    ("approval_reference", .null), ("calculation_mode", .str "HALF_UP"),
    ("calculation_scale", .int 4), ("change_reason", .str "r"),
    ("content_hash", .str "cc842f4f283eb64a2d71bc2c38e36a3e33c03951eb68bc604499d589ca562b5c"),
    ("created_at", .str "2026-01-01T00:00:00Z"), ("currency_presentation_scales", .obj []),
    ("max_input_precision", .int 12), ("max_input_scale", .int 4), ("money_scale", .int 2),
    ("policy_id", .str "p"), ("presentation_mode", .str "HALF_UP"), ("presentation_scale", .int 2),
    ("rate_scale", .int 4), ("source", .str "s"), ("status", .str "ACTIVE"), ("supersedes", .null),
    ("version", .int 1)]

theorem exists_componentPolicy :
    ∃ policy, validateRoundingPolicy componentPolicy true = .ok policy ∧
      .ruleInputNormalization ∉ policy.applicationPoints := by
  have evaluated : ((validateRoundingPolicy componentPolicy true).map fun policy =>
      decide (.ruleInputNormalization ∉ policy.applicationPoints)).toOption = some true := by
    decide +kernel
  cases outcome : validateRoundingPolicy componentPolicy true with
  | error raised =>
      rw [outcome] at evaluated
      cases evaluated
  | ok policy =>
      rw [outcome] at evaluated
      exact ⟨policy, rfl, of_decide_eq_true (Option.some.inj evaluated)⟩

/-- An amount that is not available can be read under every policy. -/
theorem readInput_missingAmount (policy : RoundingPolicy) :
    ∃ value, readInput missingAmount "x" policy = .ok value := ⟨_, rfl⟩

theorem evaluateLazy_noninterference_choice :
    evaluateLazy .default trueChoice Dict.empty ["x"] componentPolicy =
      evaluateLazy .default trueChoice (oneVariable missingAmount) ["x"] componentPolicy := by
  obtain ⟨policy, accepted, -⟩ := exists_componentPolicy
  refine evaluateLazy_noninterference ?_ ?_ ?_
  · rw [outsideNames_trueChoice accepted rfl rfl]
    nofun
  · intro name differs
    have isX : name = "x" := by_contra fun other => differs (by simp [oneVariable, Dict.get?,
      Dict.empty, Ne.symm other])
    have occurs : "x" ∈ trueChoice.names := by decide +kernel
    exact isX ▸ occurs
  · intro readPolicy _
    have readable : isUnreadable readPolicy ("x", missingAmount) = false :=
      not_isUnreadable_iff.mpr (readInput_missingAmount readPolicy)
    simp [oneVariable, Dict.empty, readable]

/-- A value of a type that does not exist. -/
def untypedValue : Json :=
  .obj [("currency", .null), ("reason_code", .null), ("source_ids", .arr []),
    ("state", .str "VALID"), ("unit", .str "MONEY"), ("value", .str "1"),
    ("value_type", .str "AMOUNT")]

/-- Two malformed variables. -/
def malformedVariables : Dict String Json :=
  ⟨[("x", .null), ("y", untypedValue)], by decide⟩

/-- The same variables, listed the other way round. -/
def reversedVariables : Dict String Json :=
  ⟨[("y", untypedValue), ("x", .null)], by decide⟩

/-- Without rounding of inputs no amount can be read. -/
theorem readInput_oneAmount
    {policy : RoundingPolicy}
    (forbidden : .ruleInputNormalization ∉ policy.applicationPoints) :
    readInput oneAmount "x" policy = .error (.finance .roundingPointForbidden) := by
  let value : Value :=
    ⟨⟨.money, "MONEY", some "RUB", by decide, rfl⟩, .valid (.number ⟨false, 1, 0⟩), ["x"], rfl⟩
  have read : valueFromDict oneAmount "x" = .ok value := rfl
  have parsed : parseDecimal (.str "1") .valueDecimalInvalid policy.maxInputPrecision
      policy.maxInputScale = .ok ⟨false, 1, 0⟩ := by
    have agree := policy.limitsAgree.1
    simp only [parseDecimal, text?, Checks.bind_eq_ok, Checks.requireSome_eq_ok, check_eq_ok,
      Checks.pure_eq_ok]
    exact ⟨_, rfl, ⟨false, ['1'], []⟩, rfl, (), agree, (), Nat.zero_le _, rfl⟩
  have limits : validatePolicyInputLimits value policy = .ok () :=
    Checks.bind_eq_ok.mpr ⟨_, parsed, rfl⟩
  have unrounded : quantize ⟨false, 1, 0⟩ policy .ruleInputNormalization .money =
      .error (.finance .roundingPointForbidden) := by
    rw [quantize, check, require, if_neg forbidden]
    rfl
  rw [readInput, read, Checks.ok_bind]
  change (do
    validatePolicyInputLimits value policy
    let normalized ← quantize ⟨false, 1, 0⟩ policy .ruleInputNormalization .money
    makeValid (.number normalized.1) value.signature value.sourceIds) = _
  rw [limits, Checks.ok_bind, unrounded]
  rfl

/-- An amount in the branch that is not selected raises, although it is well formed
and within the limits; of two malformed variables the first one listed raises. -/
theorem evaluateLazy_interference :
    evaluateLazy .default trueChoice Dict.empty ["x"] componentPolicy = .ok trueValue ∧
    evaluateLazy .default trueChoice (oneVariable oneAmount) ["x"] componentPolicy =
      .error (.finance .roundingPointForbidden) ∧
    (∀ name, malformedVariables.get? name = reversedVariables.get? name) ∧
    evaluateLazy .default trueChoice malformedVariables ["x", "y"] componentPolicy =
      .error (.finance .typedValueMalformed) ∧
    evaluateLazy .default trueChoice reversedVariables ["x", "y"] componentPolicy =
      .error (.finance .valueSignatureInvalid) := by
  obtain ⟨policy, accepted, forbidden⟩ := exists_componentPolicy
  have one : validateExpressionAst trueChoice ["x"] = .ok () := by decide +kernel
  have two : validateExpressionAst trueChoice ["x", "y"] = .ok () := by decide +kernel
  have declaredOne : validateDependencies ["x"] = .ok () := by decide +kernel
  have declaredTwo : validateDependencies ["x", "y"] = .ok () := by decide +kernel
  refine ⟨evaluateLazy_trueChoice accepted rfl rfl,
    evaluateLazy_trueChoice_of_error accepted one declaredOne rfl ?_, fun name => ?_,
    evaluateLazy_trueChoice_of_error accepted two declaredTwo rfl rfl,
    evaluateLazy_trueChoice_of_error accepted two declaredTwo rfl rfl⟩
  · rw [oneVariable, typedVariables_cons, readInput_oneAmount forbidden]
    rfl
  · by_cases isX : name = "x"
    · subst isX
      rfl
    · by_cases isY : name = "y"
      · subst isY
        rfl
      · simp [malformedVariables, reversedVariables, Dict.get?, Ne.symm isX, Ne.symm isY]

end Finance
end QuantumAnalytics
