import QuantumAnalytics.Finance.Evaluation
import QuantumAnalytics.Finance.Kernel
import QuantumAnalytics.Finance.Replay
import QuantumAnalytics.Finance.States

/-!
# Evaluation of the selected rule

`evaluate_resolved_rule`, which evaluates the rule that a trusted resolution has
selected, and the signature that the rule declares for its value.
-/

namespace QuantumAnalytics
namespace Finance

/-! ### What a rule declares -/

namespace RuleDocument

/-- A text member. -/
def text (rule : RuleDocument) (key : String) : String :=
  (text? (member rule.document key)).getD ""

/-- `rule["method"]`. -/
def method (rule : RuleDocument) : String := rule.text "method"

/-- `rule["unit"]`. -/
def unit (rule : RuleDocument) : String := rule.text "unit"

/-- `rule["dependencies"]`. -/
def dependencies (rule : RuleDocument) : List String :=
  (readDependencies (member rule.document "dependencies")).toOption.getD []

/-- `rule["expression"]`. -/
def expression (rule : RuleDocument) : Node := Node.ofJson (member rule.document "expression")

/-- `unit.startswith("MONEY")`. -/
def isMonetary (rule : RuleDocument) : Bool := "MONEY".toList.isPrefixOf rule.unit.toList

/-- A signature with the unit of the rule; only money has its currency. -/
def signatureOfType (rule : RuleDocument) (valueType : ValueType) : Result Signature :=
  validateSignature (.str valueType.text) (.str rule.unit)
    (if valueType = .money then member rule.document "currency" else .null)

/-- `_signature` and `_expected_rule_signature`. -/
def declaredType (rule : RuleDocument) : ValueType :=
  if rule.isMonetary = true then .money
  else if rule.unit = "RATE" then .rate
  else .decimal

/-- The declared signature. -/
def signature (rule : RuleDocument) : Result Signature := rule.signatureOfType rule.declaredType

/-- `missing`. -/
def missingDependencies (rule : RuleDocument) (variableMap : Dict String Json) : List String :=
  (rule.dependencies.filter fun name => name ∉ variableMap.keys).insertionSort (· ≤ ·)

/-- The variables of the dependencies. -/
def chosenVariables (rule : RuleDocument) (variableMap : Dict String Json) : Dict String Json :=
  rule.dependencies.foldl
    (fun chosen name =>
      match variableMap.get? name with
      | some raw => chosen.set name raw
      | none => chosen)
    Dict.empty

end RuleDocument

/-! ### The methods -/

/-- The value of a rule with a dependency that is not given. -/
def unavailableDependency (rule : RuleDocument) (traceId name : String) : Result ValueDict := do
  let value ← makeNonvalid .unavailable (← rule.signature)
    ("RULE_DEPENDENCY_UNAVAILABLE:" ++ name) [traceId, rule.contentHash]
  return valueToDict value none

/-- The value of a `FIXED_VALUE` rule. -/
def evaluateFixedValue (rule : RuleDocument) (traceId : String) (policy : RoundingPolicy) :
    Result ValueDict := do
  let value ← inputDecimal (member rule.document "value") policy .ruleValueInvalid
  let resultType := if rule.isMonetary = true then ValueType.money else ValueType.decimal
  let (rounded, scale) ← quantize value policy .ruleComponentResult resultType
  let value ← makeValid (.number rounded) (← rule.signatureOfType resultType)
    [traceId, rule.contentHash]
  return valueToDict value (some scale)

/-- The value of a `RATE` rule whose dependencies all have values. -/
def evaluateRate (rule : RuleDocument) (traceId : String) (policy : RoundingPolicy) :
    Result ValueDict := do
  let rate ← inputDecimal (member rule.document "rate") policy .ruleRateInvalid
  let (rounded, scale) ← quantize rate policy .ruleComponentResult .rate
  let value ← makeValid (.number rounded) .rate [traceId, rule.contentHash]
  return valueToDict value (some scale)

/-- The value of a `SAFE_EXPRESSION` rule. -/
def evaluateRuleExpression
    (rule : RuleDocument)
    (traceId : String)
    (variableMap : Dict String Json)
    (policy : Json)
    (accepted : RoundingPolicy) : Result ValueDict := do
  let result ← evaluateLazy (accepted.decimalContext maxExpressionNodes) rule.expression
    (rule.chosenVariables variableMap) rule.dependencies policy
  check (result.signature = (← rule.signature)) .ruleExpressionSignatureMismatch
  return { result with sourceIds := sortedSet (result.sourceIds ++ [traceId, rule.contentHash]) }

/-- The value of a rule whose dependencies are all given. -/
def evaluateMethod
    (rule : RuleDocument)
    (traceId : String)
    (variableMap : Dict String Json)
    (policy : Json)
    (accepted : RoundingPolicy) : Result ValueDict := do
  let typed ← parseInputs variableMap.entries
  if rule.method = "SAFE_EXPRESSION" then
    evaluateRuleExpression rule traceId variableMap policy accepted
  else if rule.method = "FIXED_VALUE" then evaluateFixedValue rule traceId accepted
  else
    match propagate (rule.dependencies.filterMap fun name => typed.lookup name) .rate with
    | some propagated => return valueToDict propagated none
    | none => evaluateRate rule traceId accepted

/-- The value of an approved rule. -/
def evaluateRule
    (rule : RuleDocument)
    (traceId : String)
    (variableMap : Dict String Json)
    (policy : Json) : Result ValueDict := do
  check (rule.status.isApproved = true) .ruleNotApproved
  match rule.missingDependencies variableMap with
  | name :: _ => unavailableDependency rule traceId name
  | [] =>
      let accepted ← validateRoundingPolicy policy true
      if rule.method = "SAFE_EXPRESSION" then validateExpressionPolicyLimits rule.expression accepted
      evaluateMethod rule traceId variableMap policy accepted

/-! ### The selected rule -/

/-- `candidate["eligible"] is True and candidate["selected"] is True`. -/
def isSelectedCandidate (candidate : Json) : Bool :=
  match candidate with
  | .obj fields =>
      bool? (member fields "eligible") = some true && bool? (member fields "selected") = some true
  | _ => false

/-- The members of the reference of a candidate. -/
def candidateRef (candidate : Json) : JsonObject :=
  match candidate with
  | .obj fields =>
      match member fields "rule" with
      | .obj ref => ref
      | _ => []
  | _ => []

/-- The key of a rule is that of a reference, as Python compares them. -/
def RuleDocument.hasKey (rule : RuleDocument) (ref : JsonObject) : Bool :=
  Json.pyEq (.str rule.ruleId) (member ref "rule_id") &&
    Json.pyEq (.int rule.version) (member ref "version") &&
    Json.pyEq (.str rule.contentHash) (member ref "content_hash")

/-- The state of a resolution. -/
def resolutionState (fields : JsonObject) : Option ValueState :=
  (text? (member fields "state")).bind ValueState.ofText?

/-- `_selected_rule`: of rules with one key the last is looked up. The envelope has
one selected candidate. -/
def selectedRule (fields : JsonObject) (documents : List RuleDocument) : Option RuleDocument := do
  let candidates ← items? (member fields "candidates")
  let candidate ← candidates.find? isSelectedCandidate
  documents.reverse.find? fun rule => rule.hasKey (candidateRef candidate)

/-- `evaluate_resolved_rule` after the replay check. The base evaluator repeats the
checks of the policy, of the rules and of the resolution. -/
def evaluateTrusted
    (fields : JsonObject)
    (traceId : String)
    (documents : List RuleDocument)
    (variableMap : Dict String Json)
    (policy : Json) : Result ValueDict :=
  match resolutionState fields with
  | some .valid =>
      match selectedRule fields documents with
      | some rule => evaluateRule rule traceId variableMap policy
      | none => do
          let _ ← validateRoundingPolicy policy true
          raise .ruleReferenceMissing
  | some (.nonvalid state) => do
      let _ ← validateRoundingPolicy policy true
      -- What the resolver returns without a selection has a diagnostic code.
      let diagnostic ← requireSome (text? (member fields "diagnostic_code")) .assertion
      let value ← makeNonvalid state .dimensionless diagnostic [traceId]
      return valueToDict value none
  | none => raise .ruleResolutionInvalid

/-- `evaluate_resolved_rule`. -/
def evaluateResolvedRule
    (resolution : Json)
    (rules : List Json)
    (variableMap : Dict String Json)
    (policy : Json)
    (cache : TraceCache) : Result ValueDict × TraceCache :=
  match openReplay resolution rules with
  | .error raised => (.error raised, cache)
  | .ok (fields, traceId, documents) =>
      let (isTrusted, used) := trusted fields traceId documents cache
      (do
        check (isTrusted = true) .ruleResolutionReplayMismatch
        evaluateTrusted fields traceId documents variableMap policy,
      used)

/-! ### Declared signatures -/

theorem oneOf_eq_some
    {texts : List String}
    {text result : String} : oneOf texts text = some result ↔ text ∈ texts ∧ text = result := by
  unfold oneOf
  split <;> simp [*]

/-- A rule whose value is neither fixed nor an expression is a rate. -/
theorem unit_of_method
    {rule : Json}
    {document : RuleDocument}
    (valid : validateRuleDocument rule = .ok document)
    (notFixed : document.method ≠ "FIXED_VALUE")
    (notExpression : document.method ≠ "SAFE_EXPRESSION") : document.unit = "RATE" := by
  cases rule with
  | obj fields =>
      simp only [validateRuleDocument, Checks.bind_eq_ok, Checks.pure_eq_ok, check_eq_ok,
        lookUpOr_eq_ok, oneOf_eq_some] at valid
      obtain ⟨_, -, _, -, _, -, _, -, _, -, _, -, _, -, _, ⟨method, isMethod, known, rfl⟩, _, -, _,
        -, _, -, _, -, _, -, _, -, _, -, _, -, _, -, _, -, _, -, _, -, _, checked, _, -, _, -, _, -,
        rfl⟩ := valid
      simp only [RuleDocument.method, RuleDocument.text, isMethod, text?, Option.getD_some]
        at notFixed notExpression
      have isRate : method = "RATE" := by simpa [notFixed, notExpression] using known
      simp only [checkMethod, if_pos isRate, Checks.bind_eq_ok, check_eq_ok] at checked
      obtain ⟨_, ⟨unit, -⟩, -⟩ := checked
      simp only [RuleDocument.unit, RuleDocument.text, unit, Option.getD_some]
  | _ => cases valid

/-- The type of a signature that was accepted. -/
theorem valueType_of_signature
    {valueType : ValueType}
    {unit currency : Json}
    {signature : Signature}
    (valid : validateSignature (.str valueType.text) unit currency = .ok signature) :
    signature.valueType = valueType := by
  simp only [validateSignature, Checks.bind_eq_ok, lookUpOr_eq_ok] at valid
  obtain ⟨read, ⟨text, isText, known⟩, unitText, -, rest⟩ := valid
  rw [← Json.str.inj isText, ValueType.ofText?_text] at known
  split at rest
  · obtain ⟨currency, -, rest⟩ := Checks.bind_eq_ok.mp rest
    split at rest
    · rw [← Except.ok.inj rest, Option.some.inj known]
    · cases rest
  · cases rest

namespace RuleDocument

theorem signature_of_rate {rule : RuleDocument} (unit : rule.unit = "RATE") :
    rule.signature = .ok .rate := by
  have notMonetary : rule.isMonetary = false := by
    rw [isMonetary, unit]
    decide
  rw [signature, declaredType, if_neg (by simp [notMonetary]), if_pos unit, signatureOfType, unit]
  rfl

/-- A fixed value states a rate as a plain number. -/
theorem fixed_signature_iff
    {rule : RuleDocument}
    {made : Signature}
    (valid : rule.signatureOfType (if rule.isMonetary = true then .money else .decimal) =
      .ok made) :
    ∃ declared, rule.signature = .ok declared ∧ (made = declared ↔ rule.unit ≠ "RATE") := by
  by_cases rate : rule.unit = "RATE"
  · have notMonetary : ¬rule.isMonetary = true := by
      rw [isMonetary, rate]
      decide
    rw [if_neg notMonetary] at valid
    refine ⟨.rate, signature_of_rate rate, iff_of_false ?_ (not_not.mpr rate)⟩
    rintro rfl
    exact absurd (valueType_of_signature valid) (by decide)
  · refine ⟨made, ?_, iff_of_true rfl rate⟩
    rw [signature, declaredType, if_neg rate]
    exact valid

end RuleDocument

/-! ### The signature of the result -/

/-- The rule contradicts its signature: it states a rate as a fixed value. -/
def RuleDocument.IsFixedRate (rule : RuleDocument) : Prop :=
  rule.method = "FIXED_VALUE" ∧ rule.unit = "RATE"

section

variable {rule : RuleDocument} {traceId : String} {variableMap : Dict String Json} {policy : Json}
  {accepted : RoundingPolicy} {result : ValueDict}

theorem unavailableDependency_signature
    {name : String}
    (made : unavailableDependency rule traceId name = .ok result) :
    rule.signature = .ok result.signature := by
  simp only [unavailableDependency, Checks.bind_eq_ok, Checks.pure_eq_ok, makeNonvalid_eq_ok]
    at made
  obtain ⟨declared, isDeclared, value, ⟨-, signature, -⟩, rfl⟩ := made
  rw [isDeclared, valueToDict, signature]

theorem evaluateFixedValue_signature
    (made : evaluateFixedValue rule traceId accepted = .ok result) :
    rule.signatureOfType (if rule.isMonetary = true then .money else .decimal) =
      .ok result.signature := by
  simp only [evaluateFixedValue, Checks.bind_eq_ok, Checks.pure_eq_ok, makeValid_eq_ok] at made
  obtain ⟨_, -, _, -, signature, isSignature, value, ⟨-, same, -⟩, rfl⟩ := made
  rw [isSignature, valueToDict, same]

theorem evaluateRate_signature (made : evaluateRate rule traceId accepted = .ok result) :
    result.signature = .rate := by
  simp only [evaluateRate, Checks.bind_eq_ok, Checks.pure_eq_ok, makeValid_eq_ok] at made
  obtain ⟨_, -, _, -, value, ⟨-, same, -⟩, rfl⟩ := made
  exact same

theorem evaluateRuleExpression_signature
    (made : evaluateRuleExpression rule traceId variableMap policy accepted = .ok result) :
    rule.signature = .ok result.signature := by
  simp only [evaluateRuleExpression, Checks.bind_eq_ok, Checks.pure_eq_ok, check_eq_ok] at made
  obtain ⟨value, -, declared, isDeclared, _, same, rfl⟩ := made
  rw [isDeclared, same]

/-- The signature of the value of a rule whose dependencies are all given. -/
theorem evaluateMethod_signature
    {document : Json}
    (valid : validateRuleDocument document = .ok rule)
    (made : evaluateMethod rule traceId variableMap policy accepted = .ok result) :
    ∃ declared, rule.signature = .ok declared ∧
      (result.signature = declared ↔ ¬rule.IsFixedRate) := by
  simp only [evaluateMethod, Checks.bind_eq_ok] at made
  obtain ⟨typed, -, made⟩ := made
  split_ifs at made with expression fixed
  · refine ⟨_, evaluateRuleExpression_signature made, iff_of_true rfl ?_⟩
    rintro ⟨fixed, -⟩
    rw [expression] at fixed
    exact absurd fixed (by decide)
  · obtain ⟨declared, isDeclared, same⟩ :=
      RuleDocument.fixed_signature_iff (evaluateFixedValue_signature made)
    refine ⟨declared, isDeclared, same.trans ?_⟩
    simp [RuleDocument.IsFixedRate, fixed]
  · have rate := unit_of_method valid fixed expression
    refine ⟨.rate, RuleDocument.signature_of_rate rate, iff_of_true ?_ (fun both => fixed both.1)⟩
    split at made
    · rename_i propagated inherited
      obtain rfl := Checks.pure_eq_ok.mp made
      exact (propagate_eq_some inherited).2.2
    · exact evaluateRate_signature made

/-- The signature of the value of a rule. -/
theorem evaluateRule_signature
    {document : Json}
    (valid : validateRuleDocument document = .ok rule)
    (made : evaluateRule rule traceId variableMap policy = .ok result) :
    ∃ declared, rule.signature = .ok declared ∧
      (result.signature = declared ↔
        ¬(rule.IsFixedRate ∧ rule.missingDependencies variableMap = [])) := by
  obtain ⟨_, -, made⟩ := Checks.bind_eq_ok.mp made
  split at made
  next name names missing =>
    refine ⟨_, unavailableDependency_signature made, iff_of_true rfl ?_⟩
    rw [missing]
    exact fun both => absurd both.2 (List.cons_ne_nil _ _)
  next missing =>
    obtain ⟨accepted, -, made⟩ := Checks.bind_eq_ok.mp made
    have evaluated : evaluateMethod rule traceId variableMap policy accepted = .ok result := by
      split at made
      · obtain ⟨_, -, made⟩ := Checks.bind_eq_ok.mp made
        exact made
      · exact made
    simpa [missing] using evaluateMethod_signature valid evaluated

end

/-- A snapshot holds rule documents that were accepted. -/
theorem exists_validateRuleDocument
    {rules : List Json}
    {documents : List RuleDocument}
    (isSnapshot : snapshot rules = .ok documents)
    {rule : RuleDocument}
    (listed : rule ∈ documents) : ∃ document, validateRuleDocument document = .ok rule := by
  obtain ⟨given, valid, rfl⟩ := snapshot_eq_ok.mp isSnapshot
  obtain ⟨document, -, accepted⟩ :=
    Checks.exists_of_mem_mapM valid ((List.perm_insertionSort _ given).mem_iff.mp listed)
  exact ⟨document, accepted⟩

theorem mem_of_selectedRule
    {fields : JsonObject}
    {documents : List RuleDocument}
    {rule : RuleDocument}
    (selected : selectedRule fields documents = some rule) : rule ∈ documents := by
  simp only [selectedRule, Option.bind_eq_bind, Option.bind_eq_some_iff] at selected
  obtain ⟨_, -, _, -, found⟩ := selected
  exact List.mem_reverse.mp (List.mem_of_find?_eq_some found)

/-- A result of a valid resolution has the declared signature of the selected rule
unless that rule states a rate as a fixed value and all its dependencies are given. -/
theorem evaluateResolvedRule_signature_iff
    {resolution policy : Json}
    {rules : List Json}
    {variableMap : Dict String Json}
    {cache used : TraceCache}
    {fields : JsonObject}
    {traceId : String}
    {documents : List RuleDocument}
    {result : ValueDict}
    (opened : openReplay resolution rules = .ok (fields, traceId, documents))
    (valid : resolutionState fields = some .valid)
    (made : evaluateResolvedRule resolution rules variableMap policy cache = (.ok result, used)) :
    ∃ rule declared, selectedRule fields documents = some rule ∧ rule.signature = .ok declared ∧
      (result.signature = declared ↔
        ¬(rule.IsFixedRate ∧ rule.missingDependencies variableMap = [])) := by
  have evaluated : evaluateTrusted fields traceId documents variableMap policy = .ok result := by
    rw [evaluateResolvedRule, opened] at made
    have first := congrArg Prod.fst made
    dsimp only at first
    obtain ⟨_, -, evaluated⟩ := Checks.bind_eq_ok.mp first
    exact evaluated
  obtain ⟨-, isSnapshot, -⟩ := openReplay_spec opened
  rw [evaluateTrusted, valid] at evaluated
  dsimp only at evaluated
  split at evaluated
  · rename_i rule selected
    obtain ⟨document, accepted⟩ :=
      exists_validateRuleDocument isSnapshot (mem_of_selectedRule selected)
    obtain ⟨declared, isDeclared, same⟩ := evaluateRule_signature accepted evaluated
    exact ⟨rule, declared, selected, isDeclared, same⟩
  · obtain ⟨_, -, raised⟩ := Checks.bind_eq_ok.mp evaluated
    cases raised

/-! ### Resolutions that were just returned -/

theorem resolveRule_of_resolveSnapshot
    {rules : List Json}
    {context : Json}
    {resolution : RuleResolution}
    {documents : List RuleDocument}
    (resolved : resolveSnapshot rules context = .ok (resolution, documents)) :
    resolveRule (documents.map RuleDocument.toJson) context = .ok resolution := by
  simp only [resolveSnapshot, Checks.bind_eq_ok, Checks.pure_eq_ok, Prod.mk.injEq] at resolved
  obtain ⟨_, -, _, isReturned, rfl, rfl⟩ := resolved
  exact isReturned

/-- A resolution that was returned is opened with the same rules. -/
theorem openReplay_of_resolveSnapshot
    {rules : List Json}
    {context : Json}
    {resolution : RuleResolution}
    {documents : List RuleDocument}
    (resolved : resolveSnapshot rules context = .ok (resolution, documents)) :
    openReplay (.obj resolution.toObject) rules =
      .ok (resolution.toObject, resolution.traceId, documents) := by
  rw [openReplay, snapshot_of_resolveSnapshot resolved, Checks.ok_bind,
    validateEnvelope_toObject (resolveRule_of_resolveSnapshot resolved), Checks.ok_bind]
  rfl

/-- A resolution is trusted right after it was returned. -/
theorem evaluateResolvedRule_registered
    {rules : List Json}
    {context : Json}
    {resolution : RuleResolution}
    {documents : List RuleDocument}
    (resolved : resolveSnapshot rules context = .ok (resolution, documents))
    (variableMap : Dict String Json)
    (policy : Json)
    (cache : TraceCache) :
    ∃ used, evaluateResolvedRule (.obj resolution.toObject) rules variableMap policy
      (register resolution documents cache) =
      (evaluateTrusted resolution.toObject resolution.traceId documents variableMap policy,
        used) := by
  have found : RecencyCache.lookup resolution.traceId (register resolution documents cache) =
      some (resolution.toObject, fingerprint documents) := by
    simp [register, RecencyCache.store, RecencyCache.lookup, cacheLimit]
  rw [evaluateResolvedRule, openReplay_of_resolveSnapshot resolved]
  simp only [trusted, found, Json.pyEqFields_refl, beq_self_eq_true, Bool.and_self]
  exact ⟨_, rfl⟩

@[simp] theorem resolutionState_toObject (resolution : RuleResolution) :
    resolutionState resolution.toObject = some resolution.state := by
  simp [resolutionState, RuleResolution.toObject, RuleResolution.tracedMembers, member, Json.lookup,
    text?]

theorem candidateRef_toJson (candidate : RuleCandidate) :
    candidateRef candidate.toJson = [("content_hash", .str candidate.rule.contentHash),
      ("rule_id", .str candidate.rule.ruleId), ("version", .int candidate.rule.version)] := rfl

theorem isSelectedCandidate_toJson (candidate : RuleCandidate) :
    isSelectedCandidate candidate.toJson = (candidate.eligible && candidate.selected) := by
  simp [isSelectedCandidate, RuleCandidate.toJson, member, Json.lookup, bool?]

theorem hasKey_of_ref
    {rule : RuleDocument}
    {candidate : RuleCandidate}
    (isRef : candidate.rule = rule.ref) :
    rule.hasKey (candidateRef candidate.toJson) = true := by
  rw [candidateRef_toJson, isRef, RuleDocument.hasKey, Bool.and_eq_true, Bool.and_eq_true]
  exact ⟨⟨Json.pyEq_refl _, Json.pyEq_refl _⟩, Json.pyEq_refl _⟩

/-- A valid resolution that was returned selects one of its rules. -/
theorem exists_selectedRule
    {rules : List Json}
    {context : Json}
    {resolution : RuleResolution}
    {documents : List RuleDocument}
    (resolved : resolveSnapshot rules context = .ok (resolution, documents))
    (valid : resolution.state = .valid) :
    ∃ rule, selectedRule resolution.toObject documents = some rule := by
  have isSnapshot := snapshot_of_resolveSnapshot resolved
  obtain ⟨accepted, given, selected, -, rulesValid, decision, candidates, -⟩ :=
    resolveRule_spec (resolveRule_of_resolveSnapshot resolved)
  have again : ∀ rule ∈ documents, validateRuleDocument rule.toJson = .ok rule := by
    intro rule listed
    obtain ⟨document, accepts⟩ := exists_validateRuleDocument isSnapshot listed
    exact (validateRuleDocument_spec accepts).1 ▸ accepts
  rw [mapM_toJson again] at rulesValid
  obtain rfl := Except.ok.inj rulesValid
  have one := (resolvesAs_of_decision decision candidates).selected
  rw [if_pos valid] at one
  obtain ⟨chosen, isListed, isChosen⟩ := List.countP_pos_iff.mp (one ▸ Nat.one_pos)
  have isEligible : chosen.eligible = true := by
    obtain ⟨order, -, aligned⟩ := (resolvesAs_of_decision decision candidates).considered
    obtain ⟨rule, -, -, eligible, isSelected⟩ := Checks.exists_left_of_mem aligned isListed
    exact eligible.mpr (isSelected.mp isChosen).2.1
  obtain ⟨found, isFound⟩ := Option.isSome_iff_exists.mp
    (List.find?_isSome.mpr ⟨_, List.mem_map_of_mem isListed, by
      rw [isSelectedCandidate_toJson, isEligible, isChosen]; rfl⟩ :
    ((resolution.candidates.map RuleCandidate.toJson).find? isSelectedCandidate).isSome = true)
  obtain ⟨candidate, isCandidate, rfl⟩ := List.mem_map.mp (List.mem_of_find?_eq_some isFound)
  obtain ⟨rule, isRule, _, isRef⟩ := candidate_of_mem (candidates ▸ isCandidate)
  have hasKey : rule.hasKey (candidateRef candidate.toJson) = true :=
    hasKey_of_ref (by rw [isRef]; rfl)
  have isSome : (documents.reverse.find? fun rule =>
      rule.hasKey (candidateRef candidate.toJson)).isSome = true :=
    List.find?_isSome.mpr ⟨rule, List.mem_reverse.mpr
      ((List.perm_insertionSort _ documents).mem_iff.mp isRule), hasKey⟩
  obtain ⟨selectedDocument, isSelected⟩ := Option.isSome_iff_exists.mp isSome
  refine ⟨selectedDocument, ?_⟩
  have members : items? (member resolution.toObject "candidates") =
      some (resolution.candidates.map RuleCandidate.toJson) := rfl
  simp only [selectedRule, members, isFound, isSelected, Option.bind_eq_bind, Option.bind_some]

/-! ### A rate that is stated as a fixed value -/

/-- A policy with which values are computed to four places. -/
def fourPlacePolicy : Json :=
  .obj [("actor", .str "a"),
    ("application_points", .arr [.str "RULE_INPUT_NORMALIZATION", .str "RULE_COMPONENT_RESULT",
      .str "METRIC_FINAL_ACCOUNTING"]),
    ("approval_reference", .null), ("calculation_mode", .str "HALF_UP"),
    ("calculation_scale", .int 4), ("change_reason", .str "r"),
    ("content_hash", .str "b2c67252fe929620d8e1754d2fa46037ac3fb42ebb4f6960772c244a21bf70da"),
    ("created_at", .str "2026-01-01T00:00:00Z"), ("currency_presentation_scales", .obj []),
    ("max_input_precision", .int 12), ("max_input_scale", .int 4), ("money_scale", .int 2),
    ("policy_id", .str "p"), ("presentation_mode", .str "HALF_UP"), ("presentation_scale", .int 2),
    ("rate_scale", .int 4), ("source", .str "s"), ("status", .str "ACTIVE"), ("supersedes", .null),
    ("version", .int 1)]

/-- A single rule that matches the context is selected. -/
theorem state_of_single
    {context : RuleContext}
    {rule : RuleDocument}
    {resolution : RuleResolution}
    (resolves : ResolvesAs context [rule] resolution)
    (eligible : Eligible context rule) : resolution.state = .valid := by
  refine resolves.valid.mpr ⟨⟨rule, List.mem_singleton_self _, eligible⟩, ?_, ?_⟩
  · rintro ⟨group, several⟩
    exact absurd (several.trans_le List.countP_le_length) (lt_irrefl 1)
  · have isMaximum : AttainsMaximum context [rule] rule :=
      ⟨eligible, fun other listed _ => (List.mem_singleton.mp listed) ▸ le_refl _⟩
    rw [maximumCount, List.countP_singleton, if_pos (decide_eq_true isMaximum)]

/-- The tax rule is selected in the calculation of its tenant. -/
theorem exists_taxResolution :
    ∃ resolution rule, resolveSnapshot [taxRule] juneContext = .ok (resolution, [rule]) ∧
      validateRuleDocument taxRule = .ok rule ∧ resolution.state = .valid ∧
      rule.status.isApproved = true := by
  have evaluated : ((validateRuleDocument taxRule).bind fun rule =>
      (validateContext juneContext).map fun context =>
        decide (Eligible context rule ∧ rule.status.isApproved = true)).toOption = some true := by
    decide +kernel
  cases rules : validateRuleDocument taxRule with
  | error raised =>
      rw [rules] at evaluated
      cases evaluated
  | ok rule =>
      rw [rules] at evaluated
      cases contexts : validateContext juneContext with
      | error raised =>
          rw [contexts] at evaluated
          cases evaluated
      | ok context =>
          rw [contexts] at evaluated
          obtain ⟨eligible, approved⟩ := of_decide_eq_true (Option.some.inj evaluated)
          have accepts : [taxRule].mapM validateRuleDocument = .ok [rule] := by
            rw [Checks.mapM_eq_ok]
            exact .cons rules .nil
          obtain ⟨resolution, resolved, resolves⟩ := resolveRule_characterised contexts accepts
          refine ⟨resolution, rule, ?_, rfl, state_of_single resolves eligible, approved⟩
          have isSnapshot : snapshot [taxRule] = .ok [rule] :=
            snapshot_eq_ok.mpr ⟨[rule], accepts, rfl⟩
          rw [resolveSnapshot, isSnapshot, Checks.ok_bind, List.map_singleton,
            ← (validateRuleDocument_spec rules).1, resolved]
          rfl

/-- The evaluator returns the tax of six percent as a plain number. -/
theorem exists_taxResult :
    ∃ resolution rule result,
      resolveSnapshot [taxRule] juneContext = .ok (resolution, [rule]) ∧
      resolution.state = .valid ∧ rule.IsFixedRate ∧
      rule.missingDependencies Dict.empty = [] ∧
      evaluateTrusted resolution.toObject resolution.traceId [rule] Dict.empty fourPlacePolicy =
        .ok result ∧ result.signature.valueType = .decimal := by
  obtain ⟨resolution, rule, resolved, accepts, valid, approved⟩ := exists_taxResolution
  obtain ⟨selected, isSelected⟩ := exists_selectedRule resolved valid
  obtain rfl := List.mem_singleton.mp (mem_of_selectedRule isSelected)
  have document : taxRule = .obj selected.document := (validateRuleDocument_spec accepts).1
  have fields := Json.obj.inj document
  have isFixedRate : selected.IsFixedRate := by
    simp only [RuleDocument.IsFixedRate, RuleDocument.method, RuleDocument.unit,
      RuleDocument.text, ← fields]
    decide
  have noneMissing : selected.missingDependencies Dict.empty = [] := by
    simp only [RuleDocument.missingDependencies, RuleDocument.dependencies, ← fields]
    decide
  obtain ⟨⟨rounded, scale⟩, evaluated⟩ := Checks.exists_eq_ok
    ((validateRoundingPolicy fourPlacePolicy true).bind fun accepted =>
      (inputDecimal (.str "0.06") accepted .ruleValueInvalid).bind fun value =>
        quantize value accepted .ruleComponentResult .decimal) (by decide +kernel)
  obtain ⟨accepted, isAccepted, evaluated⟩ := Checks.bind_eq_ok.mp evaluated
  obtain ⟨number, isNumber, isRounded⟩ := Checks.bind_eq_ok.mp evaluated
  obtain ⟨signature, isSignature⟩ :
      ∃ signature, selected.signatureOfType .decimal = .ok signature := by
    simp only [RuleDocument.signatureOfType, RuleDocument.unit, RuleDocument.text, ← fields]
    exact ⟨_, rfl⟩
  have isDecimal := valueType_of_signature isSignature
  obtain ⟨value, made⟩ : ∃ value, makeValid (.number rounded) signature
      [resolution.traceId, selected.contentHash] = .ok value := by
    rw [makeValid, dif_pos (by rw [Payload.hasType, isDecimal]; rfl)]
    exact ⟨_, rfl⟩
  have notMonetary : ¬selected.isMonetary = true := by
    simp only [RuleDocument.isMonetary, RuleDocument.unit, RuleDocument.text, ← fields]
    decide
  have given : member selected.document "value" = .str "0.06" := by
    rw [← fields]
    rfl
  have isFixed : evaluateFixedValue selected resolution.traceId accepted =
      .ok (valueToDict value (some scale)) := by
    rw [evaluateFixedValue, given, isNumber, if_neg notMonetary, Checks.ok_bind]
    dsimp only
    rw [isRounded, Checks.ok_bind]
    dsimp only
    rw [isSignature, Checks.ok_bind, made]
    rfl
  refine ⟨resolution, selected, valueToDict value (some scale), resolved, valid, isFixedRate,
    noneMissing, ?_,
    (congrArg Signature.valueType (makeValid_eq_ok.mp made).2.1).trans isDecimal⟩
  have notExpression : ¬selected.method = "SAFE_EXPRESSION" := by
    rw [isFixedRate.1]
    decide
  rw [evaluateTrusted, resolutionState_toObject, valid]
  dsimp only
  rw [isSelected]
  dsimp only
  have passes : check (selected.status.isApproved = true) .ruleNotApproved = .ok () :=
    check_eq_ok.mpr approved
  rw [evaluateRule, passes, Checks.ok_bind, noneMissing]
  dsimp only
  have noInputs : parseInputs (Dict.empty : Dict String Json).entries = .ok [] := rfl
  rw [isAccepted, Checks.ok_bind, if_neg notExpression, evaluateMethod, noInputs,
    Checks.ok_bind, if_neg notExpression, if_pos isFixedRate.1, isFixed]

/-- The evaluator returns a value whose signature is not the declared one. -/
theorem exists_signature_mismatch :
    ∃ resolution rule declared result used,
      resolveSnapshot [taxRule] juneContext = .ok (resolution, [rule]) ∧
      resolution.state = .valid ∧
      selectedRule resolution.toObject [rule] = some rule ∧
      evaluateResolvedRule (.obj resolution.toObject) [taxRule] Dict.empty fourPlacePolicy
        (register resolution [rule] []) = (.ok result, used) ∧
      rule.signature = .ok declared ∧ declared.valueType = .rate ∧
      result.signature.valueType = .decimal := by
  obtain ⟨resolution, rule, result, resolved, valid, isFixedRate, -, evaluated, isDecimal⟩ :=
    exists_taxResult
  obtain ⟨selected, isSelected⟩ := exists_selectedRule resolved valid
  obtain rfl := List.mem_singleton.mp (mem_of_selectedRule isSelected)
  obtain ⟨used, made⟩ := evaluateResolvedRule_registered resolved Dict.empty fourPlacePolicy []
  rw [evaluated] at made
  exact ⟨resolution, selected, .rate, result, used, resolved, valid, isSelected, made,
    RuleDocument.signature_of_rate isFixedRate.2, rfl, isDecimal⟩

theorem evaluateResolvedRule_signature_iff_tax :
    ∃ (resolution : RuleResolution) (rule : RuleDocument) (declared : Signature)
      (result : ValueDict),
      resolveSnapshot [taxRule] juneContext = .ok (resolution, [rule]) ∧
      rule.signature = .ok declared ∧
      (result.signature = declared ↔
        ¬(rule.IsFixedRate ∧ rule.missingDependencies Dict.empty = [])) := by
  obtain ⟨resolution, rule, result, resolved, valid, -, -, evaluated, -⟩ := exists_taxResult
  obtain ⟨used, made⟩ := evaluateResolvedRule_registered resolved Dict.empty fourPlacePolicy []
  rw [evaluated] at made
  obtain ⟨selected, declared, isSelected, isDeclared, same⟩ :=
    evaluateResolvedRule_signature_iff (openReplay_of_resolveSnapshot resolved)
      ((resolutionState_toObject resolution).trans (congrArg some valid)) made
  obtain rfl := List.mem_singleton.mp (mem_of_selectedRule isSelected)
  exact ⟨resolution, selected, declared, result, resolved, isDeclared, same⟩

end Finance
end QuantumAnalytics
