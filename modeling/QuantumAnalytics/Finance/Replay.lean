import QuantumAnalytics.Finance.RuleSelection
import QuantumAnalytics.Foundations.RecencyCache

/-!
# Replay of resolutions

A resolution is evaluated only if it was returned by an earlier `resolve_rule` for
the same rules. The resolutions are remembered by their trace ids in a cache that
forgets the one that was used least recently.
-/

namespace QuantumAnalytics
namespace Finance

/-! ### Registered resolutions -/

/-- `_CACHE_LIMIT`. -/
def cacheLimit : Nat := 4096

/-- `_TRACES`: resolutions and the fingerprints of their rules by trace id. -/
abbrev TraceCache := RecencyCache String (JsonObject × String)

/-- The document of a rule. -/
def RuleDocument.toJson (rule : RuleDocument) : Json := .obj rule.document

/-- `_snapshot`. -/
def snapshot (rules : List Json) : Result (List RuleDocument) := do
  let documents ← rules.mapM validateRuleDocument
  return documents.insertionSort fun left right => left.sortKey ≤ right.sortKey

/-- `{"rules": list(rules)}`. -/
def rulesDocument (documents : List RuleDocument) : JsonObject :=
  [("rules", .arr (documents.map RuleDocument.toJson))]

/-- `_fingerprint`. -/
def fingerprint (documents : List RuleDocument) : String :=
  canonicalHash (rulesDocument documents) []

/-- A resolution as a mapping. -/
def RuleResolution.toObject (resolution : RuleResolution) : JsonObject :=
  resolution.tracedMembers ++ [("trace_id", .str resolution.traceId)]

/-- `_register`. -/
def register (resolution : RuleResolution) (documents : List RuleDocument) (cache : TraceCache) :
    TraceCache :=
  RecencyCache.store cacheLimit resolution.traceId (resolution.toObject, fingerprint documents)
    cache

/-- `resolve_rule` up to the registration, with the sorted rules. -/
def resolveSnapshot (rules : List Json) (context : Json) :
    Result (RuleResolution × List RuleDocument) := do
  let documents ← snapshot rules
  let resolution ← resolveRule (documents.map RuleDocument.toJson) context
  return (resolution, documents)

/-! ### The check of a resolution -/

/-- `isinstance(value, bool)`, with the truth value. -/
def bool? : Json → Option Bool
  | .bool value => some value
  | _ => none

/-- The items of a list. -/
def items? : Json → Option (List Json)
  | .arr items => some items
  | _ => none

/-- The members of a mapping with the given keys. -/
def mapping? (required : List String) : Json → Option JsonObject
  | .obj fields => if hasExactKeys fields required = true then some fields else none
  | _ => none

/-- The check of one candidate, with whether it is selected. -/
def validateCandidate (candidate : Json) : Result Bool := do
  let fields ← requireSome
    (mapping? ["rule", "eligible", "selected", "exclusion_reasons", "ordering_tuple"] candidate)
    (.finance .ruleResolutionInvalid)
  let eligible ← requireSome (bool? (member fields "eligible")) (.finance .ruleResolutionInvalid)
  let selected ← requireSome (bool? (member fields "selected")) (.finance .ruleResolutionInvalid)
  let _ ← requireSome (mapping? ["rule_id", "version", "content_hash"] (member fields "rule"))
    (.finance .ruleResolutionInvalid)
  let reasons ← requireSome (items? (member fields "exclusion_reasons"))
    (.finance .ruleResolutionInvalid)
  check (reasons.all isNonemptyString = true) .ruleResolutionInvalid
  check (selected = true → eligible = true ∧ reasons.isEmpty = true ∧
    isNull (member fields "ordering_tuple") = false) .ruleResolutionInvalid
  return selected

/-- The members of a resolution. -/
def resolutionKeys : List String :=
  ["resolver_contract_version", "context_hash", "state", "diagnostic_code", "candidates", "actor",
    "resolved_at", "trace_id"]

/-- `_validate_envelope`, with the members and the trace id. -/
def validateEnvelope (resolution : Json) : Result (JsonObject × String) := do
  let fields ← requireSome (mapping? resolutionKeys resolution) (.finance .ruleResolutionInvalid)
  check (text? (member fields "resolver_contract_version") = some resolverContractVersion)
    .ruleResolutionInvalid
  let state ← lookUpOr (oneOf ["VALID", "BLOCKED", "CONFLICT", "UNAVAILABLE"])
    (member fields "state") .ruleResolutionInvalid
  let _ ← requireSome ((text? (member fields "context_hash")).filter PyText.isHexDigest)
    (.finance .ruleResolutionInvalid)
  let traceId ← requireSome ((text? (member fields "trace_id")).filter PyText.isHexDigest)
    (.finance .ruleResolutionInvalid)
  check (isNonemptyString (member fields "actor") = true) .ruleResolutionInvalid
  let _ ← parseRfc3339 (member fields "resolved_at") .ruleResolutionInvalid
  check (canonicalHash fields ["trace_id"] = traceId) .ruleResolutionTraceMismatch
  check (state = "VALID" ↔ isNull (member fields "diagnostic_code") = true) .ruleResolutionInvalid
  let candidates ← requireSome (items? (member fields "candidates"))
    (.finance .ruleResolutionInvalid)
  let selected ← candidates.mapM validateCandidate
  check (selected.count true = if state = "VALID" then 1 else 0) .ruleResolutionInvalid
  return (fields, traceId)

/-- `evaluate_resolved_rule` before the replay check: the members and the trace id
of the resolution, and the sorted rules. -/
def openReplay (resolution : Json) (rules : List Json) :
    Result (JsonObject × String × List RuleDocument) := do
  let documents ← snapshot rules
  let (fields, traceId) ← validateEnvelope resolution
  return (fields, traceId, documents)

/-- `_trusted`: a trace that is found becomes the last used one, whatever comes of
the comparison. -/
def trusted (fields : JsonObject) (traceId : String) (documents : List RuleDocument)
    (cache : TraceCache) : Bool × TraceCache :=
  match RecencyCache.lookup traceId cache with
  | some (expectedResolution, expectedRules) =>
      (Json.pyEqFields fields expectedResolution && fingerprint documents == expectedRules,
        RecencyCache.touch traceId cache)
  | none => (false, cache)

/-- `evaluate_resolved_rule` up to the replay check, after which the cache is not
used any more. -/
def replay (resolution : Json) (rules : List Json) (cache : TraceCache) :
    Result Unit × TraceCache :=
  match openReplay resolution rules with
  | .error raised => (.error raised, cache)
  | .ok (fields, traceId, documents) =>
      let (isTrusted, used) := trusted fields traceId documents cache
      (check (isTrusted = true) .ruleResolutionReplayMismatch, used)

/-! ### Runs -/

/-- A rule as it is passed to a call, with the members of a mapping in key order. -/
structure RuleInput where
  /-- The document. -/
  document : Json
  /-- Members are listed in key order. -/
  ordered : ∀ fields, document = .obj fields →
    fields.Pairwise fun left right => left.1 < right.1

/-- The documents of rules. -/
def documentsOf (rules : List RuleInput) : List Json := rules.map RuleInput.document

/-- A call of the resolver or of the evaluator. -/
inductive Call
  | resolve (rules : List RuleInput) (context : Json)
  | evaluate (resolution : Json) (rules : List RuleInput)

/-- The cache, and the traces that were registered or touched, the last one in front. -/
structure TraceState where
  cache : TraceCache
  history : List String

/-- The trace that a call registers, or that it finds. -/
def TraceState.used (state : TraceState) : Call → Option String
  | .resolve rules context =>
      match resolveSnapshot (documentsOf rules) context with
      | .ok (resolution, _) => some resolution.traceId
      | .error _ => none
  | .evaluate resolution rules =>
      match openReplay resolution (documentsOf rules) with
      | .ok (_, traceId, _) =>
          if traceId ∈ RecencyCache.keys state.cache then some traceId else none
      | .error _ => none

/-- The cache after a call. -/
def TraceState.cacheAfter (state : TraceState) : Call → TraceCache
  | .resolve rules context =>
      match resolveSnapshot (documentsOf rules) context with
      | .ok (resolution, documents) => register resolution documents state.cache
      | .error _ => state.cache
  | .evaluate resolution rules => (replay resolution (documentsOf rules) state.cache).2

/-- One call. -/
def TraceState.step (state : TraceState) (call : Call) : TraceState where
  cache := state.cacheAfter call
  history := (state.used call).toList ++ state.history

/-- The state after calls that start with an empty cache. -/
def TraceState.after (calls : List Call) : TraceState := calls.foldl TraceState.step ⟨[], []⟩

/-! ### What is hashed -/

/-- The document of a rule without the digest that it states. -/
def hashedRule : Json → List Json
  | .obj fields => [.obj (fields.filter fun field => field.1 ∉ ["content_hash"])]
  | _ => []

/-- The documents that a call hashes. -/
def Call.hashed : Call → List Json
  | .resolve rules context =>
      (documentsOf rules).flatMap hashedRule ++
        match resolveSnapshot (documentsOf rules) context with
        | .ok (resolution, documents) =>
            [.obj resolution.tracedMembers, .obj (rulesDocument documents)]
        | .error _ => []
  | .evaluate resolution rules =>
      (documentsOf rules).flatMap hashedRule ++
        match openReplay resolution (documentsOf rules) with
        | .ok (fields, _, documents) =>
            [.obj (fields.filter fun field => field.1 ∉ ["trace_id"]),
              .obj (rulesDocument documents)]
        | .error _ => []

/-- Different documents that the calls hash have different digests. -/
def CollisionFree (calls : List Call) : Prop :=
  Set.InjOn canonicalJsonHash {document | ∃ call ∈ calls, document ∈ call.hashed}

/-! ### Rules that were accepted -/

theorem mapping?_eq_some
    {required : List String}
    {document : Json}
    {fields : JsonObject} :
    mapping? required document = some fields ↔
      document = .obj fields ∧ hasExactKeys fields required = true := by
  cases document with
  | obj members =>
      simp only [mapping?, Json.obj.injEq]
      split
      next hasKeys =>
        rw [Option.some.injEq]
        exact ⟨fun same => ⟨same, same ▸ hasKeys⟩, fun same => same.1⟩
      next lacks =>
        constructor
        · rintro ⟨⟩
        · rintro ⟨rfl, hasKeys⟩
          exact absurd hasKeys lacks
  | _ => simp [mapping?]

theorem text?_eq_some
    {value : Json}
    {text : String} : text? value = some text ↔ value = .str text := by
  cases value with
  | str other => rw [text?, Option.some.injEq, Json.str.injEq]
  | _ => simp [text?]

/-- A rule document that was accepted is a mapping, which states the digest of its
other members. -/
theorem validateRuleDocument_spec
    {rule : Json}
    {document : RuleDocument}
    (valid : validateRuleDocument rule = .ok document) :
    rule = document.toJson ∧ member document.document "content_hash" = .str document.contentHash ∧
      canonicalHash document.document ["content_hash"] = document.contentHash := by
  cases rule with
  | obj fields =>
      simp only [validateRuleDocument, Checks.bind_eq_ok, Checks.pure_eq_ok, check_eq_ok,
        Checks.requireSome_eq_ok, Option.filter_eq_some_iff, text?_eq_some] at valid
      obtain ⟨-, -, -, -, -, -, contentHash, ⟨isHash, -⟩, -, digest, -, -, -, -, -, -, -, -, -, -,
        -, -, -, -, -, -, -, -, -, -, -, -, -, -, -, -, -, -, -, -, -, -, -, -, -, -, -, -, -, -, -,
        -, -, -, -, rfl⟩ := valid
      exact ⟨rfl, isHash, digest⟩
  | _ => cases valid

/-! ### Digests determine rules -/

/-- A member with a key of its own splits off a mapping. -/
theorem perm_cons_filter
    {fields : JsonObject}
    (ordered : fields.Pairwise fun left right => left.1 < right.1)
    {key : String}
    {value : Json}
    (isMember : Json.lookup fields key = some value) :
    fields.Perm ((key, value) :: fields.filter fun field => field.1 ∉ [key]) := by
  induction fields with
  | nil => cases isMember
  | cons field fields inductionHypothesis =>
      obtain ⟨below, orderedRest⟩ := List.pairwise_cons.mp ordered
      by_cases isKey : field.1 = key
      · rw [Json.lookup, List.find?_cons_of_pos (by simpa using isKey)] at isMember
        have others : fields.filter (fun other => other.1 ∉ [key]) = fields := by
          rw [List.filter_eq_self]
          intro other listed
          have apart := ne_of_gt (below other listed)
          rw [isKey] at apart
          simpa using apart
        rw [List.filter_cons_of_neg (by simpa using isKey), others, ← isKey,
          ← Option.some.inj isMember]
      · rw [Json.lookup, List.find?_cons_of_neg (by simpa using isKey)] at isMember
        rw [List.filter_cons_of_pos (by simpa using isKey)]
        exact ((inductionHypothesis orderedRest isMember).cons field).trans
          (List.Perm.swap (key, value) field _)

/-- A mapping in key order is determined by one of its members and the others. -/
theorem eq_of_filter_eq
    {left right : JsonObject}
    (leftOrdered : left.Pairwise fun first second => first.1 < second.1)
    (rightOrdered : right.Pairwise fun first second => first.1 < second.1)
    {key : String}
    {value : Json}
    (leftMember : Json.lookup left key = some value)
    (rightMember : Json.lookup right key = some value)
    (same : (left.filter fun field => field.1 ∉ [key]) =
      right.filter fun field => field.1 ∉ [key]) : left = right := by
  have perm := perm_cons_filter leftOrdered leftMember
  rw [same] at perm
  refine List.Perm.eq_of_pairwise ?_ leftOrdered rightOrdered
    (perm.trans (perm_cons_filter rightOrdered rightMember).symm)
  exact fun first second _ _ below above => absurd below (lt_asymm above)

/-- A rule that some call was given in a run that hashes the given documents. -/
structure IsGiven (hashed : Set Json) (rule : RuleDocument) : Prop where
  /-- The document was accepted. -/
  valid : validateRuleDocument rule.toJson = .ok rule
  /-- Members are in key order. -/
  ordered : rule.document.Pairwise fun left right => left.1 < right.1
  /-- The content was hashed. -/
  content : .obj (rule.document.filter fun field => field.1 ∉ ["content_hash"]) ∈ hashed

/-- A text member is looked up. -/
theorem lookup_of_member
    {fields : JsonObject}
    {key text : String}
    (isMember : member fields key = .str text) : Json.lookup fields key = some (.str text) := by
  unfold member at isMember
  cases found : Json.lookup fields key with
  | none => rw [found] at isMember; cases isMember
  | some value =>
      rw [found] at isMember
      exact congrArg some isMember

/-- Sorted rules are in the order of their keys. -/
theorem pairwise_sortKey (rules : List RuleDocument) :
    (rules.insertionSort fun left right => left.sortKey ≤ right.sortKey).Pairwise
      fun left right => left.sortKey ≤ right.sortKey :=
  @List.pairwise_insertionSort RuleDocument (fun left right => left.sortKey ≤ right.sortKey) _
    ⟨fun _ _ => le_total _ _⟩ ⟨fun _ _ _ => le_trans⟩ rules

section Injective

variable {hashed : Set Json} (injective : Set.InjOn canonicalJsonHash hashed)

include injective

/-- The stated digest determines the rule. -/
theorem IsGiven.eq_of_contentHash
    {left right : RuleDocument}
    (leftGiven : IsGiven hashed left)
    (rightGiven : IsGiven hashed right)
    (same : left.contentHash = right.contentHash) : left = right := by
  obtain ⟨-, leftMember, leftDigest⟩ := validateRuleDocument_spec leftGiven.valid
  obtain ⟨-, rightMember, rightDigest⟩ := validateRuleDocument_spec rightGiven.valid
  rw [← leftDigest, ← rightDigest, canonicalHash_eq, canonicalHash_eq] at same
  have contents := Json.obj.inj (injective leftGiven.content rightGiven.content same)
  have hashes : left.contentHash = right.contentHash := by
    rw [← leftDigest, ← rightDigest, canonicalHash, canonicalHash, contents]
  have documents : left.document = right.document :=
    eq_of_filter_eq leftGiven.ordered rightGiven.ordered (lookup_of_member leftMember)
      (hashes ▸ lookup_of_member rightMember) contents
  have leftValid := leftGiven.valid
  rw [RuleDocument.toJson, documents] at leftValid
  exact Except.ok.inj (leftValid.symm.trans rightGiven.valid)

/-- Sorting does not depend on the order in which the rules are given. -/
theorem insertionSort_eq_of_perm
    {rules others : List RuleDocument}
    (given : ∀ rule ∈ rules, IsGiven hashed rule)
    (perm : rules.Perm others) :
    (rules.insertionSort fun left right => left.sortKey ≤ right.sortKey) =
      others.insertionSort fun left right => left.sortKey ≤ right.sortKey := by
  refine List.Perm.eq_of_pairwise ?_ (pairwise_sortKey rules) (pairwise_sortKey others)
    ((List.perm_insertionSort _ rules).trans (perm.trans (List.perm_insertionSort _ others).symm))
  intro left right isLeft isRight below above
  have keys := le_antisymm below above
  have leftGiven := given left ((List.perm_insertionSort _ rules).mem_iff.mp isLeft)
  have rightGiven := given right
    (perm.mem_iff.mpr ((List.perm_insertionSort _ others).mem_iff.mp isRight))
  refine leftGiven.eq_of_contentHash injective rightGiven ?_
  exact congrArg (fun key => (ofLex (ofLex key).2).2) keys

end Injective

/-! ### Resolutions that were returned -/

/-- What a resolution is made of. -/
theorem resolveRule_spec
    {rules : List Json}
    {context : Json}
    {resolution : RuleResolution}
    (resolved : resolveRule rules context = .ok resolution) :
    ∃ accepted given selected, validateContext context = .ok accepted ∧
      rules.mapM validateRuleDocument = .ok given ∧
      let normalized := given.insertionSort fun left right => left.sortKey ≤ right.sortKey
      decideResolution (eligibleRows accepted normalized) (normalized.map (candidateOf accepted)) =
          (resolution.state, resolution.diagnosticCode, selected) ∧
        resolution.candidates = candidatesSelecting accepted normalized selected ∧
        resolution.contextHash = canonicalHash accepted.document [] ∧
        resolution.actor = accepted.actor ∧ resolution.resolvedAt = accepted.resolvedAt ∧
        resolution.traceId = canonicalHash resolution.tracedMembers [] := by
  rw [resolveRule, Checks.bind_eq_ok] at resolved
  obtain ⟨accepted, contextValid, resolved⟩ := resolved
  rw [Checks.bind_eq_ok] at resolved
  obtain ⟨given, rulesValid, resolved⟩ := resolved
  refine ⟨accepted, given, ?_⟩
  dsimp only at resolved ⊢
  generalize (given.insertionSort fun left right => left.sortKey ≤ right.sortKey) = normalized
    at resolved ⊢
  obtain ⟨state, diagnosticCode, selected, decision⟩ :
      ∃ state diagnosticCode selected, decideResolution (eligibleRows accepted normalized)
        (normalized.map (candidateOf accepted)) = (state, diagnosticCode, selected) :=
    ⟨_, _, _, rfl⟩
  rw [decision] at resolved
  obtain rfl := Except.ok.inj resolved
  exact ⟨selected, contextValid, rulesValid, decision, rfl, rfl, rfl, rfl, rfl⟩

/-- A resolution is valid without a diagnostic, or it is not and has one. -/
theorem decideResolution_state
    {rows : List (RuleDocument × Nat)}
    {candidates : List RuleCandidate}
    {state : ValueState}
    {diagnosticCode : Option RuleDiagnostic}
    {selected : Option Nat}
    (decision : decideResolution rows candidates = (state, diagnosticCode, selected)) :
    (state = .valid ∧ diagnosticCode = none) ∨
      ((state = .nonvalid .conflict ∨ state = .nonvalid .blocked) ∧
        ∃ diagnostic, diagnosticCode = some diagnostic) := by
  unfold decideResolution at decision
  split at decision
  next =>
    rw [Prod.mk.injEq, Prod.mk.injEq] at decision
    obtain ⟨rfl, rfl, -⟩ := decision
    exact .inr ⟨.inl rfl, _, rfl⟩
  next =>
    split at decision
    next =>
      rw [Prod.mk.injEq, Prod.mk.injEq] at decision
      obtain ⟨rfl, rfl, -⟩ := decision
      exact .inr ⟨.inr rfl, _, rfl⟩
    next =>
      split at decision
      next =>
        rw [Prod.mk.injEq, Prod.mk.injEq] at decision
        obtain ⟨rfl, rfl, -⟩ := decision
        exact .inl ⟨rfl, rfl⟩
      next =>
        rw [Prod.mk.injEq, Prod.mk.injEq] at decision
        obtain ⟨rfl, rfl, -⟩ := decision
        exact .inr ⟨.inl rfl, _, rfl⟩

/-- A candidate is that of a rule, and a selected one is eligible. -/
theorem candidate_of_mem
    {context : RuleContext}
    {rules : List RuleDocument}
    {selected : Option Nat}
    {candidate : RuleCandidate}
    (listed : candidate ∈ candidatesSelecting context rules selected) :
    ∃ rule ∈ rules, ∃ isSelected,
      candidate = { candidateOf context rule with selected := isSelected } := by
  obtain ⟨⟨unselected, index⟩, isRow, rfl⟩ := List.mem_map.mp listed
  obtain ⟨rule, isRule, rfl⟩ := List.mem_map.mp (List.fst_mem_of_mem_zipIdx isRow)
  exact ⟨rule, isRule, _, rfl⟩

/-- The candidates are the rules in their order. -/
theorem map_rule_candidatesSelecting
    (context : RuleContext)
    (rules : List RuleDocument)
    (selected : Option Nat) :
    (candidatesSelecting context rules selected).map RuleCandidate.rule =
      rules.map RuleDocument.ref := by
  have rows : rules = rules.zipIdx.map Prod.fst := by simp
  rw [candidatesSelecting, List.zipIdx_map, List.map_map, List.map_map]
  conv_rhs => rw [rows, List.map_map]
  rfl

/-- A candidate without contradictions is accepted. -/
theorem validateCandidate_toJson
    {candidate : RuleCandidate}
    (reasons : ∀ reason ∈ candidate.exclusionReasons, reason ≠ "")
    (whenSelected : candidate.selected = true → candidate.eligible = true ∧
      candidate.exclusionReasons = [] ∧ candidate.orderingTuple.isSome = true) :
    validateCandidate candidate.toJson = .ok candidate.selected := by
  have texts : (candidate.exclusionReasons.map Json.str).all isNonemptyString = true := by
    rw [List.all_map, List.all_eq_true]
    exact fun reason listed => decide_eq_true (reasons reason listed)
  simp only [validateCandidate, Checks.bind_eq_ok, Checks.requireSome_eq_ok, check_eq_ok,
    Checks.pure_eq_ok]
  refine ⟨_, rfl, candidate.eligible, rfl, candidate.selected, rfl, _, rfl, _, rfl, (), texts, (),
    fun isSelected => ?_, rfl⟩
  obtain ⟨eligible, empty, ordered⟩ := whenSelected isSelected
  obtain ⟨_, isOrdering⟩ := Option.isSome_iff_exists.mp ordered
  refine ⟨eligible, by rw [empty]; rfl, ?_⟩
  rcases candidate with ⟨rule, isEligible, isSelected, exclusions, ordering⟩
  obtain rfl : ordering = some _ := isOrdering
  rfl

/-- The texts of the reasons are not empty. -/
theorem exclusion_text_ne_empty (reason : Exclusion) : reason.text ≠ "" := by
  cases reason with
  | dimensionMismatch field => cases field <;> decide
  | _ => decide

/-- A time is read with any code. -/
theorem parseRfc3339_eq_ok
    {value : Json}
    {code : FinanceCode}
    {time : DateTime}
    (parsed : parseRfc3339 value code = .ok time)
    (other : FinanceCode) : parseRfc3339 value other = .ok time := by
  simp only [parseRfc3339, Checks.bind_eq_ok, Checks.requireSome_eq_ok, check_eq_ok,
    Checks.pure_eq_ok] at parsed ⊢
  exact parsed

/-- What the actor and the time of a context are. -/
theorem validateContext_spec
    {context : Json}
    {accepted : RuleContext}
    (valid : validateContext context = .ok accepted) :
    accepted.actor ≠ "" ∧
      ∃ time, parseRfc3339 (.str accepted.resolvedAt) .ruleContextInvalid = .ok time := by
  cases context with
  | obj fields =>
      simp only [validateContext, Checks.bind_eq_ok, Checks.pure_eq_ok, check_eq_ok,
        Checks.requireSome_eq_ok, nonemptyString?, Option.filter_eq_some_iff,
        text?_eq_some] at valid
      obtain ⟨-, -, -, -, -, -, actor, ⟨-, nonempty⟩, -, -, -, -, -, -, time, parsed, resolvedAt,
        isText, rfl⟩ := valid
      exact ⟨of_decide_eq_true nonempty, time, isText ▸ parsed⟩
  | _ => cases valid

/-- The members that the trace id digests are all others. -/
theorem filter_toObject (resolution : RuleResolution) :
    (resolution.toObject.filter fun field => field.1 ∉ ["trace_id"]) = resolution.tracedMembers :=
  rfl

theorem canonicalHash_toObject (resolution : RuleResolution) :
    canonicalHash resolution.toObject ["trace_id"] = canonicalHash resolution.tracedMembers [] := by
  rw [canonicalHash, filter_toObject]
  rfl

/-- A resolution that was returned passes the check of a resolution. -/
theorem validateEnvelope_toObject
    {rules : List Json}
    {context : Json}
    {resolution : RuleResolution}
    (resolved : resolveRule rules context = .ok resolution) :
    validateEnvelope (.obj resolution.toObject) = .ok (resolution.toObject, resolution.traceId) := by
  obtain ⟨accepted, given, selected, contextValid, -, decision, candidates, contextHash, actor,
    resolvedAt, traceId⟩ := resolveRule_spec resolved
  obtain ⟨nonempty, time, parsed⟩ := validateContext_spec contextValid
  have resolves := resolvesAs_of_decision decision candidates
  have isHex : ∀ fields exclude, PyText.isHexDigest (canonicalHash fields exclude) = true :=
    fun _ _ => canonicalHash_eq _ _ ▸ isHexDigest_canonicalJsonHash _
  have state := decideResolution_state decision
  have isState : lookUpOr (oneOf ["VALID", "BLOCKED", "CONFLICT", "UNAVAILABLE"])
      (.str resolution.state.text) .ruleResolutionInvalid = .ok resolution.state.text := by
    rcases state with ⟨isValid, -⟩ | ⟨isConflict | isBlocked, -⟩
    · rw [isValid]; rfl
    · rw [isConflict]; rfl
    · rw [isBlocked]; rfl
  have validText : resolution.state.text = "VALID" ↔ resolution.state = .valid := by
    rcases state with ⟨isValid, -⟩ | ⟨isConflict | isBlocked, -⟩
    · simp [isValid, ValueState.text]
    · simp [isConflict, ValueState.text, NonvalidState.text]
    · simp [isBlocked, ValueState.text, NonvalidState.text]
  have diagnosed : resolution.state.text = "VALID" ↔
      isNull (optionalText (resolution.diagnosticCode.map RuleDiagnostic.text)) = true := by
    rw [validText]
    rcases state with ⟨isValid, none⟩ | ⟨notValid, diagnostic, isSome⟩
    · simp [isValid, none, optionalText, isNull]
    · rw [isSome]
      rcases notValid with isConflict | isBlocked
      · simp [isConflict, optionalText, isNull]
      · simp [isBlocked, optionalText, isNull]
  have accepts : ∀ candidate ∈ resolution.candidates,
      validateCandidate candidate.toJson = .ok candidate.selected := by
    intro candidate listed
    obtain ⟨order, -, aligned⟩ := resolves.considered
    obtain ⟨considered, -, -, eligible, isSelected⟩ := Checks.exists_left_of_mem aligned listed
    obtain ⟨rule, -, _, rfl⟩ := candidate_of_mem (candidates ▸ listed)
    apply validateCandidate_toJson
    · intro reason isReason
      obtain ⟨exclusion, -, rfl⟩ := List.mem_map.mp (mem_sortedSet.mp isReason)
      exact exclusion_text_ne_empty exclusion
    · intro chosen
      have isEligible := eligible.mpr (isSelected.mp chosen).2.1
      have noExclusion : rule.exclusions accepted = [] := List.isEmpty_iff.mp isEligible
      refine ⟨isEligible, ?_, ?_⟩
      · simp [candidateOf, noExclusion, sortedSet]
      · simp [candidateOf, noExclusion]
  have checked : (resolution.candidates.map RuleCandidate.toJson).mapM validateCandidate =
      .ok (resolution.candidates.map RuleCandidate.selected) := by
    rw [Checks.mapM_eq_ok, List.forall₂_map_left_iff, List.forall₂_map_right_iff, List.forall₂_same]
    exact accepts
  have count : (resolution.candidates.map RuleCandidate.selected).count true =
      if resolution.state.text = "VALID" then 1 else 0 := by
    simp only [validText, ← resolves.selected, List.count, List.countP_map]
    congr 1
    funext candidate
    exact beq_true _
  simp only [validateEnvelope, Checks.bind_eq_ok, Checks.requireSome_eq_ok, check_eq_ok,
    Checks.pure_eq_ok]
  refine ⟨resolution.toObject, rfl, (), rfl, resolution.state.text, isState,
    resolution.contextHash, ?_, resolution.traceId, ?_, (), ?_, time, ?_, (), ?_, (), diagnosed, _,
    rfl, _, checked, (), count, rfl⟩
  · rw [Option.filter_eq_some_iff]
    exact ⟨rfl, contextHash ▸ isHex _ _⟩
  · rw [Option.filter_eq_some_iff]
    exact ⟨rfl, traceId ▸ isHex _ _⟩
  · rw [← actor] at nonempty
    exact decide_eq_true nonempty
  · rw [← resolvedAt] at parsed
    exact parseRfc3339_eq_ok parsed _
  · rw [canonicalHash_toObject, ← traceId]

/-! ### Traces determine resolutions and rules -/

/-- The rules of a snapshot are those that were given, sorted. -/
theorem snapshot_eq_ok
    {rules : List Json}
    {documents : List RuleDocument} :
    snapshot rules = .ok documents ↔ ∃ given, rules.mapM validateRuleDocument = .ok given ∧
      (given.insertionSort fun left right => left.sortKey ≤ right.sortKey) = documents := by
  simp only [snapshot, Checks.bind_eq_ok, Checks.pure_eq_ok]

/-- The rules that were given are the accepted documents. -/
theorem eq_map_toJson
    {rules : List Json}
    {given : List RuleDocument}
    (valid : rules.mapM validateRuleDocument = .ok given) :
    rules = given.map RuleDocument.toJson := by
  have each := Checks.mapM_eq_ok.mp valid
  clear valid
  induction each with
  | nil => rfl
  | cons isValid _ inductionHypothesis =>
      rw [List.map_cons, ← (validateRuleDocument_spec isValid).1, ← inductionHypothesis]

theorem mapM_toJson
    {given : List RuleDocument}
    (valid : ∀ rule ∈ given, validateRuleDocument rule.toJson = .ok rule) :
    (given.map RuleDocument.toJson).mapM validateRuleDocument = .ok given := by
  rw [Checks.mapM_eq_ok, List.forall₂_map_left_iff, List.forall₂_same]
  exact valid

/-- The rules that a call was given. -/
theorem isGiven_of_mapM
    {hashed : Set Json}
    {rules : List RuleInput}
    {given : List RuleDocument}
    (valid : (documentsOf rules).mapM validateRuleDocument = .ok given)
    (known : ∀ document ∈ (documentsOf rules).flatMap hashedRule, document ∈ hashed) :
    ∀ rule ∈ given, IsGiven hashed rule := by
  intro rule listed
  obtain ⟨document, isInput, isValid⟩ := Checks.exists_of_mem_mapM valid listed
  obtain ⟨input, inputListed, rfl⟩ := List.mem_map.mp isInput
  have isRule := (validateRuleDocument_spec isValid).1
  refine ⟨isRule ▸ isValid, input.ordered _ isRule, known _ ?_⟩
  refine List.mem_flatMap.mpr ⟨_, isInput, ?_⟩
  rw [isRule]
  exact List.mem_singleton_self _

/-- A snapshot that was resolved. -/
structure IsResolved (hashed : Set Json) (resolution : RuleResolution)
    (documents : List RuleDocument) : Prop where
  /-- The rules are known. -/
  given : ∀ rule ∈ documents, IsGiven hashed rule
  /-- The candidates are the rules in their order. -/
  refs : resolution.candidates.map RuleCandidate.rule = documents.map RuleDocument.ref
  /-- The trace id is the digest of the other members. -/
  trace : resolution.traceId = canonicalJsonHash (.obj resolution.tracedMembers)
  /-- The resolution passes the check of a resolution. -/
  envelope : validateEnvelope (.obj resolution.toObject) =
    .ok (resolution.toObject, resolution.traceId)
  /-- The other members were hashed. -/
  traced : .obj resolution.tracedMembers ∈ hashed
  /-- The rules were hashed. -/
  fingerprinted : .obj (rulesDocument documents) ∈ hashed

/-- What a call of the resolver that returned says about the run. -/
theorem isResolved_of_resolveSnapshot
    {hashed : Set Json}
    {rules : List RuleInput}
    {context : Json}
    {resolution : RuleResolution}
    {documents : List RuleDocument}
    (resolved : resolveSnapshot (documentsOf rules) context = .ok (resolution, documents))
    (known : ∀ document ∈ (Call.resolve rules context).hashed, document ∈ hashed) :
    IsResolved hashed resolution documents := by
  have isHashed : (Call.resolve rules context).hashed = (documentsOf rules).flatMap hashedRule ++
      [.obj resolution.tracedMembers, .obj (rulesDocument documents)] := by
    rw [Call.hashed, resolved]
  rw [isHashed] at known
  simp only [resolveSnapshot, Checks.bind_eq_ok, snapshot_eq_ok, Checks.pure_eq_ok,
    Prod.mk.injEq] at resolved
  obtain ⟨_, ⟨given, valid, rfl⟩, _, returned, rfl, rfl⟩ := resolved
  have perm := List.perm_insertionSort
    (fun left right : RuleDocument => left.sortKey ≤ right.sortKey) given
  have isGiven := isGiven_of_mapM valid fun document listed =>
    known document (List.mem_append_left _ listed)
  have sortedGiven : ∀ rule ∈ given.insertionSort fun left right => left.sortKey ≤ right.sortKey,
      IsGiven hashed rule := fun rule listed => isGiven rule (perm.mem_iff.mp listed)
  obtain ⟨accepted, again, selected, -, validAgain, -, candidates, -, -, -, traceId⟩ :=
    resolveRule_spec returned
  rw [mapM_toJson fun rule listed => (sortedGiven rule listed).valid] at validAgain
  obtain rfl := Except.ok.inj validAgain
  refine ⟨sortedGiven, ?_, ?_, validateEnvelope_toObject returned, known _ (by simp),
    known _ (by simp)⟩
  · have sorted := pairwise_sortKey given
    have unchanged : (given.insertionSort fun left right =>
        left.sortKey ≤ right.sortKey).insertionSort
          (fun left right => left.sortKey ≤ right.sortKey) =
          given.insertionSort fun left right => left.sortKey ≤ right.sortKey :=
      sorted.insertionSort_eq
    rw [candidates, unchanged, map_rule_candidatesSelecting]
  · rw [traceId, canonicalHash_eq]
    rfl

theorem eq_str_of_pyEq
    {value : Json}
    {text : String}
    (same : Json.pyEq value (.str text) = true) : value = .str text := by
  cases value with
  | str other => rw [eq_of_beq (show (other == text) = true by simpa [Json.pyEq] using same)]
  | _ => simp [Json.pyEq, Json.numeric?] at same

/-- A mapping that Python calls equal to another one is the same when the members
other than a text are. -/
theorem eq_of_pyEqFields
    {fields members : JsonObject}
    {key text : String}
    (same : Json.pyEqFields fields (members ++ [(key, .str text)]) = true)
    (absent : ∀ member ∈ members, member.1 ∉ [key])
    (others : (fields.filter fun field => field.1 ∉ [key]) = members) :
    fields = members ++ [(key, .str text)] := by
  induction members generalizing fields with
  | nil =>
      cases fields with
      | nil => cases same
      | cons field fields =>
          simp only [List.nil_append, Json.pyEqFields, Bool.and_eq_true, beq_iff_eq] at same
          obtain ⟨⟨isKey, value⟩, rest⟩ := same
          cases fields with
          | nil =>
              rw [List.nil_append, ← isKey, ← eq_str_of_pyEq value]
          | cons other fields => cases rest
  | cons member members inductionHypothesis =>
      cases fields with
      | nil => cases same
      | cons field fields =>
          simp only [List.cons_append, Json.pyEqFields, Bool.and_eq_true, beq_iff_eq] at same
          obtain ⟨⟨isKey, -⟩, rest⟩ := same
          obtain ⟨absentMember, absentRest⟩ := List.forall_mem_cons.mp absent
          rw [← isKey] at absentMember
          rw [List.filter_cons_of_pos (by simpa using absentMember)] at others
          obtain ⟨rfl, otherRest⟩ := List.cons.inj others
          rw [List.cons_append, ← inductionHypothesis rest absentRest otherRest]

/-- A candidate's document determines its rule. -/
theorem rule_eq_of_toJson_eq
    {left right : RuleCandidate}
    (same : left.toJson = right.toJson) : left.rule = right.rule := by
  simp only [RuleCandidate.toJson, Json.obj.injEq, List.cons.injEq, Prod.mk.injEq, true_and,
    Json.str.injEq, Json.int.injEq, and_true] at same
  obtain ⟨-, -, -, ⟨contentHash, ruleId, version⟩, -⟩ := same
  rcases left with ⟨⟨_, _, _⟩, _⟩
  rcases right with ⟨⟨_, _, _⟩, _⟩
  exact RuleRef.mk.injEq .. ▸ ⟨ruleId, version, contentHash⟩

theorem map_rule_eq_of_map_toJson_eq
    {left right : List RuleCandidate}
    (same : left.map RuleCandidate.toJson = right.map RuleCandidate.toJson) :
    left.map RuleCandidate.rule = right.map RuleCandidate.rule := by
  induction left generalizing right with
  | nil => rw [List.map_eq_nil_iff.mp same.symm]
  | cons candidate left inductionHypothesis =>
      cases right with
      | nil => cases same
      | cons other right =>
          rw [List.map_cons, List.map_cons, List.cons.injEq] at same
          rw [List.map_cons, List.map_cons, rule_eq_of_toJson_eq same.1,
            inductionHypothesis same.2]

section Injective

variable {hashed : Set Json} (injective : Set.InjOn canonicalJsonHash hashed)

include injective

/-- Known rules with the same references are the same. -/
theorem eq_of_map_ref
    {documents others : List RuleDocument}
    (given : ∀ rule ∈ documents, IsGiven hashed rule)
    (othersGiven : ∀ rule ∈ others, IsGiven hashed rule)
    (same : documents.map RuleDocument.ref = others.map RuleDocument.ref) :
    documents = others := by
  induction documents generalizing others with
  | nil => exact (List.map_eq_nil_iff.mp same.symm).symm
  | cons rule documents inductionHypothesis =>
      cases others with
      | nil => cases same
      | cons other others =>
          obtain ⟨givenRule, givenRest⟩ := List.forall_mem_cons.mp given
          obtain ⟨givenOther, othersRest⟩ := List.forall_mem_cons.mp othersGiven
          rw [List.map_cons, List.map_cons, List.cons.injEq] at same
          have hashes := congrArg RuleRef.contentHash same.1
          rw [givenRule.eq_of_contentHash injective givenOther hashes,
            inductionHypothesis givenRest othersRest same.2]

/-- A trace id determines the resolution and its rules. -/
theorem IsResolved.eq_of_traceId
    {resolution other : RuleResolution}
    {documents others : List RuleDocument}
    (resolved : IsResolved hashed resolution documents)
    (otherResolved : IsResolved hashed other others)
    (same : resolution.traceId = other.traceId) :
    resolution.toObject = other.toObject ∧ documents = others := by
  have digests := same
  rw [resolved.trace, otherResolved.trace] at digests
  have members := Json.obj.inj (injective resolved.traced otherResolved.traced digests)
  constructor
  · rw [RuleResolution.toObject, RuleResolution.toObject, members, same]
  · have candidates : resolution.candidates.map RuleCandidate.toJson =
        other.candidates.map RuleCandidate.toJson := by
      simp only [RuleResolution.tracedMembers, List.cons.injEq, Prod.mk.injEq,
        Json.arr.injEq] at members
      exact members.2.1.2
    refine eq_of_map_ref injective resolved.given otherResolved.given ?_
    rw [← resolved.refs, ← otherResolved.refs, map_rule_eq_of_map_toJson_eq candidates]

end Injective

/-! ### The cache of a run -/

/-- What holds of the cache and the history after the given calls. -/
structure TraceState.Sound (calls : List Call) (state : TraceState) : Prop where
  /-- The traces are the ones that were used last. -/
  closed : RecencyCache.keys state.cache = (RecencyCache.recent state.history).take cacheLimit
  /-- Every entry was registered by a call. -/
  registered : ∀ entry ∈ state.cache, ∃ rules context resolution documents,
    Call.resolve rules context ∈ calls ∧
      resolveSnapshot (documentsOf rules) context = .ok (resolution, documents) ∧
      entry = (resolution.traceId, resolution.toObject, fingerprint documents)
  /-- Every resolution that was returned was used. -/
  used : ∀ rules context resolution documents, Call.resolve rules context ∈ calls →
    resolveSnapshot (documentsOf rules) context = .ok (resolution, documents) →
      resolution.traceId ∈ state.history

namespace TraceState.Sound

variable {calls : List Call} {state : TraceState} (sound : state.Sound calls)

include sound

/-- A call that leaves the cache alone. -/
theorem of_unused
    {call : Call}
    (cache : state.cacheAfter call = state.cache)
    (unused : state.used call = none)
    (unresolved : ∀ rules context, call = .resolve rules context →
      ∀ value, resolveSnapshot (documentsOf rules) context ≠ .ok value) :
    (state.step call).Sound (calls ++ [call]) := by
  have isStep : state.step call = state := by
    rw [TraceState.step, cache, unused]
    rfl
  rw [isStep]
  refine ⟨sound.closed, fun entry listed => ?_, fun rules context resolution documents listed
    resolved => ?_⟩
  · obtain ⟨rules, context, resolution, documents, isCall, resolved, isEntry⟩ :=
      sound.registered entry listed
    exact ⟨rules, context, resolution, documents, List.mem_append_left _ isCall, resolved,
      isEntry⟩
  · rcases List.mem_append.mp listed with earlier | last
    · exact sound.used rules context resolution documents earlier resolved
    · exact absurd resolved (unresolved rules context (List.mem_singleton.mp last).symm _)

/-- A resolution is registered. -/
theorem step_resolve
    (rules : List RuleInput)
    (context : Json) :
    (state.step (.resolve rules context)).Sound (calls ++ [.resolve rules context]) := by
  cases outcome : resolveSnapshot (documentsOf rules) context with
  | error raised =>
      apply sound.of_unused
      · rw [TraceState.cacheAfter, outcome]
      · rw [TraceState.used, outcome]
      · rintro _ _ ⟨⟩ value resolved
        rw [outcome] at resolved
        cases resolved
  | ok value =>
      obtain ⟨resolution, documents⟩ := value
      have isStep : state.step (.resolve rules context) =
          ⟨register resolution documents state.cache, resolution.traceId :: state.history⟩ := by
        rw [TraceState.step, TraceState.cacheAfter, TraceState.used, outcome]
        rfl
      rw [isStep]
      refine ⟨RecencyCache.keys_store _ sound.closed, fun entry listed => ?_,
        fun otherRules otherContext other otherDocuments listed resolved => ?_⟩
      · rcases RecencyCache.mem_of_mem_store listed with rfl | kept
        · exact ⟨rules, context, resolution, documents,
            List.mem_append_right _ (List.mem_singleton_self _), outcome, rfl⟩
        · obtain ⟨otherRules, otherContext, other, otherDocuments, isCall, resolved, isEntry⟩ :=
            sound.registered entry kept
          exact ⟨otherRules, otherContext, other, otherDocuments, List.mem_append_left _ isCall,
            resolved, isEntry⟩
      · rcases List.mem_append.mp listed with earlier | last
        · exact List.mem_cons_of_mem _
            (sound.used otherRules otherContext other otherDocuments earlier resolved)
        · obtain ⟨rfl, rfl⟩ := Call.resolve.inj (List.mem_singleton.mp last)
          rw [outcome] at resolved
          obtain ⟨rfl, rfl⟩ := Prod.mk.inj (Except.ok.inj resolved)
          exact List.mem_cons_self

/-- An evaluation uses the trace that it finds. -/
theorem step_evaluate
    (resolution : Json)
    (rules : List RuleInput) :
    (state.step (.evaluate resolution rules)).Sound (calls ++ [.evaluate resolution rules]) := by
  have unresolved : ∀ otherRules context, Call.evaluate resolution rules =
      .resolve otherRules context →
        ∀ value, resolveSnapshot (documentsOf otherRules) context ≠ .ok value := by
    rintro _ _ ⟨⟩
  cases opened : openReplay resolution (documentsOf rules) with
  | error raised =>
      apply sound.of_unused _ _ unresolved
      · rw [TraceState.cacheAfter, replay, opened]
      · rw [TraceState.used, opened]
  | ok value =>
      obtain ⟨fields, traceId, documents⟩ := value
      cases found : RecencyCache.lookup traceId state.cache with
      | none =>
          have absent : traceId ∉ RecencyCache.keys state.cache := by
            intro present
            obtain ⟨value, isFound⟩ := RecencyCache.exists_lookup present
            rw [found] at isFound
            cases isFound
          apply sound.of_unused _ _ unresolved
          · rw [TraceState.cacheAfter, replay, opened]
            dsimp only
            rw [trusted, found]
          · rw [TraceState.used, opened]
            exact if_neg absent
      | some entry =>
          have present : traceId ∈ RecencyCache.keys state.cache :=
            List.mem_map.mpr ⟨_, RecencyCache.mem_of_lookup found, rfl⟩
          have isStep : state.step (.evaluate resolution rules) =
              ⟨RecencyCache.touch traceId state.cache, traceId :: state.history⟩ := by
            rw [TraceState.step, TraceState.cacheAfter, replay, TraceState.used, opened]
            dsimp only
            rw [trusted, found, if_pos present]
            rfl
          rw [isStep]
          refine ⟨RecencyCache.keys_touch sound.closed found, fun entry listed => ?_,
            fun otherRules context other otherDocuments listed resolved => ?_⟩
          · obtain ⟨otherRules, context, other, otherDocuments, isCall, resolved, isEntry⟩ :=
              sound.registered entry (RecencyCache.mem_of_mem_touch listed)
            exact ⟨otherRules, context, other, otherDocuments, List.mem_append_left _ isCall,
              resolved, isEntry⟩
          · rcases List.mem_append.mp listed with earlier | last
            · exact List.mem_cons_of_mem _
                (sound.used otherRules context other otherDocuments earlier resolved)
            · cases List.mem_singleton.mp last

end TraceState.Sound

/-- The state after any calls is sound. -/
theorem TraceState.sound_after (calls : List Call) : (TraceState.after calls).Sound calls := by
  induction calls using List.reverseRecOn with
  | nil => exact ⟨rfl, by simp [TraceState.after], by simp⟩
  | append_singleton calls call inductionHypothesis =>
      have isStep : TraceState.after (calls ++ [call]) = (TraceState.after calls).step call := by
        rw [TraceState.after, List.foldl_append]
        rfl
      rw [isStep]
      cases call with
      | resolve rules context => exact inductionHypothesis.step_resolve rules context
      | evaluate resolution rules => exact inductionHypothesis.step_evaluate resolution rules

/-! ### The replay check -/

/-- The replay check passes for what is stored under the trace id. -/
theorem replay_eq_ok
    {resolution : Json}
    {rules : List Json}
    {cache : TraceCache} :
    (replay resolution rules cache).1 = .ok () ↔
      ∃ fields traceId documents expectedResolution,
        openReplay resolution rules = .ok (fields, traceId, documents) ∧
        RecencyCache.lookup traceId cache = some (expectedResolution, fingerprint documents) ∧
        Json.pyEqFields fields expectedResolution = true := by
  unfold replay
  cases opened : openReplay resolution rules with
  | error raised => simp
  | ok value =>
      obtain ⟨fields, traceId, documents⟩ := value
      dsimp only
      unfold trusted
      rw [check_eq_ok]
      cases found : RecencyCache.lookup traceId cache with
      | none =>
          constructor
          · rintro ⟨⟩
          · rintro ⟨_, _, _, _, isOpened, isFound, -⟩
            obtain ⟨rfl, rfl, rfl⟩ := Prod.mk.injEq .. ▸ Except.ok.inj isOpened
            rw [found] at isFound
            cases isFound
      | some entry =>
          obtain ⟨expectedResolution, expectedRules⟩ := entry
          simp only [Bool.and_eq_true, beq_iff_eq]
          constructor
          · rintro ⟨same, rfl⟩
            exact ⟨_, _, _, _, rfl, found, same⟩
          · rintro ⟨_, _, _, _, isOpened, isFound, same⟩
            obtain ⟨rfl, rfl, rfl⟩ := Prod.mk.injEq .. ▸ Except.ok.inj isOpened
            rw [found] at isFound
            obtain ⟨rfl, rfl⟩ := Prod.mk.inj (Option.some.inj isFound)
            exact ⟨same, rfl⟩

/-- A resolution that is opened is a mapping whose trace id is the digest of its
other members. -/
theorem openReplay_spec
    {resolution : Json}
    {rules : List Json}
    {fields : JsonObject}
    {traceId : String}
    {documents : List RuleDocument}
    (opened : openReplay resolution rules = .ok (fields, traceId, documents)) :
    resolution = .obj fields ∧ snapshot rules = .ok documents ∧
      canonicalJsonHash (.obj (fields.filter fun field => field.1 ∉ ["trace_id"])) = traceId := by
  simp only [openReplay, Checks.bind_eq_ok, Checks.pure_eq_ok, Prod.mk.injEq] at opened
  obtain ⟨_, isSnapshot, ⟨_, _⟩, envelope, rfl, rfl, rfl⟩ := opened
  simp only [validateEnvelope, Checks.bind_eq_ok, Checks.requireSome_eq_ok, check_eq_ok,
    Checks.pure_eq_ok, Prod.mk.injEq, mapping?_eq_some] at envelope
  obtain ⟨members, ⟨isObject, -⟩, -, -, -, -, -, -, trace, -, -, -, -, -, -, digest, -, -, -, -, -, -,
    -, -, rfl, rfl⟩ := envelope
  exact ⟨isObject, isSnapshot, canonicalHash_eq _ _ ▸ digest⟩

/-- The rules of a snapshot are those that were given, in another order. -/
theorem perm_of_snapshot
    {rules : List Json}
    {documents : List RuleDocument}
    (isSnapshot : snapshot rules = .ok documents) :
    rules.Perm (documents.map RuleDocument.toJson) := by
  obtain ⟨given, valid, rfl⟩ := snapshot_eq_ok.mp isSnapshot
  rw [eq_map_toJson valid]
  exact (List.perm_insertionSort _ given).symm.map _

/-- Rules in another order have the same snapshot. -/
theorem snapshot_of_perm
    {hashed : Set Json}
    (injective : Set.InjOn canonicalJsonHash hashed)
    {rules : List Json}
    {others : List RuleInput}
    (perm : rules.Perm (documentsOf others))
    (known : ∀ document ∈ (documentsOf others).flatMap hashedRule, document ∈ hashed)
    {documents : List RuleDocument}
    (isSnapshot : snapshot (documentsOf others) = .ok documents) :
    snapshot rules = .ok documents := by
  obtain ⟨given, valid, rfl⟩ := snapshot_eq_ok.mp isSnapshot
  obtain ⟨reordered, validRules, samePerm⟩ :=
    List.perm_comp_forall₂ perm (Checks.mapM_eq_ok.mp valid)
  refine snapshot_eq_ok.mpr ⟨reordered, Checks.mapM_eq_ok.mpr validRules, ?_⟩
  exact (insertionSort_eq_of_perm injective (isGiven_of_mapM valid known) samePerm.symm).symm

theorem snapshot_of_resolveSnapshot
    {rules : List Json}
    {context : Json}
    {resolution : RuleResolution}
    {documents : List RuleDocument}
    (resolved : resolveSnapshot rules context = .ok (resolution, documents)) :
    snapshot rules = .ok documents := by
  simp only [resolveSnapshot, Checks.bind_eq_ok, Checks.pure_eq_ok, Prod.mk.injEq] at resolved
  obtain ⟨_, isSnapshot, _, -, -, rfl⟩ := resolved
  exact isSnapshot

/-- A call of the resolver returned the resolution for the rules in some order. -/
def ReturnedFor (calls : List Call) (rules : List RuleInput) (resolution : RuleResolution) :
    Prop :=
  ∃ others context documents, Call.resolve others context ∈ calls ∧
    resolveSnapshot (documentsOf others) context = .ok (resolution, documents) ∧
    (documentsOf others).Perm (documentsOf rules)

/-- The different traces that were registered or touched after the given one was. -/
def TraceState.tracesSince (state : TraceState) (traceId : String) : Finset String :=
  (state.history.takeWhile fun trace => trace ≠ traceId).toFinset

section Run

variable {hashed : Set Json} (injective : Set.InjOn canonicalJsonHash hashed)
  {calls : List Call} {state : TraceState} (sound : state.Sound calls)

include injective sound

/-- What passes the replay check was returned, and was used recently. -/
theorem returnedFor_of_replay
    {resolution : Json}
    {rules : List RuleInput}
    (known : ∀ call ∈ calls ++ [Call.evaluate resolution rules],
      ∀ document ∈ call.hashed, document ∈ hashed)
    (passed : (replay resolution (documentsOf rules) state.cache).1 = .ok ()) :
    ∃ returned, ReturnedFor calls rules returned ∧ resolution = .obj returned.toObject ∧
      (state.tracesSince returned.traceId).card < cacheLimit := by
  obtain ⟨fields, traceId, documents, expectedResolution, opened, found, same⟩ :=
    replay_eq_ok.mp passed
  obtain ⟨rfl, isSnapshot, digest⟩ := openReplay_spec opened
  obtain ⟨others, context, returned, otherDocuments, isCall, resolved, isEntry⟩ :=
    sound.registered _ (RecencyCache.mem_of_lookup found)
  simp only [Prod.mk.injEq] at isEntry
  obtain ⟨rfl, rfl, sameRules⟩ := isEntry
  have isResolved := isResolved_of_resolveSnapshot resolved
    (known _ (List.mem_append_left _ isCall))
  have last : ∀ document ∈ [.obj (fields.filter fun field => field.1 ∉ ["trace_id"]),
      .obj (rulesDocument documents)], document ∈ hashed := by
    intro document listed
    refine known _ (List.mem_append_right _ (List.mem_singleton_self _)) document ?_
    rw [Call.hashed, opened]
    exact List.mem_append_right _ listed
  -- The digest determines the other members, and Python's equality the trace id.
  have members := Json.obj.inj (injective (last _ List.mem_cons_self) isResolved.traced
    (digest.trans isResolved.trace))
  have isReturned : fields = returned.toObject :=
    eq_of_pyEqFields same (by simp [RuleResolution.tracedMembers]) members
  have fingerprints : canonicalJsonHash (.obj (rulesDocument documents)) =
      canonicalJsonHash (.obj (rulesDocument otherDocuments)) := by
    rw [fingerprint, fingerprint, canonicalHash_eq, canonicalHash_eq] at sameRules
    exact sameRules
  have rulesEq := injective (last _ (List.mem_cons_of_mem _ List.mem_cons_self))
    isResolved.fingerprinted fingerprints
  have texts : documents.map RuleDocument.toJson = otherDocuments.map RuleDocument.toJson := by
    simpa [rulesDocument] using rulesEq
  have perm : (documentsOf others).Perm (documentsOf rules) := by
    refine (perm_of_snapshot (snapshot_of_resolveSnapshot resolved)).trans ?_
    rw [← texts]
    exact (perm_of_snapshot isSnapshot).symm
  have present : returned.traceId ∈ RecencyCache.keys state.cache :=
    List.mem_map.mpr ⟨_, RecencyCache.mem_of_lookup found, rfl⟩
  rw [sound.closed, RecencyCache.mem_take_recent_iff] at present
  exact ⟨returned, ⟨others, context, otherDocuments, isCall, resolved, perm⟩,
    congrArg Json.obj isReturned, present.2⟩

/-- What was returned and was used recently passes the replay check. -/
theorem replay_of_returnedFor
    {rules : List RuleInput}
    {returned : RuleResolution}
    (known : ∀ call ∈ calls, ∀ document ∈ call.hashed, document ∈ hashed)
    (isReturned : ReturnedFor calls rules returned)
    (few : (state.tracesSince returned.traceId).card < cacheLimit) :
    (replay (.obj returned.toObject) (documentsOf rules) state.cache).1 = .ok () := by
  obtain ⟨others, context, documents, isCall, resolved, perm⟩ := isReturned
  have used := sound.used others context returned documents isCall resolved
  have present : returned.traceId ∈ RecencyCache.keys state.cache := by
    rw [sound.closed]
    exact RecencyCache.mem_take_recent_iff.mpr ⟨used, few⟩
  obtain ⟨value, found⟩ := RecencyCache.exists_lookup present
  -- What is stored was registered by a call with the same trace, perhaps another one.
  obtain ⟨storedRules, storedContext, stored, storedDocuments, isStored, storedResolved, isEntry⟩ :=
    sound.registered _ (RecencyCache.mem_of_lookup found)
  simp only [Prod.mk.injEq] at isEntry
  obtain ⟨sameTrace, rfl⟩ := isEntry
  have knownCall := known _ isCall
  have isResolved := isResolved_of_resolveSnapshot resolved knownCall
  have isStoredResolved := isResolved_of_resolveSnapshot storedResolved (known _ isStored)
  obtain ⟨sameObject, rfl⟩ := isResolved.eq_of_traceId injective isStoredResolved sameTrace
  rw [← sameObject] at found
  have isSnapshot : snapshot (documentsOf rules) = .ok documents := by
    refine snapshot_of_perm injective perm.symm (fun document listed => knownCall document ?_)
      (snapshot_of_resolveSnapshot resolved)
    exact List.mem_append_left _ listed
  refine replay_eq_ok.mpr ⟨_, _, documents, _, ?_, found, Json.pyEqFields_refl _⟩
  rw [openReplay, isSnapshot, Checks.ok_bind, isResolved.envelope, Checks.ok_bind]
  rfl

end Run

/-- A resolution passes the replay check with rules exactly when it is equal to one
that was returned for these rules in some order, and fewer than 4096 other traces
were registered or touched after it was. -/
theorem replay_iff
    {calls : List Call}
    {resolution : Json}
    {rules : List RuleInput}
    (collisionFree : CollisionFree (calls ++ [.evaluate resolution rules])) :
    (replay resolution (documentsOf rules) (TraceState.after calls).cache).1 = .ok () ↔
      ∃ returned, ReturnedFor calls rules returned ∧ resolution = .obj returned.toObject ∧
        ((TraceState.after calls).tracesSince returned.traceId).card < cacheLimit := by
  have sound := TraceState.sound_after calls
  have known : ∀ call ∈ calls ++ [Call.evaluate resolution rules],
      ∀ document ∈ call.hashed, document ∈
        {document | ∃ call ∈ calls ++ [Call.evaluate resolution rules], document ∈ call.hashed} :=
    fun call listed document isHashed => ⟨call, listed, isHashed⟩
  constructor
  · exact returnedFor_of_replay collisionFree sound known
  · rintro ⟨returned, isReturned, rfl, few⟩
    exact replay_of_returnedFor collisionFree sound
      (fun call listed => known call (List.mem_append_left _ listed)) isReturned few

/-- The resolver returns without any rule, and the two documents that it hashes have
different digests. -/
theorem exists_unruledResolution :
    ∃ value : RuleResolution × List RuleDocument,
      resolveSnapshot (documentsOf []) juneContext = .ok value ∧
      canonicalJsonHash (.obj value.1.tracedMembers) ≠
        canonicalJsonHash (.obj (rulesDocument value.2)) := by
  have evaluated : ((resolveSnapshot (documentsOf []) juneContext).map fun value =>
      decide (canonicalJsonHash (.obj value.1.tracedMembers) ≠
        canonicalJsonHash (.obj (rulesDocument value.2)))).toOption = some true := by
    decide +kernel
  cases outcome : resolveSnapshot (documentsOf []) juneContext with
  | error raised =>
      rw [outcome] at evaluated
      cases evaluated
  | ok value =>
      rw [outcome] at evaluated
      exact ⟨value, rfl, of_decide_eq_true (Option.some.inj evaluated)⟩

theorem replay_iff_unruled :
    ∃ returned : RuleResolution,
      CollisionFree [.resolve [] juneContext, .evaluate (.obj returned.toObject) []] ∧
      (replay (.obj returned.toObject) (documentsOf [])
        (TraceState.after [.resolve [] juneContext]).cache).1 = .ok () := by
  obtain ⟨⟨returned, documents⟩, resolved, distinct⟩ := exists_unruledResolution
  have isResolved : resolveRule (documents.map RuleDocument.toJson) juneContext = .ok returned := by
    simp only [resolveSnapshot, Checks.bind_eq_ok, Checks.pure_eq_ok, Prod.mk.injEq] at resolved
    obtain ⟨_, -, _, isReturned, rfl, rfl⟩ := resolved
    exact isReturned
  have opened : openReplay (.obj returned.toObject) (documentsOf []) =
      .ok (returned.toObject, returned.traceId, documents) := by
    rw [openReplay, snapshot_of_resolveSnapshot resolved, Checks.ok_bind,
      validateEnvelope_toObject isResolved, Checks.ok_bind]
    rfl
  have collisionFree : CollisionFree ([.resolve [] juneContext] ++
      [.evaluate (.obj returned.toObject) []]) := by
    have hashed : ∀ call ∈ [Call.resolve [] juneContext, .evaluate (.obj returned.toObject) []],
        call.hashed = [.obj returned.tracedMembers, .obj (rulesDocument documents)] := by
      simp only [List.forall_mem_cons, List.not_mem_nil, false_imp_iff, implies_true, and_true]
      constructor
      · rw [Call.hashed, resolved]
        rfl
      · rw [Call.hashed, opened]
        rfl
    rintro left ⟨call, isCall, isLeft⟩ right ⟨other, isOther, isRight⟩ same
    rw [hashed call isCall] at isLeft
    rw [hashed other isOther] at isRight
    refine List.inj_on_of_nodup_map ?_ isLeft isRight same
    exact List.nodup_cons.mpr ⟨by simpa using distinct, List.nodup_singleton _⟩
  refine ⟨returned, collisionFree, (replay_iff collisionFree).mpr ⟨returned,
    ⟨[], juneContext, documents, List.mem_singleton_self _, resolved, List.Perm.refl _⟩,
    rfl, ?_⟩⟩
  have history : (TraceState.after [.resolve [] juneContext]).history = [returned.traceId] := by
    rw [TraceState.after, List.foldl_cons, List.foldl_nil, TraceState.step, TraceState.used,
      resolved]
    rfl
  rw [TraceState.tracesSince, history, List.takeWhile_cons_of_neg (by simp)]
  decide

end Finance
end QuantumAnalytics
