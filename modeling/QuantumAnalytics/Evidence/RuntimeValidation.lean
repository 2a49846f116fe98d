import Mathlib.Data.Finset.Card
import Mathlib.Data.Finset.Union
import QuantumAnalytics.Evidence.Verification

/-!
# Runtime verification of evidence chains

The runtime verifier adds to the diagnostics of the verifier below it: times
must be written as RFC 3339 writes them, singular paths may not fork, and a
profile selects exactly the rules that the resolutions of the root select.
-/

namespace QuantumAnalytics
namespace Evidence

/-! ### Times -/

/-- A number of decimal digits at the start of a text, and the rest. -/
def digitsThen (count : Nat) (rest : List Char → Bool) (text : List Char) : Bool :=
  (text.take count).length = count && (text.take count).all (fun c =>
    (PyText.decimalDigit? c).isSome) && rest (text.drop count)

/-- One character of the given ones, and the rest. -/
def markThen (marks : List Char) (rest : List Char → Bool) : List Char → Bool
  | [] => false
  | c :: text => c ∈ marks && rest text

/-- `Z`, `z` or an offset of hours and minutes. -/
def matchesOffset (text : List Char) : Bool :=
  markThen ['Z', 'z'] List.isEmpty text ||
    markThen ['+', '-'] (digitsThen 2 (markThen [':'] (digitsThen 2 List.isEmpty))) text

/-- The fraction of a second, which may be missing, and the offset. -/
def matchesFraction : List Char → Bool
  | '.' :: text =>
      let isDigit := fun c => (PyText.decimalDigit? c).isSome
      !(text.takeWhile isDigit).isEmpty && matchesOffset (text.dropWhile isDigit)
  | text => matchesOffset text

/-- `_RFC3339_RE` on the whole text. -/
def matchesRfc3339 : List Char → Bool :=
  digitsThen 4 <| markThen ['-'] <| digitsThen 2 <| markThen ['-'] <| digitsThen 2 <|
    markThen ['T', 't'] <| digitsThen 2 <| markThen [':'] <| digitsThen 2 <| markThen [':'] <|
    digitsThen 2 matchesFraction

/-- `_is_rfc3339_datetime`. -/
def isRfc3339Datetime (value : PyJson) : Bool :=
  value.isTextWith fun text =>
    let chars := text.toList
    let normalized :=
      if chars.getLast? = some 'Z' ∨ chars.getLast? = some 'z' then
        chars.dropLast ++ "+00:00".toList
      else chars
    matchesRfc3339 chars &&
      (DateTime.fromIsoFormat? (String.ofList normalized)).any DateTime.isAware

/-! ### Paths -/

/-- The nodes by their ids, the first of each id. -/
def firstNodes : NodeTable → List PyJson → NodeTable
  | nodes, [] => nodes
  | nodes, raw :: rest =>
      match raw with
      | .obj node =>
          match PyJson.get node "node_id" with
          | .str id =>
              if id.isEmpty || (nodes.find id).isSome then firstNodes nodes rest
              else firstNodes (nodes ++ [(id, node)]) rest
          | _ => firstNodes nodes rest
      | _ => firstNodes nodes rest

/-- The target of a raw edge from a node. -/
def typedTarget? (nodes : NodeTable) (source : PyStr) (edgeType nodeType : String) :
    PyJson → Option PyStr
  | .obj edge =>
      match PyJson.get edge "to_node_id" with
      | .str target =>
          if PyJson.pyEq (PyJson.get edge "from_node_id") (.str source) &&
              (PyJson.get edge "edge_type").isText edgeType && nodes.hasType target nodeType then
            some target
          else none
      | _ => none
  | _ => none

/-- `_typed_target_ids`. -/
def typedTargetIds (rawEdges : List PyJson) (nodes : NodeTable) (source : PyStr)
    (edgeType nodeType : String) : Finset PyStr :=
  (rawEdges.filterMap (typedTarget? nodes source edgeType nodeType)).toFinset

/-- `_has_strict_approval`. -/
def hasStrictApproval (rawEdges : List PyJson) (nodes : NodeTable) (artifact : PyStr) : Bool :=
  ∃ id ∈ typedTargetIds rawEdges nodes artifact "ARTIFACT_APPROVED_BY" "APPROVAL",
    isApproval isRfc3339Datetime nodes id = true

/-- The paths from a root that may not fork. -/
def singularRootPaths : List (String × String) :=
  [("RESULT_DEFINED_BY", "METRIC_DEFINITION"), ("RESULT_CALCULATED_WITH", "CALCULATION_PROFILE"),
    ("RESULT_HAS_FRESHNESS", "FRESHNESS_ASSESSMENT"),
    ("RESULT_HAS_CONFIDENCE", "CONFIDENCE_ASSESSMENT")]

/-- The rules that a resolution selects. -/
def resolutionRuleIds (rawEdges : List PyJson) (nodes : NodeTable) (resolution : PyStr) :
    Finset PyStr :=
  typedTargetIds rawEdges nodes resolution "RESOLUTION_SELECTS_RULE" "CONFIGURATION_RULE"

/-- The checks of a calculation profile against the resolved rules. -/
def strictProfileDiagnostics (rawEdges : List PyJson) (nodes : NodeTable)
    (resolvedRuleIds : Finset PyStr) (profile : PyStr) : List EvidenceDiagnostic :=
  let roundingIds := typedTargetIds rawEdges nodes profile "PROFILE_USES_ROUNDING" "ROUNDING_POLICY"
  let authorityIds :=
    typedTargetIds rawEdges nodes profile "PROFILE_USES_SOURCE_AUTHORITY" "SOURCE_AUTHORITY"
  let ruleIds := typedTargetIds rawEdges nodes profile "PROFILE_SELECTS_RULE" "CONFIGURATION_RULE"
  noteIf (roundingIds.card ≠ 1 ∨ authorityIds.card ≠ 1) .requiredPathMissing ++
    noteIf (∃ id ∈ roundingIds ∪ authorityIds, hasStrictApproval rawEdges nodes id = false)
      .approvalMissing ++
    noteIf (ruleIds = ∅ ∨ resolvedRuleIds = ∅ ∨ ruleIds ≠ resolvedRuleIds) .requiredPathMissing

/-- The checks that start at the root. The order of the profiles does not
matter: where there are two, a missing path was noted before. -/
def strictRootDiagnostics (rawEdges : List PyJson) (nodes : NodeTable) (root : PyStr) :
    List EvidenceDiagnostic :=
  let resolutionIds := typedTargetIds rawEdges nodes root "RESULT_USES_RESOLUTION" "RULE_RESOLUTION"
  let resolvedRuleIds := resolutionIds.biUnion (resolutionRuleIds rawEdges nodes)
  let profiles := rawEdges.filterMap
    (typedTarget? nodes root "RESULT_CALCULATED_WITH" "CALCULATION_PROFILE")
  (singularRootPaths.flatMap fun path =>
      noteIf ((typedTargetIds rawEdges nodes root path.1 path.2).card ≠ 1) .requiredPathMissing) ++
    noteIf (∃ id ∈ resolutionIds, (resolutionRuleIds rawEdges nodes id).card ≠ 1)
      .requiredPathMissing ++
    profiles.flatMap (strictProfileDiagnostics rawEdges nodes resolvedRuleIds)

/-- The checks of the runtime verifier alone. -/
def strictDiagnostics (graph : PyObject) : List EvidenceDiagnostic :=
  noteIf (!isRfc3339Datetime (PyJson.get graph "created_at")) .timestampInvalid ++
    match PyJson.get graph "nodes", PyJson.get graph "edges" with
    | .arr rawNodes, .arr rawEdges =>
        let nodes := firstNodes [] rawNodes
        match rootIds nodes (PyJson.get graph "root_metric_snapshot_ref") with
        | [root] => strictRootDiagnostics rawEdges nodes root
        | _ => []
    | _, _ => []

/-- `runtime_validation.verify_evidence_chain`; the error is a `RecursionError`. -/
def verifyEvidenceChain (interpreter : Interpreter) (options : VerifierOptions)
    (graph : PyJson) : Except PyJson.DumpsError (List EvidenceDiagnostic) := do
  let errors ← baseDiagnostics interpreter options graph
  match graph with
  | .obj fields => return (errors ++ strictDiagnostics fields).eraseDups
  | _ => return errors

end Evidence
end QuantumAnalytics
