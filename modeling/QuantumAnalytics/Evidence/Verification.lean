import QuantumAnalytics.Foundations.DepthFirst
import QuantumAnalytics.Foundations.PyJson

/-!
# Verification of evidence chains

An evidence chain is a document with a list of nodes and a list of typed edges
between them. The verifier collects diagnostics in a fixed order, each at most
once, and a chain without diagnostics is accepted.
-/

namespace QuantumAnalytics
namespace Evidence

/-- The diagnostics of an evidence chain. -/
inductive EvidenceDiagnostic
  | malformed
  | versionInvalid
  | tenantMismatch
  | modeContamination
  | timestampInvalid
  | hashMismatch
  | nodeMissing
  | nodeDuplicate
  | nodeTypeInvalid
  | edgeDuplicate
  | edgeInvalid
  | graphCycle
  | requiredPathMissing
  | transformationOrderAmbiguous
  | approvalMissing
  | sourceFileUnavailable
  | sourceBytesMismatch
  | orphanNode
  deriving DecidableEq

/-- The text of a diagnostic. -/
def EvidenceDiagnostic.text : EvidenceDiagnostic → String
  | malformed => "EVIDENCE_MALFORMED"
  | versionInvalid => "EVIDENCE_VERSION_INVALID"
  | tenantMismatch => "EVIDENCE_TENANT_MISMATCH"
  | modeContamination => "EVIDENCE_MODE_CONTAMINATION"
  | timestampInvalid => "EVIDENCE_TIMESTAMP_INVALID"
  | hashMismatch => "EVIDENCE_HASH_MISMATCH"
  | nodeMissing => "EVIDENCE_NODE_MISSING"
  | nodeDuplicate => "EVIDENCE_NODE_DUPLICATE"
  | nodeTypeInvalid => "EVIDENCE_NODE_TYPE_INVALID"
  | edgeDuplicate => "EVIDENCE_EDGE_DUPLICATE"
  | edgeInvalid => "EVIDENCE_EDGE_INVALID"
  | graphCycle => "EVIDENCE_GRAPH_CYCLE"
  | requiredPathMissing => "EVIDENCE_REQUIRED_PATH_MISSING"
  | transformationOrderAmbiguous => "EVIDENCE_TRANSFORMATION_ORDER_AMBIGUOUS"
  | approvalMissing => "EVIDENCE_APPROVAL_MISSING"
  | sourceFileUnavailable => "EVIDENCE_SOURCE_FILE_UNAVAILABLE"
  | sourceBytesMismatch => "EVIDENCE_SOURCE_BYTES_MISMATCH"
  | orphanNode => "EVIDENCE_ORPHAN_NODE"

/-- `NODE_TYPES`. -/
def nodeTypes : List String :=
  ["METRIC_SNAPSHOT", "METRIC_DEFINITION", "CALCULATION_PROFILE", "RULE_RESOLUTION",
    "CONFIGURATION_RULE", "ROUNDING_POLICY", "SOURCE_AUTHORITY", "PRODUCT_MASTER",
    "TRANSFORMATION", "CANONICAL_EVENT", "SOURCE_RECORD", "SOURCE_FILE",
    "FRESHNESS_ASSESSMENT", "CONFIDENCE_ASSESSMENT", "RECONCILIATION_RESULT", "APPROVAL"]

/-- `EDGE_SIGNATURES`: the kinds of nodes that an edge joins; the source of an
approval may be of any kind. -/
def edgeSignatures : List (String × Option String × String) :=
  [("RESULT_DEFINED_BY", some "METRIC_SNAPSHOT", "METRIC_DEFINITION"),
    ("RESULT_CALCULATED_WITH", some "METRIC_SNAPSHOT", "CALCULATION_PROFILE"),
    ("RESULT_USES_RESOLUTION", some "METRIC_SNAPSHOT", "RULE_RESOLUTION"),
    ("RESOLUTION_SELECTS_RULE", some "RULE_RESOLUTION", "CONFIGURATION_RULE"),
    ("PROFILE_SELECTS_RULE", some "CALCULATION_PROFILE", "CONFIGURATION_RULE"),
    ("PROFILE_USES_ROUNDING", some "CALCULATION_PROFILE", "ROUNDING_POLICY"),
    ("PROFILE_USES_SOURCE_AUTHORITY", some "CALCULATION_PROFILE", "SOURCE_AUTHORITY"),
    ("RESULT_DERIVED_FROM_EVENT", some "METRIC_SNAPSHOT", "CANONICAL_EVENT"),
    ("EVENT_NORMALIZED_FROM_RECORD", some "CANONICAL_EVENT", "SOURCE_RECORD"),
    ("RECORD_READ_FROM_FILE", some "SOURCE_RECORD", "SOURCE_FILE"),
    ("RESULT_USES_TRANSFORMATION", some "METRIC_SNAPSHOT", "TRANSFORMATION"),
    ("RESULT_USES_PRODUCT_MASTER", some "METRIC_SNAPSHOT", "PRODUCT_MASTER"),
    ("RESULT_HAS_FRESHNESS", some "METRIC_SNAPSHOT", "FRESHNESS_ASSESSMENT"),
    ("RESULT_HAS_CONFIDENCE", some "METRIC_SNAPSHOT", "CONFIDENCE_ASSESSMENT"),
    ("RESULT_RECONCILED_BY", some "METRIC_SNAPSHOT", "RECONCILIATION_RESULT"),
    ("ARTIFACT_APPROVED_BY", none, "APPROVAL"),
    ("SNAPSHOT_SUPERSEDES", some "METRIC_SNAPSHOT", "METRIC_SNAPSHOT"),
    ("SNAPSHOT_RESTATES", some "METRIC_SNAPSHOT", "METRIC_SNAPSHOT")]

/-- `_GRAPH_FIELDS`. -/
def graphFields : List String :=
  ["evidence_chain_id", "version", "content_hash", "organization_id", "mode", "scenario_id",
    "root_metric_snapshot_ref", "nodes", "edges", "actor", "reason", "trace_id", "created_at"]

/-- `_NODE_FIELDS`. -/
def nodeFields : List String :=
  ["node_id", "node_type", "artifact_ref", "organization_id", "mode", "scenario_id", "metadata"]

/-- `_EDGE_FIELDS`. -/
def edgeFields : List String := ["from_node_id", "to_node_id", "edge_type", "sequence"]

/-- `_REF_FIELDS`. -/
def refFields : List String := ["id", "version", "content_hash"]

/-- What a call of the source loader gives. -/
inductive LoadOutcome
  /-- The loader raises an exception. -/
  | raised
  /-- The loader returns something other than bytes. -/
  | other
  | bytes (content : List UInt8)

/-- The keyword arguments of the verifier. -/
structure VerifierOptions where
  sourceLoader : Option (PyStr → LoadOutcome)
  requireSourceBytes : Bool

/-- A diagnostic that is given under a condition. -/
def noteIf (condition : Bool) (diagnostic : EvidenceDiagnostic) : List EvidenceDiagnostic :=
  if condition then [diagnostic] else []

@[simp] theorem noteIf_eq_nil
    {condition : Bool}
    {diagnostic : EvidenceDiagnostic} :
    noteIf condition diagnostic = [] ↔ condition = false := by
  cases condition <;> simp [noteIf]

/-- The nodes read so far, by their ids. -/
abbrev NodeTable := List (PyStr × PyObject)

namespace NodeTable

/-- `nodes.get(node_id)`. -/
def find (nodes : NodeTable) (id : PyStr) : Option PyObject :=
  (nodes.find? fun node => node.1 = id).map Prod.snd

/-- `nodes.get(node_id, {}).get("node_type") == node_type`. -/
def hasType (nodes : NodeTable) (id : PyStr) (nodeType : String) : Bool :=
  match nodes.find id with
  | some node => (PyJson.get node "node_type").isText nodeType
  | none => false

end NodeTable

/-- `_valid_ref`. -/
def validRef : PyJson → Bool
  | .obj fields =>
      PyJson.hasKeys fields refFields && (PyJson.get fields "id").isNonemptyString &&
        (PyJson.get fields "version").isPositiveInt && (PyJson.get fields "content_hash").isHash
  | _ => false

/-- What is said about a reference that is not valid. -/
def refDiagnostics (ref : PyJson) : List EvidenceDiagnostic :=
  if validRef ref then []
  else
    match ref with
    | .obj fields =>
        if (PyJson.get fields "version").isPositiveInt then [.hashMismatch] else [.versionInvalid]
    | _ => [.hashMismatch]

/-- `_canonical_hash`; a surrogate is a `UnicodeEncodeError`, which is a
`ValueError`. -/
def canonicalHash (interpreter : Interpreter) (document : PyObject) (excluded : String) :
    Except PyJson.DumpsError String := do
  let text ← PyJson.dumps interpreter (.obj (PyJson.without document excluded))
  let payload ← requireSome (PyStr.encode? text) .value
  return Sha256.hexdigestOfBytes payload

/-- `canonical_graph_hash`. -/
def canonicalGraphHash (interpreter : Interpreter) (graph : PyObject) :
    Except PyJson.DumpsError String :=
  canonicalHash interpreter graph "content_hash"

/-- The check of the content hash. A `RecursionError` is not caught. -/
def hashDiagnostics (interpreter : Interpreter) (graph : PyObject) :
    Except PyJson.DumpsError (List EvidenceDiagnostic) :=
  let supplied := PyJson.get graph "content_hash"
  if supplied.isHash then
    match canonicalGraphHash interpreter graph with
    | .ok digest => .ok (noteIf (!supplied.isText digest) .hashMismatch)
    | .error .value => .ok [.malformed]
    | .error .recursion => .error .recursion
  else .ok [.hashMismatch]

/-- The check of mode and scenario. -/
def modeDiagnostics (graph : PyObject) : List EvidenceDiagnostic :=
  let mode := PyJson.get graph "mode"
  let scenarioId := PyJson.get graph "scenario_id"
  if !mode.isAllowedString ["ACTUAL", "SCENARIO"] then [.modeContamination]
  else if mode.isText "ACTUAL" && !scenarioId.isNone then [.modeContamination]
  else if mode.isText "SCENARIO" && !scenarioId.isNonemptyString then [.modeContamination]
  else []

/-- The checks of the document before its hash. -/
def headDiagnostics (graph : PyObject) : List EvidenceDiagnostic :=
  noteIf (!PyJson.hasKeys graph graphFields) .malformed ++
    noteIf (!(PyJson.get graph "evidence_chain_id").isNonemptyString) .malformed ++
    noteIf (!(PyJson.get graph "version").isPositiveInt) .versionInvalid ++
    noteIf (!(PyJson.get graph "organization_id").isNonemptyString) .tenantMismatch ++
    modeDiagnostics graph ++
    (["actor", "reason", "trace_id"].flatMap fun field =>
      noteIf (!(PyJson.get graph field).isNonemptyString) .malformed) ++
    noteIf (!(PyJson.get graph "created_at").isDatetime) .timestampInvalid

/-- The checks of a node with a new id. -/
def nodeDiagnostics (graph node : PyObject) : List EvidenceDiagnostic :=
  let mode := PyJson.get graph "mode"
  let nodeScenario := PyJson.get node "scenario_id"
  let contaminated :=
    !PyJson.pyEq (PyJson.get node "mode") mode ||
      mode.isText "ACTUAL" && !nodeScenario.isNone ||
      mode.isText "SCENARIO" && !PyJson.pyEq nodeScenario (PyJson.get graph "scenario_id")
  let hasMetadata :=
    match PyJson.get node "metadata" with
    | .obj _ => true
    | _ => false
  noteIf (!(PyJson.get node "node_type").isAllowedString nodeTypes) .nodeTypeInvalid ++
    refDiagnostics (PyJson.get node "artifact_ref") ++
    noteIf (!PyJson.pyEq (PyJson.get node "organization_id") (PyJson.get graph "organization_id"))
      .tenantMismatch ++
    noteIf contaminated .modeContamination ++
    noteIf (!hasMetadata) .malformed

/-- The loop over the raw nodes: the table of nodes and the diagnostics. -/
def readNodes (graph : PyObject) : NodeTable → List PyJson → NodeTable × List EvidenceDiagnostic
  | nodes, [] => (nodes, [])
  | nodes, raw :: rest =>
      let skip := fun diagnostic =>
        let (table, later) := readNodes graph nodes rest
        (table, diagnostic :: later)
      match raw with
      | .obj node =>
          if PyJson.hasKeys node nodeFields then
            match PyJson.get node "node_id" with
            | .str id =>
                if id.isEmpty then skip .nodeMissing
                else if (nodes.find id).isSome then skip .nodeDuplicate
                else
                  let (table, later) := readNodes graph (nodes ++ [(id, node)]) rest
                  (table, nodeDiagnostics graph node ++ later)
            | _ => skip .nodeMissing
          else skip .malformed
      | _ => skip .malformed

/-- The ids of the nodes that the root reference names. -/
def rootIds (nodes : NodeTable) (rootRef : PyJson) : List PyStr :=
  (nodes.filter fun node =>
    (PyJson.get node.2 "node_type").isText "METRIC_SNAPSHOT" &&
      PyJson.pyEq (PyJson.get node.2 "artifact_ref") rootRef).map Prod.fst

/-- An edge that joins two nodes as its type allows. -/
structure EdgeRow where
  source : PyStr
  target : PyStr
  edgeType : PyStr
  sequence : Int
  deriving DecidableEq

/-- `EDGE_SIGNATURES.get(edge_type)`. -/
def edgeSignature (edgeType : PyStr) : Option (Option String × String) :=
  (edgeSignatures.find? fun entry => PyStr.ofString entry.1 = edgeType).map Prod.snd

/-- The checks of an edge whose key was compared with those before it. -/
def placeEdge (nodes : NodeTable) (edge : EdgeRow) : Except EvidenceDiagnostic EdgeRow :=
  if (nodes.find edge.source).isNone || (nodes.find edge.target).isNone then .error .nodeMissing
  else
    match edgeSignature edge.edgeType with
    | none => .error .edgeInvalid
    | some (sourceType, targetType) =>
        if (sourceType.any fun kind => !nodes.hasType edge.source kind) ||
            !nodes.hasType edge.target targetType then .error .edgeInvalid
        else .ok edge

/-- The fields of a raw edge. -/
def parseEdge : PyJson → Except EvidenceDiagnostic EdgeRow
  | .obj edge =>
      if PyJson.hasKeys edge edgeFields then
        match PyJson.get edge "from_node_id", PyJson.get edge "to_node_id",
            PyJson.get edge "edge_type" with
        | .str source, .str target, .str edgeType =>
            if source.isEmpty || target.isEmpty || edgeType.isEmpty then .error .edgeInvalid
            else
              match PyJson.get edge "sequence" with
              | .int sequence =>
                  if 0 ≤ sequence then .ok ⟨source, target, edgeType, sequence⟩
                  else .error .transformationOrderAmbiguous
              | _ => .error .transformationOrderAmbiguous
        | _, _, _ => .error .edgeInvalid
      else .error .malformed
  | _ => .error .malformed

/-- What makes two edges the same. -/
def EdgeRow.key (edge : EdgeRow) : PyStr × PyStr × PyStr :=
  (edge.source, edge.target, edge.edgeType)

/-- The loop over the raw edges: the edges that join nodes and the diagnostics. -/
def readEdges (nodes : NodeTable) :
    List (PyStr × PyStr × PyStr) → List PyJson → List EdgeRow × List EvidenceDiagnostic
  | _, [] => ([], [])
  | seen, raw :: rest =>
      match parseEdge raw with
      | .error diagnostic =>
          let (edges, later) := readEdges nodes seen rest
          (edges, diagnostic :: later)
      | .ok edge =>
          let (edges, later) := readEdges nodes (edge.key :: seen) rest
          let repeated := noteIf (decide (edge.key ∈ seen)) .edgeDuplicate
          match placeEdge nodes edge with
          | .error diagnostic => (edges, repeated ++ diagnostic :: later)
          | .ok placed => (placed :: edges, repeated ++ later)

/-- The targets of the edges of a node. -/
def adjacency (edges : List EdgeRow) (source : PyStr) : List PyStr :=
  (edges.filter fun edge => edge.source = source).map EdgeRow.target

/-- `targets(source, edge_type, node_type)`. -/
def targets (nodes : NodeTable) (edges : List EdgeRow) (source : PyStr)
    (edgeType nodeType : String) : List PyStr :=
  ((edges.filter fun edge => edge.source = source ∧ edge.edgeType = PyStr.ofString edgeType).map
    EdgeRow.target).filter fun target => nodes.hasType target nodeType

/-- The paths that a result must have. -/
def requiredPaths : List (String × String) :=
  [("RESULT_DEFINED_BY", "METRIC_DEFINITION"), ("RESULT_CALCULATED_WITH", "CALCULATION_PROFILE"),
    ("RESULT_USES_RESOLUTION", "RULE_RESOLUTION"),
    ("RESULT_USES_TRANSFORMATION", "TRANSFORMATION"),
    ("RESULT_DERIVED_FROM_EVENT", "CANONICAL_EVENT"),
    ("RESULT_HAS_FRESHNESS", "FRESHNESS_ASSESSMENT"),
    ("RESULT_HAS_CONFIDENCE", "CONFIDENCE_ASSESSMENT")]

/-- The sequence numbers of the transformations of the root. -/
def transformationSequence (edges : List EdgeRow) (root : PyStr) : List Int :=
  (edges.filter fun edge =>
    edge.source = root ∧ edge.edgeType = PyStr.ofString "RESULT_USES_TRANSFORMATION").map
      EdgeRow.sequence

/-- The metadata of a node. -/
def metadataOf (nodes : NodeTable) (id : PyStr) : Option PyObject :=
  match (nodes.find id).map fun node => PyJson.get node "metadata" with
  | some (.obj metadata) => some metadata
  | _ => none

/-- An approval with its time and its approver. -/
def isApproval (isTime : PyJson → Bool) (nodes : NodeTable) (id : PyStr) : Bool :=
  (metadataOf nodes id).any fun metadata =>
    (PyJson.get metadata "status").isText "APPROVED" &&
      isTime (PyJson.get metadata "approved_at") &&
      (PyJson.get metadata "approver").isNonemptyString

/-- `approved(artifact_id)`. -/
def approved (nodes : NodeTable) (edges : List EdgeRow) (artifact : PyStr) : Bool :=
  (targets nodes edges artifact "ARTIFACT_APPROVED_BY" "APPROVAL").any
    (isApproval PyJson.isDatetime nodes)

/-- The checks of a calculation profile. -/
def profileDiagnostics (nodes : NodeTable) (edges : List EdgeRow) (profile : PyStr) :
    List EvidenceDiagnostic :=
  let rounding := targets nodes edges profile "PROFILE_USES_ROUNDING" "ROUNDING_POLICY"
  let authorities := targets nodes edges profile "PROFILE_USES_SOURCE_AUTHORITY" "SOURCE_AUTHORITY"
  noteIf (rounding.isEmpty || authorities.isEmpty) .requiredPathMissing ++
    noteIf ((rounding ++ authorities).any fun id => !approved nodes edges id) .approvalMissing

/-- The checks of a rule resolution. -/
def resolutionDiagnostics (nodes : NodeTable) (edges : List EdgeRow) (resolution : PyStr) :
    List EvidenceDiagnostic :=
  noteIf (targets nodes edges resolution "RESOLUTION_SELECTS_RULE" "CONFIGURATION_RULE").isEmpty
    .requiredPathMissing

/-- The bytes of a source file against its retained hash. -/
def bytesDiagnostics (options : VerifierOptions) (locator : PyStr) (retained : PyJson) :
    List EvidenceDiagnostic :=
  match options.sourceLoader with
  | some load =>
      match load locator with
      | .raised => [.sourceFileUnavailable]
      | .other => [.sourceFileUnavailable]
      | .bytes content =>
          noteIf (!retained.isText (Sha256.hexdigestOfBytes content)) .sourceBytesMismatch
  | none => noteIf options.requireSourceBytes .sourceFileUnavailable

/-- The checks of a source file. -/
def fileDiagnostics (options : VerifierOptions) (nodes : NodeTable) (file : PyStr) :
    List EvidenceDiagnostic :=
  match (nodes.find file).map fun node => (PyJson.get node "metadata", PyJson.get node "artifact_ref")
  with
  | some (.obj metadata, .obj ref) =>
      let retained := PyJson.get metadata "retained_bytes_sha256"
      match PyJson.get metadata "storage_locator" with
      | .str locator =>
          if !retained.isHash || locator.isEmpty then [.sourceFileUnavailable]
          else
            noteIf (!PyJson.pyEq retained (PyJson.get ref "content_hash")) .hashMismatch ++
              bytesDiagnostics options locator retained
      | _ => [.sourceFileUnavailable]
  | _ => [.sourceFileUnavailable]

/-- The checks of the source record of an event. -/
def recordDiagnostics (options : VerifierOptions) (nodes : NodeTable) (edges : List EdgeRow)
    (record : PyStr) : List EvidenceDiagnostic :=
  let files := targets nodes edges record "RECORD_READ_FROM_FILE" "SOURCE_FILE"
  noteIf files.isEmpty .requiredPathMissing ++ files.flatMap (fileDiagnostics options nodes)

/-- The checks of a contributing event. -/
def eventDiagnostics (options : VerifierOptions) (nodes : NodeTable) (edges : List EdgeRow)
    (event : PyStr) : List EvidenceDiagnostic :=
  let records := targets nodes edges event "EVENT_NORMALIZED_FROM_RECORD" "SOURCE_RECORD"
  noteIf records.isEmpty .requiredPathMissing ++
    records.flatMap (recordDiagnostics options nodes edges)

/-- The checks that start at the root. -/
def rootDiagnostics (options : VerifierOptions) (nodes : NodeTable) (edges : List EdgeRow)
    (root : PyStr) : List EvidenceDiagnostic :=
  let ids := nodes.map Prod.fst
  let reached := DepthFirst.reachable (adjacency edges) ids root
  let sequence := transformationSequence edges root
  noteIf (ids.any fun id => id ∉ reached) .orphanNode ++
    noteIf (requiredPaths.any fun path => (targets nodes edges root path.1 path.2).isEmpty)
      .requiredPathMissing ++
    noteIf (sequence.insertionSort (· ≤ ·) ≠ (List.range sequence.length).map Int.ofNat)
      .transformationOrderAmbiguous ++
    (targets nodes edges root "RESULT_CALCULATED_WITH" "CALCULATION_PROFILE").flatMap
      (profileDiagnostics nodes edges) ++
    (targets nodes edges root "RESULT_USES_RESOLUTION" "RULE_RESOLUTION").flatMap
      (resolutionDiagnostics nodes edges) ++
    (targets nodes edges root "RESULT_DERIVED_FROM_EVENT" "CANONICAL_EVENT").flatMap
      (eventDiagnostics options nodes edges)

/-- The items of a list value; anything else has none. -/
def itemsOf : PyJson → List PyJson
  | .arr items => items
  | _ => []

/-- A value is a list. -/
def isList : PyJson → Bool
  | .arr _ => true
  | _ => false

/-- The checks of nodes and edges. -/
def graphDiagnostics (options : VerifierOptions) (graph : PyObject) : List EvidenceDiagnostic :=
  let rawNodes := itemsOf (PyJson.get graph "nodes")
  let rawEdges := PyJson.get graph "edges"
  let (nodes, ofNodes) := readNodes graph [] rawNodes
  let roots := rootIds nodes (PyJson.get graph "root_metric_snapshot_ref")
  let (edges, ofEdges) := readEdges nodes [] (itemsOf rawEdges)
  noteIf rawNodes.isEmpty .nodeMissing ++ ofNodes ++
    noteIf (roots.length ≠ 1) .nodeMissing ++
    noteIf (!isList rawEdges) .malformed ++ ofEdges ++
    noteIf (DepthFirst.hasCycle (adjacency edges) (nodes.map Prod.fst)) .graphCycle ++
    match roots with
    | [root] => rootDiagnostics options nodes edges root
    | _ => []

/-- `verification.verify_evidence_chain`; the error is a `RecursionError`. -/
def baseDiagnostics (interpreter : Interpreter) (options : VerifierOptions) :
    PyJson → Except PyJson.DumpsError (List EvidenceDiagnostic)
  | .obj graph => do
      let ofHash ← hashDiagnostics interpreter graph
      return (headDiagnostics graph ++ ofHash ++
        refDiagnostics (PyJson.get graph "root_metric_snapshot_ref") ++
        graphDiagnostics options graph).eraseDups
  | _ => .ok [.malformed]

end Evidence
end QuantumAnalytics
