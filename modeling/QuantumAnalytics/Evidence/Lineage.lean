import Mathlib.Logic.Relation
import QuantumAnalytics.Evidence.RuntimeValidation

/-!
# The lineage of a metric snapshot

What an evidence chain is for: a graph of typed nodes in which a metric
snapshot is traced to the events, records and retained files that it was
calculated from, and to the approved profile that it was calculated with.
-/

namespace QuantumAnalytics
namespace Evidence

/-- A reference to a version of an artifact. -/
@[ext] structure ArtifactRef where
  id : PyStr
  version : Int
  contentHash : PyStr

/-- A node of an evidence graph. -/
structure EvidenceNode where
  id : PyStr
  nodeType : PyStr
  artifactRef : ArtifactRef
  organizationId : PyStr
  mode : PyStr
  scenarioId : Option PyStr
  metadata : PyObject

/-- An evidence graph. -/
structure EvidenceGraph where
  organizationId : PyStr
  mode : PyStr
  scenarioId : Option PyStr
  rootRef : ArtifactRef
  nodes : List EvidenceNode
  edges : List EdgeRow

/-! ### The graph of a document -/

/-- A string value. -/
def textOf? : PyJson → Option PyStr
  | .str text => some text
  | _ => none

/-- A string or `None`. -/
def optionalTextOf? : PyJson → Option (Option PyStr)
  | .null => some none
  | .str text => some (some text)
  | _ => none

/-- A versioned reference. -/
def refOf? : PyJson → Option ArtifactRef
  | .obj fields =>
      match PyJson.get fields "id", PyJson.get fields "version", PyJson.get fields "content_hash" with
      | .str id, .int version, .str contentHash => some ⟨id, version, contentHash⟩
      | _, _, _ => none
  | _ => none

/-- A mapping. -/
def mappingOf? : PyJson → Option PyObject
  | .obj fields => some fields
  | _ => none

/-- The node that a mapping spells out. -/
def nodeOf? (value : PyJson) : Option EvidenceNode := do
  let node ← mappingOf? value
  let id ← textOf? (PyJson.get node "node_id")
  let nodeType ← textOf? (PyJson.get node "node_type")
  let artifactRef ← refOf? (PyJson.get node "artifact_ref")
  let organizationId ← textOf? (PyJson.get node "organization_id")
  let mode ← textOf? (PyJson.get node "mode")
  let scenarioId ← optionalTextOf? (PyJson.get node "scenario_id")
  let metadata ← mappingOf? (PyJson.get node "metadata")
  return { id, nodeType, artifactRef, organizationId, mode, scenarioId, metadata }

/-- The graph that a document spells out. -/
def graphOf? (document : PyJson) : Option EvidenceGraph := do
  let graph ← mappingOf? document
  let organizationId ← textOf? (PyJson.get graph "organization_id")
  let mode ← textOf? (PyJson.get graph "mode")
  let scenarioId ← optionalTextOf? (PyJson.get graph "scenario_id")
  let rootRef ← refOf? (PyJson.get graph "root_metric_snapshot_ref")
  let nodes ← (itemsOf (PyJson.get graph "nodes")).mapM nodeOf?
  let edges ← (itemsOf (PyJson.get graph "edges")).mapM fun raw => (parseEdge raw).toOption
  return { organizationId, mode, scenarioId, rootRef, nodes, edges }

/-! ### Lineage -/

namespace EvidenceGraph

/-- Some edge leads from one node to another. -/
def Leads (graph : EvidenceGraph) (source target : PyStr) : Prop :=
  ∃ edge ∈ graph.edges, edge.source = source ∧ edge.target = target

/-- An edge of the given type joins two nodes. -/
def Joins (graph : EvidenceGraph) (edgeType : String) (source target : PyStr) : Prop :=
  ∃ edge ∈ graph.edges,
    edge.source = source ∧ edge.target = target ∧ edge.edgeType = PyStr.ofString edgeType

/-- The graph has a node of a kind. -/
def HasNode (graph : EvidenceGraph) (id : PyStr) (nodeType : String) : Prop :=
  ∃ node ∈ graph.nodes, node.id = id ∧ node.nodeType = PyStr.ofString nodeType

/-- An edge joins existing nodes of the kinds that its type allows. -/
def Allows (graph : EvidenceGraph) (edge : EdgeRow) : Prop :=
  ∃ entry ∈ edgeSignatures, edge.edgeType = PyStr.ofString entry.1 ∧
    (∃ node ∈ graph.nodes, node.id = edge.source) ∧
    (∀ kind ∈ entry.2.1, graph.HasNode edge.source kind) ∧
    graph.HasNode edge.target entry.2.2

/-- An artifact has an approval with its time and its approver. -/
def Approved (graph : EvidenceGraph) (artifact : PyStr) : Prop :=
  ∃ approval ∈ graph.nodes, graph.Joins "ARTIFACT_APPROVED_BY" artifact approval.id ∧
    approval.nodeType = PyStr.ofString "APPROVAL" ∧
    PyJson.get approval.metadata "status" = PyJson.ofText "APPROVED" ∧
    isRfc3339Datetime (PyJson.get approval.metadata "approved_at") = true ∧
    (PyJson.get approval.metadata "approver").isNonemptyString = true

/-- The retained hash of a source file is the hash of its artifact, and the
bytes that a loader gives for it have that hash. -/
def Retained (loader : Option (PyStr → LoadOutcome)) (file : EvidenceNode) : Prop :=
  PyJson.get file.metadata "retained_bytes_sha256" = .str file.artifactRef.contentHash ∧
    ∃ locator, PyJson.get file.metadata "storage_locator" = .str locator ∧
      ∀ load ∈ loader, ∃ content, load locator = .bytes content ∧
        file.artifactRef.contentHash = PyStr.ofString (Sha256.hexdigestOfBytes content)

/-- A file that a contributing event of the root goes back to. -/
def Contributes (graph : EvidenceGraph) (root : EvidenceNode) (event record file : PyStr) : Prop :=
  graph.Joins "RESULT_DERIVED_FROM_EVENT" root.id event ∧
    graph.Joins "EVENT_NORMALIZED_FROM_RECORD" event record ∧
    graph.Joins "RECORD_READ_FROM_FILE" record file

/-- One artifact is joined to a node by edges of a type, and it is approved. -/
def UsesOneApproved (graph : EvidenceGraph) (edgeType : String) (source : PyStr) : Prop :=
  ∃ artifact, (∀ other, graph.Joins edgeType source other ↔ other = artifact) ∧
    graph.Approved artifact

/-- A graph traces the metric snapshot at its root. -/
structure Lineage (graph : EvidenceGraph) (loader : Option (PyStr → LoadOutcome))
    (root : EvidenceNode) : Prop where
  /-- The root is a node. -/
  rootNode : root ∈ graph.nodes
  /-- The root is the one metric snapshot that the root reference names. -/
  rootNamed : ∀ node ∈ graph.nodes,
    node.nodeType = PyStr.ofString "METRIC_SNAPSHOT" ∧ node.artifactRef = graph.rootRef ↔
      node = root
  /-- Node ids are unique. -/
  distinctIds : (graph.nodes.map EvidenceNode.id).Nodup
  /-- Edges join nodes of the allowed kinds. -/
  allowed : ∀ edge ∈ graph.edges, graph.Allows edge
  /-- No edge is given twice. -/
  distinctEdges : (graph.edges.map EdgeRow.key).Nodup
  /-- No node leads to itself. -/
  acyclic : ∀ id, ¬Relation.TransGen graph.Leads id id
  /-- The root leads to every node. -/
  rooted : ∀ node ∈ graph.nodes, Relation.ReflTransGen graph.Leads root.id node.id
  /-- Nodes belong to the organization, the mode and the scenario of the graph. -/
  sameScope : ∀ node ∈ graph.nodes, node.organizationId = graph.organizationId ∧
    node.mode = graph.mode ∧ node.scenarioId = graph.scenarioId
  /-- The transformations are numbered from zero. -/
  numbered : ∃ count, 1 ≤ count ∧
    (transformationSequence graph.edges root.id).Perm ((List.range count).map Int.ofNat)
  /-- An event contributes. -/
  derived : ∃ event, graph.Joins "RESULT_DERIVED_FROM_EVENT" root.id event
  /-- A contributing event has a source record. -/
  recorded : ∀ event, graph.Joins "RESULT_DERIVED_FROM_EVENT" root.id event →
    ∃ record, graph.Joins "EVENT_NORMALIZED_FROM_RECORD" event record
  /-- A source record of a contributing event has a source file. -/
  filed : ∀ event record, graph.Joins "RESULT_DERIVED_FROM_EVENT" root.id event →
    graph.Joins "EVENT_NORMALIZED_FROM_RECORD" event record →
      ∃ file, graph.Joins "RECORD_READ_FROM_FILE" record file
  /-- The bytes of a contributing file are retained. -/
  retained : ∀ event record, ∀ file ∈ graph.nodes,
    graph.Contributes root event record file.id → Retained loader file
  /-- Each resolution selects one rule. -/
  resolved : ∀ resolution, graph.Joins "RESULT_USES_RESOLUTION" root.id resolution →
    ∃! rule, graph.Joins "RESOLUTION_SELECTS_RULE" resolution rule
  /-- One profile was used, with one approved rounding policy, one approved
  source authority and exactly the rules that the resolutions select. -/
  calculated : ∃ profile,
    (∀ other, graph.Joins "RESULT_CALCULATED_WITH" root.id other ↔ other = profile) ∧
      graph.UsesOneApproved "PROFILE_USES_ROUNDING" profile ∧
      graph.UsesOneApproved "PROFILE_USES_SOURCE_AUTHORITY" profile ∧
      ∀ rule, graph.Joins "PROFILE_SELECTS_RULE" profile rule ↔
        ∃ resolution, graph.Joins "RESULT_USES_RESOLUTION" root.id resolution ∧
          graph.Joins "RESOLUTION_SELECTS_RULE" resolution rule

end EvidenceGraph

/-- The verifier accepts no document but one whose graph traces its root. -/
def VerifierSound (interpreter : Interpreter) (options : VerifierOptions)
    (document : PyJson) : Prop :=
  verifyEvidenceChain interpreter options document = .ok [] →
    ∃ graph root, graphOf? document = some graph ∧
      graph.Lineage options.sourceLoader root

end Evidence
end QuantumAnalytics
