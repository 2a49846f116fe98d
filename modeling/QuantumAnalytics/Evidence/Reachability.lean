import QuantumAnalytics.Evidence.ListingOrder
import QuantumAnalytics.Foundations.DepthFirstRuns
import QuantumAnalytics.Foundations.Dict

/-!
# Cycles and orphans

Two diagnostics are about the graph as a whole: that it has a cycle, and that a node
is not reached from the root. Each is reported exactly when the graph of the
accepted edges is like that.
-/

namespace QuantumAnalytics
namespace Evidence

/-- `adjacency.get(node_id, [])`. -/
def targetsIn (mapping : Dict PyStr (List PyStr)) (id : PyStr) : List PyStr :=
  (mapping.get? id).getD []

/-- `nodes`: the accepted nodes of a document. -/
def acceptedNodes (graph : PyObject) : NodeTable :=
  (readNodes graph [] (itemsOf (PyJson.get graph "nodes"))).1

/-- `valid_edges`: the accepted edges of a document. -/
def acceptedEdges (graph : PyObject) : List EdgeRow :=
  (readEdges (acceptedNodes graph) [] (itemsOf (PyJson.get graph "edges"))).1

/-- The ids of the accepted nodes. -/
def acceptedIds (graph : PyObject) : List PyStr := (acceptedNodes graph).map Prod.fst

/-- An accepted edge leads from one node to another. -/
def Leads (graph : PyObject) (source target : PyStr) : Prop :=
  ∃ edge ∈ acceptedEdges graph, edge.source = source ∧ edge.target = target

/-! ### Diagnostics about parts -/

/-- The diagnostic is about the graph as a whole. -/
def EvidenceDiagnostic.isOfGraph : EvidenceDiagnostic → Bool
  | graphCycle | orphanNode => true
  | _ => false

/-- Nothing is noted about the graph as a whole. -/
def Local (codes : List EvidenceDiagnostic) : Prop := ∀ code ∈ codes, code.isOfGraph = false

theorem mem_noteIf
    {condition : Bool}
    {diagnostic code : EvidenceDiagnostic} :
    code ∈ noteIf condition diagnostic ↔ condition = true ∧ code = diagnostic := by
  cases condition <;> simp [noteIf]

namespace Local

theorem nil : Local [] := fun _ listed => absurd listed List.not_mem_nil

theorem singleton
    {code : EvidenceDiagnostic}
    (isLocal : code.isOfGraph = false) : Local [code] :=
  fun _ listed => List.mem_singleton.mp listed ▸ isLocal

theorem append
    {codes later : List EvidenceDiagnostic}
    (first : Local codes)
    (second : Local later) : Local (codes ++ later) :=
  fun code listed => (List.mem_append.mp listed).elim (first code) (second code)

theorem flatMap
    {α : Type}
    {items : List α}
    {note : α → List EvidenceDiagnostic}
    (each : ∀ item, Local (note item)) : Local (items.flatMap note) := by
  intro code listed
  obtain ⟨item, -, noted⟩ := List.mem_flatMap.mp listed
  exact each item code noted

theorem noteIf
    {condition : Bool}
    {code : EvidenceDiagnostic}
    (isLocal : code.isOfGraph = false) : Local (noteIf condition code) :=
  fun _ listed => (mem_noteIf.mp listed).2 ▸ isLocal

theorem not_mem
    {codes : List EvidenceDiagnostic}
    (isLocal : Local codes)
    {code : EvidenceDiagnostic}
    (ofGraph : code.isOfGraph = true) : code ∉ codes := by
  intro listed
  rw [isLocal code listed] at ofGraph
  cases ofGraph

end Local

theorem local_refDiagnostics (ref : PyJson) : Local (refDiagnostics ref) := by
  unfold refDiagnostics
  split
  next => exact .nil
  next =>
    split
    next =>
      split
      next => exact .singleton rfl
      next => exact .singleton rfl
    next => exact .singleton rfl

theorem local_nodeDiagnostics (graph node : PyObject) : Local (nodeDiagnostics graph node) := by
  unfold nodeDiagnostics
  exact .append (.append (.append (.append (.noteIf rfl) (local_refDiagnostics _)) (.noteIf rfl))
    (.noteIf rfl)) (.noteIf rfl)

theorem local_readNodes
    (graph : PyObject)
    (raws : List PyJson)
    (nodes : NodeTable) : Local (readNodes graph nodes raws).2 := by
  induction raws generalizing nodes with
  | nil => exact .nil
  | cons raw rest inductionHypothesis =>
      have skipped : ∀ {code : EvidenceDiagnostic}, code.isOfGraph = false →
          Local (code :: (readNodes graph nodes rest).2) :=
        fun isLocal => .append (.singleton isLocal) (inductionHypothesis nodes)
      unfold readNodes
      dsimp only
      split
      next =>
        split
        next =>
          split
          next =>
            split
            next => exact skipped rfl
            next =>
              split
              next => exact skipped rfl
              next => exact .append (local_nodeDiagnostics _ _) (inductionHypothesis _)
          next => exact skipped rfl
        next => exact skipped rfl
      next => exact skipped rfl

theorem isOfGraph_of_joinEdge
    {nodes : NodeTable}
    {raw : PyJson}
    {code : EvidenceDiagnostic}
    (failed : joinEdge nodes raw = .error code) : code.isOfGraph = false := by
  have parsed : ∀ {other}, parseEdge raw = .error other → other.isOfGraph = false := by
    intro other failedParse
    unfold parseEdge at failedParse
    split at failedParse
    next =>
      split at failedParse
      next =>
        split at failedParse
        next =>
          split at failedParse
          next => cases failedParse; rfl
          next =>
            split at failedParse
            next =>
              split at failedParse
              next => cases failedParse
              next => cases failedParse; rfl
            next => cases failedParse; rfl
        next => cases failedParse; rfl
      next => cases failedParse; rfl
    next => cases failedParse; rfl
  have placed : ∀ {edge other}, placeEdge nodes edge = .error other → other.isOfGraph = false := by
    intro edge other failedPlace
    unfold placeEdge at failedPlace
    split at failedPlace
    next => cases failedPlace; rfl
    next =>
      split at failedPlace
      next => cases failedPlace; rfl
      next =>
        split at failedPlace
        next => cases failedPlace; rfl
        next => cases failedPlace
  rcases Checks.bind_eq_error.mp failed with failedParse | ⟨edge, -, failedPlace⟩
  · exact parsed failedParse
  · exact placed failedPlace

theorem local_readEdges (nodes : NodeTable) (raws : List PyJson) :
    Local (readEdges nodes [] raws).2 := by
  intro code listed
  rcases (mem_readEdges_iff nodes raws [] code).mp listed with ⟨raw, -, failed⟩ | ⟨rfl, -⟩
  · exact isOfGraph_of_joinEdge failed
  · rfl

theorem local_headDiagnostics (graph : PyObject) : Local (headDiagnostics graph) := by
  have ofMode : Local (modeDiagnostics graph) := by
    unfold modeDiagnostics
    dsimp only
    split_ifs
    · exact .singleton rfl
    · exact .singleton rfl
    · exact .singleton rfl
    · exact .nil
  unfold headDiagnostics
  exact .append (.append (.append (.append (.append (.append (.noteIf rfl) (.noteIf rfl))
    (.noteIf rfl)) (.noteIf rfl)) ofMode) (.flatMap fun _ => .noteIf rfl)) (.noteIf rfl)

theorem local_hashDiagnostics
    {interpreter : Interpreter}
    {graph : PyObject}
    {codes : List EvidenceDiagnostic}
    (noted : hashDiagnostics interpreter graph = .ok codes) : Local codes := by
  unfold hashDiagnostics at noted
  dsimp only at noted
  split at noted
  next =>
    split at noted
    next =>
      obtain rfl := Except.ok.inj noted
      exact .noteIf rfl
    next =>
      obtain rfl := Except.ok.inj noted
      exact .singleton rfl
    next => cases noted
  next =>
    obtain rfl := Except.ok.inj noted
    exact .singleton rfl

/-! ### Diagnostics that start at the root -/

section Root

variable (options : VerifierOptions) (nodes : NodeTable) (edges : List EdgeRow)

theorem local_fileDiagnostics (file : PyStr) : Local (fileDiagnostics options nodes file) := by
  have ofBytes : ∀ locator retained, Local (bytesDiagnostics options locator retained) := by
    intro locator retained
    unfold bytesDiagnostics
    split
    next =>
      split
      next => exact .singleton rfl
      next => exact .singleton rfl
      next => exact .noteIf rfl
    next => exact .noteIf rfl
  unfold fileDiagnostics
  split
  next =>
    dsimp only
    split
    next =>
      split
      next => exact .singleton rfl
      next => exact .append (.noteIf rfl) (ofBytes _ _)
    next => exact .singleton rfl
  next => exact .singleton rfl

theorem local_eventDiagnostics (event : PyStr) :
    Local (eventDiagnostics options nodes edges event) :=
  .append (.noteIf rfl) (.flatMap fun _ =>
    .append (.noteIf rfl) (.flatMap (local_fileDiagnostics options nodes)))

theorem local_profileDiagnostics (profile : PyStr) : Local (profileDiagnostics nodes edges profile) :=
  .append (.noteIf rfl) (.noteIf rfl)

/-- Of what starts at the root, one diagnostic is about the graph as a whole. -/
theorem exists_rootDiagnostics_eq (root : PyStr) :
    ∃ later, Local later ∧ rootDiagnostics options nodes edges root =
      noteIf ((nodes.map Prod.fst).any fun id =>
        id ∉ DepthFirst.reachable (adjacency edges) (nodes.map Prod.fst) root) .orphanNode ++
          later := by
  simp only [rootDiagnostics, List.append_assoc]
  refine ⟨_, ?_, rfl⟩
  exact .append (.noteIf rfl) (.append (.noteIf rfl) (.append
    (.flatMap (local_profileDiagnostics nodes edges)) (.append (.flatMap fun _ => .noteIf rfl)
      (.flatMap (local_eventDiagnostics options nodes edges)))))

end Root

/-! ### Diagnostics about the graph -/

/-- What is noted about a graph: parts of it, cycles, and what starts at the root. -/
theorem exists_baseDiagnostics_eq
    {interpreter : Interpreter}
    (options : VerifierOptions)
    {graph : PyObject}
    {diagnostics : List EvidenceDiagnostic}
    (reported : baseDiagnostics interpreter options (.obj graph) = .ok diagnostics) :
    ∃ before, Local before ∧ ∀ code, code ∈ diagnostics ↔
      code ∈ before ∨
      code ∈ noteIf (DepthFirst.hasCycle (adjacency (acceptedEdges graph)) (acceptedIds graph))
        .graphCycle ∨
      code ∈ ofSingleRoot (rootDiagnostics options (acceptedNodes graph) (acceptedEdges graph))
        (rootIds (acceptedNodes graph) (PyJson.get graph "root_metric_snapshot_ref")) := by
  simp only [baseDiagnostics, Checks.bind_eq_ok, Checks.pure_eq_ok] at reported
  obtain ⟨ofHash, hashed, rfl⟩ := reported
  refine ⟨headDiagnostics graph ++ ofHash ++
    refDiagnostics (PyJson.get graph "root_metric_snapshot_ref") ++
    (noteIf (itemsOf (PyJson.get graph "nodes")).isEmpty .nodeMissing ++
      (readNodes graph [] (itemsOf (PyJson.get graph "nodes"))).2 ++
      noteIf ((rootIds (acceptedNodes graph)
        (PyJson.get graph "root_metric_snapshot_ref")).length ≠ 1) .nodeMissing ++
      noteIf (!isList (PyJson.get graph "edges")) .malformed ++
      (readEdges (acceptedNodes graph) [] (itemsOf (PyJson.get graph "edges"))).2), ?_,
    fun code => ?_⟩
  · exact .append (.append (.append (local_headDiagnostics graph) (local_hashDiagnostics hashed))
      (local_refDiagnostics _)) (.append (.append (.append (.append (.noteIf rfl)
        (local_readNodes _ _ _)) (.noteIf rfl)) (.noteIf rfl)) (local_readEdges _ _))
  · rw [List.mem_eraseDups, graphDiagnostics]
    simp only [List.mem_append, or_assoc]
    rfl

/-- Accepted edges stay among the accepted nodes. -/
theorem closed_acceptedEdges (graph : PyObject) :
    DepthFirst.Closed (adjacency (acceptedEdges graph)) (acceptedIds graph) := by
  rw [acceptedEdges, readEdges_fst]
  exact closed_joinedEdges _ _

theorem edge_eq_leads (graph : PyObject) :
    DepthFirst.Edge (adjacency (acceptedEdges graph)) = Leads graph := by
  funext source target
  simp only [DepthFirst.Edge, adjacency, List.mem_map, List.mem_filter, decide_eq_true_eq, Leads,
    and_assoc]

/-- Accepted edges start at accepted nodes. -/
theorem mem_acceptedIds_of_adjacency
    {graph : PyObject}
    {source : PyStr}
    (leads : adjacency (acceptedEdges graph) source ≠ []) : source ∈ acceptedIds graph := by
  obtain ⟨target, edge⟩ := List.exists_mem_of_ne_nil _ leads
  rw [acceptedEdges, readEdges_fst] at edge
  simp only [adjacency, List.mem_map, List.mem_filter, decide_eq_true_eq, joinedEdges,
    List.mem_filterMap] at edge
  obtain ⟨row, ⟨⟨raw, -, joined⟩, rfl⟩, -⟩ := edge
  have placed := placeEdge_of_joinEdge joined
  by_contra absent
  have missing : (acceptedNodes graph).find row.source = none := find_eq_none_iff.mpr absent
  simp [placeEdge, missing] at placed

theorem mem_keys_of_targetsIn
    {mapping : Dict PyStr (List PyStr)}
    {id : PyStr}
    (leads : targetsIn mapping id ≠ []) : id ∈ mapping.keys := by
  by_contra absent
  have missing := Dict.get?_eq_none_iff.mpr absent
  exact leads (by rw [targetsIn, missing]; rfl)

/-- **Cycles and orphans**: `_has_cycle` ends for every mapping and returns whether its
graph has a cycle. A cycle is reported exactly when the accepted edges have one; with a
single root, the search from it ends, and an orphan is reported exactly when an
accepted node is not reached. -/
theorem hasCycle_and_orphans
    {interpreter : Interpreter}
    {options : VerifierOptions}
    {graph : PyObject}
    {diagnostics : List EvidenceDiagnostic}
    (reported : baseDiagnostics interpreter options (.obj graph) = .ok diagnostics) :
    (∀ (mapping : Dict PyStr (List PyStr)) (result : Bool),
      DepthFirst.Returns (targetsIn mapping) [] mapping.keys result ↔
        (result = true ↔
          ∃ id, Relation.TransGen (DepthFirst.Edge (targetsIn mapping)) id id)) ∧
      (∀ result, DepthFirst.Returns (adjacency (acceptedEdges graph)) [] (acceptedIds graph) result ↔
        (result = true ↔ ∃ id, Relation.TransGen (Leads graph) id id)) ∧
      (.graphCycle ∈ diagnostics ↔ ∃ id, Relation.TransGen (Leads graph) id id) ∧
      ∀ root, rootIds (acceptedNodes graph) (PyJson.get graph "root_metric_snapshot_ref") = [root] →
        (∃ reached, DepthFirst.Collects (adjacency (acceptedEdges graph)) [] [root] reached ∧
          ∀ id, id ∈ reached ↔ Relation.ReflTransGen (Leads graph) root id) ∧
        (.orphanNode ∈ diagnostics ↔
          ∃ id ∈ acceptedIds graph, ¬Relation.ReflTransGen (Leads graph) root id) := by
  obtain ⟨before, isLocal, noted⟩ := exists_baseDiagnostics_eq options reported
  have closed := closed_acceptedEdges graph
  have returns : ∀ result,
      DepthFirst.Returns (adjacency (acceptedEdges graph)) [] (acceptedIds graph) result ↔
        (result = true ↔ ∃ id, Relation.TransGen (Leads graph) id id) := by
    intro result
    rw [← edge_eq_leads]
    exact DepthFirst.returns_iff fun _ => mem_acceptedIds_of_adjacency
  have cycle := (returns _).mp (DepthFirst.returns_hasCycle closed)
  have ofRoot : ∀ root, ∃ later, Local later ∧
      ∀ code, code ∈ rootDiagnostics options (acceptedNodes graph) (acceptedEdges graph) root ↔
        (((acceptedIds graph).any fun id =>
          id ∉ DepthFirst.reachable (adjacency (acceptedEdges graph)) (acceptedIds graph) root) = true ∧
            code = .orphanNode) ∨ code ∈ later := by
    intro root
    obtain ⟨later, isLater, same⟩ := exists_rootDiagnostics_eq options (acceptedNodes graph)
      (acceptedEdges graph) root
    refine ⟨later, isLater, fun code => ?_⟩
    rw [same, List.mem_append, mem_noteIf]
    rfl
  refine ⟨fun mapping result => DepthFirst.returns_iff fun _ => mem_keys_of_targetsIn, returns, ?_, ?_⟩
  · rw [← cycle, noted, mem_noteIf]
    constructor
    · rintro (inBefore | ⟨found, -⟩ | inRoot)
      · exact absurd inBefore (isLocal.not_mem rfl)
      · exact found
      · unfold ofSingleRoot at inRoot
        split at inRoot
        next root _ =>
          obtain ⟨later, isLater, mem⟩ := ofRoot root
          rcases (mem _).mp inRoot with ⟨-, same⟩ | inLater
          · cases same
          · exact absurd inLater (isLater.not_mem rfl)
        next => cases inRoot
    · exact fun found => .inr (.inl ⟨found, rfl⟩)
  · intro root single
    have rootNode : root ∈ acceptedIds graph := by
      have isRoot : root ∈ rootIds (acceptedNodes graph)
          (PyJson.get graph "root_metric_snapshot_ref") := single ▸ List.mem_singleton_self root
      exact (List.filter_sublist.map _).subset isRoot
    have reached : ∀ id,
        id ∈ DepthFirst.reachable (adjacency (acceptedEdges graph)) (acceptedIds graph) root ↔
          Relation.ReflTransGen (Leads graph) root id := by
      intro id
      rw [← edge_eq_leads]
      exact DepthFirst.mem_reachable_iff closed rootNode
    obtain ⟨later, isLater, mem⟩ := ofRoot root
    refine ⟨⟨_, DepthFirst.collects_reachable closed rootNode, reached⟩, ?_⟩
    rw [noted, mem_noteIf, single, ofSingleRoot, mem, List.any_eq_true]
    simp only [decide_eq_true_eq, reached]
    constructor
    · rintro (inBefore | ⟨-, same⟩ | ⟨orphan, -⟩ | inLater)
      · exact absurd inBefore (isLocal.not_mem rfl)
      · cases same
      · exact orphan
      · exact absurd inLater (isLater.not_mem rfl)
    · exact fun orphan => .inr (.inr (.inl ⟨orphan, trivial⟩))

/-- Members of a document. -/
def document (members : List (String × PyJson)) : PyObject :=
  members.map fun member => (PyStr.ofString member.1, member.2)

/-- A snapshot that refers to itself by its id. -/
def snapshotNode (id : String) : PyJson :=
  .obj (document [("artifact_ref", PyJson.ofText id), ("metadata", .obj []),
    ("mode", PyJson.ofText "ACTUAL"), ("node_id", PyJson.ofText id),
    ("node_type", PyJson.ofText "METRIC_SNAPSHOT"), ("organization_id", PyJson.ofText "org"),
    ("scenario_id", .null)])

/-- An edge between two snapshots. -/
def supersedes (source target : String) : PyJson :=
  .obj (document [("edge_type", PyJson.ofText "SNAPSHOT_SUPERSEDES"),
    ("from_node_id", PyJson.ofText source), ("sequence", .int 0),
    ("to_node_id", PyJson.ofText target)])

/-- Two snapshots that supersede each other, a third one, and an edge to nowhere. -/
def tangledGraph : PyObject :=
  document [("edges", .arr [supersedes "a" "b", supersedes "b" "a", supersedes "b" "a",
      supersedes "c" "d"]),
    ("nodes", .arr (["a", "b", "c"].map snapshotNode)),
    ("root_metric_snapshot_ref", PyJson.ofText "a")]

/-- The first two form a cycle, and the root does not reach the third. -/
theorem hasCycle_and_orphans_tangled :
    (∃ id, Relation.TransGen (Leads tangledGraph) id id) ∧
      ∃ id ∈ acceptedIds tangledGraph,
        ¬Relation.ReflTransGen (Leads tangledGraph) (PyStr.ofString "a") id := by
  have reported : baseDiagnostics ⟨1000, by decide⟩ ⟨none, false⟩ (.obj tangledGraph) =
      .ok [.malformed, .versionInvalid, .tenantMismatch, .modeContamination, .timestampInvalid,
        .hashMismatch, .edgeDuplicate, .nodeMissing, .graphCycle, .orphanNode,
        .requiredPathMissing] := by decide +kernel
  obtain ⟨-, -, cycle, orphan⟩ := hasCycle_and_orphans reported
  exact ⟨cycle.mp (by decide +kernel),
    (orphan (PyStr.ofString "a") (by decide +kernel)).2.mp (by decide +kernel)⟩

end Evidence
end QuantumAnalytics
