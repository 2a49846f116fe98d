import Mathlib.Data.Finset.Dedup
import QuantumAnalytics.Evidence.Soundness

/-!
# The order in which nodes and edges are listed

The loops of the verifier fill tables, take first matches and skip what they
cannot read. When the ids of the nodes are unique none of this depends on the
order of the lists: the tables hold the same entries, and what is noted about
an entry is noted wherever it stands. The diagnostics of a document, as a set,
are therefore those of the document with its nodes and edges listed in another
order.
-/

namespace QuantumAnalytics
namespace Evidence

/-! ### The primary diagnostic -/

/-- `PRIMARY_DIAGNOSTIC_PRIORITY`. -/
def primaryDiagnosticPriority : List EvidenceDiagnostic :=
  [.malformed, .versionInvalid, .tenantMismatch, .modeContamination, .timestampInvalid,
    .hashMismatch, .nodeMissing, .nodeDuplicate, .nodeTypeInvalid, .edgeDuplicate, .edgeInvalid,
    .graphCycle, .requiredPathMissing, .transformationOrderAmbiguous, .approvalMissing,
    .sourceFileUnavailable, .sourceBytesMismatch, .orphanNode]

/-- The first of the priorities that is present, or the first diagnostic. -/
def primaryDiagnostic : List EvidenceDiagnostic → Option EvidenceDiagnostic
  | [] => none
  | first :: rest =>
      some ((primaryDiagnosticPriority.find? fun code => code ∈ first :: rest).getD first)

/-- `diagnose_evidence_chain`; the error is a `RecursionError`. -/
def diagnoseEvidenceChain (interpreter : Interpreter) (options : VerifierOptions)
    (graph : PyJson) : Except PyJson.DumpsError (Option EvidenceDiagnostic) := do
  let errors ← verifyEvidenceChain interpreter options graph
  return primaryDiagnostic errors

/-- Every diagnostic has a priority. -/
theorem mem_primaryDiagnosticPriority (code : EvidenceDiagnostic) :
    code ∈ primaryDiagnosticPriority := by
  cases code <;> decide

/-- The fallback to the first diagnostic is never taken. -/
theorem primaryDiagnostic_eq (codes : List EvidenceDiagnostic) :
    primaryDiagnostic codes = primaryDiagnosticPriority.find? fun code => code ∈ codes := by
  cases codes with
  | nil => rfl
  | cons first rest =>
      have found : (primaryDiagnosticPriority.find? fun code => code ∈ first :: rest).isSome := by
        rw [List.find?_isSome]
        exact ⟨first, mem_primaryDiagnosticPriority first, by simp⟩
      obtain ⟨code, isFirst⟩ := Option.isSome_iff_exists.mp found
      simp only [primaryDiagnostic, isFirst, Option.getD_some]

/-! ### Lists that name the same diagnostics -/

/-- Two lists name the same diagnostics. -/
def SameCodes (codes codes' : List EvidenceDiagnostic) : Prop :=
  ∀ code, code ∈ codes ↔ code ∈ codes'

namespace SameCodes

theorem refl (codes : List EvidenceDiagnostic) : SameCodes codes codes := fun _ => Iff.rfl

theorem of_eq
    {codes codes' : List EvidenceDiagnostic}
    (same : codes = codes') : SameCodes codes codes' := same ▸ refl codes

theorem append
    {codes codes' later later' : List EvidenceDiagnostic}
    (same : SameCodes codes codes')
    (sameLater : SameCodes later later') : SameCodes (codes ++ later) (codes' ++ later') := by
  intro code
  rw [List.mem_append, List.mem_append, same code, sameLater code]

theorem flatMap
    {α : Type}
    {items items' : List α}
    {note note' : α → List EvidenceDiagnostic}
    (perm : items.Perm items')
    (each : ∀ item, SameCodes (note item) (note' item)) :
    SameCodes (items.flatMap note) (items'.flatMap note') := by
  intro code
  simp only [List.mem_flatMap, perm.mem_iff, each _ code]

theorem eraseDups
    {codes codes' : List EvidenceDiagnostic}
    (same : SameCodes codes codes') : SameCodes codes.eraseDups codes'.eraseDups := by
  intro code
  rw [List.mem_eraseDups, List.mem_eraseDups, same code]

theorem toFinset_eq
    {codes codes' : List EvidenceDiagnostic}
    (same : SameCodes codes codes') : codes.toFinset = codes'.toFinset :=
  List.toFinset.ext same

theorem primaryDiagnostic_eq
    {codes codes' : List EvidenceDiagnostic}
    (same : SameCodes codes codes') : primaryDiagnostic codes = primaryDiagnostic codes' := by
  simp only [Evidence.primaryDiagnostic_eq, same _]

end SameCodes

/-! ### Nodes -/

/-- The id and the members of a raw node that has an id. -/
def namedNode? : PyJson → Option (PyStr × PyObject)
  | .obj node =>
      match PyJson.get node "node_id" with
      | .str id => if id.isEmpty then none else some (id, node)
      | _ => none
  | _ => none

/-- No two raw nodes have the same id. -/
def UniqueIds (raws : List PyJson) : Prop := ((raws.filterMap namedNode?).map Prod.fst).Nodup

instance : DecidablePred UniqueIds := fun _ => inferInstanceAs (Decidable (List.Nodup _))

/-- The node of a raw node with the members of a node. -/
def wholeNode? (raw : PyJson) : Option (PyStr × PyObject) :=
  (namedNode? raw).filter fun node => PyJson.hasKeys node.2 nodeFields

/-- What is noted about a raw node with an id of its own. -/
def rawNodeDiagnostics (graph : PyObject) : PyJson → List EvidenceDiagnostic
  | .obj node =>
      if PyJson.hasKeys node nodeFields then
        match PyJson.get node "node_id" with
        | .str id => if id.isEmpty then [.nodeMissing] else nodeDiagnostics graph node
        | _ => [.nodeMissing]
      else [.malformed]
  | _ => [.malformed]

theorem obj_of_namedNode?
    {node : PyObject}
    {entry : PyStr × PyObject}
    (named : namedNode? (.obj node) = some entry) : node = entry.2 := by
  rw [namedNode?] at named
  split at named
  · split_ifs at named
    rw [← Option.some.inj named]
  · simp at named

/-- The nodes after the first have ids of their own as well. -/
theorem nodup_tail
    {raw : PyJson}
    {rest : List PyJson}
    {table : NodeTable}
    (unique : ((table ++ (raw :: rest).filterMap namedNode?).map Prod.fst).Nodup) :
    ((table ++ rest.filterMap namedNode?).map Prod.fst).Nodup := by
  refine unique.sublist (List.Sublist.map _ (List.Sublist.append_left ?_ table))
  exact (List.sublist_cons_self raw rest).filterMap namedNode?

/-- A node with an id of its own is not in the table yet. -/
theorem find_eq_none_of_unique
    {raw : PyJson}
    {rest : List PyJson}
    {table : NodeTable}
    {node : PyStr × PyObject}
    (unique : ((table ++ (raw :: rest).filterMap namedNode?).map Prod.fst).Nodup)
    (named : namedNode? raw = some node) : table.find node.1 = none := by
  rw [List.filterMap_cons_some named, List.map_append, List.nodup_append] at unique
  rw [find_eq_none_iff]
  intro present
  exact unique.2.2 _ present node.1 (by simp) rfl

/-- Nodes with ids of their own are all read. -/
theorem readNodes_eq
    (graph : PyObject)
    {raws : List PyJson}
    {table : NodeTable}
    (unique : ((table ++ raws.filterMap namedNode?).map Prod.fst).Nodup) :
    readNodes graph table raws =
      (table ++ raws.filterMap wholeNode?, raws.flatMap (rawNodeDiagnostics graph)) := by
  induction raws generalizing table with
  | nil => simp [readNodes]
  | cons raw rest inductionHypothesis =>
      have later := inductionHypothesis (nodup_tail unique)
      rw [List.filterMap_cons, List.flatMap_cons]
      cases raw with
      | obj node =>
          unfold readNodes
          dsimp only
          by_cases keys : PyJson.hasKeys node nodeFields = true
          · cases idEq : PyJson.get node "node_id" with
            | str id =>
                by_cases empty : id.isEmpty = true
                · simp [later, keys, idEq, empty, wholeNode?, namedNode?, rawNodeDiagnostics]
                · have named : namedNode? (.obj node) = some (id, node) := by
                    simp [namedNode?, idEq, empty]
                  have fresh := find_eq_none_of_unique unique named
                  have laterMore : readNodes graph (table ++ [(id, node)]) rest =
                      (table ++ [(id, node)] ++ rest.filterMap wholeNode?,
                        rest.flatMap (rawNodeDiagnostics graph)) := by
                    apply inductionHypothesis
                    rw [List.filterMap_cons_some named] at unique
                    simpa using unique
                  have whole : wholeNode? (.obj node) = some (id, node) := by
                    rw [wholeNode?, named, Option.filter_some, if_pos keys]
                  simp [laterMore, keys, idEq, empty, fresh, whole, rawNodeDiagnostics]
            | _ => simp [later, keys, idEq, wholeNode?, namedNode?, rawNodeDiagnostics]
          · have notWhole : wholeNode? (.obj node) = none := by
              rw [wholeNode?, Option.filter_eq_none_iff]
              intro entry named isWhole
              rw [obj_of_namedNode? named] at keys
              exact keys isWhole
            simp [later, keys, notWhole, rawNodeDiagnostics]
      | _ => simp [readNodes, later, wholeNode?, namedNode?, rawNodeDiagnostics]

theorem readNodes_nil_eq
    (graph : PyObject)
    {raws : List PyJson}
    (unique : UniqueIds raws) :
    readNodes graph [] raws =
      (raws.filterMap wholeNode?, raws.flatMap (rawNodeDiagnostics graph)) :=
  readNodes_eq graph unique

/-- The first node of each id is every node when the ids are unique. -/
theorem firstNodes_eq
    {raws : List PyJson}
    {table : NodeTable}
    (unique : ((table ++ raws.filterMap namedNode?).map Prod.fst).Nodup) :
    firstNodes table raws = table ++ raws.filterMap namedNode? := by
  induction raws generalizing table with
  | nil => simp [firstNodes]
  | cons raw rest inductionHypothesis =>
      have later := inductionHypothesis (nodup_tail unique)
      rw [List.filterMap_cons]
      cases raw with
      | obj node =>
          cases idEq : PyJson.get node "node_id" with
          | str id =>
              by_cases empty : id.isEmpty = true
              · simp [firstNodes, later, idEq, empty, namedNode?]
              · have named : namedNode? (.obj node) = some (id, node) := by
                  simp [namedNode?, idEq, empty]
                have fresh := find_eq_none_of_unique unique named
                have laterMore : firstNodes (table ++ [(id, node)]) rest =
                    table ++ [(id, node)] ++ rest.filterMap namedNode? := by
                  apply inductionHypothesis
                  rw [List.filterMap_cons_some named] at unique
                  simpa using unique
                simp [firstNodes, laterMore, idEq, empty, fresh, named]
          | _ => simp [firstNodes, later, idEq, namedNode?]
      | _ => simp [firstNodes, later, namedNode?]

/-- Two tables of the same nodes under unique ids. -/
structure SameTable (nodes nodes' : NodeTable) : Prop where
  perm : nodes.Perm nodes'
  unique : (nodes.map Prod.fst).Nodup

namespace SameTable

variable {nodes nodes' : NodeTable}

theorem find_eq (same : SameTable nodes nodes') : nodes.find = nodes'.find := by
  have unique' : (nodes'.map Prod.fst).Nodup := (same.perm.map Prod.fst).nodup_iff.mp same.unique
  funext id
  apply Option.ext
  intro node
  constructor
  · intro found
    exact find_of_mem unique' (same.perm.mem_iff.mp (mem_of_find found))
  · intro found
    exact find_of_mem same.unique (same.perm.mem_iff.mpr (mem_of_find found))

theorem ids_perm (same : SameTable nodes nodes') :
    (nodes.map Prod.fst).Perm (nodes'.map Prod.fst) := same.perm.map Prod.fst

theorem hasType_eq (same : SameTable nodes nodes') : nodes.hasType = nodes'.hasType := by
  funext id nodeType
  rw [NodeTable.hasType, NodeTable.hasType, same.find_eq]

theorem isApproval_eq (same : SameTable nodes nodes') (isTime : PyJson → Bool) :
    isApproval isTime nodes = isApproval isTime nodes' := by
  funext id
  rw [isApproval, isApproval, metadataOf, metadataOf, same.find_eq]

theorem fileDiagnostics_eq (same : SameTable nodes nodes') (options : VerifierOptions) :
    fileDiagnostics options nodes = fileDiagnostics options nodes' := by
  funext file
  rw [fileDiagnostics, fileDiagnostics, same.find_eq]

theorem placeEdge_eq (same : SameTable nodes nodes') : placeEdge nodes = placeEdge nodes' := by
  funext edge
  rw [placeEdge, placeEdge, same.find_eq, same.hasType_eq]

theorem rootIds_perm (same : SameTable nodes nodes') (rootRef : PyJson) :
    (rootIds nodes rootRef).Perm (rootIds nodes' rootRef) :=
  (same.perm.filter _).map _

end SameTable

/-- The tables of the two verifiers hold the same nodes in any order of the raw nodes. -/
theorem sameTable_of_perm
    {raws raws' : List PyJson}
    (perm : raws.Perm raws')
    (unique : UniqueIds raws) :
    SameTable (raws.filterMap namedNode?) (raws'.filterMap namedNode?) ∧
      SameTable (raws.filterMap wholeNode?) (raws'.filterMap wholeNode?) := by
  refine ⟨⟨perm.filterMap _, unique⟩, ⟨perm.filterMap _, ?_⟩⟩
  have wholes : raws.filterMap wholeNode? =
      (raws.filterMap namedNode?).filter fun node => PyJson.hasKeys node.2 nodeFields := by
    rw [← List.filterMap_eq_filter, List.filterMap_filterMap]
    apply List.filterMap_congr
    intro raw _
    cases named : namedNode? raw <;> simp [wholeNode?, named, Option.filter, Option.guard]
  rw [wholes]
  exact unique.sublist (List.filter_sublist.map Prod.fst)

/-! ### Edges -/

/-- The edge of a raw edge, or what is noted about it. -/
def joinEdge (nodes : NodeTable) (raw : PyJson) : Except EvidenceDiagnostic EdgeRow :=
  (parseEdge raw).bind (placeEdge nodes)

/-- The edges that join nodes. -/
def joinedEdges (nodes : NodeTable) (raws : List PyJson) : List EdgeRow :=
  raws.filterMap fun raw => (joinEdge nodes raw).toOption

/-- What tells the raw edges apart that have all their fields. -/
def edgeKeys (raws : List PyJson) : List (PyStr × PyStr × PyStr) :=
  raws.filterMap fun raw => (parseEdge raw).toOption.map EdgeRow.key

theorem readEdges_fst
    (nodes : NodeTable)
    (raws : List PyJson)
    (seen : List (PyStr × PyStr × PyStr)) :
    (readEdges nodes seen raws).1 = joinedEdges nodes raws := by
  induction raws generalizing seen with
  | nil => rfl
  | cons raw rest inductionHypothesis =>
      rw [joinedEdges, List.filterMap_cons, joinEdge]
      unfold readEdges
      cases parsed : parseEdge raw with
      | error diagnostic => exact inductionHypothesis seen
      | ok edge =>
          dsimp only [Except.bind]
          cases placed : placeEdge nodes edge with
          | error diagnostic => exact inductionHypothesis _
          | ok row => exact congrArg (row :: ·) (inductionHypothesis _)

theorem placeEdge_of_joinEdge
    {nodes : NodeTable}
    {raw : PyJson}
    {row : EdgeRow}
    (joined : (joinEdge nodes raw).toOption = some row) : placeEdge nodes row = .ok row := by
  rw [joinEdge] at joined
  cases parsed : parseEdge raw with
  | error diagnostic => simp [parsed, Except.bind, Except.toOption] at joined
  | ok edge =>
      cases placed : placeEdge nodes edge with
      | error diagnostic => simp [parsed, placed, Except.bind, Except.toOption] at joined
      | ok other =>
          simp only [parsed, placed, Except.bind, Except.toOption, Option.some.injEq] at joined
          rw [← joined, eq_of_placeEdge placed]
          rwa [eq_of_placeEdge placed] at placed

/-- A repeated key is noted at its first repetition, here or later. -/
private theorem noted_here_or_later_iff {known repeated here later fresh : Prop} :
    known ∧ repeated ∨ here ∨ (later ∨ repeated ∧ ¬fresh) ↔
      (here ∨ later) ∨ repeated ∧ ¬(¬known ∧ fresh) := by
  tauto

/-- What is noted about the raw edges: what is noted about one of them, and
that two of them are the same. -/
theorem mem_readEdges_iff
    (nodes : NodeTable)
    (raws : List PyJson)
    (seen : List (PyStr × PyStr × PyStr))
    (code : EvidenceDiagnostic) :
    code ∈ (readEdges nodes seen raws).2 ↔
      (∃ raw ∈ raws, joinEdge nodes raw = .error code) ∨
        code = .edgeDuplicate ∧
          ¬((edgeKeys raws).Nodup ∧ ∀ key ∈ edgeKeys raws, key ∉ seen) := by
  induction raws generalizing seen with
  | nil => simp [readEdges, edgeKeys]
  | cons raw rest inductionHypothesis =>
      rw [List.exists_mem_cons_iff]
      cases parsed : parseEdge raw with
      | error diagnostic =>
          have keys : edgeKeys (raw :: rest) = edgeKeys rest := by
            simp [edgeKeys, parsed, Except.toOption]
          have noted : (readEdges nodes seen (raw :: rest)).2 =
              diagnostic :: (readEdges nodes seen rest).2 := by
            simp only [readEdges, parsed]
          rw [noted, List.mem_cons, inductionHypothesis, keys, joinEdge, parsed, Except.bind,
            Except.error.injEq, or_assoc, eq_comm (a := code)]
      | ok edge =>
          have keys : edgeKeys (raw :: rest) = edge.key :: edgeKeys rest := by
            simp [edgeKeys, parsed, Except.toOption]
          -- A key is new exactly when it was not seen and does not come again.
          have new : ((edgeKeys (raw :: rest)).Nodup ∧
              ∀ key ∈ edgeKeys (raw :: rest), key ∉ seen) ↔
              edge.key ∉ seen ∧ (edgeKeys rest).Nodup ∧
                ∀ key ∈ edgeKeys rest, key ∉ edge.key :: seen := by
            rw [keys, List.nodup_cons, List.forall_mem_cons]
            simp only [List.mem_cons, not_or]
            constructor
            · rintro ⟨⟨once, distinct⟩, unseen, later⟩
              exact ⟨unseen, distinct, fun key present =>
                ⟨fun same => once (same ▸ present), later key present⟩⟩
            · rintro ⟨unseen, distinct, later⟩
              exact ⟨⟨fun again => (later _ again).1 rfl, distinct⟩, unseen,
                fun key present => (later key present).2⟩
          have noted : code ∈ (readEdges nodes seen (raw :: rest)).2 ↔
              (edge.key ∈ seen ∧ code = .edgeDuplicate) ∨ joinEdge nodes raw = .error code ∨
                code ∈ (readEdges nodes (edge.key :: seen) rest).2 := by
            simp only [readEdges, parsed, joinEdge, Except.bind]
            cases placeEdge nodes edge <;>
              simp [noteIf, List.mem_append, eq_comm (a := code)]
          rw [noted, inductionHypothesis, new]
          exact noted_here_or_later_iff

/-- Edges that join nodes stay among them. -/
theorem closed_joinedEdges
    (nodes : NodeTable)
    (raws : List PyJson) :
    DepthFirst.Closed (adjacency (joinedEdges nodes raws)) (nodes.map Prod.fst) := by
  intro source _ target edge
  simp only [adjacency, List.mem_map, List.mem_filter, joinedEdges, List.mem_filterMap] at edge
  obtain ⟨row, ⟨⟨raw, -, joined⟩, -⟩, rfl⟩ := edge
  have placed := placeEdge_of_joinEdge joined
  by_contra absent
  have missing : nodes.find row.target = none := find_eq_none_iff.mpr absent
  simp [placeEdge, missing] at placed

/-! ### Checks that start at the root -/

/-- A test of some item of a list does not depend on the order of the items. -/
theorem any_eq_of_perm
    {α : Type}
    {items items' : List α}
    (perm : items.Perm items')
    (test : α → Bool) : items.any test = items'.any test := by
  rw [Bool.eq_iff_iff, List.any_eq_true, List.any_eq_true]
  simp only [perm.mem_iff]

section Rows

variable {nodes nodes' : NodeTable} {edges edges' : List EdgeRow}

theorem edge_eq_of_perm (perm : edges.Perm edges') :
    DepthFirst.Edge (adjacency edges) = DepthFirst.Edge (adjacency edges') := by
  funext source target
  exact propext ((perm.filter _).map EdgeRow.target).mem_iff

theorem hasCycle_eq_of_perm
    (same : SameTable nodes nodes')
    (perm : edges.Perm edges')
    (closed : DepthFirst.Closed (adjacency edges) (nodes.map Prod.fst))
    (closed' : DepthFirst.Closed (adjacency edges') (nodes'.map Prod.fst)) :
    DepthFirst.hasCycle (adjacency edges) (nodes.map Prod.fst) =
      DepthFirst.hasCycle (adjacency edges') (nodes'.map Prod.fst) := by
  rw [Bool.eq_iff_iff, DepthFirst.hasCycle_iff closed, DepthFirst.hasCycle_iff closed',
    edge_eq_of_perm perm]
  simp only [same.ids_perm.mem_iff]

variable (same : SameTable nodes nodes') (perm : edges.Perm edges')

include same perm

theorem targets_perm (source : PyStr) (edgeType nodeType : String) :
    (targets nodes edges source edgeType nodeType).Perm
      (targets nodes' edges' source edgeType nodeType) := by
  rw [targets, targets, same.hasType_eq]
  exact ((perm.filter _).map _).filter _

theorem approved_eq : approved nodes edges = approved nodes' edges' := by
  funext artifact
  rw [approved, approved, same.isApproval_eq]
  exact any_eq_of_perm (targets_perm same perm _ _ _) _

theorem profileDiagnostics_eq : profileDiagnostics nodes edges = profileDiagnostics nodes' edges' := by
  funext profile
  have rounding := targets_perm same perm profile "PROFILE_USES_ROUNDING" "ROUNDING_POLICY"
  have authorities :=
    targets_perm same perm profile "PROFILE_USES_SOURCE_AUTHORITY" "SOURCE_AUTHORITY"
  simp only [profileDiagnostics, rounding.isEmpty_eq, authorities.isEmpty_eq,
    approved_eq same perm, any_eq_of_perm (rounding.append authorities)]

theorem resolutionDiagnostics_eq :
    resolutionDiagnostics nodes edges = resolutionDiagnostics nodes' edges' := by
  funext resolution
  simp only [resolutionDiagnostics, (targets_perm same perm resolution _ _).isEmpty_eq]

theorem recordDiagnostics_sameCodes (options : VerifierOptions) (record : PyStr) :
    SameCodes (recordDiagnostics options nodes edges record)
      (recordDiagnostics options nodes' edges' record) := by
  have files := targets_perm same perm record "RECORD_READ_FROM_FILE" "SOURCE_FILE"
  unfold recordDiagnostics
  refine .append (.of_eq (by rw [files.isEmpty_eq])) (.flatMap files fun file => ?_)
  exact .of_eq (by rw [same.fileDiagnostics_eq])

theorem eventDiagnostics_sameCodes (options : VerifierOptions) (event : PyStr) :
    SameCodes (eventDiagnostics options nodes edges event)
      (eventDiagnostics options nodes' edges' event) := by
  have records := targets_perm same perm event "EVENT_NORMALIZED_FROM_RECORD" "SOURCE_RECORD"
  unfold eventDiagnostics
  refine .append (.of_eq (by rw [records.isEmpty_eq])) (.flatMap records fun record => ?_)
  exact recordDiagnostics_sameCodes same perm options record

omit same in
/-- Sequence numbers are compared after they are sorted. -/
theorem sequence_eq (root : PyStr) :
    (transformationSequence edges root).insertionSort (· ≤ ·) =
        (transformationSequence edges' root).insertionSort (· ≤ ·) ∧
      (transformationSequence edges root).length = (transformationSequence edges' root).length := by
  have sequence : (transformationSequence edges root).Perm (transformationSequence edges' root) :=
    (perm.filter _).map _
  refine ⟨?_, sequence.length_eq⟩
  apply List.Perm.eq_of_pairwise' (List.pairwise_insertionSort _ _)
    (List.pairwise_insertionSort _ _)
  exact ((List.perm_insertionSort _ _).trans sequence).trans (List.perm_insertionSort _ _).symm

theorem rootDiagnostics_sameCodes
    (options : VerifierOptions)
    (closed : DepthFirst.Closed (adjacency edges) (nodes.map Prod.fst))
    (closed' : DepthFirst.Closed (adjacency edges') (nodes'.map Prod.fst))
    {root : PyStr}
    (rootNode : root ∈ nodes.map Prod.fst) :
    SameCodes (rootDiagnostics options nodes edges root)
      (rootDiagnostics options nodes' edges' root) := by
  have orphans : ((nodes.map Prod.fst).any fun id =>
        id ∉ DepthFirst.reachable (adjacency edges) (nodes.map Prod.fst) root) =
      (nodes'.map Prod.fst).any fun id =>
        id ∉ DepthFirst.reachable (adjacency edges') (nodes'.map Prod.fst) root := by
    have rootNode' := same.ids_perm.mem_iff.mp rootNode
    rw [any_eq_of_perm same.ids_perm]
    congr 1
    funext id
    rw [decide_eq_decide, DepthFirst.mem_reachable_iff closed rootNode,
      DepthFirst.mem_reachable_iff closed' rootNode', edge_eq_of_perm perm]
  obtain ⟨sorted, length⟩ := sequence_eq perm root
  have perms := targets_perm same perm root
  simp only [rootDiagnostics, orphans, (perms _ _).isEmpty_eq, sorted, length,
    profileDiagnostics_eq same perm, resolutionDiagnostics_eq same perm]
  refine .append (.append (.append (.refl _) ?_) ?_) ?_
  · exact .flatMap (perms _ _) fun _ => .refl _
  · exact .flatMap (perms _ _) fun _ => .refl _
  · exact .flatMap (perms _ _) (eventDiagnostics_sameCodes same perm options)

end Rows

section RawEdges

variable {nodes nodes' : NodeTable} {rawEdges rawEdges' : List PyJson}
  (same : SameTable nodes nodes') (perm : rawEdges.Perm rawEdges')

include same perm

theorem typedTargets_perm (source : PyStr) (edgeType nodeType : String) :
    (rawEdges.filterMap (typedTarget? nodes source edgeType nodeType)).Perm
      (rawEdges'.filterMap (typedTarget? nodes' source edgeType nodeType)) := by
  have sameTarget : typedTarget? nodes source edgeType nodeType =
      typedTarget? nodes' source edgeType nodeType := by
    funext raw
    unfold typedTarget?
    rw [same.hasType_eq]
  rw [sameTarget]
  exact perm.filterMap _

theorem typedTargetIds_eq : typedTargetIds rawEdges nodes = typedTargetIds rawEdges' nodes' := by
  funext source edgeType nodeType
  exact List.toFinset_eq_of_perm _ _ (typedTargets_perm same perm source edgeType nodeType)

theorem hasStrictApproval_eq :
    hasStrictApproval rawEdges nodes = hasStrictApproval rawEdges' nodes' := by
  funext artifact
  unfold hasStrictApproval
  rw [decide_eq_decide, typedTargetIds_eq same perm, same.isApproval_eq]

theorem strictProfileDiagnostics_eq :
    strictProfileDiagnostics rawEdges nodes = strictProfileDiagnostics rawEdges' nodes' := by
  funext resolved profile
  unfold strictProfileDiagnostics
  rw [typedTargetIds_eq same perm]
  refine congrArg₂ (· ++ ·) (congrArg₂ (· ++ ·) rfl ?_) rfl
  apply congrArg (noteIf · _)
  rw [decide_eq_decide, hasStrictApproval_eq same perm]

theorem strictRootDiagnostics_sameCodes (root : PyStr) :
    SameCodes (strictRootDiagnostics rawEdges nodes root)
      (strictRootDiagnostics rawEdges' nodes' root) := by
  have ids := typedTargetIds_eq same perm
  have rules : resolutionRuleIds rawEdges nodes = resolutionRuleIds rawEdges' nodes' := by
    funext resolution
    rw [resolutionRuleIds, resolutionRuleIds, ids]
  unfold strictRootDiagnostics
  simp only [ids, rules, strictProfileDiagnostics_eq same perm]
  exact .append (.refl _) (.flatMap (typedTargets_perm same perm _ _ _) fun _ => .refl _)

end RawEdges

/-! ### Tables and raw edges -/

/-- The checks of a single root; where there is not one, nothing is checked. -/
def ofSingleRoot (note : PyStr → List EvidenceDiagnostic) : List PyStr → List EvidenceDiagnostic
  | [root] => note root
  | _ => []

/-- A single root stays the single root in any order. -/
theorem ofSingleRoot_sameCodes
    {roots roots' : List PyStr}
    {note note' : PyStr → List EvidenceDiagnostic}
    (perm : roots.Perm roots')
    (each : ∀ root ∈ roots, SameCodes (note root) (note' root)) :
    SameCodes (ofSingleRoot note roots) (ofSingleRoot note' roots') := by
  by_cases single : roots.length = 1
  · obtain ⟨root, rfl⟩ := List.length_eq_one_iff.mp single
    rw [← perm.singleton_eq]
    exact each root (List.mem_singleton_self root)
  · have none : ∀ (note : PyStr → List EvidenceDiagnostic) (others : List PyStr),
        others.length ≠ 1 → ofSingleRoot note others = [] := by
      intro note others several
      match others, several with
      | [], _ => rfl
      | [_], several => exact absurd rfl several
      | _ :: _ :: _, _ => rfl
    rw [none _ _ single, none _ _ (perm.length_eq ▸ single)]
    exact .refl _

/-- What is noted after the nodes were read. -/
def tableDiagnostics (options : VerifierOptions) (nodes : NodeTable) (roots : List PyStr)
    (rawEdges : List PyJson) : List EvidenceDiagnostic :=
  let edges := joinedEdges nodes rawEdges
  (readEdges nodes [] rawEdges).2 ++
    noteIf (DepthFirst.hasCycle (adjacency edges) (nodes.map Prod.fst)) .graphCycle ++
    ofSingleRoot (rootDiagnostics options nodes edges) roots

theorem graphDiagnostics_eq
    (options : VerifierOptions)
    (graph : PyObject)
    (unique : UniqueIds (itemsOf (PyJson.get graph "nodes"))) :
    graphDiagnostics options graph =
      noteIf (itemsOf (PyJson.get graph "nodes")).isEmpty .nodeMissing ++
        (itemsOf (PyJson.get graph "nodes")).flatMap (rawNodeDiagnostics graph) ++
        noteIf ((rootIds ((itemsOf (PyJson.get graph "nodes")).filterMap wholeNode?)
          (PyJson.get graph "root_metric_snapshot_ref")).length ≠ 1) .nodeMissing ++
        noteIf (!isList (PyJson.get graph "edges")) .malformed ++
        tableDiagnostics options ((itemsOf (PyJson.get graph "nodes")).filterMap wholeNode?)
          (rootIds ((itemsOf (PyJson.get graph "nodes")).filterMap wholeNode?)
            (PyJson.get graph "root_metric_snapshot_ref"))
          (itemsOf (PyJson.get graph "edges")) := by
  unfold graphDiagnostics tableDiagnostics
  dsimp only
  rw [readNodes_nil_eq graph unique, ← readEdges_fst _ _ []]
  simp only [List.append_assoc]
  rfl

theorem strictDiagnostics_eq
    (graph : PyObject)
    (unique : UniqueIds (itemsOf (PyJson.get graph "nodes"))) :
    strictDiagnostics graph =
      noteIf (!isRfc3339Datetime (PyJson.get graph "created_at")) .timestampInvalid ++
        if isList (PyJson.get graph "nodes") && isList (PyJson.get graph "edges") then
          ofSingleRoot (strictRootDiagnostics (itemsOf (PyJson.get graph "edges"))
            ((itemsOf (PyJson.get graph "nodes")).filterMap namedNode?))
            (rootIds ((itemsOf (PyJson.get graph "nodes")).filterMap namedNode?)
              (PyJson.get graph "root_metric_snapshot_ref"))
        else [] := by
  unfold strictDiagnostics
  cases hasNodes : PyJson.get graph "nodes" with
  | arr rawNodes =>
      rw [hasNodes] at unique
      cases PyJson.get graph "edges" with
      | arr rawEdges =>
          have first : firstNodes [] rawNodes = rawNodes.filterMap namedNode? :=
            firstNodes_eq unique
          simp only [first, isList, itemsOf, Bool.and_self, if_true]
          rfl
      | _ => simp [isList]
  | _ => simp [isList]

theorem tableDiagnostics_sameCodes
    {nodes nodes' : NodeTable}
    {rawEdges rawEdges' : List PyJson}
    {rootRef : PyJson}
    (same : SameTable nodes nodes')
    (perm : rawEdges.Perm rawEdges')
    (options : VerifierOptions)
    (rootsPerm : (rootIds nodes rootRef).Perm (rootIds nodes' rootRef)) :
    SameCodes (tableDiagnostics options nodes (rootIds nodes rootRef) rawEdges)
      (tableDiagnostics options nodes' (rootIds nodes' rootRef) rawEdges') := by
  have joined : joinEdge nodes = joinEdge nodes' := by
    funext raw
    rw [joinEdge, joinEdge, same.placeEdge_eq]
  have edges : (joinedEdges nodes rawEdges).Perm (joinedEdges nodes' rawEdges') := by
    rw [joinedEdges, joinedEdges, joined]
    exact perm.filterMap _
  have noted : SameCodes (readEdges nodes [] rawEdges).2 (readEdges nodes' [] rawEdges').2 := by
    intro code
    have keys : (edgeKeys rawEdges).Perm (edgeKeys rawEdges') := perm.filterMap _
    simp only [mem_readEdges_iff, joined, perm.mem_iff, keys.nodup_iff, keys.mem_iff]
  have closed := closed_joinedEdges nodes rawEdges
  have closed' := closed_joinedEdges nodes' rawEdges'
  unfold tableDiagnostics
  dsimp only
  rw [hasCycle_eq_of_perm same edges closed closed']
  refine .append (.append noted (.refl _)) (ofSingleRoot_sameCodes rootsPerm ?_)
  intro root isRoot
  exact rootDiagnostics_sameCodes same edges options closed closed'
    ((List.filter_sublist.map _).subset isRoot)

/-! ### Documents -/

/-- A list with its items in another order; any other value is kept. -/
inductive Relisted : PyJson → PyJson → Prop
  | items {items items' : List PyJson} : items.Perm items' → Relisted (.arr items) (.arr items')
  | kept (value : PyJson) : Relisted value value

/-- A member of a document whose nodes and edges are listed in another order.
The content hash may be another one. -/
def MemberRelisted (member member' : PyStr × PyJson) : Prop :=
  member.1 = member'.1 ∧
    if member.1 ∈ ["nodes", "edges"].map PyStr.ofString then Relisted member.2 member'.2
    else member.1 = PyStr.ofString "content_hash" ∨ member.2 = member'.2

/-- A document and the document with its nodes and edges listed in another
order and the hash recomputed: a right hash is right again, a wrong one is
wrong again, and where no hash can be computed the reason is the same. -/
structure Reordered (interpreter : Interpreter) (graph graph' : PyObject) : Prop where
  members : List.Forall₂ MemberRelisted graph graph'
  hashForm : (PyJson.get graph "content_hash").isHash = (PyJson.get graph' "content_hash").isHash
  hashKept : (canonicalGraphHash interpreter graph).map (PyJson.get graph "content_hash").isText =
    (canonicalGraphHash interpreter graph').map (PyJson.get graph' "content_hash").isText

theorem Relisted.itemsOf_perm
    {value value' : PyJson}
    (relisted : Relisted value value') : (itemsOf value).Perm (itemsOf value') := by
  cases relisted with
  | items perm => exact perm
  | kept => exact .refl _

theorem Relisted.isList_eq
    {value value' : PyJson}
    (relisted : Relisted value value') : isList value = isList value' := by
  cases relisted <;> rfl

namespace Reordered

variable {interpreter : Interpreter} {graph graph' : PyObject}
  (reordered : Reordered interpreter graph graph')

include reordered

theorem memberRelisted_get (key : String) :
    MemberRelisted (PyStr.ofString key, PyJson.get graph key)
      (PyStr.ofString key, PyJson.get graph' key) := by
  have members := reordered.members
  clear reordered
  unfold PyJson.get
  induction members with
  | nil =>
      refine ⟨rfl, ?_⟩
      split_ifs
      · exact .kept _
      · exact .inr rfl
  | @cons member member' _ _ relisted _ inductionHypothesis =>
      by_cases isKey : member.1 = PyStr.ofString key
      · have isKey' : member'.1 = PyStr.ofString key := relisted.1 ▸ isKey
        simpa [List.find?_cons, isKey, isKey', MemberRelisted] using relisted.2
      · have notKey' : member'.1 ≠ PyStr.ofString key := relisted.1 ▸ isKey
        simpa [List.find?_cons, isKey, notKey'] using inductionHypothesis

/-- The other members are kept. -/
theorem get_eq
    (key : String)
    (other : PyStr.ofString key ∉ ["nodes", "edges", "content_hash"].map PyStr.ofString) :
    PyJson.get graph key = PyJson.get graph' key := by
  have relisted := (reordered.memberRelisted_get key).2
  simp only [List.map_cons, List.map_nil, List.mem_cons, List.not_mem_nil, or_false,
    not_or] at other
  rw [if_neg (by simp [other])] at relisted
  exact relisted.resolve_left other.2.2

theorem relisted_nodes : Relisted (PyJson.get graph "nodes") (PyJson.get graph' "nodes") := by
  have relisted := (reordered.memberRelisted_get "nodes").2
  dsimp only at relisted
  rwa [if_pos (by decide)] at relisted

theorem relisted_edges : Relisted (PyJson.get graph "edges") (PyJson.get graph' "edges") := by
  have relisted := (reordered.memberRelisted_get "edges").2
  dsimp only at relisted
  rwa [if_pos (by decide)] at relisted

theorem hasKeys_eq (keys : List String) :
    PyJson.hasKeys graph keys = PyJson.hasKeys graph' keys := by
  have sameKeys : ∀ {left right : PyObject}, List.Forall₂ MemberRelisted left right →
      left.map Prod.fst = right.map Prod.fst := by
    intro left right members
    induction members with
    | nil => rfl
    | cons relisted _ inductionHypothesis =>
        rw [List.map_cons, List.map_cons, relisted.1, inductionHypothesis]
  have anyKey : ∀ (fields : PyObject) (test : PyStr → Bool),
      (fields.any fun field => test field.1) = (fields.map Prod.fst).any test := by
    intro fields test
    rw [List.any_map]
    rfl
  have allKeys : ∀ (fields : PyObject) (test : PyStr → Bool),
      (fields.all fun field => test field.1) = (fields.map Prod.fst).all test := by
    intro fields test
    rw [List.all_map]
    rfl
  unfold PyJson.hasKeys
  rw [allKeys graph (fun name => keys.any fun key => name = PyStr.ofString key),
    allKeys graph' (fun name => keys.any fun key => name = PyStr.ofString key),
    sameKeys reordered.members]
  congr 2
  funext key
  rw [anyKey graph (fun name => name = PyStr.ofString key),
    anyKey graph' (fun name => name = PyStr.ofString key), sameKeys reordered.members]

theorem hashDiagnostics_eq :
    hashDiagnostics interpreter graph = hashDiagnostics interpreter graph' := by
  have kept := reordered.hashKept
  unfold hashDiagnostics
  dsimp only
  rw [reordered.hashForm]
  cases hashed : canonicalGraphHash interpreter graph with
  | error failure =>
      cases hashed' : canonicalGraphHash interpreter graph' with
      | error failure' =>
          rw [hashed, hashed'] at kept
          obtain rfl := Except.error.inj kept
          cases failure <;> rfl
      | ok digest => simp [hashed, hashed', Except.map] at kept
  | ok digest =>
      cases hashed' : canonicalGraphHash interpreter graph' with
      | error failure => simp [hashed, hashed', Except.map] at kept
      | ok digest' =>
          rw [hashed, hashed'] at kept
          dsimp only
          rw [Except.ok.inj kept]

theorem headDiagnostics_eq : headDiagnostics graph = headDiagnostics graph' := by
  have mode : modeDiagnostics graph = modeDiagnostics graph' := by
    simp only [modeDiagnostics, reordered.get_eq "mode" (by decide),
      reordered.get_eq "scenario_id" (by decide)]
  simp only [headDiagnostics, mode, reordered.hasKeys_eq,
    reordered.get_eq "evidence_chain_id" (by decide), reordered.get_eq "version" (by decide),
    reordered.get_eq "organization_id" (by decide), reordered.get_eq "created_at" (by decide),
    reordered.get_eq "actor" (by decide), reordered.get_eq "reason" (by decide),
    reordered.get_eq "trace_id" (by decide), List.flatMap_cons, List.flatMap_nil]

/-- A node is compared with members of the document that are kept. -/
theorem rawNodeDiagnostics_eq : rawNodeDiagnostics graph = rawNodeDiagnostics graph' := by
  funext raw
  simp only [rawNodeDiagnostics, nodeDiagnostics, reordered.get_eq "mode" (by decide),
    reordered.get_eq "scenario_id" (by decide), reordered.get_eq "organization_id" (by decide)]

/-- What is noted about nodes and edges does not depend on their order. -/
theorem graphDiagnostics_sameCodes
    (options : VerifierOptions)
    (unique : UniqueIds (itemsOf (PyJson.get graph "nodes"))) :
    SameCodes (graphDiagnostics options graph) (graphDiagnostics options graph') := by
  have nodesPerm := reordered.relisted_nodes.itemsOf_perm
  have edgesPerm := reordered.relisted_edges.itemsOf_perm
  have unique' : UniqueIds (itemsOf (PyJson.get graph' "nodes")) :=
    ((nodesPerm.filterMap _).map _).nodup_iff.mp unique
  obtain ⟨-, same⟩ := sameTable_of_perm nodesPerm unique
  have rootsPerm := same.rootIds_perm (PyJson.get graph' "root_metric_snapshot_ref")
  rw [graphDiagnostics_eq options graph unique, graphDiagnostics_eq options graph' unique',
    reordered.get_eq "root_metric_snapshot_ref" (by decide), reordered.relisted_edges.isList_eq,
    nodesPerm.isEmpty_eq, reordered.rawNodeDiagnostics_eq, rootsPerm.length_eq]
  refine .append (.append (.append (.append (.refl _) ?_) (.refl _)) (.refl _)) ?_
  · exact .flatMap nodesPerm fun _ => .refl _
  · exact tableDiagnostics_sameCodes same edgesPerm options rootsPerm

/-- What the runtime verifier adds does not depend on their order. -/
theorem strictDiagnostics_sameCodes
    (unique : UniqueIds (itemsOf (PyJson.get graph "nodes"))) :
    SameCodes (strictDiagnostics graph) (strictDiagnostics graph') := by
  have nodesPerm := reordered.relisted_nodes.itemsOf_perm
  have edgesPerm := reordered.relisted_edges.itemsOf_perm
  have unique' : UniqueIds (itemsOf (PyJson.get graph' "nodes")) :=
    ((nodesPerm.filterMap _).map _).nodup_iff.mp unique
  obtain ⟨same, -⟩ := sameTable_of_perm nodesPerm unique
  have rootsPerm := same.rootIds_perm (PyJson.get graph' "root_metric_snapshot_ref")
  rw [strictDiagnostics_eq graph unique, strictDiagnostics_eq graph' unique',
    reordered.get_eq "created_at" (by decide),
    reordered.get_eq "root_metric_snapshot_ref" (by decide),
    reordered.relisted_nodes.isList_eq, reordered.relisted_edges.isList_eq]
  refine .append (.refl _) ?_
  split_ifs
  · exact ofSingleRoot_sameCodes rootsPerm fun root _ =>
      strictRootDiagnostics_sameCodes same edgesPerm root
  · exact .refl _

end Reordered

/-- What both verifiers note about a mapping. -/
def allDiagnostics (options : VerifierOptions) (graph : PyObject)
    (ofHash : List EvidenceDiagnostic) : List EvidenceDiagnostic :=
  ((headDiagnostics graph ++ ofHash ++
    refDiagnostics (PyJson.get graph "root_metric_snapshot_ref") ++
    graphDiagnostics options graph).eraseDups ++ strictDiagnostics graph).eraseDups

theorem verifyEvidenceChain_obj
    (interpreter : Interpreter)
    (options : VerifierOptions)
    (graph : PyObject) :
    verifyEvidenceChain interpreter options (.obj graph) =
      (hashDiagnostics interpreter graph).map (allDiagnostics options graph) := by
  unfold verifyEvidenceChain baseDiagnostics allDiagnostics
  dsimp only
  cases hashDiagnostics interpreter graph with
  | error failure => rfl
  | ok ofHash => simp only [Except.map, Checks.ok_bind, pure, Except.pure]

theorem diagnoseEvidenceChain_obj
    (interpreter : Interpreter)
    (options : VerifierOptions)
    (graph : PyObject) :
    diagnoseEvidenceChain interpreter options (.obj graph) =
      ((hashDiagnostics interpreter graph).map (allDiagnostics options graph)).map
        primaryDiagnostic := by
  rw [diagnoseEvidenceChain, verifyEvidenceChain_obj]
  cases hashDiagnostics interpreter graph with
  | error failure => rfl
  | ok ofHash => simp only [Except.map, Checks.ok_bind, pure, Except.pure]

/-- For every evidence document with unique node ids, the diagnostics as a set
and the primary diagnostic are those of the document with its nodes and edges
listed in another order. -/
theorem verifyEvidenceChain_reordered
    (interpreter : Interpreter)
    (options : VerifierOptions)
    {graph graph' : PyObject}
    (unique : UniqueIds (itemsOf (PyJson.get graph "nodes")))
    (reordered : Reordered interpreter graph graph') :
    (verifyEvidenceChain interpreter options (.obj graph)).map List.toFinset =
        (verifyEvidenceChain interpreter options (.obj graph')).map List.toFinset ∧
      diagnoseEvidenceChain interpreter options (.obj graph) =
        diagnoseEvidenceChain interpreter options (.obj graph') := by
  have base := reordered.graphDiagnostics_sameCodes options unique
  have strict := reordered.strictDiagnostics_sameCodes unique
  have same : ∀ ofHash,
      SameCodes (allDiagnostics options graph ofHash) (allDiagnostics options graph' ofHash) := by
    intro ofHash
    unfold allDiagnostics
    rw [reordered.headDiagnostics_eq, reordered.get_eq "root_metric_snapshot_ref" (by decide)]
    exact .eraseDups (.append (.eraseDups (.append (.refl _) base)) strict)
  rw [diagnoseEvidenceChain_obj, diagnoseEvidenceChain_obj, verifyEvidenceChain_obj,
    verifyEvidenceChain_obj, reordered.hashDiagnostics_eq]
  exact ⟨Checks.map_map_congr (fun ofHash => (same ofHash).toFinset_eq) _,
    Checks.map_map_congr (fun ofHash => (same ofHash).primaryDiagnostic_eq) _⟩

/-- A document of nodes and edges in the order of the given ids. -/
def listing (digest : String) (ids : List String) : PyObject :=
  [(PyStr.ofString "content_hash", PyJson.ofText digest),
    (PyStr.ofString "edges",
      .arr (ids.map fun id => .obj [(PyStr.ofString "to_node_id", PyJson.ofText id)])),
    (PyStr.ofString "nodes",
      .arr (ids.map fun id => .obj [(PyStr.ofString "node_id", PyJson.ofText id)]))]

/-- Both documents carry the hash of what they list. -/
theorem verifyEvidenceChain_reordered_pair :
    (verifyEvidenceChain ⟨1000, by decide⟩ ⟨none, false⟩ (.obj (listing
        "999e814806aa7db5de054c617b9d94b345bbab2d35d0404853db144c8fd8e65d" ["a", "b"]))).map
          List.toFinset =
      (verifyEvidenceChain ⟨1000, by decide⟩ ⟨none, false⟩ (.obj (listing
        "df149e863ec006b70fc7e9542ab1b22c0859509b8245354e003b8ecea5070c4d" ["b", "a"]))).map
          List.toFinset :=
  (verifyEvidenceChain_reordered _ _ (by decide)
    { members := by
        refine .cons ⟨rfl, ?_⟩ (.cons ⟨rfl, ?_⟩ (.cons ⟨rfl, ?_⟩ .nil))
        · exact .inl rfl
        · exact .items (.swap _ _ _)
        · exact .items (.swap _ _ _)
      hashForm := by decide +kernel
      hashKept := by decide +kernel }).1

end Evidence
end QuantumAnalytics
