import QuantumAnalytics.Evidence.Reading

/-!
# Soundness of the verifier

A document without diagnostics spells out a graph that traces its root. The
tables that the loops have read are that graph, so that each check of the
verifier says something about paths in it.
-/

namespace QuantumAnalytics
namespace Evidence

/-- The tables of the verifier are the nodes and the edges of a graph. -/
structure Tabled (nodes : NodeTable) (rawEdges : List PyJson) (graph : EvidenceGraph) : Prop where
  nodesView : List.Forall₂ NodeView nodes graph.nodes
  distinct : (nodes.map Prod.fst).Nodup
  parsed : List.Forall₂ (fun raw edge => parseEdge raw = .ok edge) rawEdges graph.edges
  placed : ∀ edge ∈ graph.edges, placeEdge nodes edge = .ok edge

section Tables

variable {nodes : NodeTable} {rawEdges : List PyJson} {graph : EvidenceGraph}

theorem find_of_mem
    (distinct : (nodes.map Prod.fst).Nodup)
    {entry : PyStr × PyObject}
    (present : entry ∈ nodes) : nodes.find entry.1 = some entry.2 := by
  induction nodes with
  | nil => exact absurd present List.not_mem_nil
  | cons first nodes inductionHypothesis =>
      rw [List.map_cons, List.nodup_cons] at distinct
      rcases List.mem_cons.mp present with rfl | later
      · simp [NodeTable.find]
      · have different : first.1 ≠ entry.1 := by
          intro same
          exact distinct.1 (same ▸ List.mem_map_of_mem later)
        have found := inductionHypothesis distinct.2 later
        unfold NodeTable.find at found ⊢
        rwa [List.find?_cons_of_neg (by simpa using different)]

theorem mem_of_find
    {id : PyStr}
    {node : PyObject}
    (found : nodes.find id = some node) : (id, node) ∈ nodes := by
  rw [NodeTable.find, Option.map_eq_some_iff] at found
  obtain ⟨entry, isEntry, rfl⟩ := found
  have same : entry.1 = id := by simpa using List.find?_some isEntry
  rw [← same]
  exact List.mem_of_find?_eq_some isEntry

variable (tabled : Tabled nodes rawEdges graph)

include tabled

/-- A node of the table is a node of the graph. -/
theorem Tabled.exists_node
    {id : PyStr}
    {fields : PyObject}
    (found : nodes.find id = some fields) : ∃ node ∈ graph.nodes, NodeView (id, fields) node :=
  List.forall₂_iff_get.mp tabled.nodesView |>.elim fun length each => by
    obtain ⟨index, below, same⟩ := List.getElem_of_mem (mem_of_find found)
    refine ⟨graph.nodes[index], List.getElem_mem _, ?_⟩
    have view := each index below (length ▸ below)
    simpa only [List.get_eq_getElem, same] using view

/-- A node of the graph was read from the table. -/
theorem Tabled.exists_entry
    {node : EvidenceNode}
    (present : node ∈ graph.nodes) :
    ∃ fields, nodes.find node.id = some fields ∧ NodeView (node.id, fields) node :=
  List.forall₂_iff_get.mp tabled.nodesView |>.elim fun length each => by
    obtain ⟨index, below, same⟩ := List.getElem_of_mem present
    have inTable : index < nodes.length := length ▸ below
    have view := each index inTable below
    simp only [List.get_eq_getElem, same] at view
    have found := find_of_mem tabled.distinct (List.getElem_mem inTable)
    rw [← view.id] at found
    refine ⟨_, found, ?_⟩
    rw [view.id]
    exact view

/-- The ids of the table are those of the nodes. -/
theorem Tabled.ids_eq : nodes.map Prod.fst = graph.nodes.map EvidenceNode.id := by
  have views := tabled.nodesView
  generalize graph.nodes = views' at views
  clear tabled
  induction views with
  | nil => rfl
  | cons view _ inductionHypothesis =>
      rw [List.map_cons, List.map_cons, inductionHypothesis, view.id]

theorem Tabled.mem_ids_iff
    {id : PyStr} : id ∈ nodes.map Prod.fst ↔ ∃ node ∈ graph.nodes, node.id = id := by
  rw [tabled.ids_eq, List.mem_map]

/-- The types of the table are those of the nodes. -/
theorem Tabled.hasType_iff
    {id : PyStr}
    {nodeType : String} : nodes.hasType id nodeType = true ↔ graph.HasNode id nodeType := by
  unfold NodeTable.hasType
  constructor
  · intro typed
    cases found : nodes.find id with
    | none => simp [found] at typed
    | some fields =>
        rw [found] at typed
        obtain ⟨node, present, view⟩ := tabled.exists_node found
        refine ⟨node, present, view.id, ?_⟩
        have same := view.nodeType.symm.trans (PyJson.isText_iff.mp typed)
        exact PyJson.str.inj same
  · rintro ⟨node, present, rfl, typed⟩
    obtain ⟨fields, found, view⟩ := tabled.exists_entry present
    rw [found]
    exact PyJson.isText_iff.mpr (view.nodeType.trans (congrArg PyJson.str typed))

/-- An edge that was placed joins nodes of the kinds that its type allows. -/
theorem Tabled.allows
    {edge : EdgeRow}
    (present : edge ∈ graph.edges) : graph.Allows edge := by
  have placed := tabled.placed edge present
  unfold placeEdge at placed
  split_ifs at placed with missing
  cases signature : edgeSignature edge.edgeType with
  | none => simp [signature] at placed
  | some kinds =>
      obtain ⟨sourceType, targetType⟩ := kinds
      rw [signature] at placed
      dsimp only at placed
      split_ifs at placed with mismatch
      simp only [Bool.or_eq_true, not_or, Bool.not_eq_true, Option.isNone_eq_false_iff] at missing
      simp only [Bool.or_eq_true, not_or, Bool.not_eq_true, Option.any_eq_false,
        Bool.not_eq_false'] at mismatch
      rw [edgeSignature, Option.map_eq_some_iff] at signature
      obtain ⟨entry, isEntry, kinds⟩ := signature
      obtain ⟨fields, found⟩ := Option.isSome_iff_exists.mp missing.1
      obtain ⟨node, isNode, view⟩ := tabled.exists_node found
      refine ⟨entry, List.mem_of_find?_eq_some isEntry, ?_, ⟨node, isNode, view.id⟩, ?_, ?_⟩
      · exact (by simpa using List.find?_some isEntry : PyStr.ofString entry.1 = _).symm
      · intro kind isKind
        rw [kinds] at isKind
        exact tabled.hasType_iff.mp (mismatch.1 kind isKind)
      · rw [kinds]
        exact tabled.hasType_iff.mp mismatch.2

/-- The target of an edge has the kind that its type demands. -/
theorem Tabled.hasNode_of_joins
    {edgeType nodeType : String}
    {sourceType : Option String}
    (signature : edgeSignature (PyStr.ofString edgeType) = some (sourceType, nodeType))
    {source target : PyStr}
    (joins : graph.Joins edgeType source target) : graph.HasNode target nodeType := by
  obtain ⟨edge, present, rfl, rfl, isType⟩ := joins
  have placed := tabled.placed edge present
  unfold placeEdge at placed
  rw [isType, signature] at placed
  dsimp only at placed
  split_ifs at placed with missing mismatch
  simp only [Bool.or_eq_true, not_or, Bool.not_eq_true, Bool.not_eq_false'] at mismatch
  exact tabled.hasType_iff.mp mismatch.2

/-- The targets that the verifier walks to. -/
theorem Tabled.mem_targets_iff
    {edgeType nodeType : String}
    {sourceType : Option String}
    (signature : edgeSignature (PyStr.ofString edgeType) = some (sourceType, nodeType))
    {source target : PyStr} :
    target ∈ targets nodes graph.edges source edgeType nodeType ↔
      graph.Joins edgeType source target := by
  simp only [targets, List.mem_filter, List.mem_map, decide_eq_true_eq]
  constructor
  · rintro ⟨⟨edge, ⟨present, isSource, isType⟩, isTarget⟩, -⟩
    exact ⟨edge, present, isSource, isTarget, isType⟩
  · intro joins
    have typed := tabled.hasType_iff.mpr (tabled.hasNode_of_joins signature joins)
    obtain ⟨edge, present, isSource, isTarget, isType⟩ := joins
    exact ⟨⟨edge, ⟨present, isSource, isType⟩, isTarget⟩, typed⟩

/-- The targets that the runtime verifier walks to. -/
theorem Tabled.mem_typedTargetIds_iff
    {edgeType nodeType : String}
    {sourceType : Option String}
    (signature : edgeSignature (PyStr.ofString edgeType) = some (sourceType, nodeType))
    {source target : PyStr} :
    target ∈ typedTargetIds rawEdges nodes source edgeType nodeType ↔
      graph.Joins edgeType source target := by
  have sameTargets : target ∈ typedTargetIds rawEdges nodes source edgeType nodeType ↔
      ∃ edge ∈ graph.edges, (edge.source = source ∧ edge.target = target ∧
        edge.edgeType = PyStr.ofString edgeType) ∧ nodes.hasType target nodeType = true := by
    rw [typedTargetIds, List.mem_toFinset, List.mem_filterMap]
    have parsed := tabled.parsed
    generalize graph.edges = edges at parsed
    clear tabled signature
    induction parsed with
    | nil => simp
    | @cons raw edge raws edges isEdge _ inductionHypothesis =>
        have ofRaw : typedTarget? nodes source edgeType nodeType raw = some target ↔
            (edge.source = source ∧ edge.target = target ∧
              edge.edgeType = PyStr.ofString edgeType) ∧
                nodes.hasType target nodeType = true := by
          unfold parseEdge at isEdge
          split at isEdge
          · rename_i fields
            split_ifs at isEdge
            split at isEdge
            · rename_i from' to' type' sourceEq targetEq typeEq
              split_ifs at isEdge
              split at isEdge
              · split_ifs at isEdge
                obtain rfl := Except.ok.inj isEdge
                simp only [typedTarget?, sourceEq, targetEq, typeEq, PyJson.isText,
                  PyJson.ofText, PyJson.pyEq_str_iff, PyJson.str.injEq, Option.ite_none_right_eq_some,
                  Bool.and_eq_true, Option.some.injEq]
                constructor
                · rintro ⟨⟨⟨rfl, rfl⟩, typed⟩, rfl⟩
                  exact ⟨⟨rfl, rfl, rfl⟩, typed⟩
                · rintro ⟨⟨rfl, rfl, rfl⟩, typed⟩
                  exact ⟨⟨⟨rfl, rfl⟩, typed⟩, rfl⟩
              · simp at isEdge
            · simp at isEdge
          · simp at isEdge
        simp only [List.mem_cons, exists_eq_or_imp, ofRaw, inductionHypothesis]
  rw [sameTargets]
  constructor
  · rintro ⟨edge, present, ⟨isSource, isTarget, isType⟩, -⟩
    exact ⟨edge, present, isSource, isTarget, isType⟩
  · intro joins
    have typed := tabled.hasType_iff.mpr (tabled.hasNode_of_joins signature joins)
    obtain ⟨edge, present, isEdge⟩ := joins
    exact ⟨edge, present, isEdge, typed⟩

/-- A singular path leads to one node. -/
theorem Tabled.exists_target_of_card
    {edgeType nodeType : String}
    {sourceType : Option String}
    (signature : edgeSignature (PyStr.ofString edgeType) = some (sourceType, nodeType))
    {source : PyStr}
    (single : (typedTargetIds rawEdges nodes source edgeType nodeType).card = 1) :
    ∃ target, ∀ other, graph.Joins edgeType source other ↔ other = target := by
  obtain ⟨target, isOnly⟩ := Finset.card_eq_one.mp single
  refine ⟨target, fun other => ?_⟩
  rw [← tabled.mem_typedTargetIds_iff signature, isOnly, Finset.mem_singleton]

/-- Edges stay among the nodes. -/
theorem Tabled.closed : DepthFirst.Closed (adjacency graph.edges) (nodes.map Prod.fst) := by
  intro source _ target edge
  simp only [adjacency, List.mem_map, List.mem_filter, decide_eq_true_eq] at edge
  obtain ⟨row, ⟨present, -⟩, rfl⟩ := edge
  obtain ⟨entry, -, -, -, -, node, isNode, sameId, -⟩ := tabled.allows present
  exact tabled.mem_ids_iff.mpr ⟨node, isNode, sameId⟩

omit tabled in
theorem edge_iff_leads
    {source target : PyStr} :
    DepthFirst.Edge (adjacency graph.edges) source target ↔ graph.Leads source target := by
  simp only [DepthFirst.Edge, adjacency, List.mem_map, List.mem_filter, decide_eq_true_eq,
    EvidenceGraph.Leads, and_assoc]

/-- A graph without a cycle on its nodes has none. -/
theorem Tabled.acyclic
    (noCycle : DepthFirst.hasCycle (adjacency graph.edges) (nodes.map Prod.fst) = false)
    (id : PyStr) : ¬Relation.TransGen graph.Leads id id := by
  intro cycle
  have isNode : id ∈ nodes.map Prod.fst := by
    obtain ⟨target, ⟨edge, present, rfl, -⟩, -⟩ := Relation.TransGen.head'_iff.mp cycle
    obtain ⟨entry, -, -, ⟨node, isNode, sameId⟩, -⟩ := tabled.allows present
    exact tabled.mem_ids_iff.mpr ⟨node, isNode, sameId⟩
  apply DepthFirst.not_transGen_of_hasCycle tabled.closed noCycle id isNode
  exact Relation.TransGen.mono (fun _ _ leads => edge_iff_leads.mpr leads) id id cycle

/-- A strict approval is an approval. -/
theorem Tabled.approved
    {artifact : PyStr}
    (strict : hasStrictApproval rawEdges nodes artifact = true) : graph.Approved artifact := by
  simp only [hasStrictApproval, decide_eq_true_eq] at strict
  obtain ⟨id, isTarget, approves⟩ := strict
  have joins := (tabled.mem_typedTargetIds_iff rfl).mp isTarget
  obtain ⟨approval, present, rfl, typed⟩ := tabled.hasNode_of_joins rfl joins
  obtain ⟨fields, found, view⟩ := tabled.exists_entry present
  simp only [isApproval, metadataOf, found, Option.map_some, view.metadata, Option.any_some,
    Bool.and_eq_true, PyJson.isText_iff] at approves
  exact ⟨approval, present, joins, typed, approves.1.1, approves.1.2, approves.2⟩

/-- A source file with nothing to note is retained. -/
theorem Tabled.retained
    {options : VerifierOptions}
    {file : EvidenceNode}
    (present : file ∈ graph.nodes)
    (clean : fileDiagnostics options nodes file.id = []) :
    EvidenceGraph.Retained options.sourceLoader file := by
  obtain ⟨fields, found, view⟩ := tabled.exists_entry present
  have refView := view.artifactRef
  cases refEq : PyJson.get fields "artifact_ref" with
  | obj ref =>
      simp only [refEq, refOf?] at refView
      split at refView
      · rename_i id version contentHash _ _ hashEq
        obtain refIs := Option.some.inj refView
        simp only [fileDiagnostics, found, Option.map_some, view.metadata, refEq, hashEq] at clean
        cases locatorEq : PyJson.get file.metadata "storage_locator" with
        | str locator =>
            rw [locatorEq] at clean
            dsimp only at clean
            split_ifs at clean with unusable
            simp only [List.append_eq_nil_iff, noteIf_eq_nil, Bool.not_eq_false',
              PyJson.pyEq_str_iff] at clean
            obtain ⟨retainedEq, ofBytes⟩ := clean
            refine ⟨by rw [retainedEq, ← refIs], locator, locatorEq, ?_⟩
            intro load isLoader
            rw [Option.mem_def] at isLoader
            simp only [bytesDiagnostics, isLoader] at ofBytes
            cases outcome : load locator with
            | bytes content =>
                rw [outcome] at ofBytes
                simp only [noteIf_eq_nil, Bool.not_eq_false', PyJson.isText_iff] at ofBytes
                refine ⟨content, rfl, ?_⟩
                rw [retainedEq] at ofBytes
                rw [← refIs]
                exact PyJson.str.inj ofBytes
            | _ => simp [outcome] at ofBytes
        | _ => simp [locatorEq] at clean
      · exact absurd refView (by simp)
  | _ => simp [refEq, refOf?] at refView

/-- The root leads to every node that the search from it collects. -/
theorem Tabled.rooted
    {root : PyStr}
    (isNode : root ∈ nodes.map Prod.fst)
    (noOrphan : ∀ id ∈ nodes.map Prod.fst,
      id ∈ DepthFirst.reachable (adjacency graph.edges) (nodes.map Prod.fst) root)
    {node : EvidenceNode}
    (present : node ∈ graph.nodes) : Relation.ReflTransGen graph.Leads root node.id := by
  have inTable := tabled.mem_ids_iff.mpr ⟨node, present, rfl⟩
  have path := (DepthFirst.mem_reachable_iff tabled.closed isNode).mp (noOrphan node.id inTable)
  exact Relation.ReflTransGen.mono (fun _ _ edge => edge_iff_leads.mp edge) root node.id path

end Tables

/-! ### References -/

/-- The mapping that a reference is written as. -/
def ArtifactRef.value (ref : ArtifactRef) : PyJson :=
  .obj [(PyStr.ofString "content_hash", .str ref.contentHash), (PyStr.ofString "id", .str ref.id),
    (PyStr.ofString "version", .int ref.version)]

/-- A valid reference is written in one way. -/
theorem eq_value_of_refOf?
    {value : PyJson}
    {ref : ArtifactRef}
    (canonical : value.Canonical)
    (valid : validRef value = true)
    (isRef : refOf? value = some ref) : value = ref.value := by
  cases value with
  | obj fields =>
      simp only [validRef, Bool.and_eq_true] at valid
      have hasThem : PyJson.hasKeys fields ["content_hash", "id", "version"] = true := by
        have keys := valid.1.1.1
        simp only [PyJson.hasKeys, refFields, List.all_cons, List.all_nil, Bool.and_true,
          List.any_cons, List.any_nil, Bool.or_false, Bool.and_eq_true, List.all_eq_true,
          Bool.or_eq_true] at keys ⊢
        refine ⟨⟨keys.1.2.2, keys.1.1, keys.1.2.1⟩, fun field present => ?_⟩
        have known := keys.2 field present
        tauto
      have keys := canonical.keys_eq hasThem (by decide)
      obtain ⟨⟨_, contentHash⟩, later, rfl, isHash, rest⟩ := List.map_eq_cons_iff.mp keys
      obtain ⟨⟨_, id⟩, last, rfl, isId, rest⟩ := List.map_eq_cons_iff.mp rest
      obtain ⟨⟨_, version⟩, none, rfl, isVersion, rest⟩ := List.map_eq_cons_iff.mp rest
      obtain rfl := List.map_eq_nil_iff.mp rest
      obtain ⟨rfl, rfl, rfl⟩ : _ ∧ _ ∧ _ := ⟨isHash, isId, isVersion⟩
      simp only [refOf?, PyJson.get, List.find?_cons, PyStr.ofString_injective.eq_iff,
        String.reduceEq, decide_true, decide_false, Option.map_some, Option.getD_some] at isRef
      split at isRef
      · obtain rfl := Option.some.inj isRef
        rfl
      · simp at isRef
  | _ => simp [validRef] at valid

theorem pyEq_value_iff
    {left right : ArtifactRef} : PyJson.pyEq left.value right.value = true ↔ left = right := by
  simp only [ArtifactRef.value, PyJson.pyEq, PyJson.pyEqFields, PyJson.pyEqScalar,
    PyJson.sameNan, PyJson.numeric?, beq_self_eq_true, Bool.true_and, Bool.false_or,
    Bool.and_true, Bool.and_eq_true, beq_iff_eq, ArtifactRef.ext_iff, Int.cast_inj]
  tauto

/-! ### Lineage -/

/-- The singular paths of the runtime verifier. -/
theorem card_of_singularRootPaths
    {rawEdges : List PyJson}
    {nodes : NodeTable}
    {root : PyStr}
    (clean : (singularRootPaths.flatMap fun path =>
      noteIf ((typedTargetIds rawEdges nodes root path.1 path.2).card ≠ 1)
        .requiredPathMissing) = [])
    (path : String × String)
    (present : path ∈ singularRootPaths) :
    (typedTargetIds rawEdges nodes root path.1 path.2).card = 1 := by
  have noted := List.flatMap_eq_nil_iff.mp clean path present
  simpa using noted

section Root

variable {nodes : NodeTable} {rawEdges : List PyJson} {graph : EvidenceGraph}
  {options : VerifierOptions} {root : PyStr}

/-- One profile was used, with what the runtime verifier demands of it. -/
theorem Tabled.calculated
    (tabled : Tabled nodes rawEdges graph)
    (clean : strictRootDiagnostics rawEdges nodes root = []) :
    (∀ resolution, graph.Joins "RESULT_USES_RESOLUTION" root resolution →
        ∃! rule, graph.Joins "RESOLUTION_SELECTS_RULE" resolution rule) ∧
      ∃ profile, (∀ other, graph.Joins "RESULT_CALCULATED_WITH" root other ↔ other = profile) ∧
        graph.UsesOneApproved "PROFILE_USES_ROUNDING" profile ∧
        graph.UsesOneApproved "PROFILE_USES_SOURCE_AUTHORITY" profile ∧
        ∀ rule, graph.Joins "PROFILE_SELECTS_RULE" profile rule ↔
          ∃ resolution, graph.Joins "RESULT_USES_RESOLUTION" root resolution ∧
            graph.Joins "RESOLUTION_SELECTS_RULE" resolution rule := by
  simp only [strictRootDiagnostics, List.append_eq_nil_iff] at clean
  obtain ⟨⟨singular, ofResolutions⟩, ofProfiles⟩ := clean
  simp only [noteIf_eq_nil, decide_eq_false_iff_not, not_exists, not_and, not_not]
    at ofResolutions
  refine ⟨?_, ?_⟩
  · intro resolution joins
    have one := ofResolutions resolution ((tabled.mem_typedTargetIds_iff rfl).mpr joins)
    obtain ⟨rule, isOnly⟩ := tabled.exists_target_of_card rfl one
    exact ⟨rule, (isOnly rule).mpr rfl, fun other joins => (isOnly other).mp joins⟩
  · obtain ⟨profile, isOnly⟩ := tabled.exists_target_of_card rfl
      (card_of_singularRootPaths singular
        ("RESULT_CALCULATED_WITH", "CALCULATION_PROFILE") (by simp [singularRootPaths]))
    have isProfile := (tabled.mem_typedTargetIds_iff rfl).mpr ((isOnly profile).mpr rfl)
    rw [typedTargetIds, List.mem_toFinset] at isProfile
    have ofProfile := List.flatMap_eq_nil_iff.mp ofProfiles profile isProfile
    simp only [strictProfileDiagnostics, List.append_eq_nil_iff, noteIf_eq_nil,
      decide_eq_false_iff_not, not_or, not_exists, not_and, not_not, Bool.not_eq_false,
      Finset.mem_union] at ofProfile
    obtain ⟨⟨⟨oneRounding, oneAuthority⟩, approvals⟩, -, -, sameRules⟩ := ofProfile
    refine ⟨profile, isOnly, ?_, ?_, ?_⟩
    · obtain ⟨rounding, isOnlyRounding⟩ := tabled.exists_target_of_card rfl oneRounding
      refine ⟨rounding, isOnlyRounding, tabled.approved (approvals rounding (.inl ?_))⟩
      exact (tabled.mem_typedTargetIds_iff rfl).mpr ((isOnlyRounding rounding).mpr rfl)
    · obtain ⟨authority, isOnlyAuthority⟩ := tabled.exists_target_of_card rfl oneAuthority
      refine ⟨authority, isOnlyAuthority, tabled.approved (approvals authority (.inr ?_))⟩
      exact (tabled.mem_typedTargetIds_iff rfl).mpr ((isOnlyAuthority authority).mpr rfl)
    · intro rule
      rw [← tabled.mem_typedTargetIds_iff rfl, sameRules, Finset.mem_biUnion]
      apply exists_congr
      intro resolution
      rw [tabled.mem_typedTargetIds_iff rfl, resolutionRuleIds,
        tabled.mem_typedTargetIds_iff rfl]

/-- A path that is not missing leads somewhere. -/
theorem Tabled.exists_target
    (tabled : Tabled nodes rawEdges graph)
    {edgeType nodeType : String}
    {sourceType : Option String}
    (signature : edgeSignature (PyStr.ofString edgeType) = some (sourceType, nodeType))
    {source : PyStr}
    (found : (targets nodes graph.edges source edgeType nodeType).isEmpty = false) :
    ∃ target, graph.Joins edgeType source target := by
  cases shape : targets nodes graph.edges source edgeType nodeType with
  | nil => simp [shape] at found
  | cons target rest =>
      refine ⟨target, (tabled.mem_targets_iff signature).mp ?_⟩
      rw [shape]
      exact List.mem_cons_self

/-- The transformations of a root are numbered from zero. -/
theorem Tabled.numbered
    (tabled : Tabled nodes rawEdges graph)
    (found : (targets nodes graph.edges root "RESULT_USES_TRANSFORMATION"
      "TRANSFORMATION").isEmpty = false)
    (sorted : (transformationSequence graph.edges root).insertionSort (· ≤ ·) =
      (List.range (transformationSequence graph.edges root).length).map Int.ofNat) :
    ∃ count, 1 ≤ count ∧
      (transformationSequence graph.edges root).Perm ((List.range count).map Int.ofNat) := by
  refine ⟨(transformationSequence graph.edges root).length, ?_, ?_⟩
  · obtain ⟨target, edge, present, isSource, -, isType⟩ := tabled.exists_target rfl found
    have numbered : edge.sequence ∈ transformationSequence graph.edges root := by
      rw [transformationSequence]
      apply List.mem_map_of_mem
      simp [present, isSource, isType]
    exact List.length_pos_of_mem numbered
  · rw [← sorted]
    exact (List.perm_insertionSort _ _).symm

end Root

/-- The graph of a document whose nodes and edges were read without a note. -/
theorem exists_graph
    {graph : PyObject}
    {mode organizationId : PyStr}
    {scenarioId : Option PyStr}
    {rootRef : ArtifactRef}
    {rawNodes rawEdges : List PyJson}
    {nodes : NodeTable}
    {edges : List EdgeRow}
    (organization : PyJson.get graph "organization_id" = .str organizationId)
    (modeView : ModeView graph mode scenarioId)
    (isRootRef : refOf? (PyJson.get graph "root_metric_snapshot_ref") = some rootRef)
    (hasNodes : PyJson.get graph "nodes" = .arr rawNodes)
    (hasEdges : PyJson.get graph "edges" = .arr rawEdges)
    (nodesRead : NodesRead graph [] rawNodes nodes)
    (edgesRead : EdgesRead nodes [] rawEdges edges) :
    ∃ view : EvidenceGraph, graphOf? (.obj graph) = some view ∧ view.edges = edges ∧
      view.rootRef = rootRef ∧ Tabled nodes rawEdges view ∧
      ∀ node ∈ view.nodes, node.organizationId = view.organizationId ∧ node.mode = view.mode ∧
        node.scenarioId = view.scenarioId := by
  have each : ∀ entry ∈ nodes, ∃ node, nodeOf? (.obj entry.2) = some node ∧
      (NodeView entry node ∧ node.organizationId = organizationId ∧ node.mode = mode ∧
        node.scenarioId = scenarioId) := by
    intro entry present
    obtain ⟨idEq, clean⟩ := nodesRead.each entry present
    exact exists_node_of_nodeDiagnostics clean idEq organization modeView
  obtain ⟨views, viewsRead, related⟩ := exists_mapM_eq_some each
  have nodesEq : rawNodes.mapM nodeOf? = some views := by
    rw [nodesRead.raws_eq, List.mapM_map]
    exact viewsRead
  have edgesEq : (rawEdges.mapM fun raw => (parseEdge raw).toOption) = some edges := by
    have parsed := edgesRead.parsed
    clear edgesRead hasEdges
    induction parsed with
    | nil => rfl
    | cons isEdge _ inductionHypothesis =>
        rw [List.mapM_cons, inductionHypothesis, isEdge]
        rfl
  refine ⟨⟨organizationId, mode, scenarioId, rootRef, views, edges⟩, ?_, rfl, rfl,
    ⟨related.imp fun _ _ view => view.1, ?_, edgesRead.parsed, edgesRead.placed⟩, ?_⟩
  · simp only [graphOf?, mappingOf?, organization, modeView.isMode, modeView.isScenario,
      isRootRef, hasNodes, hasEdges, itemsOf, nodesEq, edgesEq, textOf?, Option.bind_eq_bind,
      Option.bind_some]
    rfl
  · simpa using nodesRead.distinct (by simp)
  · intro node present
    obtain ⟨index, below, rfl⟩ := List.getElem_of_mem present
    have view := (List.forall₂_iff_get.mp related).2 index
      ((List.forall₂_iff_get.mp related).1 ▸ below) below
    exact view.2

/-- A tabled graph traces its root when nothing is noted about it. -/
theorem lineage_of_tabled
    {nodes : NodeTable}
    {rawEdges : List PyJson}
    {graph : EvidenceGraph}
    {options : VerifierOptions}
    {root : EvidenceNode}
    (tabled : Tabled nodes rawEdges graph)
    (distinctEdges : (graph.edges.map EdgeRow.key).Nodup)
    (present : root ∈ graph.nodes)
    (named : ∀ node ∈ graph.nodes,
      node.nodeType = PyStr.ofString "METRIC_SNAPSHOT" ∧ node.artifactRef = graph.rootRef ↔
        node = root)
    (sameScope : ∀ node ∈ graph.nodes, node.organizationId = graph.organizationId ∧
      node.mode = graph.mode ∧ node.scenarioId = graph.scenarioId)
    (noCycle : DepthFirst.hasCycle (adjacency graph.edges) (nodes.map Prod.fst) = false)
    (ofRoot : rootDiagnostics options nodes graph.edges root.id = [])
    (noStrict : strictRootDiagnostics rawEdges nodes root.id = []) :
    graph.Lineage options.sourceLoader root := by
  simp only [rootDiagnostics, List.append_eq_nil_iff] at ofRoot
  obtain ⟨⟨⟨⟨⟨orphans, paths⟩, sequence⟩, -⟩, -⟩, events⟩ := ofRoot
  rw [noteIf_eq_nil, List.any_eq_false] at orphans paths
  rw [noteIf_eq_nil, decide_eq_false_iff_not, not_not] at sequence
  have notEmpty : ∀ path ∈ requiredPaths,
      (targets nodes graph.edges root.id path.1 path.2).isEmpty = false := by
    intro path isRequired
    simpa using paths path isRequired
  have ofEvent : ∀ event, graph.Joins "RESULT_DERIVED_FROM_EVENT" root.id event →
      eventDiagnostics options nodes graph.edges event = [] := by
    intro event joins
    exact List.flatMap_eq_nil_iff.mp events event ((tabled.mem_targets_iff rfl).mpr joins)
  have ofRecord : ∀ event record, graph.Joins "RESULT_DERIVED_FROM_EVENT" root.id event →
      graph.Joins "EVENT_NORMALIZED_FROM_RECORD" event record →
        recordDiagnostics options nodes graph.edges record = [] := by
    intro event record derived recorded
    have clean := ofEvent event derived
    simp only [eventDiagnostics, List.append_eq_nil_iff] at clean
    exact List.flatMap_eq_nil_iff.mp clean.2 record ((tabled.mem_targets_iff rfl).mpr recorded)
  obtain ⟨resolved, calculated⟩ := tabled.calculated noStrict
  refine
    { rootNode := present
      rootNamed := named
      distinctIds := tabled.ids_eq ▸ tabled.distinct
      allowed := fun edge isEdge => tabled.allows isEdge
      distinctEdges := distinctEdges
      acyclic := tabled.acyclic noCycle
      rooted := ?_
      sameScope := sameScope
      numbered := ?_
      derived := ?_
      recorded := ?_
      filed := ?_
      retained := ?_
      resolved := resolved
      calculated := calculated }
  · intro node isNode
    refine tabled.rooted (tabled.mem_ids_iff.mpr ⟨root, present, rfl⟩) ?_ isNode
    exact fun id isId => by simpa using orphans id isId
  · exact tabled.numbered (notEmpty ("RESULT_USES_TRANSFORMATION", "TRANSFORMATION")
      (by simp [requiredPaths])) sequence
  · exact tabled.exists_target rfl (notEmpty ("RESULT_DERIVED_FROM_EVENT", "CANONICAL_EVENT")
      (by simp [requiredPaths]))
  · intro event derived
    have clean := ofEvent event derived
    simp only [eventDiagnostics, List.append_eq_nil_iff, noteIf_eq_nil] at clean
    exact tabled.exists_target rfl clean.1
  · intro event record derived recorded
    have clean := ofRecord event record derived recorded
    simp only [recordDiagnostics, List.append_eq_nil_iff, noteIf_eq_nil] at clean
    exact tabled.exists_target rfl clean.1
  · rintro event record file isNode ⟨derived, recorded, filed⟩
    have clean := ofRecord event record derived recorded
    simp only [recordDiagnostics, List.append_eq_nil_iff] at clean
    exact tabled.retained isNode
      (List.flatMap_eq_nil_iff.mp clean.2 file.id ((tabled.mem_targets_iff rfl).mpr filed))

/-- The node at the root is the one that the root reference names. -/
theorem Tabled.exists_root
    {graph : PyObject}
    {view : EvidenceGraph}
    {nodes : NodeTable}
    {rawEdges : List PyJson}
    {root : PyStr}
    (tabled : Tabled nodes rawEdges view)
    (canonical : ∀ entry ∈ nodes, (PyJson.obj entry.2).Canonical)
    (rootCanonical : (PyJson.get graph "root_metric_snapshot_ref").Canonical)
    (validRoot : validRef (PyJson.get graph "root_metric_snapshot_ref") = true)
    (isRootRef : refOf? (PyJson.get graph "root_metric_snapshot_ref") = some view.rootRef)
    (roots : rootIds nodes (PyJson.get graph "root_metric_snapshot_ref") = [root]) :
    ∃ node ∈ view.nodes, node.id = root ∧ ∀ other ∈ view.nodes,
      other.nodeType = PyStr.ofString "METRIC_SNAPSHOT" ∧ other.artifactRef = view.rootRef ↔
        other = node := by
  have rootEq := eq_value_of_refOf? rootCanonical validRoot isRootRef
  have isRoot : ∀ other ∈ view.nodes,
      other.nodeType = PyStr.ofString "METRIC_SNAPSHOT" ∧ other.artifactRef = view.rootRef ↔
        other.id = root := by
    intro other present
    obtain ⟨fields, found, entryView⟩ := tabled.exists_entry present
    have inTable := mem_of_find found
    have refEq := eq_value_of_refOf? ((canonical _ inTable).get "artifact_ref")
      entryView.validRef entryView.artifactRef
    have listed : other.id ∈ rootIds nodes (PyJson.get graph "root_metric_snapshot_ref") ↔
        other.nodeType = PyStr.ofString "METRIC_SNAPSHOT" ∧ other.artifactRef = view.rootRef := by
      rw [rootIds, List.mem_map]
      simp only [List.mem_filter, Bool.and_eq_true]
      constructor
      · rintro ⟨entry, ⟨isEntry, isSnapshot, isNamed⟩, sameId⟩
        have sameFields : some entry.2 = some fields := by
          rw [← found, ← sameId]
          exact (find_of_mem tabled.distinct isEntry).symm
        obtain rfl := Option.some.inj sameFields
        refine ⟨?_, ?_⟩
        · exact PyJson.str.inj (entryView.nodeType.symm.trans (PyJson.isText_iff.mp isSnapshot))
        · rw [refEq, rootEq] at isNamed
          exact pyEq_value_iff.mp isNamed
      · rintro ⟨isSnapshot, isNamed⟩
        refine ⟨(other.id, fields), ⟨inTable, ?_, ?_⟩, rfl⟩
        · exact PyJson.isText_iff.mpr
            (entryView.nodeType.trans (congrArg PyJson.str isSnapshot))
        · rw [refEq, rootEq]
          exact pyEq_value_iff.mpr isNamed
    rw [← listed, roots, List.mem_singleton]
  have inTable : root ∈ nodes.map Prod.fst := by
    have listed : root ∈ rootIds nodes (PyJson.get graph "root_metric_snapshot_ref") := by
      rw [roots]
      exact List.mem_singleton_self root
    exact (List.filter_sublist.map _).subset listed
  obtain ⟨node, present, rfl⟩ := tabled.mem_ids_iff.mp inTable
  refine ⟨node, present, rfl, fun other isNode => ?_⟩
  rw [isRoot other isNode]
  constructor
  · intro sameId
    have distinct := tabled.ids_eq ▸ tabled.distinct
    exact List.inj_on_of_nodup_map distinct isNode present sameId
  · rintro rfl
    rfl

/-- The verifier accepts no document but one whose graph traces its root: the
metric snapshot that the document names. -/
theorem verifyEvidenceChain_sound (interpreter : Interpreter) (options : VerifierOptions)
    (document : PyDocument) : VerifierSound interpreter options document.value := by
  intro accepted
  obtain ⟨value, canonical⟩ := document
  simp only [verifyEvidenceChain, Checks.bind_eq_ok] at accepted
  obtain ⟨errors, base, strict⟩ := accepted
  cases value with
  | obj graph =>
      -- Nothing is noted by either verifier, so nothing is by any of their checks.
      obtain ⟨noErrors, noStrict⟩ := List.append_eq_nil_iff.mp
        (eraseDups_eq_nil_iff.mp (Except.ok.inj strict))
      subst noErrors
      simp only [baseDiagnostics, Checks.bind_eq_ok] at base
      obtain ⟨ofHash, -, base⟩ := base
      have clean := eraseDups_eq_nil_iff.mp (Except.ok.inj base)
      simp only [List.append_eq_nil_iff] at clean
      obtain ⟨⟨⟨head, -⟩, ofRootRef⟩, ofGraph⟩ := clean
      simp only [headDiagnostics, List.append_eq_nil_iff, noteIf_eq_nil,
        Bool.not_eq_false'] at head
      obtain ⟨⟨⟨⟨⟨⟨-, -⟩, -⟩, organization⟩, ofMode⟩, -⟩, -⟩ := head
      obtain ⟨organizationId, organizationEq, -⟩ :=
        PyJson.exists_str_of_isNonemptyString organization
      obtain ⟨mode, scenarioId, modeView⟩ := exists_modeView ofMode
      obtain ⟨validRoot, rootRef, isRootRef⟩ := exists_ref_of_refDiagnostics ofRootRef
      cases hasNodes : PyJson.get graph "nodes" with
      | arr rawNodes =>
          cases hasEdges : PyJson.get graph "edges" with
          | arr rawEdges =>
              simp only [graphDiagnostics, hasNodes, hasEdges, itemsOf, isList] at ofGraph
              cases readN : readNodes graph [] rawNodes with
              | mk nodes ofNodes =>
                  cases readE : readEdges nodes [] rawEdges with
                  | mk edges ofEdges =>
                      simp only [readN, readE, List.append_eq_nil_iff, noteIf_eq_nil,
                        decide_eq_false_iff_not, not_not] at ofGraph
                      obtain ⟨⟨⟨⟨⟨⟨-, rfl⟩, oneRoot⟩, -⟩, rfl⟩, noCycle⟩, ofRoot⟩ := ofGraph
                      obtain ⟨fresh, rfl, nodesRead⟩ := nodesRead_of_readNodes readN
                      obtain ⟨view, viewed, rfl, rfl, tabled, sameScope⟩ :=
                        exists_graph organizationEq modeView isRootRef hasNodes hasEdges
                          nodesRead (edgesRead_of_readEdges readE)
                      obtain ⟨root, roots⟩ := List.length_eq_one_iff.mp oneRoot
                      simp only [roots] at ofRoot
                      have nodesCanonical : ∀ entry ∈ nodes, (PyJson.obj entry.2).Canonical := by
                        have items := canonical.get "nodes"
                        rw [hasNodes, nodesRead.raws_eq] at items
                        intro entry present
                        exact items.of_mem _ (List.mem_map_of_mem present)
                      obtain ⟨node, present, rfl, named⟩ := tabled.exists_root nodesCanonical
                        (canonical.get _) validRoot isRootRef roots
                      have noStrictRoot :
                          strictRootDiagnostics rawEdges nodes node.id = [] := by
                        simp only [strictDiagnostics, hasNodes, hasEdges, nodesRead.first,
                          List.nil_append, roots, List.append_eq_nil_iff] at noStrict
                        exact noStrict.2
                      refine ⟨view, node, viewed, ?_⟩
                      exact lineage_of_tabled tabled (edgesRead_of_readEdges readE).distinct
                        present named sameScope noCycle ofRoot noStrictRoot
          | _ => simp [graphDiagnostics, hasEdges, isList] at ofGraph
      | _ => simp [graphDiagnostics, hasNodes, itemsOf] at ofGraph
  | _ =>
      simp only [baseDiagnostics, Except.ok.injEq] at base
      subst base
      simp [pure, Except.pure] at strict

end Evidence
end QuantumAnalytics
