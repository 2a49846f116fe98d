import QuantumAnalytics.Evidence.Lineage

/-!
# Reading nodes and edges

What the loops over raw nodes and raw edges have read when they note nothing:
every raw node is a node of the graph and every raw edge joins two of them, so
the tables of the verifier are the graph that the document spells out.
-/

namespace QuantumAnalytics
namespace Evidence

/-! ### Lists of diagnostics -/

theorem eraseDups_eq_nil_iff {α : Type} [BEq α] {items : List α} :
    items.eraseDups = [] ↔ items = [] := by
  cases items with
  | nil => simp
  | cons item items => simp [List.eraseDups_cons]

/-- A list is read when each of its items is. -/
theorem exists_mapM_eq_some
    {α β : Type}
    {read : α → Option β}
    {holds : α → β → Prop}
    {items : List α}
    (each : ∀ item ∈ items, ∃ result, read item = some result ∧ holds item result) :
    ∃ results, items.mapM read = some results ∧ List.Forall₂ holds items results := by
  induction items with
  | nil => exact ⟨[], rfl, .nil⟩
  | cons item items inductionHypothesis =>
      obtain ⟨result, isRead, related⟩ := each item List.mem_cons_self
      obtain ⟨results, areRead, allRelated⟩ :=
        inductionHypothesis fun other present => each other (List.mem_cons_of_mem _ present)
      refine ⟨result :: results, ?_, .cons related allRelated⟩
      rw [List.mapM_cons, isRead, areRead]
      rfl

/-! ### References -/

/-- A reference with nothing to note is a versioned reference. -/
theorem exists_ref_of_refDiagnostics
    {value : PyJson}
    (clean : refDiagnostics value = []) :
    validRef value = true ∧ ∃ ref, refOf? value = some ref := by
  have valid : validRef value = true := by
    unfold refDiagnostics at clean
    split_ifs at clean with valid
    · exact valid
    · cases value with
      | obj fields =>
          dsimp only at clean
          split_ifs at clean
      | _ => simp at clean
  refine ⟨valid, ?_⟩
  cases value with
  | obj fields =>
      simp only [validRef, Bool.and_eq_true] at valid
      obtain ⟨⟨⟨_, id⟩, version⟩, contentHash⟩ := valid
      obtain ⟨idText, idEq, _⟩ := PyJson.exists_str_of_isNonemptyString id
      obtain ⟨number, versionEq, _⟩ := PyJson.exists_int_of_isIntWith version
      obtain ⟨digest, hashEq, _⟩ := PyJson.exists_text_of_isTextWith contentHash
      refine ⟨⟨idText, number, PyStr.ofString digest⟩, ?_⟩
      simp only [refOf?, idEq, versionEq, hashEq, PyJson.ofText]
  | _ => simp [validRef] at valid

/-! ### Nodes -/

/-- A node of the graph and the entry of the table that it was read from. -/
structure NodeView (entry : PyStr × PyObject) (node : EvidenceNode) : Prop where
  id : node.id = entry.1
  nodeType : PyJson.get entry.2 "node_type" = .str node.nodeType
  artifactRef : refOf? (PyJson.get entry.2 "artifact_ref") = some node.artifactRef
  validRef : validRef (PyJson.get entry.2 "artifact_ref") = true
  metadata : PyJson.get entry.2 "metadata" = .obj node.metadata

/-- The mode and the scenario of a graph. -/
structure ModeView (graph : PyObject) (mode : PyStr) (scenarioId : Option PyStr) : Prop where
  isMode : PyJson.get graph "mode" = .str mode
  isScenario : optionalTextOf? (PyJson.get graph "scenario_id") = some scenarioId
  consistent : PyJson.get graph "mode" = PyJson.ofText "ACTUAL" ∧ scenarioId = none ∨
    PyJson.get graph "mode" = PyJson.ofText "SCENARIO" ∧
      ∃ text, PyJson.get graph "scenario_id" = .str text ∧ scenarioId = some text

theorem exists_modeView
    {graph : PyObject}
    (clean : modeDiagnostics graph = []) : ∃ mode scenarioId, ModeView graph mode scenarioId := by
  unfold modeDiagnostics at clean
  dsimp only at clean
  split_ifs at clean with unknown actual scenario
  simp only [Bool.not_eq_true, Bool.not_eq_false'] at unknown
  obtain ⟨text, present, modeEq⟩ := PyJson.exists_text_of_isAllowedString unknown
  rw [List.mem_cons, List.mem_singleton] at present
  rcases present with rfl | rfl
  · have noScenario : (PyJson.get graph "scenario_id").isNone = true := by
      rw [modeEq] at actual
      simpa [PyJson.isText_iff] using actual
    refine ⟨_, none, modeEq, ?_, .inl ⟨modeEq, rfl⟩⟩
    cases value : PyJson.get graph "scenario_id" with
    | null => rfl
    | _ => simp [value, PyJson.isNone] at noScenario
  · have someScenario : (PyJson.get graph "scenario_id").isNonemptyString = true := by
      rw [modeEq] at scenario
      simpa [PyJson.isText_iff] using scenario
    obtain ⟨scenarioText, scenarioEq, _⟩ := PyJson.exists_str_of_isNonemptyString someScenario
    refine ⟨_, some scenarioText, modeEq, ?_, .inr ⟨modeEq, scenarioText, scenarioEq, rfl⟩⟩
    rw [scenarioEq]
    rfl

/-- A node with nothing to note is a node of the graph in its scope. -/
theorem exists_node_of_nodeDiagnostics
    {graph node : PyObject}
    {id organizationId mode : PyStr}
    {scenarioId : Option PyStr}
    (clean : nodeDiagnostics graph node = [])
    (idEq : PyJson.get node "node_id" = .str id)
    (organization : PyJson.get graph "organization_id" = .str organizationId)
    (modeView : ModeView graph mode scenarioId) :
    ∃ view, nodeOf? (.obj node) = some view ∧ NodeView (id, node) view ∧
      view.organizationId = organizationId ∧ view.mode = mode ∧ view.scenarioId = scenarioId := by
  simp only [nodeDiagnostics, List.append_eq_nil_iff, noteIf_eq_nil, Bool.not_eq_false',
    Bool.or_eq_false_iff, Bool.and_eq_false_imp] at clean
  obtain ⟨⟨⟨⟨kind, ref⟩, sameOrganization⟩, ⟨sameMode, actual⟩, scenario⟩, hasMetadata⟩ := clean
  obtain ⟨kindText, _, kindEq⟩ := PyJson.exists_text_of_isAllowedString kind
  obtain ⟨valid, artifactRef, refEq⟩ := exists_ref_of_refDiagnostics ref
  rw [organization, PyJson.pyEq_str_iff] at sameOrganization
  rw [modeView.isMode, PyJson.pyEq_str_iff] at sameMode
  have sameScenario : optionalTextOf? (PyJson.get node "scenario_id") = some scenarioId := by
    rcases modeView.consistent with ⟨modeEq, rfl⟩ | ⟨modeEq, text, scenarioEq, rfl⟩
    · have absent := actual (PyJson.isText_iff.mpr modeEq)
      cases value : PyJson.get node "scenario_id" with
      | null => rfl
      | _ => simp [value, PyJson.isNone] at absent
    · have same := scenario (PyJson.isText_iff.mpr modeEq)
      rw [scenarioEq, PyJson.pyEq_str_iff] at same
      rw [same]
      rfl
  cases metadataEq : PyJson.get node "metadata" with
  | obj metadata =>
      refine ⟨⟨id, PyStr.ofString kindText, artifactRef, organizationId, mode, scenarioId,
        metadata⟩, ?_, ⟨rfl, kindEq, refEq, valid, metadataEq⟩, rfl, rfl, rfl⟩
      simp only [nodeOf?, mappingOf?, idEq, kindEq, refEq, sameOrganization, sameMode,
        sameScenario, metadataEq, textOf?, PyJson.ofText, Option.bind_eq_bind, Option.bind_some]
      rfl
  | _ => simp [metadataEq] at hasMetadata

/-- What the loop over the raw nodes has read. -/
structure NodesRead (graph : PyObject) (table : NodeTable) (raws : List PyJson)
    (fresh : NodeTable) : Prop where
  raws_eq : raws = fresh.map fun entry => PyJson.obj entry.2
  each : ∀ entry ∈ fresh, PyJson.get entry.2 "node_id" = .str entry.1 ∧
    nodeDiagnostics graph entry.2 = []
  distinct : (table.map Prod.fst).Nodup → ((table ++ fresh).map Prod.fst).Nodup
  first : firstNodes table raws = table ++ fresh

theorem find_eq_none_iff
    {nodes : NodeTable}
    {id : PyStr} : nodes.find id = none ↔ id ∉ nodes.map Prod.fst := by
  simp only [NodeTable.find, Option.map_eq_none_iff, List.find?_eq_none, decide_eq_true_eq,
    List.mem_map, not_exists, not_and]

/-- When nothing is noted, the loop has read every raw node. -/
theorem nodesRead_of_readNodes
    {graph : PyObject}
    {raws : List PyJson} :
    ∀ {table nodes : NodeTable}, readNodes graph table raws = (nodes, []) →
      ∃ fresh, nodes = table ++ fresh ∧ NodesRead graph table raws fresh := by
  induction raws with
  | nil =>
      intro table nodes read
      obtain ⟨rfl, -⟩ := Prod.mk.inj read
      refine ⟨[], by simp, rfl, by simp, by simp, by simp [firstNodes]⟩
  | cons raw rest inductionHypothesis =>
      intro table nodes read
      cases raw with
      | obj node =>
          unfold readNodes at read
          dsimp only at read
          split_ifs at read with keys
          · cases idEq : PyJson.get node "node_id" with
            | str id =>
                rw [idEq] at read
                dsimp only at read
                split_ifs at read with empty known
                · exact absurd (Prod.mk.inj read).2 (by simp)
                · exact absurd (Prod.mk.inj read).2 (by simp)
                cases later : readNodes graph (table ++ [(id, node)]) rest with
                | mk after noted =>
                    rw [later] at read
                    obtain ⟨rfl, clean⟩ := Prod.mk.inj read
                    obtain ⟨ofNode, rfl⟩ := List.append_eq_nil_iff.mp clean
                    obtain ⟨fresh, rfl, isRead⟩ := inductionHypothesis later
                    have unknown : id ∉ table.map Prod.fst := by
                      rw [← find_eq_none_iff, ← Option.not_isSome_iff_eq_none]
                      exact known
                    refine ⟨(id, node) :: fresh, by simp, ?_, ?_, ?_, ?_⟩
                    · rw [isRead.raws_eq]
                      rfl
                    · rintro entry (_ | ⟨_, present⟩)
                      · exact ⟨idEq, ofNode⟩
                      · exact isRead.each entry present
                    · intro distinct
                      have distinctMore : ((table ++ [(id, node)]).map Prod.fst).Nodup := by
                        rw [List.map_append, List.nodup_append]
                        refine ⟨distinct, by simp, ?_⟩
                        rintro other present last isLast rfl
                        rw [List.map_singleton, List.mem_singleton] at isLast
                        rw [isLast] at present
                        exact unknown present
                      simpa using isRead.distinct distinctMore
                    · have fresh' : ¬(id.isEmpty || (table.find id).isSome) = true := by
                        simp [empty, known]
                      simp only [firstNodes, idEq, if_neg fresh', isRead.first, List.append_assoc,
                        List.cons_append, List.nil_append]
            | _ =>
                rw [idEq] at read
                exact absurd (Prod.mk.inj read).2 (by simp)
          · exact absurd (Prod.mk.inj read).2 (by simp)
      | _ =>
          unfold readNodes at read
          exact absurd (Prod.mk.inj read).2 (by simp)

/-! ### Edges -/

/-- What the loop over the raw edges has read. -/
structure EdgesRead (nodes : NodeTable) (seen : List (PyStr × PyStr × PyStr))
    (raws : List PyJson) (edges : List EdgeRow) : Prop where
  parsed : List.Forall₂ (fun raw edge => parseEdge raw = .ok edge) raws edges
  placed : ∀ edge ∈ edges, placeEdge nodes edge = .ok edge
  distinct : (edges.map EdgeRow.key).Nodup
  fresh : ∀ edge ∈ edges, edge.key ∉ seen

theorem eq_of_placeEdge
    {nodes : NodeTable}
    {edge placed : EdgeRow}
    (isPlaced : placeEdge nodes edge = .ok placed) : placed = edge := by
  unfold placeEdge at isPlaced
  split_ifs at isPlaced
  split at isPlaced
  · simp at isPlaced
  · split_ifs at isPlaced
    exact (Except.ok.inj isPlaced).symm

/-- When nothing is noted, the loop has read every raw edge. -/
theorem edgesRead_of_readEdges
    {nodes : NodeTable}
    {raws : List PyJson} :
    ∀ {seen : List (PyStr × PyStr × PyStr)} {edges : List EdgeRow},
      readEdges nodes seen raws = (edges, []) → EdgesRead nodes seen raws edges := by
  induction raws with
  | nil =>
      intro seen edges read
      obtain ⟨rfl, -⟩ := Prod.mk.inj read
      exact ⟨.nil, by simp, by simp, by simp⟩
  | cons raw rest inductionHypothesis =>
      intro seen edges read
      unfold readEdges at read
      cases parsed : parseEdge raw with
      | error diagnostic =>
          rw [parsed] at read
          exact absurd (Prod.mk.inj read).2 (by simp)
      | ok edge =>
          rw [parsed] at read
          dsimp only at read
          cases later : readEdges nodes (edge.key :: seen) rest with
          | mk others noted =>
              rw [later] at read
              dsimp only at read
              cases place : placeEdge nodes edge with
              | error diagnostic =>
                  rw [place] at read
                  exact absurd (Prod.mk.inj read).2 (by simp)
              | ok placed =>
                  obtain rfl := eq_of_placeEdge place
                  rw [place] at read
                  obtain ⟨rfl, clean⟩ := Prod.mk.inj read
                  simp only [List.append_eq_nil_iff, noteIf_eq_nil, decide_eq_false_iff_not] at clean
                  obtain ⟨unseen, rfl⟩ := clean
                  have isRead := inductionHypothesis later
                  refine ⟨.cons parsed isRead.parsed, ?_, ?_, ?_⟩
                  · rintro other (_ | ⟨_, present⟩)
                    · exact place
                    · exact isRead.placed other present
                  · rw [List.map_cons, List.nodup_cons]
                    refine ⟨?_, isRead.distinct⟩
                    intro repeated
                    obtain ⟨other, present, same⟩ := List.mem_map.mp repeated
                    exact isRead.fresh other present (same ▸ List.mem_cons_self)
                  · rintro other (_ | ⟨_, present⟩)
                    · exact unseen
                    · exact fun known =>
                        isRead.fresh other present (List.mem_cons_of_mem _ known)

end Evidence
end QuantumAnalytics
