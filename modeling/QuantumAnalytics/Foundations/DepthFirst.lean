import Mathlib.Algebra.Order.Group.Nat
import Mathlib.Algebra.Ring.Nat
import Mathlib.Data.List.Nodup
import Mathlib.Logic.Relation
import Mathlib.Algebra.Order.BigOperators.Group.List

/-!
# Depth-first search with an explicit stack

Two searches of a finite directed graph that keep their own stack. `hasCycle`
walks along the edges and looks for one that leads back to the stack: when it
finds none, no node reaches itself. `reachable` collects the nodes that a root
reaches.

The loops carry fuel. The work that is left, in edges and nodes, shrinks with
every step, so the fuel that the searches are given is enough for any graph
whose edges stay among its nodes.
-/

namespace QuantumAnalytics
namespace DepthFirst

variable {α : Type} [DecidableEq α]

/-- One node leads to another along an edge. -/
def Edge (adjacency : α → List α) (source target : α) : Prop := target ∈ adjacency source

/-- The edges of the nodes stay among the nodes. -/
def Closed (adjacency : α → List α) (nodes : List α) : Prop :=
  ∀ source ∈ nodes, ∀ target ∈ adjacency source, target ∈ nodes

/-! ### Work that is left -/

/-- The total weight of the nodes that were not seen. -/
def unseenWeight (weight : α → Nat) (nodes seen : List α) : Nat :=
  ((nodes.filter fun node => node ∉ seen).map weight).sum

theorem unseenWeight_congr
    {weight : α → Nat}
    {nodes seen seen' : List α}
    (same : ∀ node, node ∈ seen ↔ node ∈ seen') :
    unseenWeight weight nodes seen = unseenWeight weight nodes seen' := by
  simp only [unseenWeight, same]

/-- Seeing a node takes its weight away. -/
theorem unseenWeight_cons_le
    (weight : α → Nat)
    {nodes seen : List α}
    {node : α}
    (present : node ∈ nodes)
    (unseen : node ∉ seen) :
    unseenWeight weight nodes (node :: seen) + weight node ≤ unseenWeight weight nodes seen := by
  have mono : ∀ others : List α,
      unseenWeight weight others (node :: seen) ≤ unseenWeight weight others seen := by
    intro others
    induction others with
    | nil => simp [unseenWeight]
    | cons other others inductionHypothesis =>
        unfold unseenWeight at inductionHypothesis ⊢
        by_cases isNode : other = node
        · subst isNode
          simp only [List.filter_cons, unseen, List.mem_cons_self, not_true_eq_false, decide_false,
            Bool.false_eq_true, if_false, not_false_eq_true, decide_true, if_true, List.map_cons,
            List.sum_cons]
          omega
        · by_cases otherSeen : other ∈ seen
          · simpa [List.filter_cons, otherSeen] using inductionHypothesis
          · simpa [List.filter_cons, otherSeen, isNode] using inductionHypothesis
  induction nodes with
  | nil => exact absurd present List.not_mem_nil
  | cons other nodes inductionHypothesis =>
      have rest := mono nodes
      unfold unseenWeight at inductionHypothesis rest ⊢
      by_cases isNode : other = node
      · subst isNode
        simp only [List.filter_cons, unseen, List.mem_cons_self, not_true_eq_false, decide_false,
          Bool.false_eq_true, if_false, not_false_eq_true, decide_true, if_true, List.map_cons,
          List.sum_cons]
        omega
      · have later := inductionHypothesis
          ((List.mem_cons.mp present).resolve_left fun same => isNode same.symm)
        by_cases otherSeen : other ∈ seen
        · simpa [List.filter_cons, otherSeen] using later
        · simp only [List.filter_cons, List.mem_cons, isNode, otherSeen, or_self,
            not_false_eq_true, decide_true, if_true, List.map_cons, List.sum_cons] at later ⊢
          omega

/-! ### Cycles -/

/-- A search in progress. A node is in state `1` while it is on the stack and in
state `2` once it is finished. -/
structure Search (α : Type) where
  /-- The finished nodes, the last one first. -/
  finished : List α
  /-- The nodes of the current path with the number of edges tried, top first. -/
  stack : List (α × Nat)

namespace Search

/-- The nodes in state `1`. -/
def path (search : Search α) : List α := search.stack.map Prod.fst

/-- One turn of the loop; `none` is a cycle. -/
def step (adjacency : α → List α) (search : Search α) : Option (Search α) :=
  match search.stack with
  | [] => some search
  | (node, index) :: stack =>
      match (adjacency node)[index]? with
      | none => some ⟨node :: search.finished, stack⟩
      | some target =>
          if target ∈ search.path then none
          else if target ∈ search.finished then
            some ⟨search.finished, (node, index + 1) :: stack⟩
          else some ⟨search.finished, (target, 0) :: (node, index + 1) :: stack⟩

/-- The loop until the stack is empty; `none` is a cycle. -/
def run (adjacency : α → List α) : Nat → Search α → Option (Search α)
  | 0, search => some search
  | fuel + 1, search =>
      if search.stack.isEmpty then some search
      else (step adjacency search).bind (run adjacency fuel)

end Search

/-- Enough turns for any search of the graph. -/
def fuelFor (adjacency : α → List α) (nodes : List α) : Nat :=
  (nodes.map fun node => (adjacency node).length + 1).sum

/-- The search from every node that no earlier one has finished. -/
def searchAll (adjacency : α → List α) (fuel : Nat) : List α → List α → Option (List α)
  | finished, [] => some finished
  | finished, start :: starts =>
      if start ∈ finished then searchAll adjacency fuel finished starts
      else
        (Search.run adjacency fuel ⟨finished, [(start, 0)]⟩).bind fun search =>
          searchAll adjacency fuel search.finished starts

/-- `_has_cycle`. -/
def hasCycle (adjacency : α → List α) (nodes : List α) : Bool :=
  (searchAll adjacency (fuelFor adjacency nodes) [] nodes).isNone

/-- Nodes in an order in which every edge leads to an earlier finished node. -/
inductive Settled (adjacency : α → List α) : List α → Prop
  | nil : Settled adjacency []
  | cons {node : α} {finished : List α} :
      Settled adjacency finished →
      node ∉ finished →
      (∀ target ∈ adjacency node, target ∈ finished) →
      Settled adjacency (node :: finished)

omit [DecidableEq α] in
/-- Edges do not leave the settled nodes. -/
theorem Settled.closed
    {adjacency : α → List α}
    {finished : List α}
    (settled : Settled adjacency finished) : Closed adjacency finished := by
  induction settled with
  | nil => exact fun source present => absurd present List.not_mem_nil
  | cons _ _ targets inductionHypothesis =>
      intro source present target edge
      apply List.mem_cons_of_mem
      rcases List.mem_cons.mp present with rfl | later
      · exact targets target edge
      · exact inductionHypothesis source later target edge

omit [DecidableEq α] in
theorem mem_of_transGen
    {adjacency : α → List α}
    {nodes : List α}
    (closed : Closed adjacency nodes)
    {source target : α}
    (present : source ∈ nodes)
    (path : Relation.TransGen (Edge adjacency) source target) : target ∈ nodes := by
  induction path with
  | single edge => exact closed _ present _ edge
  | tail _ edge inductionHypothesis => exact closed _ inductionHypothesis _ edge

omit [DecidableEq α] in
/-- A settled node does not reach itself. -/
theorem Settled.not_transGen
    {adjacency : α → List α}
    {finished : List α}
    (settled : Settled adjacency finished)
    {node : α}
    (present : node ∈ finished) : ¬Relation.TransGen (Edge adjacency) node node := by
  induction settled with
  | nil => exact absurd present List.not_mem_nil
  | @cons first finished settled fresh targets inductionHypothesis =>
      rcases List.mem_cons.mp present with rfl | later
      · intro cycle
        obtain ⟨target, edge, path⟩ := Relation.TransGen.head'_iff.mp cycle
        rcases Relation.reflTransGen_iff_eq_or_transGen.mp path with same | path
        · exact fresh (same ▸ targets target edge)
        · exact fresh (mem_of_transGen settled.closed (targets target edge) path)
      · exact inductionHypothesis later

/-- The edges that were tried lead to finished nodes, or one node up the path. -/
def Tried (adjacency : α → List α) (finished : List α) : Option α → List (α × Nat) → Prop
  | _, [] => True
  | above, (node, index) :: stack =>
      (∀ target ∈ (adjacency node).take index, target ∈ finished ∨ above = some target) ∧
        Tried adjacency finished (some node) stack

omit [DecidableEq α] in
theorem Tried.mono
    {adjacency : α → List α}
    {finished finished' : List α}
    (grows : ∀ node ∈ finished, node ∈ finished') :
    ∀ {above : Option α} {stack : List (α × Nat)},
      Tried adjacency finished above stack → Tried adjacency finished' above stack
  | _, [], tried => tried
  | _, (_, _) :: _, tried =>
      ⟨fun target edge => (tried.1 target edge).imp_left (grows target),
        Tried.mono grows tried.2⟩

omit [DecidableEq α] in
/-- The node on top is finished. -/
theorem Tried.pop
    {adjacency : α → List α}
    {finished : List α}
    {node : α}
    {stack : List (α × Nat)}
    (tried : Tried adjacency finished (some node) stack) :
    Tried adjacency (node :: finished) none stack := by
  cases stack with
  | nil => trivial
  | cons entry stack =>
      obtain ⟨below, index⟩ := entry
      refine ⟨?_, tried.2.mono fun other present => List.mem_cons_of_mem _ present⟩
      intro target edge
      apply Or.inl
      rcases tried.1 target edge with present | same
      · exact List.mem_cons_of_mem _ present
      · rw [Option.some.inj same]
        exact List.mem_cons_self

/-- What the loop keeps: the finished nodes are settled, and the path has no
node twice and no finished one. -/
structure Search.Sound (adjacency : α → List α) (nodes : List α) (search : Search α) : Prop where
  settled : Settled adjacency search.finished
  fresh : ∀ node ∈ search.path, node ∉ search.finished
  inside : ∀ node ∈ search.path, node ∈ nodes
  distinct : search.path.Nodup
  tried : Tried adjacency search.finished none search.stack

/-- The edges and nodes that a search has still to try. -/
def Search.work (adjacency : α → List α) (nodes : List α) (search : Search α) : Nat :=
  (search.stack.map fun entry => (adjacency entry.1).length - entry.2 + 1).sum +
    unseenWeight (fun node => (adjacency node).length + 1) nodes (search.path ++ search.finished)

/-- A turn keeps the invariant and leaves less work. -/
theorem Search.Sound.step
    {adjacency : α → List α}
    {nodes : List α}
    {search next : Search α}
    (sound : search.Sound adjacency nodes)
    (closed : Closed adjacency nodes)
    (busy : search.stack ≠ [])
    (stepped : search.step adjacency = some next) :
    next.Sound adjacency nodes ∧ next.work adjacency nodes < search.work adjacency nodes := by
  obtain ⟨finished, stack⟩ := search
  obtain ⟨settled, fresh, inside, distinct, tried⟩ := sound
  cases stack with
  | nil => exact absurd rfl busy
  | cons entry stack =>
      obtain ⟨node, index⟩ := entry
      dsimp only at settled fresh inside distinct tried
      simp only [Search.path, List.map_cons, List.nodup_cons] at fresh inside distinct
      unfold Search.step at stepped
      dsimp only at stepped
      cases found : (adjacency node)[index]? with
      | none =>
          rw [found] at stepped
          obtain rfl := Option.some.inj stepped
          have all : (adjacency node).take index = adjacency node :=
            List.take_of_length_le (List.getElem?_eq_none_iff.mp found)
          have targets : ∀ target ∈ adjacency node, target ∈ finished := by
            intro target edge
            rw [← all] at edge
            exact (tried.1 target edge).resolve_right (by simp)
          refine ⟨⟨?_, ?_, ?_, distinct.2, tried.2.pop⟩, ?_⟩
          · exact .cons settled (fresh node List.mem_cons_self) targets
          · intro other onPath isFinished
            rcases List.mem_cons.mp isFinished with rfl | earlier
            · exact distinct.1 onPath
            · exact fresh other (List.mem_cons_of_mem _ onPath) earlier
          · exact fun other onPath => inside other (List.mem_cons_of_mem _ onPath)
          · have moved : ∀ other, other ∈ stack.map Prod.fst ++ node :: finished ↔
                other ∈ node :: stack.map Prod.fst ++ finished := by
              intro other
              simp only [List.mem_append, List.mem_cons]
              tauto
            simp only [Search.work, Search.path, List.map_cons, List.sum_cons,
              unseenWeight_congr moved]
            omega
      | some target =>
          rw [found] at stepped
          have edge : target ∈ adjacency node := List.mem_of_getElem? found
          have shorter : index < (adjacency node).length :=
            (List.getElem?_eq_some_iff.mp found).1
          have taken : (adjacency node).take (index + 1) =
              (adjacency node).take index ++ [target] := by
            rw [List.take_add_one, found]
            rfl
          dsimp only at stepped
          split_ifs at stepped with onPath isFinished
          · obtain rfl := Option.some.inj stepped
            refine ⟨⟨settled, fresh, inside, List.nodup_cons.mpr distinct, ?_, tried.2⟩, ?_⟩
            · intro other triedEdge
              rw [taken, List.mem_append, List.mem_singleton] at triedEdge
              rcases triedEdge with earlier | rfl
              · exact tried.1 other earlier
              · exact .inl isFinished
            · simp only [Search.work, Search.path, List.map_cons, List.sum_cons]
              omega
          · obtain rfl := Option.some.inj stepped
            have onPath : target ∉ node :: stack.map Prod.fst := onPath
            have isNode : target ∈ nodes := closed node (inside node List.mem_cons_self) _ edge
            refine ⟨⟨settled, ?_, ?_, ?_, ⟨?_, ?_, tried.2⟩⟩, ?_⟩
            · intro other present
              rcases List.mem_cons.mp present with rfl | earlier
              · exact isFinished
              · exact fresh other earlier
            · intro other present
              rcases List.mem_cons.mp present with rfl | earlier
              · exact isNode
              · exact inside other earlier
            · exact List.nodup_cons.mpr ⟨onPath, List.nodup_cons.mpr distinct⟩
            · exact fun other triedEdge => absurd triedEdge (by simp)
            · intro other triedEdge
              rw [taken, List.mem_append, List.mem_singleton] at triedEdge
              rcases triedEdge with earlier | rfl
              · exact .inl ((tried.1 other earlier).resolve_right (by simp))
              · exact .inr rfl
            · have unseen : target ∉ node :: stack.map Prod.fst ++ finished := by
                rw [List.mem_append, not_or]
                exact ⟨onPath, isFinished⟩
              have less := unseenWeight_cons_le (fun node => (adjacency node).length + 1)
                isNode unseen
              simp only [Search.work, Search.path, List.map_cons, List.sum_cons,
                List.cons_append] at less ⊢
              omega

/-- With enough fuel the loop empties the stack. -/
theorem Search.Sound.run
    {adjacency : α → List α}
    {nodes : List α}
    (closed : Closed adjacency nodes)
    {fuel : Nat}
    {search final : Search α}
    (sound : search.Sound adjacency nodes)
    (enough : search.work adjacency nodes ≤ fuel)
    (ended : search.run adjacency fuel = some final) :
    final.Sound adjacency nodes ∧ final.stack = [] := by
  induction fuel generalizing search with
  | zero =>
      obtain rfl := Option.some.inj ended
      refine ⟨sound, ?_⟩
      cases shape : search.stack with
      | nil => rfl
      | cons entry stack =>
          simp only [Search.work, shape, List.map_cons, List.sum_cons] at enough
          omega
  | succ fuel inductionHypothesis =>
      unfold Search.run at ended
      split_ifs at ended with idle
      · obtain rfl := Option.some.inj ended
        exact ⟨sound, List.isEmpty_iff.mp idle⟩
      · obtain ⟨next, stepped, later⟩ := Option.bind_eq_some_iff.mp ended
        have busy : search.stack ≠ [] := fun empty => idle (List.isEmpty_iff.mpr empty)
        obtain ⟨nextSound, less⟩ := sound.step closed busy stepped
        exact inductionHypothesis nextSound (by omega) later

/-- The nodes that a search finishes stay finished. -/
theorem Search.finished_subset_run
    {adjacency : α → List α}
    {fuel : Nat}
    {search final : Search α}
    (ended : search.run adjacency fuel = some final) :
    (∀ node ∈ search.finished, node ∈ final.finished) ∧
      (final.stack = [] → ∀ node ∈ search.path, node ∈ final.finished) := by
  induction fuel generalizing search with
  | zero =>
      obtain rfl := Option.some.inj ended
      refine ⟨fun _ present => present, ?_⟩
      intro empty node present
      simp [Search.path, empty] at present
  | succ fuel inductionHypothesis =>
      unfold Search.run at ended
      split_ifs at ended with idle
      · obtain rfl := Option.some.inj ended
        refine ⟨fun _ present => present, ?_⟩
        intro empty node present
        simp [Search.path, empty] at present
      · obtain ⟨next, stepped, later⟩ := Option.bind_eq_some_iff.mp ended
        obtain ⟨finished, onPath⟩ := inductionHypothesis later
        have kept : (∀ node ∈ search.finished, node ∈ next.finished) ∧
            ∀ node ∈ search.path, node ∈ next.path ∨ node ∈ next.finished := by
          obtain ⟨finished, stack⟩ := search
          unfold Search.step at stepped
          cases stack with
          | nil => exact absurd rfl idle
          | cons entry stack =>
              obtain ⟨node, index⟩ := entry
              dsimp only at stepped
              cases found : (adjacency node)[index]? with
              | none =>
                  rw [found] at stepped
                  obtain rfl := Option.some.inj stepped
                  simp only [Search.path, List.map_cons, List.mem_cons]
                  tauto
              | some target =>
                  rw [found] at stepped
                  dsimp only at stepped
                  split_ifs at stepped
                  · obtain rfl := Option.some.inj stepped
                    exact ⟨fun _ present => present, fun _ present => .inl present⟩
                  · obtain rfl := Option.some.inj stepped
                    simp only [Search.path, List.map_cons, List.mem_cons]
                    tauto
        refine ⟨fun node present => finished node (kept.1 node present), ?_⟩
        intro empty node present
        rcases kept.2 node present with later | done
        · exact onPath empty node later
        · exact finished node done

/-- A search starts at a node that is not finished. -/
theorem Settled.start
    {adjacency : α → List α}
    {nodes finished : List α}
    {start : α}
    (settled : Settled adjacency finished)
    (startNode : start ∈ nodes)
    (fresh : start ∉ finished) :
    (Search.mk finished [(start, 0)]).Sound adjacency nodes ∧
      (Search.mk finished [(start, 0)]).work adjacency nodes ≤ fuelFor adjacency nodes := by
  refine ⟨⟨settled, ?_, ?_, by simp [Search.path], ⟨by simp, trivial⟩⟩, ?_⟩
  · simpa [Search.path] using fresh
  · simpa [Search.path] using startNode
  · have less := unseenWeight_cons_le (fun node => (adjacency node).length + 1) startNode fresh
    have most : unseenWeight (fun node => (adjacency node).length + 1) nodes finished ≤
        fuelFor adjacency nodes :=
      (List.filter_sublist.map _).sum_le_sum fun _ _ => Nat.zero_le _
    simp only [Search.work, Search.path, List.map_cons, List.map_nil, List.sum_cons,
      List.sum_nil, List.cons_append, List.nil_append] at less ⊢
    omega

/-- The search from all nodes settles them, or it has found a cycle. -/
theorem settled_of_searchAll
    {adjacency : α → List α}
    {nodes : List α}
    (closed : Closed adjacency nodes)
    {starts finished final : List α}
    (inside : ∀ node ∈ starts, node ∈ nodes)
    (settled : Settled adjacency finished)
    (ended : searchAll adjacency (fuelFor adjacency nodes) finished starts = some final) :
    Settled adjacency final ∧ (∀ node ∈ finished, node ∈ final) ∧
      ∀ node ∈ starts, node ∈ final := by
  induction starts generalizing finished with
  | nil =>
      obtain rfl := Option.some.inj ended
      exact ⟨settled, fun _ present => present, by simp⟩
  | cons start starts inductionHypothesis =>
      have insideLater : ∀ node ∈ starts, node ∈ nodes :=
        fun node present => inside node (List.mem_cons_of_mem _ present)
      unfold searchAll at ended
      split_ifs at ended with done
      · obtain ⟨finalSettled, kept, reached⟩ := inductionHypothesis insideLater settled ended
        refine ⟨finalSettled, kept, ?_⟩
        rintro node (_ | ⟨_, later⟩)
        · exact kept start done
        · exact reached node later
      · obtain ⟨search, ran, later⟩ := Option.bind_eq_some_iff.mp ended
        obtain ⟨sound, enough⟩ := settled.start (inside start List.mem_cons_self) done
        obtain ⟨searchSound, emptied⟩ := sound.run closed enough ran
        obtain ⟨finishedKept, pathDone⟩ := Search.finished_subset_run ran
        obtain ⟨finalSettled, kept, reached⟩ :=
          inductionHypothesis insideLater searchSound.settled later
        refine ⟨finalSettled, fun node present => kept node (finishedKept node present), ?_⟩
        rintro node (_ | ⟨_, present⟩)
        · exact kept start (pathDone emptied start (by simp [Search.path]))
        · exact reached node present

/-- Every node of the path leads to the one above it. -/
def Search.Linked (adjacency : α → List α) (search : Search α) : Prop :=
  search.path.IsChain fun upper lower => Edge adjacency lower upper

omit [DecidableEq α] in
/-- Every node of a linked path leads to the top of it. -/
theorem reflTransGen_of_isChain
    {adjacency : α → List α}
    {top : α}
    {path : List α}
    (linked : (top :: path).IsChain fun upper lower => Edge adjacency lower upper) :
    ∀ node ∈ top :: path, Relation.ReflTransGen (Edge adjacency) node top := by
  induction path generalizing top with
  | nil =>
      intro node present
      rw [List.mem_singleton.mp present]
  | cons below path inductionHypothesis =>
      obtain ⟨edge, linked⟩ := List.isChain_cons_cons.mp linked
      rintro node (_ | ⟨_, present⟩)
      · exact .refl
      · exact (inductionHypothesis linked node present).tail edge

theorem Search.Linked.step
    {adjacency : α → List α}
    {search next : Search α}
    (linked : search.Linked adjacency)
    (stepped : search.step adjacency = some next) : next.Linked adjacency := by
  obtain ⟨finished, stack⟩ := search
  unfold Search.step at stepped
  cases stack with
  | nil =>
      obtain rfl := Option.some.inj stepped
      exact linked
  | cons entry stack =>
      obtain ⟨node, index⟩ := entry
      dsimp only at stepped
      cases found : (adjacency node)[index]? with
      | none =>
          rw [found] at stepped
          obtain rfl := Option.some.inj stepped
          exact List.IsChain.of_cons linked
      | some target =>
          rw [found] at stepped
          dsimp only at stepped
          split_ifs at stepped
          · obtain rfl := Option.some.inj stepped
            exact linked
          · obtain rfl := Option.some.inj stepped
            exact List.isChain_cons_cons.mpr ⟨List.mem_of_getElem? found, linked⟩

/-- A search stops only at a node of the path that reaches itself. -/
theorem Search.Linked.exists_cycle
    {adjacency : α → List α}
    {search : Search α}
    (linked : search.Linked adjacency)
    (stopped : search.step adjacency = none) :
    ∃ node ∈ search.path, Relation.TransGen (Edge adjacency) node node := by
  obtain ⟨finished, stack⟩ := search
  unfold Search.step at stopped
  cases stack with
  | nil => simp at stopped
  | cons entry stack =>
      obtain ⟨node, index⟩ := entry
      dsimp only at stopped
      cases found : (adjacency node)[index]? with
      | none => simp [found] at stopped
      | some target =>
          rw [found] at stopped
          dsimp only at stopped
          split_ifs at stopped with onPath
          have edge : Edge adjacency node target := List.mem_of_getElem? found
          exact ⟨target, onPath,
            .tail' (reflTransGen_of_isChain linked target onPath) edge⟩

theorem Search.Sound.exists_cycle
    {adjacency : α → List α}
    {nodes : List α}
    (closed : Closed adjacency nodes)
    {fuel : Nat}
    {search : Search α}
    (sound : search.Sound adjacency nodes)
    (linked : search.Linked adjacency)
    (stopped : search.run adjacency fuel = none) :
    ∃ node ∈ nodes, Relation.TransGen (Edge adjacency) node node := by
  induction fuel generalizing search with
  | zero => simp [Search.run] at stopped
  | succ fuel inductionHypothesis =>
      unfold Search.run at stopped
      split_ifs at stopped with idle
      cases stepped : search.step adjacency with
      | none =>
          obtain ⟨node, onPath, cycle⟩ := linked.exists_cycle stepped
          exact ⟨node, sound.inside node onPath, cycle⟩
      | some next =>
          rw [stepped, Option.bind_some] at stopped
          have busy : search.stack ≠ [] := fun empty => idle (List.isEmpty_iff.mpr empty)
          exact inductionHypothesis (sound.step closed busy stepped).1 (linked.step stepped) stopped

/-- When the search from all nodes stops early, a node reaches itself. -/
theorem exists_cycle_of_searchAll
    {adjacency : α → List α}
    {nodes : List α}
    (closed : Closed adjacency nodes)
    {starts finished : List α}
    (inside : ∀ node ∈ starts, node ∈ nodes)
    (settled : Settled adjacency finished)
    (stopped : searchAll adjacency (fuelFor adjacency nodes) finished starts = none) :
    ∃ node ∈ nodes, Relation.TransGen (Edge adjacency) node node := by
  induction starts generalizing finished with
  | nil => simp [searchAll] at stopped
  | cons start starts inductionHypothesis =>
      have insideLater : ∀ node ∈ starts, node ∈ nodes :=
        fun node present => inside node (List.mem_cons_of_mem _ present)
      unfold searchAll at stopped
      split_ifs at stopped with done
      · exact inductionHypothesis insideLater settled stopped
      · obtain ⟨sound, enough⟩ := settled.start (inside start List.mem_cons_self) done
        cases ran : Search.run adjacency (fuelFor adjacency nodes)
            (Search.mk finished [(start, 0)]) with
        | none => exact sound.exists_cycle closed (.singleton _) ran
        | some search =>
            rw [ran, Option.bind_some] at stopped
            obtain ⟨searchSound, _⟩ := sound.run closed enough ran
            exact inductionHypothesis insideLater searchSound.settled stopped

/-- A graph in which the search finds no cycle has none. -/
theorem not_transGen_of_hasCycle
    {adjacency : α → List α}
    {nodes : List α}
    (closed : Closed adjacency nodes)
    (acyclic : hasCycle adjacency nodes = false) :
    ∀ node ∈ nodes, ¬Relation.TransGen (Edge adjacency) node node := by
  intro node present
  unfold hasCycle at acyclic
  cases ended : searchAll adjacency (fuelFor adjacency nodes) [] nodes with
  | none => simp [ended] at acyclic
  | some final =>
      obtain ⟨settled, _, reached⟩ :=
        settled_of_searchAll closed (fun _ inside => inside) .nil ended
      exact settled.not_transGen (reached node present)

/-- The search finds a cycle exactly when there is one. -/
theorem hasCycle_iff
    {adjacency : α → List α}
    {nodes : List α}
    (closed : Closed adjacency nodes) :
    hasCycle adjacency nodes = true ↔
      ∃ node ∈ nodes, Relation.TransGen (Edge adjacency) node node := by
  constructor
  · intro found
    exact exists_cycle_of_searchAll closed (fun _ inside => inside) .nil
      (Option.isNone_iff_eq_none.mp found)
  · rintro ⟨node, present, cycle⟩
    by_contra acyclic
    exact not_transGen_of_hasCycle closed (Bool.eq_false_iff.mpr acyclic) node present cycle

/-! ### Reachable nodes -/

/-- The loop that collects reachable nodes, with the top of the stack first. -/
def explore (adjacency : α → List α) : Nat → List α → List α → List α
  | 0, seen, _ => seen
  | _ + 1, seen, [] => seen
  | fuel + 1, seen, current :: stack =>
      if current ∈ seen then explore adjacency fuel seen stack
      else explore adjacency fuel (current :: seen) ((adjacency current).reverse ++ stack)

/-- The nodes reachable from a root. -/
def reachable (adjacency : α → List α) (nodes : List α) (root : α) : List α :=
  explore adjacency (fuelFor adjacency nodes + 1) [] [root]

theorem explore_sound
    {adjacency : α → List α}
    (holds : α → Prop)
    (along : ∀ source, holds source → ∀ target ∈ adjacency source, holds target)
    {fuel : Nat}
    {seen stack : List α}
    (seenHold : ∀ node ∈ seen, holds node)
    (stackHold : ∀ node ∈ stack, holds node) :
    ∀ node ∈ explore adjacency fuel seen stack, holds node := by
  induction fuel generalizing seen stack with
  | zero => exact seenHold
  | succ fuel inductionHypothesis =>
      cases stack with
      | nil => exact seenHold
      | cons current stack =>
          have currentHolds := stackHold current List.mem_cons_self
          have stackHold' : ∀ node ∈ stack, holds node :=
            fun node present => stackHold node (List.mem_cons_of_mem _ present)
          unfold explore
          split_ifs
          · exact inductionHypothesis seenHold stackHold'
          · apply inductionHypothesis
            · rintro node (_ | ⟨_, present⟩)
              · exact currentHolds
              · exact seenHold node present
            · intro node present
              rcases List.mem_append.mp present with edge | later
              · exact along current currentHolds node (List.mem_reverse.mp edge)
              · exact stackHold' node later

/-- The collected nodes are closed under edges when the loop has run to its end. -/
theorem explore_complete
    {adjacency : α → List α}
    {nodes : List α}
    (closed : Closed adjacency nodes)
    {fuel : Nat}
    (seen stack : List α)
    (inside : ∀ node ∈ stack, node ∈ nodes)
    (enough : stack.length + unseenWeight (fun node => (adjacency node).length) nodes seen ≤ fuel)
    (pending : ∀ source ∈ seen, ∀ target ∈ adjacency source, target ∈ seen ∨ target ∈ stack) :
    (∀ node ∈ seen, node ∈ explore adjacency fuel seen stack) ∧
      (∀ node ∈ stack, node ∈ explore adjacency fuel seen stack) ∧
      Closed adjacency (explore adjacency fuel seen stack) := by
  induction fuel generalizing seen stack with
  | zero =>
      have empty : stack = [] := List.length_eq_zero_iff.mp (by omega)
      subst empty
      refine ⟨fun _ present => present, by simp, ?_⟩
      exact fun source present target edge =>
        (pending source present target edge).resolve_right List.not_mem_nil
  | succ fuel inductionHypothesis =>
      cases stack with
      | nil =>
          refine ⟨fun _ present => present, by simp, ?_⟩
          exact fun source present target edge =>
            (pending source present target edge).resolve_right List.not_mem_nil
      | cons current stack =>
          have currentNode := inside current List.mem_cons_self
          have inside' : ∀ node ∈ stack, node ∈ nodes :=
            fun node present => inside node (List.mem_cons_of_mem _ present)
          unfold explore
          split_ifs with isSeen
          · obtain ⟨seenKept, stackKept, ends⟩ := inductionHypothesis seen stack inside'
              (by simp only [List.length_cons] at enough; omega) (by
                intro source present target edge
                rcases pending source present target edge with done | later
                · exact .inl done
                · rcases List.mem_cons.mp later with rfl | later
                  · exact .inl isSeen
                  · exact .inr later)
            refine ⟨seenKept, ?_, ends⟩
            rintro node (_ | ⟨_, present⟩)
            · exact seenKept current isSeen
            · exact stackKept node present
          · have less := unseenWeight_cons_le (fun node => (adjacency node).length)
              currentNode isSeen
            obtain ⟨seenKept, stackKept, ends⟩ := inductionHypothesis (current :: seen)
              ((adjacency current).reverse ++ stack) (by
                intro node present
                rcases List.mem_append.mp present with edge | later
                · exact closed current currentNode node (List.mem_reverse.mp edge)
                · exact inside' node later) (by
                simp only [List.length_cons, List.length_append, List.length_reverse] at enough ⊢
                omega) (by
                rintro source (_ | ⟨_, present⟩) target edge
                · exact .inr (List.mem_append_left _ (List.mem_reverse.mpr edge))
                · rcases pending source present target edge with done | later
                  · exact .inl (List.mem_cons_of_mem _ done)
                  · rcases List.mem_cons.mp later with rfl | later
                    · exact .inl List.mem_cons_self
                    · exact .inr (List.mem_append_right _ later))
            refine ⟨fun node present => seenKept node (List.mem_cons_of_mem _ present), ?_, ends⟩
            rintro node (_ | ⟨_, present⟩)
            · exact seenKept current List.mem_cons_self
            · exact stackKept node (List.mem_append_right _ present)

/-- The fuel is enough for the edges of all nodes. -/
theorem unseenWeight_le_fuelFor
    (adjacency : α → List α)
    (nodes : List α) :
    unseenWeight (fun node => (adjacency node).length) nodes [] ≤ fuelFor adjacency nodes := by
  simp only [unseenWeight, List.not_mem_nil, not_false_eq_true, decide_true, List.filter_true,
    fuelFor]
  exact List.sum_le_sum fun other _ => Nat.le_succ _

/-- The loop collects exactly the nodes that the root reaches. -/
theorem mem_reachable_iff
    {adjacency : α → List α}
    {nodes : List α}
    (closed : Closed adjacency nodes)
    {root node : α}
    (rootNode : root ∈ nodes) :
    node ∈ reachable adjacency nodes root ↔ Relation.ReflTransGen (Edge adjacency) root node := by
  constructor
  · refine explore_sound (fun other => Relation.ReflTransGen (Edge adjacency) root other)
      ?_ (by simp) (by simp [Relation.ReflTransGen.refl]) node
    exact fun source reached target edge => reached.tail edge
  · intro path
    have most := unseenWeight_le_fuelFor adjacency nodes
    obtain ⟨_, stackKept, ends⟩ := explore_complete closed [] [root] (by simpa using rootNode)
      (show _ ≤ fuelFor adjacency nodes + 1 by simp only [List.length_singleton]; omega) (by simp)
    induction path with
    | refl => exact stackKept root (by simp)
    | tail _ edge inductionHypothesis => exact ends _ inductionHypothesis _ edge

end DepthFirst
end QuantumAnalytics
