import QuantumAnalytics.Foundations.DepthFirst

/-!
# Runs of the depth-first searches

The loops of the searches, told without fuel: how a loop goes on and how it ends. A
loop that cannot end has no run. Every search of a finite graph has exactly one,
and its result says whether there is a cycle; the searches with fuel have the results
of these runs.
-/

namespace QuantumAnalytics
namespace DepthFirst

variable {α : Type} [DecidableEq α] {adjacency : α → List α}

/-! ### Cycles -/

/-- How the loop of a start goes on and ends; `none` is a cycle. -/
inductive Search.Ends (adjacency : α → List α) : Search α → Option (Search α) → Prop
  /-- The stack is empty. -/
  | idle {search : Search α} :
      search.stack = [] →
      Search.Ends adjacency search (some search)
  /-- An edge leads back to the stack. -/
  | cycle {search : Search α} :
      search.stack ≠ [] →
      search.step adjacency = none →
      Search.Ends adjacency search none
  /-- Another turn. -/
  | turn {search next : Search α} {outcome : Option (Search α)} :
      search.stack ≠ [] →
      search.step adjacency = some next →
      Search.Ends adjacency next outcome →
      Search.Ends adjacency search outcome

/-- What `_has_cycle` returns for the starts that are left. -/
inductive Returns (adjacency : α → List α) : List α → List α → Bool → Prop
  /-- No start is left. -/
  | finished {finished : List α} : Returns adjacency finished [] false
  /-- The start was seen. -/
  | seen {finished starts : List α} {start : α} {result : Bool} :
      start ∈ finished →
      Returns adjacency finished starts result →
      Returns adjacency finished (start :: starts) result
  /-- The search from the start finds a cycle. -/
  | cycle {finished starts : List α} {start : α} :
      start ∉ finished →
      Search.Ends adjacency ⟨finished, [(start, 0)]⟩ none →
      Returns adjacency finished (start :: starts) true
  /-- The search from the start finds none. -/
  | searched {finished starts : List α} {start : α} {search : Search α} {result : Bool} :
      start ∉ finished →
      Search.Ends adjacency ⟨finished, [(start, 0)]⟩ (some search) →
      Returns adjacency search.finished starts result →
      Returns adjacency finished (start :: starts) result

theorem Search.Ends.unique
    {search : Search α}
    {outcome other : Option (Search α)}
    (ends : search.Ends adjacency outcome)
    (endsOther : search.Ends adjacency other) : outcome = other := by
  induction ends with
  | idle empty =>
      cases endsOther with
      | idle => rfl
      | cycle busy => exact absurd empty busy
      | turn busy => exact absurd empty busy
  | cycle busy stopped =>
      cases endsOther with
      | idle empty => exact absurd empty busy
      | cycle => rfl
      | turn _ stepped => rw [stopped] at stepped; cases stepped
  | turn busy stepped _ inductionHypothesis =>
      cases endsOther with
      | idle empty => exact absurd empty busy
      | cycle _ stopped => rw [stopped] at stepped; cases stepped
      | turn _ steppedOther later =>
          obtain rfl := Option.some.inj (stepped.symm.trans steppedOther)
          exact inductionHypothesis later

theorem Returns.unique
    {finished starts : List α}
    {result other : Bool}
    (returns : Returns adjacency finished starts result)
    (returnsOther : Returns adjacency finished starts other) : result = other := by
  induction returns with
  | finished =>
      cases returnsOther
      rfl
  | seen isSeen _ inductionHypothesis =>
      cases returnsOther with
      | seen _ later => exact inductionHypothesis later
      | cycle fresh => exact absurd isSeen fresh
      | searched fresh => exact absurd isSeen fresh
  | cycle fresh ends =>
      cases returnsOther with
      | seen isSeen => exact absurd isSeen fresh
      | cycle => rfl
      | searched _ endsOther => cases ends.unique endsOther
  | searched fresh ends _ inductionHypothesis =>
      cases returnsOther with
      | seen isSeen => exact absurd isSeen fresh
      | cycle _ endsOther => cases ends.unique endsOther
      | searched _ endsOther later =>
          obtain rfl := Option.some.inj (ends.unique endsOther)
          exact inductionHypothesis later

/-- With enough fuel the loop ends. -/
theorem Search.Sound.ends
    {nodes : List α}
    (closed : Closed adjacency nodes)
    {fuel : Nat}
    {search : Search α}
    (sound : search.Sound adjacency nodes)
    (enough : search.work adjacency nodes ≤ fuel) :
    search.Ends adjacency (search.run adjacency fuel) := by
  induction fuel generalizing search with
  | zero =>
      obtain ⟨-, emptied⟩ := sound.run closed enough rfl
      exact .idle emptied
  | succ fuel inductionHypothesis =>
      unfold Search.run
      split_ifs with idle
      · exact .idle (List.isEmpty_iff.mp idle)
      · have busy : search.stack ≠ [] := fun empty => idle (List.isEmpty_iff.mpr empty)
        cases stepped : search.step adjacency with
        | none => exact .cycle busy stepped
        | some next =>
            obtain ⟨nextSound, less⟩ := sound.step closed busy stepped
            exact .turn busy stepped (inductionHypothesis nextSound (by omega))

/-- The search with fuel returns what the loops return. -/
theorem returns_searchAll
    {nodes : List α}
    (closed : Closed adjacency nodes)
    {starts finished : List α}
    (inside : ∀ node ∈ starts, node ∈ nodes)
    (settled : Settled adjacency finished) :
    Returns adjacency finished starts
      (searchAll adjacency (fuelFor adjacency nodes) finished starts).isNone := by
  induction starts generalizing finished with
  | nil => exact .finished
  | cons start starts inductionHypothesis =>
      have insideLater : ∀ node ∈ starts, node ∈ nodes :=
        fun node present => inside node (List.mem_cons_of_mem _ present)
      unfold searchAll
      split_ifs with done
      · exact .seen done (inductionHypothesis insideLater settled)
      · obtain ⟨sound, enough⟩ := settled.start (inside start List.mem_cons_self) done
        have ends := sound.ends closed enough
        cases ran : Search.run adjacency (fuelFor adjacency nodes) ⟨finished, [(start, 0)]⟩ with
        | none => exact .cycle done (ran ▸ ends)
        | some search =>
            obtain ⟨searchSound, -⟩ := sound.run closed enough ran
            exact .searched done (ran ▸ ends) (inductionHypothesis insideLater searchSound.settled)

/-- `_has_cycle` of a graph whose edges stay among its nodes. -/
theorem returns_hasCycle
    {nodes : List α}
    (closed : Closed adjacency nodes) :
    Returns adjacency [] nodes (hasCycle adjacency nodes) :=
  returns_searchAll closed (fun _ present => present) .nil

/-- The search from the keys of a mapping ends, and it returns whether there is a
cycle. An edge may lead to a node that is not a key. -/
theorem returns_iff
    {keys : List α}
    (support : ∀ node, adjacency node ≠ [] → node ∈ keys)
    {result : Bool} :
    Returns adjacency [] keys result ↔
      (result = true ↔ ∃ node, Relation.TransGen (Edge adjacency) node node) := by
  let nodes := keys ++ keys.flatMap adjacency
  have closed : Closed adjacency nodes := by
    intro source _ target edge
    exact List.mem_append_right _
      (List.mem_flatMap.mpr ⟨source, support source (List.ne_nil_of_mem edge), edge⟩)
  have inside : ∀ node ∈ keys, node ∈ nodes := fun _ present => List.mem_append_left _ present
  have returns := returns_searchAll closed inside .nil
  have found : (searchAll adjacency (fuelFor adjacency nodes) [] keys).isNone = true ↔
      ∃ node, Relation.TransGen (Edge adjacency) node node := by
    cases ended : searchAll adjacency (fuelFor adjacency nodes) [] keys with
    | none =>
        obtain ⟨node, -, cycle⟩ := exists_cycle_of_searchAll closed inside .nil ended
        exact iff_of_true rfl ⟨node, cycle⟩
    | some final =>
        obtain ⟨settled, -, reached⟩ := settled_of_searchAll closed inside .nil ended
        refine iff_of_false Bool.false_ne_true ?_
        rintro ⟨node, cycle⟩
        obtain ⟨target, edge, -⟩ := Relation.TransGen.head'_iff.mp cycle
        have isKey := support node (List.ne_nil_of_mem edge)
        exact settled.not_transGen (reached node isKey) cycle
  constructor
  · intro returned
    rw [returned.unique returns]
    exact found
  · intro decides
    have same : result = (searchAll adjacency (fuelFor adjacency nodes) [] keys).isNone :=
      Bool.eq_iff_iff.mpr (decides.trans found.symm)
    exact same ▸ returns

/-! ### Reachable nodes -/

/-- How the loop that collects reachable nodes goes on and ends. -/
inductive Collects (adjacency : α → List α) : List α → List α → List α → Prop
  /-- The stack is empty. -/
  | idle {seen : List α} : Collects adjacency seen [] seen
  /-- The node was collected before. -/
  | again {seen stack result : List α} {current : α} :
      current ∈ seen →
      Collects adjacency seen stack result →
      Collects adjacency seen (current :: stack) result
  /-- The node is new. -/
  | new {seen stack result : List α} {current : α} :
      current ∉ seen →
      Collects adjacency (current :: seen) ((adjacency current).reverse ++ stack) result →
      Collects adjacency seen (current :: stack) result

/-- With enough fuel the loop ends. -/
theorem collects_explore
    {nodes : List α}
    (closed : Closed adjacency nodes)
    {fuel : Nat}
    {seen stack : List α}
    (inside : ∀ node ∈ stack, node ∈ nodes)
    (enough : stack.length + unseenWeight (fun node => (adjacency node).length) nodes seen ≤ fuel) :
    Collects adjacency seen stack (explore adjacency fuel seen stack) := by
  induction fuel generalizing seen stack with
  | zero =>
      obtain rfl : stack = [] := List.length_eq_zero_iff.mp (by omega)
      exact .idle
  | succ fuel inductionHypothesis =>
      cases stack with
      | nil => exact .idle
      | cons current stack =>
          have currentNode := inside current List.mem_cons_self
          have insideLater : ∀ node ∈ stack, node ∈ nodes :=
            fun node present => inside node (List.mem_cons_of_mem _ present)
          rw [List.length_cons] at enough
          unfold explore
          split_ifs with isSeen
          · exact .again isSeen (inductionHypothesis insideLater (by omega))
          · have less := unseenWeight_cons_le (fun node => (adjacency node).length)
              currentNode isSeen
            refine .new isSeen (inductionHypothesis ?_ ?_)
            · intro node present
              rcases List.mem_append.mp present with edge | later
              · exact closed current currentNode node (List.mem_reverse.mp edge)
              · exact insideLater node later
            · rw [List.length_append, List.length_reverse]
              omega

theorem collects_reachable
    {nodes : List α}
    (closed : Closed adjacency nodes)
    {root : α}
    (rootNode : root ∈ nodes) :
    Collects adjacency [] [root] (reachable adjacency nodes root) := by
  have most := unseenWeight_le_fuelFor adjacency nodes
  refine collects_explore closed (fun node present => ?_) ?_
  · exact List.mem_singleton.mp present ▸ rootNode
  · rw [List.length_singleton]
    omega

end DepthFirst
end QuantumAnalytics
