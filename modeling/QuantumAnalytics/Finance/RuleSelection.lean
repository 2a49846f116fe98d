import QuantumAnalytics.Finance.Rules

/-!
# What rule resolution selects

A rule is eligible exactly when it matches its context in every respect, and a
resolution selects the one eligible rule that is first in the resolution order,
if no exclusivity group has two eligible rules and no other rule is equally
first.
-/

namespace QuantumAnalytics
namespace Finance

/-! ### Eligible rules -/

/-- A scenario scope admits a mode: no scenario in actual mode, and no other
scenario in scenario mode. -/
def AdmitsMode (scenarioId : Option String) : CalculationMode → Prop
  | .actual => scenarioId = none
  | .scenario name => ∀ constrained ∈ scenarioId, constrained = name

/-- A rule matches a context in every respect. -/
structure Eligible (context : RuleContext) (rule : RuleDocument) : Prop where
  /-- The rule belongs to the tenant. -/
  organization : rule.organizationId = context.organizationId
  /-- The rule is approved. -/
  approved : rule.status.isApproved = true
  /-- The validity has begun. -/
  begun : rule.validFrom.instant ≤ context.calculationInstant.instant
  /-- The validity has not ended. -/
  notEnded : ∀ validTo ∈ rule.validTo, context.calculationInstant.instant < validTo.instant
  /-- The scenario scope admits the mode. -/
  scenario : AdmitsMode (rule.scope .scenarioId) context.mode
  /-- Every scoped dimension has the value of the context. -/
  dimensions : ∀ field ∈ ScopeField.plainOrder, ∀ value ∈ rule.scope field,
    context.dimension field = some value

/-- Only the status excludes the rule. -/
def ExcludedOnlyByStatus (context : RuleContext) (rule : RuleDocument) : Prop :=
  rule.status.isApproved = false ∧ Eligible context { rule with status := .active }

@[simp] theorem excludeIf_eq_nil
    {condition : Prop}
    [Decidable condition]
    {reason : Exclusion} : RuleDocument.excludeIf condition reason = [] ↔ ¬condition := by
  unfold RuleDocument.excludeIf
  split <;> simp_all

theorem mem_excludeIf
    {condition : Prop}
    [Decidable condition]
    {reason found : Exclusion}
    (present : found ∈ RuleDocument.excludeIf condition reason) : found = reason := by
  unfold RuleDocument.excludeIf at present
  split at present
  · exact List.mem_singleton.mp present
  · exact absurd present (List.not_mem_nil)

/-- A scenario scope is excluded exactly when it does not admit the mode. -/
theorem scenarioExclusion_eq_none {rule : RuleDocument} {mode : CalculationMode} :
    rule.scenarioExclusion mode = none ↔ AdmitsMode (rule.scope .scenarioId) mode := by
  cases mode with
  | actual => cases scope : rule.scope .scenarioId <;>
      simp [RuleDocument.scenarioExclusion, AdmitsMode, scope]
  | scenario name => cases scope : rule.scope .scenarioId <;>
      simp [RuleDocument.scenarioExclusion, AdmitsMode, scope]

theorem scenarioExclusion_ne
    {rule : RuleDocument}
    {mode : CalculationMode}
    {found : Exclusion}
    (present : found ∈ (rule.scenarioExclusion mode).toList) : found ≠ .ruleNotApproved := by
  rw [Option.mem_toList] at present
  unfold RuleDocument.scenarioExclusion at present
  rintro rfl
  split at present <;> split at present <;> simp at present

/-- The dimensions that exclude no rule are those with the value of the context. -/
theorem dimension_not_excluded
    {context : RuleContext}
    {rule : RuleDocument}
    {field : ScopeField} :
    ¬((rule.scope field).isSome = true ∧ rule.scope field ≠ context.dimension field) ↔
      ∀ value ∈ rule.scope field, context.dimension field = some value := by
  cases rule.scope field <;> simp [eq_comm]

/-- No reason excludes exactly the eligible rules. -/
theorem exclusions_eq_nil_iff {context : RuleContext} {rule : RuleDocument} :
    rule.exclusions context = [] ↔ Eligible context rule := by
  have ended : ¬rule.validTo.any
      (fun validTo => validTo.instant ≤ context.calculationInstant.instant) = true ↔
        ∀ validTo ∈ rule.validTo, context.calculationInstant.instant < validTo.instant := by
    cases rule.validTo <;> simp
  unfold RuleDocument.exclusions
  simp only [List.append_eq_nil_iff, excludeIf_eq_nil, List.flatMap_eq_nil_iff,
    Option.toList_eq_nil_iff, scenarioExclusion_eq_none, dimension_not_excluded, not_or, ended,
    not_not, not_lt, Bool.not_eq_false]
  constructor
  · rintro ⟨⟨⟨⟨organization, approved⟩, begun, notEnded⟩, scenario⟩, dimensions⟩
    exact ⟨organization, approved, begun, notEnded, scenario, dimensions⟩
  · rintro ⟨organization, approved, begun, notEnded, scenario, dimensions⟩
    exact ⟨⟨⟨⟨organization, approved⟩, begun, notEnded⟩, scenario⟩, dimensions⟩

instance (context : RuleContext) (rule : RuleDocument) : Decidable (Eligible context rule) :=
  decidable_of_iff _ exclusions_eq_nil_iff

theorem Exclusion.text_injective : Function.Injective Exclusion.text := by
  intro left right same
  cases left <;> cases right <;> (try rename_i field; cases field) <;>
    (try rename_i field; cases field) <;> first | rfl | (revert same; decide)

/-- A sorted set has one element when the list has no other. -/
theorem sortedSet_eq_singleton_iff {texts : List String} {text : String} :
    sortedSet texts = [text] ↔ texts ≠ [] ∧ ∀ found ∈ texts, found = text := by
  constructor
  · intro single
    have present : ∀ {found : String}, found ∈ texts ↔ found = text := by
      intro found
      rw [← mem_sortedSet, single, List.mem_singleton]
    exact ⟨List.ne_nil_of_mem (present.mpr rfl), fun found inList => present.mp inList⟩
  · rintro ⟨nonempty, all⟩
    have repeated : texts = List.replicate texts.length text := List.eq_replicate_of_mem all
    have positive : texts.length ≠ 0 := by simpa using nonempty
    unfold sortedSet
    rw [repeated, List.replicate_dedup positive]
    rfl

/-- The status is a reason exactly when it is not approved. -/
theorem ruleNotApproved_mem_exclusions {context : RuleContext} {rule : RuleDocument} :
    Exclusion.ruleNotApproved ∈ rule.exclusions context ↔ rule.status.isApproved = false := by
  constructor
  · intro present
    by_contra approved
    simp only [RuleDocument.exclusions, List.mem_append, List.mem_flatMap] at present
    rcases present with (((organization | status) | validity) | scenario) | ⟨field, _, dimension⟩
    · exact absurd (mem_excludeIf organization) (by decide)
    · rw [excludeIf_eq_nil.mpr approved] at status
      exact absurd status List.not_mem_nil
    · exact absurd (mem_excludeIf validity) (by decide)
    · exact absurd rfl (scenarioExclusion_ne scenario)
    · exact absurd (mem_excludeIf dimension) (by simp)
  · intro notApproved
    simp [RuleDocument.exclusions, RuleDocument.excludeIf, notApproved]

/-- The other reasons are those of the same rule with an approved status. -/
theorem filter_exclusions (context : RuleContext) (rule : RuleDocument) :
    (rule.exclusions context).filter (fun reason => reason ≠ .ruleNotApproved) =
      RuleDocument.exclusions { rule with status := .active } context := by
  have kept : ∀ {reasons : List Exclusion}, (∀ reason ∈ reasons, reason ≠ .ruleNotApproved) →
      reasons.filter (fun reason => reason ≠ .ruleNotApproved) = reasons := by
    intro reasons others
    exact List.filter_eq_self.mpr fun reason present => by simpa using others reason present
  have keptIf : ∀ {condition : Prop} [Decidable condition] {reason : Exclusion},
      reason ≠ .ruleNotApproved →
      (RuleDocument.excludeIf condition reason).filter (fun found => found ≠ .ruleNotApproved) =
        RuleDocument.excludeIf condition reason := by
    intro condition decidable reason other
    exact kept fun found present => (mem_excludeIf present).symm ▸ other
  have dropped : (RuleDocument.excludeIf (rule.status.isApproved = false)
      .ruleNotApproved).filter (fun found => found ≠ .ruleNotApproved) = [] := by
    rw [List.filter_eq_nil_iff]
    intro found present
    simp [mem_excludeIf present]
  have approved : RuleDocument.excludeIf (RuleStatus.active.isApproved = false)
      .ruleNotApproved = [] := by
    rw [excludeIf_eq_nil]
    decide
  have dimensions : (ScopeField.plainOrder.flatMap fun field => RuleDocument.excludeIf
      ((rule.scope field).isSome = true ∧ rule.scope field ≠ context.dimension field)
      (.dimensionMismatch field)).filter (fun found => found ≠ .ruleNotApproved) =
        ScopeField.plainOrder.flatMap fun field => RuleDocument.excludeIf
          ((rule.scope field).isSome = true ∧ rule.scope field ≠ context.dimension field)
          (.dimensionMismatch field) := by
    apply kept
    intro found present
    obtain ⟨field, _, inField⟩ := List.mem_flatMap.mp present
    simp [mem_excludeIf inField]
  simp only [RuleDocument.exclusions, List.filter_append, dropped, approved, dimensions]
  rw [keptIf (by decide), keptIf (by decide), kept fun reason => scenarioExclusion_ne]
  rfl

/-- The status is the only reason exactly when an approved rule would be eligible. -/
theorem exclusions_only_status_iff {context : RuleContext} {rule : RuleDocument} :
    sortedSet ((rule.exclusions context).map Exclusion.text) = [Exclusion.ruleNotApproved.text] ↔
      ExcludedOnlyByStatus context rule := by
  rw [sortedSet_eq_singleton_iff]
  simp only [ne_eq, List.map_eq_nil_iff, List.forall_mem_map, Exclusion.text_injective.eq_iff]
  unfold ExcludedOnlyByStatus
  rw [← exclusions_eq_nil_iff, ← filter_exclusions, List.filter_eq_nil_iff,
    ← ruleNotApproved_mem_exclusions]
  simp only [ne_eq, decide_not, Bool.not_eq_true', decide_eq_false_iff_not, not_not]
  constructor
  · rintro ⟨excluded, onlyStatus⟩
    obtain ⟨reason, present⟩ := List.exists_mem_of_ne_nil _ excluded
    exact ⟨onlyStatus reason present ▸ present, onlyStatus⟩
  · rintro ⟨present, onlyStatus⟩
    exact ⟨List.ne_nil_of_mem present, onlyStatus⟩

/-! ### The selected rule -/

/-- An eligible rule that no eligible rule precedes in the resolution order. -/
def AttainsMaximum
    (context : RuleContext)
    (rules : List RuleDocument)
    (rule : RuleDocument) : Prop :=
  Eligible context rule ∧
    ∀ other ∈ rules, Eligible context other → other.ordering ≤ rule.ordering

instance (context : RuleContext) (rules : List RuleDocument) :
    DecidablePred (AttainsMaximum context rules) :=
  fun _ => inferInstanceAs (Decidable (_ ∧ _))

/-- Some exclusivity group contains two eligible rules. -/
def Overlaps (context : RuleContext) (rules : List RuleDocument) : Prop :=
  ∃ group, 1 < rules.countP fun rule => Eligible context rule ∧ rule.exclusivityGroup = some group

/-- The rows are the eligible rules. -/
theorem map_fst_eligibleRows (context : RuleContext) (rules : List RuleDocument) :
    (eligibleRows context rules).map Prod.fst = rules.filter fun rule => Eligible context rule := by
  have rows : rules = rules.zipIdx.map Prod.fst := by simp
  conv_rhs => rw [rows]
  unfold eligibleRows
  rw [List.filter_map]
  congr 1
  apply List.filter_congr
  intro row _
  rw [Bool.eq_iff_iff, List.isEmpty_iff, exclusions_eq_nil_iff]
  exact decide_eq_true_iff.symm

/-- The overlap check finds the overlapping groups. -/
theorem hasOverlap_iff {context : RuleContext} {rules : List RuleDocument} :
    hasOverlap ((eligibleRows context rules).map Prod.fst) = true ↔ Overlaps context rules := by
  have counts : ∀ group : String,
      (((eligibleRows context rules).map Prod.fst).filterMap
        RuleDocument.exclusivityGroup).count group =
      rules.countP fun rule => Eligible context rule ∧ rule.exclusivityGroup = some group := by
    intro group
    rw [map_fst_eligibleRows, List.count, List.countP_filterMap, List.countP_filter]
    apply List.countP_congr
    intro rule _
    cases rule.exclusivityGroup <;> simp [and_comm]
  unfold hasOverlap Overlaps
  simp only [List.any_eq_true, decide_eq_true_eq]
  constructor
  · rintro ⟨group, _, twice⟩
    exact ⟨group, counts group ▸ twice⟩
  · rintro ⟨group, twice⟩
    have counted := (counts group).symm ▸ twice
    exact ⟨group, List.count_pos_iff.mp (by omega), counted⟩

/-- The positions of the best rows are those of the rules that attain the maximum. -/
theorem bestRows_eq (context : RuleContext) (rules : List RuleDocument) :
    bestRows (eligibleRows context rules) =
      (rules.zipIdx.filter fun row => AttainsMaximum context rules row.1).map Prod.snd := by
  have bound : ∀ row : RuleDocument × Nat,
      (∀ other ∈ eligibleRows context rules, other.1.ordering ≤ row.1.ordering) ↔
        ∀ other ∈ rules, Eligible context other → other.ordering ≤ row.1.ordering := by
    intro row
    have mapped := List.forall_mem_map (f := Prod.fst) (l := eligibleRows context rules)
      (P := fun other : RuleDocument => other.ordering ≤ row.1.ordering)
    rw [← mapped, map_fst_eligibleRows]
    simp only [List.mem_filter, decide_eq_true_eq, and_imp]
  unfold bestRows
  rw [Selection.greatest_eq_filter]
  simp only [bound]
  congr 1
  rw [eligibleRows, List.filter_filter]
  apply List.filter_congr
  intro row _
  rw [Bool.eq_iff_iff, Bool.and_eq_true, List.isEmpty_iff, exclusions_eq_nil_iff,
    decide_eq_true_iff, decide_eq_true_iff, and_comm]
  rfl

/-- A position is among those of the rows that pass a test when its element does. -/
theorem mem_positions_iff
    {α : Type}
    {elements : List α}
    {passes : α → Prop}
    [DecidablePred passes]
    {row : α × Nat}
    (present : row ∈ elements.zipIdx) :
    row.2 ∈ (elements.zipIdx.filter fun other => passes other.1).map Prod.snd ↔ passes row.1 := by
  rw [List.mem_zipIdx_iff_getElem?] at present
  constructor
  · intro inPositions
    obtain ⟨other, inRows, samePosition⟩ := List.mem_map.mp inPositions
    obtain ⟨stored, passed⟩ := List.mem_filter.mp inRows
    rw [List.mem_zipIdx_iff_getElem?, samePosition, present] at stored
    rw [Option.some.inj stored]
    exact of_decide_eq_true passed
  · intro passed
    refine List.mem_map.mpr ⟨row, List.mem_filter.mpr ⟨?_, decide_eq_true passed⟩, rfl⟩
    exact List.mem_zipIdx_iff_getElem?.mpr present

/-! ### The outcome of a resolution -/

/-- The number of rules that attain the maximum. -/
def maximumCount (context : RuleContext) (rules : List RuleDocument) : Nat :=
  rules.countP fun rule => AttainsMaximum context rules rule

/-- A resolution of the given rules is the specified one. -/
structure ResolvesAs
    (context : RuleContext)
    (rules : List RuleDocument)
    (resolution : RuleResolution) : Prop where
  /-- Every rule is considered once, eligible if it matches the context and
  selected if it is first. -/
  considered : ∃ order : List RuleDocument, order.Perm rules ∧
    List.Forall₂ (fun rule candidate =>
      candidate.rule = rule.ref ∧ (candidate.eligible = true ↔ Eligible context rule) ∧
        (candidate.selected = true ↔
          resolution.state = .valid ∧ AttainsMaximum context rules rule))
      order resolution.candidates
  /-- One candidate is selected in a valid resolution and none in any other. -/
  selected : resolution.candidates.countP RuleCandidate.selected =
    if resolution.state = .valid then 1 else 0
  /-- A resolution is valid when one rule is first among nonoverlapping eligible rules. -/
  valid : resolution.state = .valid ↔
    (∃ rule ∈ rules, Eligible context rule) ∧ ¬Overlaps context rules ∧
      maximumCount context rules = 1
  /-- A valid resolution has no diagnostic. -/
  undiagnosed : resolution.state = .valid → resolution.diagnosticCode = none
  /-- Overlapping eligible rules conflict. -/
  overlap : Overlaps context rules →
    resolution.state = .nonvalid .conflict ∧
      resolution.diagnosticCode = some .ruleExclusivityOverlap
  /-- Without an eligible rule the resolution is blocked. -/
  blocked : (∀ rule ∈ rules, ¬Eligible context rule) →
    resolution.state = .nonvalid .blocked ∧
      (resolution.diagnosticCode = some .ruleNotApproved ↔
        ∃ rule ∈ rules, ExcludedOnlyByStatus context rule) ∧
      (resolution.diagnosticCode = some .ruleRequiredMissing ↔
        ¬∃ rule ∈ rules, ExcludedOnlyByStatus context rule)
  /-- Eligible rules that are equally first conflict. -/
  tie : (∃ rule ∈ rules, Eligible context rule) → ¬Overlaps context rules →
    maximumCount context rules ≠ 1 →
    resolution.state = .nonvalid .conflict ∧ resolution.diagnosticCode = some .ruleResolutionTie

/-- Without an eligible rule nothing overlaps. -/
theorem not_overlaps_of_none
    {context : RuleContext}
    {rules : List RuleDocument}
    (none : ∀ rule ∈ rules, ¬Eligible context rule) : ¬Overlaps context rules := by
  rintro ⟨group, twice⟩
  obtain ⟨rule, present, counted⟩ := List.countP_pos_iff.mp (Nat.zero_lt_of_lt twice)
  exact none rule present (of_decide_eq_true counted).1

/-- There are no rows when no rule is eligible. -/
theorem eligibleRows_eq_nil_iff {context : RuleContext} {rules : List RuleDocument} :
    eligibleRows context rules = [] ↔ ∀ rule ∈ rules, ¬Eligible context rule := by
  rw [← List.map_eq_nil_iff (f := Prod.fst), map_fst_eligibleRows, List.filter_eq_nil_iff]
  simp only [decide_eq_true_eq]

/-- The number of best rows. -/
theorem length_bestRows (context : RuleContext) (rules : List RuleDocument) :
    (bestRows (eligibleRows context rules)).length = maximumCount context rules := by
  have rows : rules = rules.zipIdx.map Prod.fst := by simp
  rw [bestRows_eq, List.length_map, maximumCount]
  conv_rhs => rw [rows]
  rw [List.countP_map, List.countP_eq_length_filter, ← rows]
  rfl

section Outcome

variable (context : RuleContext) (rules : List RuleDocument)

/-- Some candidate is excluded for its status alone when some rule is. -/
theorem any_statusOnly :
    ((rules.map (candidateOf context)).any fun candidate =>
      candidate.exclusionReasons = [Exclusion.ruleNotApproved.text]) = true ↔
      ∃ rule ∈ rules, ExcludedOnlyByStatus context rule := by
  rw [List.any_map, List.any_eq_true]
  refine exists_congr fun rule => and_congr_right fun _ => ?_
  exact decide_eq_true_iff.trans exclusions_only_status_iff

/-- The candidates of a resolution that selects a position. -/
def candidatesSelecting (selected : Option Nat) : List RuleCandidate :=
  (rules.map (candidateOf context)).zipIdx.map fun (candidate, index) =>
    { candidate with selected := selected = some index }

/-- Candidates are aligned with their rules. -/
theorem forall₂_candidatesSelecting
    {selected : Option Nat}
    {isSelected : RuleDocument → Prop}
    (selects : ∀ row ∈ rules.zipIdx, selected = some row.2 ↔ isSelected row.1) :
    List.Forall₂ (fun rule candidate =>
      candidate.rule = rule.ref ∧ (candidate.eligible = true ↔ Eligible context rule) ∧
        (candidate.selected = true ↔ isSelected rule))
      rules (candidatesSelecting context rules selected) := by
  have rows : rules = rules.zipIdx.map Prod.fst := by simp
  unfold candidatesSelecting
  rw [List.zipIdx_map, List.map_map]
  conv => arg 2; rw [rows]
  rw [List.forall₂_map_left_iff, List.forall₂_map_right_iff, List.forall₂_same]
  intro row present
  refine ⟨rfl, ?_, ?_⟩
  · exact List.isEmpty_iff.trans exclusions_eq_nil_iff
  · exact decide_eq_true_iff.trans (selects row present)

/-- As many candidates are selected as rules satisfy the criterion. -/
theorem countP_selected
    {order : List RuleDocument}
    {candidates : List RuleCandidate}
    {isSelected : RuleDocument → Prop}
    [DecidablePred isSelected]
    (aligned : List.Forall₂ (fun rule candidate =>
      candidate.rule = rule.ref ∧ (candidate.eligible = true ↔ Eligible context rule) ∧
        (candidate.selected = true ↔ isSelected rule)) order candidates) :
    candidates.countP RuleCandidate.selected = order.countP fun rule => isSelected rule := by
  induction aligned with
  | nil => rfl
  | cons head _ inductionHypothesis =>
      rw [List.countP_cons, List.countP_cons, inductionHypothesis]
      simp only [head.2.2, decide_eq_true_eq]

variable {context rules}

/-- Overlapping rules decide for a conflict. -/
theorem decideResolution_of_overlap (overlap : Overlaps context rules) :
    decideResolution (eligibleRows context rules) (rules.map (candidateOf context)) =
      (.nonvalid .conflict, some .ruleExclusivityOverlap, none) := by
  unfold decideResolution
  rw [if_pos (hasOverlap_iff.mpr overlap)]

/-- The absence of eligible rules decides for a blocked state. -/
theorem decideResolution_of_none (absent : ∀ rule ∈ rules, ¬Eligible context rule) :
    ∃ diagnostic : RuleDiagnostic,
      decideResolution (eligibleRows context rules) (rules.map (candidateOf context)) =
        (.nonvalid .blocked, some diagnostic, none) ∧
      (diagnostic = .ruleNotApproved ↔ ∃ rule ∈ rules, ExcludedOnlyByStatus context rule) ∧
      (diagnostic = .ruleRequiredMissing ↔
        ¬∃ rule ∈ rules, ExcludedOnlyByStatus context rule) := by
  have noOverlap := mt hasOverlap_iff.mp (not_overlaps_of_none absent)
  have noRows : (eligibleRows context rules).isEmpty = true :=
    List.isEmpty_iff.mpr (eligibleRows_eq_nil_iff.mpr absent)
  unfold decideResolution
  rw [if_neg noOverlap, if_pos noRows]
  refine ⟨_, rfl, ?_⟩
  have statusOnly := any_statusOnly context rules
  by_cases only : ∃ rule ∈ rules, ExcludedOnlyByStatus context rule
  · simp [statusOnly.mpr only, only]
  · simp [mt statusOnly.mp only, only]

/-- Otherwise the number of first rules decides. -/
theorem decideResolution_of_some
    (eligible : ∃ rule ∈ rules, Eligible context rule)
    (noOverlap : ¬Overlaps context rules) :
    decideResolution (eligibleRows context rules) (rules.map (candidateOf context)) =
      match bestRows (eligibleRows context rules) with
      | [index] => (.valid, none, some index)
      | _ => (.nonvalid .conflict, some .ruleResolutionTie, none) := by
  have someRows : ¬(eligibleRows context rules).isEmpty = true := by
    rw [List.isEmpty_iff, eligibleRows_eq_nil_iff]
    obtain ⟨rule, present, matching⟩ := eligible
    exact fun absent => absent rule present matching
  unfold decideResolution
  apply (if_neg (mt hasOverlap_iff.mp noOverlap)).trans
  exact if_neg someRows

/-- A decision without a selection selects no candidate. -/
theorem forall₂_unselected
    {resolution : RuleResolution}
    {missing : NonvalidState}
    (state : resolution.state = .nonvalid missing)
    (candidates : resolution.candidates = candidatesSelecting context rules none) :
    List.Forall₂ (fun rule candidate =>
      candidate.rule = rule.ref ∧ (candidate.eligible = true ↔ Eligible context rule) ∧
        (candidate.selected = true ↔
          resolution.state = .valid ∧ AttainsMaximum context rules rule))
      rules resolution.candidates := by
  rw [candidates]
  apply forall₂_candidatesSelecting
  intro row _
  simp [state]

/-- The candidates of the decision are those that attain the maximum. -/
theorem forall₂_selected
    {resolution : RuleResolution}
    {index : Nat}
    (state : resolution.state = .valid)
    (best : bestRows (eligibleRows context rules) = [index])
    (candidates : resolution.candidates = candidatesSelecting context rules (some index)) :
    List.Forall₂ (fun rule candidate =>
      candidate.rule = rule.ref ∧ (candidate.eligible = true ↔ Eligible context rule) ∧
        (candidate.selected = true ↔
          resolution.state = .valid ∧ AttainsMaximum context rules rule))
      rules resolution.candidates := by
  rw [candidates]
  apply forall₂_candidatesSelecting
  intro row present
  have selected := (mem_positions_iff present : _ ↔ AttainsMaximum context rules row.1)
  rw [← selected, ← bestRows_eq, best]
  simp [state, eq_comm]

/-- The count of selected candidates in an aligned resolution. -/
theorem countP_selected_of_forall₂
    {resolution : RuleResolution}
    (aligned : List.Forall₂ (fun rule candidate =>
      candidate.rule = rule.ref ∧ (candidate.eligible = true ↔ Eligible context rule) ∧
        (candidate.selected = true ↔
          resolution.state = .valid ∧ AttainsMaximum context rules rule))
      rules resolution.candidates) :
    resolution.candidates.countP RuleCandidate.selected =
      if resolution.state = .valid then maximumCount context rules else 0 := by
  rw [countP_selected context aligned]
  by_cases state : resolution.state = .valid
  · simp [state, maximumCount]
  · simp [state]

/-- A resolution with the decided members is the specified one. -/
theorem resolvesAs_of_decision
    {resolution : RuleResolution}
    {selected : Option Nat}
    (decision : decideResolution (eligibleRows context rules) (rules.map (candidateOf context)) =
      (resolution.state, resolution.diagnosticCode, selected))
    (candidates : resolution.candidates = candidatesSelecting context rules selected) :
    ResolvesAs context rules resolution := by
  by_cases absent : ∀ rule ∈ rules, ¬Eligible context rule
  · have noOverlap := not_overlaps_of_none absent
    obtain ⟨diagnostic, decided, status, missing⟩ := decideResolution_of_none absent
    rw [decision, Prod.mk.injEq, Prod.mk.injEq] at decided
    obtain ⟨state, diagnosed, rfl⟩ := decided
    have aligned := forall₂_unselected state candidates
    have nobody : ¬∃ rule ∈ rules, Eligible context rule := by simpa using absent
    refine ⟨⟨rules, List.Perm.refl _, aligned⟩, ?_, ?_, ?_, ?_, ?_, ?_⟩
    · rw [countP_selected_of_forall₂ aligned, state]
      rfl
    · simp [state, nobody]
    · simp [state]
    · exact fun overlap => absurd overlap noOverlap
    · intro _
      rw [diagnosed, Option.some.injEq, Option.some.injEq]
      exact ⟨state, status, missing⟩
    · exact fun eligible => absurd eligible nobody
  · have eligible : ∃ rule ∈ rules, Eligible context rule := by simpa using absent
    by_cases overlap : Overlaps context rules
    · rw [decideResolution_of_overlap overlap, Prod.mk.injEq, Prod.mk.injEq] at decision
      obtain ⟨state, diagnosed, rfl⟩ := decision
      have aligned := forall₂_unselected state.symm candidates
      refine ⟨⟨rules, List.Perm.refl _, aligned⟩, ?_, ?_, ?_, ?_, ?_, ?_⟩
      · rw [countP_selected_of_forall₂ aligned, ← state]
        rfl
      · simp [← state, overlap]
      · simp [← state]
      · exact fun _ => ⟨state.symm, diagnosed.symm⟩
      · exact fun none => absurd none absent
      · exact fun _ noOverlap => absurd overlap noOverlap
    · rw [decideResolution_of_some eligible overlap] at decision
      have counted := length_bestRows context rules
      split at decision
      case h_1 index best =>
        rw [Prod.mk.injEq, Prod.mk.injEq] at decision
        obtain ⟨state, diagnosed, rfl⟩ := decision
        have aligned := forall₂_selected state.symm best candidates
        have single : maximumCount context rules = 1 := by rw [← counted, best]; rfl
        refine ⟨⟨rules, List.Perm.refl _, aligned⟩, ?_, ?_, ?_, ?_, ?_, ?_⟩
        · rw [countP_selected_of_forall₂ aligned, single]
        · exact iff_of_true state.symm ⟨eligible, overlap, single⟩
        · exact fun _ => diagnosed.symm
        · exact fun overlapping => absurd overlapping overlap
        · exact fun none => absurd none absent
        · exact fun _ _ several => absurd single several
      case h_2 several =>
        rw [Prod.mk.injEq, Prod.mk.injEq] at decision
        obtain ⟨state, diagnosed, rfl⟩ := decision
        have aligned := forall₂_unselected state.symm candidates
        have notSingle : maximumCount context rules ≠ 1 := by
          intro single
          rw [← counted, List.length_eq_one_iff] at single
          obtain ⟨index, best⟩ := single
          exact several index best
        refine ⟨⟨rules, List.Perm.refl _, aligned⟩, ?_, ?_, ?_, ?_, ?_, ?_⟩
        · rw [countP_selected_of_forall₂ aligned, ← state]
          rfl
        · simp [← state, notSingle]
        · simp [← state]
        · exact fun overlapping => absurd overlapping overlap
        · exact fun none => absurd none absent
        · exact fun _ _ _ => ⟨state.symm, diagnosed.symm⟩

end Outcome

/-! ### The order of the documents -/

section Order

variable {context : RuleContext} {rules others : List RuleDocument}

theorem attainsMaximum_perm (perm : rules.Perm others) (rule : RuleDocument) :
    AttainsMaximum context rules rule ↔ AttainsMaximum context others rule := by
  unfold AttainsMaximum
  simp only [perm.mem_iff]

theorem overlaps_perm (perm : rules.Perm others) :
    Overlaps context rules ↔ Overlaps context others := by
  unfold Overlaps
  simp only [perm.countP_eq]

theorem maximumCount_perm (perm : rules.Perm others) :
    maximumCount context rules = maximumCount context others := by
  unfold maximumCount
  rw [perm.countP_eq]
  simp only [attainsMaximum_perm perm]

/-- The specification does not depend on the order of the rules. -/
theorem ResolvesAs.of_perm
    {resolution : RuleResolution}
    (resolves : ResolvesAs context rules resolution)
    (perm : rules.Perm others) : ResolvesAs context others resolution := by
  obtain ⟨⟨order, ordered, aligned⟩, selected, valid, undiagnosed, overlap, blocked, tie⟩ := resolves
  simp only [attainsMaximum_perm perm] at aligned
  simp only [overlaps_perm perm, maximumCount_perm perm, perm.mem_iff] at valid overlap blocked tie
  exact ⟨⟨order, ordered.trans perm, aligned⟩, selected, valid, undiagnosed, overlap, blocked, tie⟩

end Order

/-- **Rule resolution characterised.** For valid documents and a valid context,
`resolve_rule` returns the specified resolution. -/
theorem resolveRule_characterised
    {rules : List Json}
    {context : Json}
    {documents : List RuleDocument}
    {accepted : RuleContext}
    (contextValid : validateContext context = .ok accepted)
    (rulesValid : rules.mapM validateRuleDocument = .ok documents) :
    ∃ resolution, resolveRule rules context = .ok resolution ∧
      ResolvesAs accepted documents resolution := by
  unfold resolveRule
  rw [contextValid, rulesValid]
  dsimp only [bind, Except.bind, pure, Except.pure]
  generalize normalizedEq :
    documents.insertionSort (fun left right => left.sortKey ≤ right.sortKey) = normalized
  have sorted : normalized.Perm documents := normalizedEq ▸ List.perm_insertionSort _ _
  obtain ⟨state, diagnosticCode, selected, decision⟩ :
      ∃ state diagnosticCode selected, decideResolution (eligibleRows accepted normalized)
        (normalized.map (candidateOf accepted)) = (state, diagnosticCode, selected) :=
    ⟨_, _, _, rfl⟩
  rw [decision]
  exact ⟨_, rfl, (resolvesAs_of_decision decision rfl).of_perm sorted⟩

/-- A tax rule of one tenant, valid from the start of 2026. -/
def taxRule : Json :=
  .obj [("actor", .str "a"), ("approval_reference", .null), ("base", .str "NONE"),
    ("change_reason", .str "r"),
    ("content_hash", .str "144c1dc2889e62851cbaef96319f3377d1444bdd541d567264266af594bc95cc"),
    ("created_at", .str "2026-01-01T00:00:00Z"), ("currency", .null), ("dependencies", .arr []),
    ("exclusivity_group", .null), ("method", .str "FIXED_VALUE"), ("priority", .int 0),
    ("rule_id", .str "tax"), ("rule_type", .str "TAX"),
    ("scope", .obj [("organization_id", .str "org")]), ("source", .str "s"),
    ("status", .str "ACTIVE"), ("supersedes", .null), ("unit", .str "RATE"),
    ("valid_from", .str "2026-01-01T00:00:00Z"), ("valid_to", .null), ("value", .str "0.06"),
    ("version", .int 1)]

/-- A calculation of the same tenant in June 2026. -/
def juneContext : Json :=
  .obj [("actor", .str "a"), ("calculation_instant", .str "2026-06-01T00:00:00+03:00"),
    ("calculation_profile_id", .str "profile"), ("marketplace", .null),
    ("marketplace_account_id", .null), ("mode", .str "ACTUAL"), ("organization_id", .str "org"),
    ("product_group_id", .null), ("product_id", .null),
    ("resolved_at", .str "2026-06-02T00:00:00Z"), ("scenario_id", .null)]

theorem resolveRule_characterised_tax :
    ∃ documents accepted resolution,
      [taxRule].mapM validateRuleDocument = .ok documents ∧
      validateContext juneContext = .ok accepted ∧
      resolveRule [taxRule] juneContext = .ok resolution ∧
      ResolvesAs accepted documents resolution := by
  obtain ⟨documents, rulesValid⟩ :=
    Checks.exists_eq_ok ([taxRule].mapM validateRuleDocument) (by decide +kernel)
  obtain ⟨accepted, contextValid⟩ :=
    Checks.exists_eq_ok (validateContext juneContext) (by decide +kernel)
  obtain ⟨resolution, resolved, specified⟩ := resolveRule_characterised contextValid rulesValid
  exact ⟨documents, accepted, resolution, rulesValid, contextValid, resolved, specified⟩

end Finance
end QuantumAnalytics
