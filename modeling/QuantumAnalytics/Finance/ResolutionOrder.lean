import QuantumAnalytics.Finance.Replay

/-!
# Order and irrelevant rules

A resolution does not depend on the order in which the rules are given, and rules
that are not eligible change neither its state nor its diagnostic code nor the rule
that it selects.
-/

namespace QuantumAnalytics
namespace Finance

/-- The rules that a resolution selects. -/
def RuleResolution.selectedRules (resolution : RuleResolution) : List RuleRef :=
  (resolution.candidates.filter RuleCandidate.selected).map RuleCandidate.rule

/-- Different contents of the rules have different digests. -/
def DistinctDigests (rules : List RuleInput) : Prop :=
  Set.InjOn canonicalJsonHash {content | content ∈ (documentsOf rules).flatMap hashedRule}

/-! ### Order -/

/-- Rules in another order have the same resolution. -/
theorem resolveRule_of_perm
    {rules others : List RuleInput}
    {context : Json}
    {resolution : RuleResolution}
    (distinct : DistinctDigests rules)
    (perm : others.Perm rules)
    (resolved : resolveRule (documentsOf rules) context = .ok resolution) :
    resolveRule (documentsOf others) context = .ok resolution := by
  rw [resolveRule, Checks.bind_eq_ok] at resolved
  obtain ⟨accepted, contextValid, resolved⟩ := resolved
  rw [Checks.bind_eq_ok] at resolved
  obtain ⟨documents, rulesValid, resolved⟩ := resolved
  obtain ⟨reordered, othersValid, samePerm⟩ :=
    List.perm_comp_forall₂ (perm.map RuleInput.document) (Checks.mapM_eq_ok.mp rulesValid)
  have sorted := insertionSort_eq_of_perm distinct
    (isGiven_of_mapM rulesValid fun content listed => listed) samePerm.symm
  have isReordered : (documentsOf others).mapM validateRuleDocument = .ok reordered :=
    Checks.mapM_eq_ok.mpr othersValid
  rw [resolveRule, contextValid, isReordered, Checks.ok_bind, Checks.ok_bind, ← sorted]
  exact resolved

/-! ### Irrelevant rules -/

/-- A resolution that was returned is the specified one. -/
theorem resolvesAs_of_resolveRule
    {rules : List Json}
    {context : Json}
    {resolution : RuleResolution}
    (resolved : resolveRule rules context = .ok resolution) :
    ∃ accepted documents, validateContext context = .ok accepted ∧
      rules.mapM validateRuleDocument = .ok documents ∧
      ResolvesAs accepted documents resolution := by
  obtain ⟨accepted, documents, selected, contextValid, rulesValid, decision, candidates, -⟩ :=
    resolveRule_spec resolved
  exact ⟨accepted, documents, contextValid, rulesValid,
    (resolvesAs_of_decision decision candidates).of_perm (List.perm_insertionSort _ _)⟩

/-- Valid rules have a resolution in a valid context. -/
theorem exists_resolveRule
    {rules : List Json}
    {context : Json}
    {accepted : RuleContext}
    {documents : List RuleDocument}
    (contextValid : validateContext context = .ok accepted)
    (rulesValid : rules.mapM validateRuleDocument = .ok documents) :
    ∃ resolution, resolveRule rules context = .ok resolution := by
  rw [resolveRule, contextValid, rulesValid]
  exact ⟨_, rfl⟩

section Irrelevant

variable {context : RuleContext} {rules more : List RuleDocument}
  (irrelevant : ∀ rule ∈ more, ¬Eligible context rule)

include irrelevant

/-- Irrelevant rules have no influence on which rule is first. -/
theorem attainsMaximum_append (rule : RuleDocument) :
    AttainsMaximum context (rules ++ more) rule ↔ AttainsMaximum context rules rule := by
  refine and_congr_right fun _ => ⟨fun first other listed => ?_, fun first other listed => ?_⟩
  · exact first other (List.mem_append_left _ listed)
  · rcases List.mem_append.mp listed with old | new
    · exact first other old
    · exact fun eligible => absurd eligible (irrelevant other new)

/-- The rules that are first are the same ones. -/
theorem filter_attainsMaximum_append :
    (rules ++ more).filter (fun rule => AttainsMaximum context (rules ++ more) rule) =
      rules.filter fun rule => AttainsMaximum context rules rule := by
  have none : more.filter (fun rule => AttainsMaximum context rules rule) = [] := by
    rw [List.filter_eq_nil_iff]
    intro rule listed
    rw [decide_eq_true_eq]
    exact fun first => irrelevant rule listed first.1
  simp only [attainsMaximum_append irrelevant, List.filter_append, none, List.append_nil]

theorem maximumCount_append :
    maximumCount context (rules ++ more) = maximumCount context rules := by
  unfold maximumCount
  rw [List.countP_eq_length_filter, filter_attainsMaximum_append irrelevant,
    ← List.countP_eq_length_filter]

theorem overlaps_append : Overlaps context (rules ++ more) ↔ Overlaps context rules := by
  refine exists_congr fun group => ?_
  have none : more.countP (fun rule =>
      Eligible context rule ∧ rule.exclusivityGroup = some group) = 0 := by
    rw [List.countP_eq_zero]
    intro rule listed
    rw [decide_eq_true_eq]
    exact fun counted => irrelevant rule listed counted.1
  rw [List.countP_append, none, Nat.add_zero]

end Irrelevant

/-- The selected rules of a valid resolution are those that are first. -/
theorem selectedRules_of_forall₂
    {context : RuleContext}
    {rules order : List RuleDocument}
    {isValid : Prop}
    {candidates : List RuleCandidate}
    (aligned : List.Forall₂ (fun rule candidate =>
      candidate.rule = rule.ref ∧ (candidate.eligible = true ↔ Eligible context rule) ∧
        (candidate.selected = true ↔ isValid ∧ AttainsMaximum context rules rule))
      order candidates)
    (valid : isValid) :
    (candidates.filter RuleCandidate.selected).map RuleCandidate.rule =
      (order.filter fun rule => AttainsMaximum context rules rule).map RuleDocument.ref := by
  induction aligned with
  | nil => rfl
  | @cons rule candidate order candidates matching _ inductionHypothesis =>
      obtain ⟨isRule, -, isSelected⟩ := matching
      by_cases first : AttainsMaximum context rules rule
      · rw [List.filter_cons_of_pos (isSelected.mpr ⟨valid, first⟩),
          List.filter_cons_of_pos (by simpa using first), List.map_cons, List.map_cons, isRule,
          inductionHypothesis]
      · rw [List.filter_cons_of_neg fun selected => first (isSelected.mp selected).2,
          List.filter_cons_of_neg (by simpa using first), inductionHypothesis]

/-- A list of one element is equal to its permutations. -/
theorem eq_of_perm_of_length
    {α : Type}
    {left right : List α}
    (perm : left.Perm right)
    (one : right.length = 1) : left = right := by
  obtain ⟨element, rfl⟩ := List.length_eq_one_iff.mp one
  exact List.perm_singleton.mp perm

/-- The selected rules of a specified resolution. -/
theorem ResolvesAs.selectedRules_eq
    {context : RuleContext}
    {rules : List RuleDocument}
    {resolution : RuleResolution}
    (resolves : ResolvesAs context rules resolution) :
    resolution.selectedRules =
      if resolution.state = .valid then
        (rules.filter fun rule => AttainsMaximum context rules rule).map RuleDocument.ref
      else [] := by
  obtain ⟨⟨order, perm, aligned⟩, selected, valid, -⟩ := resolves
  split
  next isValid =>
    have one := (valid.mp isValid).2.2
    rw [maximumCount, List.countP_eq_length_filter] at one
    rw [RuleResolution.selectedRules, selectedRules_of_forall₂ aligned isValid,
      eq_of_perm_of_length (perm.filter _) one]
  next invalid =>
    rw [if_neg invalid, List.countP_eq_length_filter, List.length_eq_zero_iff] at selected
    rw [RuleResolution.selectedRules, selected, List.map_nil]

/-- Irrelevant rules do not change what is resolved. -/
theorem ResolvesAs.same_of_append
    {context : RuleContext}
    {rules more : List RuleDocument}
    {resolution extended : RuleResolution}
    (resolves : ResolvesAs context rules resolution)
    (resolvesMore : ResolvesAs context (rules ++ more) extended)
    (eligible : ∃ rule ∈ rules, Eligible context rule)
    (irrelevant : ∀ rule ∈ more, ¬Eligible context rule) :
    extended.state = resolution.state ∧ extended.diagnosticCode = resolution.diagnosticCode ∧
      extended.selectedRules = resolution.selectedRules := by
  have eligibleMore : ∃ rule ∈ rules ++ more, Eligible context rule := by
    obtain ⟨rule, listed, isEligible⟩ := eligible
    exact ⟨rule, List.mem_append_left _ listed, isEligible⟩
  have outcome : extended.state = resolution.state ∧
      extended.diagnosticCode = resolution.diagnosticCode := by
    by_cases overlap : Overlaps context rules
    · obtain ⟨state, diagnostic⟩ := resolves.overlap overlap
      obtain ⟨stateMore, diagnosticMore⟩ :=
        resolvesMore.overlap ((overlaps_append irrelevant).mpr overlap)
      exact ⟨stateMore.trans state.symm, diagnosticMore.trans diagnostic.symm⟩
    · have overlapMore := mt (overlaps_append irrelevant).mp overlap
      by_cases one : maximumCount context rules = 1
      · have isValid := resolves.valid.mpr ⟨eligible, overlap, one⟩
        have isValidMore := resolvesMore.valid.mpr
          ⟨eligibleMore, overlapMore, (maximumCount_append irrelevant).trans one⟩
        exact ⟨isValidMore.trans isValid.symm, (resolvesMore.undiagnosed isValidMore).trans
          (resolves.undiagnosed isValid).symm⟩
      · obtain ⟨state, diagnostic⟩ := resolves.tie eligible overlap one
        obtain ⟨stateMore, diagnosticMore⟩ := resolvesMore.tie eligibleMore overlapMore
          ((maximumCount_append irrelevant).trans_ne one)
        exact ⟨stateMore.trans state.symm, diagnosticMore.trans diagnostic.symm⟩
  refine ⟨outcome.1, outcome.2, ?_⟩
  rw [resolves.selectedRules_eq, resolvesMore.selectedRules_eq, outcome.1,
    filter_attainsMaximum_append irrelevant]

/-- **Rule resolution ignores order and irrelevant rules.** Rules in any order have
the same resolution, if different contents have different digests. Rules that are not
eligible, put anywhere among others of which one is eligible, change neither the state
nor the diagnostic code nor the selected rule. -/
theorem resolveRule_ignoresOrderAndIrrelevant (rules : List RuleInput) (context : Json) :
    (DistinctDigests rules → ∀ others resolution, others.Perm rules →
      resolveRule (documentsOf rules) context = .ok resolution →
        resolveRule (documentsOf others) context = .ok resolution) ∧
    ∀ accepted documents more moreDocuments all resolution,
      validateContext context = .ok accepted →
      (documentsOf rules).mapM validateRuleDocument = .ok documents →
      (documentsOf more).mapM validateRuleDocument = .ok moreDocuments →
      (∃ rule ∈ documents, Eligible accepted rule) →
      (∀ rule ∈ moreDocuments, ¬Eligible accepted rule) →
      all.Perm (rules ++ more) →
      resolveRule (documentsOf rules) context = .ok resolution →
        ∃ extended, resolveRule (documentsOf all) context = .ok extended ∧
          extended.state = resolution.state ∧
          extended.diagnosticCode = resolution.diagnosticCode ∧
          extended.selectedRules = resolution.selectedRules := by
  refine ⟨fun distinct others resolution perm resolved =>
    resolveRule_of_perm distinct perm resolved, ?_⟩
  intro accepted documents more moreDocuments all resolution contextValid rulesValid moreValid
    eligible irrelevant perm resolved
  obtain ⟨_, _, isContext, areRules, resolves⟩ := resolvesAs_of_resolveRule resolved
  obtain rfl := Except.ok.inj (contextValid.symm.trans isContext)
  obtain rfl := Except.ok.inj (rulesValid.symm.trans areRules)
  have both : (documentsOf (rules ++ more)).mapM validateRuleDocument =
      .ok (documents ++ moreDocuments) := by
    rw [Checks.mapM_eq_ok, documentsOf, List.map_append]
    exact List.rel_append (Checks.mapM_eq_ok.mp rulesValid) (Checks.mapM_eq_ok.mp moreValid)
  obtain ⟨allDocuments, allValid, allPerm⟩ :=
    List.perm_comp_forall₂ (perm.map RuleInput.document) (Checks.mapM_eq_ok.mp both)
  obtain ⟨extended, isExtended⟩ :=
    exists_resolveRule contextValid (Checks.mapM_eq_ok.mpr allValid)
  obtain ⟨_, _, isContext, areAll, resolvesAll⟩ := resolvesAs_of_resolveRule isExtended
  obtain rfl := Except.ok.inj (contextValid.symm.trans isContext)
  obtain rfl := Except.ok.inj ((Checks.mapM_eq_ok.mpr allValid).symm.trans areAll)
  exact ⟨extended, isExtended,
    resolves.same_of_append (resolvesAll.of_perm allPerm) eligible irrelevant⟩

end Finance
end QuantumAnalytics
