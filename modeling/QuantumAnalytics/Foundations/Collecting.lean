import Mathlib.Data.List.Perm.Basic
import Mathlib.Data.List.Sort
import QuantumAnalytics.Foundations.Checks

/-!
# Loops that collect

A loop that rejects some elements and adds what the others contribute to its
state. When what makes it reject an element after another is symmetric in the
two, the loop accepts a list in every order or in none.
-/

namespace QuantumAnalytics
namespace Collecting

variable {ε σ α γ : Type}

/-- What holds of the elements that a loop has seen and of its state. -/
theorem foldlM_seen
    {step : σ → α → Except ε σ}
    (invariant : List α → σ → Prop)
    (preserves : ∀ {seen element state next}, invariant seen state →
      step state element = .ok next → invariant (seen ++ [element]) next)
    {elements : List α}
    {state final : σ}
    (start : invariant [] state)
    (run : elements.foldlM step state = .ok final) : invariant elements final := by
  have general : ∀ seen, invariant seen state → invariant (seen ++ elements) final := by
    clear start
    induction elements generalizing state with
    | nil =>
        intro seen holds
        rw [List.append_nil]
        exact Checks.pure_eq_ok.mp run ▸ holds
    | cons element elements inductionHypothesis =>
        intro seen holds
        rw [List.foldlM_cons, Checks.bind_eq_ok] at run
        obtain ⟨next, stepped, rest⟩ := run
        have after := inductionHypothesis rest (seen ++ [element]) (preserves holds stepped)
        rwa [List.append_assoc, List.singleton_append] at after
  exact general [] start

/-- What a loop body preserves, the loop preserves. -/
theorem foldlM_preserves
    {step : σ → α → Except ε σ}
    {invariant : σ → Prop}
    (preserves : ∀ {state element next}, step state element = .ok next → invariant state →
      invariant next)
    {elements : List α}
    {state final : σ}
    (start : invariant state)
    (run : elements.foldlM step state = .ok final) : invariant final :=
  foldlM_seen (fun _ => invariant) (fun holds stepped => preserves stepped holds) start run

/-- The loop body reads what an element contributes, rejects it if the state does
not admit it, and adds it to the state otherwise. A state that has added something
still admits what it admitted before, as far as that is compatible with it. -/
structure Adds (step : σ → α → Except ε σ) (contribution : α → Except ε γ)
    (admits : σ → γ → Prop) (add : σ → γ → σ) (compatible : γ → γ → Prop) : Prop where
  /-- When the loop body succeeds. -/
  step_eq_ok : ∀ {state element next}, step state element = .ok next ↔
    ∃ part, contribution element = .ok part ∧ admits state part ∧ add state part = next
  /-- What a larger state admits. -/
  admits_add : ∀ {state first second}, admits state first →
    (admits (add state first) second ↔ admits state second ∧ compatible first second)

section Adds

variable {step : σ → α → Except ε σ} {contribution : α → Except ε γ} {admits : σ → γ → Prop}
  {add : σ → γ → σ} {compatible : γ → γ → Prop}

/-- The loop succeeds when every element contributes something, the first state
admits it, and any two contributions are compatible. -/
theorem Adds.foldlM_eq_ok
    (adds : Adds step contribution admits add compatible)
    {elements : List α}
    {state final : σ} :
    elements.foldlM step state = .ok final ↔
      ∃ parts, elements.mapM contribution = .ok parts ∧ (∀ part ∈ parts, admits state part) ∧
        parts.Pairwise compatible ∧ parts.foldl add state = final := by
  induction elements generalizing state with
  | nil => simp [pure, Except.pure]
  | cons element elements inductionHypothesis =>
      simp only [List.foldlM_cons, List.mapM_cons, Checks.bind_eq_ok, Checks.pure_eq_ok,
        inductionHypothesis, adds.step_eq_ok]
      constructor
      · rintro ⟨_, ⟨part, contributed, admitted, rfl⟩, parts, rest, each, pairwise, rfl⟩
        refine ⟨part :: parts, ⟨part, contributed, parts, rest, rfl⟩, ?_, ?_, rfl⟩
        · exact List.forall_mem_cons.mpr ⟨admitted, fun other listed =>
            ((adds.admits_add admitted).mp (each other listed)).1⟩
        · exact List.pairwise_cons.mpr ⟨fun other listed =>
            ((adds.admits_add admitted).mp (each other listed)).2, pairwise⟩
      · rintro ⟨_, ⟨part, contributed, parts, rest, rfl⟩, each, pairwise, rfl⟩
        obtain ⟨admitted, others⟩ := List.forall_mem_cons.mp each
        obtain ⟨compatibleRest, pairwiseRest⟩ := List.pairwise_cons.mp pairwise
        exact ⟨_, ⟨part, contributed, admitted, rfl⟩, parts, rest, fun other listed =>
          (adds.admits_add admitted).mpr ⟨others other listed, compatibleRest other listed⟩,
          pairwiseRest, rfl⟩

/-- What the elements contribute in another order. -/
theorem mapM_of_perm
    {elements others : List α}
    {parts : List γ}
    (perm : elements.Perm others)
    (contributed : elements.mapM contribution = .ok parts) :
    ∃ otherParts, others.mapM contribution = .ok otherParts ∧ parts.Perm otherParts := by
  obtain ⟨otherParts, each, same⟩ :=
    List.perm_comp_forall₂ perm.symm (Checks.mapM_eq_ok.mp contributed)
  exact ⟨otherParts, Checks.mapM_eq_ok.mpr each, same.symm⟩

/-- A loop whose contributions are compatible in both directions accepts its
elements in any order. -/
theorem Adds.foldlM_of_perm
    (adds : Adds step contribution admits add compatible)
    (symmetric : ∀ {first second}, compatible first second → compatible second first)
    {elements others : List α}
    {state final : σ}
    (perm : elements.Perm others)
    (collected : elements.foldlM step state = .ok final) :
    ∃ parts otherParts, elements.mapM contribution = .ok parts ∧ parts.Perm otherParts ∧
      parts.Pairwise compatible ∧ parts.foldl add state = final ∧
      others.foldlM step state = .ok (otherParts.foldl add state) := by
  obtain ⟨parts, contributed, each, pairwise, rfl⟩ := adds.foldlM_eq_ok.mp collected
  obtain ⟨otherParts, otherContributed, same⟩ := mapM_of_perm perm contributed
  refine ⟨parts, otherParts, contributed, same, pairwise, rfl, adds.foldlM_eq_ok.mpr
    ⟨otherParts, otherContributed, fun part listed => each part (same.mem_iff.mpr listed),
      (same.pairwise_iff symmetric).mp pairwise, rfl⟩⟩

/-- Two elements of a list that is accepted contribute something compatible. -/
theorem Adds.pairwise_of_foldlM
    (adds : Adds step contribution admits add compatible)
    {elements : List α}
    {state final : σ}
    (collected : elements.foldlM step state = .ok final) :
    elements.Pairwise fun first second => ∃ firstPart secondPart,
      contribution first = .ok firstPart ∧ contribution second = .ok secondPart ∧
        compatible firstPart secondPart := by
  obtain ⟨parts, contributed, -, pairwise, -⟩ := adds.foldlM_eq_ok.mp collected
  have each := Checks.mapM_eq_ok.mp contributed
  clear contributed collected
  induction each with
  | nil => exact List.Pairwise.nil
  | cons isPart each inductionHypothesis =>
      obtain ⟨first, rest⟩ := List.pairwise_cons.mp pairwise
      refine List.pairwise_cons.mpr ⟨fun other listed => ?_, inductionHypothesis rest⟩
      obtain ⟨part, isListed, isOther⟩ :=
        Checks.exists_left_of_mem (List.Forall₂.flip each) listed
      exact ⟨_, part, isPart, isOther, first part isListed⟩

/-- A loop that rejects what it has seen adds what it sees. -/
theorem adds_unseen
    {step : List γ → α → Except ε (List γ)}
    (step_eq_ok : ∀ seen element next, step seen element = .ok next ↔
      ∃ part, contribution element = .ok part ∧ part ∉ seen ∧ seen ++ [part] = next) :
    Adds step contribution (fun seen part => part ∉ seen) (fun seen part => seen ++ [part])
      (· ≠ ·) where
  step_eq_ok := step_eq_ok _ _ _
  admits_add := by
    intro seen first second _
    rw [List.mem_append, List.mem_singleton, not_or, ne_comm]

end Adds

/-- Reading the pieces of all elements, when each contributes what its pieces give. -/
theorem mapM_flatMap
    {β δ : Type}
    {contribution : α → Except ε γ}
    {pieces : α → List δ}
    {read : δ → Except ε β}
    {results : γ → List β}
    (reads : ∀ {element part}, contribution element = .ok part →
      (pieces element).mapM read = .ok (results part))
    {elements : List α}
    {parts : List γ}
    (contributed : elements.mapM contribution = .ok parts) :
    (elements.flatMap pieces).mapM read = .ok (parts.flatMap results) := by
  have each := Checks.mapM_eq_ok.mp contributed
  clear contributed
  induction each with
  | nil => rfl
  | cons isPart _ inductionHypothesis =>
      rw [List.flatMap_cons, List.flatMap_cons, List.mapM_append, reads isPart, Checks.ok_bind,
        inductionHypothesis, Checks.ok_bind]
      rfl

/-- A list of equal elements is the same in every order. -/
theorem eq_of_perm_of_pairwise_eq
    {elements others : List α}
    (perm : elements.Perm others)
    (equal : elements.Pairwise (· = ·)) : elements = others :=
  List.Perm.eq_of_pairwise (fun _ _ _ _ same _ => same) equal
    ((perm.pairwise_iff Eq.symm).mp equal) perm

/-- Elements with distinct keys have one order by their keys. -/
theorem insertionSort_eq_of_perm
    {κ : Type}
    [LinearOrder κ]
    {key : α → κ}
    {elements others : List α}
    (distinct : (elements.map key).Nodup)
    (perm : elements.Perm others) :
    (elements.insertionSort fun left right => key left ≤ key right) =
      others.insertionSort fun left right => key left ≤ key right := by
  have sorted : ∀ list : List α,
      (list.insertionSort fun left right => key left ≤ key right).Pairwise
        fun left right => key left ≤ key right := fun list =>
    List.pairwise_insertionSort _ _
  have members : ∀ element, element ∈ (elements.insertionSort fun left right => key left ≤ key right) ↔
      element ∈ elements := fun element => (List.perm_insertionSort _ elements).mem_iff
  have same := (List.perm_insertionSort (fun left right => key left ≤ key right) elements).trans
    (perm.trans (List.perm_insertionSort (fun left right => key left ≤ key right) others).symm)
  refine List.Perm.eq_of_pairwise ?_ (sorted elements) (sorted others) same
  intro left right isLeft isRight below above
  have isListed := (members right).mp (same.mem_iff.mpr isRight)
  exact List.inj_on_of_nodup_map distinct ((members left).mp isLeft) isListed
    (le_antisymm below above)

end Collecting
end QuantumAnalytics
