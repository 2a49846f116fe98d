import Mathlib.Data.List.Forall2

/-!
# Chains of checks

A validator is a chain of checks, each of which raises its own error. These
lemmas read a successful chain as the conjunction of what its links require.
-/

namespace QuantumAnalytics

/-- Raise an error unless a condition holds. -/
def require {ε : Type} (condition : Prop) [Decidable condition] (failure : ε) : Except ε Unit :=
  if condition then .ok () else .error failure

/-- Raise an error unless a value is present. -/
def requireSome {ε α : Type} (value : Option α) (failure : ε) : Except ε α :=
  match value with
  | some present => .ok present
  | none => .error failure

namespace Checks

variable {ε α β : Type}

@[simp] theorem requireSome_eq_ok
    {value : Option α}
    {failure : ε}
    {present : α} :
    requireSome value failure = .ok present ↔ value = some present := by
  cases value <;> simp [requireSome]

@[simp] theorem mapError_eq_ok
    {δ : Type}
    {first : Except ε α}
    {change : ε → δ}
    {value : α} : first.mapError change = .ok value ↔ first = .ok value := by
  cases first <;> simp [Except.mapError]

theorem map_eq_ok
    {result : Except ε α}
    {change : α → β}
    {value : β} : result.map change = .ok value ↔ ∃ before, result = .ok before ∧ change before = value := by
  cases result <;> simp [Except.map]

@[simp] theorem require_eq_ok
    {condition : Prop}
    [Decidable condition]
    {failure : ε}
    {done : Unit} :
    require condition failure = .ok done ↔ condition := by
  unfold require
  split <;> simp_all

@[simp] theorem require_eq_error
    {condition : Prop}
    [Decidable condition]
    {failure raised : ε} :
    require condition failure = .error raised ↔ ¬condition ∧ raised = failure := by
  unfold require
  split <;> simp_all [eq_comm]

theorem ok_bind (value : α) (rest : α → Except ε β) : Except.ok value >>= rest = rest value := rfl

theorem error_bind (raised : ε) (rest : α → Except ε β) :
    Except.error raised >>= rest = .error raised := rfl

/-- What is done with a result is done at the end of its steps. -/
theorem map_bind
    {γ : Type}
    (first : Except ε α)
    (later : α → Except ε β)
    (view : β → γ) : (first >>= later).map view = first >>= fun value => (later value).map view := by
  cases first <;> rfl

/-- Functions that agree after a second one agree on every outcome. -/
theorem map_map_congr
    {γ : Type}
    {read read' : α → β}
    {view : β → γ}
    (same : ∀ value, view (read value) = view (read' value))
    (outcome : Except ε α) : (outcome.map read).map view = (outcome.map read').map view := by
  cases outcome with
  | error failure => rfl
  | ok value => exact congrArg Except.ok (same value)

theorem toOption_bind
    (first : Except ε α)
    (rest : α → Except ε β) :
    (first >>= rest).toOption = first.toOption.bind fun value => (rest value).toOption := by
  cases first <;> rfl

theorem toOption_requireSome
    (value : Option α)
    (failure : ε) : (requireSome value failure).toOption = value := by
  cases value <;> rfl

theorem toOption_mapError
    {δ : Type}
    (first : Except ε α)
    (change : ε → δ) : (first.mapError change).toOption = first.toOption := by
  cases first <;> rfl

/-- A chain succeeds when its first link does and the rest succeeds after it. -/
@[simp] theorem bind_eq_ok
    {first : Except ε α}
    {rest : α → Except ε β}
    {result : β} :
    first >>= rest = .ok result ↔ ∃ value, first = .ok value ∧ rest value = .ok result := by
  cases first with
  | error raised => simp [bind, Except.bind]
  | ok value => simp [bind, Except.bind]

/-- A link that only checks passes nothing on. -/
@[simp high] theorem bind_done_eq_ok
    {first : Except ε Unit}
    {rest : Unit → Except ε β}
    {result : β} :
    first >>= rest = .ok result ↔ first = .ok () ∧ rest () = .ok result :=
  bind_eq_ok.trans ⟨fun ⟨(), checked, passed⟩ => ⟨checked, passed⟩,
    fun ⟨checked, passed⟩ => ⟨(), checked, passed⟩⟩

/-- A chain fails at its first link or after it. -/
theorem bind_eq_error
    {first : Except ε α}
    {rest : α → Except ε β}
    {raised : ε} :
    first >>= rest = .error raised ↔
      first = .error raised ∨ ∃ value, first = .ok value ∧ rest value = .error raised := by
  cases first with
  | error earlier => simp [bind, Except.bind]
  | ok value => simp [bind, Except.bind]

@[simp] theorem pure_eq_ok {value result : α} :
    (pure value : Except ε α) = .ok result ↔ value = result := by
  simp [pure, Except.pure]

/-- A successful result has a value. -/
theorem exists_eq_ok
    (result : Except ε α)
    (succeeded : result.isOk = true) : ∃ value, result = .ok value := by
  cases result with
  | error raised => simp [Except.isOk, Except.toBool] at succeeded
  | ok value => exact ⟨value, rfl⟩

/-- A loop of checks succeeds when each of them does. -/
theorem forM_eq_ok
    {checks : α → Except ε Unit}
    {elements : List α}
    {done : Unit} :
    forM elements checks = .ok done ↔ ∀ element ∈ elements, checks element = .ok () := by
  induction elements with
  | nil => simp
  | cons element elements inductionHypothesis => simp [inductionHypothesis]

/-- A check of every element succeeds when every element passes. -/
@[simp] theorem forM_require_eq_ok
    {condition : α → Prop}
    [DecidablePred condition]
    {failure : α → ε}
    {elements : List α}
    {done : Unit} :
    forM elements (fun element => require (condition element) (failure element)) = .ok done ↔
      ∀ element ∈ elements, condition element := by
  simp [forM_eq_ok]

/-- A loop that collects results succeeds when each of its steps does. -/
theorem mapM_eq_ok
    {step : α → Except ε β}
    {elements : List α}
    {results : List β} :
    elements.mapM step = .ok results ↔
      List.Forall₂ (fun element result => step element = .ok result) elements results := by
  induction elements generalizing results with
  | nil => cases results <;> simp [pure, Except.pure]
  | cons element elements inductionHypothesis =>
      simp only [List.mapM_cons, bind_eq_ok, pure_eq_ok, inductionHypothesis,
        List.forall₂_cons_left_iff]
      constructor
      · rintro ⟨result, stepped, rest, collected, rfl⟩
        exact ⟨result, rest, stepped, collected, rfl⟩
      · rintro ⟨result, rest, stepped, collected, rfl⟩
        exact ⟨result, stepped, rest, collected, rfl⟩

/-- Every element on the right is related to one on the left. -/
theorem exists_left_of_mem
    {related : α → β → Prop}
    {elements : List α}
    {results : List β}
    {result : β}
    (each : List.Forall₂ related elements results)
    (listed : result ∈ results) : ∃ element ∈ elements, related element result := by
  induction each with
  | nil => cases listed
  | @cons element first elements results isRelated _ inductionHypothesis =>
      rcases List.mem_cons.mp listed with rfl | later
      · exact ⟨element, by simp, isRelated⟩
      · obtain ⟨other, member, isRelatedLater⟩ := inductionHypothesis later
        exact ⟨other, List.mem_cons_of_mem element member, isRelatedLater⟩

/-- Every collected result is that of one of the steps. -/
theorem exists_of_mem_mapM
    {step : α → Except ε β}
    {elements : List α}
    {results : List β}
    {result : β}
    (collected : elements.mapM step = .ok results)
    (listed : result ∈ results) : ∃ element ∈ elements, step element = .ok result := by
  have each := mapM_eq_ok.mp collected
  exact @exists_left_of_mem _ _ (fun element result => step element = .ok result) _ _ _ each listed

/-- A loop whose first halves all succeed is the loop of the second halves. -/
theorem mapM_bind_of_eq_ok
    {γ : Type}
    {first : α → Except ε β}
    {elements : List α}
    {results : List β}
    (collected : elements.mapM first = .ok results)
    (second : β → Except ε γ) :
    (elements.mapM fun element => first element >>= second) = results.mapM second := by
  have each := mapM_eq_ok.mp collected
  clear collected
  induction each with
  | nil => rfl
  | cons stepped _ inductionHypothesis =>
      rw [List.mapM_cons, List.mapM_cons, inductionHypothesis, stepped, ok_bind]

/-- A second relation holds along related lists when it holds of related elements. -/
theorem forall₂_iff_of_forall₂
    {first second : α → β → Prop}
    {holds : α → Prop}
    {lefts : List α}
    {rights : List β}
    (related : List.Forall₂ first lefts rights)
    (same : ∀ left right, left ∈ lefts → first left right → (second left right ↔ holds left)) :
    List.Forall₂ second lefts rights ↔ ∀ left ∈ lefts, holds left := by
  induction related with
  | nil => simp
  | @cons left right lefts rights isFirst _ inductionHypothesis =>
      rw [List.forall₂_cons, List.forall_mem_cons, same left right List.mem_cons_self isFirst,
        inductionHypothesis fun other image listed =>
          same other image (List.mem_cons_of_mem left listed)]

/-- A loop that collects results succeeds when each of its steps does. -/
theorem exists_mapM_eq_ok_iff
    {step : α → Except ε β}
    {elements : List α} :
    (∃ results, elements.mapM step = .ok results) ↔
      ∀ element ∈ elements, ∃ result, step element = .ok result := by
  induction elements with
  | nil => simp [pure, Except.pure]
  | cons element elements inductionHypothesis =>
      rw [List.forall_mem_cons, ← inductionHypothesis]
      simp only [List.mapM_cons, bind_eq_ok, pure_eq_ok]
      constructor
      · rintro ⟨-, result, stepped, results, collected, -⟩
        exact ⟨⟨result, stepped⟩, results, collected⟩
      · rintro ⟨⟨result, stepped⟩, results, collected⟩
        exact ⟨_, result, stepped, results, collected, rfl⟩

end Checks
end QuantumAnalytics
