import QuantumAnalytics.Foundations.Isolation

/-!
# Calls on a part of the state

A part isolates an owner when the owner's calls do on it what they do on the whole state
and others leave it alone. Where a call carries more than it reads, the view of it that
is read decides what it does.
-/

namespace QuantumAnalytics
namespace OwnedSystem

variable {σ ι ο κ : Type*} {system : OwnedSystem σ ι ο κ} {owner : κ} {part : σ → σ}
  {view : ι → ι}

/-- What a step does on a part of the state is what it does on the whole state. -/
structure Inside (part : σ → σ) (inside whole : ο × σ) : Prop where
  outcome : inside.1 = whole.1
  part : inside.2 = part whole.2

theorem Inside.refl
    (outcome : ο)
    (state : σ) : Inside part (outcome, part state) (outcome, state) := ⟨rfl, rfl⟩

theorem Inside.map
    {ο' : Type*}
    {inside whole : ο × σ}
    (same : Inside part inside whole)
    (view : ο → ο') : Inside part (view inside.1, inside.2) (view whole.1, whole.2) :=
  ⟨congrArg view same.outcome, same.part⟩

/-- A part on which the owner's calls do what they do on the whole state, and which the
calls of others leave alone, isolates the owner. -/
theorem isolates_of_inside
    (own : ∀ state call, system.owner call = owner →
      Inside part (system.step (part state) call) (system.step state call))
    (other : ∀ state call, system.owner call ≠ owner →
      part (system.step state call).2 = part state) :
    system.Isolates owner part where
  outcome state call isOwn := (own state call isOwn).outcome
  own state call isOwn := (own state call isOwn).part
  other := other

/-! ### Calls that read from outside -/

variable (system) in
/-- A call does what its view does: of what it carries, the rest is never read. -/
structure Reads (view : ι → ι) : Prop where
  owner : ∀ call, system.owner (view call) = system.owner call
  step : ∀ state call, system.step state (view call) = system.step state call

theorem Reads.run_map
    (reads : system.Reads view)
    (state : σ)
    (calls : List ι) : system.run state (calls.map view) = system.run state calls := by
  simp only [run, List.foldl_map, reads.step]

variable [DecidableEq κ]

theorem Reads.callsOf_map
    (reads : system.Reads view)
    (owner : κ)
    (calls : List ι) :
    system.callsOf owner (calls.map view) = (system.callsOf owner calls).map view := by
  simp only [callsOf, List.filter_map, Function.comp_def, reads.owner]

theorem Reads.outcomes_map
    (reads : system.Reads view)
    (owner : κ)
    (state : σ)
    (calls : List ι) :
    system.outcomes owner state (calls.map view) = system.outcomes owner state calls := by
  induction calls generalizing state with
  | nil => rfl
  | cons call calls inductionHypothesis =>
      rw [List.map_cons, outcomes, outcomes, reads.step, reads.owner]
      simp only [inductionHypothesis]

/-- Runs in which the calls of an owner have the same views give it the same outcomes and
leave it the same part. -/
theorem Isolates.noninterference_of_reads
    (isolates : system.Isolates owner part)
    (reads : system.Reads view)
    (state : σ)
    {left right : List ι}
    (same : (system.callsOf owner left).map view = (system.callsOf owner right).map view) :
    system.outcomes owner state left = system.outcomes owner state right ∧
      part (system.run state left) = part (system.run state right) := by
  rw [← reads.callsOf_map, ← reads.callsOf_map] at same
  have seen := isolates.noninterference state same
  rwa [reads.outcomes_map, reads.outcomes_map, reads.run_map, reads.run_map] at seen

end OwnedSystem
end QuantumAnalytics
