import Mathlib.Data.List.Basic

/-!
# Isolation between owners

A system whose calls have owners isolates them when an owner's part of the
state, together with the owner's own calls, determines the outcomes of these
calls and the part after them, and the calls of others leave the part alone.
The owner then sees the same in every run with the same calls of its own.
-/

namespace QuantumAnalytics

/-- A deterministic system with owned calls. -/
structure OwnedSystem (σ ι ο κ : Type*) where
  /-- The outcome of a call and the state after it. -/
  step : σ → ι → ο × σ
  /-- Who makes a call. -/
  owner : ι → κ

namespace OwnedSystem

variable {σ ι ο κ : Type*} (system : OwnedSystem σ ι ο κ)

/-- The state after a sequence of calls. -/
def run (state : σ) (calls : List ι) : σ :=
  calls.foldl (fun state call => (system.step state call).2) state

/-- An owner's part of the state, which its calls act on alone. -/
structure Isolates (owner : κ) (part : σ → σ) : Prop where
  outcome : ∀ state call, system.owner call = owner →
    (system.step (part state) call).1 = (system.step state call).1
  own : ∀ state call, system.owner call = owner →
    (system.step (part state) call).2 = part (system.step state call).2
  other : ∀ state call, system.owner call ≠ owner → part (system.step state call).2 = part state

variable [DecidableEq κ]

/-- The outcomes of an owner's calls in a run. -/
def outcomes (owner : κ) (state : σ) : List ι → List ο
  | [] => []
  | call :: calls =>
      let (outcome, after) := system.step state call
      if system.owner call = owner then outcome :: outcomes owner after calls
      else outcomes owner after calls

/-- The calls of an owner. -/
def callsOf (owner : κ) (calls : List ι) : List ι :=
  calls.filter fun call => system.owner call = owner

variable {system} {owner : κ} {part : σ → σ}

/-- The owner's part of a run is the run of the owner's calls on its part. -/
theorem Isolates.part_run
    (isolates : system.Isolates owner part)
    (state : σ)
    (calls : List ι) :
    part (system.run state calls) = system.run (part state) (system.callsOf owner calls) := by
  induction calls generalizing state with
  | nil => rfl
  | cons call calls inductionHypothesis =>
      have rest := inductionHypothesis (system.step state call).2
      by_cases isOwn : system.owner call = owner
      · simpa [run, callsOf, isOwn, isolates.own state call isOwn] using rest
      · simpa [run, callsOf, isOwn, isolates.other state call isOwn] using rest

/-- The outcomes of the owner's calls are those of a run without the others. -/
theorem Isolates.outcomes_eq
    (isolates : system.Isolates owner part)
    (state : σ)
    (calls : List ι) :
    system.outcomes owner state calls =
      system.outcomes owner (part state) (system.callsOf owner calls) := by
  induction calls generalizing state with
  | nil => rfl
  | cons call calls inductionHypothesis =>
      have rest := inductionHypothesis (system.step state call).2
      by_cases isOwn : system.owner call = owner
      · simpa [outcomes, callsOf, isOwn, isolates.own state call isOwn,
          isolates.outcome state call isOwn] using rest
      · simpa [outcomes, callsOf, isOwn, isolates.other state call isOwn] using rest

/-- Runs with the same calls of an owner give it the same outcomes and leave it
the same part. -/
theorem Isolates.noninterference
    (isolates : system.Isolates owner part)
    (state : σ)
    {left right : List ι}
    (same : system.callsOf owner left = system.callsOf owner right) :
    system.outcomes owner state left = system.outcomes owner state right ∧
      part (system.run state left) = part (system.run state right) := by
  constructor
  · rw [isolates.outcomes_eq state left, isolates.outcomes_eq state right, same]
  · rw [isolates.part_run state left, isolates.part_run state right, same]

end OwnedSystem
end QuantumAnalytics
