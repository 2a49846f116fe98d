import Mathlib.Data.Set.Insert

/-!
# Jobs that wait for each other

A job completes an id and needs other ids to be completed before. If some order
of the jobs is legal, then no order that always takes a ready job gets stuck:
among the jobs that are left, the first one of the legal order is ready.
-/

namespace QuantumAnalytics

/-- How jobs depend on each other. -/
structure Jobs (α ι : Type*) where
  /-- The id that a job completes. -/
  idOf : α → ι
  /-- The ids that have to be completed before. -/
  needs : α → List ι

namespace Jobs

variable {α ι : Type*} (jobs : Jobs α ι)

/-- Everything that a job needs is done. -/
def Ready (done : Set ι) (job : α) : Prop := ∀ id ∈ jobs.needs job, id ∈ done

/-- Each job of the list is ready when its turn comes. -/
def Legal (done : Set ι) : List α → Prop
  | [] => True
  | job :: rest => jobs.Ready done job ∧ Legal (insert (jobs.idOf job) done) rest

variable {jobs} {done : Set ι}

/-- A job that is ready stays ready. -/
theorem Ready.mono
    {now : Set ι}
    {job : α}
    (ready : jobs.Ready done job)
    (grown : done ⊆ now) : jobs.Ready now job :=
  fun id needed => grown (ready id needed)

/-- Where a legal order exists, one of the jobs that are left is ready. -/
theorem Legal.exists_ready
    {order : List α}
    (legal : jobs.Legal done order)
    (now : Set ι)
    (left : α → Prop)
    (grown : done ⊆ now)
    (finished : ∀ job ∈ order, ¬left job → jobs.idOf job ∈ now)
    (some_left : ∃ job ∈ order, left job) :
    ∃ job ∈ order, left job ∧ jobs.Ready now job := by
  induction order generalizing done with
  | nil => simp at some_left
  | cons job rest inductionHypothesis =>
      obtain ⟨ready, legalRest⟩ := legal
      by_cases isLeft : left job
      · exact ⟨job, List.mem_cons_self, isLeft, ready.mono grown⟩
      · have jobDone := finished job List.mem_cons_self isLeft
        obtain ⟨other, present, otherLeft⟩ := some_left
        have inRest : other ∈ rest := by
          refine (List.mem_cons.mp present).resolve_left ?_
          rintro rfl
          exact isLeft otherLeft
        obtain ⟨next, nextPresent, found⟩ := inductionHypothesis legalRest
          (Set.insert_subset jobDone grown)
          (fun job present => finished job (List.mem_cons_of_mem _ present))
          ⟨other, inRest, otherLeft⟩
        exact ⟨next, List.mem_cons_of_mem _ nextPresent, found⟩

end Jobs
end QuantumAnalytics
