import QuantumAnalytics.Infrastructure.ImmutablePut

/-!
# Safety of concurrent puts

While no call opens the temporary file of another one, the file belongs to the call
that created it until that call has removed it. So the calls only share the published
object, which is linked once and not written again. A call that does meet the temporary
file removes it, and both calls fail.
-/

namespace QuantumAnalytics
namespace ImmutablePut

section Calls

variable {Path : Type} {paths : PutPaths Path}

/-! ### One call -/

/-- The call has created the temporary file and not removed it. -/
def PutPhase.owns : PutPhase → Bool
  | .writing _ _ | .publish | .compareRaced | .cleanup _ => true
  | _ => false

/-- The files give a reason for a result. -/
def Justified (paths : PutPaths Path) (call : PutCall) (files : FileSystem Path) :
    PutResult → Prop
  | .ok () => ∃ content, files.read? paths.destination = some content ∧
      Sha256.hexdigestOfBytes content = call.expectedSha256
  | .error .digestInvalid => call.isDigest = false
  | .error .digestMismatch => call.actual ≠ call.expectedSha256
  | .error .immutableObjectConflict => ∃ content, files.read? paths.destination = some content ∧
      Sha256.hexdigestOfBytes content ≠ call.expectedSha256
  | .error .fileExistsError => False
  | .error .fileNotFoundError => False

/-- The published object is there. -/
def IsPublished (paths : PutPaths Path) (files : FileSystem Path) : Prop :=
  ∃ content, files.read? paths.destination = some content

/-- The temporary file is named by an inode of its own. -/
def HoldsTemporary (paths : PutPaths Path) (files : FileSystem Path) (inode : Nat) : Prop :=
  files.names paths.temporary = some inode ∧ files.names paths.destination ≠ some inode

/-- What the files hold for a call. -/
def PhaseHolds (paths : PutPaths Path) (call : PutCall) (files : FileSystem Path) :
    PutPhase → Prop
  | .start | .lookup | .openTemporary => True
  | .compareExisting => IsPublished paths files
  | .writing inode remaining => HoldsTemporary paths files inode ∧
      files.content inode ++ remaining.flatten = call.bytes
  | .publish => call.actual = call.expectedSha256 ∧ ∃ inode, HoldsTemporary paths files inode ∧
      files.content inode = call.bytes
  | .compareRaced => files.names paths.temporary ≠ none ∧ IsPublished paths files
  | .cleanup result => files.names paths.temporary ≠ none ∧ Justified paths call files result
  | .done result => Justified paths call files result

/-- What is published stays. -/
def Keeps (paths : PutPaths Path) (files after : FileSystem Path) : Prop :=
  ∀ content, files.read? paths.destination = some content →
    after.read? paths.destination = some content

variable {call : PutCall} {files after : FileSystem Path} {phase next : PutPhase}

theorem Keeps.justified
    {result : PutResult}
    (keeps : Keeps paths files after)
    (justified : Justified paths call files result) : Justified paths call after result := by
  match result with
  | .ok () =>
      obtain ⟨content, found, same⟩ := justified
      exact ⟨content, keeps content found, same⟩
  | .error .digestInvalid => exact justified
  | .error .digestMismatch => exact justified
  | .error .immutableObjectConflict =>
      obtain ⟨content, found, other⟩ := justified
      exact ⟨content, keeps content found, other⟩
  | .error .fileExistsError => exact justified.elim
  | .error .fileNotFoundError => exact justified.elim

/-- A call that does not own the temporary file only looks at the published object. -/
theorem Keeps.phaseHolds
    (keeps : Keeps paths files after)
    (holds : PhaseHolds paths call files phase)
    (free : phase.owns = false) : PhaseHolds paths call after phase := by
  cases phase with
  | start => trivial
  | lookup => trivial
  | openTemporary => trivial
  | compareExisting =>
      obtain ⟨content, found⟩ := holds
      exact ⟨content, keeps content found⟩
  | done result => exact keeps.justified holds
  | writing inode remaining => cases free
  | publish => cases free
  | compareRaced => cases free
  | cleanup result => cases free

/-- An owner's file is there. -/
theorem PhaseHolds.names_ne_none
    (holds : PhaseHolds paths call files phase)
    (owner : phase.owns = true) : files.names paths.temporary ≠ none := by
  cases phase with
  | writing inode remaining =>
      rw [holds.1.1]
      exact Option.some_ne_none inode
  | publish =>
      obtain ⟨-, inode, holdsTemporary, -⟩ := holds
      rw [holdsTemporary.1]
      exact Option.some_ne_none inode
  | compareRaced => exact holds.1
  | cleanup result => exact holds.1
  | start => cases owner
  | lookup => cases owner
  | openTemporary => cases owner
  | compareExisting => cases owner
  | done result => cases owner

/-- The comparison with a published object gives a reason. -/
theorem justified_compare
    (published : IsPublished paths files) : Justified paths call files (compare paths call files) := by
  obtain ⟨content, found⟩ := published
  unfold compare
  rw [found]
  dsimp only
  split
  next same => exact ⟨content, found, same⟩
  next other => exact ⟨content, found, other⟩

/-- What a step does to the files and to what they hold. -/
structure StepHolds (paths : PutPaths Path) (call : PutCall) (files after : FileSystem Path)
    (phase next : PutPhase) : Prop where
  allocated : after.Allocated
  keeps : Keeps paths files after
  /-- Only an object with the promised bytes is published. -/
  published : ∀ content, after.read? paths.destination = some content →
    files.read? paths.destination = some content ∨
      content = call.bytes ∧ call.actual = call.expectedSha256
  holds : PhaseHolds paths call after next
  /-- The temporary file is taken when there is none. -/
  owner : next.owns = true → phase.owns = true ∨ files.names paths.temporary = none
  /-- Only an owner changes the files, or a call that finds no temporary file. -/
  unchanged : phase.owns = false → files.names paths.temporary ≠ none → after = files

/-- A step that leaves the files. -/
theorem StepHolds.same
    (allocated : files.Allocated)
    (holds : PhaseHolds paths call files next)
    (owner : next.owns = true → phase.owns = true) :
    StepHolds paths call files files phase next :=
  ⟨allocated, fun _ => id, fun _ => .inl, holds, fun owns => .inl (owner owns), fun _ _ => rfl⟩

variable [DecidableEq Path]

/-- A step of a call that does not meet a temporary file. -/
theorem stepHolds
    (allocated : files.Allocated)
    (holds : PhaseHolds paths call files phase)
    (alone : phase = .openTemporary → files.names paths.temporary = none)
    (isStep : putStep paths call files phase = (after, next)) :
    StepHolds paths call files after phase next := by
  cases phase with
  | start =>
      obtain ⟨rfl, rfl⟩ := Prod.mk.inj isStep
      refine StepHolds.same allocated ?_ ?_
      · split
        next => trivial
        next invalid => exact Bool.eq_false_of_not_eq_true invalid
      · split <;> exact fun owns => by cases owns
  | lookup =>
      obtain ⟨rfl, rfl⟩ := Prod.mk.inj isStep
      refine StepHolds.same allocated ?_ ?_
      · split
        next found => exact Option.isSome_iff_exists.mp found
        next => trivial
      · split <;> exact fun owns => by cases owns
  | compareExisting =>
      obtain ⟨rfl, rfl⟩ := Prod.mk.inj isStep
      exact StepHolds.same allocated (justified_compare holds) fun owns => by cases owns
  | openTemporary =>
      have none := alone rfl
      simp only [putStep, none] at isStep
      obtain ⟨rfl, rfl⟩ := Prod.mk.inj isStep
      have same : (files.create paths.temporary).read? paths.destination =
          files.read? paths.destination := allocated.read?_create paths.ne.symm
      refine ⟨allocated.create, fun content found => same.trans found,
        fun content found => .inl (same.symm.trans found), ⟨⟨FileSystem.names_create_self, ?_⟩, ?_⟩,
        fun _ => .inr none, fun _ present => absurd none present⟩
      · rw [FileSystem.names_create_of_ne paths.ne.symm]
        exact fun named => absurd (allocated _ _ named) (Nat.lt_irrefl _)
      · rw [FileSystem.content_create_self]
        rfl
  | writing inode remaining =>
      obtain ⟨holdsTemporary, bytes⟩ := holds
      cases remaining with
      | nil =>
          obtain ⟨rfl, rfl⟩ := Prod.mk.inj isStep
          refine StepHolds.same allocated ?_ fun _ => rfl
          rw [List.flatten_nil, List.append_nil] at bytes
          split
          next same => exact ⟨same, inode, holdsTemporary, bytes⟩
          next other => exact ⟨by simp [holdsTemporary.1], other⟩
      | cons block remaining =>
          obtain ⟨rfl, rfl⟩ := Prod.mk.inj isStep
          have same : (files.append inode block).read? paths.destination =
              files.read? paths.destination := FileSystem.read?_append_of_ne holdsTemporary.2
          refine ⟨allocated.append, fun content found => same.trans found,
            fun content found => .inl (same.symm.trans found), ⟨holdsTemporary, ?_⟩,
            fun _ => .inl rfl, fun free => by cases free⟩
          rw [FileSystem.content_append_self, List.append_assoc, ← List.flatten_cons, bytes]
  | publish =>
      obtain ⟨promised, inode, holdsTemporary, bytes⟩ := holds
      simp only [putStep, holdsTemporary.1] at isStep
      split at isStep
      next found =>
        obtain ⟨rfl, rfl⟩ := Prod.mk.inj isStep
        exact StepHolds.same allocated
          ⟨by simp [holdsTemporary.1], Option.isSome_iff_exists.mp found⟩ fun _ => rfl
      next missing =>
        obtain ⟨rfl, rfl⟩ := Prod.mk.inj isStep
        rw [Option.not_isSome_iff_eq_none] at missing
        have linked : (files.link inode paths.destination).read? paths.destination =
            some call.bytes := by
          rw [FileSystem.read?_link_self, bytes]
        refine ⟨allocated.link holdsTemporary.1, fun content found => ?_, fun content found => ?_,
          ⟨?_, call.bytes, linked, promised⟩, fun _ => .inl rfl, fun free => by cases free⟩
        · rw [missing] at found
          cases found
        · exact .inr ⟨Option.some.inj (found.symm.trans linked), promised⟩
        · rw [FileSystem.names_link_of_ne paths.ne]
          simp [holdsTemporary.1]
  | compareRaced =>
      obtain ⟨rfl, rfl⟩ := Prod.mk.inj isStep
      exact StepHolds.same allocated ⟨holds.1, justified_compare holds.2⟩ fun _ => rfl
  | cleanup result =>
      obtain ⟨rfl, rfl⟩ := Prod.mk.inj isStep
      have same : (files.unlink paths.temporary).read? paths.destination =
          files.read? paths.destination := FileSystem.read?_unlink_of_ne paths.ne.symm
      have keeps : Keeps paths files (files.unlink paths.temporary) :=
        fun content found => same.trans found
      exact ⟨allocated.unlink, keeps, fun content found => .inl (same.symm.trans found),
        keeps.justified holds.2, (fun owns => by cases owns), fun free => by cases free⟩
  | done result =>
      obtain ⟨rfl, rfl⟩ := Prod.mk.inj isStep
      exact StepHolds.same allocated holds id

/-! ### The steps that a call has left -/

/-- The most steps that a call can take until it is done. -/
def PutPhase.remaining (call : PutCall) : PutPhase → Nat
  | .start => call.blocks.length + 7
  | .lookup => call.blocks.length + 6
  | .openTemporary => call.blocks.length + 5
  | .writing _ blocks => blocks.length + 4
  | .publish => 3
  | .compareRaced => 2
  | .cleanup _ => 1
  | .compareExisting => 1
  | .done _ => 0

theorem remaining_putStep_le
    (paths : PutPaths Path)
    (call : PutCall)
    (files : FileSystem Path)
    (phase : PutPhase) :
    (putStep paths call files phase).2.remaining call ≤ phase.remaining call - 1 := by
  cases phase with
  | start =>
      dsimp only [putStep]
      split <;> simp [PutPhase.remaining]
  | lookup =>
      dsimp only [putStep]
      split <;> simp [PutPhase.remaining]
  | compareExisting => exact Nat.le_refl _
  | openTemporary =>
      dsimp only [putStep]
      split <;> simp [PutPhase.remaining]
  | writing inode blocks =>
      cases blocks with
      | nil =>
          dsimp only [putStep]
          split <;> simp [PutPhase.remaining]
      | cons block blocks => simp [putStep, PutPhase.remaining]
  | publish =>
      dsimp only [putStep]
      split
      next => simp [PutPhase.remaining]
      next => split <;> simp [PutPhase.remaining]
  | compareRaced => exact Nat.le_refl _
  | cleanup result => exact Nat.le_refl _
  | done result => exact Nat.le_refl _

theorem exists_done_of_remaining
    (none : phase.remaining call = 0) : ∃ result, phase = .done result := by
  cases phase with
  | done result => exact ⟨result, rfl⟩
  | _ => simp [PutPhase.remaining] at none

end Calls

/-! ### All calls -/

section Runs

variable {Path Call : Type} {paths : PutPaths Path} {calls : Call → PutCall}
  {first : FileSystem Path} {state : PutState Call Path}

/-- What holds in every state of a run. -/
structure Invariant (paths : PutPaths Path) (calls : Call → PutCall) (first : FileSystem Path)
    (state : PutState Call Path) : Prop where
  allocated : state.files.Allocated
  keeps : Keeps paths first state.files
  published : ∀ content, state.files.read? paths.destination = some content →
    first.read? paths.destination = some content ∨
      ∃ call, content = (calls call).bytes ∧ (calls call).actual = (calls call).expectedSha256
  phase : ∀ call, PhaseHolds paths (calls call) state.files (state.phase call)
  /-- There is one owner at most. -/
  owner : ∀ call other, (state.phase call).owns = true → (state.phase other).owns = true →
    call = other

theorem invariant_initial
    (calls : Call → PutCall)
    (allocated : first.Allocated) : Invariant paths calls first (initial first) :=
  ⟨allocated, fun _ => id, fun _ => .inl, fun _ => trivial, fun _ _ owns => by cases owns⟩

variable [DecidableEq Path] [DecidableEq Call]

/-- A step that does not meet a temporary file keeps the invariant and what is published. -/
theorem Invariant.step
    (invariant : Invariant paths calls first state)
    {call : Call}
    (alone : FindsNoTemporary paths state call) :
    Invariant paths calls first (state.step paths calls call) ∧
      Keeps paths state.files (state.step paths calls call).files := by
  unfold PutState.step
  cases isStep : putStep paths (calls call) state.files (state.phase call) with
  | mk after next =>
      obtain ⟨allocated, keeps, published, phase, owner, unchanged⟩ :=
        stepHolds invariant.allocated (invariant.phase call) alone isStep
      dsimp only
      refine ⟨⟨allocated, fun content found => keeps content (invariant.keeps content found),
        fun content found => ?_, fun other => ?_, fun left right => ?_⟩, keeps⟩
      · rcases published content found with old | new
        · exact invariant.published content old
        · exact .inr ⟨call, new⟩
      · dsimp only
        by_cases same : other = call
        · subst same
          rwa [Function.update_self]
        · rw [Function.update_of_ne same]
          cases owns : (state.phase other).owns with
          | false => exact keeps.phaseHolds (invariant.phase other) owns
          | true =>
              have free : (state.phase call).owns = false := by
                by_contra owning
                rw [Bool.not_eq_false] at owning
                exact same (invariant.owner other call owns owning)
              rw [unchanged free ((invariant.phase other).names_ne_none owns)]
              exact invariant.phase other
      · -- A call that becomes the owner found no temporary file, so there was no owner.
        have single : ∀ other, other ≠ call → (state.phase other).owns = true →
            next.owns = true → False := by
          intro other ne owns owning
          rcases owner owning with before | none
          · exact ne (invariant.owner other call owns before)
          · exact (invariant.phase other).names_ne_none owns none
        dsimp only
        by_cases isLeft : left = call <;> by_cases isRight : right = call
        · exact fun _ _ => isLeft.trans isRight.symm
        · subst isLeft
          rw [Function.update_self, Function.update_of_ne isRight]
          exact fun owning owns => (single right isRight owns owning).elim
        · subst isRight
          rw [Function.update_self, Function.update_of_ne isLeft]
          exact fun owns owning => (single left isLeft owns owning).elim
        · rw [Function.update_of_ne isLeft, Function.update_of_ne isRight]
          exact invariant.owner left right

/-- A run in which no call meets a temporary file. -/
theorem Invariant.run
    {schedule : List Call}
    (invariant : Invariant paths calls first state)
    (alone : NeverMeet paths calls state schedule) :
    Invariant paths calls first (state.run paths calls schedule) ∧
      Keeps paths state.files (state.run paths calls schedule).files := by
  induction schedule generalizing state with
  | nil => exact ⟨invariant, fun _ => id⟩
  | cons call schedule inductionHypothesis =>
      obtain ⟨isAlone, rest⟩ := alone
      obtain ⟨next, keeps⟩ := invariant.step isAlone
      obtain ⟨last, keepsLast⟩ := inductionHypothesis next rest
      exact ⟨last, fun content found => keepsLast content (keeps content found)⟩

/-- Each step of its own brings a call nearer to its end. -/
theorem remaining_run_le
    (paths : PutPaths Path)
    (calls : Call → PutCall)
    (state : PutState Call Path)
    (schedule : List Call)
    (call : Call) :
    ((state.run paths calls schedule).phase call).remaining (calls call) ≤
      (state.phase call).remaining (calls call) - schedule.count call := by
  induction schedule generalizing state with
  | nil => exact Nat.le_refl _
  | cons first schedule inductionHypothesis =>
      have rest := inductionHypothesis (state.step paths calls first)
      have next : ((state.step paths calls first).phase call).remaining (calls call) ≤
          (state.phase call).remaining (calls call) - if first = call then 1 else 0 := by
        by_cases same : first = call
        · subst same
          simpa [PutState.step] using
            remaining_putStep_le paths (calls first) state.files (state.phase first)
        · simp [PutState.step, Function.update_of_ne (Ne.symm same), same]
      rw [PutState.run, List.foldl_cons, List.count_cons]
      simp only [PutState.run, beq_iff_eq] at rest ⊢
      omega

/-- **Concurrent puts do not disturb each other** in a run in which no call opens the
temporary file while it exists. -/
theorem undisturbed_of_neverMeet
    (calls : Call → PutCall)
    {files : FileSystem Path}
    (allocated : files.Allocated)
    {schedule : List Call}
    (alone : NeverMeet paths calls (initial files) schedule) :
    Undisturbed paths calls files schedule := by
  obtain ⟨invariant, -⟩ := (invariant_initial calls allocated).run alone
  refine ⟨fun call enough => ?_, fun call result isDone valid right found => ?_,
    fun call error isDone => ?_, invariant.published, fun later content found aloneLater => ?_⟩
  · have steps := remaining_run_le paths calls (initial files) schedule call
    have most : ((initial files : PutState Call Path).phase call).remaining (calls call) =
        (calls call).blocks.length + 7 := rfl
    exact @exists_done_of_remaining (calls call) _ (by omega)
  · have holds := invariant.phase call
    rw [isDone] at holds
    match result with
    | .ok () => rfl
    | .error .digestInvalid => exact absurd (valid.symm.trans holds) (by decide)
    | .error .digestMismatch => exact absurd right holds
    | .error .immutableObjectConflict =>
        obtain ⟨content, isFound, other⟩ := holds
        exact absurd (found content isFound) other
    | .error .fileExistsError => exact holds.elim
    | .error .fileNotFoundError => exact holds.elim
  · have holds := invariant.phase call
    rw [isDone] at holds
    constructor
    · rintro rfl
      exact holds
    · rintro rfl
      exact holds
  · rw [PutState.run, List.foldl_append]
    exact (invariant.run aloneLater).2 content found

end Runs

/-! ### Two calls with the same bytes -/

/-- The published object and the temporary file. -/
def twoPaths : PutPaths Bool := ⟨true, false, by decide⟩

/-- No files. -/
def noFiles : FileSystem Bool := ⟨fun _ => none, fun _ => [], 0⟩

/-- Two calls that put one letter. -/
def letterCalls (_ : Bool) : PutCall := ⟨[[97]], Sha256.hexdigestOfBytes [97]⟩

instance decidableNeverMeet
    {Path Call : Type}
    [DecidableEq Path]
    [DecidableEq Call]
    (paths : PutPaths Path)
    (calls : Call → PutCall) :
    (state : PutState Call Path) → (schedule : List Call) →
      Decidable (NeverMeet paths calls state schedule)
  | _, [] => .isTrue trivial
  | state, call :: schedule =>
      have := decidableNeverMeet paths calls (state.step paths calls call) schedule
      inferInstanceAs (Decidable ((state.phase call = .openTemporary →
        state.files.names paths.temporary = none) ∧ _))

/-- One call after the other. -/
theorem undisturbed_of_neverMeet_twice :
    Undisturbed twoPaths letterCalls noFiles
      (List.replicate 8 false ++ List.replicate 8 true) :=
  undisturbed_of_neverMeet letterCalls (fun _ _ named => by cases named) (by decide +kernel)

/-- The second call opens the temporary file of the first one and removes it: both fail,
and nothing is published. -/
theorem not_undisturbed_meeting :
    let schedule := List.replicate 3 false ++ List.replicate 5 true ++ List.replicate 5 false
    let state := (initial noFiles).run twoPaths letterCalls schedule
    state.phase true = .done (.error .fileExistsError) ∧
      state.phase false = .done (.error .fileNotFoundError) ∧
      state.files.read? true = none ∧ ¬Undisturbed twoPaths letterCalls noFiles schedule := by
  have met : ((initial noFiles).run twoPaths letterCalls
      (List.replicate 3 false ++ List.replicate 5 true ++ List.replicate 5 false)).phase true =
        .done (.error .fileExistsError) := by
    decide +kernel
  refine ⟨met, by decide +kernel, by decide +kernel, fun undisturbed => ?_⟩
  exact (undisturbed.ownFiles true _ met).1 rfl

end ImmutablePut
end QuantumAnalytics
