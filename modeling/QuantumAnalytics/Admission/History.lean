import Mathlib.Data.List.Chain
import QuantumAnalytics.Admission.Changes

/-!
# Decision histories

The decisions about a dataset form a path through the table of transitions, in
the order of their times. A rejected or revoked dataset is never decided on
again.
-/

namespace QuantumAnalytics
namespace Admission

/-- A decision may follow another one: a transition of the table, or another
decision to keep a dataset in quarantine. -/
def AdmissionDecision.Follows (earlier later : AdmissionDecision) : Prop :=
  later.state ∈ earlier.state.allowedTransitions ∨
    earlier.state = .quarantined ∧ later.state = .quarantined

/-- A state after which nothing is decided. -/
def DatasetAdmissionState.isFinal : DatasetAdmissionState → Bool
  | .rejected => true
  | .revoked => true
  | _ => false

/-- The history of a record is a path from its declaration to its state. -/
structure DatasetAdmissionRecord.WellDecided (record : DatasetAdmissionRecord) : Prop where
  /-- The first decision is the declaration. -/
  declared : ∃ first rest, record.decisions = first :: rest ∧ first.state = .declared
  /-- Every decision may follow the one before it. -/
  path : record.decisions.IsChain AdmissionDecision.Follows
  /-- The times of the decisions do not decrease. -/
  ordered : record.decisions.Pairwise fun earlier later =>
    earlier.decidedAt.instant ≤ later.decidedAt.instant
  /-- The last decision made the state of the record. -/
  current : record.decisions.getLast?.map AdmissionDecision.state = some record.state
  /-- Nothing is decided after a rejection or a revocation. -/
  final : ∀ earlier made later, record.decisions = earlier ++ made :: later →
    made.state.isFinal = true → later = []

/-- The record is another one with one decision more. -/
structure DatasetAdmissionRecord.Extends
    (stored record : DatasetAdmissionRecord)
    (made : AdmissionDecision) : Prop where
  /-- The declaration is kept. -/
  declaration : record.declaration = stored.declaration
  /-- The decisions before are kept. -/
  decisions : record.decisions = stored.decisions ++ [made]
  /-- The decision makes the state. -/
  state : record.state = made.state
  /-- The decision may be made in the state before. -/
  allowed : made.state ∈ stored.state.allowedTransitions ∨
    stored.state = .quarantined ∧ made.state = .quarantined
  /-- The decision is not earlier than the last one. -/
  time : stored.NotAfter made.decidedAt

namespace DatasetAdmissionRecord

variable {stored record : DatasetAdmissionRecord} {made : AdmissionDecision}

/-- Nothing may follow a final decision. -/
theorem not_follows_of_isFinal
    {earlier later : AdmissionDecision}
    (final : earlier.state.isFinal = true) : ¬earlier.Follows later := by
  unfold AdmissionDecision.Follows
  cases same : earlier.state <;>
    simp_all [DatasetAdmissionState.isFinal, DatasetAdmissionState.allowedTransitions]

/-- On a path only the last decision is final. -/
theorem final_of_path
    {decisions : List AdmissionDecision}
    (path : decisions.IsChain AdmissionDecision.Follows)
    {earlier later : List AdmissionDecision}
    {made : AdmissionDecision}
    (parts : decisions = earlier ++ made :: later)
    (final : made.state.isFinal = true) : later = [] := by
  subst parts
  cases later with
  | nil => rfl
  | cons next later =>
      have follows := (List.isChain_cons_cons.mp (List.isChain_append.mp path).2.1).1
      exact absurd follows (not_follows_of_isFinal final)

/-- The history of a new record. -/
theorem wellDecided_of_singleton
    (alone : record.decisions = [made])
    (declared : made.state = .declared)
    (current : record.state = .declared) : record.WellDecided where
  declared := ⟨made, [], alone, declared⟩
  path := by simp [alone]
  ordered := by simp [alone]
  current := by simp [alone, declared, current]
  final := fun _ _ _ parts final => final_of_path (by simp [alone]) parts final

/-- One decision more extends a history. -/
theorem WellDecided.extend
    (history : stored.WellDecided)
    (extends_ : stored.Extends record made) : record.WellDecided := by
  obtain ⟨latest, last, notAfter⟩ := extends_.time
  have lastState : latest.state = stored.state := by
    have current := history.current
    rw [last] at current
    simpa using current
  have follows : latest.Follows made := by
    unfold AdmissionDecision.Follows
    rw [lastState]
    exact extends_.allowed
  have path : record.decisions.IsChain AdmissionDecision.Follows := by
    rw [extends_.decisions, List.isChain_append]
    refine ⟨history.path, List.isChain_singleton _, ?_⟩
    intro before isLast after isFirst
    obtain rfl : latest = before := by simpa [last] using isLast
    obtain rfl : made = after := by simpa using isFirst
    exact follows
  refine ⟨?_, path, ?_, ?_, fun _ _ _ parts final => final_of_path path parts final⟩
  · obtain ⟨first, rest, parts, declared⟩ := history.declared
    exact ⟨first, rest ++ [made], by rw [extends_.decisions, parts, List.cons_append], declared⟩
  · rw [extends_.decisions, List.pairwise_append]
    refine ⟨history.ordered, List.pairwise_singleton _ _, ?_⟩
    intro before present after isMade
    obtain rfl := List.mem_singleton.mp isMade
    -- The last decision is the latest of those before.
    obtain ⟨front, parts⟩ := List.getLast?_eq_some_iff.mp last
    rw [parts] at present
    have ordered := history.ordered
    rw [parts, List.pairwise_append] at ordered
    rcases List.mem_append.mp present with inFront | isLatest
    · exact (ordered.2.2 before inFront latest (List.mem_singleton_self _)).trans notAfter
    · rwa [List.mem_singleton.mp isLatest]
  · rw [extends_.decisions, extends_.state]
    simp

end DatasetAdmissionRecord

namespace RealDatasetAdmissionRegistry

variable {inspector : XlsxPackageInspector} {registry after : RealDatasetAdmissionRegistry}

/-- A record that is stored after a write was stored before or was written. -/
theorem get?_put
    {tenant : AccountContext}
    {written record : DatasetAdmissionRecord}
    {key : String × String}
    (found : (registry.put tenant written).records.get? key = some record) :
    registry.records.get? key = some record ∨
      key = (tenant.tenantId, written.declaration.datasetId) ∧ record = written := by
  unfold put at found
  rw [Dict.get?_set] at found
  split_ifs at found with same
  · exact .inr ⟨same, (Option.some.inj found).symm⟩
  · exact .inl found

/-- A write that extends a stored record changes nothing else. -/
theorem get?_put_update
    {tenant : AccountContext}
    {stored written record : DatasetAdmissionRecord}
    {made : AdmissionDecision}
    {new : Prop}
    {key : String × String}
    (found : (registry.put tenant written).records.get? key = some record)
    (known : registry.Known tenant stored)
    (extends_ : stored.Extends written made) :
    registry.records.get? key = some record ∨ new ∨
      ∃ stored made, registry.records.get? key = some stored ∧ stored.Extends record made := by
  rcases get?_put found with before | ⟨rfl, rfl⟩
  · exact .inl before
  · rw [extends_.declaration]
    exact .inr (.inr ⟨stored, made, known, extends_⟩)

/-- A record after a step is stored before it, is new, or has one decision more
than the record stored before. -/
theorem Change.record_cases
    {call : Call}
    (change : Change inspector call registry after)
    {key : String × String}
    {record : DatasetAdmissionRecord}
    (found : after.records.get? key = some record) :
    registry.records.get? key = some record ∨
      (∃ made : AdmissionDecision, record.decisions = [made] ∧ made.state = .declared ∧
        record.state = .declared) ∨
      ∃ stored made, registry.records.get? key = some stored ∧ stored.Extends record made := by
  cases change with
  | declared inScope fresh made =>
      refine (get?_put found).imp_right fun ⟨_, written⟩ => .inl ?_
      obtain ⟨-, -, decided, declared, rfl⟩ := newRecord_eq_ok made
      subst written
      exact ⟨decided, rfl, declared, rfl⟩
  | claimed free => exact .inl found
  | quarantined known before after time =>
      refine get?_put_update found known ⟨rfl, rfl, rfl, .inl ?_, time⟩
      rw [before, after]
      decide
  | rejected known before after time =>
      refine get?_put_update found known ⟨rfl, rfl, rfl, .inl ?_, time⟩
      rw [before, after]
      decide
  | inspected named known before after time owned inspected =>
      refine get?_put_update found known ⟨rfl, rfl, rfl, ?_, time⟩
      rcases after with blocked | validated
      · exact .inr ⟨before, blocked⟩
      · left
        rw [before, validated]
        decide
  | admitted named known before after time granted datasetFree storageFree =>
      refine get?_put_update found known ⟨rfl, rfl, rfl, .inl ?_, time⟩
      rw [before, after]
      decide
  | revoked known before after time =>
      refine get?_put_update found known ⟨rfl, rfl, rfl, .inl ?_, time⟩
      rw [before, after]
      decide

/-- The history of every record is a path from its declaration to its state. -/
def WellDecided (registry : RealDatasetAdmissionRegistry) : Prop :=
  ∀ key record, registry.records.get? key = some record → record.WellDecided

theorem Change.wellDecided
    {call : Call}
    (history : registry.WellDecided)
    (change : Change inspector call registry after) : after.WellDecided := by
  intro key record found
  rcases change.record_cases found with
    before | ⟨made, alone, declared, current⟩ | ⟨stored, made, before, extends_⟩
  · exact history key record before
  · exact DatasetAdmissionRecord.wellDecided_of_singleton alone declared current
  · exact (history key stored before).extend extends_

/-- After every run of calls, accepted or rejected, every record has a decision
history that starts with its declaration, follows the table of transitions in
the order of time and ends in its state, with nothing after a rejection or a
revocation. -/
theorem wellDecided_afterCalls (inspector : XlsxPackageInspector) (calls : List Call) :
    (afterCalls inspector calls).WellDecided :=
  afterCalls_induction (fun key record found => by simp [empty] at found)
    (fun _ _ _ history => history) (fun _ _ _ _ _ _ history change => change.wellDecided history)
    calls

end RealDatasetAdmissionRegistry
end Admission
end QuantumAnalytics
