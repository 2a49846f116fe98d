import Mathlib.Algebra.Order.BigOperators.Group.List

/-!
# Reservations against capacities

A growing list of records, each of which may reserve a part of some capacity
and may replace an earlier record. A reservation is active until a record
replaces it. Checking a new reservation together with the active ones that it
leaves in place keeps the sum of the active reservations within the capacity,
whatever the order in which reservations are made and replaced.
-/

namespace QuantumAnalytics

/-- How records reserve capacities and replace each other. -/
structure Reservations (α ι : Type*) where
  /-- The id by which a record is replaced. -/
  idOf : α → ι
  /-- The capacity on which a record draws. -/
  target : α → Option ι
  /-- The record that a record replaces. -/
  replaces : α → Option ι

namespace Reservations

variable {α ι : Type*} [DecidableEq ι] (book : Reservations α ι)

/-- The reservations of a capacity that no record replaces. -/
def active (records : List α) (capacity : ι) : List α :=
  records.filter fun record =>
    book.target record = some capacity ∧
      ∀ other ∈ records, book.replaces other ≠ some (book.idOf record)

/-- The active reservations that a further record leaves in place. -/
def remaining (records : List α) (capacity : ι) (candidate : α) : List α :=
  (book.active records capacity).filter fun record =>
    book.replaces candidate ≠ some (book.idOf record)

/-- A record can be added when it is new to the records: none of them and not
the record itself replaces it. -/
def Fresh (records : List α) (candidate : α) : Prop :=
  (∀ other ∈ records, book.replaces other ≠ some (book.idOf candidate)) ∧
    book.replaces candidate ≠ some (book.idOf candidate)

variable {book}

theorem mem_active
    {records : List α}
    {capacity : ι}
    {record : α} :
    record ∈ book.active records capacity ↔
      record ∈ records ∧ book.target record = some capacity ∧
        ∀ other ∈ records, book.replaces other ≠ some (book.idOf record) := by
  simp [active]

theorem active_sublist
    (records : List α)
    (capacity : ι) : (book.active records capacity).Sublist records :=
  List.filter_sublist

theorem remaining_sublist
    (records : List α)
    (capacity : ι)
    (candidate : α) :
    (book.remaining records capacity candidate).Sublist (book.active records capacity) :=
  List.filter_sublist

/-- Adding a record deactivates what it replaces and activates the record. -/
theorem active_append
    {records : List α}
    {candidate : α}
    (fresh : book.Fresh records candidate)
    (capacity : ι) :
    book.active (records ++ [candidate]) capacity =
      book.remaining records capacity candidate ++
        if book.target candidate = some capacity then [candidate] else [] := by
  have olds : records.filter (fun record =>
        book.target record = some capacity ∧
          ∀ other ∈ records ++ [candidate], book.replaces other ≠ some (book.idOf record)) =
      book.remaining records capacity candidate := by
    rw [remaining, active, List.filter_filter]
    refine List.filter_congr fun record _ => ?_
    rw [← Bool.decide_and, decide_eq_decide, List.forall_mem_append, List.forall_mem_singleton]
    exact ⟨fun ⟨drawn, kept, left⟩ => ⟨left, drawn, kept⟩,
      fun ⟨left, drawn, kept⟩ => ⟨drawn, kept, left⟩⟩
  have unreplaced : ∀ other ∈ records ++ [candidate],
      book.replaces other ≠ some (book.idOf candidate) := by
    rw [List.forall_mem_append, List.forall_mem_singleton]
    exact fresh
  have new : [candidate].filter (fun record =>
        book.target record = some capacity ∧
          ∀ other ∈ records ++ [candidate], book.replaces other ≠ some (book.idOf record)) =
      if book.target candidate = some capacity then [candidate] else [] := by
    rw [List.filter_singleton]
    by_cases drawn : book.target candidate = some capacity
    · rw [if_pos drawn, decide_eq_true ⟨drawn, unreplaced⟩]
      rfl
    · rw [if_neg drawn, decide_eq_false fun both => drawn both.1]
      rfl
  rw [active, List.filter_append, olds, new]

section Sums

variable {M : Type*} [AddCommMonoid M] [PartialOrder M] [IsOrderedAddMonoid M]

/-- The sum of the active reservations of a capacity. -/
def reserved (book : Reservations α ι) (amount : α → M) (records : List α) (capacity : ι) : M :=
  ((book.active records capacity).map amount).sum

variable {amount : α → M} {records : List α} {candidate : α} {capacity : ι} {limit : M}

/-- Deactivating reservations frees capacity. -/
theorem sum_remaining_le
    (nonneg : ∀ record ∈ book.active records capacity, 0 ≤ amount record) :
    ((book.remaining records capacity candidate).map amount).sum ≤
      book.reserved amount records capacity := by
  refine List.Sublist.sum_le_sum ((remaining_sublist records capacity candidate).map amount) ?_
  intro value present
  obtain ⟨record, stored, rfl⟩ := List.mem_map.mp present
  exact nonneg record stored

/-- A record that draws on another capacity keeps a limit. -/
theorem reserved_append_of_ne
    (fresh : book.Fresh records candidate)
    (nonneg : ∀ record ∈ book.active records capacity, 0 ≤ amount record)
    (elsewhere : book.target candidate ≠ some capacity)
    (within : book.reserved amount records capacity ≤ limit) :
    book.reserved amount (records ++ [candidate]) capacity ≤ limit := by
  rw [reserved, active_append fresh, if_neg elsewhere, List.append_nil]
  exact (sum_remaining_le nonneg).trans within

omit [IsOrderedAddMonoid M] in
/-- A record that draws on the capacity keeps a limit when it fits together
with what it leaves in place. -/
theorem reserved_append_of_eq
    (fresh : book.Fresh records candidate)
    (drawn : book.target candidate = some capacity)
    (fits : amount candidate + ((book.remaining records capacity candidate).map amount).sum ≤
      limit) :
    book.reserved amount (records ++ [candidate]) capacity ≤ limit := by
  rw [reserved, active_append fresh, if_pos drawn, List.map_append, List.sum_append, add_comm]
  simpa using fits

end Sums

end Reservations
end QuantumAnalytics
