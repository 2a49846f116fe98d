import Mathlib.Data.Set.Finite.Basic
import Mathlib.Logic.Relation
import Mathlib.Order.Preorder.Finite
import Mathlib.Tactic.Linarith

/-!
# Version histories

A collection of records, each of which has a key and a version number. A record
of version 1 starts its key; every later record replaces a record of the same
key and the version before it. These local links already make every key a
single chain: its versions are `1, …, n` for some `n`, and exactly the record
of version `n` is not replaced.
-/

namespace QuantumAnalytics

variable {α κ : Type*}

/-- Records whose replacement links go from one version to the version before. -/
structure VersionHistory
    (records : Set α)
    (key : α → κ)
    (version : α → ℤ)
    (replaces : α → α → Prop) : Prop where
  /-- Versions are counted from 1. -/
  positive : ∀ record ∈ records, 1 ≤ version record
  /-- A key has at most one record of each version. -/
  unique : ∀ left ∈ records, ∀ right ∈ records,
    key left = key right → version left = version right → left = right
  /-- The first version replaces nothing. -/
  first : ∀ record ∈ records, version record = 1 → ∀ other, ¬replaces record other
  /-- Every later version replaces a record of the version before it. -/
  linked : ∀ record ∈ records, version record ≠ 1 →
    ∃ earlier ∈ records, replaces record earlier ∧ key earlier = key record ∧
      version earlier + 1 = version record
  /-- A record replaces at most one record. -/
  single : ∀ record ∈ records, ∀ left ∈ records, ∀ right ∈ records,
    replaces record left → replaces record right → left = right

namespace VersionHistory

variable {records : Set α} {key : α → κ} {version : α → ℤ} {replaces : α → α → Prop}

section Links

variable (history : VersionHistory records key version replaces)
include history

/-- A record replaces exactly the record of its key and the version before. -/
theorem replaces_iff
    {record earlier : α}
    (recordPresent : record ∈ records)
    (earlierPresent : earlier ∈ records) :
    replaces record earlier ↔
      key earlier = key record ∧ version earlier + 1 = version record := by
  have predecessor : version record ≠ 1 →
      ∃ target ∈ records, replaces record target ∧ key target = key record ∧
        version target + 1 = version record := history.linked record recordPresent
  constructor
  · intro link
    have later : version record ≠ 1 := fun start =>
      history.first record recordPresent start earlier link
    obtain ⟨target, present, targetLink, sameKey, next⟩ := predecessor later
    have same := history.single record recordPresent earlier earlierPresent target present
      link targetLink
    subst same
    exact ⟨sameKey, next⟩
  · rintro ⟨sameKey, next⟩
    have counted := history.positive earlier earlierPresent
    obtain ⟨target, present, targetLink, targetKey, targetNext⟩ := predecessor (by omega)
    have same := history.unique earlier earlierPresent target present
      (sameKey.trans targetKey.symm) (by omega)
    subst same
    exact targetLink

/-- Two records never replace the same one. -/
theorem replaces_injective
    {left right earlier : α}
    (leftPresent : left ∈ records)
    (rightPresent : right ∈ records)
    (earlierPresent : earlier ∈ records)
    (leftLink : replaces left earlier)
    (rightLink : replaces right earlier) : left = right := by
  obtain ⟨leftKey, leftNext⟩ := (history.replaces_iff leftPresent earlierPresent).mp leftLink
  obtain ⟨rightKey, rightNext⟩ := (history.replaces_iff rightPresent earlierPresent).mp rightLink
  exact history.unique left leftPresent right rightPresent (leftKey.symm.trans rightKey)
    (leftNext.symm.trans rightNext)

/-- Along a chain of replacements the version decreases. -/
theorem version_lt_of_transGen
    {record earlier : α}
    (chain : Relation.TransGen
      (fun later before => later ∈ records ∧ before ∈ records ∧ replaces later before)
      record earlier) :
    version earlier < version record := by
  induction chain with
  | single link =>
      have next := ((history.replaces_iff link.1 link.2.1).mp link.2.2).2
      omega
  | tail _ link inductionHypothesis =>
      have next := ((history.replaces_iff link.1 link.2.1).mp link.2.2).2
      omega

/-- No record replaces itself, directly or through others. -/
theorem acyclic (record : α) :
    ¬Relation.TransGen
      (fun later before => later ∈ records ∧ before ∈ records ∧ replaces later before)
      record record := by
  intro cycle
  exact lt_irrefl _ (history.version_lt_of_transGen cycle)

/-- Below a stored version every version is stored. -/
theorem exists_earlier
    {record : α}
    (present : record ∈ records)
    (target : ℤ)
    (counted : 1 ≤ target)
    (below : target ≤ version record) :
    ∃ earlier ∈ records, key earlier = key record ∧ version earlier = target := by
  -- Walk down from the record, one replacement at a time.
  induction distance : (version record - target).toNat generalizing record with
  | zero => exact ⟨record, present, rfl, by omega⟩
  | succ steps inductionHypothesis =>
      obtain ⟨earlier, earlierPresent, _, sameKey, next⟩ :=
        history.linked record present (by omega)
      obtain ⟨found, foundPresent, foundKey, foundVersion⟩ :=
        inductionHypothesis earlierPresent (by omega) (by omega)
      exact ⟨found, foundPresent, foundKey.trans sameKey, foundVersion⟩

/-- What every replacement keeps is the same for all records of a key. -/
theorem eq_of_key_eq
    {β : Type*}
    (trait : α → β)
    (kept : ∀ record ∈ records, ∀ earlier ∈ records,
      replaces record earlier → trait earlier = trait record)
    {left right : α}
    (leftPresent : left ∈ records)
    (rightPresent : right ∈ records)
    (sameKey : key left = key right) : trait left = trait right := by
  -- Every record agrees with the first version of its key.
  have toFirst : ∀ (steps : ℕ), ∀ record ∈ records, (version record - 1).toNat = steps →
      ∃ first ∈ records, key first = key record ∧ version first = 1 ∧
        trait first = trait record := by
    intro steps
    induction steps with
    | zero =>
        intro record present distance
        have counted := history.positive record present
        exact ⟨record, present, rfl, by omega, rfl⟩
    | succ steps inductionHypothesis =>
        intro record present distance
        obtain ⟨earlier, earlierPresent, link, earlierKey, next⟩ :=
          history.linked record present (by omega)
        obtain ⟨first, firstPresent, firstKey, isFirst, same⟩ :=
          inductionHypothesis earlier earlierPresent (by omega)
        exact ⟨first, firstPresent, firstKey.trans earlierKey, isFirst,
          same.trans (kept record present earlier earlierPresent link)⟩
  obtain ⟨leftFirst, leftFirstPresent, leftKey, leftIsFirst, leftSame⟩ :=
    toFirst _ left leftPresent rfl
  obtain ⟨rightFirst, rightFirstPresent, rightKey, rightIsFirst, rightSame⟩ :=
    toFirst _ right rightPresent rfl
  have same := history.unique leftFirst leftFirstPresent rightFirst rightFirstPresent
    (leftKey.trans (sameKey.trans rightKey.symm)) (leftIsFirst.trans rightIsFirst.symm)
  rw [← leftSame, same, rightSame]

end Links

/-- In a finite history the versions of a key are exactly `1, …, n`. -/
theorem exists_latest
    (history : VersionHistory records key version replaces)
    (finite : records.Finite)
    {record : α}
    (present : record ∈ records) :
    ∃ latest ∈ records, key latest = key record ∧
      ∀ number, (∃ stored ∈ records, key stored = key record ∧ version stored = number) ↔
        1 ≤ number ∧ number ≤ version latest := by
  let ofKey := {stored | stored ∈ records ∧ key stored = key record}
  have ofKeyFinite : ofKey.Finite := finite.subset fun stored member => member.1
  obtain ⟨latest, latestMember, greatest⟩ :=
    Set.Finite.exists_maximalFor version ofKey ofKeyFinite ⟨record, present, rfl⟩
  refine ⟨latest, latestMember.1, latestMember.2, fun number => ⟨?_, ?_⟩⟩
  · rintro ⟨stored, storedPresent, storedKey, rfl⟩
    refine ⟨history.positive stored storedPresent, ?_⟩
    rcases le_total (version stored) (version latest) with below | above
    · exact below
    · exact greatest ⟨storedPresent, storedKey⟩ above
  · rintro ⟨counted, below⟩
    obtain ⟨stored, storedPresent, storedKey, storedVersion⟩ :=
      history.exists_earlier latestMember.1 _ counted below
    exact ⟨stored, storedPresent, storedKey.trans latestMember.2, storedVersion⟩

/-- A record is replaced exactly when its key has a later version. -/
theorem exists_replacement_iff
    (history : VersionHistory records key version replaces)
    {record : α}
    (present : record ∈ records) :
    (∃ later ∈ records, replaces later record) ↔
      ∃ stored ∈ records, key stored = key record ∧ version record < version stored := by
  constructor
  · rintro ⟨later, laterPresent, link⟩
    obtain ⟨sameKey, next⟩ := (history.replaces_iff laterPresent present).mp link
    exact ⟨later, laterPresent, sameKey.symm, by omega⟩
  · rintro ⟨stored, storedPresent, sameKey, above⟩
    have counted := history.positive record present
    obtain ⟨later, laterPresent, laterKey, laterVersion⟩ :=
      history.exists_earlier storedPresent (version record + 1) (by omega) (by omega)
    exact ⟨later, laterPresent, (history.replaces_iff laterPresent present).mpr
      ⟨(laterKey.trans sameKey).symm, laterVersion.symm⟩⟩

end VersionHistory
end QuantumAnalytics
