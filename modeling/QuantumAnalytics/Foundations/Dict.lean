import Mathlib.Data.List.Nodup

/-!
# Insertion-ordered dictionaries

A dictionary keeps its entries in the order in which their keys were first
written, as a Python `dict` does: writing to a present key keeps the position
of the key, writing to an absent key appends. No key occurs twice.
-/

namespace QuantumAnalytics

/-- A finite map with distinct keys in insertion order. -/
structure Dict (κ : Type) (ν : Type) where
  /-- The entries, oldest key first. -/
  entries : List (κ × ν)
  /-- No key is stored twice. -/
  keysNodup : (entries.map Prod.fst).Nodup

namespace Dict

variable {κ ν : Type}

@[ext] theorem ext
    {left right : Dict κ ν}
    (same : left.entries = right.entries) : left = right := by
  cases left
  cases right
  subst same
  rfl

/-- The dictionary without entries. -/
def empty : Dict κ ν where
  entries := []
  keysNodup := List.nodup_nil

@[simp] theorem entries_empty : (empty : Dict κ ν).entries = [] := rfl

/-- The stored keys, oldest first. -/
def keys (dict : Dict κ ν) : List κ := dict.entries.map Prod.fst

/-- The stored values in the order of their keys. -/
def values (dict : Dict κ ν) : List ν := dict.entries.map Prod.snd

variable [DecidableEq κ]

/-- The value stored under a key. -/
def get? (dict : Dict κ ν) (key : κ) : Option ν :=
  (dict.entries.find? fun entry => entry.1 = key).map Prod.snd

@[simp] theorem get?_empty (key : κ) : (empty : Dict κ ν).get? key = none := rfl

/-- Lookup finds exactly the stored entries. -/
theorem get?_eq_some_iff
    {dict : Dict κ ν}
    {key : κ}
    {value : ν} :
    dict.get? key = some value ↔ (key, value) ∈ dict.entries := by
  obtain ⟨entries, keysNodup⟩ := dict
  simp only [get?]
  induction entries with
  | nil => simp
  | cons entry entries inductionHypothesis =>
      obtain ⟨storedKey, stored⟩ := entry
      simp only [List.map_cons, List.nodup_cons] at keysNodup
      by_cases same : storedKey = key
      · subst same
        have absent : (storedKey, value) ∉ entries := by
          intro present
          exact keysNodup.1 (List.mem_map_of_mem (f := Prod.fst) present)
        simp [absent, eq_comm]
      · simp [same, Ne.symm same, inductionHypothesis keysNodup.2]

/-- A key is absent exactly when lookup fails. -/
theorem get?_eq_none_iff
    {dict : Dict κ ν}
    {key : κ} :
    dict.get? key = none ↔ key ∉ dict.keys := by
  simp only [get?, keys, Option.map_eq_none_iff, List.find?_eq_none, List.mem_map,
    decide_eq_true_eq, not_exists, not_and]

/-- A stored entry is found under its key. -/
theorem get?_of_mem
    {dict : Dict κ ν}
    {entry : κ × ν}
    (present : entry ∈ dict.entries) :
    dict.get? entry.1 = some entry.2 :=
  get?_eq_some_iff.mpr present

/-- A value that lookup returns is one of the stored values. -/
theorem mem_values_of_get?
    {dict : Dict κ ν}
    {key : κ}
    {value : ν}
    (found : dict.get? key = some value) :
    value ∈ dict.values :=
  List.mem_map_of_mem (f := Prod.snd) (get?_eq_some_iff.mp found)

/-- Replace the value of every entry with the given key. -/
private def overwrite (key : κ) (value : ν) (entries : List (κ × ν)) : List (κ × ν) :=
  entries.map fun entry => if entry.1 = key then (key, value) else entry

private theorem overwrite_keys
    (key : κ)
    (value : ν)
    (entries : List (κ × ν)) :
    (overwrite key value entries).map Prod.fst = entries.map Prod.fst := by
  unfold overwrite
  rw [List.map_map]
  apply List.map_congr_left
  intro entry _
  by_cases same : entry.1 = key
  · simp [same]
  · simp [same]

/-- Write a value: in place when the key is present, at the end otherwise. -/
def set (dict : Dict κ ν) (key : κ) (value : ν) : Dict κ ν :=
  if present : key ∈ dict.entries.map Prod.fst then
    { entries := overwrite key value dict.entries
      keysNodup := by rw [overwrite_keys]; exact dict.keysNodup }
  else
    { entries := dict.entries ++ [(key, value)]
      keysNodup := by
        rw [List.map_append]
        refine List.Nodup.append dict.keysNodup (List.nodup_singleton _) ?_
        intro other stored fresh
        rw [List.map_singleton, List.mem_singleton] at fresh
        subst fresh
        exact present stored }

/-- Writing under an absent key appends one entry. -/
theorem entries_set_of_get?_eq_none
    {dict : Dict κ ν}
    {key : κ}
    (absent : dict.get? key = none)
    (value : ν) :
    (dict.set key value).entries = dict.entries ++ [(key, value)] := by
  rw [get?_eq_none_iff] at absent
  simp only [keys] at absent
  simp only [set, absent, dif_neg, not_false_eq_true]

/-- Entries under distinct keys are all kept. -/
theorem entries_foldl_set
    {α : Type}
    (key : α → κ)
    (value : α → ν)
    {start : Dict κ ν}
    {items : List α}
    (distinct : (start.keys ++ items.map key).Nodup) :
    (items.foldl (fun dict item => dict.set (key item) (value item)) start).entries =
      start.entries ++ items.map fun item => (key item, value item) := by
  induction items generalizing start with
  | nil => simp
  | cons item items inductionHypothesis =>
      rw [List.map_cons, List.append_cons] at distinct
      have absent : start.get? (key item) = none := by
        rw [get?_eq_none_iff]
        have apart := (List.nodup_append.mp (List.nodup_append.mp distinct).1).2.2
        exact fun listed => apart _ listed _ (List.mem_singleton_self _) rfl
      have entries := entries_set_of_get?_eq_none absent (value item)
      rw [List.foldl_cons, inductionHypothesis, entries, List.append_assoc]
      · rfl
      · rwa [keys, entries, List.map_append]

/-- Writing back the value that a key already has changes nothing. -/
theorem set_eq_self_of_get?
    {dict : Dict κ ν}
    {key : κ}
    {value : ν}
    (stored : dict.get? key = some value) :
    dict.set key value = dict := by
  have entryStored := get?_eq_some_iff.mp stored
  have present : key ∈ dict.entries.map Prod.fst :=
    List.mem_map_of_mem (f := Prod.fst) entryStored
  ext1
  simp only [set, present, dif_pos, overwrite]
  rw [List.map_congr_left (g := id), List.map_id]
  intro entry entryPresent
  by_cases same : entry.1 = key
  · have found := get?_of_mem entryPresent
    rw [same, stored] at found
    simp only [same, if_true, id_eq]
    exact Prod.ext same.symm (Option.some.inj found)
  · simp [same]

/-- The entries after a write are the written one and those of other keys. -/
theorem mem_entries_set
    {dict : Dict κ ν}
    {key : κ}
    {value : ν}
    {entry : κ × ν} :
    entry ∈ (dict.set key value).entries ↔
      entry = (key, value) ∨ entry.1 ≠ key ∧ entry ∈ dict.entries := by
  by_cases present : key ∈ dict.entries.map Prod.fst
  · simp only [set, present, dif_pos, overwrite, List.mem_map]
    constructor
    · rintro ⟨stored, storedPresent, rfl⟩
      by_cases same : stored.1 = key
      · simp [same]
      · simp [same, storedPresent]
    · rintro (rfl | ⟨different, stored⟩)
      · obtain ⟨old, oldStored, oldKey⟩ := List.mem_map.mp present
        exact ⟨old, oldStored, by simp [oldKey]⟩
      · exact ⟨entry, stored, by simp [different]⟩
  · simp only [set, present, dif_neg, not_false_eq_true, List.mem_append, List.mem_singleton]
    constructor
    · rintro (stored | rfl)
      · refine Or.inr ⟨?_, stored⟩
        rintro rfl
        exact present (List.mem_map_of_mem (f := Prod.fst) stored)
      · exact Or.inl rfl
    · rintro (rfl | ⟨_, stored⟩)
      · exact Or.inr rfl
      · exact Or.inl stored

/-- Reading after a write: the written key has the new value, every other key
keeps its own. -/
theorem get?_set
    (dict : Dict κ ν)
    (key other : κ)
    (value : ν) :
    (dict.set key value).get? other =
      if other = key then some value else dict.get? other := by
  ext found
  rw [get?_eq_some_iff, mem_entries_set]
  by_cases same : other = key
  · simp [same, eq_comm]
  · simp [same, get?_eq_some_iff]

@[simp] theorem get?_set_self
    (dict : Dict κ ν)
    (key : κ)
    (value : ν) :
    (dict.set key value).get? key = some value := by
  simp [get?_set]

/-- A write under one key is invisible under every other key. -/
theorem get?_set_of_ne
    (dict : Dict κ ν)
    {key other : κ}
    (different : other ≠ key)
    (value : ν) :
    (dict.set key value).get? other = dict.get? other := by
  simp [get?_set, different]

/-- A write adds its key. -/
theorem mem_keys_set
    {dict : Dict κ ν}
    {key other : κ}
    {value : ν} : key ∈ (dict.set other value).keys ↔ key = other ∨ key ∈ dict.keys := by
  rw [← not_iff_not, ← get?_eq_none_iff, get?_set, not_or, ← get?_eq_none_iff]
  by_cases same : key = other
  · simp [same]
  · simp [same]

/-! ### Indexes -/

/-- Every value is stored under the key that a function derives from it. -/
def IndexedBy (dict : Dict κ ν) (keyOf : ν → κ) : Prop :=
  ∀ entry ∈ dict.entries, entry.1 = keyOf entry.2

section IndexedBy

variable {dict : Dict κ ν} {keyOf : ν → κ}

omit [DecidableEq κ] in
@[simp] theorem values_empty : (empty : Dict κ ν).values = [] := rfl

omit [DecidableEq κ] in
theorem indexedBy_empty (keyOf : ν → κ) : (empty : Dict κ ν).IndexedBy keyOf := by
  simp [IndexedBy]

/-- An index returns the stored value with the given key. -/
theorem IndexedBy.get?_eq_some_iff
    (indexed : dict.IndexedBy keyOf)
    {key : κ}
    {value : ν} :
    dict.get? key = some value ↔ value ∈ dict.values ∧ keyOf value = key := by
  rw [Dict.get?_eq_some_iff]
  constructor
  · intro stored
    exact ⟨List.mem_map_of_mem (f := Prod.snd) stored, (indexed _ stored).symm⟩
  · rintro ⟨present, rfl⟩
    obtain ⟨entry, stored, rfl⟩ := List.mem_map.mp present
    rw [← indexed entry stored]
    exact stored

/-- An index has no value for a key exactly when no stored value has the key. -/
theorem IndexedBy.get?_eq_none_iff
    (indexed : dict.IndexedBy keyOf)
    {key : κ} :
    dict.get? key = none ↔ ∀ value ∈ dict.values, keyOf value ≠ key := by
  constructor
  · intro absent value present same
    have found := indexed.get?_eq_some_iff.mpr ⟨present, same⟩
    rw [absent] at found
    exact absurd found (by simp)
  · intro different
    cases found : dict.get? key with
    | none => rfl
    | some value =>
        have stored := indexed.get?_eq_some_iff.mp found
        exact absurd stored.2 (different value stored.1)

/-- Values of an index are determined by their keys. -/
theorem IndexedBy.eq_of_key_eq
    (indexed : dict.IndexedBy keyOf)
    {left right : ν}
    (leftStored : left ∈ dict.values)
    (rightStored : right ∈ dict.values)
    (same : keyOf left = keyOf right) : left = right := by
  have leftFound := indexed.get?_eq_some_iff.mpr ⟨leftStored, rfl⟩
  have rightFound := indexed.get?_eq_some_iff.mpr ⟨rightStored, rfl⟩
  rw [same, rightFound] at leftFound
  exact (Option.some.inj leftFound).symm

/-- An index stays one when a value is written under its own key. -/
theorem IndexedBy.set
    (indexed : dict.IndexedBy keyOf)
    (value : ν) : (dict.set (keyOf value) value).IndexedBy keyOf := by
  intro entry stored
  rcases mem_entries_set.mp stored with rfl | ⟨_, old⟩
  · rfl
  · exact indexed entry old

/-- A write under an absent key appends the value. -/
theorem values_set_of_get?_eq_none
    {key : κ}
    (absent : dict.get? key = none)
    (value : ν) :
    (dict.set key value).values = dict.values ++ [value] := by
  simp [values, entries_set_of_get?_eq_none absent]

end IndexedBy

/-! ### Parts of a dictionary -/

omit [DecidableEq κ] in
/-- The entries whose keys meet a condition. -/
def filterKeys (dict : Dict κ ν) (kept : κ → Bool) : Dict κ ν where
  entries := dict.entries.filter fun entry => kept entry.1
  keysNodup := dict.keysNodup.sublist (List.filter_sublist.map Prod.fst)

omit [DecidableEq κ] in
theorem entries_filterKeys (dict : Dict κ ν) (kept : κ → Bool) :
    (dict.filterKeys kept).entries = dict.entries.filter fun entry => kept entry.1 :=
  rfl

/-- A kept key has the same value. -/
theorem get?_filterKeys
    {dict : Dict κ ν}
    {kept : κ → Bool}
    {key : κ}
    (isKept : kept key = true) :
    (dict.filterKeys kept).get? key = dict.get? key := by
  ext value
  simp [get?_eq_some_iff, filterKeys, isKept]

omit [DecidableEq κ] in
/-- A kept key is in the part when it is in the dictionary. -/
theorem mem_keys_filterKeys
    {dict : Dict κ ν}
    {kept : κ → Bool}
    {key : κ} :
    key ∈ (dict.filterKeys kept).keys ↔ key ∈ dict.keys ∧ kept key = true := by
  simp only [keys, filterKeys, List.mem_map, List.mem_filter]
  constructor
  · rintro ⟨entry, ⟨stored, isKept⟩, rfl⟩
    exact ⟨⟨entry, stored, rfl⟩, isKept⟩
  · rintro ⟨⟨entry, stored, rfl⟩, isKept⟩
    exact ⟨entry, ⟨stored, isKept⟩, rfl⟩

private theorem entries_set
    (dict : Dict κ ν)
    (key : κ)
    (value : ν) :
    (dict.set key value).entries =
      if key ∈ dict.keys then overwrite key value dict.entries
      else dict.entries ++ [(key, value)] := by
  by_cases present : key ∈ dict.keys
  · rw [if_pos present]
    simp only [keys] at present
    simp only [set, present, dif_pos]
  · rw [if_neg present]
    simp only [keys] at present
    simp only [set, present, dif_neg, not_false_eq_true]

/-- Writing to a kept key writes to the part. -/
theorem filterKeys_set_of_kept
    {dict : Dict κ ν}
    {kept : κ → Bool}
    {key : κ}
    (isKept : kept key = true)
    (value : ν) :
    (dict.set key value).filterKeys kept = (dict.filterKeys kept).set key value := by
  ext1
  rw [entries_set, entries_filterKeys, entries_set, entries_filterKeys]
  simp only [mem_keys_filterKeys, isKept, and_true]
  split
  · simp only [overwrite, List.filter_map]
    congr 1
    apply List.filter_congr
    intro entry _
    by_cases same : entry.1 = key
    · simp [same, isKept]
    · simp [same]
  · simp [isKept]

/-- Writing to a key that is not kept leaves the part alone. -/
theorem filterKeys_set_of_not_kept
    {dict : Dict κ ν}
    {kept : κ → Bool}
    {key : κ}
    (notKept : kept key = false)
    (value : ν) :
    (dict.set key value).filterKeys kept = dict.filterKeys kept := by
  ext1
  rw [entries_filterKeys, entries_set, entries_filterKeys]
  split
  · simp only [overwrite, List.filter_map]
    have sameKept : ((fun entry : κ × ν => kept entry.1) ∘
        fun entry => if entry.1 = key then (key, value) else entry) =
        fun entry => kept entry.1 := by
      funext entry
      by_cases same : entry.1 = key
      · simp [same]
      · simp [same]
    rw [sameKept]
    refine (List.map_congr_left fun entry stored => ?_).trans (List.map_id _)
    rw [List.mem_filter] at stored
    rw [if_neg, id_eq]
    rintro rfl
    rw [notKept] at stored
    exact absurd stored.2 (by simp)
  · simp [notKept]

omit [DecidableEq κ] in
@[simp] theorem filterKeys_empty (kept : κ → Bool) :
    (empty : Dict κ ν).filterKeys kept = empty :=
  rfl

end Dict
end QuantumAnalytics
