import Mathlib.Data.Finset.Card
import Mathlib.Data.List.TakeWhile

/-!
# Least recently used caches

A mapping of bounded size that forgets the key that was used least recently. Its
keys are the first distinct ones of the history of uses, so a key is present
exactly when few enough other keys were used after it.
-/

namespace QuantumAnalytics

/-- The entries of a cache, the one that was used last in front. -/
abbrev RecencyCache (κ ν : Type) := List (κ × ν)

namespace RecencyCache

variable {κ ν : Type} [DecidableEq κ]

/-- The keys of the entries. -/
def keys (cache : RecencyCache κ ν) : List κ := cache.map Prod.fst

/-- The value of a key. -/
def lookup (key : κ) (cache : RecencyCache κ ν) : Option ν :=
  (cache.find? fun entry => entry.1 = key).map Prod.snd

/-- The other entries. -/
def without (key : κ) (cache : RecencyCache κ ν) : RecencyCache κ ν :=
  cache.filter fun entry => entry.1 ≠ key

/-- Set the value of a key, which becomes the last used one, and forget the keys
over the limit. -/
def store (limit : Nat) (key : κ) (value : ν) (cache : RecencyCache κ ν) : RecencyCache κ ν :=
  ((key, value) :: without key cache).take limit

/-- Make a key the last used one, if it is present. -/
def touch (key : κ) (cache : RecencyCache κ ν) : RecencyCache κ ν :=
  match lookup key cache with
  | some value => (key, value) :: without key cache
  | none => cache

/-- The distinct keys of a history, both with the last one in front. -/
def recent : List κ → List κ
  | [] => []
  | key :: history => key :: (recent history).filter fun other => other ≠ key

/-! ### Recent keys -/

theorem mem_recent
    {key : κ}
    {history : List κ} : key ∈ recent history ↔ key ∈ history := by
  induction history with
  | nil => rfl
  | cons first history inductionHypothesis =>
      rw [recent, List.mem_cons, List.mem_cons, List.mem_filter, inductionHypothesis,
        decide_eq_true_eq]
      constructor
      · rintro (same | ⟨later, -⟩)
        · exact .inl same
        · exact .inr later
      · rintro (same | later)
        · exact .inl same
        · by_cases same : key = first
          · exact .inl same
          · exact .inr ⟨later, same⟩

theorem nodup_recent (history : List κ) : (recent history).Nodup := by
  induction history with
  | nil => exact List.nodup_nil
  | cons key history inductionHypothesis =>
      rw [recent, List.nodup_cons]
      exact ⟨by simp, inductionHypothesis.filter _⟩

/-- There are as many recent keys as different ones. -/
theorem length_recent (history : List κ) : (recent history).length = history.toFinset.card := by
  rw [← List.toFinset_card_of_nodup (nodup_recent history)]
  congr 1
  ext key
  rw [List.mem_toFinset, List.mem_toFinset, mem_recent]

/-- Before a key stand the keys that were used after it. -/
theorem exists_recent_eq
    {key : κ}
    {history : List κ}
    (used : key ∈ history) :
    ∃ older, recent history =
      recent (history.takeWhile fun other => other ≠ key) ++ key :: older ∧ key ∉ older := by
  induction history with
  | nil => cases used
  | cons first history inductionHypothesis =>
      by_cases same : first = key
      · subst same
        refine ⟨(recent history).filter fun other => other ≠ first, ?_, by simp⟩
        rw [List.takeWhile_cons_of_neg (by simp)]
        rfl
      · obtain ⟨older, split, absent⟩ :=
          inductionHypothesis ((List.mem_cons.mp used).resolve_left (Ne.symm same))
        refine ⟨older.filter fun other => other ≠ first, ?_, fun present =>
          absent (List.mem_of_mem_filter present)⟩
        rw [List.takeWhile_cons_of_pos (by simpa using same), recent, recent, split,
          List.filter_append, List.filter_cons_of_pos (by simpa using Ne.symm same),
          List.cons_append]

/-- A key is among the first recent ones when it was used and fewer different
keys were used after it. -/
theorem mem_take_recent_iff
    {key : κ}
    {history : List κ}
    {limit : Nat} :
    key ∈ (recent history).take limit ↔
      key ∈ history ∧ (history.takeWhile fun other => other ≠ key).toFinset.card < limit := by
  constructor
  · intro present
    have used := mem_recent.mp (List.mem_of_mem_take present)
    refine ⟨used, ?_⟩
    obtain ⟨older, split, absent⟩ := exists_recent_eq used
    rw [← length_recent]
    by_contra tooMany
    rw [split, List.take_append_of_le_length (Nat.le_of_not_lt tooMany)] at present
    have later := mem_recent.mp (List.mem_of_mem_take present)
    exact absurd (List.mem_takeWhile_imp later) (by simp)
  · rintro ⟨used, few⟩
    obtain ⟨older, split, -⟩ := exists_recent_eq used
    rw [← length_recent] at few
    rw [split, List.take_append, List.mem_append]
    right
    obtain ⟨room, isRoom⟩ : ∃ room, limit -
        (recent (history.takeWhile fun other => other ≠ key)).length = room + 1 :=
      ⟨limit - (recent (history.takeWhile fun other => other ≠ key)).length - 1, by omega⟩
    rw [isRoom, List.take_succ_cons]
    exact List.mem_cons_self

/-- One key fewer leaves room for all others. -/
theorem take_filter_take
    {keys : List κ}
    (distinct : keys.Nodup)
    (key : κ)
    (limit : Nat) :
    ((keys.take (limit + 1)).filter fun other => other ≠ key).take limit =
      (keys.filter fun other => other ≠ key).take limit := by
  induction keys generalizing limit with
  | nil => simp
  | cons first keys inductionHypothesis =>
      obtain ⟨absent, distinctRest⟩ := List.nodup_cons.mp distinct
      cases limit with
      | zero => simp
      | succ limit =>
          by_cases same : first = key
          · subst same
            have others : ∀ {list : List κ}, (∀ other ∈ list, other ∈ keys) →
                list.filter (fun other => other ≠ first) = list := by
              intro list subset
              rw [List.filter_eq_self]
              intro other present
              exact decide_eq_true fun equal => absent (equal ▸ subset other present)
            rw [List.take_succ_cons, List.filter_cons_of_neg (by simp),
              List.filter_cons_of_neg (by simp), others fun _ => List.mem_of_mem_take,
              others fun _ => id, List.take_take, Nat.min_self]
          · rw [List.take_succ_cons, List.filter_cons_of_pos (by simpa using same),
              List.filter_cons_of_pos (by simpa using same), List.take_succ_cons,
              List.take_succ_cons, inductionHypothesis distinctRest]

/-! ### The keys of a cache -/

theorem keys_without (key : κ) (cache : RecencyCache κ ν) :
    keys (without key cache) = (keys cache).filter fun other => other ≠ key := by
  rw [keys, keys, without, List.filter_map]
  rfl

/-- A key that is present has a value. -/
theorem exists_lookup
    {key : κ}
    {cache : RecencyCache κ ν}
    (present : key ∈ keys cache) : ∃ value, lookup key cache = some value := by
  obtain ⟨entry, listed, rfl⟩ := List.mem_map.mp present
  rw [← Option.isSome_iff_exists, lookup, Option.isSome_map, List.find?_isSome]
  exact ⟨entry, listed, by simp⟩

theorem mem_of_lookup
    {key : κ}
    {value : ν}
    {cache : RecencyCache κ ν}
    (found : lookup key cache = some value) : (key, value) ∈ cache := by
  rw [lookup, Option.map_eq_some_iff] at found
  obtain ⟨⟨other, stored⟩, isFound, rfl⟩ := found
  obtain rfl : other = key := by simpa using List.find?_some isFound
  exact List.mem_of_find?_eq_some isFound

section History

variable {cache : RecencyCache κ ν} {history : List κ} {limit : Nat} {key : κ}

/-- Storing a key is a use of it. -/
theorem keys_store
    (value : ν)
    (closed : keys cache = (recent history).take limit) :
    keys (store limit key value cache) = (recent (key :: history)).take limit := by
  cases limit with
  | zero => rfl
  | succ limit =>
      have kept := keys_without key cache
      rw [closed, keys] at kept
      rw [keys, store, List.map_take, List.map_cons, kept, recent, List.take_succ_cons,
        List.take_succ_cons, take_filter_take (nodup_recent history)]

/-- Touching a key that is present is a use of it. -/
theorem keys_touch
    (closed : keys cache = (recent history).take limit)
    {value : ν}
    (found : lookup key cache = some value) :
    keys (touch key cache) = (recent (key :: history)).take limit := by
  have present : key ∈ (recent history).take limit := by
    rw [← closed]
    exact List.mem_map.mpr ⟨_, mem_of_lookup found, rfl⟩
  cases limit with
  | zero => cases present
  | succ limit =>
      have kept := keys_without key cache
      rw [closed, keys] at kept
      have short : (((recent history).take (limit + 1)).filter fun other => other ≠ key).length ≤
          limit := by
        have fewer : (((recent history).take (limit + 1)).filter fun other => other ≠ key).length <
            ((recent history).take (limit + 1)).length :=
          List.length_filter_lt_length_iff_exists.mpr ⟨key, present, by simp⟩
        rw [List.length_take] at fewer
        omega
      rw [touch, found, keys, List.map_cons, kept, recent, List.take_succ_cons,
        ← take_filter_take (nodup_recent history), List.take_of_length_le short]

end History

/-- The entries of a touched cache are those that it had. -/
theorem mem_of_mem_touch
    {key : κ}
    {cache : RecencyCache κ ν}
    {entry : κ × ν}
    (listed : entry ∈ touch key cache) : entry ∈ cache := by
  unfold touch at listed
  split at listed
  next value found =>
    rcases List.mem_cons.mp listed with rfl | kept
    · exact mem_of_lookup found
    · exact List.mem_of_mem_filter kept
  next => exact listed

/-- The entries of a cache after a value was stored are this one and some that it had. -/
theorem mem_of_mem_store
    {limit : Nat}
    {key : κ}
    {value : ν}
    {cache : RecencyCache κ ν}
    {entry : κ × ν}
    (listed : entry ∈ store limit key value cache) : entry = (key, value) ∨ entry ∈ cache := by
  rcases List.mem_cons.mp (List.mem_of_mem_take listed) with isNew | kept
  · exact .inl isNew
  · exact .inr (List.mem_of_mem_filter kept)

end RecencyCache
end QuantumAnalytics
