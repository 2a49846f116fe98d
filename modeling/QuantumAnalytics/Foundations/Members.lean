import QuantumAnalytics.Foundations.JsonRoundTrip

/-!
# Writing members of a mapping

`mapping[key] = value` of a key that the mapping has. The member is found with
its new value, every other member keeps its own, and the last write wins.
-/

namespace QuantumAnalytics
namespace PyJson

theorem isNonemptyString_ofText
    {text : String}
    (nonempty : text ≠ "") : (PyJson.ofText text).isNonemptyString = true := by
  rw [PyJson.ofText, PyJson.isNonemptyString, Bool.not_eq_true', List.isEmpty_eq_false_iff]
  intro isEmpty
  exact nonempty (PyStr.ofString_injective isEmpty)

/-- `mapping[key] = value` of a key that the mapping has. -/
def setMember (fields : PyObject) (key : String) (value : PyJson) : PyObject :=
  fields.map fun field => if field.1 = PyStr.ofString key then (field.1, value) else field

variable {fields : PyObject} {key : String} {value : PyJson}

/-- A write keeps the keys in their order. -/
@[simp] theorem map_fst_setMember : (setMember fields key value).map Prod.fst =
    fields.map Prod.fst := by
  rw [setMember, List.map_map]
  apply List.map_congr_left
  intro field _
  rw [Function.comp_apply]
  split <;> rfl

@[simp] theorem hasKeys_setMember (keys : List String) :
    hasKeys (setMember fields key value) keys = hasKeys fields keys := by
  have byKeys : ∀ members : PyObject, hasKeys members keys =
      ((keys.all fun key => (members.map Prod.fst).any fun name => name = PyStr.ofString key) &&
        (members.map Prod.fst).all fun name => keys.any fun key => name = PyStr.ofString key) := by
    intro members
    simp only [hasKeys, List.any_map, List.all_map, Function.comp_def]
  rw [byKeys, byKeys, map_fst_setMember]

/-- A written member is found. -/
theorem get_setMember_self
    (present : ∃ field ∈ fields, field.1 = PyStr.ofString key) :
    get (setMember fields key value) key = value := by
  obtain ⟨field, listed, isKey⟩ := present
  rw [get, setMember, List.find?_map]
  cases found : fields.find? ((fun field => decide (field.1 = PyStr.ofString key)) ∘
      fun field => if field.1 = PyStr.ofString key then (field.1, value) else field) with
  | none =>
      have absent := List.find?_eq_none.mp found field listed
      simp [isKey] at absent
  | some other =>
      have isOther := List.find?_some found
      by_cases same : other.1 = PyStr.ofString key
      · simp [same]
      · simp [same] at isOther

/-- A member that a mapping has is found after a write. -/
theorem get_setMember_of_hasKeys
    {keys : List String}
    (hasThem : hasKeys fields keys = true)
    (isKey : key ∈ keys)
    (value : PyJson) : get (setMember fields key value) key = value := by
  rw [hasKeys, Bool.and_eq_true, List.all_eq_true] at hasThem
  obtain ⟨field, listed, same⟩ := List.any_eq_true.mp (hasThem.1 key isKey)
  exact get_setMember_self ⟨field, listed, of_decide_eq_true same⟩

/-- A member under another key keeps its value. -/
theorem get_setMember_of_ne
    {other : String}
    (different : other ≠ key) : get (setMember fields key value) other = get fields other := by
  rw [get, get, setMember, List.find?_map]
  have sameTest : ((fun field : PyStr × PyJson => decide (field.1 = PyStr.ofString other)) ∘
      fun field => if field.1 = PyStr.ofString key then (field.1, value) else field) =
      fun field => decide (field.1 = PyStr.ofString other) := by
    funext field
    rw [Function.comp_apply]
    split <;> rfl
  rw [sameTest]
  cases found : fields.find? fun field => decide (field.1 = PyStr.ofString other) with
  | none => rfl
  | some field =>
      have isOther := List.find?_some found
      rw [decide_eq_true_eq] at isOther
      have notKey : field.1 ≠ PyStr.ofString key := by
        rw [isOther]
        exact fun same => different (PyStr.ofString_injective same)
      simp [notKey]

/-- The last write wins. -/
@[simp] theorem setMember_setMember (later : PyJson) :
    setMember (setMember fields key value) key later = setMember fields key later := by
  rw [setMember, setMember, setMember, List.map_map]
  apply List.map_congr_left
  intro field _
  by_cases isKey : field.1 = PyStr.ofString key
  · simp [isKey]
  · simp [isKey]

/-- Writes under different keys can be exchanged. -/
theorem setMember_comm
    {other : String}
    (different : other ≠ key)
    (otherValue : PyJson) :
    setMember (setMember fields key value) other otherValue =
      setMember (setMember fields other otherValue) key value := by
  have apart : PyStr.ofString other ≠ PyStr.ofString key :=
    fun same => different (PyStr.ofString_injective same)
  simp only [setMember, List.map_map]
  apply List.map_congr_left
  intro field _
  by_cases isKey : field.1 = PyStr.ofString key
  · simp [isKey, apart.symm]
  · by_cases isOther : field.1 = PyStr.ofString other
    · simp [isOther, apart]
    · simp [isKey, isOther]

/-- What is written under a key does not matter without the key. -/
@[simp] theorem without_setMember :
    without (setMember fields key value) key = without fields key := by
  rw [without, without, setMember, List.filter_map]
  have sameTest : ((fun field : PyStr × PyJson => decide (field.1 ≠ PyStr.ofString key)) ∘
      fun field => if field.1 = PyStr.ofString key then (field.1, value) else field) =
      fun field => decide (field.1 ≠ PyStr.ofString key) := by
    funext field
    rw [Function.comp_apply]
    split <;> rfl
  rw [sameTest]
  have kept : ∀ field ∈ fields.filter fun field => decide (field.1 ≠ PyStr.ofString key),
      (if field.1 = PyStr.ofString key then (field.1, value) else field) = field := by
    intro field listed
    exact if_neg (of_decide_eq_true (List.mem_filter.mp listed).2)
  exact (List.map_congr_left kept).trans (List.map_id _)

/-- Every member after a write has the value that was written or its own. -/
theorem mem_setMember
    {field : PyStr × PyJson}
    (listed : field ∈ setMember fields key value) :
    field = (PyStr.ofString key, value) ∨ field ∈ fields := by
  rw [setMember] at listed
  obtain ⟨old, isOld, rfl⟩ := List.mem_map.mp listed
  by_cases isKey : old.1 = PyStr.ofString key
  · rw [if_pos isKey, isKey]
    exact .inl rfl
  · rw [if_neg isKey]
    exact .inr isOld

/-- A write of a canonical value keeps a mapping canonical. -/
theorem Canonical.setMember
    (canonical : Canonical (.obj fields))
    (isCanonical : Canonical value) :
    Canonical (.obj (PyJson.setMember fields key value)) := by
  have ordered : (fields.map Prod.fst).Pairwise fun left right => left.ords < right.ords :=
    List.pairwise_map.mpr canonical.1
  rw [← @map_fst_setMember fields key value] at ordered
  rw [List.pairwise_map] at ordered
  refine ⟨ordered, CanonicalFields.of_forall ?_⟩
  intro field listed
  rcases mem_setMember listed with rfl | old
  · exact isCanonical
  · exact canonical.2.of_mem field old

end PyJson
end QuantumAnalytics
