import QuantumAnalytics.Foundations.JsonRoundTrip

/-!
# Nesting of JSON documents

The encoder runs out of room on containers that are nested too deeply. What it
writes with some room it writes with any room that the nesting of the document
needs.
-/

namespace QuantumAnalytics
namespace PyJson

/-- Containers are nested in the value at most so many times. -/
def Shallow : Nat → PyJson → Prop
  | 0, .arr _ => False
  | 0, .obj _ => False
  | depth + 1, .arr items => ∀ item ∈ items, Shallow depth item
  | depth + 1, .obj fields => ∀ field ∈ fields, Shallow depth field.2
  | _, _ => True

/-- A shallow value is so for any greater depth. -/
theorem Shallow.mono
    {depth greater : Nat}
    {value : PyJson}
    (shallow : Shallow depth value)
    (le : depth ≤ greater) : Shallow greater value := by
  induction depth generalizing greater value with
  | zero =>
      cases value with
      | arr items => exact shallow.elim
      | obj fields => exact shallow.elim
      | _ => cases greater <;> trivial
  | succ depth inductionHypothesis =>
      obtain ⟨greater, rfl⟩ : ∃ smaller, greater = smaller + 1 := ⟨greater - 1, by omega⟩
      cases value with
      | arr items => exact fun item listed => inductionHypothesis (shallow item listed) (by omega)
      | obj fields =>
          exact fun field listed => inductionHypothesis (shallow field listed) (by omega)
      | _ => trivial

/-- A list is encoded when its items are. -/
theorem checkItems_eq_ok
    {room : Nat}
    {items : List PyJson} :
    checkItems room items = .ok () ↔ ∀ item ∈ items, checkEncodable room item = .ok () := by
  induction items with
  | nil => simp [checkItems]
  | cons item items inductionHypothesis =>
      rw [checkItems, Checks.bind_done_eq_ok, inductionHypothesis, List.forall_mem_cons]

/-- A shallow value that is encoded in some room is encoded in any room that is
deep enough. -/
theorem checkEncodable_of_shallow
    {depth room other : Nat}
    {value : PyJson}
    (shallow : Shallow depth value)
    (enough : depth ≤ other)
    (encodable : checkEncodable room value = .ok ()) : checkEncodable other value = .ok () := by
  induction depth generalizing room other value with
  | zero =>
      cases value with
      | arr items => exact shallow.elim
      | obj fields => exact shallow.elim
      | float value => cases value <;> cases room <;> cases other <;> exact encodable
      | _ => cases room <;> cases other <;> exact encodable
  | succ depth inductionHypothesis =>
      obtain ⟨other, rfl⟩ : ∃ smaller, other = smaller + 1 := ⟨other - 1, by omega⟩
      cases value with
      | arr items =>
          cases room with
          | zero => cases encodable
          | succ room =>
              rw [checkEncodable, checkItems_eq_ok] at encodable ⊢
              exact fun item listed =>
                inductionHypothesis (shallow item listed) (by omega) (encodable item listed)
      | obj fields =>
          cases room with
          | zero => cases encodable
          | succ room =>
              rw [checkEncodable, checkFields_eq_ok] at encodable ⊢
              exact fun field listed =>
                inductionHypothesis (shallow field listed) (by omega) (encodable field listed)
      | float value => cases value <;> cases room <;> exact encodable
      | _ => cases room <;> exact encodable

/-! ### Members of a mapping -/

/-- A member of a canonical mapping is found under its key. -/
theorem Canonical.get_eq_of_mem
    {fields : PyObject}
    (canonical : Canonical (.obj fields))
    {field : PyStr × PyJson}
    (listed : field ∈ fields)
    {key : String}
    (isKey : field.1 = PyStr.ofString key) : PyJson.get fields key = field.2 := by
  have ordered := canonical.1
  clear canonical
  induction fields with
  | nil => cases listed
  | cons first fields inductionHypothesis =>
      obtain ⟨below, orderedRest⟩ := List.pairwise_cons.mp ordered
      rcases List.mem_cons.mp listed with rfl | later
      · rw [PyJson.get, List.find?_cons_of_pos (by simpa using isKey)]
        rfl
      · have other : first.1 ≠ PyStr.ofString key := by
          intro same
          have smaller := below field later
          rw [same, isKey] at smaller
          exact absurd smaller (List.lt_irrefl _)
        have later := inductionHypothesis later orderedRest
        rw [PyJson.get] at later ⊢
        rwa [List.find?_cons_of_neg (by simpa using other)]

/-- A mapping is shallow when its members are. -/
theorem shallow_obj
    {fields : PyObject}
    {keys : List String}
    {depth : Nat}
    (canonical : Canonical (.obj fields))
    (hasThem : hasKeys fields keys = true)
    (shallow : ∀ key ∈ keys, Shallow depth (PyJson.get fields key)) :
    Shallow (depth + 1) (.obj fields) := by
  intro field listed
  rw [hasKeys, Bool.and_eq_true, List.all_eq_true, List.all_eq_true] at hasThem
  obtain ⟨key, isListed, isKey⟩ := List.any_eq_true.mp (hasThem.2 field listed)
  rw [← canonical.get_eq_of_mem listed (of_decide_eq_true isKey)]
  exact shallow key isListed

/-! ### Texts of lists -/

/-- The text of a list has no surrogates when those of its items have none. -/
theorem isPlain_render_arr (items : List PyJson) :
    PyStr.isPlain (render (.arr items)) = items.all fun item => PyStr.isPlain (render item) := by
  have later : ∀ items : List PyJson, PyStr.isPlain (renderItems items) =
      items.all fun item => PyStr.isPlain (render item) := by
    intro items
    induction items with
    | nil => rfl
    | cons item items inductionHypothesis =>
        simp only [renderItems, PyStr.isPlain_scalar_cons, PyStr.isPlain_append,
          inductionHypothesis, List.all_cons]
  cases items with
  | nil => rfl
  | cons item items =>
      simp only [render, PyStr.isPlain_scalar_cons, PyStr.isPlain_append, later, List.all_cons]

end PyJson
end QuantumAnalytics
