import Mathlib.Data.List.Lex
import QuantumAnalytics.Foundations.Checks
import QuantumAnalytics.Foundations.Floats
import QuantumAnalytics.Foundations.PyString
import QuantumAnalytics.Foundations.Sha256

/-!
# Decoded JSON documents

Everything that `json.loads` can return: strings may hold surrogates, numbers
may be infinite or `NaN`. Members of an object are listed in key order, so that
two equal mappings are the same list.

`dumps` is `json.dumps` with sorted keys, no blanks, no ASCII escaping and
`allow_nan=False`. It fails on a float without a JSON text, on an integer with
too many digits and on containers nested too deeply for the interpreter.
-/

namespace QuantumAnalytics

/-- What the interpreter leaves to the encoder and the decoder. -/
structure Interpreter where
  /-- How deep lists and mappings may be nested before a `RecursionError`. -/
  nesting : Nat
  /-- The stack is not full when a document is read. -/
  roomy : 16 ≤ nesting

/-- A value that `json.loads` returns. -/
inductive PyJson
  | null
  | bool (value : Bool)
  | int (value : Int)
  | float (value : PyFloat)
  | str (text : PyStr)
  | arr (items : List PyJson)
  | obj (fields : List (PyStr × PyJson))

/-- The members of a mapping, in key order. -/
abbrev PyObject := List (PyStr × PyJson)

namespace PyJson

/-- A string value. -/
def ofText (text : String) : PyJson := .str (PyStr.ofString text)

/-- `mapping.get(key)`; `None` stands for a missing member. -/
def get (fields : PyObject) (key : String) : PyJson :=
  ((fields.find? fun field => field.1 = PyStr.ofString key).map Prod.snd).getD .null

/-- `set(mapping) == set(keys)`. -/
def hasKeys (fields : PyObject) (keys : List String) : Bool :=
  (keys.all fun key => fields.any fun field => field.1 = PyStr.ofString key) &&
    fields.all fun field => keys.any fun key => field.1 = PyStr.ofString key

/-! ### Documents -/

mutual

/-- Every mapping in the value lists its members in key order, each key once. -/
def Canonical : PyJson → Prop
  | .arr items => CanonicalItems items
  | .obj fields => (fields.Pairwise fun left right => left.1.ords < right.1.ords) ∧
      CanonicalFields fields
  | _ => True

/-- The items are canonical. -/
def CanonicalItems : List PyJson → Prop
  | [] => True
  | item :: items => Canonical item ∧ CanonicalItems items

/-- The values of the members are canonical. -/
def CanonicalFields : PyObject → Prop
  | [] => True
  | (_, value) :: fields => Canonical value ∧ CanonicalFields fields

end

theorem CanonicalItems.of_mem
    {items : List PyJson}
    (canonical : CanonicalItems items) : ∀ item ∈ items, Canonical item := by
  induction items with
  | nil => simp
  | cons first items inductionHypothesis =>
      rintro item (_ | ⟨_, present⟩)
      · exact canonical.1
      · exact inductionHypothesis canonical.2 item present

theorem CanonicalFields.of_mem
    {fields : PyObject}
    (canonical : CanonicalFields fields) : ∀ field ∈ fields, Canonical field.2 := by
  induction fields with
  | nil => simp
  | cons first fields inductionHypothesis =>
      rintro field (_ | ⟨_, present⟩)
      · exact canonical.1
      · exact inductionHypothesis canonical.2 field present

/-- The members of a canonical mapping are canonical. -/
theorem Canonical.get
    {fields : PyObject}
    (canonical : Canonical (.obj fields))
    (key : String) : Canonical (get fields key) := by
  unfold PyJson.get
  cases found : fields.find? fun field => field.1 = PyStr.ofString key with
  | none => trivial
  | some field => exact canonical.2.of_mem field (List.mem_of_find?_eq_some found)

/-- The keys of a canonical mapping with the given keys are those in order. -/
theorem Canonical.keys_eq
    {fields : PyObject}
    {keys : List String}
    (canonical : Canonical (.obj fields))
    (hasThem : hasKeys fields keys = true)
    (inOrder : (keys.map fun key => (PyStr.ofString key).ords).Pairwise (· < ·)) :
    fields.map Prod.fst = keys.map PyStr.ofString := by
  simp only [hasKeys, Bool.and_eq_true, List.all_eq_true, List.any_eq_true,
    decide_eq_true_eq] at hasThem
  obtain ⟨present, only⟩ := hasThem
  have sorted : (fields.map fun field => field.1.ords).Pairwise (· < ·) :=
    List.pairwise_map.mpr canonical.1
  have same : (fields.map fun field => field.1.ords) =
      keys.map fun key => (PyStr.ofString key).ords := by
    apply List.Perm.eq_of_pairwise _ sorted inOrder
    · rw [List.perm_ext_iff_of_nodup sorted.nodup inOrder.nodup]
      intro ords
      simp only [List.mem_map]
      constructor
      · rintro ⟨field, isField, rfl⟩
        obtain ⟨key, isKey, same⟩ := only field isField
        exact ⟨key, isKey, by rw [same]⟩
      · rintro ⟨key, isKey, rfl⟩
        obtain ⟨field, isField, same⟩ := present key isKey
        exact ⟨field, isField, by rw [same]⟩
    · exact fun left right _ _ below above => absurd below (List.lt_asymm above)
  apply List.map_injective_iff.mpr PyStr.ords_injective
  rw [List.map_map, List.map_map]
  exact same

/-! ### Equality -/

/-- The number that `==` compares: Python treats `True` as `1`. -/
def numeric? : PyJson → Option ℚ
  | .bool value => some (if value then 1 else 0)
  | .int value => some value
  | .float value => value.value?
  | _ => none

/-- Equality of two values that are neither strings nor containers. -/
def pyEqScalar : PyJson → PyJson → Bool
  | .null, .null => true
  | .float (.infinite left), .float (.infinite right) => left == right
  | left, right =>
      match left.numeric?, right.numeric? with
      | some leftNumber, some rightNumber => leftNumber == rightNumber
      | _, _ => false

/-- The decoder has one `NaN` object, and a container is compared by identity
before its items are compared as values. -/
def sameNan : PyJson → PyJson → Bool
  | .float .nan, .float .nan => true
  | _, _ => false

mutual

/-- `left == right`. -/
def pyEq : PyJson → PyJson → Bool
  | .str left, .str right => left == right
  | .arr left, .arr right => pyEqItems left right
  | .obj left, .obj right => pyEqFields left right
  | left, right => pyEqScalar left right

/-- `==` on lists. -/
def pyEqItems : List PyJson → List PyJson → Bool
  | [], [] => true
  | left :: lefts, right :: rights =>
      (sameNan left right || pyEq left right) && pyEqItems lefts rights
  | _, _ => false

/-- `==` on mappings. -/
def pyEqFields : PyObject → PyObject → Bool
  | [], [] => true
  | (leftKey, left) :: lefts, (rightKey, right) :: rights =>
      leftKey == rightKey && (sameNan left right || pyEq left right) && pyEqFields lefts rights
  | _, _ => false

end

/-- `value == text` for a string literal. -/
def isText (value : PyJson) (text : String) : Bool := pyEq value (ofText text)

/-- Only a string equals a string. -/
theorem pyEq_str_iff
    {value : PyJson}
    {text : PyStr} : pyEq value (.str text) = true ↔ value = .str text := by
  cases value with
  | str other => simp [pyEq]
  | _ => simp [pyEq, pyEqScalar, numeric?]

theorem isText_iff
    {value : PyJson}
    {text : String} : value.isText text = true ↔ value = ofText text := pyEq_str_iff

/-- `value is None`. -/
def isNone : PyJson → Bool
  | .null => true
  | _ => false

/-- `isinstance(value, str) and value in allowed`. -/
def isAllowedString (value : PyJson) (allowed : List String) : Bool :=
  allowed.any value.isText

/-- `isinstance(value, str) and bool(value)`. -/
def isNonemptyString : PyJson → Bool
  | .str text => !text.isEmpty
  | _ => false

theorem exists_str_of_isNonemptyString
    {value : PyJson}
    (nonempty : value.isNonemptyString = true) : ∃ text, value = .str text ∧ text ≠ [] := by
  cases value with
  | str text => exact ⟨text, rfl, by simpa [isNonemptyString] using nonempty⟩
  | _ => simp [isNonemptyString] at nonempty

theorem exists_text_of_isAllowedString
    {value : PyJson}
    {allowed : List String}
    (isAllowed : value.isAllowedString allowed = true) :
    ∃ text ∈ allowed, value = ofText text := by
  rw [isAllowedString, List.any_eq_true] at isAllowed
  obtain ⟨text, present, same⟩ := isAllowed
  exact ⟨text, present, isText_iff.mp same⟩

/-- An `int` other than a `bool` with the given property. -/
def isIntWith (holds : Int → Bool) : PyJson → Bool
  | .int value => holds value
  | _ => false

/-- `isinstance(value, int) and not isinstance(value, bool) and value > 0`. -/
def isPositiveInt (value : PyJson) : Bool := value.isIntWith fun n => 0 < n

/-- `isinstance(value, int) and not isinstance(value, bool) and value >= 0`. -/
def isNonNegativeInt (value : PyJson) : Bool := value.isIntWith fun n => 0 ≤ n

theorem exists_int_of_isIntWith
    {holds : Int → Bool}
    {value : PyJson}
    (isInt : value.isIntWith holds = true) : ∃ n, value = .int n ∧ holds n = true := by
  cases value with
  | int n => exact ⟨n, rfl, isInt⟩
  | _ => simp [isIntWith] at isInt

/-- A string without surrogates with the given property. -/
def isTextWith (holds : String → Bool) : PyJson → Bool
  | .str text => (PyStr.text? text).any holds
  | _ => false

theorem exists_text_of_isTextWith
    {holds : String → Bool}
    {value : PyJson}
    (isText : value.isTextWith holds = true) :
    ∃ text, value = ofText text ∧ holds text = true := by
  cases value with
  | str point =>
      rw [isTextWith, Option.any_eq_true] at isText
      obtain ⟨text, plain, held⟩ := isText
      rw [PyStr.text?, Option.map_eq_some_iff] at plain
      obtain ⟨chars, plainChars, rfl⟩ := plain
      refine ⟨String.ofList chars, ?_, held⟩
      rw [ofText, PyStr.ofString, String.toList_ofList, PyStr.chars?_eq_some_iff.mp plainChars]
  | _ => simp [isTextWith] at isText

/-- `^[a-f0-9]{64}$` on the whole value. -/
def isHash (value : PyJson) : Bool := value.isTextWith PyText.isHexDigest

/-- `datetime.fromisoformat(value.replace("Z", "+00:00"))` is an aware time. -/
def isDatetime : PyJson → Bool
  | .str text => PyStr.isAwareIsoFormat text
  | _ => false

/-! ### Canonical text -/

/-- `json.dumps` escape of one code point with `ensure_ascii=False`. -/
def escapePoint : CodePoint → PyStr
  | .scalar c => PyStr.ofChars (Json.escapeChar c)
  | .surrogate offset => [.surrogate offset]

/-- A string without its opening quote. -/
def renderString : PyStr → PyStr
  | [] => [.scalar '"']
  | point :: text => escapePoint point ++ renderString text

/-- The text of a float, as `float.__repr__` and the encoder write it. -/
def renderFloat : PyFloat → List Char
  | .finite token _ => token.text.toList
  | .infinite negative => if negative then "-Infinity".toList else "Infinity".toList
  | .nan => "NaN".toList

mutual

/-- The canonical text of a value. -/
def render : PyJson → PyStr
  | .null => PyStr.ofChars ['n', 'u', 'l', 'l']
  | .bool value =>
      PyStr.ofChars (if value then ['t', 'r', 'u', 'e'] else ['f', 'a', 'l', 's', 'e'])
  | .int value => PyStr.ofChars value.repr.toList
  | .float value => PyStr.ofChars (renderFloat value)
  | .str text => .scalar '"' :: renderString text
  | .arr [] => PyStr.ofChars ['[', ']']
  | .arr (item :: items) => .scalar '[' :: (render item ++ renderItems items)
  | .obj [] => PyStr.ofChars ['\x7b', '\x7d']
  | .obj ((key, value) :: fields) =>
      .scalar '\x7b' :: .scalar '"' ::
        (renderString key ++ .scalar ':' :: (render value ++ renderFields fields))

/-- The rest of an array after its first item. -/
def renderItems : List PyJson → PyStr
  | [] => [.scalar ']']
  | item :: items => .scalar ',' :: (render item ++ renderItems items)

/-- The rest of an object after its first member. -/
def renderFields : PyObject → PyStr
  | [] => [.scalar '\x7d']
  | (key, value) :: fields =>
      .scalar ',' :: .scalar '"' ::
        (renderString key ++ .scalar ':' :: (render value ++ renderFields fields))

end

/-- What `json.dumps` raises. -/
inductive DumpsError
  /-- `ValueError`. -/
  | value
  /-- `RecursionError`. -/
  | recursion
  deriving DecidableEq

/-- `str(value)` of an integer has a text: `sys.get_int_max_str_digits()`. -/
def isShortInt (value : Int) : Bool := (Nat.toDigits 10 value.natAbs).length ≤ PyText.maxIntDigits

mutual

/-- The first failure of the encoder, which enters containers in order and has
room for the given number of nested ones. -/
def checkEncodable : Nat → PyJson → Except DumpsError Unit
  | _, .null => .ok ()
  | _, .bool _ => .ok ()
  | _, .int value => require (isShortInt value) .value
  | _, .float (.finite _ _) => .ok ()
  | _, .float _ => .error .value
  | _, .str _ => .ok ()
  | 0, .arr _ => .error .recursion
  | room + 1, .arr items => checkItems room items
  | 0, .obj _ => .error .recursion
  | room + 1, .obj fields => checkFields room fields

/-- The items of a list in order. -/
def checkItems : Nat → List PyJson → Except DumpsError Unit
  | _, [] => .ok ()
  | room, item :: items => do
      checkEncodable room item
      checkItems room items

/-- The members of a mapping in order. -/
def checkFields : Nat → PyObject → Except DumpsError Unit
  | _, [] => .ok ()
  | room, (_, value) :: fields => do
      checkEncodable room value
      checkFields room fields

end

/-- `json.dumps(value, ensure_ascii=False, sort_keys=True,
separators=(",", ":"), allow_nan=False)`. -/
def dumps (interpreter : Interpreter) (value : PyJson) : Except DumpsError PyStr := do
  checkEncodable interpreter.nesting value
  return render value

/-- The members of a mapping whose keys are not excluded. -/
def without (fields : PyObject) (excluded : String) : PyObject :=
  fields.filter fun field => field.1 ≠ PyStr.ofString excluded

/-- Members listed in key order. -/
def sortFields (fields : PyObject) : PyObject :=
  fields.insertionSort fun left right => left.1.ords ≤ right.1.ords

/-- The mapping with the given members. -/
def ofFields (fields : List (String × PyJson)) : PyJson :=
  .obj (sortFields (fields.map fun field => (PyStr.ofString field.1, field.2)))

end PyJson

/-- A document, as `json.loads` builds it. -/
structure PyDocument where
  /-- The value. -/
  value : PyJson
  /-- Every mapping has each key once. -/
  canonical : value.Canonical

end QuantumAnalytics
