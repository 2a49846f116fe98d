import Mathlib.Data.List.Sort
import Mathlib.Data.Rat.Defs
import Mathlib.Tactic.IntervalCases
import Std.Data.String.ToInt

/-!
# JSON values and their canonical text

The values that `json.loads` builds and `json.dumps` writes. Members of an
object are listed in key order, so that two equal mappings are the same list;
`ofFields` sorts the members of a mapping given in any order.

`dumps` is `json.dumps` with sorted keys, no blanks and no ASCII escaping. It
is injective: the text of a value determines the value.
-/

namespace QuantumAnalytics

/-- Characters that occur in a JSON number. -/
def isNumberChar (c : Char) : Bool :=
  c.isDigit || c == '-' || c == '+' || c == '.' || c == 'e'

/-- A finite binary float by its shortest decimal text. -/
@[ext] structure FloatToken where
  /-- The text `repr` writes. -/
  text : String
  /-- The text is a JSON number. -/
  isNumber : ∀ c ∈ text.toList, isNumberChar c = true
  /-- The text shows that the number is a float. -/
  isFloat : '.' ∈ text.toList ∨ 'e' ∈ text.toList

/-- A JSON value. -/
inductive Json
  | null
  | bool (value : Bool)
  | int (value : Int)
  | float (token : FloatToken)
  | str (text : String)
  | arr (items : List Json)
  | obj (fields : List (String × Json))

/-- The members of a JSON object, in key order. -/
abbrev JsonObject := List (String × Json)

namespace FloatToken

/-- The digits of a text read as one decimal number. -/
private def digitsValue (text : List Char) : Nat :=
  text.foldl (fun total c => 10 * total + (c.toNat - '0'.toNat)) 0

/-- The number that a float text denotes. -/
def value (token : FloatToken) : ℚ :=
  let unsigned := token.text.toList.filter fun c => c ≠ '+'
  let negative := unsigned.head? = some '-'
  let magnitude := if negative then unsigned.drop 1 else unsigned
  let mantissa := magnitude.takeWhile fun c => c ≠ 'e'
  let exponentText := (magnitude.dropWhile fun c => c ≠ 'e').drop 1
  let fraction := (mantissa.dropWhile fun c => c ≠ '.').drop 1
  let exponent : Int :=
    if exponentText.head? = some '-' then -(digitsValue (exponentText.drop 1) : Int)
    else digitsValue exponentText
  let coefficient : ℚ := digitsValue (mantissa.filter fun c => c ≠ '.')
  (if negative then -coefficient else coefficient) * (10 : ℚ) ^ (exponent - fraction.length)

end FloatToken

namespace Json

/-- Member lookup, `mapping.get(key)`. -/
def lookup (fields : JsonObject) (key : String) : Option Json :=
  (fields.find? fun field => field.1 = key).map Prod.snd

/-- `value.get(key)` on a mapping; every other value has no members. -/
def get? : Json → String → Option Json
  | .obj fields, key => lookup fields key
  | _, _ => none

/-- Truth value of `bool(value)`. -/
def truthy : Json → Bool
  | .null => false
  | .bool value => value
  | .int value => value ≠ 0
  | .float token => token.value ≠ 0
  | .str text => text ≠ ""
  | .arr items => !items.isEmpty
  | .obj fields => !fields.isEmpty

/-- The number that `==` compares: Python treats `True` as `1`. -/
def numeric? : Json → Option ℚ
  | .bool value => some (if value then 1 else 0)
  | .int value => some value
  | .float token => some token.value
  | _ => none

mutual

/-- Python equality of JSON values. -/
def pyEq : Json → Json → Bool
  | .null, .null => true
  | .str left, .str right => left == right
  | .arr left, .arr right => pyEqItems left right
  | .obj left, .obj right => pyEqFields left right
  | left, right =>
      match left.numeric?, right.numeric? with
      | some leftNumber, some rightNumber => leftNumber == rightNumber
      | _, _ => false

/-- Python equality of lists. -/
def pyEqItems : List Json → List Json → Bool
  | [], [] => true
  | left :: lefts, right :: rights => pyEq left right && pyEqItems lefts rights
  | _, _ => false

/-- Python equality of mappings, both listed in key order. -/
def pyEqFields : JsonObject → JsonObject → Bool
  | [], [] => true
  | (leftKey, left) :: lefts, (rightKey, right) :: rights =>
      leftKey == rightKey && pyEq left right && pyEqFields lefts rights
  | _, _ => false

end

mutual

@[simp] theorem pyEq_refl : (value : Json) → pyEq value value = true
  | .null => rfl
  | .bool value => by cases value <;> simp [pyEq, numeric?]
  | .int value => by simp [pyEq, numeric?]
  | .float token => by simp [pyEq, numeric?]
  | .str text => by simp [pyEq]
  | .arr items => by simpa [pyEq] using pyEqItems_refl items
  | .obj fields => by simpa [pyEq] using pyEqFields_refl fields

@[simp] theorem pyEqItems_refl : (items : List Json) → pyEqItems items items = true
  | [] => rfl
  | item :: items => by simp [pyEqItems, pyEq_refl item, pyEqItems_refl items]

@[simp] theorem pyEqFields_refl : (fields : JsonObject) → pyEqFields fields fields = true
  | [] => rfl
  | (key, value) :: fields => by simp [pyEqFields, pyEq_refl value, pyEqFields_refl fields]

end

/-- Members listed in key order. -/
def sortFields (fields : JsonObject) : JsonObject :=
  fields.insertionSort fun left right => left.1 ≤ right.1

/-- The object with the given members. -/
def ofFields (fields : JsonObject) : Json := .obj (sortFields fields)

/-! ### Canonical text -/

/-- Lower-case hexadecimal digit. -/
def hexDigit (n : Nat) : Char := Nat.digitChar (n % 16)

/-- `json.dumps` escape of one character with `ensure_ascii=False`. -/
def escapeChar (c : Char) : List Char :=
  if c = '"' then ['\\', '"']
  else if c = '\\' then ['\\', '\\']
  else if c = '\n' then ['\\', 'n']
  else if c = '\r' then ['\\', 'r']
  else if c = '\t' then ['\\', 't']
  else if c = '\x0c' then ['\\', 'f']
  else if c = '\x08' then ['\\', 'b']
  else if c.toNat < 0x20 then
    ['\\', 'u', '0', '0', hexDigit (c.toNat / 16), hexDigit c.toNat]
  else [c]

/-- A JSON string without its opening quote. -/
def renderString : List Char → List Char
  | [] => ['"']
  | c :: text => escapeChar c ++ renderString text

mutual

/-- The canonical text of a value. -/
def render : Json → List Char
  | .null => ['n', 'u', 'l', 'l']
  | .bool value => if value then ['t', 'r', 'u', 'e'] else ['f', 'a', 'l', 's', 'e']
  | .int value => value.repr.toList
  | .float token => token.text.toList
  | .str text => '"' :: renderString text.toList
  | .arr [] => ['[', ']']
  | .arr (item :: items) => '[' :: (render item ++ renderItems items)
  | .obj [] => ['\x7b', '\x7d']
  | .obj ((key, value) :: fields) =>
      '\x7b' :: '"' :: (renderString key.toList ++ ':' :: (render value ++ renderFields fields))

/-- The rest of an array after its first item. -/
def renderItems : List Json → List Char
  | [] => [']']
  | item :: items => ',' :: (render item ++ renderItems items)

/-- The rest of an object after its first member. -/
def renderFields : JsonObject → List Char
  | [] => ['\x7d']
  | (key, value) :: fields =>
      ',' :: '"' :: (renderString key.toList ++ ':' :: (render value ++ renderFields fields))

end

/-- `json.dumps(value, sort_keys=True, ensure_ascii=False, separators=(",", ":"))`. -/
def dumps (value : Json) : String := String.ofList (render value)

example : dumps (ofFields [("b", .arr [.int (-3), .null]), ("a", .str "x\"\n")]) =
    "\x7b\"a\":\"x\\\"\\n\",\"b\":[-3,null]\x7d" := by decide

/-! ### The canonical text determines the value -/

/-- Undo one escape. -/
private def unescape : List Char → Option (Char × List Char)
  | '\\' :: 'u' :: '0' :: '0' :: high :: low :: rest =>
      let digit := fun c : Char => if c.isDigit then c.toNat - 48 else c.toNat - 87
      some (Char.ofNat (16 * digit high + digit low), rest)
  | '\\' :: 'n' :: rest => some ('\n', rest)
  | '\\' :: 'r' :: rest => some ('\r', rest)
  | '\\' :: 't' :: rest => some ('\t', rest)
  | '\\' :: 'f' :: rest => some ('\x0c', rest)
  | '\\' :: 'b' :: rest => some ('\x08', rest)
  | '\\' :: c :: rest => some (c, rest)
  | c :: rest => some (c, rest)
  | [] => none

private theorem unescape_escapeChar
    (c : Char)
    (rest : List Char) :
    unescape (escapeChar c ++ rest) = some (c, rest) := by
  unfold escapeChar
  split_ifs with quote backslash newline carriage tab formfeed backspace control
  all_goals try (subst c; rfl)
  · have rebuilt : c = Char.ofNat c.toNat := (Char.ofNat_toNat c).symm
    generalize c.toNat = n at control rebuilt
    subst rebuilt
    interval_cases n <;> rfl
  · rw [List.cons_append, List.nil_append]
    unfold unescape
    split <;> simp_all

private theorem escapeChar_head (c : Char) : ∃ d rest, escapeChar c = d :: rest ∧ d ≠ '"' := by
  unfold escapeChar
  split_ifs with quote
  all_goals exact ⟨_, _, rfl, by first | decide | exact quote⟩

/-- A string text ends at its own closing quote. -/
theorem renderString_cancel
    {left right rest rest' : List Char}
    (same : renderString left ++ rest = renderString right ++ rest') :
    left = right ∧ rest = rest' := by
  induction left generalizing right with
  | nil =>
      cases right with
      | nil => exact ⟨rfl, List.cons.inj same |>.2⟩
      | cons d right =>
          obtain ⟨e, tail, shape, notQuote⟩ := escapeChar_head d
          simp only [renderString, shape, List.cons_append, List.cons.injEq] at same
          exact absurd same.1.symm notQuote
  | cons c left inductionHypothesis =>
      cases right with
      | nil =>
          obtain ⟨e, tail, shape, notQuote⟩ := escapeChar_head c
          simp only [renderString, shape, List.cons_append, List.cons.injEq] at same
          exact absurd same.1 notQuote
      | cons d right =>
          simp only [renderString, List.append_assoc] at same
          have decoded := congrArg unescape same
          rw [unescape_escapeChar, unescape_escapeChar] at decoded
          simp only [Option.some.injEq, Prod.mk.injEq] at decoded
          obtain ⟨rfl, tails⟩ := decoded
          obtain ⟨rfl, rfl⟩ := inductionHypothesis tails
          exact ⟨rfl, rfl⟩

/-- The text after a value does not continue a number. -/
def Delimited (rest : List Char) : Prop :=
  ∀ c ∈ rest.head?, isNumberChar c = false

/-- A maximal run of number characters is determined by the text. -/
private theorem number_cancel
    {left right rest rest' : List Char}
    (leftNumber : ∀ c ∈ left, isNumberChar c = true)
    (rightNumber : ∀ c ∈ right, isNumberChar c = true)
    (delimited : Delimited rest)
    (delimited' : Delimited rest')
    (same : left ++ rest = right ++ rest') :
    left = right ∧ rest = rest' := by
  have run : ∀ {token tail : List Char}, (∀ c ∈ token, isNumberChar c = true) →
      Delimited tail → (token ++ tail).takeWhile isNumberChar = token := by
    intro token tail number ends
    rw [List.takeWhile_append_of_pos number]
    cases tail with
    | nil => simp
    | cons c tail => simp [ends c (by simp)]
  have tokens : left = right := by
    rw [← run leftNumber delimited, same, run rightNumber delimited']
  subst tokens
  exact ⟨rfl, List.append_cancel_left same⟩

private theorem digit_isNumberChar {c : Char} (digit : c.isDigit = true) :
    isNumberChar c = true := by
  simp [isNumberChar, digit]

/-- An integer text consists of digits after an optional sign. -/
private theorem mem_repr_int
    {value : Int}
    {c : Char}
    (present : c ∈ value.repr.toList) : c.isDigit = true ∨ c = '-' := by
  cases value with
  | ofNat n =>
      refine Or.inl (Nat.isDigit_of_mem_toDigits (b := 10) (n := n) (by decide) (by decide) ?_)
      simpa [Int.repr] using present
  | negSucc n =>
      have parts : c = '-' ∨ c ∈ (n + 1).repr.toList := by
        simpa [Int.repr, String.toList_append] using present
      refine parts.symm.imp_left fun digits => ?_
      exact Nat.isDigit_of_mem_toDigits (b := 10) (n := n + 1) (by decide) (by decide)
        (by simpa using digits)

private theorem int_isNumber
    (value : Int) :
    ∀ c ∈ value.repr.toList, isNumberChar c = true := by
  intro c present
  rcases mem_repr_int present with digit | rfl
  · exact digit_isNumberChar digit
  · rfl

/-- An integer text is never a float text. -/
private theorem int_ne_float (value : Int) (token : FloatToken) :
    value.repr.toList ≠ token.text.toList := by
  intro same
  rcases token.isFloat with point | exponent
  · rw [← same] at point
    rcases mem_repr_int point with digit | equal
    · exact absurd digit (by decide)
    · exact absurd equal (by decide)
  · rw [← same] at exponent
    rcases mem_repr_int exponent with digit | equal
    · exact absurd digit (by decide)
    · exact absurd equal (by decide)

/-- The kind of value that starts with a character. -/
private def headKind (c : Char) : Nat :=
  if c = 'n' then 0
  else if c = 't' then 1
  else if c = 'f' then 2
  else if c = '"' then 3
  else if c = '[' then 4
  else if c = '\x7b' then 5
  else if isNumberChar c then 6
  else 7

/-- The kind of a value, as its first character shows it. -/
private def kind : Json → Nat
  | .null => 0
  | .bool value => if value then 1 else 2
  | .str _ => 3
  | .arr _ => 4
  | .obj _ => 5
  | .int _ => 6
  | .float _ => 6

private theorem headKind_of_isNumberChar {c : Char} (number : isNumberChar c = true) :
    headKind c = 6 := by
  unfold headKind
  split_ifs with isN isT isF isQuote isBracket isBrace
  all_goals first | rfl | (subst c; exact absurd number (by decide))

private theorem number_head
    {token : List Char}
    (nonempty : token ≠ [])
    (number : ∀ c ∈ token, isNumberChar c = true)
    (rest : List Char) :
    (token ++ rest).head?.map headKind = some 6 := by
  cases token with
  | nil => exact absurd rfl nonempty
  | cons c token => simp [headKind_of_isNumberChar (number c (by simp))]

private theorem render_head (value : Json) (rest : List Char) :
    (render value ++ rest).head?.map headKind = some (kind value) := by
  cases value with
  | null => rfl
  | bool value => cases value <;> rfl
  | int value =>
      refine number_head ?_ (int_isNumber value) rest
      intro empty
      cases value with
      | ofNat n => simp [Int.repr] at empty
      | negSucc n => simp [Int.repr, String.toList_append] at empty
  | float token =>
      refine number_head ?_ token.isNumber rest
      intro empty
      rcases token.isFloat with point | exponent <;> simp_all
  | str text => rfl
  | arr items => cases items <;> rfl
  | obj fields => cases fields <;> rfl

private theorem renderItems_delimited (items : List Json) (rest : List Char) :
    Delimited (renderItems items ++ rest) := by
  cases items <;> simp [Delimited, renderItems, isNumberChar]

private theorem renderFields_delimited (fields : JsonObject) (rest : List Char) :
    Delimited (renderFields fields ++ rest) := by
  cases fields with
  | nil => simp [Delimited, renderFields, isNumberChar]
  | cons field fields => simp [Delimited, renderFields, isNumberChar]

private theorem kind_eq
    {left right : Json}
    {rest rest' : List Char}
    (same : render left ++ rest = render right ++ rest') : kind left = kind right := by
  have heads := congrArg (fun text => text.head?.map headKind) same
  simpa only [render_head, Option.some.injEq] using heads

/-- No value starts with a closing bracket. -/
private theorem render_ne_close
    (value : Json)
    (rest rest' : List Char) :
    render value ++ rest ≠ ']' :: rest' := by
  intro same
  have heads := render_head value rest
  rw [same] at heads
  have closing : kind value = 7 := by
    simpa [headKind, isNumberChar, eq_comm] using heads
  cases value with
  | bool value => cases value <;> simp [kind] at closing
  | _ => simp [kind] at closing

mutual

/-- The text of a value ends where the value does: neither the value nor the
text after it can be read in two ways. -/
theorem render_cancel : (left right : Json) → {rest rest' : List Char} →
    Delimited rest → Delimited rest' → render left ++ rest = render right ++ rest' →
    left = right ∧ rest = rest'
  | .null, right, rest, rest', _, _, same => by
      have kinds := kind_eq same
      cases right with
      | null => exact ⟨rfl, List.append_cancel_left same⟩
      | bool value => cases value <;> simp [kind] at kinds
      | _ => simp [kind] at kinds
  | .bool left, right, rest, rest', _, _, same => by
      have kinds := kind_eq same
      cases right with
      | bool right =>
          have equal : left = right := by
            cases left <;> cases right <;> simp [kind] at kinds ⊢
          subst equal
          exact ⟨rfl, List.append_cancel_left same⟩
      | _ => cases left <;> simp [kind] at kinds
  | .int left, right, rest, rest', delimited, delimited', same => by
      have kinds := kind_eq same
      cases right with
      | int right =>
          obtain ⟨texts, tails⟩ := number_cancel (int_isNumber left) (int_isNumber right)
            delimited delimited' same
          exact ⟨congrArg Json.int (Int.repr_injective (String.toList_injective texts)), tails⟩
      | float token =>
          obtain ⟨texts, _⟩ := number_cancel (int_isNumber left) token.isNumber
            delimited delimited' same
          exact absurd texts (int_ne_float left token)
      | bool value => cases value <;> simp [kind] at kinds
      | _ => simp [kind] at kinds
  | .float left, right, rest, rest', delimited, delimited', same => by
      have kinds := kind_eq same
      cases right with
      | int right =>
          obtain ⟨texts, _⟩ := number_cancel left.isNumber (int_isNumber right)
            delimited delimited' same
          exact absurd texts.symm (int_ne_float right left)
      | float right =>
          obtain ⟨texts, tails⟩ := number_cancel left.isNumber right.isNumber
            delimited delimited' same
          have tokens : left = right := FloatToken.ext (String.toList_injective texts)
          exact ⟨congrArg Json.float tokens, tails⟩
      | bool value => cases value <;> simp [kind] at kinds
      | _ => simp [kind] at kinds
  | .str left, right, rest, rest', _, _, same => by
      have kinds := kind_eq same
      cases right with
      | str right =>
          obtain ⟨texts, tails⟩ := renderString_cancel (List.cons.inj same).2
          exact ⟨congrArg Json.str (String.toList_injective texts), tails⟩
      | bool value => cases value <;> simp [kind] at kinds
      | _ => simp [kind] at kinds
  | .arr left, right, rest, rest', _, _, same => by
      have kinds := kind_eq same
      cases right with
      | arr right =>
          cases left with
          | nil =>
              cases right with
              | nil => exact ⟨rfl, List.append_cancel_left same⟩
              | cons item right =>
                  simp only [render, List.cons_append, List.nil_append, List.append_assoc,
                    List.cons.injEq, true_and] at same
                  exact absurd same.symm (render_ne_close item _ _)
          | cons item left =>
              cases right with
              | nil =>
                  simp only [render, List.cons_append, List.nil_append, List.append_assoc,
                    List.cons.injEq, true_and] at same
                  exact absurd same (render_ne_close item _ _)
              | cons other right =>
                  simp only [render, List.cons_append, List.append_assoc,
                    List.cons.injEq, true_and] at same
                  obtain ⟨rfl, tails⟩ := render_cancel item other
                    (renderItems_delimited left rest) (renderItems_delimited right rest') same
                  obtain ⟨rfl, rfl⟩ := renderItems_cancel left right tails
                  exact ⟨rfl, rfl⟩
      | bool value => cases value <;> simp [kind] at kinds
      | _ => simp [kind] at kinds
  | .obj left, right, rest, rest', _, _, same => by
      have kinds := kind_eq same
      cases right with
      | obj right =>
          cases left with
          | nil =>
              cases right with
              | nil => exact ⟨rfl, List.append_cancel_left same⟩
              | cons field right =>
                  simp [render] at same
          | cons field left =>
              cases right with
              | nil => simp [render] at same
              | cons other right =>
                  obtain ⟨leftKey, leftValue⟩ := field
                  obtain ⟨rightKey, rightValue⟩ := other
                  simp only [render, List.cons_append, List.append_assoc,
                    List.cons.injEq, true_and] at same
                  obtain ⟨keys, members⟩ := renderString_cancel same
                  obtain ⟨rfl, tails⟩ := render_cancel leftValue rightValue
                    (renderFields_delimited left rest) (renderFields_delimited right rest')
                    (List.cons.inj members).2
                  obtain ⟨rfl, rfl⟩ := renderFields_cancel left right tails
                  rw [String.toList_injective keys]
                  exact ⟨rfl, rfl⟩
      | bool value => cases value <;> simp [kind] at kinds
      | _ => simp [kind] at kinds

/-- The rest of an array ends at its own bracket. -/
theorem renderItems_cancel : (left right : List Json) → {rest rest' : List Char} →
    renderItems left ++ rest = renderItems right ++ rest' →
    left = right ∧ rest = rest'
  | [], [], _, _, same => ⟨rfl, (List.cons.inj same).2⟩
  | [], _ :: _, _, _, same => by simp [renderItems] at same
  | _ :: _, [], _, _, same => by simp [renderItems] at same
  | item :: left, other :: right, rest, rest', same => by
      simp only [renderItems, List.cons_append, List.append_assoc,
        List.cons.injEq, true_and] at same
      obtain ⟨rfl, tails⟩ := render_cancel item other
        (renderItems_delimited left rest) (renderItems_delimited right rest') same
      obtain ⟨rfl, rfl⟩ := renderItems_cancel left right tails
      exact ⟨rfl, rfl⟩

/-- The rest of an object ends at its own brace. -/
theorem renderFields_cancel : (left right : JsonObject) → {rest rest' : List Char} →
    renderFields left ++ rest = renderFields right ++ rest' →
    left = right ∧ rest = rest'
  | [], [], _, _, same => ⟨rfl, (List.cons.inj same).2⟩
  | [], _ :: _, _, _, same => by simp [renderFields] at same
  | _ :: _, [], _, _, same => by simp [renderFields] at same
  | (leftKey, leftValue) :: left, (rightKey, rightValue) :: right, rest, rest', same => by
      simp only [renderFields, List.cons_append, List.append_assoc,
        List.cons.injEq, true_and] at same
      obtain ⟨keys, members⟩ := renderString_cancel same
      obtain ⟨rfl, tails⟩ := render_cancel leftValue rightValue
        (renderFields_delimited left rest) (renderFields_delimited right rest')
        (List.cons.inj members).2
      obtain ⟨rfl, rfl⟩ := renderFields_cancel left right tails
      rw [String.toList_injective keys]
      exact ⟨rfl, rfl⟩

end

/-- Different values have different canonical texts. -/
theorem dumps_injective : Function.Injective dumps := by
  intro left right same
  have texts : render left ++ [] = render right ++ [] := by
    simpa using String.ofList_injective same
  exact (render_cancel left right (by simp [Delimited]) (by simp [Delimited]) texts).1

end Json
end QuantumAnalytics
