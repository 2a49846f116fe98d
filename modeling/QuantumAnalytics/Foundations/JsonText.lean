import QuantumAnalytics.Foundations.JsonRoundTrip

/-!
# The code points of canonical text

Canonical text escapes control characters, and outside of ASCII it holds the
code points of the strings of the document and no others.
-/

namespace QuantumAnalytics
namespace PyJson

mutual

/-- The code points of the strings and the keys in a value. -/
def points : PyJson → PyStr
  | .str text => text
  | .arr items => pointsOfItems items
  | .obj fields => pointsOfFields fields
  | _ => []

/-- The code points in the items. -/
def pointsOfItems : List PyJson → PyStr
  | [] => []
  | item :: items => points item ++ pointsOfItems items

/-- The code points in the members. -/
def pointsOfFields : PyObject → PyStr
  | [] => []
  | (key, value) :: fields => key ++ points value ++ pointsOfFields fields

end

/-- A text of printable ASCII characters. -/
def IsAscii (text : PyStr) : Prop := ∀ point ∈ text, 0x20 ≤ point.ord ∧ point.ord < 0x80

/-- A text that holds, outside of printable ASCII, exactly the code points of
another text that are not control characters. -/
structure Holds (text points : PyStr) : Prop where
  printable : ∀ point ∈ text, 0x20 ≤ point.ord
  same : ∀ point, 0x80 ≤ point.ord → (point ∈ text ↔ point ∈ points)

theorem Holds.append
    {first second points others : PyStr}
    (holdsFirst : Holds first points)
    (holdsSecond : Holds second others) : Holds (first ++ second) (points ++ others) where
  printable point member := (List.mem_append.mp member).elim (holdsFirst.printable point)
    (holdsSecond.printable point)
  same point high := by
    rw [List.mem_append, List.mem_append, holdsFirst.same point high, holdsSecond.same point high]

theorem Holds.of_isAscii {text : PyStr} (ascii : IsAscii text) : Holds text [] where
  printable point member := (ascii point member).1
  same point high := by
    constructor
    · intro member
      have := (ascii point member).2
      omega
    · intro member
      simp at member

theorem Holds.cons_ascii
    {text points : PyStr}
    {c : Char}
    (ascii : 0x20 ≤ c.toNat ∧ c.toNat < 0x80)
    (holds : Holds text points) : Holds (.scalar c :: text) points := by
  have first : Holds [.scalar c] [] := Holds.of_isAscii fun point member => by
    rw [List.mem_singleton.mp member]
    exact ascii
  exact first.append holds

theorem isAscii_ofChars
    {text : List Char}
    (ascii : ∀ c ∈ text, 0x20 ≤ c.toNat ∧ c.toNat < 0x80) : IsAscii (PyStr.ofChars text) := by
  intro point member
  obtain ⟨c, listed, rfl⟩ := List.mem_map.mp member
  exact ascii c listed

/-- A character of printable ASCII. -/
def isPrintable (c : Char) : Bool := decide (0x20 ≤ c.toNat) && decide (c.toNat < 0x80)

theorem isAscii_literal
    {text : List Char}
    (printable : text.all isPrintable = true) : IsAscii (PyStr.ofChars text) := by
  apply isAscii_ofChars
  intro c listed
  have ascii := List.all_eq_true.mp printable c listed
  rwa [isPrintable, Bool.and_eq_true, decide_eq_true_iff, decide_eq_true_iff] at ascii

/-- A literal of printable ASCII characters. -/
theorem holds_literal
    (text : List Char)
    (printable : text.all isPrintable = true) : Holds (PyStr.ofChars text) [] :=
  Holds.of_isAscii (isAscii_literal printable)

/-- A character of a number text is printable ASCII. -/
theorem ascii_of_isNumberPart
    {c : Char}
    (number : JsonDecoder.isNumberPart c = true) : 0x20 ≤ c.toNat ∧ c.toNat < 0x80 := by
  simp only [JsonDecoder.isNumberPart, isNumberChar, Bool.or_eq_true, beq_iff_eq] at number
  rcases number with ((((digit | rfl) | rfl) | rfl) | rfl) | rfl
  · have range := Char.isDigit_iff_toNat.mp digit
    have zero : '0'.toNat = 48 := rfl
    have nine : '9'.toNat = 57 := rfl
    omega
  all_goals decide

theorem ascii_hexDigit (n : Nat) :
    0x20 ≤ (Json.hexDigit n).toNat ∧ (Json.hexDigit n).toNat < 0x80 := by
  have small : n % 16 < 16 := Nat.mod_lt n (by decide)
  unfold Json.hexDigit
  interval_cases n % 16 <;> decide

/-- The text of a code point. -/
theorem holds_escapePoint (point : CodePoint) : Holds (escapePoint point) [point] := by
  have single : 0x20 ≤ point.ord → Holds [point] [point] := fun printable =>
    ⟨fun other member => by rwa [List.mem_singleton.mp member], fun _ _ => Iff.rfl⟩
  cases point with
  | surrogate offset =>
      apply single
      change 0x20 ≤ 0xd800 + offset.val
      omega
  | scalar c =>
      -- An escape is ASCII, and so is what it stands for.
      have escaped : ∀ text : List Char, IsAscii (PyStr.ofChars text) → c.toNat < 0x80 →
          Holds (PyStr.ofChars text) [.scalar c] := by
        intro text ascii low
        refine ⟨fun point member => (ascii point member).1, fun point high => ?_⟩
        constructor
        · intro member
          have := (ascii point member).2
          omega
        · intro member
          rw [List.mem_singleton.mp member] at high
          change 0x80 ≤ c.toNat at high
          omega
      rw [escapePoint]
      unfold Json.escapeChar
      split_ifs with quote backslash newline carriage tab formfeed backspace control
      · exact escaped _ (isAscii_literal (by decide)) (by rw [quote]; decide)
      · exact escaped _ (isAscii_literal (by decide)) (by rw [backslash]; decide)
      · exact escaped _ (isAscii_literal (by decide)) (by rw [newline]; decide)
      · exact escaped _ (isAscii_literal (by decide)) (by rw [carriage]; decide)
      · exact escaped _ (isAscii_literal (by decide)) (by rw [tab]; decide)
      · exact escaped _ (isAscii_literal (by decide)) (by rw [formfeed]; decide)
      · exact escaped _ (isAscii_literal (by decide)) (by rw [backspace]; decide)
      · refine escaped _ (isAscii_ofChars fun d listed => ?_) (by omega)
        simp only [List.mem_cons, List.not_mem_nil, or_false] at listed
        rcases listed with rfl | rfl | rfl | rfl | rfl | rfl
        · decide
        · decide
        · decide
        · decide
        · exact ascii_hexDigit _
        · exact ascii_hexDigit _
      · apply single
        change 0x20 ≤ c.toNat
        omega

/-- The text of a string. -/
theorem holds_renderString (text : PyStr) : Holds (renderString text) text := by
  induction text with
  | nil => exact holds_literal ['"'] (by decide)
  | cons point text inductionHypothesis =>
      rw [renderString]
      exact (holds_escapePoint point).append inductionHypothesis

/-- The text of a float. -/
theorem holds_renderFloat (value : PyFloat) : Holds (PyStr.ofChars (renderFloat value)) [] := by
  cases value with
  | finite token shortest =>
      apply Holds.of_isAscii
      apply isAscii_ofChars
      intro c listed
      apply ascii_of_isNumberPart
      rw [JsonDecoder.isNumberPart, token.isNumber c listed, Bool.true_or]
  | infinite negative =>
      cases negative with
      | false => exact holds_literal "Infinity".toList (by decide)
      | true => exact holds_literal "-Infinity".toList (by decide)
  | nan => exact holds_literal "NaN".toList (by decide)

mutual

/-- Canonical text holds the code points of the strings of the document. -/
theorem holds_render : (value : PyJson) → Holds (render value) (points value)
  | .null => holds_literal ['n', 'u', 'l', 'l'] (by decide)
  | .bool true => holds_literal ['t', 'r', 'u', 'e'] (by decide)
  | .bool false => holds_literal ['f', 'a', 'l', 's', 'e'] (by decide)
  | .int value => Holds.of_isAscii (isAscii_ofChars fun _ listed =>
      ascii_of_isNumberPart (JsonDecoder.isNumberPart_of_mem_repr listed))
  | .float value => holds_renderFloat value
  | .str text => by
      rw [render]
      exact (holds_renderString text).cons_ascii (by decide)
  | .arr [] => holds_literal ['[', ']'] (by decide)
  | .arr (item :: items) => by
      rw [render]
      exact ((holds_render item).append (holds_renderItems items)).cons_ascii (by decide)
  | .obj [] => holds_literal ['\x7b', '\x7d'] (by decide)
  | .obj ((key, value) :: fields) => by
      rw [render, points, pointsOfFields, List.append_assoc]
      exact (((holds_renderString key).append (((holds_render value).append
        (holds_renderFields fields)).cons_ascii (by decide))).cons_ascii (by decide)).cons_ascii
          (by decide)

theorem holds_renderItems : (items : List PyJson) →
    Holds (renderItems items) (pointsOfItems items)
  | [] => holds_literal [']'] (by decide)
  | item :: items => by
      rw [renderItems]
      exact ((holds_render item).append (holds_renderItems items)).cons_ascii (by decide)

theorem holds_renderFields : (fields : PyObject) →
    Holds (renderFields fields) (pointsOfFields fields)
  | [] => holds_literal ['\x7d'] (by decide)
  | (key, value) :: fields => by
      rw [renderFields, pointsOfFields, List.append_assoc]
      exact (((holds_renderString key).append (((holds_render value).append
        (holds_renderFields fields)).cons_ascii (by decide))).cons_ascii (by decide)).cons_ascii
          (by decide)

end

end PyJson
end QuantumAnalytics
