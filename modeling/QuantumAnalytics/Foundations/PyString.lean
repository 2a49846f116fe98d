import Mathlib.Data.List.Basic
import QuantumAnalytics.Foundations.DateTime
import QuantumAnalytics.Foundations.PyText

/-!
# Python strings

A `str` is a sequence of code points, and unlike a Lean `String` it may hold
surrogates. A text without surrogates is the list of its characters; only such
a text has an encoding in UTF-8.
-/

namespace QuantumAnalytics

/-- A code point of a `str`. -/
inductive CodePoint
  | scalar (c : Char)
  /-- The surrogate `0xd800 + offset`. -/
  | surrogate (offset : Fin 0x800)
  deriving DecidableEq

namespace CodePoint

/-- `ord(c)`. -/
def ord : CodePoint → Nat
  | .scalar c => c.toNat
  | .surrogate offset => 0xd800 + offset

end CodePoint

/-- A Python `str`. -/
abbrev PyStr := List CodePoint

instance lawfulBEqPyStr : LawfulBEq (List CodePoint) := inferInstance

namespace PyStr

/-- The `str` of a text without surrogates. -/
def ofChars (text : List Char) : PyStr := text.map .scalar

/-- The `str` of a literal. -/
def ofString (text : String) : PyStr := ofChars text.toList

/-- The characters of a `str`, unless it holds a surrogate. -/
def chars? : PyStr → Option (List Char)
  | [] => some []
  | .scalar c :: text => (chars? text).map fun chars => c :: chars
  | .surrogate _ :: _ => none

/-- The text of a `str`, unless it holds a surrogate. -/
def text? (text : PyStr) : Option String := (chars? text).map String.ofList

/-- `text.encode("utf-8")`; `none` is a `UnicodeEncodeError`. -/
def encode? (text : PyStr) : Option (List UInt8) :=
  (chars? text).map fun chars => chars.flatMap String.utf8EncodeChar

/-- The code points that `<` on strings compares. -/
def ords (text : PyStr) : List Nat := text.map CodePoint.ord

/-! ### Texts without surrogates -/

@[simp] theorem chars?_ofChars (text : List Char) : chars? (ofChars text) = some text := by
  induction text with
  | nil => rfl
  | cons c text inductionHypothesis =>
      rw [ofChars, List.map_cons, chars?]
      rw [ofChars] at inductionHypothesis
      rw [inductionHypothesis]
      rfl

theorem chars?_eq_some_iff
    {text : PyStr}
    {chars : List Char} : chars? text = some chars ↔ text = ofChars chars := by
  constructor
  · intro plain
    induction text generalizing chars with
    | nil =>
        obtain rfl := Option.some.inj plain
        rfl
    | cons point text inductionHypothesis =>
        cases point with
        | scalar c =>
            rw [chars?, Option.map_eq_some_iff] at plain
            obtain ⟨rest, plainRest, rfl⟩ := plain
            rw [inductionHypothesis plainRest]
            rfl
        | surrogate offset => exact absurd plain (by simp [chars?])
  · rintro rfl
    exact chars?_ofChars chars

theorem ofChars_injective : Function.Injective ofChars := by
  intro left right same
  have plain := chars?_ofChars left
  rw [same, chars?_ofChars] at plain
  exact (Option.some.inj plain).symm

theorem ofString_injective : Function.Injective ofString := by
  intro left right same
  exact String.toList_injective (ofChars_injective same)

@[simp] theorem text?_ofString (text : String) : text? (ofString text) = some text := by
  simp [text?, ofString]

/-- Different code points have different numbers. -/
theorem ord_injective : Function.Injective CodePoint.ord := by
  have scalar_ne : ∀ (c : Char) (offset : Fin 0x800), c.toNat ≠ 0xd800 + offset := by
    intro c offset same
    have valid := c.valid
    have := offset.isLt
    simp only [UInt32.isValidChar, Nat.isValidChar] at valid
    change c.val.toNat = _ at same
    omega
  intro left right same
  cases left with
  | scalar c =>
      cases right with
      | scalar d =>
          have numbers : c.toNat = d.toNat := same
          rw [← Char.ofNat_toNat c, numbers, Char.ofNat_toNat]
      | surrogate offset => exact absurd same (scalar_ne c offset)
  | surrogate offset =>
      cases right with
      | scalar d => exact absurd same.symm (scalar_ne d offset)
      | surrogate other =>
          have numbers : 0xd800 + offset.val = 0xd800 + other.val := same
          exact congrArg CodePoint.surrogate (Fin.ext (by omega))

theorem ords_injective : Function.Injective ords := List.map_injective_iff.mpr ord_injective

/-! ### Times -/

/-- The separator that `fromisoformat` allows to be a surrogate becomes a `T`:
`_sanitize_isoformat_str`. -/
def sanitizeIsoFormat (text : PyStr) : PyStr :=
  let isSurrogate : Nat → Bool := fun index =>
    match text[index]? with
    | some (.surrogate _) => true
    | _ => false
  match [7, 8, 10].find? isSurrogate with
  | some index => text.set index (.scalar 'T')
  | none => text

/-- `datetime.fromisoformat(text)`; `none` is a `ValueError`. -/
def fromIsoFormat? (text : PyStr) : Option DateTime :=
  (text? (sanitizeIsoFormat text)).bind DateTime.fromIsoFormat?

/-- `text.replace(c, replacement)` of one character. -/
def replaceChar (c : Char) (replacement : List Char) (text : PyStr) : PyStr :=
  text.flatMap fun point => if point = .scalar c then ofChars replacement else [point]

/-- An aware ISO 8601 time, in which `Z` may stand for UTC. -/
def isAwareIsoFormat (text : PyStr) : Bool :=
  (fromIsoFormat? (replaceChar 'Z' "+00:00".toList text)).any DateTime.isAware

example : isAwareIsoFormat (ofString "2026-06-01T10:05:00Z") = true := by decide

end PyStr
end QuantumAnalytics
