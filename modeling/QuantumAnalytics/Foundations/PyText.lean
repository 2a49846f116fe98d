import Mathlib.Algebra.Ring.Nat
import Mathlib.Order.Basic
import Mathlib.Data.Char
import Mathlib.Data.List.DropRight

/-!
# Python text primitives

The `str` methods and the `int` constructor on which text is read. Characters
are Unicode code points; the two character classes are those of Unicode 15.
-/

namespace QuantumAnalytics

instance lawfulBEqText : LawfulBEq (List Char) := inferInstance

namespace PyText

/-- `str.isspace` on one character. -/
def isSpace (c : Char) : Bool :=
  let n := c.toNat
  (0x09 ≤ n && n ≤ 0x0d) || (0x1c ≤ n && n ≤ 0x20) || n == 0x85 || n == 0xa0 ||
    n == 0x1680 || (0x2000 ≤ n && n ≤ 0x200a) || n == 0x2028 || n == 0x2029 ||
    n == 0x202f || n == 0x205f || n == 0x3000

/-- The code points of the zeros of the decimal digit runs (category `Nd`). -/
def decimalZeros : List Nat :=
  [0x30, 0x660, 0x6f0, 0x7c0, 0x966, 0x9e6, 0xa66, 0xae6, 0xb66, 0xbe6, 0xc66, 0xce6, 0xd66,
    0xde6, 0xe50, 0xed0, 0xf20, 0x1040, 0x1090, 0x17e0, 0x1810, 0x1946, 0x19d0, 0x1a80, 0x1a90,
    0x1b50, 0x1bb0, 0x1c40, 0x1c50, 0xa620, 0xa8d0, 0xa900, 0xa9d0, 0xa9f0, 0xaa50, 0xabf0,
    0xff10, 0x104a0, 0x10d30, 0x11066, 0x110f0, 0x11136, 0x111d0, 0x112f0, 0x11450, 0x114d0,
    0x11650, 0x116c0, 0x11730, 0x118e0, 0x11950, 0x11c50, 0x11d50, 0x11da0, 0x11f50, 0x16a60,
    0x16ac0, 0x16b50, 0x1d7ce, 0x1d7d8, 0x1d7e2, 0x1d7ec, 0x1d7f6, 0x1e140, 0x1e2f0, 0x1e4f0,
    0x1e950, 0x1fbf0]

/-- The value of a decimal digit of any script. -/
def decimalDigit? (c : Char) : Option Nat :=
  (decimalZeros.find? fun start => start ≤ c.toNat && c.toNat < start + 10).map
    fun start => c.toNat - start

/-- `str.strip` with the given class of characters. -/
def stripWith (drop : Char → Bool) (text : List Char) : List Char :=
  ((text.dropWhile drop).reverse.dropWhile drop).reverse

/-- What is stripped at both ends begins with a character that is kept. -/
theorem stripWith_cons
    {drop : Char → Bool}
    {text rest : List Char}
    {c : Char}
    (stripped : stripWith drop text = c :: rest) :
    drop c = false ∧ ∀ d ∈ c :: rest, d ∈ text := by
  have front : (c :: rest) <+: text.dropWhile drop := by
    rw [← stripped]
    exact List.rdropWhile_prefix drop (text.dropWhile drop)
  obtain ⟨behind, split⟩ := front
  refine ⟨?_, fun d listed => (List.dropWhile_suffix drop).subset (split ▸ List.mem_append_left _ listed)⟩
  have first := List.head?_dropWhile_not drop text
  rw [← split] at first
  exact first

/-- `str.strip()`. -/
def strip (text : List Char) : List Char := stripWith isSpace text

/-- `text.replace(pattern, "")`, with the length of the text as fuel. -/
def removeAll (pattern : List Char) : Nat → List Char → List Char
  | 0, text => text
  | _ + 1, [] => []
  | fuel + 1, c :: text =>
      if pattern.isPrefixOf (c :: text) then
        removeAll pattern fuel ((c :: text).drop pattern.length)
      else c :: removeAll pattern fuel text

/-- `text.replace(c, replacement)` of one character. -/
def replaceChar (c : Char) (replacement : List Char) (text : List Char) : List Char :=
  text.flatMap fun d => if d = c then replacement else [d]

/-- `text.removeprefix(start)`. -/
def removePrefix (start text : String) : String :=
  if start.toList.isPrefixOf text.toList then String.ofList (text.toList.drop start.length)
  else text

/-- `text[:count]`. -/
def takeText (count : Nat) (text : String) : String := String.ofList (text.toList.take count)

/-- `text.strip()`. -/
def stripText (text : String) : String := String.ofList (strip text.toList)

/-! ### The `int` constructor -/

/-- The blanks that `int` skips in ASCII text. -/
def isAsciiBlank (c : Char) : Bool :=
  (0x09 ≤ c.toNat && c.toNat ≤ 0x0d) || c == ' '

/-- Text as `int` reads it: other scripts' digits and blanks become ASCII. -/
def asciiForm (text : List Char) : List Char :=
  text.map fun c =>
    if c.toNat < 128 then c
    else if isSpace c then ' '
    else match decimalDigit? c with
      | some digit => Nat.digitChar digit
      | none => '?'

/-- The value of a digit in the given base. -/
def baseDigit? (base : Nat) (c : Char) : Option Nat :=
  let value? :=
    if '0' ≤ c ∧ c ≤ '9' then some (c.toNat - '0'.toNat)
    else if 'a' ≤ c ∧ c ≤ 'z' then some (c.toNat - 'a'.toNat + 10)
    else if 'A' ≤ c ∧ c ≤ 'Z' then some (c.toNat - 'A'.toNat + 10)
    else none
  value?.filter fun value => value < base

/-- A run of digits with single underscores between them, read to its end. -/
def digitRun? (base : Nat) : List Char → Option (List Nat)
  | [] => none
  | [c] => (baseDigit? base c).map fun digit => [digit]
  | c :: '_' :: text => do return (← baseDigit? base c) :: (← digitRun? base text)
  | c :: d :: text => do return (← baseDigit? base c) :: (← digitRun? base (d :: text))

/-- The longest decimal text that `int` converts. -/
def maxIntDigits : Nat := 4300

/-- Drop the radix prefix that `int` allows in base 16. -/
def dropRadixPrefix : Nat → List Char → List Char
  | 16, '0' :: 'x' :: '_' :: rest => rest
  | 16, '0' :: 'X' :: '_' :: rest => rest
  | 16, '0' :: 'x' :: rest => rest
  | 16, '0' :: 'X' :: rest => rest
  | _, text => text

/-- `int(text, base)` for base 10 or 16; `none` is a `ValueError`. -/
def int? (base : Nat) (text : String) : Option Int := do
  let body := stripWith isAsciiBlank (asciiForm text.toList)
  let negative := body.head? = some '-'
  let unsigned := if negative || body.head? = some '+' then body.drop 1 else body
  let digits ← digitRun? base (dropRadixPrefix base unsigned)
  if base = 10 ∧ maxIntDigits < digits.length then none
  else
    let value := digits.foldl (fun total digit => base * total + digit) 0
    some (if negative then -(value : Int) else value)

example : int? 10 " -1_200 " = some (-1200) := by decide

/-- A lower-case hexadecimal digit. -/
def isHexChar (c : Char) : Bool := ('0' ≤ c && c ≤ '9') || ('a' ≤ c && c ≤ 'f')

/-- `^[0-9a-f]{64}$` on the whole text. -/
def isHexDigest (text : String) : Bool :=
  text.toList.length == 64 && text.toList.all isHexChar

/-- `^[A-Z]{3}$` on the whole text. -/
def isCurrencyCode (text : String) : Bool :=
  text.toList.length == 3 && text.toList.all fun c => 'A' ≤ c && c ≤ 'Z'

/-- `uuid.UUID(text).int`; `none` is a `ValueError`. -/
def uuid? (text : String) : Option Int :=
  let plain := removeAll "uuid:".toList text.length
    (removeAll "urn:".toList text.length text.toList)
  let hex := (stripWith (fun c => c == '\x7b' || c == '\x7d') plain).filter fun c => c ≠ '-'
  if hex.length = 32 then (int? 16 (String.ofList hex)).filter fun value => 0 ≤ value else none

/-- The texts that `uuid.UUID` accepts. -/
def isUuid (text : String) : Bool := (uuid? text).isSome

/-- `str(uuid.UUID(text))`; `none` is a `ValueError`. -/
def canonicalUuid? (text : String) : Option String :=
  (uuid? text).map fun value =>
    let hex := (List.range 32).map fun index =>
      Nat.digitChar (value.toNat / 16 ^ (31 - index) % 16)
    String.ofList (List.intercalate ['-']
      [hex.take 8, (hex.drop 8).take 4, (hex.drop 12).take 4, (hex.drop 16).take 4, hex.drop 20])

example : canonicalUuid? "urn:uuid:0F8FAD5BD9CB469FA16570867728950E" =
    some "0f8fad5b-d9cb-469f-a165-70867728950e" := by decide

example : isUuid "0f8fad5b-d9cb-469f-a165-70867728950e" = true := by decide

/-! ### Digests are hexadecimal numbers -/

/-- A hexadecimal digit is an ASCII character that is neither a blank, a sign,
an underscore nor an `x`, and it has a value in base 16. -/
private theorem hexChar_properties {c : Char} (hex : isHexChar c = true) :
    c.toNat < 128 ∧ isAsciiBlank c = false ∧ c ≠ '-' ∧ c ≠ '+' ∧ c ≠ '_' ∧ c ≠ 'x' ∧ c ≠ 'X' ∧
      (baseDigit? 16 c).isSome = true := by
  have cases : c.toNat < 128 := by
    simp only [isHexChar, Bool.or_eq_true, Bool.and_eq_true, decide_eq_true_eq] at hex
    rcases hex with digit | letter
    · exact lt_of_le_of_lt (show c.toNat ≤ '9'.toNat from digit.2) (by decide)
    · exact lt_of_le_of_lt (show c.toNat ≤ 'f'.toNat from letter.2) (by decide)
  refine ⟨cases, ?_⟩
  have rebuilt : c = Char.ofNat c.toNat := (Char.ofNat_toNat c).symm
  generalize c.toNat = n at cases rebuilt
  subst rebuilt
  revert hex
  revert n
  decide +kernel

private theorem digitRun?_of_hex
    {text : List Char}
    (nonempty : text ≠ [])
    (hex : ∀ c ∈ text, isHexChar c = true) :
    digitRun? 16 text = some (text.map fun c => (baseDigit? 16 c).getD 0) := by
  induction text with
  | nil => exact absurd rfl nonempty
  | cons c text inductionHypothesis =>
      obtain ⟨value, hasValue⟩ := Option.isSome_iff_exists.mp
        (hexChar_properties (hex c (by simp))).2.2.2.2.2.2.2
      cases text with
      | nil => simp [digitRun?, hasValue]
      | cons d rest =>
          have notUnderscore := (hexChar_properties (hex d (by simp))).2.2.2.2.1
          have others := inductionHypothesis (by simp) fun e present => hex e (by simp [present])
          rw [digitRun?]
          · simp [hasValue, others]
          · exact notUnderscore

/-- Hexadecimal digits are a number in base 16. -/
theorem int?_of_hex
    {text : String}
    (nonempty : text.toList ≠ [])
    (hex : ∀ c ∈ text.toList, isHexChar c = true) :
    int? 16 text = some (((text.toList.map fun c => (baseDigit? 16 c).getD 0).foldl
      (fun total digit => 16 * total + digit) 0 : Nat) : Int) := by
  have ascii : asciiForm text.toList = text.toList := by
    rw [asciiForm, List.map_congr_left (g := id), List.map_id]
    intro c present
    exact if_pos (hexChar_properties (hex c present)).1
  have kept : ∀ chars : List Char, (∀ c ∈ chars, isHexChar c = true) →
      chars.dropWhile isAsciiBlank = chars := by
    intro chars allHex
    cases chars with
    | nil => rfl
    | cons c rest => simp [List.dropWhile, (hexChar_properties (allHex c (by simp))).2.1]
  have stripped : stripWith isAsciiBlank text.toList = text.toList := by
    rw [stripWith, kept _ hex, kept _ (by simpa using hex), List.reverse_reverse]
  have run := digitRun?_of_hex nonempty hex
  obtain ⟨c, rest, shape⟩ := List.exists_cons_of_ne_nil nonempty
  rw [shape] at hex run ascii stripped ⊢
  have first := hexChar_properties (hex c (by simp))
  have noPrefix : ∀ d tail, rest = d :: tail → d ≠ 'x' ∧ d ≠ 'X' := by
    rintro d tail rfl
    have second := hexChar_properties (hex d (by simp))
    exact ⟨second.2.2.2.2.2.1, second.2.2.2.2.2.2.1⟩
  have plain : dropRadixPrefix 16 (c :: rest) = c :: rest := by
    unfold dropRadixPrefix
    split
    all_goals first
      | (rename_i same; exact absurd rfl (noPrefix _ _ (List.cons.inj same).2).1)
      | (rename_i same; exact absurd rfl (noPrefix _ _ (List.cons.inj same).2).2)
      | rfl
  simp [int?, shape, ascii, stripped, first.2.2.1, first.2.2.2.1, plain, run]

/-- Every digest is a number in base 16. -/
theorem int?_isSome_of_isHexDigest
    {text : String}
    (digest : isHexDigest text = true) : (int? 16 text).isSome = true := by
  simp only [isHexDigest, Bool.and_eq_true, beq_iff_eq, List.all_eq_true] at digest
  obtain ⟨length, hex⟩ := digest
  have nonempty : text.toList ≠ [] := by
    intro empty
    simp [empty] at length
  rw [int?_of_hex nonempty hex, Option.isSome_some]

/-- A digest has 64 characters. -/
theorem length_of_isHexDigest
    {text : String}
    (digest : isHexDigest text = true) : text.length = 64 := by
  simp only [isHexDigest, Bool.and_eq_true, beq_iff_eq] at digest
  rw [← String.length_toList]
  exact digest.1

end PyText
end QuantumAnalytics
