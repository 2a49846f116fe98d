import Mathlib.Data.List.Basic

/-!
# Base64 texts

The URL-safe encoding of bytes, and the lenient decoder, which skips characters
outside of the alphabet and stops at a complete padding. What was encoded is
decoded again, also when its padding was dropped and put back.
-/

namespace QuantumAnalytics
namespace Base64

/-! ### Characters -/

/-- The character of six bits in the URL-safe alphabet. -/
def digit (bits : Nat) : Char :=
  if bits < 26 then Char.ofNat (bits + 65)
  else if bits < 52 then Char.ofNat (bits + 71)
  else if bits < 62 then Char.ofNat (bits - 4)
  else if bits = 62 then '-'
  else '_'

/-- The six bits of a character, which may be of the standard alphabet or of the
URL-safe one. -/
def bits? (c : Char) : Option Nat :=
  if 'A' ≤ c ∧ c ≤ 'Z' then some (c.toNat - 65)
  else if 'a' ≤ c ∧ c ≤ 'z' then some (c.toNat - 71)
  else if '0' ≤ c ∧ c ≤ '9' then some (c.toNat + 4)
  else if c = '-' ∨ c = '+' then some 62
  else if c = '_' ∨ c = '/' then some 63
  else none

/-- A character has the bits that it was made of. -/
theorem bits?_digit
    {bits : Nat}
    (small : bits < 64) : bits? (digit bits) = some bits := by
  have each : ∀ n : Fin 64, bits? (digit n.val) = some n.val := by decide
  exact each ⟨bits, small⟩

theorem digit_ne_pad
    {bits : Nat}
    (small : bits < 64) : digit bits ≠ '=' := by
  have each : ∀ n : Fin 64, digit n.val ≠ '=' := by decide
  exact each ⟨bits, small⟩

theorem toNat_digit_lt
    {bits : Nat}
    (small : bits < 64) : (digit bits).toNat < 128 := by
  have each : ∀ n : Fin 64, (digit n.val).toNat < 128 := by decide
  exact each ⟨bits, small⟩

/-! ### Encoding -/

/-- The text of bytes without its padding. -/
def unpadded : List UInt8 → List Char
  | [] => []
  | [first] => [digit (first.toNat / 4), digit (first.toNat % 4 * 16)]
  | [first, second] =>
      [digit (first.toNat / 4), digit (first.toNat % 4 * 16 + second.toNat / 16),
        digit (second.toNat % 16 * 4)]
  | first :: second :: third :: bytes =>
      digit (first.toNat / 4) :: digit (first.toNat % 4 * 16 + second.toNat / 16) ::
        digit (second.toNat % 16 * 4 + third.toNat / 64) :: digit (third.toNat % 64) ::
          unpadded bytes

/-- `"=" * (-len(text) % 4)`. -/
def padding (text : List Char) : List Char := List.replicate ((4 - text.length % 4) % 4) '='

/-- `base64.urlsafe_b64encode`. -/
def encode (bytes : List UInt8) : List Char := unpadded bytes ++ padding (unpadded bytes)

/-- `text.rstrip("=")`. -/
def stripPadding (text : List Char) : List Char :=
  (text.reverse.dropWhile fun c => c = '=').reverse

/-- The text of bytes has no padding inside, and is ASCII. -/
theorem mem_unpadded {bytes : List UInt8} :
    ∀ c ∈ unpadded bytes, c ≠ '=' ∧ c.toNat < 128 := by
  have good : ∀ bits < 64, digit bits ≠ '=' ∧ (digit bits).toNat < 128 :=
    fun bits small => ⟨digit_ne_pad small, toNat_digit_lt small⟩
  have bytesSmall : ∀ byte : UInt8, byte.toNat < 256 := UInt8.toNat_lt
  induction bytes using unpadded.induct with
  | case1 => simp [unpadded]
  | case2 first =>
      have small := bytesSmall first
      simp only [unpadded, List.forall_mem_cons, List.not_mem_nil, false_implies, implies_true,
        and_true]
      exact ⟨good _ (by omega), good _ (by omega)⟩
  | case3 first second =>
      have small := bytesSmall first
      have smallSecond := bytesSmall second
      simp only [unpadded, List.forall_mem_cons, List.not_mem_nil, false_implies, implies_true,
        and_true]
      exact ⟨good _ (by omega), good _ (by omega), good _ (by omega)⟩
  | case4 first second third bytes inductionHypothesis =>
      have small := bytesSmall first
      have smallSecond := bytesSmall second
      have smallThird := bytesSmall third
      simp only [unpadded, List.forall_mem_cons]
      exact ⟨good _ (by omega), good _ (by omega), good _ (by omega), good _ (by omega),
        inductionHypothesis⟩

/-- Stripping the padding leaves the text of the bytes. -/
theorem stripPadding_encode (bytes : List UInt8) : stripPadding (encode bytes) = unpadded bytes := by
  have pads : ∀ c ∈ (padding (unpadded bytes)).reverse, decide (c = '=') = true := by
    intro c present
    rw [List.mem_reverse] at present
    exact decide_eq_true (List.eq_of_mem_replicate present)
  have inner : (unpadded bytes).reverse.dropWhile (fun c => decide (c = '=')) =
      (unpadded bytes).reverse := by
    cases shape : (unpadded bytes).reverse with
    | nil => rfl
    | cons c text =>
        have present : c ∈ unpadded bytes := by
          rw [← List.mem_reverse, shape]
          exact List.mem_cons_self
        rw [List.dropWhile_cons_of_neg]
        simpa using (mem_unpadded c present).1
  rw [stripPadding, encode, List.reverse_append, List.dropWhile_append_of_pos pads, inner,
    List.reverse_reverse]

/-! ### Decoding -/

/-- The decoder after some characters: their number modulo four, the bits that
are not written yet, and the padding since the last of them. The result `none` is
a `binascii.Error`. -/
def decodeFrom (position left pads : Nat) : List Char → Option (List UInt8)
  | [] => if position = 0 then some [] else none
  | c :: text =>
      if c = '=' then
        if 2 ≤ position then
          if 4 ≤ position + (pads + 1) then some [] else decodeFrom position left (pads + 1) text
        else decodeFrom position left pads text
      else
        match bits? c with
        | none => decodeFrom position left pads text
        | some bits =>
            match position with
            | 0 => decodeFrom 1 bits 0 text
            | 1 => (decodeFrom 2 (bits % 16) 0 text).map (UInt8.ofNat (left * 4 + bits / 16) :: ·)
            | 2 => (decodeFrom 3 (bits % 4) 0 text).map (UInt8.ofNat (left * 16 + bits / 4) :: ·)
            | _ => (decodeFrom 0 0 0 text).map (UInt8.ofNat (left * 64 + bits) :: ·)

/-- `base64.urlsafe_b64decode`. -/
def decode (text : List Char) : Option (List UInt8) := decodeFrom 0 0 0 text

section Steps

variable {bits left pads : Nat} (small : bits < 64) (text : List Char)

include small

theorem decodeFrom_zero :
    decodeFrom 0 left pads (digit bits :: text) = decodeFrom 1 bits 0 text := by
  rw [decodeFrom, if_neg (digit_ne_pad small), bits?_digit small]
  rfl

theorem decodeFrom_one :
    decodeFrom 1 left pads (digit bits :: text) =
      (decodeFrom 2 (bits % 16) 0 text).map (UInt8.ofNat (left * 4 + bits / 16) :: ·) := by
  rw [decodeFrom, if_neg (digit_ne_pad small), bits?_digit small]
  rfl

theorem decodeFrom_two :
    decodeFrom 2 left pads (digit bits :: text) =
      (decodeFrom 3 (bits % 4) 0 text).map (UInt8.ofNat (left * 16 + bits / 4) :: ·) := by
  rw [decodeFrom, if_neg (digit_ne_pad small), bits?_digit small]
  rfl

theorem decodeFrom_three :
    decodeFrom 3 left pads (digit bits :: text) =
      (decodeFrom 0 0 0 text).map (UInt8.ofNat (left * 64 + bits) :: ·) := by
  rw [decodeFrom, if_neg (digit_ne_pad small), bits?_digit small]
  rfl

end Steps

/-- The number of characters modulo four. -/
theorem length_unpadded (bytes : List UInt8) :
    (unpadded bytes).length % 4 =
      if bytes.length % 3 = 0 then 0 else bytes.length % 3 + 1 := by
  induction bytes using unpadded.induct with
  | case1 => rfl
  | case2 first => rfl
  | case3 first second => rfl
  | case4 first second third bytes inductionHypothesis =>
      have lengthEq : (first :: second :: third :: bytes).length % 3 = bytes.length % 3 := by
        simp only [List.length_cons]
        omega
      have textEq : (unpadded (first :: second :: third :: bytes)).length % 4 =
          (unpadded bytes).length % 4 := by
        simp only [unpadded, List.length_cons]
        omega
      rw [lengthEq, textEq, inductionHypothesis]

/-- A byte is put together again. -/
theorem ofNat_toNat
    {byte : UInt8}
    {n : Nat}
    (same : n = byte.toNat) : UInt8.ofNat n = byte := by
  rw [same, UInt8.ofNat_toNat]

/-- What was encoded is decoded, when the padding is put back. -/
theorem decode_unpadded (bytes : List UInt8) :
    decode (unpadded bytes ++ padding (unpadded bytes)) = some bytes := by
  have bytesSmall : ∀ byte : UInt8, byte.toNat < 256 := UInt8.toNat_lt
  unfold decode
  induction bytes using unpadded.induct with
  | case1 => rfl
  | case2 first =>
      have small := bytesSmall first
      have pads : padding (unpadded [first]) = ['=', '='] := rfl
      rw [pads, unpadded, List.cons_append, List.cons_append, List.nil_append,
        decodeFrom_zero (by omega), decodeFrom_one (by omega), @ofNat_toNat first _ (by omega)]
      rfl
  | case3 first second =>
      have small := bytesSmall first
      have smallSecond := bytesSmall second
      have pads : padding (unpadded [first, second]) = ['='] := rfl
      rw [pads, unpadded, List.cons_append, List.cons_append, List.cons_append, List.nil_append,
        decodeFrom_zero (by omega), decodeFrom_one (by omega), decodeFrom_two (by omega),
        @ofNat_toNat first _ (by omega), @ofNat_toNat second _ (by omega)]
      rfl
  | case4 first second third bytes inductionHypothesis =>
      have small := bytesSmall first
      have smallSecond := bytesSmall second
      have smallThird := bytesSmall third
      have pads : padding (unpadded (first :: second :: third :: bytes)) =
          padding (unpadded bytes) := by
        rw [padding, padding, length_unpadded, length_unpadded]
        have lengthEq : (first :: second :: third :: bytes).length % 3 = bytes.length % 3 := by
          simp only [List.length_cons]
          omega
        rw [lengthEq]
      rw [pads, unpadded]
      simp only [List.cons_append]
      rw [decodeFrom_zero (by omega), decodeFrom_one (by omega), decodeFrom_two (by omega),
        decodeFrom_three (by omega), inductionHypothesis, @ofNat_toNat first _ (by omega),
        @ofNat_toNat second _ (by omega), @ofNat_toNat third _ (by omega)]
      rfl

/-- A text whose padding was stripped is decoded after it is put back. -/
theorem decode_stripPadding (bytes : List UInt8) :
    decode (stripPadding (encode bytes) ++ padding (stripPadding (encode bytes))) = some bytes := by
  rw [stripPadding_encode, decode_unpadded]

end Base64
end QuantumAnalytics
