import QuantumAnalytics.Foundations.PyString

/-!
# UTF-8

`str.encode` and `bytes.decode` are inverse: the encoding of a text is decoded
as the text, and a decoded text has no surrogates.
-/

namespace QuantumAnalytics
namespace PyStr

/-- `payload.decode("utf-8")`; `none` is a `UnicodeDecodeError`. -/
def decode? (payload : List UInt8) : Option PyStr :=
  (String.fromUTF8? ⟨payload.toArray⟩).map ofString

/-- The encoding of characters is decoded as these. -/
theorem fromUTF8?_flatMap (chars : List Char) :
    String.fromUTF8? ⟨(chars.flatMap String.utf8EncodeChar).toArray⟩ =
      some (String.ofList chars) := by
  have bytes : (⟨(chars.flatMap String.utf8EncodeChar).toArray⟩ : ByteArray) =
      (String.ofList chars).toByteArray := by
    rw [String.toByteArray_ofList, List.utf8Encode]
    apply ByteArray.ext
    rw [List.data_toByteArray]
  have valid : (String.ofList chars).toByteArray.IsValidUTF8 := (String.ofList chars).isValidUTF8
  rw [bytes, String.fromUTF8?, dif_pos valid]
  rfl

/-- The bytes of a character of a text are bytes of the text. -/
theorem mem_toByteArray
    {text : String}
    {c : Char}
    (listed : c ∈ text.toList)
    {byte : UInt8}
    (isByte : byte ∈ String.utf8EncodeChar c) : byte ∈ text.toByteArray.data.toList := by
  rw [← String.utf8Encode_toList, List.utf8Encode, List.data_toByteArray, List.toList_toArray]
  exact List.mem_flatMap.mpr ⟨c, listed, isByte⟩

/-- The encoding of a text is decoded as the text. -/
theorem decode?_of_encode?
    {text : PyStr}
    {payload : List UInt8}
    (encoded : encode? text = some payload) : decode? payload = some text := by
  rw [encode?, Option.map_eq_some_iff] at encoded
  obtain ⟨chars, plain, rfl⟩ := encoded
  rw [decode?, fromUTF8?_flatMap, Option.map_some, chars?_eq_some_iff.mp plain, ofString,
    String.toList_ofList]

/-- A decoded text has no surrogates. -/
theorem exists_chars_of_decode?
    {text : PyStr}
    {payload : List UInt8}
    (decoded : decode? payload = some text) : ∃ chars, text = ofChars chars := by
  rw [decode?, Option.map_eq_some_iff] at decoded
  obtain ⟨string, -, rfl⟩ := decoded
  exact ⟨string.toList, rfl⟩

/-! ### Texts that can be encoded -/

/-- The text has no surrogates. -/
def isPlain (text : PyStr) : Bool := (chars? text).isSome

theorem isPlain_append (first second : PyStr) :
    isPlain (first ++ second) = (isPlain first && isPlain second) := by
  induction first with
  | nil => simp [isPlain, chars?]
  | cons point first inductionHypothesis =>
      cases point with
      | scalar c =>
          simp only [isPlain, List.cons_append, chars?, Option.isSome_map] at inductionHypothesis ⊢
          exact inductionHypothesis
      | surrogate offset => simp [isPlain, chars?]

@[simp] theorem isPlain_ofChars (text : List Char) : isPlain (ofChars text) = true := by
  rw [isPlain, chars?_ofChars, Option.isSome_some]

/-- A scalar in front changes nothing. -/
@[simp] theorem isPlain_scalar_cons
    (c : Char)
    (text : PyStr) : isPlain (.scalar c :: text) = isPlain text := by
  rw [isPlain, isPlain, chars?, Option.isSome_map]

/-- A text has an encoding when it has no surrogates. -/
theorem exists_encode?_iff {text : PyStr} :
    (∃ payload, encode? text = some payload) ↔ isPlain text = true := by
  rw [← Option.isSome_iff_exists, encode?, Option.isSome_map, isPlain]

end PyStr
end QuantumAnalytics
