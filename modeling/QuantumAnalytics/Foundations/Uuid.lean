import QuantumAnalytics.Foundations.PyText

/-!
# Canonical texts of UUIDs

The text that `str(uuid.UUID(text))` writes is the canonical text of itself.
-/

namespace QuantumAnalytics
namespace PyText

/-! ### Digits -/

/-- The hexadecimal digits of a number, the last so many of them. -/
def hexDigits (count value : Nat) : List Nat :=
  (List.range count).map fun index => value / 16 ^ (count - 1 - index) % 16

theorem hexDigits_succ (count value : Nat) :
    hexDigits (count + 1) value = hexDigits count (value / 16) ++ [value % 16] := by
  unfold hexDigits
  rw [List.range_succ, List.map_append, List.map_singleton]
  congr 1
  · refine List.map_congr_left fun index listed => ?_
    have below := List.mem_range.mp listed
    have power : count + 1 - 1 - index = (count - 1 - index) + 1 := by omega
    rw [power, Nat.pow_succ', Nat.div_div_eq_div_mul]
  · simp

/-- The digits are read as the number, up to the digits that are left out. -/
theorem foldl_hexDigits (count value : Nat) :
    (hexDigits count value).foldl (fun total digit => 16 * total + digit) 0 =
      value % 16 ^ count := by
  induction count generalizing value with
  | zero => simp [hexDigits, Nat.mod_one]
  | succ count inductionHypothesis =>
      rw [hexDigits_succ, List.foldl_append, inductionHypothesis, List.foldl_cons, List.foldl_nil,
        Nat.pow_succ', Nat.mod_mul]
      omega

theorem hexDigits_mod (count value : Nat) :
    hexDigits count (value % 16 ^ count) = hexDigits count value := by
  refine List.map_congr_left fun index listed => ?_
  have below := List.mem_range.mp listed
  have split : 16 ^ count = 16 ^ (count - 1 - index) * 16 ^ (index + 1) := by
    rw [← Nat.pow_add]
    congr 1
    omega
  rw [split, Nat.mod_mul_right_div_self, Nat.pow_succ', Nat.mod_mul_right_mod]

theorem lt_of_mem_hexDigits
    {count value digit : Nat}
    (listed : digit ∈ hexDigits count value) : digit < 16 := by
  obtain ⟨index, -, rfl⟩ := List.mem_map.mp listed
  exact Nat.mod_lt _ (by decide)

theorem digitChar_properties :
    ∀ digit < 16, isHexChar (Nat.digitChar digit) = true ∧
      baseDigit? 16 (Nat.digitChar digit) = some digit := by decide +kernel

/-! ### Texts that are kept -/

theorem removeAll_of_not_mem
    {first : Char}
    {pattern text : List Char}
    (absent : first ∉ text)
    (fuel : Nat) : removeAll (first :: pattern) fuel text = text := by
  induction fuel generalizing text with
  | zero => rfl
  | succ fuel inductionHypothesis =>
      cases text with
      | nil => rfl
      | cons c text =>
          have other : first ≠ c := fun same => absent (same ▸ List.mem_cons_self)
          have later : first ∉ text := fun listed => absent (List.mem_cons_of_mem c listed)
          rw [removeAll, if_neg (by simp [other]), inductionHypothesis later]

theorem stripWith_of_forall
    {drop : Char → Bool}
    {text : List Char}
    (kept : ∀ c ∈ text, drop c = false) : stripWith drop text = text := by
  have unchanged : ∀ chars : List Char, (∀ c ∈ chars, drop c = false) →
      chars.dropWhile drop = chars := by
    intro chars keptChars
    cases chars with
    | nil => rfl
    | cons c rest => simp [keptChars c List.mem_cons_self]
  rw [stripWith, unchanged _ kept, unchanged _ (by simpa using kept), List.reverse_reverse]

/-- Five groups of digits with dashes between them. -/
def dashed (hex : List Char) : List Char :=
  List.intercalate ['-']
    [hex.take 8, (hex.drop 8).take 4, (hex.drop 12).take 4, (hex.drop 16).take 4, hex.drop 20]

theorem dashed_eq (hex : List Char) :
    dashed hex = hex.take 8 ++ '-' :: ((hex.drop 8).take 4 ++ '-' :: ((hex.drop 12).take 4 ++
      '-' :: ((hex.drop 16).take 4 ++ '-' :: hex.drop 20))) := by
  simp [dashed, List.intercalate, List.intersperse]

/-- A character of the groups is a digit or a dash. -/
theorem mem_dashed
    {hex : List Char}
    {c : Char}
    (listed : c ∈ dashed hex) : c = '-' ∨ c ∈ hex := by
  rw [dashed_eq] at listed
  simp only [List.mem_append, List.mem_cons] at listed
  rcases listed with taken | isDash | taken | isDash | taken | isDash | taken | isDash | dropped
  · exact .inr (List.mem_of_mem_take taken)
  · exact .inl isDash
  · exact .inr (List.mem_of_mem_drop (List.mem_of_mem_take taken))
  · exact .inl isDash
  · exact .inr (List.mem_of_mem_drop (List.mem_of_mem_take taken))
  · exact .inl isDash
  · exact .inr (List.mem_of_mem_drop (List.mem_of_mem_take taken))
  · exact .inl isDash
  · exact .inr (List.mem_of_mem_drop dropped)

/-- Without the dashes the digits are left. -/
theorem filter_dashed
    {hex : List Char}
    (digits : ∀ c ∈ hex, c ≠ '-') : (dashed hex).filter (fun c => c ≠ '-') = hex := by
  have kept : ∀ part : List Char, part ⊆ hex → part.filter (fun c => decide (c ≠ '-')) = part :=
    fun part listed => List.filter_eq_self.mpr fun c isPart =>
      decide_eq_true (digits c (listed isPart))
  have groups : hex = hex.take 8 ++ ((hex.drop 8).take 4 ++ ((hex.drop 12).take 4 ++
      ((hex.drop 16).take 4 ++ hex.drop 20))) := by
    have fourth : (hex.drop 16).take 4 ++ hex.drop 20 = hex.drop 16 := by
      simpa using List.take_append_drop 4 (hex.drop 16)
    have third : (hex.drop 12).take 4 ++ hex.drop 16 = hex.drop 12 := by
      simpa using List.take_append_drop 4 (hex.drop 12)
    have second : (hex.drop 8).take 4 ++ hex.drop 12 = hex.drop 8 := by
      simpa using List.take_append_drop 4 (hex.drop 8)
    rw [fourth, third, second, List.take_append_drop]
  have part : ∀ first count : Nat, (hex.drop first).take count ⊆ hex := fun first count _ isPart =>
    List.mem_of_mem_drop (List.mem_of_mem_take isPart)
  rw [dashed_eq]
  simp only [List.filter_append, List.filter_cons, ne_eq, not_true_eq_false, decide_false,
    Bool.false_eq_true, if_false]
  rw [kept _ (List.take_subset 8 hex), kept _ (part 8 4), kept _ (part 12 4), kept _ (part 16 4),
    kept _ (List.drop_subset 20 hex), ← groups]

/-! ### Canonical texts -/

/-- The canonical text of a number. -/
def uuidText (value : Nat) : String :=
  String.ofList (dashed ((hexDigits 32 value).map Nat.digitChar))

theorem canonicalUuid?_eq (text : String) :
    canonicalUuid? text = (uuid? text).map fun value => uuidText value.toNat := by
  simp only [canonicalUuid?, uuidText, dashed, hexDigits, List.map_map]
  rfl

/-- The canonical text of a number is read as the number. -/
theorem uuid?_uuidText (value : Nat) : uuid? (uuidText value) = some ((value % 16 ^ 32 : Nat) : Int) := by
  have hex : ∀ c ∈ (hexDigits 32 value).map Nat.digitChar, isHexChar c = true := by
    intro c listed
    obtain ⟨digit, isDigit, rfl⟩ := List.mem_map.mp listed
    exact (digitChar_properties digit (lt_of_mem_hexDigits isDigit)).1
  have other : ∀ d, isHexChar d = false → d ≠ '-' →
      d ∉ dashed ((hexDigits 32 value).map Nat.digitChar) := by
    intro d isOther noDash listed
    rcases mem_dashed listed with isDash | isDigit
    · exact noDash isDash
    · exact absurd (hex d isDigit) (by simp [isOther])
  have length : ((hexDigits 32 value).map Nat.digitChar).length = 32 := by simp [hexDigits]
  have digits : ((hexDigits 32 value).map Nat.digitChar).map (fun c => (baseDigit? 16 c).getD 0) =
      hexDigits 32 value := by
    rw [List.map_map]
    refine (List.map_congr_left fun digit listed => ?_).trans (List.map_id _)
    simp [(digitChar_properties digit (lt_of_mem_hexDigits listed)).2]
  have number : int? 16 (String.ofList ((hexDigits 32 value).map Nat.digitChar)) =
      some ((value % 16 ^ 32 : Nat) : Int) := by
    rw [int?_of_hex]
    · rw [String.toList_ofList, digits, foldl_hexDigits]
    · rw [String.toList_ofList]
      exact List.ne_nil_of_length_pos (by omega)
    · rw [String.toList_ofList]
      exact hex
  have noDash : ∀ c ∈ (hexDigits 32 value).map Nat.digitChar, c ≠ '-' := by
    rintro c listed rfl
    exact absurd (hex _ listed) (by decide)
  unfold uuid? uuidText
  simp only [String.toList_ofList]
  have urn : removeAll "urn:".toList (String.ofList (dashed ((hexDigits 32 value).map
      Nat.digitChar))).length (dashed ((hexDigits 32 value).map Nat.digitChar)) =
      dashed ((hexDigits 32 value).map Nat.digitChar) :=
    removeAll_of_not_mem (other 'u' (by decide) (by decide)) _
  have uuid : removeAll "uuid:".toList (String.ofList (dashed ((hexDigits 32 value).map
      Nat.digitChar))).length (dashed ((hexDigits 32 value).map Nat.digitChar)) =
      dashed ((hexDigits 32 value).map Nat.digitChar) :=
    removeAll_of_not_mem (other 'u' (by decide) (by decide)) _
  rw [urn, uuid, stripWith_of_forall, filter_dashed noDash, if_pos length, number]
  · simp only [Option.filter_some, Int.natCast_nonneg, decide_true, if_true]
  · intro c listed
    have apart : ∀ d, isHexChar d = false → d ≠ '-' → c ≠ d := fun d isOther isPlain same =>
      other d isOther isPlain (same ▸ listed)
    simp [apart '\x7b' (by decide) (by decide), apart '\x7d' (by decide) (by decide)]

/-- A canonical text is the canonical text of itself. -/
theorem canonicalUuid?_of_canonicalUuid?
    {text canonical : String}
    (isCanonical : canonicalUuid? text = some canonical) :
    canonicalUuid? canonical = some canonical := by
  rw [canonicalUuid?_eq, Option.map_eq_some_iff] at isCanonical
  obtain ⟨value, -, rfl⟩ := isCanonical
  rw [canonicalUuid?_eq, uuid?_uuidText, Option.map_some, Int.toNat_natCast, uuidText,
    hexDigits_mod]
  rfl

end PyText
end QuantumAnalytics
