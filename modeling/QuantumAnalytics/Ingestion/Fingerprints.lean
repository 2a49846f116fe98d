import Mathlib.Data.List.Dedup
import QuantumAnalytics.Ingestion.MetadataCodec
import QuantumAnalytics.Ingestion.SchemaGate

/-!
# Fingerprints in metadata files

A fingerprint is nested a few times, holds texts of the file and small numbers, and
lists each key once, so that it is written and read back.
-/

namespace QuantumAnalytics

/-! ### Documents without floats -/

namespace PyJson

mutual

/-- The value of a document, as Python holds it. -/
def ofJson : Json → PyJson
  | .null => .null
  | .bool value => .bool value
  | .int value => .int value
  | .float token => .float (.ofToken token)
  | .str text => .ofText text
  | .arr items => .arr (ofItems items)
  | .obj fields => .obj (sortFields (ofMembers fields))

/-- The items of a list. -/
def ofItems : List Json → List PyJson
  | [] => []
  | item :: items => ofJson item :: ofItems items

/-- The members of a mapping. -/
def ofMembers : JsonObject → PyObject
  | [] => []
  | (key, value) :: fields => (PyStr.ofString key, ofJson value) :: ofMembers fields

end

theorem ofItems_eq_map (items : List Json) : ofItems items = items.map ofJson := by
  induction items with
  | nil => rfl
  | cons item items inductionHypothesis => rw [ofItems, inductionHypothesis, List.map_cons]

theorem ofMembers_eq_map (fields : JsonObject) :
    ofMembers fields = fields.map fun field => (PyStr.ofString field.1, ofJson field.2) := by
  induction fields with
  | nil => rfl
  | cons field fields inductionHypothesis => rw [ofMembers, inductionHypothesis, List.map_cons]

/-- A mapping, as Python holds it. -/
def ofObject (fields : JsonObject) : PyObject := sortFields (ofMembers fields)

end PyJson

/-- A document without floats that lists each key once, nested at most so many times. -/
def Json.Simple : Nat → Json → Prop
  | _, .null => True
  | _, .bool _ => True
  | _, .int value => PyJson.isShortInt value = true
  | _, .float _ => False
  | _, .str _ => True
  | 0, .arr _ => False
  | room + 1, .arr items => ∀ item ∈ items, Simple room item
  | 0, .obj _ => False
  | room + 1, .obj fields =>
      (fields.map Prod.fst).Nodup ∧ ∀ field ∈ fields, Simple room field.2

theorem Json.simple_texts
    (room : Nat)
    (texts : List String) : Json.Simple (room + 1) (.arr (texts.map .str)) := by
  intro item listed
  obtain ⟨text, -, rfl⟩ := List.mem_map.mp listed
  cases room <;> trivial

/-- Such a document is written and read back. -/
theorem PyJson.codable_ofJson
    {room : Nat}
    {value : Json}
    (simple : value.Simple room) : Codable room (ofJson value) := by
  induction room generalizing value with
  | zero =>
      cases value with
      | null => exact codable_null 0
      | bool value => exact codable_bool 0 value
      | int value => exact codable_int 0 simple
      | float token => exact simple.elim
      | str text => exact codable_ofText 0 text
      | arr items => exact simple.elim
      | obj fields => exact simple.elim
  | succ room inductionHypothesis =>
      cases value with
      | null => exact codable_null _
      | bool value => exact codable_bool _ value
      | int value => exact codable_int _ simple
      | float token => exact simple.elim
      | str text => exact codable_ofText _ text
      | arr items =>
          rw [ofJson, ofItems_eq_map]
          refine codable_arr fun item listed => ?_
          obtain ⟨document, isItem, rfl⟩ := List.mem_map.mp listed
          exact inductionHypothesis (simple document isItem)
      | obj fields =>
          obtain ⟨distinct, each⟩ := simple
          rw [ofJson, ofMembers_eq_map]
          have members : ∀ field ∈ fields.map (fun field => (PyStr.ofString field.1, ofJson field.2)),
              PyStr.isPlain field.1 = true ∧ Codable room field.2 := by
            intro field listed
            obtain ⟨member, isMember, rfl⟩ := List.mem_map.mp listed
            exact ⟨PyStr.isPlain_ofChars _, inductionHypothesis (each member isMember)⟩
          have keys : ((fields.map fun field => (PyStr.ofString field.1, ofJson field.2)).map
              Prod.fst).Nodup := by
            have composed : (fields.map fun field => (PyStr.ofString field.1, ofJson field.2)).map
                Prod.fst = (fields.map Prod.fst).map PyStr.ofString := by
              simp only [List.map_map, Function.comp_def]
            rw [composed]
            exact distinct.map PyStr.ofString_injective
          have canonical := canonical_sortFields keys fun field listed =>
            (members field listed).2.canonical
          exact codable_obj canonical.1
            (fun field listed => (members field (mem_sortFields.mp listed)).1)
            fun field listed => (members field (mem_sortFields.mp listed)).2

/-! ### Sizes -/

/-- `sys.maxsize + 1`: no `bytes` object has this length. -/
def maxLength : Nat := 2 ^ 63

/-- A number of parts of a file has few digits. -/
theorem isShortInt_of_le
    {count : Nat}
    (le : count ≤ 2 * maxLength + 1) : PyJson.isShortInt count = true := by
  have small : count < 10 ^ PyText.maxIntDigits := by
    have bound : 2 * maxLength + 1 < 10 ^ 20 := by decide
    have power : (10 : Nat) ^ 20 ≤ 10 ^ PyText.maxIntDigits :=
      Nat.pow_le_pow_right (by decide) (by decide)
    omega
  have digits : (Nat.toDigits 10 count).length ≤ PyText.maxIntDigits :=
    (Nat.length_toDigits_le_iff (by decide) (by decide)).mpr small
  exact decide_eq_true digits

/-- A text has at most as many characters as its bytes. -/
theorem length_le_of_decodeUtf8Sig
    {payload : List UInt8}
    {text : String}
    (decoded : decodeUtf8Sig payload = some text) : text.toList.length ≤ payload.length := by
  have counted : ∀ chars : List Char,
      chars.length ≤ (chars.flatMap String.utf8EncodeChar).length := by
    intro chars
    induction chars with
    | nil => simp
    | cons c chars inductionHypothesis =>
        have positive := Char.utf8Size_pos c
        simp only [List.flatMap_cons, List.length_append, String.length_utf8EncodeChar,
          List.length_cons]
        omega
  have body : ∀ bytes : List UInt8, String.fromUTF8? ⟨bytes.toArray⟩ = some text →
      text.toList.length ≤ bytes.length := by
    intro bytes isText
    unfold String.fromUTF8? at isText
    split at isText
    next valid =>
      obtain rfl := Option.some.inj isText
      have same : (String.fromUTF8 ⟨bytes.toArray⟩ valid).toByteArray = ⟨bytes.toArray⟩ := rfl
      rw [← String.ofList_toList (s := String.fromUTF8 ⟨bytes.toArray⟩ valid),
        String.toByteArray_ofList, List.utf8Encode] at same
      have lengths := congrArg (fun array : ByteArray => array.data.toList.length) same
      simp only [List.data_toByteArray, List.toList_toArray] at lengths
      exact lengths ▸ counted _
    next => cases isText
  unfold decodeUtf8Sig at decoded
  dsimp only at decoded
  split at decoded
  · have dropped := body _ decoded
    rw [List.length_drop] at dropped
    omega
  · exact body _ decoded

/-- The characters of some lines and their ends. -/
def lineWeight (lines : List (List Char)) : Nat :=
  (lines.map fun line => line.length + 1).sum

theorem lineWeight_csvLines (text : List Char) : lineWeight (csvLines text) ≤ 2 * text.length := by
  induction text using csvLines.induct with
  | case1 => simp [csvLines, lineWeight]
  | case2 text inductionHypothesis =>
      rw [csvLines]
      simp only [lineWeight, List.map_cons, List.sum_cons, List.length_cons, List.length_nil] at *
      omega
  | case3 c text notPair isEnd inductionHypothesis =>
      rw [csvLines, if_pos isEnd]
      · simp only [lineWeight, List.map_cons, List.sum_cons, List.length_cons, List.length_nil] at *
        omega
      · exact notPair
  | case4 c text notPair notEnd isNil inductionHypothesis =>
      rw [csvLines, if_neg notEnd, isNil]
      · simp only [lineWeight, List.map_cons, List.sum_cons, List.length_cons, List.length_nil,
          List.map_nil, List.sum_nil]
        omega
      · exact notPair
  | case5 c text notPair notEnd first others isCons inductionHypothesis =>
      rw [csvLines, if_neg notEnd, isCons]
      · rw [isCons] at inductionHypothesis
        simp only [lineWeight, List.map_cons, List.sum_cons, List.length_cons] at *
        omega
      · exact notPair

theorem length_le_lineWeight (lines : List (List Char)) : lines.length ≤ lineWeight lines := by
  induction lines with
  | nil => simp
  | cons line lines inductionHypothesis =>
      simp only [lineWeight, List.map_cons, List.sum_cons, List.length_cons] at *
      omega

namespace CsvDialect

variable {dialect : CsvDialect}

/-- A step saves at most one field. -/
theorem length_fields_processChar
    {parser next : CsvParser}
    {input : Option Char}
    (stepped : dialect.processChar parser input = some next) :
    next.fields.length ≤ parser.fields.length + 1 := by
  obtain ⟨did, -, isEffect, -⟩ := processChar_eq_some stepped
  rw [(fields_of_effect isEffect).2]
  cases did <;> simp [fieldsAfter]

theorem length_fields_processChars
    {parser next : CsvParser}
    {line : List Char}
    (stepped : dialect.processChars parser line = some next) :
    next.fields.length ≤ parser.fields.length + line.length := by
  induction line generalizing parser with
  | nil =>
      obtain rfl := Option.some.inj stepped
      simp
  | cons c line inductionHypothesis =>
      obtain ⟨middle, first, rest⟩ := Option.bind_eq_some_iff.mp stepped
      have one := length_fields_processChar first
      have others := inductionHypothesis rest
      rw [List.length_cons]
      omega

/-- A record has at most as many fields as there are characters and line ends, and no
line is added. -/
theorem length_nextRecord
    {parser : CsvParser}
    {lines rest : List (List Char)}
    {fields : List String}
    (found : dialect.nextRecord parser lines = .ok (some (fields, rest))) :
    fields.length ≤ parser.fields.length + lineWeight lines + 1 ∧ rest.length ≤ lines.length := by
  induction lines generalizing parser with
  | nil =>
      unfold nextRecord at found
      split at found
      next =>
        obtain ⟨rfl, rfl⟩ := Prod.mk.inj (Option.some.inj (Except.ok.inj found))
        simp [CsvParser.saveField, lineWeight]
      next => cases found
  | cons line lines inductionHypothesis =>
      unfold nextRecord at found
      split at found
      next => cases found
      next next stepped =>
        obtain ⟨atEnd, chars, ended⟩ := Option.bind_eq_some_iff.mp stepped
        have first := length_fields_processChars chars
        have last := length_fields_processChar ended
        simp only [lineWeight, List.map_cons, List.sum_cons, List.length_cons]
        split at found
        next =>
          obtain ⟨rfl, rfl⟩ := Prod.mk.inj (Option.some.inj (Except.ok.inj found))
          omega
        next =>
          have later := inductionHypothesis found
          simp only [lineWeight] at later
          omega

end CsvDialect

/-- There are at most as many rows as lines. -/
theorem length_csvRows
    {header : List String}
    {fuel : Nat}
    {lines : List (List Char)}
    {rows : List RawPayload}
    (read : csvRows header fuel lines = .ok rows) : rows.length ≤ fuel := by
  induction fuel generalizing lines rows with
  | zero =>
      obtain rfl := Except.ok.inj read
      simp
  | succ fuel inductionHypothesis =>
      unfold csvRows at read
      split at read
      next => cases read
      next =>
        obtain rfl := Except.ok.inj read
        simp
      next =>
        split at read
        next => exact Nat.le_succ_of_le (inductionHypothesis read)
        next =>
          split at read
          next =>
            obtain ⟨others, isOthers, rfl⟩ := Checks.map_eq_ok.mp read
            rw [List.length_cons]
            exact Nat.succ_le_succ (inductionHypothesis isOthers)
          next => cases read

/-! ### The fingerprints of the gate -/

theorem simple_structuralFingerprint
    {dialect : CsvDialect}
    {headers : List String}
    (short : PyJson.isShortInt headers.length = true) :
    Json.Simple 7 (.obj (structuralFingerprint dialect headers)) := by
  have keys : ["descriptor", "sha256"].Nodup := by decide
  have descriptor :
      ["column_count", "delimiter", "encoding", "format", "headers", "quotechar"].Nodup := by decide
  refine ⟨keys, ?_⟩
  simp only [structuralFingerprint, withDigest, List.forall_mem_cons]
  refine ⟨⟨descriptor, ?_⟩, trivial, nofun⟩
  simp only [List.forall_mem_cons]
  exact ⟨short, trivial, trivial, trivial, Json.simple_texts _ _, trivial, nofun⟩

theorem nodup_sortedSet (texts : List String) : (Finance.sortedSet texts).Nodup :=
  ((List.perm_insertionSort _ _).nodup_iff).mpr (List.nodup_dedup texts)

/-- Members that keep their keys have some of these, in their order. -/
theorem keys_filterMap_sublist
    {make : String → Option (String × Json)}
    (same : ∀ key field, make key = some field → field.1 = key)
    {keys : List String} : ((keys.filterMap make).map Prod.fst).Sublist keys := by
  induction keys with
  | nil => exact .slnil
  | cons key keys inductionHypothesis =>
      cases made : make key with
      | none =>
          rw [List.filterMap_cons_none made]
          exact inductionHypothesis.cons key
      | some field =>
          rw [List.filterMap_cons_some made, List.map_cons, same key field made]
          exact inductionHypothesis.cons_cons key

theorem simple_semanticFingerprint
    {rows : List RawPayload}
    (short : PyJson.isShortInt rows.length = true) :
    Json.Simple 7 (.obj (semanticFingerprint rows)) := by
  have types : Json.Simple 5 (.obj (columnTypes rows)) := by
    constructor
    · have keys : (columnTypes rows).map Prod.fst = Finance.sortedSet (rows.flatMap Dict.keys) := by
        simp only [columnTypes, List.map_map, Function.comp_def, List.map_id']
      rw [keys]
      exact nodup_sortedSet _
    · intro field listed
      obtain ⟨key, -, rfl⟩ := List.mem_map.mp listed
      exact Json.simple_texts _ _
  have samples : Json.Simple 5 (.obj (enumSamples rows)) := by
    constructor
    · have keys : ((enumSamples rows).map Prod.fst).Sublist ["currency", "operation_type"] := by
        refine keys_filterMap_sublist fun key field isSample => ?_
        dsimp only at isSample
        split at isSample
        next => cases isSample
        next => exact (congrArg Prod.fst (Option.some.inj isSample)).symm
      exact keys.nodup (by decide)
    · intro field listed
      obtain ⟨key, -, isSample⟩ := List.mem_filterMap.mp listed
      dsimp only at isSample
      split at isSample
      next => cases isSample
      next =>
        obtain rfl := Option.some.inj isSample
        exact Json.simple_texts _ _
  have keys : ["descriptor", "sha256"].Nodup := by decide
  have descriptor : ["column_types", "enum_samples", "row_count"].Nodup := by decide
  refine ⟨keys, ?_⟩
  simp only [semanticFingerprint, withDigest, List.forall_mem_cons]
  refine ⟨⟨descriptor, ?_⟩, trivial, nofun⟩
  simp only [List.forall_mem_cons]
  exact ⟨types, samples, short, nofun⟩

end QuantumAnalytics
