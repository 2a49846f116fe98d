import QuantumAnalytics.Finance.NumberTexts
import QuantumAnalytics.Foundations.DecimalLimits
import QuantumAnalytics.Foundations.Outcomes
import QuantumAnalytics.Ingestion.Rows
import QuantumAnalytics.Ledger.Examples
import QuantumAnalytics.Ledger.Trace

/-!
# Normalized rows in the ledger

What the adapter writes into an event is what the ledger reads from it: the
lineage of a normalized row is accepted, and the typed values of its event are
the numbers in the cells of the row.
-/

namespace QuantumAnalytics

/-! ### Reading the plain notation -/

namespace Finance.NumberText

theorem mapM_eq_self
    {text : List Char}
    {change : Char → Option Char}
    (kept : ∀ c ∈ text, change c = some c) : text.mapM change = some text := by
  induction text with
  | nil => rfl
  | cons c text inductionHypothesis =>
      rw [List.mapM_cons, kept c List.mem_cons_self,
        inductionHypothesis fun d present => kept d (List.mem_cons_of_mem c present)]
      rfl

/-- A text without blanks is not stripped. -/
theorem stripWith_eq_self
    {text : List Char}
    {drop : Char → Bool}
    (kept : ∀ c ∈ text, drop c = false) : PyText.stripWith drop text = text := by
  have whole : ∀ {list : List Char}, (∀ c ∈ list, drop c = false) → list.dropWhile drop = list := by
    intro list keeps
    rw [List.dropWhile_eq_self_iff]
    intro nonempty
    rw [keeps _ (List.getElem_mem nonempty)]
    exact Bool.false_ne_true
  rw [PyText.stripWith, whole kept, whole fun c present => kept c (List.mem_reverse.mp present),
    List.reverse_reverse]

/-- The characters of a number text. -/
theorem mem_render
    {parts : NumberText}
    (wellFormed : parts.WellFormed)
    {c : Char}
    (present : c ∈ parts.render) : c = '-' ∨ c = '.' ∨ c.isDigit = true := by
  have unsigned : ∀ d ∈ parts.unsigned, d = '.' ∨ d.isDigit = true := by
    intro d listed
    unfold NumberText.unsigned at listed
    split at listed
    · exact .inr (wellFormed.wholeDigits d listed)
    · rcases List.mem_append.mp listed with whole | rest
      · exact .inr (wellFormed.wholeDigits d whole)
      · rcases List.mem_cons.mp rest with point | fraction
        · exact .inl point
        · exact .inr (wellFormed.fractionDigits d fraction)
  unfold render at present
  split at present
  · rcases List.mem_cons.mp present with sign | listed
    · exact .inl sign
    · exact .inr (unsigned c listed)
  · exact .inr (unsigned c present)

/-- `Decimal` reads a number text as it is. -/
theorem numericAscii?_render
    {parts : NumberText}
    (wellFormed : parts.WellFormed) : Decimal.numericAscii? parts.render = some parts.render := by
  have plain : ∀ c ∈ parts.render,
      PyText.isSpace c = false ∧ c ≠ '_' ∧ 0 < c.toNat ∧ c.toNat < 128 := by
    intro c present
    rcases mem_render wellFormed present with rfl | rfl | digit
    · decide
    · decide
    · have range := Char.isDigit_iff_toNat.mp digit
      have zero : '0'.toNat = 48 := rfl
      have nine : '9'.toNat = 57 := rfl
      refine ⟨?_, ?_, by omega, by omega⟩
      · simp only [PyText.isSpace, Bool.or_eq_false_iff, Bool.and_eq_false_iff,
          decide_eq_false_iff_not, beq_eq_false_iff_ne]
        omega
      · rintro rfl
        exact absurd digit (by decide)
  have stripped : PyText.strip parts.render = parts.render :=
    stripWith_eq_self fun c present => (plain c present).1
  have filtered : (parts.render.filter fun c => c ≠ '_') = parts.render :=
    List.filter_eq_self.mpr fun c present => by simpa using (plain c present).2.1
  rw [Decimal.numericAscii?, stripped, filtered]
  apply mapM_eq_self
  intro c present
  rw [if_pos (plain c present).2.2]

/-- A text that starts with a digit is not the text of an infinity or NaN. -/
theorem isSpecial_digit
    {c : Char}
    (digit : c.isDigit = true)
    (text : List Char) : Decimal.isSpecial ((c :: text).map Char.toLower) = false := by
  have range := Char.isDigit_iff_toNat.mp digit
  have zero : '0'.toNat = 48 := rfl
  have nine : '9'.toNat = 57 := rfl
  have rebuilt : c = Char.ofNat c.toNat := (Char.ofNat_toNat c).symm
  have known : c.toNat = 48 ∨ c.toNat = 49 ∨ c.toNat = 50 ∨ c.toNat = 51 ∨ c.toNat = 52 ∨
      c.toNat = 53 ∨ c.toNat = 54 ∨ c.toNat = 55 ∨ c.toNat = 56 ∨ c.toNat = 57 := by omega
  rcases known with isDigit | isDigit | isDigit | isDigit | isDigit | isDigit | isDigit |
    isDigit | isDigit | isDigit
  all_goals
    rw [isDigit] at rebuilt
    rw [rebuilt]
    simp [Decimal.isSpecial]

/-- `Decimal` reads a number text that is within its limits. -/
theorem parse?_render
    {parts : NumberText}
    (wellFormed : parts.WellFormed)
    (tiny : Decimal.minEtiny ≤ parts.toDecimal.exponent)
    (large : (if parts.toDecimal.isZero then parts.toDecimal.exponent
      else parts.toDecimal.adjusted) ≤ Decimal.maxEmax) :
    Decimal.parse? (String.ofList parts.render) = some (.finite parts.toDecimal) := by
  obtain ⟨whole, rest⟩ := span_unsigned wellFormed
  have noSign := head?_unsigned wellFormed
  obtain ⟨first, tail, isUnsigned, isDigit⟩ : ∃ first tail,
      parts.unsigned = first :: tail ∧ first.isDigit = true := by
    have nonempty : parts.whole ≠ [] := by
      intro empty
      have isWhole := wellFormed.whole
      rw [empty] at isWhole
      simp [NumberText.isWhole] at isWhole
    obtain ⟨first, digits, shape⟩ := List.exists_cons_of_ne_nil nonempty
    have digit := wellFormed.wholeDigits first (shape ▸ List.mem_cons_self)
    unfold unsigned
    split
    · exact ⟨first, digits, shape, digit⟩
    · exact ⟨first, digits ++ '.' :: parts.fraction, by rw [shape]; rfl, digit⟩
  have noPlus : parts.unsigned.head? ≠ some '+' := by
    rw [isUnsigned, List.head?_cons]
    intro plus
    rw [Option.some.inj plus] at isDigit
    exact absurd isDigit (by decide)
  have negativeEq : decide (parts.render.head? = some '-') = parts.negative := by
    unfold render
    cases negative : parts.negative with
    | false => simpa [negative] using noSign
    | true => simp
  have magnitudeEq : (if decide (parts.render.head? = some '-') = true ∨
      parts.render.head? = some '+' then parts.render.drop 1 else parts.render) =
        parts.unsigned := by
    rw [negativeEq]
    unfold render
    cases parts.negative with
    | false => simp [noPlus]
    | true => simp
  have numberEq : Decimal.parseNumber? parts.negative parts.unsigned = some parts.toDecimal := by
    have fractionDigits := wellFormed.fractionDigits
    have fractionEq : (if (parts.unsigned.dropWhile Char.isDigit).head? = some '.' then
        ((parts.unsigned.dropWhile Char.isDigit).drop 1).takeWhile Char.isDigit else []) =
          parts.fraction := by
      rw [rest]
      cases shape : parts.fraction with
      | nil => simp
      | cons c digits =>
          rw [shape] at fractionDigits
          simpa using List.takeWhile_eq_self_iff.mpr fractionDigits
    have restEq : (if (parts.unsigned.dropWhile Char.isDigit).head? = some '.' then
        ((parts.unsigned.dropWhile Char.isDigit).drop 1).dropWhile Char.isDigit
          else parts.unsigned.dropWhile Char.isDigit) = [] := by
      rw [rest]
      cases shape : parts.fraction with
      | nil => simp
      | cons c digits =>
          rw [shape] at fractionDigits
          simpa using List.dropWhile_eq_nil_iff.mpr fractionDigits
    have nonempty : parts.whole ++ parts.fraction ≠ [] := by
      intro empty
      rw [← whole, isUnsigned, List.takeWhile_cons_of_pos isDigit] at empty
      simp at empty
    unfold Decimal.parseNumber?
    simp only [fractionEq, restEq, whole, if_neg nonempty, Decimal.parseExponent?]
    simp only [Option.bind_eq_bind, Option.bind_some, zero_sub]
    exact if_pos ⟨tiny, large⟩
  simp only [Decimal.parse?, String.toList_ofList, numericAscii?_render wellFormed,
    Option.bind_eq_bind, Option.bind_some]
  simp only [decide_eq_true_eq] at magnitudeEq
  rw [magnitudeEq, negativeEq, isUnsigned, isSpecial_digit isDigit, ← isUnsigned, numberEq]
  rfl

end Finance.NumberText

namespace Decimal

/-- A number that `Decimal` can hold. -/
def Holdable (d : Decimal) : Prop :=
  minEtiny ≤ d.exponent ∧ (if d.isZero then d.exponent else d.adjusted) ≤ maxEmax

theorem holdable_of_parseNumber?
    {negative : Bool}
    {text : List Char}
    {d : Decimal}
    (parsed : parseNumber? negative text = some d) : d.Holdable := by
  unfold parseNumber? at parsed
  dsimp only at parsed
  generalize (if (text.dropWhile Char.isDigit).head? = some '.' then
    ((text.dropWhile Char.isDigit).drop 1).takeWhile Char.isDigit else []) = fraction at parsed
  split at parsed
  · simp at parsed
  · obtain ⟨exponent, -, parsed⟩ := Option.bind_eq_some_iff.mp parsed
    obtain ⟨inside, same⟩ := Option.ite_none_right_eq_some.mp parsed
    obtain rfl := Option.some.inj same
    exact inside

/-- `Decimal` reads numbers that it can hold. -/
theorem holdable_of_parse?
    {text : String}
    {d : Decimal}
    (read : parse? text = some (.finite d)) : d.Holdable := by
  obtain ⟨ascii, -, read⟩ := Option.bind_eq_some_iff.mp read
  dsimp only at read
  generalize (if ascii.head? = some '-' ∨ ascii.head? = some '+' then ascii.drop 1 else ascii) =
    magnitude at read
  split at read
  · simp at read
  · obtain ⟨number, parsed, same⟩ := Option.map_eq_some_iff.mp read
    obtain rfl := Reading.finite.inj same
    exact holdable_of_parseNumber? parsed

/-- The digits of the plain notation of a number that is not zero. -/
theorem holdable_ofDecimal
    {d : Decimal}
    (holdable : d.Holdable) : (Finance.NumberText.ofDecimal d).toDecimal.Holdable := by
  obtain ⟨tiny, large⟩ := holdable
  have same := Finance.NumberText.toRat_ofDecimal d
  have exponentEq : (Finance.NumberText.ofDecimal d).toDecimal.exponent = min 0 d.exponent := by
    change -((Finance.NumberText.ofDecimal d).fraction.length : Int) = _
    rw [Finance.NumberText.length_fraction_ofDecimal]
    omega
  have zeroEq : (Finance.NumberText.ofDecimal d).toDecimal.isZero = d.isZero := by
    rw [Bool.eq_iff_iff, isZero_iff, isZero_iff, ← toRat_eq_zero_iff, ← toRat_eq_zero_iff, same]
  refine ⟨?_, ?_⟩
  · rw [exponentEq]
    have : minEtiny ≤ 0 := by decide
    omega
  · rw [zeroEq, exponentEq]
    split_ifs at large ⊢ with zero
    · have : (0 : Int) ≤ maxEmax := by decide
      omega
    · have nonzero : d.coefficient ≠ 0 := by rwa [isZero_iff] at zero
      have bothNonzero : (Finance.NumberText.ofDecimal d).toDecimal.coefficient ≠ 0 := by
        rwa [ne_eq, ← toRat_eq_zero_iff, same, toRat_eq_zero_iff]
      rwa [adjusted_congr bothNonzero nonzero same]

/-- The plain notation is read as the same number. -/
theorem parse?_formatF
    {d : Decimal}
    (holdable : d.Holdable) :
    ∃ read, parse? d.formatF = some (.finite read) ∧ read.toRat = d.toRat := by
  obtain ⟨tiny, large⟩ := holdable_ofDecimal holdable
  refine ⟨(Finance.NumberText.ofDecimal d).toDecimal, ?_, Finance.NumberText.toRat_ofDecimal d⟩
  rw [Finance.NumberText.formatF_eq_render]
  exact Finance.NumberText.parse?_render (Finance.NumberText.ofDecimal_wellFormed d) tiny large

end Decimal

/-! ### Members of a payload -/

namespace Json

/-- A member that is listed is found, when the keys are distinct. -/
theorem lookup_eq_some_of_mem
    {fields : JsonObject}
    (distinct : (fields.map Prod.fst).Nodup)
    {key : String}
    {value : Json}
    (listed : (key, value) ∈ fields) : lookup fields key = some value := by
  induction fields with
  | nil => simp at listed
  | cons field fields inductionHypothesis =>
      rw [List.map_cons, List.nodup_cons] at distinct
      rcases List.mem_cons.mp listed with rfl | later
      · simp [lookup]
      · have different : field.1 ≠ key := by
          rintro rfl
          exact distinct.1 (List.mem_map.mpr ⟨_, later, rfl⟩)
        have found := inductionHypothesis distinct.2 later
        rw [lookup, List.find?_cons_of_neg (by simpa using different)]
        exact found

/-- Sorting the members does not change what is found. -/
theorem lookup_sortFields
    {fields : JsonObject}
    (distinct : (fields.map Prod.fst).Nodup)
    {key : String}
    {value : Json}
    (listed : (key, value) ∈ fields) : lookup (sortFields fields) key = some value := by
  have perm := List.perm_insertionSort (fun left right : String × Json => left.1 ≤ right.1) fields
  apply lookup_eq_some_of_mem
  · exact (perm.map Prod.fst).nodup_iff.mpr distinct
  · exact perm.mem_iff.mpr listed

theorem sortFields_ne_nil
    {fields : JsonObject}
    (nonempty : fields ≠ []) : sortFields fields ≠ [] := by
  intro empty
  have perm := List.perm_insertionSort (fun left right : String × Json => left.1 ≤ right.1) fields
  change (sortFields fields).Perm fields at perm
  rw [empty] at perm
  exact nonempty perm.nil_eq.symm

end Json

namespace Synthetic

open InMemoryCanonicalLedger

/-- The members of a typed value. -/
theorem lookup_typedValue
    {value unit : Json}
    {valueType sourceRecordId : String} :
    ∃ members, typedValue value valueType unit sourceRecordId = .obj members ∧
      Json.lookup members "state" = some (.str "VALID") ∧
      Json.lookup members "value_type" = some (.str valueType) ∧
      Json.lookup members "value" = some value ∧
      Json.lookup members "unit" = some unit :=
  ⟨_, rfl, Json.lookup_sortFields (by simp) (by simp), Json.lookup_sortFields (by simp) (by simp),
    Json.lookup_sortFields (by simp) (by simp), Json.lookup_sortFields (by simp) (by simp)⟩

section Cells

variable {row : RawPayload} {sourceRecordId : String} {values : RowValues}

/-- The ledger reads the cell of the product. -/
theorem typedString_payload
    (filled : cell row "product_external_id" ≠ "") :
    typedString (payload row sourceRecordId values) "product_external_id" =
      .ok (cell row "product_external_id") := by
  obtain ⟨members, shape, state, valueType, value, -⟩ := @lookup_typedValue
    (.str (cell row "product_external_id")) .null "string" sourceRecordId
  have found : Json.lookup (payload row sourceRecordId values) "product_external_id" =
      some (.obj members) := by
    rw [← shape]
    exact Json.lookup_sortFields (by simp) (by simp)
  simp [typedString, typed, found, state, valueType, value, filled, Checks.ok_bind, require]

/-- The ledger reads the quantity. -/
theorem typedInteger_payload
    (positive : 0 < values.quantity) :
    typedInteger (payload row sourceRecordId values) "quantity" =
      .ok (values.quantity, "item") := by
  obtain ⟨members, shape, state, valueType, value, unit⟩ := @lookup_typedValue
    (.int values.quantity) (.str "item") "integer" sourceRecordId
  have found : Json.lookup (payload row sourceRecordId values) "quantity" =
      some (.obj members) := by
    rw [← shape]
    exact Json.lookup_sortFields (by simp) (by simp)
  simp [typedInteger, typed, found, state, valueType, value, unit, positive, Checks.ok_bind,
    require]

/-- The ledger reads the gross amount in the currency of the row. -/
theorem typedDecimal_payload
    (holdable : values.grossAmount.Holdable)
    (nonnegative : ¬values.grossAmount.lt (.ofInt 0) = true)
    (currency : cell row "currency" ≠ "") :
    ∃ read, typedDecimal (payload row sourceRecordId values) "gross_amount" =
        .ok (read, cell row "currency") ∧
      read.toRat = values.grossAmount.toRat := by
  obtain ⟨members, shape, state, valueType, value, unit⟩ := @lookup_typedValue
    (.str values.grossAmount.formatF) (.str (cell row "currency")) "decimal" sourceRecordId
  have found : Json.lookup (payload row sourceRecordId values) "gross_amount" =
      some (.obj members) := by
    rw [← shape]
    exact Json.lookup_sortFields (by simp) (by simp)
  obtain ⟨read, parsed, same⟩ := Decimal.parse?_formatF holdable
  have readNonnegative : ¬read.lt (.ofInt 0) = true := by
    rwa [Decimal.lt_iff, same, ← Decimal.lt_iff]
  refine ⟨read, ?_, same⟩
  simp [typedDecimal, typed, found, state, valueType, value, unit, currency, parsed,
    readNonnegative, Checks.ok_bind, require]

end Cells

/-! ### The candidate of a row -/

/-- What the ledger finds in the candidate of a row: an accepted lineage, and the
numbers in the cells. -/
structure AgreesWith (row : RawPayload) (candidate : Candidate) : Prop where
  /-- The lineage. -/
  lineage : validateLineage candidate.sourceRow candidate.event = .ok ()
  /-- The product. -/
  product : typedString candidate.event.payload "product_external_id" =
    .ok (cell row "product_external_id")
  /-- The quantity is the number in its cell. -/
  quantity : ∃ quantity, PyText.int? 10 (cell row "quantity") = some quantity ∧
    typedInteger candidate.event.payload "quantity" = .ok (quantity, "item")
  /-- The gross amount is the number in its cell. -/
  grossAmount : ∃ written read,
    Decimal.parse? (cell row "gross_amount") = some (.finite written) ∧
      typedDecimal candidate.event.payload "gross_amount" = .ok (read, cell row "currency") ∧
      read.toRat = written.toRat

theorem integerCell_eq_ok
    {row : RawPayload}
    {field : String}
    {value : Int} :
    integerCell row field = .ok value ↔ PyText.int? 10 (cell row field) = some value := by
  unfold integerCell
  split <;> simp_all

theorem grossAmountCell_eq_ok
    {row : RawPayload}
    {value : Decimal} :
    grossAmountCell row = .ok value ↔
      Decimal.parse? (cell row "gross_amount") = some (.finite value) := by
  unfold grossAmountCell
  split <;> simp_all

/-- What validation leaves of a row that is normalized. -/
theorem rowValues_spec
    {row : RawPayload}
    {values : RowValues}
    (valid : validateRow row = .ok ())
    (read : rowValues row = .ok values) :
    PyText.int? 10 (cell row "quantity") = some values.quantity ∧ 0 < values.quantity ∧
      Decimal.parse? (cell row "gross_amount") = some (.finite values.grossAmount) ∧
      ¬values.grossAmount.lt (.ofInt 0) = true ∧
      cell row "product_external_id" ≠ "" ∧ cell row "currency" ≠ "" := by
  simp only [validateRow, ↓Checks.bind_done_eq_ok, Checks.bind_eq_ok, Checks.forM_require_eq_ok,
    Checks.require_eq_ok, integerCell_eq_ok, grossAmountCell_eq_ok] at valid
  obtain ⟨⟨⟩, filled, -, -, quantity, isQuantity, positive, amount, isAmount, nonnegative, -⟩ := valid
  simp only [rowValues, Checks.bind_eq_ok, Checks.pure_eq_ok, integerCell_eq_ok,
    grossAmountCell_eq_ok] at read
  obtain ⟨_, sameQuantity, _, sameAmount, _, -, _, -, _, -, rfl⟩ := read
  obtain rfl := Option.some.inj (isQuantity.symm.trans sameQuantity)
  obtain rfl := Decimal.Reading.finite.inj (Option.some.inj (isAmount.symm.trans sameAmount))
  have nonempty : ∀ field ∈ requiredColumns, cell row field ≠ "" := by
    intro field listed empty
    exact filled field listed (by rw [empty]; decide)
  exact ⟨isQuantity, positive, isAmount, nonnegative, nonempty _ (by decide),
    nonempty _ (by decide)⟩

/-- The payload of an event is that of its row. -/
theorem eventFields_payload
    (row : RawPayload)
    (context : NormalizationContext)
    (values : RowValues) :
    (eventFields row context values).payload = payload row context.sourceRecordId values := by
  rw [eventFields]

theorem eventFields_provenance
    (row : RawPayload)
    (context : NormalizationContext)
    (values : RowValues) :
    (eventFields row context values).provenance = provenance context values.recognitionTime := by
  rw [eventFields]

/-- The texts in the provenance of an event. -/
def provenanceTexts (context : NormalizationContext) (time : DateTime) : List (String × String) :=
  [("source_file_sha256", context.sourceFileSha256), ("source_adapter", context.adapterId),
    ("source_adapter_version", context.adapterVersion),
    ("source_schema_id", context.schemaVersion),
    ("normalization_rule_version", "wb-synthetic-normalization-v1"),
    ("actor", PyText.stripText context.actor), ("created_at", time.isoformat),
    ("trace_id", context.traceId)]

theorem lookup_provenance
    {context : NormalizationContext}
    {time : DateTime}
    {field text : String}
    (listed : (field, text) ∈ provenanceTexts context time) :
    Json.lookup (provenance context time) field = some (.str text) := by
  apply Json.lookup_sortFields
  · simp
  · simp only [provenanceTexts, List.mem_cons, List.not_mem_nil, or_false, Prod.mk.injEq] at listed
    rcases listed with ⟨rfl, rfl⟩ | ⟨rfl, rfl⟩ | ⟨rfl, rfl⟩ | ⟨rfl, rfl⟩ | ⟨rfl, rfl⟩ |
      ⟨rfl, rfl⟩ | ⟨rfl, rfl⟩ | ⟨rfl, rfl⟩
    all_goals simp

/-- A member of the provenance is the text that the adapter was given. -/
theorem provenanceIs_of_listed
    {event : CanonicalEvent}
    {context : NormalizationContext}
    {time : DateTime}
    (isProvenance : event.provenance = provenance context time)
    {field text : String}
    (listed : (field, text) ∈ provenanceTexts context time) :
    provenanceIs event field text = true := by
  rw [provenanceIs, isProvenance, lookup_provenance listed]
  simp

theorem isoformat_ne_empty (time : DateTime) : time.isoformat ≠ "" := by
  intro empty
  have characters := congrArg String.toList empty
  simp [DateTime.isoformat] at characters

/-- The provenance of a normalized row is complete. -/
theorem provenance_complete
    {context : NormalizationContext}
    {time : DateTime}
    (filled : ∀ member ∈ provenanceTexts context time, member.2 ≠ "") :
    ∀ field ∈ requiredProvenance,
      (Json.lookup (provenance context time) field).any Json.truthy = true := by
  intro field required
  obtain ⟨member, listed, rfl⟩ : ∃ member ∈ provenanceTexts context time, member.1 = field :=
    List.mem_map.mp required
  rw [lookup_provenance listed]
  simpa [Json.truthy] using filled member listed

/-- The lineage of a normalized row is accepted. -/
theorem validateLineage_normalized
    {context : ImportContext}
    {rowNumber : Nat}
    {row : RawPayload}
    {values : RowValues}
    {normalized : NormalizedRow}
    {sourceRow : ImmutableSourceRow}
    (read : rowValues row = .ok values)
    (fields : normalized.event.toEventFields =
      eventFields row (context.normalization rowNumber row) values)
    (rowKey : normalized.sourceRowKey = sourceRowKey row)
    (rowFields : sourceRow.toSourceRowFields =
      context.sourceRowFields rowNumber row normalized.sourceRowKey .valid []) :
    validateLineage sourceRow normalized.event = .ok () := by
  obtain ⟨eventAware, recognitionAware⟩ := isAware_of_rowValues read
  obtain ⟨key, event, rawRowHash⟩ := normalized
  obtain ⟨strings, -, fileDigest, -⟩ := SourceRowFields.postInit_eq_ok.mp sourceRow.wellFormed
  have isProvenance : event.provenance =
      provenance (context.normalization rowNumber row) values.recognitionTime := by
    change event.toEventFields = _ at fields
    rw [fields, eventFields_provenance]
  have filled : ∀ member ∈ provenanceTexts (context.normalization rowNumber row)
      values.recognitionTime, member.2 ≠ "" := by
    rw [rowFields] at strings fileDigest
    have adapter : context.adapterId ≠ "" :=
      strings ("adapter_id", _) (by simp [SourceRowFields.requiredStrings,
        ImportContext.sourceRowFields])
    have version : context.adapterVersion ≠ "" :=
      strings ("adapter_version", _) (by simp [SourceRowFields.requiredStrings,
        ImportContext.sourceRowFields])
    have schema : context.schemaVersion ≠ "" :=
      strings ("schema_version", _) (by simp [SourceRowFields.requiredStrings,
        ImportContext.sourceRowFields])
    have file : context.sourceFileSha256 ≠ "" := by
      intro empty
      change PyText.isHexDigest context.sourceFileSha256 = true at fileDigest
      rw [empty] at fileDigest
      exact absurd fileDigest (by decide)
    have actor : PyText.stripText "p13-canonical-ingestor" ≠ "" := by decide
    simp [provenanceTexts, ImportContext.normalization, adapter, version, schema, file, actor,
      isoformat_ne_empty, ImportContext.traceId]
  have digest : canonicalJsonHash (.obj event.payload) = event.semanticPayloadHash := by
    change event.toEventFields = _ at fields
    rw [fields]
    rfl
  have complete := provenance_complete filled
  rw [← isProvenance] at complete
  have named := fun field text => @provenanceIs_of_listed event _ _ isProvenance field text
  obtain ⟨own, wellFormed⟩ := event
  obtain ⟨ownRow, rowWellFormed⟩ := sourceRow
  obtain rfl := fields
  obtain rfl := rowKey
  obtain rfl := rowFields
  simp only [validateLineage, ↓Checks.bind_done_eq_ok, Checks.forM_require_eq_ok,
    Checks.require_eq_ok]
  refine ⟨rfl, rfl, ?_, ?_, digest, ?_, ?_, ?_, ?_, ?_, complete,
    ?_, ?_, ?_, ?_, ?_⟩
  · simp [eventFields, eventAware, recognitionAware]
  · exact isHexDigest_digest _
  · rfl
  · rfl
  · rfl
  · rfl
  · rfl
  · exact named "created_at" values.recognitionTime.isoformat (by simp [provenanceTexts])
  · exact named "source_file_sha256" context.sourceFileSha256
      (by simp [provenanceTexts, ImportContext.normalization])
  · exact named "source_adapter" context.adapterId
      (by simp [provenanceTexts, ImportContext.normalization])
  · exact named "source_adapter_version" context.adapterVersion
      (by simp [provenanceTexts, ImportContext.normalization])
  · exact named "source_schema_id" context.schemaVersion
      (by simp [provenanceTexts, ImportContext.normalization])

/-- A candidate agrees with the cells of its row. -/
theorem agreesWith_of_readRow
    {context : ImportContext}
    {rowNumber : Nat}
    {row : RawPayload}
    {candidate : Candidate}
    (isRead : context.readRow rowNumber row = .ok (.inr candidate)) :
    AgreesWith row candidate := by
  unfold ImportContext.readRow at isRead
  split at isRead
  · obtain ⟨sourceRow, -, wrong⟩ := Checks.bind_eq_ok.mp isRead
    cases wrong
  next normalized accepted =>
    obtain ⟨sourceRow, made, same⟩ := Checks.bind_eq_ok.mp isRead
    obtain rfl := Sum.inr.inj (Except.ok.inj same)
    have valid : validateRow row = .ok () := by
      simp only [normalizeRow, ↓Checks.bind_done_eq_ok] at accepted
      exact accepted.1
    obtain ⟨values, read, fields, rowKey⟩ := normalizeRow_eq_ok accepted
    obtain ⟨quantity, positive, amount, nonnegative, product, currency⟩ := rowValues_spec valid read
    have payloadEq : normalized.event.payload =
        payload row (context.sourceRecordId rowNumber row) values := by
      rw [fields, eventFields_payload]
      rfl
    refine ⟨?_, ?_, ⟨values.quantity, quantity, ?_⟩, ?_⟩
    · exact validateLineage_normalized read fields rowKey
        (ImmutableSourceRow.make_eq_ok.mp made)
    · rw [payloadEq]
      exact typedString_payload product
    · rw [payloadEq]
      exact typedInteger_payload positive
    · rw [payloadEq]
      obtain ⟨readAmount, typedAmount, same⟩ := @typedDecimal_payload row
        (context.sourceRecordId rowNumber row) values (Decimal.holdable_of_parse? amount)
        nonnegative currency
      exact ⟨values.grossAmount, readAmount, amount, typedAmount, same⟩

/-! ### Appends of normalized rows -/

/-- The codes of `_validate_lineage`. -/
def lineageCodes : List LedgerErrorCode :=
  [.eventSourceRowNotValid, .eventStatusNotValid, .eventTimezoneRequired,
    .eventIdempotencyKeyInvalid, .eventSemanticHashMismatch, .eventTenantMismatch,
    .eventSourceRecordMismatch, .eventSourceRowKeyMismatch, .eventImportBatchMismatch,
    .eventSchemaVersionMismatch, .eventProvenanceIncomplete, .eventProvenanceTimeMismatch,
    .eventSourceFileMismatch, .eventAdapterMismatch, .eventAdapterVersionMismatch,
    .eventSourceSchemaMismatch]

/-- The codes of `_typed` and of the typed readers. -/
def typedCodes : List LedgerErrorCode :=
  [.eventTypedValueInvalid, .eventTypedIntegerInvalid, .eventTypedDecimalInvalid,
    .eventTypedStringInvalid]

/-- A failure that is about neither a lineage nor a typed value. -/
def Unrelated (failure : LedgerFailure) : Prop :=
  ∀ code ∈ lineageCodes ++ typedCodes, failure ≠ .canonical code

/-- An event whose typed values the ledger reads. -/
structure Readable (event : CanonicalEvent) : Prop where
  product : ∃ product, typedString event.payload "product_external_id" = .ok product
  quantity : ∃ quantity, typedInteger event.payload "quantity" = .ok quantity
  grossAmount : ∃ amount, typedDecimal event.payload "gross_amount" = .ok amount

/-- The candidate of a row. -/
def IsNormalized (event : CanonicalEvent) : Prop :=
  ∃ (context : ImportContext) (rowNumber : Nat) (row : RawPayload) (candidate : Candidate),
    context.readRow rowNumber row = .ok (.inr candidate) ∧ candidate.event = event

theorem AgreesWith.readable
    {row : RawPayload}
    {candidate : Candidate}
    (agrees : AgreesWith row candidate) : Readable candidate.event where
  product := ⟨_, agrees.product⟩
  quantity :=
    let ⟨_, _, read⟩ := agrees.quantity
    ⟨_, read⟩
  grossAmount :=
    let ⟨_, _, _, read, _⟩ := agrees.grossAmount
    ⟨_, read⟩

section Append

variable {ledger : InMemoryCanonicalLedger} {tenantId : String} {event : CanonicalEvent}

/-- An unrelated check fails in an unrelated way. -/
theorem unrelated_ensure
    {condition : Prop}
    [Decidable condition]
    {code : LedgerErrorCode}
    (unrelated : code ∉ lineageCodes ++ typedCodes) :
    Yields Unrelated (fun _ => True) (ensure condition code) := by
  unfold ensure require
  split
  · trivial
  · rintro other listed same
    obtain rfl := LedgerFailure.canonical.inj same
    exact unrelated listed

theorem unrelated_decimal
    {result : Except DecimalSignal Decimal} :
    Yields Unrelated (fun _ => True) (inDefaultContext result) := by
  cases result with
  | ok value => trivial
  | error signal =>
      rintro code - same
      cases same

/-- What succeeds does not fail. -/
theorem yields_of_exists
    {α : Type}
    {outcome : Check α}
    (succeeds : ∃ result, outcome = .ok result) :
    Yields Unrelated (fun result => outcome = .ok result) outcome := by
  obtain ⟨result, isResult⟩ := succeeds
  exact Yields.of_eq_ok isResult isResult

theorem unrelated_eventOrError
    {eventId : String}
    {code : LedgerErrorCode}
    (unrelated : code ∉ lineageCodes ++ typedCodes) :
    Yields Unrelated (fun stored => ledger.eventById.get? (tenantId, eventId) = some stored)
      (ledger.eventOrError tenantId eventId code) := by
  unfold eventOrError
  split
  next stored found => exact found
  next =>
    rintro other listed same
    obtain rfl := LedgerFailure.canonical.inj same
    exact unrelated listed

/-- The totals of readable returns. -/
theorem unrelated_totalReversed
    {product unit currency : String}
    {returns : List CanonicalEvent}
    (readable : ∀ existing ∈ returns, Readable existing)
    (totals : Int × Decimal) :
    Yields Unrelated (fun _ => True) (totalReversed product unit currency returns totals) := by
  induction returns generalizing totals with
  | nil => trivial
  | cons existing rest inductionHypothesis =>
      have readsFirst := readable existing List.mem_cons_self
      obtain ⟨reversedQuantity, reversedAmount⟩ := totals
      rw [totalReversed]
      refine (yields_of_exists readsFirst.quantity).bind fun quantity _ _ => ?_
      refine (yields_of_exists readsFirst.grossAmount).bind fun amount _ _ => ?_
      refine (yields_of_exists readsFirst.product).bind fun existingProduct _ _ => ?_
      refine (unrelated_ensure (by decide)).bind fun _ _ _ => ?_
      refine unrelated_decimal.bind fun total _ _ => ?_
      exact inductionHypothesis (fun other later => readable other (List.mem_cons_of_mem _ later)) _

theorem unrelated_validateReversal
    (readable : Readable event)
    (stored : ∀ other ∈ ledger.events, Readable other) :
    Yields Unrelated (fun _ => True) (ledger.validateReversal tenantId event) := by
  have listed : ∀ other ∈ ledger.tenantEvents tenantId, other ∈ ledger.events := by
    intro other present
    obtain ⟨entry, inside, rfl⟩ := List.mem_map.mp present
    exact List.mem_map_of_mem (List.mem_of_mem_filter inside)
  unfold validateReversal
  split
  · split
    · rintro other isCode same
      obtain rfl := LedgerFailure.canonical.inj same
      exact absurd isCode (by decide)
    · unfold validateReversalOf
      refine (unrelated_eventOrError (by decide)).bind fun original _ found => ?_
      have readsOriginal : Readable original :=
        stored original (Dict.mem_values_of_get? found)
      refine (unrelated_ensure (by decide)).bind fun _ _ _ => ?_
      refine (yields_of_exists readsOriginal.product).bind fun originalProduct _ _ => ?_
      refine (yields_of_exists readable.product).bind fun reversalProduct _ _ => ?_
      refine (yields_of_exists readsOriginal.quantity).bind fun originalQuantity _ _ => ?_
      refine (yields_of_exists readable.quantity).bind fun reversedQuantity _ _ => ?_
      refine (yields_of_exists readsOriginal.grossAmount).bind fun originalAmount _ _ => ?_
      refine (yields_of_exists readable.grossAmount).bind fun reversedAmount _ _ => ?_
      refine (unrelated_ensure (by decide)).bind fun _ _ _ => ?_
      refine (unrelated_totalReversed (fun other present => ?_) _).bind fun totals _ _ => ?_
      · exact stored other (listed other (List.mem_of_mem_filter present))
      · exact unrelated_ensure (by decide)
  · exact unrelated_ensure (by decide)

theorem unrelated_validateRevision :
    Yields Unrelated (fun _ => True) (ledger.validateRevision tenantId event) := by
  unfold validateRevision
  refine (unrelated_ensure (by decide)).bind fun _ _ _ => ?_
  split
  · exact unrelated_ensure (by decide)
  · split
    · rintro other isCode same
      obtain rfl := LedgerFailure.canonical.inj same
      exact absurd isCode (by decide)
    · refine (unrelated_eventOrError (by decide)).bind fun previous _ _ => ?_
      exact unrelated_ensure (by decide)

/-- An append of a row with an accepted lineage and a readable event fails only
for other reasons. -/
theorem unrelated_validateAppend
    {sourceRow : ImmutableSourceRow}
    (lineage : validateLineage sourceRow event = .ok ())
    (readable : Readable event)
    (stored : ∀ other ∈ ledger.events, Readable other) :
    Yields Unrelated (fun _ => True)
      (ledger.validateAppend tenantId (sourceRow, some event)) := by
  have row : Yields Unrelated (fun _ => True)
      (ledger.validateRow tenantId sourceRow (some event)) := by
    unfold InMemoryCanonicalLedger.validateRow
    refine (unrelated_ensure (by decide)).bind fun _ _ _ => ?_
    refine (yields_of_exists ⟨_, lineage⟩).bind fun _ _ _ => ?_
    refine (unrelated_ensure (by decide)).bind fun _ _ _ => ?_
    exact unrelated_ensure (by decide)
  unfold validateAppend
  refine row.bind fun _ _ _ => ?_
  unfold validateEvent
  refine (unrelated_ensure (by decide)).bind fun _ _ _ => ?_
  refine (unrelated_ensure (by decide)).bind fun _ _ _ => ?_
  refine unrelated_validateRevision.bind fun _ _ _ => ?_
  exact unrelated_validateReversal readable stored

/-- The stored events of imports are readable. -/
theorem readable_of_reachableBy
    (reachable : ReachableBy (fun step => ∀ event, step.item.2 = some event → IsNormalized event)
      ledger) :
    ∀ stored ∈ ledger.events, Readable stored := by
  induction reachable with
  | empty => simp [events, empty]
  | @append before tenantId item earlier accepted normalized inductionHypothesis =>
      intro stored present
      rw [events_writeItem, List.mem_append] at present
      rcases present with old | new
      · exact inductionHypothesis stored old
      · obtain ⟨carried, -⟩ := newEvent_eq_some.mp (Option.mem_toList.mp new)
        obtain ⟨context, rowNumber, row, candidate, isRead, rfl⟩ := normalized stored carried
        exact (agreesWith_of_readRow isRead).readable

end Append

/-- A row that the adapter normalizes agrees with its candidate, and in a ledger
of normalized rows an append of the candidate raises no error about a lineage or
a typed value. -/
theorem normalized_agrees
    (context : ImportContext)
    (rowNumber : Nat)
    (row : RawPayload)
    {candidate : Candidate}
    (isRead : context.readRow rowNumber row = .ok (.inr candidate)) :
    AgreesWith row candidate ∧
      ∀ ledger, ReachableBy (fun step => ∀ event, step.item.2 = some event → IsNormalized event)
          ledger →
        ∀ (tenant : TenantContext) (code : LedgerErrorCode),
          (ledger.append tenant candidate.item).1 = .error (.canonical code) →
            code ∉ lineageCodes ++ typedCodes := by
  have agrees := agreesWith_of_readRow isRead
  refine ⟨agrees, ?_⟩
  intro ledger reachable tenant code raised listed
  have outcome := @unrelated_validateAppend ledger tenant.tenantId candidate.event
    candidate.sourceRow agrees.lineage agrees.readable (readable_of_reachableBy reachable)
  have failed : ledger.validateAppend tenant.tenantId (candidate.sourceRow, some candidate.event) =
      .error (.canonical code) := by
    unfold append appendLocked Candidate.item at raised
    split at raised
    next failure isFailure =>
      rw [isFailure]
      exact congrArg Except.error (Except.error.inj raised)
    next => cases raised
  rw [failed] at outcome
  exact outcome code listed rfl

/-! ### Rows that can be normalized -/

/-- The values of a valid row can be read. -/
theorem exists_rowValues
    {row : RawPayload}
    (valid : validateRow row = .ok ()) :
    ∃ values, rowValues row = .ok values ∧ 1 ≤ values.revision ∧ values.eventType ≠ "" ∧
      cell row "operation_id" ≠ "" := by
  simp only [validateRow, ↓Checks.bind_done_eq_ok, Checks.bind_eq_ok, Checks.forM_require_eq_ok,
    Checks.require_eq_ok] at valid
  obtain ⟨⟨⟩, filled, operation, -, quantity, isQuantity, -, amount, isAmount, -, revision,
    isRevision, positive, eventTime, isEventTime, recognitionTime, isRecognitionTime, -⟩ := valid
  refine ⟨⟨quantity, amount, revision, (operationToEvent? (cell row "operation_type")).getD "",
    eventTime, recognitionTime⟩, ?_, positive, ?_, ?_⟩
  · simp only [rowValues, Checks.bind_eq_ok, Checks.pure_eq_ok]
    exact ⟨_, isQuantity, _, isAmount, _, isRevision, _, isEventTime, _, isRecognitionTime, rfl⟩
  · dsimp only
    unfold operationToEvent? at operation ⊢
    split at operation <;> simp_all
  · intro empty
    exact filled "operation_id" (by decide) (by rw [empty]; decide)

/-- A valid row can be normalized when its event does not refer to itself. -/
theorem exists_normalizeRow
    {row : RawPayload}
    {context : NormalizationContext}
    (valid : validateRow row = .ok ())
    (actor : PyText.stripText context.actor ≠ "")
    (filled : ∀ text ∈ [context.organizationId, context.marketplaceAccountId,
      context.importBatchId, context.sourceRecordId, context.schemaVersion], text ≠ "")
    (others : ∀ values, rowValues row = .ok values →
      (eventFields row context values).supersedesEventId ≠
          some (eventFields row context values).eventId ∧
        (eventFields row context values).reversalOfEventId ≠
          some (eventFields row context values).eventId) :
    ∃ normalized, normalizeRow row context = .ok normalized := by
  obtain ⟨values, read, revision, eventType, operation⟩ := exists_rowValues valid
  have digest : PyText.isHexDigest (eventFields row context values).semanticPayloadHash = true := by
    rw [eventFields]
    exact isHexDigest_canonicalJsonHash _
  have key (parts : List String) : QuantumAnalytics.digest parts ≠ "" := by
    intro empty
    have hex := isHexDigest_digest parts
    rw [empty] at hex
    exact absurd hex (by decide)
  simp only [List.forall_mem_cons] at filled
  obtain ⟨organization, account, batch, record, schema, -⟩ := filled
  have wellFormed : (eventFields row context values).postInit = .ok () := by
    rw [EventFields.postInit_eq_ok]
    refine ⟨?_, ?_, PyText.length_of_isHexDigest digest, PyText.int?_isSome_of_isHexDigest digest,
      (others values read).1, (others values read).2, ?_, ?_⟩
    rotate_left
    · rw [eventFields]
      exact revision
    rotate_left 2
    · simp only [EventFields.requiredStrings, List.forall_mem_cons]
      refine ⟨?_, ?_, ?_, ?_, ?_, ?_, ?_, ?_, ?_, ?_,
        List.forall_mem_nil _⟩
      · rw [eventFields]
        simp
      · rw [eventFields]
        exact organization
      · rw [eventFields]
        exact account
      · rw [eventFields]
        exact eventType
      · rw [eventFields]
        exact operation
      · rw [eventFields, sourceRowKey]
        simp
      · rw [eventFields]
        exact key _
      · rw [eventFields]
        exact batch
      · rw [eventFields]
        exact record
      · rw [eventFields]
        exact schema
    · rw [eventFields_payload]
      exact Json.sortFields_ne_nil (List.cons_ne_nil _ _)
    · rw [eventFields_provenance]
      exact Json.sortFields_ne_nil (List.cons_ne_nil _ _)
  have made : CanonicalEvent.make (eventFields row context values) = .ok ⟨_, wellFormed⟩ :=
    CanonicalEvent.make_eq_ok.mpr rfl
  refine ⟨⟨sourceRowKey row, ⟨_, wellFormed⟩, canonicalJsonHash row.toJson⟩, ?_⟩
  simp only [normalizeRow, Checks.bind_eq_ok, Checks.pure_eq_ok, Checks.require_eq_ok]
  exact ⟨(), valid, (), actor, values, read, _, made, rfl⟩

/-- A row with blanks, an underscore and an exponent in its numbers. -/
def saleRow : RawPayload :=
  ([("row_id", "1"), ("operation_id", "sale"), ("operation_type", "SALE"),
    ("event_time", "2026-06-01T10:00:00Z"), ("recognition_time", "2026-06-01T10:05:00Z"),
    ("product_external_id", "product"), ("quantity", " 1_0 "), ("gross_amount", "1.50E+3"),
    ("currency", "RUB"), ("revision", "1"), ("supersedes_event_id", ""),
    ("reversal_of_event_id", "")] : List (String × String)).foldl
    (fun row cell => row.set cell.1 cell.2) Dict.empty

/-- The import of the row. -/
def saleImport : ImportContext where
  tenantId := "tenant"
  rawFileId := "00000000-0000-4000-8000-000000000001"
  marketplaceAccountId := "account"
  sourceFileSha256 := Operation.fileDigest
  schemaVersion := "wb-synthetic-operations-v1"
  structuralFingerprint := [("sha256", .str Operation.fileDigest)]
  semanticFingerprint := [("sha256", .str Operation.fileDigest)]
  adapterId := "wildberries-synthetic"
  adapterVersion := "1.0"
  ingestedAt := (Operation.sale 1 "1").time

/-- The row is a candidate. -/
theorem exists_readRow_sale :
    ∃ candidate, saleImport.readRow 2 saleRow = .ok (.inr candidate) := by
  have fileDigest : PyText.isHexDigest Operation.fileDigest = true :=
    Sha256.isHexDigest_hexdigest "file"
  have unrelated : reference saleRow "supersedes_event_id" = none ∧
      reference saleRow "reversal_of_event_id" = none := by
    decide
  obtain ⟨normalized, isNormalized⟩ := @exists_normalizeRow saleRow
    (saleImport.normalization 2 saleRow) (by decide +kernel) (by decide)
    (by simp [ImportContext.normalization, ImportContext.batchId,
      ImportContext.sourceRecordId, saleImport])
    (fun values _ => by
      rw [eventFields]
      simp [unrelated])
  obtain ⟨_, -, -, sameKey⟩ := normalizeRow_eq_ok isNormalized
  have rowWellFormed : (saleImport.sourceRowFields 2 saleRow (sourceRowKey saleRow) .valid
      []).postInit = .ok () := by
    have cells : saleRow.entries ≠ [] := by decide
    have hasDigest : SourceRowFields.hasDigest [("sha256", .str Operation.fileDigest)] = true :=
      fileDigest
    have uuid : PyText.isUuid "00000000-0000-4000-8000-000000000001" = true := by decide
    rw [SourceRowFields.postInit_eq_ok]
    simp [SourceRowFields.requiredStrings, ImportContext.sourceRowFields, saleImport, cells, uuid,
      fileDigest, isHexDigest_canonicalJsonHash, hasDigest, SourceRowFields.checkSemantic,
      SourceRowFields.checkFingerprint, ImportContext.sourceRecordId, ImportContext.batchId,
      sourceRowKey, Operation.time, DateTime.isAware]
  have rowMade : ImmutableSourceRow.make (saleImport.sourceRowFields 2 saleRow
      (sourceRowKey saleRow) .valid []) = .ok ⟨_, rowWellFormed⟩ :=
    ImmutableSourceRow.make_eq_ok.mpr rfl
  refine ⟨⟨⟨_, rowWellFormed⟩, normalized.event⟩, ?_⟩
  rw [ImportContext.readRow, isNormalized]
  dsimp only
  rw [sameKey]
  exact Checks.bind_eq_ok.mpr ⟨_, rowMade, Checks.pure_eq_ok.mpr rfl⟩

/-- The candidate of the row. -/
theorem normalized_agrees_sale :
    ∃ candidate, saleImport.readRow 2 saleRow = .ok (.inr candidate) ∧
      AgreesWith saleRow candidate := by
  obtain ⟨candidate, isRead⟩ := exists_readRow_sale
  exact ⟨candidate, isRead, (normalized_agrees saleImport 2 saleRow isRead).1⟩

end Synthetic
end QuantumAnalytics
