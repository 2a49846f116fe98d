import QuantumAnalytics.ProofPipeline.Atomicity

/-!
# The proof metric

`build_metric_evidence` adds the gross amounts of the sales that no event of the
ledger file supersedes or reverses. A reversal that was itself superseded still
takes its sale out of the sum.
-/

namespace QuantumAnalytics
namespace ProofPipeline

/-! ### The builder -/

/-- The identifiers that events refer to; an empty one counts as missing. -/
def referredIds (reference : SerializedEvent → Option String) (events : List SerializedEvent) :
    List String :=
  events.filterMap fun event => (reference event).filter fun id => id ≠ ""

/-- `superseded_ids`. -/
def supersededIds (events : List SerializedEvent) : List String :=
  referredIds (fun event => event.supersedesEventId) events

/-- `reversed_ids`. -/
def reversedIds (events : List SerializedEvent) : List String :=
  referredIds (fun event => event.reversalOfEventId) events

/-- `active_sales`. -/
def activeSales (events : List SerializedEvent) : List SerializedEvent :=
  events.filter fun event => decide (event.eventType = "SALE_RECOGNIZED" ∧
    event.eventId ∉ supersededIds events ∧ event.eventId ∉ reversedIds events)

/-- `Decimal(event["payload"]["gross_amount"]["value"])`; `none` is an exception, or a
number that is not finite. -/
def grossAmount (event : SerializedEvent) : Option Decimal := do
  let .obj amount ← Json.lookup event.payload "gross_amount" | none
  let .str text ← Json.lookup amount "value" | none
  let .finite value ← Decimal.parse? text | none
  return value

/-- `format(sum(amounts), "f")`; the sum of nothing is the integer zero. -/
def formatSum : List Decimal → Option String
  | [] => some "0.000000"
  | amounts => do
      let total ← (amounts.foldlM (Decimal.add .default) (.ofInt 0)).toOption
      return total.formatF

/-- An item of `excluded_events`. -/
structure ExcludedEvent where
  eventId : String
  reason : String
  deriving DecidableEq

/-- `excluded`, in the order of the events. -/
def excludedEvents (events : List SerializedEvent) : List ExcludedEvent :=
  events.flatMap fun event =>
    (if event.eventId ∈ supersededIds events then [⟨event.eventId, "SUPERSEDED"⟩] else []) ++
      if event.eventId ∈ reversedIds events then [⟨event.eventId, "REVERSED"⟩] else []

/-- The result of `build_metric_evidence`. -/
structure MetricEvidence where
  metricId : String := "proof.current_gross_sales_amount"
  metricVersion : String := "1.0"
  state : String := "VALID"
  value : String
  valueType : String := "decimal"
  unit : String := "RUB"
  calculationProfileVersion : String := "a6-proof-profile-v1"
  roundingPolicyVersion : String := "no-rounding-proof-v1"
  activeEventIds : List String
  excludedEvents : List ExcludedEvent
  canonicalEventIds : List String
  sourceRecordIds : List String
  sourceRecordsFile : String
  sourceFileSha256 : String
  normalizationRuleVersions : List String := ["wb-synthetic-normalization-v1"]
  limitations : List String :=
    ["synthetic_data_only", "not_a_production_financial_metric",
      "no_tax_cost_or_other_expense_rules_applied"]

/-- `sorted(ids)`. -/
def sortedIds (ids : List String) : List String := ids.insertionSort (· ≤ ·)

/-- `build_metric_evidence`; `none` is an exception. -/
def buildMetricEvidence (files : ProofFiles) (sourceFileSha256 sourceRecordsFile : String) :
    Option MetricEvidence := do
  let events := files.events
  let amounts ← (activeSales events).mapM grossAmount
  let value ← formatSum amounts
  return {
    value
    activeEventIds := sortedIds ((activeSales events).map fun event => event.eventId)
    excludedEvents := (excludedEvents events).insertionSort fun left right =>
      left.eventId ≤ right.eventId
    canonicalEventIds := sortedIds (events.map fun event => event.eventId)
    sourceRecordIds := sortedIds (events.map fun event => event.sourceRecordId).dedup
    sourceRecordsFile
    sourceFileSha256 }

/-! ### The metric that the contract asks for -/

/-- The reference names the event. -/
def Names (reference : Option String) (event : SerializedEvent) : Prop :=
  reference = some event.eventId ∧ event.eventId ≠ ""

instance decidableNames (reference : Option String) (event : SerializedEvent) :
    Decidable (Names reference event) := inferInstanceAs (Decidable (_ ∧ _))

variable (events : List SerializedEvent)

/-- Some event supersedes the event. -/
def IsSuperseded (event : SerializedEvent) : Prop :=
  ∃ other ∈ events, Names other.supersedesEventId event

instance decidableIsSuperseded (event : SerializedEvent) :
    Decidable (IsSuperseded events event) :=
  inferInstanceAs (Decidable (∃ other ∈ events, Names other.supersedesEventId event))

/-- A sale that is not superseded, and not reversed by an event that is not superseded. -/
def IsCurrentSale (event : SerializedEvent) : Prop :=
  event.eventType = "SALE_RECOGNIZED" ∧ ¬IsSuperseded events event ∧
    ∀ reversal ∈ events, Names reversal.reversalOfEventId event → IsSuperseded events reversal

instance decidableIsCurrentSale (event : SerializedEvent) :
    Decidable (IsCurrentSale events event) := inferInstanceAs (Decidable (_ ∧ _ ∧ _))

/-- The current sales. -/
def currentSales : List SerializedEvent := events.filter fun event => IsCurrentSale events event

/-- The exact sum of the gross amounts of the current sales. -/
def currentAmount : ℚ :=
  (((currentSales events).filterMap grossAmount).map Decimal.toRat).sum

/-- The evidence has the exact sum and lists exactly the current sales. -/
def IsCurrent (files : ProofFiles) (sourceFileSha256 sourceRecordsFile : String) : Prop :=
  ∃ evidence, buildMetricEvidence files sourceFileSha256 sourceRecordsFile = some evidence ∧
    evidence.activeEventIds.Perm ((currentSales files.events).map fun event => event.eventId) ∧
    Finance.Denotes evidence.value (currentAmount files.events)

/-! ### Where it is met -/

/-- Every sale that is not superseded and that is reversed is reversed by an event that is
not superseded. -/
def NoStaleReversal : Prop :=
  ∀ event ∈ events, event.eventType = "SALE_RECOGNIZED" → ¬IsSuperseded events event →
    (∃ reversal ∈ events, Names reversal.reversalOfEventId event) →
      ∃ reversal ∈ events, Names reversal.reversalOfEventId event ∧
        ¬IsSuperseded events reversal

instance decidableNoStaleReversal : Decidable (NoStaleReversal events) :=
  inferInstanceAs (Decidable (∀ event ∈ events, _ → _ → _ → _))

/-- No addition of the amounts to the total, one after the other, loses a digit. -/
inductive SumsFit : Decimal → List Decimal → Prop
  | nil (total : Decimal) : SumsFit total []
  | cons {total amount next : Decimal} {amounts : List Decimal}
      (added : Decimal.add .default total amount = .ok next)
      (isExact : next.toRat = total.toRat + amount.toRat)
      (rest : SumsFit next amounts) : SumsFit total (amount :: amounts)

/-- The amounts of the current sales are added exactly in the context. -/
def AmountsFit : Prop :=
  SumsFit (.ofInt 0) ((currentSales events).filterMap grossAmount)

/-! ### Identifiers -/

variable {events}

theorem mem_referredIds
    {reference : SerializedEvent → Option String}
    {event : SerializedEvent} :
    event.eventId ∈ referredIds reference events ↔
      ∃ other ∈ events, Names (reference other) event := by
  simp only [referredIds, List.mem_filterMap, Option.filter_eq_some_iff, decide_eq_true_eq, Names]

theorem mem_supersededIds
    {event : SerializedEvent} :
    event.eventId ∈ supersededIds events ↔ IsSuperseded events event := mem_referredIds

/-- A sale of the builder is not superseded and not reversed at all. -/
theorem mem_activeSales
    {event : SerializedEvent} :
    event ∈ activeSales events ↔ event ∈ events ∧ event.eventType = "SALE_RECOGNIZED" ∧
      ¬IsSuperseded events event ∧
      ¬∃ reversal ∈ events, Names reversal.reversalOfEventId event := by
  rw [activeSales, List.mem_filter, decide_eq_true_eq, mem_supersededIds, reversedIds,
    mem_referredIds]

theorem mem_currentSales
    {event : SerializedEvent} :
    event ∈ currentSales events ↔ event ∈ events ∧ IsCurrentSale events event := by
  rw [currentSales, List.mem_filter, decide_eq_true_eq]

/-- Without stale reversals the builder takes the current sales. -/
theorem activeSales_eq_currentSales
    (noStale : NoStaleReversal events) : activeSales events = currentSales events := by
  apply List.filter_congr
  intro event listed
  rw [decide_eq_decide, mem_supersededIds, reversedIds, mem_referredIds]
  constructor
  · rintro ⟨isSale, fresh, unreversed⟩
    exact ⟨isSale, fresh, fun reversal isReversal names =>
      absurd ⟨reversal, isReversal, names⟩ unreversed⟩
  · rintro ⟨isSale, fresh, stale⟩
    refine ⟨isSale, fresh, fun reversed => ?_⟩
    obtain ⟨reversal, isReversal, names, active⟩ := noStale event listed isSale fresh reversed
    exact active (stale reversal isReversal names)

/-- The builder loses a sale that only superseded events reverse. -/
theorem noStaleReversal_of_perm
    (same : ((activeSales events).map fun event => event.eventId).Perm
      ((currentSales events).map fun event => event.eventId)) : NoStaleReversal events := by
  intro event listed isSale fresh reversed
  by_contra none
  have current : event ∈ currentSales events := by
    refine mem_currentSales.mpr ⟨listed, isSale, fresh, fun reversal isReversal names => ?_⟩
    by_contra active
    exact none ⟨reversal, isReversal, names, active⟩
  have isActive : event.eventId ∈ (activeSales events).map fun event => event.eventId :=
    same.mem_iff.mpr (List.mem_map_of_mem current)
  obtain ⟨other, isOther, sameId⟩ := List.mem_map.mp isActive
  obtain ⟨reversal, isReversal, names⟩ := reversed
  refine (mem_activeSales.mp isOther).2.2.2 ⟨reversal, isReversal, ?_⟩
  rw [Names, sameId]
  exact names

/-! ### Amounts -/

/-- Additions that lose no digit give the exact sum. -/
theorem foldlM_add_of_sumsFit
    {total : Decimal}
    {amounts : List Decimal}
    (fit : SumsFit total amounts) :
    ∃ result, amounts.foldlM (Decimal.add .default) total = .ok result ∧
      result.toRat = total.toRat + (amounts.map Decimal.toRat).sum := by
  induction fit with
  | nil total => exact ⟨total, rfl, by simp⟩
  | cons added isExact _ inductionHypothesis =>
      obtain ⟨result, folded, isSum⟩ := inductionHypothesis
      refine ⟨result, ?_, ?_⟩
      · rw [List.foldlM_cons, added]
        exact folded
      · rw [isSum, isExact, List.map_cons, List.sum_cons, add_assoc]

theorem formatSum_of_sumsFit
    {amounts : List Decimal}
    (fit : SumsFit (.ofInt 0) amounts) :
    ∃ text, formatSum amounts = some text ∧
      Finance.Denotes text (amounts.map Decimal.toRat).sum := by
  cases amounts with
  | nil =>
      have zero := Finance.denotes_formatF ⟨false, 0, -6⟩
      refine ⟨"0.000000", rfl, ?_⟩
      have isText : Decimal.formatF ⟨false, 0, -6⟩ = "0.000000" := by decide
      have isZero : Decimal.toRat ⟨false, 0, -6⟩ = 0 := by simp [Decimal.toRat]
      rw [isText, isZero] at zero
      exact zero
  | cons amount amounts =>
      obtain ⟨result, folded, isSum⟩ := foldlM_add_of_sumsFit fit
      have isZero : Decimal.toRat (.ofInt 0) = 0 := by simp [Decimal.toRat, Decimal.ofInt]
      refine ⟨result.formatF, ?_, ?_⟩
      · rw [formatSum, folded]
        · rfl
        · exact List.cons_ne_nil amount amounts
      · rw [isZero, zero_add] at isSum
        rw [← isSum]
        exact Finance.denotes_formatF result

/-! ### Ledgers of imports -/

open Synthetic

/-- The amount of a normalized row is read from its event. -/
theorem exists_grossAmount
    {row : RawPayload}
    {context : NormalizationContext}
    {normalized : NormalizedRow}
    (accepted : normalizeRow row context = .ok normalized) :
    ∃ amount, grossAmount (serialize normalized.event.toEventFields) = some amount := by
  obtain ⟨values, read, fields, -⟩ := normalizeRow_eq_ok accepted
  have holdable : values.grossAmount.Holdable := by
    simp only [rowValues, Checks.bind_eq_ok, Checks.pure_eq_ok] at read
    obtain ⟨_, -, amount, isAmount, _, -, _, -, _, -, rfl⟩ := read
    rw [grossAmountCell] at isAmount
    split at isAmount
    next value parsed =>
      obtain rfl := Except.ok.inj isAmount
      exact Decimal.holdable_of_parse? parsed
    next => cases isAmount
    next => cases isAmount
  obtain ⟨members, shape, -, -, value, -⟩ := @lookup_typedValue
    (.str values.grossAmount.formatF) (.str (cell row "currency")) "decimal"
    context.sourceRecordId
  have found : Json.lookup (payload row context.sourceRecordId values) "gross_amount" =
      some (.obj members) := by
    rw [← shape]
    exact Json.lookup_sortFields (by simp) (by simp)
  obtain ⟨amount, parsed, -⟩ := Decimal.parse?_formatF holdable
  have isPayload : (serialize normalized.event.toEventFields).payload =
      payload row context.sourceRecordId values := by
    rw [fields]
    rfl
  refine ⟨amount, ?_⟩
  simp [grossAmount, isPayload, found, value, parsed]

/-- Every event has an amount. -/
def HasAmounts (events : List SerializedEvent) : Prop :=
  ∀ event ∈ events, ∃ amount, grossAmount event = some amount

theorem hasAmounts_importRows
    {call : ProofImport}
    {detection : SchemaDetection}
    {semantic : JsonObject}
    {state : ProofImport.ImportState}
    (rows : List RawPayload)
    (hasAmounts : HasAmounts state.events) :
    HasAmounts (call.importRows detection semantic state rows).1.events := by
  induction rows generalizing state with
  | nil => exact hasAmounts
  | cons row rows inductionHypothesis =>
      rw [ProofImport.importRows]
      split
      next => exact hasAmounts
      next next imported =>
        obtain ⟨after, isNew, ⟨normalized, isNormalized, added⟩, added'⟩ :=
          ProofImport.importRow_spec imported
        apply inductionHypothesis
        rw [added'.events]
        rcases addIfAbsent_spec added with ⟨rfl, -⟩ | ⟨rfl, -⟩
        · exact hasAmounts
        · intro event listed
          rcases List.mem_append.mp listed with old | new
          · exact hasAmounts event old
          · obtain rfl := List.mem_singleton.mp new
            exact exists_grossAmount isNormalized

/-- A call keeps the amounts of the ledger. -/
theorem hasAmounts_run
    (library : GateLibrary)
    (call : ProofImport)
    {files : ProofFiles}
    (hasAmounts : HasAmounts files.events) :
    HasAmounts (call.run library files).2.events := by
  unfold ProofImport.run
  split
  next => exact hasAmounts
  next => exact hasAmounts
  next detection rows _ =>
    dsimp only
    split
    next => exact hasAmounts
    next sourceRecords _ =>
      have loop := @hasAmounts_importRows call detection (semanticFingerprint rows)
        { events := files.events, sourceRecords } rows hasAmounts
      split
      next => exact loop
      next => exact loop

theorem hasAmounts_filesAfter
    (library : GateLibrary)
    (calls : List ProofImport) : HasAmounts (filesAfter library calls).events := by
  induction calls using List.reverseRecOn with
  | nil => exact fun event listed => absurd listed List.not_mem_nil
  | append_singleton calls last inductionHypothesis =>
      rw [filesAfter, List.foldl_append]
      exact hasAmounts_run library last inductionHypothesis

/-- The amounts of events that have amounts. -/
theorem mapM_grossAmount
    {sales : List SerializedEvent}
    (hasAmounts : HasAmounts sales) :
    sales.mapM grossAmount = some (sales.filterMap grossAmount) := by
  induction sales with
  | nil => rfl
  | cons sale sales inductionHypothesis =>
      obtain ⟨⟨amount, isAmount⟩, rest⟩ := List.forall_mem_cons.mp hasAmounts
      rw [List.mapM_cons, isAmount, inductionHypothesis rest, List.filterMap_cons, isAmount]
      rfl

/-- Evidence is built when the sum has a text. -/
theorem exists_evidence
    {files : ProofFiles}
    {text : String}
    (hasAmounts : HasAmounts (activeSales files.events))
    (formatted : formatSum ((activeSales files.events).filterMap grossAmount) = some text)
    (sourceFileSha256 sourceRecordsFile : String) :
    ∃ evidence, buildMetricEvidence files sourceFileSha256 sourceRecordsFile = some evidence ∧
      evidence.value = text ∧
      evidence.activeEventIds =
        sortedIds ((activeSales files.events).map fun event => event.eventId) := by
  simp only [buildMetricEvidence, mapM_grossAmount hasAmounts, formatted, Option.bind_eq_bind,
    Option.bind_some, Option.pure_def, Option.some.injEq, exists_eq_left']
  exact ⟨trivial, trivial⟩

/-- **The proof metric.** After any imports whose current amounts are added exactly, the
evidence has the exact sum of the current sales and lists exactly these if and only if no
sale is reversed by superseded events only. -/
theorem isCurrent_iff
    {library : GateLibrary}
    {calls : List ProofImport}
    (fit : AmountsFit (filesAfter library calls).events)
    (sourceFileSha256 sourceRecordsFile : String) :
    IsCurrent (filesAfter library calls) sourceFileSha256 sourceRecordsFile ↔
      NoStaleReversal (filesAfter library calls).events := by
  have hasAmounts := hasAmounts_filesAfter library calls
  generalize filesAfter library calls = files at fit hasAmounts ⊢
  have amounts : HasAmounts (activeSales files.events) :=
    fun event listed => hasAmounts event (List.mem_filter.mp listed).1
  constructor
  · rintro ⟨evidence, built, same, -⟩
    apply noStaleReversal_of_perm
    simp only [buildMetricEvidence, Option.bind_eq_bind, Option.bind_eq_some_iff, Option.pure_def,
      Option.some.injEq] at built
    obtain ⟨_, -, _, -, rfl⟩ := built
    exact (List.perm_insertionSort _ _).symm.trans same
  · intro noStale
    have sales := activeSales_eq_currentSales noStale
    obtain ⟨text, formatted, denotes⟩ := formatSum_of_sumsFit fit
    rw [← sales] at formatted
    obtain ⟨evidence, built, isText, areIds⟩ :=
      exists_evidence amounts formatted sourceFileSha256 sourceRecordsFile
    refine ⟨evidence, built, ?_, ?_⟩
    · rw [areIds, sales]
      exact List.perm_insertionSort _ _
    · rw [isText]
      exact denotes

/-! ### A revised return -/

/-- The cells of an operation. -/
def operationCells (rowId operation kind revision supersedes reverses : String) : List String :=
  [rowId, operation, kind, "2026-01-01T00:00:00Z", "2026-01-01T00:00:00Z", "p", "1", "10",
    "RUB", revision, supersedes, reverses]

/-- A sale, a return of it, and a revision of the return that is a return of another sale. -/
def revisedReturn : List Char :=
  proofFile [operationCells "1" "1" "SALE" "1" "" "",
    operationCells "2" "2" "RETURN" "1" "" "evt-1-r1",
    operationCells "3" "2" "RETURN" "2" "evt-2-r1" "evt-3-r1"]

/-- The events of a first import. -/
theorem events_run
    {library : GateLibrary}
    {call : ProofImport}
    {detection : SchemaDetection}
    {rows : List RawPayload}
    (accepted : call.accept library = some (.inr (detection, rows))) :
    (filesAfter library [call]).events = (call.importRows detection (semanticFingerprint rows)
      { events := [], sourceRecords := Dict.empty } rows).1.events := by
  change (call.run library ⟨none, none⟩).2.events = _
  unfold ProofImport.run
  rw [accepted]
  dsimp only
  split
  next missing => cases missing
  next sourceRecords found =>
    obtain rfl := Option.some.inj (show some Dict.empty = some sourceRecords from found)
    split
    next => rfl
    next => rfl

/-- After the import one sale is current, and its reversal is stale. -/
theorem events_revisedReturn :
    (currentSales (filesAfter (libraryOf .excel) [importOf revisedReturn]).events).filterMap
        grossAmount = [⟨false, 10, 0⟩] ∧
      ¬NoStaleReversal (filesAfter (libraryOf .excel) [importOf revisedReturn]).events := by
  have unsigned : List.isPrefixOf [0xef, 0xbb, 0xbf] (bytesOf revisedReturn) = false := by
    decide +kernel
  have opened : (CsvDialect.excel.nextRecord .start (csvLines revisedReturn)).toOption.map
      (Option.map Prod.fst) = some (some wbSyntheticHeaders) := by
    decide +kernel
  have facts : (validatedRows revisedReturn).any (fun rows =>
      let events := ((importOf revisedReturn).importRows (detection .excel wbSyntheticHeaders)
        (semanticFingerprint rows) { events := [], sourceRecords := Dict.empty } rows).1.events
      decide (ProofImport.validationErrors rows = []) &&
        decide ((currentSales events).filterMap grossAmount = [⟨false, 10, 0⟩]) &&
        decide (¬NoStaleReversal events)) = true := by
    decide +kernel
  obtain ⟨rows, isRead, facts⟩ := (Option.any_eq_true _ _).mp facts
  simp only [Bool.and_eq_true, decide_eq_true_eq] at facts
  obtain ⟨⟨valid, amounts⟩, stale⟩ := facts
  rw [events_run (accept_importOf unsigned opened isRead valid)]
  exact ⟨amounts, stale⟩

theorem amountsFit_revisedReturn :
    AmountsFit (filesAfter (libraryOf .excel) [importOf revisedReturn]).events := by
  have isExact : Decimal.toRat ⟨false, 10, 0⟩ =
      Decimal.toRat (.ofInt 0) + Decimal.toRat ⟨false, 10, 0⟩ := by
    simp [Decimal.toRat, Decimal.ofInt]
  have added : Decimal.add .default (.ofInt 0) ⟨false, 10, 0⟩ = .ok ⟨false, 10, 0⟩ := by decide
  rw [AmountsFit, events_revisedReturn.1]
  exact .cons added isExact (.nil _)

/-- The evidence after the import. -/
theorem isCurrent_iff_revisedReturn :
    IsCurrent (filesAfter (libraryOf .excel) [importOf revisedReturn])
        (importOf revisedReturn).fileHash "source_records.jsonl" ↔
      NoStaleReversal (filesAfter (libraryOf .excel) [importOf revisedReturn]).events :=
  isCurrent_iff amountsFit_revisedReturn _ _

/-- The sale is missing from the evidence. -/
theorem not_isCurrent_revisedReturn :
    ¬IsCurrent (filesAfter (libraryOf .excel) [importOf revisedReturn])
      (importOf revisedReturn).fileHash "source_records.jsonl" := by
  intro current
  exact events_revisedReturn.2 ((isCurrent_iff amountsFit_revisedReturn _ _).mp current)

end ProofPipeline
end QuantumAnalytics
