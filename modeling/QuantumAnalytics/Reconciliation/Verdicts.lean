import QuantumAnalytics.Reconciliation.Runtime

/-!
# Exactness of the verdicts

The verdict on a metric compares a rounded difference with the tolerance. For a
call that passes its checks, the verdicts are those of the exact differences
exactly when no difference overflows its context, every difference lies on the
same side of its tolerance as its rounding does, and the row counts are short
enough to be written.
-/

namespace QuantumAnalytics
namespace Reconciliation

/-- The exact difference of the two totals. -/
def MetricTotals.difference (metric : MetricTotals) : ℚ :=
  |metric.source.toRat - metric.calculated.toRat|

/-- The two totals differ by at most the tolerance. -/
def MetricTotals.Agree (metric : MetricTotals) : Prop :=
  metric.difference ≤ metric.tolerance.toRat

/-- The checks of a call pass: those before the first metric and those of the
numbers of every metric. -/
def Passes (request : Request) (opened : Opened) (metrics : List MetricTotals) : Prop :=
  openRequest request = .ok opened ∧ opened.policies.mapM (readMetric opened) = .ok metrics

/-- The row counts differ by at most their tolerance, and the source has as many
rows as were declared. -/
def Opened.RowsAgree (opened : Opened) : Prop :=
  |(opened.source.rowCount : ℤ) - opened.calculated.rowCount| ≤
      opened.policyRef.rowCountTolerance ∧
    ∀ expected, opened.declaration.expectedRowCount = some expected →
      opened.source.rowCount = expected

/-- The result of a metric states whether its totals agree. -/
def MetricTotals.JudgedBy (metric : MetricTotals) (result : MetricResult) : Prop :=
  result.metricId = metric.metricId ∧ (result.isMatch = true ↔ metric.Agree)

/-- The call returns, and its verdicts are those of the exact differences. -/
def ExactVerdicts (request : Request) (opened : Opened) (metrics : List MetricTotals) : Prop :=
  ∃ evidence, reconcileSourceTotals request = .ok evidence ∧
    List.Forall₂ MetricTotals.JudgedBy metrics evidence.metrics ∧
    (evidence.isReconciled = true ↔
      (∀ metric ∈ metrics, metric.Agree) ∧ opened.RowsAgree)

/-- The difference of a metric does not overflow its context, and it is at most
the tolerance exactly when its rounding is. -/
def MetricTotals.Settled (metric : MetricTotals) : Prop :=
  ¬Decimal.Overflows metric.context metric.difference ∧
    (metric.Agree ↔ Decimal.RoundsWithin metric.context metric.tolerance metric.difference)

/-- The row counts of the evidence are short enough to be written. -/
def Opened.RowsShort (opened : Opened) : Prop :=
  PyJson.isShortInt opened.source.rowCount = true ∧
    PyJson.isShortInt opened.calculated.rowCount = true ∧
    ∀ expected, opened.declaration.expectedRowCount = some expected →
      PyJson.isShortInt expected = true

/-! ### The integers of a document -/

@[simp] theorem integers_null : integers .null = [] := rfl

@[simp] theorem integers_int (value : Int) : integers (.int value) = [value] := rfl

@[simp] theorem integers_str (text : String) : integers (.str text) = [] := rfl

theorem mem_integersOfFields
    {fields : JsonObject}
    {value : Int} :
    value ∈ integersOfFields fields ↔ ∃ field ∈ fields, value ∈ integers field.2 := by
  induction fields with
  | nil => simp [integersOfFields]
  | cons field fields inductionHypothesis =>
      simp [integersOfFields, inductionHypothesis]

theorem mem_integers_ofFields
    {fields : JsonObject}
    {value : Int} :
    value ∈ integers (.ofFields fields) ↔ ∃ field ∈ fields, value ∈ integers field.2 := by
  rw [Json.ofFields, integers, mem_integersOfFields]
  simp only [Json.sortFields, (List.perm_insertionSort _ fields).mem_iff]

/-- A document has a canonical text when its integers are short. -/
theorem exists_canonicalHash_iff
    {document : JsonObject}
    {exclude : String} :
    (∃ hash, canonicalHash document exclude = .ok hash) ↔
      ∀ field ∈ document, field.1 ≠ exclude →
        ∀ value ∈ integers field.2, PyJson.isShortInt value = true := by
  simp only [canonicalHash, Checks.bind_done_eq_ok, Checks.require_eq_ok, Checks.pure_eq_ok,
    List.all_eq_true, mem_integersOfFields, List.mem_filter, decide_eq_true_eq]
  constructor
  · rintro ⟨-, short, -⟩ field listed kept value isInteger
    exact short value ⟨field, ⟨listed, kept⟩, isInteger⟩
  · intro short
    refine ⟨_, ?_, rfl⟩
    rintro value ⟨field, ⟨listed, kept⟩, isInteger⟩
    exact short field listed kept value isInteger

@[simp] theorem integers_stateText (isMatch : Bool) : integers (stateText isMatch) = [] := rfl

/-! ### What the policy promises -/

theorem safeId_eq_ok
    {value : Json}
    {code : ReconciliationErrorCode}
    {text : String} :
    safeId value code = .ok text ↔ value = .str text ∧ Admission.isSafeIdentifier text = true := by
  simp only [safeId, ↓Checks.bind_done_eq_ok, Checks.bind_eq_ok, Checks.requireSome_eq_ok,
    Checks.require_eq_ok, Checks.pure_eq_ok]
  constructor
  · rintro ⟨read, isText, safe, rfl⟩
    cases value <;> simp_all [Finance.text?]
  · rintro ⟨rfl, safe⟩
    exact ⟨text, rfl, safe, rfl⟩

/-- The policy of a metric: a tolerance that is not negative, and a signature
without integers. -/
structure MetricPolicyValid (policy : JsonObject) : Prop where
  tolerance : ∀ {value : Decimal},
    decimal (Finance.member policy "absolute") .toleranceInvalid = .ok value → 0 ≤ value.toRat
  valueType : integers (Finance.member policy "value_type") = []
  unit : integers (Finance.member policy "unit") = []
  currency : integers (Finance.member policy "currency") = []

theorem metricPolicyValid
    {entry : String × Json}
    {policy : MetricPolicy}
    (read : metricPolicy entry = .ok policy) : MetricPolicyValid policy.2 := by
  simp only [metricPolicy, ↓Checks.bind_done_eq_ok, Checks.bind_eq_ok, Checks.require_eq_ok] at read
  obtain ⟨metricId, -, raw, -, tolerance, toleranceRead, nonneg, valueType, valueTypeRead, unit,
    unitRead, read⟩ := read
  have kept : policy.2 = raw ∧ integers (Finance.member raw "currency") = [] := by
    split at read
    next absent =>
      obtain rfl := Except.ok.inj read
      refine ⟨rfl, ?_⟩
      cases currency : Finance.member raw "currency" <;> simp_all [Finance.isNull]
    next =>
      rw [Checks.bind_eq_ok] at read
      obtain ⟨currency, currencyRead, returned⟩ := read
      obtain rfl := Except.ok.inj returned
      rw [(safeId_eq_ok.mp currencyRead).1]
      exact ⟨rfl, integers_str currency⟩
  rw [kept.1]
  refine ⟨fun {value} again => ?_, ?_, ?_, kept.2⟩
  · rw [toleranceRead] at again
    obtain rfl := Except.ok.inj again
    rw [Bool.eq_false_iff, ne_eq, Decimal.lt_iff, Decimal.toRat_ofInt, not_lt] at nonneg
    exact_mod_cast nonneg
  · rw [(safeId_eq_ok.mp valueTypeRead).1, integers_str]
  · rw [(safeId_eq_ok.mp unitRead).1, integers_str]

/-- An accepted policy: valid policies of its metrics and integers that have a text. -/
structure PolicyValid (policyRef : PolicyRef) (policies : List MetricPolicy) : Prop where
  metrics : ∀ policy ∈ policies, MetricPolicyValid policy.2
  version : PyJson.isShortInt policyRef.version = true
  rowCountTolerance : PyJson.isShortInt policyRef.rowCountTolerance = true

/-- A member of a mapping is one of its values, or `None`. -/
theorem mem_of_member
    {fields : JsonObject}
    {key : String}
    {value : Json}
    (isMember : Finance.member fields key = value)
    (present : value ≠ .null) : (key, value) ∈ fields := by
  unfold Finance.member Json.lookup at isMember
  cases found : fields.find? fun field => field.1 = key with
  | none => simp_all
  | some field =>
      have named : field.1 = key := by simpa using List.find?_some found
      have listed := List.mem_of_find?_eq_some found
      rw [found] at isMember
      obtain rfl : field.2 = value := isMember
      rwa [← named]

theorem policyValid
    {value : Json}
    {policyRef : PolicyRef}
    {policies : List MetricPolicy}
    (read : readPolicy value = .ok (policyRef, policies)) : PolicyValid policyRef policies := by
  simp only [readPolicy, ↓Checks.bind_done_eq_ok, Checks.bind_eq_ok, Checks.require_eq_ok,
    Checks.requireSome_eq_ok] at read
  obtain ⟨policy, -, policyId, -, version, isVersion, contentHash, -, hash, hashed, -,
    rowCountTolerance, isTolerance, read⟩ := read
  have short := exists_canonicalHash_iff.mp ⟨hash, hashed⟩
  have shortMember {key : String} {number : Int}
      (isMember : Finance.member policy key = .int number) (kept : key ≠ "content_hash") :
      PyJson.isShortInt number = true :=
    short _ (mem_of_member isMember (by simp)) kept number (by simp)
  cases tolerances : Finance.member policy "metric_tolerances" with
  | obj fields =>
      simp only [tolerances, Checks.bind_eq_ok, Checks.pure_eq_ok] at read
      obtain ⟨-, -, collected, areRead, returned⟩ := read
      obtain ⟨rfl, rfl⟩ := Prod.mk.inj returned
      refine ⟨fun entry listed => ?_, ?_, ?_⟩
      · obtain ⟨field, -, stepped⟩ := Checks.exists_of_mem_mapM areRead listed
        exact metricPolicyValid stepped
      · cases member : Finance.member policy "version" with
        | int number =>
            simp only [member, Finance.positiveInt?, Option.ite_none_right_eq_some,
              Option.some.injEq] at isVersion
            obtain ⟨-, rfl⟩ := isVersion
            exact shortMember member (by decide)
        | _ => simp [member, Finance.positiveInt?] at isVersion
      · cases member : Finance.member policy "row_count_tolerance" with
        | int number =>
            simp only [nonnegativeInt, member, Finance.nonNegativeInt?,
              Checks.requireSome_eq_ok, Option.ite_none_right_eq_some, Option.some.injEq]
              at isTolerance
            obtain ⟨nonneg, rfl⟩ := isTolerance
            rw [Int.toNat_of_nonneg nonneg]
            exact shortMember member (by decide)
        | _ => simp [nonnegativeInt, member, Finance.nonNegativeInt?] at isTolerance
  | _ => simp [tolerances] at read

/-! ### The verdict on one metric -/

/-- A metric of a call has the policy that the call read for it. -/
theorem readMetric_spec
    {opened : Opened}
    {entry : MetricPolicy}
    {metric : MetricTotals}
    (read : readMetric opened entry = .ok metric) :
    metric.metricId = entry.1 ∧ metric.policy = entry.2 ∧
      decimal (Finance.member entry.2 "absolute") .toleranceInvalid = .ok metric.tolerance := by
  simp only [readMetric, Checks.bind_eq_ok, Checks.pure_eq_ok] at read
  obtain ⟨source, -, calculated, -, tolerance, toleranceRead, rfl⟩ := read
  exact ⟨rfl, rfl, toleranceRead⟩

/-- A metric has a verdict unless its difference overflows. -/
theorem exists_judge_iff {metric : MetricTotals} :
    (∃ result, judge metric = .ok result) ↔
      ¬Decimal.Overflows metric.context metric.difference := by
  rw [MetricTotals.difference, ← Decimal.exists_absDifference_iff]
  simp only [judge, Checks.bind_eq_ok, Checks.mapError_eq_ok, Checks.pure_eq_ok]
  constructor
  · rintro ⟨-, delta, computed, -⟩
    exact ⟨delta, computed⟩
  · rintro ⟨delta, computed⟩
    exact ⟨_, delta, computed, rfl⟩

/-- The verdict on a metric is that of its rounded difference, and the result
holds no integer. -/
theorem judge_spec
    {metric : MetricTotals}
    {result : MetricResult}
    (valid : MetricPolicyValid metric.policy)
    (nonneg : 0 ≤ metric.tolerance.toRat)
    (judged : judge metric = .ok result) :
    result.metricId = metric.metricId ∧
      (result.isMatch = true ↔
        Decimal.RoundsWithin metric.context metric.tolerance metric.difference) ∧
      integers result.document = [] := by
  simp only [judge, Checks.bind_eq_ok, Checks.mapError_eq_ok, Checks.pure_eq_ok] at judged
  obtain ⟨delta, computed, rfl⟩ := judged
  refine ⟨rfl, ?_, ?_⟩
  · rw [Decimal.le_iff]
    exact Decimal.absDifference_le_iff computed nonneg
  · apply List.eq_nil_iff_forall_not_mem.mpr
    intro value
    rw [MetricResult.document, mem_integers_ofFields]
    simp [valid.valueType, valid.unit, valid.currency]

/-! ### The verdicts of a call -/

/-- Every metric matches when the totals of every metric agree. -/
theorem all_isMatch_iff
    {metrics : List MetricTotals}
    {results : List MetricResult}
    (judgedBy : List.Forall₂ MetricTotals.JudgedBy metrics results) :
    results.all MetricResult.isMatch = true ↔ ∀ metric ∈ metrics, metric.Agree := by
  induction judgedBy with
  | nil => simp
  | cons judged _ inductionHypothesis =>
      rw [List.all_cons, Bool.and_eq_true, judged.2, inductionHypothesis, List.forall_mem_cons]

section Call

variable {request : Request} {opened : Opened} {metrics : List MetricTotals}

theorem policyValid_of_passes (passes : Passes request opened metrics) :
    PolicyValid opened.policyRef opened.policies := by
  obtain ⟨isOpened, -⟩ := passes
  simp only [openRequest, ↓Checks.bind_done_eq_ok, Checks.bind_eq_ok, Checks.require_eq_ok,
    Checks.requireSome_eq_ok, Checks.pure_eq_ok, Prod.exists] at isOpened
  obtain ⟨-, -, reconciledAt, -, deadline, -, -, -, -, -, policyRef, policies, read, source, -,
    calculated, -, -, -, rfl⟩ := isOpened
  exact policyValid read

theorem metric_valid
    (passes : Passes request opened metrics)
    {metric : MetricTotals}
    (listed : metric ∈ metrics) :
    MetricPolicyValid metric.policy ∧ 0 ≤ metric.tolerance.toRat := by
  obtain ⟨entry, entryListed, read⟩ := Checks.exists_of_mem_mapM passes.2 listed
  obtain ⟨-, policy, tolerance⟩ := readMetric_spec read
  have valid := (policyValid_of_passes passes).metrics entry entryListed
  rw [policy]
  exact ⟨valid, valid.tolerance tolerance⟩

theorem rowMatch_iff : opened.rowMatch = true ↔ opened.RowsAgree := by
  have delta : (opened.rowDelta : ℤ) =
      |(opened.source.rowCount : ℤ) - opened.calculated.rowCount| := by
    rw [Opened.rowDelta, abs_eq_max_neg]
    omega
  rw [Opened.RowsAgree, ← delta, Opened.rowMatch]
  simp [Option.all_eq_true]

/-- An integer below a short one is short. -/
theorem isShortInt_of_le
    {small large : Int}
    (short : PyJson.isShortInt large = true)
    (le : small.natAbs ≤ large.natAbs) : PyJson.isShortInt small = true := by
  have positive : 0 < PyText.maxIntDigits := by decide
  simp only [PyJson.isShortInt, decide_eq_true_eq,
    Nat.length_toDigits_le_iff (by decide : 1 < 10) positive] at short ⊢
  exact le.trans_lt short

/-- The row counts of the evidence as a mapping. -/
def rowCountFields (opened : Opened) : List (String × Json) :=
  [("state", stateText opened.rowMatch), ("source", .int opened.source.rowCount),
    ("calculated", .int opened.calculated.rowCount),
    ("expected", opened.declaration.expectedRowCount.elim .null fun expected => .int expected),
    ("absolute_delta", .int opened.rowDelta),
    ("tolerance", .int opened.policyRef.rowCountTolerance)]

/-- The evidence of a call has a hash when its row counts are short. -/
theorem exists_evidenceHash_iff
    {isReconciled : Bool}
    {results : List MetricResult}
    (policy : PolicyValid opened.policyRef opened.policies)
    (texts : ∀ result ∈ results, integers result.document = []) :
    (∃ hash, canonicalHash (Json.sortFields (evidenceFields isReconciled opened results))
      "evidence_hash" = .ok hash) ↔ opened.RowsShort := by
  rw [exists_canonicalHash_iff]
  simp only [Json.sortFields, (List.perm_insertionSort _ _).mem_iff]
  constructor
  · intro short
    have counts := fun key value isMember =>
      short ("row_count", .ofFields (rowCountFields opened)) (by simp [evidenceFields, rowCountFields])
        (by simp) value (mem_integers_ofFields.mpr ⟨(key, .int value), isMember, by simp⟩)
    exact ⟨counts "source" _ (by simp [rowCountFields]),
      counts "calculated" _ (by simp [rowCountFields]),
      fun expected declared => counts "expected" _ (by simp [rowCountFields, declared])⟩
  · rintro ⟨source, calculated, expected⟩
    have delta : PyJson.isShortInt opened.rowDelta = true := by
      rcases Nat.le_total opened.source.rowCount opened.calculated.rowCount with le | le
      · refine isShortInt_of_le calculated ?_
        unfold Opened.rowDelta
        omega
      · refine isShortInt_of_le source ?_
        unfold Opened.rowDelta
        omega
    intro field listed kept value isInteger
    simp only [evidenceFields, List.mem_cons, List.not_mem_nil, or_false] at listed
    -- Only the reference to the policy, the row counts and the metrics can hold integers.
    rcases listed with rfl | rfl | rfl | rfl | rfl | rfl | rfl | rfl | rfl | rfl | rfl
    case inr.inr.inr.inr.inr.inr.inl =>
      simp only [mem_integers_ofFields] at isInteger
      obtain rfl : value = opened.policyRef.version := by simpa using isInteger
      exact policy.version
    case inr.inr.inr.inr.inr.inr.inr.inl =>
      simp only [mem_integers_ofFields] at isInteger
      simp only [List.mem_cons, List.not_mem_nil, or_false, exists_eq_or_imp, exists_eq_left,
        integers_stateText, integers_int, false_or] at isInteger
      rcases isInteger with rfl | rfl | isExpected | rfl | rfl
      · exact source
      · exact calculated
      · cases declared : opened.declaration.expectedRowCount with
        | none => simp [declared] at isExpected
        | some count =>
            obtain rfl : value = count := by simpa [declared] using isExpected
            exact expected count declared
      · exact delta
      · exact policy.rowCountTolerance
    case inr.inr.inr.inr.inr.inr.inr.inr.inl =>
      simp only [mem_integers_ofFields, List.mem_map] at isInteger
      obtain ⟨-, ⟨result, listed, rfl⟩, isInteger⟩ := isInteger
      simp [texts result listed] at isInteger
    all_goals simp at isInteger

/-- The evidence of a call is built from the verdicts on the metrics that it reads. -/
theorem reconcileSourceTotals_eq_ok
    (passes : Passes request opened metrics)
    {evidence : Evidence} :
    reconcileSourceTotals request = .ok evidence ↔
      ∃ results, metrics.mapM judge = .ok results ∧
        ∃ hash, canonicalHash (Json.sortFields (evidenceFields
          (opened.rowMatch && results.all MetricResult.isMatch) opened results))
            "evidence_hash" = .ok hash ∧
        (⟨opened.rowMatch && results.all MetricResult.isMatch, opened, results, hash⟩ : Evidence) =
          evidence := by
  rw [reconcileSourceTotals, passes.1, Checks.ok_bind, Checks.mapM_bind_of_eq_ok passes.2]
  simp only [Checks.bind_eq_ok, Checks.pure_eq_ok]

/-- The results of metrics with valid policies hold no integer, and they state
whether the totals agree exactly when rounding does not change that. -/
theorem judged_spec
    (passes : Passes request opened metrics)
    {results : List MetricResult}
    (collected : metrics.mapM judge = .ok results) :
    (∀ result ∈ results, integers result.document = []) ∧
      (List.Forall₂ MetricTotals.JudgedBy metrics results ↔ ∀ metric ∈ metrics,
        (metric.Agree ↔
          Decimal.RoundsWithin metric.context metric.tolerance metric.difference)) := by
  constructor
  · intro result listed
    obtain ⟨metric, metricListed, judged⟩ := Checks.exists_of_mem_mapM collected listed
    obtain ⟨valid, nonneg⟩ := metric_valid passes metricListed
    exact (judge_spec valid nonneg judged).2.2
  · apply Checks.forall₂_iff_of_forall₂ (Checks.mapM_eq_ok.mp collected)
    intro metric result listed judged
    obtain ⟨valid, nonneg⟩ := metric_valid passes listed
    obtain ⟨named, verdict, -⟩ := judge_spec valid nonneg judged
    rw [MetricTotals.JudgedBy, verdict]
    exact ⟨fun judgedBy => judgedBy.2.symm, fun agree => ⟨named, agree.symm⟩⟩

/-- The verdicts of a call whose checks pass are exact if and only if every
metric is settled and the row counts are short. -/
theorem exactVerdicts_iff (passes : Passes request opened metrics) :
    ExactVerdicts request opened metrics ↔
      (∀ metric ∈ metrics, metric.Settled) ∧ opened.RowsShort := by
  have policy := policyValid_of_passes passes
  constructor
  · rintro ⟨evidence, returned, judgedBy, -⟩
    obtain ⟨results, collected, hash, hashed, rfl⟩ :=
      (reconcileSourceTotals_eq_ok passes).mp returned
    obtain ⟨texts, exactIff⟩ := judged_spec passes collected
    refine ⟨fun metric listed => ⟨?_, exactIff.mp judgedBy metric listed⟩,
      (exists_evidenceHash_iff policy texts).mp ⟨hash, hashed⟩⟩
    exact exists_judge_iff.mp (Checks.exists_mapM_eq_ok_iff.mp ⟨results, collected⟩ metric listed)
  · rintro ⟨settled, short⟩
    obtain ⟨results, collected⟩ := Checks.exists_mapM_eq_ok_iff.mpr fun metric listed =>
      exists_judge_iff.mpr (settled metric listed).1
    obtain ⟨texts, exactIff⟩ := judged_spec passes collected
    have judgedBy := exactIff.mpr fun metric listed => (settled metric listed).2
    obtain ⟨hash, hashed⟩ := (exists_evidenceHash_iff policy texts).mpr short
    refine ⟨_, (reconcileSourceTotals_eq_ok passes).mpr ⟨results, collected, hash, hashed, rfl⟩,
      judgedBy, ?_⟩
    rw [Bool.and_eq_true, rowMatch_iff, all_isMatch_iff judgedBy]
    exact and_comm

end Call

/-! ### A difference above the tolerance -/

/-- The time of the first day of a year in UTC. -/
def newYear (year : Nat) (valid : 1 ≤ year ∧ year ≤ 9999) : DateTime where
  year := year
  month := 1
  day := 1
  hour := 0
  minute := 0
  second := 0
  microsecond := 0
  utcoffset := some 0
  validDate := ⟨valid.1, valid.2, by decide, by decide, by decide, by
    simp [Calendar.daysInMonth]⟩
  validTime := by decide

/-- An admitted dataset. -/
def admittedRecord : Admission.DatasetAdmissionRecord where
  declaration := {
    datasetId := "d1", tenantId := "t1", uploaderAccountId := "a1", sourceInternalId := "s1",
    marketplace := "market", reportType := "report", reportingPeriodStart := 1,
    reportingPeriodEnd := 1, timezone := "UTC", originalFileSha256 := Sha256.hexdigest "",
    originalSizeBytes := 1, expectedRowCount := none, controlTotalsSha256 := none,
    dataCategories := ["sales"], sensitivity := .commercialConfidential,
    ownerAuthorityReference := "owner", lawfulAuthorityAttested := true,
    retentionDeadline := newYear 2031 (by decide), declaredAt := newYear 2026 (by decide),
    uploaderSafe := by decide +kernel, periodOrdered := by decide, sizePositive := by decide,
    noPersonalData := by decide, attested := rfl, timesAware := by decide,
    retained := by decide +kernel }
  state := .admitted
  policyId := none
  policyVersion := none
  policyContentHash := none
  inspection := none
  diagnostics := []
  datasetControlEvidenceId := none
  storageEvidenceId := none
  storageKeySha256 := none
  decisions := []

/-- A call on one metric with a tolerance of ten. -/
def revenueRequest (source calculated : String) : Request where
  admissionRecord := admittedRecord
  tenantId := "t1"
  accountId := "a1"
  sourceSnapshot := snapshot source
  calculatedSnapshot := snapshot calculated
  policy := .obj [("content_hash",
      .str "73c3ee23cf4f3a8c0031bf418e9626a384f03ef9961a466855b0875c28d5b913"),
    ("metric_tolerances", .obj [("revenue", .obj [("absolute", .str "10"), ("currency", .null),
      ("unit", .str "amount"), ("value_type", .str "money")])]),
    ("policy_id", .str "totals"), ("row_count_tolerance", .int 0), ("version", .int 1)]
  reconciledAt := newYear 2027 (by decide)
where
  snapshot (value : String) : Json :=
    .obj [("dataset_id", .str "d1"), ("original_file_sha256", .str (Sha256.hexdigest "")),
      ("row_count", .int 1), ("totals", .obj [("revenue", .obj [("currency", .null),
        ("state", .str "VALID"), ("unit", .str "amount"), ("value", .str value),
        ("value_type", .str "money")])])]

/-- The numbers of a metric: its two totals and its tolerance. -/
def MetricTotals.numbers (metric : MetricTotals) : Decimal × Decimal × Decimal :=
  (metric.source, metric.calculated, metric.tolerance)

/-- The numbers of the metrics of a call whose checks pass. -/
def readNumbers (request : Request) : Result (List (Decimal × Decimal × Decimal)) := do
  let opened ← openRequest request
  let metrics ← opened.policies.mapM (readMetric opened)
  return metrics.map MetricTotals.numbers

theorem exists_passes
    {request : Request}
    {numbers : List (Decimal × Decimal × Decimal)}
    (read : (readNumbers request).toOption = some numbers) :
    ∃ opened metrics, Passes request opened metrics ∧
      metrics.map MetricTotals.numbers = numbers := by
  cases result : readNumbers request with
  | error failure => simp [result, Except.toOption] at read
  | ok found =>
      obtain rfl : found = numbers := by simpa [result, Except.toOption] using read
      simp only [readNumbers, Checks.bind_eq_ok, Checks.pure_eq_ok] at result
      obtain ⟨opened, isOpened, metrics, areRead, same⟩ := result
      exact ⟨opened, metrics, ⟨isOpened, areRead⟩, same⟩

/-- Totals that agree have exact verdicts. -/
theorem exactVerdicts_iff_equal_totals :
    ∃ opened metrics, Passes (revenueRequest "10" "10") opened metrics ∧
      (ExactVerdicts (revenueRequest "10" "10") opened metrics ↔
        (∀ metric ∈ metrics, metric.Settled) ∧ opened.RowsShort) := by
  obtain ⟨opened, metrics, passes, -⟩ := exists_passes
    (show (readNumbers (revenueRequest "10" "10")).toOption =
      some [(⟨false, 10, 0⟩, ⟨false, 10, 0⟩, ⟨false, 10, 0⟩)] by decide +kernel)
  exact ⟨opened, metrics, passes, exactVerdicts_iff passes⟩

/-- A difference of 10.000000001 is rounded to ten digits and matches a
tolerance of ten. -/
theorem not_exactVerdicts_rounded :
    ∃ opened metrics, Passes (revenueRequest "10" "-0.000000001") opened metrics ∧
      ¬ExactVerdicts (revenueRequest "10" "-0.000000001") opened metrics := by
  obtain ⟨opened, metrics, passes, numbers⟩ := exists_passes
    (show (readNumbers (revenueRequest "10" "-0.000000001")).toOption =
      some [(⟨false, 10, 0⟩, ⟨true, 1, -9⟩, ⟨false, 10, 0⟩)] by decide +kernel)
  have matched : (reconcileSourceTotals (revenueRequest "10" "-0.000000001")).toOption.map
      (fun evidence => evidence.metrics.map MetricResult.isMatch) = some [true] := by
    decide +kernel
  refine ⟨opened, metrics, passes, ?_⟩
  rintro ⟨evidence, returned, judgedBy, -⟩
  have allMatch : evidence.metrics.map MetricResult.isMatch = [true] := by
    simpa [returned, Except.toOption] using matched
  have agree : ∀ metric ∈ metrics, metric.Agree := by
    rw [← all_isMatch_iff judgedBy, ← Function.id_comp MetricResult.isMatch, ← List.all_map, allMatch]
    rfl
  obtain ⟨metric, rfl, number⟩ := List.map_eq_singleton_iff.mp numbers
  have exceeds := agree metric (List.mem_singleton_self metric)
  simp only [MetricTotals.numbers, Prod.mk.injEq] at number
  rw [MetricTotals.Agree, MetricTotals.difference, number.1, number.2.1, number.2.2] at exceeds
  norm_num [Decimal.toRat, RoundingMode.sign, abs_le] at exceeds

end Reconciliation
end QuantumAnalytics
