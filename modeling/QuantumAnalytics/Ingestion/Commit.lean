import QuantumAnalytics.Ingestion.Pipeline
import QuantumAnalytics.Ledger.Replay

/-!
# Committing an import

An import is planned on a copy of the ledger and its plan is appended to the
ledger itself. The plan commits without an error and leaves what was staged,
every data row of the file ends as one stored row, and an import that raises
leaves the ledger alone.
-/

namespace QuantumAnalytics

open InMemoryCanonicalLedger

variable {storage : LocalRawStorage} {ledger final : InMemoryCanonicalLedger}
  {arguments : IngestArguments} {tenant : TenantContext} {context : ImportContext}
  {rows : List RawPayload} {entries : List (ImmutableSourceRow ⊕ Candidate)}

/-- A staged batch commits: appending its plan to the ledger that it was staged
on succeeds and leaves the staging ledger. -/
theorem appendBatch_of_stageBatch
    {immediate : List ImmutableSourceRow}
    {candidates : List Candidate}
    {planned : List LedgerItem}
    (staged : stageBatch ledger tenant immediate candidates = .ok (planned, final)) :
    ∃ results, ledger.appendItems tenant.tenantId planned = (.ok results, final) ∧
      ledger.appendBatch tenant planned = (.ok results, final) := by
  obtain ⟨staging, firstResults, order, rest, first, resolves, _, rfl⟩ :=
    resolves_of_stageBatch staged
  obtain ⟨restResults, second⟩ := resolves.appendItems
  have whole : ledger.appendItems tenant.tenantId (immediateItems immediate ++ rest) =
      (.ok (firstResults ++ restResults), final) :=
    appendItems_append_eq_ok.mpr ⟨staging, firstResults, restResults, first, second, rfl⟩
  exact ⟨_, whole, by simp only [appendBatch, whole]⟩

/-! ### Reading the rows -/

/-- A member of the first of two related lists has a partner in the second. -/
theorem exists_partner
    {α β : Type*}
    {related : α → β → Prop}
    {lefts : List α}
    {rights : List β}
    (each : List.Forall₂ related lefts rights)
    {left : α}
    (present : left ∈ lefts) : ∃ right ∈ rights, related left right := by
  obtain ⟨index, bound, rfl⟩ := List.getElem_of_mem present
  have rightBound : index < rights.length := each.length_eq ▸ bound
  exact ⟨rights[index], List.getElem_mem rightBound, each.get bound rightBound⟩

/-- What a data row is read as: a row that is quarantined at once because it
does not normalize, or a valid row with its event. -/
inductive ReadAs (context : ImportContext) (raw : RawPayload) (rowNumber : Nat) :
    ImmutableSourceRow ⊕ Candidate → Prop
  | quarantined
      {row : ImmutableSourceRow}
      {message : String}
      (rejected : Synthetic.normalizeRow raw (context.normalization rowNumber raw) =
        .error message)
      (fields : row.toSourceRowFields = context.sourceRowFields rowNumber raw
        (ImportContext.fallbackKey rowNumber raw) .quarantined
          [s!"NORMALIZATION_FAILED:{message}"]) :
      ReadAs context raw rowNumber (.inl row)
  | candidate
      {row : ImmutableSourceRow}
      {normalized : Synthetic.NormalizedRow}
      (accepted : Synthetic.normalizeRow raw (context.normalization rowNumber raw) =
        .ok normalized)
      (fields : row.toSourceRowFields = context.sourceRowFields rowNumber raw
        normalized.sourceRowKey .valid []) :
      ReadAs context raw rowNumber (.inr ⟨row, normalized.event⟩)

/-- A row that is read is read as one of the two. -/
theorem readAs_of_readRow
    {raw : RawPayload}
    {rowNumber : Nat}
    {entry : ImmutableSourceRow ⊕ Candidate}
    (done : context.readRow rowNumber raw = .ok entry) :
    ReadAs context raw rowNumber entry := by
  unfold ImportContext.readRow at done
  split at done
  case h_1 message rejected =>
    simp only [Checks.bind_eq_ok, ImmutableSourceRow.make_eq_ok, Checks.pure_eq_ok] at done
    obtain ⟨row, fields, rfl⟩ := done
    exact .quarantined rejected fields
  case h_2 normalized accepted =>
    simp only [Checks.bind_eq_ok, ImmutableSourceRow.make_eq_ok, Checks.pure_eq_ok] at done
    obtain ⟨row, fields, rfl⟩ := done
    exact .candidate accepted fields

/-- The rows are read one by one. -/
theorem forall₂_readAs
    {numberedRows : List (RawPayload × Nat)}
    (done : context.readEntries numberedRows = .ok entries) :
    List.Forall₂ (fun row entry => ReadAs context row.1 row.2 entry) numberedRows entries := by
  induction numberedRows generalizing entries with
  | nil =>
      obtain rfl := Except.ok.inj done
      exact .nil
  | cons row numberedRows inductionHypothesis =>
      simp only [ImportContext.readEntries, Checks.bind_eq_ok, Checks.pure_eq_ok] at done
      obtain ⟨entry, read, rest, readRest, rfl⟩ := done
      exact .cons (readAs_of_readRow read) (inductionHypothesis readRest)

/-- The source row of an entry. -/
def entryRow : ImmutableSourceRow ⊕ Candidate → ImmutableSourceRow
  | .inl row => row
  | .inr candidate => candidate.sourceRow

/-- The source row of an entry has the fields that every row of the import has. -/
theorem ReadAs.rowNumber_eq
    {raw : RawPayload}
    {rowNumber : Nat}
    {entry : ImmutableSourceRow ⊕ Candidate}
    (readAs : ReadAs context raw rowNumber entry) :
    (entryRow entry).rowNumber = (rowNumber : Int) := by
  cases readAs with
  | quarantined _ fields => simp [entryRow, fields, ImportContext.sourceRowFields]
  | candidate _ fields => simp [entryRow, fields, ImportContext.sourceRowFields]

/-- Different data rows have different numbers. -/
theorem nodup_rowNumbers
    (read : List.Forall₂ (fun row entry => ReadAs context row.1 row.2 entry)
      (numbered rows) entries) :
    (entries.map fun entry => (entryRow entry).rowNumber).Nodup := by
  have same : entries.map (fun entry => (entryRow entry).rowNumber) =
      (numbered rows).map fun row => ((row.2 : Nat) : Int) := by
    refine (List.forall₂_eq_eq_eq ▸ List.forall₂_map_left_iff.mpr
      (List.forall₂_map_right_iff.mpr (read.flip.imp ?_)))
    intro entry row readAs
    exact readAs.rowNumber_eq
  have numbers : ((numbered rows).map Prod.snd).Nodup := by
    rw [numbered, List.zipIdx_map_snd]
    exact List.nodup_range'
  rw [same, ← Function.comp_def (fun number : Nat => (number : Int)), ← List.map_map]
  exact numbers.map Nat.cast_injective

/-- The candidates of an import are different as dataclasses. -/
theorem distinctCandidates_candidatesOf
    (read : List.Forall₂ (fun row entry => ReadAs context row.1 row.2 entry)
      (numbered rows) entries) :
    DistinctCandidates (candidatesOf entries) := by
  intro left leftIn right rightIn same
  obtain ⟨leftEntry, leftPresent, leftIs⟩ := List.mem_filterMap.mp leftIn
  obtain ⟨rightEntry, rightPresent, rightIs⟩ := List.mem_filterMap.mp rightIn
  obtain rfl := Sum.getRight?_eq_some_iff.mp leftIs
  obtain rfl := Sum.getRight?_eq_some_iff.mp rightIs
  have sameNumber : left.sourceRow.rowNumber = right.sourceRow.rowNumber := by
    simp only [Candidate.pyEq, ImmutableSourceRow.pyEq, Bool.and_eq_true, beq_iff_eq] at same
    simp [same]
  exact Sum.inr.inj (List.inj_on_of_nodup_map (nodup_rowNumbers read) leftPresent rightPresent
    sameNumber)

/-- The item that is planned for an entry. -/
def EntryPlanned (entry : ImmutableSourceRow ⊕ Candidate) (item : LedgerItem) : Prop :=
  match entry with
  | .inl row => item = (row, none)
  | .inr candidate => candidate.Planned item

/-- The entries are the rows that are quarantined at once and the candidates. -/
theorem length_entries (entries : List (ImmutableSourceRow ⊕ Candidate)) :
    (immediateOf entries).length + (candidatesOf entries).length = entries.length := by
  induction entries with
  | nil => rfl
  | cons entry entries inductionHypothesis =>
      cases entry with
      | inl row =>
          simp only [immediateOf, candidatesOf, List.filterMap_cons, Sum.getLeft?_inl,
            Sum.getRight?_inl, List.length_cons] at inductionHypothesis ⊢
          omega
      | inr candidate =>
          simp only [immediateOf, candidatesOf, List.filterMap_cons, Sum.getLeft?_inr,
            Sum.getRight?_inr, List.length_cons] at inductionHypothesis ⊢
          omega

/-- A plan has one item for each data row. -/
theorem planned_of_stageBatch
    {planned : List LedgerItem}
    (read : List.Forall₂ (fun row entry => ReadAs context row.1 row.2 entry)
      (numbered rows) entries)
    (staged : stageBatch ledger tenant (immediateOf entries) (candidatesOf entries) =
      .ok (planned, final)) :
    planned.length = rows.length ∧
      ∀ entry ∈ entries, ∃ item ∈ planned, EntryPlanned entry item := by
  obtain ⟨_, _, order, rest, _, resolves, permOfDistinct, rfl⟩ := resolves_of_stageBatch staged
  have perm := permOfDistinct (distinctCandidates_candidatesOf read)
  have each := resolves.forall₂_planned
  constructor
  · have entriesLength : entries.length = rows.length := by
      rw [← read.length_eq, numbered, List.length_zipIdx]
    rw [List.length_append, immediateItems, List.length_map, ← each.length_eq, perm.length_eq,
      length_entries, entriesLength]
  · intro entry present
    cases entry with
    | inl row =>
        refine ⟨(row, none), List.mem_append_left _ (List.mem_map.mpr ⟨row, ?_, rfl⟩), rfl⟩
        exact List.mem_filterMap.mpr ⟨.inl row, present, rfl⟩
    | inr candidate =>
        have inOrder : candidate ∈ order :=
          perm.symm.subset (List.mem_filterMap.mpr ⟨.inr candidate, present, rfl⟩)
        obtain ⟨item, inRest, candidatePlanned⟩ := exists_partner each inOrder
        exact ⟨item, List.mem_append_right _ inRest, candidatePlanned⟩

/-! ### The import -/

/-- What an import plans. -/
theorem planImport_eq_ok
    {plan : ImportPlan}
    (done : planImport storage ledger arguments = .ok plan) :
    openImport storage arguments = .ok (plan.context, plan.rows) ∧
      ∃ entries final,
        List.Forall₂ (fun row entry => ReadAs plan.context row.1 row.2 entry)
          (numbered plan.rows) entries ∧
        stageBatch ledger arguments.tenant (immediateOf entries) (candidatesOf entries) =
          .ok (plan.planned, final) := by
  simp only [planImport, Checks.bind_eq_ok, Checks.mapError_eq_ok, Checks.pure_eq_ok,
    Prod.exists] at done
  obtain ⟨context, rows, opened, entries, read, planned, resolved, rfl⟩ := done
  obtain ⟨final, staged⟩ := resolveBatch_eq_ok.mp resolved
  exact ⟨opened, entries, final, forall₂_readAs read, staged⟩

/-- The tenant of an import is the caller's. -/
theorem tenantId_of_openImport
    (opened : openImport storage arguments = .ok (context, rows)) :
    context.tenantId = arguments.tenant.tenantId := by
  obtain ⟨_, _, _, _, _, _, _, _, _, _, _, _, _, _, _, _, _, rfl⟩ := openImport_eq_ok.mp opened
  rfl

/-- The ledger calls of an import. -/
def ingestCalls
    (storage : LocalRawStorage)
    (ledger : InMemoryCanonicalLedger)
    (arguments : IngestArguments) : List LedgerCall :=
  match planImport storage ledger arguments with
  | .error _ => []
  | .ok plan => [.appendBatch arguments.tenant plan.planned]

/-- An import succeeds once its plan is made, and leaves what was staged. -/
theorem ingest_of_planImport
    {plan : ImportPlan}
    (done : planImport storage ledger arguments = .ok plan) :
    ∃ results final, ledger.appendItems arguments.tenant.tenantId plan.planned =
        (.ok results, final) ∧
      ingest storage ledger arguments = (.ok (importResult arguments plan results), final) := by
  obtain ⟨_, entries, final, _, staged⟩ := planImport_eq_ok done
  obtain ⟨results, appended, committed⟩ := appendBatch_of_stageBatch staged
  exact ⟨results, final, appended, by simp only [ingest, done, committed]⟩

/-- An import that raises was never planned, and leaves the ledger alone. -/
theorem ingest_of_error
    {failure : IngestFailure}
    (raised : (ingest storage ledger arguments).1 = .error failure) :
    planImport storage ledger arguments = .error failure ∧
      (ingest storage ledger arguments).2 = ledger := by
  cases planned : planImport storage ledger arguments with
  | error other =>
      simp only [ingest, planned, Except.error.injEq] at raised ⊢
      exact ⟨raised, trivial⟩
  | ok plan =>
      obtain ⟨results, final, _, outcome⟩ := ingest_of_planImport planned
      rw [outcome] at raised
      exact absurd raised (by simp)

/-- The ledger after an import is the ledger after its calls. -/
theorem ingest_snd :
    (ingest storage ledger arguments).2 =
      (ingestCalls storage ledger arguments).foldl afterCall ledger := by
  unfold ingestCalls
  cases planned : planImport storage ledger arguments with
  | error failure => simp only [ingest, planned, List.foldl_nil]
  | ok plan =>
      obtain ⟨results, final, appended, outcome⟩ := ingest_of_planImport planned
      simp only [outcome, List.foldl_cons, List.foldl_nil, afterCall, appendBatch, appended]

/-! ### The counters -/

/-- The counters of a result add up. -/
structure CountersAgree (result : CanonicalImportResult) : Prop where
  sources : result.totalRows = result.insertedSourceRows + result.duplicateSourceRows
  events : result.totalRows =
    result.insertedEvents + result.duplicateEvents + result.quarantinedRows
  quarantined : result.quarantinedRows =
    result.insertedQuarantinedRows + result.duplicateQuarantinedRows

/-- Every item of a batch is counted once: as an inserted event, as a duplicate
event or as a row without an event. -/
theorem countP_events
    {planned : List LedgerItem}
    {results : List LedgerAppendResult}
    (each : List.Forall₂ (fun item result => result.eventInserted = true → item.2.isSome = true)
      planned results) :
    (results.countP fun item => item.eventInserted) +
        (((planned.zip results).filter fun pair => pair.1.2.isSome).countP fun pair =>
          !pair.2.eventInserted) +
        ((planned.zip results).filter fun pair => pair.1.2.isNone).length =
      planned.length := by
  induction each with
  | nil => rfl
  | @cons item result planned results counted _ inductionHypothesis =>
      obtain ⟨row, event⟩ := item
      simp only [List.zip_cons_cons, List.filter_cons, List.length_cons, List.countP_cons]
      cases event with
      | none =>
          have notInserted : result.eventInserted = false := by
            simpa using counted
          simp [notInserted]
          omega
      | some event => cases inserted : result.eventInserted <;> simp [inserted] <;> omega

/-- The counters of an import whose plan is appended add up. -/
theorem countersAgree_importResult
    {plan : ImportPlan}
    {results : List LedgerAppendResult}
    (length : plan.planned.length = plan.rows.length)
    (each : List.Forall₂ (fun item result => result.eventInserted = true → item.2.isSome = true)
      plan.planned results) :
    CountersAgree (importResult arguments plan results) := by
  have sources : (results.countP fun item => item.sourceInserted) ≤ results.length :=
    List.countP_le_length
  have events := countP_events each
  have quarantined :
      (((plan.planned.zip results).filter fun pair => pair.1.2.isNone).countP fun pair =>
        pair.2.sourceInserted) ≤
      ((plan.planned.zip results).filter fun pair => pair.1.2.isNone).length :=
    List.countP_le_length
  have lengths := each.length_eq
  constructor <;> simp only [importResult] <;> omega

/-! ### Where the rows end -/

/-- The item that is planned for a data row: its row carries the data row's
number and cells, and it is valid with the event of the data row, or quarantined
without an event. -/
structure PlannedFor
    (context : ImportContext)
    (rowNumber : Nat)
    (raw : RawPayload)
    (item : LedgerItem) : Prop where
  tenant : item.1.tenantId = context.tenantId
  record : item.1.sourceRecordId = context.sourceRecordId rowNumber raw
  number : item.1.rowNumber = (rowNumber : Int)
  cells : item.1.rawPayload = raw
  batch : item.1.importBatchId = context.batchId
  verdict :
    (item.1.validationStatus = .valid ∧ ∃ normalized : Synthetic.NormalizedRow,
      Synthetic.normalizeRow raw (context.normalization rowNumber raw) = .ok normalized ∧
        item.2 = some normalized.event) ∨
    item.1.validationStatus = .quarantined

/-- Every entry is planned as its data row. -/
theorem plannedFor_of_entryPlanned
    {raw : RawPayload}
    {rowNumber : Nat}
    {entry : ImmutableSourceRow ⊕ Candidate}
    {item : LedgerItem}
    (readAs : ReadAs context raw rowNumber entry)
    (planned : EntryPlanned entry item) :
    PlannedFor context rowNumber raw item := by
  cases readAs with
  | quarantined rejected fields =>
      obtain rfl : item = _ := planned
      constructor <;> simp [fields, ImportContext.sourceRowFields]
  | @candidate row normalized accepted fields =>
      rcases planned with rfl | ⟨diagnostics, quarantinedRow, made, rfl⟩
      · constructor <;> simp [Candidate.item, fields, ImportContext.sourceRowFields, accepted]
      · have copied := ImmutableSourceRow.make_eq_ok.mp made
        constructor <;> simp [copied, fields, ImportContext.sourceRowFields]

/-- Where a data row ended: exactly one stored row has its record id, and this
row is valid and its event is stored, or it is quarantined with diagnostics and
no stored event comes from it. -/
structure RowKept
    (after : InMemoryCanonicalLedger)
    (context : ImportContext)
    (rowNumber : Nat)
    (raw : RawPayload)
    (row : ImmutableSourceRow) : Prop where
  stored : row ∈ after.sourceById.values
  tenant : row.tenantId = context.tenantId
  record : row.sourceRecordId = context.sourceRecordId rowNumber raw
  only : ∀ other ∈ after.sourceById.values, other.tenantId = context.tenantId →
    other.sourceRecordId = context.sourceRecordId rowNumber raw → other = row
  number : row.rowNumber = (rowNumber : Int)
  cells : row.rawPayload.toJson = raw.toJson
  batch : row.importBatchId = context.batchId
  verdict :
    (row.validationStatus = .valid ∧ ∃ (normalized : Synthetic.NormalizedRow)
      (event : CanonicalEvent),
      Synthetic.normalizeRow raw (context.normalization rowNumber raw) = .ok normalized ∧
        after.eventById.get? (context.tenantId, normalized.event.eventId) = some event ∧
        event.pyEq normalized.event = true) ∨
    (row.validationStatus = .quarantined ∧ row.diagnostics ≠ [] ∧
      ¬∃ event ∈ after.eventById.values,
        event.organizationId = row.tenantId ∧ event.sourceRecordId = row.sourceRecordId)

/-- A recorded item of a data row is where the data row ended. -/
theorem exists_rowKept
    {after : InMemoryCanonicalLedger}
    {rowNumber : Nat}
    {raw : RawPayload}
    {item : LedgerItem}
    {collected : Set ImmutableSourceRow}
    (indexed : Indexed after)
    (traced : Traced after)
    (distinct : ImmutableSourceRow.FingerprintsDistinct collected)
    (stored : ∀ row ∈ after.sourceRows, row ∈ collected)
    (present : item.1 ∈ collected)
    (recorded : Recorded after context.tenantId item)
    (planned : PlannedFor context rowNumber raw item) :
    ∃ row, RowKept after context rowNumber raw row := by
  obtain ⟨row, found, sameFingerprint⟩ := recorded.row
  obtain ⟨rowStored, key⟩ := indexed.rows.get?_eq_some_iff.mp found
  have content := distinct.contentFields_eq (stored row rowStored) present sameFingerprint
  simp only [ImmutableSourceRow.contentFields, List.cons.injEq, Prod.mk.injEq, Json.str.injEq,
    Json.int.injEq, true_and] at content
  obtain ⟨sameRecord, sameTenant, _, sameBatch, sameNumber, _, _, sameCells, _, _, sameStatus, _⟩ :=
    content
  have status := SourceRowStatus.text_injective sameStatus
  refine ⟨row, {
    stored := rowStored
    tenant := sameTenant.trans planned.tenant
    record := sameRecord.trans planned.record
    only := ?_
    number := sameNumber.trans planned.number
    cells := by rw [sameCells, planned.cells]
    batch := sameBatch.trans planned.batch
    verdict := ?_ }⟩
  · intro other otherStored otherTenant otherRecord
    refine indexed.rows.eq_of_key_eq otherStored rowStored ?_
    rw [ImmutableSourceRow.idKey, ImmutableSourceRow.idKey, otherTenant, otherRecord,
      sameTenant, sameRecord, planned.tenant, planned.record]
  · rcases planned.verdict with ⟨isValid, normalized, accepted, carried⟩ | isQuarantined
    · obtain ⟨event, eventFound, same⟩ := recorded.event _ carried
      exact .inl ⟨status.trans isValid, normalized, event, accepted, eventFound, same⟩
    · have rowQuarantined := status.trans isQuarantined
      exact .inr ⟨rowQuarantined, row.verdict_consistent.2.2 rowQuarantined,
        (indexAgreement_of_traced indexed traced).quarantinedRow row rowStored rowQuarantined⟩

/-- On every ledger that a sequence of calls leaves, an import is all or
nothing. Every staged batch commits as it was staged. An import that raises
leaves the ledger as it was. The counters of an import that succeeds add up, and
if different contents of the rows that the whole run committed have different
fingerprints, every data row ends as one stored row. -/
theorem ingest_allOrNothing
    (storage : LocalRawStorage)
    (calls : List LedgerCall)
    (arguments : IngestArguments) :
    (∀ immediate candidates planned final,
      stageBatch (afterCalls calls) arguments.tenant immediate candidates =
        .ok (planned, final) →
      ∃ results, (afterCalls calls).appendBatch arguments.tenant planned =
        (.ok results, final)) ∧
    (∀ failure, (ingest storage (afterCalls calls) arguments).1 = .error failure →
      (ingest storage (afterCalls calls) arguments).2 = afterCalls calls) ∧
    ∀ result after, ingest storage (afterCalls calls) arguments = (.ok result, after) →
      CountersAgree result ∧
      ∃ context rows, openImport storage arguments = .ok (context, rows) ∧
        result.totalRows = rows.length ∧
        (ImmutableSourceRow.FingerprintsDistinct
            {row | ∃ step ∈ committedSteps
              (calls ++ ingestCalls storage (afterCalls calls) arguments), step.item.1 = row} →
          ∀ raw rowNumber, (raw, rowNumber) ∈ numbered rows →
            ∃ row, RowKept after context rowNumber raw row) := by
  refine ⟨?_, fun failure raised => (ingest_of_error raised).2, ?_⟩
  · intro immediate candidates planned final staged
    obtain ⟨results, _, committed⟩ := appendBatch_of_stageBatch staged
    exact ⟨results, committed⟩
  · intro result after succeeded
    cases made : planImport storage (afterCalls calls) arguments with
    | error failure => simp [ingest, made] at succeeded
    | ok plan =>
        obtain ⟨results, final, appended, outcome⟩ := ingest_of_planImport made
        obtain ⟨opened, entries, staged, read, resolved⟩ := planImport_eq_ok made
        obtain ⟨length, plannedEach⟩ := planned_of_stageBatch read resolved
        rw [outcome, Prod.mk.injEq, Except.ok.injEq] at succeeded
        obtain ⟨rfl, rfl⟩ := succeeded
        refine ⟨countersAgree_importResult length (forall₂_eventInserted appended),
          plan.context, plan.rows, opened, rfl, fun distinct raw rowNumber present => ?_⟩
        -- The import is the last call of a run, whose rows are all collected.
        have finalRun : final =
            afterCalls (calls ++ ingestCalls storage (afterCalls calls) arguments) := by
          rw [afterCalls_append, ← ingest_snd, outcome]
        have reachable : ReachableBy
            (fun step => step.item.1 ∈ {row | ∃ step ∈ committedSteps
              (calls ++ ingestCalls storage (afterCalls calls) arguments), step.item.1 = row})
            final := by
          rw [finalRun]
          exact reachableBy_afterCalls fun step committed => ⟨step, committed, rfl⟩
        obtain ⟨stored, traced⟩ := reachable.traced distinct
        obtain ⟨entry, entryPresent, readAs⟩ := exists_partner read present
        obtain ⟨item, itemPresent, entryPlanned⟩ := plannedEach entry entryPresent
        have tenant := tenantId_of_openImport opened
        refine exists_rowKept reachable.indexed traced distinct stored ?_ ?_
          (plannedFor_of_entryPlanned readAs entryPlanned)
        · obtain ⟨step, stepPresent, same⟩ := exists_mem_itemSteps appended item itemPresent
          refine ⟨step, ?_, by rw [same]⟩
          rw [committedSteps, stepsFrom_append, List.mem_append]
          right
          simp only [ingestCalls, made, stepsFrom, callSteps, List.append_nil]
          have base : calls.foldl afterCall InMemoryCanonicalLedger.empty = afterCalls calls := rfl
          rw [base, appended]
          exact stepPresent
        · rw [tenant]
          exact recorded_of_appendItems (reachable_afterCalls calls).indexed appended item
            itemPresent

end QuantumAnalytics
