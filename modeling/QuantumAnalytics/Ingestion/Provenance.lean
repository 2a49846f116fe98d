import QuantumAnalytics.Ingestion.ImportedUploads

/-!
# Where the rows of a ledger come from

The storage and a ledger that only imports write, as one service. In every run the rows of
the ledger are those of files that were uploaded, then inspected, and then imported.
-/

namespace QuantumAnalytics

open InMemoryCanonicalLedger (newRow sourceRows_writeItem appendItems_cons_eq_ok)
open RawFiles (Inspected OpensUpload Represents opensUpload_of_openImport)

/-! ### Rows of a plan -/

section Plans

variable {storage : LocalRawStorage} {ledger after : InMemoryCanonicalLedger}
  {arguments : IngestArguments} {plan : ImportPlan} {item : LedgerItem}

/-- The rows of a ledger after a batch are those before it and those of its items. -/
theorem mem_sourceRows_appendItems
    {tenantId : String}
    {items : List LedgerItem}
    {results : List LedgerAppendResult}
    {row : ImmutableSourceRow}
    (appended : ledger.appendItems tenantId items = (.ok results, after))
    (stored : row ∈ after.sourceRows) : row ∈ ledger.sourceRows ∨ ∃ item ∈ items, row = item.1 := by
  induction items generalizing ledger results with
  | nil =>
      obtain ⟨-, rfl⟩ := InMemoryCanonicalLedger.appendItems_nil_eq_ok.mp appended
      exact .inl stored
  | cons item items inductionHypothesis =>
      obtain ⟨-, _, rest, -⟩ := appendItems_cons_eq_ok.mp appended
      rcases inductionHypothesis rest with isOld | ⟨other, listed, rfl⟩
      · rw [sourceRows_writeItem, List.mem_append, Option.mem_toList, newRow] at isOld
        rcases isOld with isOld | isNew
        · exact .inl isOld
        · split at isNew
          next => exact .inr ⟨item, List.mem_cons_self, (Option.some.inj isNew).symm⟩
          next => cases isNew
      · exact .inr ⟨other, List.mem_cons_of_mem _ listed, rfl⟩

/-- Every item of a plan is planned for a data row. -/
theorem exists_plannedFor
    (planned : planImport storage ledger arguments = .ok plan)
    (listed : item ∈ plan.planned) :
    ∃ entry ∈ numbered plan.rows, PlannedFor plan.context entry.2 entry.1 item := by
  obtain ⟨-, entries, final, readAs, staged⟩ := planImport_eq_ok planned
  obtain ⟨_, _, order, rest, -, resolves, permOfDistinct, isPlan⟩ := resolves_of_stageBatch staged
  have isEntry : ∃ entry ∈ entries, EntryPlanned entry item := by
    rw [isPlan, List.mem_append] at listed
    rcases listed with immediate | inRest
    · obtain ⟨row, isImmediate, rfl⟩ := List.mem_map.mp immediate
      obtain ⟨entry, present, isRow⟩ := List.mem_filterMap.mp isImmediate
      obtain rfl := Sum.getLeft?_eq_some_iff.mp isRow
      exact ⟨_, present, rfl⟩
    · obtain ⟨candidate, inOrder, isPlanned⟩ :=
        exists_partner resolves.forall₂_planned.flip inRest
      have perm := permOfDistinct (distinctCandidates_candidatesOf readAs)
      obtain ⟨entry, present, isCandidate⟩ := List.mem_filterMap.mp (perm.subset inOrder)
      obtain rfl := Sum.getRight?_eq_some_iff.mp isCandidate
      exact ⟨_, present, isPlanned⟩
  obtain ⟨entry, present, isPlanned⟩ := isEntry
  obtain ⟨row, isRow, isRead⟩ := exists_partner readAs.flip present
  exact ⟨row, isRow, plannedFor_of_entryPlanned isRead isPlanned⟩

end Plans

/-! ### The service -/

theorem nonempty_localRawStorage : Nonempty LocalRawStorage := ⟨⟨Dict.empty, Dict.empty⟩⟩

/-- The storage of records that files represent. -/
noncomputable def RawFiles.decoded (interpreter : Interpreter) (files : RawFiles) :
    LocalRawStorage :=
  @Classical.epsilon _ nonempty_localRawStorage (Represents interpreter files)

/-- A call of the storage, of the schema gate or of the ingestor. -/
inductive ServiceCall
  | storage (call : StorageCall)
  | ingest (arguments : IngestArguments)

/-- The files and the ledger. -/
structure Service where
  files : RawFiles
  ledger : InMemoryCanonicalLedger

namespace Service

/-- The service after a call. -/
noncomputable def afterCall (library : ReaderLibrary) (interpreter : Interpreter)
    (service : Service) : ServiceCall → Service
  | .storage call => { service with files := (service.files.perform library interpreter call).2 }
  | .ingest arguments =>
      { service with
        ledger := (QuantumAnalytics.ingest (service.files.decoded interpreter) service.ledger
          arguments).2 }

/-- The service after calls on an empty root and an empty ledger. -/
noncomputable def run (library : ReaderLibrary) (interpreter : Interpreter)
    (calls : List ServiceCall) : Service :=
  calls.foldl (afterCall library interpreter) ⟨RawFiles.empty, InMemoryCanonicalLedger.empty⟩

/-- The calls of the storage. -/
def storageCalls (calls : List ServiceCall) : List StorageCall :=
  calls.filterMap fun
    | .storage call => some call
    | .ingest _ => none

variable {library : ReaderLibrary} {interpreter : Interpreter} {calls : List ServiceCall}
  {ledger : InMemoryCanonicalLedger} {row : ImmutableSourceRow}

theorem run_snoc (calls : List ServiceCall) (call : ServiceCall) :
    run library interpreter (calls ++ [call]) =
      (run library interpreter calls).afterCall library interpreter call :=
  List.foldl_append

/-- Imports leave the files alone. -/
theorem files_run
    (library : ReaderLibrary)
    (interpreter : Interpreter)
    (calls : List ServiceCall) :
    (run library interpreter calls).files =
      RawFiles.empty.run library interpreter (storageCalls calls) := by
  induction calls using List.reverseRecOn with
  | nil => rfl
  | append_singleton calls call inductionHypothesis =>
      have later : storageCalls (calls ++ [call]) = storageCalls calls ++ storageCalls [call] :=
        List.filterMap_append
      rw [run_snoc, later]
      cases call with
      | storage call =>
          have own : storageCalls [.storage call] = [call] := rfl
          rw [own, RawFiles.run_snoc, ← inductionHypothesis]
          rfl
      | ingest arguments =>
          have own : storageCalls [.ingest arguments] = [] := rfl
          rw [own, List.append_nil, ← inductionHypothesis]
          rfl

theorem represents_decoded
    (library : ReaderLibrary)
    (interpreter : Interpreter)
    (calls : List ServiceCall) :
    Represents interpreter (RawFiles.empty.run library interpreter (storageCalls calls))
      ((run library interpreter calls).files.decoded interpreter) := by
  rw [files_run]
  exact Classical.epsilon_spec
    (RawFiles.exists_represents_run (RawFiles.represents_empty interpreter) library _)

/-! ### Rows of imports -/

/-- A row is that of an import, before which its file was uploaded and then inspected. -/
def RowOfImport (calls : List ServiceCall) (row : ImmutableSourceRow) : Prop :=
  ∃ before arguments since context rows,
    calls = before ++ ServiceCall.ingest arguments :: since ∧
    OpensUpload (storageCalls before) arguments.tenant context rows ∧
    context.rawFileId = arguments.rawFileId ∧ row.tenantId = arguments.tenant.tenantId ∧
    ∃ entry ∈ numbered rows, row.rowNumber = (entry.2 : Int) ∧ row.rawPayload = entry.1 ∧
      row.sourceRecordId = context.sourceRecordId entry.2 entry.1 ∧
      row.importBatchId = context.batchId

/-- Every row of a ledger is that of an import. -/
def RowsOfImports (calls : List ServiceCall) (ledger : InMemoryCanonicalLedger) : Prop :=
  ∀ row ∈ ledger.sourceRows, RowOfImport calls row

theorem RowOfImport.snoc
    (ofImport : RowOfImport calls row)
    (call : ServiceCall) : RowOfImport (calls ++ [call]) row := by
  obtain ⟨before, arguments, since, context, rows, rfl, opened⟩ := ofImport
  exact ⟨before, arguments, since ++ [call], context, rows, by
    rw [List.append_assoc, List.cons_append], opened⟩

/-- The rows that an import adds are its own. -/
theorem rowOfImport_ingest
    (arguments : IngestArguments)
    (stored : row ∈ ((run library interpreter calls).afterCall library interpreter
      (.ingest arguments)).ledger.sourceRows) :
    row ∈ (run library interpreter calls).ledger.sourceRows ∨
      RowOfImport (calls ++ [.ingest arguments]) row := by
  rw [afterCall] at stored
  cases planned : planImport ((run library interpreter calls).files.decoded interpreter)
      (run library interpreter calls).ledger arguments with
  | error failure =>
      simp only [ingest, planned] at stored
      exact .inl stored
  | ok plan =>
      obtain ⟨results, final, appended, outcome⟩ := ingest_of_planImport planned
      rw [outcome] at stored
      rcases mem_sourceRows_appendItems appended stored with isOld | ⟨item, listed, rfl⟩
      · exact .inl isOld
      · obtain ⟨entry, isRow, isPlanned⟩ := exists_plannedFor planned listed
        have opened := (planImport_eq_ok planned).1
        obtain ⟨opens, sameFile⟩ :=
          opensUpload_of_openImport (represents_decoded library interpreter calls) opened
        exact .inr ⟨calls, arguments, [], plan.context, plan.rows, rfl, opens, sameFile,
          isPlanned.tenant.trans (tenantId_of_openImport opened), entry, isRow, isPlanned.number,
          isPlanned.cells, isPlanned.record, isPlanned.batch⟩

/-- After any uploads, inspections and imports every row of the ledger is a row of a file
that its tenant uploaded, had inspected and then imported, in this order. -/
theorem rowsOfImports_run
    (library : ReaderLibrary)
    (interpreter : Interpreter)
    (calls : List ServiceCall) :
    RowsOfImports calls (run library interpreter calls).ledger := by
  induction calls using List.reverseRecOn with
  | nil =>
      intro row stored
      cases stored
  | append_singleton calls call inductionHypothesis =>
      intro row stored
      rw [run_snoc] at stored
      cases call with
      | storage call => exact (inductionHypothesis row stored).snoc _
      | ingest arguments =>
          rcases rowOfImport_ingest arguments stored with isOld | isNew
          · exact (inductionHypothesis row isOld).snoc _
          · exact isNew

end Service
end QuantumAnalytics
