import Mathlib.Data.List.Sort
import QuantumAnalytics.ProofPipeline.Atomicity

/-!
# Imports that are repeated

The ledger file only grows, and no two of its events share an id or an idempotency
key. A file that was published can be imported again after any other calls: neither
file changes, and every row is a duplicate.
-/

namespace QuantumAnalytics
namespace ProofPipeline

open Synthetic

/-! ### Indexes -/

/-- What an index of events holds: an event for each of their keys. -/
structure Indexes (keyOf : SerializedEvent → String) (events : List SerializedEvent)
    (index : Dict String SerializedEvent) : Prop where
  found : ∀ key item, index.get? key = some item → item ∈ events ∧ keyOf item = key
  missing : ∀ key, index.get? key = none → key ∉ events.map keyOf

variable {keyOf : SerializedEvent → String} {events after : List SerializedEvent}

theorem Indexes.set
    {index : Dict String SerializedEvent}
    (indexes : Indexes keyOf events index)
    (item : SerializedEvent) : Indexes keyOf (events ++ [item]) (index.set (keyOf item) item) := by
  constructor
  · intro key other isFound
    by_cases same : key = keyOf item
    · rw [same, Dict.get?_set_self] at isFound
      obtain rfl := Option.some.inj isFound
      exact ⟨List.mem_append_right _ (List.mem_singleton_self _), same.symm⟩
    · rw [Dict.get?_set_of_ne _ same] at isFound
      obtain ⟨listed, isKey⟩ := indexes.found key other isFound
      exact ⟨List.mem_append_left _ listed, isKey⟩
  · intro key isMissing
    by_cases same : key = keyOf item
    · rw [same, Dict.get?_set_self] at isMissing
      cases isMissing
    · rw [Dict.get?_set_of_ne _ same] at isMissing
      rw [List.map_append, List.mem_append, not_or]
      exact ⟨indexes.missing key isMissing, by simpa using same⟩

/-- The loop body of the index. -/
def indexStep (keyOf : SerializedEvent → String) (index : Dict String SerializedEvent)
    (item : SerializedEvent) : Option (Dict String SerializedEvent) :=
  match index.get? (keyOf item) with
  | some existing => if existing.pyEq item then some (index.set (keyOf item) item) else none
  | none => some (index.set (keyOf item) item)

theorem indexBy_eq (keyOf : SerializedEvent → String) (events : List SerializedEvent) :
    indexBy keyOf events = events.foldlM (indexStep keyOf) Dict.empty := rfl

theorem indexStep_eq_some
    {index next : Dict String SerializedEvent}
    {item : SerializedEvent}
    (stepped : indexStep keyOf index item = some next) : next = index.set (keyOf item) item := by
  unfold indexStep at stepped
  split at stepped
  next =>
    split at stepped
    next => exact (Option.some.inj stepped).symm
    next => cases stepped
  next => exact (Option.some.inj stepped).symm

/-- An index of events holds them. -/
theorem indexes_of_indexBy
    {index : Dict String SerializedEvent}
    (isIndex : indexBy keyOf events = some index) : Indexes keyOf events index := by
  have general : ∀ (rest seen : List SerializedEvent) (held : Dict String SerializedEvent),
      Indexes keyOf seen held → rest.foldlM (indexStep keyOf) held = some index →
        Indexes keyOf (seen ++ rest) index := by
    intro rest
    induction rest with
    | nil =>
        intro seen held indexes ran
        obtain rfl := Option.some.inj ran
        rwa [List.append_nil]
    | cons item rest inductionHypothesis =>
        intro seen held indexes ran
        rw [List.foldlM_cons, Option.bind_eq_bind, Option.bind_eq_some_iff] at ran
        obtain ⟨next, stepped, ran⟩ := ran
        obtain rfl := indexStep_eq_some stepped
        rw [List.append_cons]
        exact inductionHypothesis _ _ (indexes.set item) ran
  rw [indexBy_eq] at isIndex
  refine general events [] Dict.empty ⟨?_, ?_⟩ isIndex
  · intro key item isFound
    cases isFound
  · exact fun key _ => List.not_mem_nil

/-- Events with different keys have an index. -/
theorem exists_indexBy (distinct : (events.map keyOf).Nodup) :
    ∃ index, indexBy keyOf events = some index := by
  have general : ∀ (rest seen : List SerializedEvent) (held : Dict String SerializedEvent),
      Indexes keyOf seen held → ((seen ++ rest).map keyOf).Nodup →
        ∃ index, rest.foldlM (indexStep keyOf) held = some index := by
    intro rest
    induction rest with
    | nil => exact fun seen held _ _ => ⟨held, rfl⟩
    | cons item rest inductionHypothesis =>
        intro seen held indexes apart
        have fresh : held.get? (keyOf item) = none := by
          cases found : held.get? (keyOf item) with
          | none => rfl
          | some other =>
              obtain ⟨listed, same⟩ := indexes.found _ _ found
              rw [List.map_append, List.map_cons] at apart
              exact absurd same ((List.nodup_append.mp apart).2.2 _ (List.mem_map_of_mem listed) _
                List.mem_cons_self)
        have stepped : indexStep keyOf held item = some (held.set (keyOf item) item) := by
          rw [indexStep, fresh]
        rw [List.append_cons] at apart
        obtain ⟨index, ran⟩ := inductionHypothesis _ _ (indexes.set item) apart
        refine ⟨index, ?_⟩
        rw [List.foldlM_cons, stepped]
        exact ran
  rw [indexBy_eq]
  refine general events [] Dict.empty ⟨?_, ?_⟩ (by rwa [List.nil_append])
  · intro key item isFound
    cases isFound
  · exact fun key _ => List.not_mem_nil

/-! ### Events of the ledger file -/

/-- No two events share an id or an idempotency key. -/
structure Distinct (events : List SerializedEvent) : Prop where
  ids : (events.map fun event => event.eventId).Nodup
  keys : (events.map fun event => event.idempotencyKey).Nodup

/-- The ledger has an event of the id that is equal to an event. -/
def Known (events : List SerializedEvent) (event : EventFields) : Prop :=
  ∃ item ∈ events, item.eventId = event.eventId ∧ item.pyEq (serialize event) = true

theorem SerializedEvent.pyEq_refl (event : SerializedEvent) : event.pyEq event = true := by
  simp [SerializedEvent.pyEq]

theorem eventId_eq_of_pyEq
    {left right : SerializedEvent}
    (same : left.pyEq right = true) : left.eventId = right.eventId := by
  simp only [SerializedEvent.pyEq, Bool.and_eq_true, beq_iff_eq] at same
  rw [same.1.1]

/-- An event that is added is known, and events stay distinct. -/
theorem known_of_addIfAbsent
    {event : EventFields}
    {isNew : Bool}
    (distinct : Distinct events)
    (added : addIfAbsent events event = some (after, isNew)) :
    Distinct after ∧ Known after event := by
  simp only [addIfAbsent, Option.bind_eq_bind, Option.bind_eq_some_iff] at added
  obtain ⟨byEventId, isById, byIdempotencyKey, isByKey, added⟩ := added
  have byId := indexes_of_indexBy isById
  have byKey := indexes_of_indexBy isByKey
  split at added
  next _ _ existing isFound =>
    split at added
    next same =>
      obtain ⟨rfl, -⟩ := Prod.mk.inj (Option.some.inj added)
      obtain ⟨listed, sameId⟩ := byId.found _ _ isFound
      exact ⟨distinct, existing, listed, sameId, same⟩
    next => cases added
  next _ _ existing isMissing isFound =>
    split at added
    next same =>
      -- Equal events have one id, which the ledger would have.
      obtain ⟨listed, -⟩ := byKey.found _ _ isFound
      have isListed : event.eventId ∈ events.map fun event => event.eventId :=
        List.mem_map.mpr ⟨existing, listed, eventId_eq_of_pyEq same⟩
      exact absurd isListed (byId.missing _ isMissing)
    next => cases added
  next isMissing isMissingKey =>
    obtain ⟨rfl, -⟩ := Prod.mk.inj (Option.some.inj added)
    refine ⟨⟨?_, ?_⟩, serialize event, List.mem_append_right _ (List.mem_singleton_self _), rfl,
      SerializedEvent.pyEq_refl _⟩
    · rw [List.map_append]
      refine List.nodup_append.mpr ⟨distinct.ids, List.nodup_singleton _, ?_⟩
      rintro id isOld _ isNew rfl
      rw [List.mem_singleton.mp isNew] at isOld
      exact byId.missing _ isMissing isOld
    · rw [List.map_append]
      refine List.nodup_append.mpr ⟨distinct.keys, List.nodup_singleton _, ?_⟩
      rintro key isOld _ isNew rfl
      rw [List.mem_singleton.mp isNew] at isOld
      exact byKey.missing _ isMissingKey isOld

/-- A known event is a duplicate. -/
theorem addIfAbsent_of_known
    {event : EventFields}
    (distinct : Distinct events)
    (known : Known events event) : addIfAbsent events event = some (events, false) := by
  obtain ⟨item, listed, sameId, same⟩ := known
  obtain ⟨byEventId, isById⟩ := exists_indexBy distinct.ids
  obtain ⟨byIdempotencyKey, isByKey⟩ := exists_indexBy distinct.keys
  have byId := indexes_of_indexBy isById
  have isFound : byEventId.get? event.eventId = some item := by
    cases found : byEventId.get? event.eventId with
    | none => exact absurd (List.mem_map.mpr ⟨item, listed, sameId⟩) (byId.missing _ found)
    | some other =>
        obtain ⟨isListed, isId⟩ := byId.found _ _ found
        rw [List.inj_on_of_nodup_map distinct.ids isListed listed (isId.trans sameId.symm)]
  simp only [addIfAbsent, isById, isByKey, Option.bind_eq_bind, Option.bind_some, isFound, same,
    if_true]
  rfl

theorem Known.mono
    {event : EventFields}
    (known : Known events event)
    (grows : events <+: after) : Known after event := by
  obtain ⟨item, listed, same⟩ := known
  exact ⟨item, grows.subset listed, same⟩

namespace ProofImport

variable {call : ProofImport} {detection : SchemaDetection} {semantic : JsonObject}
  {state next : ImportState} {row : RawPayload} {rows : List RawPayload}

/-- The event of a row is known. -/
def KnownRow (call : ProofImport) (detection : SchemaDetection) (events : List SerializedEvent)
    (row : RawPayload) : Prop :=
  ∃ normalized, normalizeRow row (call.normalization detection row) = .ok normalized ∧
    Known events normalized.event.toEventFields

/-! ### One row -/

/-- What one row leaves behind. -/
structure RowDone (call : ProofImport) (detection : SchemaDetection) (row : RawPayload)
    (state next : ImportState) : Prop where
  distinct : Distinct next.events
  known : call.KnownRow detection next.events row
  held : call.sourceRecordId row ∈ next.sourceRecords.keys
  counted : next.inserted + next.duplicates = state.inserted + state.duplicates + 1

theorem rowDone_of_importRow
    (distinct : Distinct state.events)
    (imported : call.importRow detection semantic state row = some next) :
    RowDone call detection row state next := by
  unfold importRow at imported
  split at imported
  next => cases imported
  next normalized isNormalized =>
    split at imported
    next => cases imported
    next after isNew added =>
      obtain rfl := Option.some.inj imported
      obtain ⟨distinctAfter, known⟩ := known_of_addIfAbsent distinct added
      refine ⟨distinctAfter, ⟨normalized, isNormalized, known⟩, ?_, ?_⟩
      · dsimp only
        split
        next found =>
          by_contra absent
          rw [← Dict.get?_eq_none_iff] at absent
          rw [show (call.sourceRecord detection semantic row normalized).sourceRecordId =
            call.sourceRecordId row from rfl, absent] at found
          cases found
        next => exact Dict.mem_keys_set.mpr (.inl rfl)
      · dsimp only
        cases isNew
        · simp only [Bool.false_eq_true, if_false]
          omega
        · simp only [if_true]
          omega

/-- A row whose event and source record are known is a duplicate. -/
theorem importRow_of_known
    (distinct : Distinct state.events)
    (known : call.KnownRow detection state.events row)
    (held : call.sourceRecordId row ∈ state.sourceRecords.keys) :
    call.importRow detection semantic state row =
      some { state with duplicates := state.duplicates + 1 } := by
  obtain ⟨normalized, isNormalized, known⟩ := known
  have isHeld : (state.sourceRecords.get?
      (call.sourceRecord detection semantic row normalized).sourceRecordId).isSome = true := by
    cases found : state.sourceRecords.get?
        (call.sourceRecord detection semantic row normalized).sourceRecordId with
    | none => exact absurd held (Dict.get?_eq_none_iff.mp found)
    | some record => rfl
  rw [importRow, isNormalized]
  dsimp only
  rw [addIfAbsent_of_known distinct known]
  simp only [isHeld, if_true, Bool.false_eq_true, if_false]

/-! ### All rows -/

theorem distinct_importRows
    (call : ProofImport)
    (detection : SchemaDetection)
    (semantic : JsonObject)
    (rows : List RawPayload)
    {state : ImportState}
    (distinct : Distinct state.events) :
    Distinct (call.importRows detection semantic state rows).1.events := by
  induction rows generalizing state with
  | nil => exact distinct
  | cons row rows inductionHypothesis =>
      rw [importRows]
      split
      next => exact distinct
      next next imported =>
        exact inductionHypothesis (rowDone_of_importRow distinct imported).distinct

/-- What rows that go through leave behind. -/
structure RowsDone (call : ProofImport) (detection : SchemaDetection) (rows : List RawPayload)
    (state atEnd : ImportState) : Prop where
  known : ∀ row ∈ rows, call.KnownRow detection atEnd.events row
  held : ∀ row ∈ rows, call.sourceRecordId row ∈ atEnd.sourceRecords.keys
  counted : atEnd.inserted + atEnd.duplicates = state.inserted + state.duplicates + rows.length

theorem rowsDone_of_importRows
    {state : ImportState}
    (distinct : Distinct state.events)
    (done : (call.importRows detection semantic state rows).2 = true) :
    RowsDone call detection rows state (call.importRows detection semantic state rows).1 := by
  induction rows generalizing state with
  | nil => exact ⟨by simp, by simp, rfl⟩
  | cons row rows inductionHypothesis =>
      rw [importRows] at done ⊢
      cases imported : call.importRow detection semantic state row with
      | none =>
          rw [imported] at done
          cases done
      | some next =>
          rw [imported] at done
          dsimp only at done ⊢
          have first := rowDone_of_importRow distinct imported
          have rest := inductionHypothesis first.distinct done
          have loop := loop_importRows call detection semantic next rows
          obtain ⟨normalized, isNormalized, known⟩ := first.known
          refine ⟨List.forall_mem_cons.mpr ⟨⟨normalized, isNormalized, known.mono loop.grows⟩,
            rest.known⟩, List.forall_mem_cons.mpr ⟨loop.kept _ first.held, rest.held⟩, ?_⟩
          rw [rest.counted, first.counted, List.length_cons]
          omega

/-- Rows that are known are duplicates. -/
theorem importRows_of_known
    {state : ImportState}
    (distinct : Distinct state.events)
    (known : ∀ row ∈ rows, call.KnownRow detection state.events row)
    (held : ∀ row ∈ rows, call.sourceRecordId row ∈ state.sourceRecords.keys) :
    call.importRows detection semantic state rows =
      ({ state with duplicates := state.duplicates + rows.length }, true) := by
  induction rows generalizing state with
  | nil => rfl
  | cons row rows inductionHypothesis =>
      obtain ⟨knownRow, knownRows⟩ := List.forall_mem_cons.mp known
      obtain ⟨heldRow, heldRows⟩ := List.forall_mem_cons.mp held
      have rest := @inductionHypothesis { state with duplicates := state.duplicates + 1 } distinct
        knownRows heldRows
      rw [importRows, importRow_of_known distinct knownRow heldRow]
      dsimp only
      rw [rest, List.length_cons, Nat.add_assoc, Nat.add_comm 1]

end ProofImport

/-! ### The file of source records -/

/-- The lines have different ids, in order. -/
def IsSorted (lines : List SourceRecord) : Prop :=
  lines.Pairwise fun left right => left.sourceRecordId < right.sourceRecordId

/-- What is written is sorted. -/
theorem isSorted_writeSourceRecords
    {records : Dict String SourceRecord}
    (indexed : ProofImport.IsIndex records) : IsSorted (writeSourceRecords records) := by
  have perm := List.perm_insertionSort (fun left right : String × SourceRecord => left.1 ≤ right.1)
    records.entries
  have ordered := List.pairwise_insertionSort
    (fun left right : String × SourceRecord => left.1 ≤ right.1) records.entries
  have apart : (records.entries.insertionSort fun left right => left.1 ≤ right.1).Pairwise
      fun left right => left.1 ≠ right.1 :=
    List.pairwise_map.mp ((perm.map Prod.fst).nodup_iff.mpr records.keysNodup)
  rw [IsSorted, writeSourceRecords, List.pairwise_map]
  refine (ordered.and apart).imp_of_mem ?_
  intro left right isLeft isRight both
  have less := lt_of_le_of_ne both.1 both.2
  rwa [indexed left (perm.mem_iff.mp isLeft), indexed right (perm.mem_iff.mp isRight)] at less

/-- Sorted lines are written as they were read. -/
theorem writeSourceRecords_of_read
    {lines : List SourceRecord}
    {records : Dict String SourceRecord}
    (sorted : IsSorted lines)
    (read : readSourceRecords lines = some records) : writeSourceRecords records = lines := by
  rw [readSourceRecords] at read
  split at read
  next => cases read
  next =>
    obtain rfl := Option.some.inj read
    have apart : (lines.map fun record => record.sourceRecordId).Nodup :=
      List.pairwise_map.mpr (sorted.imp fun less => less.ne)
    have entries := @Dict.entries_foldl_set String SourceRecord _ SourceRecord
      (fun record => record.sourceRecordId) id Dict.empty lines apart
    have ordered : (lines.map fun record => (record.sourceRecordId, record)).Pairwise
        fun left right => left.1 ≤ right.1 :=
      List.pairwise_map.mpr (sorted.imp fun less => less.le)
    have isEntries : (lines.foldl (fun records item => records.set item.sourceRecordId item)
        Dict.empty).entries = lines.map fun record => (record.sourceRecordId, record) := entries
    rw [writeSourceRecords, isEntries, ordered.insertionSort_eq, List.map_map]
    exact List.map_id _

/-! ### Files -/

/-- What holds of the files after any calls. -/
structure Orderly (files : ProofFiles) : Prop where
  distinct : Distinct files.events
  sorted : IsSorted (files.sourceRecords.getD [])

/-- Both files have all rows of an import. -/
structure Holds (call : ProofImport) (detection : SchemaDetection) (rows : List RawPayload)
    (files : ProofFiles) : Prop where
  ledger : files.ledger.isSome = true
  sourceRecords : files.sourceRecords.isSome = true
  known : ∀ row ∈ rows, call.KnownRow detection files.events row
  held : ∀ row ∈ rows, ∃ record ∈ files.sourceRecords.getD [],
    record.sourceRecordId = call.sourceRecordId row

/-- What a call does to the files. -/
structure RunStep (files next : ProofFiles) : Prop where
  grows : files.events <+: next.events
  ledger : files.ledger.isSome = true → next.ledger.isSome = true
  sourceRecords : files.sourceRecords.isSome = true → next.sourceRecords.isSome = true
  kept : ∀ record ∈ files.sourceRecords.getD [], ∃ other ∈ next.sourceRecords.getD [],
    other.sourceRecordId = record.sourceRecordId
  orderly : Orderly files → Orderly next

variable {library : GateLibrary} {call : ProofImport} {files : ProofFiles}
  {detection : SchemaDetection} {rows : List RawPayload}

theorem runStep_refl (files : ProofFiles) : RunStep files files :=
  ⟨List.prefix_rfl, id, id, fun record listed => ⟨record, listed, rfl⟩, id⟩

theorem runStep_opened (files : ProofFiles) :
    RunStep files { files with ledger := some files.events } :=
  ⟨List.prefix_rfl, fun _ => rfl, id, fun record listed => ⟨record, listed, rfl⟩,
    fun orderly => ⟨orderly.distinct, orderly.sorted⟩⟩

/-- Every call, also one that raises, only adds to the files. -/
theorem runStep_run
    (library : GateLibrary)
    (call : ProofImport)
    (files : ProofFiles) : RunStep files (call.run library files).2 := by
  rw [ProofImport.run]
  split
  next => exact runStep_refl files
  next => exact runStep_refl files
  next detection rows accepted =>
    dsimp only
    split
    next => exact runStep_opened files
    next records read =>
      have loop := ProofImport.loop_importRows call detection (semanticFingerprint rows)
        { events := files.events, sourceRecords := records } rows
      obtain ⟨indexed, ids⟩ := mem_keys_of_readSourceRecords read
      have distinct : Orderly files → _ := fun orderly =>
        @ProofImport.distinct_importRows call detection (semanticFingerprint rows) rows
          { events := files.events, sourceRecords := records } orderly.distinct
      split
      next =>
        exact ⟨loop.grows, fun _ => rfl, fun _ => rfl,
          fun record listed => exists_of_mem_keys (loop.indexed indexed)
            (loop.kept _ (ids record listed)),
          fun orderly => ⟨distinct orderly, isSorted_writeSourceRecords (loop.indexed indexed)⟩⟩
      next =>
        exact ⟨loop.grows, fun _ => rfl, id, fun record listed => ⟨record, listed, rfl⟩,
          fun orderly => ⟨distinct orderly, orderly.sorted⟩⟩

theorem RunStep.trans
    {next last : ProofFiles}
    (first : RunStep files next)
    (second : RunStep next last) : RunStep files last := by
  refine ⟨first.grows.trans second.grows, fun hasLedger => second.ledger (first.ledger hasLedger),
    fun hasRecords => second.sourceRecords (first.sourceRecords hasRecords),
    fun record listed => ?_, fun orderly => second.orderly (first.orderly orderly)⟩
  obtain ⟨other, isOther, same⟩ := first.kept record listed
  obtain ⟨last, isLast, sameLast⟩ := second.kept other isOther
  exact ⟨last, isLast, sameLast.trans same⟩

theorem Holds.step
    {next : ProofFiles}
    (holds : Holds call detection rows files)
    (step : RunStep files next) : Holds call detection rows next := by
  refine ⟨step.ledger holds.ledger, step.sourceRecords holds.sourceRecords, fun row listed => ?_,
    fun row listed => ?_⟩
  · obtain ⟨normalized, isNormalized, known⟩ := holds.known row listed
    exact ⟨normalized, isNormalized, known.mono step.grows⟩
  · obtain ⟨record, isRecord, same⟩ := holds.held row listed
    obtain ⟨other, isOther, sameOther⟩ := step.kept record isRecord
    exact ⟨other, isOther, sameOther.trans same⟩

/-- The files after some more calls. -/
theorem runStep_foldl
    (library : GateLibrary)
    (calls : List ProofImport)
    (files : ProofFiles) :
    RunStep files (calls.foldl (fun files call => (call.run library files).2) files) := by
  induction calls generalizing files with
  | nil => exact runStep_refl files
  | cons call calls inductionHypothesis =>
      exact (runStep_run library call files).trans (inductionHypothesis _)

theorem filesAfter_append
    (library : GateLibrary)
    (earlier later : List ProofImport) :
    filesAfter library (earlier ++ later) =
      later.foldl (fun files call => (call.run library files).2) (filesAfter library earlier) :=
  List.foldl_append

theorem orderly_filesAfter
    (library : GateLibrary)
    (calls : List ProofImport) : Orderly (filesAfter library calls) :=
  (runStep_foldl library calls ⟨none, none⟩).orderly
    ⟨⟨List.nodup_nil, List.nodup_nil⟩, List.Pairwise.nil⟩

/-- The ledger file after any calls, those that raise included: its events have different
ids and different idempotency keys, and later calls only append to it. -/
theorem ledgerFile_run
    (library : GateLibrary)
    (earlier later : List ProofImport) :
    (filesAfter library earlier).events <+: (filesAfter library (earlier ++ later)).events ∧
      Distinct (filesAfter library (earlier ++ later)).events := by
  refine ⟨?_, (orderly_filesAfter library (earlier ++ later)).distinct⟩
  rw [filesAfter_append]
  exact (runStep_foldl library later _).grows

/-! ### The same import again -/

/-- An import that was published has all its rows in both files. -/
theorem holds_of_run
    {result : ImportProofResult}
    (orderly : Orderly files)
    (accepted : call.accept library = some (.inr (detection, rows)))
    (published : (call.run library files).1 = some result) :
    Holds call detection rows (call.run library files).2 ∧
      result.insertedEvents + result.duplicateEvents = rows.length := by
  rw [ProofImport.run, accepted] at published ⊢
  dsimp only at published ⊢
  cases read : readSourceRecords (files.sourceRecords.getD []) with
  | none =>
      rw [read] at published
      cases published
  | some records =>
      rw [read] at published
      dsimp only at published ⊢
      obtain ⟨indexed, -⟩ := mem_keys_of_readSourceRecords read
      have loop := ProofImport.loop_importRows call detection (semanticFingerprint rows)
        { events := files.events, sourceRecords := records } rows
      split at published
      next done =>
        have rowsDone := @ProofImport.rowsDone_of_importRows call detection
          (semanticFingerprint rows) rows { events := files.events, sourceRecords := records }
          orderly.distinct done
        obtain rfl := Option.some.inj published
        rw [if_pos done]
        refine ⟨⟨rfl, rfl, rowsDone.known, fun row listed => ?_⟩, ?_⟩
        · exact exists_of_mem_keys (loop.indexed indexed) (rowsDone.held row listed)
        · simpa using rowsDone.counted
      next => cases published

/-- Rows that are in both files are duplicates, and the files stay as they are. -/
theorem run_of_holds
    (orderly : Orderly files)
    (holds : Holds call detection rows files)
    (accepted : call.accept library = some (.inr (detection, rows))) :
    (call.run library files).2 = files ∧
      ((∃ again, (call.run library files).1 = some again ∧ again.insertedEvents = 0 ∧
          again.duplicateEvents = rows.length) ∨
        ∃ record ∈ files.sourceRecords.getD [], record.isCut = true) := by
  have isOpen : ∀ events, events = files.events →
      ({ files with ledger := some events } : ProofFiles) = files :=
    fun events same => opened_eq_iff.mpr ⟨holds.ledger, same⟩
  rw [ProofImport.run, accepted]
  dsimp only
  cases read : readSourceRecords (files.sourceRecords.getD []) with
  | none => exact ⟨isOpen _ rfl, .inr (readSourceRecords_eq_none_iff.mp read)⟩
  | some records =>
      obtain ⟨-, ids⟩ := mem_keys_of_readSourceRecords read
      have imported := @ProofImport.importRows_of_known call detection (semanticFingerprint rows)
        rows { events := files.events, sourceRecords := records } orderly.distinct holds.known
        fun row listed => by
          obtain ⟨record, isRecord, same⟩ := holds.held row listed
          exact same ▸ ids record isRecord
      have written := writeSourceRecords_of_read orderly.sorted read
      dsimp only
      rw [imported]
      dsimp only
      rw [if_pos rfl]
      refine ⟨?_, .inl ⟨_, rfl, rfl, Nat.zero_add _⟩⟩
      rw [written]
      obtain ⟨lines, isLines⟩ := Option.isSome_iff_exists.mp holds.sourceRecords
      rw [isLines, Option.getD_some, ← isLines]
      exact isOpen _ rfl

/-- A file that is quarantined has no events. -/
theorem counts_of_accept
    {result : ImportProofResult}
    (accepted : call.accept library = some (.inl result)) :
    result.insertedEvents = 0 ∧ result.duplicateEvents = 0 := by
  simp only [ProofImport.accept, Option.bind_eq_bind, Option.bind_eq_some_iff] at accepted
  obtain ⟨detection, -, accepted⟩ := accepted
  split at accepted
  next =>
    obtain rfl := Sum.inl.inj (Option.some.inj accepted)
    exact ⟨rfl, rfl⟩
  next =>
    obtain ⟨text, -, accepted⟩ := Option.bind_eq_some_iff.mp accepted
    obtain ⟨rows, -, accepted⟩ := Option.bind_eq_some_iff.mp accepted
    split at accepted
    next =>
      obtain rfl := Sum.inl.inj (Option.some.inj accepted)
      exact ⟨rfl, rfl⟩
    next =>
      split at accepted
      next => cases accepted
      next => cases accepted

/-- An import that returned a result, repeated after any other calls, leaves both files as
they are. It adds no event and counts every row as a duplicate, unless the source records
have a line that cannot be read. -/
theorem run_again
    {earlier : List ProofImport}
    {result : ImportProofResult}
    (returned : (call.run library (filesAfter library earlier)).1 = some result)
    (later : List ProofImport) :
    (call.run library (filesAfter library (earlier ++ call :: later))).2 =
        filesAfter library (earlier ++ call :: later) ∧
      ((∃ again, (call.run library (filesAfter library (earlier ++ call :: later))).1 =
            some again ∧ again.insertedEvents = 0 ∧
          again.duplicateEvents = result.insertedEvents + result.duplicateEvents) ∨
        ∃ record ∈ (filesAfter library (earlier ++ call :: later)).sourceRecords.getD [],
          record.isCut = true) := by
  have orderly := orderly_filesAfter library
  cases accepted : call.accept library with
  | none =>
      rw [ProofImport.run, accepted] at returned
      cases returned
  | some outcome =>
      cases outcome with
      | inl quarantined =>
          have counts := counts_of_accept accepted
          simp only [ProofImport.run, accepted] at returned ⊢
          obtain rfl := Option.some.inj returned
          exact ⟨trivial, .inl ⟨_, rfl, counts.1, by rw [counts.1, Nat.zero_add]⟩⟩
      | inr imported =>
          obtain ⟨detection, rows⟩ := imported
          obtain ⟨holds, counted⟩ := holds_of_run (orderly earlier) accepted returned
          have holdsLater : Holds call detection rows
              (filesAfter library (earlier ++ call :: later)) := by
            rw [filesAfter_append]
            exact holds.step (runStep_foldl library later _)
          rw [counted]
          exact run_of_holds (orderly _) holdsLater accepted

/-- A call that goes through all rows without files before it returns a result. -/
theorem exists_returned
    (accepted : call.accept library = some (.inr (detection, rows)))
    (through : call.GoesThrough detection [] rows) :
    ∃ result, (call.run library (filesAfter library [])).1 = some result := by
  have isRead : readSourceRecords [] = some Dict.empty := rfl
  have done := (@ProofImport.importRows_done_iff call detection (semanticFingerprint rows)
    { events := [], sourceRecords := Dict.empty } rows).mpr through
  rw [ProofImport.run, accepted]
  simp only [filesAfter, List.foldl_nil, ProofFiles.events, Option.getD_none, isRead, done, if_true]
  exact ⟨_, rfl⟩

/-- A file of one sale. -/
def saleFile : List Char := proofFile [saleCells "1" ""]

theorem exists_returned_sale :
    ∃ result, ((importOf saleFile).run (libraryOf .excel) (filesAfter (libraryOf .excel) [])).1 =
      some result := by
  have unsigned : List.isPrefixOf [0xef, 0xbb, 0xbf] (bytesOf saleFile) = false := by
    decide +kernel
  have opened : (CsvDialect.excel.nextRecord .start (csvLines saleFile)).toOption.map
      (Option.map Prod.fst) = some (some wbSyntheticHeaders) := by
    decide +kernel
  have facts : (validatedRows saleFile).any (fun rows => decide (rows.length = 1) &&
      rows.all isPlainSale && decide (ProofImport.validationErrors rows = [])) = true := by
    decide +kernel
  obtain ⟨rows, isRead, facts⟩ := (Option.any_eq_true _ _).mp facts
  simp only [Bool.and_eq_true, decide_eq_true_eq, List.all_eq_true] at facts
  obtain ⟨⟨one, plain⟩, valid⟩ := facts
  obtain ⟨row, rfl⟩ := List.length_eq_one_iff.mp one
  generalize saleFile = text at unsigned opened isRead ⊢
  obtain ⟨event, adds⟩ := @exists_adds text row (plain row (List.mem_singleton_self _))
  exact exists_returned (accept_importOf unsigned opened isRead valid) ⟨_, _, adds, trivial⟩

/-- The sale is imported twice. -/
theorem run_again_sale :
    ((importOf saleFile).run (libraryOf .excel)
        (filesAfter (libraryOf .excel) [importOf saleFile])).2 =
      filesAfter (libraryOf .excel) [importOf saleFile] := by
  obtain ⟨result, returned⟩ := exists_returned_sale
  exact (run_again returned []).1

end ProofPipeline
end QuantumAnalytics
