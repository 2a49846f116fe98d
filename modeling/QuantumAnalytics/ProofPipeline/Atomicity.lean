import QuantumAnalytics.Ingestion.Normalization
import QuantumAnalytics.ProofPipeline.Import

/-!
# Atomicity of the proof import

A call that raises after it has appended an event leaves the ledger changed and the
source records unwritten. A row that was validated can still fail to be normalized,
and its event to be added.
-/

namespace QuantumAnalytics
namespace ProofPipeline

open Synthetic

/-! ### What a call should do -/

/-- The call returns a result, or it raises and both files are as before. -/
def Atomic (library : GateLibrary) (call : ProofImport) (files : ProofFiles) : Prop :=
  (∃ result, (call.run library files).1 = some result ∧
      (result.status = "PUBLISHED" ∨ result.status = "QUARANTINED")) ∨
    (call.run library files).1 = none ∧ (call.run library files).2 = files

/-- Every event of the ledger has its source record. -/
def Paired (files : ProofFiles) : Prop :=
  ∀ event ∈ files.events, ∃ record ∈ files.sourceRecords.getD [],
    record.sourceRecordId = event.sourceRecordId

namespace ProofImport

section Rows

variable (call : ProofImport) (detection : SchemaDetection)

/-- A row can be normalized, and its event be added to the events. -/
def Adds (events : List SerializedEvent) (row : RawPayload) (after : List SerializedEvent)
    (isNew : Bool) : Prop :=
  ∃ normalized, normalizeRow row (call.normalization detection row) = .ok normalized ∧
    addIfAbsent events normalized.event.toEventFields = some (after, isNew)

/-- One row after the other can be added. -/
def GoesThrough : List SerializedEvent → List RawPayload → Prop
  | _, [] => True
  | events, row :: rows =>
      ∃ after isNew, call.Adds detection events row after isNew ∧ GoesThrough after rows

/-- The events hold the event of every row in front of one that cannot be added. -/
def StopsUnchanged (events : List SerializedEvent) (rows : List RawPayload) : Prop :=
  ∃ earlier row later, rows = earlier ++ row :: later ∧
    (∀ known ∈ earlier, call.Adds detection events known events false) ∧
    ∀ after isNew, ¬call.Adds detection events row after isNew

end Rows

/-- The call ends before it imports rows, or the source records cannot be read, or all
rows can be added, or none is added to a ledger that exists before one that cannot. -/
def Proceeds (library : GateLibrary) (call : ProofImport) (files : ProofFiles) : Prop :=
  ∀ detection rows, call.accept library = some (.inr (detection, rows)) →
    (∃ record ∈ files.sourceRecords.getD [], record.isCut = true) ∨
      call.GoesThrough detection files.events rows ∨
      files.ledger.isSome = true ∧ call.StopsUnchanged detection files.events rows

end ProofImport

/-! ### One row -/

theorem addIfAbsent_spec
    {events after : List SerializedEvent}
    {event : EventFields}
    {isNew : Bool}
    (added : addIfAbsent events event = some (after, isNew)) :
    after = events ∧ isNew = false ∨ after = events ++ [serialize event] ∧ isNew = true := by
  simp only [addIfAbsent, Option.bind_eq_bind, Option.bind_eq_some_iff] at added
  obtain ⟨byEventId, -, byIdempotencyKey, -, added⟩ := added
  split at added
  next =>
    split at added
    next =>
      obtain ⟨rfl, rfl⟩ := Prod.mk.inj (Option.some.inj added)
      exact .inl ⟨rfl, rfl⟩
    next => cases added
  next =>
    split at added
    next =>
      obtain ⟨rfl, rfl⟩ := Prod.mk.inj (Option.some.inj added)
      exact .inl ⟨rfl, rfl⟩
    next => cases added
  next =>
    obtain ⟨rfl, rfl⟩ := Prod.mk.inj (Option.some.inj added)
    exact .inr ⟨rfl, rfl⟩

namespace ProofImport

/-- The ids under which source records are held, each under its own. -/
def IsIndex (records : Dict String SourceRecord) : Prop :=
  records.IndexedBy fun record => record.sourceRecordId

variable {call : ProofImport} {detection : SchemaDetection} {semantic : JsonObject}
  {state next : ImportState} {row : RawPayload} {rows : List RawPayload}

/-- What a row adds to the events and to the source records. -/
structure RowAdded (state next : ImportState) (after : List SerializedEvent) : Prop where
  /-- The events. -/
  events : next.events = after
  /-- No id is lost. -/
  kept : ∀ id ∈ state.sourceRecords.keys, id ∈ next.sourceRecords.keys
  /-- A new event has its source record. -/
  paired : ∀ event ∈ after, event ∈ state.events ∨
    event.sourceRecordId ∈ next.sourceRecords.keys
  /-- Records are held under their ids. -/
  indexed : IsIndex state.sourceRecords → IsIndex next.sourceRecords

theorem importRow_spec
    (imported : call.importRow detection semantic state row = some next) :
    ∃ after isNew, call.Adds detection state.events row after isNew ∧
      RowAdded state next after := by
  unfold importRow at imported
  split at imported
  next => cases imported
  next normalized isNormalized =>
    split at imported
    next => cases imported
    next after isNew added =>
      obtain rfl := Option.some.inj imported
      refine ⟨after, isNew, ⟨normalized, isNormalized, added⟩, rfl, ?_, ?_, ?_⟩
      · intro id isKept
        dsimp only
        split
        next => exact isKept
        next => exact Dict.mem_keys_set.mpr (.inr isKept)
      · intro event listed
        rcases addIfAbsent_spec added with ⟨rfl, -⟩ | ⟨rfl, -⟩
        · exact .inl listed
        · rcases List.mem_append.mp listed with old | new
          · exact .inl old
          · obtain rfl := List.mem_singleton.mp new
            obtain ⟨values, -, fields, -⟩ := normalizeRow_eq_ok isNormalized
            have isId : (serialize normalized.event.toEventFields).sourceRecordId =
                call.sourceRecordId row := by
              rw [fields]
              rfl
            rw [isId]
            right
            dsimp only
            split
            next found =>
              obtain ⟨record, isFound⟩ := Option.isSome_iff_exists.mp found
              by_contra absent
              rw [← Dict.get?_eq_none_iff] at absent
              exact Option.some_ne_none _ (isFound.symm.trans absent)
            next => exact Dict.mem_keys_set.mpr (.inl rfl)
      · intro indexed
        dsimp only
        split
        next => exact indexed
        next => exact indexed.set (call.sourceRecord detection semantic row normalized)

/-- A row goes through when its event can be added. -/
theorem exists_importRow
    (semantic : JsonObject)
    {after : List SerializedEvent}
    {isNew : Bool}
    (adds : call.Adds detection state.events row after isNew) :
    ∃ next, call.importRow detection semantic state row = some next := by
  obtain ⟨normalized, isNormalized, added⟩ := adds
  rw [importRow, isNormalized]
  dsimp only
  rw [added]
  exact ⟨_, rfl⟩

/-- What can be added is determined by the row. -/
theorem Adds.unique
    {events after other : List SerializedEvent}
    {isNew isOtherNew : Bool}
    (adds : call.Adds detection events row after isNew)
    (addsOther : call.Adds detection events row other isOtherNew) :
    after = other ∧ isNew = isOtherNew := by
  obtain ⟨normalized, isNormalized, added⟩ := adds
  obtain ⟨otherNormalized, isOther, addedOther⟩ := addsOther
  obtain rfl := Except.ok.inj (isNormalized.symm.trans isOther)
  exact Prod.mk.inj (Option.some.inj (added.symm.trans addedOther))

theorem Adds.cases
    {events after : List SerializedEvent}
    {isNew : Bool}
    (adds : call.Adds detection events row after isNew) :
    after = events ∧ isNew = false ∨ ∃ event, after = events ++ [event] ∧ isNew = true := by
  obtain ⟨normalized, -, added⟩ := adds
  rcases addIfAbsent_spec added with same | more
  · exact .inl same
  · exact .inr ⟨_, more⟩

/-! ### All rows -/

/-- What holds wherever the loop over the rows stops. -/
structure Loop (state atEnd : ImportState) : Prop where
  /-- Events are only appended. -/
  grows : state.events <+: atEnd.events
  /-- No id is lost. -/
  kept : ∀ id ∈ state.sourceRecords.keys, id ∈ atEnd.sourceRecords.keys
  /-- New events have their source records. -/
  paired : ∀ event ∈ atEnd.events, event ∈ state.events ∨
    event.sourceRecordId ∈ atEnd.sourceRecords.keys
  /-- Records are held under their ids. -/
  indexed : IsIndex state.sourceRecords → IsIndex atEnd.sourceRecords

theorem loop_importRows
    (call : ProofImport)
    (detection : SchemaDetection)
    (semantic : JsonObject)
    (state : ImportState)
    (rows : List RawPayload) : Loop state (call.importRows detection semantic state rows).1 := by
  induction rows generalizing state with
  | nil => exact ⟨List.prefix_rfl, fun _ => id, fun _ => .inl, id⟩
  | cons row rows inductionHypothesis =>
      rw [importRows]
      split
      next => exact ⟨List.prefix_rfl, fun _ => id, fun _ => .inl, id⟩
      next next imported =>
        obtain ⟨after, isNew, adds, events, kept, paired, indexed⟩ := importRow_spec imported
        have rest := inductionHypothesis next
        refine ⟨?_, fun id isKept => rest.kept id (kept id isKept), fun event listed => ?_,
          fun isIndex => rest.indexed (indexed isIndex)⟩
        · refine List.IsPrefix.trans ?_ rest.grows
          rw [events]
          rcases adds.cases with ⟨rfl, -⟩ | ⟨event, rfl, -⟩
          · exact List.prefix_rfl
          · exact List.prefix_append _ _
        · rcases rest.paired event listed with old | new
          · rw [events] at old
            rcases paired event old with older | isHeld
            · exact .inl older
            · exact .inr (rest.kept _ isHeld)
          · exact .inr new

/-- The loop goes through when all rows can be added. -/
theorem importRows_done_iff :
    (call.importRows detection semantic state rows).2 = true ↔
      call.GoesThrough detection state.events rows := by
  induction rows generalizing state with
  | nil => exact ⟨fun _ => trivial, fun _ => rfl⟩
  | cons row rows inductionHypothesis =>
      rw [importRows, GoesThrough]
      cases imported : call.importRow detection semantic state row with
      | none =>
          refine ⟨fun done => absurd done Bool.false_ne_true, ?_⟩
          rintro ⟨after, isNew, adds, -⟩
          obtain ⟨next, isNext⟩ := exists_importRow semantic adds
          rw [imported] at isNext
          cases isNext
      | some next =>
          obtain ⟨after, isNew, adds, events, -⟩ := importRow_spec imported
          dsimp only
          rw [inductionHypothesis, events]
          constructor
          · exact fun rest => ⟨after, isNew, adds, rest⟩
          · rintro ⟨other, _, addsOther, rest⟩
            rwa [(adds.unique addsOther).1]

/-- A row whose event is known does not matter. -/
theorem stopsUnchanged_cons_of_known
    {events : List SerializedEvent}
    (known : call.Adds detection events row events false) :
    call.StopsUnchanged detection events (row :: rows) ↔
      call.StopsUnchanged detection events rows := by
  constructor
  · rintro ⟨earlier, failing, later, split, areKnown, fails⟩
    cases earlier with
    | nil =>
        obtain ⟨rfl, rfl⟩ := List.cons.inj split
        exact absurd known (fails _ _)
    | cons first earlier =>
        obtain ⟨rfl, rfl⟩ := List.cons.inj split
        exact ⟨earlier, failing, later, rfl, (List.forall_mem_cons.mp areKnown).2, fails⟩
  · rintro ⟨earlier, failing, later, rfl, areKnown, fails⟩
    exact ⟨row :: earlier, failing, later, rfl, List.forall_mem_cons.mpr ⟨known, areKnown⟩, fails⟩

/-- After a row that is added the loop does not stop unchanged. -/
theorem not_stopsUnchanged_of_new
    {events after : List SerializedEvent}
    (adds : call.Adds detection events row after true) :
    ¬call.StopsUnchanged detection events (row :: rows) := by
  rintro ⟨earlier, failing, later, split, areKnown, fails⟩
  cases earlier with
  | nil =>
      obtain ⟨rfl, rfl⟩ := List.cons.inj split
      exact fails _ _ adds
  | cons first earlier =>
      obtain ⟨rfl, rfl⟩ := List.cons.inj split
      exact Bool.false_ne_true ((areKnown _ List.mem_cons_self).unique adds).2

/-- The loop stops with the same events when no row was added before the one that
cannot be. -/
theorem importRows_unchanged_iff
    (stopped : (call.importRows detection semantic state rows).2 = false) :
    (call.importRows detection semantic state rows).1.events = state.events ↔
      call.StopsUnchanged detection state.events rows := by
  induction rows generalizing state with
  | nil => cases stopped
  | cons row rows inductionHypothesis =>
      rw [importRows] at stopped ⊢
      cases imported : call.importRow detection semantic state row with
      | none =>
          refine ⟨fun _ => ⟨[], row, rows, rfl, by simp, fun after isNew adds => ?_⟩, fun _ => rfl⟩
          obtain ⟨next, isNext⟩ := exists_importRow semantic adds
          rw [imported] at isNext
          cases isNext
      | some next =>
          obtain ⟨after, isNew, adds, events, -⟩ := importRow_spec imported
          rw [imported] at stopped
          dsimp only at stopped ⊢
          rcases adds.cases with ⟨rfl, rfl⟩ | ⟨event, rfl, rfl⟩
          · rw [stopsUnchanged_cons_of_known adds, ← events]
            exact inductionHypothesis stopped
          · refine ⟨fun same => ?_, fun stops => absurd stops (not_stopsUnchanged_of_new adds)⟩
            have grows := (loop_importRows call detection semantic next rows).grows.length_le
            rw [same, events, List.length_append, List.length_singleton] at grows
            omega

end ProofImport

/-! ### One call -/

theorem status_of_accept
    {library : GateLibrary}
    {call : ProofImport}
    {result : ImportProofResult}
    (accepted : call.accept library = some (.inl result)) : result.status = "QUARANTINED" := by
  simp only [ProofImport.accept, Option.bind_eq_bind, Option.bind_eq_some_iff] at accepted
  obtain ⟨detection, -, accepted⟩ := accepted
  split at accepted
  next =>
    obtain rfl := Sum.inl.inj (Option.some.inj accepted)
    rfl
  next =>
    obtain ⟨text, -, accepted⟩ := Option.bind_eq_some_iff.mp accepted
    obtain ⟨rows, -, accepted⟩ := Option.bind_eq_some_iff.mp accepted
    split at accepted
    next =>
      obtain rfl := Sum.inl.inj (Option.some.inj accepted)
      rfl
    next =>
      split at accepted
      next => cases accepted
      next => cases accepted

/-- Source records are only written next to a ledger. -/
def HasLedger (files : ProofFiles) : Prop :=
  files.sourceRecords.isSome = true → files.ledger.isSome = true

theorem readSourceRecords_eq_none_iff {lines : List SourceRecord} :
    readSourceRecords lines = none ↔ ∃ record ∈ lines, record.isCut = true := by
  rw [readSourceRecords, ite_eq_left_iff]
  simp

/-- Opening a ledger that exists leaves the files as they are. -/
theorem opened_eq_iff {files : ProofFiles} {events : List SerializedEvent} :
    ({ files with ledger := some events } : ProofFiles) = files ↔
      files.ledger.isSome = true ∧ events = files.events := by
  obtain ⟨ledger, sourceRecords⟩ := files
  cases ledger <;> simp [ProofFiles.events]

/-- A call is atomic exactly when it proceeds. -/
theorem atomic_iff
    {library : GateLibrary}
    {call : ProofImport}
    {files : ProofFiles}
    (hasLedger : HasLedger files) :
    Atomic library call files ↔ call.Proceeds library files := by
  unfold Atomic ProofImport.Proceeds
  rw [ProofImport.run]
  cases accepted : call.accept library with
  | none => simp
  | some outcome =>
      cases outcome with
      | inl result =>
          have isQuarantined := status_of_accept accepted
          simp [isQuarantined]
      | inr imported =>
          obtain ⟨detection, rows⟩ := imported
          have only : ∀ {holds : SchemaDetection → List RawPayload → Prop},
              (∀ found rest, some (Sum.inr (detection, rows)) =
                some (Sum.inr (α := ImportProofResult) (found, rest)) → holds found rest) ↔
                  holds detection rows := by
            intro holds
            constructor
            · exact fun all => all detection rows rfl
            · rintro holdsHere _ _ ⟨⟩
              exact holdsHere
          rw [only]
          cases read : readSourceRecords (files.sourceRecords.getD []) with
          | none =>
              have cut := readSourceRecords_eq_none_iff.mp read
              have hasRecords : files.sourceRecords.isSome = true := by
                obtain ⟨record, listed, -⟩ := cut
                cases records : files.sourceRecords with
                | none => simp [records] at listed
                | some lines => rfl
              exact iff_of_true
                (.inr ⟨rfl, opened_eq_iff.mpr ⟨hasLedger hasRecords, rfl⟩⟩) (.inl cut)
          | some records =>
              have uncut : ¬∃ record ∈ files.sourceRecords.getD [], record.isCut = true := by
                rw [← readSourceRecords_eq_none_iff, read]
                exact Option.some_ne_none _
              rw [or_iff_right uncut]
              dsimp only
              have doneIff := @ProofImport.importRows_done_iff call detection
                (semanticFingerprint rows) { events := files.events, sourceRecords := records } rows
              have unchanged := @ProofImport.importRows_unchanged_iff call detection
                (semanticFingerprint rows) { events := files.events, sourceRecords := records } rows
              generalize call.importRows detection (semanticFingerprint rows)
                { events := files.events, sourceRecords := records } rows = ended
                  at doneIff unchanged
              obtain ⟨state, isDone⟩ := ended
              cases isDone with
              | true => exact iff_of_true (.inl ⟨_, rfl, .inl rfl⟩) (.inl (doneIff.mp rfl))
              | false =>
                  have notDone : ¬call.GoesThrough detection files.events rows := by
                    rw [← doneIff]
                    exact Bool.false_ne_true
                  rw [or_iff_right notDone, ← unchanged rfl, ← opened_eq_iff]
                  constructor
                  · rintro (⟨_, ⟨⟩, -⟩ | ⟨-, same⟩)
                    exact same
                  · exact fun same => .inr ⟨rfl, same⟩

/-! ### Runs -/

/-- What holds of the files after any calls. -/
structure Sound (files : ProofFiles) : Prop where
  hasLedger : HasLedger files
  paired : Paired files

theorem hasLedger_run
    {library : GateLibrary}
    {call : ProofImport}
    {files : ProofFiles}
    (hasLedger : HasLedger files) : HasLedger (call.run library files).2 := by
  rw [ProofImport.run]
  split
  next => exact hasLedger
  next => exact hasLedger
  next =>
    dsimp only
    split
    next => exact fun _ => rfl
    next =>
      split
      next => exact fun _ => rfl
      next => exact fun _ => rfl

/-- The ids of a file are the keys of its source records. -/
theorem mem_keys_of_readSourceRecords
    {lines : List SourceRecord}
    {records : Dict String SourceRecord}
    (read : readSourceRecords lines = some records) :
    ProofImport.IsIndex records ∧ ∀ record ∈ lines, record.sourceRecordId ∈ records.keys := by
  have general : ∀ (lines : List SourceRecord) (held : Dict String SourceRecord),
      ProofImport.IsIndex held →
        ProofImport.IsIndex (lines.foldl
          (fun records item => records.set item.sourceRecordId item) held) ∧
        ∀ id, id ∈ (lines.foldl
          (fun records item => records.set item.sourceRecordId item) held).keys ↔
            id ∈ lines.map (fun record => record.sourceRecordId) ∨ id ∈ held.keys := by
    intro lines
    induction lines with
    | nil => exact fun held indexed => ⟨indexed, by simp⟩
    | cons line lines inductionHypothesis =>
        intro held indexed
        obtain ⟨indexedRest, keys⟩ := inductionHypothesis (held.set line.sourceRecordId line)
          (indexed.set line)
        refine ⟨indexedRest, fun id => ?_⟩
        rw [List.foldl_cons, keys, Dict.mem_keys_set, List.map_cons, List.mem_cons]
        tauto
  rw [readSourceRecords] at read
  split at read
  next => cases read
  next =>
    obtain rfl := Option.some.inj read
    obtain ⟨indexed, keys⟩ := general lines Dict.empty (Dict.indexedBy_empty _)
    exact ⟨indexed, fun record listed => (keys _).mpr (.inl (List.mem_map_of_mem listed))⟩

/-- The lines that are written have the keys as their ids. -/
theorem exists_of_mem_keys
    {records : Dict String SourceRecord}
    (indexed : ProofImport.IsIndex records)
    {id : String}
    (isKey : id ∈ records.keys) :
    ∃ record ∈ writeSourceRecords records, record.sourceRecordId = id := by
  obtain ⟨entry, listed, rfl⟩ := List.mem_map.mp isKey
  refine ⟨entry.2, ?_, (indexed entry listed).symm⟩
  exact List.mem_map.mpr ⟨entry, (List.perm_insertionSort _ _).mem_iff.mpr listed, rfl⟩

/-- A call that returns keeps every event next to its source record. -/
theorem paired_run
    {library : GateLibrary}
    {call : ProofImport}
    {files : ProofFiles}
    (paired : Paired files)
    (atomic : Atomic library call files) : Paired (call.run library files).2 := by
  rcases atomic with ⟨result, returned, -⟩ | ⟨-, same⟩
  · rw [ProofImport.run] at returned ⊢
    split at returned
    next => cases returned
    next => exact paired
    next detection rows accepted =>
      dsimp only at returned ⊢
      split at returned
      next => cases returned
      next records read =>
        have loop := ProofImport.loop_importRows call detection (semanticFingerprint rows)
          { events := files.events, sourceRecords := records } rows
        obtain ⟨indexed, ids⟩ := mem_keys_of_readSourceRecords read
        split at returned
        next done =>
          rw [if_pos done]
          intro event listed
          have isHeld : event.sourceRecordId ∈ (call.importRows detection
              (semanticFingerprint rows) { events := files.events, sourceRecords := records }
                rows).1.sourceRecords.keys := by
            rcases loop.paired event listed with old | new
            · obtain ⟨record, isLine, sameId⟩ := paired event old
              exact loop.kept _ (sameId ▸ ids record isLine)
            · exact new
          exact exists_of_mem_keys (loop.indexed indexed) isHeld
        next => cases returned
  · rw [same]
    exact paired

/-- **Atomicity of the proof import.** In a run in which every call so far proceeds,
the next call is atomic, and every event has its source record after it, exactly when
it proceeds as well. -/
theorem proofImport_atomic_iff
    {library : GateLibrary}
    {calls : List ProofImport}
    (proceeded : ∀ earlier call later, calls = earlier ++ call :: later →
      call.Proceeds library (filesAfter library earlier))
    (call : ProofImport) :
    (Atomic library call (filesAfter library calls) ∧
        Paired (call.run library (filesAfter library calls)).2) ↔
      call.Proceeds library (filesAfter library calls) := by
  have sound : Sound (filesAfter library calls) := by
    induction calls using List.reverseRecOn with
    | nil => exact ⟨by simp [HasLedger, filesAfter], by simp [Paired, filesAfter, ProofFiles.events]⟩
    | append_singleton calls last inductionHypothesis =>
        obtain ⟨hasLedger, paired⟩ := inductionHypothesis fun earlier call later split =>
          proceeded earlier call (later ++ [last]) (by rw [split]; simp)
        have atomic := (atomic_iff hasLedger).mpr (proceeded calls last [] rfl)
        have isStep : filesAfter library (calls ++ [last]) =
            (last.run library (filesAfter library calls)).2 := by
          rw [filesAfter, List.foldl_append]
          rfl
        rw [isStep]
        exact ⟨hasLedger_run hasLedger, paired_run paired atomic⟩
  rw [← atomic_iff sound.hasLedger, and_iff_left_iff_imp]
  exact paired_run sound.paired

/-! ### Two files -/

/-- The registered columns with commas, and rows below them. -/
def proofFile (rows : List (List String)) : List Char :=
  (wbSyntheticHeaders :: rows).flatMap fun cells =>
    [','].intercalate (cells.map String.toList) ++ ['\n']

/-- The cells of a sale. -/
def saleCells (operation supersedes : String) : List String :=
  [operation, operation, "SALE", "2026-01-01T00:00:00Z", "2026-01-01T00:00:00Z", "p", "1", "10",
    "RUB", "1", supersedes, ""]

/-- The import of a text. -/
def importOf (text : List Char) : ProofImport := ⟨bytesOf text, "org", "account", true⟩

/-- The rows of a text that are all valid are imported. -/
theorem accept_importOf
    {text : List Char}
    {rows : List RawPayload}
    (unsigned : List.isPrefixOf [0xef, 0xbb, 0xbf] (bytesOf text) = false)
    (opened : (CsvDialect.excel.nextRecord .start (csvLines text)).toOption.map
      (Option.map Prod.fst) = some (some wbSyntheticHeaders))
    (isRead : validatedRows text = some rows)
    (valid : ProofImport.validationErrors rows = []) :
    (importOf text).accept (libraryOf .excel) =
      some (.inr (detection .excel wbSyntheticHeaders, rows)) := by
  have isDetected := detectCsvSchema_libraryOf opened
  have decoded := decodeUtf8Sig_bytesOf unsigned
  simp only [ProofImport.accept, detectInBytes, importOf, decoded, Option.map_some,
    String.toList_ofList, Option.elim_some, isDetected, Option.bind_eq_bind, Option.bind_some,
    isRead, valid]
  rfl

/-- Rows that can all be added are imported. -/
theorem proceeds_of_accept
    {library : GateLibrary}
    {call : ProofImport}
    {files : ProofFiles}
    {detection : SchemaDetection}
    {rows : List RawPayload}
    (accepted : call.accept library = some (.inr (detection, rows)))
    (through : call.GoesThrough detection files.events rows) : call.Proceeds library files := by
  intro found rest acceptedRest
  obtain ⟨rfl, rfl⟩ := Prod.mk.inj
    (Sum.inr.inj (Option.some.inj (accepted.symm.trans acceptedRest)))
  exact .inr (.inl through)

/-- A valid row of a sale that refers to no other event. -/
def isPlainSale (row : RawPayload) : Bool :=
  (validateRow row).isOk && reference row "supersedes_event_id" == none &&
    reference row "reversal_of_event_id" == none

/-- Such a row is added to an empty ledger. -/
theorem exists_adds
    {text : List Char}
    {row : RawPayload}
    (plain : isPlainSale row = true) :
    ∃ event, (importOf text).Adds (detection .excel wbSyntheticHeaders) [] row [event] true := by
  simp only [isPlainSale, Bool.and_eq_true, beq_iff_eq] at plain
  obtain ⟨⟨valid, notSuperseding⟩, notReversing⟩ := plain
  obtain ⟨_, valid⟩ := Checks.exists_eq_ok _ valid
  have schemaVersion : ((detection .excel wbSyntheticHeaders).schemaId.filter (· ≠ "")).getD
      "UNAVAILABLE" ≠ "" := by
    decide
  have actor : PyText.stripText "a6-proof-worker" ≠ "" := by decide
  obtain ⟨normalized, isNormalized⟩ := @exists_normalizeRow row
    ((importOf text).normalization (detection .excel wbSyntheticHeaders) row) valid actor
    (by
      simp only [List.forall_mem_cons]
      refine ⟨by simp [ProofImport.normalization, importOf],
        by simp [ProofImport.normalization, importOf],
        by simp [ProofImport.normalization, ProofImport.importBatchId],
        by simp [ProofImport.normalization, ProofImport.sourceRecordId], schemaVersion, by simp⟩)
    (fun values _ => by
      rw [eventFields]
      simp [notSuperseding, notReversing])
  exact ⟨_, normalized, isNormalized, rfl⟩

/-- One sale is imported without a file before it. -/
theorem proofImport_atomic_iff_sale :
    Atomic (libraryOf .excel) (importOf (proofFile [saleCells "1" ""])) ⟨none, none⟩ ∧
      Paired ((importOf (proofFile [saleCells "1" ""])).run (libraryOf .excel) ⟨none, none⟩).2 := by
  have unsigned : List.isPrefixOf [0xef, 0xbb, 0xbf]
      (bytesOf (proofFile [saleCells "1" ""])) = false := by
    decide +kernel
  have opened : (CsvDialect.excel.nextRecord .start
      (csvLines (proofFile [saleCells "1" ""]))).toOption.map (Option.map Prod.fst) =
        some (some wbSyntheticHeaders) := by
    decide +kernel
  have facts : (validatedRows (proofFile [saleCells "1" ""])).any (fun rows =>
      decide (rows.length = 1) && rows.all isPlainSale &&
        decide (ProofImport.validationErrors rows = [])) = true := by
    decide +kernel
  obtain ⟨rows, isRead, facts⟩ := (Option.any_eq_true _ _).mp facts
  simp only [Bool.and_eq_true, decide_eq_true_eq, List.all_eq_true] at facts
  obtain ⟨⟨one, plain⟩, valid⟩ := facts
  obtain ⟨row, rfl⟩ := List.length_eq_one_iff.mp one
  generalize proofFile [saleCells "1" ""] = text at unsigned opened isRead ⊢
  have accepted := accept_importOf unsigned opened isRead valid
  obtain ⟨event, adds⟩ := @exists_adds text row (plain row (List.mem_singleton_self _))
  exact (@proofImport_atomic_iff (libraryOf .excel) [] (by simp) _).mpr
    (proceeds_of_accept accepted ⟨_, _, adds, trivial⟩)

/-- The event of the row would supersede itself. -/
def isSelfSuperseding (row : RawPayload) : Bool :=
  (rowValues row).toOption.any fun values =>
    reference row "supersedes_event_id" ==
      some ("evt-" ++ cell row "operation_id" ++ "-r" ++ toString values.revision)

/-- Such a row cannot be added. -/
theorem not_adds_of_isSelfSuperseding
    {call : ProofImport}
    {detection : SchemaDetection}
    {events after : List SerializedEvent}
    {row : RawPayload}
    {isNew : Bool}
    (isSelf : isSelfSuperseding row = true) : ¬call.Adds detection events row after isNew := by
  rintro ⟨normalized, isNormalized, -⟩
  obtain ⟨values, read, fields, -⟩ := normalizeRow_eq_ok isNormalized
  simp only [isSelfSuperseding, read, Except.toOption, Option.any_some, beq_iff_eq] at isSelf
  apply normalized.event.supersedesEventId_ne_self
  rw [fields, eventFields]
  dsimp only
  rw [isSelf]

/-- A file whose first row is added and whose second one cannot be. -/
theorem run_of_stopped
    {library : GateLibrary}
    {call : ProofImport}
    {detection : SchemaDetection}
    {first second : RawPayload}
    {event : SerializedEvent}
    (accepted : call.accept library = some (.inr (detection, [first, second])))
    (adds : call.Adds detection [] first [event] true)
    (fails : ∀ after isNew, ¬call.Adds detection [event] second after isNew) :
    call.run library ⟨none, none⟩ = (none, ⟨some [event], none⟩) := by
  have empty : readSourceRecords [] = some Dict.empty := rfl
  rw [ProofImport.run, accepted]
  simp only [ProofFiles.events, Option.getD_none, empty]
  obtain ⟨next, imported⟩ := @ProofImport.exists_importRow call detection
    { events := [], sourceRecords := Dict.empty } first
    (semanticFingerprint [first, second]) [event] true adds
  obtain ⟨after, isNew, addsNext, events, -⟩ := ProofImport.importRow_spec imported
  obtain rfl := (adds.unique addsNext).1
  have stopped : call.importRow detection (semanticFingerprint [first, second]) next second =
      none := by
    by_contra imported
    obtain ⟨last, isLast⟩ := Option.ne_none_iff_exists'.mp imported
    obtain ⟨_, _, addsSecond, -⟩ := ProofImport.importRow_spec isLast
    rw [events] at addsSecond
    exact fails _ _ addsSecond
  simp [ProofImport.importRows, imported, stopped, events]

/-- The second row passes the checks, and then no event can be made of it. -/
theorem not_atomic_selfSuperseding :
    ¬Atomic (libraryOf .excel) (importOf (proofFile [saleCells "1" "", saleCells "2" "evt-2-r1"]))
        ⟨none, none⟩ ∧
      ¬Paired ((importOf (proofFile [saleCells "1" "", saleCells "2" "evt-2-r1"])).run
        (libraryOf .excel) ⟨none, none⟩).2 := by
  have unsigned : List.isPrefixOf [0xef, 0xbb, 0xbf]
      (bytesOf (proofFile [saleCells "1" "", saleCells "2" "evt-2-r1"])) = false := by
    decide +kernel
  have opened : (CsvDialect.excel.nextRecord .start
      (csvLines (proofFile [saleCells "1" "", saleCells "2" "evt-2-r1"]))).toOption.map
        (Option.map Prod.fst) = some (some wbSyntheticHeaders) := by
    decide +kernel
  have facts : (validatedRows (proofFile [saleCells "1" "", saleCells "2" "evt-2-r1"])).any
      (fun rows => decide (rows.length = 2) && rows[0]?.any isPlainSale &&
        rows[1]?.any isSelfSuperseding &&
        decide (ProofImport.validationErrors rows = [])) = true := by
    decide +kernel
  obtain ⟨rows, isRead, facts⟩ := (Option.any_eq_true _ _).mp facts
  simp only [Bool.and_eq_true, decide_eq_true_eq] at facts
  obtain ⟨⟨⟨two, plain⟩, isSelf⟩, valid⟩ := facts
  obtain ⟨first, second, rfl⟩ := List.length_eq_two.mp two
  simp only [List.getElem?_cons_zero, List.getElem?_cons_succ, Option.any_some] at plain isSelf
  generalize proofFile [saleCells "1" "", saleCells "2" "evt-2-r1"] = text
    at unsigned opened isRead ⊢
  have accepted := accept_importOf unsigned opened isRead valid
  obtain ⟨event, adds⟩ := @exists_adds text first plain
  have ran := run_of_stopped accepted adds fun after isNew => not_adds_of_isSelfSuperseding isSelf
  constructor
  · rintro (⟨result, returned, -⟩ | ⟨-, same⟩)
    · rw [ran] at returned
      cases returned
    · rw [ran] at same
      cases same
  · intro paired
    rw [ran] at paired
    obtain ⟨record, listed, -⟩ := paired event (List.mem_singleton_self event)
    cases listed

end ProofPipeline
end QuantumAnalytics
