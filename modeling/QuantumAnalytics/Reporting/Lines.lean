import QuantumAnalytics.Foundations.JsonNesting
import QuantumAnalytics.Foundations.JsonText
import QuantumAnalytics.Reporting.Bundles

/-!
# Lines of records

The importer of lines splits at every end of a line that `str.splitlines`
knows, and three of these are not escaped in canonical text. Records survive
an export and an import exactly when none of their strings holds one of the
three.
-/

namespace QuantumAnalytics
namespace Reporting

variable {interpreter : Interpreter}

/-- The ends of lines that canonical text does not escape: U+0085, U+2028 and
U+2029. -/
def IsSeparator (point : CodePoint) : Prop :=
  point.ord = 0x85 ∨ point.ord = 0x2028 ∨ point.ord = 0x2029

/-- No string of the record holds an end of a line that is not escaped. -/
def Unbroken (record : PyJson) : Prop := ∀ point ∈ record.points, ¬IsSeparator point

/-! ### Splitting canonical texts -/

/-- In canonical text the ends of lines are the separators. -/
theorem isLineEnd_iff
    {point : CodePoint}
    (printable : 0x20 ≤ point.ord) : isLineEnd point = true ↔ IsSeparator point := by
  simp only [isLineEnd, IsSeparator, List.contains_eq_mem, List.mem_cons, List.not_mem_nil,
    or_false, decide_eq_true_eq]
  omega

/-- A text with no end of a line is one line. -/
theorem splitLinesFrom_append
    (line : PyStr)
    {first : PyStr}
    (inside : ∀ point ∈ first, isLineEnd point = false)
    (text : PyStr) :
    splitLinesFrom line (first ++ text) = splitLinesFrom (line ++ first) text := by
  induction first generalizing line with
  | nil => simp
  | cons point first inductionHypothesis =>
      have notEnd := inside point List.mem_cons_self
      have notReturn : point ≠ .scalar '\r' := by
        rintro rfl
        exact absurd notEnd (by decide)
      have step : splitLinesFrom line (point :: (first ++ text)) =
          splitLinesFrom (line ++ [point]) (first ++ text) := by
        rw [splitLinesFrom, notEnd]
        · rfl
        · rintro rest rfl
          exact absurd rfl notReturn
      rw [List.cons_append, step,
        inductionHypothesis _ fun other member => inside other (List.mem_cons_of_mem point member),
        List.append_assoc]
      rfl

/-- An end of a line other than a carriage return ends the line. -/
theorem splitLinesFrom_lineEnd
    (line : PyStr)
    {point : CodePoint}
    (ends : isLineEnd point = true)
    (notReturn : point ≠ .scalar '\r')
    (text : PyStr) :
    splitLinesFrom line (point :: text) = line :: splitLinesFrom [] text := by
  rw [splitLinesFrom, ends]
  · rfl
  · rintro rest rfl
    exact absurd rfl notReturn

/-- A text is free of ends of lines, or it breaks at its first one. -/
theorem exists_break
    (text : PyStr) :
    (∀ point ∈ text, isLineEnd point = false) ∨
      ∃ first point rest, text = first ++ point :: rest ∧
        (∀ other ∈ first, isLineEnd other = false) ∧ isLineEnd point = true := by
  induction text with
  | nil => exact .inl (by simp)
  | cons point text inductionHypothesis =>
      cases ends : isLineEnd point with
      | true => exact .inr ⟨[], point, text, rfl, by simp, ends⟩
      | false =>
          rcases inductionHypothesis with inside | ⟨first, other, rest, rfl, inside, broken⟩
          · exact .inl (List.forall_mem_cons.mpr ⟨ends, inside⟩)
          · exact .inr ⟨point :: first, other, rest, rfl,
              List.forall_mem_cons.mpr ⟨ends, inside⟩, broken⟩

/-! ### The start of a canonical text -/

/-- A separator does not continue a value. -/
theorem separator_spec
    {point : CodePoint}
    (separator : IsSeparator point) :
    ∃ c, point = .scalar c ∧ JsonDecoder.isBlank c = false ∧
      JsonDecoder.isNumberPart c = false ∧ c ≠ 'I' ∧ c ≠ '\r' ∧
      ∀ nesting, JsonDecoder.readValue nesting false [] c = .error .decode := by
  cases point with
  | surrogate offset =>
      change 0xd800 + offset.val = 0x85 ∨ 0xd800 + offset.val = 0x2028 ∨
        0xd800 + offset.val = 0x2029 at separator
      omega
  | scalar c =>
      refine ⟨c, rfl, ?_⟩
      have rebuilt : c = Char.ofNat c.toNat := (Char.ofNat_toNat c).symm
      change c.toNat = 0x85 ∨ c.toNat = 0x2028 ∨ c.toNat = 0x2029 at separator
      rcases separator with isPoint | isPoint | isPoint
      all_goals
        rw [isPoint] at rebuilt
        rw [rebuilt]
        exact ⟨by decide, by decide, by decide, by decide, fun _ => rfl⟩

/-- After a whole value only a blank may follow. -/
theorem finish_step_eq_error
    {state : JsonDecoder.State}
    {value : PyJson}
    {c : Char}
    (finished : JsonDecoder.finish state = .ok value)
    (blank : JsonDecoder.isBlank c = false)
    (number : JsonDecoder.isNumberPart c = false)
    (notLiteral : c ≠ 'I') :
    JsonDecoder.step interpreter.nesting state (.scalar c) = .error .decode := by
  have afterAll : ∀ done, JsonDecoder.readAfter done [] c = .error .decode := by
    intro done
    simp [JsonDecoder.readAfter, blank]
  obtain ⟨phase, stack⟩ := state
  cases phase with
  | after done =>
      simp only [JsonDecoder.finish, ↓Checks.bind_done_eq_ok, Checks.require_eq_ok,
        List.isEmpty_iff] at finished
      obtain ⟨rfl, -⟩ := finished
      exact afterAll done
  | number text =>
      simp only [JsonDecoder.finish, Checks.bind_eq_ok, Checks.require_eq_ok,
        List.isEmpty_iff] at finished
      obtain ⟨done, isNumber, -, rfl, -⟩ := finished
      simp [JsonDecoder.step, JsonDecoder.readChar, number, notLiteral, isNumber, Checks.ok_bind,
        afterAll]
  | _ => simp [JsonDecoder.finish] at finished

/-- The part of a canonical text before a separator is not read as a value. -/
theorem not_loads_before_separator
    {document value : PyJson}
    (canonical : document.Canonical)
    (readable : JsonDecoder.Readable interpreter.nesting document)
    {first rest : PyStr}
    {point : CodePoint}
    (shape : document.render = first ++ point :: rest)
    (separator : IsSeparator point) :
    PyJson.loads interpreter first ≠ .ok value := by
  intro loaded
  obtain ⟨c, rfl, blank, number, notLiteral, -, -⟩ := separator_spec separator
  simp only [PyJson.loads, Checks.bind_eq_ok] at loaded
  obtain ⟨⟨⟩, -, state, read, finished⟩ := loaded
  obtain ⟨last, readAll, -⟩ := PyJson.exists_reads_start canonical readable
  rw [shape, JsonDecoder.run_append_of_eq_ok read, JsonDecoder.run_cons,
    finish_step_eq_error finished blank number notLiteral] at readAll
  cases readAll

/-! ### Exports and imports -/

/-- The text of an export: every record on a line of its own. -/
def jsonlText (records : List PyJson) : PyStr :=
  records.flatMap fun record => record.render ++ [.scalar '\n']

theorem canonicalTexts_eq
    {records : List PyJson}
    {lines : List PyStr}
    (rendered : records.mapM (canonicalJson interpreter) = .ok lines) :
    lines = records.map PyJson.render ∧ ∀ record ∈ records,
      PyJson.checkEncodable interpreter.nesting record = .ok () := by
  have each := Checks.mapM_eq_ok.mp rendered
  clear rendered
  induction each with
  | nil => simp
  | @cons record line records lines isLine _ inductionHypothesis =>
      obtain ⟨encodable, rfl⟩ := dumps_eq_ok.mp (canonicalJson_eq_ok.mp isLine)
      obtain ⟨rfl, encodableRest⟩ := inductionHypothesis
      exact ⟨rfl, List.forall_mem_cons.mpr ⟨encodable, encodableRest⟩⟩

/-- What a successful export promises of its records and its bytes. -/
theorem exportRecordsJsonl_spec
    {records : List JsonDocument}
    {payload : List UInt8}
    (exported : exportRecordsJsonl interpreter (records.map fun record => record.value) =
      .ok payload) :
    validateRecordCollection interpreter (records.map fun record => record.value) = .ok () ∧
      records.length ≤ maxExportRecords ∧ payload.length ≤ maxExportBytes ∧
      PyStr.decode? payload = some (jsonlText (records.map fun record => record.value)) ∧
      ∀ record ∈ records, JsonDecoder.Readable interpreter.nesting record.value := by
  simp only [exportRecordsJsonl, materialize, Checks.bind_eq_ok, Checks.pure_eq_ok,
    Checks.require_eq_ok] at exported
  obtain ⟨copies, ⟨copies', cloned, ⟨⟩, few, ⟨⟩, valid, rfl⟩, exported⟩ := exported
  obtain rfl := eq_of_mapM_cloneJson cloned
  rw [List.length_map] at few
  refine ⟨valid, few, ?_⟩
  split at exported
  next empty =>
    obtain rfl := Except.ok.inj exported
    obtain rfl := List.map_eq_nil_iff.mp empty
    exact ⟨by decide, PyStr.decode?_of_encode? rfl, by simp⟩
  next =>
    simp only [Checks.bind_eq_ok, Checks.pure_eq_ok, checkSize, Checks.require_eq_ok, encode,
      Checks.requireSome_eq_ok] at exported
    obtain ⟨lines, rendered, payload', encoded, -, small, rfl⟩ := exported
    obtain ⟨rfl, encodable⟩ := canonicalTexts_eq rendered
    refine ⟨small, ?_, fun record listed => ?_⟩
    · apply PyStr.decode?_of_encode?
      rw [List.flatMap_map] at encoded
      exact encoded
    · exact JsonDecoder.readable_of_checkEncodable record.value record.written
        (encodable record.value (List.mem_map_of_mem listed))

/-- A record is unbroken when its canonical text is one line. -/
theorem unbroken_iff {record : PyJson} :
    Unbroken record ↔ ∀ point ∈ record.render, isLineEnd point = false := by
  have holds := PyJson.holds_render record
  constructor
  · intro unbroken point member
    rw [Bool.eq_false_iff, ne_eq, isLineEnd_iff (holds.printable point member)]
    intro separator
    have high : 0x80 ≤ point.ord := by
      rcases separator with isPoint | isPoint | isPoint
      all_goals omega
    exact unbroken point ((holds.same point high).mp member) separator
  · intro inside point member separator
    have high : 0x80 ≤ point.ord := by
      rcases separator with isPoint | isPoint | isPoint
      all_goals omega
    have rendered := (holds.same point high).mpr member
    have notEnd := inside point rendered
    rw [(isLineEnd_iff (holds.printable point rendered)).mpr separator] at notEnd
    cases notEnd

/-- The lines that an importer reads are the records exactly when no record is
broken. -/
theorem mapM_splitLines_iff
    (records : List JsonDocument)
    (readable : ∀ record ∈ records, JsonDecoder.Readable interpreter.nesting record.value) :
    ((splitLines (jsonlText (records.map fun record => record.value))).filter
        fun line => line ≠ []).mapM (loadsImported interpreter) =
      .ok (records.map fun record => record.value) ↔
        ∀ record ∈ records, Unbroken record.value := by
  induction records with
  | nil => simp [jsonlText, splitLines, splitLinesFrom, pure, Except.pure]
  | cons record records inductionHypothesis =>
      obtain ⟨readableRecord, readableRest⟩ := List.forall_mem_cons.mp readable
      have text : jsonlText ((record :: records).map fun record => record.value) =
          record.value.render ++ .scalar '\n' ::
            jsonlText (records.map fun record => record.value) := by
        simp [jsonlText]
      rw [List.forall_mem_cons, text, splitLines]
      rcases exists_break record.value.render with inside | ⟨first, point, rest, shape, inside, ends⟩
      · -- The record is one line, and the other lines are those of the other records.
        have loaded := PyJson.loads_render record.canonical readableRecord
        have nonempty : record.value.render ≠ [] := by
          intro empty
          rw [empty] at loaded
          cases loaded
        have isLoaded : loadsImported interpreter record.value.render = .ok record.value := by
          rw [loadsImported, Checks.mapError_eq_ok, loaded]
        rw [splitLinesFrom_append [] inside, List.nil_append,
          splitLinesFrom_lineEnd _ (by decide) (by decide), List.filter_cons_of_pos (by simpa),
          List.mapM_cons, isLoaded, Checks.ok_bind, ← splitLines]
        have rest := inductionHypothesis readableRest
        simp only [Checks.bind_eq_ok, Checks.pure_eq_ok, List.map_cons, List.cons.injEq, true_and,
          exists_eq_right, rest]
        exact ⟨fun unbroken => ⟨unbroken_iff.mpr inside, unbroken⟩, fun both => both.2⟩
      · -- The first line ends inside of a string of the record.
        have member : point ∈ record.value.render := by
          rw [shape]
          simp
        have printable := (PyJson.holds_render record.value).printable point member
        have separator := (isLineEnd_iff printable).mp ends
        obtain ⟨c, rfl, -, -, -, notReturn, notValue⟩ := separator_spec separator
        have nonempty : first ≠ [] := by
          rintro rfl
          obtain ⟨state, read, -⟩ := PyJson.exists_reads_start record.canonical readableRecord
          have started : JsonDecoder.step interpreter.nesting JsonDecoder.start (.scalar c) =
              .error .decode := notValue _
          rw [shape, List.nil_append, JsonDecoder.run_cons, started] at read
          cases read
        have notLoaded : ∀ value, loadsImported interpreter first ≠ .ok value := by
          intro value isLoaded
          rw [loadsImported, Checks.mapError_eq_ok] at isLoaded
          exact not_loads_before_separator record.canonical readableRecord shape separator isLoaded
        rw [shape, List.append_assoc, List.cons_append, splitLinesFrom_append [] inside,
          List.nil_append, splitLinesFrom_lineEnd _ ends (by simpa using notReturn),
          List.filter_cons_of_pos (by simpa), List.mapM_cons]
        constructor
        · intro loaded
          obtain ⟨value, isLoaded, -⟩ := Checks.bind_eq_ok.mp loaded
          exact absurd isLoaded (notLoaded value)
        · rintro ⟨unbroken, -⟩
          have notEnd := unbroken_iff.mp unbroken _ member
          rw [ends] at notEnd
          cases notEnd

/-- Records that were exported as lines are imported as they were if and only if
none of them is broken. -/
theorem importRecordsJsonl_iff
    {records : List JsonDocument}
    {payload : List UInt8}
    (exported : exportRecordsJsonl interpreter (records.map fun record => record.value) =
      .ok payload) :
    importRecordsJsonl interpreter payload = .ok (records.map fun record => record.value) ↔
      ∀ record ∈ records, Unbroken record.value := by
  obtain ⟨valid, few, small, decoded, readable⟩ := exportRecordsJsonl_spec exported
  have sized : checkSize payload = .ok () := Checks.require_eq_ok.mpr small
  rw [importRecordsJsonl, sized, Checks.ok_bind, decoded, ← mapM_splitLines_iff records readable]
  simp only [requireSome, Checks.ok_bind, Checks.bind_eq_ok, Checks.pure_eq_ok,
    Checks.require_eq_ok]
  constructor
  · rintro ⟨loaded, isLoaded, -, -, -, -, rfl⟩
    exact isLoaded
  · intro isLoaded
    refine ⟨_, isLoaded, (), ?_, (), valid, rfl⟩
    rwa [List.length_map]

/-! ### A record with a line separator -/

/-- Sixty-four zeros. -/
def zeroHash : String := "0000000000000000000000000000000000000000000000000000000000000000"

/-- A mapping with the given members. -/
def mapping (members : List (String × PyJson)) : PyJson := .obj (membersOf members)

/-- The members of a record of a metric without data. -/
def emptyMembers (recordId recordHash : String) : List (String × PyJson) :=
  [("report_record_id", .ofText recordId), ("schema_version", .ofText reportSchemaVersion),
    ("organization_id", .ofText "o"), ("marketplace_account_id", .null),
    ("mode", .ofText "ACTUAL"), ("scenario_id", .null),
    ("accounting_view", .ofText "OPERATIONAL"), ("metric_snapshot_id", .ofText "m"),
    ("snapshot_revision", .int 1), ("metric_content_hash", .ofText zeroHash),
    ("evidence_chain_ref", mapping [("id", .ofText "e"), ("version", .int 1)]),
    ("evidence_chain_content_hash", .null), ("state", .ofText "EMPTY"), ("value", .null),
    ("value_type", .null), ("unit", .null), ("currency", .null),
    ("reason_code", .ofText "NO_DATA"), ("expense_boundary", .arr []),
    ("rounding", mapping [("policy_ref", mapping [("id", .ofText "p"), ("version", .int 1),
        ("content_hash", .ofText zeroHash)]),
      ("application_point", .ofText "REPORT_PRESENTATION"),
      ("resolved_mode", .ofText "HALF_UP"), ("resolved_scale", .int 2)]),
    ("freshness", mapping [("state", .ofText "UNKNOWN"),
      ("observed_at", .ofText "2026-01-01T00:00:00Z"), ("deadline", .null)]),
    ("confidence", mapping [("state", .ofText "UNKNOWN"), ("reasons", .arr [])]),
    ("limitations", .arr [.ofText notVerified]), ("publication_state", .ofText "PREVIEW_ONLY"),
    ("generated_at", .ofText "2026-01-01T00:00:00Z"), ("record_hash", .ofText recordHash)]

/-- A value that is a document. -/
structure IsDocument (value : PyJson) : Prop where
  /-- It has a canonical text. -/
  canonical : value.Canonical
  /-- Its floats are written as numbers. -/
  written : JsonDecoder.Written value

/-- The document that a value is. -/
def IsDocument.toDocument (value : PyJson) (document : IsDocument value) : JsonDocument :=
  ⟨⟨value, document.canonical⟩, document.written⟩

theorem isDocument_ofText (text : String) : IsDocument (.ofText text) := ⟨trivial, trivial⟩

theorem isDocument_null : IsDocument .null := ⟨trivial, trivial⟩

theorem isDocument_int (value : Int) : IsDocument (.int value) := ⟨trivial, trivial⟩

theorem isDocument_empty : IsDocument (.arr []) := ⟨trivial, trivial⟩

theorem isDocument_mapping
    {members : List (String × PyJson)}
    (distinct : (members.map Prod.fst).Nodup)
    (values : ∀ member ∈ members, IsDocument member.2) : IsDocument (mapping members) := by
  have parts := canonical_membersOf distinct
    fun member inside => ⟨(values member inside).canonical, (values member inside).written⟩
  exact ⟨parts.1, parts.2⟩

/-- A member of a built mapping is found under its key. -/
theorem get_membersOf
    {members : List (String × PyJson)}
    (document : IsDocument (mapping members))
    {key : String}
    {value : PyJson}
    (listed : (key, value) ∈ members) : PyJson.get (membersOf members) key = value := by
  have present : (PyStr.ofString key, value) ∈ membersOf members :=
    mem_membersOf.mpr ⟨(key, value), listed, rfl⟩
  exact document.canonical.get_eq_of_mem present rfl

/-- A built mapping has the keys that it was built with. -/
theorem hasKeys_membersOf (members : List (String × PyJson)) :
    PyJson.hasKeys (membersOf members) (members.map Prod.fst) = true := by
  rw [PyJson.hasKeys, Bool.and_eq_true, List.all_eq_true, List.all_eq_true]
  constructor
  · intro key listed
    obtain ⟨member, isMember, rfl⟩ := List.mem_map.mp listed
    rw [List.any_eq_true]
    exact ⟨_, mem_membersOf.mpr ⟨member, isMember, rfl⟩, decide_eq_true rfl⟩
  · intro field listed
    obtain ⟨member, isMember, rfl⟩ := mem_membersOf.mp listed
    rw [List.any_eq_true]
    exact ⟨member.1, List.mem_map_of_mem isMember, decide_eq_true rfl⟩

/-- A record without data is a document. -/
theorem isDocument_emptyMembers (recordId recordHash : String) :
    IsDocument (mapping (emptyMembers recordId recordHash)) := by
  have keys : ((emptyMembers recordId recordHash).map Prod.fst).Nodup :=
    show reportFields.Nodup by decide
  have ref : IsDocument (mapping [("id", .ofText "e"), ("version", .int 1)]) :=
    isDocument_mapping (by decide) (by simp [isDocument_ofText, isDocument_int])
  have policyRef : IsDocument (mapping [("id", .ofText "p"), ("version", .int 1),
      ("content_hash", .ofText zeroHash)]) :=
    isDocument_mapping (by simp) (by simp [isDocument_ofText, isDocument_int])
  have rounding : IsDocument (mapping [("policy_ref", mapping [("id", .ofText "p"),
        ("version", .int 1), ("content_hash", .ofText zeroHash)]),
      ("application_point", .ofText "REPORT_PRESENTATION"),
      ("resolved_mode", .ofText "HALF_UP"), ("resolved_scale", .int 2)]) :=
    isDocument_mapping (by simp) (by simp [isDocument_ofText, isDocument_int, policyRef])
  have freshness : IsDocument (mapping [("state", .ofText "UNKNOWN"),
      ("observed_at", .ofText "2026-01-01T00:00:00Z"), ("deadline", .null)]) :=
    isDocument_mapping (by simp) (by simp [isDocument_ofText, isDocument_null])
  have confidence : IsDocument (mapping [("state", .ofText "UNKNOWN"), ("reasons", .arr [])]) :=
    isDocument_mapping (by simp) (by simp [isDocument_ofText, isDocument_empty])
  have limitations : IsDocument (.arr [.ofText notVerified]) :=
    ⟨⟨trivial, trivial⟩, trivial, trivial⟩
  refine isDocument_mapping keys ?_
  simp only [emptyMembers, List.forall_mem_cons]
  simp [isDocument_ofText, isDocument_null, isDocument_int, isDocument_empty, ref, rounding,
    freshness, confidence, limitations]

/-- A record of a metric without data. -/
def emptyRecord (recordId recordHash : String) : JsonDocument :=
  IsDocument.toDocument (mapping (emptyMembers recordId recordHash))
    (isDocument_emptyMembers recordId recordHash)

/-- The record whose identifier ends with U+2028. -/
def brokenRecord : JsonDocument :=
  emptyRecord "r\u2028" "d326daf36d83320920d0a91cf6698a2d3be14fd2769ff260ec6cf55da7d0903f"

/-- An interpreter with little room. -/
def smallInterpreter : Interpreter := ⟨16, le_refl 16⟩

theorem exists_export_broken :
    ∃ payload, exportRecordsJsonl smallInterpreter
      ([brokenRecord].map fun record => record.value) = .ok payload :=
  Checks.exists_eq_ok _ (by decide +kernel)

/-- The lines of a broken record. -/
theorem importRecordsJsonl_iff_broken :
    ∃ payload, exportRecordsJsonl smallInterpreter
        ([brokenRecord].map fun record => record.value) = .ok payload ∧
      (importRecordsJsonl smallInterpreter payload =
          .ok ([brokenRecord].map fun record => record.value) ↔
        ∀ record ∈ [brokenRecord], Unbroken record.value) := by
  obtain ⟨payload, exported⟩ := exists_export_broken
  exact ⟨payload, exported, importRecordsJsonl_iff exported⟩

/-- A record with a line separator is exported and not imported. -/
theorem importRecordsJsonl_ne_broken :
    ∃ payload, exportRecordsJsonl smallInterpreter
        ([brokenRecord].map fun record => record.value) = .ok payload ∧
      importRecordsJsonl smallInterpreter payload ≠
        .ok ([brokenRecord].map fun record => record.value) := by
  obtain ⟨payload, exported⟩ := exists_export_broken
  refine ⟨payload, exported, fun imported => ?_⟩
  have unbroken := (importRecordsJsonl_iff exported).mp imported brokenRecord List.mem_cons_self
  have holdsSeparator : brokenRecord.value.points.any (fun point => point.ord = 0x2028) = true := by
    decide +kernel
  obtain ⟨point, member, isSeparator⟩ := List.any_eq_true.mp holdsSeparator
  exact unbroken point member (.inr (.inl (of_decide_eq_true isSeparator)))

end Reporting
end QuantumAnalytics
