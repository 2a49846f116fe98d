import QuantumAnalytics.Ingestion.CsvWriter
import Mathlib.Data.Set.List
import QuantumAnalytics.Reporting.Lines

/-!
# CSV exports of records

A row repeats columns of a record next to its canonical JSON. The importer
reads the JSON and compares the columns with those of the record that it
found. The reader of rows has a limit on the length of a field, and the writer
has none.
-/

namespace QuantumAnalytics
namespace Reporting

/-! ### Columns -/

/-- `_CSV_FIELDS`. -/
def csvFields : List String :=
  ["report_record_id", "organization_id", "marketplace_account_id", "mode", "scenario_id",
    "accounting_view", "metric_snapshot_id", "state", "value", "currency", "unit",
    "evidence_chain_id", "evidence_chain_version", "evidence_chain_content_hash",
    "publication_state", "record_hash", "record_json"]

/-- `"" if value is None else str(value)` of a value without parts. No column of a valid
record holds a float, a list or a mapping. -/
def cellText? : PyJson → Option PyStr
  | .null => some []
  | .bool value => some (PyStr.ofString (if value then "True" else "False"))
  | .int value => some (PyStr.ofChars value.repr.toList)
  | .str text => some text
  | _ => none

/-- The text may be read as a formula, or starts with a blank that ends a cell. -/
def isFormula (text : PyStr) : Bool :=
  let candidate := text.dropWhile fun point =>
    [CodePoint.scalar ' ', .scalar '\t', .scalar '\r', .scalar '\n'].contains point
  (candidate.head?.any fun point =>
      [CodePoint.scalar '=', .scalar '+', .scalar '-', .scalar '@'].contains point) ||
    text.head?.any fun point =>
      [CodePoint.scalar '\t', .scalar '\r', .scalar '\n'].contains point

/-- The text of a cell, after an apostrophe when it may be read as a formula. -/
def guardText (text : PyStr) : PyStr :=
  if isFormula text then PyStr.ofString "'" ++ text else text

/-- `_csv_safe_cell`. -/
def csvSafeCell (value : PyJson) : Option PyStr := (cellText? value).map guardText

/-- The columns of a record other than its canonical JSON. -/
def csvColumns (record : PyJson) : List (String × PyJson) :=
  let ref := memberOf "evidence_chain_ref" record
  [("report_record_id", memberOf "report_record_id" record),
    ("organization_id", memberOf "organization_id" record),
    ("marketplace_account_id", memberOf "marketplace_account_id" record),
    ("mode", memberOf "mode" record), ("scenario_id", memberOf "scenario_id" record),
    ("accounting_view", memberOf "accounting_view" record),
    ("metric_snapshot_id", memberOf "metric_snapshot_id" record),
    ("state", memberOf "state" record), ("value", memberOf "value" record),
    ("currency", memberOf "currency" record), ("unit", memberOf "unit" record),
    ("evidence_chain_id", memberOf "id" ref), ("evidence_chain_version", memberOf "version" ref),
    ("evidence_chain_content_hash", memberOf "evidence_chain_content_hash" record),
    ("publication_state", memberOf "publication_state" record),
    ("record_hash", memberOf "record_hash" record)]

/-- `_csv_projection`, whose columns have texts in a valid record. -/
def csvProjection (record : PyJson) : Result (List (String × PyStr)) :=
  (csvColumns record).mapM fun column => do
    return (column.1, ← requireSome (csvSafeCell column.2) .typeError)

variable (interpreter : Interpreter)

/-! ### The exporter and the importer -/

/-- The cells of a record in the order of the columns. -/
def csvCells (record : PyJson) : Result (List PyStr) := do
  let projection ← csvProjection record
  let recordJson ← canonicalJson interpreter record
  return projection.map Prod.snd ++ [recordJson]

/-- The text of a header and rows. -/
def csvText (rows : List (List PyStr)) : PyStr :=
  (csvFields.map PyStr.ofString :: rows).flatMap (CsvWriter.rowText .scalar)

/-- `export_records_csv`. -/
def exportRecordsCsv (records : List PyJson) : Result (List UInt8) := do
  let materialized ← materialize interpreter records
  let rows ← materialized.mapM (csvCells interpreter)
  let payload ← encode (csvText rows)
  checkSize payload
  return payload

/-- `json.loads(row["record_json"])`, where a decode error has a code and a missing text is a
`TypeError`. -/
def loadsCell (cell : Option String) : Result PyJson := do
  let text ← requireSome cell .typeError
  (PyJson.loads interpreter (PyStr.ofString text)).mapError fun
    | .decode => .reporting .exportCsvInvalid
    | .value => .value
    | .recursion => .recursion

/-- The record of a row. -/
def importRow (fields : List String) : Result PyJson := do
  check (fields.length ≤ csvFields.length) .exportCsvInvalid
  let row := csvRow csvFields fields
  let record ← loadsCell interpreter (row.get? "record_json")
  validateReportRecord interpreter record
  let projection ← csvProjection record
  check (∀ column ∈ projection, (row.get? column.1).map PyStr.ofString = some column.2)
    .exportCsvProjectionMismatch
  return record

/-- The loop over the rows, with the number of lines as fuel. -/
def importRows : Nat → List (List Char) → Result (List PyJson)
  | 0, _ => .ok []
  | fuel + 1, lines =>
      match CsvParser.start.nextRecord lines with
      | .error () => .error (.reporting .exportCsvInvalid)
      | .ok none => .ok []
      | .ok (some ([], rest)) => importRows fuel rest
      | .ok (some (fields, rest)) => do
          let record ← importRow interpreter fields
          let records ← importRows fuel rest
          return record :: records

/-- `import_records_csv`; the header is read where a `csv.Error` has no code. -/
def importRecordsCsv (payload : List UInt8) : Result (List PyJson) := do
  checkSize payload
  let text ← requireSome (String.fromUTF8? ⟨payload.toArray⟩) (.reporting .exportCsvInvalid)
  match CsvParser.start.nextRecord (csvLines text.toList) with
  | .error () => .error .csv
  | .ok none => .error (.reporting .exportCsvHeaderInvalid)
  | .ok (some (header, lines)) => do
      check (header = csvFields) .exportCsvHeaderInvalid
      let records ← importRows interpreter lines.length lines
      check (records.length ≤ maxExportRecords) .exportRecordLimitExceeded
      validateRecordCollection interpreter records
      return records

/-! ### Cells -/

variable {interpreter}

theorem csvProjection_eq_ok
    {record : PyJson}
    {projection : List (String × PyStr)} :
    csvProjection record = .ok projection ↔
      List.Forall₂ (fun column named => named.1 = column.1 ∧
        csvSafeCell column.2 = some named.2) (csvColumns record) projection := by
  rw [csvProjection, Checks.mapM_eq_ok]
  apply iff_of_eq
  congr 1
  funext column named
  apply propext
  simp only [Checks.bind_eq_ok, Checks.requireSome_eq_ok, Checks.pure_eq_ok]
  constructor
  · rintro ⟨text, isText, rfl⟩
    exact ⟨rfl, isText⟩
  · rintro ⟨isName, isText⟩
    exact ⟨named.2, isText, Prod.ext isName.symm rfl⟩

/-! ### Columns of valid records -/

/-- The value has a text in a cell. -/
def HasText (value : PyJson) : Prop := (cellText? value).isSome = true

theorem hasText_of_isTextWith
    {holds : String → Bool}
    {value : PyJson}
    (isText : value.isTextWith holds = true) : HasText value := by
  obtain ⟨text, rfl, -⟩ := PyJson.exists_text_of_isTextWith isText
  rfl

theorem hasText_of_isNonemptyString
    {value : PyJson}
    (nonempty : value.isNonemptyString = true) : HasText value := by
  obtain ⟨text, rfl, -⟩ := PyJson.exists_str_of_isNonemptyString nonempty
  rfl

theorem hasText_of_isAllowedString
    {allowed : List String}
    {value : PyJson}
    (isAllowed : value.isAllowedString allowed = true) : HasText value := by
  obtain ⟨text, -, rfl⟩ := PyJson.exists_text_of_isAllowedString isAllowed
  rfl

theorem hasText_of_isIntWith
    {holds : Int → Bool}
    {value : PyJson}
    (isInt : value.isIntWith holds = true) : HasText value := by
  obtain ⟨n, rfl, -⟩ := PyJson.exists_int_of_isIntWith isInt
  rfl

theorem hasText_of_isNone
    {value : PyJson}
    (isNone : value.isNone = true) : HasText value := by
  cases value with
  | null => rfl
  | _ => cases isNone

theorem hasText_of_checkMember
    {allowed : List String}
    {value : PyJson}
    {code : ReportingErrorCode}
    (accepted : checkMember value allowed code = .ok ()) : HasText value := by
  simp only [checkMember, ↓Checks.bind_done_eq_ok, Checks.require_eq_ok] at accepted
  exact hasText_of_isAllowedString accepted.2

/-- The value, the unit and the currency of a record. -/
theorem hasText_of_checkValue
    {fields : PyObject}
    (accepted : checkValue fields = .ok ()) :
    HasText (PyJson.get fields "value") ∧ HasText (PyJson.get fields "unit") ∧
      HasText (PyJson.get fields "currency") := by
  rw [checkValue] at accepted
  split_ifs at accepted with isValid
  · simp only [↓Checks.bind_done_eq_ok, Checks.require_eq_ok] at accepted
    obtain ⟨-, unit, -, typed⟩ := accepted
    have isUnit := hasText_of_checkMember unit
    rw [isTyped] at typed
    split_ifs at typed with isMoney isInteger
    · simp only [Bool.and_eq_true] at typed
      exact ⟨hasText_of_isTextWith typed.1.1, isUnit, hasText_of_isTextWith typed.2⟩
    · simp only [Bool.and_eq_true] at typed
      exact ⟨hasText_of_isIntWith typed.1.1, isUnit, hasText_of_isNone typed.2⟩
    · simp only [Bool.and_eq_true] at typed
      exact ⟨hasText_of_isTextWith typed.1.1, isUnit, hasText_of_isNone typed.2⟩
  · simp only [↓Checks.bind_done_eq_ok, Checks.require_eq_ok, List.all_cons, Bool.and_eq_true]
      at accepted
    obtain ⟨⟨value, -, unit, currency, -⟩, -⟩ := accepted
    exact ⟨hasText_of_isNone value, hasText_of_isNone unit, hasText_of_isNone currency⟩

/-- Every column of a valid record has a text. -/
theorem exists_csvProjection
    {record : PyJson}
    (valid : validateReportRecord interpreter record = .ok ()) :
    ∃ projection, csvProjection record = .ok projection := by
  simp only [validateReportRecord, ↓Checks.bind_done_eq_ok, Checks.bind_eq_ok, checkMapping_eq_ok,
    checkHash, Checks.require_eq_ok, checkIdentity, checkMode, checkEvidenceRef,
    checkPublication, List.all_cons, Bool.and_eq_true] at valid
  obtain ⟨fields, ⟨rfl, -⟩, ⟨-, ⟨recordId, organization, snapshot, -, -⟩, -, -⟩,
    ⟨mode, actual, scenario⟩, account, view, state, publication, -,
    ⟨ref, ⟨isRef, -⟩, refId, refVersion⟩, ⟨limitations, -, chainHash⟩, value, -, -, -, -, -,
    stated, -⟩ := valid
  have hasScenario : HasText (PyJson.get fields "scenario_id") := by
    obtain ⟨text, listed, isText⟩ := PyJson.exists_text_of_isAllowedString mode
    rw [List.mem_pair] at listed
    rcases listed with rfl | rfl
    · exact hasText_of_isNone (actual (PyJson.isText_iff.mpr isText))
    · exact hasText_of_isNonemptyString (scenario (PyJson.isText_iff.mpr isText))
  have hasAccount : HasText (PyJson.get fields "marketplace_account_id") := by
    rw [isNoneOr, Bool.or_eq_true] at account
    exact account.elim hasText_of_isNone hasText_of_isNonemptyString
  have hasChainHash : HasText (PyJson.get fields "evidence_chain_content_hash") := by
    split_ifs at chainHash
    · exact hasText_of_isNone (Checks.require_eq_ok.mp chainHash).1
    · exact hasText_of_isTextWith (Checks.require_eq_ok.mp chainHash).1
  obtain ⟨hasValue, hasUnit, hasCurrency⟩ := hasText_of_checkValue value
  have columns : ∀ column ∈ csvColumns (.obj fields), HasText column.2 := by
    simp only [csvColumns, memberOf, isRef, List.forall_mem_cons]
    exact ⟨hasText_of_isNonemptyString recordId, hasText_of_isNonemptyString organization,
      hasAccount, hasText_of_isAllowedString mode, hasScenario, hasText_of_checkMember view,
      hasText_of_isNonemptyString snapshot, hasText_of_checkMember state, hasValue, hasCurrency,
      hasUnit, hasText_of_isNonemptyString refId, hasText_of_isIntWith refVersion, hasChainHash,
      hasText_of_checkMember publication, hasText_of_isTextWith stated,
      fun column listed => absurd listed List.not_mem_nil⟩
  rw [csvProjection, Checks.exists_mapM_eq_ok_iff]
  intro column listed
  obtain ⟨text, isText⟩ := Option.isSome_iff_exists.mp (columns column listed)
  refine ⟨(column.1, guardText text), ?_⟩
  rw [csvSafeCell, isText]
  rfl

/-- The columns of a row have the names of the header. -/
theorem names_of_csvProjection
    {record : PyJson}
    {projection : List (String × PyStr)}
    (projected : csvProjection record = .ok projection) :
    projection.map Prod.fst ++ ["record_json"] = csvFields := by
  have same : projection.map Prod.fst = (csvColumns record).map Prod.fst := by
    have each := csvProjection_eq_ok.mp projected
    generalize csvColumns record = columns at each
    clear projected
    induction each with
    | nil => rfl
    | cons named _ inductionHypothesis =>
        rw [List.map_cons, List.map_cons, named.1, inductionHypothesis]
  rw [same]
  rfl

theorem csvCells_eq_ok
    {record : PyJson}
    {cells : List PyStr} :
    csvCells interpreter record = .ok cells ↔
      ∃ projection, csvProjection record = .ok projection ∧
        PyJson.checkEncodable interpreter.nesting record = .ok () ∧
        projection.map Prod.snd ++ [record.render] = cells := by
  simp only [csvCells, Checks.bind_eq_ok, canonicalJson_eq_ok, dumps_eq_ok, Checks.pure_eq_ok]
  constructor
  · rintro ⟨projection, projected, _, ⟨encodable, rfl⟩, rfl⟩
    exact ⟨projection, projected, encodable, rfl⟩
  · rintro ⟨projection, projected, encodable, rfl⟩
    exact ⟨projection, projected, _, ⟨encodable, rfl⟩, rfl⟩

theorem names_nodup : csvFields.Nodup := by decide

/-- A column of a row has the text of its cell. -/
theorem get?_csvRow
    {cells : List PyStr}
    {fields : List String}
    (isRow : fields.map PyStr.ofString = cells)
    (length : fields.length = csvFields.length)
    {column : String × PyStr}
    (listed : column ∈ csvFields.zip cells) :
    ((csvRow csvFields fields).get? column.1).map PyStr.ofString = some column.2 := by
  have entries : (csvRow csvFields fields).entries = csvFields.zip fields := by
    have distinct : ((Dict.empty : RawPayload).keys ++
        (csvFields.zip fields).map Prod.fst).Nodup := by
      rw [List.map_fst_zip length.ge]
      exact names_nodup
    rw [csvRow, Dict.entries_foldl_set Prod.fst Prod.snd distinct]
    simp
  rw [← isRow, List.zip_map_right] at listed
  obtain ⟨entry, isEntry, rfl⟩ := List.mem_map.mp listed
  rw [← entries] at isEntry
  rw [Prod.map_fst, id_eq, Dict.get?_of_mem isEntry]
  rfl

/-- The row of a record is imported as the record. -/
theorem importRow_of_csvCells
    {record : JsonDocument}
    {cells : List PyStr}
    {fields : List String}
    (valid : validateReportRecord interpreter record.value = .ok ())
    (isCells : csvCells interpreter record.value = .ok cells)
    (isRow : fields.map PyStr.ofString = cells) :
    importRow interpreter fields = .ok record.value := by
  obtain ⟨projection, projected, encodable, rfl⟩ := csvCells_eq_ok.mp isCells
  have names := names_of_csvProjection projected
  have columns : csvFields.zip (projection.map Prod.snd ++ [record.value.render]) =
      projection ++ [("record_json", record.value.render)] := by
    have both : (projection.map Prod.fst).zip (projection.map Prod.snd) = projection :=
      (List.zip_of_prod rfl rfl).symm
    rw [← names, List.zip_append (by simp), both]
    rfl
  have length : fields.length = csvFields.length := by
    rw [← names, ← List.length_map PyStr.ofString, isRow]
    simp
  have lookup := fun column listed => @get?_csvRow _ fields isRow length column listed
  rw [columns, List.forall_mem_append] at lookup
  obtain ⟨ofColumns, ofJson⟩ := lookup
  obtain ⟨text, isJson, isText⟩ := Option.map_eq_some_iff.mp (ofJson _ List.mem_cons_self)
  have readable := JsonDecoder.readable_of_checkEncodable record.value record.written encodable
  have loaded : loadsCell interpreter ((csvRow csvFields fields).get? "record_json") =
      .ok record.value := by
    rw [isJson, loadsCell, requireSome, Checks.ok_bind, Checks.mapError_eq_ok, isText]
    exact PyJson.loads_render record.canonical readable
  simp only [importRow, ↓Checks.bind_done_eq_ok, Checks.bind_eq_ok, Checks.require_eq_ok,
    Checks.pure_eq_ok]
  exact ⟨(), length.le, record.value, loaded, valid, projection, projected, ofColumns, rfl⟩

/-! ### Rows -/

/-- A row that is read is imported before the rows after it. -/
theorem importRows_succ
    {fuel : Nat}
    {lines rest : List (List Char)}
    {field : String}
    {fields : List String}
    (read : CsvParser.start.nextRecord lines = .ok (some (field :: fields, rest))) :
    importRows interpreter (fuel + 1) lines = do
      let record ← importRow interpreter (field :: fields)
      let records ← importRows interpreter fuel rest
      return record :: records := by
  rw [importRows, read]

/-- The cells of a record are two and more. -/
theorem exists_cells
    {record : PyJson}
    {row : List (List Char)}
    (isCells : csvCells interpreter record = .ok (row.map PyStr.ofChars)) :
    ∃ first second others, row = first :: second :: others := by
  obtain ⟨projection, projected, -, isRow⟩ := csvCells_eq_ok.mp isCells
  have names := congrArg List.length (names_of_csvProjection projected)
  have lengths := congrArg List.length isRow
  rw [List.length_append, List.length_map] at names lengths
  rw [List.length_map] at lengths
  have long : row.length = 17 := lengths.symm.trans names
  cases row with
  | nil => cases long
  | cons first row =>
      cases row with
      | nil => cases long
      | cons second others => exact ⟨first, second, others, rfl⟩

/-- The rows of records are imported as the records exactly when every cell fits the limit. -/
theorem importRows_iff
    {records : List JsonDocument}
    {rows : List (List (List Char))}
    {fuel : Nat}
    (valid : ∀ record ∈ records, validateReportRecord interpreter record.value = .ok ())
    (each : List.Forall₂ (fun record row =>
      csvCells interpreter record.value = .ok (row.map PyStr.ofChars)) records rows)
    (enough : (csvLines (rows.flatMap (CsvWriter.rowText id))).length ≤ fuel) :
    importRows interpreter fuel (csvLines (rows.flatMap (CsvWriter.rowText id))) =
        .ok (records.map fun record => record.value) ↔
      ∀ row ∈ rows, ∀ field ∈ row, field.length ≤ CsvParser.fieldLimit := by
  induction each generalizing fuel with
  | nil =>
      have done : importRows interpreter fuel (csvLines []) = .ok [] := by
        cases fuel with
        | zero => rfl
        | succ fuel => rfl
      simp only [List.flatMap_nil, done, List.map_nil, List.not_mem_nil, false_imp_iff,
        implies_true]
  | @cons record row records rows isCells others inductionHypothesis =>
      rw [List.forall_mem_cons] at valid
      obtain ⟨first, second, more, rfl⟩ := exists_cells isCells
      have read := @CsvParser.nextRecord_rowText (rows.flatMap (CsvWriter.rowText id)) first second
        more
      rw [List.flatMap_cons] at enough ⊢
      rw [List.forall_mem_cons]
      obtain ⟨line, lines, split⟩ := CsvParser.exists_csvLines_eq_cons
        (show CsvWriter.rowText id (first :: second :: more) ++
          rows.flatMap (CsvWriter.rowText id) ≠ [] by simp [CsvWriter.rowText])
      obtain ⟨fuel, rfl⟩ : ∃ less, fuel = less + 1 := by
        refine ⟨fuel - 1, ?_⟩
        rw [split, List.length_cons] at enough
        omega
      by_cases fits : ∀ field ∈ first :: second :: more, field.length ≤ CsvParser.fieldLimit
      · rw [if_pos fits] at read
        have fewer : (csvLines (rows.flatMap (CsvWriter.rowText id))).length ≤ fuel := by
          rw [split] at read enough
          have := CsvParser.length_lt_of_nextRecord read
          omega
        have isRow : ((first :: second :: more).map String.ofList).map PyStr.ofString =
            (first :: second :: more).map PyStr.ofChars := by
          rw [List.map_map]
          apply List.map_congr_left
          intro field _
          rw [Function.comp_apply, PyStr.ofString, String.toList_ofList]
        have isRecord : importRow interpreter
            (String.ofList first :: (second :: more).map String.ofList) = .ok record.value :=
          importRow_of_csvCells valid.1 isCells isRow
        rw [importRows_succ read, isRecord, Checks.ok_bind,
          ← inductionHypothesis valid.2 fewer]
        simp only [Checks.bind_eq_ok, Checks.pure_eq_ok, List.map_cons, List.cons.injEq, true_and,
          exists_eq_right]
        exact ⟨fun imported => ⟨fits, imported⟩, fun both => both.2⟩
      · rw [if_neg fits] at read
        have failed : importRows interpreter (fuel + 1)
            (csvLines (CsvWriter.rowText id (first :: second :: more) ++
              rows.flatMap (CsvWriter.rowText id))) = .error (.reporting .exportCsvInvalid) := by
          rw [importRows, read]
        rw [failed]
        constructor
        · intro imported
          cases imported
        · rintro ⟨fit, -⟩
          exact absurd fit fits

/-! ### Exports and imports -/

/-- An encoding comes from characters and is decoded as these. -/
theorem exists_chars_of_encode
    {text : PyStr}
    {payload : List UInt8}
    (encoded : encode text = .ok payload) :
    ∃ chars, text = PyStr.ofChars chars ∧
      String.fromUTF8? ⟨payload.toArray⟩ = some (String.ofList chars) := by
  rw [encode, Checks.requireSome_eq_ok, PyStr.encode?, Option.map_eq_some_iff] at encoded
  obtain ⟨chars, plain, rfl⟩ := encoded
  exact ⟨chars, PyStr.chars?_eq_some_iff.mp plain, PyStr.fromUTF8?_flatMap chars⟩

/-- Rows of characters are written as characters. -/
theorem csvText_map (rows : List (List (List Char))) :
    csvText (rows.map (List.map PyStr.ofChars)) =
      PyStr.ofChars (CsvWriter.rowText id (csvFields.map String.toList) ++
        rows.flatMap (CsvWriter.rowText id)) := by
  have isMap : PyStr.ofChars = List.map CodePoint.scalar := rfl
  have injective : Function.Injective CodePoint.scalar := fun _ _ => CodePoint.scalar.inj
  have header : csvFields.map PyStr.ofString = (csvFields.map String.toList).map PyStr.ofChars := by
    rw [List.map_map]
    rfl
  rw [csvText, List.flatMap_cons, header, List.flatMap_map, isMap,
    CsvWriter.rowText_map injective, List.map_append, List.map_flatMap]
  congr 2
  funext row
  exact CsvWriter.rowText_map injective row

/-- The characters of rows that are written. -/
theorem exists_rows_of_csvText
    {rows : List (List PyStr)}
    {chars : List Char}
    (written : csvText rows = PyStr.ofChars chars) :
    ∃ plain : List (List (List Char)), rows = plain.map (List.map PyStr.ofChars) ∧
      chars = CsvWriter.rowText id (csvFields.map String.toList) ++
        plain.flatMap (CsvWriter.rowText id) := by
  have isMap : PyStr.ofChars = List.map CodePoint.scalar := rfl
  have inside : ∀ row ∈ rows, ∀ cell ∈ row, cell ∈ Set.range PyStr.ofChars := by
    intro row isRow cell isCell
    rw [isMap, Set.range_list_map]
    intro point isPoint
    have listed : point ∈ csvText rows := List.mem_flatMap.mpr
      ⟨row, List.mem_cons_of_mem _ isRow, CsvWriter.mem_rowText _ isCell isPoint⟩
    rw [written] at listed
    obtain ⟨c, -, rfl⟩ := List.mem_map.mp listed
    exact ⟨c, rfl⟩
  have isRange : rows ∈ Set.range (List.map (List.map PyStr.ofChars)) := by
    rw [Set.range_list_map]
    intro row isRow
    rw [Set.range_list_map]
    exact inside row isRow
  obtain ⟨plain, rfl⟩ := isRange
  exact ⟨plain, rfl, PyStr.ofChars_injective (written.symm.trans (csvText_map plain))⟩

/-! ### Lengths -/

/-- An escape is not shorter than what it stands for. -/
theorem length_lt_renderString (text : PyStr) :
    text.length < (PyJson.renderString text).length := by
  induction text with
  | nil => exact Nat.one_pos
  | cons point text inductionHypothesis =>
      have positive : 0 < (PyJson.escapePoint point).length := by
        cases point with
        | surrogate => exact Nat.one_pos
        | scalar c =>
            rw [PyJson.escapePoint, PyStr.ofChars, List.length_map, Json.escapeChar]
            split_ifs
            all_goals exact Nat.succ_pos _
      rw [PyJson.renderString, List.length_append, List.length_cons]
      omega

/-- The text of a member is a proper part of the text of a mapping. -/
theorem length_render_lt
    {fields : PyObject}
    {field : PyStr × PyJson}
    (listed : field ∈ fields) :
    field.2.render.length < (PyJson.render (.obj fields)).length := by
  have rest : ∀ {fields : PyObject}, field ∈ fields →
      field.2.render.length < (PyJson.renderFields fields).length := by
    intro fields listed
    induction fields with
    | nil => exact absurd listed List.not_mem_nil
    | cons first fields inductionHypothesis =>
        simp only [PyJson.renderFields, List.length_cons, List.length_append]
        rcases List.mem_cons.mp listed with rfl | other
        · omega
        · have := inductionHypothesis other
          omega
  cases fields with
  | nil => exact absurd listed List.not_mem_nil
  | cons first fields =>
      simp only [PyJson.render, List.length_cons, List.length_append]
      rcases List.mem_cons.mp listed with rfl | other
      · omega
      · have := rest other
        omega

/-- A member is missing, or its text is shorter than that of the value. -/
theorem memberOf_cases
    (key : String)
    (value : PyJson) :
    memberOf key value = .null ∨
      (memberOf key value).render.length < value.render.length := by
  cases value with
  | obj fields =>
      rw [memberOf, PyJson.get]
      cases found : fields.find? fun field => field.1 = PyStr.ofString key with
      | none => exact .inl rfl
      | some field => exact .inr (length_render_lt (List.mem_of_find?_eq_some found))
  | _ => exact .inl rfl

/-- The text of a cell is not longer than the canonical text of its value. -/
theorem length_cellText_le
    {value : PyJson}
    {text : PyStr}
    (isText : cellText? value = some text) : text.length ≤ value.render.length := by
  cases value with
  | null =>
      obtain rfl := Option.some.inj isText
      exact Nat.zero_le _
  | bool value =>
      obtain rfl := Option.some.inj isText
      cases value with
      | true => decide
      | false => decide
  | int value =>
      obtain rfl := Option.some.inj isText
      exact le_rfl
  | str text =>
      obtain rfl := Option.some.inj isText
      exact (length_lt_renderString text).le.trans (Nat.le_succ _)
  | float | arr | obj => cases isText

theorem length_csvSafeCell_le
    {value : PyJson}
    {cell : PyStr}
    {bound : Nat}
    (isCell : csvSafeCell value = some cell)
    (part : value = .null ∨ value.render.length < bound) : cell.length ≤ bound := by
  rw [csvSafeCell, Option.map_eq_some_iff] at isCell
  obtain ⟨text, isText, rfl⟩ := isCell
  rcases part with rfl | shorter
  · obtain rfl := Option.some.inj isText
    exact Nat.zero_le _
  · have := length_cellText_le isText
    rw [guardText]
    split_ifs
    · rw [List.length_append]
      have : (PyStr.ofString "'").length = 1 := by decide
      omega
    · omega

/-- The canonical text of a record is the longest of its cells. -/
theorem forall_length_le_iff
    {record : PyJson}
    {cells : List PyStr}
    (isCells : csvCells interpreter record = .ok cells)
    (bound : Nat) :
    (∀ cell ∈ cells, cell.length ≤ bound) ↔ record.render.length ≤ bound := by
  obtain ⟨projection, projected, -, rfl⟩ := csvCells_eq_ok.mp isCells
  rw [List.forall_mem_append, List.forall_mem_singleton]
  refine ⟨fun both => both.2, fun fits => ⟨?_, fits⟩⟩
  have parts : ∀ column ∈ csvColumns record,
      column.2 = .null ∨ column.2.render.length < record.render.length := by
    have ofRef : ∀ key, memberOf key (memberOf "evidence_chain_ref" record) = .null ∨
        (memberOf key (memberOf "evidence_chain_ref" record)).render.length <
          record.render.length := by
      intro key
      rcases memberOf_cases "evidence_chain_ref" record with missing | shorter
      · rw [missing]
        exact .inl rfl
      · exact (memberOf_cases key _).imp_right fun inner => inner.trans shorter
    simp only [csvColumns, List.forall_mem_cons]
    simp [memberOf_cases, ofRef]
  have each := csvProjection_eq_ok.mp projected
  generalize csvColumns record = columns at each parts
  clear projected isCells
  induction each with
  | nil => exact fun cell listed => absurd listed List.not_mem_nil
  | cons isCell _ inductionHypothesis =>
      rw [List.forall_mem_cons] at parts
      rw [List.map_cons, List.forall_mem_cons]
      exact ⟨(length_csvSafeCell_le isCell.2 parts.1).trans fits, inductionHypothesis parts.2⟩

/-! ### Round trips -/

/-- What a successful export promises of its records and its bytes. -/
theorem exportRecordsCsv_spec
    {records : List JsonDocument}
    {payload : List UInt8}
    (exported : exportRecordsCsv interpreter (records.map fun record => record.value) =
      .ok payload) :
    validateRecordCollection interpreter (records.map fun record => record.value) = .ok () ∧
      records.length ≤ maxExportRecords ∧ payload.length ≤ maxExportBytes ∧
      ∃ rows : List (List (List Char)),
        List.Forall₂ (fun record row =>
          csvCells interpreter record.value = .ok (row.map PyStr.ofChars)) records rows ∧
        String.fromUTF8? ⟨payload.toArray⟩ = some (String.ofList
          (CsvWriter.rowText id (csvFields.map String.toList) ++
            rows.flatMap (CsvWriter.rowText id))) := by
  simp only [exportRecordsCsv, materialize, Checks.bind_eq_ok, Checks.pure_eq_ok,
    Checks.require_eq_ok, checkSize] at exported
  obtain ⟨_, ⟨copies, cloned, ⟨⟩, few, ⟨⟩, valid, rfl⟩, rows, isRows, payload, encoded, ⟨⟩, small,
    rfl⟩ := exported
  obtain rfl := eq_of_mapM_cloneJson cloned
  rw [List.length_map] at few
  obtain ⟨chars, written, decoded⟩ := exists_chars_of_encode encoded
  obtain ⟨plain, rfl, rfl⟩ := exists_rows_of_csvText written
  refine ⟨valid, few, small, plain, ?_, decoded⟩
  rw [Checks.mapM_eq_ok, List.forall₂_map_left_iff, List.forall₂_map_right_iff] at isRows
  exact isRows

/-- The header is read before the rows. -/
theorem nextRecord_header (text : List Char) :
    CsvParser.start.nextRecord
        (csvLines (CsvWriter.rowText id (csvFields.map String.toList) ++ text)) =
      .ok (some (csvFields, csvLines text)) := by
  have short : ∀ field ∈ csvFields.map String.toList, field.length ≤ CsvParser.fieldLimit := by
    decide
  have names : (csvFields.map String.toList).map String.ofList = csvFields := by decide
  have read := @CsvParser.nextRecord_rowText text "report_record_id".toList
    "organization_id".toList ((csvFields.drop 2).map String.toList)
  exact (read.trans (if_pos short)).trans
    (congrArg (fun fields => Except.ok (some (fields, csvLines text))) names)

/-- Records that were exported as CSV are imported as they were if and only if the canonical
text of each fits a field of the reader. -/
theorem importRecordsCsv_iff
    {records : List JsonDocument}
    {payload : List UInt8}
    (exported : exportRecordsCsv interpreter (records.map fun record => record.value) =
      .ok payload) :
    importRecordsCsv interpreter payload = .ok (records.map fun record => record.value) ↔
      ∀ record ∈ records, record.value.render.length ≤ CsvParser.fieldLimit := by
  obtain ⟨valid, few, small, rows, each, decoded⟩ := exportRecordsCsv_spec exported
  have sized : checkSize payload = .ok () := Checks.require_eq_ok.mpr small
  have imported := importRows_iff
    (fun record listed => (validateRecords_spec valid).1 _ (List.mem_map_of_mem listed)) each le_rfl
  have lengths : (∀ row ∈ rows, ∀ field ∈ row, field.length ≤ CsvParser.fieldLimit) ↔
      ∀ record ∈ records, record.value.render.length ≤ CsvParser.fieldLimit := by
    clear exported valid few imported decoded
    induction each with
    | nil => simp only [List.not_mem_nil, false_imp_iff, implies_true]
    | cons isCells _ inductionHypothesis =>
        have fits := forall_length_le_iff isCells CsvParser.fieldLimit
        simp only [List.forall_mem_map, PyStr.ofChars, List.length_map] at fits
        rw [List.forall_mem_cons, List.forall_mem_cons, fits, inductionHypothesis]
  rw [importRecordsCsv, sized, Checks.ok_bind, decoded, requireSome, Checks.ok_bind,
    String.toList_ofList, nextRecord_header, ← lengths, ← imported]
  simp only [↓Checks.bind_done_eq_ok, Checks.bind_eq_ok, Checks.pure_eq_ok, Checks.require_eq_ok]
  constructor
  · rintro ⟨-, loaded, isLoaded, -, -, rfl⟩
    exact isLoaded
  · intro isLoaded
    refine ⟨trivial, _, isLoaded, ?_, valid, rfl⟩
    rwa [List.length_map]

end Reporting
end QuantumAnalytics
