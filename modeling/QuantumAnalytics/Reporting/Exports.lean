import QuantumAnalytics.Reporting.Records

/-!
# Exports of report records

The bundle of records of one organization with its digest, and the lines of
records. Importers read what exporters wrote and check it again.
-/

namespace QuantumAnalytics
namespace Reporting

/-- `EXPORT_SCHEMA_VERSION`. -/
def exportSchemaVersion : String := "quantum-report-export-v1"

/-- `MAX_EXPORT_RECORDS`. -/
def maxExportRecords : Nat := 10000

/-- `MAX_EXPORT_BYTES`. -/
def maxExportBytes : Nat := 10000000

/-- `_BUNDLE_FIELDS`. -/
def bundleFields : List String :=
  ["schema_version", "bundle_id", "organization_id", "mode", "scenario_id", "generated_at",
    "record_count", "records", "bundle_hash"]

variable (interpreter : Interpreter)

/-- `record[key]` of a record that is a mapping. -/
def memberOf (key : String) : PyJson → PyJson
  | .obj fields => PyJson.get fields key
  | _ => .null

/-- The loop of `_validate_record_collection`, with the ids that it has seen. -/
def validateRecords : List PyJson → List PyJson → Result Unit
  | _, [] => .ok ()
  | seen, record :: records => do
      validateReportRecord interpreter record
      let recordId := memberOf "report_record_id" record
      check (seen.any (PyJson.pyEq recordId) = false) .exportRecordDuplicate
      validateRecords (recordId :: seen) records

/-- `_validate_record_collection`. -/
def validateRecordCollection (records : List PyJson) : Result Unit :=
  validateRecords interpreter [] records

/-- The records after `_clone_json`, checked as a collection. -/
def materialize (records : List PyJson) : Result (List PyJson) := do
  let materialized ← records.mapM (cloneJson interpreter)
  check (materialized.length ≤ maxExportRecords) .exportRecordLimitExceeded
  validateRecordCollection interpreter materialized
  return materialized

/-- `len(payload) <= MAX_EXPORT_BYTES`, or `EXPORT_BYTE_LIMIT_EXCEEDED`. -/
def checkSize (payload : List UInt8) : Result Unit :=
  check (payload.length ≤ maxExportBytes) .exportByteLimitExceeded

/-! ### The bundle -/

/-- A time of generation, given as a `datetime` or as text. -/
inductive GeneratedAt
  | datetime (time : DateTime)
  | text (value : PyStr)

/-- `_generated_at`. -/
def GeneratedAt.read : GeneratedAt → Result PyJson
  | .datetime time => do
      check (time.isAware = true) .reportTimestampInvalid
      return .ofText time.isoformat
  | .text value => do
      check ((PyJson.str value).isDatetime = true) .reportTimestampInvalid
      return .str value

/-- The member of the records is the same in all of them. -/
def isUniform (key : String) (records : List PyJson) : Bool :=
  records.all fun record =>
    records.head?.all fun first => PyJson.pyEq (memberOf key record) (memberOf key first)

/-- The bundle of records, before its digest is known. -/
def bundleMembers (bundleId generatedAt first : PyJson) (records : List PyJson)
    (bundleHash : String) : List (String × PyJson) :=
  [("schema_version", .ofText exportSchemaVersion), ("bundle_id", bundleId),
    ("organization_id", memberOf "organization_id" first), ("mode", memberOf "mode" first),
    ("scenario_id", memberOf "scenario_id" first), ("generated_at", generatedAt),
    ("record_count", .int records.length), ("records", .arr records),
    ("bundle_hash", .ofText bundleHash)]

/-- The members of a mapping in key order. -/
def membersOf (members : List (String × PyJson)) : PyObject :=
  PyJson.sortFields (members.map fun member => (PyStr.ofString member.1, member.2))

/-- The digest of a bundle, whose failure is a mismatch. -/
def bundleHash (bundle : PyObject) : Result String :=
  match canonicalHash interpreter bundle "bundle_hash" with
  | .error (.reporting _) => .error (.reporting .exportHashMismatch)
  | result => result

/-- The header of a bundle. -/
def checkBundleHeader (bundle : PyObject) : Result Unit := do
  check ((PyJson.get bundle "schema_version").isText exportSchemaVersion = true)
    .exportSchemaVersionUnsupported
  check ((PyJson.get bundle "bundle_id").isNonemptyString = true) .exportBundleMalformed
  check ((PyJson.get bundle "organization_id").isNonemptyString = true) .exportBundleMalformed
  check ((PyJson.get bundle "generated_at").isDatetime = true) .exportTimestampInvalid
  checkMode bundle .exportModeMixed .exportModeMixed

/-- The records of a bundle and their number. -/
def bundleRecords (bundle : PyObject) : Result (List PyJson) :=
  match PyJson.get bundle "records" with
  | .arr records => do
      check (records ≠ []) .exportEmpty
      check (records.length ≤ maxExportRecords) .exportRecordLimitExceeded
      check ((PyJson.get bundle "record_count").isIntWith (fun count => count = records.length) =
        true) .exportCountMismatch
      return records
  | _ => .error (.reporting .exportEmpty)

/-- The owner of a record is that of the bundle. -/
def checkOwner (bundle : PyObject) (record : PyJson) : Result Unit := do
  check (PyJson.pyEq (memberOf "organization_id" record) (PyJson.get bundle "organization_id") =
    true) .exportTenantMixed
  check (PyJson.pyEq (memberOf "mode" record) (PyJson.get bundle "mode") = true ∧
    PyJson.pyEq (memberOf "scenario_id" record) (PyJson.get bundle "scenario_id") = true)
    .exportModeMixed

/-- `validate_export_bundle`. -/
def validateExportBundle (bundle : PyJson) : Result Unit := do
  let fields ← checkMapping bundle bundleFields .exportBundleMalformed
  checkBundleHeader fields
  let records ← bundleRecords fields
  let expected ← bundleHash interpreter fields
  check ((PyJson.get fields "bundle_hash").isHash = true ∧
    (PyJson.get fields "bundle_hash").isText expected = true) .exportHashMismatch
  validateRecordCollection interpreter records
  forM records (checkOwner fields)

/-- `build_export_bundle`. -/
def buildExportBundle (records : List PyJson) (bundleId : PyJson) (generatedAt : GeneratedAt) :
    Result PyJson := do
  check (bundleId.isNonemptyString = true) .exportBundleIdInvalid
  let materialized ← records.mapM (cloneJson interpreter)
  match materialized with
  | [] => .error (.reporting .exportEmpty)
  | first :: rest => do
      check ((first :: rest).length ≤ maxExportRecords) .exportRecordLimitExceeded
      validateRecordCollection interpreter (first :: rest)
      check (isUniform "organization_id" (first :: rest) = true) .exportTenantMixed
      check (isUniform "mode" (first :: rest) = true ∧
        isUniform "scenario_id" (first :: rest) = true) .exportModeMixed
      let time ← generatedAt.read
      let unsigned := membersOf (bundleMembers bundleId time first (first :: rest) "")
      let digest ← canonicalHash interpreter unsigned "bundle_hash"
      let bundle := .obj (membersOf (bundleMembers bundleId time first (first :: rest) digest))
      validateExportBundle interpreter bundle
      return bundle

/-- `export_bundle_json`. -/
def exportBundleJson (bundle : PyJson) : Result (List UInt8) := do
  validateExportBundle interpreter bundle
  let payload ← encode (← canonicalJson interpreter bundle)
  checkSize payload
  return payload

/-- `json.loads` in an importer, where a decode error has a code. -/
def loadsImported (text : PyStr) : Result PyJson :=
  (PyJson.loads interpreter text).mapError fun
    | .decode => .reporting .exportJsonInvalid
    | .value => .value
    | .recursion => .recursion

/-- `import_bundle_json`. -/
def importBundleJson (payload : List UInt8) : Result PyJson := do
  checkSize payload
  let text ← requireSome (PyStr.decode? payload) (.reporting .exportJsonInvalid)
  let bundle ← loadsImported interpreter text
  validateExportBundle interpreter bundle
  return bundle

/-! ### Lines of records -/

/-- The ends of lines other than a carriage return before a line feed. -/
def isLineEnd (point : CodePoint) : Bool :=
  [0x0a, 0x0b, 0x0c, 0x0d, 0x1c, 0x1d, 0x1e, 0x85, 0x2028, 0x2029].contains point.ord

/-- `text.splitlines()`, with the line that has been read so far. -/
def splitLinesFrom : PyStr → PyStr → List PyStr
  | line, [] => if line = [] then [] else [line]
  | line, .scalar '\r' :: .scalar '\n' :: text => line :: splitLinesFrom [] text
  | line, point :: text =>
      if isLineEnd point then line :: splitLinesFrom [] text
      else splitLinesFrom (line ++ [point]) text

/-- `text.splitlines()`. -/
def splitLines (text : PyStr) : List PyStr := splitLinesFrom [] text

/-- `export_records_jsonl`. -/
def exportRecordsJsonl (records : List PyJson) : Result (List UInt8) := do
  let materialized ← materialize interpreter records
  if materialized = [] then return []
  else do
    let lines ← materialized.mapM (canonicalJson interpreter)
    let payload ← encode (lines.flatMap fun line => line ++ [.scalar '\n'])
    checkSize payload
    return payload

/-- `import_records_jsonl`. -/
def importRecordsJsonl (payload : List UInt8) : Result (List PyJson) := do
  checkSize payload
  let text ← requireSome (PyStr.decode? payload) (.reporting .exportJsonInvalid)
  let records ← ((splitLines text).filter fun line => line ≠ []).mapM (loadsImported interpreter)
  check (records.length ≤ maxExportRecords) .exportRecordLimitExceeded
  validateRecordCollection interpreter records
  return records

end Reporting
end QuantumAnalytics
