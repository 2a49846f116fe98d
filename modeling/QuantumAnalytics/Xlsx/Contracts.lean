import QuantumAnalytics.Foundations.Json
import QuantumAnalytics.Foundations.Sha256

/-!
# Inspection of workbooks

The policy under which a workbook is inspected, with the digest of its content,
and what an inspection reports about a workbook.
-/

namespace QuantumAnalytics

/-- `XlsxInspectionLimits`. -/
structure XlsxInspectionLimits where
  /-- The largest upload. -/
  maxFileBytes : Nat
  /-- The largest number of archive entries. -/
  maxArchiveEntries : Nat
  /-- The largest total size of the entries. -/
  maxTotalUncompressedBytes : Nat
  /-- The largest size of one entry. -/
  maxEntryUncompressedBytes : Nat
  /-- The largest ratio of sizes before and after compression. -/
  maxCompressionRatio : Nat
  /-- The largest XML part. -/
  maxXmlBytes : Nat
  /-- The largest number of rows. -/
  maxRows : Nat
  /-- The largest number of columns. -/
  maxColumns : Nat
  /-- No entry may be larger than all of them together. -/
  entryBounded : maxEntryUncompressedBytes ≤ maxTotalUncompressedBytes

/-- `XlsxSchemaExpectation`. -/
structure XlsxSchemaExpectation where
  /-- The schema. -/
  schemaId : String
  /-- Its version. -/
  schemaVersion : String
  /-- Who approved the schema. -/
  schemaAuthorityReference : String
  /-- Whether the schema holds personal data. -/
  directIdentifiersExpected : Bool
  /-- `XLSX` or `ZIP_XLSX`. -/
  packageKind : String
  /-- The sheet with the data. -/
  sheetName : String
  /-- The number of sheets. -/
  sheetCount : Nat
  /-- The row of the headers. -/
  headerRowIndex : Nat
  /-- The digest of the headers. -/
  headerSha256 : String
  /-- The number of columns. -/
  columnCount : Nat
  /-- The least number of data rows. -/
  minDataRows : Nat
  /-- The largest number of data rows. -/
  maxDataRows : Nat
  /-- The largest number of formulas. -/
  maxFormulaCount : Nat
  /-- Personal data is not approved. -/
  noIdentifiers : directIdentifiersExpected = false
  /-- The range of rows is not empty. -/
  rowRange : minDataRows ≤ maxDataRows

/-- `XlsxInspectionPolicy`. -/
structure XlsxInspectionPolicy where
  /-- The policy. -/
  policyId : String
  /-- Its version. -/
  version : Nat
  /-- The limits of an inspection. -/
  limits : XlsxInspectionLimits
  /-- The schemas that a workbook may match. -/
  schemas : List XlsxSchemaExpectation
  /-- Words that no header may contain. -/
  prohibitedHeaderTokens : List String
  /-- There is a schema. -/
  schemasPresent : schemas ≠ []

/-- `asdict(limits)`. -/
def XlsxInspectionLimits.toJson (limits : XlsxInspectionLimits) : Json :=
  Json.ofFields [("max_file_bytes", .int limits.maxFileBytes),
    ("max_archive_entries", .int limits.maxArchiveEntries),
    ("max_total_uncompressed_bytes", .int limits.maxTotalUncompressedBytes),
    ("max_entry_uncompressed_bytes", .int limits.maxEntryUncompressedBytes),
    ("max_compression_ratio", .int limits.maxCompressionRatio),
    ("max_xml_bytes", .int limits.maxXmlBytes),
    ("max_rows", .int limits.maxRows),
    ("max_columns", .int limits.maxColumns)]

/-- `asdict(schema)`. -/
def XlsxSchemaExpectation.toJson (schema : XlsxSchemaExpectation) : Json :=
  Json.ofFields [("schema_id", .str schema.schemaId),
    ("schema_version", .str schema.schemaVersion),
    ("schema_authority_reference", .str schema.schemaAuthorityReference),
    ("direct_identifiers_expected", .bool schema.directIdentifiersExpected),
    ("package_kind", .str schema.packageKind),
    ("sheet_name", .str schema.sheetName),
    ("sheet_count", .int schema.sheetCount),
    ("header_row_index", .int schema.headerRowIndex),
    ("header_sha256", .str schema.headerSha256),
    ("column_count", .int schema.columnCount),
    ("min_data_rows", .int schema.minDataRows),
    ("max_data_rows", .int schema.maxDataRows),
    ("max_formula_count", .int schema.maxFormulaCount)]

/-- `policy.content_hash`. -/
def XlsxInspectionPolicy.contentHash (policy : XlsxInspectionPolicy) : String :=
  Sha256.hexdigest (Json.dumps (Json.ofFields [("policy_id", .str policy.policyId),
    ("version", .int policy.version),
    ("limits", policy.limits.toJson),
    ("schemas", .arr (policy.schemas.map XlsxSchemaExpectation.toJson)),
    ("prohibited_header_tokens", .arr (policy.prohibitedHeaderTokens.map .str))]))

/-- `XlsxPackageInspection`. -/
structure XlsxPackageInspection where
  /-- The digest of the workbook. -/
  workbookSha256 : String
  /-- The number of data rows. -/
  dataRowCount : Nat
  /-- The digest of the layout. -/
  structuralFingerprintSha256 : String
  /-- The schema that the workbook matches. -/
  matchedSchemaId : Option String
  /-- Its version. -/
  matchedSchemaVersion : Option String
  /-- Who approved it. -/
  matchedSchemaAuthorityReference : Option String
  /-- What the inspection objects to. -/
  diagnostics : List String

/-- `inspection.matched`. -/
def XlsxPackageInspection.matched (inspection : XlsxPackageInspection) : Bool :=
  inspection.matchedSchemaId.isSome && inspection.diagnostics.isEmpty

/-- How an inspection fails: with the code of an `XlsxInspectionError`, or with
another exception. -/
inductive InspectionFailure
  | inspection (code : String)
  | other
  deriving DecidableEq

/-- A workbook inspector: a function of the bytes and the policy. -/
abbrev XlsxPackageInspector :=
  List UInt8 → XlsxInspectionPolicy → Except InspectionFailure XlsxPackageInspection

end QuantumAnalytics
