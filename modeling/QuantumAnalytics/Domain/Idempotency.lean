import QuantumAnalytics.Foundations.Json
import QuantumAnalytics.Foundations.Sha256

/-!
# Idempotency keys

Keys are digests of the parts that they identify, and payloads are digested in
their canonical text.
-/

namespace QuantumAnalytics

/-- The separator of the parts of a key. -/
def unitSeparator : String := "\x1f"

/-- `_digest`. -/
def digest (parts : List String) : String :=
  Sha256.hexdigest (unitSeparator.intercalate parts)

/-- `canonical_json_hash`. -/
def canonicalJsonHash (payload : Json) : String :=
  Sha256.hexdigest payload.dumps

/-- `file_idempotency_key`. -/
def fileIdempotencyKey
    (organizationId marketplaceAccountId sourceFileSha256 adapterId adapterVersion : String) :
    String :=
  digest [organizationId, marketplaceAccountId, sourceFileSha256, adapterId, adapterVersion]

/-- `source_record_idempotency_key`. -/
def sourceRecordIdempotencyKey (importBatchId sourceRowKey rawRowHash : String) : String :=
  digest [importBatchId, sourceRowKey, rawRowHash]

/-- `event_idempotency_key`, for a revision that is at least 1. -/
def eventIdempotencyKey
    (organizationId marketplaceAccountId eventType stableBusinessKey : String)
    (revision : Int)
    (semanticPayloadHash : String) : String :=
  digest [organizationId, marketplaceAccountId, eventType, stableBusinessKey,
    toString revision, semanticPayloadHash]

theorem isHexDigest_canonicalJsonHash (payload : Json) :
    PyText.isHexDigest (canonicalJsonHash payload) = true :=
  Sha256.isHexDigest_hexdigest _

theorem isHexDigest_digest (parts : List String) :
    PyText.isHexDigest (digest parts) = true :=
  Sha256.isHexDigest_hexdigest _

end QuantumAnalytics
