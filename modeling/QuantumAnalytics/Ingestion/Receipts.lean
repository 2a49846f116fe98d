import QuantumAnalytics.Ingestion.RawFiles

/-!
# Upload receipts

`UploadReceiptRegistry.receive` gives an upload its id and a file name that is safe to
store. A payload that a tenant has sent before gets the receipt of the first time.
-/

namespace QuantumAnalytics

/-! ### File names -/

/-- `[A-Za-z0-9._-]`, the characters that `_SAFE_FILENAME` of the receipts leaves. -/
def isFilenameChar (c : Char) : Bool := isNameStart c || c == '.'

/-- `PurePath(filename.replace("\\", "/")).name`: the last part that is neither empty nor
a dot. -/
def leafName (filename : PyStr) : PyStr :=
  let slashed := filename.map fun point => if point = .scalar '\\' then .scalar '/' else point
  ((slashed.splitOn (.scalar '/')).filter fun part => part ≠ [] ∧ part ≠ [.scalar '.']).getLastD []

/-- The character of a code point, when it may stay. -/
def filenameChar? : CodePoint → Option Char
  | .scalar c => if isFilenameChar c = true then some c else none
  | .surrogate _ => none

/-- `_SAFE_FILENAME.sub("_", leaf)`: each run of other characters becomes one `_`. The flag
says that the run has begun. -/
def replaceRuns : Bool → PyStr → List Char
  | _, [] => []
  | inRun, point :: leaf =>
      match filenameChar? point with
      | some c => c :: replaceRuns false leaf
      | none => if inRun = true then replaceRuns true leaf else '_' :: replaceRuns true leaf

/-- `sanitize_filename`. -/
def sanitizeFilename (filename : PyStr) : String :=
  let sanitized := (PyText.stripWith (fun c => c == '.' || c == '_')
    (replaceRuns false (leafName filename))).take 120
  if sanitized = [] then "upload.bin" else String.ofList sanitized

theorem isFilenameChar_of_mem_replaceRuns
    {inRun : Bool}
    {leaf : PyStr}
    {c : Char}
    (listed : c ∈ replaceRuns inRun leaf) : isFilenameChar c = true := by
  induction leaf generalizing inRun with
  | nil => cases listed
  | cons point leaf inductionHypothesis =>
      rw [replaceRuns] at listed
      split at listed
      next d isChar =>
        rcases List.mem_cons.mp listed with rfl | later
        · cases point with
          | scalar e =>
              rw [filenameChar?] at isChar
              split at isChar
              next allowed => exact Option.some.inj isChar ▸ allowed
              next => cases isChar
          | surrogate => cases isChar
        · exact inductionHypothesis later
      next =>
        split at listed
        next => exact inductionHypothesis listed
        next =>
          rcases List.mem_cons.mp listed with rfl | later
          · rfl
          · exact inductionHypothesis later

/-- Every sanitized file name can be stored. -/
theorem isSafeFilename_sanitizeFilename (filename : PyStr) :
    isSafeFilename (sanitizeFilename filename) = true := by
  unfold sanitizeFilename
  dsimp only
  cases stripped : PyText.stripWith (fun c => c == '.' || c == '_')
      (replaceRuns false (leafName filename)) with
  | nil =>
      rw [List.take_nil, if_pos rfl]
      decide +kernel
  | cons c rest =>
      obtain ⟨kept, members⟩ := PyText.stripWith_cons stripped
      rw [List.take_succ_cons, if_neg (List.cons_ne_nil _ _), isSafeFilename, String.toList_ofList]
      have allowed : ∀ d ∈ c :: rest, isFilenameChar d = true :=
        fun d listed => isFilenameChar_of_mem_replaceRuns (members d listed)
      have isFirst := allowed c List.mem_cons_self
      have noDot : (c == '.') = false := (Bool.or_eq_false_iff.mp kept).1
      rw [isFilenameChar, noDot, Bool.or_false] at isFirst
      simp only [isFirst, Bool.true_and, Bool.and_eq_true, decide_eq_true_eq, List.all_eq_true]
      exact ⟨List.length_take_le _ _, fun d listed =>
        allowed d (List.mem_cons_of_mem _ (List.mem_of_mem_take listed))⟩

/-! ### The registry -/

/-- The codes that `receive` raises. -/
inductive IngestionErrorCode
  /-- `UPLOAD_EMPTY` -/
  | uploadEmpty
  deriving DecidableEq

/-- `ImmutableUploadReceipt`. -/
structure ImmutableUploadReceipt extends UploadReceipt where
  storageKey : String
  duplicate : Bool

/-- `_receipts_by_digest` of an `UploadReceiptRegistry`. -/
abbrev UploadReceiptRegistry := Dict (String × String) ImmutableUploadReceipt

/-- `receive`, with the registry after it; the id is what `uuid4` would give. -/
def UploadReceiptRegistry.receive (registry : UploadReceiptRegistry) (uuid : String)
    (tenant : TenantContext) (payload : PyBytes) (filename : PyStr) :
    Except IngestionErrorCode ImmutableUploadReceipt × UploadReceiptRegistry :=
  if payload.bytes = [] then (.error .uploadEmpty, registry)
  else
    let digest := Sha256.hexdigestOfBytes payload.bytes
    match registry.get? (tenant.tenantId, digest) with
    | some existing => (.ok { existing with duplicate := true }, registry)
    | none =>
        let receipt : ImmutableUploadReceipt :=
          { rawFileId := uuid
            tenantId := tenant.tenantId
            sha256 := digest
            sizeBytes := payload.bytes.length
            sanitizedFilename := sanitizeFilename filename
            storageKey := "tenants/" ++ tenant.tenantId ++ "/raw/" ++ digest
            duplicate := false }
        (.ok receipt, registry.set (tenant.tenantId, digest) receipt)

/-! ### Uploads -/

/-- An upload that was received. -/
structure ReceivedUpload where
  tenant : TenantContext
  payload : PyBytes
  receipt : ImmutableUploadReceipt

/-- The registry, the uploads that it received, and the files of the storage. -/
structure UploadState where
  registry : UploadReceiptRegistry
  received : List ReceivedUpload
  files : RawFiles

/-- A call on the way of an upload. -/
inductive UploadCall
  /-- `receive`, with the id that `uuid4` gives. -/
  | receive (tenant : TenantContext) (payload : PyBytes) (filename : PyStr) (uuid : String)
  /-- `store` of an upload that was received, with its receipt. -/
  | store (position : Nat)
  | inspect (tenant : TenantContext) (rawFileId : String)
  /-- An inspection that is interrupted after its first transition. -/
  | interrupted (tenant : TenantContext) (rawFileId : String)
  /-- A new registry, which knows no receipt. -/
  | restart

namespace UploadState

/-- Nothing is received, and nothing is stored. -/
def empty : UploadState := ⟨Dict.empty, [], RawFiles.empty⟩

/-- The state after a call. -/
def step (library : ReaderLibrary) (interpreter : Interpreter) (state : UploadState) :
    UploadCall → UploadState
  | .receive tenant payload filename uuid =>
      match state.registry.receive uuid tenant payload filename with
      | (.error _, registry) => { state with registry }
      | (.ok receipt, registry) =>
          { state with registry, received := state.received ++ [⟨tenant, payload, receipt⟩] }
  | .store position =>
      match state.received[position]? with
      | none => state
      | some upload =>
          { state with
            files := (state.files.store interpreter upload.tenant upload.receipt.toUploadReceipt
              upload.payload).2 }
  | .inspect tenant rawFileId =>
      { state with
        files := (state.files.perform library interpreter (.inspect tenant rawFileId)).2 }
  | .interrupted tenant rawFileId =>
      { state with
        files := (state.files.perform library interpreter (.interrupted tenant rawFileId)).2 }
  | .restart => { state with registry := Dict.empty }

/-- The state after some calls. -/
def run (library : ReaderLibrary) (interpreter : Interpreter) (state : UploadState)
    (calls : List UploadCall) : UploadState :=
  calls.foldl (step library interpreter) state

end UploadState

/-- The ids that `uuid4` gives in some calls. -/
def uuidsOf (calls : List UploadCall) : List String := calls.filterMap fun
  | .receive _ _ _ uuid => some uuid
  | _ => none

/-- The payloads of some calls. -/
def payloadsOf (calls : List UploadCall) : List PyBytes := calls.filterMap fun
  | .receive _ payload _ _ => some payload
  | _ => none

/-- Payloads of one digest have one length. -/
def LengthsByDigest (payloads : List PyBytes) : Prop :=
  ∀ left ∈ payloads, ∀ right ∈ payloads,
    Sha256.hexdigestOfBytes left.bytes = Sha256.hexdigestOfBytes right.bytes →
      left.bytes.length = right.bytes.length

/-- What the calls may expect of `uuid4` and of SHA-256. -/
structure Assumed (calls : List UploadCall) : Prop where
  /-- The text of a new `UUID` is canonical. -/
  canonical : ∀ uuid ∈ uuidsOf calls, PyText.canonicalUuid? uuid = some uuid
  /-- Each id is new. -/
  fresh : (uuidsOf calls).Nodup
  lengths : LengthsByDigest (payloadsOf calls)

end QuantumAnalytics
