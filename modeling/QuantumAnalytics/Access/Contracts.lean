import Mathlib.Data.List.DropRight
import QuantumAnalytics.Foundations.Dict
import QuantumAnalytics.Foundations.PyJson
import QuantumAnalytics.Foundations.Sha256

/-!
# The access registry

An invite is issued with a code and activated once, which opens an account of a
new tenant. The registry keeps digests of codes and of recovery keys. What
`secrets` and `uuid4` give is part of a call.
-/

namespace QuantumAnalytics
namespace Access

/-- The codes that `AccessError` carries. -/
inductive AccessErrorCode
  | featureProfileInvalid
  | tenantIdInvalid
  | accountIdInvalid
  | issueTimeTimezoneRequired
  | inviteExpiryTimezoneRequired
  | inviteExpiryNotFuture
  | activationTimezoneRequired
  | inviteInvalid
  | inviteAlreadyUsed
  | inviteExpired
  | accountNotFound
  deriving DecidableEq

/-- What a function of the module raises. -/
inductive AccessFailure
  /-- `AccessError`. -/
  | access (code : AccessErrorCode)
  /-- `OverflowError` of a time that has no value in UTC. -/
  | overflow
  /-- `UnicodeEncodeError`. -/
  | unicode
  /-- The loop for a new value goes on after the draws of the call. -/
  | drawing
  deriving DecidableEq

/-- A result or what is raised. -/
abbrev Result := Except AccessFailure

/-- `raise AccessError(code)` unless a condition holds. -/
abbrev check (condition : Prop) [Decidable condition] (code : AccessErrorCode) : Result Unit :=
  require condition (.access code)

/-! ### Values -/

/-- `_aware_utc` of a `datetime`. -/
def awareUtc (value : DateTime) (code : AccessErrorCode) : Result DateTime := do
  check (value.isAware = true) code
  requireSome value.toUtc? .overflow

/-- The code point is white space. -/
def isBlank : CodePoint → Bool
  | .scalar c => PyText.isSpace c
  | .surrogate _ => false

/-- `value.strip()`. -/
def strip (text : PyStr) : PyStr := (text.dropWhile isBlank).rdropWhile isBlank

/-- `_feature_profile`. -/
def featureProfile : PyJson → Result PyStr
  | .str text => do
      check (strip text ≠ [] ∧ (strip text).length ≤ 64) .featureProfileInvalid
      return strip text
  | _ => .error (.access .featureProfileInvalid)

/-- `_hash_secret`. -/
def hashSecret (value : PyStr) : Result String := do
  return Sha256.hexdigestOfBytes (← requireSome value.encode? .unicode)

/-- `TenantContext`. -/
structure TenantContext where
  tenantId : String
  accountId : String
  featureProfile : PyStr
  deriving DecidableEq

/-- `__post_init__` of a `TenantContext`. -/
def TenantContext.postInit (tenant : TenantContext) : Result TenantContext := do
  check (tenant.tenantId ≠ "") .tenantIdInvalid
  check (tenant.accountId ≠ "") .accountIdInvalid
  let _ ← Access.featureProfile (.str tenant.featureProfile)
  return tenant

/-- `InviteRecord`. -/
structure InviteRecord where
  inviteId : String
  codeHash : String
  expiresAt : DateTime
  featureProfile : PyStr
  activatedAt : Option DateTime

/-- `AccountRecord`. -/
structure AccountRecord where
  accountId : String
  accountAlias : String
  tenantId : String
  featureProfile : PyStr
  recoveryKeyHash : String
  createdAt : DateTime

/-- `ActivationResult`. -/
structure ActivationResult where
  account : AccountRecord
  tenant : TenantContext
  recoveryKey : String

/-- What an issue draws: the texts of `token_urlsafe(24)` one after the other, and the id. -/
structure IssueDraws where
  tokens : List String
  inviteId : String

/-- What an activation draws: ids for the account one after the other, the id of the tenant,
the text of `token_hex(8)` in upper case and that of `token_urlsafe(48)`. -/
structure ActivationDraws where
  accountIds : List String
  tenantId : String
  aliasHex : String
  recoveryKey : String
  /-- `uuid4` has no empty text. -/
  accountIdsNonempty : ∀ accountId ∈ accountIds, accountId ≠ ""
  tenantIdNonempty : tenantId ≠ ""

/-- `AccessRegistry`. -/
structure AccessRegistry where
  invitesByHash : Dict String InviteRecord
  accounts : Dict String AccountRecord

namespace AccessRegistry

/-- `INVITE_PREFIX`. -/
def invitePrefix : String := "QINV-"

/-- `ACCOUNT_PREFIX`. -/
def accountPrefix : String := "QTM-"

/-- The registry of `__init__`. -/
def empty : AccessRegistry := ⟨Dict.empty, Dict.empty⟩

variable (registry : AccessRegistry)

/-- `issue_invite` at the time `now`, or at that of the clock when none is given. -/
def issueInvite (expiresAt : DateTime) (profile : PyJson) (now : DateTime) (draws : IssueDraws) :
    Result (String × AccessRegistry) := do
  let current ← awareUtc now .issueTimeTimezoneRequired
  let expiry ← awareUtc expiresAt .inviteExpiryTimezoneRequired
  let profile ← featureProfile profile
  check (current.instant < expiry.instant) .inviteExpiryNotFuture
  let code ← requireSome ((draws.tokens.map (invitePrefix ++ ·)).find? fun code =>
    (registry.invitesByHash.get? (Sha256.hexdigest code)).isNone) .drawing
  let invite : InviteRecord :=
    { inviteId := draws.inviteId, codeHash := Sha256.hexdigest code, expiresAt := expiry,
      featureProfile := profile, activatedAt := none }
  return (code, { registry with invitesByHash := registry.invitesByHash.set invite.codeHash invite })

/-- The digest of the code of an invite. -/
def inviteHash : PyJson → Result String
  | .str code => do
      check ((PyStr.ofString invitePrefix).isPrefixOf code = true) .inviteInvalid
      hashSecret code
  | _ => .error (.access .inviteInvalid)

/-- What `activate_invite` has found out in front of its writes: the invite and the account. -/
def activation (codeHash : String) (current : DateTime) (draws : ActivationDraws) :
    Result (InviteRecord × AccountRecord) := do
  let invite ← requireSome (registry.invitesByHash.get? codeHash) (.access .inviteInvalid)
  check (invite.activatedAt.isNone = true) .inviteAlreadyUsed
  check (current.instant < invite.expiresAt.instant) .inviteExpired
  let accountId ← requireSome (draws.accountIds.find? fun accountId =>
    (registry.accounts.get? accountId).isNone) .drawing
  return (invite,
    { accountId, accountAlias := accountPrefix ++ draws.aliasHex, tenantId := draws.tenantId,
      featureProfile := invite.featureProfile,
      recoveryKeyHash := Sha256.hexdigest draws.recoveryKey, createdAt := current })

/-- The writes of `activate_invite`. -/
def activated (codeHash : String) (invite : InviteRecord) (account : AccountRecord) :
    AccessRegistry where
  invitesByHash := registry.invitesByHash.set codeHash
    { invite with activatedAt := some account.createdAt }
  accounts := registry.accounts.set account.accountId account

/-- `activate_invite`. -/
def activateInvite (code : PyJson) (now : DateTime) (draws : ActivationDraws) :
    Result ActivationResult × AccessRegistry :=
  let found : Result (String × InviteRecord × AccountRecord) := do
    let current ← awareUtc now .activationTimezoneRequired
    let codeHash ← inviteHash code
    return (codeHash, ← registry.activation codeHash current draws)
  match found with
  | .error failure => (.error failure, registry)
  | .ok (codeHash, invite, account) =>
      (do
        let tenant ← TenantContext.postInit
          ⟨account.tenantId, account.accountId, invite.featureProfile⟩
        return ⟨account, tenant, draws.recoveryKey⟩,
      registry.activated codeHash invite account)

/-- The account of an id, which no id with a surrogate has. -/
def accountOf (accountId : PyStr) : Option AccountRecord :=
  accountId.text?.bind registry.accounts.get?

/-- `verify_recovery_key`. -/
def verifyRecoveryKey : PyJson → PyJson → Result Bool
  | .str accountId, .str recoveryKey =>
      if accountId = [] ∨ recoveryKey = [] then .ok false
      else
        match registry.accountOf accountId with
        | none => .ok false
        | some account => do
            return decide (account.recoveryKeyHash = (← hashSecret recoveryKey))
  | _, _ => .ok false

/-- `account`. -/
def account : PyJson → Result AccountRecord
  | .str accountId => do
      check (accountId ≠ []) .accountIdInvalid
      requireSome (registry.accountOf accountId) (.access .accountNotFound)
  | _ => .error (.access .accountIdInvalid)

end AccessRegistry

/-! ### Runs -/

/-- A call of the registry; a time is the given one or that of the clock. -/
inductive AccessCall
  | issueInvite (expiresAt : DateTime) (profile : PyJson) (now : DateTime) (draws : IssueDraws)
  | activateInvite (code : PyJson) (now : DateTime) (draws : ActivationDraws)
  | verifyRecoveryKey (accountId recoveryKey : PyJson)
  | account (accountId : PyJson)

/-- What a call returns or raises. -/
inductive AccessOutcome
  | issued (code : String)
  | activated (result : ActivationResult)
  | verified (isKey : Bool)
  | found (account : AccountRecord)
  | failed (failure : AccessFailure)

namespace AccessRegistry

/-- A call under the lock, with the registry after it. -/
def perform (registry : AccessRegistry) : AccessCall → AccessOutcome × AccessRegistry
  | .issueInvite expiresAt profile now draws =>
      match registry.issueInvite expiresAt profile now draws with
      | .ok (code, after) => (.issued code, after)
      | .error failure => (.failed failure, registry)
  | .activateInvite code now draws =>
      match registry.activateInvite code now draws with
      | (.ok result, after) => (.activated result, after)
      | (.error failure, after) => (.failed failure, after)
  | .verifyRecoveryKey accountId recoveryKey =>
      match registry.verifyRecoveryKey accountId recoveryKey with
      | .ok isKey => (.verified isKey, registry)
      | .error failure => (.failed failure, registry)
  | .account accountId =>
      match registry.account accountId with
      | .ok account => (.found account, registry)
      | .error failure => (.failed failure, registry)

/-- The registry after some calls. -/
def run (registry : AccessRegistry) (calls : List AccessCall) : AccessRegistry :=
  calls.foldl (fun registry call => (registry.perform call).2) registry

/-- The outcomes of some calls. -/
def outcomes (registry : AccessRegistry) : List AccessCall → List AccessOutcome
  | [] => []
  | call :: calls => (registry.perform call).1 :: outcomes (registry.perform call).2 calls

end AccessRegistry
end Access
end QuantumAnalytics
