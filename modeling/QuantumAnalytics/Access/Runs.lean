import QuantumAnalytics.Access.Contracts
import QuantumAnalytics.Foundations.Utf8

/-!
# Runs of the access registry

What a call can do is said once. From it follow the account of all activations
of a run, the life of an account and of its recovery key, and that the registry
depends on secrets through their digests only.
-/

namespace QuantumAnalytics
namespace Access

/-! ### Profiles and digests -/

theorem strip_strip (text : PyStr) : strip (strip text) = strip text := by
  have begins : (strip text).dropWhile isBlank = strip text := by
    rw [List.dropWhile_eq_self_iff]
    intro nonempty
    obtain ⟨rest, split⟩ := List.rdropWhile_prefix isBlank (text.dropWhile isBlank)
    change strip text ++ rest = _ at split
    have isFirst : (text.dropWhile isBlank)[0]? = some (strip text)[0] := by
      rw [← split, List.getElem?_append_left nonempty, List.getElem?_eq_getElem nonempty]
    obtain ⟨within, isValue⟩ := List.getElem?_eq_some_iff.mp isFirst
    rw [← isValue]
    exact List.dropWhile_get_zero_not isBlank text within
  unfold strip at begins ⊢
  rw [begins, List.rdropWhile_idempotent]

/-- A profile that was read can be read again. -/
theorem featureProfile_eq_ok
    {value : PyJson}
    {profile : PyStr}
    (accepted : featureProfile value = .ok profile) :
    featureProfile (.str profile) = .ok profile := by
  cases value with
  | str text =>
      simp only [featureProfile, Checks.bind_done_eq_ok, Checks.require_eq_ok,
        Checks.pure_eq_ok] at accepted
      obtain ⟨fits, rfl⟩ := accepted
      simp only [featureProfile, strip_strip, Checks.bind_done_eq_ok, Checks.require_eq_ok,
        Checks.pure_eq_ok, and_true]
      exact fits
  | _ => cases accepted

theorem hashSecret_ofString (text : String) :
    hashSecret (PyStr.ofString text) = .ok (Sha256.hexdigest text) := by
  have encoded : (PyStr.ofString text).encode? = some (text.toList.flatMap String.utf8EncodeChar) := by
    rw [PyStr.encode?, PyStr.ofString, PyStr.chars?_ofChars, Option.map_some]
  have isDigest := Sha256.hexdigestOfChars_eq text.toList
  rw [Sha256.hexdigestOfChars, String.ofList_toList] at isDigest
  rw [hashSecret, encoded, ← isDigest]
  rfl

namespace AccessRegistry

/-! ### What a call does -/

/-- What a call can do to the registry. -/
inductive Effect (registry : AccessRegistry) :
    AccessCall → AccessOutcome → AccessRegistry → Prop
  /-- The call fails or only reads. -/
  | nothing {call : AccessCall} {outcome : AccessOutcome}
      (notIssued : ∀ code, outcome ≠ .issued code)
      (notActivated : ∀ result, outcome ≠ .activated result) :
      Effect registry call outcome registry
  /-- An unused invite is added under a new digest. -/
  | issued {expiresAt now : DateTime} {profile : PyJson} {draws : IssueDraws} {code : String}
      {invite : InviteRecord}
      (isHash : invite.codeHash = Sha256.hexdigest code)
      (isNew : registry.invitesByHash.get? invite.codeHash = none)
      (unused : invite.activatedAt = none)
      (isProfile : featureProfile (.str invite.featureProfile) = .ok invite.featureProfile) :
      Effect registry (.issueInvite expiresAt profile now draws) (.issued code)
        { registry with invitesByHash := registry.invitesByHash.set invite.codeHash invite }
  /-- An unused invite is used before it expires, and its account is added under a new id. -/
  | activated {code : PyJson} {now : DateTime} {draws : ActivationDraws} {codeHash : String}
      {invite : InviteRecord} {account : AccountRecord} {tenant : TenantContext}
      (isHash : inviteHash code = .ok codeHash)
      (stored : registry.invitesByHash.get? codeHash = some invite)
      (unused : invite.activatedAt = none)
      (timely : account.createdAt.instant < invite.expiresAt.instant)
      (isNew : registry.accounts.get? account.accountId = none)
      (sameProfile : account.featureProfile = invite.featureProfile)
      (named : account.accountId ≠ "")
      (isKey : account.recoveryKeyHash = Sha256.hexdigest draws.recoveryKey) :
      Effect registry (.activateInvite code now draws)
        (.activated ⟨account, tenant, draws.recoveryKey⟩)
        (registry.activated codeHash invite account)

/-- The records of a registry are stored under their keys, and profiles can be read. -/
structure Sound (registry : AccessRegistry) : Prop where
  invites : registry.invitesByHash.IndexedBy fun invite => invite.codeHash
  accounts : registry.accounts.IndexedBy fun account => account.accountId
  profiles : ∀ codeHash invite, registry.invitesByHash.get? codeHash = some invite →
    featureProfile (.str invite.featureProfile) = .ok invite.featureProfile

variable {registry : AccessRegistry}

theorem effect_issueInvite
    {expiresAt now : DateTime}
    {profile : PyJson}
    {draws : IssueDraws}
    {code : String}
    {after : AccessRegistry}
    (issued : registry.issueInvite expiresAt profile now draws = .ok (code, after)) :
    Effect registry (.issueInvite expiresAt profile now draws) (.issued code) after := by
  simp only [issueInvite, ↓Checks.bind_done_eq_ok, Checks.bind_eq_ok, Checks.requireSome_eq_ok,
    Checks.pure_eq_ok, Prod.mk.injEq] at issued
  obtain ⟨_, -, expiry, -, normalized, isProfile, -, code, found, rfl, rfl⟩ := issued
  have isNew : registry.invitesByHash.get? (Sha256.hexdigest code) = none :=
    Option.isNone_iff_eq_none.mp (List.find?_some found :)
  exact @Effect.issued registry expiresAt now profile draws code
    ⟨draws.inviteId, Sha256.hexdigest code, expiry, normalized, none⟩ rfl isNew rfl
    (featureProfile_eq_ok isProfile)

/-- An activation finds an unused invite that is not expired, and a new id. -/
theorem activation_eq_ok
    {codeHash : String}
    {current : DateTime}
    {draws : ActivationDraws}
    {invite : InviteRecord}
    {account : AccountRecord}
    (found : registry.activation codeHash current draws = .ok (invite, account)) :
    registry.invitesByHash.get? codeHash = some invite ∧ invite.activatedAt = none ∧
      account.createdAt.instant < invite.expiresAt.instant ∧
      registry.accounts.get? account.accountId = none ∧ account.accountId ∈ draws.accountIds ∧
      account.tenantId = draws.tenantId ∧ account.featureProfile = invite.featureProfile ∧
      account.recoveryKeyHash = Sha256.hexdigest draws.recoveryKey := by
  simp only [activation, ↓Checks.bind_done_eq_ok, Checks.bind_eq_ok, Checks.requireSome_eq_ok,
    Checks.require_eq_ok, Checks.pure_eq_ok, Prod.mk.injEq] at found
  obtain ⟨invite, stored, unused, timely, accountId, drawn, rfl, rfl⟩ := found
  have isNew := List.find?_some drawn
  exact ⟨stored, Option.isNone_iff_eq_none.mp unused, timely, Option.isNone_iff_eq_none.mp isNew,
    List.mem_of_find?_eq_some drawn, rfl, rfl, rfl⟩

/-- An activation that has found its invite succeeds, or the registry is as it was. -/
theorem effect_activateInvite
    (sound : registry.Sound)
    (code : PyJson)
    (now : DateTime)
    (draws : ActivationDraws) :
    (∃ failure, registry.activateInvite code now draws = (.error failure, registry)) ∨
      ∃ result, (registry.activateInvite code now draws).1 = .ok result ∧
        Effect registry (.activateInvite code now draws) (.activated result)
          (registry.activateInvite code now draws).2 := by
  unfold activateInvite
  dsimp only
  split
  next failure _ => exact .inl ⟨failure, rfl⟩
  next codeHash invite account found =>
    simp only [Checks.bind_eq_ok, Checks.pure_eq_ok, Prod.mk.injEq] at found
    obtain ⟨current, -, _, isHash, ⟨_, _⟩, isFound, rfl, rfl, rfl⟩ := found
    obtain ⟨stored, unused, timely, isNew, drawn, isTenant, sameProfile, isKey⟩ :=
      activation_eq_ok isFound
    have isProfile := sound.profiles _ _ stored
    have hasAccount : account.accountId ≠ "" := draws.accountIdsNonempty _ drawn
    have tenant : TenantContext.postInit
        ⟨account.tenantId, account.accountId, invite.featureProfile⟩ =
        .ok ⟨account.tenantId, account.accountId, invite.featureProfile⟩ := by
      have hasTenant : account.tenantId ≠ "" := isTenant ▸ draws.tenantIdNonempty
      simp only [TenantContext.postInit, require, ne_eq, hasTenant, hasAccount, isProfile,
        not_false_eq_true, if_true, Checks.ok_bind]
      rfl
    rw [tenant]
    exact .inr ⟨_, rfl, .activated isHash stored unused timely isNew sameProfile hasAccount isKey⟩

theorem perform_of_issued
    {expiresAt now : DateTime}
    {profile : PyJson}
    {draws : IssueDraws}
    {pair : String × AccessRegistry}
    (issued : registry.issueInvite expiresAt profile now draws = .ok pair) :
    registry.perform (.issueInvite expiresAt profile now draws) = (.issued pair.1, pair.2) := by
  rw [perform, issued]

theorem perform_of_refused
    {expiresAt now : DateTime}
    {profile : PyJson}
    {draws : IssueDraws}
    {failure : AccessFailure}
    (refused : registry.issueInvite expiresAt profile now draws = .error failure) :
    registry.perform (.issueInvite expiresAt profile now draws) = (.failed failure, registry) := by
  rw [perform, refused]

/-- What any call does. -/
theorem effect_perform
    (sound : registry.Sound)
    (call : AccessCall) :
    Effect registry call (registry.perform call).1 (registry.perform call).2 := by
  cases call with
  | issueInvite expiresAt profile now draws =>
      cases issued : registry.issueInvite expiresAt profile now draws with
      | ok pair =>
          rw [perform_of_issued issued]
          exact effect_issueInvite issued
      | error failure =>
          rw [perform_of_refused issued]
          exact .nothing (by simp) (by simp)
  | activateInvite code now draws =>
      rcases effect_activateInvite sound code now draws with
        ⟨failure, failed⟩ | ⟨result, succeeded, effect⟩
      · rw [perform, failed]
        exact .nothing (by simp) (by simp)
      · cases activated : registry.activateInvite code now draws with
        | mk outcome after =>
            rw [activated] at succeeded effect
            subst succeeded
            rw [perform, activated]
            exact effect
  | verifyRecoveryKey accountId recoveryKey =>
      unfold perform
      dsimp only
      split
      · exact .nothing (by simp) (by simp)
      · exact .nothing (by simp) (by simp)
  | account accountId =>
      unfold perform
      dsimp only
      split
      · exact .nothing (by simp) (by simp)
      · exact .nothing (by simp) (by simp)

theorem sound_empty : empty.Sound :=
  ⟨Dict.indexedBy_empty _, Dict.indexedBy_empty _, fun _ _ stored => by cases stored⟩

/-! ### The account of a run -/

/-- The digest of the code that a call has issued. -/
def issuedHash? : AccessOutcome → Option String
  | .issued code => some (Sha256.hexdigest code)
  | _ => none

/-- The digest of the code that a call has activated, and the account. -/
def activation? : AccessCall → AccessOutcome → Option (String × AccountRecord)
  | .activateInvite code _ _, .activated result =>
      (inviteHash code).toOption.map fun codeHash => (codeHash, result.account)
  | _, _ => none

/-- The digests of the codes that are issued in some calls. -/
def issuedHashes (registry : AccessRegistry) (calls : List AccessCall) : List String :=
  (registry.outcomes calls).filterMap issuedHash?

/-- The activations in some calls. -/
def activations (registry : AccessRegistry) (calls : List AccessCall) :
    List (String × AccountRecord) :=
  (calls.zip (registry.outcomes calls)).filterMap fun entry => activation? entry.1 entry.2

/-- The registry accounts for what was issued and what was activated. -/
structure Accounts (registry : AccessRegistry) (issued : List String)
    (activations : List (String × AccountRecord)) : Prop where
  sound : registry.Sound
  /-- The digests of invites are those of the codes that were issued, each once. -/
  hashes : ∀ codeHash,
    (registry.invitesByHash.get? codeHash).isSome = true ↔ codeHash ∈ issued
  issuedOnce : issued.Nodup
  /-- The accounts are those of the activations, in their order. -/
  accounts : registry.accounts.values = activations.map Prod.snd
  /-- No code is activated twice. -/
  activatedOnce : (activations.map Prod.fst).Nodup
  /-- An activation has used its invite before it expired. -/
  used : ∀ activation ∈ activations, ∃ invite,
    registry.invitesByHash.get? activation.1 = some invite ∧
      invite.activatedAt = some activation.2.createdAt ∧
      invite.featureProfile = activation.2.featureProfile ∧
      activation.2.createdAt.instant < invite.expiresAt.instant
  /-- An invite that no activation has used can still be used. -/
  unused : ∀ codeHash invite, registry.invitesByHash.get? codeHash = some invite →
    codeHash ∉ activations.map Prod.fst → invite.activatedAt = none

/-- What a call adds to the digests that were issued. -/
def issuedBy (outcome : AccessOutcome) : List String := (issuedHash? outcome).toList

/-- What a call adds to the activations. -/
def activatedBy (call : AccessCall) (outcome : AccessOutcome) : List (String × AccountRecord) :=
  (activation? call outcome).toList

theorem issuedBy_of_ne
    {outcome : AccessOutcome}
    (notIssued : ∀ code, outcome ≠ .issued code) : issuedBy outcome = [] := by
  cases outcome with
  | issued code => exact absurd rfl (notIssued code)
  | _ => rfl

theorem activatedBy_of_ne
    {call : AccessCall}
    {outcome : AccessOutcome}
    (notActivated : ∀ result, outcome ≠ .activated result) : activatedBy call outcome = [] := by
  cases outcome with
  | activated result => exact absurd rfl (notActivated result)
  | _ => cases call <;> rfl

theorem Sound.of_effect
    {call : AccessCall}
    {outcome : AccessOutcome}
    {after : AccessRegistry}
    (sound : registry.Sound)
    (effect : Effect registry call outcome after) : after.Sound := by
  cases effect with
  | nothing => exact sound
  | @issued _ _ _ _ _ invite _ _ _ isProfile =>
      refine ⟨sound.invites.set invite, sound.accounts, ?_⟩
      intro codeHash other stored
      rw [Dict.get?_set] at stored
      split at stored
      next => exact Option.some.inj stored ▸ isProfile
      next => exact sound.profiles codeHash other stored
  | @activated _ _ _ _ invite account _ _ stored =>
      obtain ⟨-, rfl⟩ := sound.invites.get?_eq_some_iff.mp stored
      refine ⟨sound.invites.set { invite with activatedAt := some account.createdAt },
        sound.accounts.set account, ?_⟩
      intro codeHash other found
      rw [activated, Dict.get?_set] at found
      split at found
      next => exact Option.some.inj found ▸ sound.profiles _ invite stored
      next => exact sound.profiles codeHash other found

/-- A call keeps the account. -/
theorem Accounts.of_effect
    {issued : List String}
    {activations : List (String × AccountRecord)}
    {call : AccessCall}
    {outcome : AccessOutcome}
    {after : AccessRegistry}
    (accounts : registry.Accounts issued activations)
    (effect : Effect registry call outcome after) :
    after.Accounts (issued ++ issuedBy outcome) (activations ++ activatedBy call outcome) := by
  have sound := accounts.sound.of_effect effect
  cases effect with
  | nothing notIssued notActivated =>
      rw [issuedBy_of_ne notIssued, activatedBy_of_ne notActivated, List.append_nil,
        List.append_nil]
      exact accounts
  | @issued _ _ _ _ code invite isHash isNew unused isProfile =>
      have isNewHash : invite.codeHash ∉ issued := by
        rw [← accounts.hashes, isNew]
        simp
      have byIssue : issuedBy (.issued code) = [invite.codeHash] := by rw [isHash]; rfl
      have byActivation : ∀ call, activatedBy call (.issued code) = [] :=
        fun call => activatedBy_of_ne (by simp)
      rw [byIssue, byActivation, List.append_nil]
      refine ⟨sound, ?_, ?_, accounts.accounts, accounts.activatedOnce, ?_, ?_⟩
      · intro codeHash
        rw [Dict.get?_set, List.mem_append, List.mem_singleton, ← accounts.hashes]
        split
        next same => simp [same]
        next other => simp [other]
      · exact List.nodup_append.mpr ⟨accounts.issuedOnce, List.nodup_singleton _,
          fun left old right new same => isNewHash (by
            rw [← List.mem_singleton.mp new, ← same]
            exact old)⟩
      · intro activation listed
        obtain ⟨old, stored, rest⟩ := accounts.used activation listed
        refine ⟨old, ?_, rest⟩
        rw [Dict.get?_set_of_ne]
        · exact stored
        · intro same
          rw [same, isNew] at stored
          cases stored
      · intro codeHash other stored notUsed
        rw [Dict.get?_set] at stored
        split at stored
        next => exact Option.some.inj stored ▸ unused
        next => exact accounts.unused codeHash other stored notUsed
  | @activated code now draws codeHash invite account tenant isHash stored unused timely isNew
      sameProfile named isKey =>
      have notUsed : codeHash ∉ activations.map Prod.fst := by
        intro listed
        obtain ⟨activation, isActivation, rfl⟩ := List.mem_map.mp listed
        obtain ⟨other, isOther, isUsed, -⟩ := accounts.used activation isActivation
        rw [stored] at isOther
        obtain rfl := Option.some.inj isOther
        rw [unused] at isUsed
        cases isUsed
      have byActivation : activatedBy (.activateInvite code now draws)
          (.activated ⟨account, tenant, draws.recoveryKey⟩) = [(codeHash, account)] := by
        rw [activatedBy, activation?, isHash]
        rfl
      rw [byActivation, show issuedBy (.activated ⟨account, tenant, draws.recoveryKey⟩) = [] from
        rfl, List.append_nil]
      refine ⟨sound, ?_, accounts.issuedOnce, ?_, ?_, ?_, ?_⟩
      · intro other
        rw [← accounts.hashes, activated, Dict.get?_set]
        split
        next same => simp [same, stored]
        next => rfl
      · rw [activated, Dict.values_set_of_get?_eq_none isNew, accounts.accounts, List.map_append]
        rfl
      · rw [List.map_append]
        exact List.nodup_append.mpr ⟨accounts.activatedOnce, List.nodup_singleton _,
          fun left old right new same => notUsed (by
            rw [← show right = codeHash from List.mem_singleton.mp new, ← same]
            exact old)⟩
      · intro activation listed
        rcases List.mem_append.mp listed with old | new
        · obtain ⟨other, isOther, rest⟩ := accounts.used activation old
          refine ⟨other, ?_, rest⟩
          rw [activated, Dict.get?_set_of_ne]
          · exact isOther
          · rintro rfl
            exact notUsed (List.mem_map_of_mem old)
        · obtain rfl := List.mem_singleton.mp new
          exact ⟨_, Dict.get?_set_self _ _ _, rfl, sameProfile.symm, timely⟩
      · intro other record found notListed
        rw [List.map_append, List.mem_append, not_or] at notListed
        rw [activated, Dict.get?_set_of_ne] at found
        · exact accounts.unused other record found notListed.1
        · rintro rfl
          exact notListed.2 (List.mem_singleton_self _)

/-- A run keeps the account. -/
theorem Accounts.run
    {issued : List String}
    {activations : List (String × AccountRecord)}
    (accounts : registry.Accounts issued activations)
    (calls : List AccessCall) :
    (registry.run calls).Accounts (issued ++ registry.issuedHashes calls)
      (activations ++ registry.activations calls) := by
  induction calls generalizing registry issued activations with
  | nil =>
      rw [show registry.issuedHashes [] = [] from rfl, show registry.activations [] = [] from rfl,
        List.append_nil, List.append_nil]
      exact accounts
  | cons call calls inductionHypothesis =>
      have rest := inductionHypothesis
        (accounts.of_effect (effect_perform accounts.sound call))
      have hashes : registry.issuedHashes (call :: calls) =
          issuedBy (registry.perform call).1 ++ (registry.perform call).2.issuedHashes calls := by
        rw [issuedHashes, outcomes, List.filterMap_cons, issuedBy]
        cases issuedHash? (registry.perform call).1 <;> rfl
      have more : registry.activations (call :: calls) =
          activatedBy call (registry.perform call).1 ++
            (registry.perform call).2.activations calls := by
        rw [AccessRegistry.activations, outcomes, List.zip_cons_cons, List.filterMap_cons,
          activatedBy]
        cases activation? call (registry.perform call).1 <;> rfl
      rw [List.append_assoc, List.append_assoc, ← hashes, ← more] at rest
      exact rest

theorem accounts_empty : empty.Accounts [] [] :=
  ⟨sound_empty, fun _ => by simp [empty], List.nodup_nil, rfl, List.nodup_nil,
    fun _ listed => absurd listed List.not_mem_nil, fun _ _ stored => by cases stored⟩

theorem sound_run (calls : List AccessCall) : (empty.run calls).Sound :=
  (accounts_empty.run calls).sound

/-- After any calls, the invites are those whose codes were issued, none of them twice;
the accounts are those of the activations, in their order; no code was activated twice;
and an invite is used exactly when it was activated, which was before it expired and gave
its profile to the account. -/
theorem accounts_run (calls : List AccessCall) :
    (empty.run calls).Accounts (empty.issuedHashes calls) (empty.activations calls) :=
  accounts_empty.run calls

/-! ### The life of an account -/

/-- A call keeps every account. -/
theorem Effect.get?_accounts
    {call : AccessCall}
    {outcome : AccessOutcome}
    {after : AccessRegistry}
    (effect : Effect registry call outcome after)
    {accountId : String}
    {account : AccountRecord}
    (stored : registry.accounts.get? accountId = some account) :
    after.accounts.get? accountId = some account := by
  cases effect with
  | nothing => exact stored
  | issued => exact stored
  | activated _ _ _ _ isNew =>
      rw [AccessRegistry.activated, Dict.get?_set_of_ne]
      · exact stored
      · rintro rfl
        rw [isNew] at stored
        cases stored

/-- Calls keep every account. -/
theorem get?_accounts_run
    (sound : registry.Sound)
    (calls : List AccessCall)
    {accountId : String}
    {account : AccountRecord}
    (stored : registry.accounts.get? accountId = some account) :
    (registry.run calls).accounts.get? accountId = some account := by
  induction calls generalizing registry with
  | nil => exact stored
  | cons call calls inductionHypothesis =>
      have effect := effect_perform sound call
      exact inductionHypothesis (sound.of_effect effect) (effect.get?_accounts stored)

/-- An activation stores its account under a proper id, with the digest of the key. -/
theorem Effect.get?_activated
    {call : AccessCall}
    {result : ActivationResult}
    {after : AccessRegistry}
    (effect : Effect registry call (.activated result) after) :
    after.accounts.get? result.account.accountId = some result.account ∧
      result.account.accountId ≠ "" ∧
      result.account.recoveryKeyHash = Sha256.hexdigest result.recoveryKey := by
  cases effect with
  | nothing _ notActivated => exact absurd rfl (notActivated result)
  | activated _ _ _ _ _ _ named isKey => exact ⟨Dict.get?_set_self _ _ _, named, isKey⟩

theorem accountOf_ofString (accountId : String) :
    registry.accountOf (PyStr.ofString accountId) = registry.accounts.get? accountId := by
  rw [accountOf, PyStr.text?_ofString, Option.bind_some]

theorem ofString_ne_nil
    {text : String}
    (nonempty : text ≠ "") : PyStr.ofString text ≠ [] := by
  intro isEmpty
  exact nonempty (PyStr.ofString_injective isEmpty)

/-- A key is verified when it is a text with the digest of the account. -/
theorem verifyRecoveryKey_eq_ok
    {account : AccountRecord}
    (stored : registry.accounts.get? account.accountId = some account)
    (named : account.accountId ≠ "")
    (key : PyStr) :
    registry.verifyRecoveryKey (.ofText account.accountId) (.str key) = .ok true ↔
      key ≠ [] ∧ hashSecret key = .ok account.recoveryKeyHash := by
  rw [PyJson.ofText, verifyRecoveryKey, accountOf_ofString, stored]
  by_cases isEmpty : key = []
  · simp [isEmpty]
  · rw [if_neg (not_or.mpr ⟨ofString_ne_nil named, isEmpty⟩)]
    simp only [Checks.bind_eq_ok, Checks.pure_eq_ok, decide_eq_true_eq, ne_eq, isEmpty,
      not_false_eq_true, true_and]
    constructor
    · rintro ⟨digest, hashed, same⟩
      rw [hashed, same]
    · intro hashed
      exact ⟨_, hashed, rfl⟩

/-- Whatever is called before and after an activation,
the account is found unchanged, its recovery key is verified, and a text is verified only
when it has the digest of that key. -/
theorem verifyRecoveryKey_run
    {before after : List AccessCall}
    {call : AccessCall}
    {result : ActivationResult}
    (activated : ((empty.run before).perform call).1 = .activated result) :
    let registry := empty.run (before ++ call :: after)
    registry.account (.ofText result.account.accountId) = .ok result.account ∧
      (result.recoveryKey ≠ "" →
        registry.verifyRecoveryKey (.ofText result.account.accountId) (.ofText result.recoveryKey) =
          .ok true) ∧
      ∀ key : PyStr,
        registry.verifyRecoveryKey (.ofText result.account.accountId) (.str key) = .ok true ↔
          key ≠ [] ∧ hashSecret key = .ok (Sha256.hexdigest result.recoveryKey) := by
  have sound := sound_run before
  have effect := effect_perform sound call
  rw [activated] at effect
  obtain ⟨isStored, named, isKey⟩ := effect.get?_activated
  have stored := get?_accounts_run (sound.of_effect effect) after isStored
  have isRun : empty.run (before ++ call :: after) =
      ((empty.run before).perform call).2.run after := by
    rw [run, List.foldl_append, List.foldl_cons]
    rfl
  rw [isRun]
  dsimp only
  refine ⟨?_, ?_, ?_⟩
  · simp only [PyJson.ofText, account, accountOf_ofString, stored, Checks.bind_done_eq_ok,
      Checks.require_eq_ok, Checks.requireSome_eq_ok, and_true]
    exact ofString_ne_nil named
  · intro nonempty
    rw [show PyJson.ofText result.recoveryKey = .str (PyStr.ofString result.recoveryKey) from rfl,
      verifyRecoveryKey_eq_ok stored named, hashSecret_ofString, isKey]
    exact ⟨ofString_ne_nil nonempty, rfl⟩
  · intro key
    rw [verifyRecoveryKey_eq_ok stored named, isKey]

/-! ### Secrets -/

/-- A call with digests in place of secrets. -/
inductive RedactedCall
  | issueInvite (expiresAt : DateTime) (profile : PyJson) (now : DateTime)
      (codeHashes : List String) (inviteId : String)
  | activateInvite (codeHash : Result String) (now : DateTime) (accountIds : List String)
      (tenantId aliasHex recoveryKeyHash : String)
  | verifyRecoveryKey (accountId : PyJson) (digest : Option (Result String))
  | account (accountId : PyJson)

/-- The digest of a key that is a proper text. -/
def keyDigest? : PyJson → Option (Result String)
  | .str key => if key = [] then none else some (hashSecret key)
  | _ => none

/-- The call with digests in place of its secrets. -/
def redact : AccessCall → RedactedCall
  | .issueInvite expiresAt profile now draws =>
      .issueInvite expiresAt profile now
        (draws.tokens.map fun token => Sha256.hexdigest (invitePrefix ++ token)) draws.inviteId
  | .activateInvite code now draws =>
      .activateInvite (inviteHash code) now draws.accountIds draws.tenantId draws.aliasHex
        (Sha256.hexdigest draws.recoveryKey)
  | .verifyRecoveryKey accountId recoveryKey =>
      .verifyRecoveryKey accountId (keyDigest? recoveryKey)
  | .account accountId => .account accountId

/-- An outcome with digests in place of secrets. -/
inductive RedactedOutcome
  | issued (codeHash : String)
  | activated (account : AccountRecord) (tenant : TenantContext) (recoveryKeyHash : String)
  | verified (isKey : Bool)
  | found (account : AccountRecord)
  | failed (failure : AccessFailure)

/-- The outcome with digests in place of its secrets. -/
def redactOutcome : AccessOutcome → RedactedOutcome
  | .issued code => .issued (Sha256.hexdigest code)
  | .activated result =>
      .activated result.account result.tenant (Sha256.hexdigest result.recoveryKey)
  | .verified isKey => .verified isKey
  | .found account => .found account
  | .failed failure => .failed failure

/-- What is seen of a call: its outcome without secrets, and the registry after it. -/
def observe (registry : AccessRegistry) (call : AccessCall) : RedactedOutcome × AccessRegistry :=
  (redactOutcome (registry.perform call).1, (registry.perform call).2)

/-- The digest of the first code that is new is the first digest that is new. -/
theorem map_find?_codes
    (registry : AccessRegistry)
    (tokens : List String) :
    ((tokens.map (invitePrefix ++ ·)).find? fun code =>
        (registry.invitesByHash.get? (Sha256.hexdigest code)).isNone).map Sha256.hexdigest =
      (tokens.map fun token => Sha256.hexdigest (invitePrefix ++ token)).find? fun codeHash =>
        (registry.invitesByHash.get? codeHash).isNone := by
  have split : (tokens.map fun token => Sha256.hexdigest (invitePrefix ++ token)) =
      (tokens.map (invitePrefix ++ ·)).map Sha256.hexdigest := by
    rw [List.map_map]
    rfl
  rw [split]
  exact (@List.find?_map _ _ (fun codeHash => (registry.invitesByHash.get? codeHash).isNone)
    Sha256.hexdigest (tokens.map (invitePrefix ++ ·))).symm

/-- An issue depends on its tokens through the digests of their codes. -/
theorem map_issueInvite_congr
    {left right : IssueDraws}
    (sameHashes : (left.tokens.map fun token => Sha256.hexdigest (invitePrefix ++ token)) =
      right.tokens.map fun token => Sha256.hexdigest (invitePrefix ++ token))
    (sameId : left.inviteId = right.inviteId)
    (registry : AccessRegistry)
    (expiresAt now : DateTime)
    (profile : PyJson) :
    (registry.issueInvite expiresAt profile now left).map (Prod.map Sha256.hexdigest id) =
      (registry.issueInvite expiresAt profile now right).map (Prod.map Sha256.hexdigest id) := by
  have sameCode := congrArg (List.find? fun codeHash =>
    (registry.invitesByHash.get? codeHash).isNone) sameHashes
  rw [← map_find?_codes, ← map_find?_codes] at sameCode
  simp only [issueInvite, Checks.map_bind]
  congr 1
  funext current
  congr 1
  funext expiry
  congr 1
  funext normalized
  congr 1
  funext _
  generalize (left.tokens.map (invitePrefix ++ ·)).find? _ = leftCode at sameCode ⊢
  generalize (right.tokens.map (invitePrefix ++ ·)).find? _ = rightCode at sameCode ⊢
  cases leftCode with
  | none =>
      rw [Option.map_none, eq_comm, Option.map_eq_none_iff] at sameCode
      rw [sameCode]
      rfl
  | some code =>
      rw [Option.map_some, eq_comm, Option.map_eq_some_iff] at sameCode
      obtain ⟨other, rfl, sameHash⟩ := sameCode
      simp only [requireSome, Checks.ok_bind, sameHash, sameId]
      exact congrArg (fun codeHash => Except.ok (codeHash, _)) sameHash.symm

/-- An activation depends on its draws through the digest of the key. -/
theorem activation_congr
    {left right : ActivationDraws}
    (sameIds : left.accountIds = right.accountIds)
    (sameTenant : left.tenantId = right.tenantId)
    (sameAlias : left.aliasHex = right.aliasHex)
    (sameKey : Sha256.hexdigest left.recoveryKey = Sha256.hexdigest right.recoveryKey)
    (registry : AccessRegistry)
    (codeHash : String)
    (current : DateTime) :
    registry.activation codeHash current left = registry.activation codeHash current right := by
  simp only [activation, sameIds, sameTenant, sameAlias, sameKey]

/-- `verify_recovery_key` of a key that is given by its digest. -/
def verifyDigest (registry : AccessRegistry) : PyJson → Option (Result String) → Result Bool
  | .str accountId, some digest =>
      if accountId = [] then .ok false
      else
        match registry.accountOf accountId with
        | none => .ok false
        | some account => do return decide (account.recoveryKeyHash = (← digest))
  | _, _ => .ok false

/-- A key is verified by its digest. -/
theorem verifyRecoveryKey_eq
    (registry : AccessRegistry)
    (accountId recoveryKey : PyJson) :
    registry.verifyRecoveryKey accountId recoveryKey =
      registry.verifyDigest accountId (keyDigest? recoveryKey) := by
  cases accountId with
  | str accountId =>
      cases recoveryKey with
      | str key =>
          by_cases isEmpty : key = []
          · simp [verifyRecoveryKey, keyDigest?, verifyDigest, isEmpty]
          · cases found : registry.accountOf accountId with
            | none => simp [verifyRecoveryKey, keyDigest?, isEmpty, verifyDigest, found]
            | some account => simp [verifyRecoveryKey, keyDigest?, isEmpty, verifyDigest, found]
      | _ => rfl
  | _ => rfl

/-- What is seen of a call depends on its secrets through their digests. -/
theorem observe_congr
    {left right : AccessCall}
    (same : redact left = redact right)
    (registry : AccessRegistry) : registry.observe left = registry.observe right := by
  cases left with
  | issueInvite expiresAt profile now draws =>
      cases right with
      | issueInvite expiresAt' profile' now' draws' =>
          obtain ⟨rfl, rfl, rfl, sameHashes, sameId⟩ := RedactedCall.issueInvite.inj same
          have views := map_issueInvite_congr sameHashes sameId registry expiresAt now profile
          cases issued : registry.issueInvite expiresAt profile now draws with
          | error failure =>
              cases issued' : registry.issueInvite expiresAt profile now draws' with
              | error failure' =>
                  rw [issued, issued'] at views
                  obtain rfl := Except.error.inj views
                  rw [observe, observe, perform_of_refused issued, perform_of_refused issued']
              | ok pair' =>
                  rw [issued, issued'] at views
                  cases views
          | ok pair =>
              cases issued' : registry.issueInvite expiresAt profile now draws' with
              | error failure' =>
                  rw [issued, issued'] at views
                  cases views
              | ok pair' =>
                  rw [issued, issued'] at views
                  rw [observe, observe, perform_of_issued issued, perform_of_issued issued']
                  exact congrArg (Prod.map RedactedOutcome.issued id) (Except.ok.inj views)
      | _ => cases same
  | activateInvite code now draws =>
      cases right with
      | activateInvite code' now' draws' =>
          obtain ⟨sameHash, rfl, sameIds, sameTenant, sameAlias, sameKey⟩ :=
            RedactedCall.activateInvite.inj same
          have sameActivation := activation_congr sameIds sameTenant sameAlias sameKey registry
          simp only [observe, perform, activateInvite, sameHash, sameActivation]
          generalize (awareUtc now .activationTimezoneRequired >>= fun current =>
            inviteHash code' >>= fun codeHash =>
              registry.activation codeHash current draws' >>= fun pair =>
                pure (codeHash, pair)) = found
          cases found with
          | error failure => rfl
          | ok triple =>
              obtain ⟨codeHash, invite, account⟩ := triple
              dsimp only
              cases TenantContext.postInit
                  ⟨account.tenantId, account.accountId, invite.featureProfile⟩ with
              | error failure => rfl
              | ok tenant =>
                  exact congrArg (fun keyHash =>
                    (RedactedOutcome.activated account tenant keyHash, _)) sameKey
      | _ => cases same
  | verifyRecoveryKey accountId recoveryKey =>
      cases right with
      | verifyRecoveryKey accountId' recoveryKey' =>
          obtain ⟨rfl, sameDigest⟩ := RedactedCall.verifyRecoveryKey.inj same
          simp only [observe, perform, verifyRecoveryKey_eq, sameDigest]
      | _ => cases same
  | account accountId =>
      cases right with
      | account accountId' =>
          obtain rfl := RedactedCall.account.inj same
          rfl
      | _ => cases same

/-- Secrets are not kept: runs whose calls differ in codes and recovery keys with the same
digests leave the same registry, and their outcomes differ in such secrets only. -/
theorem run_congr
    {left right : List AccessCall}
    (same : left.map redact = right.map redact)
    (registry : AccessRegistry) :
    registry.run left = registry.run right ∧
      (registry.outcomes left).map redactOutcome = (registry.outcomes right).map redactOutcome := by
  induction left generalizing right registry with
  | nil =>
      obtain rfl := List.map_eq_nil_iff.mp same.symm
      exact ⟨rfl, rfl⟩
  | cons call calls inductionHypothesis =>
      cases right with
      | nil => cases same
      | cons call' calls' =>
          obtain ⟨sameCall, sameRest⟩ := List.cons.inj same
          obtain ⟨sameOutcome, sameAfter⟩ := Prod.ext_iff.mp (observe_congr sameCall registry)
          obtain ⟨sameRun, sameOutcomes⟩ :=
            inductionHypothesis sameRest (registry.perform call).2
          rw [observe, observe] at sameAfter sameOutcome
          dsimp only at sameAfter sameOutcome
          rw [sameAfter] at sameOutcomes
          rw [run, run, sameAfter] at sameRun
          refine ⟨?_, ?_⟩
          · rw [run, List.foldl_cons, sameAfter]
            exact sameRun
          · rw [outcomes, outcomes, List.map_cons, List.map_cons, sameOutcome, sameAfter,
              sameOutcomes]

/-! ### An invite that is used -/

theorem firstDay : 1 ≤ 2026 ∧ 2026 ≤ 9999 ∧ 1 ≤ 1 ∧ 1 ≤ 12 ∧ 1 ≤ 1 ∧
    1 ≤ Calendar.daysInMonth 2026 1 := by
  decide

theorem secondDay : 1 ≤ 2026 ∧ 2026 ≤ 9999 ∧ 1 ≤ 1 ∧ 1 ≤ 12 ∧ 1 ≤ 2 ∧
    2 ≤ Calendar.daysInMonth 2026 1 := by
  decide

theorem midnight : 0 < 24 ∧ 0 < 60 ∧ 0 < 60 ∧ 0 < 1000000 := by
  decide

theorem accountIds_nonempty : ∀ accountId ∈ ["account"], accountId ≠ "" := by
  decide

theorem tenantId_nonempty : "tenant" ≠ "" := by
  decide

/-- An invite for a day. -/
def sampleIssue : AccessCall :=
  .issueInvite ⟨2026, 1, 2, 0, 0, 0, 0, some 0, secondDay, midnight⟩ (.ofText "PILOT_TESTER")
    ⟨2026, 1, 1, 0, 0, 0, 0, some 0, firstDay, midnight⟩ ⟨["token"], "invite"⟩

/-- Its activation. -/
def sampleActivation : AccessCall :=
  .activateInvite (.ofText "QINV-token") ⟨2026, 1, 1, 0, 0, 0, 0, some 0, firstDay, midnight⟩
    ⟨["account"], "tenant", "00", "key", accountIds_nonempty, tenantId_nonempty⟩

/-- The account stays when the invite is activated again. -/
theorem verifyRecoveryKey_run_sample :
    ∃ result, ((empty.run [sampleIssue]).perform sampleActivation).1 = .activated result ∧
      (empty.run [sampleIssue, sampleActivation, sampleActivation]).account
        (.ofText result.account.accountId) = .ok result.account := by
  have isActivation : (activation? sampleActivation
      ((empty.run [sampleIssue]).perform sampleActivation).1).isSome = true := by
    decide +kernel
  cases outcome : ((empty.run [sampleIssue]).perform sampleActivation).1 with
  | activated result =>
      have life := @verifyRecoveryKey_run [sampleIssue] [sampleActivation] _ _ outcome
      exact ⟨result, rfl, life.1⟩
  | _ =>
      rw [outcome] at isActivation
      cases isActivation

/-- Keys that are no texts have the same digest, which is none. -/
theorem run_congr_sample :
    empty.run [sampleIssue, sampleActivation, .verifyRecoveryKey (.ofText "account") .null] =
      empty.run [sampleIssue, sampleActivation, .verifyRecoveryKey (.ofText "account") (.int 7)] :=
  (run_congr rfl empty).1

end AccessRegistry
end Access
end QuantumAnalytics
