import QuantumAnalytics.Foundations.Dict
import QuantumAnalytics.Foundations.PyJson

/-!
# Dependency registers

`validate_register` of the dependency admission: which components a register names, and
which errors it has under a license policy.
-/

namespace QuantumAnalytics
namespace Dependencies

/-- What the validators ask of the interpreter. -/
structure AdmissionContext where
  /-- `date.today()`: year, month and day. -/
  today : Nat × Nat × Nat
  /-- `str.isalnum` on one character, which `\b` depends on. -/
  isAlnum : Char → Bool

/-- An error unless the condition holds. -/
def errorUnless (holds : Bool) (error : PyStr) : List PyStr := if holds then [] else [error]

/-- `f"{name}:{code}"`. -/
def named (name : PyStr) (code : String) : PyStr := name ++ PyStr.ofString ":" ++ PyStr.ofString code

/-- `mapping.get(key, default)`. -/
def getOr (fields : PyObject) (key : String) (default : PyJson) : PyJson :=
  ((fields.find? fun field => field.1 = PyStr.ofString key).map Prod.snd).getD default

/-- `value is True` or `value is False`. -/
def isBool (value : PyJson) (flag : Bool) : Bool :=
  match value with
  | .bool other => other == flag
  | _ => false

/-! ### Patterns -/

/-- The characters of a text. No pattern tells a lone surrogate from U+FFFD. -/
def patternChars (text : PyStr) : List Char := text.map fun
  | .scalar c => c
  | .surrogate _ => '\uFFFD'

/-- The character matches a small letter of a pattern under `re.IGNORECASE`. -/
def matchesLetter (letter c : Char) : Bool :=
  c == letter || c.toLower == letter || (letter == 'i' && (c == 'İ' || c == 'ı')) ||
    (letter == 's' && c == 'ſ') || (letter == 'k' && c == '\u212A')

/-- `[A-Za-z0-9]` under `re.IGNORECASE`. -/
def isAlnumIgnoringCase (c : Char) : Bool :=
  c.isAlphanum || c == 'İ' || c == 'ı' || c == 'ſ' || c == '\u212A'

/-- What follows a word of a pattern. -/
def afterWord : (word text : List Char) → Option (List Char)
  | [], text => some text
  | _ :: _, [] => none
  | letter :: word, c :: text => if matchesLetter letter c then afterWord word text else none

/-- `pattern.search`: somewhere one of the words stands between what the pattern asks of
the character in front of it and of the text behind it. -/
def searchWord (starts : Option Char → Bool) (words : List String) (ends : List Char → Bool) :
    Option Char → List Char → Bool
  | front, [] => starts front && words.any fun word => (afterWord word.toList []).any ends
  | front, c :: text =>
      (starts front && words.any fun word => (afterWord word.toList (c :: text)).any ends) ||
        searchWord starts words ends (some c) text

/-- `$`. -/
def isEnd (text : List Char) : Bool := text.isEmpty || text == ['\n']

/-- `EXACT_VERSION.fullmatch`: digits, then texts of letters, digits and `-` behind dots. -/
def isExactVersion (text : PyStr) : Bool :=
  match (patternChars text).splitOn '.' with
  | whole :: part :: parts =>
      !whole.isEmpty && whole.all Char.isDigit &&
        (part :: parts).all fun part => !part.isEmpty && part.all fun c => c.isAlphanum || c == '-'
  | _ => false

/-- `DEV_TEST_SCOPE.search`. -/
def isDevTestScope (text : PyStr) : Bool :=
  searchWord (fun front => front.all (· == '_')) ["dev", "development", "test", "testing", "ci"]
    (fun rest => isEnd rest || rest.head? == some '_') none (patternChars text)

/-- The words of a development or test use. -/
def devTestWords : List String :=
  ["development", "dev", "test", "tests", "testing", "ci", "regression"]

/-- `DEV_TEST_ALLOWED_USE.search`. -/
def isDevTestUse (text : PyStr) : Bool :=
  searchWord (fun front => front.all (!isAlnumIgnoringCase ·)) devTestWords
    (fun rest => rest.head?.all (!isAlnumIgnoringCase ·)) none (patternChars text)

/-- `_DEV_TEST_USE_PREFIX.search`. -/
def beginsDevTestUse (context : AdmissionContext) (text : List Char) : Bool :=
  devTestWords.any fun word => (afterWord word.toList text).any fun rest =>
    rest.head?.all fun c => c == '_' || !context.isAlnum c

/-- `_PRODUCTION_USE_TOKEN.search`. -/
def isProductionUse (text : PyStr) : Bool :=
  searchWord (fun front => front.all (!isAlnumIgnoringCase ·))
    ["production", "runtime", "prod", "live", "operational", "operation", "operations", "deploy",
      "deployment", "deployments", "deployed", "deploying", "customer-facing", "customer_facing",
      "user-facing", "user_facing"]
    (fun rest => rest.head?.all (!isAlnumIgnoringCase ·)) none (patternChars text)

/-- `_PRERELEASE_VERSION.search`. -/
def isPrerelease (text : PyStr) : Bool :=
  (patternChars text).contains '-' ||
    searchWord (fun front => front.all fun c => c.isDigit || c == '.')
      ["a", "alpha", "b", "beta", "rc", "pre", "preview", "dev"]
      (fun rest =>
        let rest := rest.dropWhile fun c => (PyText.decimalDigit? c).isSome
        isEnd rest || rest.head? == some '.')
      none (patternChars text)

/-- `bool(value.strip())`. -/
def isBlank (text : PyStr) : Bool := (PyText.strip (patternChars text)).isEmpty

/-! ### License policies -/

/-- `_policy_string_set`: the texts, and the errors. -/
def policyStringSet (licensePolicy : PyObject) (field invalidCode duplicateCode : String) :
    List PyStr × List PyStr :=
  match getOr licensePolicy field (.arr []) with
  | .arr values => values.foldl (fun (result, errors) value =>
      match value with
      | .str text =>
          if text.isEmpty then (result, errors ++ [PyStr.ofString invalidCode])
          else if result.contains text then (result, errors ++ [named text duplicateCode])
          else (result ++ [text], errors)
      | _ => (result, errors ++ [PyStr.ofString invalidCode])) ([], [])
  | _ => ([], [PyStr.ofString invalidCode])

/-- `SUPPORTED_CONDITIONAL_LICENSE_CONDITIONS`, which are also the mandatory ones of
`MPL-2.0`. -/
def supportedConditions : List PyStr :=
  ["development_or_test_scope_only", "no_vendored_modified_source_without_legal_review",
    "license_and_notice_retained"].map PyStr.ofString

/-- The texts of a list of non-empty strings. -/
def nonemptyTexts? : List PyJson → Option (List PyStr)
  | [] => some []
  | .str text :: values => if text.isEmpty then none else (nonemptyTexts? values).map (text :: ·)
  | _ :: _ => none

/-- One turn of `_conditional_license_rules`. -/
def addConditionalLicense (rules : List (PyStr × List PyStr)) (item : PyJson) :
    Except PyStr (List (PyStr × List PyStr)) :=
  match item with
  | .obj fields =>
      match PyJson.get fields "license" with
      | .str licenseId =>
          if licenseId.isEmpty then .error (PyStr.ofString "CONDITIONAL_LICENSE_ID_INVALID")
          else if (rules.map Prod.fst).contains licenseId then
            .error (named licenseId "CONDITIONAL_LICENSE_DUPLICATE")
          else
            match PyJson.get fields "conditions" with
            | .arr (value :: values) =>
                match nonemptyTexts? (value :: values) with
                | none => .error (named licenseId "LICENSE_CONDITIONS_INVALID")
                | some conditions =>
                    if ¬conditions.Nodup then .error (named licenseId "LICENSE_CONDITION_DUPLICATE")
                    else if conditions.all supportedConditions.contains then
                      .ok (rules ++ [(licenseId, conditions)])
                    else .error (named licenseId "LICENSE_CONDITION_UNSUPPORTED")
            | _ => .error (named licenseId "LICENSE_CONDITIONS_INVALID")
      | _ => .error (PyStr.ofString "CONDITIONAL_LICENSE_ID_INVALID")
  | _ => .error (PyStr.ofString "CONDITIONAL_LICENSE_OBJECT_REQUIRED")

/-- `_conditional_license_rules`: the conditions of each license, and the errors. -/
def conditionalLicenseRules (licensePolicy : PyObject) :
    List (PyStr × List PyStr) × List PyStr :=
  match getOr licensePolicy "conditional_licenses" (.arr []) with
  | .arr items => items.foldl (fun (rules, errors) item =>
      match addConditionalLicense rules item with
      | .ok rules => (rules, errors)
      | .error error => (rules, errors ++ [error])) ([], [])
  | _ => ([], [PyStr.ofString "CONDITIONAL_LICENSES_INVALID"])

/-- `_validate_mpl_policy`. -/
def mplPolicyErrors (licensePolicy : PyObject) : List PyStr :=
  let conditions : List PyJson :=
    match PyJson.get licensePolicy "conditional_licenses" with
    | .arr items =>
        let rule := items.findSome? fun
          | .obj fields => if (PyJson.get fields "license").isText "MPL-2.0" then some fields else none
          | _ => none
        match rule.map fun fields => PyJson.get fields "conditions" with
        | some (.arr conditions) => conditions
        | _ => []
    | _ => []
  errorUnless (supportedConditions.all fun condition => conditions.any (PyJson.pyEq · (.str condition)))
    (PyStr.ofString "MPL-2.0:MANDATORY_CONDITIONS_MISSING")

/-! ### Components -/

/-- `ALLOWED_STATUSES`. -/
def allowedStatuses : List String :=
  ["APPROVED_FOR_FUTURE_INTEGRATION", "APPROVED_DEV_TEST_ONLY",
    "APPROVED_PENDING_REGISTRY_CONFIRMATION", "AUDIT_REQUIRED"]

/-- `isinstance(value, str) and holds(value)`. -/
def isStrWith (value : PyJson) (holds : PyStr → Bool) : Bool :=
  match value with
  | .str text => holds text
  | _ => false

/-- `_validate_dev_test_scope`. -/
def devTestScopeErrors (component : PyObject) (name : PyStr) : List PyStr :=
  errorUnless (isStrWith (PyJson.get component "scope") isDevTestScope)
      (named name "CONDITIONAL_LICENSE_SCOPE_DESCRIPTOR_VIOLATION") ++
    errorUnless
      (match PyJson.get component "allowed_use" with
        | .arr (value :: values) => (value :: values).all fun value =>
            isStrWith value fun text => !isBlank text && isDevTestUse text
        | _ => false)
      (named name "CONDITIONAL_LICENSE_ALLOWED_USE_VIOLATION")

/-- The list holds the text. -/
def listsText (value : PyJson) (text : String) : Bool :=
  match value with
  | .arr items => items.any (·.isText text)
  | _ => false

/-- The errors of a component under the conditions of its license. -/
def conditionErrors (licensePolicy component : PyObject) (name : PyStr)
    (conditions : List PyStr) : List PyStr :=
  (if conditions.contains (PyStr.ofString "development_or_test_scope_only") then
      errorUnless ((PyJson.get component "status").isText "APPROVED_DEV_TEST_ONLY")
          (named name "CONDITIONAL_LICENSE_SCOPE_VIOLATION") ++
        devTestScopeErrors component name
    else []) ++
  (if conditions.contains (PyStr.ofString "no_vendored_modified_source_without_legal_review") then
      errorUnless (listsText (PyJson.get component "prohibited_use")
          "vendoring modified source without review")
        (named name "CONDITIONAL_LICENSE_VENDORING_GUARD_REQUIRED")
    else []) ++
  (if conditions.contains (PyStr.ofString "license_and_notice_retained") then
      errorUnless
        (match PyJson.get licensePolicy "rules" with
          | .obj rules => isBool (PyJson.get rules "license_notice_required") true
          | _ => false)
        (named name "CONDITIONAL_LICENSE_NOTICE_POLICY_REQUIRED")
    else [])

/-- What `validate_register` reads of a license policy. -/
structure LicenseRules where
  approved : List PyStr
  conditional : List (PyStr × List PyStr)
  prohibited : List PyStr

/-- The license of a component is admitted. -/
def LicenseRules.admits (rules : LicenseRules) (licenseId : PyStr) : Bool :=
  !rules.prohibited.contains licenseId &&
    (rules.approved.contains licenseId || (rules.conditional.map Prod.fst).contains licenseId)

/-- The errors of a named component, its ecosystem apart. -/
def componentErrors (rules : LicenseRules) (licensePolicy component : PyObject) (name : PyStr) :
    List PyStr :=
  errorUnless (isStrWith (PyJson.get component "version") isExactVersion)
      (named name "EXACT_VERSION_REQUIRED") ++
    (if (PyJson.get component "license").isNonemptyString then
        errorUnless (isStrWith (PyJson.get component "license") rules.admits)
          (named name "LICENSE_NOT_ADMITTED")
      else [named name "LICENSE_ID_INVALID"]) ++
    errorUnless ((PyJson.get component "status").isAllowedString allowedStatuses)
      (named name "STATUS_INVALID") ++
    (match PyJson.get component "license" with
      | .str licenseId =>
          match rules.conditional.lookup licenseId with
          | some conditions => conditionErrors licensePolicy component name conditions
          | none => []
      | _ => []) ++
    errorUnless (isBool (PyJson.get component "installation_authorized") false)
      (named name "INSTALLATION_NOT_AUTHORIZED") ++
    errorUnless (isBool (PyJson.get component "transitive_dependency_review_required") true)
      (named name "TRANSITIVE_REVIEW_REQUIRED") ++
    errorUnless (isStrWith (PyJson.get component "source_url") fun url =>
        (PyStr.ofString "https://").isPrefixOf url)
      (named name "HTTPS_SOURCE_REQUIRED")

/-- The loop over the components, with the keys that it has seen. -/
def componentsErrors (rules : LicenseRules) (licensePolicy : PyObject) :
    List (PyStr × PyStr) → List PyJson → List PyStr
  | _, [] => []
  | seen, .obj component :: components =>
      match PyJson.get component "name" with
      | .str name =>
          if name.isEmpty then
            PyStr.ofString "COMPONENT_NAME_INVALID" ::
              componentsErrors rules licensePolicy seen components
          else
            let ecosystem := PyJson.get component "ecosystem"
            match ecosystem with
            | .str text =>
                if ecosystem.isAllowedString ["PyPI", "npm"] then
                  errorUnless (!seen.contains (text, name)) (named name "DUPLICATE_COMPONENT") ++
                    componentErrors rules licensePolicy component name ++
                    componentsErrors rules licensePolicy ((text, name) :: seen) components
                else
                  named name "ECOSYSTEM_INVALID" ::
                    componentErrors rules licensePolicy component name ++
                    componentsErrors rules licensePolicy seen components
            | _ =>
                named name "ECOSYSTEM_INVALID" ::
                  componentErrors rules licensePolicy component name ++
                  componentsErrors rules licensePolicy seen components
      | _ =>
          PyStr.ofString "COMPONENT_NAME_INVALID" ::
            componentsErrors rules licensePolicy seen components
  | seen, _ :: components =>
      PyStr.ofString "COMPONENT_OBJECT_REQUIRED" ::
        componentsErrors rules licensePolicy seen components

/-- The last component of a name, or no members. -/
def componentNamed (components : List PyJson) (name : String) : PyObject :=
  (components.reverse.findSome? fun
    | .obj component =>
        if (PyJson.get component "name").isText name then some component else none
    | _ => none).getD []

/-- What `wbsdk` must not be used for. -/
def requiredBlocks : List String :=
  ["price writes", "stock writes", "card writes", "promotion writes", "order cancellation",
    "supply writes", "media writes", "direct use by domain services"]

/-- The errors of `hypothesis` and `wbsdk`. -/
def knownComponentErrors (components : List PyJson) : List PyStr :=
  let hypothesis := componentNamed components "hypothesis"
  let wbsdk := componentNamed components "wbsdk"
  errorUnless ((PyJson.get hypothesis "status").isText "APPROVED_DEV_TEST_ONLY")
      (PyStr.ofString "HYPOTHESIS_MUST_BE_DEV_TEST_ONLY") ++
    errorUnless ((PyJson.get hypothesis "license").isText "MPL-2.0")
      (PyStr.ofString "HYPOTHESIS_LICENSE_POLICY_MISMATCH") ++
    errorUnless ((PyJson.get wbsdk "status").isText "AUDIT_REQUIRED")
      (PyStr.ofString "WBSDK_MUST_REMAIN_AUDIT_REQUIRED") ++
    errorUnless (isBool (PyJson.get wbsdk "read_only_facade_required") true)
      (PyStr.ofString "WBSDK_READ_ONLY_FACADE_REQUIRED") ++
    errorUnless (isBool (PyJson.get wbsdk "write_methods_exposed") true)
      (PyStr.ofString "WBSDK_WRITE_CAPABILITY_MUST_BE_RECORDED") ++
    errorUnless
      (match getOr wbsdk "prohibited_use" (.arr []) with
        | .arr uses => uses.all PyJson.isNonemptyString &&
            requiredBlocks.all fun block => uses.any (·.isText block)
        | _ => false)
      (PyStr.ofString "WBSDK_WRITE_DENYLIST_INCOMPLETE")

/-! ### Registers -/

/-- `validate_register` of `admission`. -/
def validateRegisterCore (register licensePolicy : PyObject) : List PyStr :=
  let (approved, approvedErrors) := policyStringSet licensePolicy "approved_direct_licenses"
    "APPROVED_DIRECT_LICENSES_INVALID" "APPROVED_DIRECT_LICENSE_DUPLICATE"
  let (conditional, conditionalErrors) := conditionalLicenseRules licensePolicy
  let (prohibited, prohibitedErrors) := policyStringSet licensePolicy
    "prohibited_direct_integration" "PROHIBITED_DIRECT_LICENSES_INVALID"
    "PROHIBITED_DIRECT_LICENSE_DUPLICATE"
  let licenses := conditional.map Prod.fst
  -- A set has no order; here the approved licenses come first.
  let conflicts := (approved.filter fun licenseId =>
      prohibited.contains licenseId || licenses.contains licenseId) ++
    licenses.filter fun licenseId => prohibited.contains licenseId && !approved.contains licenseId
  errorUnless ((PyJson.get register "stage").isText "OSS_DEPENDENCY_ADMISSION")
      (PyStr.ofString "ADMISSION_STAGE_INVALID") ++
    errorUnless (isBool (PyJson.get register "runtime_installation_authorized") false)
      (PyStr.ofString "RUNTIME_INSTALLATION_MUST_REMAIN_BLOCKED") ++
    errorUnless (isBool (PyJson.get register "marketplace_write_enabled") false)
      (PyStr.ofString "MARKETPLACE_WRITES_MUST_REMAIN_BLOCKED") ++
    approvedErrors ++ conditionalErrors ++ prohibitedErrors ++
    conflicts.map (named · "LICENSE_POLICY_CONFLICT") ++
    match PyJson.get register "components" with
    | .arr (component :: components) =>
        componentsErrors ⟨approved, conditional, prohibited⟩ licensePolicy []
            (component :: components) ++
          knownComponentErrors (component :: components)
    | _ => [PyStr.ofString "COMPONENTS_REQUIRED"]

/-- `_append_unique`. -/
def appendUnique (errors : List PyStr) (error : PyStr) : List PyStr :=
  if errors.contains error then errors else errors ++ [error]

/-- `_has_bounded_prerelease_approval`. -/
def hasBoundedPrereleaseApproval (context : AdmissionContext) (component : PyObject) : Bool :=
  match PyJson.get component "prerelease_bounded_experiment" with
  | .obj approval =>
      isBool (PyJson.get approval "approved") true &&
        isStrWith (PyJson.get approval "approval_id") (!isBlank ·) &&
        isStrWith (PyJson.get approval "expires_on") (fun text =>
          let chars := patternChars text
          [7, 8, 10].contains chars.length &&
            ((DateTime.parseDate chars).bind fun date => DateTime.make? date (0, 0, 0, 0) none).any
              fun expiry => Calendar.toOrdinal context.today.1 context.today.2.1 context.today.2.2 ≤
                Calendar.toOrdinal expiry.year expiry.month expiry.day) &&
        match PyJson.get approval "scope" with
        | .arr (value :: values) => (value :: values).all fun value => isStrWith value (!isBlank ·)
        | _ => false
  | _ => false

/-- `_validate_prerelease`. -/
def prereleaseErrors (context : AdmissionContext) (component : PyObject) (name : PyStr) :
    List PyStr :=
  errorUnless (!isStrWith (PyJson.get component "version") isPrerelease ||
      hasBoundedPrereleaseApproval context component)
    (named name "PRERELEASE_BOUNDED_EXPERIMENT_APPROVAL_REQUIRED")

/-- `_validate_dev_test_scope_exclusive`. -/
def devTestScopeExclusiveErrors (component : PyObject) (name : PyStr) : List PyStr :=
  errorUnless (!isStrWith (PyJson.get component "scope") isProductionUse)
    (named name "DEV_TEST_SCOPE_NOT_EXCLUSIVE")

/-- `_validate_dev_test_allowed_uses`. -/
def devTestAllowedUsesErrors (context : AdmissionContext) (component : PyObject) (name : PyStr) :
    List PyStr :=
  match PyJson.get component "allowed_use" with
  | .arr values =>
      errorUnless (values.all fun
          | .str text => isBlank text || (beginsDevTestUse context (PyText.strip (patternChars text)) &&
              !isProductionUse text)
          | _ => true)
        (named name "DEV_TEST_ALLOWED_USE_NOT_EXCLUSIVE")
  | _ => []

/-- What the public validator finds in a component. -/
def admissionErrors (context : AdmissionContext) (component : PyJson) : List PyStr :=
  match component with
  | .obj component =>
      match PyJson.get component "name" with
      | .str name =>
          if name.isEmpty then []
          else
            prereleaseErrors context component name ++
              if (PyJson.get component "status").isText "APPROVED_DEV_TEST_ONLY" then
                devTestScopeErrors component name ++ devTestScopeExclusiveErrors component name ++
                  devTestAllowedUsesErrors context component name
              else []
      | _ => []
  | _ => []

/-- The items of a list; other values have none. -/
def itemsOf (value : PyJson) : List PyJson :=
  match value with
  | .arr items => items
  | _ => []

/-- The public `validate_register`. -/
def validateRegister (context : AdmissionContext) (register licensePolicy : PyObject) :
    List PyStr :=
  (mplPolicyErrors licensePolicy ++
    (itemsOf (PyJson.get register "components")).flatMap (admissionErrors context)).foldl appendUnique
    (validateRegisterCore register licensePolicy)

end Dependencies
end QuantumAnalytics
