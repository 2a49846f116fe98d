import QuantumAnalytics.Dependencies.Register
import Mathlib.Data.Fintype.EquivFin
import Mathlib.Logic.Equiv.Basic

/-!
# Bills of materials

`validate_sbom` compares the packages of an SPDX document with the components of a
register. Both are collected under their names, so components of one name in two
ecosystems share a package.
-/

namespace QuantumAnalytics
namespace Dependencies

/-! ### The validator -/

/-- A version, a license and whether files were analyzed. -/
abbrev PackageFacts := PyJson × PyJson × PyJson

/-- `==` on items of a tuple, which are compared by identity first. -/
def itemEq (left right : PyJson) : Bool := PyJson.sameNan left right || PyJson.pyEq left right

/-- `==` on the facts. -/
def factsEq (left right : PackageFacts) : Bool :=
  itemEq left.1 right.1 && itemEq left.2.1 right.2.1 && itemEq left.2.2 right.2.2

/-- `actual == expected`. -/
def dictEq (actual expected : Dict PyStr PackageFacts) : Bool :=
  actual.entries.length == expected.entries.length &&
    actual.entries.all fun (name, facts) => (expected.get? name).any (factsEq facts)

/-- What the loop over the packages has collected. -/
structure PackageState where
  actual : Dict PyStr PackageFacts
  packageIds : List PyStr
  errors : List PyStr

/-- The name of a package is collected. -/
def PackageState.addName (state : PackageState) (package : PyObject) : PackageState :=
  match PyJson.get package "name" with
  | .str name =>
      if name.isEmpty then
        { state with errors := state.errors ++ [PyStr.ofString "SBOM_PACKAGE_NAME_INVALID"] }
      else if (state.actual.get? name).isSome then
        { state with errors := state.errors ++ [named name "SBOM_DUPLICATE_PACKAGE"] }
      else
        { state with
          actual := state.actual.set name (PyJson.get package "versionInfo",
            PyJson.get package "licenseDeclared", PyJson.get package "filesAnalyzed") }
  | _ => { state with errors := state.errors ++ [PyStr.ofString "SBOM_PACKAGE_NAME_INVALID"] }

/-- The id of a package is collected. -/
def PackageState.addId (state : PackageState) (package : PyObject) : PackageState :=
  match PyJson.get package "SPDXID" with
  | .str spdxId =>
      if spdxId.isEmpty then
        { state with errors := state.errors ++ [PyStr.ofString "SBOM_SPDXID_INVALID"] }
      else if state.packageIds.contains spdxId then
        { state with errors := state.errors ++ [named spdxId "SBOM_DUPLICATE_SPDXID"] }
      else { state with packageIds := state.packageIds ++ [spdxId] }
  | _ => { state with errors := state.errors ++ [PyStr.ofString "SBOM_SPDXID_INVALID"] }

/-- One package. -/
def PackageState.add (state : PackageState) (package : PyJson) : PackageState :=
  match package with
  | .obj package => (state.addName package).addId package
  | _ => { state with errors := state.errors ++ [PyStr.ofString "SBOM_PACKAGE_OBJECT_REQUIRED"] }

/-- One component: what is expected of the package of its name, and the errors. -/
def addExpected (state : Dict PyStr PackageFacts × List PyStr) (component : PyJson) :
    Dict PyStr PackageFacts × List PyStr :=
  match component with
  | .obj component =>
      match PyJson.get component "name" with
      | .str name =>
          if name.isEmpty then
            (state.1, state.2 ++ [PyStr.ofString "SBOM_REGISTER_COMPONENT_NAME_INVALID"])
          else
            (state.1.set name (PyJson.get component "version", PyJson.get component "license",
              .bool false), state.2)
      | _ => (state.1, state.2 ++ [PyStr.ofString "SBOM_REGISTER_COMPONENT_NAME_INVALID"])
  | _ => (state.1, state.2 ++ [PyStr.ofString "SBOM_REGISTER_COMPONENT_INVALID"])

/-- The errors of `documentDescribes`. -/
def describesErrors (sbom : PyObject) (packageIds : List PyStr) : List PyStr :=
  match PyJson.get sbom "documentDescribes" with
  | .arr items =>
      let described := items.filterMap fun
        | .str text => if text.isEmpty then none else some text
        | _ => none
      errorUnless (described.length == items.length)
          (PyStr.ofString "SBOM_DOCUMENT_DESCRIBES_INVALID") ++
        errorUnless (decide described.Nodup) (PyStr.ofString "SBOM_DOCUMENT_DESCRIBES_DUPLICATE") ++
        errorUnless (described.all packageIds.contains && packageIds.all described.contains)
          (PyStr.ofString "SBOM_DOCUMENT_DESCRIBES_MISMATCH")
  | _ => [PyStr.ofString "SBOM_DOCUMENT_DESCRIBES_REQUIRED"]

/-- `validate_sbom` of `admission`. -/
def validateSbomCore (register sbom : PyObject) : List PyStr :=
  let spdxErrors := errorUnless ((PyJson.get sbom "spdxVersion").isText "SPDX-2.3")
    (PyStr.ofString "SBOM_SPDX_VERSION_INVALID")
  match PyJson.get sbom "packages" with
  | .arr packages =>
      let collected := packages.foldl PackageState.add ⟨Dict.empty, [], []⟩
      let (expected, registerErrors) :=
        (itemsOf (PyJson.get register "components")).foldl addExpected
          (Dict.empty, match PyJson.get register "components" with
            | .arr _ => []
            | _ => [PyStr.ofString "SBOM_REGISTER_COMPONENTS_INVALID"])
      spdxErrors ++ collected.errors ++ registerErrors ++
        errorUnless (dictEq collected.actual expected) (PyStr.ofString "SBOM_REGISTER_MISMATCH") ++
        describesErrors sbom collected.packageIds
  | _ => spdxErrors ++ [PyStr.ofString "SBOM_PACKAGES_REQUIRED"]

/-- The license that a package of a name has to conclude. -/
def expectedLicenses (register : PyObject) : Dict PyStr PyJson :=
  (itemsOf (PyJson.get register "components")).foldl (fun licenses component =>
    match component with
    | .obj component =>
        match PyJson.get component "name" with
        | .str name =>
            if name.isEmpty then licenses else licenses.set name (PyJson.get component "license")
        | _ => licenses
    | _ => licenses) Dict.empty

/-- What the public validator finds in a package. -/
def concludedErrors (licenses : Dict PyStr PyJson) (package : PyJson) : List PyStr :=
  match package with
  | .obj package =>
      match PyJson.get package "name" with
      | .str name =>
          match licenses.get? name with
          | some license =>
              errorUnless (PyJson.pyEq (PyJson.get package "licenseConcluded") license)
                (named name "SBOM_LICENSE_CONCLUDED_MISMATCH")
          | none => []
      | _ => []
  | _ => []

/-- The public `validate_sbom`. -/
def validateSbom (register sbom : PyObject) : List PyStr :=
  ((itemsOf (PyJson.get sbom "packages")).flatMap
    (concludedErrors (expectedLicenses register))).foldl appendUnique (validateSbomCore register sbom)

/-! ### Assignments -/

/-- A member of a component or a package. -/
def member (value : PyJson) (key : String) : PyJson :=
  match value with
  | .obj fields => PyJson.get fields key
  | _ => .null

/-- The package stands for the component. -/
structure Covers (component package : PyJson) : Prop where
  name : member package "name" = member component "name"
  version : member package "versionInfo" = member component "version"
  declared : member package "licenseDeclared" = member component "license"
  concluded : member package "licenseConcluded" = member component "license"

/-- Every component has a package of its own, and there are no others. -/
def Assigned (components packages : List PyJson) : Prop :=
  ∃ assign : Fin components.length → Fin packages.length, Function.Bijective assign ∧
    ∀ position, Covers components[position] packages[assign position]

/-- The packages of a bill of materials are assigned to the components of a register. -/
def Agrees (register sbom : PyObject) : Prop :=
  Assigned (itemsOf (PyJson.get register "components")) (itemsOf (PyJson.get sbom "packages"))

/-- No two components have one name. -/
def NamesDistinct (register : PyObject) : Prop :=
  ((itemsOf (PyJson.get register "components")).map (member · "name")).Nodup

/-! ### Lists of errors -/

theorem errorUnless_eq_nil_iff
    {holds : Bool}
    {error : PyStr} : errorUnless holds error = [] ↔ holds = true := by
  cases holds <;> simp [errorUnless]

theorem foldl_appendUnique_eq_nil_iff
    {errors more : List PyStr} :
    more.foldl appendUnique errors = [] ↔ errors = [] ∧ more = [] := by
  induction more generalizing errors with
  | nil => simp
  | cons error more inductionHypothesis =>
      rw [List.foldl_cons, inductionHypothesis]
      constructor
      · rintro ⟨none, -⟩
        unfold appendUnique at none
        split at none
        next listed =>
          rw [none] at listed
          cases listed
        next => simp at none
      · rintro ⟨-, none⟩
        cases none

/-! ### Accepted registers -/

/-- What an accepted register says about a component. -/
structure IsComponent (component : PyJson) (name version license : PyStr) : Prop where
  isObject : ∃ fields, component = .obj fields
  isName : member component "name" = .str name
  present : name ≠ []
  isVersion : member component "version" = .str version
  isLicense : member component "license" = .str license

theorem exists_str_of_isStrWith
    {value : PyJson}
    {holds : PyStr → Bool}
    (isStr : isStrWith value holds = true) : ∃ text, value = .str text := by
  cases value with
  | str text => exact ⟨text, rfl⟩
  | _ => cases isStr

theorem isComponent_of_componentErrors
    {rules : LicenseRules}
    {licensePolicy component : PyObject}
    {name : PyStr}
    (isName : PyJson.get component "name" = .str name)
    (present : name.isEmpty = false)
    (none : componentErrors rules licensePolicy component name = []) :
    ∃ version license, IsComponent (.obj component) name version license := by
  simp only [componentErrors, List.append_eq_nil_iff, errorUnless_eq_nil_iff] at none
  obtain ⟨⟨⟨⟨⟨⟨isVersion, isLicense⟩, -⟩, -⟩, -⟩, -⟩, -⟩ := none
  obtain ⟨version, isVersion⟩ := exists_str_of_isStrWith isVersion
  split at isLicense
  next nonempty =>
    obtain ⟨license, isText, -⟩ := PyJson.exists_str_of_isNonemptyString nonempty
    exact ⟨version, license, ⟨component, rfl⟩, isName, fun empty => by simp [empty] at present,
      isVersion, isText⟩
  next => cases isLicense

/-- Every component without errors has a name, a version and a license. -/
theorem isComponent_of_componentsErrors
    {rules : LicenseRules}
    {licensePolicy : PyObject}
    {seen : List (PyStr × PyStr)}
    {components : List PyJson}
    (none : componentsErrors rules licensePolicy seen components = []) :
    ∀ component ∈ components, ∃ name version license, IsComponent component name version license := by
  induction components generalizing seen with
  | nil => simp
  | cons component components inductionHypothesis =>
      cases component with
      | obj fields =>
          rw [componentsErrors] at none
          split at none
          next name isName =>
            split at none
            next => cases none
            next nonempty =>
              rw [Bool.not_eq_true] at nonempty
              dsimp only at none
              split at none
              next text isText =>
                split at none
                next =>
                  rw [List.append_eq_nil_iff, List.append_eq_nil_iff] at none
                  rintro component (_ | ⟨_, later⟩)
                  · exact ⟨name, isComponent_of_componentErrors isName nonempty none.1.2⟩
                  · exact inductionHypothesis none.2 component later
                next => cases none
              next => cases none
          next => cases none
      | _ => cases none

/-- The components of an accepted register. -/
theorem isComponent_of_validateRegister
    {context : AdmissionContext}
    {register licensePolicy : PyObject}
    (valid : validateRegister context register licensePolicy = []) :
    ∀ component ∈ itemsOf (PyJson.get register "components"),
      ∃ name version license, IsComponent component name version license := by
  have none := (foldl_appendUnique_eq_nil_iff.mp valid).1
  simp only [validateRegisterCore, List.append_eq_nil_iff] at none
  cases isList : PyJson.get register "components" with
  | arr components =>
      rw [isList] at none
      cases components with
      | nil => simp [itemsOf]
      | cons component components =>
          exact isComponent_of_componentsErrors (List.append_eq_nil_iff.mp none.2).1
  | _ => simp [itemsOf]

/-! ### Collected packages -/

/-- The text of the name. -/
def nameOf (value : PyJson) : PyStr :=
  match member value "name" with
  | .str name => name
  | _ => []

theorem nameOf_eq
    {value : PyJson}
    {name : PyStr}
    (isName : member value "name" = .str name) : nameOf value = name := by
  rw [nameOf, isName]

/-- What is collected of a package. -/
def packageFacts (package : PyJson) : PackageFacts :=
  (member package "versionInfo", member package "licenseDeclared", member package "filesAnalyzed")

/-- A package that is collected without an error. -/
theorem PackageState.add_errors_eq_nil
    {state : PackageState}
    {package : PyJson}
    (none : (state.add package).errors = []) :
    state.errors = [] ∧ (∃ name, member package "name" = .str name) ∧
      (state.add package).actual.entries =
        state.actual.entries ++ [(nameOf package, packageFacts package)] := by
  cases package with
  | obj fields =>
      have ids : ∀ state : PackageState, (state.addId fields).errors = [] →
          state.errors = [] ∧ (state.addId fields).actual = state.actual := by
        intro state none
        unfold PackageState.addId at none ⊢
        split at none
        · split at none
          next => simp at none
          next nonempty =>
            rw [if_neg nonempty]
            split at none
            next => simp at none
            next absent =>
              rw [if_neg absent]
              exact ⟨none, rfl⟩
        · simp at none
      rw [PackageState.add] at none ⊢
      obtain ⟨noName, same⟩ := ids _ none
      rw [same]
      unfold PackageState.addName at noName ⊢
      split at noName
      next name isName =>
        split at noName
        next => simp at noName
        next nonempty =>
          rw [if_neg nonempty]
          split at noName
          next => simp at noName
          next absent =>
            have isNamed : nameOf (.obj fields) = name := @nameOf_eq (.obj fields) name isName
            rw [if_neg absent, isNamed]
            rw [Bool.not_eq_true, Option.isSome_eq_false_iff, Option.isNone_iff_eq_none] at absent
            exact ⟨noName, ⟨name, isName⟩, Dict.entries_set_of_get?_eq_none absent _⟩
      next => simp at noName
  | _ => simp [PackageState.add] at none

/-- Packages that are collected without an error. -/
theorem foldl_add_errors_eq_nil
    {state : PackageState}
    {packages : List PyJson}
    (none : (packages.foldl PackageState.add state).errors = []) :
    state.errors = [] ∧ (∀ package ∈ packages, ∃ name, member package "name" = .str name) ∧
      (packages.foldl PackageState.add state).actual.entries =
        state.actual.entries ++ packages.map fun package => (nameOf package, packageFacts package) := by
  induction packages generalizing state with
  | nil => exact ⟨none, nofun, (List.append_nil _).symm⟩
  | cons package packages inductionHypothesis =>
      rw [List.foldl_cons] at none ⊢
      obtain ⟨first, named, entries⟩ := inductionHypothesis none
      obtain ⟨before, isName, added⟩ := PackageState.add_errors_eq_nil first
      refine ⟨before, ?_, ?_⟩
      · rintro other (_ | ⟨_, later⟩)
        · exact isName
        · exact named other later
      · rw [entries, added, List.append_assoc]
        rfl

/-! ### Expected packages -/

/-- What is expected of the package of a component. -/
def expectedFacts (component : PyJson) : PackageFacts :=
  (member component "version", member component "license", .bool false)

theorem addExpected_eq
    {component : PyJson}
    {name version license : PyStr}
    (isComponent : IsComponent component name version license)
    (state : Dict PyStr PackageFacts × List PyStr) :
    addExpected state component =
      (state.1.set (nameOf component) (expectedFacts component), state.2) := by
  obtain ⟨fields, rfl⟩ := isComponent.isObject
  have isName : PyJson.get fields "name" = .str name := isComponent.isName
  have present : name.isEmpty = false := by simp [isComponent.present]
  rw [nameOf_eq isComponent.isName]
  simp [addExpected, isName, present, expectedFacts, member]

/-- Components of an accepted register are expected without an error. -/
theorem foldl_addExpected_eq
    {components : List PyJson}
    (areComponents : ∀ component ∈ components,
      ∃ name version license, IsComponent component name version license)
    (state : Dict PyStr PackageFacts × List PyStr) :
    components.foldl addExpected state =
      (components.foldl (fun dict component => dict.set (nameOf component) (expectedFacts component))
        state.1, state.2) := by
  induction components generalizing state with
  | nil => rfl
  | cons component components inductionHypothesis =>
      obtain ⟨name, version, license, isComponent⟩ := areComponents component List.mem_cons_self
      rw [List.foldl_cons, addExpected_eq isComponent, List.foldl_cons]
      exact inductionHypothesis (fun other later => areComponents other (List.mem_cons_of_mem _ later)) _

/-- The licenses that are expected of an accepted register. -/
theorem expectedLicenses_eq
    {register : PyObject}
    (areComponents : ∀ component ∈ itemsOf (PyJson.get register "components"),
      ∃ name version license, IsComponent component name version license) :
    expectedLicenses register = (itemsOf (PyJson.get register "components")).foldl
      (fun dict component => dict.set (nameOf component) (member component "license")) Dict.empty := by
  refine List.foldl_ext _ _ _ fun dict component listed => ?_
  obtain ⟨name, version, license, isComponent⟩ := areComponents component listed
  obtain ⟨fields, rfl⟩ := isComponent.isObject
  have isName : PyJson.get fields "name" = .str name := isComponent.isName
  have present : name.isEmpty = false := by simp [isComponent.present]
  rw [nameOf_eq isComponent.isName]
  simp [isName, present, member]

/-! ### Agreement -/

/-- What both validators have established. -/
structure Validated (components packages : List PyJson) : Prop where
  areComponents : ∀ component ∈ components,
    ∃ name version license, IsComponent component name version license
  named : ∀ package ∈ packages, ∃ name, member package "name" = .str name
  distinct : (packages.map nameOf).Nodup
  expected : dictEq ⟨packages.map fun package => (nameOf package, packageFacts package),
      by rwa [List.map_map]⟩
    (components.foldl (fun dict component => dict.set (nameOf component) (expectedFacts component))
      Dict.empty) = true
  concluded : ∀ package ∈ packages, ∀ license,
    (components.foldl (fun dict component => dict.set (nameOf component) (member component "license"))
      Dict.empty).get? (nameOf package) = some license →
    PyJson.pyEq (member package "licenseConcluded") license = true

theorem validated_of_validate
    {context : AdmissionContext}
    {register licensePolicy sbom : PyObject}
    (registerValid : validateRegister context register licensePolicy = [])
    (sbomValid : validateSbom register sbom = []) :
    Validated (itemsOf (PyJson.get register "components")) (itemsOf (PyJson.get sbom "packages")) := by
  have components := isComponent_of_validateRegister registerValid
  obtain ⟨core, concluded⟩ := foldl_appendUnique_eq_nil_iff.mp sbomValid
  rw [expectedLicenses_eq components, List.flatMap_eq_nil_iff] at concluded
  cases isList : PyJson.get sbom "packages" with
  | arr packages =>
      rw [isList] at concluded
      simp only [validateSbomCore, isList, List.append_eq_nil_iff] at core
      obtain ⟨⟨⟨⟨-, noPackageErrors⟩, -⟩, agrees⟩, -⟩ := core
      obtain ⟨-, named, entries⟩ := foldl_add_errors_eq_nil noPackageErrors
      rw [errorUnless_eq_nil_iff, foldl_addExpected_eq components] at agrees
      rw [Dict.entries_empty, List.nil_append] at entries
      have distinct : (packages.map nameOf).Nodup := by
        have keys := (packages.foldl PackageState.add ⟨Dict.empty, [], []⟩).actual.keysNodup
        rw [entries, List.map_map] at keys
        exact keys
      refine ⟨components, named, distinct, ?_, fun package listed license isLicense => ?_⟩
      · have same : (packages.foldl PackageState.add ⟨Dict.empty, [], []⟩).actual =
            ⟨packages.map fun package => (nameOf package, packageFacts package),
              by rwa [List.map_map]⟩ := Dict.ext entries
        rw [same] at agrees
        exact agrees
      · obtain ⟨name, isName⟩ := named package listed
        have none := concluded package listed
        rw [nameOf_eq isName] at isLicense
        cases package with
        | obj fields =>
            have isMember : PyJson.get fields "name" = .str name := isName
            rw [concludedErrors, isMember] at none
            dsimp only at none
            rw [isLicense] at none
            exact errorUnless_eq_nil_iff.mp none
        | _ => cases isName
  | _ => simp [validateSbomCore, isList] at core

/-- A package has a component, when the names of components are distinct. -/
theorem Validated.exists_covers
    {components packages : List PyJson}
    (validated : Validated components packages)
    (distinct : (components.map nameOf).Nodup)
    {package : PyJson}
    (listed : package ∈ packages) : ∃ component ∈ components, Covers component package := by
  have kept : ∀ {ν : Type} (value : PyJson → ν), (components.foldl
      (fun dict component => dict.set (nameOf component) (value component)) Dict.empty).entries =
        components.map fun component => (nameOf component, value component) :=
    fun value => Dict.entries_foldl_set nameOf value (by simpa [Dict.keys] using distinct)
  obtain ⟨name, isName⟩ := validated.named package listed
  have agrees := (Bool.and_eq_true_iff.mp validated.expected).2
  have found := List.all_eq_true.mp agrees _ (List.mem_map_of_mem listed)
  obtain ⟨facts, isFacts, same⟩ := (Option.any_eq_true _ _).mp found
  rw [Dict.get?_eq_some_iff, kept] at isFacts
  obtain ⟨component, isComponent, isEntry⟩ := List.mem_map.mp isFacts
  obtain ⟨sameName, rfl⟩ := Prod.mk.inj isEntry
  obtain ⟨name', version, license, facts⟩ := validated.areComponents component isComponent
  have isLicense := validated.concluded package listed (member component "license") (by
    rw [Dict.get?_eq_some_iff, kept, ← sameName]
    exact List.mem_map_of_mem isComponent)
  have text : ∀ {value : PyJson} {text : PyStr}, itemEq value (.str text) = true →
      value = .str text := by
    intro value text equal
    rcases Bool.or_eq_true_iff.mp equal with isNan | isText
    · cases value <;> simp [PyJson.sameNan] at isNan
    · exact PyJson.pyEq_str_iff.mp isText
  simp only [factsEq, packageFacts, expectedFacts, Bool.and_eq_true, facts.isVersion,
    facts.isLicense] at same
  refine ⟨component, isComponent, ?_, ?_, ?_, ?_⟩
  · rw [nameOf_eq isName, nameOf_eq facts.isName] at sameName
    rw [isName, facts.isName, sameName]
  · rw [facts.isVersion, text same.1.1]
  · rw [facts.isLicense, text same.1.2]
  · rw [facts.isLicense] at isLicense ⊢
    exact PyJson.pyEq_str_iff.mp isLicense

/-- The lists have one length. -/
theorem Validated.length_eq
    {components packages : List PyJson}
    (validated : Validated components packages)
    (distinct : (components.map nameOf).Nodup) : components.length = packages.length := by
  have lengths := (Bool.and_eq_true_iff.mp validated.expected).1
  rw [beq_iff_eq, Dict.entries_foldl_set nameOf expectedFacts (by simpa [Dict.keys] using distinct)] at lengths
  simpa using lengths.symm

/-- The names of members and their texts are distinct at once. -/
theorem nodup_member_iff
    {values : List PyJson}
    (named : ∀ value ∈ values, ∃ name, member value "name" = .str name) :
    (values.map (member · "name")).Nodup ↔ (values.map nameOf).Nodup := by
  have same : values.map (member · "name") = (values.map nameOf).map PyJson.str := by
    rw [List.map_map]
    refine List.map_congr_left fun value listed => ?_
    obtain ⟨name, isName⟩ := named value listed
    rw [isName, Function.comp_apply, nameOf_eq isName]
  rw [same, List.nodup_map_iff fun _ _ equal => PyJson.str.inj equal]

/-- Packages are assigned to components of distinct names, and to no others. -/
theorem Validated.assigned_iff
    {components packages : List PyJson}
    (validated : Validated components packages) :
    Assigned components packages ↔ (components.map (member · "name")).Nodup := by
  have componentNames : ∀ component ∈ components, ∃ name, member component "name" = .str name :=
    fun component listed =>
      let ⟨name, _, _, isComponent⟩ := validated.areComponents component listed
      ⟨name, isComponent.isName⟩
  constructor
  · -- Components of one name would share the only package of that name.
    rintro ⟨assign, bijective, covers⟩
    have packageNames := (nodup_member_iff validated.named).mpr validated.distinct
    rw [List.nodup_iff_injective_getElem] at packageNames ⊢
    intro left right same
    simp only [List.getElem_map] at same
    have leftLess : left.1 < components.length := by simpa using left.2
    have rightLess : right.1 < components.length := by simpa using right.2
    have shared := (covers ⟨left, leftLess⟩).name.trans
      (same.trans (covers ⟨right, rightLess⟩).name.symm)
    have sameAssigned : assign ⟨left, leftLess⟩ = assign ⟨right, rightLess⟩ := by
      have := @packageNames ⟨assign ⟨left, leftLess⟩, by simp⟩ ⟨assign ⟨right, rightLess⟩, by simp⟩
        (by simpa using shared)
      exact Fin.ext (by simpa using this)
    exact Fin.ext (Fin.mk.inj_iff.mp (bijective.1 sameAssigned))
  · intro distinct
    rw [nodup_member_iff componentNames] at distinct
    have lengths := validated.length_eq distinct
    have find : ∀ position : Fin packages.length, ∃ component : Fin components.length,
        Covers components[component] packages[position] := by
      intro position
      obtain ⟨component, listed, covers⟩ := validated.exists_covers distinct
        (List.getElem_mem position.2)
      obtain ⟨index, less, rfl⟩ := List.getElem_of_mem listed
      exact ⟨⟨index, less⟩, covers⟩
    choose find covers using find
    have packageNames := (nodup_member_iff validated.named).mpr validated.distinct
    have injective : Function.Injective find := by
      intro left right same
      rw [List.nodup_iff_injective_getElem] at packageNames
      have shared : member packages[left] "name" = member packages[right] "name" := by
        rw [(covers left).name, (covers right).name, same]
      have := @packageNames ⟨left, by simp⟩ ⟨right, by simp⟩ (by simpa using shared)
      exact Fin.ext (by simpa using this)
    have bijective : Function.Bijective find :=
      (Fintype.bijective_iff_injective_and_card find).mpr ⟨injective, by simp [lengths]⟩
    refine ⟨(Equiv.ofBijective find bijective).symm, Equiv.bijective _, fun position => ?_⟩
    have isFound := Equiv.apply_symm_apply (Equiv.ofBijective find bijective) position
    have covered := covers ((Equiv.ofBijective find bijective).symm position)
    rwa [show find _ = position from isFound] at covered

/-- **The bill of materials** of an accepted register agrees with it exactly when no two
components have one name. -/
theorem agrees_iff_namesDistinct
    {context : AdmissionContext}
    {register licensePolicy sbom : PyObject}
    (registerValid : validateRegister context register licensePolicy = [])
    (sbomValid : validateSbom register sbom = []) :
    Agrees register sbom ↔ NamesDistinct register :=
  (validated_of_validate registerValid sbomValid).assigned_iff

/-! ### Documents -/

/-- A list of texts. -/
def textList (texts : List String) : PyJson := .arr (texts.map PyJson.ofText)

/-- Some day, and ASCII texts. -/
def asciiContext : AdmissionContext := ⟨(2026, 1, 1), Char.isAlphanum⟩

/-- `MIT` is approved, and `MPL-2.0` under its conditions. -/
def mitPolicy : PyObject :=
  [(PyStr.ofString "approved_direct_licenses", textList ["MIT"]),
    (PyStr.ofString "conditional_licenses", .arr [.obj
      [(PyStr.ofString "conditions", .arr (supportedConditions.map PyJson.str)),
        (PyStr.ofString "license", .ofText "MPL-2.0")]]),
    (PyStr.ofString "rules", .obj [(PyStr.ofString "license_notice_required", .bool true)])]

/-- A component that may be used as its other members say. -/
def component (name ecosystem version license status : String)
    (others : List (String × PyJson)) : PyJson :=
  .ofFields ([("name", PyJson.ofText name), ("ecosystem", .ofText ecosystem), ("version", .ofText version),
    ("license", .ofText license), ("status", .ofText status), ("installation_authorized", .bool false),
    ("transitive_dependency_review_required", .bool true), ("source_url", .ofText "https://x")] ++
      others)

/-- A register of the two known components and more. -/
def registerWith (more : List PyJson) : PyObject :=
  [(PyStr.ofString "components", .arr
      (component "hypothesis" "PyPI" "6.0" "MPL-2.0" "APPROVED_DEV_TEST_ONLY"
          [("scope", .ofText "DEV_TEST"), ("allowed_use", textList ["test"]),
            ("prohibited_use", textList ["vendoring modified source without review"])] ::
        component "wbsdk" "PyPI" "1.0" "MIT" "AUDIT_REQUIRED"
          [("read_only_facade_required", .bool true), ("write_methods_exposed", .bool true),
            ("prohibited_use", textList requiredBlocks)] :: more)),
    (PyStr.ofString "marketplace_write_enabled", .bool false),
    (PyStr.ofString "runtime_installation_authorized", .bool false),
    (PyStr.ofString "stage", .ofText "OSS_DEPENDENCY_ADMISSION")]

/-- A bill of materials of packages with their name, version and license. -/
def sbomOf (packages : List (String × String × String)) : PyObject :=
  [(PyStr.ofString "documentDescribes", textList (packages.map Prod.fst)),
    (PyStr.ofString "packages", .arr (packages.map fun (name, version, license) => .obj
      [(PyStr.ofString "SPDXID", .ofText name), (PyStr.ofString "filesAnalyzed", .bool false),
        (PyStr.ofString "licenseConcluded", .ofText license),
        (PyStr.ofString "licenseDeclared", .ofText license), (PyStr.ofString "name", .ofText name),
        (PyStr.ofString "versionInfo", .ofText version)])),
    (PyStr.ofString "spdxVersion", .ofText "SPDX-2.3")]

/-- The two known components. -/
theorem agrees_iff_namesDistinct_known :
    Agrees (registerWith [])
      (sbomOf [("hypothesis", "6.0", "MPL-2.0"), ("wbsdk", "1.0", "MIT")]) := by
  refine (@agrees_iff_namesDistinct asciiContext (registerWith []) mitPolicy _ (by decide +kernel)
    (by decide +kernel)).mpr ?_
  have names : (itemsOf (PyJson.get (registerWith []) "components")).map nameOf =
      ["hypothesis", "wbsdk"].map PyStr.ofString := by decide +kernel
  refine (nodup_member_iff ?_).mpr (by rw [names]; decide +kernel)
  rintro value (_ | ⟨_, _ | ⟨_, _ | _⟩⟩)
  · exact ⟨_, rfl⟩
  · exact ⟨_, rfl⟩

/-- A component in both ecosystems, of which the package has the second version. -/
theorem not_agrees_twice :
    let register := registerWith
      [component "left-pad" "PyPI" "1.0" "MIT" "AUDIT_REQUIRED" [],
        component "left-pad" "npm" "2.0" "MIT" "AUDIT_REQUIRED" []]
    let sbom := sbomOf
      [("hypothesis", "6.0", "MPL-2.0"), ("wbsdk", "1.0", "MIT"), ("left-pad", "2.0", "MIT")]
    validateRegister asciiContext register mitPolicy = [] ∧ validateSbom register sbom = [] ∧
      ¬Agrees register sbom := by
  refine ⟨by decide +kernel, by decide +kernel, ?_⟩
  rintro ⟨assign, bijective, -⟩
  have cards := Fintype.card_of_bijective bijective
  rw [Fintype.card_fin, Fintype.card_fin] at cards
  exact absurd cards (by decide +kernel)

end Dependencies
end QuantumAnalytics
