import Keyhole.ContractValidation
import Keyhole.ExceptLoops

/-!
# The validation pipeline

`run_validation` over the whole repository.  After the four files were checked one
by one it reads the raw documents again: the strict pass for the providers, and
`validate_compatibility` for what the repository produces and consumes.  Both take
the documents as they come, so that they can raise; `Raised` is how.

* `runValidation` — the pipeline, with its result or what it raised;
* `detectRepoPosture`, `foreignResult` — repositories without declaration files;
* `compatibility` — the checks across files;
* `findings` — everything the pipeline reports, once nothing was raised. -/

namespace KeyholePipeline

open KeyholeJson (join strip)
open KeyholeYaml KeyholeNamespace KeyholeValidation ExceptLoops

/-- What escapes from the pipeline. -/
inductive Raised where
  | typeError (text : String)
  | attributeError (text : String)
  | valueError (text : String)
  deriving DecidableEq, Repr

/-- `for x in v`, for a value of any type. -/
def iterate (v : Yaml) : Except Raised (List Yaml) :=
  match elements v with
  | some items => .ok items
  | none => .error (.typeError ("'" ++ typeName v ++ "' object is not iterable"))

/-! ## The strict pass -/

/-- The bytes `bytes.strip` removes. -/
def isAsciiSpace (b : UInt8) : Bool := [32, 9, 10, 11, 12, 13].contains b

/-- Is anything left of `(provider or "").strip()`? -/
def providerGiven (provider : Yaml) : Except Raised Bool :=
  match orElse provider (.str "") with
  | .str text => .ok (strip text != "")
  | .bytes content => .ok (content.any fun b => !isAsciiSpace b)
  | v => .error (.attributeError ("'" ++ typeName v ++ "' object has no attribute 'strip'"))

/-- The issue of an entry that names no provider. -/
def providerIssue (idx : Nat) : ValidationIssue :=
  ⟨"dependencies.yaml", indexed "dependencies" idx ++ ".provider", .dependencyProviderMissing,
    ["Add 'provider' to " ++ indexed "dependencies" idx ++ " in dependencies.yaml.",
      "Example: provider: my-service-adapter",
      "Provider is recommended for full dependency resolution (required in strict mode)."]⟩

/-- One entry of the strict pass. -/
def strictEntry (idx : Nat) : Yaml → Except Raised (List ValidationIssue)
  | .map dep =>
      if truthy (Fields.get dep "capability") then do
        let given ← providerGiven (Fields.get dep "provider")
        return if given then [] else [providerIssue idx]
      else .ok []
  | _ => .ok []

/-- `data.get(key, []) or []`, walked. -/
def walked (data : Fields) (key : String) : Except Raised (List Yaml) :=
  iterate (orElse (Fields.getOr data key (.seq [])) (.seq []))

/-- The strict-mode provider check on the raw dependencies. -/
def strictProviders (dependencies : Fields) : Except Raised (List ValidationIssue) := do
  let entries ← walked dependencies "dependencies"
  collect strictEntry 0 entries

/-! ## Versioned names -/

/-- The zeros of Unicode's decimal digits; each is followed by the other nine. -/
def decimalZeros : List Nat :=
  [0x30, 0x660, 0x6F0, 0x7C0, 0x966, 0x9E6, 0xA66, 0xAE6, 0xB66, 0xBE6, 0xC66, 0xCE6, 0xD66,
    0xDE6, 0xE50, 0xED0, 0xF20, 0x1040, 0x1090, 0x17E0, 0x1810, 0x1946, 0x19D0, 0x1A80, 0x1A90,
    0x1B50, 0x1BB0, 0x1C40, 0x1C50, 0xA620, 0xA8D0, 0xA900, 0xA9D0, 0xA9F0, 0xAA50, 0xABF0,
    0xFF10, 0x104A0, 0x10D30, 0x11066, 0x110F0, 0x11136, 0x111D0, 0x112F0, 0x11450, 0x114D0,
    0x11650, 0x116C0, 0x11730, 0x118E0, 0x11950, 0x11C50, 0x11D50, 0x11DA0, 0x16A60, 0x16AC0,
    0x16B50, 0x1D7CE, 0x1D7D8, 0x1D7E2, 0x1D7EC, 0x1D7F6, 0x1E140, 0x1E2F0, 0x1E950, 0x1FBF0]

/-- The value of a decimal digit. -/
def decimal (c : Char) : Option Nat :=
  (decimalZeros.find? fun first => first ≤ c.toNat && c.toNat < first + 10).map (c.toNat - ·)

/-- `\d`. -/
def isDecimal (c : Char) : Bool := (decimal c).isSome

/-- `_NAMESPACE_VER_RE.match`: the base and the digits of a versioned name. -/
def namespaceVersion (name : String) : Option (Text × Text) :=
  let backwards := (beforeNewline name.toList).reverse
  let digits := backwards.takeWhile isDecimal
  match backwards.dropWhile isDecimal with
  | 'v' :: '.' :: base =>
      if digits.isEmpty || base.isEmpty || base.contains '\n' then none
      else some (base.reverse, digits.reverse)
  | _ => none

/-- The number of digits CPython's `int` takes. -/
def intMaxStrDigits : Nat := 4300

/-- `int(digits)`. -/
def intOf (digits : Text) : Except Raised Nat :=
  if intMaxStrDigits < digits.length then
    .error (.valueError ("Exceeds the limit (" ++ toString intMaxStrDigits
      ++ " digits) for integer string conversion: value has " ++ toString digits.length
      ++ " digits; use sys.set_int_max_str_digits() to increase the limit"))
  else .ok (digits.foldl (fun n c => 10 * n + (decimal c).getD 0) 0)

/-- `_base_ver`. -/
def baseVer (name : String) : Except Raised (Option (Text × Nat)) :=
  match namespaceVersion name with
  | none => .ok none
  | some (base, digits) => do
      let ver ← intOf digits
      return some (base, ver)

/-! ## Compatibility -/

/-- One entry of `compatibility_contracts`. -/
def contractEntry (item : Yaml × Nat) : List ValidationIssue :=
  match item.1 with
  | .map entry =>
      if Fields.has entry "capability" then []
      else
        [⟨"governance_contract.yaml", indexed "compatibility_contracts" item.2 ++ ".capability",
          .compatibilityContractInvalid,
          ["Add a 'capability' field to " ++ indexed "compatibility_contracts" item.2 ++ ".",
            "Example: capability: payment.stripe.integration.v1"]⟩]
  | _ =>
      [⟨"governance_contract.yaml", indexed "compatibility_contracts" item.2,
        .compatibilityContractInvalid,
        [indexed "compatibility_contracts" item.2 ++ " must be a mapping.",
          "Each entry needs at least a 'capability' key."]⟩]

/-- The shape of `compatibility_contracts`. -/
def contractIssues (contract : Fields) : List ValidationIssue :=
  match Fields.get contract "compatibility_contracts" with
  | .null => []
  | .seq items => items.zipIdx.flatMap contractEntry
  | _ =>
      [⟨"governance_contract.yaml", "compatibility_contracts", .compatibilityContractInvalid,
        ["'compatibility_contracts' must be a YAML list of mappings.",
          "Example:\n  compatibility_contracts:\n    - capability: payment.stripe.integration.v1\n"
            ++ "      min_version: 1"]⟩]

/-- The capabilities that are both produced and consumed. -/
def selfDependencies (produces : List String) : List String → List String → List ValidationIssue
  | _, [] => []
  | seen, cap :: rest =>
      if produces.contains cap && !seen.contains cap then
        ⟨"dependencies.yaml", "", .selfDependencyDetected,
          ["'" ++ cap ++ "' appears in both 'produces' and dependencies.",
            "A repo should not declare itself as a dependency.",
            "Remove this capability from dependencies.yaml."]⟩
          :: selfDependencies produces (cap :: seen) rest
      else selfDependencies produces seen rest

/-- One pass of the loop over what is produced. -/
def producesStep (bases : List (Text × Nat)) (cap : String) :
    Except Raised (List (Text × Nat)) := do
  match ← baseVer cap with
  | none => return bases
  | some entry => return entry :: bases

/-- `produces_bases`: the produced major version of each base, a later one over an
    earlier one. -/
def producesBases (produces : List String) : Except Raised (List (Text × Nat)) :=
  produces.foldlM producesStep []

/-- The issue of a capability that is consumed at another major version. -/
def conflictIssue (base : Text) (produced consumed : Nat) (cap : String) : ValidationIssue :=
  ⟨"dependencies.yaml", "", .incompatibleMajorVersion,
    ["This repo produces '" ++ String.ofList base ++ ".v" ++ toString produced
        ++ "' but consumes '" ++ cap ++ "' (v" ++ toString consumed ++ ").",
      "If this cross-version dependency is intentional, add a "
        ++ "compatibility_contracts declaration in governance_contract.yaml.",
      "Otherwise align the version references across files."]⟩

/-- What the loop over the consumed capabilities has so far: the bases already
    reported, and the issues. -/
structure Conflicts where
  seen : List Text
  issues : List ValidationIssue

/-- One pass of the loop over what is consumed. -/
def conflictStep (bases : List (Text × Nat)) (found : Conflicts) (cap : String) :
    Except Raised Conflicts := do
  match ← baseVer cap with
  | none => return found
  | some (base, ver) =>
      match bases.lookup base with
      | none => return found
      | some produced =>
          if produced = ver ∨ found.seen.contains base then return found
          else return ⟨base :: found.seen, found.issues ++ [conflictIssue base produced ver cap]⟩

/-- The incompatible major-line references. -/
def majorConflicts (bases : List (Text × Nat)) (consumed : List String) :
    Except Raised Conflicts :=
  consumed.foldlM (conflictStep bases) ⟨[], []⟩

/-- `validate_compatibility`, on the strings among what is consumed. -/
def validateCompatibility (produces consumed : List String) (contract : Fields) :
    Except Raised (List ValidationIssue) := do
  let bases ← producesBases produces
  let conflicts ← majorConflicts bases consumed
  return contractIssues contract ++ selfDependencies produces [] consumed ++ conflicts.issues

/-- The strings among some values. -/
def texts : List Yaml → List String
  | [] => []
  | .str s :: rest => s :: texts rest
  | _ :: rest => texts rest

/-- The capabilities the entries of `dependencies` name, those that are strings. -/
def consumedNames : List Yaml → List String
  | [] => []
  | .map dep :: rest =>
      match Fields.get dep "capability" with
      | .str cap => if cap = "" then consumedNames rest else cap :: consumedNames rest
      | _ => consumedNames rest
  | _ :: rest => consumedNames rest

/-- The compatibility pass over the raw documents. -/
def compatibility (contract dependencies : Fields) : Except Raised (List ValidationIssue) := do
  let produced ← walked contract "produces"
  let consumed ← walked dependencies "dependencies"
  validateCompatibility (texts produced) (consumedNames consumed) contract

/-! ## The repository -/

/-- What the validation finds in a repository: its four declaration files, and which
    files of other ecosystems exist. -/
structure Repo where
  path : String
  name : String
  keyhole : FileText
  contract : FileText
  passport : FileText
  dependencies : FileText
  manifest : String → Bool

/-- `FOREIGN_MANIFESTS`. -/
def foreignManifests : List String :=
  ["package.json", "requirements.txt", "pyproject.toml", "go.mod", "pom.xml", "Gemfile",
    "Cargo.toml", "build.gradle", "composer.json"]

/-- `detect_foreign_manifests`. -/
def detectForeignManifests (repo : Repo) : List String := foreignManifests.filter repo.manifest

/-- `detect_repo_posture`. -/
def detectRepoPosture (repo : Repo) : ContractRepoPosture :=
  if repo.keyhole.present || repo.contract.present then .native
  else if repo.passport.present || repo.dependencies.present then .partiallyAligned
  else .foreign

/-- The posture `run_validation` works with. -/
def postureFor (mode : String) (repo : Repo) : ContractRepoPosture :=
  if mode = "native" then .native
  else if mode = "advisory" then .foreign
  else detectRepoPosture repo

/-! ## Grading -/

/-- `_domain_status_str`. -/
def domainStatus (strict : Bool) (issues : List ValidationIssue) : ValidationStatus :=
  if issues.isEmpty then .pass
  else if issues.any (·.hard strict) then .reject
  else .warn

/-- `_SCHEMA_FILES`. -/
def schemaFiles : List String :=
  ["keyhole.yaml", "governance_contract.yaml", "capability_passport.yaml"]

/-- `_COMPAT_REASONS`. -/
def compatReasons : List Reason :=
  [.compatibilityContractInvalid, .selfDependencyDetected, .incompatibleMajorVersion,
    .strictModeWarningEscalated, .dependencyProviderMissing]

/-- The domain checks `_compute_domain_checks` returns. -/
structure DomainChecks where
  schema : ValidationStatus
  dependencies : ValidationStatus
  namespaces : ValidationStatus
  compatibility : ValidationStatus
  deriving DecidableEq, Repr

/-- Does the issue belong to the schema or the dependency domain at all? -/
def plainReason (issue : ValidationIssue) : Bool :=
  issue.reason != .invalidCapabilityNamespace && !compatReasons.contains issue.reason

/-- `_compute_domain_checks`. -/
def computeDomainChecks (strict : Bool) (issues : List ValidationIssue) : DomainChecks where
  schema := domainStatus strict (issues.filter fun issue =>
    (schemaFiles.contains issue.file || issue.reason == .missingRequiredFile) && plainReason issue)
  dependencies := domainStatus strict (issues.filter fun issue =>
    issue.file == "dependencies.yaml" && plainReason issue)
  namespaces := domainStatus strict (issues.filter fun issue =>
    issue.reason == .invalidCapabilityNamespace)
  compatibility := domainStatus strict (issues.filter fun issue =>
    compatReasons.contains issue.reason)

/-- `ValidationResult`; a foreign repository gets no domain checks. -/
structure ValidationResult where
  status : ValidationStatus
  repoPosture : ContractRepoPosture
  readiness : ReadinessLevel
  repo : String
  files : List (String × ValidationStatus)
  issues : List ValidationIssue
  normalizationPreview : List NormalizedDependency
  mode : String
  repoPath : String
  checks : Option DomainChecks
  strict : Bool
  deriving DecidableEq, Repr

/-- `_build_foreign_result`. -/
def foreignResult (repo : Repo) (mode : String) : ValidationResult where
  status := .warn
  repoPosture := .foreign
  readiness := .foreign
  repo := repo.name
  files := []
  issues :=
    ⟨"", "", .nativeGovernanceFilesAbsent,
      ["This repo has no Keyhole governance files.",
        "Run: keyhole ingest . — to begin alignment.",
        "Review alignment guidance before native registration."]⟩
      :: if (detectForeignManifests repo).isEmpty then [] else
        [⟨"", "", .foreignManifestsDetected,
          ["Detected dependency manifests: " ++ join ", " (detectForeignManifests repo) ++ ".",
            "These can be used during ingestion to infer capabilities."]⟩]
  normalizationPreview := []
  mode := mode
  repoPath := repo.path
  checks := none
  strict := false

/-- The issues found so far and the status of each file. -/
structure Findings where
  issues : List ValidationIssue
  files : List (String × ValidationStatus)

/-- `_record_file_result`.  Each file is recorded once, so its status is new. -/
def Findings.record (strict : Bool) (found : Findings) (fname : String)
    (issues : List ValidationIssue) : Findings :=
  ⟨found.issues ++ issues, found.files ++ [(fname, domainStatus strict issues)]⟩

/-- `_validate_present_or_required`, with the issues of the file. -/
def Findings.required (strict : Bool) (posture : ContractRepoPosture) (found : Findings)
    (fname : String) (file : FileText) (issues : List ValidationIssue) : Findings :=
  if file.present then found.record strict fname issues
  else if posture = .native then
    ⟨found.issues ++ [⟨fname, "", .missingRequiredFile,
        ["'" ++ fname ++ "' is required for a native governed repo.",
          "Run: keyhole init vertical — to scaffold the governance files."]⟩],
      found.files ++ [(fname, .reject)]⟩
  else found

/-- A file that is recorded only when it exists. -/
def Findings.optional (strict : Bool) (found : Findings) (fname : String) (file : FileText)
    (issues : List ValidationIssue) : Findings :=
  if file.present then found.record strict fname issues else found

/-- The four files' own checks. -/
def fileFindings (yaml : Option Loader) (repo : Repo) (posture : ContractRepoPosture)
    (strict : Bool) : Findings :=
  let keyhole := loadYamlSafe yaml "keyhole.yaml" repo.keyhole
  let contract := loadYamlSafe yaml "governance_contract.yaml" repo.contract
  let passport := loadYamlSafe yaml "capability_passport.yaml" repo.passport
  let dependencies := loadYamlSafe yaml "dependencies.yaml" repo.dependencies
  Findings.optional strict
    (Findings.optional strict
      (Findings.required strict posture
        (Findings.required strict posture ⟨[], []⟩ "keyhole.yaml" repo.keyhole
          (validateKeyholeYaml "keyhole.yaml" keyhole).1)
        "governance_contract.yaml" repo.contract
        (validateGovernanceContract "governance_contract.yaml" contract))
      "capability_passport.yaml" repo.passport
      (validateCapabilityPassport "capability_passport.yaml" passport))
    "dependencies.yaml" repo.dependencies
    (validateDependencies "dependencies.yaml" dependencies).1

/-- The raw document of a file; empty where there is none. -/
def rawDocument (yaml : Option Loader) (fname : String) (file : FileText) : Fields :=
  match loadYamlSafe yaml fname file with
  | .ok data => data
  | .error _ => []

/-- What the strict pass adds. -/
def strictIssues (yaml : Option Loader) (repo : Repo) (strict : Bool) :
    Except Raised (List ValidationIssue) :=
  if strict then strictProviders (rawDocument yaml "dependencies.yaml" repo.dependencies)
  else .ok []

/-- What the compatibility pass adds. -/
def compatibilityIssues (yaml : Option Loader) (repo : Repo) :
    Except Raised (List ValidationIssue) :=
  compatibility (rawDocument yaml "governance_contract.yaml" repo.contract)
    (rawDocument yaml "dependencies.yaml" repo.dependencies)

/-- The files the compatibility issues name, those not recorded yet. -/
def recordCompatibility (strict : Bool) (compat : List ValidationIssue) :
    List (String × ValidationStatus) → List ValidationIssue → List (String × ValidationStatus)
  | files, [] => files
  | files, issue :: rest =>
      if issue.file ≠ "" ∧ (files.lookup issue.file).isNone then
        recordCompatibility strict compat (files ++ [(issue.file, domainStatus strict compat)]) rest
      else recordCompatibility strict compat files rest

/-- The overall status. -/
def overallStatus (strict : Bool) (found : Findings) : ValidationStatus :=
  if found.files.any (fun file => file.2 == .reject) || found.issues.any (·.hard strict) then
    .reject
  else if found.files.any (fun file => file.2 == .warn)
      || found.issues.any (fun issue => issueIsWarnOnly issue.reason strict) then .warn
  else .pass

/-- The readiness level. -/
def readinessOf (posture : ContractRepoPosture) (overall : ValidationStatus) : ReadinessLevel :=
  if posture = .partiallyAligned then .partiallyAligned
  else if overall = .pass then .nativeReady
  else .notReady

/-- The name the result carries: that of `keyhole.yaml`, or the directory's. -/
def resultName (yaml : Option Loader) (repo : Repo) : String :=
  if repo.keyhole.present then
    let named := (validateKeyholeYaml "keyhole.yaml"
      (loadYamlSafe yaml "keyhole.yaml" repo.keyhole)).2
    if named = "" then repo.name else named
  else repo.name

/-- The normalization preview. -/
def preview (yaml : Option Loader) (repo : Repo) : List NormalizedDependency :=
  if repo.dependencies.present then
    (validateDependencies "dependencies.yaml"
      (loadYamlSafe yaml "dependencies.yaml" repo.dependencies)).2
  else []

/-- The result of a native or partially aligned repository. -/
def gradedResult (yaml : Option Loader) (repo : Repo) (mode : String) (strict : Bool)
    (found : Findings) : ValidationResult :=
  let posture := postureFor mode repo
  let overall := overallStatus strict found
  { status := overall
    repoPosture := posture
    readiness := readinessOf posture overall
    repo := resultName yaml repo
    files := found.files
    issues := found.issues
    normalizationPreview := preview yaml repo
    mode := mode
    repoPath := repo.path
    checks := some (computeDomainChecks strict found.issues)
    strict := strict }

/-- Everything the pipeline reports about a repository that is not foreign. -/
def findings (yaml : Option Loader) (repo : Repo) (posture : ContractRepoPosture)
    (strict : Bool) : Except Raised Findings := do
  let found := fileFindings yaml repo posture strict
  let providers ← strictIssues yaml repo strict
  let compat ← compatibilityIssues yaml repo
  return ⟨found.issues ++ providers ++ compat,
    recordCompatibility strict compat found.files compat⟩

/-- `run_validation`. -/
def runValidation (yaml : Option Loader) (repo : Repo) (mode : String) (strict : Bool) :
    Except Raised ValidationResult :=
  if postureFor mode repo = .foreign then .ok (foreignResult repo mode)
  else do
    let found ← findings yaml repo (postureFor mode repo) strict
    return gradedResult yaml repo mode strict found

end KeyholePipeline
