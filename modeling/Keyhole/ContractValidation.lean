import Keyhole.YamlDocument
import Keyhole.CapabilityNamespace

/-!
# Local validation of the declaration files

`validation/validator.py` checks four files of a repository and grades what it finds:

* `validateKeyholeYaml`, `validateGovernanceContract`, `validateCapabilityPassport`
  and `validateDependencies` check the shape of one file each and return issues;
* `strictProviders` and `compatibility` then walk the same raw documents again,
  without looking at their shapes: this is where an exception can escape;
* `runValidation` puts the issues together and grades them. -/

namespace KeyholeValidation

open KeyholeJson (join strip takeChars startsWith)
open KeyholeYaml KeyholeNamespace

/-! ## Issues -/

/-- The reason codes. -/
inductive Reason where
  | missingOptionalSchemaVersion
  | missingOptionalTrustMetadata
  | selfDependencyDetected
  | incompatibleMajorVersion
  | dependencyProviderMissing
  | nativeGovernanceFilesAbsent
  | foreignManifestsDetected
  | parseError
  | missingRequiredField
  | missingRequiredFile
  | emptyOrInvalidRepoName
  | producesMustBeList
  | producesItemMustBeString
  | localInvariantsMustBeList
  | requiredTestsMustBeList
  | capabilityMustBeString
  | delegatedCapabilitiesMustBeList
  | delegatedCapabilityMustBeString
  | dependenciesMustBeList
  | dependencyMustBeMapping
  | missingRequiredCapability
  | duplicateCapability
  | providerMustBeString
  | digestMustBeString
  | unsupportedDigestFormat
  | invalidCapabilityNamespace
  | compatibilityContractInvalid
  | strictModeWarningEscalated
  deriving DecidableEq, Repr

/-- The text of a reason code. -/
def Reason.code : Reason → String
  | missingOptionalSchemaVersion => "missing_optional_schema_version"
  | missingOptionalTrustMetadata => "missing_optional_trust_metadata"
  | selfDependencyDetected => "self_dependency_detected"
  | incompatibleMajorVersion => "incompatible_major_version"
  | dependencyProviderMissing => "dependency_provider_missing"
  | nativeGovernanceFilesAbsent => "native_governance_files_absent"
  | foreignManifestsDetected => "foreign_manifests_detected"
  | parseError => "parse_error"
  | missingRequiredField => "missing_required_field"
  | missingRequiredFile => "missing_required_file"
  | emptyOrInvalidRepoName => "empty_or_invalid_repo_name"
  | producesMustBeList => "produces_must_be_list"
  | producesItemMustBeString => "produces_item_must_be_string"
  | localInvariantsMustBeList => "local_invariants_must_be_list"
  | requiredTestsMustBeList => "required_tests_must_be_list"
  | capabilityMustBeString => "capability_must_be_string"
  | delegatedCapabilitiesMustBeList => "delegated_capabilities_must_be_list"
  | delegatedCapabilityMustBeString => "delegated_capability_must_be_string"
  | dependenciesMustBeList => "dependencies_must_be_list"
  | dependencyMustBeMapping => "dependency_must_be_mapping"
  | missingRequiredCapability => "missing_required_capability"
  | duplicateCapability => "duplicate_capability"
  | providerMustBeString => "provider_must_be_string"
  | digestMustBeString => "digest_must_be_string"
  | unsupportedDigestFormat => "unsupported_digest_format"
  | invalidCapabilityNamespace => "invalid_capability_namespace"
  | compatibilityContractInvalid => "compatibility_contract_invalid"
  | strictModeWarningEscalated => "strict_mode_warning_escalated"

/-- `_ISSUE_WARN_REASONS`. -/
def issueWarnReasons : List Reason :=
  [.missingOptionalSchemaVersion, .missingOptionalTrustMetadata, .selfDependencyDetected,
    .incompatibleMajorVersion, .dependencyProviderMissing, .nativeGovernanceFilesAbsent,
    .foreignManifestsDetected]

/-- `issue_is_warn_only`. -/
def issueIsWarnOnly (reason : Reason) (strict : Bool) : Bool :=
  if strict then false else issueWarnReasons.contains reason

/-- `ValidationIssue`. -/
structure ValidationIssue where
  file : String
  field : String
  reason : Reason
  repair : List String
  deriving DecidableEq, Repr

/-- Is it an issue that rejects the repository? -/
def ValidationIssue.hard (strict : Bool) (issue : ValidationIssue) : Bool :=
  !issueIsWarnOnly issue.reason strict

/-- `ValidationStatus`. -/
inductive ValidationStatus where
  | pass
  | warn
  | reject
  deriving DecidableEq, Repr

/-- `ContractRepoPosture`. -/
inductive ContractRepoPosture where
  | native
  | foreign
  | partiallyAligned
  deriving DecidableEq, Repr

/-- `ReadinessLevel`. -/
inductive ReadinessLevel where
  | nativeReady
  | partiallyAligned
  | foreign
  | notReady
  deriving DecidableEq, Repr

/-- `NormalizedDependency`. -/
structure NormalizedDependency where
  capability : String
  provider : String
  digest : String
  normalizedCapability : String
  deriving DecidableEq, Repr

/-- `_validate_capability_name_field`. -/
def validateCapabilityNameField (fname fieldPath cap : String) : List ValidationIssue :=
  let result := validateCapabilityName cap
  if result.valid then []
  else
    [⟨fname, fieldPath, .invalidCapabilityNamespace,
      ["'" ++ cap ++ "' is not a valid capability namespace.",
        "Expected: <domain>.<category>.<capability>.v<major>",
        "Example:  payment.stripe.integration.v1"]
        ++ if result.suggestion = "" then [] else ["Did you mean: " ++ result.suggestion ++ "?"]⟩]

/-- The issue every file validator reports when its file cannot be read. -/
def parseIssue (fname why : String) : ValidationIssue :=
  ⟨fname, "", .parseError, ["Fix the YAML syntax in " ++ fname ++ ".", why]⟩

/-- The loop over the required keys of a file. -/
def requiredIssues (fname : String) (required : List String) (data : Fields) :
    List ValidationIssue :=
  (required.filter fun key => !Fields.has data key).map fun key =>
    ⟨fname, key, .missingRequiredField, ["Add the '" ++ key ++ "' field to " ++ fname ++ "."]⟩

/-- `name[idx]`. -/
def indexed (name : String) (idx : Nat) : String := name ++ "[" ++ toString idx ++ "]"

/-! ## keyhole.yaml -/

/-- The `repo` field of `keyhole.yaml`: its issues, and the name. -/
def repoField (fname : String) : Option Yaml → List ValidationIssue × String
  | none =>
      ([⟨fname, "repo", .missingRequiredField,
        ["Add a 'repo' field to " ++ fname ++ ": repo: my-repo-name"]⟩], "")
  | some (.str name) =>
      if strip name = "" then
        ([⟨fname, "repo", .emptyOrInvalidRepoName,
          ["The 'repo' field must be a non-empty string."]⟩], "")
      else ([], strip name)
  | some _ =>
      ([⟨fname, "repo", .emptyOrInvalidRepoName,
        ["The 'repo' field must be a non-empty string."]⟩], "")

/-- `validate_keyhole_yaml`. -/
def validateKeyholeYaml (fname : String) : Except String Fields → List ValidationIssue × String
  | .error why => ([parseIssue fname why], "")
  | .ok data =>
      let repo := repoField fname (Fields.find data "repo")
      (repo.1 ++ (if Fields.has data "schema_version" then [] else
        [⟨fname, "schema_version", .missingOptionalSchemaVersion,
          ["Add 'schema_version: 1' to " ++ fname ++ " for future compatibility."]⟩]), repo.2)

/-! ## governance_contract.yaml -/

/-- One element of `produces`. -/
def producesItem (fname : String) (item : Yaml × Nat) : List ValidationIssue :=
  match item.1 with
  | .str cap => validateCapabilityNameField fname (indexed "produces" item.2) cap
  | _ =>
      [⟨fname, indexed "produces" item.2, .producesItemMustBeString,
        [indexed "produces" item.2 ++ " must be a string capability name."]⟩]

/-- The `produces` field. -/
def producesIssues (fname : String) : Option Yaml → List ValidationIssue
  | none => []
  | some (.seq items) => items.zipIdx.flatMap (producesItem fname)
  | some _ =>
      [⟨fname, "produces", .producesMustBeList,
        ["'produces' must be a YAML list of capability names."]⟩]

/-- A field that has to be a list when it is there. -/
def listField (fname field : String) (reason : Reason) : Option Yaml → List ValidationIssue
  | none => []
  | some (.seq _) => []
  | some _ => [⟨fname, field, reason, ["'" ++ field ++ "' must be a YAML list."]⟩]

/-- `validate_governance_contract`. -/
def validateGovernanceContract (fname : String) : Except String Fields → List ValidationIssue
  | .error why => [parseIssue fname why]
  | .ok data =>
      requiredIssues fname ["repo", "produces"] data
        ++ producesIssues fname (Fields.find data "produces")
        ++ listField fname "local_invariants" .localInvariantsMustBeList
            (Fields.find data "local_invariants")
        ++ listField fname "required_tests" .requiredTestsMustBeList
            (Fields.find data "required_tests")

/-! ## capability_passport.yaml -/

/-- The `capability` field of a passport. -/
def capabilityIssues (fname : String) : Option Yaml → List ValidationIssue
  | none => []
  | some (.str cap) => validateCapabilityNameField fname "capability" cap
  | some _ =>
      [⟨fname, "capability", .capabilityMustBeString,
        ["'capability' must be a canonical capability name string."]⟩]

/-- One element of `delegated_capabilities`. -/
def delegatedItem (fname : String) (item : Yaml × Nat) : List ValidationIssue :=
  if isText item.1 then []
  else
    [⟨fname, indexed "delegated_capabilities" item.2, .delegatedCapabilityMustBeString,
      [indexed "delegated_capabilities" item.2 ++ " must be a string."]⟩]

/-- The `delegated_capabilities` field. -/
def delegatedIssues (fname : String) : Option Yaml → List ValidationIssue
  | none => []
  | some (.seq items) => items.zipIdx.flatMap (delegatedItem fname)
  | some _ =>
      [⟨fname, "delegated_capabilities", .delegatedCapabilitiesMustBeList,
        ["'delegated_capabilities' must be a YAML list of strings."]⟩]

/-- `validate_capability_passport`. -/
def validateCapabilityPassport (fname : String) : Except String Fields → List ValidationIssue
  | .error why => [parseIssue fname why]
  | .ok data =>
      requiredIssues fname ["capability", "owner_repo"] data
        ++ capabilityIssues fname (Fields.find data "capability")
        ++ delegatedIssues fname (Fields.find data "delegated_capabilities")

/-! ## dependencies.yaml -/

/-- One element of the list `parse_dependencies_list` walks. -/
def dependencyShape (fname : String) (item : Yaml × Nat) : List ValidationIssue :=
  if isMap item.1 then []
  else
    [⟨fname, indexed "dependencies" item.2, .dependencyMustBeMapping,
      [indexed "dependencies" item.2
        ++ " must be a YAML mapping with at least a 'capability' key."]⟩]

/-- The mappings among the elements of a list. -/
def mappings : List Yaml → List Fields
  | [] => []
  | .map entries :: rest => entries :: mappings rest
  | _ :: rest => mappings rest

/-- `parse_dependencies_list`. -/
def parseDependenciesList (fname : String) (data : Fields) : List Fields × List ValidationIssue :=
  match Fields.get data "dependencies" with
  | .null => ([], [])
  | .seq items => (mappings items, items.zipIdx.flatMap (dependencyShape fname))
  | _ =>
      ([], [⟨fname, "dependencies", .dependenciesMustBeList,
        ["The 'dependencies' key in " ++ fname ++ " must be a YAML list.",
          "Example:\n  dependencies:\n    - capability: payment.stripe.integration.v1\n"
            ++ "      provider: stripe-adapter"]⟩])

/-- `_DIGEST_PREFIXES`. -/
def digestPrefixes : List String := ["sha256:", "sha512:", "sha384:"]

/-- The `provider` of an entry: its issues, and the value that is kept. -/
def providerField (fname fieldPrefix : String) (provider : Yaml) : List ValidationIssue × Yaml :=
  if truthy provider && !isText provider then
    ([⟨fname, fieldPrefix ++ ".provider", .providerMustBeString,
      [fieldPrefix ++ ".provider must be a string."]⟩], .str "")
  else ([], provider)

/-- The `digest` of an entry: its issues, and the value that is kept. -/
def digestField (fname fieldPrefix : String) (digest : Yaml) : List ValidationIssue × Yaml :=
  if truthy digest then
    match digest with
    | .str text =>
        if digestPrefixes.any (startsWith text) then ([], digest)
        else
          ([⟨fname, fieldPrefix ++ ".digest", .unsupportedDigestFormat,
            [fieldPrefix ++ ".digest must begin with sha256:, sha512:, or sha384:.",
              "Got: '" ++ takeChars 40 text ++ "...' — recompute or remove the digest."]⟩], .str "")
    | _ =>
        ([⟨fname, fieldPrefix ++ ".digest", .digestMustBeString,
          [fieldPrefix ++ ".digest must be a string prefixed with sha256:, sha512:, etc."]⟩], .str "")
  else ([], digest)

/-- What one pass of the loop over the entries leaves. -/
structure EntryCheck where
  issues : List ValidationIssue
  normalized : List NormalizedDependency
  seen : List String

/-- One entry of `dependencies`. -/
def checkDependency (fname : String) (idx : Nat) (seen : List String) (dep : Fields) :
    EntryCheck :=
  let fieldPrefix := indexed "dependencies" idx
  let cap := Fields.getOr dep "capability" (.str "")
  if truthy cap = false then
    ⟨[⟨fname, fieldPrefix ++ ".capability", .missingRequiredCapability,
      ["Add a 'capability' field to " ++ fieldPrefix ++ ".",
        "Example: capability: payment.stripe.integration.v1"]⟩], [], seen⟩
  else
    match cap with
    | .str name =>
        let provider := providerField fname fieldPrefix (Fields.getOr dep "provider" (.str ""))
        let digest := digestField fname fieldPrefix (Fields.getOr dep "digest" (.str ""))
        ⟨validateCapabilityNameField fname (fieldPrefix ++ ".capability") name
            ++ (if seen.contains name then
                  [⟨fname, fieldPrefix ++ ".capability", .duplicateCapability,
                    ["Capability '" ++ name ++ "' is declared more than once in " ++ fname ++ ".",
                      "Remove the duplicate entry."]⟩]
                else [])
            ++ provider.1 ++ digest.1,
          [⟨name, pyStr provider.2, pyStr digest.2,
            (if (validateCapabilityName name).valid then (validateCapabilityName name).normalized
              else "")⟩],
          if seen.contains name then seen else name :: seen⟩
    | _ =>
        ⟨[⟨fname, fieldPrefix ++ ".capability", .capabilityMustBeString,
          [fieldPrefix ++ ".capability must be a string."]⟩], [], seen⟩

/-- The loop over the entries, from index `idx` on. -/
def checkDependencies (fname : String) :
    Nat → List String → List Fields → List ValidationIssue × List NormalizedDependency
  | _, _, [] => ([], [])
  | idx, seen, dep :: rest =>
      let entry := checkDependency fname idx seen dep
      let later := checkDependencies fname (idx + 1) entry.seen rest
      (entry.issues ++ later.1, entry.normalized ++ later.2)

/-- `validate_dependencies`. -/
def validateDependencies (fname : String) :
    Except String Fields → List ValidationIssue × List NormalizedDependency
  | .error why => ([parseIssue fname why], [])
  | .ok data =>
      let parsed := parseDependenciesList fname data
      let checked := checkDependencies fname 0 [] parsed.1
      (parsed.2 ++ checked.1, checked.2)

end KeyholeValidation
