import Mathlib.Data.List.Sort
import Keyhole.ValidationTotality

/-!
# The generated passport

`generate_passport` writes `capability_passport.yaml` from the declared truth of a
repository, and `validate_capability_passport` checks the same file.  The two have
their own field lists: the generator writes eight sections, none of them called
`capability` or `owner_repo`, and these two are the keys the validator requires.

* `generatePassport` — the generator, with what it writes;
* `CapabilityPassportArtifact.toPayload`, `serializePassportForStorage` — the file;
* `generated_rejected` — a repository that passed is rejected once its passport has
  been generated. -/

namespace KeyholePassport

open KeyholeJson (strip dumps compactSeparators Json)
open KeyholeYaml KeyholeNamespace KeyholeValidation KeyholePipeline KeyholeTotality

/-! ## The artifact -/

/-- `CapabilityEntry`. -/
structure CapabilityEntry where
  name : String
  visibility : String := "private"
  status : String := "declared"
  deriving DecidableEq, Repr

/-- `CapabilityPassportArtifact`, with its sections laid out. -/
structure CapabilityPassportArtifact where
  schemaVersion : String := "v1"
  artifactKind : String := "capability_passport"
  repoName : String
  repoId : String := ""
  owner : String
  tenantId : String := ""
  orgId : String := ""
  capabilities : List CapabilityEntry
  parentRepo : String
  parentPassportDigest : String
  localProofRef : String := ""
  generatedAt : String
  digest : String
  deriving DecidableEq, Repr

/-- A mapping from strings to strings. -/
def textFields (fields : List (String × String)) : Yaml :=
  .map (fields.map fun field => (.str field.1, .str field.2))

/-- `to_payload`. -/
def CapabilityPassportArtifact.toPayload (a : CapabilityPassportArtifact) : Fields :=
  [(.str "schema_version", .str a.schemaVersion),
    (.str "artifact_kind", .str a.artifactKind),
    (.str "repo", textFields
      [("repo_name", a.repoName), ("repo_id", a.repoId), ("owner", a.owner)]),
    (.str "identity", textFields [("tenant_id", a.tenantId), ("org_id", a.orgId)]),
    (.str "capabilities", .seq (a.capabilities.map fun c =>
      textFields [("name", c.name), ("visibility", c.visibility), ("status", c.status)])),
    (.str "lineage", textFields [("parent_repo", a.parentRepo),
      ("parent_passport_digest", a.parentPassportDigest)]),
    (.str "proof", textFields [("local_proof_ref", a.localProofRef)]),
    (.str "transport", textFields [("generated_at", a.generatedAt), ("digest", a.digest)])]

/-- The sections of a passport, in the order they are written. -/
def sections : List String :=
  ["schema_version", "artifact_kind", "repo", "identity", "capabilities", "lineage", "proof",
    "transport"]

/-- Is the key one of the sections? -/
def isSection : Yaml → Bool
  | .str key => sections.contains key
  | _ => false

/-- `_canonical_ordered`. -/
def canonicalOrdered (payload : Fields) : Fields :=
  (sections.filterMap fun key => (Fields.find payload key).map fun v => (.str key, v))
    ++ payload.filter fun entry => !isSection entry.1

/-! ## The digest -/

/-- `compute_passport_digest`, with the hexadecimal SHA-256 of a text. -/
def computePassportDigest (sha256 : String → String) (repoName : String)
    (capabilities : List String) (owner repoId parentRepo parentPassportDigest schemaVersion : String) :
    String :=
  "sha256:" ++ sha256 (dumps compactSeparators (.obj [
    ("schema_version", .str schemaVersion),
    ("repo", .obj [("owner", .str owner), ("repo_id", .str repoId), ("repo_name", .str repoName)]),
    ("capabilities", .arr ((capabilities.insertionSort (· ≤ ·)).map Json.str)),
    ("lineage", .obj [("parent_passport_digest", .str parentPassportDigest),
      ("parent_repo", .str parentRepo)])]))

/-! ## Results -/

/-- The reasons a generation is refused for. -/
inductive PassportReason where
  | foreignRepoNotReady
  | partiallyAlignedNotReady
  | missingKeyholeYaml
  | missingGovernanceContract
  | noDeclaredCapabilities
  | invalidCapabilityName
  | duplicateCapabilityDeclaration
  | missingRepoIdentity
  | unsafeRepoName
  | validationRejected
  deriving DecidableEq, Repr

/-- The text of a reason. -/
def PassportReason.code : PassportReason → String
  | foreignRepoNotReady => "ForeignRepoNotReady"
  | partiallyAlignedNotReady => "PartiallyAlignedNotReady"
  | missingKeyholeYaml => "MissingKeyholeYaml"
  | missingGovernanceContract => "MissingGovernanceContract"
  | noDeclaredCapabilities => "NoDeclaredCapabilities"
  | invalidCapabilityName => "InvalidCapabilityName"
  | duplicateCapabilityDeclaration => "DuplicateCapabilityDeclaration"
  | missingRepoIdentity => "MissingRepoIdentity"
  | unsafeRepoName => "UnsafeRepoName"
  | validationRejected => "ValidationRejected"

/-- `map_passport_repair`. -/
def mapPassportRepair : PassportReason → List String
  | .foreignRepoNotReady =>
      ["This repo has no Keyhole governance files and is not passport-ready.",
        "Run: keyhole ingest . — to begin the alignment process.",
        "Then run alignment until declared capabilities are established.",
        "See: keyhole align --help"]
  | .partiallyAlignedNotReady =>
      ["This repo has partial Keyhole governance files but lacks declared capabilities.",
        "Add a 'produces' list to governance_contract.yaml.",
        "Run: keyhole validate — to confirm declared truth before generating a passport."]
  | .missingKeyholeYaml =>
      ["keyhole.yaml is required for authoritative passport generation.",
        "Run: keyhole init vertical — to scaffold the governance files."]
  | .missingGovernanceContract =>
      ["governance_contract.yaml is required for authoritative passport generation.",
        "Run: keyhole init vertical — to scaffold the governance files."]
  | .noDeclaredCapabilities =>
      ["No declared capabilities were found in governance_contract.yaml.",
        "Add at least one entry to the 'produces' list.",
        "Example:  produces:\n    - payment.stripe.integration.v1"]
  | .invalidCapabilityName =>
      ["Every declared capability must follow: <domain>.<category>.<capability>.v<major>",
        "Example: payment.stripe.integration.v1",
        "Run: keyhole capability validate <name> — for per-name diagnostics.",
        "Run: keyhole validate — to review all validation issues before generating a passport."]
  | .duplicateCapabilityDeclaration =>
      ["Remove the duplicate capability from governance_contract.yaml.",
        "Each capability may appear at most once in the 'produces' list."]
  | .missingRepoIdentity =>
      ["The 'repo' field in keyhole.yaml must be a non-empty string.",
        "Example:  repo: my-service-name"]
  | .unsafeRepoName =>
      ["The repo name contains characters that are not safe for transport.",
        "Use only alphanumeric characters, hyphens, and underscores in the 'repo' field."]
  | .validationRejected =>
      ["Run: keyhole validate — to review all validation issues before generating a passport.",
        "Fix the flagged issues and try again."]

/-- `PassportReadiness`. -/
inductive PassportReadiness where
  | ready
  | partiallyAligned
  | notReady
  | foreign
  deriving DecidableEq, Repr

/-- `PassportIssue`. -/
structure PassportIssue where
  file : String
  field : String
  reason : PassportReason
  repair : List String
  deriving DecidableEq, Repr

/-- `PassportStatus`. -/
inductive PassportStatus where
  | generated
  | rejected
  deriving DecidableEq, Repr

/-- `PassportGenerationResult`. -/
structure PassportGenerationResult where
  status : PassportStatus
  readiness : PassportReadiness
  repo : String
  repoPath : String
  capabilityCount : Nat := 0
  digest : String := ""
  artifactPath : String := ""
  artifact : Option CapabilityPassportArtifact := none
  issues : List PassportIssue := []
  sourceFiles : List String := []
  deriving DecidableEq, Repr

/-- `_reject`. -/
def refuse (repo : Repo) (readiness : PassportReadiness) (reason : PassportReason)
    (file field : String) (detail : List String) : PassportGenerationResult where
  status := .rejected
  readiness := readiness
  repo := repo.name
  repoPath := repo.path
  issues := [⟨file, field, reason, detail ++ mapPassportRepair reason⟩]

/-! ## The generator -/

/-- What the generator finds around it: the YAML library, the hash, Unicode's
    alphanumeric characters, the clock, and the paths it can write. -/
structure PassportEnv where
  yaml : Option Loader
  dump : Yaml → String
  sha256 : String → String
  isAlnum : Char → Bool
  now : String
  writable : String → Bool

/-- `serialize_passport_for_storage`.  Where the YAML library is missing no repository
    gets this far. -/
def serializePassportForStorage (env : PassportEnv) (payload : Fields) : String :=
  env.dump (.map (canonicalOrdered payload))

/-- `_UNSAFE_REPO_NAME_RE.search`. -/
def unsafeName (env : PassportEnv) (name : String) : Bool :=
  name.toList.any fun c => !(env.isAlnum c || c == '_' || c == '-' || c == '.')

/-- The reasons for a file that is not there. -/
def absent (repo : Repo) (posture : ContractRepoPosture) (file : String)
    (reason : PassportReason) : PassportGenerationResult :=
  if posture = .partiallyAligned then
    refuse repo .partiallyAligned .partiallyAlignedNotReady file "" []
  else refuse repo .notReady reason file "" []

/-- The repository's name and owner, from `keyhole.yaml`. -/
def identity (env : PassportEnv) (repo : Repo) (posture : ContractRepoPosture) :
    Except PassportGenerationResult (String × String) :=
  if repo.keyhole.present = false then .error (absent repo posture "keyhole.yaml" .missingKeyholeYaml)
  else
    match loadYamlSafe env.yaml "keyhole.yaml" repo.keyhole with
    | .error why => .error (refuse repo .notReady .validationRejected "keyhole.yaml" "" [why])
    | .ok data =>
        match Fields.getOr data "repo" (.str "") with
        | .str name =>
            if strip name = "" then
              .error (refuse repo .notReady .missingRepoIdentity "keyhole.yaml" "repo" [])
            else if unsafeName env (strip name) then
              .error (refuse repo .notReady .unsafeRepoName "keyhole.yaml" "repo" [])
            else .ok (strip name, pyStr (Fields.getOr data "owner" (.str "")))
        | _ => .error (refuse repo .notReady .missingRepoIdentity "keyhole.yaml" "repo" [])

/-- What the loop over the declared capabilities leaves. -/
structure Declared where
  issues : List PassportIssue := []
  entries : List CapabilityEntry := []

/-- An issue with one element of `produces`. -/
def producesIssue (fileLabel : String) (idx : Nat) (reason : PassportReason)
    (more : List String) : PassportIssue :=
  ⟨fileLabel, indexed "produces" idx, reason, mapPassportRepair reason ++ more⟩

/-- One element of `produces`. -/
def declare (fileLabel : String) (found : Declared) (item : Yaml × Nat) : Declared :=
  match item.1 with
  | .str cap =>
      let result := validateCapabilityName cap
      if result.valid = false then
        { found with issues := found.issues ++ [producesIssue fileLabel item.2 .invalidCapabilityName
            (if result.suggestion = "" then [] else ["Did you mean: " ++ result.suggestion ++ "?"])] }
      else if (found.entries.map CapabilityEntry.name).contains cap then
        { found with issues := found.issues
            ++ [producesIssue fileLabel item.2 .duplicateCapabilityDeclaration []] }
      else { found with entries := found.entries ++ [{ name := cap }] }
  | _ =>
      { found with issues := found.issues
          ++ [producesIssue fileLabel item.2 .invalidCapabilityName []] }

/-- `_validate_capabilities`. -/
def validateCapabilities (fileLabel : String) : Yaml → Declared
  | .seq items =>
      let found := items.zipIdx.foldl (declare fileLabel) {}
      { found with entries := found.entries.insertionSort fun a b => a.name ≤ b.name }
  | _ =>
      { issues := [⟨fileLabel, "produces", .noDeclaredCapabilities,
          mapPassportRepair .noDeclaredCapabilities⟩] }

/-- The refusal of a repository whose capabilities are not in order. -/
def undeclared (repo : Repo) (name : String) (issues : List PassportIssue) :
    PassportGenerationResult where
  status := .rejected
  readiness := .notReady
  repo := name
  repoPath := repo.path
  issues := issues
  sourceFiles := ["keyhole.yaml", "governance_contract.yaml"]

/-- The declared capabilities, and the contract they come from. -/
def declaredTruth (env : PassportEnv) (repo : Repo) (posture : ContractRepoPosture)
    (name : String) : Except PassportGenerationResult (List CapabilityEntry × Fields) :=
  if repo.contract.present = false then
    .error (absent repo posture "governance_contract.yaml" .missingGovernanceContract)
  else
    match loadYamlSafe env.yaml "governance_contract.yaml" repo.contract with
    | .error why =>
        .error (refuse repo .notReady .validationRejected "governance_contract.yaml" "" [why])
    | .ok data =>
        let found := validateCapabilities "governance_contract.yaml"
          (Fields.getOr data "produces" (.seq []))
        if found.issues.isEmpty = false then .error (undeclared repo name found.issues)
        else if found.entries.isEmpty then
          .error (undeclared repo name [⟨"governance_contract.yaml", "produces",
            .noDeclaredCapabilities, mapPassportRepair .noDeclaredCapabilities⟩])
        else .ok (found.entries, data)

/-- The artifact of a repository whose truth is declared. -/
def artifactOf (env : PassportEnv) (name owner : String) (entries : List CapabilityEntry)
    (contract : Fields) : CapabilityPassportArtifact :=
  let parentRepo := pyStr (Fields.getOr contract "parent_repo" (.str ""))
  let parentDigest := pyStr (Fields.getOr contract "parent_passport_digest" (.str ""))
  { repoName := name
    owner := owner
    capabilities := entries
    parentRepo := parentRepo
    parentPassportDigest := parentDigest
    generatedAt := env.now
    digest := computePassportDigest env.sha256 name (entries.map CapabilityEntry.name) owner ""
      parentRepo parentDigest "v1" }

/-- The artifact, or the refusal. -/
def artifact (env : PassportEnv) (repo : Repo) :
    Except PassportGenerationResult CapabilityPassportArtifact :=
  let posture := detectRepoPosture repo
  if posture = .foreign then .error (refuse repo .foreign .foreignRepoNotReady "" "" [])
  else do
    let (name, owner) ← identity env repo posture
    let (entries, contract) ← declaredTruth env repo posture name
    return artifactOf env name owner entries contract

/-- The result of a generation, and the file it wrote: its path and its text. -/
structure Generation where
  result : PassportGenerationResult
  written : Option (String × String)

/-- `output_path or (repo_path / "capability_passport.yaml")`. -/
def targetPath (repo : Repo) (outputPath : Option String) : String :=
  outputPath.getD (repo.path ++ "/capability_passport.yaml")

/-- `generate_passport`.  A write that fails is passed over. -/
def generatePassport (env : PassportEnv) (repo : Repo) (write : Bool)
    (outputPath : Option String) : Generation :=
  match artifact env repo with
  | .error refusal => ⟨refusal, none⟩
  | .ok passport =>
      let target := targetPath repo outputPath
      let writes := write && env.writable target
      ⟨{ status := .generated
         readiness := .ready
         repo := passport.repoName
         repoPath := repo.path
         capabilityCount := passport.capabilities.length
         digest := passport.digest
         artifactPath := if writes then target else ""
         artifact := some passport
         sourceFiles := ["keyhole.yaml", "governance_contract.yaml"] },
        if writes then some (target, serializePassportForStorage env passport.toPayload) else none⟩

/-! ## What the validation makes of it -/

/-- The repository once its passport file has been written. -/
def withPassport (repo : Repo) (text : String) : Repo := { repo with passport := .text text }

/-- A native repository that the validation did not reject has its passport generated,
    and the file gets `text`. -/
structure Generates (env : PassportEnv) (repo : Repo) (text : String) : Prop where
  native : detectRepoPosture repo = .native
  accepted : ∃ before, runValidation env.yaml repo "auto" false = .ok before
    ∧ before.status ≠ .reject
  generated : (generatePassport env repo true none).result.status = .generated
  written : (generatePassport env repo true none).written = some (targetPath repo none, text)

/-- The repository is not rejected with the passport it was given. -/
def StaysValid (env : PassportEnv) (repo : Repo) : Prop :=
  ∀ text, Generates env repo text →
    ∃ after, runValidation env.yaml (withPassport repo text) "auto" false = .ok after
      ∧ after.status ≠ .reject

/-- The YAML library reads a passport back as it was dumped. -/
def ReadsBack (env : PassportEnv) (repo : Repo) : Prop :=
  ∀ passport, artifact env repo = .ok passport → ∃ safeLoad, env.yaml = some safeLoad
    ∧ safeLoad (serializePassportForStorage env passport.toPayload) = .ok (.map passport.toPayload)

variable {repo : Repo} {env : PassportEnv} {text : String}

theorem detectRepoPosture_native :
    detectRepoPosture repo = .native
      ↔ (repo.keyhole.present || repo.contract.present) = true := by
  rw [detectRepoPosture]
  cases repo.keyhole.present || repo.contract.present with
  | true => exact ⟨fun _ => rfl, fun _ => rfl⟩
  | false =>
    cases repo.passport.present || repo.dependencies.present with
    | true => exact ⟨nofun, nofun⟩
    | false => exact ⟨nofun, nofun⟩

theorem artifact_of_native (h : detectRepoPosture repo = .native) :
    artifact env repo = identity env repo .native >>= fun named =>
      declaredTruth env repo .native named.1 >>= fun truth =>
        pure (artifactOf env named.1 named.2 truth.1 truth.2) := by
  rw [artifact, h]
  rfl

/-- A generated file holds the payload of the artifact. -/
theorem written_cases {target : String}
    (h : (generatePassport env repo true none).written = some (target, text)) :
    ∃ passport, artifact env repo = .ok passport
      ∧ text = serializePassportForStorage env passport.toPayload := by
  rw [generatePassport] at h
  cases hartifact : artifact env repo with
  | error refusal =>
    rw [hartifact] at h
    exact nomatch h
  | ok passport =>
    rw [hartifact] at h
    by_cases hwrites : (true && env.writable (targetPath repo none)) = true
    · change (if _ then _ else none) = _ at h
      rw [if_pos hwrites] at h
      cases h
      exact ⟨passport, rfl, rfl⟩
    · change (if _ then _ else none) = _ at h
      rw [if_neg hwrites] at h
      exact nomatch h

/-- A passport without a `capability` key is refused. -/
theorem rejects_of_no_capability (fname : String) {data : Fields}
    (h : Fields.find data "capability" = none) :
    Rejects (validateCapabilityPassport fname (.ok data)) := by
  have hmissing : Rejects [(⟨fname, "capability", .missingRequiredField,
      ["Add the '" ++ "capability" ++ "' field to " ++ fname ++ "."]⟩ : ValidationIssue)] :=
    rejects_singleton rfl
  refine hmissing.mono fun issue hissue => ?_
  rw [List.mem_singleton] at hissue
  subst hissue
  refine List.mem_append_left _ (List.mem_append_left _ (List.mem_map.mpr ⟨"capability", ?_, rfl⟩))
  refine List.mem_filter.mpr ⟨List.mem_cons_self, ?_⟩
  rw [Fields.has, h]
  rfl

/-- What the generator wrote loads as a document without a `capability` key. -/
theorem load_of_generated (h : Generates env repo text) (hread : ReadsBack env repo) :
    ∃ data, loadYamlSafe env.yaml "capability_passport.yaml" (.text text) = .ok data
      ∧ Fields.find data "capability" = none := by
  obtain ⟨passport, hartifact, rfl⟩ := written_cases h.written
  obtain ⟨safeLoad, hyaml, hload⟩ := hread passport hartifact
  rw [hyaml, loadYamlSafe, hload]
  by_cases hblank : strip (serializePassportForStorage env passport.toPayload) = ""
  · rw [if_pos hblank]
    exact ⟨[], rfl, rfl⟩
  · rw [if_neg hblank]
    exact ⟨passport.toPayload, rfl, rfl⟩

/-- Writing the passport changes neither document the second passes walk. -/
theorem findings_withPassport (text : String) {posture : ContractRepoPosture} {found : Findings}
    (h : findings env.yaml repo posture false = .ok found) :
    ∃ found', findings env.yaml (withPassport repo text) posture false = .ok found' := by
  have hwalkable := (returns_findings env.yaml repo posture false).mp ⟨found, h⟩
  exact (returns_findings env.yaml (withPassport repo text) posture false).mpr hwalkable

/-- A passport that loads without a `capability` key gets its repository rejected. -/
theorem rejected_of_load {data : Fields} (h : Generates env repo text)
    (hload : loadYamlSafe env.yaml "capability_passport.yaml" (.text text) = .ok data)
    (hfind : Fields.find data "capability" = none) :
    ∃ after, runValidation env.yaml (withPassport repo text) "auto" false = .ok after
      ∧ after.status = .reject := by
  have hposture : postureFor "auto" repo = .native := h.native
  have hpresent := detectRepoPosture_native.mp h.native
  have hposture' : postureFor "auto" (withPassport repo text) = .native :=
    detectRepoPosture_native.mpr hpresent
  obtain ⟨before, hbefore, -⟩ := h.accepted
  rw [runValidation, hposture, if_neg (by decide)] at hbefore
  obtain ⟨found, hfound, -⟩ := ExceptLoops.bind_ok.mp hbefore
  obtain ⟨found', hfound'⟩ := findings_withPassport text hfound
  refine ⟨gradedResult env.yaml (withPassport repo text) "auto" false found', ?_, ?_⟩
  · rw [runValidation, hposture', if_neg (by decide), hfound']
    rfl
  · obtain ⟨issue, hissue, hhard⟩ := rejects_of_no_capability "capability_passport.yaml" hfind
    rw [← hload] at hissue
    have hcondemned : Condemned env.yaml (withPassport repo text) .native false :=
      .file issue (mem_of_passport hissue rfl) (hhard false)
    rw [← hposture'] at hcondemned hfound'
    exact (status_reject_iff hfound').mpr hcondemned

/-- Every repository whose passport was generated is rejected from then on. -/
theorem generated_rejected {env : PassportEnv} {repo : Repo} {text : String}
    (h : Generates env repo text) (hread : ReadsBack env repo) :
    ∃ after, runValidation env.yaml (withPassport repo text) "auto" false = .ok after
      ∧ after.status = .reject := by
  obtain ⟨data, hload, hfind⟩ := load_of_generated h hread
  exact rejected_of_load h hload hfind

/-! ## An ordinary repository -/

/-- The declarations of a repository with one capability. -/
def demoRepo : Repo where
  path := "/work/demo"
  name := "demo"
  keyhole := .text "repo: demo\nschema_version: 1\n"
  contract := .text "repo: demo\nproduces:\n- payment.stripe.integration.v1\n"
  passport := .missing
  dependencies := .missing
  manifest _ := false

/-- The text of its passport. -/
def demoText : String :=
  "schema_version: v1\nartifact_kind: capability_passport\nrepo:\n  repo_name: demo\n"
    ++ "  repo_id: ''\n  owner: ''\nidentity:\n  tenant_id: ''\n  org_id: ''\n"
    ++ "capabilities:\n- name: payment.stripe.integration.v1\n  visibility: private\n"
    ++ "  status: declared\nlineage:\n  parent_repo: ''\n  parent_passport_digest: ''\n"
    ++ "proof:\n  local_proof_ref: ''\ntransport:\n"
    ++ "  generated_at: '2026-03-01T12:00:00+00:00'\n  digest: "
    ++ "sha256:4ba9b621f8492a8be51384e2074f391f87f192c4d656110853ed97394e2c1fbc\n"

/-- The artifact of the repository. -/
def demoPassport : CapabilityPassportArtifact where
  repoName := "demo"
  owner := ""
  capabilities := [{ name := "payment.stripe.integration.v1" }]
  parentRepo := ""
  parentPassportDigest := ""
  generatedAt := "2026-03-01T12:00:00+00:00"
  digest := "sha256:4ba9b621f8492a8be51384e2074f391f87f192c4d656110853ed97394e2c1fbc"

/-- The surroundings in which the passport is generated. -/
def demoEnv : PassportEnv where
  yaml := some fun content =>
    if content = "repo: demo\nschema_version: 1\n" then
      .ok (.map [(.str "repo", .str "demo"), (.str "schema_version", .int 1)])
    else if content = "repo: demo\nproduces:\n- payment.stripe.integration.v1\n" then
      .ok (.map [(.str "repo", .str "demo"),
        (.str "produces", .seq [.str "payment.stripe.integration.v1"])])
    else .ok (.map demoPassport.toPayload)
  dump _ := demoText
  sha256 _ := "4ba9b621f8492a8be51384e2074f391f87f192c4d656110853ed97394e2c1fbc"
  isAlnum := Char.isAlphanum
  now := "2026-03-01T12:00:00+00:00"
  writable _ := true

theorem demo_identity : identity demoEnv demoRepo .native = .ok ("demo", "") := rfl

set_option maxRecDepth 4000 in
theorem demo_declared : declaredTruth demoEnv demoRepo .native "demo"
    = .ok ([{ name := "payment.stripe.integration.v1" }], [(.str "repo", .str "demo"),
        (.str "produces", .seq [.str "payment.stripe.integration.v1"])]) := rfl

theorem demo_artifact : artifact demoEnv demoRepo = .ok demoPassport := by
  have hnative : detectRepoPosture demoRepo = .native := rfl
  rw [artifact_of_native hnative]
  exact ExceptLoops.bind_ok.mpr
    ⟨_, demo_identity, ExceptLoops.bind_ok.mpr ⟨_, demo_declared, rfl⟩⟩

set_option maxRecDepth 4000 in
/-- What the validation says of the repository before it has a passport. -/
theorem demo_before :
    (runValidation demoEnv.yaml demoRepo "auto" false).map ValidationResult.status
      = .ok .pass := rfl

theorem demo_generates : Generates demoEnv demoRepo demoText where
  native := rfl
  accepted := by
    have hpass := demo_before
    cases hrun : runValidation demoEnv.yaml demoRepo "auto" false with
    | error raised =>
      rw [hrun] at hpass
      exact nomatch hpass
    | ok before =>
      rw [hrun] at hpass
      have hstatus : before.status = .pass := Except.ok.inj hpass
      exact ⟨before, rfl, by rw [hstatus]; exact nofun⟩
  generated := by
    rw [generatePassport, demo_artifact]
  written := by
    rw [generatePassport, demo_artifact]
    rfl

theorem demo_readsBack : ReadsBack demoEnv demoRepo := by
  intro passport hpassport
  rw [demo_artifact] at hpassport
  cases hpassport
  exact ⟨_, rfl, rfl⟩

/-- The ordinary repository passes, and is rejected once it has its passport. -/
theorem demo_generated_rejected :
    ∃ after, runValidation demoEnv.yaml (withPassport demoRepo demoText) "auto" false = .ok after
      ∧ after.status = .reject :=
  generated_rejected demo_generates demo_readsBack

theorem demo_not_staysValid : ¬ StaysValid demoEnv demoRepo := by
  intro h
  obtain ⟨data, hload, hfind⟩ := load_of_generated demo_generates demo_readsBack
  obtain ⟨rejected, hrejected, hstatus⟩ := rejected_of_load demo_generates hload hfind
  obtain ⟨after, hafter, hkept⟩ := h demoText demo_generates
  rw [hrejected] at hafter
  cases hafter
  exact hkept hstatus

end KeyholePassport
