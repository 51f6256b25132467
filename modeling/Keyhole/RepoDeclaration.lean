import Keyhole.RunEnvelope
import Keyhole.ExceptLoops

/-!
# Repository content and its declaration

What the governed flow reads from a repository: four declaration files, the git
metadata, and the local invariant gate.  A `RepoContent` is what one look at the
working tree finds; the functions here are `read_repo_declaration` and the other
readers of `governed_flow.py` and `governed_demo.py` on it. -/

namespace KeyholeRepo

open KeyholeJson KeyholeRedaction KeyholeEnvelope ExceptLoops

/-- Why a computation stopped without a `GovernedDemoError`. -/
inductive Fault where
  /-- another exception of Python or of a library -/
  | raised (text : String)
  /-- the process died -/
  | killed
  deriving DecidableEq, Repr

/-- How a computation stopped. -/
inductive Err where
  /-- `GovernedDemoError(message)` -/
  | governed (message : String)
  | fault (f : Fault)
  deriving DecidableEq, Repr

/-- Is it a `GovernedDemoError`? -/
def Err.isGoverned : Err → Bool
  | .governed _ => true
  | .fault _ => false

/-- One file: its `sha256:` digest, and what the YAML loader makes of it (`none`
    when the loader raises). -/
structure RepoFile where
  digest : String
  yaml : Option Json

/-- What executing the local invariant gate comes to. -/
inductive GateOutcome where
  | missing
  | notLoadable
  | raised (text : String)
  | ran (result : Dict)

/-- What one look at the repository finds. -/
structure RepoContent where
  keyhole : Option RepoFile
  contract : Option RepoFile
  passport : Option RepoFile
  dependencies : Option RepoFile
  repoRemote : String
  commitSha : String
  branch : String
  gate : String → GateOutcome

/-- The names of the four required files, in the order they are checked. -/
def RepoContent.files (content : RepoContent) : List (String × Option RepoFile) :=
  [("keyhole.yaml", content.keyhole), ("governance_contract.yaml", content.contract),
    ("capability_passport.yaml", content.passport), ("dependencies.yaml", content.dependencies)]

/-- The required files that do not exist. -/
def RepoContent.missingFiles (content : RepoContent) : List String :=
  (content.files.filter (fun file => file.2.isNone)).map Prod.fst

/-- `_load_yaml`: the document as a dictionary; an absent file counts as empty. -/
def loadYaml : Option RepoFile → Except Err Dict
  | none => .ok []
  | some file =>
      match file.yaml with
      | some data => .ok (asDict data)
      | none => .error (.fault (.raised "YAMLError"))

/-- `_file_digest`. -/
def fileDigest : Option RepoFile → String
  | none => ""
  | some file => file.digest

/-! ## Git metadata -/

/-- The git fields `_repo_git_metadata` needs and cannot find. -/
def missingGitFields (content : RepoContent) : List String :=
  (if content.repoRemote = "" then ["repo_remote"] else [])
    ++ (if content.commitSha = "" then ["commit_sha"] else [])

/-- `_repo_git_metadata`: raises when a field is missing; the fields themselves are
    those of the content. -/
def repoGitMetadata (content : RepoContent) : Except Err Unit :=
  match missingGitFields content with
  | [] => .ok ()
  | missing => .error (.governed
      ("cannot build governance.context.create params; missing required git field(s): "
        ++ join ", " missing))

/-! ## The declaration -/

/-- `RepoDeclaration`, without the directory, which is the one it was read from. -/
structure RepoDeclaration where
  repoName : String
  repoRemote : String
  commitSha : String
  branch : String
  repoClass : String
  storyId : String
  capabilityId : String
  declarationFileDigests : Dict
  nativeArtifacts : Dict

/-- The loop of `_first_capability`. -/
def firstNamedCapability : List Json → String
  | [] => ""
  | .obj capability :: rest =>
      let name := strOr (orElse (Dict.get capability "name") (Dict.get capability "capability"))
      if name = "" then firstNamedCapability rest else name
  | _ :: rest => firstNamedCapability rest

/-- `_first_capability`. -/
def firstCapability (contract passport : Dict) : String :=
  match asList (contract.get "produces") with
  | first :: _ => pyStr first
  | [] =>
      let name := firstNamedCapability (asList (passport.get "capabilities"))
      if name = "" then strOr (passport.get "capability") else name

/-- The repository class `read_repo_declaration` derives. -/
def deriveRepoClass (keyhole : Dict) (repoClass : String) : String :=
  let declared :=
    if repoClass = "" then strOr (orElse (keyhole.get "repo_class") (keyhole.get "kind"))
    else repoClass
  let derived :=
    if declared = "" then strOr ((keyhole.child "repo_meta").get "kind") else declared
  if lower derived = "vertical" then "SDK_TEMPLATE" else derived

/-- The capability id `read_repo_declaration` derives. -/
def deriveCapability (contract passport : Dict) (capabilityId : String) : String :=
  if capabilityId = "" then firstCapability contract passport else capabilityId

/-- The digests of the four declaration files. -/
def declarationFileDigests (content : RepoContent) : Dict :=
  [("keyhole_yaml_digest", .str (fileDigest content.keyhole)),
    ("governance_contract_digest", .str (fileDigest content.contract)),
    ("capability_passport_digest", .str (fileDigest content.passport)),
    ("dependencies_digest", .str (fileDigest content.dependencies))]

/-- `read_repo_declaration` of a repository directory called `repoName`. -/
def readRepoDeclaration (content : RepoContent)
    (repoName storyId capabilityId repoClass : String) : Except Err RepoDeclaration :=
  match content.missingFiles with
  | name :: rest =>
      .error (.governed ("missing governance declaration file(s): " ++ join ", " (name :: rest)))
  | [] => do
      let keyhole ← loadYaml content.keyhole
      let contract ← loadYaml content.contract
      let passport ← loadYaml content.passport
      let dependencies ← loadYaml content.dependencies
      repoGitMetadata content
      let derivedCapability := deriveCapability contract passport capabilityId
      let derivedRepoClass := deriveRepoClass keyhole repoClass
      if derivedCapability = "" then
        .error (.governed
          "cannot derive capability_id from declaration files; pass --capability-id.")
      else if derivedRepoClass = "" then
        .error (.governed "cannot derive repo_class from declaration files; pass --repo-class.")
      else
        .ok {
          repoName := strOr (orElse (keyhole.get "repo") (.str repoName))
          repoRemote := content.repoRemote
          commitSha := content.commitSha
          branch := content.branch
          repoClass := derivedRepoClass
          storyId :=
            if storyId = "" then strOr (orElse (keyhole.get "story_id") (contract.get "story_id"))
            else storyId
          capabilityId := derivedCapability
          declarationFileDigests := declarationFileDigests content
          nativeArtifacts := [("keyhole", .obj keyhole), ("governance_contract", .obj contract),
            ("capability_passport", .obj passport), ("dependencies", .obj dependencies)] }

/-- `_public_declaration`. -/
def publicDeclaration (declaration : RepoDeclaration) : Json :=
  redact (.obj [
    ("repo_name", .str declaration.repoName),
    ("repo_remote", .str declaration.repoRemote),
    ("commit_sha", .str declaration.commitSha),
    ("branch", .str declaration.branch),
    ("repo_class", .str declaration.repoClass),
    ("story_id", .str declaration.storyId),
    ("capability_id", .str declaration.capabilityId),
    ("declaration_file_digests", .obj declaration.declarationFileDigests)])

/-! ## What a declaration that could be read looks like -/

/-- What has to go well for a declaration to be read. -/
structure Readable (content : RepoContent) (cap cls : String) where
  keyhole : Dict
  contract : Dict
  passport : Dict
  dependencies : Dict
  missing : content.missingFiles = []
  keyholeLoads : loadYaml content.keyhole = .ok keyhole
  contractLoads : loadYaml content.contract = .ok contract
  passportLoads : loadYaml content.passport = .ok passport
  dependenciesLoads : loadYaml content.dependencies = .ok dependencies
  git : repoGitMetadata content = .ok ()
  capability : deriveCapability contract passport cap ≠ ""
  repoClass : deriveRepoClass keyhole cls ≠ ""

/-- The declaration a readable content has. -/
def Readable.declaration {content : RepoContent} {cap cls : String}
    (r : Readable content cap cls) (repoName story : String) : RepoDeclaration where
  repoName := strOr (orElse (r.keyhole.get "repo") (.str repoName))
  repoRemote := content.repoRemote
  commitSha := content.commitSha
  branch := content.branch
  repoClass := deriveRepoClass r.keyhole cls
  storyId :=
    if story = "" then strOr (orElse (r.keyhole.get "story_id") (r.contract.get "story_id"))
    else story
  capabilityId := deriveCapability r.contract r.passport cap
  declarationFileDigests := declarationFileDigests content
  nativeArtifacts := [("keyhole", .obj r.keyhole), ("governance_contract", .obj r.contract),
    ("capability_passport", .obj r.passport), ("dependencies", .obj r.dependencies)]

variable {cls cap name story : String} {content : RepoContent} {declaration : RepoDeclaration}

theorem Readable.read (r : Readable content cap cls) (repoName story : String) :
    readRepoDeclaration content repoName story cap cls = .ok (r.declaration repoName story) := by
  unfold readRepoDeclaration
  rw [r.missing]
  simp only [r.keyholeLoads, r.contractLoads, r.passportLoads, r.dependenciesLoads, r.git, bind,
    Except.bind, if_neg r.capability, if_neg r.repoClass]
  rfl

/-- A declaration that could be read comes from readable content. -/
theorem readRepoDeclaration_cases
    (h : readRepoDeclaration content name story cap cls = .ok declaration) :
    ∃ r : Readable content cap cls, declaration = r.declaration name story := by
  unfold readRepoDeclaration at h
  cases hm : content.missingFiles with
  | cons f fs => rw [hm] at h; exact nomatch h
  | nil =>
    rw [hm] at h
    obtain ⟨keyhole, hk, h⟩ := bind_ok.mp h
    obtain ⟨contract, hc, h⟩ := bind_ok.mp h
    obtain ⟨passport, hp, h⟩ := bind_ok.mp h
    obtain ⟨dependencies, hd, h⟩ := bind_ok.mp h
    obtain ⟨u, hg, h⟩ := bind_ok.mp h
    by_cases hcap : deriveCapability contract passport cap = ""
    · rw [if_pos hcap] at h; exact nomatch h
    by_cases hcls : deriveRepoClass keyhole cls = ""
    · rw [if_neg hcap, if_pos hcls] at h; exact nomatch h
    rw [if_neg hcap, if_neg hcls] at h
    cases h
    exact ⟨⟨keyhole, contract, passport, dependencies, hm, hk, hc, hp, hd, hg, hcap, hcls⟩, rfl⟩

/-- A declaration that could be read names a capability and a repository class. -/
theorem readRepoDeclaration_named
    (h : readRepoDeclaration content name story cap cls = .ok declaration) :
    declaration.capabilityId ≠ "" ∧ declaration.repoClass ≠ "" := by
  obtain ⟨r, rfl⟩ := readRepoDeclaration_cases h
  exact ⟨r.capability, r.repoClass⟩

/-- A class that is passed in explicitly can always be derived. -/
theorem deriveRepoClass_of_given (keyhole : Dict) (h : cls ≠ "") :
    deriveRepoClass keyhole cls ≠ "" := by
  show (if lower (if (if cls = "" then _ else cls) = "" then _ else _) = "vertical" then _ else _)
    ≠ ""
  rw [if_neg h, if_neg h]
  by_cases hv : lower cls = "vertical"
  · rw [if_pos hv]; decide
  · rw [if_neg hv]; exact h

/-- Filling in arguments never turns a readable declaration into an unreadable
    one. -/
theorem readRepoDeclaration_of_filled (story' : String) {cap' cls' : String}
    (h : readRepoDeclaration content name story cap cls = .ok declaration)
    (hcap : cap' = cap ∨ cap' ≠ "") (hcls : cls' = cls ∨ cls' ≠ "") :
    ∃ declaration', readRepoDeclaration content name story' cap' cls' = .ok declaration' := by
  obtain ⟨r, -⟩ := readRepoDeclaration_cases h
  have hcap' : deriveCapability r.contract r.passport cap' ≠ "" := by
    rcases hcap with rfl | hne
    · exact r.capability
    · rw [deriveCapability, if_neg hne]; exact hne
  have hcls' : deriveRepoClass r.keyhole cls' ≠ "" := by
    rcases hcls with rfl | hne
    · exact r.repoClass
    · exact deriveRepoClass_of_given r.keyhole hne
  exact ⟨_, Readable.read ⟨r.keyhole, r.contract, r.passport, r.dependencies, r.missing,
    r.keyholeLoads, r.contractLoads, r.passportLoads, r.dependenciesLoads, r.git, hcap', hcls'⟩
    name story'⟩

/-! ## The local invariant gate -/

/-- Iterating over `capability.get("invariants", [])`; `none` is the `TypeError`
    of a value that cannot be iterated. -/
def iterInvariants (capability : Dict) : Option (List Json) :=
  match capability.getOr "invariants" (.arr []) with
  | .arr items => some items
  | .str s => some (s.toList.map (fun c => .str (String.ofList [c])))
  | .obj fields => some (fields.map (fun kv => .str kv.1))
  | _ => none

/-- The invariant ids the passport lists for a capability. -/
def wantedInvariants (capabilityId : String) : List Json → Option (List String)
  | [] => some []
  | .obj capability :: rest =>
      if strOr (Dict.get capability "name") = capabilityId
          ∨ strOr (Dict.get capability "capability") = capabilityId then do
        let items ← iterInvariants capability
        return (items.filter truthy).map pyStr ++ (← wantedInvariants capabilityId rest)
      else wantedInvariants capabilityId rest
  | _ :: rest => wantedInvariants capabilityId rest

/-- The gate of the first local invariant that is wanted and names one. -/
def firstWantedGate (wanted : List String) : List Json → String
  | [] => ""
  | .obj invariant :: rest =>
      if wanted ≠ [] ∧ wanted.contains (strOr (Dict.get invariant "id")) = false then
        firstWantedGate wanted rest
      else
        let gate := strOr (Dict.get invariant "gate")
        if gate = "" then firstWantedGate wanted rest else gate
  | _ :: rest => firstWantedGate wanted rest

/-- The gate of the first local invariant, or the default one. -/
def fallbackGate : List Json → String
  | .obj first :: _ =>
      if truthy (Dict.get first "gate") then pyStr (Dict.get first "gate")
      else "tests/invariants/inv_greet.py"
  | _ => "tests/invariants/inv_greet.py"

/-- `_declared_invariant_gate`, relative to the repository. -/
def declaredInvariantGate (content : RepoContent) (capabilityId : String) :
    Except Err String := do
  let contract ← loadYaml content.contract
  let localInvariants := asList (contract.get "local_invariants")
  let wanted ←
    if capabilityId = "" then Except.ok []
    else do
      let passport ← loadYaml content.passport
      match wantedInvariants capabilityId (asList (passport.get "capabilities")) with
      | some wanted => .ok wanted
      | none => .error (.fault (.raised "TypeError"))
  let gate := firstWantedGate wanted localInvariants
  return if gate = "" then fallbackGate localInvariants else gate

/-- `_run_local_invariant` in the directory `repoDir`. -/
def runLocalInvariant (content : RepoContent) (repoDir capabilityId : String) :
    Except Err Dict := do
  let gate ← declaredInvariantGate content capabilityId
  match content.gate gate with
  | .missing =>
      .error (.governed ("local invariant gate missing: " ++ repoDir ++ "/" ++ gate))
  | .notLoadable => .error (.governed "cannot load local invariant gate.")
  | .raised text => .error (.fault (.raised text))
  | .ran result =>
      if isStr "ACCEPT" (result.get "verdict") then .ok result
      else .error (.governed
        "local invariant proof rejected; refusing governed realization.")

end KeyholeRepo
