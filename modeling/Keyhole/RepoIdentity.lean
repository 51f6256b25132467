import Keyhole.ContextCompile

/-!
# The identity of the subject repository

`detect_repo_identity` asks git for the `origin` remote and refuses the platform control
repository.  It knows an owner and a name only for the URLs its two patterns match; a URL
they do not match has neither, and passes.

* `parseOwnerRepo`: the two patterns;
* `detectRepoIdentity`: the guard;
* `Call.run`: the three commands that consult it before they write. -/

namespace KeyholeRepoIdentity

open KeyholeJson KeyholeDispatch KeyholeContext
open KeyholeLogin (CommandResult)

/-! ## The two patterns -/

/-- `[^sep]+sep`: a run up to the first separator, and what follows. -/
def upTo (sep : Char) (cs : List Char) : Option (List Char × List Char) :=
  match cs.takeWhile (· ≠ sep), cs.dropWhile (· ≠ sep) with
  | c :: run, _ :: rest => some (c :: run, rest)
  | _, _ => none

/-- `(?:\.git)?$`: `$` matches at the end and before a newline at the end. -/
def endsName (rest : List Char) : Bool :=
  decide (rest ∈ [[], ['\n'], ['.', 'g', 'i', 't'], ['.', 'g', 'i', 't', '\n']])

/-- `([^/]+?)(?:\.git)?$`: the shortest name after which the pattern may end. -/
def shortestName (taken : List Char) : List Char → Option (List Char)
  | [] => if taken.isEmpty then none else some taken
  | c :: rest =>
      if !taken.isEmpty && endsName (c :: rest) then some taken
      else if c = '/' then none
      else shortestName (taken ++ [c]) rest

/-- `([^/]+)/([^/]+?)(?:\.git)?$`. -/
def ownerAndName (path : List Char) : Option (String × String) := do
  let (owner, name) ← upTo '/' path
  let repo ← shortestName [] name
  return (String.ofList owner, String.ofList repo)

/-- A literal at the start of a pattern. -/
def afterPrefix (p cs : List Char) : Option (List Char) :=
  if p.isPrefixOf cs then some (cs.drop p.length) else none

/-- `git@[^:]+:..`. -/
def sshMatch (url : List Char) : Option (String × String) := do
  let rest ← afterPrefix ['g', 'i', 't', '@'] url
  let (_, path) ← upTo ':' rest
  ownerAndName path

/-- `https?://`. -/
def afterScheme (url : List Char) : Option (List Char) :=
  afterPrefix ['h', 't', 't', 'p', 's', ':', '/', '/'] url
    <|> afterPrefix ['h', 't', 't', 'p', ':', '/', '/'] url

/-- `https?://[^/]+/..`. -/
def httpsMatch (url : List Char) : Option (String × String) := do
  let rest ← afterScheme url
  let (_, path) ← upTo '/' rest
  ownerAndName path

/-- `_parse_owner_repo`. -/
def parseOwnerRepo (remoteUrl : String) : String × String :=
  match sshMatch remoteUrl.toList with
  | some found => found
  | none => (httpsMatch remoteUrl.toList).getD ("", "")

/-- `_FORBIDDEN_PATTERNS`. -/
def forbiddenPatterns : List String :=
  ["Keyhole-Solution/keyhole_platform", "keyhole-solution/keyhole_platform"]

/-- `_is_platform_control_repo`. -/
def isPlatformControlRepo (owner repo : String) : Bool :=
  forbiddenPatterns.any fun pat => lower pat == lower (owner ++ "/" ++ repo)

/-- `RepoIdentityError`. -/
structure RepoIdentityError where
  message : String
  errorCode : String

/-- `RepoIdentity`. -/
structure RepoIdentity where
  repoRemote : String
  owner : String
  repo : String
  currentBranch : String
  commitSha : String
  dirtyWorktree : Bool
  repoBindingId : Json

/-- What running git comes to. -/
inductive GitAnswer where
  | exited (returncode : Int) (stdout stderr : String)
  | notFound
  | timedOut

/-- A directory, as the command finds it. -/
structure Checkout where
  path : String
  pathExists : Bool
  git : List String → GitAnswer
  /-- the document in `.keyhole/repo-binding.json`, if there is a readable one -/
  bindingFile : Option Json

/-- `_git`. -/
def Checkout.runGit (c : Checkout) (args : List String) : Except RepoIdentityError String :=
  match c.git args with
  | .exited returncode stdout stderr =>
      if returncode ≠ 0 then
        .error ⟨"git " ++ join " " args ++ " failed: " ++ strip stderr, "GIT_COMMAND_FAILED"⟩
      else .ok (strip stdout)
  | .notFound =>
      .error ⟨"git not found. Install git to use governed repo attachment.", "GIT_NOT_FOUND"⟩
  | .timedOut => .error ⟨"git command timed out.", "GIT_TIMEOUT"⟩

/-- `load_repo_binding_id`. -/
def Checkout.loadRepoBindingId (c : Checkout) : Json :=
  match c.bindingFile with
  | some (.obj data) => orElse (Dict.get data "repo_binding_id") .null
  | _ => .null

/-- The code of the error that refuses the control repository. -/
def forbiddenCode : String := "PLATFORM_REPO_TARGET_FORBIDDEN"

/-- That error. -/
def forbiddenError (owner repo : String) : RepoIdentityError where
  message := "PLATFORM_REPO_TARGET_FORBIDDEN: the subject repo resolves to "
    ++ "'" ++ owner ++ "/" ++ repo ++ "', which is the Keyhole platform control repo. "
    ++ "SDK/customer workflows must not target the platform control repo. "
    ++ "Use your own forked or customer repository."
  errorCode := forbiddenCode

/-- The identity of a checkout whose remote passed. -/
def Checkout.identity (c : Checkout) (remote owner repo : String) : RepoIdentity where
  repoRemote := remote
  owner := owner
  repo := repo
  currentBranch := (c.runGit ["rev-parse", "--abbrev-ref", "HEAD"]).toOption.getD "unknown"
  commitSha := (c.runGit ["rev-parse", "HEAD"]).toOption.getD "unknown"
  dirtyWorktree := (c.runGit ["status", "--porcelain"]).toOption.getD "" != ""
  repoBindingId := c.loadRepoBindingId

/-- `detect_repo_identity`. -/
def detectRepoIdentity (c : Checkout) : Except RepoIdentityError RepoIdentity :=
  if c.pathExists = false then
    .error ⟨"Repository path does not exist: " ++ c.path, "REPO_PATH_NOT_FOUND"⟩
  else
    match c.runGit ["rev-parse", "--git-dir"] with
    | .error _ => .error ⟨"Not a git repository: " ++ c.path, "NOT_A_GIT_REPO"⟩
    | .ok _ =>
        match c.runGit ["remote", "get-url", "origin"] with
        | .error _ => .error ⟨"No 'origin' remote configured. Run: git remote add origin <url>",
            "NO_ORIGIN_REMOTE"⟩
        | .ok remote =>
            let (owner, repo) := parseOwnerRepo remote
            if owner ≠ "" ∧ repo ≠ "" ∧ isPlatformControlRepo owner repo = true then
              .error (forbiddenError owner repo)
            else .ok (c.identity remote owner repo)

/-! ## The commands -/

/-- What the commands find: the session, the checkout, and what the server answers before the
    run itself is sent. -/
structure CommandEnv where
  accessToken : String
  checkout : Checkout
  /-- the repository's name in `keyhole.yaml` -/
  repoName : String
  gapsStatus : Answer
  compile : Answer
  statusId : String
  compileId : String
  correlationId : String

/-- What a command comes to before its run: a result, or the run it sends. -/
abbrev Attempt := Except CommandResult RunRequest

/-- A result without data. -/
def refusal (command : String) (exitCode : Nat) (summary : String) (nextSteps : List String)
    (data : Dict := []) : CommandResult :=
  { command, success := false, exitCode, summary, data, nextSteps }

/-- The result without a session. -/
def notAuthenticated (command : String) : CommandResult :=
  refusal command 3 "Not authenticated. Run: keyhole login" ["keyhole login", "Then: " ++ command]

/-- `run_repo_attach`, up to its run. -/
def runRepoAttach (env : CommandEnv) : Attempt :=
  let command := "keyhole repo attach"
  if env.accessToken = "" then .error (notAuthenticated command)
  else
    match detectRepoIdentity env.checkout with
    | .error e => .error (refusal command 4 e.message
        (if e.errorCode = forbiddenCode then
          ["The subject repo must be your own forked or customer repository.",
            "Do not use the Keyhole platform control repo as the workspace."]
        else ["Ensure you are inside a Git repository with an 'origin' remote."])
        [("error_code", .str e.errorCode)])
    | .ok identity => .ok {
        runType := "repo.attach"
        repoName := identity.repo
        inputData := .obj ([("repo_remote", .str identity.repoRemote),
          ("owner", .str identity.owner), ("repo", .str identity.repo),
          ("branch", .str identity.currentBranch), ("commit_sha", .str identity.commitSha),
          ("dirty_worktree", .bool identity.dirtyWorktree)]
          ++ (if truthy identity.repoBindingId then
              [("existing_repo_binding_id", identity.repoBindingId)] else []))
        correlationId := env.correlationId }

/-- `canonical_section.get("current_canonical_digest", "")` and what is done with it. -/
def canonicalOf : Json → Option String
  | .obj section_ =>
      match Dict.getOr section_ "current_canonical_digest" (.str "") with
      | .str raw => some (strip (if startsWith raw "sha256:" then dropChars 7 raw else raw))
      | _ => none
  | _ => none

/-- `_get_canonical_digest`: `""` on any exception. -/
def getCanonicalDigest (answer : Answer) (request : RunRequest) : String :=
  match dispatchRun answer request with
  | .error _ => ""
  | .ok outcome =>
      if outcome.status = .success ∧ outcome.responseData ≠ [] then
        let data := outcome.responseData
        let found : Option String :=
          if truthy (data.get "canonical") then canonicalOf (data.get "canonical")
          else
            match orElse (data.get "data") (.obj []) with
            | .obj inner => canonicalOf (orElse (Dict.get inner "canonical") (.obj []))
            | _ => none
        found.getD ""
      else ""

/-- The context a run that writes is bound to. -/
def gapsContext (env : CommandEnv) : Json :=
  let canonical := getCanonicalDigest env.gapsStatus
    { runType := "gaps.status", repoName := env.repoName, correlationId := env.statusId }
  if canonical ≠ "" then .str canonical
  else
    match compileContext env.compile ⟨env.repoName, env.compileId⟩ with
    | .ok result => if truthy result.ctxpackDigest then result.ctxpackDigest else .null
    | .error _ => .null

/-- `_READ_ONLY_RUNS`. -/
def readOnlyRuns : List String :=
  ["gaps.list", "gaps.next_open_canonical", "gaps.get", "gaps.status"]

/-- `_dispatch_gaps_run`, up to its run. -/
def dispatchGapsRun (env : CommandEnv) (runType command : String) (inputData : Json) : Attempt :=
  if env.accessToken = "" then .error (notAuthenticated command)
  else .ok {
    runType := runType
    repoName := env.repoName
    contextRef := if runType ∈ readOnlyRuns then .null else gapsContext env
    inputData := inputData
    correlationId := env.correlationId }

/-- `repo_context`: empty where there is no identity. -/
def repoContext (c : Checkout) : Dict :=
  match detectRepoIdentity c with
  | .ok identity => [("repo_remote", .str identity.repoRemote),
      ("branch", .str identity.currentBranch), ("commit_sha", .str identity.commitSha)]
      ++ (if truthy identity.repoBindingId then
          [("repo_binding_id", identity.repoBindingId)] else [])
  | .error _ => []

/-- `run_gaps_claim`, up to its run. -/
def runGapsClaim (env : CommandEnv) (gapId : String) : Attempt :=
  let command := "keyhole gaps claim"
  if strip gapId = "" then
    .error (refusal command 4 "--gap-id is required."
      ["keyhole gaps list — to find available gap IDs.", "keyhole gaps claim --gap-id <id>"])
  else dispatchGapsRun env "gaps.claim" command
    (.obj (("gap_id", .str (strip gapId)) :: repoContext env.checkout))

/-- `run_governance_context_create`, up to its run. -/
def runGovernanceContextCreate (env : CommandEnv) (gapId claimToken repoBindingId purpose : String) :
    Attempt :=
  let command := "keyhole governance-context create"
  if strip gapId = "" then
    .error (refusal command 4 "Missing required argument: --gap-id"
      ["Run: keyhole gaps claim --gap-id <id>",
        "Then: " ++ command ++ " --gap-id <id> --claim-token <token>"])
  else if env.accessToken = "" then .error (notAuthenticated command)
  else
    match detectRepoIdentity env.checkout with
    | .error e => .error (refusal command 4 e.message
        ["Ensure you are inside a Git repository with an 'origin' remote.",
          "Run: keyhole repo attach — to enroll your repo."]
        [("error_code", .str e.errorCode)])
    | .ok identity =>
        let bindingId := if strip repoBindingId ≠ "" then .str (strip repoBindingId)
          else identity.repoBindingId
        .ok {
          runType := "governance.context.create"
          repoName := identity.repo
          inputData := .obj ([("gap_id", .str (strip gapId))]
            ++ (if strip claimToken ≠ "" then [("claim_token", .str (strip claimToken))] else [])
            ++ [("repo_remote", .str identity.repoRemote), ("branch", .str identity.currentBranch),
              ("commit_sha", .str identity.commitSha),
              ("purpose", .str (if purpose = "" then "development" else purpose)),
              ("origin", .str "sdk")]
            ++ (if truthy bindingId then [("repo_binding_id", bindingId)] else []))
          correlationId := env.correlationId }

/-- A call of a command that consults the guard before it writes. -/
inductive Call where
  | attach
  | claim (gapId : String)
  | create (gapId claimToken repoBindingId purpose : String)

/-- The command of a call. -/
def Call.run (env : CommandEnv) : Call → Attempt
  | .attach => runRepoAttach env
  | .claim gapId => runGapsClaim env gapId
  | .create gapId claimToken repoBindingId purpose =>
      runGovernanceContextCreate env gapId claimToken repoBindingId purpose

end KeyholeRepoIdentity
