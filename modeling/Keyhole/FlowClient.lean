import Keyhole.FlowWorld

/-!
# The governed flow client

The methods of `GovernedRepoFlowClient` and of the base class it inherits from,
one definition a method, under the names of the source.  A long method is cut at
its stages (`resumeGovernedRepoFlow` into `openRun` and the five stages), so that
each of them can be reasoned about alone. -/

namespace KeyholeFlow

open KeyholeJson KeyholeRedaction KeyholeEnvelope KeyholeGaps KeyholeOperations KeyholeRepo
  EffectProgram

/-! ## Headers and requests -/

/-- `_headers`. -/
def headers (env : Env) (idempotent : Bool) : Flow (List (String × String)) := do
  let c ← getClient
  if idempotent then do
    let t ← nextTick
    return idempotentHeaders env t c
  else return plainHeaders c

/-- The request of a boundary operation. -/
def operationRequest (c : Client) (site : Site) (op : BoundaryOperation)
    (headers : List (String × String)) (payload : Dict) : Request :=
  ⟨site, op.method, c.mcpUrl ++ op.path, headers, some (.obj payload)⟩

/-- A GET of a run, by its path. -/
def pollRequest (c : Client) (site : Site) (path : String) : Request :=
  ⟨site, "GET", c.mcpUrl ++ path, plainHeaders c, none⟩

/-! ## Discovery -/

/-- `_require_operation`. -/
def requireOperation (name : String) : Flow BoundaryOperation := do
  let c ← getClient
  match c.operations.lookup name with
  | some op => return op
  | none => raise ("MCP capabilities missing required operation(s): " ++ name)

/-- `_require_operations`. -/
def requireAll (names : List String) : Flow Unit := do
  let c ← getClient
  match requireOperations c.operations names with
  | none => return
  | some message => raise message

/-- The checks `discover` ends with. -/
def checkOperations (data : Dict) : Flow Unit := do
  onlyIf (requiresActiveClaim data) (requireAll ["gaps.claim"])
  requireAll ["repo.register", "context.compile", "governed.realize"]

/-- `discover`. -/
def discover (env : Env) : Flow Unit := do
  let c ← getClient
  let resp ← http env ⟨.capabilities, "GET", c.mcpUrl ++ "/mcp/v1/capabilities", [], none⟩
  ofExcept (raiseForResponse resp "capabilities discovery")
  let raw ← ofExcept (jsonObject resp)
  let data := unwrapMcpEnvelope raw
  modifyClient (fun c => { c with capabilities := data })
  match extractOperations raw with
  | none => throw (.fault (.raised "TypeError"))
  | some operations => do
      modifyClient (fun c => { c with operations := operations })
      checkOperations data

/-- `_ensure_discovered`. -/
def ensureDiscovered (env : Env) : Flow Unit := do
  let c ← getClient
  if c.operations.isEmpty then discover env

/-! ## Asynchronous results -/

/-- The paths `_resolve_async_result` polls. -/
def runPaths (data : Dict) : List String :=
  ((if pollUrl data = "" then [] else [pollUrl data])
    ++ (if runId data = "" then [] else ["/mcp/v1/runs/" ++ runId data ++ "/status"])).eraseDups

/-- One round over the paths: the finished answer, or the last one that was not. -/
def pollRound (env : Env) (action : Action) : List String → Dict → Flow (Dict ⊕ Dict)
  | [], last => return .inl last
  | path :: rest, _ => do
      let c ← getClient
      let polled ← exchange env (pollRequest c (.runPoll action) path)
        (action.text ++ " status poll")
      if isFinished polled then
        if isFailedRun polled then
          raise (action.text ++ " failed: " ++ (runError polled []).1 ++ ": "
            ++ (runError polled []).2)
        else return .inr polled
      else pollRound env action rest polled

/-- The polling loop, for as many rounds as fit before the deadline. -/
def pollUntil (env : Env) (action : Action) (paths : List String) : Nat → Dict → Flow Dict
  | 0, last =>
      raise (action.text ++ " did not reach a terminal run status before timeout: "
        ++ pyStr (redact (.obj last)))
  | rounds + 1, last => do
      match ← pollRound env action paths last with
      | .inr polled => return polled
      | .inl last => pollUntil env action paths rounds last

/-- `GovernedFirstAppClient._resolve_async_result`, on an answer that accepts a
    run. -/
def awaitRun (env : Env) (data : Dict) (action : Action) : Flow Dict := do
  if runId data = "" ∧ pollUrl data = "" then
    raise (action.text ++ " accepted asynchronously but returned no run_id or poll_url.")
  else do
    let t ← nextTick
    pollUntil env action (runPaths data) (env.rounds t) data

/-- What is persisted when a run is accepted. -/
def acceptedUpdates (state : SavedState) (data : Dict) (action : Action) : Dict :=
  [("step", .str (stateStep action)),
    ("status", orElse (.str (runStatus data)) (.str "accepted")),
    ("terminal", .bool false),
    ("run_id", .str (runId data)),
    ("poll_url", .str (pollUrl data)),
    ("correlation_id", orElse (.str (correlationId data))
      (state.getOr "correlation_id" (.str "")))]

/-- `GovernedRepoFlowClient._resolve_async_result`. -/
def resolveAsyncResult (env : Env) (data : Dict) (action : Action) : Flow Dict := do
  if isActive data then do
    let c ← getClient
    persistState env (acceptedUpdates c.currentState data action)
    awaitRun env data action
  else return data

/-- The request of an action, from sending it to the settled answer. -/
def submit (env : Env) (request : Request) (action : Action) : Flow Dict := do
  let data ← exchange env request action.text
  resolveAsyncResult env data action

/-! ## Context digests -/

/-- The `try` block of `_current_canonical_digest`. -/
def readCanonicalDigest (env : Env) : Flow String := do
  let c ← getClient
  let payload : Dict :=
    [("run_type", .str "gaps.status"), ("repo", .str env.repoName), ("shadow", .bool false)]
  let resp ← http env ⟨.canonicalStatus, "POST", c.mcpUrl ++ "/mcp/v1/runs/start",
    plainHeaders c, some (.obj payload)⟩
  if 400 ≤ resp.statusCode then return ""
  else do
    let data ← ofExcept (jsonObject resp)
    if isFalse (data.get "ok") then return "" else return extractCurrentCanonicalDigest data

/-- `_current_canonical_digest`: any exception but the death of the process
    counts as no digest. -/
def currentCanonicalDigest (env : Env) : Flow String :=
  tryCatch (readCanonicalDigest env) (fun e =>
    match e with
    | .fault .killed => throw (.fault .killed)
    | _ => return "")

/-- The run type of an operation, with the default the callers use. -/
def runTypeOr (op : BoundaryOperation) (default : String) : String :=
  if op.runType = "" then default else op.runType

/-- `_compile_preclaim_context`. -/
def compilePreclaimContext (env : Env) : Flow String := do
  let op ← requireOperation "context.compile"
  let c ← getClient
  let payload : Dict :=
    [("run_type", .str (runTypeOr op "context.compile")),
      ("params", .obj [("repo", .str env.repoName), ("gap_id", .str c.storyId),
        ("story_id", .str c.storyId)])]
  let hs ← headers env true
  let data ← submit env (operationRequest c (.submit .preclaimCompile) op hs payload)
    .preclaimCompile
  let contextId := extractContextId data
  if contextId = "" then
    raise "pre-claim context.compile response missing ctxpack digest."
  else return contextId

/-- `_claim_context_digest`. -/
def claimContextDigest (env : Env) : Flow String := do
  let canonical ← currentCanonicalDigest env
  if canonical = "" then compilePreclaimContext env else return canonical

/-! ## The gap -/

/-- What the client looks a gap up for. -/
def gapQuery (env : Env) (c : Client) : GapQuery := ⟨env.repoName, c.storyId, c.capabilityId⟩

/-- `_run_gap_discovery`. -/
def runGapDiscovery (env : Env) (op : BoundaryOperation) (params : Dict) : Flow String := do
  let c ← getClient
  let hs ← headers env false
  let payload : Dict := [("run_type", .str op.runType), ("params", .obj params)]
  let data ← submit env (operationRequest c (.submit .gapDiscovery) op hs payload) .gapDiscovery
  match selectGapId data (gapQuery env c) with
  | .ok gapId => return gapId
  | .error message => raise message

/-- The parameters of `_discover_gap_id`. -/
def discoveryParams (env : Env) (c : Client) : Dict :=
  [("status", .str "*"), ("limit", .int 50), ("order_by", .str "actionable"),
    ("story_id", .str c.storyId), ("repo", .str env.repoName), ("repo_name", .str env.repoName),
    ("domain", .str env.repoName), ("capability_id", .str c.capabilityId),
    ("capability", .str c.capabilityId), ("fingerprint_version", .str "sdk-v1")]

/-- The second look of `_discover_gap_id`, without the story; `earlier` is the error
    of the first. -/
def discoverWithoutStory (env : Env) (op : BoundaryOperation) (params : Dict)
    (earlier : Option String) : Flow String := do
  match ← catchGoverned (runGapDiscovery env op (params.pop "story_id")) with
  | .ok gapId => return gapId
  | .error message => raise (earlier.getD message)

/-- `_discover_gap_id`. -/
def discoverGapId (env : Env) : Flow String := do
  let c ← getClient
  match gapDiscoveryOperation c.capabilities with
  | none => raise "MCP capabilities missing gap discovery run type."
  | some op => do
      let params := discoveryParams env c
      match ← catchGoverned (runGapDiscovery env op params) with
      | .error message =>
          if c.storyId = "" then raise message
          else discoverWithoutStory env op params (some message)
      | .ok gapId =>
          if gapId ≠ "" then return gapId
          else if c.storyId ≠ "" then discoverWithoutStory env op params none
          else return ""

/-- `self.resolved_gap_id = gap_id; self.gap_id_source = source`. -/
def setGap (gapId source : String) : Flow Unit :=
  modifyClient (fun c => { c with resolvedGapId := gapId, gapIdSource := source })

/-- `text or "<unspecified>"`. -/
def orUnspecified (text : String) : String := if text = "" then "<unspecified>" else text

/-- The last branch of `GovernedFirstAppClient._resolve_gap_id`. -/
def resolveListedGapId (env : Env) : Flow String := do
  let discovered ← discoverGapId env
  if discovered ≠ "" then do
    setGap discovered "gaps.list"
    return discovered
  else do
    let c ← getClient
    raise ("cannot resolve canonical claimable gap_id for story_id=" ++ orUnspecified c.storyId
      ++ "; capabilities did not provide one and gaps.list returned no matching gap.")

/-- `GovernedFirstAppClient._resolve_gap_id`. -/
def resolveGapIdBase (env : Env) : Flow String := do
  let c ← getClient
  let override := strip env.gapOverride
  let explicit := gapIdFromCapabilities c.capabilities
  if c.resolvedGapId ≠ "" then return c.resolvedGapId
  else if override ≠ "" then
    if startsWith override "gap_" then do
      setGap override "diagnostic override KEYHOLE_GOVERNED_GAP_ID"
      return override
    else raise "KEYHOLE_GOVERNED_GAP_ID must be a canonical gap_* id."
  else if explicit ≠ "" then do
    setGap explicit "capabilities"
    return explicit
  else resolveListedGapId env

/-- `GovernedRepoFlowClient._resolve_gap_id`. -/
def resolveGapId (env : Env) : Flow String := do
  let c ← getClient
  if c.operatorGapId ≠ "" then
    if startsWith c.operatorGapId "gap_" then do
      setGap c.operatorGapId "operator --gap-id"
      modifyClient (fun c => { c with gapIdClaimableVerified := true })
      return c.operatorGapId
    else raise "--gap-id must be a canonical gap_* id."
  else do
    match ← catchGoverned (resolveGapIdBase env) with
    | .ok gapId => do
        modifyClient (fun c => { c with
          gapIdClaimableVerified := c.gapIdSource == "gaps.list" })
        return gapId
    | .error message =>
        raise (message ++ " Run 'keyhole gaps list --json' to inspect claimable gaps, "
          ++ "or pass an explicit canonical gap with --gap-id gap_...")

/-- What is persisted once a gap is resolved. -/
def gapUpdates (gapId source : String) : Dict :=
  [("resolved_gap_id", .str gapId), ("gap_id_source", .str source),
    ("status", .str "gap_resolved"), ("step", .str "gap_resolved"), ("terminal", .bool false)]

/-- What is persisted when the cached gap turns out not to be claimable. -/
def noClaimableUpdates (message : String) : Dict :=
  [("status", .str "no_claimable_gap"), ("step", .str "gap_resolved"),
    ("terminal", .bool false), ("error_code", .str "NO_CLAIMABLE_GAP"),
    ("error_message", .str message)]

/-- `_refresh_cached_gap_claimability`. -/
def refreshCachedGapClaimability (env : Env) : Flow Unit := do
  let c ← getClient
  let cached := strOr (orElse (c.currentState.get "resolved_gap_id") (.str c.resolvedGapId))
  if c.gapIdClaimableVerified = true ∨ c.operatorGapId ≠ "" then return
  else if cached = "" then return
  else do
    modifyClient (fun c => { c with resolvedGapId := "" })
    match ← catchGoverned (resolveGapId env) with
    | .error message => do
        modifyClient (fun c => { c with resolvedGapId := cached })
        persistState env (noClaimableUpdates message)
        raise message
    | .ok live =>
        if live ≠ cached then do
          let c ← getClient
          persistState env (gapUpdates live c.gapIdSource)

/-- What `_persist_gap_resolution_error` persists. -/
def gapErrorUpdates (message : String) : Dict :=
  let noClaimable := contains message "NO_CLAIMABLE_GAP"
  [("status", .str (if noClaimable then "no_claimable_gap" else "gap_resolution_failed")),
    ("step", .str "gap_resolution"), ("terminal", .bool false),
    ("error_code", .str (if noClaimable then "NO_CLAIMABLE_GAP" else "GAP_RESOLUTION_FAILED")),
    ("error_message", .str message)]

/-! ## The claim -/

/-- The dictionary `claim_gap` returns. -/
structure Claim where
  claimId : String
  claimRef : String
  gapId : String
  gapIdSource : String
  ctxpackDigest : String

/-- The payload of `gaps.claim`. -/
def claimPayload (c : Client) (content : RepoContent) (op : BoundaryOperation)
    (gapId ctxpackDigest : String) : Dict :=
  [("run_type", .str (runTypeOr op "gaps.claim")),
    ("ctxpack_digest", .str ctxpackDigest),
    ("params", .obj [("gap_id", .str gapId), ("story_id", .str c.storyId),
      ("ctxpack_digest", .str ctxpackDigest), ("purpose", .str flowPurpose),
      ("repo_remote", .str content.repoRemote), ("commit_sha", .str content.commitSha),
      ("branch", .str content.branch)])]

/-- What `claim_gap` makes of the settled answer. -/
def claimOf (data : Dict) (gapId source ctxpackDigest : String) : Except Err Claim :=
  if extractClaimId data = "" ∧ extractClaimRef data = "" then
    .error (.governed "gap claim response missing claim_id/claim_ref.")
  else .ok ⟨extractClaimId data, extractClaimRef data, gapId, source, ctxpackDigest⟩

/-- `GovernedRepoFlowClient.claim_gap`. -/
def claimGap (env : Env) : Flow Claim := do
  refreshCachedGapClaimability env
  ensureDiscovered env
  let op ← requireOperation "gaps.claim"
  let content ← readRepo env
  ofExcept (repoGitMetadata content)
  let ctxpackDigest ← claimContextDigest env
  let gapId ← resolveGapId env
  let c ← getClient
  let hs ← headers env true
  let data ← submit env (operationRequest c (.submit .gapClaim) op hs
    (claimPayload c content op gapId ctxpackDigest)) .gapClaim
  let c ← getClient
  ofExcept (claimOf data gapId c.gapIdSource ctxpackDigest)

/-! ## The registration -/

/-- The fields of a claim a registration may carry. -/
def claimFields (claim : Claim) : Dict :=
  (if claim.claimId = "" then [] else [("claim_id", .str claim.claimId)])
    ++ (if claim.claimRef = "" then [] else [("claim_ref", .str claim.claimRef)])

/-- The context reference of a payload. -/
def contextFields (contextRef : String) : Dict :=
  if contextRef = "" then []
  else [("ctxpack_digest", .str contextRef), ("context_ref", .str contextRef)]

/-- The digest among the parameters. -/
def digestField (contextRef : String) : Dict :=
  if contextRef = "" then [] else [("ctxpack_digest", .str contextRef)]

/-- `_build_generic_registration_payload`; `pathDigest` is the digest of
    `keyhole.yaml` that only the payload without a run type carries. -/
def buildGenericRegistrationPayload (c : Client) (declaration : RepoDeclaration)
    (op : BoundaryOperation) (claim : Claim) (pathDigest : String) : Dict :=
  if op.runType = "" then
    [("repo", .obj [("name", .str declaration.repoName), ("path_digest", .str pathDigest)]),
      ("native_artifacts", .obj declaration.nativeArtifacts)]
  else
    [("run_type", .str op.runType),
      ("params", .obj ([
        ("gap_id", .str (if claim.gapId = "" then c.storyId else claim.gapId)),
        ("story_id", .str c.storyId),
        ("repo_name", .str declaration.repoName),
        ("repo_remote", .str declaration.repoRemote),
        ("commit_sha", .str declaration.commitSha),
        ("branch", .str declaration.branch),
        ("declared_repo_class", .str declaration.repoClass),
        ("purpose", .str flowPurpose),
        ("origin", .str "keyhole-sdk"),
        ("declaration_files", .obj declaration.declarationFileDigests),
        ("native_artifacts", .obj declaration.nativeArtifacts)]
        ++ claimFields claim ++ digestField claim.ctxpackDigest))]
    ++ contextFields claim.ctxpackDigest

/-- The claim a registration starts from: the one the saved state holds. -/
def savedClaim (c : Client) : Claim :=
  let state := c.currentState
  { claimId := strOr (state.get "claim_id")
    claimRef := strOr (state.get "claim_ref")
    gapId := strOr (orElse (state.get "resolved_gap_id")
      (orElse (.str c.resolvedGapId) (.str c.storyId)))
    gapIdSource := strOr (orElse (state.get "gap_id_source") (.str c.gapIdSource))
    ctxpackDigest := strOr (state.get "claim_ctxpack_digest") }

/-- `client.repo_declaration or read_repo_declaration(...)`. -/
def currentDeclaration (env : Env) : Flow RepoDeclaration := do
  let c ← getClient
  match c.repoDeclaration with
  | some declaration => return declaration
  | none => do
      let content ← readRepo env
      ofExcept (readRepoDeclaration content env.repoName c.storyId c.capabilityId c.repoClass)

/-- The digest of `keyhole.yaml`, read for a payload without a run type only. -/
def legacyPathDigest (env : Env) (op : BoundaryOperation) : Flow String := do
  if op.runType = "" then do
    let content ← readRepo env
    return fileDigest content.keyhole
  else return ""

/-- The dictionary `register_repo` returns, without the copy of the answer. -/
structure Registration where
  registrationId : String
  claim : Claim

/-- What `register_repo` writes to the registration file. -/
def registrationDoc (c : Client) (registration : Registration) (data : Dict) : Dict :=
  [("registration_id", .str registration.registrationId),
    ("claim_id", .str registration.claim.claimId),
    ("claim_ref", .str registration.claim.claimRef),
    ("claim_ctxpack_digest", .str registration.claim.ctxpackDigest),
    ("gap_id", .str registration.claim.gapId),
    ("story_id", .str c.storyId),
    ("gap_id_source", .str registration.claim.gapIdSource),
    ("upstream", redact (.obj data))]

/-- What `register_repo` makes of the settled answer. -/
def registrationOf (data : Dict) (claim : Claim) : Except Err Registration :=
  if extractRegistrationId data = "" then
    .error (.governed ("repo.register response missing " ++
      "registration_id/repo_id/declaration_id/governance_context_id."))
  else .ok ⟨extractRegistrationId data, claim⟩

/-- The saved claim, or a new one when there is none and the server wants one. -/
def activeClaim (env : Env) : Flow Claim := do
  let c ← getClient
  let saved := savedClaim c
  if saved.claimId = "" ∧ saved.claimRef = ""
      ∧ requiresActiveClaim (unwrapMcpEnvelope c.capabilities) = true then claimGap env
  else return saved

/-- The claim a registration is sent with. -/
def registrationClaim (env : Env) : Flow Claim := do
  let claim ← activeClaim env
  if claim.ctxpackDigest = "" then do
    let digest ← currentCanonicalDigest env
    return { claim with ctxpackDigest := digest }
  else return claim

/-- `GovernedRepoFlowClient.register_repo`. -/
def registerRepo (env : Env) : Flow Registration := do
  ensureDiscovered env
  let op ← requireOperation "repo.register"
  let claim ← registrationClaim env
  let declaration ← currentDeclaration env
  let pathDigest ← legacyPathDigest env op
  let c ← getClient
  let hs ← headers env true
  let data ← submit env (operationRequest c (.submit .registration) op hs
    (buildGenericRegistrationPayload c declaration op claim pathDigest)) .registration
  let registration ← ofExcept (registrationOf data claim)
  writeDemoState env registrationState (registrationDoc c registration data)
  return registration

/-! ## The context -/

/-- The dictionary `compile_context` returns, without the copy of the answer. -/
structure CompiledContext where
  governanceContextId : String
  ctxpackDigest : String

/-- What `compile_context` makes of the settled answer. -/
def contextOf (data : Dict) : Except Err CompiledContext :=
  let contextId := extractContextId data
  if contextId = "" then
    .error (.governed
      "context.compile response missing governance_context_id or context digest.")
  else .ok ⟨contextId, contextDigestOr data contextId⟩

/-- The payload of `context.compile`. -/
def compilePayload (env : Env) (c : Client) (op : BoundaryOperation)
    (registrationId contextRef : String) : Dict :=
  [("run_type", .str (runTypeOr op "context.compile")),
    ("params", .obj ([
      ("repo", .str env.repoName),
      ("registration_id", .str registrationId),
      ("gap_id", .str (strOr (orElse (c.currentState.get "resolved_gap_id") (.str c.storyId)))),
      ("story_id", .str c.storyId)] ++ digestField contextRef))]
  ++ contextFields contextRef

/-- The registration id a compile names: the saved one, or the one in the
    registration file. -/
def compileRegistrationId (env : Env) : Flow String := do
  let c ← getClient
  let saved := strOr (c.currentState.get "registration_id")
  if saved = "" then do
    let registration ← readDemoState env registrationState
    return strOr (registration.get "registration_id")
  else return saved

/-- `GovernedRepoFlowClient.compile_context`. -/
def compileContext (env : Env) : Flow CompiledContext := do
  ensureDiscovered env
  let op ← requireOperation "context.compile"
  let c ← getClient
  let registrationId ← compileRegistrationId env
  -- both arguments of `_first_string` are evaluated before it looks at them
  let canonical ← currentCanonicalDigest env
  let contextRef := firstString [c.currentState.get "claim_ctxpack_digest", .str canonical]
  let hs ← headers env true
  let data ← submit env (operationRequest c (.submit .contextCompile) op hs
    (compilePayload env c op registrationId contextRef)) .contextCompile
  let context ← ofExcept (contextOf data)
  writeDemoState env contextState
    [("governance_context_id", .str context.governanceContextId),
      ("ctxpack_digest", .str context.ctxpackDigest),
      ("registration_id", .str registrationId),
      ("upstream", redact (.obj data))]
  return context

/-! ## The realization -/

/-- `_candidate_digest`. -/
def candidateDigest (env : Env) (invariant : Dict) (contextId : String) : String :=
  "sha256:" ++ env.sha256 (dumps compactSeparators (.obj [
    ("repo", .str env.repoName), ("invariant", .obj invariant),
    ("governance_context_id", .str contextId)]))

/-- The receipt model's reading of the receipt: its timestamp as it is printed back. -/
def stampedReceipt (receipt : GovernanceReceipt) (time : String) : GovernanceReceipt :=
  { receipt with realizedAt := time }

/-- The receipt an answer read at the time `now` amounts to, validated. -/
def validReceipt (env : Env) (now : String) (data : Dict) (candidate : String) :
    Except Err GovernanceReceipt :=
  let receipt := normalizeGovernanceReceipt data candidate now
  match env.parseTime receipt.realizedAt with
  | none => .error (.fault (.raised "ValidationError"))
  | some time =>
      match validateGovernedReceipt (stampedReceipt receipt time) with
      | some message => .error (.governed message)
      | none => .ok (stampedReceipt receipt time)

/-- `_normalize_governance_receipt` and `_validate_governed_receipt`. -/
def receiptOf (env : Env) (data : Dict) (candidate : String) : Flow GovernanceReceipt := do
  let t ← nextTick
  ofExcept (validReceipt env (env.now t) data candidate)

/-- The context id a realization runs under, with the context file when the saved
    state has none. -/
def realizationContext (env : Env) : Flow (String × Dict) := do
  let c ← getClient
  let contextId := strOr (c.currentState.get "governance_context_id")
  if contextId = "" then do
    let context ← readDemoState env contextState
    return (strOr (context.get "governance_context_id"), context)
  else return (contextId, [])

/-- The context file, unless it was read already; a missing one counts as empty. -/
def contextFile (env : Env) (context : Dict) : Flow Dict := do
  if context.isEmpty then
    match ← catchGoverned (readDemoState env contextState) with
    | .ok d => return d
    | .error _ => return []
  else return context

/-- The context reference of a realization. -/
def realizationRef (env : Env) (contextId : String) (context : Dict) : Flow String := do
  let c ← getClient
  let saved := validCtxpackDigest (c.currentState.get "ctxpack_digest")
  if saved ≠ "" then return saved
  else do
    let context ← contextFile env context
    return firstString [
      .str (validCtxpackDigest (context.get "ctxpack_digest")),
      .str (extractContextDigest (context.child "upstream")),
      .str (validCtxpackDigest (.str contextId))]

/-- The parameters of a realization. -/
def realizationParams (candidate contextId : String) (invariant : Dict) : Dict :=
  [("candidate_digest", .str candidate), ("require_governed", .bool true),
    ("governance_context_id", .str contextId), ("local_invariant_result", .obj invariant)]

/-- The request of a realization: to the runtime, or through the MCP boundary. -/
def realizationRequest (env : Env) (op : BoundaryOperation) (params : Dict)
    (contextRef : String) : Flow Request := do
  let c ← getClient
  if op.surface = "runtime" then
    return ⟨.submit .realization, "POST", c.runtimeUrl ++ "/realize", [], some (.obj params)⟩
  else do
    let hs ← headers env true
    return operationRequest c (.submit .realization) op hs
      ([("run_type", .str (runTypeOr op "governed.realize")), ("params", .obj params)]
        ++ contextFields contextRef)

/-- `GovernedRepoFlowClient.run_governed_realization`. -/
def runGovernedRealization (env : Env) : Flow GovernanceReceipt := do
  ensureDiscovered env
  let (contextId, context) ← realizationContext env
  let contextRef ← realizationRef env contextId context
  let content ← readRepo env
  let c ← getClient
  let invariant ← ofExcept (runLocalInvariant content env.repoDir c.capabilityId)
  let candidate := candidateDigest env invariant contextId
  persistState env ([("candidate_digest", .str candidate)] ++ digestField contextRef)
  let op ← requireOperation "governed.realize"
  let request ← realizationRequest env op (realizationParams candidate contextId invariant)
    contextRef
  let data ← submit env request .realization
  let receipt ← receiptOf env data candidate
  writeDemoState env receiptStateFile (receiptState receipt)
  return receipt

/-! ## Recovery of a pending run -/

/-- What `_update_state_from_result` adds for a receipt. -/
def receiptUpdates (receipt : GovernanceReceipt) : Dict :=
  [("status", .str "succeeded"), ("step", .str "receipt_ready"), ("terminal", .bool true),
    ("live_confirmed", .bool true)] ++ receiptState receipt

/-- The updates every consumed run starts with. -/
def consumedUpdates : Dict :=
  [("run_id", .str ""), ("poll_url", .str ""), ("terminal", .bool false)]

/-- What a recovered context compile adds. -/
def recoveredContextUpdates (step : String) (data : Dict) : Dict :=
  let contextId := extractContextId data
  let word := if step = "context_compile" then "context_compiled" else "preclaim_context_ready"
  [("governance_context_id", .str contextId),
    ("ctxpack_digest", .str (contextDigestOr data contextId)),
    ("status", .str word), ("step", .str word)]

/-- The step-specific updates of `_update_state_from_result`. -/
def recoveredUpdates (env : Env) (step : String) (data : Dict) : Flow Dict := do
  let c ← getClient
  if step = "gap_discovery" then
    match selectGapId data (gapQuery env c) with
    | .error message => raise message
    | .ok gapId =>
        if gapId ≠ "" then do
          modifyClient (fun c => { c with resolvedGapId := gapId })
          return [("resolved_gap_id", .str gapId),
            ("gap_id_source", orElse (.str c.gapIdSource) (.str "gaps.list")),
            ("status", .str "gap_resolved"), ("step", .str "gap_resolved")]
        else return []
  else if step = "gap_claim" then
    return [("claim_id", .str (extractClaimId data)), ("claim_ref", .str (extractClaimRef data)),
      ("status", .str "claim_succeeded"), ("step", .str "claim_succeeded")]
  else if step = "context_create" then
    return [("registration_id", .str (recoverRegistrationId data)),
      ("status", .str "context_created"), ("step", .str "context_created")]
  else if step = "preclaim_context" ∨ step = "context_compile" then
    return recoveredContextUpdates step data
  else if step = "governed_realize" then do
    let receipt ← receiptOf env data (strOr (c.currentState.get "candidate_digest"))
    return receiptUpdates receipt
  else return []

/-- `_update_state_from_result`. -/
def updateStateFromResult (env : Env) (data : Dict) : Flow Unit := do
  let c ← getClient
  let updates ← recoveredUpdates env (strOr (c.currentState.get "step")) data
  persistState env (consumedUpdates ++ updates)

/-- The paths `_poll_saved_run` tries. -/
def savedRunPaths (runId pollUrl : String) : List String :=
  ((if pollUrl = "" then [] else [pollUrl])
    ++ (if runId = "" then []
        else ["/mcp/v1/runs/" ++ runId, "/mcp/v1/runs/" ++ runId ++ "/status"])).eraseDups

/-- `text or "pending"`. -/
def orPending (text : String) : String := if text = "" then "pending" else text

/-- What is persisted for a run the server does not know. -/
def runNotFoundUpdates (runId pollUrl : String) : Dict :=
  [("status", .str "RUN_NOT_FOUND"), ("error_code", .str "RUN_NOT_FOUND"),
    ("error_message", .str ("saved MCP run was not found: "
      ++ (if runId = "" then pollUrl else runId))),
    ("terminal", .bool false)]

/-- What is persisted for a run that failed. -/
def runFailedUpdates (code message : String) : Dict :=
  [("status", .str code), ("error_code", .str code), ("error_message", .str message),
    ("terminal", .bool true)]

/-- One GET of `_poll_saved_run`, with the checks on its answer. -/
def savedRunAnswer (env : Env) (runId pollUrl : String) (request : Request) : Flow Dict := do
  let resp ← http env request
  if resp.statusCode = 404 then do
    persistState env (runNotFoundUpdates runId pollUrl)
    raise "RUN_NOT_FOUND: saved MCP run was not found; local state was preserved."
  else ofExcept (checkAnswer resp "governed run status")

/-- What `_poll_saved_run` does with a run that has come to its end. -/
def finishSavedRun (env : Env) (data : Dict) : Flow Unit := do
  if isFailedRun data then do
    let (code, message) := runError data [.str "RUN_FAILED"]
    persistState env (runFailedUpdates code message)
    raise (code ++ ": " ++ message)
  else updateStateFromResult env data

/-- The loop of `_poll_saved_run` over the paths. -/
def pollSavedPaths (env : Env) (runId pollUrl : String) : List String → String → Flow Unit
  | [], lastError =>
      persistState env [("status", .str (orPending lastError)), ("terminal", .bool false)]
  | path :: rest, _ => do
      let c ← getClient
      let step := strOr (c.currentState.get "step")
      let data ← savedRunAnswer env runId pollUrl
        (pollRequest c (.savedRunPoll step rest.isEmpty) path)
      if isFinished data then finishSavedRun env data
      else pollSavedPaths env runId pollUrl rest (orPending (runStatus data))

/-- `_poll_saved_run`. -/
def pollSavedRun (env : Env) : Flow Unit := do
  let c ← getClient
  let runId := strOr (c.currentState.get "run_id")
  let pollUrl := strOr (c.currentState.get "poll_url")
  if runId = "" ∧ pollUrl = "" then return
  else pollSavedPaths env runId pollUrl (savedRunPaths runId pollUrl) ""

/-- `_recover_pending_run`. -/
def recoverPendingRun (env : Env) : Flow Unit := do
  let c ← getClient
  if isTrue (c.currentState.get "terminal") then return
  else if truthy (c.currentState.get "run_id") || truthy (c.currentState.get "poll_url") then
    pollSavedRun env

/-! ## Commands -/

/-- What `inspect_repo` persists. -/
def inspectUpdates (env : Env) (declaration : RepoDeclaration) : Dict :=
  [("repo_dir", .str env.repoDir), ("repo_name", .str declaration.repoName),
    ("repo_remote", .str declaration.repoRemote), ("commit_sha", .str declaration.commitSha),
    ("branch", .str declaration.branch), ("repo_class", .str declaration.repoClass),
    ("story_id", .str declaration.storyId), ("capability_id", .str declaration.capabilityId),
    ("declaration_file_digests", .obj declaration.declarationFileDigests),
    ("status", .str "initialized"), ("terminal", .bool false)]

/-- The client after a declaration was read. -/
def Client.withDeclaration (c : Client) (declaration : RepoDeclaration) : Client :=
  { c with
    repoDeclaration := some declaration
    storyId := declaration.storyId
    capabilityId := declaration.capabilityId
    repoClass := declaration.repoClass }

/-- `inspect_repo`. -/
def inspectRepo (env : Env) (persist : Bool) : Flow RepoDeclaration := do
  let c ← getClient
  let content ← readRepo env
  let declaration ← ofExcept
    (readRepoDeclaration content env.repoName c.storyId c.capabilityId c.repoClass)
  modifyClient (fun c => c.withDeclaration declaration)
  onlyIf persist (persistState env (inspectUpdates env declaration))
  return declaration

/-- `load_last_state`. -/
def loadLastState (env : Env) : Flow SavedState := do
  let state ← loadLatest env
  modifyClient (fun c => { c with currentState := state })
  let c ← getClient
  let content ← readRepo env
  let declaration ← ofExcept (readRepoDeclaration content env.repoName
    (strOr (orElse (state.get "story_id") (.str c.storyId)))
    (strOr (orElse (state.get "capability_id") (.str c.capabilityId)))
    (strOr (orElse (state.get "repo_class") (.str c.repoClass))))
  modifyClient (fun c => c.withDeclaration declaration)
  onlyIf (truthy (state.get "resolved_gap_id")) (modifyClient (fun c => { c with
    resolvedGapId := pyStr (state.get "resolved_gap_id")
    gapIdSource := strOr (state.get "gap_id_source")
    gapIdClaimableVerified := false }))
  return state

/-- The receipt part of a result. -/
def receiptSection (state : SavedState) : Json :=
  .obj [("digest", state.getOr "digest" (.str "")),
    ("status", state.getOr "status" (.str "")),
    ("message", state.getOr "message" (.str "")),
    ("realized_at", state.getOr "realized_at" (.str "")),
    ("governed", state.getOr "governed" (.bool false)),
    ("event_spine_evidence", state.getOr "event_spine_evidence" (.bool false)),
    ("governance_verdict", state.getOr "governance_verdict" (.str "")),
    ("drift_state", state.getOr "drift_state" (.str "")),
    ("governance_context_id", state.getOr "governance_context_id" (.str "")),
    ("mcp_event_id", state.getOr "mcp_event_id" (.str "")),
    ("proof_id", state.getOr "proof_id" (.str "")),
    ("receipt_id", state.getOr "receipt_id" (.str "")),
    ("passport_digest", state.getOr "passport_digest" (.str "")),
    ("trust_digest", state.getOr "trust_digest" (.str ""))]

/-- `_result_from_state`. -/
def resultFromState (state : SavedState) (declaration : RepoDeclaration) : Dict :=
  [("dry_run", .bool false), ("repo", publicDeclaration declaration),
    ("resolved_gap_id", state.getOr "resolved_gap_id" (.str "")),
    ("gap_id_source", state.getOr "gap_id_source" (.str "")),
    ("claim_id", state.getOr "claim_id" (.str "")),
    ("claim_ref", state.getOr "claim_ref" (.str "")),
    ("registration_id", state.getOr "registration_id" (.str "")),
    ("governance_context_id", state.getOr "governance_context_id" (.str "")),
    ("receipt", receiptSection state)]

/-- The first block of `resume_governed_repo_flow`. -/
def openRun (env : Env) (useLastState : Bool) : Flow Unit := do
  if useLastState then
    match ← catchGoverned (loadLastState env) with
    | .ok _ => return
    | .error _ => let _ ← inspectRepo env true
  else let _ ← inspectRepo env true

/-- The gap stage. -/
def gapStage (env : Env) : Flow Unit := do
  let c ← getClient
  if truthy (c.currentState.get "resolved_gap_id") then return
  else do
    match ← catchGoverned (resolveGapId env) with
    | .error message => do
        persistState env (gapErrorUpdates message)
        raise message
    | .ok gapId => do
        let c ← getClient
        persistState env (gapUpdates gapId c.gapIdSource)

/-- What the claim stage persists. -/
def claimUpdates (claim : Claim) : Dict :=
  [("claim_id", .str claim.claimId), ("claim_ref", .str claim.claimRef),
    ("claim_ctxpack_digest", .str claim.ctxpackDigest), ("resolved_gap_id", .str claim.gapId),
    ("gap_id_source", .str claim.gapIdSource), ("status", .str "claim_succeeded"),
    ("step", .str "claim_succeeded"), ("terminal", .bool false)]

/-- The claim stage. -/
def claimStage (env : Env) : Flow Unit := do
  let c ← getClient
  if truthy (c.currentState.get "claim_id") || truthy (c.currentState.get "claim_ref") then return
  else do
    let claim ← claimGap env
    persistState env (claimUpdates claim)

/-- What the registration stage persists. -/
def registrationUpdates (registration : Registration) : Dict :=
  [("registration_id", .str registration.registrationId),
    ("resolved_gap_id", .str registration.claim.gapId),
    ("gap_id_source", .str registration.claim.gapIdSource),
    ("claim_id", .str registration.claim.claimId),
    ("claim_ref", .str registration.claim.claimRef),
    ("claim_ctxpack_digest", .str registration.claim.ctxpackDigest),
    ("status", .str "context_created"), ("step", .str "context_created"),
    ("terminal", .bool false)]

/-- The registration stage. -/
def registrationStage (env : Env) : Flow Unit := do
  let c ← getClient
  if truthy (c.currentState.get "registration_id") then return
  else do
    let registration ← registerRepo env
    persistState env (registrationUpdates registration)

/-- What the compile stage persists. -/
def contextUpdates (context : CompiledContext) : Dict :=
  [("governance_context_id", .str context.governanceContextId),
    ("ctxpack_digest", .str context.ctxpackDigest), ("status", .str "context_compiled"),
    ("step", .str "context_compiled"), ("terminal", .bool false)]

/-- The compile stage. -/
def compileStage (env : Env) : Flow Unit := do
  let c ← getClient
  if truthy (c.currentState.get "governance_context_id") then return
  else do
    let context ← compileContext env
    persistState env (contextUpdates context)

/-- What the realization stage persists. -/
def realizedUpdates (receipt : GovernanceReceipt) : Dict :=
  [("status", .str "succeeded"), ("step", .str "receipt_ready"), ("terminal", .bool true),
    ("live_confirmed", .bool true), ("run_id", .str ""), ("poll_url", .str "")]
  ++ receiptState receipt

/-- Does the state hold a final receipt? -/
def isRealized (state : SavedState) : Bool :=
  truthy (state.get "receipt_id") && isTrue (state.get "terminal")

/-- The realization stage. -/
def realizeStage (env : Env) : Flow Unit := do
  let c ← getClient
  if isRealized c.currentState then return
  else do
    let receipt ← runGovernedRealization env
    persistState env (realizedUpdates receipt)

/-- The stages of `resume_governed_repo_flow` after the recovery. -/
def stages (env : Env) : Flow Unit := do
  gapStage env
  claimStage env
  registrationStage env
  compileStage env
  realizeStage env

/-- `self.repo_declaration or self.inspect_repo(repo)`. -/
def knownDeclaration (env : Env) : Flow RepoDeclaration := do
  let c ← getClient
  match c.repoDeclaration with
  | some declaration => return declaration
  | none => inspectRepo env true

/-- `resume_governed_repo_flow`. -/
def resumeGovernedRepoFlow (env : Env) (useLastState : Bool) : Flow Dict := do
  openRun env useLastState
  discover env
  recoverPendingRun env
  let declaration ← knownDeclaration env
  stages env
  let c ← getClient
  return resultFromState c.currentState declaration

/-- `self.operator_gap_id or self._resolve_gap_id(...)`. -/
def dryRunGap (env : Env) : Flow String := do
  let c ← getClient
  if c.operatorGapId ≠ "" then return c.operatorGapId else resolveGapId env

/-- The result of a dry run. -/
def dryRunResult (env : Env) (declaration : RepoDeclaration) : Flow Dict := do
  let gapId ← dryRunGap env
  let c ← getClient
  return [("dry_run", .bool true), ("repo", publicDeclaration declaration),
    ("resolved_gap_id", .str gapId), ("gap_id_source", .str c.gapIdSource),
    ("would_mutate_mcp", .bool false)]

/-- `run_governed_repo_flow`. -/
def runGovernedRepoFlow (env : Env) (dryRun : Bool) : Flow Dict := do
  let declaration ← inspectRepo env false
  discover env
  if dryRun then dryRunResult env declaration else resumeGovernedRepoFlow env true

/-- `status_governed_repo_flow`. -/
def statusGovernedRepoFlow (env : Env) : Flow Dict := do
  let _ ← loadLastState env
  discover env
  recoverPendingRun env
  let c ← getClient
  let state := c.currentState.doc
  return redactFields (state.set "live_confirmed"
    (.bool (truthy (state.getOr "live_confirmed" (.bool false)))))

/-- `receipt_governed_repo_flow`. -/
def receiptGovernedRepoFlow (env : Env) : Flow Dict := do
  let state ← loadLastState env
  if truthy (state.get "receipt_id") = false ∧ truthy (state.get "proof_id") = false then
    raise ("no governed receipt found for " ++ env.repoDir
      ++ ". Run 'keyhole governed run --repo-dir " ++ env.repoDir ++ "' first.")
  else
    return redactFields [
      ("live_confirmed", .bool (truthy (state.getOr "live_confirmed" (.bool false)))),
      ("receipt", receiptSection state)]

/-- The commands of the governed flow. -/
inductive Command where
  | inspect (persist : Bool)
  | resume (useLastState : Bool)
  | run (dryRun : Bool)
  | status
  | receipt

/-- Execute a command. -/
def Command.flow (env : Env) : Command → Flow Dict
  | .inspect persist => do
      let declaration ← inspectRepo env persist
      return asDict (publicDeclaration declaration)
  | .resume useLastState => resumeGovernedRepoFlow env useLastState
  | .run dryRun => runGovernedRepoFlow env dryRun
  | .status => statusGovernedRepoFlow env
  | .receipt => receiptGovernedRepoFlow env

end KeyholeFlow
