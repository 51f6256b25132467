import Keyhole.RepoAttach

/-!
# Creating a governance context

`run_governance_context_create` binds a claimed gap to the subject repository.  A queued run is
polled for its output; the document that comes of it passes four guards before the command
reports a context.  The guards read its top level.

* `pollRunOutput`: the poller, with one value for a failed run and for one that is not done;
* `checkServerCompat`: the guards;
* `runGovernanceContextCreate`: the command;
* `governed_iff`: the answers on which it reports a context only when there is one. -/

namespace KeyholeGovernanceContext

open KeyholeJson KeyholeDispatch
open KeyholeLogin (CommandResult)
open KeyholeRepoIdentity hiding runGovernanceContextCreate
open KeyholeRepoAttach (levels stated slug)

/-! ## The poller -/

/-- A poll: an exception inside the `try`, or an answer. -/
inductive Poll where
  | failed
  | answered (statusCode : Nat) (body : Json)

/-- What `_poll_run_output` does after a poll: it goes on, or it ends. -/
def pollVerdict : Poll → Option (Except Raised (Option Dict))
  | .failed => none
  | .answered statusCode body =>
      if statusCode = 404 then some (.ok none)
      else
        match body with
        | .obj fields =>
            match orElse (Dict.get fields "data") (.obj []) with
            | .obj data =>
                let status := Dict.getOr data "status" (.str "")
                if isStr "succeeded" status || isStr "completed" status then
                  some (.ok (some (asDict (orElse (Dict.get data "output")
                    (orElse (Dict.get data "result") (.obj []))))))
                else if isStr "failed" status || isStr "rejected" status
                    || isStr "error" status then some (.ok none)
                else none
            | _ => some (.error "AttributeError")
        | _ => some (.error "AttributeError")

/-- `_poll_run_output`, with the polls it has left. -/
def pollRunOutput : Nat → (Nat → Poll) → Except Raised (Option Dict)
  | 0, _ => .ok none
  | left + 1, polls =>
      match pollVerdict (polls 0) with
      | some verdict => verdict
      | none => pollRunOutput left (fun i => polls (i + 1))

/-- `max_polls`. -/
def maxPolls : Nat := 30

/-! ## The guards -/

/-- `text in v`, for a value that may be no string. -/
def searched (text : String) : Json → Except Raised Bool
  | .str s => .ok (contains s text)
  | .arr items => .ok (items.any (isStr text))
  | .obj fields => .ok (Dict.has fields text)
  | .null | .bool _ | .int _ | .float _ => .error "TypeError"

/-- The label of the command. -/
def command : String := "keyhole governance-context create"

/-- The codes of a server that does not know the run. -/
def unimplementedCodes : List String :=
  ["UNKNOWN_RUN_TYPE", "NOT_IMPLEMENTED", "BINDING_REQUIRED"]

/-- The failure of an answer with `ok=false`. -/
def okFalseFailure (error : Dict) : CommandResult :=
  let errorCode := error.getOr "code" (.str "UNKNOWN_SERVER_ERROR")
  let message := error.getOr "message" (.str "Server returned ok:false.")
  if unimplementedCodes.any (isStr · errorCode) then
    refusal command 1 ("SERVER_NOT_IMPLEMENTED: governance.context.create is not yet "
      ++ "implemented on the server. Server error code: " ++ pyStr errorCode
      ++ ". This is a pending server-side contract requirement (SDK-CLIENT-30).")
      ["The server must implement governance.context.create run type.",
        "Server directive: see SDK-CLIENT-30 server-side contract requirements.",
        "Run: keyhole workspace provision (deprecated transitional fallback only)"]
      [("error_code", .str "SERVER_NOT_IMPLEMENTED"), ("server_error_code", errorCode),
        ("run_type", .str "governance.context.create")]
  else
    refusal command 1 ("Server error: " ++ pyStr errorCode ++ " — " ++ pyStr message) []
      [("error_code", errorCode), ("server_message", message)]

/-- The failure of the first guard. -/
def workspaceFailure : CommandResult :=
  refusal command 1 ("REPO_AS_WORKSPACE_CONTRACT_VIOLATION: server created a persistent "
    ++ "workspace (persistent_workspace_created=true). For downstream repo "
    ++ "flows, the repo IS the workspace. The server must not provision "
    ++ "additional persistent workspaces.")
    ["Report this to the platform team: server-side workspace.provision "
      ++ "was invoked for a downstream governance context request."]
    [("error_code", .str "REPO_AS_WORKSPACE_CONTRACT_VIOLATION")]

/-- The failure of the second guard. -/
def platformFailure : CommandResult :=
  refusal command 1 ("PLATFORM_REPO_TARGET_FORBIDDEN: server resolved the subject repo "
    ++ "to Keyhole-Solution/keyhole_platform. SDK/customer workflows must "
    ++ "never target the platform control repo.")
    ["The server returned a governance context pointing at the platform "
      ++ "control repo. This is a server-side contract violation.",
      "Report this to the platform team."]
    [("error_code", .str "PLATFORM_REPO_TARGET_FORBIDDEN")]

/-- The failure of the third guard. -/
def contextFailure (workspaceId : Json) : CommandResult :=
  refusal command 1 ("GOVERNANCE_CONTEXT_REQUIRED: server returned workspace_id without "
    ++ "governance_context_id. The new repo-as-workspace model requires a "
    ++ "governance_context_id. The server may be running an older version.")
    ["Ensure the server supports SDK-CLIENT-30 (repo-as-workspace).",
      "If the server is older, upgrade the server-side implementation."]
    [("error_code", .str "GOVERNANCE_CONTEXT_REQUIRED"), ("workspace_id", workspaceId)]

/-- The failure of the fourth guard. -/
def subjectFailure : CommandResult :=
  refusal command 1 ("SUBJECT_REPO_BINDING_REQUIRED: server response does not include "
    ++ "subject repo binding (repo_binding_id or repo_remote). The governance "
    ++ "context cannot be proven without knowing the subject repo.")
    ["The server must return repo_binding_id and repo_remote in the "
      ++ "governance context response.", "Ensure the server supports SDK-CLIENT-30."]
    [("error_code", .str "SUBJECT_REPO_BINDING_REQUIRED")]

/-- The remote, the branch and the slug the second guard looks at. -/
def repoRemote (data : Dict) : Json := orElse (data.get "repo_remote") (.str "")

def workspaceBranch (data : Dict) : Json := orElse (data.get "branch") (.str "")

def repoSlugRaw (data : Dict) : Json :=
  orElse (data.get "repo_binding_id") (orElse (data.get "repo") (.str ""))

/-- Does the second guard find the control repository?  `or` stops at the first that does. -/
def findsPlatform (data : Dict) : Except Raised Bool := do
  if ← searched "Keyhole-Solution/keyhole_platform" (repoRemote data) then return true
  else if ← searched "keyhole_platform" (workspaceBranch data) then return true
  else return isStr "keyhole_platform" (repoSlugRaw data)

/-- The third and the fourth guard. -/
def boundFailure (data : Dict) : Option CommandResult :=
  if truthy (data.get "workspace_id") ∧ truthy (data.get "governance_context_id") = false then
    some (contextFailure (data.get "workspace_id"))
  else if truthy (data.get "repo_binding_id") = false ∧ truthy (data.get "repo_remote") = false then
    some subjectFailure
  else none

/-- `_check_server_compat`. -/
def checkServerCompat (data : Dict) : Except Raised (Option CommandResult) :=
  if isFalse (data.get "ok") then
    match orElse (data.get "error") (.obj []) with
    | .obj error => .ok (some (okFalseFailure error))
    | _ => .error "AttributeError"
  else if isTrue (data.get "persistent_workspace_created") then .ok (some workspaceFailure)
  else
    match findsPlatform data with
    | .error raised => .error raised
    | .ok true => .ok (some platformFailure)
    | .ok false => .ok (boundFailure data)

/-! ## The command -/

/-- The arguments. -/
structure ContextArgs where
  gapId : String
  claimToken : String := ""
  repoBindingId : String := ""
  purpose : String := "development"

/-- `run_governance_context_create`, up to its run. -/
def opening (env : CommandEnv) (args : ContextArgs) : Attempt :=
  KeyholeRepoIdentity.runGovernanceContextCreate env args.gapId args.claimToken
    args.repoBindingId args.purpose

/-- `effective_binding_id`. -/
def effectiveBindingId (identity : RepoIdentity) (args : ContextArgs) : Json :=
  if strip args.repoBindingId ≠ "" then .str (strip args.repoBindingId)
  else orElse identity.repoBindingId (.str "")

/-- The result where the server asks for the old flow. -/
def obsoleteResult : CommandResult :=
  refusal command 1 ("OBSOLETE_WORKSPACE_PROVISION_FLOW: the server returned an error "
    ++ "indicating use of the old workspace.provision flow. The new "
    ++ "repo-as-workspace model does not use workspace.provision. "
    ++ "Ensure the server supports SDK-CLIENT-30.")
    ["Upgrade the server to a version supporting governance.context.create."]
    [("error_code", .str "OBSOLETE_WORKSPACE_PROVISION_FLOW")]

/-- The steps of a refused run. -/
def refusedSteps (errorClass : Json) (gapId : String) (guidance : List String) : List String :=
  if isStr "NOT_IMPLEMENTED" errorClass then
    ["governance.context.create is not yet available on this server.",
      "Ensure the server supports SDK-CLIENT-30 (repo-as-workspace model)."] ++ guidance
  else if ["GAP_NOT_CLAIMED", "CLAIM_EXPIRED"].any (isStr · errorClass) then
    ["Re-claim the gap: keyhole gaps claim --gap-id " ++ gapId,
      "Then immediately: " ++ command ++ " --gap-id " ++ gapId ++ " --claim-token <new_token>"]
      ++ guidance
  else guidance

/-- `outcome.error_class or "unknown"`. -/
def errorClassOf (outcome : RunOutcome) : Json := orElse outcome.errorClass (.str "unknown")

/-- `outcome.reason or "governance.context.create rejected by server."`. -/
def reasonOf (outcome : RunOutcome) : Json :=
  orElse outcome.reason (.str "governance.context.create rejected by server.")

/-- What is made of a run that was neither answered inline nor accepted; the summary is the
    text it prints as. -/
def refusedResult (args : ContextArgs) (outcome : RunOutcome) : Except Raised CommandResult :=
  if isStr "OBSOLETE_WORKSPACE_PROVISION_FLOW" (errorClassOf outcome) then .ok obsoleteResult
  else
    match searched "workspace.provision" (reasonOf outcome) with
    | .error raised => .error raised
    | .ok true => .ok obsoleteResult
    | .ok false => .ok (refusal command 1 (pyStr (reasonOf outcome))
        (refusedSteps (errorClassOf outcome) (strip args.gapId) outcome.repairGuidance)
        [("error_class", errorClassOf outcome), ("run_type", .str "governance.context.create")])

/-- The result of a run whose output was not seen. -/
def acceptedResult (identity : RepoIdentity) (args : ContextArgs) (runId : Json) :
    CommandResult where
  command := command
  success := true
  exitCode := 0
  data := [("status", .str "ACCEPTED"), ("run_id", runId),
    ("run_type", .str "governance.context.create"), ("gap_id", .str (strip args.gapId)),
    ("workspace_model", .str "repo-as-workspace"), ("repo_remote", .str identity.repoRemote)]
  nextSteps := ["Poll: keyhole runs status " ++ pyStr runId, "Wait: keyhole runs wait " ++ pyStr runId]
  summary := "governance.context.create accepted (async). run_id=" ++ pyStr runId
    ++ " — poll for result."

/-- `workspace_model.replace('_', '-')`. -/
def dashed (model : String) : String :=
  String.ofList (model.toList.map fun c => if c = '_' then '-' else c)

/-- The result of a created context. -/
def createdResult (identity : RepoIdentity) (args : ContextArgs) (data : Dict) (model : String) :
    CommandResult where
  command := command
  success := true
  exitCode := 0
  data := [("governance_context_id", data.getOr "governance_context_id" (.str "")),
    ("gap_id", .str (strip args.gapId)),
    ("repo_binding_id", data.getOr "repo_binding_id" (effectiveBindingId identity args)),
    ("repo_remote", .str identity.repoRemote), ("branch", .str identity.currentBranch),
    ("commit_sha", .str identity.commitSha), ("workspace_model", .str model),
    ("persistent_workspace_created", data.getOr "persistent_workspace_created" (.bool false))]
  nextSteps :=
    ["Run: keyhole verify — to run ephemeral verification against this commit.",
      "Run: keyhole proof submit — to submit evidence for governance verdict."]
  summary := join "\n" ["Gap claimed: " ++ strip args.gapId,
    "Governance context: "
      ++ pyStr (orElse (data.getOr "governance_context_id" (.str "")) (.str "(pending)")),
    "Repo: " ++ slug identity, "Branch: " ++ identity.currentBranch,
    "Commit: " ++ takeChars 12 identity.commitSha, "Workspace model: " ++ dashed model,
    "Persistent workspace created: "
      ++ (if truthy (data.getOr "persistent_workspace_created" (.bool false)) then "yes" else "no")]

/-- The guards, and the result of a document that passes them. -/
def conclude (identity : RepoIdentity) (args : ContextArgs) (data : Dict) :
    Except Raised CommandResult :=
  match checkServerCompat data with
  | .error raised => .error raised
  | .ok (some failure) => .ok failure
  | .ok none =>
      match data.getOr "workspace_model" (.str "repo_as_workspace") with
      | .str model => .ok (createdResult identity args data model)
      | _ => .error "AttributeError"

/-- `accepted_data.get("run_id", "")`. -/
def acceptedRunId (data : Dict) : Except Raised Json :=
  match orElse (data.get "data") (.obj []) with
  | .obj accepted => .ok (Dict.getOr accepted "run_id" (.str ""))
  | _ => .error "AttributeError"

/-- What is made of a queued run. -/
def concludeQueued (identity : RepoIdentity) (args : ContextArgs) (data : Dict)
    (polls : Nat → Poll) : Except Raised CommandResult :=
  match acceptedRunId data with
  | .error raised => .error raised
  | .ok runId =>
      if truthy runId then
        match pollRunOutput maxPolls polls with
        | .error raised => .error raised
        | .ok none => .ok (acceptedResult identity args runId)
        | .ok (some output) => conclude identity args output
      else conclude identity args data

/-- The part of `run_governance_context_create` after its request. -/
def createAnswered (identity : RepoIdentity) (args : ContextArgs) (request : RunRequest)
    (answer : Answer) (polls : Nat → Poll) : Except Raised CommandResult :=
  match dispatchRun answer request with
  | .error raised => .error raised
  | .ok outcome =>
      if outcome.status ≠ .success ∧ outcome.status ≠ .accepted then refusedResult args outcome
      else if outcome.status = .accepted then
        concludeQueued identity args outcome.responseData polls
      else conclude identity args outcome.responseData

/-- `run_governance_context_create`. -/
def runGovernanceContextCreate (env : CommandEnv) (args : ContextArgs) (answer : Answer)
    (polls : Nat → Poll) : Except Raised CommandResult :=
  match opening env args, detectRepoIdentity env.checkout with
  | .error result, _ => .ok result
  -- not reached: the request was built from the identity
  | .ok _, .error e => .error e.errorCode
  | .ok request, .ok identity => createAnswered identity args request answer polls

/-! ## What there is to report -/

/-- `_PLATFORM_CONTROL_SLUG`. -/
def platformControlSlug : String := "keyhole-solution/keyhole_platform"

/-- The parts of a text between slashes and colons. -/
def segments : List Char → List (List Char)
  | [] => [[]]
  | c :: rest =>
      if c = '/' ∨ c = ':' then [] :: segments rest
      else
        match segments rest with
        | [] => [[c]]
        | part :: parts => (c :: part) :: parts

/-- A name without `.git` at its end. -/
def withoutGit (name : List Char) : List Char :=
  if ['.', 'g', 'i', 't'].isSuffixOf name then name.take (name.length - 4) else name

/-- The `owner/repo` a remote names, in lower case: its last two parts. -/
def remoteSlug (remote : String) : String :=
  match ((segments (lower (strip remote)).toList).filter (!·.isEmpty)).reverse with
  | repo :: owner :: _ => String.ofList (owner ++ '/' :: withoutGit repo)
  | _ => ""

/-- The value names the platform control repository. -/
def namesControl : Json → Bool
  | .str remote => remoteSlug remote == platformControlSlug
  | _ => false

/-- The document, read through its envelopes, is a governance context of a subject repository. -/
structure Contract (data : Dict) : Prop where
  context : truthy (stated data "governance_context_id") = true
  subject : truthy (stated data "repo_binding_id") = true ∨ truthy (stated data "repo_remote") = true
  noWorkspace : ∀ level ∈ levels data, isTrue (level.get "persistent_workspace_created") = false
  notControl : ∀ level ∈ levels data, namesControl (level.get "repo_remote") = false

/-- The document a poll shows. -/
def Poll.document : Poll → List Dict
  | .answered statusCode (.obj body) => if statusCode = 404 then [] else [body]
  | _ => []

/-- The documents the poller sees before it ends. -/
def observed : Nat → (Nat → Poll) → List Dict
  | 0, _ => []
  | left + 1, polls =>
      (polls 0).document
        ++ (if (pollVerdict (polls 0)).isSome then [] else observed left (fun i => polls (i + 1)))

/-- The last status the documents state, after an earlier one. -/
def lastStatus (earlier : String) (documents : List Dict) : String :=
  documents.foldl (fun status doc => if statedStatus doc = "" then status else statedStatus doc) earlier

/-- The status of the run in the first answer; an HTTP code 202 alone says `accepted`. -/
def answerStatus (data : Dict) (statusCode : Nat) : String :=
  if statedStatus data = "" ∧ statusCode = 202 then "accepted" else statedStatus data

/-- What the dispatcher makes of the first status; `none` where that is no text. -/
def dispatched (data : Dict) (statusCode : Nat) : Option OutcomeStatus :=
  match statusField data with
  | .str word => some (routed statusCode (lower word))
  | _ => none

/-- What is known of the run in the end: its last status, and its final document. -/
structure Seen where
  status : String
  document : Option Dict

/-- What is known once a queued run was polled. -/
def seenPolled (data : Dict) (statusCode : Nat) (polls : Nat → Poll) : Seen where
  status := lastStatus (answerStatus data statusCode) (observed maxPolls polls)
  document :=
    match pollRunOutput maxPolls polls with
    | .ok output => output
    | .error _ => none

/-- What is known of a queued run, polled if the answer names it. -/
def seenQueued (data : Dict) (statusCode : Nat) (polls : Nat → Poll) : Seen :=
  match acceptedRunId data with
  | .ok runId =>
      if truthy runId then seenPolled data statusCode polls
      else ⟨answerStatus data statusCode, some data⟩
  | .error _ => ⟨answerStatus data statusCode, none⟩

/-- What is known of the run in the end. -/
def seen (answer : Answer) (polls : Nat → Poll) : Seen :=
  match answer with
  | .ok ⟨.obj data, statusCode⟩ =>
      match dispatched data statusCode with
      | some .success => ⟨answerStatus data statusCode, some data⟩
      | some .accepted => seenQueued data statusCode polls
      | _ => ⟨answerStatus data statusCode, none⟩
  | _ => ⟨"", none⟩

/-- The last status of the run is an active one. -/
def Seen.active (s : Seen) : Prop := (classifyStatus s.status).isActive

instance (s : Seen) : Decidable s.active :=
  inferInstanceAs (Decidable (classifyStatus s.status).isActive)

/-- A context is reported only when there is one. -/
structure Governed (answer : Answer) (polls : Nat → Poll) : Prop where
  returns : ∀ env args, ∃ result, runGovernanceContextCreate env args answer polls = .ok result
  reported : ∀ env args result, runGovernanceContextCreate env args answer polls = .ok result →
    result.success = true → (seen answer polls).active ∨
      ∃ data, (seen answer polls).document = some data ∧ Contract data
  accepted : ∀ data, (seen answer polls).document = some data → Contract data →
    isFalse (data.get "ok") = false → ∀ env args request, opening env args = .ok request →
      ∀ result, runGovernanceContextCreate env args answer polls = .ok result →
        result.success = true

/-! ## Which documents the guards weigh rightly -/

/-- The document passes the guards, at its top level, and its model is a text. -/
structure Passes (data : Dict) : Prop where
  ok : isFalse (data.get "ok") = false
  noWorkspace : isTrue (data.get "persistent_workspace_created") = false
  remote : searched "Keyhole-Solution/keyhole_platform" (repoRemote data) = .ok false
  branch : searched "keyhole_platform" (workspaceBranch data) = .ok false
  slug : isStr "keyhole_platform" (repoSlugRaw data) = false
  context : truthy (data.get "workspace_id") = true →
    truthy (data.get "governance_context_id") = true
  subject : truthy (data.get "repo_binding_id") = true ∨ truthy (data.get "repo_remote") = true
  model : isText (data.getOr "workspace_model" (.str "repo_as_workspace")) = true

/-- The second guard finds the control repository, or it does not and a later guard refuses. -/
def RefusedLate (data : Dict) : Prop :=
  findsPlatform data = .ok true ∨ (findsPlatform data = .ok false ∧
    ((truthy (data.get "workspace_id") = true ∧
        truthy (data.get "governance_context_id") = false) ∨
      (truthy (data.get "repo_binding_id") = false ∧ truthy (data.get "repo_remote") = false)))

/-- The guards refuse the document, without raising. -/
def Refused (data : Dict) : Prop :=
  if isFalse (data.get "ok") = true then
    ∃ error, orElse (data.get "error") (.obj []) = .obj error
  else isTrue (data.get "persistent_workspace_created") = true ∨ RefusedLate data

/-- The guards weigh the document rightly: it passes and is a context, or the run is active, or it
    is refused and is none. -/
def Weighed (active : Prop) (data : Dict) : Prop :=
  (Passes data ∧ (active ∨ Contract data)) ∨
    (Refused data ∧ (Contract data → isFalse (data.get "ok") = true))

/-- The dispatcher's refusal can be reported: its class asks for the old flow, or its reason can
    be searched. -/
def Reportable (data : Dict) : Prop :=
  isStr "OBSOLETE_WORKSPACE_PROVISION_FLOW"
      (orElse (data.getOr "error_class" (.str "server_rejection")) (.str "unknown")) = true ∨
    ∃ found, searched "workspace.provision"
      (orElse (serverReason data) (.str "governance.context.create rejected by server.")) = .ok found

/-- The polls of a queued run are weighed rightly. -/
def WeighedPolled (data : Dict) (statusCode : Nat) (polls : Nat → Poll) : Prop :=
  match pollRunOutput maxPolls polls with
  | .error _ => False
  | .ok none => (seenPolled data statusCode polls).active
  | .ok (some output) => Weighed (seenPolled data statusCode polls).active output

/-- A queued run is weighed rightly. -/
def WeighedQueued (data : Dict) (statusCode : Nat) (polls : Nat → Poll) : Prop :=
  match acceptedRunId data with
  | .error _ => False
  | .ok runId =>
      if truthy runId then WeighedPolled data statusCode polls
      else Weighed (classifyStatus (answerStatus data statusCode)).isActive data

/-- The answers, and polls, on which a context is reported only when there is one. -/
def Heeded (answer : Answer) (polls : Nat → Poll) : Prop :=
  match answer with
  | .error _ => True
  | .ok ⟨.obj data, statusCode⟩ =>
      match dispatched data statusCode with
      | none => False
      | some .success => Weighed (classifyStatus (answerStatus data statusCode)).isActive data
      | some .accepted => WeighedQueued data statusCode polls
      | some .rejected => Reportable data
      | some _ => True
  | .ok _ => False

/-- The second guard finds nothing exactly when each of its three tests finds nothing. -/
theorem findsPlatform_eq_false {data : Dict} :
    findsPlatform data = .ok false ↔
      searched "Keyhole-Solution/keyhole_platform" (repoRemote data) = .ok false ∧
        searched "keyhole_platform" (workspaceBranch data) = .ok false ∧
        isStr "keyhole_platform" (repoSlugRaw data) = false := by
  unfold findsPlatform
  cases searched "Keyhole-Solution/keyhole_platform" (repoRemote data) with
  | error raised => exact ⟨nofun, fun h => (nomatch h.1)⟩
  | ok inRemote =>
    cases inRemote with
    | true => exact ⟨nofun, fun h => (nomatch h.1)⟩
    | false =>
      cases searched "keyhole_platform" (workspaceBranch data) with
      | error raised => exact ⟨nofun, fun h => (nomatch h.2.1)⟩
      | ok inBranch =>
        cases inBranch with
        | true => exact ⟨nofun, fun h => (nomatch h.2.1)⟩
        | false =>
          constructor
          · intro h
            exact ⟨rfl, rfl, Except.ok.inj h⟩
          · intro h
            exact congrArg Except.ok h.2.2

/-- The last two guards let a document through exactly when it is bound. -/
theorem boundFailure_eq_none {data : Dict} :
    boundFailure data = none ↔
      (truthy (data.get "workspace_id") = true → truthy (data.get "governance_context_id") = true) ∧
        (truthy (data.get "repo_binding_id") = true ∨ truthy (data.get "repo_remote") = true) := by
  unfold boundFailure
  cases truthy (data.get "workspace_id") <;> cases truthy (data.get "governance_context_id") <;>
    cases truthy (data.get "repo_binding_id") <;> cases truthy (data.get "repo_remote") <;> simp

/-- What the last two guards refuse is no success. -/
theorem boundFailure_eq_some {data : Dict} {failure : CommandResult}
    (h : boundFailure data = some failure) : failure.success = false ∧
      ((truthy (data.get "workspace_id") = true ∧
          truthy (data.get "governance_context_id") = false) ∨
        (truthy (data.get "repo_binding_id") = false ∧
          truthy (data.get "repo_remote") = false)) := by
  unfold boundFailure at h
  by_cases hworkspace : truthy (data.get "workspace_id") ∧
      truthy (data.get "governance_context_id") = false
  · rw [if_pos hworkspace] at h
    cases h
    exact ⟨rfl, .inl hworkspace⟩
  · rw [if_neg hworkspace] at h
    by_cases hsubject : truthy (data.get "repo_binding_id") = false ∧
        truthy (data.get "repo_remote") = false
    · rw [if_pos hsubject] at h
      cases h
      exact ⟨rfl, .inr hsubject⟩
    · rw [if_neg hsubject] at h
      exact nomatch h

/-- A failure of the answer's `ok` is no success. -/
theorem okFalseFailure_success (error : Dict) : (okFalseFailure error).success = false := by
  unfold okFalseFailure
  by_cases h : unimplementedCodes.any
      (isStr · (error.getOr "code" (.str "UNKNOWN_SERVER_ERROR"))) = true
  · simp only [if_pos h]
    rfl
  · simp only [if_neg h]
    rfl

section Guards

variable {data : Dict}

/-- The guards let a document through exactly when it passes, but for its model. -/
theorem checkServerCompat_eq_none (hok : isFalse (data.get "ok") = false)
    (hworkspace : isTrue (data.get "persistent_workspace_created") = false)
    (hfinds : findsPlatform data = .ok false) :
    checkServerCompat data = .ok (boundFailure data) := by
  unfold checkServerCompat
  rw [hok, hworkspace, hfinds]
  rfl

variable (identity : RepoIdentity) (args : ContextArgs)

/-- A document that passes makes a context. -/
theorem conclude_of_passes (h : Passes data) :
    ∃ result, conclude identity args data = .ok result ∧ result.success = true := by
  have hbound : boundFailure data = none := boundFailure_eq_none.mpr ⟨h.context, h.subject⟩
  have hcompat : checkServerCompat data = .ok none := by
    rw [checkServerCompat_eq_none h.ok h.noWorkspace
      (findsPlatform_eq_false.mpr ⟨h.remote, h.branch, h.slug⟩), hbound]
  have hmodel := h.model
  unfold conclude
  rw [hcompat]
  cases hvalue : data.getOr "workspace_model" (.str "repo_as_workspace") with
  | str model => exact ⟨_, rfl, rfl⟩
  | _ =>
    rw [hvalue] at hmodel
    exact nomatch hmodel

/-- A document the guards refuse makes none. -/
theorem conclude_of_refused (h : Refused data) :
    ∃ result, conclude identity args data = .ok result ∧ result.success = false := by
  have hfails : ∀ {failure : CommandResult}, checkServerCompat data = .ok (some failure) →
      failure.success = false →
      ∃ result, conclude identity args data = .ok result ∧ result.success = false := by
    intro failure hcompat hfailure
    unfold conclude
    rw [hcompat]
    exact ⟨failure, rfl, hfailure⟩
  unfold Refused at h
  by_cases hok : isFalse (data.get "ok") = true
  · rw [if_pos hok] at h
    obtain ⟨error, herror⟩ := h
    have hcompat : checkServerCompat data = .ok (some (okFalseFailure error)) := by
      unfold checkServerCompat
      rw [if_pos hok, herror]
    exact hfails hcompat (okFalseFailure_success error)
  · rw [if_neg hok] at h
    have hokFalse := Bool.eq_false_iff.mpr hok
    by_cases hworkspace : isTrue (data.get "persistent_workspace_created") = true
    · have hcompat : checkServerCompat data = .ok (some workspaceFailure) := by
        unfold checkServerCompat
        rw [if_neg hok, if_pos hworkspace]
      exact hfails hcompat rfl
    · rcases h.resolve_left hworkspace with hplatform | ⟨hclear, hunbound⟩
      · have hcompat : checkServerCompat data = .ok (some platformFailure) := by
          unfold checkServerCompat
          rw [if_neg hok, if_neg hworkspace, hplatform]
        exact hfails hcompat rfl
      · have hcompat := checkServerCompat_eq_none hokFalse (Bool.eq_false_iff.mpr hworkspace) hclear
        cases hbound : boundFailure data with
        | some failure =>
          rw [hbound] at hcompat
          exact hfails hcompat (boundFailure_eq_some hbound).1
        | none =>
          obtain ⟨hcontext, hsubject⟩ := boundFailure_eq_none.mp hbound
          rcases hunbound with ⟨hid, hnone⟩ | ⟨hnone, hnone'⟩
          · exact nomatch (hcontext hid).symm.trans hnone
          · rcases hsubject with hid | hremote
            · exact nomatch hid.symm.trans hnone
            · exact nomatch hremote.symm.trans hnone'

/-- A document neither passes nor is refused only where the command raises. -/
theorem passes_or_refused {result : CommandResult}
    (h : conclude identity args data = .ok result) : Passes data ∨ Refused data := by
  unfold conclude at h
  unfold Refused
  by_cases hok : isFalse (data.get "ok") = true
  · rw [if_pos hok]
    have hcompat : checkServerCompat data =
        (match orElse (data.get "error") (.obj []) with
          | .obj error => .ok (some (okFalseFailure error))
          | _ => .error "AttributeError") := by
      unfold checkServerCompat
      rw [if_pos hok]
    rw [hcompat] at h
    cases herror : orElse (data.get "error") (.obj []) with
    | obj error => exact .inr ⟨error, rfl⟩
    | _ =>
      rw [herror] at h
      exact nomatch h
  · rw [if_neg hok]
    by_cases hworkspace : isTrue (data.get "persistent_workspace_created") = true
    · exact .inr (.inl hworkspace)
    · cases hfinds : findsPlatform data with
      | error raised =>
        have hcompat : checkServerCompat data = .error raised := by
          unfold checkServerCompat
          rw [if_neg hok, if_neg hworkspace, hfinds]
        rw [hcompat] at h
        exact nomatch h
      | ok found =>
        cases found with
        | true => exact .inr (.inr (.inl hfinds))
        | false =>
          cases hbound : boundFailure data with
          | some failure =>
            exact .inr (.inr (.inr ⟨hfinds, (boundFailure_eq_some hbound).2⟩))
          | none =>
            have hcompat : checkServerCompat data = .ok none := by
              rw [checkServerCompat_eq_none (Bool.eq_false_iff.mpr hok)
                (Bool.eq_false_iff.mpr hworkspace) hfinds, hbound]
            rw [hcompat] at h
            obtain ⟨hremote, hbranch, hslug⟩ := findsPlatform_eq_false.mp hfinds
            obtain ⟨hcontext, hsubject⟩ := boundFailure_eq_none.mp hbound
            refine .inl ⟨Bool.eq_false_iff.mpr hok, Bool.eq_false_iff.mpr hworkspace, hremote,
              hbranch, hslug, hcontext, hsubject, ?_⟩
            cases hvalue : data.getOr "workspace_model" (.str "repo_as_workspace") with
            | str model => rfl
            | _ =>
              rw [hvalue] at h
              exact nomatch h

/-- What the claim asks of the guards on a document. -/
def Guarded (active : Prop) (data : Dict) (ended : Except Raised CommandResult) : Prop :=
  ∃ result, ended = .ok result ∧ (result.success = true → active ∨ Contract data) ∧
    (Contract data → isFalse (data.get "ok") = false → result.success = true)

/-- The guards do what is asked of them exactly on the documents they weigh rightly. -/
theorem guarded_iff (active : Prop) :
    Guarded active data (conclude identity args data) ↔ Weighed active data := by
  constructor
  · rintro ⟨result, hresult, hreported, haccepted⟩
    rcases passes_or_refused identity args hresult with hpasses | hrefused
    · obtain ⟨result', hresult', hsuccess⟩ := conclude_of_passes identity args hpasses
      cases hresult.symm.trans hresult'
      exact .inl ⟨hpasses, hreported hsuccess⟩
    · obtain ⟨result', hresult', hfailure⟩ := conclude_of_refused identity args hrefused
      cases hresult.symm.trans hresult'
      refine .inr ⟨hrefused, fun hcontract => ?_⟩
      cases hok : isFalse (data.get "ok") with
      | true => rfl
      | false => exact nomatch (haccepted hcontract hok).symm.trans hfailure
  · rintro (⟨hpasses, hright⟩ | ⟨hrefused, hright⟩)
    · obtain ⟨result, hresult, hsuccess⟩ := conclude_of_passes identity args hpasses
      exact ⟨result, hresult, fun _ => hright, fun _ _ => hsuccess⟩
    · obtain ⟨result, hresult, hfailure⟩ := conclude_of_refused identity args hrefused
      refine ⟨result, hresult, fun h => (nomatch h.symm.trans hfailure), fun hcontract hok => ?_⟩
      exact nomatch (hright hcontract).symm.trans hok

end Guards

/-! ## Which answers the command weighs rightly -/

/-- What the claim asks of the command, for one call. -/
def GovernedEnd (s : Seen) (ended : Except Raised CommandResult) : Prop :=
  ∃ result, ended = .ok result ∧
    (result.success = true → s.active ∨ ∃ data, s.document = some data ∧ Contract data) ∧
    (∀ data, s.document = some data → Contract data → isFalse (data.get "ok") = false →
      result.success = true)

theorem governedEnd_document (status : String) (data : Dict) (ended : Except Raised CommandResult) :
    GovernedEnd ⟨status, some data⟩ ended ↔ Guarded (classifyStatus status).isActive data ended := by
  constructor
  · rintro ⟨result, hresult, hreported, haccepted⟩
    refine ⟨result, hresult, fun hsuccess => ?_, haccepted data rfl⟩
    rcases hreported hsuccess with hactive | ⟨data', hdata, hcontract⟩
    · exact .inl hactive
    · cases hdata
      exact .inr hcontract
  · rintro ⟨result, hresult, hreported, haccepted⟩
    refine ⟨result, hresult, fun hsuccess => ?_, fun data' hdata => ?_⟩
    · exact (hreported hsuccess).imp_right fun hcontract => ⟨data, rfl, hcontract⟩
    · cases hdata
      exact haccepted

/-- Without a document, only an active run may be reported. -/
theorem governedEnd_none (status : String) (ended : Except Raised CommandResult) :
    GovernedEnd ⟨status, none⟩ ended ↔
      ∃ result, ended = .ok result ∧
        (result.success = true → (classifyStatus status).isActive) := by
  constructor
  · rintro ⟨result, hresult, hreported, -⟩
    refine ⟨result, hresult, fun hsuccess => ?_⟩
    rcases hreported hsuccess with hactive | ⟨data, hdata, -⟩
    · exact hactive
    · exact nomatch hdata
  · rintro ⟨result, hresult, hreported⟩
    exact ⟨result, hresult, fun hsuccess => .inl (hreported hsuccess), nofun⟩

/-- A refusal of the dispatcher can be reported exactly when its class or its reason can be
    read; it is no success. -/
theorem refusedResult_returns (args : ContextArgs) (outcome : RunOutcome) (active : Prop) :
    (∃ result, refusedResult args outcome = .ok result ∧ (result.success = true → active)) ↔
      isStr "OBSOLETE_WORKSPACE_PROVISION_FLOW" (errorClassOf outcome) = true ∨
        ∃ found, searched "workspace.provision" (reasonOf outcome) = .ok found := by
  unfold refusedResult
  by_cases hobsolete : isStr "OBSOLETE_WORKSPACE_PROVISION_FLOW" (errorClassOf outcome) = true
  · rw [if_pos hobsolete]
    exact ⟨fun _ => .inl hobsolete, fun _ => ⟨_, rfl, nofun⟩⟩
  · rw [if_neg hobsolete]
    cases searched "workspace.provision" (reasonOf outcome) with
    | error raised =>
      refine ⟨fun ⟨_, h, _⟩ => (nomatch h), fun h => ?_⟩
      obtain ⟨found, hfound⟩ := h.resolve_left hobsolete
      exact nomatch hfound
    | ok found =>
      cases found with
      | true => exact ⟨fun _ => .inr ⟨true, rfl⟩, fun _ => ⟨_, rfl, nofun⟩⟩
      | false => exact ⟨fun _ => .inr ⟨false, rfl⟩, fun _ => ⟨_, rfl, nofun⟩⟩

/-- A refused or deferred run carries the class and the reason of the answer, or none. -/
theorem classifyOutcome_refused {data : Dict} {statusCode : Nat} {word : String}
    (request : RunRequest) (hfield : statusField data = .str word) {outcome : RunOutcome}
    (h : classifyOutcome data statusCode request = .ok outcome) :
    (routed statusCode (lower word) = .rejected →
      outcome.errorClass = data.getOr "error_class" (.str "server_rejection") ∧
        outcome.reason = serverReason data) ∧
    (routed statusCode (lower word) = .deferred →
      outcome.errorClass = .str "" ∧ outcome.reason = .str "") := by
  rw [classifyOutcome_eq statusCode request hfield] at h
  cases h
  constructor
  · intro hrejected
    rw [hrejected]
    exact ⟨rfl, rfl⟩
  · intro hdeferred
    rw [hdeferred]
    exact ⟨rfl, rfl⟩

/-- An answer is no local failure. -/
theorem routed_answered (statusCode : Nat) (word : String) :
    routed statusCode word ≠ .failed ∧ routed statusCode word ≠ .transportError := by
  have hroute := routed_route statusCode word
  generalize routed statusCode word = status at hroute
  cases hroute with
  | _ => exact ⟨nofun, nofun⟩

section Answered

variable (identity : RepoIdentity) (args : ContextArgs)

/-- What is made of a queued run. -/
theorem governedQueued_iff (data : Dict) (statusCode : Nat) (polls : Nat → Poll) :
    GovernedEnd (seenQueued data statusCode polls) (concludeQueued identity args data polls) ↔
      WeighedQueued data statusCode polls := by
  unfold seenQueued concludeQueued WeighedQueued
  cases acceptedRunId data with
  | error raised => exact ⟨fun ⟨_, h, _⟩ => (nomatch h), fun h => h.elim⟩
  | ok runId =>
    by_cases hid : truthy runId = true
    · simp only [if_pos hid]
      unfold seenPolled WeighedPolled
      cases hpoll : pollRunOutput maxPolls polls with
      | error raised => exact ⟨fun ⟨_, h, _⟩ => (nomatch h), fun h => h.elim⟩
      | ok output =>
        cases output with
        | none =>
          rw [governedEnd_none]
          constructor
          · rintro ⟨result, hresult, hactive⟩
            cases hresult
            exact hactive rfl
          · intro hactive
            exact ⟨_, rfl, fun _ => hactive⟩
        | some document =>
          rw [governedEnd_document]
          exact guarded_iff identity args _
    · simp only [if_neg hid]
      rw [governedEnd_document]
      exact guarded_iff identity args _

/-- What is made of an answer that is a dictionary. -/
theorem governedDict_iff (request : RunRequest) (data : Dict) (statusCode : Nat)
    (polls : Nat → Poll) :
    GovernedEnd (seen (.ok ⟨.obj data, statusCode⟩) polls)
        (createAnswered identity args request (.ok ⟨.obj data, statusCode⟩) polls) ↔
      Heeded (.ok ⟨.obj data, statusCode⟩) polls := by
  by_cases htext : ∃ word, statusField data = .str word
  · obtain ⟨word, hfield⟩ := htext
    obtain ⟨outcome, houtcome, hstatus, hdata⟩ := classifyOutcome_text statusCode request hfield
    obtain ⟨hrejected, hdeferred⟩ := classifyOutcome_refused request hfield houtcome
    have hdispatch : dispatchRun (.ok ⟨.obj data, statusCode⟩) request = .ok outcome := houtcome
    have hdispatched : dispatched data statusCode = some (routed statusCode (lower word)) := by
      unfold dispatched
      rw [hfield]
    unfold seen createAnswered Heeded
    rw [hdispatch]
    simp only [hdispatched, hstatus, hdata]
    -- one case for each status the dispatcher gives
    cases hrouted : routed statusCode (lower word) with
    | success =>
      rw [if_neg (fun h => h.1 rfl), if_neg nofun, governedEnd_document]
      exact guarded_iff identity args _
    | accepted =>
      rw [if_neg (fun h => h.2 rfl), if_pos rfl]
      exact governedQueued_iff identity args data statusCode polls
    | deferred =>
      rw [if_pos ⟨nofun, nofun⟩, governedEnd_none, refusedResult_returns]
      obtain ⟨hclass, hreason⟩ := hdeferred hrouted
      refine ⟨fun _ => trivial, fun _ => .inr ⟨false, ?_⟩⟩
      unfold reasonOf
      rw [hreason]
      decide
    | rejected =>
      rw [if_pos ⟨nofun, nofun⟩, governedEnd_none, refusedResult_returns]
      obtain ⟨hclass, hreason⟩ := hrejected hrouted
      unfold errorClassOf reasonOf Reportable
      rw [hclass, hreason]
    | failed => exact absurd hrouted (routed_answered statusCode _).1
    | transportError => exact absurd hrouted (routed_answered statusCode _).2
  · have hraises : dispatchRun (.ok ⟨.obj data, statusCode⟩) request = .error "AttributeError" :=
      classifyOutcome_raises statusCode request fun word h => htext ⟨word, h⟩
    have hdispatched : dispatched data statusCode = none := by
      unfold dispatched
      cases hfield : statusField data with
      | str word => exact absurd ⟨word, hfield⟩ htext
      | _ => rfl
    unfold createAnswered Heeded
    rw [hraises]
    simp only [hdispatched]
    exact ⟨fun ⟨_, h, _⟩ => (nomatch h), fun h => h.elim⟩

/-- What is made of an answer. -/
theorem governedEnd_iff (request : RunRequest) (answer : Answer) (polls : Nat → Poll) :
    GovernedEnd (seen answer polls) (createAnswered identity args request answer polls) ↔
      Heeded answer polls := by
  rcases answer with failure | ⟨doc, statusCode⟩
  · have hend : createAnswered identity args request (.error failure) polls
        = refusedResult args (handleTransportException failure request) := by
      show (if (handleTransportException failure request).status ≠ .success ∧ _ then _ else _) = _
      rw [if_pos]
      unfold handleTransportException
      by_cases hunknown : failure.errorClass ∈ unknownFailures
      · simp only [if_pos hunknown]
        exact ⟨nofun, nofun⟩
      · simp only [if_neg hunknown]
        exact ⟨nofun, nofun⟩
    rw [hend]
    show GovernedEnd ⟨"", none⟩ _ ↔ True
    rw [governedEnd_none, refusedResult_returns]
    refine ⟨fun _ => trivial, fun _ => .inr ?_⟩
    -- the reason of a failed transport is a text
    show ∃ found, searched _ (orElse (.str failure.text) (.str _)) = .ok found
    unfold orElse
    by_cases htext : truthy (.str failure.text) = true
    · rw [if_pos htext]
      exact ⟨_, rfl⟩
    · rw [if_neg htext]
      exact ⟨_, rfl⟩
  · cases doc with
    | obj data => exact governedDict_iff identity args request data statusCode polls
    | _ =>
      exact ⟨fun ⟨_, h, _⟩ => (nomatch h), fun h => h.elim⟩

end Answered

/-- What ends the command before its run is no success. -/
theorem refused_before {env : CommandEnv} {args : ContextArgs} {result : CommandResult}
    (h : opening env args = .error result) : result.success = false := by
  unfold opening KeyholeRepoIdentity.runGovernanceContextCreate at h
  by_cases hgap : strip args.gapId = ""
  · rw [if_pos hgap] at h
    cases h
    rfl
  · rw [if_neg hgap] at h
    by_cases htoken : env.accessToken = ""
    · rw [if_pos htoken] at h
      cases h
      rfl
    · rw [if_neg htoken] at h
      cases hdetect : detectRepoIdentity env.checkout with
      | error e =>
        rw [hdetect] at h
        cases h
        rfl
      | ok identity =>
        rw [hdetect] at h
        exact nomatch h

/-- A run is sent for a repository that was identified. -/
theorem detect_of_opening {env : CommandEnv} {args : ContextArgs} {request : RunRequest}
    (h : opening env args = .ok request) :
    ∃ identity, detectRepoIdentity env.checkout = .ok identity := by
  unfold opening KeyholeRepoIdentity.runGovernanceContextCreate at h
  by_cases hgap : strip args.gapId = ""
  · rw [if_pos hgap] at h
    exact nomatch h
  · rw [if_neg hgap] at h
    by_cases htoken : env.accessToken = ""
    · rw [if_pos htoken] at h
      exact nomatch h
    · rw [if_neg htoken] at h
      cases hdetect : detectRepoIdentity env.checkout with
      | error e =>
        rw [hdetect] at h
        exact nomatch h
      | ok identity => exact ⟨identity, rfl⟩

/-- A call whose run is sent. -/
theorem run_of_opening {env : CommandEnv} {args : ContextArgs} {request : RunRequest}
    {identity : RepoIdentity} (h : opening env args = .ok request)
    (hdetect : detectRepoIdentity env.checkout = .ok identity) (answer : Answer)
    (polls : Nat → Poll) : runGovernanceContextCreate env args answer polls
      = createAnswered identity args request answer polls := by
  unfold runGovernanceContextCreate
  rw [h, hdetect]

/-- A call of the command whose run is sent. -/
def sampleArgs : ContextArgs := { gapId := "gap-1" }

/-- A context is reported only when there is one, and the command returns, exactly on the
    answers and polls it weighs rightly. -/
theorem governed_iff (answer : Answer) (polls : Nat → Poll) :
    Governed answer polls ↔ Heeded answer polls := by
  constructor
  · intro h
    have hopening : ∃ request, opening KeyholeRepoAttach.sampleEnv.toCommandEnv sampleArgs
        = .ok request := ⟨_, rfl⟩
    obtain ⟨request, hrequest⟩ := hopening
    obtain ⟨identity, hdetect⟩ := detect_of_opening hrequest
    have hrun := run_of_opening hrequest hdetect answer polls
    obtain ⟨result, hresult⟩ := h.returns KeyholeRepoAttach.sampleEnv.toCommandEnv sampleArgs
    refine (governedEnd_iff identity sampleArgs request answer polls).mp ?_
    rw [← hrun]
    exact ⟨result, hresult, h.reported _ _ _ hresult,
      fun data hdata hcontract hok => h.accepted data hdata hcontract hok _ _ _ hrequest _ hresult⟩
  · intro h
    have hcases : ∀ env args,
        (∃ result, opening env args = .error result ∧ result.success = false ∧
          runGovernanceContextCreate env args answer polls = .ok result) ∨
        ∃ request, opening env args = .ok request ∧
          GovernedEnd (seen answer polls) (runGovernanceContextCreate env args answer polls) := by
      intro env args
      cases hopening : opening env args with
      | error result =>
        refine .inl ⟨result, rfl, refused_before hopening, ?_⟩
        unfold runGovernanceContextCreate
        rw [hopening]
      | ok request =>
        obtain ⟨identity, hdetect⟩ := detect_of_opening hopening
        refine .inr ⟨request, rfl, ?_⟩
        rw [run_of_opening hopening hdetect]
        exact (governedEnd_iff identity args request answer polls).mpr h
    constructor
    · intro env args
      rcases hcases env args with ⟨result, -, -, hresult⟩ | ⟨_, -, result, hresult, -⟩
      · exact ⟨result, hresult⟩
      · exact ⟨result, hresult⟩
    · intro env args result hresult hsuccess
      rcases hcases env args with ⟨result', -, hfailure, hresult'⟩ | ⟨_, -, result', hresult', hreported, -⟩
      · cases hresult.symm.trans hresult'
        exact nomatch hsuccess.symm.trans hfailure
      · cases hresult.symm.trans hresult'
        exact hreported hsuccess
    · intro data hdata hcontract hok env args request hrequest result hresult
      rcases hcases env args with ⟨_, hopening, -, -⟩ | ⟨_, -, result', hresult', -, haccepted⟩
      · exact nomatch hopening.symm.trans hrequest
      · cases hresult.symm.trans hresult'
        exact haccepted data hdata hcontract hok

/-- A queued run whose first poll says that it failed: it is reported as accepted. -/
theorem failedRun_reported : ¬ Governed
    (.ok ⟨.obj [("ok", .bool true),
      ("data", .obj [("run_id", .str "run-1"), ("status", .str "accepted")])], 202⟩)
    (fun _ => .answered 200 (.obj [("data", .obj [("status", .str "failed")])])) := by
  intro h
  have hreported := h.reported KeyholeRepoAttach.sampleEnv.toCommandEnv sampleArgs _ rfl rfl
  rcases hreported with hactive | ⟨data, hdata, -⟩
  · exact absurd hactive (by decide)
  · exact nomatch hdata

end KeyholeGovernanceContext
