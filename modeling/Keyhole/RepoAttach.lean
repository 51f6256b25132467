import Keyhole.RepoIdentity

/-!
# Attaching a repository

`run_repo_attach` sends the identity of the checkout and keeps the binding it is answered with
in `.keyhole/repo-binding.json`, where `gaps claim` finds it.  The dispatcher has classified the
answer by then; the command itself reads the class and the binding at its top level only.

* `runRepoAttach`: the command, with the file it leaves;
* `Attached`: the answer is the server's word for an attached repository;
* `onServersWord_iff`: the answers on which the command keeps to that word, and what a later
  claim sends after a run of such answers. -/

namespace KeyholeRepoAttach

open KeyholeJson KeyholeDispatch
open KeyholeLogin (CommandResult)
open KeyholeRepoIdentity hiding runRepoAttach

/-! ## The binding file -/

/-- `.keyhole/repo-binding.json`. -/
inductive BindingFile where
  | absent
  | unreadable
  | document (doc : Json)

/-- The document a reader finds. -/
def BindingFile.readable : BindingFile → Option Json
  | .document doc => some doc
  | .absent | .unreadable => none

/-- The binding a reader finds. -/
def BindingFile.binding (file : BindingFile) : Json :=
  match file.readable with
  | some (.obj data) => orElse (Dict.get data "repo_binding_id") .null
  | _ => .null

/-- An `OSError` while the file is written: before it was opened for writing, or after. -/
inductive SaveFault where
  | refused
  | torn

/-- What the command finds, besides the file and the answer. -/
structure AttachEnv extends CommandEnv where
  mcpUrl : String
  /-- `datetime.now(timezone.utc).isoformat()` -/
  attachedAt : String
  saving : Option SaveFault

/-- A command of another call, finding the file. -/
def finding (env : CommandEnv) (file : BindingFile) : CommandEnv :=
  { env with checkout := { env.checkout with bindingFile := file.readable } }

/-- The document `_save_repo_binding` writes. -/
def bindingDocument (env : AttachEnv) (identity : RepoIdentity) (bindingId : Json) : Dict :=
  [("repo_binding_id", bindingId), ("repo_remote", .str identity.repoRemote),
    ("owner", .str identity.owner), ("repo", .str identity.repo),
    ("repo_class", .str "CUSTOMER_FORK"), ("attached_at", .str env.attachedAt),
    ("server", .str env.mcpUrl)]

/-- `_save_repo_binding`, and the `except OSError` around it: the path written, if the write
    succeeded. -/
def saveRepoBinding (env : AttachEnv) (identity : RepoIdentity) (bindingId : Json)
    (file : BindingFile) : Option String × BindingFile :=
  match env.saving with
  | none => (some (env.checkout.path ++ "/.keyhole/repo-binding.json"),
      .document (.obj (bindingDocument env identity bindingId)))
  | some .refused => (none, file)
  | some .torn => (none, .unreadable)

/-- The binding is kept if there is one. -/
def keepBinding (env : AttachEnv) (identity : RepoIdentity) (bindingId : Json)
    (file : BindingFile) : Option String × BindingFile :=
  if truthy bindingId then saveRepoBinding env identity bindingId file else (none, file)

/-! ## The command -/

/-- `RepoIdentity.slug`. -/
def slug (identity : RepoIdentity) : String :=
  if identity.owner = "" then identity.repo else identity.owner ++ "/" ++ identity.repo

/-- The label of the command. -/
def command : String := "keyhole repo attach"

/-- The steps of a refused run. -/
def refusedSteps (errorClass : Json) (guidance : List String) : List String :=
  if isStr "NOT_IMPLEMENTED" errorClass then
    ["repo.attach is not yet available on this server.",
      "Ensure the server supports SDK-CLIENT-30."] ++ guidance
  else if isStr "PLATFORM_REPO_TARGET_FORBIDDEN" errorClass then
    ["The server rejected this repo as the platform control repo.",
      "Use your own forked or customer repository."]
  else guidance

/-- The result of a run that was neither answered inline nor accepted; the summary is the text
    it prints as. -/
def refusedResult (outcome : RunOutcome) : CommandResult :=
  let errorClass := orElse outcome.errorClass (.str "unknown")
  refusal command 1 (pyStr (orElse outcome.reason (.str "repo.attach rejected by server.")))
    (refusedSteps errorClass outcome.repairGuidance)
    [("error_class", errorClass), ("run_type", .str "repo.attach")]

/-- The result where the server names the control repository. -/
def forbiddenResult (repoClass : Json) : CommandResult :=
  refusal command 1 ("PLATFORM_REPO_TARGET_FORBIDDEN: server classified this repo as "
    ++ "PLATFORM_CONTROL. SDK/customer workflows must use a customer or "
    ++ "forked repository, not the platform control repo.")
    ["Use your own forked or customer repository, not keyhole_platform."]
    [("error_code", .str "PLATFORM_REPO_TARGET_FORBIDDEN"), ("repo_class", repoClass)]

/-- The result of an attached repository. -/
def attachedResult (identity : RepoIdentity) (bindingId repoClass : Json) (path : Option String) :
    CommandResult where
  command := command
  success := true
  exitCode := 0
  data := [("repo_binding_id", bindingId), ("repo_remote", .str identity.repoRemote),
    ("owner", .str identity.owner), ("repo", .str identity.repo), ("slug", .str (slug identity)),
    ("current_branch", .str identity.currentBranch), ("commit_sha", .str identity.commitSha),
    ("dirty_worktree", .bool identity.dirtyWorktree),
    ("repo_class", orElse repoClass (.str "CUSTOMER_FORK")),
    ("workspace_model", .str "repo-as-workspace"), ("persistent_workspace_created", .bool false)]
    ++ (path.toList.map fun p => ("binding_file", .str p))
  nextSteps :=
    ["Run: keyhole gaps claim --gap-id <id> — to claim a gap against this repo.",
      "Run: keyhole governance-context create --gap-id <id> --claim-token <token> — to bind "
        ++ "governance context."]
  summary := join "\n" (["Repo attached: " ++ slug identity]
    ++ (if truthy bindingId then ["Binding: " ++ pyStr bindingId] else [])
    ++ ["Branch: " ++ identity.currentBranch, "Commit: " ++ takeChars 12 identity.commitSha,
      "Workspace model: repo-as-workspace"])

/-- What is done with a classified answer. -/
def evaluate (env : AttachEnv) (identity : RepoIdentity) (outcome : RunOutcome)
    (file : BindingFile) : CommandResult × BindingFile :=
  if outcome.status ≠ .success ∧ outcome.status ≠ .accepted then (refusedResult outcome, file)
  else
    let data := outcome.responseData
    let repoClass := data.getOr "repo_class" (.str "")
    if isStr "PLATFORM_CONTROL" repoClass then (forbiddenResult repoClass, file)
    else
      let bindingId := data.getOr "repo_binding_id" (.str "")
      let saved := keepBinding env identity bindingId file
      (attachedResult identity bindingId repoClass saved.1, saved.2)

/-- The part of `run_repo_attach` after its request. -/
def attachAnswered (env : AttachEnv) (identity : RepoIdentity) (request : RunRequest)
    (answer : Answer) (file : BindingFile) : Except Raised CommandResult × BindingFile :=
  match dispatchRun answer request with
  | .error raised => (.error raised, file)
  | .ok outcome => (evaluate env identity outcome file).map .ok id

/-- `run_repo_attach`: what it comes to, and the file it leaves. -/
def runRepoAttach (env : AttachEnv) (answer : Answer) (file : BindingFile) :
    Except Raised CommandResult × BindingFile :=
  match KeyholeRepoIdentity.runRepoAttach (finding env.toCommandEnv file),
    detectRepoIdentity (finding env.toCommandEnv file).checkout with
  | .error result, _ => (.ok result, file)
  -- not reached: the request was built from the identity
  | .ok _, .error e => (.error e.errorCode, file)
  | .ok request, .ok identity => attachAnswered env identity request answer file

/-- A call of the command and the answer it gets. -/
abbrev Call := AttachEnv × Answer

/-- The file after a sequence of calls. -/
def attachRun (calls : List Call) (file : BindingFile) : BindingFile :=
  calls.foldl (fun file call => (runRepoAttach call.1 call.2 file).2) file

/-! ## The server's word -/

/-- The answer, and what it holds in its `data` and `result` envelopes. -/
def levels (data : Dict) : List Dict :=
  [data, innerData data, data.child "result", (innerData data).child "result"]

/-- The first value that counts as true. -/
def firstTruthy : List Json → Json
  | [] => .null
  | v :: rest => if truthy v then v else firstTruthy rest

/-- What the answer states under a key, bare or inside its envelopes. -/
def stated (data : Dict) (key : String) : Json := firstTruthy ((levels data).map (·.get key))

/-- The run's own status is a finished success; `attached` is the one the command documents. -/
def Finished (data : Dict) : Prop :=
  classifyStatus (statedStatus data) = .success ∨ strip (lower (statedStatus data)) = "attached"

/-- The answer is the server's word for an attached repository. -/
structure Attached (data : Dict) : Prop where
  notRefused : isFalse (data.get "ok") = false
  finished : Finished data
  binding : truthy (stated data "repo_binding_id") = true
  notControl : ∀ level ∈ levels data, isStr "PLATFORM_CONTROL" (level.get "repo_class") = false

/-- The same, of what the transport came to. -/
def ServersWord : Answer → Prop
  | .ok ⟨.obj data, _⟩ => Attached data
  | _ => False

/-- What the answer states under a key. -/
def statedBy (key : String) : Answer → Json
  | .ok ⟨.obj data, _⟩ => stated data key
  | _ => .null

/-- The command counts the repository as attached on the server's word only, takes the class
    from it, and otherwise leaves the file alone. -/
structure OnServersWord (answer : Answer) : Prop where
  success : ∀ env file result, (runRepoAttach env answer file).1 = .ok result →
    result.success = true → ServersWord answer
  written : ∀ env file, (runRepoAttach env answer file).2 ≠ file → ServersWord answer
  returned : ∀ env file result, (runRepoAttach env answer file).1 = .ok result →
    result.success = true → result.data.get "repo_class" = statedBy "repo_class" answer
  saved : ∀ env file doc, (runRepoAttach env answer file).2 = .document (.obj doc) →
    file ≠ .document (.obj doc) → Dict.get doc "repo_class" = statedBy "repo_class" answer

/-- The binding a request carries. -/
def sentBinding (request : RunRequest) : Json := (asDict request.inputData).get "repo_binding_id"

/-- The server issued the binding in this answer. -/
def Issues (answer : Answer) (bindingId : Json) : Prop :=
  ServersWord answer ∧ statedBy "repo_binding_id" answer = bindingId

/-- A claim after the calls sends no binding but the one there was or one the server issued. -/
def ClaimsIssued (calls : List Call) (file : BindingFile) : Prop :=
  ∀ env gapId request, runGapsClaim (finding env (attachRun calls file)) gapId = .ok request →
    truthy (sentBinding request) = true →
      sentBinding request = file.binding ∨ ∃ call ∈ calls, Issues call.2 (sentBinding request)

/-! ## What the command takes for attached -/

/-- The words after which the dispatcher has neither an inline answer nor an accepted run. -/
def turnedAwayWords : List String := ["deferred", "rejected", "error", "failed"]

/-- The answer does not get past the dispatcher and the guard: its first status is no text or
    such a word, not at HTTP 202, or its top level names the control repository. -/
def TurnedAway (data : Dict) (statusCode : Nat) : Prop :=
  (∀ word, statusField data = .str word → statusCode ≠ 202 ∧ lower word ∈ turnedAwayWords)
    ∨ isStr "PLATFORM_CONTROL" (data.get "repo_class") = true

/-- The class the command puts in for one the top level does not state, and the one it saves, is
    what the answer states. -/
structure ClassKept (data : Dict) : Prop where
  returned : truthy (data.get "repo_class") = false →
    stated data "repo_class" = .str "CUSTOMER_FORK"
  saved : truthy (data.get "repo_binding_id") = true →
    stated data "repo_class" = .str "CUSTOMER_FORK"

/-- The answers on which the command keeps to the server's word. -/
def Heeded : Answer → Prop
  | .ok ⟨.obj data, statusCode⟩ =>
      TurnedAway data statusCode ∨ (Attached data ∧ ClassKept data)
  | _ => True

/-- What the command makes of an answer it takes for an attached repository. -/
def taken (env : AttachEnv) (identity : RepoIdentity) (data : Dict) (file : BindingFile) :
    CommandResult × BindingFile :=
  let bindingId := data.getOr "repo_binding_id" (.str "")
  let saved := keepBinding env identity bindingId file
  (attachedResult identity bindingId (data.getOr "repo_class" (.str "")) saved.1, saved.2)

variable {data : Dict} {statusCode : Nat} {answer : Answer}

theorem routed_taken {word : String} :
    (routed statusCode word ≠ .success ∧ routed statusCode word ≠ .accepted) ↔
      statusCode ≠ 202 ∧ word ∈ turnedAwayWords := by
  have hroute := routed_route statusCode word
  generalize routed statusCode word = status at hroute
  cases hroute with
  | accepted h =>
    refine ⟨fun h => absurd rfl h.2, fun ⟨hcode, hword⟩ => ?_⟩
    rcases h with h | h
    · exact absurd h hcode
    · rcases List.mem_cons.mp h with rfl | h
      · exact absurd hword (by decide)
      · rw [List.mem_singleton.mp h] at hword
        exact absurd hword (by decide)
  | deferred hcode h => exact ⟨fun _ => ⟨hcode, h ▸ List.mem_cons_self⟩, fun _ => ⟨nofun, nofun⟩⟩
  | rejected hcode hactive h =>
    exact ⟨fun _ => ⟨hcode, List.mem_cons_of_mem _ h⟩, fun _ => ⟨nofun, nofun⟩⟩
  | success hcode hactive hrefused =>
    refine ⟨fun h => absurd rfl h.1, fun ⟨_, hword⟩ => ?_⟩
    rcases List.mem_cons.mp hword with rfl | h
    · exact absurd (by decide) hactive
    · exact absurd h hrefused

/-- `d.get(k, "")` and `d.get(k)` differ only where the key is missing. -/
theorem getOr_empty (d : Dict) (k : String) :
    d.getOr k (.str "") = d.get k ∨ (d.getOr k (.str "") = .str "" ∧ d.get k = .null) := by
  cases hhas : d.has k with
  | true => exact .inl (getOr_of_has hhas)
  | false => exact .inr ⟨getOr_of_not_has hhas, get_of_not_has hhas⟩

theorem isStr_getOr_empty {text : String} (hne : text ≠ "") (d : Dict) (k : String) :
    isStr text (d.getOr k (.str "")) = isStr text (d.get k) := by
  rcases getOr_empty d k with h | ⟨h, hnull⟩
  · rw [h]
  · rw [h, hnull]
    exact beq_eq_false_iff_ne.mpr hne.symm

theorem truthy_getOr_empty (d : Dict) (k : String) :
    truthy (d.getOr k (.str "")) = truthy (d.get k) := by
  rcases getOr_empty d k with h | ⟨h, hnull⟩
  · rw [h]
  · rw [h, hnull]
    rfl

/-- A key whose value counts as true reads the same with the default. -/
theorem getOr_empty_of_truthy {d : Dict} {k : String} (h : truthy (d.get k) = true) :
    d.getOr k (.str "") = d.get k := by
  rcases getOr_empty d k with heq | ⟨_, hnull⟩
  · exact heq
  · rw [hnull] at h
    exact nomatch h

/-- The command on an answer that gets past the dispatcher and the guard, and on any other. -/
theorem evaluate_of_dispatched {word : String}
    (env : AttachEnv) (identity : RepoIdentity) (file : BindingFile) {outcome : RunOutcome}
    (hstatus : outcome.status = routed statusCode (lower word))
    (hdata : outcome.responseData = data) :
    evaluate env identity outcome file =
      if statusCode ≠ 202 ∧ lower word ∈ turnedAwayWords then (refusedResult outcome, file)
      else if isStr "PLATFORM_CONTROL" (data.get "repo_class") then
        (forbiddenResult (data.getOr "repo_class" (.str "")), file)
      else taken env identity data file := by
  unfold evaluate
  rw [hstatus, hdata]
  by_cases haway : statusCode ≠ 202 ∧ lower word ∈ turnedAwayWords
  · rw [if_pos haway, if_pos (routed_taken.mpr haway)]
  · rw [if_neg haway, if_neg fun h => haway (routed_taken.mp h)]
    simp only [isStr_getOr_empty (show "PLATFORM_CONTROL" ≠ "" by decide)]
    rfl

/-- What ends the command before its run is no success. -/
theorem refused_before {env : CommandEnv} {result : CommandResult}
    (h : KeyholeRepoIdentity.runRepoAttach env = .error result) : result.success = false := by
  unfold KeyholeRepoIdentity.runRepoAttach at h
  by_cases htoken : env.accessToken = ""
  · rw [if_pos htoken] at h
    cases h
    rfl
  · rw [if_neg htoken] at h
    cases hdetect : detectRepoIdentity env.checkout with
    | error e =>
      rw [hdetect] at h
      cases h
      rfl
    | ok identity =>
      rw [hdetect] at h
      exact nomatch h

/-- What a call came to leaves the file and reports no success. -/
def Declines (ended : Except Raised CommandResult × BindingFile) (file : BindingFile) : Prop :=
  ended.2 = file ∧ ∀ result, ended.1 = .ok result → result.success = false

/-- What a call came to takes the answer, which was not turned away, for an attached
    repository. -/
def Takes (env : AttachEnv) (answer : Answer) (file : BindingFile)
    (ended : Except Raised CommandResult × BindingFile) : Prop :=
  ∃ data statusCode identity, answer = .ok ⟨.obj data, statusCode⟩ ∧
    ¬ TurnedAway data statusCode ∧ ended = Prod.map .ok id (taken env identity data file)

/-- An answer that was not turned away is taken for an attached repository. -/
theorem attachAnswered_of_not_turnedAway
    (haway : ¬ TurnedAway data statusCode) (env : AttachEnv) (identity : RepoIdentity)
    (request : RunRequest) (file : BindingFile) :
    attachAnswered env identity request (.ok ⟨.obj data, statusCode⟩) file
      = (taken env identity data file).map .ok id := by
  obtain ⟨hword, hcontrol⟩ := not_or.mp haway
  simp only [not_forall] at hword
  obtain ⟨word, hfield, hrouted⟩ := hword
  obtain ⟨outcome, houtcome, hstatus, hdata⟩ := classifyOutcome_text statusCode request hfield
  have hdispatch : dispatchRun (.ok ⟨.obj data, statusCode⟩) request = .ok outcome := houtcome
  unfold attachAnswered
  rw [hdispatch]
  show Prod.map Except.ok id (evaluate env identity outcome file) = _
  rw [evaluate_of_dispatched env identity file hstatus hdata, if_neg hrouted, if_neg hcontrol]

/-- An answer that was turned away is declined. -/
theorem attachAnswered_of_turnedAway
    (haway : TurnedAway data statusCode) (env : AttachEnv) (identity : RepoIdentity)
    (request : RunRequest) (file : BindingFile) :
    Declines (attachAnswered env identity request (.ok ⟨.obj data, statusCode⟩) file) file := by
  by_cases htext : ∃ word, statusField data = .str word
  · obtain ⟨word, hfield⟩ := htext
    obtain ⟨outcome, houtcome, hstatus, hdata⟩ := classifyOutcome_text statusCode request hfield
    have hdispatch : dispatchRun (.ok ⟨.obj data, statusCode⟩) request = .ok outcome := houtcome
    unfold attachAnswered
    rw [hdispatch]
    show Declines (Prod.map Except.ok id (evaluate env identity outcome file)) file
    rw [evaluate_of_dispatched env identity file hstatus hdata]
    by_cases hrouted : statusCode ≠ 202 ∧ lower word ∈ turnedAwayWords
    · rw [if_pos hrouted]
      exact ⟨rfl, fun result h => by cases h; rfl⟩
    · have hcontrol : isStr "PLATFORM_CONTROL" (data.get "repo_class") = true :=
        haway.resolve_left fun h => hrouted (h word hfield)
      rw [if_neg hrouted, if_pos hcontrol]
      exact ⟨rfl, fun result h => by cases h; rfl⟩
  · have hraises : dispatchRun (.ok ⟨.obj data, statusCode⟩) request = .error "AttributeError" :=
      classifyOutcome_raises statusCode request fun word h => htext ⟨word, h⟩
    unfold attachAnswered
    rw [hraises]
    exact ⟨rfl, nofun⟩

/-- A failed transport, or a document that is no dictionary, is declined. -/
theorem attachAnswered_of_no_dict
    (h : ∀ data statusCode, answer ≠ .ok ⟨.obj data, statusCode⟩) (env : AttachEnv)
    (identity : RepoIdentity) (request : RunRequest) (file : BindingFile) :
    Declines (attachAnswered env identity request answer file) file := by
  unfold attachAnswered
  rcases answer with failure | ⟨doc, statusCode⟩
  · show Declines (Prod.map Except.ok id
      (evaluate env identity (handleTransportException failure request) file)) file
    have hstatus : (handleTransportException failure request).status ≠ .success ∧
        (handleTransportException failure request).status ≠ .accepted := by
      unfold handleTransportException
      by_cases hunknown : failure.errorClass ∈ unknownFailures
      · simp only [if_pos hunknown]
        exact ⟨nofun, nofun⟩
      · simp only [if_neg hunknown]
        exact ⟨nofun, nofun⟩
    unfold evaluate
    rw [if_pos hstatus]
    exact ⟨rfl, fun result h => by cases h; rfl⟩
  · cases doc with
    | obj data => exact absurd rfl (h data statusCode)
    | _ => exact ⟨rfl, nofun⟩

/-- A call declines, or takes its answer. -/
theorem declines_or_takes (env : AttachEnv) (answer : Answer) (file : BindingFile) :
    Declines (runRepoAttach env answer file) file ∨
      Takes env answer file (runRepoAttach env answer file) := by
  unfold runRepoAttach
  generalize finding env.toCommandEnv file = found
  cases hopening : KeyholeRepoIdentity.runRepoAttach found with
  | error result =>
    refine .inl ⟨rfl, fun result' h => ?_⟩
    cases h
    exact refused_before hopening
  | ok request =>
    cases detectRepoIdentity found.checkout with
    | error e => exact .inl ⟨rfl, nofun⟩
    | ok identity =>
      show Declines (attachAnswered env identity request answer file) file ∨ _
      by_cases hdict : ∃ data statusCode, answer = .ok ⟨.obj data, statusCode⟩
      · obtain ⟨data, statusCode, rfl⟩ := hdict
        by_cases haway : TurnedAway data statusCode
        · exact .inl (attachAnswered_of_turnedAway haway env identity request file)
        · exact .inr ⟨data, statusCode, identity, rfl, haway,
            attachAnswered_of_not_turnedAway haway env identity request file⟩
      · exact .inl (attachAnswered_of_no_dict
          (fun data statusCode h => hdict ⟨data, statusCode, h⟩) env identity request file)

/-! ## Which answers keep the command to the server's word -/

/-- A checkout whose remote names a customer's repository, and a session. -/
def sampleEnv : AttachEnv where
  accessToken := "token"
  checkout := {
    path := "/work/app"
    pathExists := true
    git := fun args => .exited 0
      (if args = ["remote", "get-url", "origin"] then "https://github.com/acme/app.git" else "") ""
    bindingFile := none }
  repoName := "app"
  gapsStatus := .ok ⟨.obj [], 200⟩
  compile := .ok ⟨.obj [], 200⟩
  statusId := "status-1"
  compileId := "compile-1"
  correlationId := "attach-1"
  mcpUrl := "https://mcp.example"
  attachedAt := "2026-01-01T00:00:00+00:00"
  saving := none

theorem attachedResult_repoClass (identity : RepoIdentity) (bindingId repoClass : Json)
    (path : Option String) : Dict.get (attachedResult identity bindingId repoClass path).data
      "repo_class" = orElse repoClass (.str "CUSTOMER_FORK") := rfl

theorem bindingDocument_repoClass (env : AttachEnv) (identity : RepoIdentity) (bindingId : Json) :
    Dict.get (bindingDocument env identity bindingId) "repo_class" = .str "CUSTOMER_FORK" := rfl

/-- What the top level states is what the answer states. -/
theorem stated_of_truthy {key : String} (h : truthy (data.get key) = true) :
    stated data key = data.get key := by
  show firstTruthy (data.get key :: _) = _
  rw [firstTruthy, if_pos h]

theorem orElse_getOr_empty (d : Dict) (k : String) (fallback : Json) :
    orElse (d.getOr k (.str "")) fallback = orElse (d.get k) fallback := by
  unfold orElse
  rw [truthy_getOr_empty]
  by_cases h : truthy (d.get k) = true
  · rw [if_pos h, if_pos h, getOr_empty_of_truthy h]
  · rw [if_neg h, if_neg h]

/-- The class the result of a taken answer carries. -/
theorem taken_repoClass (env : AttachEnv) (identity : RepoIdentity) (data : Dict)
    (file : BindingFile) : Dict.get (taken env identity data file).1.data "repo_class"
      = orElse (data.get "repo_class") (.str "CUSTOMER_FORK") := by
  unfold taken
  rw [attachedResult_repoClass, orElse_getOr_empty]

/-- A taken answer leaves the file as keeping its binding does. -/
theorem taken_file (env : AttachEnv) (identity : RepoIdentity) (data : Dict) (file : BindingFile) :
    (taken env identity data file).2
      = (keepBinding env identity (data.getOr "repo_binding_id" (.str "")) file).2 := rfl

/-- A binding is kept by writing it, unless the write fails. -/
theorem keepBinding_of_truthy {env : AttachEnv} (identity : RepoIdentity)
    (file : BindingFile) (hid : truthy (data.get "repo_binding_id") = true) :
    keepBinding env identity (data.getOr "repo_binding_id" (.str "")) file
      = saveRepoBinding env identity (data.get "repo_binding_id") file := by
  rw [getOr_empty_of_truthy hid]
  exact if_pos hid

/-- A taken answer leaves the file, tears it, or writes the binding its top level states. -/
theorem taken_file_cases (env : AttachEnv) (identity : RepoIdentity) (data : Dict)
    (file : BindingFile) :
    (taken env identity data file).2 = file ∨
      (taken env identity data file).2 = .unreadable ∨
      (truthy (data.get "repo_binding_id") = true ∧ (taken env identity data file).2 =
        .document (.obj (bindingDocument env identity (data.get "repo_binding_id")))) := by
  rw [taken_file]
  by_cases hid : truthy (data.get "repo_binding_id") = true
  · rw [keepBinding_of_truthy identity file hid]
    unfold saveRepoBinding
    cases env.saving with
    | none => exact .inr (.inr ⟨hid, rfl⟩)
    | some fault =>
      cases fault with
      | refused => exact .inl rfl
      | torn => exact .inr (.inl rfl)
  · unfold keepBinding
    rw [truthy_getOr_empty, if_neg hid]
    exact .inl rfl

/-- The class the result carries is the stated one exactly where the command puts in the one the
    answer states further in. -/
theorem orElse_repoClass_iff (data : Dict) :
    orElse (data.get "repo_class") (.str "CUSTOMER_FORK") = stated data "repo_class" ↔
      (truthy (data.get "repo_class") = false →
        stated data "repo_class" = .str "CUSTOMER_FORK") := by
  unfold orElse
  by_cases h : truthy (data.get "repo_class") = true
  · rw [if_pos h, stated_of_truthy h]
    exact ⟨fun _ hfalse => absurd (h.symm.trans hfalse) nofun, fun _ => rfl⟩
  · rw [if_neg h]
    exact ⟨fun heq _ => heq.symm, fun himp => (himp (Bool.eq_false_iff.mpr h)).symm⟩

/-- The command on the sample checkout takes an answer that was not turned away. -/
theorem sample_taken (haway : ¬ TurnedAway data statusCode) :
    ∃ identity, runRepoAttach sampleEnv (.ok ⟨.obj data, statusCode⟩) .absent
      = (taken sampleEnv identity data .absent).map .ok id :=
  ⟨_, attachAnswered_of_not_turnedAway haway sampleEnv _ _ .absent⟩

/-- An answer on which the command keeps to the server's word was turned away, or is that word
    and keeps the class. -/
theorem heeded_of_onServersWord (h : OnServersWord answer) : Heeded answer := by
  rcases answer with failure | ⟨doc, statusCode⟩
  · trivial
  · cases doc with
    | null | bool b | int n | float t | str s | arr xs => trivial
    | obj data =>
      show TurnedAway data statusCode ∨ _
      by_cases haway : TurnedAway data statusCode
      · exact .inl haway
      · obtain ⟨identity, hrun⟩ := sample_taken haway
        have hresult : (runRepoAttach sampleEnv (.ok ⟨.obj data, statusCode⟩) .absent).1
            = .ok (taken sampleEnv identity data .absent).1 := by rw [hrun]; rfl
        have hclass := h.returned sampleEnv .absent _ hresult rfl
        rw [taken_repoClass] at hclass
        refine .inr ⟨h.success sampleEnv .absent _ hresult rfl,
          (orElse_repoClass_iff data).mp hclass, fun hid => ?_⟩
        have hfile : (runRepoAttach sampleEnv (.ok ⟨.obj data, statusCode⟩) .absent).2
            = .document (.obj (bindingDocument sampleEnv identity
              (Dict.get data "repo_binding_id"))) := by
          rw [hrun]
          show (taken sampleEnv identity data .absent).2 = _
          rw [taken_file, keepBinding_of_truthy identity .absent hid]
          rfl
        exact (h.saved sampleEnv .absent _ hfile nofun).symm

/-- On such an answer the command keeps to the server's word. -/
theorem onServersWord_of_heeded (h : Heeded answer) : OnServersWord answer := by
  have hgood : ∀ {env file}, Takes env answer file (runRepoAttach env answer file) →
      ∃ data statusCode identity, answer = .ok ⟨.obj data, statusCode⟩ ∧ Attached data ∧
        ClassKept data ∧
        runRepoAttach env answer file = (taken env identity data file).map .ok id := by
    rintro env file ⟨data, statusCode, identity, rfl, haway, hrun⟩
    obtain ⟨hattached, hkept⟩ := Or.resolve_left h haway
    exact ⟨data, statusCode, identity, rfl, hattached, hkept, hrun⟩
  constructor
  · intro env file result hresult hsuccess
    rcases declines_or_takes env answer file with hdeclines | htakes
    · exact nomatch (hdeclines.2 result hresult).symm.trans hsuccess
    · obtain ⟨data, statusCode, identity, rfl, hattached, -, -⟩ := hgood htakes
      exact hattached
  · intro env file hwritten
    rcases declines_or_takes env answer file with hdeclines | htakes
    · exact absurd hdeclines.1 hwritten
    · obtain ⟨data, statusCode, identity, rfl, hattached, -, -⟩ := hgood htakes
      exact hattached
  · intro env file result hresult hsuccess
    rcases declines_or_takes env answer file with hdeclines | htakes
    · exact nomatch (hdeclines.2 result hresult).symm.trans hsuccess
    · obtain ⟨data, statusCode, identity, rfl, -, hkept, hrun⟩ := hgood htakes
      have hresult' : (taken env identity data file).1 = result := by
        rw [hrun] at hresult
        exact Except.ok.inj hresult
      rw [← hresult', taken_repoClass]
      exact (orElse_repoClass_iff data).mpr hkept.returned
  · intro env file doc hdoc hne
    rcases declines_or_takes env answer file with hdeclines | htakes
    · exact absurd (hdeclines.1.symm.trans hdoc) hne
    · obtain ⟨data, statusCode, identity, rfl, -, hkept, hrun⟩ := hgood htakes
      have htaken : (taken env identity data file).2 = .document (.obj doc) := by
        rw [hrun] at hdoc
        exact hdoc
      rcases taken_file_cases env identity data file with hsame | htorn | ⟨hid, hwrote⟩
      · exact absurd (hsame.symm.trans htaken) hne
      · exact nomatch htorn.symm.trans htaken
      · cases hwrote.symm.trans htaken
        rw [bindingDocument_repoClass]
        exact (hkept.saved hid).symm

/-! ## What a later claim sends -/

/-- The binding a checkout's file holds. -/
theorem loadRepoBindingId_finding (env : CommandEnv) (file : BindingFile) :
    (finding env file).checkout.loadRepoBindingId = file.binding := rfl

/-- The identity carries the binding of the file. -/
theorem repoBindingId_of_detect {c : Checkout} {identity : RepoIdentity}
    (h : detectRepoIdentity c = .ok identity) : identity.repoBindingId = c.loadRepoBindingId := by
  unfold detectRepoIdentity at h
  by_cases hexists : c.pathExists = false
  · rw [if_pos hexists] at h
    exact nomatch h
  · rw [if_neg hexists] at h
    cases hrepo : c.runGit ["rev-parse", "--git-dir"] with
    | error e =>
      rw [hrepo] at h
      exact nomatch h
    | ok dir =>
      rw [hrepo] at h
      cases horigin : c.runGit ["remote", "get-url", "origin"] with
      | error e =>
        rw [horigin] at h
        exact nomatch h
      | ok remote =>
        rw [horigin] at h
        by_cases hplatform : (parseOwnerRepo remote).1 ≠ "" ∧ (parseOwnerRepo remote).2 ≠ "" ∧
            isPlatformControlRepo (parseOwnerRepo remote).1 (parseOwnerRepo remote).2 = true
        · exact nomatch (if_pos hplatform).symm.trans h
        · cases (if_neg hplatform).symm.trans h
          rfl

/-- A claim sends the binding of the file, or none. -/
theorem sentBinding_of_claim {env : CommandEnv} {file : BindingFile} {gapId : String}
    {request : RunRequest} (h : runGapsClaim (finding env file) gapId = .ok request)
    (hsent : truthy (sentBinding request) = true) : sentBinding request = file.binding := by
  have hinput : sentBinding request
      = Dict.get (repoContext (finding env file).checkout) "repo_binding_id" := by
    unfold runGapsClaim dispatchGapsRun at h
    by_cases hgap : strip gapId = ""
    · rw [if_pos hgap] at h
      exact nomatch h
    · rw [if_neg hgap] at h
      by_cases htoken : (finding env file).accessToken = ""
      · rw [if_pos htoken] at h
        exact nomatch h
      · rw [if_neg htoken] at h
        cases h
        rfl
  rw [hinput] at hsent ⊢
  unfold repoContext at hsent ⊢
  cases hdetect : detectRepoIdentity (finding env file).checkout with
  | error e =>
    rw [hdetect] at hsent
    exact nomatch hsent
  | ok identity =>
    rw [hdetect] at hsent
    have hbinding := repoBindingId_of_detect hdetect
    rw [loadRepoBindingId_finding] at hbinding
    by_cases hid : truthy identity.repoBindingId = true
    · simp only [if_pos hid]
      exact hbinding
    · simp only [if_neg hid] at hsent
      exact nomatch hsent

/-- A call whose answer is heeded leaves the binding there was, none, or one the server
    issued. -/
theorem binding_of_heeded (h : Heeded answer) (env : AttachEnv) (file : BindingFile)
    (hbinding : truthy (runRepoAttach env answer file).2.binding = true) :
    (runRepoAttach env answer file).2.binding = file.binding ∨
      Issues answer (runRepoAttach env answer file).2.binding := by
  rcases declines_or_takes env answer file with hdeclines | htakes
  · rw [hdeclines.1]
    exact .inl rfl
  · obtain ⟨data, statusCode, identity, rfl, haway, hrun⟩ := htakes
    have hattached := (Or.resolve_left h haway).1
    rw [hrun] at hbinding ⊢
    show (taken env identity data file).2.binding = _ ∨ Issues _ (taken env identity data file).2.binding
    rcases taken_file_cases env identity data file with hsame | htorn | ⟨hid, hwrote⟩
    · rw [hsame]
      exact .inl rfl
    · exact nomatch (show truthy (taken env identity data file).2.binding = true from hbinding).symm.trans
        (congrArg (fun f => truthy (BindingFile.binding f)) htorn)
    · have hsaved : (taken env identity data file).2.binding = Dict.get data "repo_binding_id" := by
        rw [hwrote]
        show orElse (Dict.get data "repo_binding_id") .null = _
        exact if_pos hid
      rw [hsaved]
      exact .inr ⟨hattached, stated_of_truthy hid⟩

/-- After calls whose answers are all heeded, the file holds the binding there was, none, or one
    the server issued in one of them. -/
theorem binding_of_run {calls : List Call} (h : ∀ call ∈ calls, Heeded call.2) (file : BindingFile)
    (hbinding : truthy (attachRun calls file).binding = true) :
    (attachRun calls file).binding = file.binding ∨
      ∃ call ∈ calls, Issues call.2 (attachRun calls file).binding := by
  induction calls generalizing file with
  | nil => exact .inl rfl
  | cons call rest ih =>
    have hstep : attachRun (call :: rest) file
        = attachRun rest (runRepoAttach call.1 call.2 file).2 := rfl
    rw [hstep] at hbinding ⊢
    rcases ih (fun c hc => h c (List.mem_cons_of_mem _ hc)) _ hbinding with hsame | hissued
    · rw [hsame] at hbinding ⊢
      rcases binding_of_heeded (h call List.mem_cons_self) call.1 file hbinding with hkept | hissues
      · exact .inl hkept
      · exact .inr ⟨call, List.mem_cons_self, hissues⟩
    · obtain ⟨call', hmem, hissues⟩ := hissued
      exact .inr ⟨call', List.mem_cons_of_mem _ hmem, hissues⟩

/-- The command keeps to the server's word exactly on the answers it turns away and those that
    are that word and state the class it puts in.  After a run of such answers, a claim sends no
    binding but one the server issued. -/
theorem onServersWord_iff (answer : Answer) (calls : List Call) (file : BindingFile) :
    (OnServersWord answer ↔ Heeded answer) ∧
      ((∀ call ∈ calls, Heeded call.2) → ClaimsIssued calls file) := by
  refine ⟨⟨heeded_of_onServersWord, onServersWord_of_heeded⟩, ?_⟩
  intro hheeded env gapId request hclaim hsent
  have hbinding := sentBinding_of_claim hclaim hsent
  rw [hbinding] at hsent ⊢
  exact binding_of_run hheeded file hsent

/-- The answer the command documents. -/
def documentedAnswer : Answer :=
  .ok ⟨.obj [("repo_binding_id", .str "repo_7"), ("repo_remote", .str "https://github.com/acme/app"),
    ("repo_class", .str "CUSTOMER_FORK"), ("status", .str "attached")], 200⟩

theorem documentedAnswer_heeded : Heeded documentedAnswer :=
  .inr ⟨⟨rfl, .inr (by decide), by decide, by decide⟩, ⟨nofun, fun _ => rfl⟩⟩

/-- On the documented answer the command keeps to it, and a later claim sends that binding. -/
theorem onServersWord_documented : OnServersWord documentedAnswer ∧
    ClaimsIssued [(sampleEnv, documentedAnswer)] .absent := by
  have h := onServersWord_iff documentedAnswer [(sampleEnv, documentedAnswer)] .absent
  refine ⟨h.1.mpr documentedAnswer_heeded, h.2 fun call hcall => ?_⟩
  rw [List.mem_singleton.mp hcall]
  exact documentedAnswer_heeded

/-- A queued run: it is reported as attached. -/
theorem queuedAttach_reported : ¬ OnServersWord (.ok ⟨.obj [("ok", .bool true),
    ("data", .obj [("run_id", .str "run-1"), ("status", .str "accepted")])], 202⟩) := by
  intro h
  have hword := h.success sampleEnv .absent _ rfl rfl
  exact nomatch (hword.binding : truthy .null = true)

end KeyholeRepoAttach
