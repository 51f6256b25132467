import Keyhole.EffectProgram
import Keyhole.GapSelection
import Keyhole.Operations
import Keyhole.RepoDeclaration

/-!
# The world of the governed flow

The governed flow is a program over the client object, the state file it keeps in
the repository, and an MCP server.  This file fixes what such a program can see
and change:

* `Env` is everything outside the process: the server's answers, the outcome of
  each write, the clock, the working tree.  It is an oracle indexed by `tick`, so
  that two identical requests may be answered differently, and any effect may end
  in an exception or in the death of the process;
* `World` is the process and the disk, with the log of what was sent, received
  and persisted;
* the primitive effects the client's methods are made of. -/

namespace KeyholeFlow

open KeyholeJson KeyholeRedaction KeyholeEnvelope KeyholeOperations KeyholeRepo EffectProgram

/-! ## Requests and answers -/

/-- The actions answered through `_resolve_async_result`. -/
inductive Action where
  | gapDiscovery
  | gapClaim
  | registration
  | preclaimCompile
  | contextCompile
  | realization
  deriving DecidableEq, Repr

/-- The text an action is reported under. -/
def Action.text : Action → String
  | .gapDiscovery => "gap discovery"
  | .gapClaim => "gap claim"
  | .registration => "repo registration"
  | .preclaimCompile => "pre-claim context compile"
  | .contextCompile => "context compile"
  | .realization => "governed runtime realization"

/-- `_state_step`. -/
def stateStep : Action → String
  | .gapDiscovery => "gap_discovery"
  | .gapClaim => "gap_claim"
  | .registration => "context_create"
  | .preclaimCompile => "preclaim_context"
  | .contextCompile => "context_compile"
  | .realization => "governed_realize"

/-- The place in the client that sends a request. -/
inductive Site where
  /-- `discover` -/
  | capabilities
  /-- `_current_canonical_digest` -/
  | canonicalStatus
  /-- the POST of an action -/
  | submit (action : Action)
  /-- the GET of `_resolve_async_result` -/
  | runPoll (action : Action)
  /-- the GET of `_poll_saved_run`, with the step being recovered and whether it
      is for the last of the paths -/
  | savedRunPoll (step : String) (last : Bool)
  deriving DecidableEq, Repr

/-- One HTTP request. -/
structure Request where
  site : Site
  method : String
  url : String
  headers : List (String × String)
  body : Option Json

/-- One HTTP response; `json` is `none` when the body is not JSON. -/
structure Response where
  statusCode : Nat
  text : String
  json : Option Json

/-- What a request comes to. -/
inductive HttpAnswer where
  | response (resp : Response)
  | fault (f : Fault)

/-- What writing a file comes to. -/
inductive WriteOutcome where
  | done
  /-- stopped before the file was touched -/
  | lost (f : Fault)
  /-- stopped with the file half written -/
  | torn (f : Fault)
  /-- stopped after the file was complete -/
  | late (f : Fault)

/-! ## The world -/

/-- Everything outside the process. -/
structure Env where
  /-- the server's answer to a request -/
  answer : Nat → Request → HttpAnswer
  /-- the outcome of a write -/
  write : Nat → WriteOutcome
  /-- how many rounds of polling fit before the deadline -/
  rounds : Nat → Nat
  /-- `_iso_now()` -/
  now : Nat → String
  /-- `_safe_timestamp()`, never empty -/
  stamp : Nat → String
  stamp_ne_empty : ∀ t, stamp t ≠ ""
  /-- the idempotency key and the request id drawn for a request -/
  freshIds : Nat → String × String
  /-- the working tree -/
  repo : Nat → RepoContent
  /-- `repo.name` -/
  repoName : String
  /-- `str(repo)` -/
  repoDir : String
  /-- the variable `KEYHOLE_GOVERNED_GAP_ID` -/
  gapOverride : String
  /-- the receipt model's reading of a timestamp, printed back; `none` when it is
      no timestamp -/
  parseTime : String → Option String
  /-- the hexadecimal SHA-256 digest of a text -/
  sha256 : String → String

/-- A state the store has written: it names its run record. -/
structure RunRecord where
  state : SavedState
  named : strOr (state.get "run_record_id") ≠ ""

/-- `latest.json`. -/
inductive StateFile where
  | absent
  /-- not JSON -/
  | corrupt
  /-- JSON, but not an object -/
  | notObject
  | saved (record : RunRecord)

/-- A file of the demo flow's state directory. -/
inductive DemoFile where
  | absent
  | corrupt
  | notObject
  | doc (d : Dict)

/-- What the log records. -/
inductive Event where
  /-- a request, with the run record the client was working on -/
  | sent (record : String) (request : Request)
  | received (request : Request) (response : Response)
  /-- `latest.json` was written -/
  | persisted (record : RunRecord)

/-- The arguments a client is built with. -/
structure Config where
  mcpUrl : String
  token : String
  runtimeUrl : String
  storyId : String
  capabilityId : String
  repoClass : String
  gapId : String

/-- `GovernedRepoFlowClient`. -/
structure Client where
  mcpUrl : String
  token : String
  runtimeUrl : String
  storyId : String
  capabilityId : String
  repoClass : String
  operatorGapId : String
  resolvedGapId : String
  gapIdSource : String
  gapIdClaimableVerified : Bool
  capabilities : Dict
  operations : Operations
  repoDeclaration : Option RepoDeclaration
  currentState : SavedState

/-- The process and the disk. -/
structure World where
  tick : Nat
  /-- newest first -/
  log : List Event
  latest : StateFile
  demo : String → DemoFile
  client : Client

/-- A method of the client. -/
abbrev Flow := Prog Err World

/-- `url.rstrip("/")`. -/
def stripSlashes (url : String) : String :=
  String.ofList ((url.toList.reverse.dropWhile (fun c => c == '/')).reverse)

/-- `GovernedRepoFlowClient.__init__`. -/
def Client.init (config : Config) : Except Err Client :=
  if config.mcpUrl = "" then
    .error (.governed "KEYHOLE_MCP_URL is required for governed demo flow.")
  else if config.token = "" then
    .error (.governed "KEYHOLE_MCP_TOKEN is required for governed demo flow.")
  else .ok {
    mcpUrl := stripSlashes config.mcpUrl
    token := config.token
    runtimeUrl := stripSlashes config.runtimeUrl
    storyId := config.storyId
    capabilityId := config.capabilityId
    repoClass := config.repoClass
    operatorGapId := config.gapId
    resolvedGapId := ""
    gapIdSource := ""
    gapIdClaimableVerified := false
    capabilities := []
    operations := []
    repoDeclaration := none
    currentState := .empty }

/-- `self.purpose` of the generic flow. -/
def flowPurpose : String := "generic governed forked SDK repo flow"

/-! ## Primitive effects -/

/-- `raise GovernedDemoError(message)`. -/
def raise {α : Type} (message : String) : Flow α := throw (.governed message)

/-- Run a pure reader that may raise. -/
def ofExcept {α : Type} : Except Err α → Flow α
  | .ok a => pure a
  | .error e => throw e

/-- `try: ... except GovernedDemoError as exc`: the message, or the result. -/
def catchGoverned {α : Type} (m : Flow α) : Flow (Except String α) :=
  tryCatch (do let a ← m; return .ok a) (fun e =>
    match e with
    | .governed message => return .error message
    | .fault f => throw (.fault f))

/-- `if c: m`. -/
def onlyIf (c : Bool) (m : Flow Unit) : Flow Unit := if c then m else pure ⟨⟩

/-- Change the client object. -/
def modifyClient (f : Client → Client) : Flow Unit :=
  modify (fun w => { w with client := f w.client })

/-- The client object. -/
def getClient : Flow Client := do
  let w ← get
  return w.client

/-- The index of the next effect, used up by it. -/
def nextTick : Flow Nat := do
  let w ← get
  modify (fun w => { w with tick := w.tick + 1 })
  return w.tick

/-- One look at the working tree. -/
def readRepo (env : Env) : Flow RepoContent := do
  let t ← nextTick
  return env.repo t

/-- The run record the client works on. -/
def World.record (w : World) : String := strOr (w.client.currentState.get "run_record_id")

/-- Send a request and wait for the answer. -/
def http (env : Env) (request : Request) : Flow Response := do
  let t ← nextTick
  modify (fun w => { w with log := .sent w.record request :: w.log })
  match env.answer t request with
  | .fault f => throw (.fault f)
  | .response resp => do
      modify (fun w => { w with log := .received request resp :: w.log })
      return resp

/-! ## Reading an answer -/

/-- `_json_object`. -/
def jsonObject (resp : Response) : Except Err Dict :=
  match resp.json with
  | none => .error (.fault (.raised "JSONDecodeError"))
  | some (.obj data) => .ok data
  | some _ => .error (.governed "upstream response was not a JSON object.")

/-- The detail `_raise_for_response` reports. -/
def responseDetail (resp : Response) : String :=
  match resp.json with
  | some (.obj body) => errorDetail body
  | some _ => takeChars 500 resp.text
  | none => takeChars 200 resp.text

/-- `_raise_for_response`. -/
def raiseForResponse (resp : Response) (action : String) : Except Err Unit :=
  if 400 ≤ resp.statusCode then
    .error (.governed (action ++ " failed with HTTP " ++ toString resp.statusCode ++ ": "
      ++ responseDetail resp))
  else .ok ()

/-- `_raise_for_mcp_error`. -/
def raiseForMcpError (data : Dict) (action : String) : Except Err Unit :=
  match mcpError data action with
  | some message => .error (.governed message)
  | none => .ok ()

/-- The three checks every answer to an action goes through. -/
def checkAnswer (resp : Response) (action : String) : Except Err Dict := do
  raiseForResponse resp action
  let data ← jsonObject resp
  raiseForMcpError data action
  return data

/-- Send a request and check its answer. -/
def exchange (env : Env) (request : Request) (action : String) : Flow Dict := do
  let resp ← http env request
  ofExcept (checkAnswer resp action)

/-- `_headers()`. -/
def plainHeaders (c : Client) : List (String × String) :=
  [("Authorization", "Bearer " ++ c.token), ("Content-Type", "application/json")]

/-- `_headers(idempotent=True)`: a new key and a new id for each request. -/
def idempotentHeaders (env : Env) (t : Nat) (c : Client) : List (String × String) :=
  plainHeaders c ++
    [("X-Idempotency-Key", (env.freshIds t).1), ("X-Request-Id", (env.freshIds t).2)]

/-! ## Persisted state -/

/-- The state `_persist_state` starts from: a new run record when there is none. -/
def openState (env : Env) (t : Nat) (state : SavedState) : SavedState :=
  if state.doc.isEmpty then
    .ofDict [("run_record_id", .str (env.stamp t)), ("created_at", .str (env.now t)),
      ("updated_at", .str (env.now t)), ("terminal", .bool false)]
  else state

/-- The document `_persist_state` hands to the store, sanitized. -/
def mergedPayload (env : Env) (t : Nat) (state : SavedState) (updates : Dict) : Dict :=
  let merged := state.doc.update updates
  sanitizeState ((merged.set "updated_at" (.str (env.now t))).setDefault "created_at"
    (.str (env.now t)))

theorem pyStr_orElse_str (v : Json) (k : String) :
    pyStr (orElse v (.str k)) = if strOr v = "" then k else strOr v := by
  unfold orElse strOr
  by_cases h : truthy v = true
  · rw [if_pos h, if_pos h, if_neg (pyStr_ne_empty h)]
  · rw [if_neg h, if_neg h, if_pos rfl]
    rfl

/-- `GovernedRunStateStore.write` names the run record: the payload's, or else a
    new one. -/
def nameRecord (payload : Dict) (stamp : String) (hstamp : stamp ≠ "") : RunRecord where
  state := .ofDict (payload.set "run_record_id"
    (.str (pyStr (orElse (payload.get "run_record_id") (.str stamp)))))
  named := by
    rw [SavedState.get_ofDict _ _ (by decide), get_set, if_pos rfl, redact_str, strOr_str,
      pyStr_orElse_str]
    by_cases h : strOr (payload.get "run_record_id") = ""
    · rw [if_pos h]; exact hstamp
    · rw [if_neg h]; exact h

/-- The state `_persist_state` writes. -/
def mergeState (env : Env) (t : Nat) (state : SavedState) (updates : Dict) : RunRecord :=
  nameRecord (mergedPayload env t state updates) (env.stamp t) (env.stamp_ne_empty t)

/-- `_persist_state`.  `latest.json` is written first, then the file of the run
    record, which nothing reads; the object's state is updated last. -/
def persistState (env : Env) (updates : Dict) : Flow Unit := do
  let t ← nextTick
  modifyClient (fun c => { c with currentState := openState env t c.currentState })
  let c ← getClient
  let record := mergeState env t c.currentState updates
  match env.write t with
  | .done =>
      modify (fun w => { w with
        latest := .saved record
        log := .persisted record :: w.log
        client := { w.client with currentState := record.state } })
  | .lost f => throw (.fault f)
  | .torn f => do
      modify (fun w => { w with latest := .corrupt })
      throw (.fault f)
  | .late f => do
      modify (fun w => { w with latest := .saved record, log := .persisted record :: w.log })
      throw (.fault f)

/-- `GovernedRunStateStore.load_latest`. -/
def loadLatest (env : Env) : Flow SavedState := do
  let w ← get
  let path := env.repoDir ++ "/.keyhole/governed-runs/latest.json"
  match w.latest with
  | .absent =>
      raise ("missing governed run state: " ++ path ++ ". Run 'keyhole governed run --repo-dir "
        ++ env.repoDir ++ "' first.")
  | .corrupt => throw (.fault (.raised "JSONDecodeError"))
  | .notObject => raise ("invalid governed run state: " ++ path)
  | .saved record => return record.state

/-! ## State files of the demo flow -/

/-- `REGISTRATION_STATE`. -/
def registrationState : String := "registration.json"

/-- `CONTEXT_STATE`. -/
def contextState : String := "context.json"

/-- `RECEIPT_STATE`. -/
def receiptStateFile : String := "receipt.json"

/-- The world after the demo file `name` became `file`. -/
def World.setDemo (w : World) (name : String) (file : DemoFile) : World :=
  { w with demo := fun n => if n = name then file else w.demo n }

/-- `_write_state`. -/
def writeDemoState (env : Env) (name : String) (data : Dict) : Flow Unit := do
  let t ← nextTick
  match env.write t with
  | .done => modify (fun w => w.setDemo name (.doc (redactFields data)))
  | .lost f => throw (.fault f)
  | .torn f => do
      modify (fun w => w.setDemo name .corrupt)
      throw (.fault f)
  | .late f => do
      modify (fun w => w.setDemo name (.doc (redactFields data)))
      throw (.fault f)

/-- `_read_state`. -/
def readDemoState (env : Env) (name : String) : Flow Dict := do
  let w ← get
  let path := env.repoDir ++ "/.keyhole/governed-demo/" ++ name
  match w.demo name with
  | .absent => raise ("missing governed demo state: " ++ path)
  | .corrupt => throw (.fault (.raised "JSONDecodeError"))
  | .notObject => raise ("invalid governed demo state: " ++ path)
  | .doc d => return d

/-! ## Running the primitives -/

section Exec

variable {α β : Type} (env : Env) (w : World)

/-- The world after one more effect. -/
def World.next (w : World) : World := { w with tick := w.tick + 1 }

@[simp] theorem exec_raise (message : String) :
    exec (raise message : Flow α) w = (.error (.governed message), w) := rfl

@[simp] theorem exec_ofExcept_ok (a : α) : exec (ofExcept (.ok a)) w = (.ok a, w) := rfl

@[simp] theorem exec_ofExcept_error (e : Err) :
    exec (ofExcept (.error e) : Flow α) w = (.error e, w) := rfl

@[simp] theorem exec_getClient : exec getClient w = (.ok w.client, w) := rfl

@[simp] theorem exec_modifyClient (f : Client → Client) :
    exec (modifyClient f) w = (.ok ⟨⟩, { w with client := f w.client }) := rfl

@[simp] theorem exec_nextTick : exec nextTick w = (.ok w.tick, w.next) := rfl

@[simp] theorem exec_readRepo : exec (readRepo env) w = (.ok (env.repo w.tick), w.next) := rfl

/-- The world after a request was sent. -/
def World.send (w : World) (r : Request) : World :=
  { w.next with log := .sent w.record r :: w.log }

/-- The world after an answer was received. -/
def World.hear (w : World) (r : Request) (resp : Response) : World :=
  { w with log := .received r resp :: w.log }

theorem exec_http (r : Request) :
    exec (http env r) w =
      match env.answer w.tick r with
      | .fault f => (.error (.fault f), w.send r)
      | .response resp => (.ok resp, (w.send r).hear r resp) := by
  unfold http
  rw [exec_bind_ok (exec_nextTick w), exec_bind_ok (exec_modify _ _)]
  cases env.answer w.tick r <;> rfl

/-- The world in which a run record is open. -/
def World.openRecord (env : Env) (w : World) : World :=
  { w.next with
    client := { w.client with currentState := openState env w.tick w.client.currentState } }

/-- The world after `latest.json` was written. -/
def World.store (w : World) (record : RunRecord) : World :=
  { w with latest := .saved record, log := .persisted record :: w.log }

/-- The state a persist writes in this world. -/
def World.merged (env : Env) (w : World) (updates : Dict) : RunRecord :=
  mergeState env w.tick (openState env w.tick w.client.currentState) updates

theorem exec_persistState (updates : Dict) :
    exec (persistState env updates) w =
      match env.write w.tick with
      | .done =>
        (.ok ⟨⟩, { (w.openRecord env).store (w.merged env updates) with
          client := { w.client with currentState := (w.merged env updates).state } })
      | .lost f => (.error (.fault f), w.openRecord env)
      | .torn f => (.error (.fault f), { w.openRecord env with latest := .corrupt })
      | .late f => (.error (.fault f), (w.openRecord env).store (w.merged env updates)) := by
  unfold persistState
  rw [exec_bind_ok (exec_nextTick w), exec_bind_ok (exec_modifyClient _ _),
    exec_bind_ok (exec_getClient _)]
  cases env.write w.tick <;> rfl

theorem exec_writeDemoState (name : String) (data : Dict) :
    exec (writeDemoState env name data) w =
      match env.write w.tick with
      | .done => (.ok ⟨⟩, w.next.setDemo name (.doc (redactFields data)))
      | .lost f => (.error (.fault f), w.next)
      | .torn f => (.error (.fault f), w.next.setDemo name .corrupt)
      | .late f => (.error (.fault f), w.next.setDemo name (.doc (redactFields data))) := by
  unfold writeDemoState
  rw [exec_bind_ok (exec_nextTick w)]
  cases env.write w.tick <;> rfl

theorem exec_readDemoState (name : String) :
    ∃ r, exec (readDemoState env name) w = (r, w) := by
  unfold readDemoState
  rw [exec_bind_ok (exec_get w)]
  cases w.demo name <;> exact ⟨_, rfl⟩

theorem exec_catchGoverned_ok {m : Flow α} {w w' : World} {a : α}
    (h : exec m w = (.ok a, w')) : exec (catchGoverned m) w = (.ok (.ok a), w') := by
  unfold catchGoverned
  rw [exec_tryCatch, exec_bind_ok h]
  rfl

theorem exec_catchGoverned_governed {m : Flow α} {w w' : World} {message : String}
    (h : exec m w = (.error (.governed message), w')) :
    exec (catchGoverned m) w = (.ok (.error message), w') := by
  unfold catchGoverned
  rw [exec_tryCatch, exec_bind_error h]
  rfl

theorem exec_catchGoverned_fault {m : Flow α} {w w' : World} {f : Fault}
    (h : exec m w = (.error (.fault f), w')) :
    exec (catchGoverned m) w = (.error (.fault f), w') := by
  unfold catchGoverned
  rw [exec_tryCatch, exec_bind_error h]
  rfl

end Exec

end KeyholeFlow
