import Keyhole.ContextCompile

/-!
# The run command

`keyhole run` refuses to start a run without a context.  The context is a digest given on
the command line, or the word `auto`, for which the command compiles one first and binds
the digest of the answer.

* `runRun`: the command, with the requests it sends and what it returns or raises;
* `NoFloatingRun`: the command returns, and every run it starts is bound to a context;
* `noFloatingRun_iff`: exactly when that holds. -/

namespace KeyholeRunCommand

open KeyholeJson KeyholeDispatch KeyholeContext
open KeyholeLogin (CommandResult)

/-! ## The command -/

/-- `PreflightFailure`. -/
structure PreflightFailure where
  reason : String
  repairGuidance : List String := []
  isLocal : Bool := true

/-- What the command finds at the path of `--input`. -/
inductive InputFile where
  /-- no path is given -/
  | absent
  | missing
  /-- no JSON, or a file that cannot be read; the text of the exception -/
  | invalid (text : String)
  /-- no UTF-8: `UnicodeDecodeError` is neither of the two exceptions that are caught -/
  | undecodable
  | readable (data : Json)

/-- The options of the command, and what it reads of the repository and the clock. -/
structure RunEnv where
  shadow : Bool
  suppliedRunType : String
  /-- the run type the preflight resolves the supplied one to -/
  runType : String
  repoName : String
  preflight : Option PreflightFailure
  inputFile : String
  input : InputFile
  compileId : String
  correlationId : String
  /-- where the proof was written, if it was -/
  proofDir : Option String

/-- What the server answers to the two requests of a call. -/
structure ServerAnswers where
  compile : Answer
  start : Answer

/-- What the command returns.  It takes every answer of the compile that is no string for a
    failed result, and returns it. -/
inductive Returned where
  | command (r : CommandResult)
  | value (v : Json)

/-- What a call sends, and what it comes to. -/
structure Trace where
  compiled : Option Dict := none
  started : Option RunRequest := none
  result : Except Raised Returned

/-- `command_label`. -/
def RunEnv.label (env : RunEnv) : String :=
  if env.shadow then "keyhole run --shadow" else "keyhole run"

/-- A refusal of the command itself. -/
def RunEnv.refusal (env : RunEnv) (exitCode : Nat) (summary : String) (data : Dict)
    (nextSteps : List String) : Returned :=
  .command { command := env.label, success := false, exitCode, summary, data, nextSteps }

/-- `_safe_persist_run_record`: the record and the proof are written if the file system
    allows it, but their names have to be computed. -/
def safePersistRunRecord (outcome : RunOutcome) : Except Raised Unit :=
  if outcome.status = .accepted ∨ outcome.status = .deferred then
    joinable (orElse outcome.runId (.str outcome.correlationId))
  else .ok ()

/-- The entries every result of a run has. -/
def outcomeData (outcome : RunOutcome) : Dict :=
  [("status", .str outcome.status.value), ("run_type", .str outcome.runType),
    ("repo", .str outcome.repoName), ("shadow", .bool outcome.shadow),
    ("correlation_id", .str outcome.correlationId)]

/-- `proof_location`. -/
def RunEnv.proof (env : RunEnv) : Dict :=
  [("proof", .str (env.proofDir.getD "(proof not written)"))]

/-- The run id, and the supplied run type where it was resolved to another. -/
def outcomeNames (env : RunEnv) (outcome : RunOutcome) : Dict :=
  (if truthy outcome.runId then [("run_id", outcome.runId)] else [])
  ++ (if env.suppliedRunType ≠ "" ∧ env.suppliedRunType ≠ outcome.runType then
      [("supplied_run_type", .str env.suppliedRunType)] else [])

/-- The context a run was bound to. -/
def contextData (contextRef : String) (autoCompiled : Bool) : Dict :=
  (if contextRef = "" then [] else [("ctxpack_digest", .str contextRef)])
  ++ (if autoCompiled then [("context_auto_compiled", .bool true)] else [])

/-- `outcome.repair_guidance or map_repair_guidance(outcome.error_class)`: the class is
    looked up in a dictionary. -/
def failedNextSteps (outcome : RunOutcome) : Except Raised (List String) :=
  if outcome.repairGuidance.isEmpty then
    match outcome.errorClass with
    | .arr _ => .error "TypeError"
    | .obj _ => .error "TypeError"
    | v => .ok (mapRepairGuidance (pyStr v))
  else .ok outcome.repairGuidance

/-- The result of a run that was refused or got lost. -/
def failedResult (env : RunEnv) (outcome : RunOutcome) (summary : String)
    (nextSteps : List String) : CommandResult where
  command := env.label
  success := false
  exitCode := if outcome.status = .transportError then 3 else 1
  summary := summary
  data := outcomeData outcome
    ++ [("error_class", outcome.errorClass), ("reason", outcome.reason)] ++ env.proof
    ++ [("retry_safe", .bool (decide (outcome.status = .transportError)))]
    ++ outcomeNames env outcome
  nextSteps := nextSteps

/-- `_outcome_to_result`. -/
def outcomeToResult (env : RunEnv) (outcome : RunOutcome) (contextRef : String)
    (autoCompiled : Bool) : Except Raised CommandResult :=
  let handle := pyStr (orElse outcome.runId (.str outcome.correlationId))
  let bound := outcomeData outcome ++ env.proof ++ contextData contextRef autoCompiled
    ++ outcomeNames env outcome
  match outcome.status with
  | .success => .ok {
      command := env.label
      success := true
      exitCode := 0
      summary := "Run completed: " ++ outcome.runType
      data := bound ++ (if outcome.responseData.isEmpty then []
        else [("result", .obj outcome.responseData)])
      nextSteps := if outcome.shadow then
        ["This was a shadow run — no canonical consequences."] else [] }
  | .accepted => .ok {
      command := env.label
      success := true
      exitCode := 0
      summary := "Run accepted (async): " ++ outcome.runType
      data := bound
      nextSteps := ["The run is in progress. Final result is not yet available.",
        "Check status: keyhole runs status " ++ handle,
        "Wait for result: keyhole runs wait " ++ handle,
        "Follow: keyhole runs tail " ++ handle] }
  | .deferred => .ok {
      command := env.label
      success := true
      exitCode := 0
      summary := "Run deferred: " ++ outcome.runType
      data := bound
      nextSteps := ["The run has been deferred by the boundary.",
        "This is not a rejection — it may be processed later.",
        "Check status: keyhole runs status " ++ handle,
        "Wait for result: keyhole runs wait " ++ handle] }
  | _ => do
      let summary ← reasonSummary "Run failed" outcome.reason
      let nextSteps ← failedNextSteps outcome
      return failedResult env outcome summary nextSteps

/-- `build_run_request`, with the resolved run type. -/
def RunEnv.request (env : RunEnv) (contextRef : String) (inputData : Json) : RunRequest where
  runType := env.runType
  repoName := env.repoName
  shadow := env.shadow
  contextRef := .str contextRef
  inputData := inputData
  correlationId := env.correlationId

/-- Dispatch the run, persist its record and render the outcome. -/
def dispatched (env : RunEnv) (answer : Answer) (contextRef : String) (autoCompiled : Bool)
    (inputData : Json) : Trace where
  started := some (env.request contextRef inputData)
  result := do
    let outcome ← dispatchRun answer (env.request contextRef inputData)
    safePersistRunRecord outcome
    return .command (← outcomeToResult env outcome contextRef autoCompiled)

/-- The words for a run that came to nothing, in both spellings. -/
def failureWords : List String := "canceled" :: "timeout" :: refusals

/-- The answer states, at the top level or in its nested data, that the run failed. -/
def StatesFailure (data : Dict) : Prop :=
  ∃ v ∈ [data.get "status", (data.child "data").get "status"],
    ∃ word, v = .str word ∧ strip (lower word) ∈ failureWords

/-- The answer says that the compile came to nothing. -/
def Disowned (data : Dict) : Prop := isFalse (data.get "ok") = true ∨ StatesFailure data

/-- The digest a run is bound to is the one given, or one the compile of this call stated. -/
def BoundTo (answers : ServerAnswers) (context digest : String) : Prop :=
  (isAuto context = false ∧ digest = context ∧ digestShape context.toList = true) ∨
  (isAuto context = true ∧ ∃ data statusCode, answers.compile = .ok ⟨.obj data, statusCode⟩ ∧
    Json.str digest ∈ digestPlaces data ∧ ¬ Disowned data)

/-- A class of errors that guidance can be looked up for. -/
def Hashable (v : Json) : Prop := (∀ items, v ≠ .arr items) ∧ ∀ fields, v ≠ .obj fields

/-- An answer to the run that the command can read. -/
structure Startable (data : Dict) (statusCode : Nat) (word : String) : Prop where
  text : statusField data = .str word
  underWay : statusCode = 202 ∨ lower word ∈ activeWords → Joinable (outcomeRunId data)
  refused : statusCode ≠ 202 → lower word ∈ refusedWords → Sliceable (serverReason data) ∧
    (extractServerGuidance data = [] →
      Hashable (data.getOr "error_class" (.str "server_rejection")))

/-- The answer to the run can be read, or there is none. -/
def StartReadable (answer : Answer) : Prop :=
  ∀ result, answer = .ok result → ∃ data word, result.data = .obj data ∧
    Startable data result.statusCode word

/-- The answer to the compile can be read, or there is none. -/
def CompileReadable (answer : Answer) : Prop :=
  ∀ result, answer = .ok result → ∃ data word, result.data = .obj data ∧ Compilable data word

/-- The input lets the command go on. -/
def InputFile.Usable (input : InputFile) : Prop := input = .absent ∨ ∃ data, input = .readable data

/-- The answer to the compile, which is not refused, states the digest. -/
def Stated (answer : Answer) (digest : String) : Prop :=
  ∃ (data : Dict) (statusCode : Nat) (word : String),
    answer = .ok ⟨.obj data, statusCode⟩ ∧ data.getOr "status" (.str "") = .str word ∧
    lower word ∉ refusedWords ∧ statedDigest data = .str digest ∧ digest ≠ ""

/-- The digest the command goes on with. -/
def Binds (answers : ServerAnswers) (context digest : String) : Prop :=
  (isAuto context = false ∧ validateDigest context = none ∧ digest = context) ∨
  (isAuto context = true ∧ Stated answers.compile digest)

/-- What the command needs once a digest is bound: a text without a newline at its end, or an
    answer that does not disown its digest. -/
structure Presentable (answers : ServerAnswers) (context : String) : Prop where
  whole : isAuto context = false → context.toList.getLast? ≠ some '\n'
  owned : isAuto context = true → ∀ data statusCode,
    answers.compile = .ok ⟨.obj data, statusCode⟩ → ¬ Disowned data

/-- The calls that start no floating run: nothing is sent, or the answers can be read and the
    digest is presentable. -/
structure Clear (env : RunEnv) (answers : ServerAnswers) (context : String) : Prop where
  compile : isAuto context = true → CompileReadable answers.compile
  decodable : ∀ digest, Binds answers context digest → env.input ≠ .undecodable
  start : ∀ digest, Binds answers context digest → env.input.Usable →
    StartReadable answers.start ∧ Presentable answers context

/-! ## What an outcome settles to -/

/-- The status of a run that was refused or got lost. -/
def CameToNothing (status : OutcomeStatus) : Prop :=
  status = .rejected ∨ status = .failed ∨ status = .transportError

/-- An outcome that is persisted and rendered without raising. -/
structure Settles (outcome : RunOutcome) : Prop where
  underWay : outcome.status = .accepted ∨ outcome.status = .deferred → Joinable outcome.runId
  failed : CameToNothing outcome.status → Sliceable outcome.reason ∧
    (outcome.repairGuidance = [] → Hashable outcome.errorClass)

variable {context digest : String} {outcome : RunOutcome} {answers : ServerAnswers}

/-- What the command does with an outcome. -/
def settled (env : RunEnv) (contextRef : String) (autoCompiled : Bool) (outcome : RunOutcome) :
    Except Raised Returned := do
  safePersistRunRecord outcome
  return .command (← outcomeToResult env outcome contextRef autoCompiled)

section Outcomes

variable (env : RunEnv) (contextRef : String) (autoCompiled : Bool)

end Outcomes

/-! ## The answer to the run -/

/-- A trace that returns, and whose run is bound to a context. -/
structure Sound (answers : ServerAnswers) (context : String) (t : Trace) : Prop where
  returns : ∃ r, t.result = .ok r
  bound : ∀ request, t.started = some request →
    ∃ digest, Dict.get request.toPayload "ctxpack_digest" = .str digest ∧ digest ≠ "" ∧
      BoundTo answers context digest

end KeyholeRunCommand
