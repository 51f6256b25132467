import Keyhole.JsonDocument

/-!
# Dispatching a governed run

`dispatch_run` sends a `run.start` request and classifies the answer into an outcome.  The
lifecycle observer reads the same documents with `classify_status`.  The dispatcher looks
at the top-level status first, knows fewer words, and takes every word it does not know for
a success.

* `dispatchRun`: the dispatcher, with the exception a call of it ends in;
* `Truthful`: what an outcome may say of the run the answer describes;
* `reportsTruthfully_iff`: which answers the dispatcher reports truthfully. -/

namespace KeyholeDispatch

open KeyholeJson

/-- The class of an exception that escapes. -/
abbrev Raised := String

/-! ## Requests and outcomes -/

/-- `OutcomeStatus`. -/
inductive OutcomeStatus where
  | success
  | accepted
  | deferred
  | rejected
  | failed
  | transportError
  deriving DecidableEq

/-- The value of an outcome status. -/
def OutcomeStatus.value : OutcomeStatus → String
  | .success => "success"
  | .accepted => "accepted"
  | .deferred => "deferred"
  | .rejected => "rejected"
  | .failed => "failed"
  | .transportError => "transport_error"

/-- `RunRequest`. -/
structure RunRequest where
  runType : String
  repoName : String
  shadow : Bool := false
  contextRef : Json := .null
  inputData : Json := .null
  correlationId : String := ""

/-- `RunRequest.to_payload`. -/
def RunRequest.toPayload (r : RunRequest) : Dict :=
  [("run_type", .str r.runType), ("repo", .str r.repoName), ("shadow", .bool r.shadow)]
  ++ (if truthy r.contextRef then
      [("ctxpack_digest", r.contextRef), ("context_ref", r.contextRef)] else [])
  ++ (if truthy r.inputData then [("input", r.inputData)] else [])
  ++ (if r.correlationId = "" then [] else [("correlation_id", .str r.correlationId)])

/-- `TransportResult`: the document may be any JSON value. -/
structure TransportResult where
  data : Json
  statusCode : Nat

/-- An exception of `GovernedTransport.execute`. -/
structure TransportFailure where
  errorClass : String
  text : String
  statusCode : Nat := 0
  detail : Json := .str ""

/-- What `GovernedTransport.execute` comes to. -/
abbrev Answer := Except TransportFailure TransportResult

/-- `RunOutcome`. -/
structure RunOutcome where
  status : OutcomeStatus
  runType : String
  repoName : String
  shadow : Bool
  correlationId : String
  runId : Json := .null
  httpStatus : Nat
  responseData : Dict := []
  errorClass : Json := .str ""
  reason : Json := .str ""
  repairGuidance : List String := []

/-! ## Repair guidance -/

/-- `_REPAIR_MAP`. -/
def repairMap : List (String × List String) :=
  [("AuthenticationError", ["Run: keyhole login", "Re-authenticate and try again."]),
    ("TransportUnknownError", ["Check network connectivity to the MCP boundary.",
      "Retry is safe — the operation has idempotency protection."]),
    ("RetryExhaustedError", ["The boundary is unavailable after all retry attempts.",
      "Wait and retry later. The operation preserved its idempotency key."]),
    ("RuntimeUnavailableError", ["The runtime returned an error. It may be temporarily unavailable.",
      "Try again later."]),
    ("IdempotencyConflictError", ["A different payload was sent with the same idempotency key.",
      "If this is a new operation, use a fresh idempotency key."]),
    ("MissingIdempotencyKeyError",
      ["This is an SDK-internal error. The write operation requires an idempotency key.",
        "Update the SDK to the latest version."]),
    ("RateLimitedError", ["You are being rate-limited by the boundary.",
      "Wait for the Retry-After period and try again."]),
    ("PublicEndpointError", ["The boundary rejected the request.",
      "Check the error detail for the specific reason.",
      "Run: keyhole validate — to check local declaration files."]),
    ("ScaffoldMissing", ["Run: keyhole init vertical", "Ensure you are in a governed repo directory."]),
    ("InvalidRunType", ["Choose a valid run-type from capabilities.",
      "Run: keyhole run --run-type <valid-type>", "Do not guess run-type names."]),
    ("PreflightFailure", ["Preflight checks failed before dispatch.",
      "Review the error reason and follow the repair guidance above."])]

/-- `map_repair_guidance` of a string. -/
def mapRepairGuidance (errorClass : String) : List String :=
  match repairMap.lookup errorClass with
  | some guidance => guidance
  | none => ["Unexpected error: " ++ errorClass,
      "Try: keyhole run --shadow — for a low-risk first pass.",
      "Try: keyhole validate — to check local declaration files."]

/-- `_extract_server_guidance`, and the `_extract_guidance` of the compile command. -/
def extractServerGuidance (data : Dict) : List String :=
  (asList (data.get "repair_guidance")).map pyStr
    ++ (if data.has "suggested_next_step" then [pyStr (data.get "suggested_next_step")] else [])
    ++ (if data.has "hint" then [pyStr (data.get "hint")] else [])

/-! ## The dispatcher -/

/-- `data.get("data") or {}`, if that is a dictionary. -/
def innerData (data : Dict) : Dict := data.child "data"

/-- The run id of an answer. -/
def outcomeRunId (data : Dict) : Json :=
  orElse (data.get "run_id") (orElse (data.get "id") ((innerData data).get "run_id"))

/-- The value the dispatcher takes the status from. -/
def statusField (data : Dict) : Json :=
  orElse (data.get "status") (orElse ((innerData data).get "status") (.str ""))

/-- `text.lower()`: only strings have it. -/
def lowered : Json → Except Raised String
  | .str s => .ok (lower s)
  | _ => .error "AttributeError"

/-- `data.get("reason", data.get("message", ""))`. -/
def serverReason (data : Dict) : Json := data.getOr "reason" (data.getOr "message" (.str ""))

/-- `_classify_outcome`, on a dictionary. -/
def classifyOutcome (data : Dict) (statusCode : Nat) (request : RunRequest) :
    Except Raised RunOutcome := do
  let serverStatus ← lowered (statusField data)
  let outcome : RunOutcome := {
    status := .success
    runType := request.runType
    repoName := request.repoName
    shadow := request.shadow
    correlationId := request.correlationId
    runId := outcomeRunId data
    httpStatus := statusCode
    responseData := data }
  if statusCode = 202 ∨ serverStatus ∈ ["accepted", "pending"] then
    return { outcome with status := .accepted }
  else if serverStatus = "deferred" then
    return { outcome with status := .deferred }
  else if serverStatus ∈ ["rejected", "error", "failed"] then
    return { outcome with
      status := .rejected
      errorClass := data.getOr "error_class" (.str "server_rejection")
      reason := serverReason data
      repairGuidance := extractServerGuidance data }
  else
    return outcome

/-- The exceptions after which the outcome is unknown. -/
def unknownFailures : List String :=
  ["TransportUnknownError", "RetryExhaustedError", "RuntimeUnavailableError"]

/-- `_handle_transport_exception`. -/
def handleTransportException (failure : TransportFailure) (request : RunRequest) : RunOutcome where
  status := if failure.errorClass ∈ unknownFailures then .transportError else .failed
  runType := request.runType
  repoName := request.repoName
  shadow := request.shadow
  correlationId := request.correlationId
  httpStatus := failure.statusCode
  errorClass := .str failure.errorClass
  reason := .str failure.text
  repairGuidance := mapRepairGuidance failure.errorClass

/-- `dispatch_run`.  The classification is outside the `try`: `data.get` of an answer that is
    no dictionary escapes. -/
def dispatchRun (answer : Answer) (request : RunRequest) : Except Raised RunOutcome :=
  match answer with
  | .error failure => .ok (handleTransportException failure request)
  | .ok result =>
      match result.data with
      | .obj data => classifyOutcome data result.statusCode request
      | _ => .error "AttributeError"

/-! ## The lifecycle observer -/

/-- `RunStatus`. -/
inductive RunStatus where
  | accepted
  | running
  | deferred
  | success
  | failed
  | rejected
  | denied
  | cancelled
  | unknown
  deriving DecidableEq

/-- `_STATUS_MAP`. -/
def statusMap : List (String × RunStatus) :=
  [("accepted", .accepted), ("pending", .accepted), ("running", .running),
    ("in_progress", .running), ("deferred", .deferred), ("success", .success),
    ("succeeded", .success), ("completed", .success), ("ok", .success), ("failed", .failed),
    ("error", .failed), ("rejected", .rejected), ("denied", .denied), ("cancelled", .cancelled),
    ("canceled", .cancelled)]

/-- `classify_status`. -/
def classifyStatus (raw : String) : RunStatus :=
  (statusMap.lookup (strip (lower raw))).getD .unknown

/-- `RunStatus.is_active`. -/
def RunStatus.isActive (s : RunStatus) : Prop := s ∈ [.accepted, .running, .deferred]

instance (s : RunStatus) : Decidable s.isActive := inferInstanceAs (Decidable (_ ∈ _))

/-- The places of the run's own status in an answer, and after them those of the answer's:
    the ones `_classify_status_result` looks at. -/
def statusPlaces (data : Dict) : List Json :=
  let inner := innerData data
  [inner.get "status", inner.get "state", inner.get "run_status",
    (inner.child "run").get "status", (inner.child "receipt").get "status",
    data.get "status", data.get "state", data.get "run_status"]

/-- The status an answer states for the run, `""` if it states none. -/
def statedStatus (data : Dict) : String := firstString (statusPlaces data)

/-! ## Truthful outcomes -/

/-- The words for a run that came to nothing. -/
def refusals : List String := ["rejected", "denied", "error", "failed", "cancelled", "timed_out"]

/-- The answer states no status and does not say that the call failed. -/
def Silent (data : Dict) : Prop := statedStatus data = "" ∧ isFalse (data.get "ok") = false

/-- The outcome says no more of the run than the answer does. -/
structure Truthful (data : Dict) (status : OutcomeStatus) : Prop where
  success : status = .success → classifyStatus (statedStatus data) = .success ∨ Silent data
  active : status = .accepted ∨ status = .deferred → (classifyStatus (statedStatus data)).isActive
  refused : strip (lower (statedStatus data)) ∈ refusals → status ≠ .success ∧ status ≠ .accepted

/-- The dispatcher returns, and its outcome is truthful. -/
def ReportsTruthfully (data : Dict) (statusCode : Nat) : Prop :=
  ∀ request, ∃ outcome, dispatchRun (.ok ⟨.obj data, statusCode⟩) request = .ok outcome ∧
    Truthful data outcome.status

/-- The status the dispatcher gives a word. -/
def routed (statusCode : Nat) (word : String) : OutcomeStatus :=
  if statusCode = 202 ∨ word ∈ ["accepted", "pending"] then .accepted
  else if word = "deferred" then .deferred
  else if word ∈ ["rejected", "error", "failed"] then .rejected
  else .success

/-- The outcome an answer has when it is routed to a status: a refusal carries what the
    server says about it. -/
def outcomeRouted (data : Dict) (statusCode : Nat) (request : RunRequest) :
    OutcomeStatus → RunOutcome
  | .rejected => {
      status := .rejected
      runType := request.runType
      repoName := request.repoName
      shadow := request.shadow
      correlationId := request.correlationId
      runId := outcomeRunId data
      httpStatus := statusCode
      responseData := data
      errorClass := data.getOr "error_class" (.str "server_rejection")
      reason := serverReason data
      repairGuidance := extractServerGuidance data }
  | status => {
      status
      runType := request.runType
      repoName := request.repoName
      shadow := request.shadow
      correlationId := request.correlationId
      runId := outcomeRunId data
      httpStatus := statusCode
      responseData := data }

@[simp] theorem outcomeRouted_status (data : Dict) (statusCode : Nat) (request : RunRequest)
    (status : OutcomeStatus) : (outcomeRouted data statusCode request status).status = status := by
  cases status with
  | rejected => rfl
  | _ => rfl

@[simp] theorem outcomeRouted_responseData (data : Dict) (statusCode : Nat)
    (request : RunRequest) (status : OutcomeStatus) :
    (outcomeRouted data statusCode request status).responseData = data := by
  cases status with
  | rejected => rfl
  | _ => rfl

/-- An answer whose status is a text is classified by its word. -/
theorem classifyOutcome_eq {data : Dict} {word : String} (statusCode : Nat)
    (request : RunRequest) (h : statusField data = .str word) :
    classifyOutcome data statusCode request
      = .ok (outcomeRouted data statusCode request (routed statusCode (lower word))) := by
  have hlow : lowered (statusField data) = .ok (lower word) := by
    rw [h]
    rfl
  rw [classifyOutcome, hlow, routed]
  show (if statusCode = 202 ∨ lower word ∈ ["accepted", "pending"] then _ else _) = _
  by_cases haccepted : statusCode = 202 ∨ lower word ∈ ["accepted", "pending"]
  · rw [if_pos haccepted, if_pos haccepted]
    rfl
  · rw [if_neg haccepted, if_neg haccepted]
    by_cases hdeferred : lower word = "deferred"
    · rw [if_pos hdeferred, if_pos hdeferred]
      rfl
    · rw [if_neg hdeferred, if_neg hdeferred]
      by_cases hrefused : lower word ∈ ["rejected", "error", "failed"]
      · rw [if_pos hrefused, if_pos hrefused]
        rfl
      · rw [if_neg hrefused, if_neg hrefused]
        rfl

theorem classifyOutcome_text {data : Dict} {word : String} (statusCode : Nat)
    (request : RunRequest) (h : statusField data = .str word) :
    ∃ outcome, classifyOutcome data statusCode request = .ok outcome ∧
      outcome.status = routed statusCode (lower word) ∧ outcome.responseData = data :=
  ⟨_, classifyOutcome_eq statusCode request h, outcomeRouted_status .., outcomeRouted_responseData ..⟩

/-- An answer with any other status makes the dispatcher raise. -/
theorem classifyOutcome_raises {data : Dict} (statusCode : Nat) (request : RunRequest)
    (h : ∀ word, statusField data ≠ .str word) :
    classifyOutcome data statusCode request = .error "AttributeError" := by
  have hlow : lowered (statusField data) = .error "AttributeError" := by
    cases hfield : statusField data with
    | str word => exact absurd hfield (h word)
    | _ => rfl
  unfold classifyOutcome
  rw [hlow]
  rfl

/-- A word for a run that came to nothing is neither a success nor active. -/
theorem not_success_of_refused {raw : String} (h : strip (lower raw) ∈ refusals) :
    classifyStatus raw ≠ .success ∧ ¬ (classifyStatus raw).isActive ∧ raw ≠ "" := by
  have hwords : ∀ word ∈ refusals, statusMap.lookup word ≠ some .success
      ∧ ¬ ((statusMap.lookup word).getD .unknown).isActive ∧ word ≠ "" := by decide
  obtain ⟨hsuccess, hactive, hne⟩ := hwords _ h
  refine ⟨fun hs => hsuccess ?_, hactive, ?_⟩
  · unfold classifyStatus at hs
    cases hl : statusMap.lookup (strip (lower raw)) with
    | none =>
      rw [hl] at hs
      exact nomatch hs
    | some status =>
      rw [hl] at hs
      exact congrArg some hs
  · rintro rfl
    exact hne rfl

/-- A truthful outcome, without the words for a run that came to nothing: they are neither
    successes nor active. -/
theorem truthful_iff {data : Dict} {status : OutcomeStatus} :
    Truthful data status ↔
      (status = .success → classifyStatus (statedStatus data) = .success ∨ Silent data) ∧
      (status = .accepted ∨ status = .deferred →
        (classifyStatus (statedStatus data)).isActive) := by
  refine ⟨fun h => ⟨h.success, h.active⟩, fun ⟨hsuccess, hactive⟩ => ⟨hsuccess, hactive, ?_⟩⟩
  intro hrefused
  obtain ⟨hnot, hinactive, hne⟩ := not_success_of_refused hrefused
  refine ⟨fun hs => ?_, fun ha => hinactive (hactive (.inl ha))⟩
  rcases hsuccess hs with h | h
  · exact hnot h
  · exact hne h.1

/-! ## Which answers are reported truthfully -/

/-- The words the dispatcher takes for a run under way, and for a refusal. -/
def activeWords : List String := ["accepted", "pending", "deferred"]

def refusedWords : List String := ["rejected", "error", "failed"]

/-- The first status of the answer is a text, and what the HTTP code or that text stands for
    is what the run's own status says. -/
structure Reportable (data : Dict) (statusCode : Nat) (word : String) : Prop where
  text : statusField data = .str word
  underWay : statusCode = 202 ∨ lower word ∈ activeWords →
    (classifyStatus (statedStatus data)).isActive
  done : statusCode ≠ 202 → lower word ∉ activeWords → lower word ∉ refusedWords →
    classifyStatus (statedStatus data) = .success ∨ Silent data

/-- Where a word is routed, with what decides it. -/
inductive Route (statusCode : Nat) (word : String) : OutcomeStatus → Prop
  | accepted (h : statusCode = 202 ∨ word ∈ ["accepted", "pending"]) :
      Route statusCode word .accepted
  | deferred (hcode : statusCode ≠ 202) (h : word = "deferred") : Route statusCode word .deferred
  | rejected (hcode : statusCode ≠ 202) (hactive : word ∉ activeWords)
      (h : word ∈ refusedWords) : Route statusCode word .rejected
  | success (hcode : statusCode ≠ 202) (hactive : word ∉ activeWords)
      (hrefused : word ∉ refusedWords) : Route statusCode word .success

theorem routed_route (statusCode : Nat) (word : String) :
    Route statusCode word (routed statusCode word) := by
  rw [routed]
  by_cases haccepted : statusCode = 202 ∨ word ∈ ["accepted", "pending"]
  · rw [if_pos haccepted]
    exact .accepted haccepted
  · rw [if_neg haccepted]
    obtain ⟨hcode, hword⟩ := not_or.mp haccepted
    by_cases hdeferred : word = "deferred"
    · rw [if_pos hdeferred]
      exact .deferred hcode hdeferred
    · rw [if_neg hdeferred]
      have hactive : word ∉ activeWords := by
        intro hmem
        rcases List.mem_append.mp (show word ∈ ["accepted", "pending"] ++ ["deferred"] from hmem)
          with h | h
        · exact hword h
        · exact hdeferred (List.mem_singleton.mp h)
      by_cases hrefused : word ∈ ["rejected", "error", "failed"]
      · rw [if_pos hrefused]
        exact .rejected hcode hactive hrefused
      · rw [if_neg hrefused]
        exact .success hcode hactive hrefused

/-- The words for a run that was accepted or deferred. -/
theorem active_of_accepted {word : String} (h : word ∈ ["accepted", "pending"]) :
    word ∈ activeWords :=
  List.mem_append_left ["deferred"] h

theorem routed_eq_success {statusCode : Nat} {word : String} :
    routed statusCode word = .success ↔
      statusCode ≠ 202 ∧ word ∉ activeWords ∧ word ∉ refusedWords := by
  have hroute := routed_route statusCode word
  generalize routed statusCode word = status at hroute
  cases hroute with
  | accepted h =>
    refine ⟨nofun, fun ⟨hcode, hactive, _⟩ => ?_⟩
    rcases h with h | h
    · exact absurd h hcode
    · exact absurd (active_of_accepted h) hactive
  | deferred hcode h =>
    refine ⟨nofun, fun ⟨_, hactive, _⟩ => absurd ?_ hactive⟩
    rw [h]
    decide
  | rejected hcode hactive h => exact ⟨nofun, fun hnone => absurd h hnone.2.2⟩
  | success hcode hactive hrefused => exact ⟨fun _ => ⟨hcode, hactive, hrefused⟩, fun _ => rfl⟩

theorem routed_underWay {statusCode : Nat} {word : String} :
    routed statusCode word = .accepted ∨ routed statusCode word = .deferred ↔
      statusCode = 202 ∨ word ∈ activeWords := by
  have hroute := routed_route statusCode word
  generalize routed statusCode word = status at hroute
  cases hroute with
  | accepted h => exact ⟨fun _ => h.imp_right active_of_accepted, fun _ => .inl rfl⟩
  | deferred hcode h =>
    refine ⟨fun _ => .inr ?_, fun _ => .inr rfl⟩
    rw [h]
    decide
  | rejected hcode hactive h | success hcode hactive h =>
    constructor
    · rintro (h | h)
      · exact nomatch h
      · exact nomatch h
    · rintro (h | h)
      · exact absurd h hcode
      · exact absurd h hactive

/-- The dispatcher reports an answer truthfully exactly when the status it looks at first is
    a text that agrees, with the HTTP code, with the status of the run. -/
theorem reportsTruthfully_iff (data : Dict) (statusCode : Nat) :
    ReportsTruthfully data statusCode ↔ ∃ word, Reportable data statusCode word := by
  constructor
  · intro h
    obtain ⟨outcome, hok, htruthful⟩ := h ⟨"", "", false, .null, .null, ""⟩
    have hclassify : classifyOutcome data statusCode _ = .ok outcome := hok
    by_cases htext : ∃ word, statusField data = .str word
    · obtain ⟨word, hword⟩ := htext
      obtain ⟨outcome', hok', hstatus, -⟩ := classifyOutcome_text statusCode _ hword
      rw [hclassify] at hok'
      cases hok'
      rw [truthful_iff, hstatus] at htruthful
      obtain ⟨hsuccess, hactive⟩ := htruthful
      refine ⟨word, hword, fun hway => hactive (routed_underWay.mpr hway), ?_⟩
      exact fun hcode hnot hnone => hsuccess (routed_eq_success.mpr ⟨hcode, hnot, hnone⟩)
    · have hraises := classifyOutcome_raises statusCode ⟨"", "", false, .null, .null, ""⟩
        (fun word hword => htext ⟨word, hword⟩)
      exact nomatch hclassify.symm.trans hraises
  · rintro ⟨word, hword⟩ request
    obtain ⟨outcome, hok, hstatus, -⟩ := classifyOutcome_text statusCode request hword.text
    refine ⟨outcome, hok, ?_⟩
    rw [truthful_iff, hstatus]
    refine ⟨fun hs => ?_, fun ha => hword.underWay (routed_underWay.mp ha)⟩
    obtain ⟨hcode, hnot, hnone⟩ := routed_eq_success.mp hs
    exact hword.done hcode hnot hnone

/-- A run that timed out is reported as a success. -/
theorem timedOut_reported : ¬ ReportsTruthfully [("status", .str "timed_out")] 200 := by
  intro h
  obtain ⟨outcome, hok, htruthful⟩ := h ⟨"echo", "app", false, .null, .null, ""⟩
  cases hok
  exact (htruthful.refused (by decide)).1 rfl

end KeyholeDispatch
