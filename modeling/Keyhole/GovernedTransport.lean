import Keyhole.BoundedRetry
import Keyhole.JsonDocument
import Mathlib.Data.List.Nodup

/-!
# The governed transport

`GovernedTransport.execute` sends one request after another until an answer is final or the
attempts of its retry policy are used up.  Every attempt has a request id of its own, and all of
them the idempotency key.

* `builtinOperations`: the registry;
* `execute`: the client, with the requests it sends and the proof it returns;
* `disciplined`: how many requests there are, what they carry, and what the proof says. -/

namespace KeyholeTransport

open KeyholeJson BoundedRetry

/-! ## Operations -/

/-- `OperationClass`. -/
inductive OperationClass where
  | readOnly
  | writeIdempotentRequired
  | naturallyConvergentExempt
  | internalOnlyNotExposed
  deriving DecidableEq

/-- The value of a class. -/
def OperationClass.value : OperationClass → String
  | .readOnly => "READ_ONLY"
  | .writeIdempotentRequired => "WRITE_IDEMPOTENT_REQUIRED"
  | .naturallyConvergentExempt => "NATURALLY_CONVERGENT_EXEMPT"
  | .internalOnlyNotExposed => "INTERNAL_ONLY_NOT_EXPOSED"

/-- `RetryPolicy`. -/
inductive RetryPolicy where
  | safeRead
  | safeWriteIdempotent
  | noRetry
  deriving DecidableEq

/-- `OperationDescriptor`. -/
structure OperationDescriptor where
  name : String
  operationClass : OperationClass
  retryPolicy : RetryPolicy
  idempotencyRequired : Bool
  proofRequired : Bool := false

/-- A descriptor of a read, and of a write that must be idempotent. -/
def readOperation (name : String) : OperationDescriptor :=
  ⟨name, .readOnly, .safeRead, false, false⟩

def writeOperation (name : String) : OperationDescriptor :=
  ⟨name, .writeIdempotentRequired, .safeWriteIdempotent, true, true⟩

/-- `_BUILTIN_OPERATIONS`. -/
def builtinOperations : List OperationDescriptor :=
  ["capabilities", "whoami", "registration_status", "health", "identity", "state",
    "context.compile", "context.inspect", "run.status", "events.query", "gaps.list",
    "lineage.get.v0_1", "convergence.status.v0_1"].map readOperation
  ++ ["register", "run.start", "realize", "ingest.submit", "repo.register"].map writeOperation
  ++ [readOperation "capability.search", writeOperation "capability.resolve"]
  ++ ["alignment.guidance", "run.budget", "run.explain", "request.inspect"].map readOperation
  ++ [writeOperation "auth.remove"]
  ++ ["sdk.runtime.surface.get.v1", "sdk.runtime.compatibility.check.v1"].map readOperation
  ++ [⟨"verify", .naturallyConvergentExempt, .safeRead, false, false⟩,
    ⟨"login", .naturallyConvergentExempt, .noRetry, false, false⟩]

/-- `get_operation` on the built-in registry: a name registered again has its last descriptor. -/
def builtinRegistry (name : String) : Option OperationDescriptor :=
  builtinOperations.reverse.find? (·.name == name)

/-! ## Headers -/

/-- A dictionary of headers, in insertion order. -/
abbrev Headers := List (String × String)

/-- `headers[name] = value`. -/
def setHeader (name value : String) : Headers → Headers
  | [] => [(name, value)]
  | (k, v) :: rest =>
      if name = k then (k, value) :: rest else (k, v) :: setHeader name value rest

/-- `headers.update(updates)`. -/
def updateHeaders (headers updates : Headers) : Headers :=
  updates.foldl (fun headers entry => setHeader entry.1 entry.2 headers) headers

/-- The value of a header, whatever the case of its name: the last one counts. -/
def header (name : String) : Headers → Option String
  | [] => none
  | (k, v) :: rest =>
      match header name rest with
      | some value => some value
      | none => if lower k = lower name then some v else none

/-! ## Calls -/

/-- `RetryConfig`, without what only the delays depend on. -/
structure RetryConfig where
  enabled : Bool := true
  maxRetries : Int := 3

/-- A transport: its configuration, the identifiers it generates, and what waiting after an
    attempt raises, if anything. -/
structure Transport where
  baseUrl : String
  sdkVersion : String := ""
  retryConfig : RetryConfig
  registry : String → Option OperationDescriptor
  /-- `auth_provider.get_headers()` at an attempt, empty without a provider -/
  authHeaders : Nat → Headers
  freshIdempotencyKey : String
  freshRequestId : Nat → String
  clock : Nat → String
  backoff : Nat → Option String

/-- The arguments of `execute`. -/
structure Call where
  method : String
  path : String
  operationName : String
  idempotencyKey : Option String := none
  headers : Headers := []
  body : Json := .null
  /-- the other keyword arguments -/
  options : Dict := []

/-- A request that was sent. -/
structure HttpRequest where
  method : String
  url : String
  headers : Headers
  body : Json
  options : Dict := []

/-- An HTTP response: its body as a text, and as JSON if it is any; a body nested too deep for the
    decoder makes it raise a `RecursionError`. -/
structure HttpResponse where
  statusCode : Nat
  reason : String := ""
  text : String := ""
  json : Option Json
  tooDeep : Bool := false
  headers : Headers := []

/-- What an attempt comes to. -/
inductive AttemptOutcome where
  | failed (text : String)
  | answered (response : HttpResponse)

/-! ## The proof -/

/-- `ClientObservation`. -/
inductive ClientObservation where
  | executed
  | replayed
  | deferred
  | conflict
  | transportUnknown
  | notSent
  deriving DecidableEq

/-- `AttemptMetadata`. -/
structure AttemptMetadata where
  attempt : Nat
  requestId : String
  timestamp : String
  reason : String
  delayMs : Nat

/-- `TransportProofMetadata`. -/
structure TransportProofMetadata where
  requestId : String := ""
  idempotencyKey : Option String
  operationClass : String
  commandName : String
  attemptCount : Nat := 0
  finalClientObservation : ClientObservation := .notSent
  serverRequestId : Option String := none
  originalRequestId : Option String := none
  attempts : List AttemptMetadata := []
  retryReasons : List String := []

/-- `record_attempt`. -/
def TransportProofMetadata.recordAttempt (p : TransportProofMetadata) (record : AttemptMetadata) :
    TransportProofMetadata :=
  { p with
    attempts := p.attempts ++ [record]
    attemptCount := (p.attempts ++ [record]).length
    requestId := record.requestId
    retryReasons := if record.reason = "" then p.retryReasons else p.retryReasons ++ [record.reason] }

/-- `TransportResult`. -/
structure TransportResult where
  data : Json
  statusCode : Nat
  proof : TransportProofMetadata
  responseHeaders : Headers

/-- An exception of `execute`. -/
structure ExecuteError where
  errorClass : String
  message : Json
  requestId : String := ""
  idempotencyKey : Option String := none
  statusCode : Nat := 0
  detail : Json := .str ""
  attemptCount : Nat := 0

/-- What a call comes to. -/
abbrev Ended := Except ExecuteError TransportResult

/-! ## Statuses -/

/-- The statuses that are safe to retry. -/
def retryableStatuses : List Nat := [408, 429, 502, 503, 504]

/-- `is_retryable_status`. -/
def isRetryableStatus (statusCode : Nat) : Bool := retryableStatuses.contains statusCode

/-- `is_conflict_status`. -/
def isConflictStatus (statusCode : Nat) : Bool := statusCode == 409

/-- `is_rate_limited`. -/
def isRateLimited (statusCode : Nat) : Bool := statusCode == 429

/-! ## The client -/

/-- The descriptor of a call. -/
def descriptor (t : Transport) (c : Call) : Option OperationDescriptor := t.registry c.operationName

/-- `descriptor and descriptor.idempotency_required`. -/
def idempotencyRequired (t : Transport) (c : Call) : Bool :=
  match descriptor t c with
  | some d => d.idempotencyRequired
  | none => false

/-- The policy of a call: an unregistered operation is not retried. -/
def retryPolicy (t : Transport) (c : Call) : RetryPolicy :=
  match descriptor t c with
  | some d => d.retryPolicy
  | none => .noRetry

/-- `not idempotency_key`. -/
def missingKey (key : Option String) : Bool := key.getD "" == ""

/-- The idempotency key of a call. -/
def effectiveKey (t : Transport) (c : Call) : Option String :=
  if idempotencyRequired t c && missingKey c.idempotencyKey then some t.freshIdempotencyKey
  else c.idempotencyKey

/-- The operation is a write that must be idempotent, and there is no key. -/
def refuses (t : Transport) (c : Call) : Bool :=
  match descriptor t c with
  | some d => decide (d.operationClass = .writeIdempotentRequired) && missingKey (effectiveKey t c)
  | none => false

/-- `MissingIdempotencyKeyError`. -/
def missingKeyError (c : Call) : ExecuteError where
  errorClass := "MissingIdempotencyKeyError"
  message := .str ("Operation '" ++ c.operationName ++ "' is classified as "
    ++ "WRITE_IDEMPOTENT_REQUIRED but no idempotency key was provided. This is a client bug.")
  requestId := "(not yet assigned)"

/-- `_max_attempts`. -/
def maxAttempts (config : RetryConfig) (policy : RetryPolicy) : Nat :=
  if config.enabled = false then 1
  else if policy = .noRetry then 1
  else (max 1 (config.maxRetries + 1)).toNat

/-- The headers of an attempt. -/
def attemptHeaders (t : Transport) (key : Option String) (attempt : Nat) (headers : Headers) :
    Headers :=
  let headers := setHeader "X-Request-Id" (t.freshRequestId attempt) headers
  let headers := if missingKey key then headers
    else setHeader "X-Idempotency-Key" (key.getD "") headers
  let headers := if t.sdkVersion = "" then headers
    else setHeader "X-Keyhole-SDK-Version" t.sdkVersion headers
  updateHeaders headers (t.authHeaders attempt)

/-- The record of an attempt. -/
def attemptRecord (t : Transport) (attempt : Nat) : AttemptMetadata where
  attempt := attempt
  requestId := t.freshRequestId attempt
  timestamp := t.clock attempt
  reason := if attempt = 1 then "" else "retry #" ++ toString (attempt - 1)
  delayMs := 0

/-- The result of an answer that is a success. -/
def successResult (proof : TransportProofMetadata) (r : HttpResponse) (data : Json) :
    TransportResult :=
  let original := (header "X-Original-Request-Id" r.headers).getD ""
  let server := (header "X-Request-Id" r.headers).getD ""
  { data
    statusCode := r.statusCode
    proof := { proof with
      serverRequestId := if server = "" then proof.serverRequestId else some server
      originalRequestId := if original = "" then proof.originalRequestId else some original
      finalClientObservation := if original = "" then .executed else .replayed }
    responseHeaders := r.headers }

/-- The exception that decoding a body does not catch. -/
def recursionError : ExecuteError where
  errorClass := "RecursionError"
  message := .str ""

/-- What is made of a status from 400 on that is neither a conflict nor retried. -/
def errorAnswer (r : HttpResponse) : ExecuteError :=
  if 500 ≤ r.statusCode then
    { errorClass := "RuntimeUnavailableError"
      message := .str ("Runtime returned " ++ toString r.statusCode ++ ": " ++ takeChars 200 r.text) }
  else if r.tooDeep then recursionError
  else
    match r.json.getD (.obj []) with
    | .obj body => {
        errorClass := "PublicEndpointError"
        message := Dict.getOr body "error"
          (.str (if r.reason = "" then "request failed" else r.reason))
        statusCode := r.statusCode
        detail := Dict.getOr body "detail" (.str "") }
    | _ => { errorClass := "AttributeError", message := .str "" }

/-- What is made of an answer that ends the call. -/
def finalAnswer (proof : TransportProofMetadata) (r : HttpResponse) : Ended :=
  if 400 ≤ r.statusCode then .error (errorAnswer r)
  else if r.tooDeep then .error recursionError
  else
    match r.json with
    | none => .error { errorClass := "SchemaError", message := .str "Response is not valid JSON" }
    | some data => .ok (successResult proof r data)

/-- `sleep_for_backoff` and `continue`. -/
def goOn (t : Transport) (attempt : Nat) : Verdict Ended :=
  match t.backoff attempt with
  | none => .again
  | some raised => .stop (.error { errorClass := raised, message := .str "" })

/-- What is made of an attempt that failed. -/
def failedVerdict (t : Transport) (policy : RetryPolicy) (bound attempt : Nat)
    (key : Option String) (text : String) : Verdict Ended :=
  if attempt < bound ∧ policy ≠ .noRetry then goOn t attempt
  else .stop (.error {
    errorClass := "TransportUnknownError"
    message := .str ("Transport failure after " ++ toString attempt ++ " attempt(s): " ++ text)
    requestId := t.freshRequestId attempt
    idempotencyKey := key })

/-- What is made of an attempt that was answered. -/
def answeredVerdict (t : Transport) (policy : RetryPolicy) (bound attempt : Nat)
    (key : Option String) (proof : TransportProofMetadata) (r : HttpResponse) : Verdict Ended :=
  if isConflictStatus r.statusCode then
    .stop (.error {
      errorClass := "IdempotencyConflictError"
      message := .str ("Idempotency conflict (HTTP 409): " ++ takeChars 200 r.text)
      requestId := t.freshRequestId attempt
      idempotencyKey := key
      detail := .str (takeChars 500 r.text) })
  else if isRateLimited r.statusCode then
    if attempt < bound ∧ policy ≠ .noRetry then goOn t attempt
    else .stop (.error {
      errorClass := "RateLimitedError"
      message := .str "Rate limited by server."
      requestId := t.freshRequestId attempt
      idempotencyKey := key })
  else if isRetryableStatus r.statusCode && decide (1 < bound) then
    if attempt < bound then goOn t attempt
    else .stop (.error {
      errorClass := "RetryExhaustedError"
      message := .str ("All " ++ toString attempt ++ " retry attempts exhausted. Last status: "
        ++ toString r.statusCode)
      requestId := t.freshRequestId attempt
      idempotencyKey := key
      attemptCount := attempt })
  else .stop (finalAnswer proof r)

/-- What is made of an outcome. -/
def verdict (t : Transport) (policy : RetryPolicy) (bound attempt : Nat) (key : Option String)
    (proof : TransportProofMetadata) : AttemptOutcome → Verdict Ended
  | .failed text => failedVerdict t policy bound attempt key text
  | .answered r => answeredVerdict t policy bound attempt key proof r

/-- What the loop carries from attempt to attempt: the caller's headers it has left, the requests
    sent and the proof. -/
structure LoopState where
  headers : Headers
  requests : List HttpRequest
  proof : TransportProofMetadata

/-- An attempt: `kwargs.pop` leaves no headers of the caller to the next one. -/
def attemptOnce (t : Transport) (c : Call) (outcomes : Nat → AttemptOutcome) (attempt : Nat)
    (s : LoopState) : LoopState × Verdict Ended :=
  let request : HttpRequest := {
    method := c.method
    url := t.baseUrl ++ c.path
    headers := attemptHeaders t (effectiveKey t c) attempt s.headers
    body := c.body
    options := c.options }
  let proof := s.proof.recordAttempt (attemptRecord t attempt)
  (⟨[], s.requests ++ [request], proof⟩,
    verdict t (retryPolicy t c) (maxAttempts t.retryConfig (retryPolicy t c)) attempt
      (effectiveKey t c) proof (outcomes attempt))

/-- The state before the first attempt. -/
def initialState (t : Transport) (c : Call) : LoopState where
  headers := c.headers
  requests := []
  proof := {
    idempotencyKey := effectiveKey t c
    operationClass := match descriptor t c with
      | some d => d.operationClass.value
      | none => "UNREGISTERED"
    commandName := c.operationName }

/-- The end of the loop; it is not reached. -/
def exhaustedError (t : Transport) (c : Call) : ExecuteError where
  errorClass := "RetryExhaustedError"
  message := .str "All retry attempts exhausted."
  idempotencyKey := effectiveKey t c
  attemptCount := maxAttempts t.retryConfig (retryPolicy t c)

/-- What a call comes to, and the requests it sent. -/
structure Execution where
  ended : Ended
  requests : List HttpRequest

/-- `execute`. -/
def execute (t : Transport) (c : Call) (outcomes : Nat → AttemptOutcome) : Execution :=
  if refuses t c then ⟨.error (missingKeyError c), []⟩
  else
    let (ended, s) := loop (attemptOnce t c outcomes) (.error (exhaustedError t c))
      (maxAttempts t.retryConfig (retryPolicy t c)) 1 (initialState t c)
    ⟨ended, s.requests⟩

/-! ## The discipline -/

/-- The names of the identity headers, in lower case. -/
def identityNames : List String := ["x-request-id", "x-idempotency-key"]

/-- The headers set none of the identity names. -/
def Neutral (headers : Headers) : Prop := ∀ entry ∈ headers, lower entry.1 ∉ identityNames

/-- The outcome is an answer that is final. -/
def AnsweredFinally : AttemptOutcome → Prop
  | .failed _ => False
  | .answered r => r.statusCode ∉ retryableStatuses

/-- The id of the request an answer is a replay of; an empty one is none. -/
def ReplaysRequest (headers : Headers) : Prop :=
  ∃ original, header "X-Original-Request-Id" headers = some original ∧ original ≠ ""

/-- The header is there. -/
def HasOriginal (headers : Headers) : Prop :=
  ∃ original, header "X-Original-Request-Id" headers = some original

/-- The retry discipline of a call that is not refused before its first request, for answers that
    are replays where `replays` holds of their headers. -/
structure Discipline (t : Transport) (c : Call) (outcomes : Nat → AttemptOutcome) (refused : Prop)
    (replays : Headers → Prop) : Prop where
  bounded : ((execute t c outcomes).requests.length : Int) ≤ max 1 (t.retryConfig.maxRetries + 1)
  single : t.retryConfig.enabled = false ∨ retryPolicy t c = .noRetry ∨ descriptor t c = none →
    ¬ refused → (execute t c outcomes).requests.length = 1
  sameKey : ∀ r₁ ∈ (execute t c outcomes).requests, ∀ r₂ ∈ (execute t c outcomes).requests,
    header "X-Idempotency-Key" r₁.headers = header "X-Idempotency-Key" r₂.headers
  keyed : idempotencyRequired t c = true → ∀ r ∈ (execute t c outcomes).requests,
    ∃ key, header "X-Idempotency-Key" r.headers = some key ∧ key ≠ ""
  stops : ∀ i, 1 ≤ i → i ≤ (execute t c outcomes).requests.length →
    AnsweredFinally (outcomes i) → (execute t c outcomes).requests.length = i
  recorded : ∀ result, (execute t c outcomes).ended = .ok result →
    result.proof.attempts.map (·.attempt) =
        List.range' 1 (execute t c outcomes).requests.length ∧
      result.proof.attempts.map (fun a => some a.requestId) =
        (execute t c outcomes).requests.map (fun r => header "X-Request-Id" r.headers) ∧
      some (some result.proof.requestId) =
        ((execute t c outcomes).requests.map (fun r => header "X-Request-Id" r.headers)).getLast?
  observed : ∀ result, (execute t c outcomes).ended = .ok result →
    ∃ r, outcomes (execute t c outcomes).requests.length = .answered r ∧
      (replays r.headers → result.proof.finalClientObservation = .replayed) ∧
      (¬ replays r.headers → result.proof.finalClientObservation = .executed)
  distinct : ((execute t c outcomes).requests.map
    (fun r => header "X-Request-Id" r.headers)).Nodup

/-! ## What the headers carry -/

theorem header_cons (name k v : String) (rest : Headers) :
    header name ((k, v) :: rest) =
      match header name rest with
      | some value => some value
      | none => if lower k = lower name then some v else none := rfl

theorem setHeader_cons (name value k v : String) (rest : Headers) :
    setHeader name value ((k, v) :: rest) =
      if name = k then (k, value) :: rest else (k, v) :: setHeader name value rest := rfl

variable {name : String} {headers : Headers} {r : HttpResponse}

theorem header_setHeader_ne {other : String} (value : String) (headers : Headers)
    (h : lower other ≠ lower name) : header name (setHeader other value headers) = header name headers := by
  induction headers with
  | nil =>
    show (if lower other = lower name then some value else none) = none
    rw [if_neg h]
  | cons hd rest ih =>
    obtain ⟨k, v⟩ := hd
    rw [setHeader_cons]
    by_cases hk : other = k
    · have hkey : lower k ≠ lower name := hk ▸ h
      rw [if_pos hk, header_cons, header_cons, if_neg hkey, if_neg hkey]
    · rw [if_neg hk, header_cons, header_cons, ih]

/-- A header that is set where there was none of its name. -/
theorem header_setHeader_self (value : String) (h : ∀ entry ∈ headers, lower entry.1 ≠ lower name) :
    header name (setHeader name value headers) = some value := by
  induction headers with
  | nil =>
    show (if lower name = lower name then some value else none) = some value
    rw [if_pos rfl]
  | cons hd rest ih =>
    obtain ⟨k, v⟩ := hd
    have hk : name ≠ k := by
      rintro rfl
      exact h (name, v) List.mem_cons_self rfl
    rw [setHeader_cons, if_neg hk, header_cons, ih fun entry hmem => h entry (List.mem_cons_of_mem _ hmem)]

/-- A header that is not there. -/
theorem header_eq_none
    (h : ∀ entry ∈ headers, lower entry.1 ≠ lower name) : header name headers = none := by
  induction headers with
  | nil => rfl
  | cons hd rest ih =>
    obtain ⟨k, v⟩ := hd
    rw [header_cons, ih fun entry hmem => h entry (List.mem_cons_of_mem _ hmem),
      if_neg (h (k, v) List.mem_cons_self)]

/-- The names after a header was set. -/
theorem mem_setHeader {value : String} {entry : String × String}
    (h : entry ∈ setHeader name value headers) :
    entry.1 = name ∨ ∃ e ∈ headers, e.1 = entry.1 := by
  induction headers with
  | nil =>
    rw [List.mem_singleton.mp h]
    exact .inl rfl
  | cons hd rest ih =>
    obtain ⟨k, v⟩ := hd
    rw [setHeader_cons] at h
    by_cases hk : name = k
    · rw [if_pos hk] at h
      rcases List.mem_cons.mp h with rfl | hmem
      · exact .inl hk.symm
      · exact .inr ⟨entry, List.mem_cons_of_mem _ hmem, rfl⟩
    · rw [if_neg hk] at h
      rcases List.mem_cons.mp h with rfl | hmem
      · exact .inr ⟨(k, v), List.mem_cons_self, rfl⟩
      · rcases ih hmem with hname | ⟨e, he, hsame⟩
        · exact .inl hname
        · exact .inr ⟨e, List.mem_cons_of_mem _ he, hsame⟩

/-- Headers of other names leave a header as it is. -/
theorem header_updateHeaders {updates : Headers}
    (h : ∀ entry ∈ updates, lower entry.1 ≠ lower name) (headers : Headers) :
    header name (updateHeaders headers updates) = header name headers := by
  induction updates generalizing headers with
  | nil => rfl
  | cons hd rest ih =>
    have hrest := ih (fun entry hmem => h entry (List.mem_cons_of_mem _ hmem))
      (setHeader hd.1 hd.2 headers)
    have hhead := header_setHeader_ne hd.2 headers (h hd List.mem_cons_self)
    exact hrest.trans hhead

section Headers

variable {headers : Headers}

theorem Neutral.ne (h : Neutral headers) (hname : lower name ∈ identityNames) :
    ∀ entry ∈ headers, lower entry.1 ≠ lower name := by
  intro entry hmem heq
  exact h entry hmem (heq ▸ hname)

theorem neutral_nil : Neutral [] := nofun

theorem lower_requestId : lower "X-Request-Id" = "x-request-id" := by decide

theorem lower_idempotencyKey : lower "X-Idempotency-Key" = "x-idempotency-key" := by decide

theorem lower_sdkVersion : lower "X-Keyhole-SDK-Version" = "x-keyhole-sdk-version" := by
  decide

variable {t : Transport} (hauth : ∀ i, Neutral (t.authHeaders i)) (hheaders : Neutral headers)
  (key : Option String) (attempt : Nat)

include hauth hheaders

/-- An attempt carries its own request id. -/
theorem header_requestId : header "X-Request-Id" (attemptHeaders t key attempt headers)
    = some (t.freshRequestId attempt) := by
  have hname : lower "X-Request-Id" ∈ identityNames := by
    rw [lower_requestId]
    exact List.mem_cons_self
  have hkey : lower "X-Idempotency-Key" ≠ lower "X-Request-Id" := by
    rw [lower_idempotencyKey, lower_requestId]
    decide
  have hversion : lower "X-Keyhole-SDK-Version" ≠ lower "X-Request-Id" := by
    rw [lower_sdkVersion, lower_requestId]
    decide
  have hset := header_setHeader_self (t.freshRequestId attempt) (hheaders.ne hname)
  unfold attemptHeaders
  rw [header_updateHeaders ((hauth attempt).ne hname)]
  by_cases hv : t.sdkVersion = ""
  · rw [if_pos hv]
    by_cases hk : missingKey key = true
    · rw [if_pos hk]
      exact hset
    · rw [if_neg hk, header_setHeader_ne _ _ hkey]
      exact hset
  · rw [if_neg hv, header_setHeader_ne _ _ hversion]
    by_cases hk : missingKey key = true
    · rw [if_pos hk]
      exact hset
    · rw [if_neg hk, header_setHeader_ne _ _ hkey]
      exact hset

/-- An attempt carries the idempotency key of its call, if there is one. -/
theorem header_idempotencyKey : header "X-Idempotency-Key" (attemptHeaders t key attempt headers)
    = if missingKey key then none else some (key.getD "") := by
  have hname : lower "X-Idempotency-Key" ∈ identityNames := by
    rw [lower_idempotencyKey]
    exact List.mem_cons_of_mem _ List.mem_cons_self
  have hid : lower "X-Request-Id" ≠ lower "X-Idempotency-Key" := by
    rw [lower_idempotencyKey, lower_requestId]
    decide
  have hversion : lower "X-Keyhole-SDK-Version" ≠ lower "X-Idempotency-Key" := by
    rw [lower_sdkVersion, lower_idempotencyKey]
    decide
  -- the request id does not add a key to the caller's headers
  have hfree : ∀ entry ∈ setHeader "X-Request-Id" (t.freshRequestId attempt) headers,
      lower entry.1 ≠ lower "X-Idempotency-Key" := by
    intro entry hmem
    rcases mem_setHeader hmem with heq | ⟨e, he, heq⟩
    · rw [heq]
      exact hid
    · rw [← heq]
      exact hheaders.ne hname e he
  have hkeyed : header "X-Idempotency-Key" (if missingKey key = true
      then setHeader "X-Request-Id" (t.freshRequestId attempt) headers
      else setHeader "X-Idempotency-Key" (key.getD "")
        (setHeader "X-Request-Id" (t.freshRequestId attempt) headers))
      = if missingKey key then none else some (key.getD "") := by
    by_cases hk : missingKey key = true
    · rw [if_pos hk, if_pos hk]
      exact header_eq_none hfree
    · rw [if_neg hk, if_neg hk]
      exact header_setHeader_self _ hfree
  unfold attemptHeaders
  rw [header_updateHeaders ((hauth attempt).ne hname)]
  by_cases hv : t.sdkVersion = ""
  · rw [if_pos hv]
    exact hkeyed
  · rw [if_neg hv, header_setHeader_ne _ _ hversion]
    exact hkeyed

end Headers

/-! ## The loop -/

section Loop

variable (t : Transport) (c : Call) (outcomes : Nat → AttemptOutcome)

/-- The request of an attempt: the caller's headers go with the first one only. -/
def requestAt (attempt : Nat) : HttpRequest where
  method := c.method
  url := t.baseUrl ++ c.path
  headers := attemptHeaders t (effectiveKey t c) attempt (if attempt = 1 then c.headers else [])
  body := c.body
  options := c.options

/-- The bound of a call. -/
def attemptBound : Nat := maxAttempts t.retryConfig (retryPolicy t c)

/-- The state after `n` attempts. -/
structure After (n : Nat) (s : LoopState) : Prop where
  headers : s.headers = if n = 0 then c.headers else []
  requests : s.requests = (List.range' 1 n).map (requestAt t c)
  attempts : s.proof.attempts = (List.range' 1 n).map (attemptRecord t)
  requestId : 0 < n → s.proof.requestId = t.freshRequestId n

/-- An attempt after which the loop goes on is not the last, and was not answered finally. -/
def GoesOn (attempt : Nat) : Prop :=
  attempt < attemptBound t c ∧ ¬ AnsweredFinally (outcomes attempt)

/-- A call returns what its last answer says, with the proof of its attempts. -/
def Returns (n : Nat) (s : LoopState) (ended : Ended) : Prop :=
  ∀ result, ended = .ok result →
    ∃ r data, outcomes n = .answered r ∧ result = successResult s.proof r data

variable {t c outcomes}

theorem range'_snoc (n : Nat) : List.range' 1 (n + 1) = List.range' 1 n ++ [n + 1] := by
  rw [List.range'_1_concat, Nat.add_comm 1 n]

theorem after_initial : After t c 0 (initialState t c) := ⟨rfl, rfl, rfl, nofun⟩

/-- An attempt adds its request and its record. -/
theorem after_attempt {k : Nat} {s : LoopState} (h : After t c k s) :
    After t c (k + 1) (attemptOnce t c outcomes (k + 1) s).1 := by
  have hheaders : s.headers = if k + 1 = 1 then c.headers else [] := by
    rw [h.headers]
    by_cases hk : k = 0
    · rw [if_pos hk, if_pos (by omega)]
    · rw [if_neg hk, if_neg (by omega)]
  constructor
  · rw [if_neg (by omega)]
    rfl
  · show s.requests ++ [_] = _
    rw [h.requests, range'_snoc, List.map_append, hheaders]
    rfl
  · show s.proof.attempts ++ [attemptRecord t (k + 1)] = _
    rw [h.attempts, range'_snoc, List.map_append]
    rfl
  · exact fun _ => rfl

/-- Waiting ends the loop only with an exception. -/
theorem goOn_stop {attempt : Nat} {ended : Ended} (h : goOn t attempt = .stop ended) :
    ∀ result, ended ≠ .ok result := by
  unfold goOn at h
  cases hwait : t.backoff attempt with
  | none =>
    rw [hwait] at h
    exact nomatch h
  | some raised =>
    rw [hwait] at h
    cases h
    exact nofun

/-- The retryable statuses include that of a rate limit. -/
theorem not_final_of_rateLimited (h : isRateLimited r.statusCode = true) :
    ¬ AnsweredFinally (.answered r) := by
  intro hfinal
  have hcode : r.statusCode = 429 := beq_iff_eq.mp h
  exact hfinal (hcode ▸ by decide)

theorem not_final_of_retryable (h : isRetryableStatus r.statusCode = true) :
    ¬ AnsweredFinally (.answered r) := fun hfinal => hfinal (List.contains_iff_mem.mp h)

section Verdicts

variable {policy : RetryPolicy} {bound attempt : Nat} {key : Option String}
  {proof : TransportProofMetadata} {outcome : AttemptOutcome}

/-- What the verdict on an outcome is: the loop goes on, before its last attempt and not after a
    final answer, or it ends with an error, or with what the answer says. -/
def Weighed (t : Transport) (bound attempt : Nat) (proof : TransportProofMetadata)
    (outcome : AttemptOutcome) (v : Verdict Ended) : Prop :=
  (v = goOn t attempt ∧ attempt < bound ∧ ¬ AnsweredFinally outcome) ∨
    (∃ e, v = .stop (.error e)) ∨
    ∃ r, outcome = .answered r ∧ v = .stop (finalAnswer proof r)

/-- A verdict that goes on where it may, and is an error otherwise. -/
theorem weighed_retry {may : Prop} [Decidable may] {e : ExecuteError}
    (hmay : may → attempt < bound) (hfinal : ¬ AnsweredFinally outcome) :
    Weighed t bound attempt proof outcome (if may then goOn t attempt else .stop (.error e)) := by
  by_cases h : may
  · rw [if_pos h]
    exact .inl ⟨rfl, hmay h, hfinal⟩
  · rw [if_neg h]
    exact .inr (.inl ⟨e, rfl⟩)

theorem weighed_verdict (t : Transport) (policy : RetryPolicy) (bound attempt : Nat)
    (key : Option String) (proof : TransportProofMetadata) (outcome : AttemptOutcome) :
    Weighed t bound attempt proof outcome (verdict t policy bound attempt key proof outcome) := by
  cases outcome with
  | failed text => exact weighed_retry (fun h => h.1) id
  | answered r =>
    show Weighed t bound attempt proof _ (answeredVerdict t policy bound attempt key proof r)
    unfold answeredVerdict
    by_cases hconflict : isConflictStatus r.statusCode = true
    · rw [if_pos hconflict]
      exact .inr (.inl ⟨_, rfl⟩)
    rw [if_neg hconflict]
    by_cases hlimited : isRateLimited r.statusCode = true
    · rw [if_pos hlimited]
      exact weighed_retry (fun h => h.1) (not_final_of_rateLimited hlimited)
    rw [if_neg hlimited]
    by_cases hretryable : (isRetryableStatus r.statusCode && decide (1 < bound)) = true
    · rw [if_pos hretryable]
      exact weighed_retry id (not_final_of_retryable (Bool.and_eq_true_iff.mp hretryable).1)
    · rw [if_neg hretryable]
      exact .inr (.inr ⟨r, rfl, rfl⟩)

/-- The loop goes on before the last attempt, and not after a final answer. -/
theorem verdict_again (h : verdict t policy bound attempt key proof outcome = .again) :
    attempt < bound ∧ ¬ AnsweredFinally outcome := by
  rcases weighed_verdict t policy bound attempt key proof outcome with ⟨-, hon⟩ | ⟨e, hv⟩ | ⟨r, -, hv⟩
  · exact hon
  · exact nomatch h.symm.trans hv
  · exact nomatch h.symm.trans hv

/-- What a final answer returns. -/
theorem finalAnswer_ok {proof : TransportProofMetadata}
    {result : TransportResult} (h : finalAnswer proof r = .ok result) :
    ∃ data, result = successResult proof r data := by
  unfold finalAnswer at h
  by_cases hcode : 400 ≤ r.statusCode
  · rw [if_pos hcode] at h
    exact nomatch h
  · rw [if_neg hcode] at h
    by_cases hdeep : r.tooDeep = true
    · rw [if_pos hdeep] at h
      exact nomatch h
    · rw [if_neg hdeep] at h
      cases hjson : r.json with
      | none =>
        rw [hjson] at h
        exact nomatch h
      | some data =>
        rw [hjson] at h
        cases h
        exact ⟨data, rfl⟩

/-- Only a final answer makes the call return. -/
theorem verdict_ok {result : TransportResult}
    (h : verdict t policy bound attempt key proof outcome = .stop (.ok result)) :
    ∃ r data, outcome = .answered r ∧ result = successResult proof r data := by
  rcases weighed_verdict t policy bound attempt key proof outcome with ⟨hv, -⟩ | ⟨e, hv⟩ | ⟨r, hr, hv⟩
  · exact absurd rfl (goOn_stop (hv.symm.trans h) result)
  · exact nomatch h.symm.trans hv
  · have hok : finalAnswer proof r = .ok result := Verdict.stop.inj (hv.symm.trans h)
    obtain ⟨data, hresult⟩ := finalAnswer_ok hok
    exact ⟨r, data, hr, hresult⟩

end Verdicts

theorem attemptBound_pos : 0 < attemptBound t c := by
  unfold attemptBound maxAttempts
  by_cases henabled : t.retryConfig.enabled = false
  · rw [if_pos henabled]
    exact Nat.one_pos
  · rw [if_neg henabled]
    by_cases hpolicy : retryPolicy t c = .noRetry
    · rw [if_pos hpolicy]
      exact Nat.one_pos
    · rw [if_neg hpolicy]
      omega

theorem attemptBound_le : (attemptBound t c : Int) ≤ max 1 (t.retryConfig.maxRetries + 1) := by
  unfold attemptBound maxAttempts
  by_cases henabled : t.retryConfig.enabled = false
  · rw [if_pos henabled]
    omega
  · rw [if_neg henabled]
    by_cases hpolicy : retryPolicy t c = .noRetry
    · rw [if_pos hpolicy]
      omega
    · rw [if_neg hpolicy]
      omega

/-- A call that may not be retried has one attempt. -/
theorem attemptBound_eq_one (h : t.retryConfig.enabled = false ∨ retryPolicy t c = .noRetry ∨
    descriptor t c = none) : attemptBound t c = 1 := by
  have hunregistered : descriptor t c = none → retryPolicy t c = .noRetry := by
    intro hnone
    unfold retryPolicy
    rw [hnone]
  unfold attemptBound maxAttempts
  by_cases henabled : t.retryConfig.enabled = false
  · rw [if_pos henabled]
  · rw [if_neg henabled, if_pos ((h.resolve_left henabled).elim id hunregistered)]

/-- A call that is not refused is its loop. -/
theorem execute_eq (outcomes : Nat → AttemptOutcome) (h : refuses t c = false) :
    execute t c outcomes =
      ⟨(loop (attemptOnce t c outcomes) (.error (exhaustedError t c)) (attemptBound t c) 1
          (initialState t c)).1,
        (loop (attemptOnce t c outcomes) (.error (exhaustedError t c)) (attemptBound t c) 1
          (initialState t c)).2.requests⟩ := by
  rw [execute, h]
  rfl

/-- A call that is not refused sends the requests of its attempts up to one that decides it; no
    earlier one was answered finally. -/
theorem execute_decided (outcomes : Nat → AttemptOutcome) (h : refuses t c = false) :
    ∃ n s, 0 < n ∧ n ≤ attemptBound t c ∧ After t c n s ∧
      (∀ i, 0 < i → i < n → ¬ AnsweredFinally (outcomes i)) ∧
      (execute t c outcomes).requests = s.requests ∧
      Returns outcomes n s (execute t c outcomes).ended := by
  have hdecided : Decided (After t c) (GoesOn t c outcomes) (Returns outcomes) 0 (attemptBound t c)
      (loop (attemptOnce t c outcomes) (.error (exhaustedError t c)) (attemptBound t c) 1
        (initialState t c)) :=
    loop_decided (fun k s hk => after_attempt hk) (fun k s _ hagain => verdict_again hagain)
      (fun k s ended _ hstop result hok => verdict_ok (hok ▸ hstop)) attemptBound_pos
      (fun hlast => Nat.lt_irrefl _ hlast.1) after_initial
  obtain ⟨n, hpos, hle, hafter, hons, hreturns⟩ := hdecided
  rw [execute_eq outcomes h]
  exact ⟨n, _, hpos, hle, hafter, fun i hi hin => (hons i hi hin).2, rfl, hreturns⟩

end Loop

/-! ## Every call is disciplined -/

section Disciplined

variable {t : Transport} {c : Call} {outcomes : Nat → AttemptOutcome}

/-- A required key is there. -/
theorem effectiveKey_present (hkey : t.freshIdempotencyKey ≠ "")
    (hrequired : idempotencyRequired t c = true) : missingKey (effectiveKey t c) = false := by
  unfold effectiveKey
  by_cases hmissing : missingKey c.idempotencyKey = true
  · rw [if_pos (by rw [hrequired, hmissing]; rfl)]
    exact beq_eq_false_iff_ne.mpr hkey
  · rw [if_neg (by rw [hrequired]; exact hmissing)]
    exact Bool.eq_false_iff.mpr hmissing

/-- A call that is refused sends nothing. -/
theorem execute_of_refused (outcomes : Nat → AttemptOutcome) (h : refuses t c = true) :
    execute t c outcomes = ⟨.error (missingKeyError c), []⟩ := by
  unfold execute
  rw [if_pos h]

/-- What the result says of an answer that is a success. -/
theorem observation_successResult (proof : TransportProofMetadata) (r : HttpResponse)
    (data : Json) :
    (ReplaysRequest r.headers →
      (successResult proof r data).proof.finalClientObservation = .replayed) ∧
    (¬ ReplaysRequest r.headers →
      (successResult proof r data).proof.finalClientObservation = .executed) := by
  show (_ → (if _ = "" then _ else _) = _) ∧ (_ → (if _ = "" then _ else _) = _)
  cases horiginal : header "X-Original-Request-Id" r.headers with
  | none =>
    refine ⟨fun ⟨original, h, _⟩ => ?_, fun _ => if_pos rfl⟩
    exact nomatch horiginal.symm.trans h
  | some original =>
    by_cases hempty : original = ""
    · refine ⟨fun ⟨found, h, hne⟩ => ?_, fun _ => if_pos hempty⟩
      cases horiginal.symm.trans h
      exact absurd hempty hne
    · exact ⟨fun _ => if_neg hempty, fun h => absurd ⟨original, horiginal, hempty⟩ h⟩

section Requests

variable (hauth : ∀ i, Neutral (t.authHeaders i)) (hcaller : Neutral c.headers)

include hauth hcaller

theorem requestAt_requestId (attempt : Nat) :
    header "X-Request-Id" (requestAt t c attempt).headers = some (t.freshRequestId attempt) := by
  by_cases h : attempt = 1
  · exact header_requestId hauth (by rw [if_pos h]; exact hcaller) _ _
  · exact header_requestId hauth (by rw [if_neg h]; exact neutral_nil) _ _

theorem requestAt_idempotencyKey (attempt : Nat) :
    header "X-Idempotency-Key" (requestAt t c attempt).headers
      = if missingKey (effectiveKey t c) then none else some ((effectiveKey t c).getD "") := by
  by_cases h : attempt = 1
  · exact header_idempotencyKey hauth (by rw [if_pos h]; exact hcaller) _ _
  · exact header_idempotencyKey hauth (by rw [if_neg h]; exact neutral_nil) _ _

/-- The request ids of the attempts. -/
theorem requestIds_eq (n : Nat) :
    ((List.range' 1 n).map (requestAt t c)).map (fun r => header "X-Request-Id" r.headers)
      = (List.range' 1 n).map (fun i => some (t.freshRequestId i)) := by
  rw [List.map_map]
  exact List.map_congr_left fun i _ => requestAt_requestId hauth hcaller i

end Requests

/-- The discipline of a call that sends its requests. -/
theorem discipline_of_sent (hauth : ∀ i, Neutral (t.authHeaders i)) (hcaller : Neutral c.headers)
    (hkey : t.freshIdempotencyKey ≠ "") (hfresh : Function.Injective t.freshRequestId)
    (hsent : refuses t c = false) :
    Discipline t c outcomes (refuses t c = true) ReplaysRequest := by
  obtain ⟨n, s, hpos, hle, hafter, hons, hrequests, hreturns⟩ := execute_decided outcomes hsent
  have hreqs : (execute t c outcomes).requests = (List.range' 1 n).map (requestAt t c) :=
    hrequests.trans hafter.requests
  have hlength : (execute t c outcomes).requests.length = n := by
    rw [hreqs, List.length_map, List.length_range']
  have hids := requestIds_eq hauth hcaller n
  have hkeys : ∀ r ∈ (execute t c outcomes).requests, header "X-Idempotency-Key" r.headers
      = if missingKey (effectiveKey t c) then none else some ((effectiveKey t c).getD "") := by
    intro r hr
    rw [hreqs] at hr
    obtain ⟨i, -, rfl⟩ := List.mem_map.mp hr
    exact requestAt_idempotencyKey hauth hcaller i
  constructor
  · rw [hlength]
    exact Int.le_trans (by exact_mod_cast hle) attemptBound_le
  · intro hsingle _
    rw [attemptBound_eq_one hsingle] at hle
    rw [hlength]
    omega
  · intro r₁ hr₁ r₂ hr₂
    rw [hkeys r₁ hr₁, hkeys r₂ hr₂]
  · intro hrequired r hr
    have hpresent := effectiveKey_present hkey hrequired
    refine ⟨(effectiveKey t c).getD "", ?_, beq_eq_false_iff_ne.mp hpresent⟩
    rw [hkeys r hr, hpresent]
    rfl
  · intro i hi hin hfinal
    rw [hlength] at hin ⊢
    by_contra hne
    exact hons i hi (by omega) hfinal
  · intro result hok
    obtain ⟨r, data, -, rfl⟩ := hreturns result hok
    rw [hlength, hreqs, hids]
    refine ⟨?_, ?_, ?_⟩
    · show s.proof.attempts.map _ = _
      rw [hafter.attempts, List.map_map]
      exact List.map_id _
    · show s.proof.attempts.map _ = _
      rw [hafter.attempts, List.map_map]
      rfl
    · show some (some s.proof.requestId) = _
      obtain ⟨k, rfl⟩ : ∃ k, n = k + 1 := ⟨n - 1, by omega⟩
      rw [hafter.requestId hpos, range'_snoc, List.map_append]
      exact List.getLast?_concat.symm
  · intro result hok
    obtain ⟨r, data, hanswered, rfl⟩ := hreturns result hok
    rw [hlength]
    exact ⟨r, hanswered, observation_successResult s.proof r data⟩
  · rw [hreqs, hids]
    exact List.Nodup.map (fun i j hij => hfresh (Option.some.inj hij)) (List.nodup_range' ..)

/-- Every call is disciplined.  A write that must be idempotent, of a descriptor that requires no
    key, is refused before its first request where it is given none. -/
theorem disciplined (t : Transport) (c : Call) (outcomes : Nat → AttemptOutcome)
    (hauth : ∀ i, Neutral (t.authHeaders i)) (hcaller : Neutral c.headers)
    (hkey : t.freshIdempotencyKey ≠ "") (hfresh : Function.Injective t.freshRequestId) :
    Discipline t c outcomes (refuses t c = true) ReplaysRequest ∧
      (refuses t c = true → execute t c outcomes = ⟨.error (missingKeyError c), []⟩) := by
  refine ⟨?_, execute_of_refused outcomes⟩
  by_cases hrefused : refuses t c = true
  · have hrun := execute_of_refused outcomes hrefused
    constructor
    · rw [hrun]
      show (0 : Int) ≤ _
      omega
    · exact fun _ h => absurd hrefused h
    · rw [hrun]
      exact nofun
    · rw [hrun]
      exact fun _ => nofun
    · intro i hi hin
      rw [hrun] at hin
      exact absurd hin (by show ¬ i ≤ 0; omega)
    · rw [hrun]
      exact nofun
    · rw [hrun]
      exact nofun
    · rw [hrun]
      exact List.nodup_nil
  · exact discipline_of_sent hauth hcaller hkey hfresh (Bool.eq_false_iff.mpr hrefused)

end Disciplined

/-- No operation of the built-in registry is refused. -/
theorem builtin_not_refused {t : Transport} (hregistry : t.registry = builtinRegistry)
    (hkey : t.freshIdempotencyKey ≠ "") (c : Call) : refuses t c = false := by
  have hwrites : ∀ d ∈ builtinOperations,
      d.operationClass = .writeIdempotentRequired → d.idempotencyRequired = true := by decide
  unfold refuses
  cases hdescriptor : descriptor t c with
  | none => rfl
  | some d =>
    show (decide (d.operationClass = .writeIdempotentRequired) && _) = false
    by_cases hclass : d.operationClass = .writeIdempotentRequired
    · have hfound : builtinRegistry c.operationName = some d := by
        rw [← hregistry]
        exact hdescriptor
      have hmem : d ∈ builtinOperations :=
        List.mem_reverse.mp (List.mem_of_find?_eq_some hfound)
      have hrequired : idempotencyRequired t c = true := by
        unfold idempotencyRequired
        rw [hdescriptor]
        exact hwrites d hmem hclass
      rw [effectiveKey_present hkey hrequired]
      exact Bool.and_false _
    · rw [decide_eq_false hclass]
      rfl

/-! ## Two calls -/

/-- A transport whose request ids are distinct. -/
def sampleTransport (registry : String → Option OperationDescriptor) : Transport where
  baseUrl := "https://mcp.example"
  retryConfig := {}
  registry := registry
  authHeaders := fun _ => [("Authorization", "Bearer token")]
  freshIdempotencyKey := "key-1"
  freshRequestId := fun i => String.ofList (List.replicate i 'r')
  clock := fun _ => "2026-01-01T00:00:00+00:00"
  backoff := fun _ => none

theorem sample_neutral (registry : String → Option OperationDescriptor) (i : Nat) :
    Neutral ((sampleTransport registry).authHeaders i) := by
  intro entry hmem
  rw [List.mem_singleton.mp hmem]
  decide

theorem sample_fresh (registry : String → Option OperationDescriptor) :
    Function.Injective (sampleTransport registry).freshRequestId := by
  intro i j hij
  have hlist : List.replicate i 'r' = List.replicate j 'r' := String.ofList_injective hij
  have hlength := congrArg List.length hlist
  rw [List.length_replicate, List.length_replicate] at hlength
  exact hlength

/-- A run that is started, at the second attempt. -/
theorem disciplined_runStart :
    Discipline (sampleTransport builtinRegistry)
      { method := "POST", path := "/mcp/v1/runs/start", operationName := "run.start" }
      (fun i => .answered { statusCode := if i = 1 then 503 else 200, json := some (.obj []) })
      (refuses (sampleTransport builtinRegistry)
        { method := "POST", path := "/mcp/v1/runs/start", operationName := "run.start" } = true)
      ReplaysRequest :=
  (disciplined _ _ _ (sample_neutral builtinRegistry) neutral_nil (by decide)
    (sample_fresh builtinRegistry)).1

/-- A registry with a write of its own: it must be idempotent, and requires no key. -/
def deployRegistry (name : String) : Option OperationDescriptor :=
  if name = "deploy" then some ⟨"deploy", .writeIdempotentRequired, .noRetry, false, true⟩
  else builtinRegistry name

/-- A call of that write without a key sends no request. -/
theorem deploy_undisciplined :
    (∀ i, Neutral ((sampleTransport deployRegistry).authHeaders i)) ∧
      Function.Injective (sampleTransport deployRegistry).freshRequestId ∧
      ¬ Discipline (sampleTransport deployRegistry)
        { method := "POST", path := "/deploy", operationName := "deploy" }
        (fun _ => .answered { statusCode := 200, json := some (.obj []) }) False HasOriginal := by
  refine ⟨sample_neutral deployRegistry, sample_fresh deployRegistry, fun h => ?_⟩
  exact nomatch h.single (.inr (.inl rfl)) id

end KeyholeTransport
