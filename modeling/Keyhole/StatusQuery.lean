import Keyhole.RunDispatch

/-!
# Asking for the status of a run

`fetch_run_status` sends a `run.status` request and reads the run's state off the answer.
The status word may stand at eight places of the document; the places of the envelope come
before those of its payload.

* `fetchRunStatus`: the query, with the exception a call of it ends in;
* `flattenProductStatusData`: the copy of the payload it hands on;
* `classifyStatusData_accepted`, `classifyStatusData_refused`: what it makes of an answer. -/

namespace KeyholeStatus

open KeyholeJson KeyholeDispatch

/-! ## Results -/

/-- `RunStatusResult`. -/
structure RunStatusResult where
  success : Bool
  runId : String := ""
  requestId : String := ""
  correlationId : String := ""
  status : RunStatus := .unknown
  runType : String := ""
  repoName : Json := .str ""
  shadow : Json := .bool false
  ctxpackDigest : Json := .str ""
  lastUpdated : Json := .str ""
  summary : Json := .str ""
  terminalSummary : Json := .str ""
  resolved : Bool := false
  serverBacked : Bool := false
  httpStatusCode : Nat := 0
  responseData : Dict := []
  errorClass : Json := .str ""
  reason : Json := .str ""
  repairGuidance : List String := []

/-- `_TERMINAL_STATUSES`. -/
def terminalStatuses : List RunStatus := [.success, .failed, .rejected, .denied, .cancelled]

/-- `RunStatus.is_terminal`. -/
def isTerminal (s : RunStatus) : Bool := s ∈ terminalStatuses

/-! ## Repair guidance -/

/-- `_REPAIR_MAP`, of the run lifecycle. -/
def lifecycleRepairMap : List (String × List String) :=
  [("non_terminal", ["The run is accepted but not yet complete.",
      "Check status: keyhole runs status <run-id>",
      "Wait for result: keyhole runs wait <run-id>"]),
    ("observation_failed", ["Status retrieval failed — this does NOT mean execution failed.",
      "Retry: keyhole runs status <run-id>",
      "Or wait: keyhole runs wait <run-id>"]),
    ("status_retrieval_failed", ["Status retrieval failed.",
      "Check network connectivity to the MCP boundary.",
      "Retry: keyhole runs status <run-id>",
      "Observation failure does not mean execution failed."]),
    ("terminal_failure", ["The run completed with a failure or denial.",
      "Inspect local proof: proof_bundle/core/runs/<run-id>/",
      "Use richer explain/support surfaces when available."]),
    ("resume_ambiguous", ["Cannot determine which run to reconnect to confidently.",
      "Provide the exact run-id or request-id.",
      "List recent runs: keyhole runs list (when available)",
      "Check local proof: .keyhole/state/runs/"]),
    ("missing_identifier", ["No run ID or request ID provided.",
      "Provide: keyhole runs resume <run-id>"]),
    ("protocol_error", ["The boundary returned an invalid accepted/deferred envelope.",
      "Missing run_id in accepted response.",
      "Retry the run or contact support."]),
    ("missing_run_id", ["The boundary accepted the run but did not return a run_id.",
      "This is a protocol-level issue.",
      "Check local proof for the correlation_id."]),
    ("wait_timeout", ["The run did not reach terminal state within the poll limit.",
      "Try again: keyhole runs wait <run-id>",
      "Or check: keyhole runs status <run-id>",
      "The run may still be in progress."]),
    ("wait_interrupted", ["Wait was interrupted before terminal state.",
      "Resume: keyhole runs wait <run-id>",
      "Or check: keyhole runs status <run-id>"]),
    ("AuthenticationError", ["Run: keyhole login",
      "Re-authenticate and try again."]),
    ("TransportUnknownError", ["Check network connectivity to the MCP boundary.",
      "Retry is safe for observation commands."]),
    ("RetryExhaustedError", ["The boundary is unavailable after all retry attempts.",
      "Wait and retry later."]),
    ("RuntimeUnavailableError", ["The runtime returned an error. It may be temporarily unavailable.",
      "Try again later."]),
    ("malformed_run_id", ["The run ID format is invalid.",
      "Check the run ID and try again.",
      "Run IDs are typically alphanumeric with dashes or underscores."])]

/-- `map_run_lifecycle_repair`. -/
def mapRunLifecycleRepair (errorClass : String) : List String :=
  match lifecycleRepairMap.lookup errorClass with
  | some guidance => guidance
  | none => ["Unexpected error: " ++ errorClass,
      "Check: keyhole runs status <run-id>",
      "Observation failure does not mean execution failed."]

/-! ## The classification of an answer -/

/-- The code and the text of a product envelope that says `ok=false`. -/
def incompleteEnvelope (text : String) : Dict :=
  [("code", .str "PRODUCT_ENVELOPE_INCOMPLETE"), ("message", .str text)]

/-- `_safe_dict(d.get("error")) or {...}`. -/
def errorOr (d default : Dict) : Dict :=
  if (d.child "error").isEmpty then default else d.child "error"

/-- `_product_error`. -/
def productError (data nested : Dict) : Option Dict :=
  if isFalse (data.get "ok") then
    some (errorOr data (incompleteEnvelope "Product operation returned ok=false."))
  else if isFalse (nested.get "ok") then
    some (errorOr nested (incompleteEnvelope "Product operation data returned ok=false."))
  else none

/-- `_flatten_product_status_data`. -/
def flattenProductStatusData (data nested : Dict) (runId requestId correlationId : String) :
    Dict :=
  if nested.isEmpty then data
  else
    let flattened := nested.setDefault "run_id" (.str runId)
    let flattened :=
      if requestId = "" then flattened else flattened.setDefault "request_id" (.str requestId)
    let flattened :=
      if correlationId = "" then flattened
      else flattened.setDefault "correlation_id" (.str correlationId)
    flattened.set "_raw_envelope" (.obj data)

/-- The places `_classify_status_result` takes the status from, in its order. -/
def queriedPlaces (data : Dict) : List Json :=
  let nested := innerData data
  [data.get "status", data.get "state", data.get "run_status",
    nested.get "status", nested.get "state", nested.get "run_status",
    (nested.child "run").get "status", (nested.child "receipt").get "status"]

/-- The word the query judges by. -/
def queriedWord (data : Dict) : String := strip (lower (firstString (queriedPlaces data)))

/-- The `run_id` of the answer, or the one asked for. -/
def canonicalRunId (data : Dict) (runId : String) : String :=
  let nested := innerData data
  firstString [(nested.child "identity_refs").get "run_id", (nested.child "receipt").get "run_id",
    (nested.child "run").get "run_id", data.get "run_id", .str runId]

/-- The `request_id` or `correlation_id` of the answer. -/
def canonicalId (data : Dict) (key : String) : String :=
  let nested := innerData data
  firstString [(nested.child "identity_refs").get key, (nested.child "receipt").get key,
    nested.get key, data.get key]

/-- `terminal_summary`: the summary, the result, or the whole payload. -/
def terminalSummaryOf (data : Dict) : Json :=
  let nested := innerData data
  let summary := data.get "terminal_summary"
  let summary := if isNull summary then nested.get "result" else summary
  if isNull summary ∧ nested.isEmpty = false then .obj nested else summary

/-- What is made of an HTTP error. -/
def httpFailure (data : Dict) (statusCode : Nat) (runId : String) : RunStatusResult where
  success := false
  runId := runId
  errorClass := data.getOr "error_class" (.str "status_retrieval_failed")
  reason := data.getOr "reason" (data.getOr "message" (.str ("HTTP " ++ toString statusCode)))
  repairGuidance := mapRunLifecycleRepair "status_retrieval_failed"
  responseData := data

/-- What is made of a product error. -/
def productFailure (data error : Dict) (statusCode : Nat) (runId : String) : RunStatusResult where
  success := false
  runId := runId
  errorClass := .str (firstString [error.get "code", .str "PRODUCT_ENVELOPE_INCOMPLETE"])
  reason := .str (firstString [error.get "message", .str "Product envelope did not resolve."])
  repairGuidance := mapRunLifecycleRepair "status_retrieval_failed"
  httpStatusCode := statusCode
  responseData := data

/-- What is made of an answer without an error. -/
def resolvedStatus (data : Dict) (statusCode : Nat) (runId repoName : String) :
    RunStatusResult :=
  let nested := innerData data
  let hasRefs := !(nested.child "identity_refs").isEmpty || !(nested.child "receipt").isEmpty
  { success := true
    runId := canonicalRunId data runId
    requestId := canonicalId data "request_id"
    correlationId := canonicalId data "correlation_id"
    status := classifyStatus (firstString (queriedPlaces data))
    runType := firstString [data.get "run_type", nested.get "run_type",
      (nested.child "request").get "run_type"]
    repoName := data.getOr "repo" (nested.getOr "repo" (.str repoName))
    shadow := data.getOr "shadow" (nested.getOr "shadow" (.bool false))
    ctxpackDigest := data.getOr "ctxpack_digest" (nested.getOr "ctxpack_digest" (.str ""))
    lastUpdated := data.getOr "updated_at" (data.getOr "last_updated" (.str ""))
    summary := data.getOr "summary" (nested.getOr "summary" (.str ""))
    terminalSummary := terminalSummaryOf data
    resolved := truthy (nested.get "resolved") || hasRefs
    serverBacked := truthy (nested.get "server_backed") || hasRefs
    httpStatusCode := statusCode
    responseData := flattenProductStatusData data nested (canonicalRunId data runId)
      (canonicalId data "request_id") (canonicalId data "correlation_id") }

@[simp] theorem resolvedStatus_status (data : Dict) (statusCode : Nat) (runId repoName : String) :
    (resolvedStatus data statusCode runId repoName).status
      = classifyStatus (firstString (queriedPlaces data)) := by
  simp only [resolvedStatus]

@[simp] theorem resolvedStatus_requestId (data : Dict) (statusCode : Nat)
    (runId repoName : String) :
    (resolvedStatus data statusCode runId repoName).requestId = canonicalId data "request_id" := by
  simp only [resolvedStatus]

@[simp] theorem resolvedStatus_correlationId (data : Dict) (statusCode : Nat)
    (runId repoName : String) :
    (resolvedStatus data statusCode runId repoName).correlationId
      = canonicalId data "correlation_id" := by
  simp only [resolvedStatus]

@[simp] theorem resolvedStatus_responseData (data : Dict) (statusCode : Nat)
    (runId repoName : String) :
    (resolvedStatus data statusCode runId repoName).responseData
      = flattenProductStatusData data (innerData data) (canonicalRunId data runId)
        (canonicalId data "request_id") (canonicalId data "correlation_id") := by
  simp only [resolvedStatus]

/-- `_classify_status_result`, on a dictionary. -/
def classifyStatusData (data : Dict) (statusCode : Nat) (runId repoName : String) :
    RunStatusResult :=
  if 400 ≤ statusCode then httpFailure data statusCode runId
  else match productError data (innerData data) with
    | some error => productFailure data error statusCode runId
    | none => resolvedStatus data statusCode runId repoName

/-- `_classify_status_result`: `data.get` of an answer that is no dictionary escapes. -/
def classifyStatusResult (result : TransportResult) (runId repoName : String) :
    Except Raised RunStatusResult :=
  match result.data with
  | .obj data => .ok (classifyStatusData data result.statusCode runId repoName)
  | _ => .error "AttributeError"

/-- `_handle_status_exception`. -/
def handleStatusException (failure : TransportFailure) (runId : String) : RunStatusResult where
  success := false
  runId := runId
  errorClass := .str failure.errorClass
  reason := .str failure.text
  repairGuidance := mapRunLifecycleRepair failure.errorClass

/-- `fetch_run_status`. -/
def fetchRunStatus (answer : Answer) (runId repoName : String) : Except Raised RunStatusResult :=
  match answer with
  | .error failure => .ok (handleStatusException failure runId)
  | .ok result => classifyStatusResult result runId repoName

/-! ## Answers that are accepted -/

/-- The query takes the answer for one about the run: no HTTP error, and neither the
    envelope nor its payload says `ok=false`. -/
structure Accepted (statusCode : Nat) (data : Dict) : Prop where
  code : statusCode < 400
  envelope : isFalse (data.get "ok") = false
  payload : isFalse ((innerData data).get "ok") = false

instance (statusCode : Nat) (data : Dict) : Decidable (Accepted statusCode data) :=
  decidable_of_iff (statusCode < 400 ∧ isFalse (data.get "ok") = false ∧
    isFalse ((innerData data).get "ok") = false)
    ⟨fun h => ⟨h.1, h.2.1, h.2.2⟩, fun h => ⟨h.code, h.envelope, h.payload⟩⟩

theorem productError_eq_none_iff {data nested : Dict} :
    productError data nested = none ↔
      isFalse (data.get "ok") = false ∧ isFalse (nested.get "ok") = false := by
  rw [productError]
  by_cases henvelope : isFalse (data.get "ok") = true
  · rw [if_pos henvelope, henvelope]
    exact ⟨nofun, fun h => (nomatch h.1)⟩
  · rw [if_neg henvelope]
    by_cases hpayload : isFalse (nested.get "ok") = true
    · rw [if_pos hpayload, hpayload]
      exact ⟨nofun, fun h => (nomatch h.2)⟩
    · rw [if_neg hpayload]
      exact ⟨fun _ => ⟨Bool.not_eq_true _ ▸ henvelope, Bool.not_eq_true _ ▸ hpayload⟩,
        fun _ => rfl⟩

/-- An accepted answer is resolved. -/
theorem classifyStatusData_accepted {data : Dict} {statusCode : Nat}
    (h : Accepted statusCode data) (runId repoName : String) :
    classifyStatusData data statusCode runId repoName
      = resolvedStatus data statusCode runId repoName := by
  have hnone := productError_eq_none_iff.mpr ⟨h.envelope, h.payload⟩
  rw [classifyStatusData, if_neg (Nat.not_le.mpr h.code), hnone]

/-- The query failed: nothing is said of the run, and the document is handed on as it came. -/
structure Failure (r : RunStatusResult) (data : Dict) : Prop where
  success : r.success = false
  status : r.status = .unknown
  requestId : r.requestId = ""
  correlationId : r.correlationId = ""
  responseData : r.responseData = data

/-- Any other answer is reported as a failure of the query. -/
theorem classifyStatusData_refused {data : Dict} {statusCode : Nat}
    (h : ¬ Accepted statusCode data) (runId repoName : String) :
    Failure (classifyStatusData data statusCode runId repoName) data := by
  rw [classifyStatusData]
  by_cases hcode : 400 ≤ statusCode
  · rw [if_pos hcode]
    exact ⟨rfl, rfl, rfl, rfl, rfl⟩
  · rw [if_neg hcode]
    cases herror : productError data (innerData data) with
    | some error => exact ⟨rfl, rfl, rfl, rfl, rfl⟩
    | none =>
      have hok := productError_eq_none_iff.mp herror
      exact absurd ⟨Nat.lt_of_not_le hcode, hok.1, hok.2⟩ h

/-- The query succeeds on the accepted answers only. -/
theorem classifyStatusData_success {data : Dict} {statusCode : Nat} (runId repoName : String) :
    (classifyStatusData data statusCode runId repoName).success = true ↔
      Accepted statusCode data := by
  by_cases h : Accepted statusCode data
  · rw [classifyStatusData_accepted h]
    exact ⟨fun _ => h, fun _ => rfl⟩
  · rw [(classifyStatusData_refused h runId repoName).success]
    exact ⟨nofun, fun hok => absurd hok h⟩

/-! ## The words of the status map -/

/-- The words `classify_status` takes for a success. -/
def successWords : List String := ["success", "succeeded", "completed", "ok"]

/-- The words `classify_status` takes for an end without success. -/
def failureWords : List String :=
  ["failed", "error", "rejected", "denied", "cancelled", "canceled"]

/-- A value other than the default comes from an entry of the table. -/
theorem mem_of_lookup_getD {α : Type} {table : List (String × α)} {word : String} {default v : α}
    (h : (table.lookup word).getD default = v) (hv : v ≠ default) : (word, v) ∈ table := by
  cases hlookup : table.lookup word with
  | none =>
    rw [hlookup] at h
    exact absurd h.symm hv
  | some found =>
    rw [hlookup] at h
    rw [← show found = v from h]
    exact mem_of_lookup hlookup

theorem classifyStatus_success_iff {raw : String} :
    classifyStatus raw = .success ↔ strip (lower raw) ∈ successWords := by
  constructor
  · intro h
    have hentries : ∀ entry ∈ statusMap, entry.2 = .success → entry.1 ∈ successWords := by decide
    exact hentries (strip (lower raw), .success)
      (mem_of_lookup_getD h nofun) rfl
  · intro h
    have hwords : ∀ word ∈ successWords, (statusMap.lookup word).getD .unknown = .success := by
      decide
    exact hwords (strip (lower raw)) h

theorem classifyStatus_failure_iff {raw : String} :
    isTerminal (classifyStatus raw) = true ∧ classifyStatus raw ≠ .success ↔
      strip (lower raw) ∈ failureWords := by
  constructor
  · rintro ⟨hterminal, hnot⟩
    have hentries : ∀ entry ∈ statusMap, isTerminal entry.2 = true → entry.2 ≠ .success →
        entry.1 ∈ failureWords := by decide
    have hknown : classifyStatus raw ≠ .unknown := fun hu => by
      rw [hu] at hterminal
      exact nomatch hterminal
    have hmem : (strip (lower raw), classifyStatus raw) ∈ statusMap :=
      mem_of_lookup_getD rfl hknown
    generalize classifyStatus raw = found at hmem hterminal hnot
    exact hentries (strip (lower raw), found) hmem hterminal hnot
  · intro h
    have hwords : ∀ word ∈ failureWords, isTerminal ((statusMap.lookup word).getD .unknown) = true ∧
        (statusMap.lookup word).getD .unknown ≠ .success := by decide
    exact hwords (strip (lower raw)) h

end KeyholeStatus
