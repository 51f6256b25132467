import Keyhole.StatusQuery

/-!
# Explaining a run

`keyhole explain run` asks for the status of a run and assembles an explanation from the
document the status query hands on.  The explanation has a vocabulary of its own, and it sees
the flattened payload only: neither the status of the envelope nor those of the run and its
receipt are there any more.

* `assembleRunExplanation`: the explanation, with the exception a call of it ends in;
* `explainRun`: status, then explanation;
* `SameStory`: what the two have to have in common;
* `sameStory_iff`: the documents for which they have. -/

namespace KeyholeExplain

open KeyholeJson KeyholeDispatch KeyholeStatus

/-! ## Outcome classes -/

/-- `ExplainOutcomeClass`. -/
inductive ExplainOutcomeClass where
  | accepted
  | succeeded
  | rejected
  | replayed
  | deferred
  | rateLimited
  | budgetExhausted
  | failed
  | partialLineage
  | unknown
  deriving DecidableEq

/-- The value of an outcome class. -/
def ExplainOutcomeClass.value : ExplainOutcomeClass → String
  | .accepted => "accepted"
  | .succeeded => "succeeded"
  | .rejected => "rejected"
  | .replayed => "replayed"
  | .deferred => "deferred"
  | .rateLimited => "rate_limited"
  | .budgetExhausted => "budget_exhausted"
  | .failed => "failed"
  | .partialLineage => "partial_lineage"
  | .unknown => "unknown"

/-- The classes by their values. -/
def outcomeClasses : List (String × ExplainOutcomeClass) :=
  [.accepted, .succeeded, .rejected, .replayed, .deferred, .rateLimited, .budgetExhausted,
    .failed, .partialLineage, .unknown].map fun c => (c.value, c)

/-- `_TERMINAL_CLASSES`. -/
def terminalClasses : List ExplainOutcomeClass :=
  [.succeeded, .rejected, .failed, .budgetExhausted]

/-- `_STATUS_CLASS_MAP`. -/
def statusClassMap : List (String × ExplainOutcomeClass) :=
  [("success", .succeeded), ("completed", .succeeded), ("ok", .succeeded), ("failed", .failed),
    ("error", .failed), ("rejected", .rejected), ("denied", .rejected), ("cancelled", .failed),
    ("canceled", .failed), ("deferred", .deferred), ("accepted", .accepted),
    ("pending", .accepted), ("running", .accepted), ("in_progress", .accepted),
    ("replayed", .replayed), ("rate_limited", .rateLimited), ("ratelimited", .rateLimited),
    ("throttled", .rateLimited), ("budget_exhausted", .budgetExhausted),
    ("budget_exceeded", .budgetExhausted), ("limit_exceeded", .budgetExhausted)]

/-- `str(data.get("status", "") or data.get("state", "") or data.get("run_status", ""))`. -/
def rawStatus (data : Dict) : String :=
  pyStr (orElse (data.getOr "status" (.str "")) (orElse (data.getOr "state" (.str ""))
    (data.getOr "run_status" (.str ""))))

/-- The lower-cased word of a field, `""` for a missing or false one. -/
def fieldWord (data : Dict) (key : String) : String := lower (strOr (data.get key))

/-- The class an explicit `limit_outcome` stands for. -/
def limitClass (word : String) : Option ExplainOutcomeClass :=
  if word ∈ ["budget_exhausted", "budget_exceeded", "limit_exceeded"] then some .budgetExhausted
  else if word ∈ ["rate_limited", "ratelimited", "throttled"] then some .rateLimited
  else if word ∈ ["deferred", "deferred_pressure"] then some .deferred
  else none

/-- The class of the status, or of what is left when the status has none. -/
def statusOrLineageClass (data : Dict) : ExplainOutcomeClass :=
  match statusClassMap.lookup (lower (rawStatus data)) with
  | some c => c
  | none =>
      if truthy (data.get "partial_lineage") || truthy (data.get "lineage_partial") then
        .partialLineage
      else .unknown

/-- `_classify_from_response`. -/
def classifyFromResponse (data : Dict) : ExplainOutcomeClass :=
  if data.isEmpty then .unknown
  else match outcomeClasses.lookup (fieldWord data "outcome_class") with
    | some c => c
    | none =>
        match limitClass (fieldWord data "limit_outcome") with
        | some c => c
        | none =>
            if truthy (data.get "replayed") || truthy (data.get "replayed_from") then .replayed
            else statusOrLineageClass data

/-! ## The explanation -/

/-- `_REPAIR`. -/
def explainRepairMap : List (String × List String) :=
  [("not_found", ["Verify the run_id or request_id is correct.",
      "Check that you are using the correct profile (keyhole whoami).",
      "The target may have expired or be outside your tenant scope.",
      "Try: keyhole runs status <run-id> to check reachability."]),
    ("run_not_found", ["The run ID does not exist or is not visible in this scope.",
      "Verify the run_id with: keyhole runs list",
      "Ensure you are authenticated in the correct profile (keyhole whoami)."]),
    ("request_not_found", ["The request ID does not exist or has no linked run.",
      "Verify the request_id from transport proof or X-Request-Id headers.",
      "Check run records: keyhole runs list"]),
    ("incomplete_lineage", ["Lineage is still materializing — wait and retry in a few moments.",
      "Try: keyhole explain run <run-id> again after a brief delay.",
      "If lineage remains incomplete, generate a support bundle: keyhole support-bundle <run-id>"]),
    ("partial_lineage",
      ["Partial lineage was returned — some platform evidence references are not yet available.",
        "Retry: keyhole explain run <run-id> after a short delay.",
        "Generate a support bundle to preserve available truth: keyhole support-bundle <run-id>",
        "If the issue persists, contact support with the bundle."]),
    ("unauthorized", ["You are not authorized to inspect this run or request.",
      "Check your identity: keyhole whoami",
      "Ensure you are in the correct tenant/org scope.",
      "If this run belongs to a different profile, switch profiles and retry."]),
    ("scope_mismatch", ["The target is not visible in your current scope.",
      "Check: keyhole whoami and verify tenant/org context.",
      "Switch profiles if needed and retry."]),
    ("server_contract_issue", ["The platform returned an unexpected explainability response.",
      "Preserve available diagnostic artifacts.",
      "Generate a support bundle: keyhole support-bundle <run-id>",
      "Contact support if the issue persists."]),
    ("malformed_response", ["The server response was malformed or incomplete.",
      "Try again — transient issues may resolve spontaneously.",
      "Generate a support bundle to preserve the diagnostic context."]),
    ("accepted", ["The run was accepted and is being processed.",
      "Check status: keyhole runs status <run-id>",
      "Wait for terminal state: keyhole runs wait <run-id>"]),
    ("rejected", ["Inspect the rejection reason above for the specific rule that failed.",
      "Review your request structure and context binding.",
      "Check context alignment: keyhole context inspect",
      "If unexpected, generate a support bundle: keyhole support-bundle <run-id>"]),
    ("replayed", ["This request was replayed — the platform reused a prior result.",
      "Inspect the original run: keyhole explain run <replayed-run-id>",
      "If a fresh execution is needed, use a new idempotency key."]),
    ("deferred", ["The platform deferred this action — it is not rejected.",
      "Resume tracking: keyhole runs resume <run-id>",
      "Wait for terminal state: keyhole runs wait <run-id>",
      "Check budget and pressure posture: keyhole runs budget <run-id>"]),
    ("rate_limited", ["Wait before retrying — the platform is enforcing rate policy.",
      "Preserve the same request identity (idempotency key) on retry.",
      "Check budget posture: keyhole runs budget <run-id>"]),
    ("budget_exhausted", ["The run hit a runtime budget ceiling — the execution stopped.",
      "Review budget posture: keyhole runs budget <run-id>",
      "Consider splitting the operation or adjusting workload parameters.",
      "Contact support if this is unexpected: keyhole support-bundle <run-id>"]),
    ("failed", ["The run encountered a terminal failure.",
      "Review the failure reason above for the proximate cause.",
      "Check any available proof artifacts.",
      "Generate a support bundle for forensic review: keyhole support-bundle <run-id>"]),
    ("unknown", ["The outcome could not be classified deterministically.",
      "Check run status: keyhole runs status <run-id>",
      "Generate a support bundle: keyhole support-bundle <run-id>"]),
    ("missing_run_id", ["Provide a run ID. Try: keyhole runs list"]),
    ("missing_request_id",
      ["Provide a request ID from the transcript proof or X-Request-Id header."]),
    ("observation_failed", ["The platform did not return status for this run.",
      "Check: keyhole runs status <run-id>",
      "Verify connectivity and auth: keyhole whoami"])]

/-- `_DEFAULT_REPAIR`. -/
def defaultRepair : List String :=
  ["Check: keyhole runs status <run-id>",
    "Verify identity: keyhole whoami",
    "Generate a support bundle: keyhole support-bundle <run-id>"]

/-- `map_explain_repair`. -/
def mapExplainRepair (errorClass : String) : List String :=
  (explainRepairMap.lookup (lower errorClass)).getD defaultRepair

/-- `_SYNTHESIZED`. -/
def synthesized : ExplainOutcomeClass → String
  | .accepted => "Run was accepted by the platform and is being processed."
  | .succeeded => "Run reached a successful terminal state."
  | .rejected => "Run or request was rejected; see repair guidance."
  | .replayed => "Request was replayed from a prior execution — no new action was taken."
  | .deferred =>
      "Platform deferred the action; this is a governed pressure response, not a rejection."
  | .rateLimited => "Request was constrained by rate policy."
  | .budgetExhausted => "Run hit a runtime budget ceiling."
  | .failed => "Run reached a terminal failure state."
  | .partialLineage =>
      "Lineage is incomplete; some platform references are not yet available."
  | .unknown => "Outcome could not be classified from available server truth."

/-- `_synthesize_reason`: the reason, and whether it was inferred. -/
def synthesizeReason (outcomeClass : ExplainOutcomeClass) (data : Dict) : String × Bool :=
  let stated := firstString [data.get "reason", data.get "message", data.get "explanation",
    data.get "detail", data.get "rejection_reason"]
  if stated = "" then (synthesized outcomeClass, true) else (stated, false)

/-- `_safe_list`. -/
def safeList : Json → List String
  | .arr items => (items.filter truthy).map pyStr
  | .str s => if s = "" then [] else [s]
  | _ => []

/-- `data.get(k1) or data.get(k2) or ...`, `""` if all are false. -/
def firstTruthy (data : Dict) : List String → Json
  | [] => .str ""
  | k :: rest => orElse (data.get k) (firstTruthy data rest)

/-- `RunExplanation`, but for the time it was assembled at. -/
structure RunExplanation where
  runId : String
  requestId : String
  correlationId : String
  outcomeClass : ExplainOutcomeClass
  status : String
  runType : String
  isTerminal : Bool
  shadow : Bool
  repoName : String
  contextDigest : String
  contextRef : String
  reason : String
  reasonCode : String
  isReasonInferred : Bool
  eventRefs : List String
  proofRefs : List String
  proofDigest : String
  budgetSummary : String
  limitOutcome : String
  replayedFrom : String
  idempotencyKey : String
  repairGuidance : List String
  summary : String
  hasPartialLineage : Bool
  lineageNote : String
  rawData : Dict

/-- A field of type `str` of the explanation. -/
def textField : Json → Except Raised String
  | .str s => .ok s
  | _ => .error "ValidationError"

/-- `given or data.get(key, "") or ""`, as a text. -/
def identityField (given : String) (data : Dict) (key : String) : Except Raised String :=
  textField (orElse (.str given) (orElse (data.getOr key (.str "")) (.str "")))

/-- The explanation, once the three identities are texts. -/
def explanationOf (data : Dict) (runId requestId correlationId : String) : RunExplanation :=
  let outcomeClass := classifyFromResponse data
  let contextDigest := firstTruthy data ["ctxpack_digest", "context_digest", "context_ref"]
  let hasPartial := truthy (data.get "partial_lineage") || truthy (data.get "lineage_partial")
    || outcomeClass == .partialLineage
  let serverRepair := safeList (firstTruthy data ["repair_guidance", "suggested_actions"])
  { runId := runId
    requestId := requestId
    correlationId := correlationId
    outcomeClass := outcomeClass
    status := pyStr (firstTruthy data ["status", "state", "run_status"])
    runType := pyStr (firstTruthy data ["run_type", "type"])
    isTerminal := outcomeClass ∈ terminalClasses
    shadow := truthy (data.get "shadow") || truthy (data.get "is_shadow")
    repoName := pyStr (firstTruthy data ["repo", "repo_name"])
    contextDigest := pyStr contextDigest
    contextRef := pyStr (orElse (data.get "context_ref")
      (orElse (data.get "context_label") contextDigest))
    reason := (synthesizeReason outcomeClass data).1
    reasonCode := pyStr (firstTruthy data ["reason_code", "error_class"])
    isReasonInferred := (synthesizeReason outcomeClass data).2
    eventRefs := safeList (firstTruthy data ["event_refs", "events"])
    proofRefs := safeList (firstTruthy data ["proof_refs", "proof_digests"])
    proofDigest := pyStr (firstTruthy data ["proof_digest", "digest"])
    budgetSummary := pyStr (firstTruthy data ["budget_summary"])
    limitOutcome := pyStr (firstTruthy data ["limit_outcome"])
    replayedFrom := pyStr (firstTruthy data ["replayed_from", "prior_run_id"])
    idempotencyKey := pyStr (firstTruthy data ["idempotency_key", "x_idempotency_key"])
    repairGuidance :=
      if serverRepair.isEmpty then mapExplainRepair outcomeClass.value else serverRepair
    summary := pyStr (orElse (data.get "summary") (.str ("Run "
      ++ (if runId = "" then "<unknown>" else runId) ++ ": " ++ outcomeClass.value)))
    hasPartialLineage := hasPartial
    lineageNote := pyStr (orElse (data.get "lineage_note") (.str (if hasPartial then
      "Some platform evidence references are not yet available." else "")))
    rawData := data }

/-- `assemble_run_explanation`: an identity that is no text fails the validation. -/
def assembleRunExplanation (data : Dict) (runId requestId correlationId : String) :
    Except Raised RunExplanation := do
  let resolvedRunId ← identityField runId data "run_id"
  let resolvedReq ← identityField requestId data "request_id"
  let resolvedCorr ← identityField correlationId data "correlation_id"
  return explanationOf data resolvedRunId resolvedReq resolvedCorr

/-- `run_explain_run`, up to the explanation: nothing without a run id. -/
def explainRun (answer : Answer) (runId repoName : String) :
    Except Raised (Option (RunStatusResult × RunExplanation)) := do
  if strip runId = "" then return none
  else do
    let r ← fetchRunStatus answer (strip runId) repoName
    let e ← assembleRunExplanation r.responseData (strip runId) r.requestId r.correlationId
    return some (r, e)

/-! ## The word an explanation goes by -/

/-- The fields that would settle the class before the status, or after it. -/
def outcomeFields : List String :=
  ["outcome_class", "limit_outcome", "replayed", "replayed_from", "partial_lineage",
    "lineage_partial"]

/-- Neither the document nor its payload has one of them. -/
def Plain (data : Dict) : Prop :=
  ∀ key ∈ outcomeFields, Dict.has data key = false ∧ Dict.has (innerData data) key = false

instance (data : Dict) : Decidable (Plain data) := inferInstanceAs (Decidable (∀ _ ∈ _, _))

/-- The words an explanation takes for a success. -/
def explainedSuccesses : List String := ["success", "completed", "ok"]

/-- The words an explanation takes for a spent budget. -/
def budgetWords : List String := ["budget_exhausted", "budget_exceeded", "limit_exceeded"]

/-- The class of a word. -/
def explainedClass (word : String) : ExplainOutcomeClass :=
  (statusClassMap.lookup word).getD .unknown

variable {data : Dict} {runId word repoName k : String} {statusCode : Nat} {r : RunStatusResult}

/-- Without the other fields, the class is that of the status. -/
theorem classifyFromResponse_plain (h : ∀ key ∈ outcomeFields, Dict.get data key = .null) :
    classifyFromResponse data = explainedClass (lower (rawStatus data)) := by
  have hlineage : statusOrLineageClass data = explainedClass (lower (rawStatus data)) := by
    rw [statusOrLineageClass, explainedClass, h "partial_lineage" (by decide),
      h "lineage_partial" (by decide)]
    cases statusClassMap.lookup (lower (rawStatus data)) with
    | some c => rfl
    | none => rfl
  have hword : ∀ key ∈ outcomeFields, fieldWord data key = "" := by
    intro key hkey
    rw [fieldWord, h key hkey]
    rfl
  rw [classifyFromResponse, hword "outcome_class" (by decide), hword "limit_outcome" (by decide),
    h "replayed" (by decide), h "replayed_from" (by decide), hlineage]
  by_cases hempty : data.isEmpty = true
  · rw [List.isEmpty_iff.mp hempty]
    rfl
  · rw [if_neg hempty]
    rfl

theorem explainedClass_succeeded_iff :
    explainedClass word = .succeeded ↔ word ∈ explainedSuccesses := by
  constructor
  · intro h
    have hentries : ∀ entry ∈ statusClassMap, entry.2 = .succeeded →
        entry.1 ∈ explainedSuccesses := by decide
    exact hentries (word, .succeeded) (mem_of_lookup_getD h nofun) rfl
  · intro h
    have hwords : ∀ w ∈ explainedSuccesses, explainedClass w = .succeeded := by decide
    exact hwords word h

theorem explainedClass_failure_iff :
    explainedClass word ∈ [.failed, .rejected] ↔ word ∈ failureWords := by
  constructor
  · intro h
    have hentries : ∀ entry ∈ statusClassMap, entry.2 ∈ [.failed, .rejected] →
        entry.1 ∈ failureWords := by decide
    have hmem : (word, explainedClass word) ∈ statusClassMap := by
      refine mem_of_lookup_getD rfl (fun hu => ?_)
      rw [hu] at h
      exact absurd h (by decide)
    generalize explainedClass word = found at h hmem
    exact hentries (word, found) hmem h
  · intro h
    have hwords : ∀ w ∈ failureWords, explainedClass w ∈ [.failed, .rejected] := by decide
    exact hwords word h

theorem explainedClass_budget_iff :
    explainedClass word = .budgetExhausted ↔ word ∈ budgetWords := by
  constructor
  · intro h
    have hentries : ∀ entry ∈ statusClassMap, entry.2 = .budgetExhausted →
        entry.1 ∈ budgetWords := by decide
    exact hentries (word, .budgetExhausted) (mem_of_lookup_getD h nofun) rfl
  · intro h
    have hwords : ∀ w ∈ budgetWords, explainedClass w = .budgetExhausted := by decide
    exact hwords word h

theorem mem_terminalClasses_iff {c : ExplainOutcomeClass} :
    c ∈ terminalClasses ↔ c = .succeeded ∨ c ∈ [.failed, .rejected] ∨ c = .budgetExhausted := by
  cases c with
  | succeeded => decide
  | failed => decide
  | rejected => decide
  | budgetExhausted => decide
  | accepted => decide
  | replayed => decide
  | deferred => decide
  | rateLimited => decide
  | partialLineage => decide
  | unknown => decide

/-! ## What the explanation sees of a document -/

/-- The document the status query hands on, but for the identities it adds. -/
def seen (data : Dict) : Dict := if (innerData data).isEmpty then data else innerData data

/-- The word the explanation of an accepted answer goes by. -/
def explainedWord (data : Dict) : String := lower (rawStatus (seen data))

theorem getOr_null (d : Dict) (k : String) : Dict.getOr d k .null = Dict.get d k := by
  induction d with
  | nil => rfl
  | cons hd rest ih =>
    obtain ⟨k', v⟩ := hd
    rw [getOr_cons, get_cons, ih]

theorem getOr_setDefault {k' : String} (h : k' ≠ k) (d : Dict) (v default : Json) :
    Dict.getOr (Dict.setDefault d k v) k' default = Dict.getOr d k' default := by
  have happend : Dict.getOr (d ++ [(k, v)]) k' default = Dict.getOr d k' default := by
    induction d with
    | nil => exact if_neg h
    | cons hd rest ih =>
      obtain ⟨k₀, v₀⟩ := hd
      rw [List.cons_append, getOr_cons, getOr_cons, ih]
  rw [Dict.setDefault]
  by_cases hany : d.any (fun kv => kv.1 == k) = true
  · rw [if_pos hany]
  · rw [if_neg hany, happend]

theorem getOr_set_ne {k' : String} (h : k' ≠ k) (d : Dict) (v default : Json) :
    Dict.getOr (Dict.set d k v) k' default = Dict.getOr d k' default := by
  induction d with
  | nil => exact if_neg h
  | cons hd rest ih =>
    obtain ⟨k₀, v₀⟩ := hd
    rw [Dict.set]
    by_cases hk : k = k₀
    · subst hk
      rw [if_pos rfl, getOr_cons, getOr_cons, if_neg h, if_neg h]
    · rw [if_neg hk, getOr_cons, getOr_cons, ih]

/-- The entries the query adds to the payload. -/
def addedKeys : List String := ["run_id", "request_id", "correlation_id", "_raw_envelope"]

/-- All others are those of the payload, or of the document without one. -/
theorem getOr_flatten (h : k ∉ addedKeys) (data : Dict)
    (runId requestId correlationId : String) (default : Json) :
    Dict.getOr (flattenProductStatusData data (innerData data) runId requestId correlationId) k
      default = Dict.getOr (seen data) k default := by
  obtain ⟨hrun, hrequest, hcorrelation, hraw⟩ :
      k ≠ "run_id" ∧ k ≠ "request_id" ∧ k ≠ "correlation_id" ∧ k ≠ "_raw_envelope" := by
    simpa [addedKeys] using h
  rw [flattenProductStatusData, seen]
  by_cases hempty : (innerData data).isEmpty = true
  · rw [if_pos hempty, if_pos hempty]
  · rw [if_neg hempty, if_neg hempty]
    have hrequest' : ∀ d : Dict, Dict.getOr (if requestId = "" then d
        else Dict.setDefault d "request_id" (.str requestId)) k default
        = Dict.getOr d k default := by
      intro d
      by_cases hid : requestId = ""
      · rw [if_pos hid]
      · rw [if_neg hid, getOr_setDefault hrequest]
    have hcorrelation' : ∀ d : Dict, Dict.getOr (if correlationId = "" then d
        else Dict.setDefault d "correlation_id" (.str correlationId)) k default
        = Dict.getOr d k default := by
      intro d
      by_cases hid : correlationId = ""
      · rw [if_pos hid]
      · rw [if_neg hid, getOr_setDefault hcorrelation]
    show Dict.getOr (Dict.set _ "_raw_envelope" (.obj data)) k default = _
    rw [getOr_set_ne hraw, hcorrelation', hrequest', getOr_setDefault hrun]

/-- An identity the answer does not have is not added. -/
theorem get_flatten_identity (data : Dict) (runId requestId correlationId : String) :
    (requestId = "" → Dict.get (flattenProductStatusData data (innerData data) runId requestId
      correlationId) "request_id" = Dict.get (seen data) "request_id") ∧
    (correlationId = "" → Dict.get (flattenProductStatusData data (innerData data) runId requestId
      correlationId) "correlation_id" = Dict.get (seen data) "correlation_id") := by
  rw [flattenProductStatusData, seen]
  by_cases hempty : (innerData data).isEmpty = true
  · rw [if_pos hempty, if_pos hempty]
    exact ⟨fun _ => rfl, fun _ => rfl⟩
  · rw [if_neg hempty, if_neg hempty]
    constructor
    · rintro rfl
      show Dict.get (Dict.set _ "_raw_envelope" (.obj data)) "request_id" = _
      rw [get_set, if_neg (by decide), if_pos rfl]
      by_cases hid : correlationId = ""
      · rw [if_pos hid, get_setDefault _ _ _ _ (by decide)]
      · rw [if_neg hid, get_setDefault _ _ _ _ (by decide), get_setDefault _ _ _ _ (by decide)]
    · rintro rfl
      show Dict.get (Dict.set _ "_raw_envelope" (.obj data)) "correlation_id" = _
      rw [get_set, if_neg (by decide), if_pos rfl]
      by_cases hid : requestId = ""
      · rw [if_pos hid, get_setDefault _ _ _ _ (by decide)]
      · rw [if_neg hid, get_setDefault _ _ _ _ (by decide), get_setDefault _ _ _ _ (by decide)]

theorem rawStatus_flatten (data : Dict) (runId requestId correlationId : String) :
    rawStatus (flattenProductStatusData data (innerData data) runId requestId correlationId)
      = rawStatus (seen data) := by
  rw [rawStatus, rawStatus, getOr_flatten (by decide), getOr_flatten (by decide),
    getOr_flatten (by decide)]

/-- A plain document is seen without the fields. -/
theorem get_seen_plain (h : Plain data) {key : String} (hkey : key ∈ outcomeFields) :
    Dict.get (seen data) key = .null := by
  rw [seen]
  by_cases hempty : (innerData data).isEmpty = true
  · rw [if_pos hempty]
    exact get_of_not_has (h key hkey).1
  · rw [if_neg hempty]
    exact get_of_not_has (h key hkey).2

/-! ## Status and explanation -/

/-- What the explanation says of the run is what the status says. -/
structure SameStory (r : RunStatusResult) (e : RunExplanation) : Prop where
  succeeded : e.outcomeClass = .succeeded ↔ r.success = true ∧ r.status = .success
  terminal : r.success = true → e.isTerminal = isTerminal r.status
  failed : r.success = true → (e.outcomeClass ∈ [.failed, .rejected] ↔
    r.status ∈ [.failed, .rejected, .denied, .cancelled])

/-- The command comes to a status and an explanation of one story. -/
def TellsSameStory (answer : Answer) (runId repoName : String) : Prop :=
  ∃ r e, explainRun answer runId repoName = .ok (some (r, e)) ∧ SameStory r e

/-- The two identities that may be taken from the document. -/
def identityKeys : List String := ["request_id", "correlation_id"]

/-- The identity is given, or the document has none, or a text. -/
def IdentityReads (given : String) (data : Dict) (key : String) : Prop :=
  given ≠ "" ∨ truthy (Dict.get data key) = false ∨ isText (Dict.get data key) = true

/-- The explanation's word and the query's are words for the same end. -/
structure SameEnd (explained queried : String) : Prop where
  success : explained ∈ explainedSuccesses ↔ queried ∈ successWords
  failure : explained ∈ failureWords ↔ queried ∈ failureWords
  budget : explained ∉ budgetWords

/-- The answers of which status and explanation tell the same story. -/
inductive StoryKept : Answer → Prop
  /-- no answer: nothing is known of the run -/
  | unanswered (failure : TransportFailure) : StoryKept (.error failure)
  /-- the query refuses the document, and the explanation finds no success in it -/
  | refused {statusCode : Nat} {data : Dict} (h : ¬ Accepted statusCode data)
      (hword : lower (rawStatus data) ∉ explainedSuccesses)
      (hids : ∀ key ∈ identityKeys, IdentityReads "" data key) :
      StoryKept (.ok ⟨.obj data, statusCode⟩)
  /-- both read the run's end -/
  | accepted {statusCode : Nat} {data : Dict} (h : Accepted statusCode data)
      (hsame : SameEnd (explainedWord data) (queriedWord data))
      (hids : ∀ key ∈ identityKeys, IdentityReads (canonicalId data key) (seen data) key) :
      StoryKept (.ok ⟨.obj data, statusCode⟩)

theorem identityField_given {given : String} (h : given ≠ "") (data : Dict) (key : String) :
    identityField given data key = .ok given := by
  rw [identityField, orElse, if_pos (truthy_of_ne_empty h)]
  rfl

/-- An identity is read exactly when it is given, missing or a text. -/
theorem identityField_ok_iff {given : String} {key : String} :
    (∃ id, identityField given data key = .ok id) ↔ IdentityReads given data key := by
  by_cases hgiven : given = ""
  · subst hgiven
    have hfield : identityField "" data key
        = textField (orElse (data.getOr key (.str "")) (.str "")) := rfl
    have hstart : IdentityReads "" data key ↔
        truthy (Dict.get data key) = false ∨ isText (Dict.get data key) = true :=
      ⟨fun h => h.resolve_left (fun hne => hne rfl), .inr⟩
    rw [hfield, hstart]
    cases hhas : Dict.has data key with
    | false =>
      rw [getOr_of_not_has hhas, get_of_not_has hhas]
      exact ⟨fun _ => .inl rfl, fun _ => ⟨"", rfl⟩⟩
    | true =>
      rw [getOr_of_has hhas, orElse]
      by_cases htruthy : truthy (Dict.get data key) = true
      · rw [if_pos htruthy, htruthy]
        cases hvalue : Dict.get data key with
        | str s => exact ⟨fun _ => .inr rfl, fun _ => ⟨s, rfl⟩⟩
        | _ =>
          exact ⟨fun ⟨_, h⟩ => (nomatch h), fun h => h.elim nofun
            nofun⟩
      · rw [if_neg htruthy]
        exact ⟨fun _ => .inl (Bool.not_eq_true _ ▸ htruthy), fun _ => ⟨"", rfl⟩⟩
  · exact ⟨fun _ => .inl hgiven, fun _ => ⟨given, identityField_given hgiven data key⟩⟩

/-- The explanation is assembled exactly when both identities are read. -/
theorem assembleRunExplanation_iff {requestId correlationId : String}
    (hid : runId ≠ "") (e : RunExplanation) :
    assembleRunExplanation data runId requestId correlationId = .ok e ↔
      ∃ req corr, identityField requestId data "request_id" = .ok req ∧
        identityField correlationId data "correlation_id" = .ok corr ∧
        e = explanationOf data runId req corr := by
  rw [assembleRunExplanation, identityField_given hid]
  cases hreq : identityField requestId data "request_id" with
  | error err =>
    constructor
    · exact nofun
    · rintro ⟨req, corr, h, -⟩
      exact nomatch h
  | ok req =>
    cases hcorr : identityField correlationId data "correlation_id" with
    | error err =>
      constructor
      · exact nofun
      · rintro ⟨req, corr, -, h, -⟩
        exact nomatch h
    | ok corr =>
      constructor
      · exact fun h => ⟨req, corr, rfl, rfl, (Except.ok.inj h).symm⟩
      · rintro ⟨req', corr', hreq', hcorr', rfl⟩
        rw [Except.ok.inj hreq', Except.ok.inj hcorr']
        rfl

/-- The command on a document: the story is told when the identities are read and the class
    of the document fits. -/
theorem tellsSameStory_obj (hid : strip runId ≠ "")
    (hr : classifyStatusData data statusCode (strip runId) repoName = r) :
    TellsSameStory (.ok ⟨.obj data, statusCode⟩) runId repoName ↔
      (IdentityReads r.requestId r.responseData "request_id" ∧
        IdentityReads r.correlationId r.responseData "correlation_id") ∧
      ∀ req corr, SameStory r (explanationOf r.responseData (strip runId) req corr) := by
  have hrun : explainRun (.ok ⟨.obj data, statusCode⟩) runId repoName
      = (assembleRunExplanation r.responseData (strip runId) r.requestId r.correlationId
          >>= fun e => .ok (some (r, e))) := by
    rw [explainRun, if_neg hid, ← hr]
    rfl
  have hsame : ∀ req corr req' corr',
      SameStory r (explanationOf r.responseData (strip runId) req corr) →
      SameStory r (explanationOf r.responseData (strip runId) req' corr') :=
    fun _ _ _ _ h => ⟨h.succeeded, h.terminal, h.failed⟩
  rw [← identityField_ok_iff, ← identityField_ok_iff, TellsSameStory]
  constructor
  · rintro ⟨r', e, htold, hstory⟩
    rw [hrun] at htold
    cases hassembled : assembleRunExplanation r.responseData (strip runId) r.requestId
        r.correlationId with
    | error err =>
      rw [hassembled] at htold
      exact nomatch htold
    | ok found =>
      rw [hassembled] at htold
      obtain ⟨rfl, rfl⟩ := Prod.mk.inj (Option.some.inj (Except.ok.inj htold))
      obtain ⟨req, corr, hreq, hcorr, rfl⟩ :=
        (assembleRunExplanation_iff hid _).mp hassembled
      exact ⟨⟨⟨req, hreq⟩, ⟨corr, hcorr⟩⟩, fun req' corr' => hsame _ _ _ _ hstory⟩
  · rintro ⟨⟨⟨req, hreq⟩, ⟨corr, hcorr⟩⟩, hstory⟩
    have hassembled : assembleRunExplanation r.responseData (strip runId) r.requestId
        r.correlationId = .ok (explanationOf r.responseData (strip runId) req corr) :=
      (assembleRunExplanation_iff hid _).mpr ⟨req, corr, hreq, hcorr, rfl⟩
    refine ⟨r, _, ?_, hstory req corr⟩
    rw [hrun, hassembled]
    rfl

/-- The four ends without success. -/
theorem mem_failing_iff {s : RunStatus} :
    s ∈ [.failed, .rejected, .denied, .cancelled] ↔ isTerminal s = true ∧ s ≠ .success := by
  cases s with
  | accepted => decide
  | running => decide
  | deferred => decide
  | success => decide
  | failed => decide
  | rejected => decide
  | denied => decide
  | cancelled => decide
  | unknown => decide

theorem isTerminal_iff {s : RunStatus} :
    isTerminal s = true ↔ s = .success ∨ s ∈ [.failed, .rejected, .denied, .cancelled] := by
  rw [mem_failing_iff]
  by_cases hs : s = .success
  · subst hs
    exact ⟨fun _ => .inl rfl, fun _ => rfl⟩
  · exact ⟨fun h => .inr ⟨h, hs⟩, fun h => (h.resolve_left hs).1⟩

/-- For a status that was found, the two words have to be words for the same end. -/
theorem sameStory_classified_iff {raw : String} (hsuccess : r.success = true)
    (hstatus : r.status = classifyStatus raw) {e : RunExplanation}
    (hclass : e.outcomeClass = explainedClass word)
    (hterminal : e.isTerminal = true ↔ e.outcomeClass ∈ terminalClasses) :
    SameStory r e ↔ SameEnd word (strip (lower raw)) := by
  have hfailing : r.status ∈ [.failed, .rejected, .denied, .cancelled] ↔
      strip (lower raw) ∈ failureWords := by
    rw [mem_failing_iff, hstatus, classifyStatus_failure_iff]
  have hend : isTerminal r.status = true ↔
      strip (lower raw) ∈ successWords ∨ strip (lower raw) ∈ failureWords := by
    rw [isTerminal_iff, hfailing, hstatus, classifyStatus_success_iff]
  have hends : e.isTerminal = true ↔
      word ∈ explainedSuccesses ∨ word ∈ failureWords ∨ word ∈ budgetWords := by
    rw [hterminal, hclass, mem_terminalClasses_iff, explainedClass_succeeded_iff,
      explainedClass_failure_iff, explainedClass_budget_iff]
  constructor
  · rintro ⟨hsucceeded, hsame, hfailed⟩
    rw [hclass, explainedClass_succeeded_iff, hstatus, classifyStatus_success_iff] at hsucceeded
    have hfailed' := hfailed hsuccess
    rw [hfailing, hclass, explainedClass_failure_iff] at hfailed'
    have hsuccess' : word ∈ explainedSuccesses ↔ strip (lower raw) ∈ successWords :=
      hsucceeded.trans ⟨fun h => h.2, fun h => ⟨hsuccess, h⟩⟩
    refine ⟨hsuccess', hfailed', fun hbudget => ?_⟩
    -- a spent budget ends the run for the explanation alone
    have hover : isTerminal r.status = true := by
      rw [← hsame hsuccess]
      exact hends.mpr (.inr (.inr hbudget))
    have hdisjoint : ∀ w ∈ budgetWords, w ∉ explainedSuccesses ∧ w ∉ failureWords := by decide
    rcases hend.mp hover with hw | hw
    · exact (hdisjoint word hbudget).1 (hsuccess'.mpr hw)
    · exact (hdisjoint word hbudget).2 (hfailed'.mpr hw)
  · rintro ⟨hwords, hfailures, hbudget⟩
    refine ⟨?_, fun _ => ?_, fun _ => ?_⟩
    · rw [hclass, explainedClass_succeeded_iff, hwords, hstatus, classifyStatus_success_iff]
      exact ⟨fun h => ⟨hsuccess, h⟩, fun h => h.2⟩
    · rw [Bool.eq_iff_iff, hends, hend, hwords, hfailures]
      exact ⟨fun h => h.imp_right (fun h => h.resolve_right hbudget), fun h => h.imp_right .inl⟩
    · rw [hfailing, hclass, explainedClass_failure_iff, hfailures]

/-- For a document the query refuses, the explanation must not find a success. -/
theorem sameStory_refused_iff (hsuccess : r.success = false)
    {e : RunExplanation} (hclass : e.outcomeClass = explainedClass word) :
    SameStory r e ↔ word ∉ explainedSuccesses := by
  rw [← explainedClass_succeeded_iff, ← hclass]
  constructor
  · intro h hsucceeded
    have hok := (h.succeeded.mp hsucceeded).1
    rw [hsuccess] at hok
    exact nomatch hok
  · intro h
    refine ⟨⟨fun hs => absurd hs h, fun hs => ?_⟩, fun hok => ?_, fun hok => ?_⟩
    · rw [hsuccess] at hs
      exact nomatch hs.1
    · rw [hsuccess] at hok
      exact nomatch hok
    · rw [hsuccess] at hok
      exact nomatch hok

theorem isTerminal_explanationOf (data : Dict) (runId req corr : String) :
    (explanationOf data runId req corr).isTerminal = true ↔
      (explanationOf data runId req corr).outcomeClass ∈ terminalClasses :=
  decide_eq_true_iff

/-- The identities of a resolved status are read off the document as it is seen. -/
theorem identityReads_resolved :
    (IdentityReads (resolvedStatus data statusCode runId repoName).requestId
        (resolvedStatus data statusCode runId repoName).responseData "request_id" ∧
      IdentityReads (resolvedStatus data statusCode runId repoName).correlationId
        (resolvedStatus data statusCode runId repoName).responseData "correlation_id") ↔
      ∀ key ∈ identityKeys, IdentityReads (canonicalId data key) (seen data) key := by
  obtain ⟨hrequest, hcorrelation⟩ := get_flatten_identity data (canonicalRunId data runId)
    (canonicalId data "request_id") (canonicalId data "correlation_id")
  have hreads : ∀ {given key : String} {d d' : Dict},
      (given = "" → Dict.get d key = Dict.get d' key) →
      (IdentityReads given d key ↔ IdentityReads given d' key) := by
    intro given key d d' hsame
    by_cases hgiven : given = ""
    · rw [IdentityReads, IdentityReads, hsame hgiven]
    · exact ⟨fun _ => .inl hgiven, fun _ => .inl hgiven⟩
  rw [resolvedStatus_requestId, resolvedStatus_correlationId, resolvedStatus_responseData,
    hreads hrequest, hreads hcorrelation]
  constructor
  · rintro ⟨hreq, hcorr⟩ key hkey
    rcases List.mem_cons.mp hkey with rfl | hkey
    · exact hreq
    · rw [List.mem_singleton.mp hkey]
      exact hcorr
  · intro h
    exact ⟨h _ List.mem_cons_self, h _ (List.mem_cons_of_mem _ List.mem_cons_self)⟩

/-- An accepted answer. -/
theorem tellsSameStory_accepted
    (hid : strip runId ≠ "") (hplain : Plain data) (h : Accepted statusCode data) :
    TellsSameStory (.ok ⟨.obj data, statusCode⟩) runId repoName ↔
      (∀ key ∈ identityKeys, IdentityReads (canonicalId data key) (seen data) key) ∧
        SameEnd (explainedWord data) (queriedWord data) := by
  rw [tellsSameStory_obj hid (classifyStatusData_accepted h (strip runId) repoName),
    identityReads_resolved]
  refine and_congr_right fun _ => ?_
  have hclass : ∀ req corr, (explanationOf
      (resolvedStatus data statusCode (strip runId) repoName).responseData (strip runId) req
      corr).outcomeClass = explainedClass (explainedWord data) := by
    intro req corr
    show classifyFromResponse (resolvedStatus data statusCode (strip runId) repoName).responseData
      = _
    rw [resolvedStatus_responseData, classifyFromResponse_plain, rawStatus_flatten, explainedWord]
    intro key hkey
    have hother : ∀ key ∈ outcomeFields, key ∉ addedKeys := by decide
    rw [← getOr_null, getOr_flatten (hother key hkey), getOr_null]
    exact get_seen_plain hplain hkey
  have hstory : ∀ req corr, SameStory (resolvedStatus data statusCode (strip runId) repoName)
      (explanationOf (resolvedStatus data statusCode (strip runId) repoName).responseData
        (strip runId) req corr) ↔ SameEnd (explainedWord data) (queriedWord data) :=
    fun req corr => sameStory_classified_iff rfl (resolvedStatus_status ..) (hclass req corr)
      (isTerminal_explanationOf ..)
  exact ⟨fun hall => (hstory "" "").mp (hall "" ""), fun hsame req corr =>
    (hstory req corr).mpr hsame⟩

/-- An answer the query refuses. -/
theorem tellsSameStory_refused
    (hid : strip runId ≠ "") (hplain : Plain data) (h : ¬ Accepted statusCode data) :
    TellsSameStory (.ok ⟨.obj data, statusCode⟩) runId repoName ↔
      (∀ key ∈ identityKeys, IdentityReads "" data key) ∧
        lower (rawStatus data) ∉ explainedSuccesses := by
  have hfailure := classifyStatusData_refused h (strip runId) repoName
  rw [tellsSameStory_obj hid rfl, hfailure.requestId, hfailure.correlationId,
    hfailure.responseData]
  have hclass : ∀ req corr, (explanationOf data (strip runId) req corr).outcomeClass
      = explainedClass (lower (rawStatus data)) := fun req corr =>
    classifyFromResponse_plain fun key hkey => get_of_not_has (hplain key hkey).1
  have hstory : ∀ req corr, SameStory (classifyStatusData data statusCode (strip runId) repoName)
      (explanationOf data (strip runId) req corr) ↔
      lower (rawStatus data) ∉ explainedSuccesses :=
    fun req corr => sameStory_refused_iff hfailure.success (hclass req corr)
  constructor
  · rintro ⟨⟨hreq, hcorr⟩, hall⟩
    refine ⟨fun key hkey => ?_, (hstory "" "").mp (hall "" "")⟩
    rcases List.mem_cons.mp hkey with rfl | hkey
    · exact hreq
    · rw [List.mem_singleton.mp hkey]
      exact hcorr
  · rintro ⟨hids, hword⟩
    exact ⟨⟨hids _ List.mem_cons_self, hids _ (List.mem_cons_of_mem _ List.mem_cons_self)⟩,
      fun req corr => (hstory req corr).mpr hword⟩

/-- A call that is not answered leaves both without a word on the run. -/
theorem tellsSameStory_unanswered (failure : TransportFailure)
    (hid : strip runId ≠ "") (repoName : String) :
    TellsSameStory (.error failure) runId repoName := by
  refine ⟨handleStatusException failure (strip runId), explanationOf [] (strip runId) "" "", ?_,
    ⟨?_, nofun, nofun⟩⟩
  · rw [explainRun, if_neg hid]
    show (assembleRunExplanation [] (strip runId) "" "" >>= _) = _
    rw [(assembleRunExplanation_iff hid _).mpr ⟨"", "", rfl, rfl, rfl⟩]
    rfl
  · exact ⟨nofun, fun h => (nomatch h.1)⟩

/-- Of which answers status and explanation tell the same story. -/
theorem tellsSameStory_iff {answer : Answer} {runId : String} (hid : strip runId ≠ "")
    (hplain : ∀ statusCode data, answer = .ok ⟨.obj data, statusCode⟩ → Plain data)
    (repoName : String) : TellsSameStory answer runId repoName ↔ StoryKept answer := by
  cases answer with
  | error failure =>
      exact ⟨fun _ => .unanswered failure, fun _ => tellsSameStory_unanswered failure hid repoName⟩
  | ok result =>
      obtain ⟨body, statusCode⟩ := result
      by_cases hbody : ∃ data, body = .obj data
      · obtain ⟨data, rfl⟩ := hbody
        have hfields := hplain statusCode data rfl
        by_cases haccepted : Accepted statusCode data
        · rw [tellsSameStory_accepted hid hfields haccepted]
          constructor
          · rintro ⟨hids, hsame⟩
            exact .accepted haccepted hsame hids
          · intro h
            cases h with
            | refused hnot => exact absurd haccepted hnot
            | accepted _ hsame hids => exact ⟨hids, hsame⟩
        · rw [tellsSameStory_refused hid hfields haccepted]
          constructor
          · rintro ⟨hids, hword⟩
            exact .refused haccepted hword hids
          · intro h
            cases h with
            | refused _ hword hids => exact ⟨hids, hword⟩
            | accepted hyes => exact absurd hyes haccepted
      · -- the query raises on anything but a dictionary
        constructor
        · rintro ⟨r, e, htold, -⟩
          have hraised : fetchRunStatus (.ok ⟨body, statusCode⟩) (strip runId) repoName
              = .error "AttributeError" := by
            cases body with
            | obj data => exact absurd ⟨data, rfl⟩ hbody
            | _ => rfl
          rw [explainRun, if_neg hid, hraised] at htold
          exact nomatch htold
        · intro h
          cases h with
          | refused => exact absurd ⟨_, rfl⟩ hbody
          | accepted => exact absurd ⟨_, rfl⟩ hbody

/-- A run that `succeeded`. -/
def succeededRun : Dict :=
  [("ok", .bool true), ("data", .obj [("run_id", .str "run-1"), ("status", .str "succeeded")])]

/-- The status is `SUCCESS`, and the explanation does not know the word. -/
theorem succeededRun_unexplained :
    ¬ TellsSameStory (.ok ⟨.obj succeededRun, 200⟩) "run-1" "demo" := by
  rintro ⟨r, e, htold, hstory⟩
  have hclass : (explainRun (.ok ⟨.obj succeededRun, 200⟩) "run-1" "demo").toOption.join.map
      (fun told => (told.1.success, told.1.status, told.2.outcomeClass))
      = some (true, .success, .unknown) := by decide
  rw [htold] at hclass
  obtain ⟨hsuccess, hrest⟩ := Prod.mk.inj (Option.some.inj hclass)
  obtain ⟨hstatus, hunknown⟩ := Prod.mk.inj hrest
  have hsucceeded := hstory.succeeded.mpr ⟨hsuccess, hstatus⟩
  rw [show e.outcomeClass = .unknown from hunknown] at hsucceeded
  exact nomatch hsucceeded

/-- A run that is `completed`, told by both. -/
theorem completedRun_told :
    TellsSameStory (.ok ⟨.obj [("ok", .bool true), ("data", .obj [("run_id", .str "run-1"),
      ("status", .str "COMPLETED")])], 200⟩) "run-1" "demo" := by
  refine (tellsSameStory_iff (by decide) (fun statusCode data h => ?_) "demo").mpr
    (.accepted (by decide) ⟨by decide, by decide, by decide⟩ (fun key hkey => ?_))
  · obtain ⟨hdata, -⟩ := TransportResult.mk.inj (Except.ok.inj h)
    obtain rfl := Json.obj.inj hdata
    decide
  · have hnone : ∀ key ∈ identityKeys, truthy (Dict.get (seen [("ok", .bool true),
        ("data", .obj [("run_id", .str "run-1"), ("status", .str "COMPLETED")])]) key) = false := by
      decide
    exact .inr (.inl (hnone key hkey))

end KeyholeExplain
