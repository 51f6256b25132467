import Keyhole.Redaction

/-!
# Run envelopes

The MCP server answers every run with a JSON envelope whose interesting fields
may sit at the top level, under `result`, under `data`, or deeper.  This file
models the pure readers of `governed_demo.py`: the run status and its pointers,
the identifiers each step extracts, the receipt normalisation, and the error
text of a rejected answer. -/

namespace KeyholeEnvelope

open KeyholeJson KeyholeRedaction

/-- `ASYNC_TERMINAL_STATUSES`. -/
def asyncTerminalStatuses : List String :=
  ["completed", "succeeded", "success", "failed", "canceled", "cancelled", "timed_out"]

/-- `ASYNC_ACTIVE_STATUSES`. -/
def asyncActiveStatuses : List String := ["accepted", "queued", "pending", "running", "started"]

/-- The literal set of failing statuses both pollers test. -/
def failedRunStatuses : List String := ["failed", "canceled", "cancelled", "timed_out"]

/-- `inner = data.get("data") if isinstance(data.get("data"), dict) else {}`. -/
def inner (data : Dict) : Dict := data.child "data"

/-- The effective run status: the inner one first, lower-cased. -/
def runStatus (data : Dict) : String :=
  lower (firstString [(inner data).get "status", data.get "status"])

/-- Is the answer an asynchronous acceptance? -/
def isActive (data : Dict) : Bool := asyncActiveStatuses.contains (runStatus data)

/-- The test both pollers stop on. -/
def isFinished (data : Dict) : Bool :=
  asyncTerminalStatuses.contains (runStatus data) || isTrue ((inner data).get "is_terminal")

/-- The test both pollers fail on, once the run is finished. -/
def isFailedRun (data : Dict) : Bool := failedRunStatuses.contains (runStatus data)

/-- `_first_string(inner.get("run_id"), data.get("run_id"))`. -/
def runId (data : Dict) : String := firstString [(inner data).get "run_id", data.get "run_id"]

/-- `_first_string(inner.get("poll_url"), data.get("poll_url"))`. -/
def pollUrl (data : Dict) : String := firstString [(inner data).get "poll_url", data.get "poll_url"]

/-- `_first_string(inner.get("correlation_id"), data.get("correlation_id"))`. -/
def correlationId (data : Dict) : String :=
  firstString [(inner data).get "correlation_id", data.get "correlation_id"]

/-- `_unwrap_mcp_envelope`. -/
def unwrapMcpEnvelope (payload : Dict) : Dict :=
  match isTrue (payload.get "ok"), payload.get "data" with
  | true, .obj data => data
  | _, _ => payload

/-! ## Context digests -/

/-- The characters of a hexadecimal digest. -/
def isHexChar (c : Char) : Bool := "0123456789abcdefABCDEF".toList.contains c

/-- `_valid_ctxpack_digest`. -/
def validCtxpackDigest : Json → String
  | .str value =>
      let text := strip value
      let text := if startsWith text "sha256:" then dropChars 7 text else text
      if text.toList.length = 64 ∧ text.toList.all isHexChar = true then text else ""
  | _ => ""

/-- `_first_valid_ctxpack_digest`. -/
def firstValidCtxpackDigest : List Json → String
  | [] => ""
  | v :: rest =>
      if validCtxpackDigest v = "" then firstValidCtxpackDigest rest else validCtxpackDigest v

/-- `data.data.run`. -/
def innerRun (data : Dict) : Dict := (inner data).child "run"

/-- `data.data.run.result`. -/
def innerRunResult (data : Dict) : Dict := (innerRun data).child "result"

/-- `data.data.result`. -/
def nestedResult (data : Dict) : Dict := (inner data).child "result"

/-- `data.data.run.result.context_card.determinism`. -/
def determinism (data : Dict) : Dict := ((innerRunResult data).child "context_card").child "determinism"

/-- `_extract_context_id`. -/
def extractContextId (data : Dict) : String :=
  firstString [
    data.get "governance_context_id",
    data.get "ctxpack_digest",
    data.get "digest",
    data.get "ctx_ref_sha256",
    (data.child "result").get "governance_context_id",
    (data.child "result").get "ctxpack_digest",
    (inner data).get "governance_context_id",
    (inner data).get "ctxpack_digest",
    (nestedResult data).get "governance_context_id",
    (nestedResult data).get "ctxpack_digest",
    (innerRunResult data).get "governance_context_id",
    (innerRunResult data).get "ctxpack_digest",
    (innerRunResult data).get "ctx_ref_sha256",
    (determinism data).get "digest",
    (data.child "keyhole").get "ctx_ref_sha256"]

/-- `_extract_context_digest`. -/
def extractContextDigest (data : Dict) : String :=
  firstValidCtxpackDigest [
    data.get "ctxpack_digest",
    data.get "digest",
    data.get "ctx_ref_sha256",
    (data.child "result").get "ctxpack_digest",
    (inner data).get "ctxpack_digest",
    (nestedResult data).get "ctxpack_digest",
    ((inner data).child "output").get "ctxpack_digest",
    (innerRunResult data).get "ctxpack_digest",
    (innerRunResult data).get "ctx_ref_sha256",
    (determinism data).get "digest",
    (data.child "keyhole").get "ctx_ref_sha256"]

/-- `_extract_context_digest(data) or context_id`. -/
def contextDigestOr (data : Dict) (contextId : String) : String :=
  if extractContextDigest data = "" then contextId else extractContextDigest data

/-- The sections `_extract_current_canonical_digest` searches under `key`. -/
def canonicalSections (data : Dict) (key : String) : List Dict :=
  match data.get key with
  | .obj child =>
      match Dict.get child "result" with
      | .obj nested => [child, nested]
      | _ => [child]
  | _ => []

/-- `_extract_current_canonical_digest`. -/
def extractCurrentCanonicalDigest (data : Dict) : String :=
  let sections := data :: canonicalSections data "data" ++ canonicalSections data "result"
  let raw := strip (firstString (sections.flatMap (fun section_ =>
    [(section_.child "canonical").get "current_canonical_digest",
      section_.get "current_canonical_digest"])))
  if startsWith raw "sha256:" then dropChars 7 raw else raw

/-! ## Claims and registrations -/

/-- `_extract_claim_id`. -/
def extractClaimId (data : Dict) : String :=
  firstString [
    data.get "claim_id",
    (data.child "result").get "claim_id",
    (inner data).get "claim_id",
    (nestedResult data).get "claim_id",
    (innerRun data).get "claim_id"]

/-- `_extract_claim_ref`. -/
def extractClaimRef (data : Dict) : String :=
  firstString [
    data.get "claim_ref",
    data.get "claim_token",
    (data.child "result").get "claim_ref",
    (data.child "result").get "claim_token",
    (inner data).get "claim_ref",
    (inner data).get "claim_token",
    (nestedResult data).get "claim_ref",
    (nestedResult data).get "claim_token",
    (innerRun data).get "claim_ref"]

/-- The registration id as `GovernedRepoFlowClient.register_repo` reads it. -/
def extractRegistrationId (data : Dict) : String :=
  firstString [
    data.get "registration_id",
    data.get "repo_id",
    data.get "declaration_id",
    data.get "governance_context_id",
    data.get "ctxpack_digest",
    data.get "id",
    (data.child "result").get "registration_id",
    (data.child "result").get "repo_id",
    (data.child "result").get "declaration_id",
    (data.child "result").get "governance_context_id",
    (inner data).get "registration_id",
    (nestedResult data).get "registration_id"]

/-- The registration id as `_update_state_from_result` reads it after a crash. -/
def recoverRegistrationId (data : Dict) : String :=
  firstString [
    data.get "registration_id",
    data.get "repo_id",
    data.get "declaration_id",
    (data.child "result").get "registration_id"]

/-- The recovery finds a registration id in fewer places, never in other ones. -/
theorem extractRegistrationId_of_recovered {d : Dict} (h : recoverRegistrationId d ≠ "") :
    extractRegistrationId d ≠ "" :=
  firstString_of_subset (by simp) h

/-! ## Receipts -/

/-- `GovernanceReceipt`, timestamps as the ISO text `model_dump` prints. -/
structure GovernanceReceipt where
  digest : String
  status : String
  message : String
  realizedAt : String
  governed : Bool
  eventSpineEvidence : Bool
  governanceVerdict : Option String
  driftState : Option String
  governanceContextId : Option String
  mcpEventId : Option String
  proofId : Option String
  receiptId : Option String
  passportDigest : Option String
  trustDigest : Option String

/-- `_normalize_governance_receipt`, with `now` the clock it falls back to.  It
    fills every field, the optional ones with a possibly empty text. -/
def normalizeGovernanceReceipt (data : Dict) (candidateDigest now : String) : GovernanceReceipt :=
  let normalized := unwrapMcpEnvelope data
  let result := normalized.child "result"
  let inner := normalized.child "data"
  let receipt := result.child "receipt"
  let evidence := result.child "evidence"
  { digest := firstString [normalized.get "digest", result.get "digest", inner.get "digest",
      .str candidateDigest]
    status := firstString [normalized.get "status", result.get "status", inner.get "status",
      .str "ACCEPT"]
    message := firstString [normalized.get "message", result.get "message", inner.get "message"]
    realizedAt := firstString [normalized.get "realized_at", result.get "realized_at",
      inner.get "realized_at", .str now]
    governed := firstBool [normalized.get "governed", result.get "governed", inner.get "governed",
      receipt.get "governed"]
    eventSpineEvidence := firstBool [normalized.get "event_spine_evidence",
      result.get "event_spine_evidence", inner.get "event_spine_evidence",
      receipt.get "event_spine_evidence"]
    governanceVerdict := some (firstString [normalized.get "governance_verdict",
      normalized.get "verdict", result.get "governance_verdict", result.get "verdict",
      inner.get "governance_verdict", receipt.get "governance_verdict", receipt.get "verdict"])
    driftState := some (firstString [normalized.get "drift_state", result.get "drift_state",
      inner.get "drift_state", receipt.get "drift_state"])
    governanceContextId := some (firstString [normalized.get "governance_context_id",
      result.get "governance_context_id", inner.get "governance_context_id",
      receipt.get "governance_context_id"])
    mcpEventId := some (firstString [normalized.get "mcp_event_id",
      normalized.get "mcp_event_pointer", normalized.get "event_id", result.get "mcp_event_id",
      result.get "mcp_event_pointer", result.get "event_id", result.get "event_pointer",
      inner.get "mcp_event_id", inner.get "mcp_event_pointer", receipt.get "mcp_event_id",
      receipt.get "mcp_event_pointer", evidence.get "event_id", evidence.get "event_pointer"])
    proofId := some (firstString [normalized.get "proof_id", result.get "proof_id",
      receipt.get "proof_id"])
    receiptId := some (firstString [normalized.get "receipt_id", result.get "receipt_id",
      receipt.get "receipt_id", normalized.get "run_id"])
    passportDigest := some (firstString [normalized.get "passport_digest",
      result.get "passport_digest", receipt.get "passport_digest"])
    trustDigest := some (firstString [normalized.get "trust_digest", result.get "trust_digest",
      receipt.get "trust_digest"]) }

/-- `not text`, for an optional text. -/
def missingText : Option String → Bool
  | none => true
  | some s => s == ""

/-- `_validate_governed_receipt`: the error message, `none` when it passes. -/
def validateGovernedReceipt (receipt : GovernanceReceipt) : Option String :=
  if receipt.governed = false then
    some "runtime receipt did not report governed=true."
  else if receipt.eventSpineEvidence = false then
    some "runtime receipt missing upstream event_spine_evidence=true."
  else if receipt.governanceVerdict ≠ some "ACCEPT" then
    some "runtime receipt missing governance_verdict=ACCEPT."
  else if missingText receipt.driftState then
    some "runtime receipt missing drift_state."
  else if missingText receipt.governanceContextId then
    some "runtime receipt missing governance_context_id."
  else if missingText receipt.mcpEventId then
    some "runtime receipt missing mcp_event_id or event pointer."
  else none

/-- What an optional text is dumped as. -/
def optionalText : Option String → Json
  | none => .null
  | some s => .str s

/-- `receipt.model_dump(mode="json")`, which is also the `_receipt_state` of that
    dump. -/
def receiptState (receipt : GovernanceReceipt) : Dict :=
  [("digest", .str receipt.digest),
    ("status", .str receipt.status),
    ("message", .str receipt.message),
    ("realized_at", .str receipt.realizedAt),
    ("governed", .bool receipt.governed),
    ("event_spine_evidence", .bool receipt.eventSpineEvidence),
    ("governance_verdict", optionalText receipt.governanceVerdict),
    ("drift_state", optionalText receipt.driftState),
    ("governance_context_id", optionalText receipt.governanceContextId),
    ("mcp_event_id", optionalText receipt.mcpEventId),
    ("proof_id", optionalText receipt.proofId),
    ("receipt_id", optionalText receipt.receiptId),
    ("passport_digest", optionalText receipt.passportDigest),
    ("trust_digest", optionalText receipt.trustDigest)]

/-- A receipt that passes validation names a governance context. -/
theorem context_of_valid_receipt {receipt : GovernanceReceipt}
    (h : validateGovernedReceipt receipt = none) :
    ∃ c, receipt.governanceContextId = some c ∧ c ≠ "" := by
  have hm : missingText receipt.governanceContextId = false := by
    cases hc : missingText receipt.governanceContextId with
    | false => rfl
    | true =>
      rw [validateGovernedReceipt, hc] at h
      repeat' split at h
      all_goals contradiction
  cases hc : receipt.governanceContextId with
  | none => rw [hc] at hm; exact nomatch hm
  | some c =>
    refine ⟨c, rfl, ?_⟩
    rintro rfl
    rw [hc] at hm
    exact nomatch hm

/-! ## Error texts -/

/-- The first candidate `_error_detail` can print. -/
def firstDetail (body : Dict) : List Json → String
  | [] => takeChars 500 (dumps compactSeparators (redact (.obj body)))
  | .str s :: rest => if strip s = "" then firstDetail body rest else strip s
  | .obj d :: rest =>
      if d.isEmpty then firstDetail body rest
      else takeChars 500 (dumps compactSeparators (redact (.obj d)))
  | .arr xs :: rest =>
      if xs.isEmpty then firstDetail body rest
      else takeChars 500 (dumps compactSeparators (redact (.arr xs)))
  | _ :: rest => firstDetail body rest

/-- `_error_detail`. -/
def errorDetail (body : Dict) : String :=
  let error := body.child "error"
  firstDetail body [body.get "reason", body.get "message", body.get "detail",
    error.get "reason", error.get "message", error.get "detail", error.get "code"]

/-- `_raise_for_mcp_error`: the error message, `none` when the answer is not
    `ok=false`. -/
def mcpError (data : Dict) (action : String) : Option String :=
  if isFalse (data.get "ok") then
    let error := data.child "error"
    let code := firstString [error.get "code", (inner data).get "code"]
    let message := firstString [error.get "message", (inner data).get "message",
      data.get "message"]
    let detail :=
      if code ≠ "" ∧ message ≠ "" then code ++ ": " ++ message
      else if code ≠ "" then code
      else if message ≠ "" then message
      else "MCP returned ok=false"
    some (action ++ " rejected by MCP: " ++ detail)
  else none

/-- The code and message of a failed run; `fallback` is the last resort for the
    code. -/
def runError (data : Dict) (fallback : List Json) : String × String :=
  let error := (inner data).child "error"
  let code := firstString ([error.get "code", (inner data).get "terminal_reason"] ++ fallback)
  (code, firstString [error.get "message", .str code])

end KeyholeEnvelope
