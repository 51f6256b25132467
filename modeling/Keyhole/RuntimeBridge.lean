import Keyhole.JsonDocument

/-!
# The governance bridge of the test runtime

`bridge.py` asks the MCP server about a candidate and turns whatever comes back into
a verdict.  An approval is normalised into a governance receipt whose verdict and
drift state fall back to texts of the bridge's own; the texts a response really
carries are kept apart here, because the route only sees the receipt. -/

namespace KeyholeRuntime

open KeyholeJson

/-- The configuration read from the environment of the process. -/
structure BridgeConfig where
  mcpUrl : String
  mcpToken : String
  runType : String
  /-- `str(_MCP_TIMEOUT)` -/
  timeout : String

/-- The mode of the runtime. -/
inductive RuntimeMode where
  | governed
  | misconfigured
  | localOnly
  deriving DecidableEq, Repr

/-- `resolve_mode`, which `governance_mode` repeats. -/
def resolveMode (config : BridgeConfig) : RuntimeMode :=
  if config.mcpUrl ≠ "" ∧ config.mcpToken ≠ "" then .governed
  else if config.mcpUrl ≠ "" ∧ config.mcpToken = "" then .misconfigured
  else .localOnly

/-! ## Evidence -/

/-- `data["result"]`, as a dictionary. -/
def resultOf (data : Dict) : Dict := data.child "result"

/-- `data["result"]["receipt"]`. -/
def receiptOf (data : Dict) : Dict := (resultOf data).child "receipt"

/-- `data["result"]["evidence"]`. -/
def evidenceOf (data : Dict) : Dict := (resultOf data).child "evidence"

/-- The places a governance verdict is read from. -/
def verdictPlaces (data : Dict) : List Json :=
  [(resultOf data).get "governance_verdict", (resultOf data).get "verdict",
    (receiptOf data).get "governance_verdict", (receiptOf data).get "verdict"]

/-- The places a drift state is read from. -/
def driftPlaces (data : Dict) : List Json :=
  [(resultOf data).get "drift_state", (receiptOf data).get "drift_state"]

/-- The places a governance context id is read from. -/
def contextPlaces (data : Dict) : List Json :=
  [(resultOf data).get "governance_context_id", (receiptOf data).get "governance_context_id"]

/-- The places an event id or pointer is read from. -/
def eventPlaces (data : Dict) : List Json :=
  [(resultOf data).get "mcp_event_id", (resultOf data).get "event_id",
    (resultOf data).get "event_pointer", (receiptOf data).get "mcp_event_id",
    (evidenceOf data).get "event_id", (evidenceOf data).get "event_pointer"]

/-- The receipt `_extract_governance_receipt` returns. -/
structure GovernanceEvidence where
  governed : Bool
  eventSpineEvidence : Bool
  governanceVerdict : String
  driftState : String
  governanceContextId : String
  mcpEventId : String
  proofId : String
  receiptId : String
  rawResult : Dict

/-- `_extract_governance_receipt`. -/
def extractGovernanceReceipt (data : Dict) : GovernanceEvidence where
  governed := true
  eventSpineEvidence := firstString (eventPlaces data) != ""
  governanceVerdict := firstString (verdictPlaces data ++ [.str "APPROVED"])
  driftState := firstString (driftPlaces data ++ [.str "not_reported"])
  governanceContextId := firstString (contextPlaces data)
  mcpEventId := firstString (eventPlaces data)
  proofId := firstString [(resultOf data).get "proof_id", (receiptOf data).get "proof_id",
    (evidenceOf data).get "proof_id"]
  receiptId := firstString [(resultOf data).get "receipt_id", (receiptOf data).get "receipt_id",
    data.get "run_id"]
  rawResult := resultOf data

/-- The verdict a response carries, `""` when it carries none. -/
def carriedVerdict (data : Dict) : String := firstString (verdictPlaces data)

/-- The drift state a response carries. -/
def carriedDrift (data : Dict) : String := firstString (driftPlaces data)

/-- The governance context a response carries. -/
def carriedContext (data : Dict) : String := firstString (contextPlaces data)

/-- The event a response carries. -/
def carriedEvent (data : Dict) : String := firstString (eventPlaces data)

/-- The verdict of the receipt is the carried one, or the bridge's own word. -/
theorem extract_governanceVerdict (data : Dict) :
    (extractGovernanceReceipt data).governanceVerdict
      = if carriedVerdict data = "" then "APPROVED" else carriedVerdict data :=
  firstString_append _ _

theorem extract_driftState (data : Dict) :
    (extractGovernanceReceipt data).driftState
      = if carriedDrift data = "" then "not_reported" else carriedDrift data :=
  firstString_append _ _

/-- The defaults fill the verdict and the drift state of every receipt. -/
theorem extract_filled (data : Dict) :
    (extractGovernanceReceipt data).governanceVerdict ≠ "" ∧
      (extractGovernanceReceipt data).driftState ≠ "" := by
  constructor
  · rw [extract_governanceVerdict]
    by_cases h : carriedVerdict data = ""
    · rw [if_pos h]
      decide
    · rw [if_neg h]
      exact h
  · rw [extract_driftState]
    by_cases h : carriedDrift data = ""
    · rw [if_pos h]
      decide
    · rw [if_neg h]
      exact h

/-! ## The check -/

/-- What the POST to the MCP server comes to.  A body is a JSON value, or the text of
    the decoder's error. -/
inductive McpOutcome where
  | response (statusCode : Nat) (body : Except String Json)
  | timeout
  | raised (text : String)

/-- The dictionary `governance_check` returns. -/
structure Verdict where
  ok : Bool
  verdict : String
  reason : Json
  mcp : Option Json
  governanceReceipt : Option GovernanceEvidence

/-- The name of the type of a decoded value. -/
def pyTypeName : Json → String
  | .null => "NoneType"
  | .bool _ => "bool"
  | .int _ => "int"
  | .float _ => "float"
  | .str _ => "str"
  | .arr _ => "list"
  | .obj _ => "dict"

/-- A rejection without an MCP result. -/
def rejection (reason : String) : Verdict := ⟨false, "REJECT", .str reason, none, none⟩

/-- The rejection of an unexpected exception. -/
def errorRejection (text : String) : Verdict := rejection ("Governance check error: " ++ text)

/-- The rejection of `value.get(...)` on a value that is no dictionary. -/
def noGetRejection (value : Json) : Verdict :=
  errorRejection ("'" ++ pyTypeName value ++ "' object has no attribute 'get'")

/-- The verdict on an approving document. -/
def approvedVerdict (data : Dict) : Verdict where
  ok := true
  verdict := "APPROVED"
  reason := .str "Keyhole governance approved the candidate."
  mcp := some (data.get "result")
  governanceReceipt := some (extractGovernanceReceipt data)

/-- The verdict on a rejecting document. -/
def rejectedVerdict (data : Dict) : Verdict :=
  match data.getOr "error" (.obj []) with
  | .obj error =>
      { ok := false
        verdict := "REJECT"
        reason := Dict.getOr error "message" (.str "Governance rejected the candidate.")
        mcp := some (.obj error)
        governanceReceipt := none }
  | error => noGetRejection error

/-- The verdict on a document with status 200. -/
def verdictOnDocument (data : Dict) : Verdict :=
  if truthy (data.get "ok") then approvedVerdict data else rejectedVerdict data

/-- The verdict on a decoded body with status 200. -/
def verdictOnBody : Json → Verdict
  | .obj data => verdictOnDocument data
  | body => noGetRejection body

/-- The verdict on what the POST came to. -/
def verdictOn (config : BridgeConfig) : McpOutcome → Verdict
  | .response status body =>
      if status = 200 then
        match body with
        | .ok value => verdictOnBody value
        | .error text => errorRejection text
      else if status = 401 ∨ status = 403 then
        rejection ("Governance auth failure (HTTP " ++ toString status
          ++ "). Check KEYHOLE_MCP_TOKEN.")
      else rejection ("Governance check failed with HTTP " ++ toString status ++ ".")
  | .timeout => rejection ("Governance check timed out after " ++ config.timeout ++ "s.")
  | .raised text => errorRejection text

/-- `governance_check`, on what the POST would come to. -/
def governanceCheck (config : BridgeConfig) (outcome : McpOutcome) : Verdict :=
  if config.mcpUrl = "" then
    { ok := true
      verdict := "LOCAL_ONLY"
      reason := .str ("No MCP governance configured. Set KEYHOLE_MCP_URL and "
        ++ "KEYHOLE_MCP_TOKEN.")
      mcp := none
      governanceReceipt := none }
  else if config.mcpToken = "" then
    rejection ("Governance misconfigured: KEYHOLE_MCP_TOKEN is required when "
      ++ "KEYHOLE_MCP_URL is set.")
  else verdictOn config outcome

/-- The body of the POST. -/
def checkRequest (config : BridgeConfig) (candidateDigest : String) (payload : Dict) : Dict :=
  [("run_type", .str config.runType),
    ("parameters", .obj [("candidate_digest", .str candidateDigest), ("payload", .obj payload)])]

/-- The document of an approving response. -/
def McpOutcome.approval : McpOutcome → Option Dict
  | .response status body =>
      match body with
      | .ok (.obj data) => if status = 200 ∧ truthy (Dict.get data "ok") then some data else none
      | _ => none
  | _ => none

theorem rejectedVerdict_ok (data : Dict) : (rejectedVerdict data).ok = false := by
  unfold rejectedVerdict
  cases data.getOr "error" (.obj []) <;> rfl

theorem verdictOnDocument_cases (data : Dict) :
    (truthy (data.get "ok") = true ∧ verdictOnDocument data = approvedVerdict data) ∨
      (truthy (data.get "ok") ≠ true ∧ (verdictOnDocument data).ok = false) := by
  unfold verdictOnDocument
  by_cases h : truthy (data.get "ok") = true
  · exact .inl ⟨h, if_pos h⟩
  · right
    rw [if_neg h]
    exact ⟨h, rejectedVerdict_ok data⟩

theorem governed_config {config : BridgeConfig} (hmode : resolveMode config = .governed) :
    config.mcpUrl ≠ "" ∧ config.mcpToken ≠ "" := by
  unfold resolveMode at hmode
  by_cases h : config.mcpUrl ≠ "" ∧ config.mcpToken ≠ ""
  · exact h
  · rw [if_neg h] at hmode
    by_cases h' : config.mcpUrl ≠ "" ∧ config.mcpToken = ""
    · rw [if_pos h'] at hmode
      exact nomatch hmode
    · rw [if_neg h'] at hmode
      exact nomatch hmode

theorem verdictOn_status (config : BridgeConfig) {status : Nat} (h : status ≠ 200)
    (body : Except String Json) : (verdictOn config (.response status body)).ok = false := by
  show (if status = 200 then _ else _ : Verdict).ok = false
  rw [if_neg h]
  by_cases hauth : status = 401 ∨ status = 403
  · rw [if_pos hauth]
    rfl
  · rw [if_neg hauth]
    rfl

/-- In governed mode the bridge approves exactly the approving responses, with the
    receipt extracted from their document. -/
theorem governanceCheck_cases {config : BridgeConfig} (hmode : resolveMode config = .governed)
    (outcome : McpOutcome) :
    (outcome.approval = none ∧ (governanceCheck config outcome).ok = false) ∨
      ∃ data, outcome.approval = some data ∧
        governanceCheck config outcome = approvedVerdict data := by
  obtain ⟨hurl, htoken⟩ := governed_config hmode
  unfold governanceCheck
  rw [if_neg hurl, if_neg htoken]
  cases outcome with
  | timeout => exact .inl ⟨rfl, rfl⟩
  | raised text => exact .inl ⟨rfl, rfl⟩
  | response status body =>
    by_cases hs : status = 200
    · subst hs
      cases body with
      | error text => exact .inl ⟨rfl, rfl⟩
      | ok value =>
        cases value with
        | obj data =>
          rcases verdictOnDocument_cases data with ⟨hok, heq⟩ | ⟨hno, heq⟩
          · exact .inr ⟨data, if_pos ⟨rfl, hok⟩, heq⟩
          · exact .inl ⟨if_neg (fun h => hno h.2), heq⟩
        | _ => exact .inl ⟨rfl, rfl⟩
    · left
      refine ⟨?_, verdictOn_status config hs body⟩
      cases body with
      | error text => rfl
      | ok value =>
        cases value with
        | obj data => exact if_neg (fun h => hs h.1)
        | _ => rfl

end KeyholeRuntime
