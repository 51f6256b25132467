import Mathlib.Logic.Relation
import Keyhole.RuntimeBridge

/-!
# The ledger of the test runtime

`POST /realize` is two halves around one suspension point: the mode gate and the
payload before `governance_check`, the decision and `apply_digest` after it.  Handlers
that wait may be resumed in any order, so the server is modelled as a transition
system over the runtime state and the requests that wait; the history of what was
served carries, for each request, the state it was decided in. -/

namespace KeyholeRuntime

open KeyholeJson

/-! ## The state -/

/-- The receipt fields that are public. -/
structure PublicReceipt where
  governed : Bool
  eventSpineEvidence : Bool
  governanceVerdict : String
  driftState : String
  governanceContextId : Option String
  mcpEventId : Option String
  proofId : Option String
  receiptId : Option String
  passportDigest : Option String
  trustDigest : Option String

/-- An entry of `governance_receipts`. -/
structure RecordedReceipt where
  digest : String
  realizedAt : String
  receipt : PublicReceipt

/-- `RealizationReceipt`. -/
structure RealizationReceipt where
  digest : String
  status : String
  message : String
  realizedAt : String
  receipt : PublicReceipt

/-- `RuntimeState`. -/
structure RuntimeState where
  currentDigest : Option String
  realizedDigests : List String
  governanceReceipts : List RecordedReceipt
  updatedAt : String
  pointer : Nat

/-- `RuntimeState.__init__`. -/
def RuntimeState.init (now : String) : RuntimeState := ⟨none, [], [], now, 0⟩

/-- `is_realized`. -/
def RuntimeState.isRealized (state : RuntimeState) (digest : String) : Bool :=
  state.realizedDigests.contains digest

/-- `text or None`. -/
def orNone (text : String) : Option String := if text = "" then none else some text

/-- The arguments of `apply_digest`; the reason is not used. -/
structure Application where
  digest : String
  governanceVerdict : String
  governed : Bool
  eventSpineEvidence : Bool
  governanceContextId : String
  driftState : String
  mcpEventId : String
  proofId : String
  receiptId : String
  passportDigest : String
  trustDigest : String

/-- The receipt `apply_digest` builds. -/
def Application.publicReceipt (a : Application) : PublicReceipt where
  governed := a.governed
  eventSpineEvidence := a.eventSpineEvidence
  governanceVerdict := a.governanceVerdict
  driftState :=
    if a.driftState = "" then (if a.governed then "not_reported" else "not_applicable")
    else a.driftState
  governanceContextId := orNone a.governanceContextId
  mcpEventId := orNone a.mcpEventId
  proofId := orNone a.proofId
  receiptId := orNone a.receiptId
  passportDigest := orNone a.passportDigest
  trustDigest := orNone a.trustDigest

/-- The state after a digest was realized. -/
def RuntimeState.realized (state : RuntimeState) (a : Application) (now : String) :
    RuntimeState where
  currentDigest := some a.digest
  realizedDigests := state.realizedDigests ++ [a.digest]
  governanceReceipts := state.governanceReceipts ++ [⟨a.digest, now, a.publicReceipt⟩]
  updatedAt := now
  pointer := state.pointer + 1

/-- `apply_digest`. -/
def RuntimeState.applyDigest (state : RuntimeState) (a : Application) (now : String) :
    RealizationReceipt × RuntimeState :=
  if state.isRealized a.digest then
    (⟨a.digest, "ALREADY_REALIZED",
      "Digest has already been realized. No state mutation performed.", now,
      a.publicReceipt⟩, state)
  else
    (⟨a.digest, "ACCEPT", "Digest realized successfully.", now, a.publicReceipt⟩,
      state.realized a now)

/-! ## The route -/

/-- `RealizationRequest`, the fields the route reads. -/
structure RealizationRequest where
  candidateDigest : String
  payload : Option Dict
  requireGoverned : Bool
  governanceContextId : Option String
  localInvariantResult : Option Dict
  passportDigest : Option String
  trustDigest : Option String

/-- What a request is answered with. -/
inductive Reply where
  | receipt (r : RealizationReceipt)
  | error (status : Nat) (detail : Dict)

/-- `text or ""`, for an optional text. -/
def textOr (text : Option String) : String := text.getD ""

/-- `if text: payload[key] = text`. -/
def setText (payload : Dict) (key : String) (text : Option String) : Dict :=
  if textOr text = "" then payload else payload.set key (.str (textOr text))

/-- The payload the candidate is checked with. -/
def checkPayload (request : RealizationRequest) : Dict :=
  let payload := request.payload.getD []
  let payload :=
    match request.localInvariantResult with
    | some (entry :: rest) => payload.set "local_invariant_result" (.obj (entry :: rest))
    | _ => payload
  setText (setText (setText payload "governance_context_id" request.governanceContextId)
    "passport_digest" request.passportDigest) "trust_digest" request.trustDigest

/-- The first half of `realize`: the mode gate, `none` when the request goes on. -/
def refusal (config : BridgeConfig) (request : RealizationRequest) : Option Reply :=
  if request.requireGoverned = true ∧ resolveMode config ≠ .governed then
    some (.error 412 [("verdict", .str "REJECT"),
      ("reason", .str ("Governed realization requested, but KEYHOLE_MCP_URL and "
        ++ "KEYHOLE_MCP_TOKEN are not both configured.")),
      ("candidate_digest", .str request.candidateDigest),
      ("governed", .bool false), ("event_spine_evidence", .bool false)])
  else none

/-- A field of the receipt, `""` without a receipt. -/
def evidenceField (receipt : Option GovernanceEvidence) (field : GovernanceEvidence → String) :
    String :=
  match receipt with
  | some r => field r
  | none => ""

/-- The flag of the receipt. -/
def evidenceFlag (receipt : Option GovernanceEvidence) (field : GovernanceEvidence → Bool) :
    Bool :=
  match receipt with
  | some r => field r
  | none => false

/-- The required evidence fields that are missing. -/
def missingEvidence (receipt : Option GovernanceEvidence) : List String :=
  ([("governance_verdict", evidenceField receipt (·.governanceVerdict)),
    ("drift_state", evidenceField receipt (·.driftState)),
    ("governance_context_id", evidenceField receipt (·.governanceContextId)),
    ("mcp_event_id", evidenceField receipt (·.mcpEventId))].filter
      (fun field => field.2 == "")).map Prod.fst

/-- The detail of a verdict that is not ok. -/
def rejectedDetail (request : RealizationRequest) (verdict : Verdict) : Dict :=
  [("verdict", .str verdict.verdict), ("reason", verdict.reason),
    ("candidate_digest", .str request.candidateDigest)]

/-- The detail of an approval without its evidence. -/
def unevidencedDetail (request : RealizationRequest) (missing : List String) : Dict :=
  [("verdict", .str "REJECT"),
    ("reason", .str ("Governed realization approved by MCP but missing required "
      ++ "upstream evidence fields: "
      ++ join ", " (if missing = [] then ["event_spine_evidence"] else missing))),
    ("candidate_digest", .str request.candidateDigest),
    ("governed", .bool false), ("event_spine_evidence", .bool false)]

/-- Does the evidence gate stop the request? -/
def unevidenced (request : RealizationRequest) (receipt : Option GovernanceEvidence) : Prop :=
  request.requireGoverned = true ∧
    (missingEvidence receipt ≠ [] ∨ evidenceFlag receipt (·.eventSpineEvidence) = false)

instance (request : RealizationRequest) (receipt : Option GovernanceEvidence) :
    Decidable (unevidenced request receipt) := by unfold unevidenced; infer_instance

/-- The arguments `realize` passes to `apply_digest`. -/
def applicationOf (request : RealizationRequest) (verdict : Verdict) : Application :=
  let receipt := verdict.governanceReceipt
  let text := evidenceField receipt
  { digest := request.candidateDigest
    governanceVerdict :=
      if text (·.governanceVerdict) = "" then verdict.verdict else text (·.governanceVerdict)
    governed := evidenceFlag receipt (·.governed)
    eventSpineEvidence := evidenceFlag receipt (·.eventSpineEvidence)
    governanceContextId :=
      if text (·.governanceContextId) = "" then textOr request.governanceContextId
      else text (·.governanceContextId)
    driftState := text (·.driftState)
    mcpEventId := text (·.mcpEventId)
    proofId := text (·.proofId)
    receiptId := text (·.receiptId)
    passportDigest := textOr request.passportDigest
    trustDigest := textOr request.trustDigest }

/-- The second half of `realize`: the decision on a verdict. -/
def settle (request : RealizationRequest) (verdict : Verdict) (now : String)
    (state : RuntimeState) : Reply × RuntimeState :=
  if verdict.ok = false then (.error 422 (rejectedDetail request verdict), state)
  else if unevidenced request verdict.governanceReceipt then
    (.error 502 (unevidencedDetail request (missingEvidence verdict.governanceReceipt)), state)
  else
    let applied := state.applyDigest (applicationOf request verdict) now
    (.receipt applied.1, applied.2)

/-! ## The server -/

/-- A request that was answered after its check. -/
structure Served where
  request : RealizationRequest
  outcome : McpOutcome
  before : RuntimeState
  reply : Reply
  after : RuntimeState

/-- Answer a request on what its check came to. -/
def serve (config : BridgeConfig) (request : RealizationRequest) (outcome : McpOutcome)
    (now : String) (state : RuntimeState) : Served :=
  let result := settle request (governanceCheck config outcome) now state
  ⟨request, outcome, state, result.1, result.2⟩

/-- The runtime with the handlers that wait for their check, and what was served,
    newest first. -/
structure Server where
  state : RuntimeState
  waiting : List RealizationRequest
  history : List Served

/-- One step of the server.  Any handler that waits may be the next to go on. -/
inductive ServerStep (config : BridgeConfig) : Server → Server → Prop where
  | refused (request : RealizationRequest) (reply : Reply)
      (h : refusal config request = some reply) (v : Server) : ServerStep config v v
  | admitted (request : RealizationRequest) (h : refusal config request = none) (v : Server) :
      ServerStep config v { v with waiting := v.waiting ++ [request] }
  | answered (request : RealizationRequest) (front back : List RealizationRequest)
      (outcome : McpOutcome) (now : String) (v : Server)
      (h : v.waiting = front ++ request :: back) :
      ServerStep config v
        { state := (serve config request outcome now v.state).after
          waiting := front ++ back
          history := serve config request outcome now v.state :: v.history }

/-- The servers that any sequence of requests leads to. -/
def Reachable (config : BridgeConfig) (v : Server) : Prop :=
  ∃ now, Relation.ReflTransGen (ServerStep config) ⟨.init now, [], []⟩ v

variable {config : BridgeConfig} {request : RealizationRequest}

/-- Whatever one answer preserves holds of every reachable server. -/
theorem Reachable.invariant {I : RuntimeState → List Served → Prop}
    (hinit : ∀ now, I (.init now) [])
    (hserve : ∀ request outcome now state history, I state history →
      I (serve config request outcome now state).after
        (serve config request outcome now state :: history))
    {v : Server} (h : Reachable config v) : I v.state v.history := by
  obtain ⟨now, hrun⟩ := h
  induction hrun with
  | refl => exact hinit now
  | tail _ hstep ih =>
    cases hstep with
    | refused => exact ih
    | admitted => exact ih
    | answered request front back outcome now v _ => exact hserve request outcome now _ _ ih

/-- Everything in the history was served. -/
theorem Reachable.served {v : Server} (h : Reachable config v) :
    ∀ s ∈ v.history, ∃ request outcome now state,
      s = serve config request outcome now state := by
  refine Reachable.invariant (I := fun _ history => ∀ s ∈ history, ∃ request outcome now state,
    s = serve config request outcome now state) ?_ ?_ h
  · exact fun _ _ hmem => nomatch hmem
  · intro request outcome now state history ih s hmem
    rcases List.mem_cons.mp hmem with rfl | hmem
    · exact ⟨request, outcome, now, state, rfl⟩
    · exact ih s hmem

/-! ## The evidence gate -/

/-- Of the four required fields, only the context and the event can be missing from
    an extracted receipt. -/
theorem missingEvidence_extract (data : Dict) :
    missingEvidence (some (extractGovernanceReceipt data)) = [] ↔
      carriedContext data ≠ "" ∧ carriedEvent data ≠ "" := by
  obtain ⟨hverdict, hdrift⟩ := extract_filled data
  have hcontext : (extractGovernanceReceipt data).governanceContextId = carriedContext data := rfl
  have hevent : (extractGovernanceReceipt data).mcpEventId = carriedEvent data := rfl
  simp [missingEvidence, evidenceField, List.filter_cons, hverdict, hdrift, hcontext, hevent]
  by_cases hc : carriedContext data = "" <;> by_cases he : carriedEvent data = "" <;>
    simp [hc, he]

theorem unevidenced_extract (request : RealizationRequest) (data : Dict) :
    unevidenced request (some (extractGovernanceReceipt data)) ↔
      request.requireGoverned = true ∧ (carriedContext data = "" ∨ carriedEvent data = "") := by
  have hflag : evidenceFlag (some (extractGovernanceReceipt data)) (·.eventSpineEvidence)
      = (carriedEvent data != "") := rfl
  unfold unevidenced
  rw [Ne, missingEvidence_extract, hflag]
  refine and_congr_right fun _ => ?_
  by_cases hc : carriedContext data = "" <;> by_cases he : carriedEvent data = "" <;>
    simp [hc, he]

/-- What answering a request comes to in governed mode. -/
inductive Answer (config : BridgeConfig) (request : RealizationRequest) (outcome : McpOutcome)
    (now : String) (state : RuntimeState) : Prop where
  | rejected (hno : outcome.approval = none) (detail : Dict)
      (h : serve config request outcome now state
        = ⟨request, outcome, state, .error 422 detail, state⟩)
  | stopped (data : Dict) (hok : outcome.approval = some data)
      (hgate : request.requireGoverned = true ∧
        (carriedContext data = "" ∨ carriedEvent data = "")) (detail : Dict)
      (h : serve config request outcome now state
        = ⟨request, outcome, state, .error 502 detail, state⟩)
  | applied (data : Dict) (hok : outcome.approval = some data)
      (hgate : ¬(request.requireGoverned = true ∧
        (carriedContext data = "" ∨ carriedEvent data = "")))
      (h : serve config request outcome now state
        = ⟨request, outcome, state,
            .receipt (state.applyDigest (applicationOf request (approvedVerdict data)) now).1,
            (state.applyDigest (applicationOf request (approvedVerdict data)) now).2⟩)

theorem settle_rejected {verdict : Verdict}
    (h : verdict.ok = false) (now : String) (state : RuntimeState) :
    settle request verdict now state = (.error 422 (rejectedDetail request verdict), state) :=
  if_pos h

theorem settle_approved (request : RealizationRequest) (data : Dict) (now : String)
    (state : RuntimeState) :
    settle request (approvedVerdict data) now state =
      if unevidenced request (some (extractGovernanceReceipt data)) then
        (.error 502 (unevidencedDetail request
          (missingEvidence (some (extractGovernanceReceipt data)))), state)
      else
        (.receipt (state.applyDigest (applicationOf request (approvedVerdict data)) now).1,
          (state.applyDigest (applicationOf request (approvedVerdict data)) now).2) :=
  if_neg nofun

theorem serve_cases (hmode : resolveMode config = .governed)
    (request : RealizationRequest) (outcome : McpOutcome) (now : String) (state : RuntimeState) :
    Answer config request outcome now state := by
  rcases governanceCheck_cases hmode outcome with ⟨hno, hfail⟩ | ⟨data, hok, heq⟩
  · refine .rejected hno (rejectedDetail request (governanceCheck config outcome)) ?_
    unfold serve
    rw [settle_rejected hfail]
  · by_cases hgate : unevidenced request (some (extractGovernanceReceipt data))
    · refine .stopped data hok ((unevidenced_extract request data).mp hgate)
        (unevidencedDetail request (missingEvidence (some (extractGovernanceReceipt data)))) ?_
      unfold serve
      rw [heq, settle_approved, if_pos hgate]
    · refine .applied data hok (fun h => hgate ((unevidenced_extract request data).mpr h)) ?_
      unfold serve
      rw [heq, settle_approved, if_neg hgate]

/-- The response carries each of the four required fields. -/
def Evidenced (data : Dict) : Prop :=
  carriedVerdict data ≠ "" ∧ carriedDrift data ≠ "" ∧ carriedContext data ≠ "" ∧
    carriedEvent data ≠ ""

instance (data : Dict) : Decidable (Evidenced data) := by unfold Evidenced; infer_instance

/-- The state changes on evidence only: on an approval that carries it all.  An
    approval that lacks any of it is answered with 502 and leaves the state alone, and
    so does a response that does not approve, which is answered with 422. -/
structure EvidenceGated (s : Served) : Prop where
  changed : s.after ≠ s.before → ∃ data, s.outcome.approval = some data ∧ Evidenced data
  missing : ∀ data, s.outcome.approval = some data → ¬Evidenced data →
    (∃ detail, s.reply = .error 502 detail) ∧ s.after = s.before
  rejected : s.outcome.approval = none →
    (∃ detail, s.reply = .error 422 detail) ∧ s.after = s.before

/-- No default has to stand in for what the gate is about to look at. -/
def DefaultsUnused (data : Dict) : Prop :=
  carriedContext data = "" ∨ carriedEvent data = "" ∨
    (carriedVerdict data ≠ "" ∧ carriedDrift data ≠ "")

/-- In governed mode, a governed request is answered on evidence exactly when the
    approval lacks the context or the event, or carries both verdict and drift state:
    the gate cannot see the defaults of the bridge. -/
theorem evidenceGated_iff {config : BridgeConfig} (hmode : resolveMode config = .governed)
    {v : Server} (hv : Reachable config v) {s : Served} (hs : s ∈ v.history)
    (hrequest : s.request.requireGoverned = true) :
    EvidenceGated s ↔ ∀ data, s.outcome.approval = some data → DefaultsUnused data := by
  obtain ⟨request, outcome, now, state, rfl⟩ := hv.served s hs
  cases serve_cases hmode request outcome now state with
  | rejected hno detail h =>
      rw [h]
      refine ⟨fun _ data hok => ?_,
        fun _ => ⟨fun hne => absurd rfl hne, ?_, fun _ => ⟨⟨detail, rfl⟩, rfl⟩⟩⟩
      · exact absurd (hno.symm.trans hok) (fun h => nomatch h)
      · exact fun data hok => absurd (hno.symm.trans hok) (fun h => nomatch h)
  | stopped data hok hgate detail h =>
      rw [h]
      constructor
      · intro _ data' hok'
        cases hok.symm.trans hok'
        rcases hgate.2 with hc | he
        · exact .inl hc
        · exact .inr (.inl he)
      · intro _
        refine ⟨fun hne => absurd rfl hne, fun _ _ _ => ⟨⟨detail, rfl⟩, rfl⟩, fun hno => ?_⟩
        exact absurd (hok.symm.trans hno) (fun h => nomatch h)
  | applied data hok hgate h =>
      have hgov : request.requireGoverned = true := hrequest
      rw [h]
      constructor
      · intro hgated data' hok'
        cases hok.symm.trans hok'
        by_cases hev : Evidenced data
        · exact .inr (.inr ⟨hev.1, hev.2.1⟩)
        · obtain ⟨⟨detail, hreply⟩, -⟩ := hgated.missing data hok hev
          exact nomatch hreply
      · intro hunused
        have hev : Evidenced data := by
          rcases hunused data hok with hc | he | ⟨hv, hd⟩
          · exact absurd ⟨hgov, .inl hc⟩ hgate
          · exact absurd ⟨hgov, .inr he⟩ hgate
          · exact ⟨hv, hd, fun hc => hgate ⟨hgov, .inl hc⟩, fun he => hgate ⟨hgov, .inr he⟩⟩
        refine ⟨fun _ => ⟨data, hok, hev⟩, fun data' hok' hmissing => ?_, fun hno => ?_⟩
        · cases hok.symm.trans hok'
          exact absurd hev hmissing
        · exact absurd (hok.symm.trans hno) (fun h => nomatch h)

/-! ## One request -/

/-- A runtime in governed mode. -/
def governedConfig : BridgeConfig :=
  ⟨"https://mcp.example", "token", "convergence.status.v0_1", "10.0"⟩

/-- A governed request for a digest. -/
def governedRequest (digest : String) : RealizationRequest :=
  ⟨digest, none, true, none, none, none, none⟩

/-- A response with status 200 and the envelope's `ok`. -/
def approving (result : Dict) : McpOutcome :=
  .response 200 (.ok (.obj [("ok", .bool true), ("result", .obj result)]))

/-- A server that was asked for one digest and heard back. -/
def servedOnce (config : BridgeConfig) (request : RealizationRequest) (outcome : McpOutcome) :
    Server where
  state := (serve config request outcome "t1" (.init "t0")).after
  waiting := []
  history := [serve config request outcome "t1" (.init "t0")]

theorem servedOnce_reachable (h : refusal config request = none) (outcome : McpOutcome) :
    Reachable config (servedOnce config request outcome) := by
  refine ⟨"t0", ?_⟩
  have hadmitted := ServerStep.admitted request h ⟨.init "t0", [], []⟩
  have hanswered : ServerStep config ⟨.init "t0", [request], []⟩ _ :=
    .answered request [] [] outcome "t1" _ rfl
  exact .tail (.tail .refl hadmitted) hanswered

/-- The answer of a server that reports everything. -/
def reportedResult : Dict :=
  [("governance_verdict", .str "APPROVED"), ("drift_state", .str "none"),
    ("governance_context_id", .str "gcd-1"), ("mcp_event_id", .str "event-1")]

/-- The answer of a server that names a context and an event, and nothing else. -/
def bareResult : Dict :=
  [("governance_context_id", .str "gcd-1"), ("event_id", .str "event-1")]

/-- A full report is answered on evidence. -/
theorem reported_evidenceGated :
    EvidenceGated (serve governedConfig (governedRequest "sha256:a") (approving reportedResult)
      "t1" (.init "t0")) := by
  refine (evidenceGated_iff (by decide : resolveMode governedConfig = .governed)
    (servedOnce_reachable (rfl : refusal governedConfig (governedRequest "sha256:a") = none)
      (approving reportedResult))
    List.mem_cons_self rfl).mpr ?_
  intro data hok
  cases hok
  exact .inr (.inr (by decide))

/-- A response with neither verdict nor drift state realizes the digest. -/
theorem bare_response_realized :
    ¬∀ (config : BridgeConfig), resolveMode config = .governed →
      ∀ v, Reachable config v → ∀ s ∈ v.history, s.request.requireGoverned = true →
        EvidenceGated s := by
  intro h
  have hgated := h governedConfig (by decide) _
    (servedOnce_reachable (rfl : refusal governedConfig (governedRequest "sha256:a") = none)
      (approving bareResult))
    _ List.mem_cons_self rfl
  obtain ⟨data, hok, hev⟩ := hgated.changed (fun heq => nomatch congrArg (·.pointer) heq)
  cases hok
  exact absurd hev (by decide)

/-! ## Rejecting verdicts -/

/-- The document of a response, whatever its status. -/
def McpOutcome.document : McpOutcome → Option Dict
  | .response _ (.ok (.obj data)) => some data
  | _ => none

theorem document_of_approval {outcome : McpOutcome} {data : Dict}
    (h : outcome.approval = some data) : outcome.document = some data := by
  cases outcome with
  | timeout => exact nomatch h
  | raised text => exact nomatch h
  | response status body =>
    cases body with
    | error text => exact nomatch h
    | ok value =>
      cases value with
      | obj d =>
        have hboth : (if status = 200 ∧ truthy (Dict.get d "ok") = true then some d
            else none) = some data := h
        by_cases hok : status = 200 ∧ truthy (Dict.get d "ok") = true
        · rw [if_pos hok] at hboth
          exact hboth
        · rw [if_neg hok] at hboth
          exact nomatch hboth
      | _ => exact nomatch h

section Rejection

/- Which verdicts reject is the server's business; the bridge's own word does not. -/
variable (rejecting : String → Prop)

/-- The response carries a verdict, and it rejects. -/
def CarriesRejection (data : Dict) : Prop :=
  carriedVerdict data ≠ "" ∧ rejecting (carriedVerdict data)

/-- A rejected candidate is not realized, and no receipt is recorded for it. -/
def RejectedUnrealized (s : Served) : Prop :=
  ∀ data, s.outcome.document = some data → CarriesRejection rejecting data →
    s.after.realizedDigests = s.before.realizedDigests ∧
      s.after.governanceReceipts = s.before.governanceReceipts

/-- No recorded receipt has a rejecting verdict. -/
def NoRejectedReceipts (state : RuntimeState) : Prop :=
  ∀ r ∈ state.governanceReceipts, ¬rejecting r.receipt.governanceVerdict

/-- An approving envelope around a rejecting verdict is stopped by something else: by
    the evidence gate, or because the digest was realized before. -/
def RejectionStopped (s : Served) : Prop :=
  ∀ data, s.outcome.approval = some data → CarriesRejection rejecting data →
    (s.request.requireGoverned = true ∧ (carriedContext data = "" ∨ carriedEvent data = "")) ∨
      s.before.isRealized s.request.candidateDigest = true

variable {rejecting}

/-- The verdict of the receipt a digest is realized with. -/
theorem applicationOf_governanceVerdict (request : RealizationRequest) (data : Dict) :
    (applicationOf request (approvedVerdict data)).governanceVerdict
      = if carriedVerdict data = "" then "APPROVED" else carriedVerdict data := by
  have hfilled : (extractGovernanceReceipt data).governanceVerdict ≠ "" := (extract_filled data).1
  have happlied : (applicationOf request (approvedVerdict data)).governanceVerdict
      = (extractGovernanceReceipt data).governanceVerdict := if_neg hfilled
  rw [happlied, extract_governanceVerdict]

theorem applied_rejection (hdefault : ¬rejecting "APPROVED") (request : RealizationRequest)
    (data : Dict) :
    rejecting (applicationOf request (approvedVerdict data)).governanceVerdict ↔
      CarriesRejection rejecting data := by
  rw [applicationOf_governanceVerdict]
  by_cases h : carriedVerdict data = ""
  · rw [if_pos h]
    exact ⟨fun hr => absurd hr hdefault, fun hr => absurd h hr.1⟩
  · rw [if_neg h]
    exact ⟨fun hr => ⟨h, hr⟩, fun hr => hr.2⟩

/-- `apply_digest` either changes nothing or realizes a digest that was not. -/
theorem applyDigest_cases (state : RuntimeState) (a : Application) (now : String) :
    (state.isRealized a.digest = true ∧ (state.applyDigest a now).2 = state) ∨
      (state.isRealized a.digest ≠ true ∧
        (state.applyDigest a now).2 = state.realized a now) := by
  unfold RuntimeState.applyDigest
  by_cases h : state.isRealized a.digest = true
  · rw [if_pos h]
    exact .inl ⟨h, rfl⟩
  · rw [if_neg h]
    exact .inr ⟨h, rfl⟩

/-- One request: the rejected candidate stays unrealized exactly when its rejection
    is stopped. -/
theorem rejectedUnrealized_iff (hmode : resolveMode config = .governed)
    (request : RealizationRequest) (outcome : McpOutcome) (now : String) (state : RuntimeState) :
    RejectedUnrealized rejecting (serve config request outcome now state) ↔
      RejectionStopped rejecting (serve config request outcome now state) := by
  cases serve_cases hmode request outcome now state with
  | rejected hno detail h =>
    rw [h]
    refine ⟨fun _ data hok => ?_, fun _ _ _ _ => ⟨rfl, rfl⟩⟩
    exact absurd (hno.symm.trans hok) nofun
  | stopped data hok hgate detail h =>
    rw [h]
    refine ⟨fun _ data' hok' _ => ?_, fun _ _ _ _ => ⟨rfl, rfl⟩⟩
    cases hok.symm.trans hok'
    exact .inl hgate
  | applied data hok hgate h =>
    rw [h]
    constructor
    · intro hun data' hok' hcarries
      cases hok.symm.trans hok'
      right
      rcases applyDigest_cases state (applicationOf request (approvedVerdict data)) now with
        ⟨hrealized, -⟩ | ⟨-, heq⟩
      · exact hrealized
      · have hsame := (hun data (document_of_approval hok) hcarries).1
        rw [heq] at hsame
        have hlen := congrArg List.length hsame
        simp [RuntimeState.realized] at hlen
    · intro hstopped data' hdoc hcarries
      cases (document_of_approval hok).symm.trans hdoc
      rcases hstopped data hok hcarries with hgate' | hrealized
      · exact absurd hgate' hgate
      · rcases applyDigest_cases state (applicationOf request (approvedVerdict data)) now with
          ⟨-, heq⟩ | ⟨hfresh, -⟩
        · rw [heq]
          exact ⟨rfl, rfl⟩
        · exact absurd hrealized hfresh

/-- A stopped rejection records no rejecting receipt. -/
theorem serve_noRejectedReceipts
    (hmode : resolveMode config = .governed) (hdefault : ¬rejecting "APPROVED")
    {outcome : McpOutcome} {now : String} {state : RuntimeState}
    (hstopped : RejectionStopped rejecting (serve config request outcome now state))
    (hstate : NoRejectedReceipts rejecting state) :
    NoRejectedReceipts rejecting (serve config request outcome now state).after := by
  cases serve_cases hmode request outcome now state with
  | rejected hno detail h =>
    rw [h]
    exact hstate
  | stopped data hok hgate detail h =>
    rw [h]
    exact hstate
  | applied data hok hgate h =>
    rw [h] at hstopped ⊢
    rcases applyDigest_cases state (applicationOf request (approvedVerdict data)) now with
      ⟨-, heq⟩ | ⟨hfresh, heq⟩
    · rw [heq]
      exact hstate
    · rw [heq]
      intro r hr
      rcases List.mem_append.mp hr with hr | hr
      · exact hstate r hr
      · rw [List.mem_singleton.mp hr]
        intro hrejects
        have hcarries := (applied_rejection hdefault request data).mp hrejects
        rcases hstopped data hok hcarries with hgate' | hrealized
        · exact hgate hgate'
        · exact hfresh hrealized

/-- In governed mode, over every order of requests and answers: no rejected candidate
    is realized and no rejecting receipt recorded exactly when every rejecting verdict
    under an approving envelope was stopped by the evidence gate or by an earlier
    realization of its digest.  The verdict itself is never looked at. -/
theorem rejected_never_realized_iff {config : BridgeConfig}
    (hmode : resolveMode config = .governed) (hdefault : ¬rejecting "APPROVED")
    {v : Server} (hv : Reachable config v) :
    ((∀ s ∈ v.history, RejectedUnrealized rejecting s) ∧ NoRejectedReceipts rejecting v.state) ↔
      ∀ s ∈ v.history, RejectionStopped rejecting s := by
  constructor
  · rintro ⟨hunrealized, -⟩ s hs
    obtain ⟨request, outcome, now, state, rfl⟩ := hv.served s hs
    exact (rejectedUnrealized_iff hmode request outcome now state).mp (hunrealized _ hs)
  · intro hstopped
    refine ⟨fun s hs => ?_, ?_⟩
    · obtain ⟨request, outcome, now, state, rfl⟩ := hv.served s hs
      exact (rejectedUnrealized_iff hmode request outcome now state).mpr (hstopped _ hs)
    · refine Reachable.invariant (I := fun state history =>
        (∀ s ∈ history, RejectionStopped rejecting s) → NoRejectedReceipts rejecting state)
        ?_ ?_ hv hstopped
      · exact fun _ _ _ hr => nomatch hr
      · intro request outcome now state history ih hall
        refine serve_noRejectedReceipts hmode hdefault (hall _ List.mem_cons_self) (ih ?_)
        exact fun s hs => hall s (List.mem_cons_of_mem _ hs)

end Rejection

/-- The answer of a server that rejects the candidate and reports everything. -/
def rejectingResult : Dict :=
  [("governance_verdict", .str "REJECT"), ("drift_state", .str "none"),
    ("governance_context_id", .str "gcd-1"), ("mcp_event_id", .str "event-1")]

/-- A full, approving report leaves no rejecting receipt. -/
theorem reported_never_rejected :
    NoRejectedReceipts (· = "REJECT")
      (servedOnce governedConfig (governedRequest "sha256:a") (approving reportedResult)).state := by
  refine ((rejected_never_realized_iff (by decide : resolveMode governedConfig = .governed)
    (by decide) (servedOnce_reachable
      (rfl : refusal governedConfig (governedRequest "sha256:a") = none)
      (approving reportedResult))).mpr ?_).2
  intro s hs
  cases List.mem_singleton.mp hs
  intro data hok hcarries
  cases hok
  exact absurd hcarries.2 (by decide)

/-- An approving envelope around `REJECT` realizes the digest and records the verdict. -/
theorem rejecting_response_realized :
    ¬∀ (config : BridgeConfig), resolveMode config = .governed → ∀ v, Reachable config v →
      (∀ s ∈ v.history, RejectedUnrealized (· = "REJECT") s) ∧
        NoRejectedReceipts (· = "REJECT") v.state := by
  intro h
  obtain ⟨-, hnone⟩ := h governedConfig (by decide) _
    (servedOnce_reachable (rfl : refusal governedConfig (governedRequest "sha256:a") = none)
      (approving rejectingResult))
  exact hnone _ List.mem_cons_self (by decide)

end KeyholeRuntime
