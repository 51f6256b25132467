import Keyhole.RuntimeLedger
import Keyhole.ScriptedServer

/-!
# The runtime's receipt, read by the SDK

Both sides have a word for an accepted candidate.  The runtime forwards the verdict
that the server carried, or puts its own `APPROVED`; the SDK validates against
`ACCEPT`.  The receipt of a governed request is followed here from the response of the
server to the SDK's validation: everything else the SDK asks for is there. -/

namespace KeyholeRuntime

open KeyholeJson KeyholeEnvelope KeyholeFlow

/-- The body of a receipt, as the route answers it. -/
def RealizationReceipt.document (r : RealizationReceipt) : Dict :=
  [("digest", .str r.digest), ("status", .str r.status), ("message", .str r.message),
    ("realized_at", .str r.realizedAt),
    ("governed", .bool r.receipt.governed),
    ("event_spine_evidence", .bool r.receipt.eventSpineEvidence),
    ("governance_verdict", .str r.receipt.governanceVerdict),
    ("drift_state", .str r.receipt.driftState),
    ("governance_context_id", optionalText r.receipt.governanceContextId),
    ("mcp_event_id", optionalText r.receipt.mcpEventId),
    ("proof_id", optionalText r.receipt.proofId),
    ("receipt_id", optionalText r.receipt.receiptId),
    ("passport_digest", optionalText r.receipt.passportDigest),
    ("trust_digest", optionalText r.receipt.trustDigest)]

/-- The SDK accepts a document as a governed receipt, at the time `now`. -/
def SdkAccepts (env : Env) (now candidate : String) (data : Dict) : Prop :=
  ∃ receipt, validReceipt env now data candidate = .ok receipt

/-- A body without an envelope is read as it is. -/
theorem unwrapMcpEnvelope_document (r : RealizationReceipt) :
    unwrapMcpEnvelope r.document = r.document := by
  have hok : isTrue (Dict.get r.document "ok") = false := by
    simp [RealizationReceipt.document]
  unfold unwrapMcpEnvelope
  rw [hok]

/-- The first of the places decides when the others hold no text. -/
theorem firstString_optional (text : Option String) {rest : List Json}
    (h : firstString rest = "") : firstString (optionalText text :: rest) = text.getD "" := by
  cases text with
  | none => exact h
  | some t =>
    by_cases ht : t = ""
    · subst ht
      exact h
    · exact firstString_cons_str ht rest

/-- What the SDK reads of a runtime receipt. -/
structure ReadAs (r : RealizationReceipt) (receipt : GovernanceReceipt) : Prop where
  governed : receipt.governed = r.receipt.governed
  eventSpine : receipt.eventSpineEvidence = r.receipt.eventSpineEvidence
  verdict : receipt.governanceVerdict = some r.receipt.governanceVerdict
  drift : receipt.driftState = some r.receipt.driftState
  context : receipt.governanceContextId = some (r.receipt.governanceContextId.getD "")
  event : receipt.mcpEventId = some (r.receipt.mcpEventId.getD "")
  realizedAt : r.realizedAt ≠ "" → receipt.realizedAt = r.realizedAt

theorem normalize_document (r : RealizationReceipt) (candidate now : String) :
    ReadAs r (normalizeGovernanceReceipt r.document candidate now) := by
  unfold normalizeGovernanceReceipt
  rw [unwrapMcpEnvelope_document]
  refine ⟨?_, ?_, ?_, ?_, ?_, ?_, fun h => ?_⟩
  · simp [RealizationReceipt.document, firstBool]
  · simp [RealizationReceipt.document, firstBool]
  · simp [RealizationReceipt.document, Dict.child]
    exact firstString_optional (some _) rfl
  · simp [RealizationReceipt.document, Dict.child]
    exact firstString_optional (some _) rfl
  · simp [RealizationReceipt.document, Dict.child]
    exact firstString_optional _ rfl
  · simp [RealizationReceipt.document, Dict.child]
    exact firstString_optional _ rfl
  · simp [RealizationReceipt.document, Dict.child]
    exact firstString_cons_str h _

/-- Validation asks for the word `ACCEPT` and for evidence that is there. -/
theorem validateGovernedReceipt_eq_none {receipt : GovernanceReceipt} :
    validateGovernedReceipt receipt = none ↔
      receipt.governed = true ∧ receipt.eventSpineEvidence = true ∧
        receipt.governanceVerdict = some "ACCEPT" ∧ missingText receipt.driftState = false ∧
        missingText receipt.governanceContextId = false ∧
        missingText receipt.mcpEventId = false := by
  unfold validateGovernedReceipt
  by_cases hg : receipt.governed = false
  · simp [hg]
  by_cases he : receipt.eventSpineEvidence = false
  · simp [hg, he]
  by_cases hv : receipt.governanceVerdict = some "ACCEPT"
  swap
  · simp [hg, he, hv]
  by_cases hd : missingText receipt.driftState = true
  · simp [hg, he, hv, hd]
  by_cases hc : missingText receipt.governanceContextId = true
  · simp [hg, he, hv, hd, hc]
  · simp [hg, he, hv, hd, hc]

/-- A receipt whose time can be read is accepted when the validation has no message. -/
theorem sdkAccepts_of_time {env : Env} {now candidate time : String} {data : Dict}
    (htime : env.parseTime (normalizeGovernanceReceipt data candidate now).realizedAt = some time) :
    SdkAccepts env now candidate data
      ↔ validateGovernedReceipt
          (stampedReceipt (normalizeGovernanceReceipt data candidate now) time) = none := by
  rw [SdkAccepts, validReceipt, htime]
  dsimp only
  cases validateGovernedReceipt
      (stampedReceipt (normalizeGovernanceReceipt data candidate now) time) with
  | none => exact ⟨fun _ => rfl, fun _ => ⟨_, rfl⟩⟩
  | some message => simp

/-- The SDK accepts the receipt of a governed answer exactly when its verdict is
    `ACCEPT`; the rest of the evidence is there. -/
theorem sdkAccepts_document {r : RealizationReceipt} {env : Env} {now candidate : String}
    (hstamp : r.realizedAt ≠ "") (htime : (env.parseTime r.realizedAt).isSome = true)
    (hgoverned : r.receipt.governed = true) (hspine : r.receipt.eventSpineEvidence = true)
    (hdrift : r.receipt.driftState ≠ "") (hcontext : r.receipt.governanceContextId.getD "" ≠ "")
    (hevent : r.receipt.mcpEventId.getD "" ≠ "") :
    SdkAccepts env now candidate r.document ↔ r.receipt.governanceVerdict = "ACCEPT" := by
  have hread := normalize_document r candidate now
  obtain ⟨time, ht⟩ := Option.isSome_iff_exists.mp htime
  have hpresent : ∀ {text : String}, text ≠ "" → missingText (some text) = false := fun h =>
    beq_eq_false_iff_ne.mpr h
  have hvalid : validateGovernedReceipt
      (stampedReceipt (normalizeGovernanceReceipt r.document candidate now) time) = none ↔
        r.receipt.governanceVerdict = "ACCEPT" := by
    rw [validateGovernedReceipt_eq_none]
    show (normalizeGovernanceReceipt r.document candidate now).governed = true ∧
      (normalizeGovernanceReceipt r.document candidate now).eventSpineEvidence = true ∧
      (normalizeGovernanceReceipt r.document candidate now).governanceVerdict = some "ACCEPT" ∧
      missingText (normalizeGovernanceReceipt r.document candidate now).driftState = false ∧
      missingText (normalizeGovernanceReceipt r.document candidate now).governanceContextId
        = false ∧
      missingText (normalizeGovernanceReceipt r.document candidate now).mcpEventId = false ↔ _
    rw [hread.governed, hread.eventSpine, hread.verdict, hread.drift, hread.context, hread.event,
      Option.some.injEq]
    constructor
    · exact fun h => h.2.2.1
    · exact fun h => ⟨hgoverned, hspine, h, hpresent hdrift, hpresent hcontext, hpresent hevent⟩
  rw [sdkAccepts_of_time ((hread.realizedAt hstamp).symm ▸ ht), hvalid]

/-! ## The receipts of governed requests -/

theorem orNone_getD (text : String) : (orNone text).getD "" = text := by
  unfold orNone
  by_cases h : text = ""
  · rw [if_pos h, h]
    rfl
  · rw [if_neg h]
    rfl

/-- The receipt that a request is answered with, applied or replayed. -/
theorem applyDigest_receipt (state : RuntimeState) (a : Application) (now : String) :
    (state.applyDigest a now).1.receipt = a.publicReceipt ∧
      (state.applyDigest a now).1.realizedAt = now := by
  unfold RuntimeState.applyDigest
  by_cases h : state.isRealized a.digest = true
  · rw [if_pos h]
    exact ⟨rfl, rfl⟩
  · rw [if_neg h]
    exact ⟨rfl, rfl⟩

/-- The runtime and the SDK agree on the receipt of a governed request exactly when the
    server's own verdict was `ACCEPT`: neither its absence, for which the bridge writes
    `APPROVED`, nor any other word is checked before the receipt is issued. -/
theorem sdkAccepts_iff {config : BridgeConfig} (hmode : resolveMode config = .governed)
    {v : Server} (hv : Reachable config v) {s : Served} (hs : s ∈ v.history)
    (hrequest : s.request.requireGoverned = true) {r : RealizationReceipt}
    (hreply : s.reply = .receipt r) {env : Env} (hstamp : r.realizedAt ≠ "")
    (htime : (env.parseTime r.realizedAt).isSome = true) (now candidate : String) :
    SdkAccepts env now candidate r.document ↔
      ∀ data, s.outcome.approval = some data → carriedVerdict data = "ACCEPT" := by
  obtain ⟨request, outcome, t, state, rfl⟩ := hv.served s hs
  cases serve_cases hmode request outcome t state with
  | rejected hno detail h => rw [h] at hreply; exact nomatch hreply
  | stopped data hok hgate detail h => rw [h] at hreply; exact nomatch hreply
  | applied data hok hgate h =>
      rw [h] at hreply
      cases hreply
      obtain ⟨hreceipt, -⟩ := applyDigest_receipt state
        (applicationOf request (approvedVerdict data)) t
      have hgoverned : request.requireGoverned = true := hrequest
      have hcontext : carriedContext data ≠ "" := fun hc => hgate ⟨hgoverned, .inl hc⟩
      have hevent : carriedEvent data ≠ "" := fun he => hgate ⟨hgoverned, .inr he⟩
      have hdrift := (extract_filled data).2
      rw [sdkAccepts_document hstamp htime]
      · rw [hreceipt]
        show (applicationOf request (approvedVerdict data)).governanceVerdict = "ACCEPT" ↔ _
        rw [applicationOf_governanceVerdict]
        constructor
        · intro hverdict data' hok'
          cases hok.symm.trans hok'
          by_cases hnone : carriedVerdict data = ""
          · rw [if_pos hnone] at hverdict
            exact absurd hverdict (by decide)
          · rw [if_neg hnone] at hverdict
            exact hverdict
        · intro hall
          rw [if_neg (by rw [hall data hok]; decide)]
          exact hall data hok
      · rw [hreceipt]
        rfl
      · rw [hreceipt]
        exact bne_iff_ne.mpr hevent
      · rw [hreceipt]
        show (if (extractGovernanceReceipt data).driftState = "" then _ else _) ≠ ""
        rw [if_neg hdrift]
        exact hdrift
      · rw [hreceipt]
        show (orNone (if carriedContext data = "" then _ else _)).getD "" ≠ ""
        rw [orNone_getD, if_neg hcontext]
        exact hcontext
      · rw [hreceipt]
        show (orNone (carriedEvent data)).getD "" ≠ ""
        rw [orNone_getD]
        exact hevent

/-- A governed request, answered on this result at this time. -/
def realizedOn (result : Dict) (now : String) : Served :=
  serve governedConfig (governedRequest "sha256:a") (approving result) now (.init now)

theorem realizedOn_served (result : Dict) (now : String) :
    ∃ v, Reachable governedConfig v ∧ realizedOn result now ∈ v.history := by
  have hadmitted : ServerStep governedConfig ⟨.init now, [], []⟩ _ :=
    .admitted (governedRequest "sha256:a") rfl _
  have hanswered : ServerStep governedConfig ⟨.init now, [governedRequest "sha256:a"], []⟩ _ :=
    .answered (governedRequest "sha256:a") [] [] (approving result) now _ rfl
  exact ⟨_, ⟨now, .tail (.tail .refl hadmitted) hanswered⟩, List.mem_cons_self⟩

/-- The answer of a server that reports everything, in the SDK's words. -/
def acceptedResult : Dict :=
  [("governance_verdict", .str "ACCEPT"), ("drift_state", .str "none"),
    ("governance_context_id", .str "gcd-1"), ("mcp_event_id", .str "event-1")]

/-- A receipt with the SDK's word is accepted. -/
theorem accepted_receipt_agreed :
    ∃ r, (realizedOn acceptedResult "2026-01-01T00:00:00+00:00").reply = .receipt r ∧
      SdkAccepts (scripted "" fun _ _ => none) "2026-01-01T00:00:01+00:00" "" r.document := by
  obtain ⟨v, hv, hs⟩ := realizedOn_served acceptedResult "2026-01-01T00:00:00+00:00"
  refine ⟨_, rfl, (sdkAccepts_iff (by decide) hv hs rfl rfl (by decide) rfl _ _).mpr ?_⟩
  intro data hok
  cases hok
  decide

/-- A server that names a context and an event and no verdict: the runtime issues a
    receipt the SDK refuses. -/
theorem bare_receipt_refused :
    ¬∀ (config : BridgeConfig), resolveMode config = .governed → ∀ v, Reachable config v →
      ∀ s ∈ v.history, s.request.requireGoverned = true → ∀ r, s.reply = .receipt r →
        ∀ (env : Env) (now candidate : String), (env.parseTime r.realizedAt).isSome = true →
          SdkAccepts env now candidate r.document := by
  intro h
  obtain ⟨v, hv, hs⟩ := realizedOn_served bareResult "2026-01-01T00:00:00+00:00"
  have haccepts := h governedConfig (by decide) v hv _ hs rfl _ rfl
    (scripted "" fun _ _ => none) "" "" rfl
  have hverdict := (sdkAccepts_document (by decide) rfl rfl rfl (by decide) (by decide)
    (by decide)).mp haccepts
  exact absurd hverdict (by decide)

end KeyholeRuntime
