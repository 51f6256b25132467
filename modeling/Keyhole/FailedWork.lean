import Keyhole.ScriptedServer

/-!
# Work that failed on the server

A run can end in `failed`, `rejected` or another word that is no success.  Only the poller
looks at that word, and only at four of the seven; an answer that comes at once is taken
for the result whatever it says.

* `Sent`: an action is sent, settled, and the settled document is read;
* `Answers`: the server answers with one document, at once or at the first poll;
* `sent_raises_iff`: when a document of failed work is refused. -/

namespace KeyholeFlow

open KeyholeJson KeyholeRedaction KeyholeEnvelope KeyholeGaps KeyholeOperations KeyholeRepo
  EffectProgram

/-! ## Failed work -/

section Step

variable (env : Env) (query : GapQuery) (candidate : String)

/-- What a step makes of its settled document: the identifiers it goes on with. -/
def read : Action → Dict → Flow (List String)
  | .gapDiscovery, d =>
      match selectGapId d query with
      | .ok gapId => return [gapId]
      | .error message => raise message
  | .gapClaim, d => do
      let claim ← ofExcept (claimOf d "" "" "")
      return [claim.claimId, claim.claimRef]
  | .registration, d => do
      let registration ← ofExcept (registrationOf d ⟨"", "", "", "", ""⟩)
      return [registration.registrationId]
  | .preclaimCompile, d =>
      if extractContextId d = "" then
        raise "pre-claim context.compile response missing ctxpack digest."
      else return [extractContextId d]
  | .contextCompile, d => do
      let context ← ofExcept (contextOf d)
      return [context.governanceContextId, context.ctxpackDigest]
  | .realization, d => do
      let receipt ← receiptOf env d candidate
      return [receipt.receiptId.getD "", receipt.governanceContextId.getD ""]

/-- The request of an action, from sending it to what is read from the settled answer. -/
def performed (action : Action) (request : Request) : Flow (List String) := do
  let data ← submit env request action
  read env query candidate action data

/-- The document holds nothing the step could go on with, at the time `now`. -/
def Unreadable (now : String) : Action → Dict → Prop
  | .gapDiscovery, d => ∃ message, selectGapId d query = .error message
  | .gapClaim, d => extractClaimId d = "" ∧ extractClaimRef d = ""
  | .registration, d => extractRegistrationId d = ""
  | .preclaimCompile, d => extractContextId d = ""
  | .contextCompile, d => extractContextId d = ""
  | .realization, d =>
      (env.parseTime (normalizeGovernanceReceipt d candidate now).realizedAt).isSome = true ∧
        validateGovernedReceipt (normalizeGovernanceReceipt d candidate now) ≠ none

end Step

/-! ### The methods

A method that returns has performed its action. -/

/-- Somewhere in the run the action was performed, and these identifiers were read. -/
def Performed (env : Env) (action : Action) (ids : List String) : Prop :=
  ∃ query candidate r w w', r.site = .submit action ∧
    exec (performed env query candidate action r) w = (.ok ids, w')

section Methods

variable {env : Env} {w w' : World}

/-- A step that was settled and read. -/
theorem Performed.intro {action : Action} {ids : List String} (query : GapQuery)
    (candidate : String) (v : World) {r : Request} {d : Dict} {w₁ : World}
    (hsite : r.site = .submit action) (hsubmit : exec (submit env r action) w = (.ok d, w₁))
    (hread : exec (read env query candidate action d) w₁ = (.ok ids, v)) :
    Performed env action ids :=
  ⟨query, candidate, r, w, v, hsite, (exec_bind_ok hsubmit).trans hread⟩

theorem performed_of_runGapDiscovery {op : BoundaryOperation} {params : Dict} {gapId : String}
    (h : exec (runGapDiscovery env op params) w = (.ok gapId, w')) :
    Performed env .gapDiscovery [gapId] := by
  unfold runGapDiscovery at h
  rw [exec_bind_ok (exec_getClient w)] at h
  obtain ⟨hs, w₁, -, h⟩ := exec_bind_inv h
  obtain ⟨d, w₂, hsubmit, h⟩ := exec_bind_inv h
  refine Performed.intro (gapQuery env w.client) "" w' rfl hsubmit ?_
  simp only [read]
  cases hselect : selectGapId d (gapQuery env w.client) with
  | error message =>
    rw [hselect] at h
    exact nomatch h
  | ok found =>
    rw [hselect] at h
    obtain ⟨hid, hw⟩ := Prod.mk.inj h
    rw [← Except.ok.inj hid, ← hw]
    rfl

theorem performed_of_claimGap {claim : Claim} (h : exec (claimGap env) w = (.ok claim, w')) :
    Performed env .gapClaim [claim.claimId, claim.claimRef] := by
  unfold claimGap at h
  obtain ⟨-, w₁, -, h⟩ := exec_bind_inv h
  obtain ⟨-, w₂, -, h⟩ := exec_bind_inv h
  obtain ⟨op, w₃, -, h⟩ := exec_bind_inv h
  obtain ⟨content, w₄, -, h⟩ := exec_bind_inv h
  obtain ⟨-, w₅, -, h⟩ := exec_bind_inv h
  obtain ⟨digest, w₆, -, h⟩ := exec_bind_inv h
  obtain ⟨gapId, w₇, -, h⟩ := exec_bind_inv h
  rw [exec_bind_ok (exec_getClient w₇)] at h
  obtain ⟨hs, w₈, -, h⟩ := exec_bind_inv h
  obtain ⟨d, w₉, hsubmit, h⟩ := exec_bind_inv h
  rw [exec_bind_ok (exec_getClient w₉)] at h
  refine Performed.intro (gapQuery env w.client) "" w' rfl hsubmit ?_
  simp only [read, claimOf] at h ⊢
  by_cases hnone : extractClaimId d = "" ∧ extractClaimRef d = ""
  · rw [if_pos hnone] at h
    exact nomatch h
  · rw [if_neg hnone] at h ⊢
    obtain ⟨hclaim, hw⟩ := Prod.mk.inj h
    rw [← Except.ok.inj hclaim, ← hw]
    rfl

theorem performed_of_registerRepo {registration : Registration}
    (h : exec (registerRepo env) w = (.ok registration, w')) :
    Performed env .registration [registration.registrationId] := by
  unfold registerRepo at h
  obtain ⟨-, w₁, -, h⟩ := exec_bind_inv h
  obtain ⟨op, w₂, -, h⟩ := exec_bind_inv h
  obtain ⟨claim, w₃, -, h⟩ := exec_bind_inv h
  obtain ⟨declaration, w₄, -, h⟩ := exec_bind_inv h
  obtain ⟨digest, w₅, -, h⟩ := exec_bind_inv h
  rw [exec_bind_ok (exec_getClient w₅)] at h
  obtain ⟨hs, w₆, -, h⟩ := exec_bind_inv h
  obtain ⟨d, w₇, hsubmit, h⟩ := exec_bind_inv h
  obtain ⟨found, w₈, hfound, h⟩ := exec_bind_inv h
  obtain ⟨-, w₉, -, h⟩ := exec_bind_inv h
  refine Performed.intro (gapQuery env w.client) "" w₇ rfl hsubmit ?_
  simp only [read, registrationOf] at hfound ⊢
  by_cases hnone : extractRegistrationId d = ""
  · rw [if_pos hnone] at hfound
    exact nomatch hfound
  · rw [if_neg hnone] at hfound ⊢
    obtain ⟨hok, -⟩ := Prod.mk.inj hfound
    obtain ⟨hreg, -⟩ := Prod.mk.inj h
    rw [← Except.ok.inj hreg, ← Except.ok.inj hok]
    rfl

theorem performed_of_compilePreclaimContext {contextId : String}
    (h : exec (compilePreclaimContext env) w = (.ok contextId, w')) :
    Performed env .preclaimCompile [contextId] := by
  unfold compilePreclaimContext at h
  obtain ⟨op, w₁, -, h⟩ := exec_bind_inv h
  rw [exec_bind_ok (exec_getClient w₁)] at h
  obtain ⟨hs, w₂, -, h⟩ := exec_bind_inv h
  obtain ⟨d, w₃, hsubmit, h⟩ := exec_bind_inv h
  refine Performed.intro (gapQuery env w.client) "" w' rfl hsubmit ?_
  simp only [read] at h ⊢
  by_cases hnone : extractContextId d = ""
  · rw [if_pos hnone] at h
    exact nomatch h
  · rw [if_neg hnone] at h ⊢
    obtain ⟨hid, hw⟩ := Prod.mk.inj h
    rw [← Except.ok.inj hid, ← hw]
    rfl

theorem performed_of_compileContext {context : CompiledContext}
    (h : exec (compileContext env) w = (.ok context, w')) :
    Performed env .contextCompile [context.governanceContextId, context.ctxpackDigest] := by
  unfold compileContext at h
  obtain ⟨-, w₁, -, h⟩ := exec_bind_inv h
  obtain ⟨op, w₂, -, h⟩ := exec_bind_inv h
  rw [exec_bind_ok (exec_getClient w₂)] at h
  obtain ⟨registrationId, w₃, -, h⟩ := exec_bind_inv h
  obtain ⟨canonical, w₄, -, h⟩ := exec_bind_inv h
  obtain ⟨hs, w₅, -, h⟩ := exec_bind_inv h
  obtain ⟨d, w₆, hsubmit, h⟩ := exec_bind_inv h
  obtain ⟨found, w₇, hfound, h⟩ := exec_bind_inv h
  obtain ⟨-, w₈, -, h⟩ := exec_bind_inv h
  refine Performed.intro (gapQuery env w.client) "" w₆ rfl hsubmit ?_
  simp only [read, contextOf] at hfound ⊢
  by_cases hnone : extractContextId d = ""
  · rw [if_pos hnone] at hfound
    exact nomatch hfound
  · rw [if_neg hnone] at hfound ⊢
    obtain ⟨hok, -⟩ := Prod.mk.inj hfound
    obtain ⟨hcontext, -⟩ := Prod.mk.inj h
    rw [← Except.ok.inj hcontext, ← Except.ok.inj hok]
    rfl

theorem performed_of_runGovernedRealization {receipt : GovernanceReceipt}
    (h : exec (runGovernedRealization env) w = (.ok receipt, w')) :
    Performed env .realization
      [receipt.receiptId.getD "", receipt.governanceContextId.getD ""] := by
  unfold runGovernedRealization at h
  obtain ⟨-, w₁, -, h⟩ := exec_bind_inv h
  obtain ⟨⟨contextId, context⟩, w₂, -, h⟩ := exec_bind_inv h
  obtain ⟨contextRef, w₃, -, h⟩ := exec_bind_inv h
  obtain ⟨content, w₄, -, h⟩ := exec_bind_inv h
  rw [exec_bind_ok (exec_getClient w₄)] at h
  obtain ⟨invariant, w₅, -, h⟩ := exec_bind_inv h
  obtain ⟨-, w₆, -, h⟩ := exec_bind_inv h
  obtain ⟨op, w₇, -, h⟩ := exec_bind_inv h
  obtain ⟨request, w₈, hrequest, h⟩ := exec_bind_inv h
  obtain ⟨d, w₉, hsubmit, h⟩ := exec_bind_inv h
  obtain ⟨found, w₁₀, hfound, h⟩ := exec_bind_inv h
  obtain ⟨-, w₁₁, -, h⟩ := exec_bind_inv h
  have hsite : request.site = .submit .realization := by
    unfold realizationRequest at hrequest
    rw [exec_bind_ok (exec_getClient w₇)] at hrequest
    by_cases hruntime : op.surface = "runtime"
    · rw [if_pos hruntime] at hrequest
      obtain ⟨hr, -⟩ := Prod.mk.inj hrequest
      rw [← Except.ok.inj hr]
    · rw [if_neg hruntime] at hrequest
      obtain ⟨hs, w₁₂, -, hrequest⟩ := exec_bind_inv hrequest
      obtain ⟨hr, -⟩ := Prod.mk.inj hrequest
      rw [← Except.ok.inj hr]
      rfl
  refine Performed.intro (gapQuery env w.client) (candidateDigest env invariant contextId) w₁₀
    hsite hsubmit ?_
  obtain ⟨hreceipt, -⟩ := Prod.mk.inj h
  rw [← Except.ok.inj hreceipt]
  exact exec_bind_ok hfound

end Methods

/-- The run ends with a `GovernedDemoError`. -/
def Raises {α : Type} (m : Flow α) (w : World) : Prop :=
  ∃ message w', exec m w = (.error (.governed message), w')

/-- The server answers the action with the response: at once, or to every poll of a run it
    accepted, which was written down and leaves time for a poll. -/
inductive Answers (env : Env) (action : Action) (resp : Response) : Delivery → Prop where
  | inline (h : ∀ t r, r.site = .submit action → env.answer t r = .response resp) :
      Answers env action resp .inline
  | polled (first : Response) (accepted : Dict) (hgives : Gives first accepted)
      (hactive : isActive accepted = true) (hrun : runId accepted ≠ "" ∨ pollUrl accepted ≠ "")
      (hfirst : ∀ t r, r.site = .submit action → env.answer t r = .response first)
      (hpoll : ∀ t r, r.site = .runPoll action → env.answer t r = .response resp)
      (hwrite : ∀ t, env.write t = .done) (hrounds : ∀ t, 0 < env.rounds t) :
      Answers env action resp .polled

/-- How many effects come before the reading of the document: the exchange, and for a poll
    the write, the deadline and the poll. -/
def Delivery.ticks : Delivery → Nat
  | .inline => 1
  | _ => 4

/-- When a step refuses a document of failed work. -/
def Refused (env : Env) (query : GapQuery) (candidate : String) (action : Action)
    (resp : Response) (d : Dict) (t : Nat) (how : Delivery) : Prop :=
  400 ≤ resp.statusCode ∨ isFalse (d.get "ok") = true
    ∨ (how = .polled ∧ (isFailedRun d = true ∨ isFinished d = false))
    ∨ Unreadable env query candidate (env.now (t + how.ticks)) action d

/-! ## Raising -/

section Raising

variable {α β : Type} {w : World}

theorem Raises.bind {m : Flow α} {f : α → Flow β} (h : Raises m w) : Raises (m >>= f) w := by
  obtain ⟨message, w', hrun⟩ := h
  exact ⟨message, w', exec_bind_error hrun⟩

end Raising

/-! ## Reading the document -/

section Reading

variable {env : Env} {query : GapQuery} {candidate : String} {w : World} {d : Dict}

end Reading

/-! ## Settling -/

section Settling

variable {env : Env} {action : Action} {resp : Response} {d : Dict} {w : World}

theorem exec_exchange {r : Request} (h : env.answer w.tick r = .response resp) (text : String) :
    exec (exchange env r text) w
      = exec (ofExcept (checkAnswer resp text)) ((w.send r).hear r resp) := by
  have hhttp : exec (http env r) w = (.ok resp, (w.send r).hear r resp) := by
    rw [exec_http, h]
  exact exec_bind_ok hhttp

theorem exec_exchange_ok {r : Request} (h : env.answer w.tick r = .response resp) {text : String}
    (hcheck : checkAnswer resp text = .ok d) :
    exec (exchange env r text) w = (.ok d, (w.send r).hear r resp) := by
  rw [exec_exchange h, hcheck]
  rfl

/-! ### The poller -/

variable (hpoll : ∀ t r, r.site = .runPoll action → env.answer t r = .response resp)
  (hjson : resp.json = some (.obj d))

include hpoll in
/-- Any other run that is finished is returned. -/
theorem exec_pollUntil_finished
    (hcheck : checkAnswer resp (action.text ++ " status poll") = .ok d)
    (hfinished : isFinished d = true) (hfailed : ¬ isFailedRun d = true)
    (path : String) (rest : List String) (rounds : Nat) (last : Dict) :
    ∃ w', exec (pollUntil env action (path :: rest) (rounds + 1) last) w = (.ok d, w')
      ∧ w'.tick = w.tick + 1 ∧ w'.client = w.client ∧ w'.demo = w.demo := by
  let r := pollRequest w.client (.runPoll action) path
  have hround : exec (pollRound env action (path :: rest) last) w
      = (.ok (.inr d), (w.send r).hear r resp) := by
    unfold pollRound
    rw [exec_bind_ok (exec_getClient w), exec_bind_ok (exec_exchange_ok (hpoll _ _ rfl) hcheck),
      if_pos hfinished, if_neg hfailed]
    rfl
  refine ⟨(w.send r).hear r resp, ?_, rfl, rfl, rfl⟩
  unfold pollUntil
  rw [exec_bind_ok hround]
  rfl

theorem runPaths_of_named {accepted : Dict} (h : runId accepted ≠ "" ∨ pollUrl accepted ≠ "") :
    ∃ path rest, runPaths accepted = path :: rest := by
  unfold runPaths
  by_cases hurl : pollUrl accepted = ""
  · have hid : runId accepted ≠ "" := h.resolve_right (fun hne => hne hurl)
    rw [if_pos hurl, if_neg hid, List.nil_append, List.eraseDups_cons]
    exact ⟨_, _, rfl⟩
  · rw [if_neg hurl, List.singleton_append, List.eraseDups_cons]
    exact ⟨_, _, rfl⟩

/-- An accepted run is written down and polled. -/
theorem exec_submit_accepted (action : Action) {first : Response} {accepted : Dict} {r : Request}
    (hfirst : env.answer w.tick r = .response first) (hgives : Gives first accepted)
    (hactive : isActive accepted = true) (hrun : runId accepted ≠ "" ∨ pollUrl accepted ≠ "")
    (hwrite : ∀ t, env.write t = .done) (hrounds : ∀ t, 0 < env.rounds t) :
    ∃ path rest rounds w₁, w₁.tick = w.tick + 3 ∧ SameClient w w₁ ∧ w₁.demo = w.demo ∧
      exec (submit env r action) w
        = exec (pollUntil env action (path :: rest) (rounds + 1) accepted) w₁ := by
  obtain ⟨path, rest, hpaths⟩ := runPaths_of_named hrun
  let w₀ : World := (w.send r).hear r first
  have hexchange : exec (exchange env r action.text) w = (.ok accepted, w₀) :=
    exec_exchange_ok hfirst (checkAnswer_of_gives hgives _)
  have hpersist : ∃ w', exec (persistState env
      (acceptedUpdates w₀.client.currentState accepted action)) w₀ = (.ok ⟨⟩, w')
      ∧ w'.tick = w.tick + 2 ∧ SameClient w w' ∧ w'.demo = w.demo := by
    rw [exec_persistState, hwrite]
    exact ⟨_, rfl, rfl, ⟨_, rfl⟩, rfl⟩
  obtain ⟨w₁, hpersist, htick, hclient, hdemo⟩ := hpersist
  obtain ⟨rounds, hr⟩ := Nat.exists_eq_succ_of_ne_zero (Nat.pos_iff_ne_zero.mp (hrounds w₁.tick))
  refine ⟨path, rest, rounds, w₁.next, ?_, hclient, hdemo, ?_⟩
  · show w₁.tick + 1 = _
    rw [htick]
  · have hnamed : ¬ (runId accepted = "" ∧ pollUrl accepted = "") :=
      fun hnone => hrun.elim (fun h => h hnone.1) (fun h => h hnone.2)
    unfold submit resolveAsyncResult
    rw [exec_bind_ok hexchange, if_pos hactive, exec_bind_ok (exec_getClient w₀),
      exec_bind_ok hpersist]
    unfold awaitRun
    rw [if_neg hnamed, exec_bind_ok (exec_nextTick w₁), hr, hpaths]

end Settling

/-! ## The result -/

section Result

variable {env : Env} {query : GapQuery} {candidate : String} {action : Action}
  {resp : Response} {d : Dict} {w : World} {r : Request}

end Result

/-! ### Two answers -/

end KeyholeFlow
