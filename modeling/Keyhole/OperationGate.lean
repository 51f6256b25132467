import Keyhole.FlowOpening
import Keyhole.OperationDemand
import Keyhole.ScriptedServer

/-!
# Discovery as a gate

`discover` raises when the document lacks an operation the flow will need.  It asks for
`gaps.claim` only where the document requires an active claim, and never for a way to find
a gap, while the flow claims a gap whenever its state holds no claim.

* `GateSuffices`: after `discover` accepted a document, no step fails for a missing
  operation;
* `Covered`: the document offers what the saved state still needs;
* `gateSuffices_iff`: the gate suffices exactly for the states that are covered. -/

namespace KeyholeFlow

open KeyholeJson KeyholeRedaction KeyholeEnvelope KeyholeGaps KeyholeOperations KeyholeRepo
  EffectProgram

/-! ## The gate -/

/-- `resume_governed_repo_flow` once the state is open. -/
def continueRun (env : Env) : Flow Dict := do
  discover env
  recoverPendingRun env
  let declaration ← knownDeclaration env
  stages env
  let c ← getClient
  return resultFromState c.currentState declaration

theorem resume_eq_continueRun (env : Env) (useLastState : Bool) :
    resumeGovernedRepoFlow env useLastState = (openRun env useLastState >>= fun _ => continueRun env) :=
  rfl

/-- The server describes its capabilities by the document. -/
def Describes (env : Env) (raw : Dict) : Prop :=
  ∀ t r, r.site = .capabilities →
    ∃ resp, env.answer t r = .response resp ∧ resp.statusCode < 400 ∧ resp.json = some (.obj raw)

/-- `discover` accepts the document, with this table of operations. -/
structure Accepts (raw : Dict) (operations : Operations) : Prop where
  extracted : extractOperations raw = some operations
  claim : requiresActiveClaim (unwrapMcpEnvelope raw) = true →
    (operations.lookup "gaps.claim").isSome = true
  supplied : ∀ name ∈ ["repo.register", "context.compile", "governed.realize"],
    (operations.lookup name).isSome = true

/-- The message is the server's own account of a saved run that failed. -/
def Reported (log : List Event) (message : String) : Prop :=
  ∃ r resp d step last, .received r resp ∈ log ∧ r.site = .savedRunPoll step last ∧ Gives resp d
    ∧ isFailedRun d = true
    ∧ message = (runError d [.str "RUN_FAILED"]).1 ++ ": " ++ (runError d [.str "RUN_FAILED"]).2

/-- A resumption that continues from the state, against a server that describes itself by
    the document, fails for no missing operation. -/
def GateSuffices (raw : Dict) (record : RunRecord) : Prop :=
  ∀ env, Describes env raw → ∀ (useLastState : Bool) (w w₁ : World), w.log = [] →
    exec (openRun env useLastState) w = (.ok ⟨⟩, w₁) → w₁.client.currentState = record.state →
    ∀ message w', exec (resumeGovernedRepoFlow env useLastState) w = (.error (.governed message), w') →
      Missing message → Reported w'.log message

/-- The flow may come to claim a gap: no claim is held, or a run of a claim is still to be
    read. -/
def Progress.needsClaim (p : Progress) : Prop :=
  ¬ p.claimed ∨ (p.pending ∧ p.step = stateStep .gapClaim)

/-- The flow may come to look a gap up. -/
def Progress.needsGap (p : Progress) : Prop := p.gap = "" ∨ p.needsClaim

/-- The document offers what the state still needs. -/
structure Covered (raw : Dict) (operations : Operations) (p : Progress) : Prop where
  claim : p.needsClaim → (operations.lookup "gaps.claim").isSome = true
  gap : p.needsGap → gapIdFromCapabilities (unwrapMcpEnvelope raw) ≠ ""
    ∨ gapDiscoveryOperation (unwrapMcpEnvelope raw) ≠ none

/-! ## Discovery -/

section Discovery

variable {env : Env} {w : World} {raw : Dict} {operations : Operations}

/-- The client with the tables of a document. -/
def Client.discovered (c : Client) (raw : Dict) (operations : Operations) : Client :=
  { c with capabilities := unwrapMcpEnvelope raw, operations := operations }

theorem exec_requireAll {names : List String}
    (h : ∀ name ∈ names, (w.client.operations.lookup name).isSome = true) :
    exec (requireAll names) w = (.ok ⟨⟩, w) := by
  have hnone : missingOperations w.client.operations names = [] := by
    refine List.filter_eq_nil_iff.mpr fun name hname => ?_
    rw [Option.isNone_iff_eq_none, ← Option.not_isSome_iff_eq_none, h name hname]
    exact not_not.mpr rfl
  unfold requireAll requireOperations
  rw [exec_bind_ok (exec_getClient w)]
  simp only [hnone]
  rfl

/-- `discover` once the document is read. -/
def readTable (raw : Dict) : Flow Unit :=
  match extractOperations raw with
  | none => throw (.fault (.raised "TypeError"))
  | some operations => do
      modifyClient (fun c => { c with operations := operations })
      checkOperations (unwrapMcpEnvelope raw)

theorem exec_discover_read (hdescribes : Describes env raw) :
    ∃ r resp, r.site = .capabilities ∧ exec (discover env) w = exec (readTable raw)
      { (w.send r).hear r resp with
        client := { w.client with capabilities := unwrapMcpEnvelope raw } } := by
  let request : Request := ⟨.capabilities, "GET", w.client.mcpUrl ++ "/mcp/v1/capabilities", [], none⟩
  obtain ⟨resp, hanswer, hstatus, hjson⟩ := hdescribes w.tick request rfl
  have hhttp : exec (http env request) w = (.ok resp, (w.send request).hear request resp) := by
    rw [exec_http, hanswer]
  have hraise : raiseForResponse resp "capabilities discovery" = .ok () :=
    if_neg (Nat.not_le_of_lt hstatus)
  have hobject : jsonObject resp = .ok raw := by
    unfold jsonObject
    rw [hjson]
  refine ⟨request, resp, rfl, ?_⟩
  unfold discover
  rw [exec_bind_ok (exec_getClient w), exec_bind_ok hhttp, hraise,
    exec_bind_ok (exec_ofExcept_ok _ _), hobject, exec_bind_ok (exec_ofExcept_ok _ _),
    exec_bind_ok (exec_modifyClient _ _)]
  rfl

/-- An accepted document leaves its tables with the client, and nothing else changes but
    the clock and the log. -/
theorem exec_discover_accepted (hdescribes : Describes env raw) (haccepts : Accepts raw operations) :
    ∃ r resp, r.site = .capabilities ∧ exec (discover env) w
      = (.ok ⟨⟩, { (w.send r).hear r resp with client := w.client.discovered raw operations }) := by
  obtain ⟨r, resp, hsite, hread⟩ := exec_discover_read (w := w) hdescribes
  let w₁ : World := { (w.send r).hear r resp with client := w.client.discovered raw operations }
  refine ⟨r, resp, hsite, ?_⟩
  rw [hread]
  unfold readTable
  simp only [haccepts.extracted]
  rw [exec_bind_ok (exec_modifyClient _ _)]
  show exec (onlyIf _ _ >>= _) w₁ = _
  have hthree : exec (requireAll ["repo.register", "context.compile", "governed.realize"]) w₁
      = (.ok ⟨⟩, w₁) := exec_requireAll haccepts.supplied
  by_cases hclaim : requiresActiveClaim (unwrapMcpEnvelope raw) = true
  · have hone : exec (requireAll ["gaps.claim"]) w₁ = (.ok ⟨⟩, w₁) := by
      refine exec_requireAll fun name hname => ?_
      rw [List.mem_singleton.mp hname]
      exact haccepts.claim hclaim
    rw [onlyIf, if_pos hclaim, exec_bind_ok hone]
    exact hthree
  · rw [onlyIf, if_neg hclaim, exec_bind_ok (exec_pure _ _)]
    exact hthree

theorem exec_discover (hdescribes : Describes env raw) (haccepts : Accepts raw operations) :
    ∃ w', exec (discover env) w = (.ok ⟨⟩, w')
      ∧ w'.client = w.client.discovered raw operations
      ∧ ∃ r resp, r.site = .capabilities ∧ w'.log = .received r resp :: .sent w.record r :: w.log := by
  obtain ⟨r, resp, hsite, hrun⟩ := exec_discover_accepted (w := w) hdescribes haccepts
  exact ⟨_, hrun, rfl, r, resp, hsite, rfl⟩

/-- A check that returns has found every operation. -/
theorem supplied_of_requireAll {names : List String} {w' : World}
    (h : exec (requireAll names) w = (.ok ⟨⟩, w')) :
    w' = w ∧ ∀ name ∈ names, (w.client.operations.lookup name).isSome = true := by
  unfold requireAll requireOperations at h
  rw [exec_bind_ok (exec_getClient w)] at h
  cases hmissing : missingOperations w.client.operations names with
  | cons name rest =>
    simp only [hmissing] at h
    exact nomatch h
  | nil =>
    simp only [hmissing] at h
    refine ⟨(Prod.mk.inj h).2.symm, fun name hname => ?_⟩
    have hfound := List.filter_eq_nil_iff.mp hmissing name hname
    rw [Bool.not_eq_true, Option.isNone_eq_false_iff] at hfound
    exact hfound

end Discovery

/-! ## The recovery -/

/-- A fault, a plain message, or the server's account of a failed run. -/
def Accounted (log : List Event) : Err → Prop
  | .governed message => plain message = true ∨ Reported log message
  | .fault _ => True

variable {record : RunRecord} {log : List Event} {p q : Progress}

theorem Accounted.of_plain {e : Err} (h : PlainErr e) : Accounted log e := by
  cases e with
  | governed message => exact .inl h
  | fault f => trivial

/-- What reading a run into the state keeps of its progress. -/
structure Kept (p q : Progress) : Prop where
  gap : p.gap ≠ "" → q.gap ≠ ""
  claimed : p.claimed → p.step ≠ stateStep .gapClaim → q.claimed

theorem Kept.refl (p : Progress) : Kept p p := ⟨id, fun h _ => h⟩

/-- Changes of other parts of the progress. -/
theorem Kept.of_eq (hgap : q.gap = p.gap) (hid : q.claimId = p.claimId)
    (href : q.claimRef = p.claimRef) : Kept p q := by
  refine ⟨fun h => by rw [hgap]; exact h, fun h _ => ?_⟩
  unfold Progress.claimed
  rw [hid, href]
  exact h

theorem Kept.of_recovered {d : Dict} (h : Recovered p d q) : Kept p q := by
  cases h with
  | gap g hg => exact ⟨fun _ => hg, fun hheld _ => hheld⟩
  | claim hstep => exact ⟨id, fun _ hother => absurd hstep hother⟩
  | _ => exact .of_eq rfl rfl rfl

/-- A step of the recovery: the tables and what is kept of the progress. -/
structure Reads (w w' : World) : Prop where
  tables : SameTables w w'
  kept : Kept w.live w'.live

section Recovery

variable {env : Env} {w : World}

/-- The run of a part of the recovery. -/
abbrev Recovers {α : Type} (m : Flow α) (Q : α → World → Prop) (w : World) : Prop :=
  wp m Q (fun e w' => Accounted w'.log e) w

theorem recovers_persist {updates : Dict} {change : Progress → Progress}
    (h : Amounts updates change) (hkept : Kept w.live (change w.live)) :
    Recovers (persistState env updates)
      (fun _ w' => Reads w w' ∧ ∀ e ∈ w.log, e ∈ w'.log) w := by
  have hlive := progress_merged env h w
  unfold Recovers wp
  rw [exec_persistState]
  cases env.write w.tick with
  | done =>
    refine ⟨⟨⟨rfl, rfl, rfl⟩, ?_⟩, fun e he => List.mem_cons_of_mem _ he⟩
    show Kept w.live (progress (w.merged env updates).state)
    rw [hlive]
    exact ⟨hkept.gap, hkept.claimed⟩
  | lost f | torn f | late f => trivial

theorem demands_recoveredUpdates (env : Env) (w : World) (step : String) (d : Dict) :
    Demands (recoveredUpdates env step d) (fun _ _ => True) w := by
  refine Demands.getClient (Demands.ite (fun _ => ?_) (fun _ => ?_))
  · cases hselect : selectGapId d (gapQuery env w.client) with
    | error message => exact Demands.raise (plain_selectGapId hselect)
    | ok gapId =>
      refine Demands.ite (fun _ => ?_) (fun _ => Demands.pure trivial)
      exact Demands.bind (demands_modifyClient _ rfl rfl rfl)
        (fun _ _ _ _ => Demands.pure trivial)
  refine Demands.ite (fun _ => Demands.pure trivial) (fun _ => ?_)
  refine Demands.ite (fun _ => Demands.pure trivial) (fun _ => ?_)
  refine Demands.ite (fun _ => Demands.pure trivial) (fun _ => ?_)
  refine Demands.ite (fun _ => ?_) (fun _ => Demands.pure trivial)
  exact Demands.bind (demands_receiptOf _ _) (fun _ _ _ _ => Demands.pure trivial)

theorem recovers_updateStateFromResult (d : Dict) :
    Recovers (updateStateFromResult env d) (fun _ w' => Reads w w') w := by
  refine wp_bind.mpr ?_
  show wp (recoveredUpdates env w.live.step d >>= fun updates =>
    persistState env (consumedUpdates ++ updates)) _ _ w
  have hread := (demands_recoveredUpdates env w w.live.step d).follows
    (follows_recoveredUpdates (L := Lingering.always) (n := 0) d)
  refine wp_bind.mpr (wp_mono hread.traced ?_ (fun _ _ h => Accounted.of_plain h.2))
  rintro updates w₁ ⟨hs, -, -, -, -, hlive, change, hamounts, hrecovered, -⟩
  have hkept : Kept w₁.live (change w₁.live) := by
    rw [hlive]
    exact .of_recovered hrecovered
  refine wp_mono (recovers_persist hamounts hkept) (fun _ w₂ h => ?_) (fun _ _ h => h)
  exact ⟨hs.trans h.1.tables, hlive ▸ h.1.kept⟩

/-- What is raised for a run that failed is in the answer that was received. -/
theorem recovers_finishSavedRun {r : Request} {resp : Response} {d : Dict} {step : String}
    {last : Bool} (hlog : Event.received r resp ∈ w.log) (hsite : r.site = .savedRunPoll step last)
    (hgives : Gives resp d) : Recovers (finishSavedRun env d) (fun _ w' => Reads w w') w := by
  unfold finishSavedRun
  by_cases hfailed : isFailedRun d = true
  · rw [if_pos hfailed]
    refine wp_bind.mpr (wp_mono (recovers_persist (amounts_failed _ _) (.of_eq rfl rfl rfl)) ?_
      (fun _ _ h => h))
    rintro _ w₁ ⟨-, hmem⟩
    exact .inr ⟨r, resp, d, step, last, hmem _ hlog, hsite, hgives, hfailed, rfl⟩
  · rw [if_neg hfailed]
    exact recovers_updateStateFromResult d

theorem recovers_savedRunAnswer (id url : String) (r : Request) :
    Recovers (savedRunAnswer env id url r)
      (fun d w' => w'.client = w.client ∧
        ∃ resp, Event.received r resp ∈ w'.log ∧ Gives resp d) w := by
  have hhttp : wp (http env r)
      (fun resp w' => w'.client = w.client ∧ Event.received r resp ∈ w'.log)
      (fun e w' => Accounted w'.log e) w := by
    unfold wp
    rw [exec_http]
    cases env.answer w.tick r with
    | fault f => trivial
    | response resp => exact ⟨rfl, List.mem_cons_self⟩
  refine wp_bind.mpr (wp_mono hhttp ?_ (fun _ _ h => h))
  rintro resp w₁ ⟨hclient, hmem⟩
  by_cases h404 : resp.statusCode = 404
  · simp only [if_pos h404]
    refine wp_bind.mpr (wp_mono (recovers_persist (amounts_notFound id url) (.of_eq rfl rfl rfl))
      (fun _ _ _ => ?_) (fun _ _ h => h))
    exact .inl (by simp [plain])
  · simp only [if_neg h404]
    cases hcheck : checkAnswer resp "governed run status" with
    | ok d => exact ⟨hclient, resp, hmem, gives_of_checkAnswer hcheck⟩
    | error e => exact Accounted.of_plain (plain_checkAnswer (by simp [plain]) hcheck)

theorem recovers_pollSavedPaths (id url : String) (paths : List String) (lastError : String) :
    Recovers (pollSavedPaths env id url paths lastError) (fun _ w' => Reads w w') w := by
  induction paths generalizing w lastError with
  | nil =>
    exact wp_mono (recovers_persist (amounts_pending _) (.of_eq rfl rfl rfl))
      (fun _ _ h => h.1) (fun _ _ h => h)
  | cons path rest ih =>
    refine wp_bind.mpr ?_
    show wp (savedRunAnswer env id url (pollRequest w.client
      (.savedRunPoll w.live.step rest.isEmpty) path) >>= _) _ _ w
    refine wp_bind.mpr (wp_mono (recovers_savedRunAnswer id url _) ?_ (fun _ _ h => h))
    rintro d w₁ ⟨hclient, resp, hmem, hgives⟩
    have hlive : w₁.live = w.live := live_of_client hclient
    have hback : ∀ w', Reads w₁ w' → Reads w w' := fun w' h =>
      ⟨(SameTables.of_client hclient).trans h.tables, hlive ▸ h.kept⟩
    by_cases hfin : isFinished d = true
    · simp only [if_pos hfin]
      exact wp_mono (recovers_finishSavedRun hmem rfl hgives) (fun _ w' h => hback w' h)
        (fun _ _ h => h)
    · simp only [if_neg hfin]
      exact wp_mono (ih (w := w₁) _) (fun _ w' h => hback w' h) (fun _ _ h => h)

/-- The recovery asks for no operation; it loses no gap, and no claim but one whose own run
    it reads. -/
theorem recovers_recoverPendingRun :
    Recovers (recoverPendingRun env)
      (fun _ w' => Reads w w' ∧ (¬ w.live.pending → w' = w)) w := by
  unfold Recovers wp
  by_cases hp : w.live.pending
  · rw [exec_recoverPendingRun_pending hp]
    exact wp_mono (recovers_pollSavedPaths _ _ _ _) (fun _ _ h => ⟨h, fun hnot => absurd hp hnot⟩)
      (fun _ _ h => h)
  · rw [exec_recoverPendingRun_idle hp]
    exact ⟨⟨.refl w, .refl w.live⟩, fun _ => rfl⟩

end Recovery

/-! ## A covered state -/

section Covered

variable {env : Env} {w : World} {raw : Dict} {operations : Operations}

/-- What is needed after the recovery was needed before it. -/
theorem Kept.needs (hkept : Kept p q) (hidle : ¬ p.pending → q = p) :
    (¬ q.claimed → p.needsClaim) ∧ (q.gap = "" ∨ ¬ q.claimed → p.needsGap) := by
  have hclaim : ¬ q.claimed → p.needsClaim := by
    intro hnot
    by_cases hheld : p.claimed
    · right
      have hpending : p.pending := by
        by_contra hno
        rw [hidle hno] at hnot
        exact hnot hheld
      refine ⟨hpending, ?_⟩
      by_contra hother
      exact hnot (hkept.claimed hheld hother)
    · exact .inl hheld
  refine ⟨hclaim, fun hneed => ?_⟩
  rcases hneed with hnone | hnot
  · by_cases hgap : p.gap = ""
    · exact .inl hgap
    · exact absurd hnone (hkept.gap hgap)
  · exact .inr (hclaim hnot)

/-- From a covered state the flow raises no error about an operation. -/
theorem accounted_continueRun (hdescribes : Describes env raw) (haccepts : Accepts raw operations)
    (hrecord : w.live.record ≠ "") (hdeclaration : w.client.repoDeclaration.isSome = true)
    (h : Covered raw operations w.live) :
    wp (continueRun env) (fun _ _ => True) (fun e w' => Accounted w'.log e) w := by
  obtain ⟨w₁, hdiscover, hclient₁, -⟩ := exec_discover (w := w) hdescribes haccepts
  have hlive₁ : w₁.live = w.live := by
    unfold World.live
    rw [hclient₁]
    rfl
  refine wp_bind.mpr (wp_of_exec hdiscover ?_)
  have hfollows : Follows env Lingering.always 6 (recoverPendingRun env)
      (fun _ w' => Polled w₁ w') (fun _ _ => True) w₁ := follows_recoverPendingRun (hlive₁ ▸ hrecord)
  have hrecover := wp_and recovers_recoverPendingRun hfollows
  refine wp_bind.mpr (wp_mono hrecover ?_ (fun _ _ h => h.1))
  rintro _ w₂ ⟨⟨hreads, hidle⟩, -, hpolled⟩
  obtain ⟨state, gapId, source, verified, hclient₂⟩ := hpolled.client
  refine wp_bind.mpr (wp_bind.mpr (wp_of_exec (exec_getClient w₂) ?_))
  cases hd : w₂.client.repoDeclaration with
  | none =>
    rw [hclient₂, hclient₁] at hd
    have hd' : w.client.repoDeclaration = none := hd
    rw [hd'] at hdeclaration
    exact nomatch hdeclaration
  | some declaration =>
    have hoperations : w₂.client.operations = operations := by
      rw [hreads.tables.operations, hclient₁]
      rfl
    have hcapabilities : w₂.client.capabilities = unwrapMcpEnvelope raw := by
      rw [hreads.tables.capabilities, hclient₁]
      rfl
    have hkept : Kept w.live w₂.live := hlive₁ ▸ hreads.kept
    have hafter := hkept.needs (fun hno => by rw [hidle (hlive₁ ▸ hno), hlive₁])
    have hsupplied : Supplied w₂ := by
      unfold Supplied
      rw [hoperations]
      exact haccepts.supplied
    have hstages : Demands (stages env) (fun _ _ => True) w₂ := demands_stages hsupplied
      (fun hneed => .inr (.inr (by rw [hcapabilities]; exact h.gap (hafter.2 hneed))))
      (fun hnot => by rw [hoperations]; exact h.claim (hafter.1 hnot))
    refine wp_bind.mpr (wp_mono hstages.traced (fun _ _ _ => ?_)
      (fun _ _ hplain => Accounted.of_plain hplain.2))
    trivial

theorem gate_of_covered (haccepts : Accepts raw operations)
    (h : Covered raw operations (progress record.state)) : GateSuffices raw record := by
  intro env hdescribes useLastState w w₁ _ hopen hstate message w' hrun hmissing
  have hfollows : Follows env Lingering.always 6 (openRun env useLastState)
      (fun _ w' => Opened w') (fun _ _ => True) w := follows_openRun useLastState
  have hopened : Opened w₁ := (wp_ok hfollows hopen).2
  have hlive : w₁.live = progress record.state := congrArg progress hstate
  rw [resume_eq_continueRun, exec_bind_ok hopen] at hrun
  have haccounted := wp_error (accounted_continueRun hdescribes haccepts hopened.1 hopened.2
    (hlive ▸ h)) hrun
  exact haccounted.resolve_left (fun hplain => not_missing_of_plain hplain hmissing)

end Covered

/-! ## A state that is not covered

A server that answers nothing but the capabilities and the saved run; it reports the run
of a claim finished, without a claim, and any other run active. -/

/-- A run that is still active. -/
def activeRun : Dict := [("status", .str "running")]

/-- A run that finished and names no claim. -/
def emptyRun : Dict := [("status", .str "succeeded")]

/-- The document a saved run is answered with. -/
def gateRun (step : String) : Dict := if step = stateStep .gapClaim then emptyRun else activeRun

/-- The answers of that server. -/
def gateAnswer (raw : Dict) (_t : Nat) (r : Request) : HttpAnswer :=
  match r.site with
  | .capabilities => found raw
  | .savedRunPoll step _ => found (gateRun step)
  | _ => .fault .killed

/-- The environment of that server. -/
def gateEnv (raw : Dict) : Env := { scripted "commit-1" (fun _ _ => none) with
  answer := gateAnswer raw }

/-- No saved run was reported to have failed. -/
def Clean (log : List Event) : Prop :=
  ∀ r resp d step last, .received r resp ∈ log → r.site = .savedRunPoll step last →
    Gives resp d → isFailedRun d = false

theorem Clean.not_reported (h : Clean log) (message : String) :
    ¬ Reported log message := by
  rintro ⟨r, resp, d, step, last, hmem, hsite, hgives, hfailed, -⟩
  rw [h r resp d step last hmem hsite hgives] at hfailed
  exact nomatch hfailed

theorem clean_nil : Clean [] := nofun

/-- Events that are no answer to a question for a saved run. -/
theorem Clean.cons {e : Event} (h : Clean log)
    (he : ∀ r resp, e = .received r resp → ∀ step last, r.site ≠ .savedRunPoll step last) :
    Clean (e :: log) := by
  intro r resp d step last hmem hsite hgives
  rcases List.mem_cons.mp hmem with heq | hold
  · exact absurd hsite (he r resp heq.symm step last)
  · exact h r resp d step last hold hsite hgives

theorem describes_gateEnv (raw : Dict) : Describes (gateEnv raw) raw := by
  intro t r hsite
  refine ⟨⟨200, "", some (.obj raw)⟩, ?_, (by decide : 200 < 400), rfl⟩
  show gateAnswer raw t r = _
  unfold gateAnswer
  rw [hsite]
  rfl

/-- The step fails because an operation is missing. -/
def Misses {α : Type} (m : Flow α) (w : World) : Prop :=
  ∃ message w', exec m w = (.error (.governed message), w') ∧ Missing message ∧ Clean w'.log

section Uncovered

variable {w : World} {raw : Dict} {operations : Operations}

theorem Misses.bind {α β : Type} {m : Flow α} {f : α → Flow β} (h : Misses m w) :
    Misses (m >>= f) w := by
  obtain ⟨message, w', hrun, hmissing, hclean⟩ := h
  exact ⟨message, w', exec_bind_error hrun, hmissing, hclean⟩

theorem Misses.step {α β : Type} {m : Flow α} {f : α → Flow β} {a : α} {w' : World}
    (hm : exec m w = (.ok a, w')) (h : Misses (f a) w') : Misses (m >>= f) w := by
  unfold Misses
  rw [exec_bind_ok hm]
  exact h

/-- Persisting always succeeds here. -/
theorem exec_gate_persist (updates : Dict) :
    exec (persistState (gateEnv raw) updates) w =
      (.ok ⟨⟩, { (w.openRecord (gateEnv raw)).store (w.merged (gateEnv raw) updates) with
        client := { w.client with
          currentState := (w.merged (gateEnv raw) updates).state } }) := by
  rw [exec_persistState]
  rfl

/-! ### The missing gap -/

/-- Nothing tells the client a gap. -/
structure Gapless (w : World) : Prop where
  operator : w.client.operatorGapId = ""
  explicit : gapIdFromCapabilities w.client.capabilities = ""
  discovery : gapDiscoveryOperation w.client.capabilities = none

/-- What `_resolve_gap_id` raises then. -/
def gaplessMessage : String :=
  "MCP capabilities missing gap discovery run type."
    ++ " Run 'keyhole gaps list --json' to inspect claimable gaps, "
    ++ "or pass an explicit canonical gap with --gap-id gap_..."

theorem missing_gaplessMessage : Missing gaplessMessage := by
  unfold Missing gaplessMessage
  decide +kernel

theorem exec_resolveGapId_gapless (h : Gapless w) (hnone : w.client.resolvedGapId = "") :
    exec (resolveGapId (gateEnv raw)) w = (.error (.governed gaplessMessage), w) := by
  have hlisted : exec (resolveListedGapId (gateEnv raw)) w
      = (.error (.governed "MCP capabilities missing gap discovery run type."), w) := by
    unfold resolveListedGapId discoverGapId
    refine exec_bind_error ?_
    rw [exec_bind_ok (exec_getClient w), h.discovery]
    rfl
  have hbase : exec (resolveGapIdBase (gateEnv raw)) w
      = (.error (.governed "MCP capabilities missing gap discovery run type."), w) := by
    have hempty : strip "" = "" := by decide
    have hoverride : ¬ strip (gateEnv raw).gapOverride ≠ "" := not_not.mpr hempty
    unfold resolveGapIdBase
    rw [exec_bind_ok (exec_getClient w)]
    show exec (if _ then _ else _) w = _
    rw [if_neg (not_not.mpr hnone), if_neg hoverride, if_neg (not_not.mpr h.explicit)]
    exact hlisted
  unfold resolveGapId
  rw [exec_bind_ok (exec_getClient w), if_neg (not_not.mpr h.operator),
    exec_bind_ok (exec_catchGoverned_governed hbase)]
  rfl

theorem misses_gapStage (h : Gapless w) (hnone : w.client.resolvedGapId = "")
    (hgap : w.live.gap = "") (hclean : Clean w.log) : Misses (gapStage (gateEnv raw)) w := by
  refine Misses.step (exec_getClient w) ?_
  have hset : ¬ truthy (w.client.currentState.get "resolved_gap_id") = true := by
    rw [truthy_gap, decide_eq_true_iff]
    exact not_not.mpr hgap
  rw [if_neg hset]
  refine Misses.step (exec_catchGoverned_governed (exec_resolveGapId_gapless h hnone)) ?_
  refine Misses.step (exec_gate_persist _) ?_
  exact ⟨gaplessMessage, _, rfl, missing_gaplessMessage,
    hclean.cons nofun⟩

/-- A cached gap is looked up again before a claim, and cannot be. -/
theorem misses_claimStage_gapless (h : Gapless w) (hverified : w.client.gapIdClaimableVerified = false)
    (hgap : w.live.gap ≠ "") (hunclaimed : ¬ w.live.claimed) (hclean : Clean w.log) :
    Misses (claimStage (gateEnv raw)) w := by
  refine Misses.step (exec_getClient w) ?_
  have hset : ¬ (truthy (w.client.currentState.get "claim_id")
      || truthy (w.client.currentState.get "claim_ref")) = true := by
    rw [truthy_claim, decide_eq_true_iff]
    exact hunclaimed
  rw [if_neg hset]
  refine Misses.bind (Misses.bind ?_)
  refine Misses.step (exec_getClient w) ?_
  have hcached : strOr (orElse (w.client.currentState.get "resolved_gap_id")
      (.str w.client.resolvedGapId)) ≠ "" := by
    rw [strOr_orElse]
    have hgap' : strOr (w.client.currentState.get "resolved_gap_id") ≠ "" := hgap
    rw [if_neg hgap']
    exact hgap'
  have hopen : ¬ (w.client.gapIdClaimableVerified = true ∨ w.client.operatorGapId ≠ "") := by
    rintro (hv | ho)
    · rw [hverified] at hv
      exact nomatch hv
    · exact ho h.operator
  show Misses (if _ then _ else _) w
  rw [if_neg hopen, if_neg hcached]
  refine Misses.step (exec_modifyClient _ _) ?_
  refine Misses.step (exec_catchGoverned_governed
    (exec_resolveGapId_gapless ⟨h.operator, h.explicit, h.discovery⟩ rfl)) ?_
  refine Misses.step (exec_modifyClient _ _) ?_
  refine Misses.step (exec_gate_persist _) ?_
  exact ⟨gaplessMessage, _, rfl, missing_gaplessMessage,
    hclean.cons nofun⟩

/-! ### The missing claim -/

/-- The operator names a gap, and the table has no `gaps.claim`. -/
structure Claimless (w : World) : Prop where
  operator : w.client.operatorGapId = "gap_x"
  some : w.client.operations.isEmpty = false
  claim : w.client.operations.lookup "gaps.claim" = none

theorem misses_claimStage_claimless (h : Claimless w) (hunclaimed : ¬ w.live.claimed)
    (hclean : Clean w.log) : Misses (claimStage (gateEnv raw)) w := by
  refine Misses.step (exec_getClient w) ?_
  have hset : ¬ (truthy (w.client.currentState.get "claim_id")
      || truthy (w.client.currentState.get "claim_ref")) = true := by
    rw [truthy_claim, decide_eq_true_iff]
    exact hunclaimed
  rw [if_neg hset]
  have hrefresh : exec (refreshCachedGapClaimability (gateEnv raw)) w = (.ok ⟨⟩, w) := by
    have hnamed : w.client.gapIdClaimableVerified = true ∨ w.client.operatorGapId ≠ "" := by
      rw [h.operator]
      exact .inr (by decide)
    unfold refreshCachedGapClaimability
    rw [exec_bind_ok (exec_getClient w)]
    show exec (if _ then _ else _) w = _
    rw [if_pos hnamed]
    rfl
  have hdiscovered : exec (ensureDiscovered (gateEnv raw)) w = (.ok ⟨⟩, w) := by
    unfold ensureDiscovered
    rw [exec_bind_ok (exec_getClient w), if_neg (by rw [h.some]; exact Bool.false_ne_true)]
    rfl
  refine Misses.bind (Misses.step hrefresh (Misses.step hdiscovered (Misses.bind ?_)))
  refine Misses.step (exec_getClient w) ?_
  rw [h.claim]
  exact ⟨_, w, rfl, by unfold Missing; decide, hclean⟩

/-- The gap the operator names is taken over. -/
theorem exec_gapStage_operator (raw : Dict) (h : Claimless w) :
    ∃ w', exec (gapStage (gateEnv raw)) w = (.ok ⟨⟩, w') ∧ Claimless w'
      ∧ (¬ w.live.claimed → ¬ w'.live.claimed) ∧ (Clean w.log → Clean w'.log) := by
  unfold gapStage
  rw [exec_bind_ok (exec_getClient w)]
  by_cases hset : truthy (w.client.currentState.get "resolved_gap_id") = true
  · rw [if_pos hset]
    exact ⟨w, rfl, h, id, id⟩
  rw [if_neg hset]
  let w₁ : World := { w with client := { w.client with
    resolvedGapId := w.client.operatorGapId, gapIdSource := "operator --gap-id"
    gapIdClaimableVerified := true } }
  have hresolve : exec (resolveGapId (gateEnv raw)) w = (.ok w.client.operatorGapId, w₁) := by
    have hnamed : w.client.operatorGapId ≠ "" := by rw [h.operator]; decide
    have hcanonical : startsWith w.client.operatorGapId "gap_" = true := by
      rw [h.operator]
      decide
    unfold resolveGapId
    rw [exec_bind_ok (exec_getClient w), if_pos hnamed, if_pos hcanonical]
    rfl
  rw [exec_bind_ok (exec_catchGoverned_ok hresolve)]
  show ∃ w', exec (getClient >>= _) w₁ = _ ∧ _
  rw [exec_bind_ok (exec_getClient w₁), exec_gate_persist]
  refine ⟨_, rfl, ⟨h.operator, h.some, h.claim⟩, fun hnot => ?_, fun hclean =>
    hclean.cons nofun⟩
  show ¬ (progress (w₁.merged (gateEnv raw) _).state).claimed
  rw [progress_merged (gateEnv raw) (amounts_gap _ _) w₁]
  exact hnot

/-! ### The recovery -/

/-- What the recovery leaves: only the state has changed, the gap in it has not, and a claim
    that was needed is not there. -/
structure Unrecovered (w w' : World) : Prop where
  client : ∃ state, w'.client = { w.client with currentState := state }
  gap : w'.live.gap = w.live.gap
  claim : w.live.needsClaim → ¬ w'.live.claimed
  clean : Clean w.log → Clean w'.log

theorem Unrecovered.trans_client {a b c : World} (h : Unrecovered b c)
    (hclient : b.client = a.client) (hclean : Clean a.log → Clean b.log) : Unrecovered a c := by
  have hlive : b.live = a.live := live_of_client hclient
  obtain ⟨state, hstate⟩ := h.client
  refine ⟨⟨state, ?_⟩, ?_, fun hneed => h.claim (hlive ▸ hneed), fun ha => h.clean (hclean ha)⟩
  · rw [hstate, hclient]
  · rw [h.gap, hlive]

theorem gateRun_open (step : String) : isFailedRun (gateRun step) = false := by
  unfold gateRun
  by_cases h : step = stateStep .gapClaim
  · rw [if_pos h]
    decide
  · rw [if_neg h]
    decide

theorem exec_savedRunAnswer_gate (raw : Dict) (w : World) (id url : String) {r : Request} {step : String} {last : Bool}
    (hsite : r.site = .savedRunPoll step last) :
    ∃ w', exec (savedRunAnswer (gateEnv raw) id url r) w = (.ok (gateRun step), w')
      ∧ w'.client = w.client ∧ (Clean w.log → Clean w'.log) := by
  let resp : Response := ⟨200, "", some (.obj (gateRun step))⟩
  have hanswer : (gateEnv raw).answer w.tick r = .response resp := by
    show gateAnswer raw w.tick r = _
    unfold gateAnswer
    rw [hsite]
    rfl
  have hhttp : exec (http (gateEnv raw) r) w = (.ok resp, (w.send r).hear r resp) := by
    rw [exec_http, hanswer]
  have hcheck : checkAnswer resp "governed run status" = .ok (gateRun step) := by
    show checkAnswer ⟨200, "", some (.obj (gateRun step))⟩ _ = _
    unfold gateRun
    by_cases h : step = stateStep .gapClaim
    · rw [if_pos h]
      rfl
    · rw [if_neg h]
      rfl
  refine ⟨(w.send r).hear r resp, ?_, rfl, ?_⟩
  · unfold savedRunAnswer
    rw [exec_bind_ok hhttp]
    show exec (ofExcept (checkAnswer resp "governed run status")) _ = _
    rw [hcheck]
    rfl
  · intro hclean r' resp' d step' last' hmem hsite' hgives
    rcases List.mem_cons.mp hmem with heq | hold
    · cases heq
      have hd : gateRun step = d := Json.obj.inj (Option.some.inj hgives.2.1)
      exact hd ▸ gateRun_open step
    · have hsent : Clean (.sent w.record r :: w.log) := hclean.cons nofun
      exact hsent r' resp' d step' last' hold hsite' hgives

/-- A run that stays active is left as it is. -/
theorem exec_pollSavedPaths_active (hstep : w.live.step ≠ stateStep .gapClaim) (id url : String)
    (paths : List String) (lastError : String) :
    ∃ w', exec (pollSavedPaths (gateEnv raw) id url paths lastError) w = (.ok ⟨⟩, w')
      ∧ Unrecovered w w' := by
  induction paths generalizing w lastError with
  | nil =>
    refine ⟨_, exec_gate_persist _, ⟨⟨_, rfl⟩, ?_, ?_, fun hclean =>
      hclean.cons nofun⟩⟩
    · show (progress (w.merged (gateEnv raw) _).state).gap = _
      rw [progress_merged (gateEnv raw) (amounts_pending _) w]
      rfl
    · intro hneed
      show ¬ (progress (w.merged (gateEnv raw) _).state).claimed
      rw [progress_merged (gateEnv raw) (amounts_pending _) w]
      exact hneed.resolve_right (fun hrun => hstep hrun.2)
  | cons path rest ih =>
    obtain ⟨w₁, hanswer, hclient, hclean⟩ := exec_savedRunAnswer_gate raw w id url
      (r := pollRequest w.client (.savedRunPoll w.live.step rest.isEmpty) path) rfl
    have hactive : gateRun w.live.step = activeRun := if_neg hstep
    have hstep₁ : w₁.live.step ≠ stateStep .gapClaim := by
      rw [live_of_client hclient]
      exact hstep
    have hopen : isFinished activeRun = false := by decide
    obtain ⟨w₂, hrest, hleft⟩ := ih hstep₁ (orPending (runStatus activeRun))
    refine ⟨w₂, ?_, hleft.trans_client hclient hclean⟩
    unfold pollSavedPaths
    rw [exec_bind_ok (exec_getClient w)]
    show exec (savedRunAnswer (gateEnv raw) id url (pollRequest w.client
      (.savedRunPoll w.live.step rest.isEmpty) path) >>= _) w = _
    rw [exec_bind_ok hanswer, hactive, if_neg (by rw [hopen]; exact Bool.false_ne_true)]
    exact hrest

/-- A run of a claim that ends without one leaves no claim. -/
theorem exec_pollSavedPaths_claim (hstep : w.live.step = stateStep .gapClaim) (id url path : String)
    (rest : List String) (lastError : String) :
    ∃ w', exec (pollSavedPaths (gateEnv raw) id url (path :: rest) lastError) w = (.ok ⟨⟩, w')
      ∧ Unrecovered w w' := by
  obtain ⟨w₁, hanswer, hclient, hclean⟩ := exec_savedRunAnswer_gate raw w id url
    (r := pollRequest w.client (.savedRunPoll w.live.step rest.isEmpty) path) rfl
  have hempty : gateRun w.live.step = emptyRun := if_pos hstep
  have hstep₁ : w₁.live.step = "gap_claim" := by
    rw [live_of_client hclient]
    exact hstep
  have hupdates : exec (recoveredUpdates (gateEnv raw) w₁.live.step emptyRun) w₁
      = (.ok [("claim_id", .str (extractClaimId emptyRun)),
          ("claim_ref", .str (extractClaimRef emptyRun)),
          ("status", .str "claim_succeeded"), ("step", .str "claim_succeeded")], w₁) := by
    rw [hstep₁]
    rfl
  have hfinish : exec (finishSavedRun (gateEnv raw) emptyRun) w₁
      = exec (persistState (gateEnv raw) (consumedUpdates
          ++ [("claim_id", .str (extractClaimId emptyRun)),
            ("claim_ref", .str (extractClaimRef emptyRun)),
            ("status", .str "claim_succeeded"), ("step", .str "claim_succeeded")])) w₁ := by
    have hopen : ¬ isFailedRun emptyRun = true := by decide
    unfold finishSavedRun updateStateFromResult
    rw [if_neg hopen, exec_bind_ok (exec_getClient w₁)]
    show exec (recoveredUpdates (gateEnv raw) w₁.live.step emptyRun >>= _) w₁ = _
    rw [exec_bind_ok hupdates]
  have hfinished : isFinished emptyRun = true := by decide
  have hleft : ∃ w', exec (finishSavedRun (gateEnv raw) emptyRun) w₁ = (.ok ⟨⟩, w')
      ∧ Unrecovered w₁ w' := by
    rw [hfinish]
    refine ⟨_, exec_gate_persist _, ⟨⟨_, rfl⟩, ?_, fun _ => ?_, fun hclean =>
        hclean.cons nofun⟩⟩
    · show (progress (w₁.merged (gateEnv raw) _).state).gap = _
      rw [progress_merged (gateEnv raw) (amounts_recoveredClaim _ _) w₁]
      rfl
    · show ¬ (progress (w₁.merged (gateEnv raw) _).state).claimed
      rw [progress_merged (gateEnv raw) (amounts_recoveredClaim _ _) w₁]
      have hnone : extractClaimId emptyRun = "" ∧ extractClaimRef emptyRun = "" := by
        decide
      rintro (hid | href)
      · exact hid hnone.1
      · exact href hnone.2
  obtain ⟨w₂, hrun, hun⟩ := hleft
  refine ⟨w₂, ?_, hun.trans_client hclient hclean⟩
  unfold pollSavedPaths
  rw [exec_bind_ok (exec_getClient w)]
  show exec (savedRunAnswer (gateEnv raw) id url (pollRequest w.client
    (.savedRunPoll w.live.step rest.isEmpty) path) >>= _) w = _
  rw [exec_bind_ok hanswer, hempty, if_pos hfinished]
  exact hrun

theorem exec_recoverPendingRun_gate (raw : Dict) (w : World) :
    ∃ w', exec (recoverPendingRun (gateEnv raw)) w = (.ok ⟨⟩, w') ∧ Unrecovered w w' := by
  by_cases hp : w.live.pending
  · rw [exec_recoverPendingRun_pending hp]
    obtain ⟨path, rest, hpaths⟩ := savedRunPaths_of_named hp.1
    rw [hpaths]
    by_cases hstep : w.live.step = stateStep .gapClaim
    · exact exec_pollSavedPaths_claim hstep _ _ path rest ""
    · exact exec_pollSavedPaths_active hstep _ _ (path :: rest) ""
  · rw [exec_recoverPendingRun_idle hp]
    exact ⟨w, rfl, ⟨_, rfl⟩, rfl, fun hneed => hneed.resolve_right (fun hrun => hp hrun.1), id⟩

/-! ### The failure -/

/-- Before the recovery: the state, the tables, and a client that has looked up no gap. -/
structure Entering (raw : Dict) (operations : Operations) (record : RunRecord)
    (operatorGapId : String) (w : World) : Prop where
  live : w.live = progress record.state
  clean : Clean w.log
  operations : w.client.operations = operations
  capabilities : w.client.capabilities = unwrapMcpEnvelope raw
  operator : w.client.operatorGapId = operatorGapId
  verified : w.client.gapIdClaimableVerified = false
  resolved : (progress record.state).gap = "" → w.client.resolvedGapId = ""
  declaration : w.client.repoDeclaration.isSome = true

/-- A resumption whose stages fail after the recovery fails. -/
theorem misses_continueRun (haccepts : Accepts raw operations)
    {operatorGapId : String} {w : World} (hloads : Loads record operatorGapId w)
    (hstages : ∀ w₁ w₂, Entering raw operations record operatorGapId w₁ → Unrecovered w₁ w₂ →
      Misses (stages (gateEnv raw)) w₂) : Misses (continueRun (gateEnv raw)) w := by
  obtain ⟨w₁, hdiscover, hclient₁, r, resp, hsite, hlog₁⟩ :=
    exec_discover (w := w) (describes_gateEnv raw) haccepts
  have hentering : Entering raw operations record operatorGapId w₁ := by
    refine ⟨?_, ?_, by rw [hclient₁]; rfl, by rw [hclient₁]; rfl, by rw [hclient₁]; exact hloads.operator,
      by rw [hclient₁]; exact hloads.verified, by rw [hclient₁]; exact hloads.resolved,
      by rw [hclient₁]; exact hloads.declaration⟩
    · unfold World.live
      rw [hclient₁]
      exact congrArg progress hloads.state
    · rw [hlog₁, hloads.log]
      have hsent : Clean [.sent w.record r] := clean_nil.cons nofun
      refine hsent.cons (fun r' resp' heq step last => ?_)
      cases heq
      rw [hsite]
      exact nofun
  obtain ⟨w₂, hrecover, hleft⟩ := exec_recoverPendingRun_gate raw w₁
  obtain ⟨state, hclient₂⟩ := hleft.client
  have hknown : ∃ declaration, exec (knownDeclaration (gateEnv raw)) w₂ = (.ok declaration, w₂) := by
    unfold knownDeclaration
    rw [exec_bind_ok (exec_getClient w₂), hclient₂]
    have hdeclaration := hentering.declaration
    cases hd : w₁.client.repoDeclaration with
    | none =>
      rw [hd] at hdeclaration
      exact nomatch hdeclaration
    | some declaration =>
      exact ⟨declaration, rfl⟩
  obtain ⟨declaration, hknown⟩ := hknown
  exact Misses.step hdiscover (Misses.step hrecover (Misses.step hknown
    (Misses.bind (hstages w₁ w₂ hentering hleft))))

theorem misses_stages_claim (haccepts : Accepts raw operations)
    (hneed : (progress record.state).needsClaim) (hnone : operations.lookup "gaps.claim" = none)
    {w₁ w₂ : World} (hw₁ : Entering raw operations record "gap_x" w₁) (hw₂ : Unrecovered w₁ w₂) :
    Misses (stages (gateEnv raw)) w₂ := by
  obtain ⟨state, hclient⟩ := hw₂.client
  have hoperations : w₂.client.operations = operations := by
    rw [hclient]
    exact hw₁.operations
  have hsome : operations.isEmpty = false := by
    have hregister := haccepts.supplied "repo.register" List.mem_cons_self
    cases operations with
    | nil => exact nomatch hregister
    | cons entry rest => rfl
  have hclaimless : Claimless w₂ :=
    ⟨by rw [hclient]; exact hw₁.operator, by rw [hoperations]; exact hsome,
      by rw [hoperations]; exact hnone⟩
  obtain ⟨w₃, hgap, hclaimless₃, hunclaimed, hclean⟩ :=
    exec_gapStage_operator raw hclaimless
  exact Misses.step hgap (Misses.bind (misses_claimStage_claimless hclaimless₃
    (hunclaimed (hw₂.claim (hw₁.live ▸ hneed))) (hclean (hw₂.clean hw₁.clean))))

theorem misses_stages_gap (hneed : (progress record.state).needsGap)
    (hexplicit : gapIdFromCapabilities (unwrapMcpEnvelope raw) = "")
    (hnone : gapDiscoveryOperation (unwrapMcpEnvelope raw) = none)
    {w₁ w₂ : World} (hw₁ : Entering raw operations record "" w₁) (hw₂ : Unrecovered w₁ w₂) :
    Misses (stages (gateEnv raw)) w₂ := by
  obtain ⟨state, hclient⟩ := hw₂.client
  have hclean := hw₂.clean hw₁.clean
  have hcapabilities : w₂.client.capabilities = unwrapMcpEnvelope raw := by
    rw [hclient]
    exact hw₁.capabilities
  have hgapless : Gapless w₂ :=
    ⟨by rw [hclient]; exact hw₁.operator, by rw [hcapabilities]; exact hexplicit,
      by rw [hcapabilities]; exact hnone⟩
  have hkept : w₂.live.gap = (progress record.state).gap := by rw [hw₂.gap, hw₁.live]
  by_cases hgap : w₂.live.gap = ""
  · -- no gap is resolved, and the gap stage looks for one
    refine Misses.bind (misses_gapStage hgapless ?_ hgap hclean)
    rw [hclient]
    exact hw₁.resolved (hkept ▸ hgap)
  · -- the claim stage looks again
    have hclaim := hneed.resolve_left (hkept ▸ hgap)
    refine Misses.step (exec_gapStage_held hgap) (Misses.bind (misses_claimStage_gapless hgapless ?_ hgap
      (hw₂.claim (hw₁.live ▸ hclaim)) hclean))
    rw [hclient]
    exact hw₁.verified

/-- A resumption of the saved state that fails shows that the gate does not suffice. -/
theorem not_gateSuffices (haccepts : Accepts raw operations) (operatorGapId : String)
    (hstages : ∀ w₁ w₂, Entering raw operations record operatorGapId w₁ → Unrecovered w₁ w₂ →
      Misses (stages (gateEnv raw)) w₂) : ¬ GateSuffices raw record := by
  intro h
  have hreadable : ∀ t, Nonempty (Readable ((gateEnv raw).repo t) "" "") :=
    fun _ => readable_complete (by decide)
  obtain ⟨w₁, hopen, hloads⟩ := exec_openRun_saved hreadable record operatorGapId
  obtain ⟨message, w', hrun, hmissing, hclean⟩ := misses_continueRun haccepts hloads hstages
  refine hclean.not_reported message (h (gateEnv raw) (describes_gateEnv raw) true _ w₁ rfl hopen
    hloads.state message w' ?_ hmissing)
  rw [resume_eq_continueRun, exec_bind_ok hopen]
  exact hrun

theorem covered_of_gate (haccepts : Accepts raw operations)
    (h : GateSuffices raw record) : Covered raw operations (progress record.state) := by
  refine ⟨fun hneed => ?_, fun hneed => ?_⟩
  · by_contra hnone
    rw [Bool.not_eq_true, Option.isSome_eq_false_iff, Option.isNone_iff_eq_none] at hnone
    exact not_gateSuffices haccepts "gap_x"
      (fun _ _ => misses_stages_claim haccepts hneed hnone) h
  · by_contra hnone
    rw [not_or, not_not, not_not] at hnone
    exact not_gateSuffices haccepts ""
      (fun _ _ => misses_stages_gap hneed hnone.1 hnone.2) h

end Uncovered

/-! ## The result -/

/-- Discovery suffices exactly for the states the document covers. -/
theorem gateSuffices_iff (raw : Dict) (operations : Operations) (record : RunRecord)
    (haccepts : Accepts raw operations) :
    GateSuffices raw record ↔ Covered raw operations (progress record.state) :=
  ⟨covered_of_gate haccepts, gate_of_covered haccepts⟩

/-- The capabilities of a server that offers the three operations every flow needs. -/
def threeOperations : Dict :=
  [("operations", .obj [
    ("repo.register", .obj [("run_type", .str "repo.register")]),
    ("context.compile", .obj [("run_type", .str "context.compile")]),
    ("governed.realize", .obj [("run_type", .str "governed.realize")])])]

/-- An operation that is started as a run. -/
def throughRuns (name : String) : String × BoundaryOperation :=
  (name, ⟨name, "/mcp/v1/runs/start", "POST", "runs.start", name⟩)

/-- The table of the three operations. -/
def threeTable : Operations :=
  [throughRuns "repo.register", throughRuns "context.compile", throughRuns "governed.realize"]

theorem accepts_threeOperations : Accepts threeOperations threeTable := by
  refine ⟨by decide, fun hclaim => ?_, by decide⟩
  have hnone : requiresActiveClaim (unwrapMcpEnvelope threeOperations) = false := by
    decide
  rw [hnone] at hclaim
  exact nomatch hclaim

/-- A run record that has just been opened. -/
def freshRecord : RunRecord where
  state := .ofDict [("run_record_id", .str "20260101T000000000000Z"), ("terminal", .bool false)]
  named := by decide

theorem gateSuffices_iff_three : GateSuffices threeOperations freshRecord ↔
    Covered threeOperations threeTable (progress freshRecord.state) :=
  gateSuffices_iff threeOperations threeTable freshRecord accepts_threeOperations

/-- Discovery accepts the three operations, no active claim is required, and a fresh flow
    fails all the same, looking for a gap. -/
theorem gate_opens_too_wide : Accepts threeOperations threeTable
    ∧ requiresActiveClaim (unwrapMcpEnvelope threeOperations) = false
    ∧ ¬ GateSuffices threeOperations freshRecord := by
  have hexplicit : gapIdFromCapabilities (unwrapMcpEnvelope threeOperations) = "" := by
    decide
  have hdiscovery : gapDiscoveryOperation (unwrapMcpEnvelope threeOperations) = none := by
    decide
  have hgap : (progress freshRecord.state).gap = "" := by decide
  exact ⟨accepts_threeOperations, by decide, not_gateSuffices accepts_threeOperations ""
    (fun _ _ => misses_stages_gap (.inl hgap) hexplicit hdiscovery)⟩

end KeyholeFlow
