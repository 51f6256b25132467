import Keyhole.FlowProtocol

/-!
# The client follows the protocol

One lemma a method: its run is a path of protocol steps up to its level, and what
is known when it returns.  The licences of the steps are discharged here, once;
the claims about the flow are read off the paths. -/

namespace KeyholeFlow

open KeyholeJson KeyholeRedaction KeyholeEnvelope KeyholeGaps KeyholeOperations KeyholeRepo
  EffectProgram

/-- The run of `m` from `w` is a path up to level `n`. -/
abbrev Follows {α : Type} (env : Env) (L : Lingering) (n : Nat) (m : Flow α) (Q : α → World → Prop)
    (E : Err → World → Prop) (w : World) : Prop :=
  Traced (Path env L n) m Q E w

variable {w' w b : World} {k : Nat} {E : Err → World → Prop} {resp : Response} {d : Dict}
variable {q : Progress}

section Rules

variable {α β : Type} {env : Env} {L : Lingering} {n : Nat} {E : Err → World → Prop} {w : World}

theorem Follows.bind {m : Flow α} {f : α → Flow β} {P : α → World → Prop}
    {Q : β → World → Prop} (hm : Follows env L n m P E w)
    (hf : ∀ a w', Path env L n w w' → P a w' → Follows env L n (f a) Q E w') :
    Follows env L n (m >>= f) Q E w :=
  traced_bind (@Path.trans env L n) hm hf

theorem Follows.pure {a : α} {Q : α → World → Prop} (h : Q a w) :
    Follows env L n (pure a) Q E w := traced_pure Path.refl h

theorem Follows.throw {e : Err} {Q : α → World → Prop} (h : E e w) :
    Follows env L n (throw e : Flow α) Q E w := traced_throw Path.refl h

theorem Follows.raise {message : String} {Q : α → World → Prop} (h : E (.governed message) w) :
    Follows env L n (raise message : Flow α) Q E w := traced_throw Path.refl h

/-- A step that is known to return continues as if it had not been there. -/
theorem Follows.bind_exec {m : Flow α} {f : α → Flow β} {Q : β → World → Prop} {a : α}
    (hm : exec m w = (.ok a, w')) (hp : Path env L n w w')
    (hf : Follows env L n (f a) Q E w') : Follows env L n (m >>= f) Q E w := by
  refine Follows.bind (P := fun b v => b = a ∧ v = w') ?_ ?_
  · show wp m _ _ w
    unfold wp
    rw [hm]
    exact ⟨hp, rfl, rfl⟩
  · rintro b v - ⟨rfl, rfl⟩
    exact hf

theorem Follows.getClient {f : Client → Flow β} {Q : β → World → Prop}
    (h : Follows env L n (f w.client) Q E w) : Follows env L n (getClient >>= f) Q E w :=
  Follows.bind_exec (exec_getClient w) (Path.refl w) h

theorem Follows.mono {m : Flow α} {Q Q' : α → World → Prop}
    {E' : Err → World → Prop} (h : Follows env L k m Q E w) (hk : k ≤ n)
    (hQ : ∀ a w', Q a w' → Q' a w') (hE : ∀ e w', E e w' → E' e w') :
    Follows env L n m Q' E' w :=
  wp_mono h (fun a w' h => ⟨h.1.mono hk, hQ a w' h.2⟩) (fun e w' h => ⟨h.1.mono hk, hE e w' h.2⟩)

/-- A run of a lower level, whose path is kept. -/
theorem Follows.lift {m : Flow α} {Q : α → World → Prop}
    (h : Follows env L k m Q E w) (hk : k ≤ n) :
    Follows env L n m (fun a w' => Path env L k w w' ∧ Q a w') E w :=
  wp_mono h (fun _ _ h => ⟨h.1.mono hk, h⟩) (fun _ _ h => ⟨h.1.mono hk, h.2⟩)

/-- Consequence, with the path of the run at hand. -/
theorem Follows.weaken {m : Flow α} {Q Q' : α → World → Prop} {E' : Err → World → Prop}
    (h : Follows env L n m Q E w) (hQ : ∀ a w', Path env L n w w' → Q a w' → Q' a w')
    (hE : ∀ e w', Path env L n w w' → E e w' → E' e w') : Follows env L n m Q' E' w :=
  traced_mono h hQ hE

theorem Follows.ofExcept {x : Except Err α} {Q : α → World → Prop}
    (hok : ∀ a, x = .ok a → Q a w) (herr : ∀ e, x = .error e → E e w) :
    Follows env L n (ofExcept x) Q E w := by
  cases x with
  | ok a => exact Follows.pure (hok a rfl)
  | error e => exact Follows.throw (herr e rfl)

/-- `try ... except GovernedDemoError`: the message arrives with what is known after
    the error; a fault passes through. -/
theorem Follows.catchGoverned {m : Flow α} {Q : Except String α → World → Prop}
    {F : Err → World → Prop} {P : α → World → Prop} (h : Follows env L n m P F w)
    (hok : ∀ a w', P a w' → Q (.ok a) w') (herr : ∀ e w', F (.governed e) w' → Q (.error e) w')
    (hfault : ∀ f w', F (.fault f) w' → E (.fault f) w') :
    Follows env L n (catchGoverned m) Q E w := by
  refine traced_tryCatch (@Path.trans env L n) (F := F)
    (Follows.bind h (fun a w' _ hp => Follows.pure (hok a w' hp))) ?_
  intro e w' _ hf
  cases e with
  | governed message => exact Follows.pure (herr message w' hf)
  | fault f => exact Follows.throw (hfault f w' hf)

end Rules

/-! ## Bookkeeping -/

section Silent

variable {env : Env} {L : Lingering} {n : Nat} {w w' : World}

/-- A change of the world that neither the log nor a saved state shows. -/
theorem Path.silent (hlog : w'.log = w.log) (hlatest : w'.latest = w.latest)
    (hstate : w'.client.currentState = w.client.currentState) (keeps : Keeps w w') :
    Path env L n w w' := by
  refine Path.single (Nat.zero_le n) (Step.silent hlog ?_ (.inl ?_) keeps)
  · show progress w'.client.currentState = _
    rw [hstate]
    rfl
  · unfold World.disk
    rw [hlatest]

theorem Path.tick (w : World) : Path env L n w w.next :=
  Path.silent rfl rfl rfl ⟨rfl, rfl, fun _ => rfl⟩

/-- A change of the client that keeps its state, its operator gap, its story and its
    operations. -/
theorem Path.client (f : Client → Client)
    (hstate : (f w.client).currentState = w.client.currentState)
    (hoperator : (f w.client).operatorGapId = w.client.operatorGapId)
    (hstory : (f w.client).storyId = w.client.storyId)
    (hoperations : (f w.client).operations = w.client.operations) :
    Path env L n w { w with client := f w.client } :=
  Path.silent rfl rfl hstate ⟨hoperator, hstory, fun _ => hoperations⟩

theorem follows_readRepo :
    Follows env L n (readRepo env) (fun content w' => content = env.repo w.tick ∧ w' = w.next)
      E w := by
  show wp _ _ _ w
  unfold wp
  rw [exec_readRepo]
  exact ⟨Path.tick w, rfl, rfl⟩

theorem follows_headers (idempotent : Bool) :
    Follows env L n (headers env idempotent) (fun _ w' => w'.log = w.log ∧
      w'.latest = w.latest ∧ w'.client = w.client) E w := by
  refine Follows.getClient ?_
  cases idempotent with
  | true =>
    exact Follows.bind_exec (exec_nextTick w) (Path.tick w) (Follows.pure ⟨rfl, rfl, rfl⟩)
  | false => exact Follows.pure ⟨rfl, rfl, rfl⟩

theorem follows_readDemoState (name : String) (hE : ∀ e, E e w) :
    Follows env L n (readDemoState env name) (fun _ w' => w' = w) E w := by
  obtain ⟨r, hr⟩ := exec_readDemoState env w name
  show wp _ _ _ w
  unfold wp
  rw [hr]
  cases r with
  | ok d => exact ⟨Path.refl w, rfl⟩
  | error e => exact ⟨Path.refl w, hE e⟩

theorem follows_writeDemoState (name : String) (data : Dict) :
    Follows env L n (writeDemoState env name data) (fun _ w' => w'.log = w.log ∧
      w'.latest = w.latest ∧ w'.client = w.client) (fun _ _ => True) w := by
  show wp _ _ _ w
  unfold wp
  rw [exec_writeDemoState]
  have hpath : ∀ file, Path env L n w (w.next.setDemo name file) := fun _ =>
    Path.silent rfl rfl rfl ⟨rfl, rfl, fun _ => rfl⟩
  cases env.write w.tick with
  | done => exact ⟨hpath _, rfl, rfl, rfl⟩
  | lost f => exact ⟨Path.tick w, trivial⟩
  | torn f => exact ⟨hpath _, trivial⟩
  | late f => exact ⟨hpath _, trivial⟩

theorem follows_requireOperation (name : String) (hE : ∀ e, E e w) :
    Follows env L n (requireOperation name)
      (fun op w' => w' = w ∧ w.client.operations.lookup name = some op) E w := by
  refine Follows.getClient ?_
  cases h : w.client.operations.lookup name with
  | some op => exact Follows.pure ⟨rfl, rfl⟩
  | none => exact Follows.raise (hE _)

end Silent

/-! ## Talking to the server -/

section Talk

variable {env : Env} {L : Lingering} {n : Nat} {w : World}

theorem path_send (r : Request) (licence : Licensed w r) (hn : r.site.level ≤ n) :
    Path env L n w (w.send r) :=
  Path.single hn (Step.sent r licence rfl rfl rfl ⟨rfl, rfl, fun _ => rfl⟩)

theorem path_hear {r : Request} (t : Nat)
    (h : env.answer t r = .response resp) : Path env L n w (w.hear r resp) :=
  Path.single (Nat.zero_le n)
    (Step.received r resp t h rfl rfl rfl ⟨rfl, rfl, fun _ => rfl⟩)

theorem follows_http (r : Request) (licence : Licensed w r) (hn : r.site.level ≤ n) :
    Follows env L n (http env r)
      (fun resp w' => env.answer w.tick r = .response resp ∧ w' = (w.send r).hear r resp)
      (fun e w' => (∃ f, e = .fault f) ∧ w'.client = w.client) w := by
  show wp _ _ _ w
  unfold wp
  rw [exec_http]
  cases h : env.answer w.tick r with
  | fault f => exact ⟨path_send r licence hn, ⟨f, rfl⟩, rfl⟩
  | response resp =>
    exact ⟨(path_send r licence hn).trans (path_hear w.tick h), rfl, rfl⟩

/-- An answer that passes the checks carries its document. -/
theorem gives_of_checkAnswer {action : String}
    (h : checkAnswer resp action = .ok d) : Gives resp d := by
  unfold checkAnswer raiseForResponse at h
  by_cases hs : 400 ≤ resp.statusCode
  · rw [if_pos hs] at h
    exact nomatch h
  rw [if_neg hs] at h
  unfold jsonObject at h
  cases hj : resp.json with
  | none => rw [hj] at h; exact nomatch h
  | some v =>
    cases v with
    | obj data =>
      rw [hj] at h
      unfold raiseForMcpError mcpError at h
      by_cases hok : isFalse (Dict.get data "ok") = true
      · simp only [bind, Except.bind, if_pos hok] at h
        exact nomatch h
      · simp only [bind, Except.bind, if_neg hok] at h
        cases h
        exact ⟨Nat.lt_of_not_le hs, hj, Bool.not_eq_true _ ▸ hok⟩
    | _ => rw [hj] at h; exact nomatch h

/-- Conversely, a document that is carried passes the checks. -/
theorem checkAnswer_of_gives (h : Gives resp d)
    (action : String) : checkAnswer resp action = .ok d := by
  obtain ⟨hs, hj, hok⟩ := h
  unfold checkAnswer raiseForResponse jsonObject raiseForMcpError mcpError
  rw [if_neg (Nat.not_le_of_lt hs), hj]
  simp only [bind, Except.bind, hok]
  rfl

theorem follows_exchange (r : Request) (action : String) (licence : Licensed w r)
    (hn : r.site.level ≤ n) :
    Follows env L n (exchange env r action)
      (fun d w' => ∃ resp, Gives resp d ∧ w' = (w.send r).hear r resp)
      (fun _ w' => w'.client = w.client) w := by
  refine Follows.bind (wp_mono (follows_http r licence hn) (fun _ _ h => h)
    (fun _ _ h => ⟨h.1, h.2.2⟩)) ?_
  rintro resp w' - ⟨-, rfl⟩
  exact Follows.ofExcept (fun d hd => ⟨resp, gives_of_checkAnswer hd, rfl⟩) (fun _ _ => rfl)

/-- The poll of a run was answered with a successful end. -/
def PolledTo (log : List Event) (site : Site) (paths : List String) (d : Dict) : Prop :=
  ∃ poll resp, .received poll resp ∈ log ∧ poll.site = site ∧
    (∃ base path, poll.url = base ++ path ∧ path ∈ paths) ∧ Gives resp d ∧ Succeeds d

theorem follows_pollRound (action : Action) (all paths : List String)
    (hall : ∀ path ∈ paths, path ∈ all) (last : Dict) :
    Follows env L n (pollRound env action paths last)
      (fun result w' => w'.client = w.client ∧
        ∀ d, result = .inr d → PolledTo w'.log (.runPoll action) all d)
      (fun _ w' => w'.client = w.client) w := by
  induction paths generalizing w last with
  | nil => exact Follows.pure ⟨rfl, nofun⟩
  | cons path rest ih =>
    refine Follows.getClient (Follows.bind
      (follows_exchange _ _ (by exact trivial) (Nat.zero_le n)) ?_)
    rintro polled w' - ⟨resp, hgives, rfl⟩
    by_cases hfin : isFinished polled = true
    · rw [if_pos hfin]
      by_cases hfail : isFailedRun polled = true
      · rw [if_pos hfail]
        exact Follows.raise rfl
      · rw [if_neg hfail]
        refine Follows.pure ⟨rfl, fun d hd => ?_⟩
        cases hd
        exact ⟨_, resp, List.mem_cons_self, rfl,
          ⟨_, path, rfl, hall path List.mem_cons_self⟩, hgives, hfin, Bool.not_eq_true _ ▸ hfail⟩
    · rw [if_neg hfin]
      exact ih (fun p hp => hall p (List.mem_cons_of_mem _ hp)) polled

theorem follows_pollUntil (action : Action) (paths : List String) (rounds : Nat) (last : Dict) :
    Follows env L n (pollUntil env action paths rounds last)
      (fun d w' => w'.client = w.client ∧ PolledTo w'.log (.runPoll action) paths d)
      (fun _ w' => w'.client = w.client) w := by
  induction rounds generalizing w last with
  | zero => exact Follows.raise rfl
  | succ rounds ih =>
    refine Follows.bind (follows_pollRound action paths paths (fun _ h => h) last) ?_
    rintro result w' - ⟨hclient, hresult⟩
    cases result with
    | inr polled => exact Follows.pure ⟨hclient, hresult polled rfl⟩
    | inl last =>
      exact (ih last).mono (Nat.le_refl n) (fun d w'' h => ⟨h.1.trans hclient, h.2⟩)
        (fun e w'' h => h.trans hclient)

theorem follows_awaitRun (data : Dict) (action : Action) :
    Follows env L n (awaitRun env data action)
      (fun d w' => w'.client = w.client ∧ PolledTo w'.log (.runPoll action) (runPaths data) d)
      (fun _ w' => w'.client = w.client) w := by
  refine traced_ite (fun _ => Follows.raise rfl) (fun _ => ?_)
  exact Follows.bind_exec (exec_nextTick w) (Path.tick w)
    (follows_pollUntil action (runPaths data) _ data)

end Talk

/-! ## Persisting -/

section Persist

variable {env : Env} {L : Lingering} {n : Nat} {w : World}

/-- An update that amounts to `change` of the progress, whatever the run record is
    called. -/
structure Amounts (updates : Dict) (change : Progress → Progress) : Prop where
  updated : ∀ s, updated s updates = change (progress s)
  named : ∀ p record, change (p.named record) = (change p).named record

theorem named_named (p : Progress) (record : String) :
    (p.named record).named record = p.named record := by
  unfold Progress.named
  by_cases h : p.record = ""
  · simp [h]
  · simp [h]

theorem progress_merged (env : Env) {updates : Dict} {change : Progress → Progress}
    (h : Amounts updates change) (w : World) :
    progress (w.merged env updates).state = (change w.live).named (env.stamp w.tick) := by
  show progress (mergeState env w.tick _ updates).state = _
  rw [progress_mergeState, h.updated]
  rcases progress_openState env w.tick w.client.currentState with ho | ⟨-, ho⟩
  · rw [ho]
    rfl
  · rw [ho, h.named, named_named]
    rfl

theorem live_openRecord (env : Env) (w : World) :
    (w.openRecord env).live = w.live ∨
      (w.live = .blank ∧ (w.openRecord env).live = w.live.named (env.stamp w.tick)) :=
  progress_openState env w.tick w.client.currentState

/-- The clients differ in their saved state at most. -/
def SameClient (w w' : World) : Prop :=
  ∃ state, w'.client = { w.client with currentState := state }

theorem SameClient.refl (w : World) : SameClient w w := ⟨w.client.currentState, rfl⟩

theorem SameClient.of_eq (h : w'.client = w.client) : SameClient w w' :=
  ⟨w.client.currentState, h⟩

theorem SameClient.trans {a c : World} (h : SameClient a b) (h' : SameClient b c) :
    SameClient a c := by
  obtain ⟨s, hs⟩ := h
  obtain ⟨s', hs'⟩ := h'
  exact ⟨s', by rw [hs', hs]⟩

/-- The progress `q` was persisted: it is in memory, on disk and in the log. -/
structure Persists (q : Progress) (w w' : World) : Prop where
  live : ∃ name, name ≠ "" ∧ w'.live = q.named name
  stored : ∃ record : RunRecord, w'.log = .persisted record :: w.log ∧
    progress record.state = w'.live ∧ w'.latest = .saved record ∧
    w'.client = { w.client with currentState := record.state }

theorem Persists.client (h : Persists q w w') : SameClient w w' := by
  obtain ⟨record, -, -, -, hc⟩ := h.stored
  exact ⟨record.state, hc⟩

/-- Nothing was persisted; at most a run record was opened in memory. -/
structure Unpersisted (e : Err) (w w' : World) : Prop where
  fault : ∃ f, e = .fault f
  client : SameClient w w'
  run : w'.live.namesRun → w.live.namesRun

theorem namesRun_openRecord (env : Env) (w : World) :
    (w.openRecord env).live.namesRun → w.live.namesRun := by
  rcases live_openRecord env w with ho | ⟨-, ho⟩
  · rw [ho]; exact id
  · rw [ho]; exact id

/-- Persisting is one step of the protocol when the change it amounts to is one. -/
theorem follows_persist {updates : Dict} {change : Progress → Progress} (h : Amounts updates change)
    (hadvance : Advance L w.log w.client.operatorGapId w.live k (change w.live)) (hk : k ≤ n) :
    Follows env L n (persistState env updates)
      (fun _ w' => Persists (change w.live) w w') (fun e w' => Unpersisted e w w') w := by
  have hs := progress_merged env h w
  have hstamp := env.stamp_ne_empty w.tick
  have hclient : SameClient w (w.openRecord env) := ⟨_, rfl⟩
  have hrun := namesRun_openRecord env w
  show wp _ _ _ w
  unfold wp
  rw [exec_persistState]
  cases env.write w.tick with
  | done =>
    refine ⟨Path.single hk (Step.persisted _ _ _ hadvance hstamp hs rfl ?_ (.inl hs)
      ⟨rfl, rfl, fun _ => rfl⟩), ⟨_, hstamp, hs⟩, _, rfl, rfl, rfl, rfl⟩
    show some (progress _) = _
    rw [hs]
  | lost f =>
    refine ⟨?_, ⟨f, rfl⟩, hclient, hrun⟩
    rcases live_openRecord env w with ho | ⟨hb, ho⟩
    · exact Path.single (Nat.zero_le n) (Step.silent rfl ho (.inl rfl) ⟨rfl, rfl, fun _ => rfl⟩)
    · exact Path.single (Nat.zero_le n)
        (Step.named _ hstamp rfl hb ho (.inl rfl) ⟨rfl, rfl, fun _ => rfl⟩)
  | torn f =>
    refine ⟨?_, ⟨f, rfl⟩, hclient, hrun⟩
    rcases live_openRecord env w with ho | ⟨hb, ho⟩
    · exact Path.single (Nat.zero_le n) (Step.silent rfl ho (.inr rfl) ⟨rfl, rfl, fun _ => rfl⟩)
    · exact Path.single (Nat.zero_le n)
        (Step.named _ hstamp rfl hb ho (.inr rfl) ⟨rfl, rfl, fun _ => rfl⟩)
  | late f =>
    refine ⟨?_, ⟨f, rfl⟩, hclient, hrun⟩
    refine Path.single hk (Step.persisted _ _ _ hadvance hstamp hs rfl ?_ (.inr ?_)
      ⟨rfl, rfl, fun _ => rfl⟩)
    · show some (progress _) = _
      rw [hs]
    · exact live_openRecord env w

theorem amounts_accepted (s₀ : SavedState) (data : Dict) (action : Action) :
    Amounts (acceptedUpdates s₀ data action) (fun p => { p with
      step := stateStep action
      runId := runId data
      pollUrl := pollUrl data
      terminal := false }) :=
  ⟨fun s => updated_accepted s s₀ data action, fun _ _ => rfl⟩

theorem amounts_gap (gapId source : String) :
    Amounts (gapUpdates gapId source)
      (fun p => { p with gap := gapId, step := "gap_resolved", terminal := false }) :=
  ⟨fun s => updated_gap s gapId source, fun _ _ => rfl⟩

theorem amounts_noClaimable (message : String) :
    Amounts (noClaimableUpdates message)
      (fun p => { p with step := "gap_resolved", terminal := false }) :=
  ⟨fun s => updated_noClaimable s message, fun _ _ => rfl⟩

theorem amounts_gapError (message : String) :
    Amounts (gapErrorUpdates message)
      (fun p => { p with step := "gap_resolution", terminal := false }) :=
  ⟨fun s => updated_gapError s message, fun _ _ => rfl⟩

theorem amounts_claim (claim : Claim) :
    Amounts (claimUpdates claim) (fun p => { p with
      claimId := claim.claimId
      claimRef := claim.claimRef
      claimDigest := claim.ctxpackDigest
      gap := claim.gapId
      step := "claim_succeeded"
      terminal := false }) :=
  ⟨fun s => updated_claim s claim, fun _ _ => rfl⟩

theorem amounts_registration (registration : Registration) :
    Amounts (registrationUpdates registration) (fun p => { p with
      registration := registration.registrationId
      gap := registration.claim.gapId
      claimId := registration.claim.claimId
      claimRef := registration.claim.claimRef
      claimDigest := registration.claim.ctxpackDigest
      step := "context_created"
      terminal := false }) :=
  ⟨fun s => updated_registration s registration, fun _ _ => rfl⟩

theorem amounts_context (context : CompiledContext) :
    Amounts (contextUpdates context) (fun p => { p with
      context := context.governanceContextId
      ctxpack := context.ctxpackDigest
      step := "context_compiled"
      terminal := false }) :=
  ⟨fun s => updated_context s context, fun _ _ => rfl⟩

theorem amounts_candidate (candidate contextRef : String) :
    Amounts ([("candidate_digest", .str candidate)] ++ digestField contextRef)
      (fun p => { p with ctxpack := if contextRef = "" then p.ctxpack else contextRef }) :=
  ⟨fun s => updated_candidate s candidate contextRef, fun _ _ => rfl⟩

theorem amounts_realized {receipt : GovernanceReceipt} {contextId receiptId : String}
    (hc : receipt.governanceContextId = some contextId) (hr : receipt.receiptId = some receiptId) :
    Amounts (realizedUpdates receipt) (fun p => { p with
      step := "receipt_ready"
      terminal := true
      runId := ""
      pollUrl := ""
      context := contextId
      receipt := receiptId }) := by
  refine ⟨fun s => ?_, fun _ _ => rfl⟩
  rw [updated_realized, hc, hr]
  rfl

end Persist

/-! ## Settling an action -/

section Submit

variable {env : Env} {L : Lingering} {n : Nat} {w : World}

/-- The two worlds agree on the progress but for the step and the run it names. -/
def SameResults (p q : Progress) : Prop :=
  q = { p with
    record := q.record, step := q.step, runId := q.runId, pollUrl := q.pollUrl
    terminal := q.terminal }

theorem SameResults.refl (p : Progress) : SameResults p p := rfl

theorem SameResults.gap {p : Progress} (h : SameResults p q) : q.gap = p.gap := by
  unfold SameResults at h
  rw [h]

theorem SameResults.trans {p r : Progress} (h : SameResults p q) (h' : SameResults q r) :
    SameResults p r := by
  unfold SameResults at h h' ⊢
  rw [h', h]

/-- No run is named that was not named before, unless the log is `Loose`. -/
def Tame (w w' : World) : Prop := w'.live.namesRun → w.live.namesRun ∨ Loose w'.log

theorem Tame.refl (w : World) : Tame w w := Or.inl

theorem Tame.of_live (h : w'.live = w.live) : Tame w w' :=
  fun hw => .inl (h ▸ hw)

theorem Loose.of_path {a : World} (h : Loose a.log) (hp : Path env L k a b) :
    Loose b.log := by
  obtain ⟨newer, hlog⟩ := hp.extends
  rw [hlog]
  exact h.mono newer

theorem Tame.trans {a c : World} (h : Tame a b) (h' : Tame b c)
    (hp : Path env L k b c) : Tame a c := by
  intro hc
  rcases h' hc with hb | hl
  · rcases h hb with ha | hl
    · exact .inl ha
    · exact .inr (hl.of_path hp)
  · exact .inr hl

/-- The live progress depends on the client only. -/
theorem live_of_client (h : w'.client = w.client) : w'.live = w.live := by
  unfold World.live
  rw [h]

/-- What is known when an action is settled: by which request, and that nothing but
    the step and the named run has changed. -/
structure Settles (action : Action) (r : Request) (w : World) (d : Dict) (w' : World) : Prop where
  settled : ∃ how, Settled w'.log w.log w.record r action d how
  results : SameResults w.live w'.live
  client : SameClient w w'
  tame : action ≠ .realization → Tame w w'

/-- What is known when it is not. -/
structure Fails (action : Action) (w w' : World) : Prop where
  client : SameClient w w'
  tame : action = .gapDiscovery → Tame w w'

theorem pollsRun_of_polledTo {log : List Event} {action : Action} {accepted : Dict}
    (h : PolledTo log (.runPoll action) (runPaths accepted) d) :
    ∃ poll resp, .received poll resp ∈ log ∧ Delivery.polled.site action poll.site ∧
      PollsRun accepted poll ∧ Gives resp d ∧ Succeeds d := by
  obtain ⟨poll, resp, hmem, hsite, ⟨base, path, hurl, hpath⟩, hgives, hd⟩ := h
  exact ⟨poll, resp, hmem, hsite, ⟨base, path, hurl, List.mem_append_left _ hpath⟩, hgives, hd⟩

theorem loose_of_polledTo {log : List Event} {action : Action} {paths : List String}
    (h : PolledTo log (.runPoll action) paths d) (ha : action ≠ .realization) : Loose log := by
  obtain ⟨poll, resp, hmem, hsite, -, hgives, hd⟩ := h
  exact ⟨poll, resp, d, hmem, hgives, .inr ⟨action, ha, hsite, hd⟩⟩

/-- An answer is settled: at once, or by the run it accepts. -/
theorem follows_resolveAsyncResult {r : Request} {data : Dict}
    {action : Action} (hsite : r.site = .submit action) (licence : Licensed w r)
    (hgives : Gives resp data) (hn : action.level ≤ n) :
    Follows env L n (resolveAsyncResult env data action)
      (fun d w' => Settles action r w d w') (fun _ w' => Fails action w w')
      ((w.send r).hear r resp) := by
  have hanswered : Answered ((w.send r).hear r resp).log w.log w.record r action data :=
    ⟨[], resp, rfl, hsite, hgives⟩
  have hready : action = .realization → ((w.send r).hear r resp).live.ready := by
    rintro rfl
    unfold Licensed at licence
    rw [hsite] at licence
    have hlive : ((w.send r).hear r resp).live = w.live := live_of_client rfl
    rw [hlive]
    exact licence.1
  refine traced_ite (fun hactive => ?_) (fun hactive => ?_)
  · -- the answer accepts a run: its pointer is persisted, then the run is polled
    refine Follows.getClient (Follows.bind ((follows_persist
      (amounts_accepted _ data action)
      (.accepted action r resp data w.log rfl hsite hgives hactive hready) hn).mono (Nat.le_refl n)
      (fun _ _ h => h) ?_) ?_)
    · rintro e w' ⟨-, hclient, hrun⟩
      exact ⟨hclient, fun _ hnames => .inl (hrun hnames)⟩
    · rintro _ w' - hp
      obtain ⟨record, hlog, -⟩ := hp.stored
      obtain ⟨name, -, hlive⟩ := hp.live
      have hans : Answered w'.log w.log w.record r action data := by
        rw [hlog]; exact hanswered.mono [_]
      have hloose : action = .gapDiscovery → Loose w'.log := by
        rintro rfl
        refine ⟨r, resp, data, ?_, hgives, .inl ⟨hsite, hactive⟩⟩
        rw [hlog]
        exact List.mem_cons_of_mem _ List.mem_cons_self
      have hresults : SameResults w.live w'.live := by rw [hlive]; rfl
      refine (follows_awaitRun data action).weaken ?_ ?_
      · rintro d w'' hpath ⟨hclient, hpolled⟩
        obtain ⟨newer, hext⟩ := hpath.extends
        refine ⟨⟨.polled, data, ?_⟩, ?_, hp.client.trans (.of_eq hclient),
          fun ha _ => .inr (loose_of_polledTo hpolled ha)⟩
        · obtain ⟨poll, resp', hmem, hs, hpolls, hg, hd⟩ := pollsRun_of_polledTo hpolled
          refine ⟨poll, resp', ?_, hactive, hmem, hs, hpolls, hg, hd⟩
          rw [hext]
          exact hans.mono newer
        · rw [live_of_client hclient]; exact hresults
      · rintro e w'' hpath hclient
        exact ⟨hp.client.trans (.of_eq hclient),
          fun ha _ => .inr ((hloose ha).of_path hpath)⟩
  · exact Follows.pure ⟨⟨.inline, hanswered, Bool.not_eq_true _ ▸ hactive⟩, .refl _, .refl _,
      fun _ => Tame.of_live rfl⟩

/-- A request of an action, from sending it to the settled answer. -/
theorem follows_submit {r : Request} (action : Action) (hsite : r.site = .submit action)
    (licence : Licensed w r) (hn : action.level ≤ n) :
    Follows env L n (submit env r action) (fun d w' => Settles action r w d w')
      (fun _ w' => Fails action w w') w := by
  have hlevel : r.site.level ≤ n := by rw [hsite]; exact hn
  refine Follows.bind ((follows_exchange r action.text licence hlevel).mono (Nat.le_refl n)
    (fun _ _ h => h) ?_) ?_
  · intro e w' hclient
    exact ⟨.of_eq hclient, fun _ => Tame.of_live (live_of_client hclient)⟩
  · rintro data w' - ⟨resp, hgives, rfl⟩
    exact follows_resolveAsyncResult hsite licence hgives hn

end Submit

end KeyholeFlow
