import Keyhole.OperatorGap

/-!
# Where the operator's gap is honoured

From a state that meets the condition the stages claim the operator's gap, or hold a claim
on it, and what they send after the claim names the gap of the state.

* `Path.gap_eq_operator`: the gap of a claim that was made on the way is the operator's;
* `names_stages`: the stages end with it, and name no other;
* `honours_of_yields`: every call that returns has honoured the gap. -/

namespace KeyholeFlow

open KeyholeJson KeyholeRedaction KeyholeEnvelope KeyholeGaps KeyholeOperations KeyholeRepo
  EffectProgram

/-! ## The stages -/

section Gap

variable {env : Env} {L : Lingering} {k n : Nat} {w w' : World}

/-- A change of the progress takes the operator's gap, or leaves gap and claim alone. -/
theorem Advance.gap_of_operator {log : List Event} {operator : String} {p q : Progress}
    (h : Advance L log operator p k q) (hk : k ≤ 5) (hoperator : operator ≠ "") :
    q.gap = operator ∨ q.gap = p.gap ∧ (q.claimed → p.claimed) := by
  cases h with
  | gap g word hword hgap =>
    rcases hgap with rfl | ⟨-, hg⟩
    · exact .inr ⟨rfl, id⟩
    · exact .inl (hg hoperator)
  | claimed claim older r d how hsettled hid href hclaim hgap hop => exact .inl (hop hoperator)
  | accepted | registered | compiled | candidate | realized => exact .inr ⟨rfl, id⟩
  | _ => exact absurd hk (by decide)

theorem Step.gap_of_operator (h : Step env L k w w') (hk : k ≤ 5)
    (hoperator : w.client.operatorGapId ≠ "") :
    w'.live.gap = w.client.operatorGapId
      ∨ w'.live.gap = w.live.gap ∧ (w'.live.claimed → w.live.claimed) := by
  have hkept : w'.live = w.live → w'.live.gap = w.client.operatorGapId
      ∨ w'.live.gap = w.live.gap ∧ (w'.live.claimed → w.live.claimed) := by
    intro hlive
    rw [hlive]
    exact .inr ⟨rfl, id⟩
  cases h with
  | silent _ hlive => exact hkept hlive
  | named record _ _ _ hlive =>
    rw [hlive]
    exact .inr ⟨rfl, id⟩
  | sent _ _ _ hlive => exact hkept hlive
  | received _ _ _ _ _ hlive => exact hkept hlive
  | persisted q record _ hadvance _ _ _ _ hlive =>
    rcases hlive with hlive | hlive | ⟨-, hlive⟩
    · rw [hlive]
      exact hadvance.gap_of_operator hk hoperator
    · exact hkept hlive
    · rw [hlive]
      exact .inr ⟨rfl, id⟩
  | opened => exact absurd hk (by decide)

/-- So do the stages. -/
theorem Path.gap_of_operator (h : Path env L n w w') (hn : n ≤ 5)
    (hoperator : w.client.operatorGapId ≠ "") :
    w'.live.gap = w.client.operatorGapId
      ∨ w'.live.gap = w.live.gap ∧ (w'.live.claimed → w.live.claimed) := by
  refine (Path.invariant (I := fun v => v.client.operatorGapId = w.client.operatorGapId ∧
    (v.live.gap = w.client.operatorGapId
      ∨ v.live.gap = w.live.gap ∧ (v.live.claimed → w.live.claimed))) ?_ h
    ⟨rfl, .inr ⟨rfl, id⟩⟩).2
  rintro k v v' hk hs ⟨hop, hgap⟩
  refine ⟨hs.operator.trans hop, ?_⟩
  rcases hs.gap_of_operator (Nat.le_trans hk hn) (by rw [hop]; exact hoperator) with
    htaken | ⟨hkept, hclaimed⟩
  · exact .inl (htaken.trans hop)
  · rw [hkept]
    exact hgap.imp id (fun h => ⟨h.1, fun hc => h.2 (hclaimed hc)⟩)

/-- A state that holds gap and claim holds the operator's gap, where the claim it started
    with was on no other. -/
theorem Path.gap_eq_operator (h : Path env L n w w') (hn : n ≤ 5)
    (hoperator : w.client.operatorGapId ≠ "")
    (hfree : w.live.claimed → w.live.freeFor w.client.operatorGapId)
    (hclaimed : w'.live.claimed) (hgap : w'.live.gap ≠ "") :
    w'.live.gap = w.client.operatorGapId := by
  rcases h.gap_of_operator hn hoperator with htaken | ⟨hkept, hback⟩
  · exact htaken
  · rcases hfree (hback hclaimed) with hnone | hsame
    · exact absurd (hkept.trans hnone) hgap
    · exact hkept.trans hsame

end Gap

section Claim

variable {env : Env} {w : World}

/-- A server that has a digest is asked for nothing else before a claim. -/
theorem onlyAsks_claimContextDigest (hdigest : Digested env) :
    OnlyAsks (claimContextDigest env) w := by
  let r : Request := ⟨.canonicalStatus, "POST", w.client.mcpUrl ++ "/mcp/v1/runs/start",
    plainHeaders w.client, some (.obj [("run_type", .str "gaps.status"),
      ("repo", .str env.repoName), ("shadow", .bool false)])⟩
  obtain ⟨resp, d, hanswer, ⟨hstatus, hjson, hok⟩, hsome⟩ := hdigest w.tick r rfl
  have hhttp : exec (http env r) w = (.ok resp, (w.send r).hear r resp) := by
    rw [exec_http, hanswer]
  have hread : exec (readCanonicalDigest env) w
      = (.ok (extractCurrentCanonicalDigest d), (w.send r).hear r resp) := by
    unfold readCanonicalDigest
    rw [exec_bind_ok (exec_getClient w)]
    show exec (http env r >>= _) w = _
    rw [exec_bind_ok hhttp, if_neg (Nat.not_le_of_lt hstatus)]
    unfold jsonObject
    rw [hjson]
    show exec (if isFalse (d.get "ok") = true then _ else _) _ = _
    rw [if_neg (by rw [hok]; exact Bool.false_ne_true)]
    rfl
  have hdigested : exec (currentCanonicalDigest env) w
      = (.ok (extractCurrentCanonicalDigest d), (w.send r).hear r resp) := by
    unfold currentCanonicalDigest
    rw [exec_tryCatch, hread]
  have hlog : submitted (.sent w.record r :: w.log) = submitted w.log := submitted_asked rfl
  refine wp_step hdigested ?_
  rw [if_neg hsome]
  exact ⟨rfl, rfl, rfl, rfl, hlog⟩

theorem onlyAsks_pollRound (action : Action) (paths : List String) (last : Dict) :
    OnlyAsks (pollRound env action paths last) w := by
  induction paths generalizing w last with
  | nil => exact Asks.refl w
  | cons path rest ih =>
    refine wp_step (exec_getClient w) (OnlyAsks.bind (OnlyAsks.bind (onlyAsks_http rfl)
      (fun resp _ => onlyAsks_ofExcept _)) (fun polled v => ?_))
    by_cases hfin : isFinished polled = true
    · rw [if_pos hfin]
      by_cases hfailed : isFailedRun polled = true
      · rw [if_pos hfailed]
        exact Asks.refl v
      · rw [if_neg hfailed]
        exact Asks.refl v
    · rw [if_neg hfin]
      exact ih polled

theorem onlyAsks_pollUntil (action : Action) (paths : List String) (rounds : Nat) (last : Dict) :
    OnlyAsks (pollUntil env action paths rounds last) w := by
  induction rounds generalizing w last with
  | zero => exact Asks.refl w
  | succ rounds ih =>
    refine OnlyAsks.bind (onlyAsks_pollRound action paths last) (fun result v => ?_)
    cases result with
    | inl polled => exact ih polled
    | inr polled => exact Asks.refl v

/-- An action that is settled was requested once. -/
theorem wp_submit {r : Request} {action : Action} (hsite : r.site = .submit action) :
    wp (submit env r action)
      (fun _ w' => submitted w'.log = action :: submitted w.log) (fun _ _ => True) w := by
  have hsent : submitted (.sent w.record r :: w.log) = action :: submitted w.log :=
    submitted_sent (by rw [hsite]; rfl)
  refine wp_bind.mpr (wp_bind.mpr ?_)
  unfold wp
  rw [exec_http]
  cases env.answer w.tick r with
  | fault f => trivial
  | response resp =>
    show wp (ofExcept (checkAnswer resp action.text)) _ _ _
    cases checkAnswer resp action.text with
    | error e => trivial
    | ok data =>
      show wp (resolveAsyncResult env data action) _ _ ((w.send r).hear r resp)
      unfold resolveAsyncResult
      by_cases hactive : isActive data = true
      · rw [if_pos hactive]
        refine wp_step (exec_getClient _) (wp_bind.mpr ?_)
        unfold wp
        rw [exec_persistState]
        cases env.write _ with
        | lost f | torn f | late f => trivial
        | done =>
          show wp (awaitRun env data action) _ _ _
          unfold awaitRun
          by_cases hnone : runId data = "" ∧ pollUrl data = ""
          · rw [if_pos hnone]
            trivial
          · rw [if_neg hnone]
            refine wp_step (exec_nextTick _) ?_
            exact wp_mono (onlyAsks_pollUntil _ _ _ _)
              (fun _ _ hasks => hasks.submitted.trans hsent) (fun _ _ _ => trivial)
      · rw [if_neg hactive]
        exact hsent

theorem onlyAsks_ensureDiscovered : OnlyAsks (ensureDiscovered env) w := by
  refine wp_step (exec_getClient w) ?_
  by_cases hnone : w.client.operations.isEmpty = true
  · rw [if_pos hnone]
    exact onlyAsks_discover
  · rw [if_neg hnone]
    exact Asks.refl w

/-- The operator's gap is taken as it is. -/
theorem onlyAsks_resolveGapId (hoperator : w.client.operatorGapId ≠ "") :
    OnlyAsks (resolveGapId env) w := by
  refine wp_step (exec_getClient w) ?_
  rw [if_pos hoperator]
  by_cases hgap : startsWith w.client.operatorGapId "gap_" = true
  · rw [if_pos hgap]
    exact ⟨rfl, rfl, rfl, rfl, rfl⟩
  · rw [if_neg hgap]
    exact Asks.refl w

theorem onlyAsks_headers (idempotent : Bool) : OnlyAsks (headers env idempotent) w := by
  refine wp_step (exec_getClient w) ?_
  cases idempotent with
  | true => exact ⟨rfl, rfl, rfl, rfl, rfl⟩
  | false => exact Asks.refl w

/-- The claim stage requests what the digest takes, and then the claim. -/
theorem requests_claimStage {before : List Action}
    (hcontext : ∀ v : World, wp (claimContextDigest env)
      (fun _ v' => submitted v'.log = before ++ submitted v.log) (fun _ _ => True) v)
    (hoperator : w.client.operatorGapId ≠ "") (hnone : ¬ w.live.claimed) :
    wp (claimStage env) (fun _ w' => submitted w'.log = .gapClaim :: (before ++ submitted w.log))
      (fun _ _ => True) w := by
  have hset : ¬ (truthy (w.client.currentState.get "claim_id")
      || truthy (w.client.currentState.get "claim_ref")) = true := by
    rw [truthy_claim, decide_eq_true_iff]
    exact hnone
  have hrefresh : exec (refreshCachedGapClaimability env) w = (.ok ⟨⟩, w) := by
    unfold refreshCachedGapClaimability
    rw [exec_bind_ok (exec_getClient w)]
    exact congrArg (fun m => exec m w) (if_pos (.inr hoperator))
  refine wp_step (exec_getClient w) ?_
  rw [if_neg hset]
  have hdiscovered : Follows env Lingering.always 2 (ensureDiscovered env)
      (fun _ w' => ∃ capabilities operations, w'.client = { w.client with
        capabilities := capabilities, operations := operations }) (fun _ _ => True) w :=
    follows_ensureDiscovered
  refine wp_bind.mpr (wp_step hrefresh (wp_bind.mpr (wp_mono
    (wp_and onlyAsks_ensureDiscovered hdiscovered) ?_ (fun _ _ _ => trivial))))
  rintro _ w₁ ⟨hasks₁, -, capabilities, operations, hclient₁⟩
  have hrequire : Follows env Lingering.always 2 (requireOperation "gaps.claim")
      (fun op v => v = w₁ ∧ w₁.client.operations.lookup "gaps.claim" = some op)
      (fun _ _ => True) w₁ := follows_requireOperation _ (fun _ => trivial)
  refine wp_bind.mpr (wp_mono hrequire ?_ (fun _ _ _ => trivial))
  rintro op w₁ ⟨-, rfl, -⟩
  refine wp_step (exec_readRepo env w₁) ?_
  cases repoGitMetadata (env.repo w₁.tick) with
  | error e => trivial
  | ok _ =>
    have hnone₁ : ¬ w₁.next.live.claimed := by
      have hlive₁ : w₁.next.live = w.live := by
        show progress w₁.client.currentState = _
        rw [hclient₁]
        rfl
      rw [hlive₁]
      exact hnone
    have hdigest : Follows env Lingering.always 2 (claimContextDigest env)
      (fun _ w' => Quiet w₁.next w') (fun _ _ => True) w₁.next :=
      follows_claimContextDigest hnone₁ (Nat.le_refl 2)
    refine wp_step (exec_ofExcept_ok _ _) (wp_bind.mpr (wp_mono
      (wp_and (hcontext w₁.next) hdigest) ?_ (fun _ _ _ => trivial)))
    rintro digest w₂ ⟨hlog₂, hp₂, -⟩
    have hoperator₂ : w₂.client.operatorGapId ≠ "" := by
      rw [hp₂.operator]
      show w₁.client.operatorGapId ≠ ""
      rw [hclient₁]
      exact hoperator
    refine wp_bind.mpr (wp_mono (onlyAsks_resolveGapId hoperator₂) ?_ (fun _ _ _ => trivial))
    intro gapId w₃ hasks₃
    refine wp_step (exec_getClient w₃) (wp_bind.mpr (wp_mono (onlyAsks_headers true) ?_
      (fun _ _ _ => trivial)))
    intro hs w₄ hasks₄
    have hlog₄ : submitted w₄.log = before ++ submitted w.log := by
      rw [hasks₄.submitted, hasks₃.submitted, hlog₂]
      exact congrArg (before ++ ·) hasks₁.submitted
    refine wp_bind.mpr (wp_mono (wp_submit rfl) ?_ (fun _ _ _ => trivial))
    intro data w₅ hlog₅
    refine wp_step (exec_getClient w₅) ?_
    cases claimOf data gapId w₅.client.gapIdSource digest with
    | error e => trivial
    | ok claim =>
      show wp (persistState env (claimUpdates claim)) _ _ w₅
      unfold wp
      rw [exec_persistState]
      cases env.write w₅.tick with
      | lost f | torn f | late f => trivial
      | done =>
        show submitted w₅.log = _
        rw [hlog₅, hlog₄]

end Claim

section Stages

variable {env : Env} {s : Service} {gapId : String} {w w' : World}

/-- From here on every table offers `repo.register` as a run, if the server does. -/
def Tabled (s : Service) (w : World) : Prop :=
  s.runs = true → ∀ op, w.client.operations.lookup "repo.register" = some op → op.runType ≠ ""

/-- Once a claim is held, what the stages request names the operator's gap. -/
theorem Path.names_claimed {L : Lingering} (h : Path env L 5 w w') (hclaimed : w.live.claimed)
    (hgap : w.live.gap ≠ "") (hfree : w.live.freeFor w.client.operatorGapId)
    (hoperator : w.client.operatorGapId ≠ "") (htabled : Tabled s w)
    (hsupplied : w.client.operations ≠ [])
    (hregistration : s.runs = true ∨ w.live.registration ≠ "") :
    Names w.client.operatorGapId w w' := by
  obtain ⟨-, newer, hlog, hsent⟩ := h.sent_licensed (I := fun v => Path env L 5 w v)
    (fun _ _ _ hk hs hp => hp.trans (Path.single hk hs)) (Path.refl w)
  refine ⟨newer, hlog, fun name r hmem hforGap => ?_⟩
  obtain ⟨v, hp, licence, -⟩ := hsent name r hmem
  obtain ⟨action, hsite, -⟩ := site_of_forGap hforGap
  have hclaimed' : v.live.claimed := hp.frame.claimed (Nat.le_refl 5) hclaimed
  have hgap' : v.live.gap = w.client.operatorGapId :=
    hp.gap_eq_operator (Nat.le_refl 5) hoperator (fun _ => hfree) hclaimed'
      (hp.frame.hasGap (Nat.le_refl 5) hgap)
  unfold Licensed at licence
  rw [hsite] at licence hforGap
  cases action with
  | gapDiscovery | realization => exact nomatch hforGap
  | gapClaim | preclaimCompile => exact absurd hclaimed' licence.1
  | contextCompile =>
    rw [← hgap']
    exact licence.2.2.2
  | registration =>
    obtain ⟨hmissing, -, op, hlookup, hrun⟩ := licence
    rcases hregistration with hruns | hheld
    · rw [(hp.keeps (Nat.le_refl 5)).operations hsupplied] at hlookup
      rw [← hgap']
      exact hrun (htabled hruns op hlookup)
    · exact absurd hmissing (hp.frame.registered (Nat.le_refl 5) hheld)

/-- The claim is requested with the operator's gap, and no context is compiled before it. -/
theorem names_claimStage (hserves : s.Serves env) (hrecord : w.live.record ≠ "")
    (hoperator : w.client.operatorGapId ≠ "") (hpreclaim : s.digest = true ∨ w.live.claimed) :
    wp (claimStage env) (fun _ w' => Path env Lingering.always 2 w w' ∧ w'.live.claimed
      ∧ Names w.client.operatorGapId w w') (fun _ _ => True) w := by
  by_cases hclaimed : w.live.claimed
  · exact wp_of_exec (exec_claimStage_held hclaimed) ⟨.refl w, hclaimed, .refl w⟩
  have hdigest := hserves.digest (hpreclaim.resolve_right hclaimed)
  have hstage : Follows env Lingering.always 2 (claimStage env)
      (fun _ w' => Staged .always Progress.claimed w w') (fun _ _ => True) w :=
    follows_claimStage hrecord (fun _ => .inr (.inl trivial))
  have hnothing : ∀ v : World, wp (claimContextDigest env)
      (fun _ v' => submitted v'.log = [] ++ submitted v.log) (fun _ _ => True) v := fun v =>
    wp_mono (onlyAsks_claimContextDigest hdigest) (fun _ _ hasks => hasks.submitted)
      (fun _ _ _ => trivial)
  refine wp_mono (wp_and hstage (requests_claimStage hnothing hoperator hclaimed)) ?_
    (fun _ _ _ => trivial)
  rintro _ w' ⟨⟨hp, hstaged⟩, hrequests⟩
  refine ⟨hp, hstaged.held, ?_⟩
  obtain ⟨-, newer, hlog, hsent⟩ := hp.sent_licensed
    (I := fun v => v.client.operatorGapId = w.client.operatorGapId)
    (fun _ _ _ _ hs hv => hs.operator.trans hv) rfl
  have honly : submitted newer = [.gapClaim] := by
    rw [hlog, submitted_append, List.nil_append, ← List.singleton_append] at hrequests
    exact List.append_cancel_right hrequests
  refine ⟨newer, hlog, fun name r hmem hforGap => ?_⟩
  obtain ⟨v, hv, licence, -⟩ := hsent name r hmem
  obtain ⟨action, hsite, -⟩ := site_of_forGap hforGap
  have haction := mem_submitted hmem hsite
  rw [honly, List.mem_singleton] at haction
  subst haction
  unfold Licensed at licence
  rw [hsite] at licence
  rw [← hv]
  exact licence.2 (by rw [hv]; exact hoperator)

/-- The compile and the realization follow the protocol. -/
theorem follows_compileRealize {L : Lingering} (hL : ∀ v, Entered L v)
    (hrecord : w.live.record ≠ "") (hgap : w.live.gap ≠ "") (hclaimed : w.live.claimed)
    (hregistered : w.live.registration ≠ "") :
    Follows env L 5 (do
      compileStage env
      realizeStage env) (fun _ _ => True) (fun _ _ => True) w := by
  refine Follows.bind ((follows_compileStage hrecord hgap hclaimed hregistered (hL w)).lift
    (by decide)) ?_
  rintro _ w₁ hp₁ ⟨-, h₁⟩
  have hr₁ : w₁.live.record ≠ "" := hp₁.hasRecord (by decide) hrecord
  have hready₁ : w₁.live.ready := ⟨hp₁.frame.hasGap (by decide) hgap,
    hp₁.frame.claimed (by decide) hclaimed, hp₁.frame.registered (by decide) hregistered, h₁.held⟩
  exact (follows_realizeStage hr₁ hready₁).mono (Nat.le_refl 5) (fun _ _ _ => trivial)
    (fun _ _ _ => trivial)

/-- So do the stages after the claim. -/
theorem follows_lastStages (hrecord : w.live.record ≠ "") (hgap : w.live.gap ≠ "")
    (hclaimed : w.live.claimed) :
    Follows env Lingering.always 5 (do
      registrationStage env
      compileStage env
      realizeStage env) (fun _ _ => True) (fun _ _ => True) w := by
  have hL : ∀ v, Entered Lingering.always v := fun v _ => .inr (.inl trivial)
  refine Follows.bind ((follows_registrationStage hrecord hgap hclaimed (hL w)).lift (by decide)) ?_
  rintro _ w₁ hp₁ ⟨-, h₁⟩
  have hr₁ : w₁.live.record ≠ "" := hp₁.hasRecord (by decide) hrecord
  exact follows_compileRealize hL hr₁ (hp₁.frame.hasGap (by decide) hgap)
    (hp₁.frame.claimed (by decide) hclaimed) h₁.held

/-- The stages end with the operator's gap, and name no other. -/
theorem names_stages (hserves : s.Serves env) (hrecord : w.live.record ≠ "")
    (hoperator : w.client.operatorGapId ≠ "") (htabled : Tabled s w)
    (hsupplied : w.client.operations ≠ []) (h : Yielding s w.live w.client.operatorGapId) :
    wp (stages env) (fun _ w' => w'.live.gap = w.client.operatorGapId
      ∧ Names w.client.operatorGapId w w') (fun _ _ => True) w := by
  have hL : ∀ v, Entered Lingering.always v := fun v _ => .inr (.inl trivial)
  refine wp_bind.mpr (wp_mono (follows_gapStage (hL w)) ?_ (fun _ _ _ => trivial))
  rintro _ w₁ ⟨hp₁, h₁⟩
  have hr₁ : w₁.live.record ≠ "" := hp₁.hasRecord (by decide) hrecord
  have hpreclaim₁ : s.digest = true ∨ w₁.live.claimed :=
    h.preclaim.imp id (hp₁.frame.claimed (by decide))
  have hclaimStage := names_claimStage hserves hr₁ (by rw [hp₁.operator]; exact hoperator) hpreclaim₁
  refine wp_bind.mpr (wp_mono hclaimStage ?_ (fun _ _ _ => trivial))
  rintro _ w₂ ⟨hp₂, hclaimed₂, hnames₂⟩
  rw [hp₁.operator] at hnames₂
  have hp : Path env Lingering.always 5 w w₂ := (hp₁.mono (by decide)).trans (hp₂.mono (by decide))
  have hr₂ : w₂.live.record ≠ "" := hp.hasRecord (by decide) hrecord
  have hgap₂ : w₂.live.gap ≠ "" := hp₂.frame.hasGap (by decide) h₁.held
  have hsame₂ : w₂.live.gap = w.client.operatorGapId :=
    hp.gap_eq_operator (Nat.le_refl 5) hoperator h.claimed hclaimed₂ hgap₂
  have hoperations : w₂.client.operations = w.client.operations :=
    (hp.keeps (Nat.le_refl 5)).operations hsupplied
  have hrest : Follows env Lingering.always 5 (do
      registrationStage env
      compileStage env
      realizeStage env) (fun _ _ => True) (fun _ _ => True) w₂ :=
    follows_lastStages hr₂ hgap₂ hclaimed₂
  refine wp_mono hrest ?_ (fun _ _ _ => trivial)
  rintro _ w₅ ⟨hp₅, -⟩
  have hnames₅ := hp₅.names_claimed (s := s) hclaimed₂ hgap₂ (.inr (by rw [hp.operator, hsame₂]))
    (by rw [hp.operator]; exact hoperator)
    (fun hruns op => by rw [hoperations]; exact htabled hruns op)
    (by rw [hoperations]; exact hsupplied) (h.registration.imp id (hp.frame.registered (by decide)))
  rw [hp.operator] at hnames₅
  refine ⟨?_, (Path.names_below hp₁).trans (hnames₂.trans hnames₅)⟩
  exact (hp.trans hp₅).gap_eq_operator (Nat.le_refl 5) hoperator h.claimed
    (hp₅.frame.claimed (by decide) hclaimed₂) (hp₅.frame.hasGap (by decide) hgap₂)

end Stages

/-! ## A whole call -/

section Call

variable {env : Env} {s : Service} {gapId : String} {w w' : World} {record : RunRecord}

/-- The checks of a discovery that return have found the three operations. -/
theorem supplied_of_checkOperations {data : Dict} {u : PUnit}
    (h : exec (checkOperations data) w = (.ok u, w')) : w' = w ∧ Supplied w := by
  unfold checkOperations at h
  by_cases hclaim : requiresActiveClaim data = true
  · rw [onlyIf, if_pos hclaim] at h
    obtain ⟨_, w₁, hone, hthree⟩ := exec_bind_inv h
    obtain ⟨rfl, -⟩ := supplied_of_requireAll hone
    exact supplied_of_requireAll hthree
  · rw [onlyIf, if_neg hclaim, exec_bind_ok (exec_pure _ _)] at h
    exact supplied_of_requireAll h

theorem json_of_jsonObject {resp : Response} {raw : Dict} (h : jsonObject resp = .ok raw) :
    resp.json = some (.obj raw) := by
  unfold jsonObject at h
  cases hjson : resp.json with
  | none =>
    rw [hjson] at h
    exact nomatch h
  | some v =>
    rw [hjson] at h
    cases v with
    | obj data =>
      cases h
      rfl
    | _ => exact nomatch h

/-- A discovery that returns leaves a table of the server's. -/
theorem tabled_of_discover (hserves : s.Serves env) :
    wp (discover env) (fun _ w' => Tabled s w' ∧ w'.client.operations ≠ [])
      (fun _ _ => True) w := by
  let r : Request := ⟨.capabilities, "GET", w.client.mcpUrl ++ "/mcp/v1/capabilities", [], none⟩
  refine wp_step (exec_getClient w) (wp_bind.mpr ?_)
  show wp (http env r) _ _ w
  unfold wp
  rw [exec_http]
  cases hanswer : env.answer w.tick r with
  | fault f => trivial
  | response resp =>
    show wp (ofExcept (raiseForResponse resp "capabilities discovery") >>= _) _ _ _
    cases raiseForResponse resp "capabilities discovery" with
    | error e => trivial
    | ok _ =>
      refine wp_step (exec_ofExcept_ok _ _) ?_
      cases hobject : jsonObject resp with
      | error e => trivial
      | ok raw =>
        refine wp_step (exec_ofExcept_ok _ _) (wp_step (exec_modifyClient _ _) ?_)
        cases hextract : extractOperations raw with
        | none => trivial
        | some operations =>
          refine wp_step (exec_modifyClient _ _) ?_
          have hjson : resp.json = some (.obj raw) := json_of_jsonObject hobject
          unfold wp
          cases hcheck : exec (checkOperations (unwrapMcpEnvelope raw)) _ with
          | mk result w₁ =>
            cases result with
            | error e => trivial
            | ok u =>
              obtain ⟨rfl, hsupplied⟩ := supplied_of_checkOperations hcheck
              refine ⟨fun hruns op hlookup => ?_, fun hnone => ?_⟩
              · exact hserves.runs hruns w.tick r resp raw operations op rfl hanswer hjson
                  hextract hlookup
              · have hregister := hsupplied "repo.register" List.mem_cons_self
                rw [hnone] at hregister
                exact nomatch hregister

/-- A declaration that is known is the one the run works with. -/
theorem wp_continueRun (hserves : s.Serves env) (hrecord : w.live.record ≠ "")
    (hdeclared : w.client.repoDeclaration.isSome = true) (hoperator : w.client.operatorGapId ≠ "")
    (h : Yields s w.live w.client.operatorGapId) :
    wp (continueRun env) (fun result w' => Honours w.client.operatorGapId w result w')
      (fun _ _ => True) w := by
  have hdiscover : Follows env Lingering.always 6 (discover env) (fun _ w' =>
    ∃ capabilities operations, w'.client = { w.client with
      capabilities := capabilities, operations := operations }) (fun _ _ => True) w :=
    follows_discoverAny
  refine wp_bind.mpr (wp_mono (wp_and (wp_and onlyAsks_discover (tabled_of_discover hserves))
    hdiscover) ?_ (fun _ _ _ => trivial))
  rintro _ w₁ ⟨⟨hasks₁, htabled₁, hsupplied₁⟩, hp₁, capabilities, operations, hclient₁⟩
  have hrecord₁ : w₁.live.record ≠ "" := by
    rw [hasks₁.live]
    exact hrecord
  have hpoll : Follows env Lingering.always 6 (recoverPendingRun env) (fun _ w' => Polled w₁ w')
    (fun _ _ => True) w₁ := follows_recoverPendingRun hrecord₁
  refine wp_bind.mpr (wp_mono (wp_and (rejoins_recoverPendingRun hrecord₁) hpoll) ?_
    (fun _ _ _ => trivial))
  rintro _ w₂ ⟨⟨hrejoined, hlog₂⟩, hp₂, hpolled⟩
  obtain ⟨state, gap, source, verified, hclient₂⟩ := hpolled.client
  have hprepares : Prepares env w w₂ := ⟨hp₁.trans hp₂, hlog₂.trans hasks₁.submitted⟩
  have hdeclared₂ : w₂.client.repoDeclaration.isSome = true := by
    rw [hclient₂, hclient₁]
    exact hdeclared
  have hoperations : w₂.client.operations = w₁.client.operations := by
    rw [hclient₂]
  obtain ⟨declaration, hknown⟩ := exec_knownDeclaration env hdeclared₂
  have hyielding : Yielding s w₂.live w₂.client.operatorGapId := by
    rw [hprepares.path.operator]
    rw [hasks₁.live] at hrejoined
    exact h.rejoined hrejoined
  refine wp_step hknown (wp_bind.mpr (wp_mono (names_stages hserves hpolled.record
    (by rw [hprepares.path.operator]; exact hoperator)
    (fun hruns op => by rw [hoperations]; exact htabled₁ hruns op)
    (by rw [hoperations]; exact hsupplied₁) hyielding) ?_ (fun _ _ _ => trivial)))
  rintro _ w₃ ⟨hgap, hnames⟩
  rw [hprepares.path.operator] at hgap hnames
  refine wp_step (exec_getClient w₃) ⟨?_, hprepares.names.trans hnames⟩
  exact (strOr_getOr_empty w₃.client.currentState "resolved_gap_id").trans hgap

/-- Looking at the repository requests nothing and leaves the saved state. -/
theorem looks_inspectRepo :
    wp (inspectRepo env false) (fun _ w' => w'.latest = w.latest
      ∧ submitted w'.log = submitted w.log) (fun _ _ => True) w := by
  refine wp_step (exec_getClient w) (wp_step (exec_readRepo env w) (wp_bind.mpr ?_))
  cases readRepoDeclaration (env.repo w.tick) env.repoName w.client.storyId w.client.capabilityId
      w.client.repoClass with
  | error e => trivial
  | ok declaration => exact ⟨rfl, rfl⟩

/-- **The operator's gap is honoured** where saved state and server leave the gap to the
    operator. -/
theorem honours_of_yields (hgap : gapId ≠ "") (h : Yields s (progress record.state) gapId) :
    Honoured s record gapId := by
  intro env hserves w hlatest hoperator dryRun result w' hrun
  subst hoperator
  refine wp_ok (Q := fun result w' => Honours w.client.operatorGapId w result w')
    (E := fun _ _ => True) ?_ hrun
  have hinspect : Follows env Lingering.always 6 (inspectRepo env false)
    (fun declaration w' => w'.client.repoDeclaration = some declaration ∧
      (false = true → w'.live.record ≠ "")) (fun _ _ => True) w := follows_inspectRepo false
  refine wp_bind.mpr (wp_mono (wp_and looks_inspectRepo hinspect) ?_
    (fun _ _ _ => trivial))
  rintro declaration w₁ ⟨⟨hlatest₁, hlog₁⟩, hp₁, -⟩
  have hdiscover : Follows env Lingering.always 6 (discover env) (fun _ w' =>
    ∃ capabilities operations, w'.client = { w₁.client with
      capabilities := capabilities, operations := operations }) (fun _ _ => True) w₁ :=
    follows_discoverAny
  refine wp_bind.mpr (wp_mono (wp_and onlyAsks_discover hdiscover) ?_ (fun _ _ _ => trivial))
  rintro _ w₂ ⟨hasks₂, hp₂, -⟩
  have hprepares₂ : Prepares env w w₂ := ⟨hp₁.trans hp₂, hasks₂.submitted.trans hlog₁⟩
  have hoperator₂ : w₂.client.operatorGapId ≠ "" := by
    rw [hprepares₂.path.operator]
    exact hgap
  cases dryRun with
  | true =>
    have hdry : exec (dryRunGap env) w₂ = (.ok w₂.client.operatorGapId, w₂) := by
      unfold dryRunGap
      rw [exec_bind_ok (exec_getClient w₂), if_pos hoperator₂]
      rfl
    refine wp_step hdry (wp_step (exec_getClient w₂) ⟨?_, hprepares₂.names⟩)
    show strOr (.str w₂.client.operatorGapId) = _
    rw [strOr_str, hprepares₂.path.operator]
  | false =>
    show wp (openRun env true >>= fun _ => continueRun env) _ _ w₂
    have hopen : Follows env Lingering.always 6 (openRun env true) (fun _ w' => Opened w')
      (fun _ _ => True) w₂ := follows_openRun true
    refine wp_bind.mpr (wp_mono (wp_and (reopens_openRun
      (hasks₂.latest.trans (hlatest₁.trans hlatest))) hopen) ?_ (fun _ _ _ => trivial))
    rintro _ w₃ ⟨⟨hreopened, hlog₃⟩, hp₃, hrecord₃, hdeclared₃⟩
    have hprepares₃ : Prepares env w w₃ :=
      hprepares₂.trans ⟨hp₃, hlog₃⟩
    have hsame := hprepares₃.path.operator
    refine wp_mono (wp_continueRun hserves hrecord₃ hdeclared₃ (by rw [hsame]; exact hgap)
      (by rw [hsame]; exact h.reopened hreopened)) ?_ (fun _ _ _ => trivial)
    rintro result w₄ ⟨hresolved, hnames⟩
    rw [hsame] at hresolved hnames
    exact ⟨hresolved, hprepares₃.names.trans hnames⟩

end Call

end KeyholeFlow
