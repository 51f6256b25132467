import Keyhole.GapServer

/-!
# Where the operator's gap is lost

The condition under which the operator's gap is honoured leaves nothing out: from a progress
that does not meet it the stages come to their end, with another gap or after a request that
names none.

* `Strays`: a request for a gap was sent that does not name this one;
* `loses_stages`: one case for each part of the condition;
* `honoured_iff`: the condition is exact. -/

namespace KeyholeFlow

open KeyholeJson KeyholeRedaction KeyholeEnvelope KeyholeGaps KeyholeOperations KeyholeRepo
  EffectProgram

/-! ## The stages come to their end -/

/-- From a state that can go on, the stages return. -/
theorem returns_stages {env : Env} {d : Dict} {w : World} (ho : Obliging env none)
    (hdelivers : Delivers env .realization d)
    (hvalid : ∀ t candidate, ∃ receipt, validReceipt env (env.now t) d candidate = .ok receipt)
    (hw : Underway w) (hrecord : w.live.record ≠ "") :
    ∃ w', exec (stages env) w = (.ok ⟨⟩, w') := by
  have hL : ∀ v, Entered Lingering.always v := fun v _ => .inr (.inl trivial)
  have hstages : Comes none (stages env) (fun _ _ => True) w := by
    refine Comes.bind ((comes_gapStage ho hw).follows (follows_gapStage (hL w))) ?_
    rintro _ w₁ ⟨hw₁, hp₁, h₁⟩
    have hr₁ : w₁.live.record ≠ "" := hp₁.hasRecord (by decide) hrecord
    refine Comes.bind ((comes_claimStage ho hw₁).follows (follows_claimStage hr₁ (hL w₁))) ?_
    rintro _ w₂ ⟨⟨-, hw₂⟩, hp₂, h₂⟩
    have hr₂ : w₂.live.record ≠ "" := hp₂.hasRecord (by decide) hr₁
    have hgap₂ : w₂.live.gap ≠ "" := hp₂.frame.hasGap (by decide) h₁.held
    refine Comes.bind ((comes_registrationStage ho hw₂ h₂.held).follows
      (follows_registrationStage hr₂ hgap₂ h₂.held (hL w₂))) ?_
    rintro _ w₃ ⟨⟨-, hw₃⟩, hp₃, h₃⟩
    have hr₃ : w₃.live.record ≠ "" := hp₃.hasRecord (by decide) hr₂
    have hgap₃ : w₃.live.gap ≠ "" := hp₃.frame.hasGap (by decide) hgap₂
    have hclaim₃ : w₃.live.claimed := hp₃.frame.claimed (by decide) h₂.held
    refine Comes.bind ((comes_compileStage ho hw₃ h₃.held).follows
      (follows_compileStage hr₃ hgap₃ hclaim₃ h₃.held (hL w₃))) ?_
    rintro _ w₄ ⟨⟨-, hw₄⟩, -, h₄⟩
    refine Comes.getClient (Comes.ite (fun _ => Comes.pure trivial) (fun _ => ?_))
    have hrealizes : Comes none (runGovernedRealization env) (fun _ v => Underway v) w₄ := by
      refine (comes_runGovernedRealization (P := fun d' => d' = d) ho hw₄ h₄.held
        (fun r v hsite hv => comes_delivered hv hsite hdelivers)
        (fun d' hsame t candidate => hsame ▸ hvalid t candidate)).mono ?_
      exact fun _ _ h => h.1
    refine Comes.bind hrealizes ?_
    intro receipt w₅ hw₅
    exact (comes_persistState ho hw₅ _).mono (fun _ _ _ => trivial)
  obtain ⟨_, w', hrun, -⟩ := returns_of_comes hstages
  exact ⟨w', hrun⟩

/-! ## What goes wrong on the way -/

/-- A request for a gap was sent that does not name this one. -/
def Strays (gapId : String) (log : List Event) : Prop :=
  ∃ name r, Event.sent name r ∈ log ∧ r.site.forGap = true ∧ r.gap ≠ .str gapId

section Losing

variable {env : Env} {gapId : String} {w w' : World}

theorem Strays.extends (h : Strays gapId w.log) (hext : ∃ newer, w'.log = newer ++ w.log) :
    Strays gapId w'.log := by
  obtain ⟨name, r, hmem, hsite, hother⟩ := h
  obtain ⟨newer, hlog⟩ := hext
  refine ⟨name, r, ?_, hsite, hother⟩
  rw [hlog]
  exact List.mem_append_right newer hmem

/-! ### A claim on another gap -/

/-- A step that is persisted keeps the gap if what is persisted names it. -/
theorem gap_persisted {α : Type} {m : Flow α} {n : Nat} {P : α → World → Prop}
    {updates : α → Dict} (hm : Follows env Lingering.always n m P (fun _ _ => True) w)
    (hn : n ≤ 5) (hrecord : w.live.record ≠ "")
    (hkept : ∀ a v, P a v → ∃ change, Amounts (updates a) change
      ∧ (change v.live).record = v.live.record ∧ (change v.live).gap = w.live.gap) :
    wp (m >>= fun a => persistState env (updates a)) (fun _ v => v.live.gap = w.live.gap)
      (fun _ _ => True) w := by
  refine wp_bind.mpr (wp_mono hm ?_ (fun _ _ _ => trivial))
  rintro a v ⟨hp, h⟩
  obtain ⟨change, hamounts, hrec, hgap⟩ := hkept a v h
  have hr : (change v.live).record ≠ "" := hrec ▸ hp.hasRecord hn hrecord
  refine wp_mono (wp_persistState hamounts hr) ?_ (fun _ _ _ => trivial)
  rintro _ v' ⟨hlive, -⟩
  rw [hlive]
  exact hgap

/-- The stages after the claim keep its gap. -/
theorem gap_registrationStage (hrecord : w.live.record ≠ "") (hgap : w.live.gap ≠ "")
    (hclaim : w.live.claimed) :
    wp (registrationStage env) (fun _ w' => w'.live.gap = w.live.gap) (fun _ _ => True) w := by
  refine wp_step (exec_getClient w) ?_
  by_cases hset : truthy (w.client.currentState.get "registration_id") = true
  · rw [if_pos hset]
    rfl
  · rw [if_neg hset]
    rw [truthy_registration, decide_eq_true_iff] at hset
    exact gap_persisted (follows_registerRepo (not_not.mp hset) hclaim hgap) (by decide) hrecord
      fun registration _ h => ⟨_, amounts_registration registration, rfl, h.gap⟩

theorem gap_compileStage (hrecord : w.live.record ≠ "") (hgap : w.live.gap ≠ "")
    (hclaim : w.live.claimed) (hregistered : w.live.registration ≠ "") :
    wp (compileStage env) (fun _ w' => w'.live.gap = w.live.gap) (fun _ _ => True) w := by
  refine wp_step (exec_getClient w) ?_
  by_cases hset : truthy (w.client.currentState.get "governance_context_id") = true
  · rw [if_pos hset]
    rfl
  · rw [if_neg hset]
    rw [truthy_context, decide_eq_true_iff] at hset
    exact gap_persisted (follows_compileContext (not_not.mp hset) hregistered hclaim hgap)
      (by decide) hrecord
      fun context _ h => ⟨_, amounts_context context, rfl, h.results.gap⟩

theorem gap_realizeStage (hrecord : w.live.record ≠ "") (hready : w.live.ready) :
    wp (realizeStage env) (fun _ w' => w'.live.gap = w.live.gap) (fun _ _ => True) w := by
  refine wp_step (exec_getClient w) ?_
  by_cases hset : isRealized w.client.currentState = true
  · rw [if_pos hset]
    rfl
  · rw [if_neg hset]
    rw [isRealized_eq, decide_eq_true_iff] at hset
    refine gap_persisted (follows_runGovernedRealization hready hset hrecord) (by decide) hrecord ?_
    intro receipt _ h
    obtain ⟨older, r, d, how, -, hreceipt, -⟩ := h.settled
    exact ⟨_, amounts_realized hreceipt.context hreceipt.receiptId, rfl, h.results.gap⟩

/-- A claim that is held brings its gap to the result. -/
theorem gap_stages_claimed (hrecord : w.live.record ≠ "") (hgap : w.live.gap ≠ "")
    (hclaim : w.live.claimed) :
    wp (stages env) (fun _ w' => w'.live.gap = w.live.gap) (fun _ _ => True) w := by
  have hL : ∀ v, Entered Lingering.always v := fun v _ => .inr (.inl trivial)
  refine wp_step (exec_gapStage_held hgap) (wp_step (exec_claimStage_held hclaim) ?_)
  refine wp_bind.mpr (wp_mono (wp_and (gap_registrationStage hrecord hgap hclaim)
    (follows_registrationStage hrecord hgap hclaim (hL w))) ?_ (fun _ _ _ => trivial))
  rintro _ w₁ ⟨hgap₁, hp₁, h₁⟩
  have hr₁ : w₁.live.record ≠ "" := hp₁.hasRecord (by decide) hrecord
  have hg₁ : w₁.live.gap ≠ "" := by
    rw [hgap₁]
    exact hgap
  have hc₁ : w₁.live.claimed := hp₁.frame.claimed (by decide) hclaim
  refine wp_bind.mpr (wp_mono (wp_and (gap_compileStage hr₁ hg₁ hc₁ h₁.held)
    (follows_compileStage hr₁ hg₁ hc₁ h₁.held (hL w₁))) ?_ (fun _ _ _ => trivial))
  rintro _ w₂ ⟨hgap₂, hp₂, h₂⟩
  have hr₂ : w₂.live.record ≠ "" := hp₂.hasRecord (by decide) hr₁
  have hready₂ : w₂.live.ready := ⟨by rw [hgap₂]; exact hg₁, hp₂.frame.claimed (by decide) hc₁,
    hp₂.frame.registered (by decide) h₁.held, h₂.held⟩
  refine wp_mono (gap_realizeStage hr₂ hready₂) ?_ (fun _ _ _ => trivial)
  intro _ w₃ hgap₃
  rw [hgap₃, hgap₂, hgap₁]

/-! ### A compile before the claim -/

theorem onlyAsks_readCanonicalDigest : OnlyAsks (readCanonicalDigest env) w := by
  refine wp_step (exec_getClient w) (OnlyAsks.bind (onlyAsks_http rfl) (fun resp v => ?_))
  by_cases hstatus : 400 ≤ resp.statusCode
  · rw [if_pos hstatus]
    exact Asks.refl v
  · rw [if_neg hstatus]
    refine OnlyAsks.bind (onlyAsks_ofExcept _) (fun data v₁ => ?_)
    by_cases hok : isFalse (data.get "ok") = true
    · rw [if_pos hok]
      exact Asks.refl v₁
    · rw [if_neg hok]
      exact Asks.refl v₁

theorem onlyAsks_currentCanonicalDigest : OnlyAsks (currentCanonicalDigest env) w := by
  refine wp_tryCatch.mpr (wp_mono onlyAsks_readCanonicalDigest (fun _ _ h => h) ?_)
  intro e v hasks
  cases e with
  | governed message => exact hasks
  | fault f =>
    cases f with
    | raised text => exact hasks
    | killed => exact hasks

/-- Without a digest of the server the claim is preceded by a compile. -/
theorem requests_claimContextDigest (ho : Obliging env none) (hundigested : Undigested env) :
    wp (claimContextDigest env)
      (fun _ w' => submitted w'.log = [.preclaimCompile] ++ submitted w.log)
      (fun _ _ => True) w := by
  have hdigest : Comes none (currentCanonicalDigest env)
      (fun digest w' => (Undigested env → digest = "") ∧ Calm w w') w :=
    comes_currentCanonicalDigest ho
  refine wp_bind.mpr (wp_mono (wp_and onlyAsks_currentCanonicalDigest hdigest) ?_
    (fun _ _ _ => trivial))
  rintro digest w₁ ⟨hasks, hnone, -⟩
  rw [if_pos (hnone hundigested)]
  have hrequire : Follows env Lingering.always 2 (requireOperation "context.compile")
      (fun op v => v = w₁ ∧ w₁.client.operations.lookup "context.compile" = some op)
      (fun _ _ => True) w₁ := follows_requireOperation _ (fun _ => trivial)
  refine wp_bind.mpr (wp_mono hrequire ?_ (fun _ _ _ => trivial))
  rintro op w₁ ⟨-, rfl, -⟩
  refine wp_step (exec_getClient w₁) (wp_bind.mpr (wp_mono (onlyAsks_headers true) ?_
    (fun _ _ _ => trivial)))
  intro hs w₂ hasks₂
  refine wp_bind.mpr (wp_mono (wp_submit rfl) ?_ (fun _ _ _ => trivial))
  intro data w₃ hlog
  have hlog₃ : submitted w₃.log = [.preclaimCompile] ++ submitted w.log := by
    rw [hlog, hasks₂.submitted, hasks.submitted]
    rfl
  by_cases hcontext : extractContextId data = ""
  · show wp (if extractContextId data = "" then _ else _) _ _ w₃
    rw [if_pos hcontext]
    trivial
  · show wp (if extractContextId data = "" then _ else _) _ _ w₃
    rw [if_neg hcontext]
    exact hlog₃

/-- What was requested was sent. -/
theorem sent_of_submitted {log : List Event} {action : Action} (h : action ∈ submitted log) :
    ∃ name r, Event.sent name r ∈ log ∧ r.site = .submit action := by
  obtain ⟨event, hmem, haction⟩ := List.mem_filterMap.mp h
  cases event with
  | sent name r => exact ⟨name, r, hmem, site_of_action haction⟩
  | received r resp => exact nomatch haction
  | persisted record => exact nomatch haction

/-- The compile names the story id, where a gap should be. -/
theorem strays_claimStage (ho : Obliging env none) (hundigested : Undigested env)
    (hrecord : w.live.record ≠ "") (hoperator : w.client.operatorGapId ≠ "")
    (hstory : w.client.storyId ≠ gapId) (hnone : ¬ w.live.claimed) :
    wp (claimStage env) (fun _ w' => Strays gapId w'.log) (fun _ _ => True) w := by
  have hstage : Follows env Lingering.always 2 (claimStage env)
      (fun _ w' => Staged .always Progress.claimed w w') (fun _ _ => True) w :=
    follows_claimStage hrecord (fun _ => .inr (.inl trivial))
  refine wp_mono (wp_and hstage (requests_claimStage
    (fun v => requests_claimContextDigest ho hundigested) hoperator hnone)) ?_ (fun _ _ _ => trivial)
  rintro _ w' ⟨⟨hp, -⟩, hrequests⟩
  obtain ⟨-, newer, hlog, hsent⟩ := hp.sent_licensed
    (I := fun v => v.client.storyId = w.client.storyId)
    (fun _ _ _ hk hs hv => (hs.keeps (Nat.le_trans hk (by decide))).story.trans hv) rfl
  have honly : submitted newer = [.gapClaim, .preclaimCompile] := by
    rw [hlog, submitted_append, ← List.cons_append] at hrequests
    exact List.append_cancel_right hrequests
  have hcompile : Action.preclaimCompile ∈ submitted newer := by
    rw [honly]
    exact List.mem_cons_of_mem _ List.mem_cons_self
  obtain ⟨name, r, hmem, hsite⟩ := sent_of_submitted hcompile
  obtain ⟨v, hv, licence, -⟩ := hsent name r hmem
  unfold Licensed at licence
  rw [hsite] at licence
  refine ⟨name, r, ?_, by rw [hsite]; rfl, ?_⟩
  · rw [hlog]
    exact List.mem_append_left _ hmem
  · rw [licence.2, hv]
    exact fun heq => hstory (Json.str.inj heq)

/-! ### A registration at a path of its own -/

/-- The payload without a run type has no parameters. -/
theorem gap_of_legacyPayload (c : Client) (site : Site) (declaration : RepoDeclaration)
    {op : BoundaryOperation} (claim : Claim) (pathDigest : String) (hs : List (String × String))
    (hop : op.runType = "") :
    Request.gap (operationRequest c site op hs
      (buildGenericRegistrationPayload c declaration op claim pathDigest)) = .null := by
  show Dict.get (Dict.child (buildGenericRegistrationPayload c declaration op claim pathDigest)
    "params") "gap_id" = .null
  unfold buildGenericRegistrationPayload
  rw [if_pos hop]
  rfl

theorem strays_registerRepo (hw : Underway w) (hnone : w.live.registration = "")
    (hclaim : w.live.claimed) (hgap : w.live.gap ≠ "")
    (hlegacy : ∀ op, w.client.operations.lookup "repo.register" = some op → op.runType = "") :
    wp (registerRepo env) (fun _ w' => Strays gapId w'.log) (fun _ _ => True) w := by
  have hdiscovered : Comes none (ensureDiscovered env) (fun _ w' => w' = w) w :=
    comes_ensureDiscovered hw
  refine wp_bind.mpr (wp_mono hdiscovered ?_ (fun _ _ _ => trivial))
  rintro _ w rfl
  have hrequire : Follows env Lingering.always 3 (requireOperation "repo.register")
      (fun op v => v = w ∧ w.client.operations.lookup "repo.register" = some op)
      (fun _ _ => True) w := follows_requireOperation _ (fun _ => trivial)
  refine wp_bind.mpr (wp_mono hrequire ?_ (fun _ _ _ => trivial))
  rintro op w ⟨-, rfl, hlookup⟩
  have hop := hlegacy op hlookup
  have hclaims : Follows env Lingering.always 3 (registrationClaim env)
      (fun claim w' => w'.client = w.client ∧ claim.claimId = w.live.claimId ∧
        claim.claimRef = w.live.claimRef ∧ claim.gapId = w.live.gap) (fun _ _ => True) w :=
    follows_registrationClaim hclaim hgap
  refine wp_bind.mpr (wp_mono hclaims ?_ (fun _ _ _ => trivial))
  rintro claim w₁ ⟨-, hclient₁, -⟩
  have hdeclares : Follows env Lingering.always 3 (currentDeclaration env)
      (fun _ w' => w'.client = w₁.client) (fun _ _ => True) w₁ := follows_currentDeclaration
  refine wp_bind.mpr (wp_mono hdeclares ?_ (fun _ _ _ => trivial))
  rintro declaration w₂ ⟨-, hclient₂⟩
  have hdigests : Follows env Lingering.always 3 (legacyPathDigest env op)
      (fun _ w' => w'.client = w₂.client) (fun _ _ => True) w₂ := follows_legacyPathDigest op
  refine wp_bind.mpr (wp_mono hdigests ?_ (fun _ _ _ => trivial))
  rintro pathDigest w₃ ⟨-, hclient₃⟩
  have hheaders : Follows env Lingering.always 3 (headers env true) (fun _ w' => w'.log = w₃.log ∧
      w'.latest = w₃.latest ∧ w'.client = w₃.client) (fun _ _ => True) w₃ := follows_headers true
  refine wp_step (exec_getClient w₃) (wp_bind.mpr (wp_mono hheaders ?_ (fun _ _ _ => trivial)))
  rintro hs w₄ ⟨-, -, -, hclient₄⟩
  have hsame : w₄.client = w.client :=
    hclient₄.trans (hclient₃.trans (hclient₂.trans hclient₁))
  have hlive₄ : w₄.live = w.live := live_of_client hsame
  let r : Request := operationRequest w₃.client (.submit .registration) op hs
    (buildGenericRegistrationPayload w₃.client declaration op claim pathDigest)
  have licence : Licensed w₄ r := by
    refine ⟨by rw [hlive₄]; exact hnone, by rw [hlive₄]; exact hclaim, op, ?_, ?_⟩
    · rw [hsame]
      exact hlookup
    · exact fun hrun => absurd hop hrun
  have hsubmit : Follows env Lingering.always 3 (submit env r .registration)
      (fun d w' => Settles .registration r w₄ d w') (fun _ w' => Fails .registration w₄ w') w₄ :=
    follows_submit .registration rfl licence (Nat.le_refl 3)
  refine wp_bind.mpr (wp_mono hsubmit ?_ (fun _ _ _ => trivial))
  rintro data w₅ ⟨-, hd⟩
  obtain ⟨how, hsettled⟩ := hd.settled
  obtain ⟨first, later, resp, hlog, -, -⟩ := answered_of_settled hsettled
  have hstrays : Strays gapId w₅.log := by
    refine ⟨w₄.record, r, ?_, rfl, ?_⟩
    · rw [hlog]
      exact List.mem_append_right _ (List.mem_cons_of_mem _ List.mem_cons_self)
    · rw [gap_of_legacyPayload w₃.client _ declaration claim pathDigest hs hop]
      exact nofun
  cases registrationOf data claim with
  | error e => trivial
  | ok registration =>
    have hwrite : Follows env Lingering.always 3 (writeDemoState env registrationState
        (registrationDoc w₃.client registration data)) (fun _ w' => w'.log = w₅.log ∧
        w'.latest = w₅.latest ∧ w'.client = w₅.client) (fun _ _ => True) w₅ :=
      follows_writeDemoState _ _
    refine wp_step (exec_ofExcept_ok _ _) (wp_bind.mpr (wp_mono hwrite ?_ (fun _ _ _ => trivial)))
    rintro _ w₆ ⟨-, hkept, -⟩
    show Strays gapId w₆.log
    rw [hkept]
    exact hstrays

theorem strays_registrationStage (hw : Underway w) (hnone : w.live.registration = "")
    (hclaim : w.live.claimed) (hgap : w.live.gap ≠ "")
    (hlegacy : ∀ op, w.client.operations.lookup "repo.register" = some op → op.runType = "") :
    wp (registrationStage env) (fun _ w' => Strays gapId w'.log) (fun _ _ => True) w := by
  have hset : ¬ truthy (w.client.currentState.get "registration_id") = true := by
    rw [truthy_registration, decide_eq_true_iff]
    exact not_not.mpr hnone
  have hregister : wp (registerRepo env) (fun _ w' => Strays gapId w'.log) (fun _ _ => True) w :=
    strays_registerRepo hw hnone hclaim hgap hlegacy
  refine wp_step (exec_getClient w) ?_
  rw [if_neg hset]
  refine wp_bind.mpr (wp_mono hregister ?_ (fun _ _ _ => trivial))
  intro registration w₁ hstrays
  unfold wp
  rw [exec_persistState]
  cases env.write w₁.tick with
  | done => exact hstrays.extends ⟨[_], rfl⟩
  | lost f | torn f | late f => trivial

/-! ### The stages -/

/-- A registration that is not sent as a run names no gap, whatever comes before it. -/
theorem strays_stages_legacy (ho : Obliging env none) (hw : Underway w)
    (hrecord : w.live.record ≠ "") (hnone : w.live.registration = "")
    (hlegacy : ∀ op, w.client.operations.lookup "repo.register" = some op → op.runType = "")
    (hsupplied : w.client.operations ≠ []) :
    wp (stages env) (fun _ w' => Strays gapId w'.log) (fun _ _ => True) w := by
  have hL : ∀ v, Entered Lingering.always v := fun v _ => .inr (.inl trivial)
  have hgapStage : Comes none (gapStage env) (fun _ w' => Underway w'
      ∧ Path env Lingering.always 1 w w' ∧ Staged .always (fun p => p.gap ≠ "") w w') w :=
    (comes_gapStage ho hw).follows (follows_gapStage (hL w))
  refine wp_bind.mpr (wp_mono hgapStage ?_ (fun _ _ _ => trivial))
  rintro _ w₁ ⟨hw₁, hp₁, h₁⟩
  have hr₁ : w₁.live.record ≠ "" := hp₁.hasRecord (by decide) hrecord
  have hclaimStage : Comes none (claimStage env) (fun _ w' => (_ ∧ Underway w')
      ∧ Path env Lingering.always 2 w₁ w' ∧ Staged .always Progress.claimed w₁ w') w₁ :=
    (comes_claimStage ho hw₁).follows (follows_claimStage hr₁ (hL w₁))
  refine wp_bind.mpr (wp_mono hclaimStage ?_ (fun _ _ _ => trivial))
  rintro _ w₂ ⟨⟨-, hw₂⟩, hp₂, h₂⟩
  have hp : Path env Lingering.always 2 w w₂ := (hp₁.mono (by decide)).trans hp₂
  have hr₂ : w₂.live.record ≠ "" := hp.hasRecord (by decide) hrecord
  have hgap₂ : w₂.live.gap ≠ "" := hp₂.frame.hasGap (by decide) h₁.held
  have hnone₂ : w₂.live.registration = "" := (hp.frame.registration (Nat.le_refl 2)).trans hnone
  have hlegacy₂ : ∀ op, w₂.client.operations.lookup "repo.register" = some op → op.runType = "" := by
    rw [(hp.keeps (by decide)).operations hsupplied]
    exact hlegacy
  have hstrays : wp (registrationStage env) (fun _ w' => Strays gapId w'.log) (fun _ _ => True) w₂ :=
    strays_registrationStage hw₂ hnone₂ h₂.held hgap₂ hlegacy₂
  refine wp_bind.mpr (wp_mono (wp_and hstrays (follows_registrationStage hr₂ hgap₂ h₂.held (hL w₂)))
    ?_ (fun _ _ _ => trivial))
  rintro _ w₃ ⟨hstrays₃, hp₃, h₃⟩
  have hr₃ : w₃.live.record ≠ "" := hp₃.hasRecord (by decide) hr₂
  have hrest : Follows env Lingering.always 5 (do
      compileStage env
      realizeStage env) (fun _ _ => True) (fun _ _ => True) w₃ :=
    follows_compileRealize hL hr₃ (hp₃.frame.hasGap (by decide) hgap₂)
      (hp₃.frame.claimed (by decide) h₂.held) h₃.held
  exact wp_mono hrest (fun _ _ h => hstrays₃.extends h.1.extends) (fun _ _ _ => trivial)

/-- A compile before the claim names no gap either. -/
theorem strays_stages_undigested (ho : Obliging env none) (hundigested : Undigested env)
    (hrecord : w.live.record ≠ "") (hoperator : w.client.operatorGapId ≠ "")
    (hstory : w.client.storyId ≠ gapId) (hnone : ¬ w.live.claimed) :
    wp (stages env) (fun _ w' => Strays gapId w'.log) (fun _ _ => True) w := by
  have hL : ∀ v, Entered Lingering.always v := fun v _ => .inr (.inl trivial)
  refine wp_bind.mpr (wp_mono (follows_gapStage (hL w)) ?_ (fun _ _ _ => trivial))
  rintro _ w₁ ⟨hp₁, h₁⟩
  have hr₁ : w₁.live.record ≠ "" := hp₁.hasRecord (by decide) hrecord
  have hnone₁ : ¬ w₁.live.claimed := by
    obtain ⟨hid, href⟩ := hp₁.frame.claim (Nat.le_refl 1)
    unfold Progress.claimed
    rw [hid, href]
    exact hnone
  have hstrays : wp (claimStage env) (fun _ w' => Strays gapId w'.log) (fun _ _ => True) w₁ :=
    strays_claimStage ho hundigested hr₁ (by rw [hp₁.operator]; exact hoperator)
      (by rw [(hp₁.keeps (by decide)).story]; exact hstory) hnone₁
  refine wp_bind.mpr (wp_mono (wp_and hstrays (follows_claimStage hr₁ (hL w₁))) ?_
    (fun _ _ _ => trivial))
  rintro _ w₂ ⟨hstrays₂, hp₂, h₂⟩
  have hr₂ : w₂.live.record ≠ "" := hp₂.hasRecord (by decide) hr₁
  have hrest : Follows env Lingering.always 5 (do
      registrationStage env
      compileStage env
      realizeStage env) (fun _ _ => True) (fun _ _ => True) w₂ :=
    follows_lastStages hr₂ (hp₂.frame.hasGap (by decide) h₁.held) h₂.held
  exact wp_mono hrest (fun _ _ h => hstrays₂.extends h.1.extends) (fun _ _ _ => trivial)

end Losing

section Necessity

variable {s : Service} {reading : Dict} {gapId : String} {w : World} {record : RunRecord}

theorem legacy_table (hruns : ¬ s.runs = true) (h : w.client.operations = s.table) :
    ∀ op, w.client.operations.lookup "repo.register" = some op → op.runType = "" := by
  intro op hlookup
  have htable : s.table = pathTable := if_neg hruns
  have hfound : pathTable.lookup "repo.register"
      = some ⟨"repo.register", "/mcp/v1/repos", "POST", "http", ""⟩ := by decide
  rw [h, htable, hfound] at hlookup
  cases hlookup
  rfl

/-- What the condition leaves out is lost: one case for each of its parts. -/
theorem loses_stages (h : Resumed s gapId w) (hgap : gapId ≠ "")
    (hnot : ¬ Yielding s w.live gapId) :
    wp (stages (gapEnv s reading)) (fun _ w' => w'.live.gap = gapId → Strays gapId w'.log)
      (fun _ _ => True) w := by
  have hoperator : w.client.operatorGapId ≠ "" := by
    rw [h.operator]
    exact hgap
  by_cases hfree : w.live.claimed → w.live.freeFor gapId
  · by_cases hpreclaim : s.digest = true ∨ w.live.claimed
    · have hregistration : ¬ (s.runs = true ∨ w.live.registration ≠ "") := fun hheld =>
        hnot ⟨hfree, hpreclaim, hheld⟩
      obtain ⟨hruns, hnone⟩ := not_or.mp hregistration
      have hsupplied : w.client.operations ≠ [] := by
        rw [h.operations]
        unfold Service.table
        cases s.runs with
        | true => exact nofun
        | false => exact nofun
      exact wp_mono (strays_stages_legacy obliging_gapEnv h.underway h.record (not_not.mp hnone)
        (legacy_table hruns h.operations) hsupplied) (fun _ _ hs _ => hs) (fun _ _ _ => trivial)
    · obtain ⟨hdigest, hnone⟩ := not_or.mp hpreclaim
      have hstory : w.client.storyId ≠ gapId := by
        rw [h.story]
        exact hgap.symm
      exact wp_mono (strays_stages_undigested obliging_gapEnv
        (undigested_gapEnv (Bool.not_eq_true _ ▸ hdigest)) h.record hoperator hstory hnone)
        (fun _ _ hs _ => hs) (fun _ _ _ => trivial)
  · obtain ⟨hclaim, hother⟩ := Classical.not_imp.mp hfree
    obtain ⟨hsome, hother⟩ := not_or.mp hother
    refine wp_mono (gap_stages_claimed h.record hsome hclaim) ?_ (fun _ _ _ => trivial)
    intro _ w' hsame hkept
    exact absurd (hsame.symm.trans hkept) hother

/-- A call on a saved state that does not meet the condition returns, and has not honoured
    the gap. -/
theorem yields_of_honoured (hgap : startsWith gapId "gap_" = true) (h : Honoured s record gapId) :
    Yields s (progress record.state) gapId := by
  by_contra hnot
  obtain ⟨reading, hexposes⟩ := exists_exposing hnot
  have hne : gapId ≠ "" := by
    rintro rfl
    exact absurd hgap (by decide)
  obtain ⟨w₁, hopen, hanew⟩ := exec_run_anew s reading record gapId
  obtain ⟨w₂, hdiscover, hw₂, hlive₂⟩ := resumed_discover (s := s) hgap hanew
  obtain ⟨w₃, hrecover, hw₃, hunyielding⟩ := hexposes w₂ hw₂ (by rw [hlive₂]; exact hanew.live)
  obtain ⟨w₄, hstages⟩ := returns_stages (obliging_gapEnv (s := s)) delivers_gapEnv
    (fun t candidate => valid_gapEnv _ candidate) hw₃.underway hw₃.record
  obtain ⟨declaration, hknown⟩ := exec_knownDeclaration (gapEnv s reading) hw₃.underway.declaration
  have hrun : exec (runGovernedRepoFlow (gapEnv s reading) false) (savedWorld record gapId)
      = (.ok (resultFromState w₄.client.currentState declaration), w₄) := by
    rw [hopen]
    unfold continueRun
    rw [exec_bind_ok hdiscover, exec_bind_ok hrecover, exec_bind_ok hknown, exec_bind_ok hstages]
    rfl
  obtain ⟨hresolved, newer, hlog, hnamed⟩ := h (gapEnv s reading) serves_gapEnv
    (savedWorld record gapId) rfl rfl false _ w₄ hrun
  have hsame : w₄.live.gap = gapId :=
    (strOr_getOr_empty w₄.client.currentState "resolved_gap_id").symm.trans hresolved
  obtain ⟨name, r, hmem, hsite, hother⟩ := wp_ok (loses_stages hw₃ hne hunyielding) hstages hsame
  have hnew : w₄.log = newer := hlog.trans (List.append_nil newer)
  rw [hnew] at hmem
  exact hother (hnamed name r hmem hsite)

/-- **Where the operator's gap is honoured**: exactly where saved state and server leave it
    to the operator. -/
theorem honoured_iff (s : Service) (record : RunRecord) (gapId : String)
    (hgap : startsWith gapId "gap_" = true) :
    Honoured s record gapId ↔ Yields s (progress record.state) gapId := by
  constructor
  · exact yields_of_honoured hgap
  · intro h
    refine honours_of_yields ?_ h
    rintro rfl
    exact absurd hgap (by decide)

theorem honoured_iff_readyRecord : startsWith "gap_1" "gap_" = true
    ∧ (Honoured ⟨true, true⟩ readyRecord "gap_1"
      ↔ Yields ⟨true, true⟩ (progress readyRecord.state) "gap_1") := by
  have hgap : startsWith "gap_1" "gap_" = true := by decide
  exact ⟨hgap, honoured_iff ⟨true, true⟩ readyRecord "gap_1" hgap⟩

/-- A finished run for one gap is the answer to a call for another, with the best of
    servers. -/
theorem finishedRecord_dishonours : startsWith "gap_2" "gap_" = true
    ∧ ¬ Honoured ⟨true, true⟩ finishedRecord "gap_2" := by
  have hgap : startsWith "gap_2" "gap_" = true := by decide
  have hclaimed : (progress finishedRecord.state).claimed := by decide
  refine ⟨hgap, fun h => ?_⟩
  have hfree := (yields_of_honoured hgap h).claimed (.inl hclaimed)
  exact absurd hfree (by decide)

end Necessity

end KeyholeFlow
