import Keyhole.FlowCompletion

/-!
# Resuming while a run is pending

A saved state may name a run the server is still working on.  `_recover_pending_run` asks
for it, finds it unfinished and returns, and the stages go on as if it had not been there:
what they send next depends on the results the state holds, not on the run.

* `Lasting`: every question for the saved run finds it unfinished;
* `ResumesOnce`: no call of the pending operation is sent again by such a resumption;
* `resumesOnce_iff`: exactly the states that already hold what the operation is for. -/

namespace KeyholeFlow

open KeyholeJson KeyholeRedaction KeyholeEnvelope KeyholeGaps KeyholeOperations KeyholeRepo
  EffectProgram

/-! ## The property -/

/-- The operation an action calls. -/
def Action.operation : Action → String
  | .gapDiscovery => "gaps.list"
  | .gapClaim => "gaps.claim"
  | .registration => "repo.register"
  | .preclaimCompile => "context.compile"
  | .contextCompile => "context.compile"
  | .realization => "governed.realize"

/-- Every question for a saved run is answered by a document that reports it unfinished. -/
def Lasting (env : Env) : Prop :=
  ∀ t r step last, r.site = .savedRunPoll step last →
    ∃ resp d, env.answer t r = .response resp ∧ Gives resp d ∧ isFinished d = false

/-- While the saved run lasts, one call of `resume_governed_repo_flow` sends no request of
    the operation that the step of the run is a call of. -/
def ResumesOnce (record : RunRecord) : Prop :=
  ∀ env, Lasting env → ∀ w : World, w.log = [] → w.latest = .saved record →
    ∀ pending, stateStep pending = (progress record.state).step →
      ∀ action ∈ submitted ((Command.resume true).after env w).log,
        action.operation ≠ pending.operation

/-- The state already holds what the action is for, and whatever else would have the
    operation called. -/
def Progress.holds (p : Progress) : Action → Prop
  | .gapDiscovery => False
  | .gapClaim => p.claimed
  | .registration => p.registration ≠ ""
  | .preclaimCompile => p.claimed ∧ p.context ≠ ""
  | .contextCompile => p.claimed ∧ p.context ≠ ""
  | .realization => False

/-! ## Up to the recovery -/

/-- The progress is the same but for what a declaration says. -/
def Redeclared (p q : Progress) : Prop :=
  q = { p with story := q.story, capability := q.capability, repoClass := q.repoClass }

theorem Redeclared.refl (p : Progress) : Redeclared p p := rfl

variable {pending action : Action} {p : Progress} {record : RunRecord} {w : World}

theorem Redeclared.trans {q r : Progress} (h : Redeclared p q) (h' : Redeclared q r) :
    Redeclared p r := by
  unfold Redeclared at h h' ⊢
  rw [h', h]

/-- A progress that has a run record keeps it. -/
theorem named_self (h : p.record ≠ "") (name : String) : p.named name = p := by
  unfold Progress.named
  rw [if_neg h]

/-- What happens before the stages: the saved progress stays, and no action is requested. -/
structure Waits (w w' : World) : Prop where
  live : Redeclared w.live w'.live
  submitted : submitted w'.log = submitted w.log

theorem Waits.refl (w : World) : Waits w w := ⟨.refl w.live, rfl⟩

theorem Waits.trans {a b c : World} (h : Waits a b) (h' : Waits b c) : Waits a c :=
  ⟨h.live.trans h'.live, h'.submitted.trans h.submitted⟩

theorem Waits.of_eq {w' : World} (hlive : w'.live = w.live) (hlog : w'.log = w.log) :
    Waits w w' :=
  ⟨by rw [hlive]; exact .refl _, by rw [hlog]⟩

theorem Asks.waits {w' : World} (h : Asks w w') : Waits w w' :=
  ⟨by rw [h.live]; exact .refl _, h.submitted⟩

/-- The program only waits, whether it returns or stops. -/
abbrev OnlyWaits {α : Type} (m : Flow α) (w : World) : Prop :=
  wp m (fun _ w' => Waits w w') (fun _ w' => Waits w w') w

section Waiting

variable {α β : Type} {env : Env} {w : World}

theorem OnlyWaits.bind {m : Flow α} {f : α → Flow β} (hm : OnlyWaits m w)
    (hf : ∀ a w', Waits w w' → OnlyWaits (f a) w') : OnlyWaits (m >>= f) w := by
  refine wp_bind.mpr (wp_mono hm (fun a w' hw' => ?_) (fun _ _ h => h))
  exact wp_mono (hf a w' hw') (fun _ _ h => hw'.trans h) (fun _ _ h => hw'.trans h)

theorem onlyWaits_ofExcept (x : Except Err α) : OnlyWaits (ofExcept x) w := by
  cases x with
  | ok a => exact Waits.refl w
  | error e => exact Waits.refl w

theorem onlyWaits_modifyClient {f : Client → Client}
    (h : (f w.client).currentState = w.client.currentState) : OnlyWaits (modifyClient f) w :=
  Waits.of_eq (congrArg progress h) rfl

theorem onlyWaits_discover : OnlyWaits (discover env) w :=
  wp_mono onlyAsks_discover (fun _ _ h => h.waits) (fun _ _ h => h.waits)

/-- A persist that changes nothing of the progress but the declaration. -/
theorem waits_persist {updates : Dict} {change : Progress → Progress} (h : Amounts updates change)
    (hrecord : w.live.record ≠ "") (hchange : Redeclared w.live (change w.live)) :
    wp (persistState env updates) (fun _ w' => Waits w w' ∧ SameClient w w' ∧ w'.demo = w.demo)
      (fun _ w' => Waits w w' ∧ env.write w.tick ≠ .done) w := by
  have hnamed : (change w.live).record ≠ "" := by
    rw [hchange]
    exact hrecord
  have hmerged : progress (w.merged env updates).state = change w.live := by
    rw [progress_merged env h w]
    exact named_self hnamed _
  have hopen : (w.openRecord env).live = w.live := by
    rcases live_openRecord env w with hsame | ⟨hblank, -⟩
    · exact hsame
    · exact absurd (congrArg Progress.record hblank) hrecord
  unfold wp
  rw [exec_persistState]
  cases hwrite : env.write w.tick with
  | done =>
    refine ⟨⟨?_, rfl⟩, ⟨_, rfl⟩, rfl⟩
    show Redeclared w.live (progress (w.merged env updates).state)
    rw [hmerged]
    exact hchange
  | lost f | torn f | late f =>
    refine ⟨⟨?_, rfl⟩, nofun⟩
    show Redeclared w.live (w.openRecord env).live
    rw [hopen]
    exact .refl _

/-- A repository that cannot be read with the saved state is inspected anew, which opens
    the state again. -/
theorem waits_inspectRepo (hrecord : w.live.record ≠ "") (hopen : w.live.terminal = false) :
    OnlyWaits (inspectRepo env true) w := by
  refine wp_bind.mpr (wp_of_exec (exec_getClient w)
    (wp_bind.mpr (wp_of_exec (exec_readRepo env w) ?_)))
  have hnext : Waits w w.next := .of_eq rfl rfl
  have hback : ∀ w', Waits w.next w' → Waits w w' := fun w' h => hnext.trans h
  refine wp_mono (Q := fun _ w' => Waits w.next w') (E := fun _ w' => Waits w.next w') ?_
    (fun _ w' h => hback w' h) (fun _ w' h => hback w' h)
  refine OnlyWaits.bind (onlyWaits_ofExcept _) (fun declaration w₁ h₁ => ?_)
  refine OnlyWaits.bind (onlyWaits_modifyClient rfl) (fun _ w₂ h₂ => ?_)
  have hlive₂ : w₂.live = _ := (hnext.trans (h₁.trans h₂)).live
  have hrecord₂ : w₂.live.record ≠ "" := by
    rw [hlive₂]
    exact hrecord
  have hopen₂ : w₂.live.terminal = false := by
    rw [hlive₂]
    exact hopen
  refine OnlyWaits.bind ?_ (fun _ w₃ _ => Waits.refl w₃)
  refine wp_mono (waits_persist (amounts_inspect env declaration) hrecord₂ ?_)
    (fun _ _ h => h.1) (fun _ _ h => h.1)
  show Redeclared w₂.live { w₂.live with
    story := _, capability := _, repoClass := _, terminal := false }
  rw [← hopen₂]
  rfl

/-- The run is opened with the saved progress. -/
theorem waits_openRun (hlatest : w.latest = .saved record)
    (hopen : (progress record.state).terminal = false) :
    wp (openRun env true)
      (fun _ w' => Redeclared (progress record.state) w'.live ∧ submitted w'.log = submitted w.log)
      (fun _ w' => submitted w'.log = submitted w.log) w := by
  rcases loadLastState_cases env hlatest with
    ⟨declaration, w₁, -, hload, hw₁, -⟩ | ⟨e, w₁, -, hload, hw₁, -⟩
  · have hlive : w₁.live = progress record.state := congrArg progress hw₁.state
    refine wp_step (exec_catchGoverned_ok hload) ⟨?_, congrArg submitted hw₁.log⟩
    rw [hlive]
    exact .refl _
  · have hlive : w₁.live = progress record.state := congrArg progress hw₁.state
    have hlog : submitted w₁.log = submitted w.log := congrArg submitted hw₁.log
    cases e with
    | fault f =>
      refine wp_bind.mpr ?_
      unfold wp
      rw [exec_catchGoverned_fault hload]
      exact hlog
    | governed message =>
      refine wp_step (exec_catchGoverned_governed hload) (wp_bind.mpr ?_)
      have hinspect : OnlyWaits (inspectRepo env true) w₁ :=
        waits_inspectRepo (by rw [hlive]; exact record.named) (by rw [hlive]; exact hopen)
      refine wp_mono hinspect (fun _ w₂ h => ?_) (fun _ w₂ h => ?_)
      · exact ⟨hlive ▸ h.live, h.submitted.trans hlog⟩
      · exact h.submitted.trans hlog

/-! ### Asking for the run -/

/-- The run is asked for and found unfinished. -/
theorem exec_savedRunAnswer_lasting (hlasting : Lasting env) (id url : String) {r : Request}
    {step : String} {last : Bool} (hsite : r.site = .savedRunPoll step last) :
    ∃ d w', exec (savedRunAnswer env id url r) w = (.ok d, w') ∧ isFinished d = false
      ∧ Calm w w' ∧ Waits w w' := by
  obtain ⟨resp, d, hanswer, hgives, hopen⟩ := hlasting w.tick r step last hsite
  have hhttp : exec (http env r) w = (.ok resp, (w.send r).hear r resp) := by
    rw [exec_http, hanswer]
  have hfound : ¬ resp.statusCode = 404 := by
    have hlow := hgives.1
    omega
  have hlog : submitted (.sent w.record r :: w.log) = submitted w.log :=
    submitted_asked (by rw [hsite]; rfl)
  refine ⟨d, (w.send r).hear r resp, ?_, hopen, ⟨rfl, rfl⟩, .refl _, hlog⟩
  unfold savedRunAnswer
  rw [exec_bind_ok hhttp, if_neg hfound, checkAnswer_of_gives hgives]
  rfl

/-- The recovery leaves everything as it was, and stops only where a write does. -/
abbrev Unrecovers (env : Env) (m : Flow Unit) (w : World) : Prop :=
  wp m (fun _ w' => Waits w w' ∧ SameClient w w' ∧ w'.demo = w.demo)
    (fun _ w' => Waits w w' ∧ ∃ t, env.write t ≠ .done) w

theorem unrecovers_pollSavedPaths (hlasting : Lasting env) (hw : w.live.pending)
    (hrecord : w.live.record ≠ "") (id url : String) (paths : List String) (lastError : String) :
    Unrecovers env (pollSavedPaths env id url paths lastError) w := by
  induction paths generalizing w lastError with
  | nil =>
    refine wp_mono (waits_persist (amounts_pending _) hrecord ?_) (fun _ _ h => h)
      (fun _ _ h => ⟨h.1, _, h.2⟩)
    show Redeclared w.live { w.live with terminal := false }
    rw [← hw.2]
    rfl
  | cons path rest ih =>
    obtain ⟨d, w₁, hanswer, hopen, hcalm, hwaits⟩ := exec_savedRunAnswer_lasting (w := w)
      hlasting id url (r := pollRequest w.client (.savedRunPoll w.live.step rest.isEmpty) path) rfl
    have hlive : w₁.live = w.live := live_of_client hcalm.1
    have hnext : Unrecovers env (pollSavedPaths env id url rest (orPending (runStatus d))) w₁ :=
      ih (by rw [hlive]; exact hw) (by rw [hlive]; exact hrecord) _
    refine wp_bind.mpr (wp_of_exec (exec_getClient w) (wp_bind.mpr (wp_of_exec hanswer ?_)))
    simp only [if_neg (ne_true_of_eq_false hopen)]
    refine wp_mono hnext ?_ (fun _ _ h => ⟨hwaits.trans h.1, h.2⟩)
    rintro _ w₂ ⟨hwaits₂, hsame, hdemo⟩
    exact ⟨hwaits.trans hwaits₂, (SameClient.of_eq hcalm.1).trans hsame, hdemo.trans hcalm.2⟩

theorem unrecovers_recoverPendingRun (hlasting : Lasting env) (hrecord : w.live.record ≠ "") :
    Unrecovers env (recoverPendingRun env) w := by
  unfold Unrecovers wp
  by_cases hw : w.live.pending
  · rw [exec_recoverPendingRun_pending hw]
    exact unrecovers_pollSavedPaths hlasting hw hrecord _ _ _ _
  · rw [exec_recoverPendingRun_idle hw]
    exact ⟨.refl w, .refl w, rfl⟩

end Waiting

/-! ## What is held is not requested -/

theorem Progress.holds_of_frame {q : Progress} (h : Frame 5 p q)
    (hp : p.holds pending) : q.holds pending := by
  cases pending with
  | gapDiscovery | realization => exact hp.elim
  | gapClaim => exact h.claimed (Nat.le_refl 5) hp
  | registration => exact h.registered (Nat.le_refl 5) hp
  | preclaimCompile | contextCompile =>
    exact ⟨h.claimed (Nat.le_refl 5) hp.1, h.compiled (Nat.le_refl 5) hp.2⟩

/-- No licence is left for the operation. -/
theorem not_repeated_of_holds {r : Request}
    (hholds : w.live.holds pending) (licence : Licensed w r) (hsite : r.site = .submit action) :
    ¬ action.operation = pending.operation := by
  unfold Licensed at licence
  rw [hsite] at licence
  cases pending with
  | gapDiscovery | realization => exact hholds.elim
  | gapClaim =>
    cases action with
    | gapClaim => exact absurd hholds licence.1
    | _ => decide
  | registration =>
    cases action with
    | registration => exact absurd licence.1 hholds
    | _ => decide
  | preclaimCompile | contextCompile =>
    cases action with
    | preclaimCompile => exact absurd hholds.1 licence.1
    | contextCompile => exact absurd licence.1 hholds.2
    | _ => decide

theorem resumesOnce_of_holds (hstep : (progress record.state).step = stateStep pending)
    (hpending : (progress record.state).pending) (hholds : (progress record.state).holds pending) :
    ResumesOnce record := by
  intro env hlasting w hlog hlatest other hsame
  have heq : pending = other := (stateStep_injective (hsame.trans hstep)).symm
  subst heq
  have hnone : ∀ v : World, submitted v.log = submitted w.log →
      ∀ action ∈ submitted v.log, ¬ action.operation = pending.operation := by
    intro v hv action hmem
    rw [hv, hlog] at hmem
    exact nomatch hmem
  refine wp_final (P := fun v : World => ∀ action ∈ submitted v.log,
    ¬ action.operation = pending.operation) ?_
  show wp (resumeGovernedRepoFlow env true) _ _ w
  rw [resume_eq_continueRun]
  have hfollows : Follows env Lingering.always 6 (openRun env true) (fun _ w' => Opened w')
    (fun _ _ => True) w := follows_openRun true
  refine wp_bind.mpr (wp_mono (wp_and (waits_openRun hlatest hpending.2) hfollows) ?_
    (fun _ v h => hnone v h.1))
  rintro _ w₁ ⟨⟨hlive₁, hlog₁⟩, -, -, hdeclared₁⟩
  have hdiscover : Follows env Lingering.always 6 (discover env) (fun _ w' =>
    ∃ capabilities operations, w'.client = { w₁.client with
      capabilities := capabilities, operations := operations }) (fun _ _ => True) w₁ :=
    follows_discoverAny
  refine wp_bind.mpr (wp_mono (wp_and onlyWaits_discover hdiscover) ?_
    (fun _ v h => hnone v (h.1.submitted.trans hlog₁)))
  rintro _ w₂ ⟨hwaits₂, -, capabilities, operations, hclient₂⟩
  have hlive₂ : w₂.live = _ := hlive₁.trans hwaits₂.live
  have hrecord₂ : w₂.live.record ≠ "" := by
    rw [hlive₂]
    exact record.named
  have hlog₂ := hwaits₂.submitted.trans hlog₁
  refine wp_bind.mpr (wp_mono (unrecovers_recoverPendingRun hlasting hrecord₂) ?_
    (fun _ v h => hnone v (h.1.submitted.trans hlog₂)))
  rintro _ w₃ ⟨hwaits₃, ⟨state, hclient₃⟩, -⟩
  have hlive₃ : w₃.live = _ := (hlive₁.trans hwaits₂.live).trans hwaits₃.live
  have hlog₃ := hwaits₃.submitted.trans hlog₂
  have hdeclared₃ : w₃.client.repoDeclaration.isSome = true := by
    rw [hclient₃, hclient₂]
    exact hdeclared₁
  refine wp_bind.mpr (wp_bind.mpr (wp_of_exec (exec_getClient w₃) ?_))
  cases hd : w₃.client.repoDeclaration with
  | none =>
    rw [hd] at hdeclared₃
    exact nomatch hdeclared₃
  | some declaration =>
    have hrecord₃ : w₃.live.record ≠ "" := by
      rw [hlive₃]
      exact record.named
    have hholds₃ : w₃.live.holds pending := by
      rw [hlive₃]
      exact hholds
    have hstages : Follows env Lingering.always 5 (stages env) (fun _ w' => Completes w₃ w')
      (fun _ _ => True) w₃ := follows_stages hrecord₃ (fun _ => .inr (.inl trivial))
    have hpath : ∀ v, Path env Lingering.always 5 w₃ v →
        ∀ action ∈ submitted v.log, ¬ action.operation = pending.operation := fun v hp =>
      hp.withheld (fun p => p.holds pending) (fun action => action.operation = pending.operation)
        (fun _ _ => Progress.holds_of_frame) (fun _ _ _ => not_repeated_of_holds) hholds₃
        (hnone w₃ hlog₃)
    exact wp_bind.mpr (wp_mono hstages (fun _ v h => hpath v h.1)
      (fun _ v h => hpath v h.1))

/-! ## What is not held is requested again

A server that reports the saved run active and answers everything the flow needs up to the
request in question, where the process dies. -/

/-- The answers that differ from the ordinary ones. -/
def repeatScript (target : Action) (_ : Nat) (site : Site) : Option HttpAnswer :=
  if site = .submit target then some (.fault .killed)
  else if site = .canonicalStatus then some (found [])
  else none

/-- The environment of that server. -/
def repeatEnv (target : Action) : Env := scripted "commit-1" (repeatScript target)

/-- The table of the four operations. -/
def fourTable : Operations :=
  [throughRuns "gaps.claim", throughRuns "repo.register", throughRuns "context.compile",
    throughRuns "governed.realize"]

theorem accepts_fourOperations : Accepts fourOperations fourTable :=
  ⟨by decide, fun _ => by decide, by decide⟩

section Repeating

variable {target : Action}

/-- Away from the two places of the script the answer is the ordinary one. -/
theorem answer_repeatEnv {t : Nat} {r : Request} (hsubmit : r.site ≠ .submit target)
    (hstatus : r.site ≠ .canonicalStatus) :
    (repeatEnv target).answer t r = ordinaryAnswer r.site := by
  unfold repeatEnv
  rw [answer_scripted]
  unfold repeatScript
  rw [if_neg hsubmit, if_neg hstatus]
  rfl

theorem gives_found (d : Dict) (h : isFalse (d.get "ok") = false) :
    Gives ⟨200, "", some (.obj d)⟩ d :=
  ⟨(by decide : 200 < 400), rfl, h⟩

theorem lasting_repeatEnv : Lasting (repeatEnv target) := by
  intro t r step last hsite
  refine ⟨⟨200, "", some (.obj [("status", .str "running")])⟩, [("status", .str "running")], ?_,
    gives_found _ (by decide), by decide⟩
  rw [answer_repeatEnv (by rw [hsite]; exact nofun)
    (by rw [hsite]; exact nofun), hsite]
  rfl

theorem undigested_repeatEnv : Undigested (repeatEnv target) := by
  intro t r hsite
  refine ⟨⟨200, "", some (.obj [])⟩, [], ?_, rfl, by decide⟩
  unfold repeatEnv
  rw [answer_scripted, hsite]
  unfold repeatScript
  rw [if_neg nofun, if_pos rfl]
  rfl

/-- An action that is answered at once is settled with the document. -/
theorem delivers_found {env : Env} {d : Dict}
    (hanswer : ∀ t r, r.site = .submit action → env.answer t r = found d)
    (hok : isFalse (d.get "ok") = false) (hactive : isActive d = false) : Delivers env action d :=
  .inline ⟨200, "", some (.obj d)⟩ (.inline fun t r hsite => by rw [hanswer t r hsite]; rfl)
    (gives_found d hok) hactive

/-- The ordinary answers are ones the flow can use. -/
theorem usable_of_ordinary {env : Env} (hgap : action ≠ .gapDiscovery)
    (hrealization : action ≠ .realization)
    (hanswer : ∀ t r, r.site = .submit action → env.answer t r = ordinaryAnswer (.submit action)) :
    ∃ d, Delivers env action d ∧ Usable action d := by
  cases action with
  | gapDiscovery => exact absurd rfl hgap
  | realization => exact absurd rfl hrealization
  | gapClaim =>
    have husable : extractClaimId [("claim_id", .str "claim-1")] ≠ "" := by decide
    exact ⟨_, delivers_found hanswer (by decide) (by decide), .inl husable⟩
  | registration =>
    have husable : extractRegistrationId [("registration_id", .str "registration-1")] ≠ "" := by
      decide
    exact ⟨_, delivers_found hanswer (by decide) (by decide), husable⟩
  | preclaimCompile =>
    have husable : extractContextId [("governance_context_id", .str "preclaim-1")] ≠ "" := by
      decide
    exact ⟨_, delivers_found hanswer (by decide) (by decide), husable⟩
  | contextCompile =>
    have husable : extractContextId [("governance_context_id", .str "context-1")] ≠ "" := by
      decide
    exact ⟨_, delivers_found hanswer (by decide) (by decide), husable⟩

theorem obliging_repeatEnv : Obliging (repeatEnv target) (some target) where
  write := fun _ => rfl
  dies := by
    intro action htarget t r hsite
    unfold repeatEnv
    rw [answer_scripted]
    unfold repeatScript
    rw [if_pos (by rw [hsite, Option.some.inj htarget])]
    rfl
  capabilities := by
    refine ⟨fourOperations, fourTable, fun t r hsite => ?_, accepts_fourOperations,
      by decide⟩
    refine ⟨⟨200, "", some (.obj fourOperations)⟩, ?_, by decide, rfl⟩
    rw [answer_repeatEnv (by rw [hsite]; exact nofun)
      (by rw [hsite]; exact nofun), hsite]
    rfl
  status := by
    intro t r hsite hanswer
    have hundigested : Undigested (repeatEnv target) := undigested_repeatEnv
    obtain ⟨resp, -, hfound, -⟩ := hundigested t r hsite
    rw [hfound] at hanswer
    exact nomatch hanswer
  submit := by
    intro action hgap hrealization htarget
    refine usable_of_ordinary hgap hrealization fun t r hsite => ?_
    rw [answer_repeatEnv _ (by rw [hsite]; exact nofun), hsite]
    rw [hsite]
    exact fun h => htarget (congrArg some (Site.submit.inj h).symm)
  git := fun _ => rfl
  gate := fun _ capability => ⟨_, runLocalInvariant_complete "commit-1" "/app" capability⟩

/-- A resumption from the saved state ends at the target. -/
theorem comes_resume_repeatEnv (hdue : Due (repeatEnv target) (progress record.state) target) :
    Comes (some target) (resumeGovernedRepoFlow (repeatEnv target) true) (fun _ _ => False)
      (savedWorld record "gap_1") := by
  have ho : Obliging (repeatEnv target) (some target) := obliging_repeatEnv
  have hreadable : ∀ t, Nonempty (Readable ((repeatEnv target).repo t) "" "") :=
    fun _ => readable_complete (by decide)
  obtain ⟨w₁, hopen, hloads⟩ := exec_openRun_saved hreadable record "gap_1"
  obtain ⟨raw, operations, hdescribes, haccepts, hclaim⟩ := ho.capabilities
  obtain ⟨r, resp, -, hdiscover⟩ := exec_discover_accepted (w := w₁) hdescribes haccepts
  rw [resume_eq_continueRun]
  refine Comes.step hopen (Comes.step hdiscover ?_)
  have hlive₁ : w₁.live = progress record.state := congrArg progress hloads.state
  generalize hw₂ : ({ (w₁.send r).hear r resp with
    client := w₁.client.discovered raw operations } : World) = w₂
  have hlive₂ : w₂.live = progress record.state := by
    rw [← hw₂, ← hlive₁]
    rfl
  have hunderway : Underway w₂ := by
    rw [← hw₂]
    refine ⟨haccepts.supplied, hclaim, ?_, hloads.declaration, fun name => ?_⟩
    · show startsWith w₁.client.operatorGapId "gap_" = true
      rw [hloads.operator]
      decide
    · show w₁.demo name ≠ .corrupt
      rw [hloads.demo]
      exact nofun
  have hrecover : Comes (some target) (recoverPendingRun (repeatEnv target))
      (fun _ w₃ => Waits w₂ w₃ ∧ SameClient w₂ w₃ ∧ w₃.demo = w₂.demo) w₂ := by
    refine wp_mono (unrecovers_recoverPendingRun lasting_repeatEnv
      (by rw [hlive₂]; exact record.named)) (fun _ _ h => h) ?_
    rintro e w₃ ⟨-, t, hwrite⟩
    exact absurd (ho.write t) hwrite
  refine Comes.bind hrecover ?_
  rintro _ w₃ ⟨hwaits, hsame, hdemo⟩
  have hlive₃ : w₃.live = _ := hlive₂ ▸ hwaits.live
  have hunderway₃ : Underway w₃ :=
    hunderway.of_sameButGap (.of_sameClient hsame) (by rw [hdemo]; exact hunderway.demo)
  have hdue₃ : Due (repeatEnv target) w₃.live target := by
    rw [hlive₃]
    cases target with
    | _ =>
      exact hdue
  refine Comes.bind (P := fun _ v => v = w₃) (Comes.getClient ?_) ?_
  · have hdeclared := hunderway₃.declaration
    cases hd : w₃.client.repoDeclaration with
    | none =>
      rw [hd] at hdeclared
      exact nomatch hdeclared
    | some declaration => exact Comes.pure rfl
  rintro declaration w₃ rfl
  refine Comes.bind (comes_stages ho hunderway₃ ?_ hdue₃) (fun _ _ hno => hno.elim)
  rw [hlive₃]
  exact record.named

/-- What is not held, the pending operation's action or another of the same operation, is
    due. -/
theorem exists_due (hp : p.pending) (hlookup : pending ≠ .gapDiscovery) (hnot : ¬ p.holds pending) :
    ∃ action, action.operation = pending.operation ∧ Due (repeatEnv action) p action := by
  cases pending with
  | gapDiscovery => exact absurd rfl hlookup
  | gapClaim => exact ⟨.gapClaim, rfl, hnot⟩
  | registration => exact ⟨.registration, rfl, not_not.mp hnot⟩
  | preclaimCompile | contextCompile =>
    by_cases hclaim : p.claimed
    · exact ⟨.contextCompile, rfl, not_not.mp (fun hcontext => hnot ⟨hclaim, hcontext⟩)⟩
    · exact ⟨.preclaimCompile, rfl, hclaim, undigested_repeatEnv⟩
  | realization => exact ⟨.realization, rfl, fun hfinal => nomatch hp.2.symm.trans hfinal.2⟩

end Repeating

theorem holds_of_resumesOnce
    (hlookup : pending ≠ .gapDiscovery) (hstep : (progress record.state).step = stateStep pending)
    (hpending : (progress record.state).pending) (h : ResumesOnce record) :
    (progress record.state).holds pending := by
  by_contra hnot
  obtain ⟨target, hsame, hdue⟩ := exists_due hpending hlookup hnot
  have hrun := comes_resume_repeatEnv hdue
  have hreached : Reached (some target)
      ((Command.resume true).after (repeatEnv target) (savedWorld record "gap_1")).log :=
    wp_final (P := fun v : World => Reached (some target) v.log)
      (wp_mono hrun (fun _ _ hno => hno.elim) (fun _ _ h => h.2))
  obtain ⟨action, _, r, htarget, hmem, hsite⟩ := hreached
  cases htarget
  exact h (repeatEnv target) lasting_repeatEnv _ rfl rfl pending hstep.symm target
    (mem_submitted hmem hsite) hsame

/-! ## The result -/

/-- A resumption sends nothing of the pending operation again exactly when the state holds
    what the operation is for: never, for a realization. -/
theorem resumesOnce_iff (record : RunRecord) (pending : Action) (hlookup : pending ≠ .gapDiscovery)
    (hstep : (progress record.state).step = stateStep pending)
    (hpending : (progress record.state).pending) :
    ResumesOnce record ↔ (progress record.state).holds pending :=
  ⟨holds_of_resumesOnce hlookup hstep hpending, resumesOnce_of_holds hstep hpending⟩

/-- A gap was resolved, and a claim was accepted as a run of the server. -/
def claimPending : RunRecord where
  state := .ofDict [("run_record_id", .str "20260101T000000000000Z"),
    ("resolved_gap_id", .str "gap_1"), ("step", .str "gap_claim"), ("run_id", .str "run-1"),
    ("terminal", .bool false)]
  named := by decide

theorem pending_claimPending : (progress claimPending.state).step = stateStep .gapClaim
    ∧ (progress claimPending.state).pending := by
  decide

theorem resumesOnce_iff_claimPending :
    ResumesOnce claimPending ↔ (progress claimPending.state).holds .gapClaim :=
  resumesOnce_iff claimPending .gapClaim (by decide) pending_claimPending.1 pending_claimPending.2

/-- The claim is sent a second time while its first run is still active. -/
theorem pending_claim_repeats : (progress claimPending.state).pending
    ∧ (progress claimPending.state).step = stateStep .gapClaim ∧ ¬ ResumesOnce claimPending := by
  obtain ⟨hstep, hpending⟩ := pending_claimPending
  refine ⟨hpending, hstep, fun h => ?_⟩
  have hheld : (progress claimPending.state).claimed :=
    holds_of_resumesOnce (by decide) hstep hpending h
  exact absurd hheld (by decide)

end KeyholeFlow
