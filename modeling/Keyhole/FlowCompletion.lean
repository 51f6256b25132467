import Keyhole.FailedWork
import Keyhole.OperationGate

/-!
# A flow that meets an obliging server

The protocol says what the flow may do; here is what it does when nothing goes wrong.
An obliging server answers every request with something the flow can use, except that
it may never answer one action, its target, where the process dies.  From any saved
state the flow then either gets through a stage or sends the target's request:

* `Comes target m Q`: the run of `m` returns with `Q`, or the target was reached;
* one lemma a method, up to `comes_stages`: a stage whose result the state does not hold
  is not passed when it is the target. -/

namespace KeyholeFlow

open KeyholeJson KeyholeRedaction KeyholeEnvelope KeyholeGaps KeyholeOperations KeyholeRepo
  EffectProgram

/-! ## The server -/

/-- The document is one the action can use; what a realization needs is left to the
    results about receipts. -/
def Usable : Action → Dict → Prop
  | .gapDiscovery, _ => True
  | .gapClaim, d => extractClaimId d ≠ "" ∨ extractClaimRef d ≠ ""
  | .registration, d => extractRegistrationId d ≠ ""
  | .preclaimCompile, d => extractContextId d ≠ ""
  | .contextCompile, d => extractContextId d ≠ ""
  | .realization, _ => True

/-- The action is answered with the document: at once, or through a run that has come
    to its end at the first poll. -/
inductive Delivers (env : Env) (action : Action) (d : Dict) : Prop where
  | inline (resp : Response) (hanswers : Answers env action resp .inline) (hgives : Gives resp d)
      (hd : isActive d = false)
  | polled (resp : Response) (hanswers : Answers env action resp .polled) (hgives : Gives resp d)
      (hd : Succeeds d)

/-- The environment lets the flow go on, up to its target. -/
structure Obliging (env : Env) (target : Option Action) : Prop where
  write : ∀ t, env.write t = .done
  dies : ∀ action, target = some action → ∀ t r, r.site = .submit action →
    env.answer t r = .fault .killed
  capabilities : ∃ raw operations, Describes env raw ∧ Accepts raw operations ∧
    (operations.lookup "gaps.claim").isSome = true
  status : ∀ t r, r.site = .canonicalStatus → env.answer t r ≠ .fault .killed
  submit : ∀ action, action ≠ .gapDiscovery → action ≠ .realization → target ≠ some action →
    ∃ d, Delivers env action d ∧ Usable action d
  git : ∀ t, repoGitMetadata (env.repo t) = .ok ()
  gate : ∀ t capability,
    ∃ invariant, runLocalInvariant (env.repo t) env.repoDir capability = .ok invariant

/-- The server never offers a canonical digest. -/
def Undigested (env : Env) : Prop :=
  ∀ t r, r.site = .canonicalStatus →
    ∃ resp d, env.answer t r = .response resp ∧ resp.json = some (.obj d)
      ∧ extractCurrentCanonicalDigest d = ""

/-! ## Reaching the target -/

/-- The target's request was sent. -/
def Reached (target : Option Action) (log : List Event) : Prop :=
  ∃ action record r, target = some action ∧ .sent record r ∈ log ∧ r.site = .submit action

/-- The run returns with `Q`, or dies at the target. -/
abbrev Comes {α : Type} (target : Option Action) (m : Flow α) (Q : α → World → Prop)
    (w : World) : Prop :=
  wp m Q (fun e w' => e = .fault .killed ∧ Reached target w'.log) w

section Rules

variable {α β : Type} {target : Option Action} {w : World}

theorem Comes.bind {m : Flow α} {f : α → Flow β} {P : α → World → Prop} {Q : β → World → Prop}
    (hm : Comes target m P w) (hf : ∀ a w', P a w' → Comes target (f a) Q w') :
    Comes target (m >>= f) Q w :=
  wp_bind.mpr (wp_mono hm hf (fun _ _ h => h))

theorem Comes.mono {m : Flow α} {Q Q' : α → World → Prop} (hm : Comes target m Q w)
    (h : ∀ a w', Q a w' → Q' a w') : Comes target m Q' w :=
  wp_mono hm h (fun _ _ h => h)

theorem Comes.pure {a : α} {Q : α → World → Prop} (h : Q a w) :
    Comes target (pure a) Q w := h

/-- A step whose outcome is known. -/
theorem Comes.step {m : Flow α} {f : α → Flow β} {Q : β → World → Prop} {a : α} {w' : World}
    (hm : exec m w = (.ok a, w')) (hf : Comes target (f a) Q w') :
    Comes target (m >>= f) Q w := by
  refine wp_bind.mpr ?_
  unfold wp
  rw [hm]
  exact hf

theorem Comes.of_exec {m : Flow α} {Q : α → World → Prop} {a : α} {w' : World}
    (hm : exec m w = (.ok a, w')) (h : Q a w') : Comes target m Q w := by
  unfold Comes wp
  rw [hm]
  exact h

theorem Comes.getClient {f : Client → Flow β} {Q : β → World → Prop}
    (h : Comes target (f w.client) Q w) : Comes target (getClient >>= f) Q w :=
  Comes.step (exec_getClient w) h

theorem Comes.ite {c : Prop} [Decidable c] {m n : Flow α} {Q : α → World → Prop}
    (hm : c → Comes target m Q w) (hn : ¬c → Comes target n Q w) :
    Comes target (if c then m else n) Q w := by
  by_cases hc : c
  · rw [if_pos hc]
    exact hm hc
  · rw [if_neg hc]
    exact hn hc

/-- Only a fault passes, so that a handler has nothing to do. -/
theorem Comes.catchGoverned {m : Flow α} {Q : Except String α → World → Prop}
    (h : Comes target m (fun a w' => Q (.ok a) w') w) : Comes target (catchGoverned m) Q w := by
  unfold Comes wp at h ⊢
  cases hm : exec m w with
  | mk r w' =>
    rw [hm] at h
    cases r with
    | ok a =>
      rw [exec_catchGoverned_ok hm]
      exact h
    | error e =>
      obtain ⟨rfl, hreached⟩ := h
      rw [exec_catchGoverned_fault hm]
      exact ⟨rfl, hreached⟩

/-- What is known of the protocol's view of a run that comes somewhere. -/
theorem Comes.follows {m : Flow α} {Q Q' : α → World → Prop} {E : Err → World → Prop}
    {env : Env} {L : Lingering} {n : Nat} (h : Comes target m Q w)
    (hf : Follows env L n m Q' E w) :
    Comes target m (fun a w' => Q a w' ∧ Path env L n w w' ∧ Q' a w') w :=
  wp_mono (wp_and h hf) (fun _ _ h => h) (fun _ _ h => h.1)

end Rules

/-! ## What the flow works with -/

/-- The operations, an operator's gap, a declaration, and state files that can be read. -/
structure Underway (w : World) : Prop where
  supplied : Supplied w
  claim : (w.client.operations.lookup "gaps.claim").isSome = true
  operator : startsWith w.client.operatorGapId "gap_" = true
  declaration : w.client.repoDeclaration.isSome = true
  demo : ∀ name, w.demo name ≠ .corrupt

/-- Neither the client nor the state files have changed. -/
def Calm (w w' : World) : Prop := w'.client = w.client ∧ w'.demo = w.demo

theorem Underway.of_sameButGap {w w' : World} (h : Underway w) (hclient : SameButGap w w')
    (hdemo : ∀ name, w'.demo name ≠ .corrupt) : Underway w' := by
  obtain ⟨state, gapId, source, verified, hc⟩ := hclient
  refine ⟨?_, by rw [hc]; exact h.claim, by rw [hc]; exact h.operator,
    by rw [hc]; exact h.declaration, hdemo⟩
  unfold Supplied
  rw [hc]
  exact h.supplied

theorem Underway.of_calm {w w' : World} (h : Underway w) (hcalm : Calm w w') : Underway w' :=
  h.of_sameButGap (.of_sameClient (.of_eq hcalm.1)) (by rw [hcalm.2]; exact h.demo)

theorem Underway.operator_ne {w : World} (h : Underway w) : w.client.operatorGapId ≠ "" := by
  intro hnone
  have hop := h.operator
  rw [hnone] at hop
  exact absurd hop (by decide)

section Effects

variable {env : Env} {target : Option Action} {w : World}

theorem comes_headers (idempotent : Bool) :
    Comes target (headers env idempotent) (fun _ w' => Calm w w') w := by
  refine Comes.getClient ?_
  cases idempotent with
  | true => exact Comes.step (exec_nextTick w) ⟨rfl, rfl⟩
  | false => exact ⟨rfl, rfl⟩

theorem comes_persistState (ho : Obliging env target) (hw : Underway w) (updates : Dict) :
    Comes target (persistState env updates) (fun _ w' => Underway w') w := by
  unfold Comes wp
  rw [exec_persistState, ho.write]
  exact hw.of_sameButGap ⟨_, _, _, _, rfl⟩ hw.demo

theorem comes_writeDemoState (ho : Obliging env target) (hw : Underway w) (name : String)
    (doc : Dict) : Comes target (writeDemoState env name doc) (fun _ w' => Underway w') w := by
  unfold Comes wp
  rw [exec_writeDemoState, ho.write]
  refine hw.of_sameButGap (.refl w) fun other => ?_
  show (if other = name then DemoFile.doc (redactFields doc) else w.demo other) ≠ .corrupt
  by_cases h : other = name
  · rw [if_pos h]
    exact nofun
  · rw [if_neg h]
    exact hw.demo other

/-- An action is settled with the document it is answered with. -/
theorem comes_delivered (hw : Underway w) {r : Request} {action : Action} {d : Dict}
    (hsite : r.site = .submit action) (hdelivers : Delivers env action d) :
    Comes target (submit env r action) (fun d' w' => d' = d ∧ Underway w') w := by
  cases hdelivers with
  | inline resp hanswers hgives hd =>
    cases hanswers with
    | inline hanswer =>
    have hrun : exec (submit env r action) w = (.ok d, (w.send r).hear r resp) := by
      unfold submit resolveAsyncResult
      rw [exec_bind_ok (exec_exchange_ok (hanswer _ _ hsite) (checkAnswer_of_gives hgives _)),
        if_neg (by rw [hd]; exact Bool.false_ne_true)]
      rfl
    exact Comes.of_exec hrun ⟨rfl, hw.of_calm ⟨rfl, rfl⟩⟩
  | polled resp hanswers hgives hd =>
    cases hanswers with
    | polled first accepted hfirst hactive hnamed hanswer hpoll hwrite hrounds =>
    obtain ⟨path, rest, rounds, w₁, -, hclient, hdemo, hsubmit⟩ :=
      exec_submit_accepted action (hanswer w.tick r hsite) hfirst hactive hnamed hwrite hrounds
    obtain ⟨w₂, hpolled, -, hclient₂, hdemo₂⟩ := exec_pollUntil_finished (w := w₁) hpoll
      (checkAnswer_of_gives hgives _) hd.1 (by rw [hd.2]; exact Bool.false_ne_true) path rest
      rounds accepted
    have hw₁ : Underway w₁ :=
      hw.of_sameButGap (.of_sameClient hclient) (by rw [hdemo]; exact hw.demo)
    exact Comes.of_exec (hsubmit.trans hpolled) ⟨rfl, hw₁.of_calm ⟨hclient₂, hdemo₂⟩⟩

/-- The target's request is the last one. -/
theorem comes_target (ho : Obliging env target) {r : Request} {action : Action}
    {Q : Dict → World → Prop} (hsite : r.site = .submit action) (htarget : target = some action) :
    Comes target (submit env r action) Q w := by
  have hdies : exec (submit env r action) w = (.error (.fault .killed), w.send r) := by
    refine exec_bind_error (exec_bind_error ?_)
    rw [exec_http, ho.dies action htarget w.tick r hsite]
  unfold Comes wp
  rw [hdies]
  exact ⟨rfl, action, w.record, r, htarget, List.mem_cons_self, hsite⟩

/-- An action is settled with a document it can use, unless it is the target. -/
theorem comes_submit (ho : Obliging env target) (hw : Underway w) {r : Request} {action : Action}
    (hsite : r.site = .submit action) (hgap : action ≠ .gapDiscovery)
    (hrealization : action ≠ .realization) :
    Comes target (submit env r action)
      (fun d w' => target ≠ some action ∧ Usable action d ∧ Underway w') w := by
  by_cases htarget : target = some action
  · exact comes_target ho hsite htarget
  obtain ⟨d, hdelivers, husable⟩ := ho.submit action hgap hrealization htarget
  refine (comes_delivered hw hsite hdelivers).mono ?_
  rintro d' w' ⟨rfl, hw'⟩
  exact ⟨htarget, husable, hw'⟩

/-- Asking for the canonical digest ends well, and without one if the server has none. -/
theorem comes_currentCanonicalDigest (ho : Obliging env target) :
    Comes target (currentCanonicalDigest env)
      (fun digest w' => (Undigested env → digest = "") ∧ Calm w w') w := by
  have hread : wp (readCanonicalDigest env)
      (fun digest w' => (Undigested env → digest = "") ∧ Calm w w')
      (fun e w' => e ≠ .fault .killed ∧ Calm w w') w := by
    refine wp_bind.mpr ?_
    let r : Request := ⟨.canonicalStatus, "POST", w.client.mcpUrl ++ "/mcp/v1/runs/start",
      plainHeaders w.client, some (.obj [("run_type", .str "gaps.status"),
        ("repo", .str env.repoName), ("shadow", .bool false)])⟩
    show wp (http env r >>= _) _ _ w
    refine wp_bind.mpr ?_
    unfold wp
    rw [exec_http]
    cases hanswer : env.answer w.tick r with
    | fault f => exact ⟨fun he => ho.status w.tick r rfl (by rw [hanswer, Err.fault.inj he]), rfl, rfl⟩
    | response resp =>
      show wp (if 400 ≤ resp.statusCode then _ else _) _ _ _
      by_cases hs : 400 ≤ resp.statusCode
      · rw [if_pos hs]
        exact ⟨fun _ => rfl, rfl, rfl⟩
      rw [if_neg hs]
      refine wp_bind.mpr ?_
      cases hjson : resp.json with
      | none =>
        unfold jsonObject
        rw [hjson]
        exact ⟨nofun, rfl, rfl⟩
      | some v =>
        unfold jsonObject
        rw [hjson]
        cases v with
        | obj data =>
          show wp (if isFalse (Dict.get data "ok") = true then _ else _) _ _ _
          by_cases hok : isFalse (Dict.get data "ok") = true
          · rw [if_pos hok]
            exact ⟨fun _ => rfl, rfl, rfl⟩
          · rw [if_neg hok]
            refine ⟨fun hundigested => ?_, rfl, rfl⟩
            obtain ⟨resp', d, hanswer', hjson', hnone⟩ := hundigested w.tick r rfl
            rw [hanswer] at hanswer'
            cases hanswer'
            rw [hjson] at hjson'
            cases hjson'
            exact hnone
        | _ => exact ⟨nofun, rfl, rfl⟩
  refine wp_tryCatch.mpr (wp_mono hread (fun _ _ h => h) ?_)
  rintro e w' ⟨hkilled, hcalm⟩
  cases e with
  | governed message => exact ⟨fun _ => rfl, hcalm⟩
  | fault f =>
    cases f with
    | raised text => exact ⟨fun _ => rfl, hcalm⟩
    | killed => exact absurd rfl hkilled

theorem comes_requireOperation {name : String}
    (h : (w.client.operations.lookup name).isSome = true) :
    Comes target (requireOperation name) (fun _ w' => w' = w) w := by
  refine Comes.getClient ?_
  cases hl : w.client.operations.lookup name with
  | some op => exact Comes.pure rfl
  | none =>
    rw [hl] at h
    exact nomatch h

theorem comes_ensureDiscovered (hw : Underway w) :
    Comes target (ensureDiscovered env) (fun _ w' => w' = w) w := by
  refine Comes.getClient ?_
  have hclaim := hw.claim
  cases hop : w.client.operations with
  | nil =>
    rw [hop] at hclaim
    exact nomatch hclaim
  | cons entry rest => exact Comes.pure rfl

end Effects

/-! ## The methods -/

section Methods

variable {env : Env} {target : Option Action} {w : World}

theorem comes_compilePreclaimContext (ho : Obliging env target) (hw : Underway w) :
    Comes target (compilePreclaimContext env)
      (fun _ w' => target ≠ some .preclaimCompile ∧ Underway w') w := by
  have hcompile := hw.supplied "context.compile" (List.mem_cons_of_mem _ List.mem_cons_self)
  refine Comes.bind (comes_requireOperation hcompile) ?_
  rintro op w' rfl
  refine Comes.getClient (Comes.bind (comes_headers true) ?_)
  intro hs w₁ hcalm
  refine Comes.bind (comes_submit ho (hw.of_calm hcalm) rfl (by decide) (by decide)) ?_
  rintro d w₂ ⟨htarget, husable, hw₂⟩
  exact Comes.ite (fun hnone => absurd hnone husable) (fun _ => Comes.pure ⟨htarget, hw₂⟩)

/-- Without a canonical digest the claim waits for a compile of its own. -/
theorem comes_claimContextDigest (ho : Obliging env target) (hw : Underway w) :
    Comes target (claimContextDigest env)
      (fun _ w' => (Undigested env → target ≠ some .preclaimCompile) ∧ Underway w') w := by
  refine Comes.bind (comes_currentCanonicalDigest ho) ?_
  rintro digest w₁ ⟨hnone, hcalm⟩
  have hw₁ := hw.of_calm hcalm
  refine Comes.ite (fun _ => ?_) (fun hsome => Comes.pure ⟨fun h => absurd (hnone h) hsome, hw₁⟩)
  exact (comes_compilePreclaimContext ho hw₁).mono (fun _ _ h => ⟨fun _ => h.1, h.2⟩)

/-- The operator's gap is taken as it is. -/
theorem comes_resolveGapId (hw : Underway w) :
    Comes target (resolveGapId env) (fun _ w' => Underway w') w := by
  refine Comes.getClient (Comes.ite (fun _ => ?_) (fun hnone => absurd hw.operator_ne hnone))
  refine Comes.ite (fun _ => ?_) (fun hbad => absurd hw.operator hbad)
  refine Comes.step (exec_modifyClient _ _) (Comes.step (exec_modifyClient _ _) ?_)
  exact hw.of_sameButGap ⟨_, _, _, _, rfl⟩ hw.demo

theorem comes_refreshCachedGapClaimability (hw : Underway w) :
    Comes target (refreshCachedGapClaimability env) (fun _ w' => w' = w) w :=
  Comes.getClient (Comes.ite (fun _ => Comes.pure rfl)
    (fun hnone => absurd (.inr hw.operator_ne) hnone))

theorem comes_claimGap (ho : Obliging env target) (hw : Underway w) :
    Comes target (claimGap env) (fun _ w' => target ≠ some .gapClaim
      ∧ (Undigested env → target ≠ some .preclaimCompile) ∧ Underway w') w := by
  refine Comes.bind (comes_refreshCachedGapClaimability hw) ?_
  rintro _ w' rfl
  refine Comes.bind (comes_ensureDiscovered hw) ?_
  rintro _ w' rfl
  refine Comes.bind (comes_requireOperation hw.claim) ?_
  rintro op w' rfl
  refine Comes.step (exec_readRepo env w') ?_
  rw [ho.git]
  refine Comes.step (exec_ofExcept_ok _ _) ?_
  refine Comes.bind (comes_claimContextDigest ho (hw.of_calm ⟨rfl, rfl⟩)) ?_
  rintro digest w₁ ⟨hpreclaim, hw₁⟩
  refine Comes.bind (comes_resolveGapId hw₁) ?_
  intro gapId w₂ hw₂
  refine Comes.getClient (Comes.bind (comes_headers true) ?_)
  intro hs w₃ hcalm
  refine Comes.bind (comes_submit ho (hw₂.of_calm hcalm) rfl (by decide) (by decide)) ?_
  rintro d w₄ ⟨htarget, husable, hw₄⟩
  refine Comes.getClient ?_
  have hheld : ¬ (extractClaimId d = "" ∧ extractClaimRef d = "") :=
    fun hnone => husable.elim (fun h => h hnone.1) (fun h => h hnone.2)
  unfold claimOf
  rw [if_neg hheld]
  exact ⟨htarget, hpreclaim, hw₄⟩

/-- With a claim in the state, a registration takes no other. -/
theorem comes_registrationClaim (ho : Obliging env target) (hclaim : w.live.claimed) :
    Comes target (registrationClaim env) (fun _ w' => Calm w w') w := by
  refine Comes.bind (P := fun _ w' => Calm w w') ?_ ?_
  · refine Comes.getClient (Comes.ite (fun hnone => ?_) (fun _ => Comes.pure ⟨rfl, rfl⟩))
    exact absurd hclaim (fun h => h.elim (fun h => h hnone.1) (fun h => h hnone.2.1))
  · rintro claim w₁ ⟨hclient, hdemo⟩
    refine Comes.ite (fun _ => ?_) (fun _ => Comes.pure ⟨hclient, hdemo⟩)
    refine Comes.bind (comes_currentCanonicalDigest ho) ?_
    rintro digest w₂ ⟨-, hcalm⟩
    exact Comes.pure ⟨hcalm.1.trans hclient, hcalm.2.trans hdemo⟩

theorem comes_currentDeclaration (hw : Underway w) :
    Comes target (currentDeclaration env) (fun _ w' => w' = w) w := by
  refine Comes.getClient ?_
  have hknown := hw.declaration
  cases hd : w.client.repoDeclaration with
  | some declaration => exact Comes.pure rfl
  | none =>
    rw [hd] at hknown
    exact nomatch hknown

theorem comes_legacyPathDigest (op : BoundaryOperation) :
    Comes target (legacyPathDigest env op) (fun _ w' => Calm w w') w :=
  Comes.ite (fun _ => Comes.step (exec_readRepo env w) (Comes.pure ⟨rfl, rfl⟩))
    (fun _ => Comes.pure ⟨rfl, rfl⟩)

theorem comes_registerRepo (ho : Obliging env target) (hw : Underway w) (hclaim : w.live.claimed) :
    Comes target (registerRepo env)
      (fun _ w' => target ≠ some .registration ∧ Underway w') w := by
  refine Comes.bind (comes_ensureDiscovered hw) ?_
  rintro _ w' rfl
  refine Comes.bind (comes_requireOperation (hw.supplied "repo.register" List.mem_cons_self)) ?_
  rintro op w' rfl
  refine Comes.bind (comes_registrationClaim ho hclaim) ?_
  intro claim w₁ hcalm₁
  have hw₁ := hw.of_calm hcalm₁
  refine Comes.bind (comes_currentDeclaration hw₁) ?_
  rintro declaration w₁ rfl
  refine Comes.bind (comes_legacyPathDigest op) ?_
  intro pathDigest w₂ hcalm₂
  refine Comes.getClient (Comes.bind (comes_headers true) ?_)
  intro hs w₃ hcalm₃
  refine Comes.bind (comes_submit ho ((hw₁.of_calm hcalm₂).of_calm hcalm₃) rfl (by decide)
    (by decide)) ?_
  rintro d w₄ ⟨htarget, husable, hw₄⟩
  have hnamed : ¬ extractRegistrationId d = "" := husable
  unfold registrationOf
  rw [if_neg hnamed]
  refine Comes.step (exec_ofExcept_ok _ _) ?_
  refine Comes.bind (comes_writeDemoState ho hw₄ _ _) ?_
  exact fun _ w₅ hw₅ => Comes.pure ⟨htarget, hw₅⟩

theorem comes_compileContext (ho : Obliging env target) (hw : Underway w)
    (hregistration : w.live.registration ≠ "") :
    Comes target (compileContext env)
      (fun _ w' => target ≠ some .contextCompile ∧ Underway w') w := by
  have hcompile := hw.supplied "context.compile" (List.mem_cons_of_mem _ List.mem_cons_self)
  refine Comes.bind (comes_ensureDiscovered hw) ?_
  rintro _ w' rfl
  refine Comes.bind (comes_requireOperation hcompile) ?_
  rintro op w' rfl
  refine Comes.getClient (Comes.bind (P := fun _ v => v = w') ?_ ?_)
  · exact Comes.getClient (Comes.ite (fun hnone => absurd hnone hregistration)
      (fun _ => Comes.pure rfl))
  rintro registrationId w' rfl
  refine Comes.bind (comes_currentCanonicalDigest ho) ?_
  rintro canonical w₁ ⟨-, hcalm₁⟩
  refine Comes.bind (comes_headers true) ?_
  intro hs w₂ hcalm₂
  refine Comes.bind (comes_submit ho ((hw.of_calm hcalm₁).of_calm hcalm₂) rfl (by decide)
    (by decide)) ?_
  rintro d w₃ ⟨htarget, husable, hw₃⟩
  have hnamed : ¬ extractContextId d = "" := husable
  unfold contextOf
  rw [if_neg hnamed]
  refine Comes.step (exec_ofExcept_ok _ _) ?_
  refine Comes.bind (comes_writeDemoState ho hw₃ _ _) ?_
  exact fun _ w₄ hw₄ => Comes.pure ⟨htarget, hw₄⟩

/-- A state file that can be read, or none at all. -/
theorem comes_contextFile (hw : Underway w) (context : Dict) :
    Comes target (contextFile env context) (fun _ w' => w' = w) w := by
  refine Comes.ite (fun _ => ?_) (fun _ => Comes.pure rfl)
  have hfile : ∃ result, exec (catchGoverned (readDemoState env contextState)) w = (.ok result, w) := by
    have hread : exec (readDemoState env contextState) w = _ := exec_bind_ok (exec_get w)
    have hreadable := hw.demo contextState
    cases hd : w.demo contextState with
    | corrupt => exact absurd hd hreadable
    | doc d =>
      rw [hd] at hread
      exact ⟨_, exec_catchGoverned_ok hread⟩
    | absent | notObject =>
      rw [hd] at hread
      exact ⟨_, exec_catchGoverned_governed hread⟩
  obtain ⟨result, hfile⟩ := hfile
  refine Comes.step hfile ?_
  cases result with
  | ok d => exact Comes.pure rfl
  | error message => exact Comes.pure rfl

theorem comes_realizationRef (hw : Underway w) (contextId : String) (context : Dict) :
    Comes target (realizationRef env contextId context) (fun _ w' => w' = w) w := by
  refine Comes.getClient (Comes.ite (fun _ => Comes.pure rfl) (fun _ => ?_))
  refine Comes.bind (comes_contextFile hw context) ?_
  rintro d w' rfl
  exact Comes.pure rfl

theorem comes_realizationRequest (op : BoundaryOperation) (params : Dict) (contextRef : String) :
    Comes target (realizationRequest env op params contextRef)
      (fun r w' => r.site = .submit .realization ∧ Calm w w') w := by
  refine Comes.getClient (Comes.ite (fun _ => Comes.pure ⟨rfl, rfl, rfl⟩) (fun _ => ?_))
  refine Comes.bind (comes_headers true) ?_
  exact fun hs w' hcalm => Comes.pure ⟨rfl, hcalm⟩

/-- A realization goes as far as its request, and on from there with documents of which
    every receipt is valid. -/
theorem comes_runGovernedRealization (ho : Obliging env target) (hw : Underway w)
    (hcontext : w.live.context ≠ "") {P : Dict → Prop}
    (hsubmit : ∀ r v, r.site = .submit .realization → Underway v →
      Comes target (submit env r .realization) (fun d v' => P d ∧ Underway v') v)
    (hvalid : ∀ d, P d → ∀ t candidate, ∃ receipt,
      validReceipt env (env.now t) d candidate = .ok receipt) :
    Comes target (runGovernedRealization env) (fun receipt w' => Underway w' ∧
      ∃ d t candidate, P d ∧ validReceipt env (env.now t) d candidate = .ok receipt) w := by
  refine Comes.bind (comes_ensureDiscovered hw) ?_
  rintro _ w' rfl
  refine Comes.bind (P := fun _ v => v = w') ?_ ?_
  · exact Comes.getClient (Comes.ite (fun hnone => absurd hnone hcontext) (fun _ => Comes.pure rfl))
  rintro ⟨contextId, context⟩ w' rfl
  refine Comes.bind (comes_realizationRef hw contextId context) ?_
  rintro contextRef w' rfl
  refine Comes.step (exec_readRepo env w') (Comes.getClient ?_)
  obtain ⟨invariant, hinvariant⟩ := ho.gate w'.tick w'.client.capabilityId
  show Comes target (ofExcept (runLocalInvariant (env.repo w'.tick) env.repoDir
    w'.client.capabilityId) >>= _) _ _
  rw [hinvariant]
  refine Comes.step (exec_ofExcept_ok _ _) ?_
  have hnext : Underway w'.next := hw.of_calm ⟨rfl, rfl⟩
  refine Comes.bind (comes_persistState ho hnext _) ?_
  intro _ w₁ hw₁
  have hrealize := hw₁.supplied "governed.realize"
    (List.mem_cons_of_mem _ (List.mem_cons_of_mem _ List.mem_cons_self))
  refine Comes.bind (comes_requireOperation hrealize) ?_
  rintro op w₁ rfl
  refine Comes.bind (comes_realizationRequest op _ contextRef) ?_
  rintro request w₂ ⟨hsite, hcalm⟩
  refine Comes.bind (hsubmit request w₂ hsite (hw₁.of_calm hcalm)) ?_
  rintro d w₃ ⟨hd, hw₃⟩
  obtain ⟨receipt, hreceipt⟩ := hvalid d hd w₃.tick (candidateDigest env invariant contextId)
  have hread : exec (receiptOf env d (candidateDigest env invariant contextId)) w₃
      = (.ok receipt, w₃.next) := by
    unfold receiptOf
    rw [exec_bind_ok (exec_nextTick w₃), hreceipt]
    rfl
  have hread₃ : Underway w₃.next := hw₃.of_calm ⟨rfl, rfl⟩
  refine Comes.step hread (Comes.bind (comes_writeDemoState ho hread₃ _ _) ?_)
  exact fun _ w₄ hw₄ => Comes.pure ⟨hw₄, d, _, _, hd, hreceipt⟩

end Methods

/-! ## The stages -/

/-- From this progress a stage is still to send the action. -/
def Due (env : Env) (p : Progress) : Action → Prop
  | .gapDiscovery => False
  | .gapClaim => ¬ p.claimed
  | .preclaimCompile => ¬ p.claimed ∧ Undigested env
  | .registration => p.registration = ""
  | .contextCompile => p.context = ""
  | .realization => ¬ p.realized

section Stages

variable {env : Env} {target : Option Action} {w : World}

theorem comes_gapStage (ho : Obliging env target) (hw : Underway w) :
    Comes target (gapStage env) (fun _ w' => Underway w') w := by
  refine Comes.getClient (Comes.ite (fun _ => Comes.pure hw) (fun _ => ?_))
  refine Comes.bind (P := fun result w' => (∃ gapId, result = .ok gapId) ∧ Underway w') ?_ ?_
  · exact Comes.catchGoverned ((comes_resolveGapId hw).mono (fun gapId _ h => ⟨⟨gapId, rfl⟩, h⟩))
  · rintro _ w₁ ⟨⟨gapId, rfl⟩, hw₁⟩
    exact Comes.getClient (comes_persistState ho hw₁ _)

theorem comes_claimStage (ho : Obliging env target) (hw : Underway w) :
    Comes target (claimStage env) (fun _ w' => (¬ w.live.claimed → target ≠ some .gapClaim
      ∧ (Undigested env → target ≠ some .preclaimCompile)) ∧ Underway w') w := by
  refine Comes.getClient (Comes.ite (fun hset => ?_) (fun _ => ?_))
  · rw [truthy_claim, decide_eq_true_iff] at hset
    exact Comes.pure ⟨fun hnone => absurd hset hnone, hw⟩
  · refine Comes.bind (comes_claimGap ho hw) ?_
    rintro claim w₁ ⟨htarget, hpreclaim, hw₁⟩
    exact (comes_persistState ho hw₁ _).mono (fun _ _ h => ⟨fun _ => ⟨htarget, hpreclaim⟩, h⟩)

theorem comes_registrationStage (ho : Obliging env target) (hw : Underway w)
    (hclaim : w.live.claimed) :
    Comes target (registrationStage env)
      (fun _ w' => (w.live.registration = "" → target ≠ some .registration) ∧ Underway w') w := by
  refine Comes.getClient (Comes.ite (fun hset => ?_) (fun _ => ?_))
  · rw [truthy_registration, decide_eq_true_iff] at hset
    exact Comes.pure ⟨fun hnone => absurd hnone hset, hw⟩
  · refine Comes.bind (comes_registerRepo ho hw hclaim) ?_
    rintro registration w₁ ⟨htarget, hw₁⟩
    exact (comes_persistState ho hw₁ _).mono (fun _ _ h => ⟨fun _ => htarget, h⟩)

theorem comes_compileStage (ho : Obliging env target) (hw : Underway w)
    (hregistration : w.live.registration ≠ "") :
    Comes target (compileStage env)
      (fun _ w' => (w.live.context = "" → target ≠ some .contextCompile) ∧ Underway w') w := by
  refine Comes.getClient (Comes.ite (fun hset => ?_) (fun _ => ?_))
  · rw [truthy_context, decide_eq_true_iff] at hset
    exact Comes.pure ⟨fun hnone => absurd hnone hset, hw⟩
  · refine Comes.bind (comes_compileContext ho hw hregistration) ?_
    rintro context w₁ ⟨htarget, hw₁⟩
    exact (comes_persistState ho hw₁ _).mono (fun _ _ h => ⟨fun _ => htarget, h⟩)

/-- The realization stage of a state without a final receipt ends at its target. -/
theorem comes_realizeStage_target (ho : Obliging env (some .realization)) (hw : Underway w)
    (hcontext : w.live.context ≠ "") (hopen : ¬ w.live.realized) :
    Comes (some .realization) (realizeStage env) (fun _ _ => False) w := by
  refine Comes.getClient (Comes.ite (fun hset => ?_) (fun _ => ?_))
  · rw [isRealized_eq, decide_eq_true_iff] at hset
    exact absurd hset hopen
  · have hdies : Comes (some .realization) (runGovernedRealization env) (fun _ w' => Underway w' ∧
        ∃ d t candidate, False ∧ validReceipt env (env.now t) d candidate = .ok _) w :=
      comes_runGovernedRealization ho hw hcontext
        (fun r v hsite _ => comes_target ho hsite rfl) (fun _ hno => hno.elim)
    refine Comes.bind hdies ?_
    rintro _ _ ⟨-, _, _, _, hno, -⟩
    exact hno.elim

/-- The stages send an action that is due, against a server that obliges up to there. -/
theorem comes_stages {action : Action} (ho : Obliging env (some action)) (hw : Underway w)
    (hrecord : w.live.record ≠ "") (hdue : Due env w.live action) :
    Comes (some action) (stages env) (fun _ _ => False) w := by
  have hL : ∀ v, Entered Lingering.always v := fun v _ => .inr (.inl trivial)
  refine Comes.bind ((comes_gapStage ho hw).follows (follows_gapStage (hL w))) ?_
  rintro _ w₁ ⟨hw₁, hp₁, h₁⟩
  have hr₁ : w₁.live.record ≠ "" := hp₁.hasRecord (by decide) hrecord
  refine Comes.bind ((comes_claimStage ho hw₁).follows (follows_claimStage hr₁ (hL w₁))) ?_
  rintro _ w₂ ⟨⟨hclaim, hw₂⟩, hp₂, h₂⟩
  have hr₂ : w₂.live.record ≠ "" := hp₂.hasRecord (by decide) hr₁
  have hgap₂ : w₂.live.gap ≠ "" := hp₂.frame.hasGap (by decide) h₁.held
  refine Comes.bind ((comes_registrationStage ho hw₂ h₂.held).follows
    (follows_registrationStage hr₂ hgap₂ h₂.held (hL w₂))) ?_
  rintro _ w₃ ⟨⟨hregistration, hw₃⟩, hp₃, h₃⟩
  have hr₃ : w₃.live.record ≠ "" := hp₃.hasRecord (by decide) hr₂
  have hgap₃ : w₃.live.gap ≠ "" := hp₃.frame.hasGap (by decide) hgap₂
  have hclaim₃ : w₃.live.claimed := hp₃.frame.claimed (by decide) h₂.held
  refine Comes.bind ((comes_compileStage ho hw₃ h₃.held).follows
    (follows_compileStage hr₃ hgap₃ hclaim₃ h₃.held (hL w₃))) ?_
  rintro _ w₄ ⟨⟨hcompile, hw₄⟩, hp₄, h₄⟩
  -- the stages before that of the action have left its key as it was
  have hunclaimed : ¬ w.live.claimed → ¬ w₁.live.claimed := by
    obtain ⟨hid, href⟩ := hp₁.frame.claim (Nat.le_refl 1)
    intro hnone
    unfold Progress.claimed
    rw [hid, href]
    exact hnone
  cases action with
  | gapDiscovery => exact hdue.elim
  | gapClaim => exact absurd rfl (hclaim (hunclaimed hdue)).1
  | preclaimCompile => exact absurd rfl ((hclaim (hunclaimed hdue.1)).2 hdue.2)
  | registration =>
    have hkept : w₂.live.registration = w.live.registration :=
      (hp₂.frame.registration (Nat.le_refl 2)).trans (hp₁.frame.registration (by decide))
    exact absurd rfl (hregistration (hkept.trans hdue))
  | contextCompile =>
    have hkept : w₃.live.context = w.live.context := (hp₃.frame.context (Nat.le_refl 3)).trans
      ((hp₂.frame.context (by decide)).trans (hp₁.frame.context (by decide)))
    exact absurd rfl (hcompile (hkept.trans hdue))
  | realization =>
    have hpath : Path env Lingering.always 4 w w₄ := (hp₁.mono (by decide)).trans
      ((hp₂.mono (by decide)).trans ((hp₃.mono (by decide)).trans hp₄))
    refine comes_realizeStage_target ho hw₄ h₄.held (fun hfinal => hdue ⟨?_, ?_⟩)
    · rw [← hpath.frame.receipt (Nat.le_refl 4)]
      exact hfinal.1
    · by_contra hopen
      have hstays := hpath.frame.open_ (Nat.le_refl 4) (Bool.not_eq_true _ ▸ hopen)
      exact nomatch hstays.symm.trans hfinal.2

end Stages

end KeyholeFlow
