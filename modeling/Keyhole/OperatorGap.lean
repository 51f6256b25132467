import Keyhole.PendingResume
import Keyhole.FinalReceipt

/-!
# A gap given by the operator

A client built with a gap id claims that gap, whatever else is offered.  A saved state may
hold a claim on another gap already: nothing compares the two, and the flow goes on with
the saved one, up to the result.

* `Honours`: the result names the operator's gap, and so does every request for a gap;
* `Yields`: what a saved state and a server leave to the operator;
* `Yields.rejoined`: when a saved run was asked for, the stages start with `Yielding`. -/

namespace KeyholeFlow

open KeyholeJson KeyholeRedaction KeyholeEnvelope KeyholeGaps KeyholeOperations KeyholeRepo
  EffectProgram

/-! ## The property -/

/-- The places whose requests are for a gap: those of `gaps.claim`, `repo.register` and
    `context.compile`. -/
def Site.forGap : Site → Bool
  | .submit .gapClaim | .submit .registration => true
  | .submit .preclaimCompile | .submit .contextCompile => true
  | _ => false

/-- Every request for a gap between the two worlds names this one. -/
def Names (gapId : String) (w w' : World) : Prop :=
  ∃ newer, w'.log = newer ++ w.log ∧
    ∀ name r, Event.sent name r ∈ newer → r.site.forGap = true → r.gap = .str gapId

/-- The gap a result shows. -/
def resultGap (result : Dict) : String := strOr (Dict.get result "resolved_gap_id")

/-- A call from `w` that returned has honoured the gap. -/
structure Honours (gapId : String) (w : World) (result : Dict) (w' : World) : Prop where
  resolved : resultGap result = gapId
  named : Names gapId w w'

/-- The server names a canonical digest whenever it is asked for one. -/
def Digested (env : Env) : Prop :=
  ∀ t r, r.site = .canonicalStatus → ∃ resp d, env.answer t r = .response resp ∧ Gives resp d
    ∧ extractCurrentCanonicalDigest d ≠ ""

/-- Every capabilities document of the server offers `repo.register` as a run. -/
def RegistersByRun (env : Env) : Prop :=
  ∀ t r resp raw operations op, r.site = .capabilities → env.answer t r = .response resp →
    resp.json = some (.obj raw) → extractOperations raw = some operations →
      operations.lookup "repo.register" = some op → op.runType ≠ ""

/-- What is known of a server. -/
structure Service where
  digest : Bool
  runs : Bool
  deriving DecidableEq, Repr

/-- The environment's server is one of these. -/
structure Service.Serves (s : Service) (env : Env) : Prop where
  digest : s.digest = true → Digested env
  runs : s.runs = true → RegistersByRun env

/-- With this server and this saved state every call that returns honours the gap. -/
def Honoured (s : Service) (record : RunRecord) (gapId : String) : Prop :=
  ∀ env, s.Serves env → ∀ w : World, w.latest = .saved record →
    w.client.operatorGapId = gapId → ∀ dryRun result w',
      exec (runGovernedRepoFlow env dryRun) w = (.ok result, w') → Honours gapId w result w'

/-! ## The condition -/

/-- The state names a run of the action. -/
def Progress.waitsFor (p : Progress) (action : Action) : Prop :=
  p.namesRun ∧ p.step = stateStep action

instance (p : Progress) (action : Action) : Decidable (p.waitsFor action) := by
  unfold Progress.waitsFor
  infer_instance

/-- The state names no other gap. -/
def Progress.freeFor (p : Progress) (gapId : String) : Prop := p.gap = "" ∨ p.gap = gapId

instance (p : Progress) (gapId : String) : Decidable (p.freeFor gapId) := by
  unfold Progress.freeFor
  infer_instance

/-- What the saved state and the server leave to the operator. -/
structure Yields (s : Service) (p : Progress) (gapId : String) : Prop where
  /-- a claim that is held, or is waited for, is not on another gap -/
  claimed : p.claimed ∨ p.waitsFor .gapClaim → p.freeFor gapId
  /-- no lookup can bring another gap to a claim that is held -/
  lookup : p.claimed → ¬ p.waitsFor .gapDiscovery
  /-- no context is compiled before a claim: there the story id stands for the gap -/
  preclaim : s.digest = true ∨ (p.claimed ∧ ¬ p.waitsFor .gapClaim)
  /-- a registration is a run: the other request names no gap -/
  registration : s.runs = true ∨ (p.registration ≠ "" ∧ ¬ p.waitsFor .registration)

/-! ## What is sent on a path -/

section Sent

variable {env : Env} {L : Lingering} {n : Nat} {w w' : World} {gapId : String}

theorem Names.refl (w : World) : Names gapId w w := ⟨[], rfl, nofun⟩

theorem Names.trans {a b c : World} (h : Names gapId a b) (h' : Names gapId b c) :
    Names gapId a c := by
  obtain ⟨first, hfirst, hnamed⟩ := h
  obtain ⟨second, hsecond, hnamed'⟩ := h'
  refine ⟨second ++ first, by rw [hsecond, hfirst, List.append_assoc], ?_⟩
  intro name r hmem hgap
  rcases List.mem_append.mp hmem with hlate | hearly
  · exact hnamed' name r hlate hgap
  · exact hnamed name r hearly hgap

/-- A request for a gap is for an action. -/
theorem site_of_forGap {site : Site} (h : site.forGap = true) :
    ∃ action, site = .submit action ∧ 2 ≤ action.level ∧ action.level ≤ 4 := by
  cases site with
  | submit action =>
    cases action with
    | gapClaim | registration | preclaimCompile | contextCompile =>
      exact ⟨_, rfl, by decide, by decide⟩
    | gapDiscovery | realization => exact nomatch h
  | _ => exact nomatch h

/-- Where no action was requested, no request was for a gap. -/
theorem names_of_submitted (hext : ∃ newer, w'.log = newer ++ w.log)
    (h : submitted w'.log = submitted w.log) : Names gapId w w' := by
  obtain ⟨newer, hlog⟩ := hext
  refine ⟨newer, hlog, fun name r hmem hgap => ?_⟩
  obtain ⟨action, hsite, -⟩ := site_of_forGap hgap
  have hnone : submitted newer = [] := by
    rw [hlog, submitted_append] at h
    exact List.append_left_eq_self.mp h
  have hsent := mem_submitted hmem hsite
  rw [hnone] at hsent
  exact nomatch hsent

/-- Every request on a path was licensed in a world where the invariant holds. -/
theorem Path.sent_licensed {I : World → Prop}
    (hkeep : ∀ k v v', k ≤ n → Step env L k v v' → I v → I v') (h : Path env L n w w')
    (hw : I w) : I w' ∧ ∃ newer, w'.log = newer ++ w.log ∧
      ∀ name r, Event.sent name r ∈ newer → ∃ v, I v ∧ Licensed v r ∧ r.site.level ≤ n := by
  refine Path.invariant (I := fun v => I v ∧ ∃ newer, v.log = newer ++ w.log ∧
    ∀ name r, Event.sent name r ∈ newer → ∃ u, I u ∧ Licensed u r ∧ r.site.level ≤ n) ?_ h
    ⟨hw, [], rfl, nofun⟩
  rintro k v v' hk hs ⟨hv, newer, hlog, hsent⟩
  refine ⟨hkeep k v v' hk hs hv, ?_⟩
  cases hs with
  | silent heq | named _ _ heq | opened heq => exact ⟨newer, heq.trans hlog, hsent⟩
  | received r resp _ _ heq =>
    refine ⟨.received r resp :: newer, by rw [heq, hlog, List.cons_append], ?_⟩
    intro name r' hmem
    rcases List.mem_cons.mp hmem with hthis | hold
    · exact nomatch hthis
    · exact hsent name r' hold
  | persisted _ _ s _ _ _ heq =>
    refine ⟨.persisted s :: newer, by rw [heq, hlog, List.cons_append], ?_⟩
    intro name r' hmem
    rcases List.mem_cons.mp hmem with hthis | hold
    · exact nomatch hthis
    · exact hsent name r' hold
  | sent r licence heq =>
    refine ⟨.sent v.record r :: newer, by rw [heq, hlog, List.cons_append], ?_⟩
    intro name r' hmem
    rcases List.mem_cons.mp hmem with hthis | hold
    · obtain ⟨-, rfl⟩ := Event.sent.inj hthis
      exact ⟨v, hv, licence, hk⟩
    · exact hsent name r' hold

/-- The operator's gap is part of the client, whatever it does. -/
theorem Step.operator {k : Nat} (h : Step env L k w w') :
    w'.client.operatorGapId = w.client.operatorGapId := by
  cases h with
  | silent _ _ _ keeps => exact keeps.operator
  | named _ _ _ _ _ _ keeps => exact keeps.operator
  | sent _ _ _ _ _ keeps => exact keeps.operator
  | received _ _ _ _ _ _ _ keeps => exact keeps.operator
  | persisted _ _ _ _ _ _ _ _ _ keeps => exact keeps.operator
  | opened _ _ _ operator => exact operator

theorem Path.operator (h : Path env L n w w') :
    w'.client.operatorGapId = w.client.operatorGapId :=
  Path.invariant (I := fun v => v.client.operatorGapId = w.client.operatorGapId)
    (fun _ _ _ _ hs hv => hs.operator.trans hv) h rfl

/-- The stretches below the level of a claim request nothing for a gap. -/
theorem Path.names_below (h : Path env L 1 w w') : Names gapId w w' := by
  obtain ⟨-, newer, hlog, hsent⟩ := h.sent_licensed (I := fun _ => True)
    (fun _ _ _ _ _ _ => trivial) trivial
  refine ⟨newer, hlog, fun name r hmem hgap => ?_⟩
  obtain ⟨action, hsite, hlow, -⟩ := site_of_forGap hgap
  obtain ⟨-, -, -, hlevel⟩ := hsent name r hmem
  rw [hsite] at hlevel
  exact absurd hlevel (Nat.not_le_of_lt hlow)

end Sent

/-! ## Up to the stages -/

/-- The flow has come this far without a request for an action. -/
structure Prepares (env : Env) (w w' : World) : Prop where
  path : Path env Lingering.always 6 w w'
  submitted : submitted w'.log = submitted w.log

theorem Prepares.trans {env : Env} {a b c : World} (h : Prepares env a b)
    (h' : Prepares env b c) : Prepares env a c :=
  ⟨h.path.trans h'.path, h'.submitted.trans h.submitted⟩

theorem Prepares.names {env : Env} {w w' : World} {gapId : String} (h : Prepares env w w') :
    Names gapId w w' :=
  names_of_submitted h.path.extends h.submitted

/-- The saved progress, opened as it is or declared anew. -/
def Reopened (p q : Progress) : Prop :=
  Redeclared p q ∨ Redeclared { p with terminal := false } q

/-- The recovery leaves the progress, or reads an answer to the saved run into it. -/
def Rejoined (p q : Progress) : Prop := q = p ∨ p.pending ∧ ∃ d, Recovered p d q

section Opening

variable {env : Env} {w : World}

/-- What a write that returns has done. -/
theorem wp_persistState {updates : Dict} {change : Progress → Progress} (h : Amounts updates change)
    (hrecord : (change w.live).record ≠ "") :
    wp (persistState env updates)
      (fun _ w' => w'.live = change w.live ∧ submitted w'.log = submitted w.log)
      (fun _ _ => True) w := by
  have hmerged : progress (w.merged env updates).state = change w.live := by
    rw [progress_merged env h w]
    exact named_self hrecord _
  unfold wp
  rw [exec_persistState]
  cases env.write w.tick with
  | done => exact ⟨hmerged, rfl⟩
  | lost f | torn f | late f => trivial

/-- What is written down before an error does not return. -/
theorem wp_persist_raise (updates : Dict) (message : String) {α : Type} {Q : α → World → Prop} :
    wp (persistState env updates >>= fun _ => raise message) Q (fun _ _ => True) w := by
  refine wp_bind.mpr ?_
  unfold wp
  rw [exec_persistState]
  cases env.write w.tick with
  | _ => trivial

/-- An inspection that persists opens the state again. -/
theorem reopens_inspectRepo (hrecord : w.live.record ≠ "") :
    wp (inspectRepo env true)
      (fun _ w' => Redeclared { w.live with terminal := false } w'.live
        ∧ submitted w'.log = submitted w.log) (fun _ _ => True) w := by
  refine wp_bind.mpr (wp_of_exec (exec_getClient w)
    (wp_bind.mpr (wp_of_exec (exec_readRepo env w) (wp_bind.mpr ?_))))
  cases readRepoDeclaration (env.repo w.tick) env.repoName w.client.storyId
      w.client.capabilityId w.client.repoClass with
  | error e => trivial
  | ok declaration =>
    refine wp_step (exec_modifyClient _ _) (wp_bind.mpr ?_)
    refine wp_mono (wp_persistState (amounts_inspect env declaration) hrecord) ?_
      (fun _ _ _ => trivial)
    rintro _ w₁ ⟨hlive, hlog⟩
    refine ⟨?_, hlog⟩
    show Redeclared { w.live with terminal := false } w₁.live
    rw [hlive]
    rfl

theorem reopens_openRun {record : RunRecord} (hlatest : w.latest = .saved record) :
    wp (openRun env true)
      (fun _ w' => Reopened (progress record.state) w'.live
        ∧ submitted w'.log = submitted w.log) (fun _ _ => True) w := by
  rcases loadLastState_cases env hlatest with
    ⟨declaration, w₁, -, hload, hw₁, -⟩ | ⟨e, w₁, -, hload, hw₁, -⟩
  · have hlive : w₁.live = progress record.state := congrArg progress hw₁.state
    refine wp_step (exec_catchGoverned_ok hload) ⟨.inl ?_, congrArg submitted hw₁.log⟩
    rw [hlive]
    exact .refl _
  · have hlive : w₁.live = progress record.state := congrArg progress hw₁.state
    cases e with
    | fault f =>
      refine wp_bind.mpr ?_
      unfold wp
      rw [exec_catchGoverned_fault hload]
      trivial
    | governed message =>
      refine wp_step (exec_catchGoverned_governed hload) (wp_bind.mpr ?_)
      have hrecord : w₁.live.record ≠ "" := by
        rw [hlive]
        exact record.named
      refine wp_mono (reopens_inspectRepo hrecord) ?_ (fun _ _ _ => trivial)
      rintro _ w₂ ⟨hopened, hlog⟩
      rw [hlive] at hopened
      exact ⟨.inr hopened, hlog.trans (congrArg submitted hw₁.log)⟩

/-! ### Reading the saved run -/

theorem Recovered.record {p q : Progress} {d : Dict} (h : Recovered p d q) :
    q.record = p.record := by
  cases h with
  | _ => rfl

/-- An update read from an answer. -/
theorem rejoins_updateStateFromResult (hrecord : w.live.record ≠ "") (d : Dict) :
    wp (updateStateFromResult env d)
      (fun _ w' => Recovered w.live d w'.live ∧ submitted w'.log = submitted w.log)
      (fun _ _ => True) w := by
  refine wp_step (exec_getClient w) ?_
  have hread : Follows env Lingering.always 0 (recoveredUpdates env w.live.step d)
    (fun updates w' => w'.log = w.log ∧ SameButGap w w' ∧ w'.live = w.live ∧
      RecoversTo w.live d updates) (fun _ _ => True) w := follows_recoveredUpdates d
  refine wp_bind.mpr (wp_mono hread ?_ (fun _ _ _ => trivial))
  rintro updates w₁ ⟨-, hlog, -, hlive, change, hamounts, hrecovered, -⟩
  have hnamed : (change w₁.live).record ≠ "" := by
    rw [hlive, hrecovered.record]
    exact hrecord
  refine wp_mono (wp_persistState hamounts hnamed) ?_ (fun _ _ _ => trivial)
  rintro _ w₂ ⟨hlive₂, hlog₂⟩
  refine ⟨?_, hlog₂.trans (congrArg submitted hlog)⟩
  rw [hlive₂, hlive]
  exact hrecovered

theorem rejoins_savedRunAnswer (id url : String) {r : Request} (hsite : r.site.action = none) :
    wp (savedRunAnswer env id url r)
      (fun _ w' => w'.client = w.client ∧ submitted w'.log = submitted w.log)
      (fun _ _ => True) w := by
  have hlog : submitted (.sent w.record r :: w.log) = submitted w.log := submitted_asked hsite
  refine wp_bind.mpr ?_
  unfold wp
  rw [exec_http]
  cases env.answer w.tick r with
  | fault f => trivial
  | response resp =>
    show wp _ _ _ _
    by_cases hnone : resp.statusCode = 404
    · rw [if_pos hnone]
      exact wp_persist_raise _ _
    · rw [if_neg hnone]
      cases checkAnswer resp "governed run status" with
      | error e => trivial
      | ok d => exact ⟨rfl, hlog⟩

theorem rejoins_pollSavedPaths (hw : w.live.pending) (hrecord : w.live.record ≠ "")
    (id url : String) (paths : List String) (lastError : String) :
    wp (pollSavedPaths env id url paths lastError)
      (fun _ w' => Rejoined w.live w'.live ∧ submitted w'.log = submitted w.log)
      (fun _ _ => True) w := by
  induction paths generalizing w lastError with
  | nil =>
    refine wp_mono (wp_persistState (amounts_pending _) hrecord) ?_ (fun _ _ _ => trivial)
    rintro _ w₁ ⟨hlive, hlog⟩
    refine ⟨.inl ?_, hlog⟩
    rw [hlive, ← hw.2]
  | cons path rest ih =>
    refine wp_step (exec_getClient w) (wp_bind.mpr
      (wp_mono (rejoins_savedRunAnswer id url rfl) ?_ (fun _ _ _ => trivial)))
    rintro d w₁ ⟨hclient, hlog⟩
    have hlive : w₁.live = w.live := live_of_client hclient
    have hw₁ : w₁.live.pending := by
      rw [hlive]
      exact hw
    have hrecord₁ : w₁.live.record ≠ "" := by
      rw [hlive]
      exact hrecord
    by_cases hfin : isFinished d = true
    · rw [if_pos hfin]
      unfold finishSavedRun
      by_cases hfailed : isFailedRun d = true
      · rw [if_pos hfailed]
        exact wp_persist_raise _ _
      · rw [if_neg hfailed]
        refine wp_mono (rejoins_updateStateFromResult hrecord₁ d) ?_ (fun _ _ _ => trivial)
        rintro _ w₂ ⟨hrecovered, hlog₂⟩
        rw [hlive] at hrecovered
        exact ⟨.inr ⟨hw, d, hrecovered⟩, hlog₂.trans hlog⟩
    · rw [if_neg hfin]
      refine wp_mono (ih hw₁ hrecord₁ _) ?_ (fun _ _ _ => trivial)
      rintro _ w₂ ⟨hrejoined, hlog₂⟩
      rw [hlive] at hrejoined
      exact ⟨hrejoined, hlog₂.trans hlog⟩

theorem rejoins_recoverPendingRun (hrecord : w.live.record ≠ "") :
    wp (recoverPendingRun env)
      (fun _ w' => Rejoined w.live w'.live ∧ submitted w'.log = submitted w.log)
      (fun _ _ => True) w := by
  by_cases hw : w.live.pending
  · unfold wp
    rw [exec_recoverPendingRun_pending hw]
    exact rejoins_pollSavedPaths hw hrecord _ _ _ _
  · exact wp_of_exec (exec_recoverPendingRun_idle hw) ⟨.inl rfl, rfl⟩

end Opening

/-! ## What is left when the recovery is over -/

/-- The condition on the progress the stages start from. -/
structure Yielding (s : Service) (p : Progress) (gapId : String) : Prop where
  claimed : p.claimed → p.freeFor gapId
  preclaim : s.digest = true ∨ p.claimed
  registration : s.runs = true ∨ p.registration ≠ ""

section Condition

variable {s : Service} {p q : Progress} {gapId : String}

/-- The condition is about the gap, the results and the run of the state. -/
theorem Yields.reopened (h : Yields s p gapId) (hopened : Reopened p q) : Yields s q gapId := by
  rcases hopened with hsame | hsame
  · unfold Redeclared at hsame
    rw [hsame]
    exact ⟨h.claimed, h.lookup, h.preclaim, h.registration⟩
  · unfold Redeclared at hsame
    rw [hsame]
    exact ⟨h.claimed, h.lookup, h.preclaim, h.registration⟩

/-- One case for each step a saved run may be of. -/
theorem Yields.rejoined (h : Yields s p gapId) (hrejoined : Rejoined p q) :
    Yielding s q gapId := by
  rcases hrejoined with rfl | ⟨hpending, d, hrecovered⟩
  · refine ⟨fun hclaimed => h.claimed (.inl hclaimed), ?_, ?_⟩
    · exact h.preclaim.imp id And.left
    · exact h.registration.imp id And.left
  cases hrecovered with
  | gap g hg hstep =>
    have hnone : ¬ p.claimed := fun hclaimed => h.lookup hclaimed ⟨hpending.1, hstep⟩
    refine ⟨fun hclaimed => absurd hclaimed hnone, ?_, ?_⟩
    · exact h.preclaim.imp id And.left
    · exact h.registration.imp id And.left
  | claim hstep =>
    have hwaits : p.waitsFor .gapClaim := ⟨hpending.1, hstep⟩
    refine ⟨fun _ => h.claimed (.inr hwaits), ?_, ?_⟩
    · exact h.preclaim.imp id (fun hheld => absurd hwaits hheld.2)
    · exact h.registration.imp id And.left
  | registration hstep =>
    have hwaits : p.waitsFor .registration := ⟨hpending.1, hstep⟩
    refine ⟨fun hclaimed => h.claimed (.inl hclaimed), ?_, ?_⟩
    · exact h.preclaim.imp id And.left
    · exact h.registration.imp id (fun hheld => absurd hwaits hheld.2)
  | context | receipt | other =>
    refine ⟨fun hclaimed => h.claimed (.inl hclaimed), ?_, ?_⟩
    · exact h.preclaim.imp id And.left
    · exact h.registration.imp id And.left

end Condition

end KeyholeFlow
