import Keyhole.FlowRuns

/-!
# Opening a saved state

What a command does before its first action: it loads the saved state, reads the
repository and asks for the capabilities.

* `Asks`: nothing is requested but questions, and state and disk stay;
* `opens_openRun`: over one content of the repository, a command that gets past its opening
  works on the saved state, as it is on disk. -/

namespace KeyholeFlow

open KeyholeJson KeyholeRedaction KeyholeEnvelope KeyholeGaps KeyholeOperations KeyholeRepo
  EffectProgram

variable {α β : Type} {env : Env} {w : World}

theorem wp_of_exec {m : Flow α} {Q : α → World → Prop} {E : Err → World → Prop} {a : α}
    {w' : World} (hm : exec m w = (.ok a, w')) (h : Q a w') : wp m Q E w := by
  unfold wp
  rw [hm]
  exact h

/-- The first of two programs is known to return. -/
theorem wp_step {m : Flow α} {f : α → Flow β} {Q : β → World → Prop} {E : Err → World → Prop}
    {a : α} {w' : World} (hm : exec m w = (.ok a, w')) (h : wp (f a) Q E w') :
    wp (m >>= f) Q E w :=
  wp_bind.mpr (wp_of_exec hm h)

/-! ## Questions -/

/-- Questions were asked at most: the state, in memory and on disk, is as it was, and no
    action was requested. -/
structure Asks (w w' : World) : Prop where
  live : w'.live = w.live
  latest : w'.latest = w.latest
  demo : w'.demo = w.demo
  declaration : w'.client.repoDeclaration = w.client.repoDeclaration
  submitted : submitted w'.log = submitted w.log

theorem Asks.refl (w : World) : Asks w w := ⟨rfl, rfl, rfl, rfl, rfl⟩

theorem Asks.trans {a b c : World} (h : Asks a b) (h' : Asks b c) : Asks a c :=
  ⟨h'.live.trans h.live, h'.latest.trans h.latest, h'.demo.trans h.demo,
    h'.declaration.trans h.declaration, h'.submitted.trans h.submitted⟩

/-- The program asks questions at most, whether it returns or stops. -/
abbrev OnlyAsks (m : Flow α) (w : World) : Prop :=
  wp m (fun _ w' => Asks w w') (fun _ w' => Asks w w') w

theorem OnlyAsks.bind {m : Flow α} {f : α → Flow β} (hm : OnlyAsks m w)
    (hf : ∀ a w', OnlyAsks (f a) w') : OnlyAsks (m >>= f) w := by
  refine wp_bind.mpr (wp_mono hm (fun a w' hw' => ?_) (fun _ _ h => h))
  exact wp_mono (hf a w') (fun _ _ h => hw'.trans h) (fun _ _ h => hw'.trans h)

theorem onlyAsks_ofExcept (x : Except Err α) : OnlyAsks (ofExcept x) w := by
  cases x with
  | ok a => exact Asks.refl w
  | error e => exact Asks.refl w

/-- A request that is for no action. -/
theorem onlyAsks_http {r : Request} (hsite : r.site.action = none) : OnlyAsks (http env r) w := by
  have hlog : submitted (.sent w.record r :: w.log) = submitted w.log := submitted_asked hsite
  unfold OnlyAsks wp
  rw [exec_http]
  cases env.answer w.tick r with
  | fault f => exact ⟨rfl, rfl, rfl, rfl, hlog⟩
  | response resp => exact ⟨rfl, rfl, rfl, rfl, hlog⟩

theorem onlyAsks_requireAll (names : List String) : OnlyAsks (requireAll names) w := by
  unfold OnlyAsks wp requireAll
  rw [exec_bind_ok (exec_getClient w)]
  cases requireOperations w.client.operations names with
  | none => exact Asks.refl w
  | some message => exact Asks.refl w

theorem onlyAsks_checkOperations (data : Dict) : OnlyAsks (checkOperations data) w := by
  refine OnlyAsks.bind ?_ (fun _ _ => onlyAsks_requireAll _)
  cases requiresActiveClaim data with
  | true => exact onlyAsks_requireAll _
  | false => exact Asks.refl w

theorem onlyAsks_discover : OnlyAsks (discover env) w := by
  refine wp_step (exec_getClient w) (OnlyAsks.bind (onlyAsks_http rfl) (fun resp _ => ?_))
  refine OnlyAsks.bind (onlyAsks_ofExcept _) (fun _ _ => ?_)
  refine OnlyAsks.bind (onlyAsks_ofExcept _) (fun raw v => ?_)
  refine OnlyAsks.bind (m := modifyClient _) (Asks.mk rfl rfl rfl rfl rfl) (fun _ v₁ => ?_)
  cases extractOperations raw with
  | none => exact Asks.refl v₁
  | some operations =>
    exact OnlyAsks.bind (m := modifyClient _) (Asks.mk rfl rfl rfl rfl rfl)
      (fun _ _ => onlyAsks_checkOperations _)

/-! ## Loading -/

/-- The saved state is the one in memory; log and disk are as they were. -/
structure Reloaded (record : RunRecord) (w w' : World) : Prop where
  state : w'.client.currentState = record.state
  latest : w'.latest = w.latest
  log : w'.log = w.log
  demo : w'.demo = w.demo
  operator : w'.client.operatorGapId = w.client.operatorGapId
  verified : w.client.gapIdClaimableVerified = false → w'.client.gapIdClaimableVerified = false
  resolved : (progress record.state).gap = "" → w'.client.resolvedGapId = w.client.resolvedGapId

/-- The hints a load gives the reading of the repository. -/
def loadHints (record : RunRecord) (c : Client) : String × String × String :=
  (strOr (orElse (record.state.get "story_id") (.str c.storyId)),
    strOr (orElse (record.state.get "capability_id") (.str c.capabilityId)),
    strOr (orElse (record.state.get "repo_class") (.str c.repoClass)))

/-- What the client reads of the repository with the hints of a load. -/
def loadReading (env : Env) (record : RunRecord) (w : World) : Except Err RepoDeclaration :=
  let (story, cap, cls) := loadHints record w.client
  readRepoDeclaration (env.repo w.tick) env.repoName story cap cls

/-- What a load does after the state was read. -/
theorem exec_loadLastState (env : Env) {record : RunRecord} (hlatest : w.latest = .saved record) :
    exec (loadLastState env) w = exec (do
      let declaration ← ofExcept (loadReading env record w)
      modifyClient (fun c => c.withDeclaration declaration)
      onlyIf (truthy (record.state.get "resolved_gap_id")) (modifyClient (fun c => { c with
        resolvedGapId := pyStr (record.state.get "resolved_gap_id")
        gapIdSource := strOr (record.state.get "gap_id_source")
        gapIdClaimableVerified := false }))
      return record.state)
      { w.next with client := { w.client with currentState := record.state } } := by
  have hload : exec (loadLatest env) w = (.ok record.state, w) := by
    unfold loadLatest
    rw [exec_bind_ok (exec_get w)]
    simp only [hlatest]
    rfl
  unfold loadLastState
  rw [exec_bind_ok hload, exec_bind_ok (exec_modifyClient _ _)]
  rfl

/-- A load fails with the error of the reading. -/
theorem exec_loadLastState_error {record : RunRecord} (hlatest : w.latest = .saved record) {e : Err}
    (hread : loadReading env record w = .error e) :
    exec (loadLastState env) w
      = (.error e, { w.next with client := { w.client with currentState := record.state } }) := by
  rw [exec_loadLastState env hlatest, hread]
  rfl

/-- A load succeeds with the reading, and fails with its error. -/
theorem loadLastState_cases (env : Env) {record : RunRecord} (hlatest : w.latest = .saved record) :
    (∃ declaration w', loadReading env record w = .ok declaration
      ∧ exec (loadLastState env) w = (.ok record.state, w') ∧ Reloaded record w w'
      ∧ w'.client.repoDeclaration = some declaration) ∨
    (∃ e w', loadReading env record w = .error e ∧ exec (loadLastState env) w = (.error e, w')
      ∧ Reloaded record w w' ∧ w'.client = { w.client with currentState := record.state }) := by
  have hrun := exec_loadLastState env hlatest
  cases hread : loadReading env record w with
  | error e =>
    exact .inr ⟨e, _, rfl, exec_loadLastState_error hlatest hread,
      ⟨rfl, rfl, rfl, rfl, rfl, id, fun _ => rfl⟩, rfl⟩
  | ok declaration =>
    rw [hread] at hrun
    left
    refine ⟨declaration, ?_⟩
    cases hgap : truthy (record.state.get "resolved_gap_id") with
    | true =>
      rw [hgap] at hrun
      rw [truthy_gap, decide_eq_true_iff] at hgap
      exact ⟨_, rfl, hrun, ⟨rfl, rfl, rfl, rfl, rfl, fun _ => rfl,
        fun hnone => absurd hnone hgap⟩, rfl⟩
    | false =>
      rw [hgap] at hrun
      exact ⟨_, rfl, hrun, ⟨rfl, rfl, rfl, rfl, rfl, id, fun _ => rfl⟩, rfl⟩

/-- An inspection that can read the repository. -/
theorem exec_inspectRepo (env : Env) (persist : Bool) {declaration : RepoDeclaration}
    (hread : readRepoDeclaration (env.repo w.tick) env.repoName w.client.storyId
      w.client.capabilityId w.client.repoClass = .ok declaration) :
    exec (inspectRepo env persist) w = exec (do
      onlyIf persist (persistState env (inspectUpdates env declaration))
      return declaration) { w.next with client := w.client.withDeclaration declaration } := by
  unfold inspectRepo
  rw [exec_bind_ok (exec_getClient w), exec_bind_ok (exec_readRepo env w)]
  show exec (ofExcept (readRepoDeclaration (env.repo w.tick) env.repoName w.client.storyId
    w.client.capabilityId w.client.repoClass) >>= _) w.next = _
  rw [hread]
  rfl

/-- What the client can read with its own hints it can read with those of a load. -/
theorem loadReading_of_read (record : RunRecord) {declaration : RepoDeclaration}
    (h : readRepoDeclaration (env.repo w.tick) env.repoName w.client.storyId w.client.capabilityId
      w.client.repoClass = .ok declaration) :
    ∃ declaration', loadReading env record w = .ok declaration' := by
  have hhint : ∀ (v : Json) (own : String), strOr (orElse v (.str own)) = own
      ∨ strOr (orElse v (.str own)) ≠ "" := by
    intro v own
    rw [strOr_orElse]
    by_cases hv : strOr v = ""
    · rw [if_pos hv]
      exact .inl (strOr_str own)
    · rw [if_neg hv]
      exact .inr hv
  exact readRepoDeclaration_of_filled _ h (hhint _ _) (hhint _ _)

/-- Over one content of the repository, opening a run either loads the saved state or
    fails, and nothing is requested or written. -/
theorem opens_openRun {record : RunRecord} {content : RepoContent}
    (hlatest : w.latest = .saved record) (hrepo : ∀ t, env.repo t = content) :
    wp (openRun env true)
      (fun _ w' => Reloaded record w w' ∧ w'.client.repoDeclaration.isSome = true)
      (fun _ w' => w'.log = w.log ∧ w'.latest = w.latest) w := by
  rcases loadLastState_cases env hlatest with
    ⟨declaration, w₁, -, hload, hw₁, hdeclared⟩ | ⟨e, w₁, hread, hload, hw₁, hclient⟩
  · refine wp_step (exec_catchGoverned_ok hload) ⟨hw₁, ?_⟩
    rw [hdeclared]
    rfl
  · cases e with
    | fault f =>
      refine wp_bind.mpr ?_
      unfold wp
      rw [exec_catchGoverned_fault hload]
      exact ⟨hw₁.log, hw₁.latest⟩
    | governed message =>
      refine wp_step (exec_catchGoverned_governed hload) ?_
      refine wp_bind.mpr (wp_step (exec_getClient w₁) (wp_step (exec_readRepo env w₁) ?_))
      refine wp_bind.mpr ?_
      cases hown : readRepoDeclaration (env.repo w₁.tick) env.repoName w₁.client.storyId
          w₁.client.capabilityId w₁.client.repoClass with
      | error e' => exact ⟨hw₁.log, hw₁.latest⟩
      | ok declaration =>
        rw [hclient, hrepo, ← hrepo w.tick] at hown
        obtain ⟨declaration', hok⟩ := loadReading_of_read record hown
        rw [hok] at hread
        exact nomatch hread

end KeyholeFlow
