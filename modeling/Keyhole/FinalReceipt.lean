import Keyhole.PendingResume

/-!
# A state that holds its final receipt

`resume_governed_repo_flow` takes a saved state for finished when it is terminal and has a
`receipt_id`.  Nothing else is asked: not whether the repository is still the one the
receipt is for, and not whether an accepted receipt without an id has been there before.

* `NeverStale`: a receipt is returned with the content it was realized for;
* `neverStale_iff`: this holds exactly where a stage is left to be done. -/

namespace KeyholeFlow

open KeyholeJson KeyholeRedaction KeyholeEnvelope KeyholeGaps KeyholeOperations KeyholeRepo
  EffectProgram

/-! ## A finished state -/

section Finished

variable {env : Env} {w : World}

/-- Nothing is left to do. -/
def Progress.finished (p : Progress) : Prop := p.ready ∧ p.realized

/-- A finished state passes the stages as it is. -/
theorem exec_stages_finished (h : w.live.finished) : exec (stages env) w = (.ok ⟨⟩, w) := by
  obtain ⟨⟨hgap, hclaim, hregistration, hcontext⟩, hrealized⟩ := h
  unfold stages
  rw [exec_bind_ok (exec_gapStage_held hgap), exec_bind_ok (exec_claimStage_held hclaim),
    exec_bind_ok (exec_registrationStage_held hregistration),
    exec_bind_ok (exec_compileStage_held hcontext)]
  exact exec_realizeStage_held hrealized

/-- The declaration a client knows is used. -/
theorem exec_knownDeclaration (env : Env) (h : w.client.repoDeclaration.isSome = true) :
    ∃ declaration, exec (knownDeclaration env) w = (.ok declaration, w) := by
  unfold knownDeclaration
  rw [exec_bind_ok (exec_getClient w)]
  cases hd : w.client.repoDeclaration with
  | some declaration => exact ⟨declaration, rfl⟩
  | none =>
    rw [hd] at h
    exact nomatch h

/-- A state that is terminal names no run to recover. -/
theorem not_pending_of_realized {p : Progress} (h : p.realized) : ¬ p.pending :=
  fun hpending => nomatch hpending.2.symm.trans h.2

/-- A finished state is returned as it is. -/
theorem continueRun_finished (h : w.live.finished)
    (hdeclared : w.client.repoDeclaration.isSome = true) :
    wp (continueRun env) (fun _ w' => Asks w w') (fun _ w' => Asks w w') w := by
  refine wp_bind.mpr (wp_mono onlyAsks_discover ?_ (fun _ _ hasks => hasks))
  intro _ w₁ hasks
  have hfinished : w₁.live.finished := by
    rw [hasks.live]
    exact h
  obtain ⟨declaration, hknown⟩ := exec_knownDeclaration env (hasks.declaration ▸ hdeclared)
  refine wp_step (exec_recoverPendingRun_idle (not_pending_of_realized hfinished.2)) ?_
  exact wp_step hknown (wp_step (exec_stages_finished hfinished) hasks)

end Finished

/-! ## Receipts and contents -/

/-- The content is not the one the saved state was made from. -/
def Changed (record : RunRecord) (content : RepoContent) : Prop :=
  record.state.get "commit_sha" ≠ .str content.commitSha
    ∨ record.state.get "declaration_file_digests" ≠ .obj (declarationFileDigests content)

/-- The id of the receipt in a result. -/
def resultReceipt (result : Dict) : String :=
  strOr ((result.child "receipt").get "receipt_id")

/-- The receipt of the result is that of a realization of the log. -/
def Realized (log : List Event) (result : Dict) : Prop :=
  ∃ older record r d how, Settled log older record r .realization d how
    ∧ resultReceipt result = receiptIdOf d

/-- Whatever `run_governed_repo_flow` returns for another content than that of the saved
    state has been realized in the call. -/
def NeverStale (record : RunRecord) : Prop :=
  ∀ content, Changed record content → ∀ env, (∀ t, env.repo t = content) →
    ∀ w : World, w.log = [] → w.latest = .saved record →
      ∀ result w', exec (runGovernedRepoFlow env false) w = (.ok result, w') →
        Realized w'.log result

theorem strOr_getOr_empty (s : SavedState) (k : String) :
    strOr (s.getOr k (.str "")) = strOr (s.get k) := by
  unfold SavedState.getOr SavedState.get
  induction s.doc with
  | nil => rfl
  | cons field rest ih =>
    obtain ⟨k', v⟩ := field
    rw [getOr_cons, get_cons]
    by_cases hk : k = k'
    · rw [if_pos hk, if_pos hk]
    · rw [if_neg hk, if_neg hk]
      exact ih

theorem resultReceipt_fromState (s : SavedState) (declaration : RepoDeclaration) :
    resultReceipt (resultFromState s declaration) = (progress s).receipt := by
  have hsection : (resultFromState s declaration).child "receipt" = asDict (receiptSection s) := by
    simp [resultFromState, Dict.child]
  unfold resultReceipt
  rw [hsection]
  simp only [receiptSection, asDict_obj]
  exact strOr_getOr_empty s "receipt_id"

variable {log older : List Event} {r : Request} {action : Action} {d : Dict} {how : Delivery}

/-- What was settled was answered, for good or with a run. -/
theorem answered_of_settled {name : String} (h : Settled log older name r action d how) :
    ∃ first, Answered log older name r action first := by
  cases how with
  | inline => exact ⟨d, h.1⟩
  | polled | recovered =>
    obtain ⟨accepted, _, _, hanswered, -⟩ := h
    exact ⟨accepted, hanswered⟩

/-- What was settled on a request after a point of the log was requested after it. -/
theorem submitted_since {base newer : List Event} {name : String}
    (h : Settled log older name r action d how) (holder : older = newer ++ base) :
    ∃ since, log = since ++ base ∧ action ∈ submitted since := by
  obtain ⟨first, later, resp, hlog, hsite, -⟩ := answered_of_settled h
  refine ⟨later ++ .received r resp :: .sent name r :: newer, ?_, ?_⟩
  · rw [hlog, holder, List.append_assoc]
    rfl
  · have hmem : Event.sent name r ∈ later ++ .received r resp :: .sent name r :: newer :=
      List.mem_append_right _ (List.mem_cons_of_mem _ List.mem_cons_self)
    exact mem_submitted hmem hsite

/-- What was settled was requested. -/
theorem submitted_of_settled {record : String} (h : Settled log older record r action d how) :
    action ∈ submitted log := by
  obtain ⟨since, hlog, hmem⟩ := submitted_since h (List.append_nil older).symm
  rw [hlog, List.append_nil]
  exact hmem

section Stale

variable {env : Env} {w : World} {record : RunRecord}

/-- `run_governed_repo_flow` looks at the repository, asks for the capabilities, and goes on
    as a resumption. -/
theorem wp_runGovernedRepoFlow {Q : Dict → World → Prop} {E : Err → World → Prop}
    (hstop : ∀ e w', w'.latest = w.latest → submitted w'.log = submitted w.log → E e w')
    (hresume : ∀ w', w'.latest = w.latest → submitted w'.log = submitted w.log →
      wp (resumeGovernedRepoFlow env true) Q E w') :
    wp (runGovernedRepoFlow env false) Q E w := by
  refine wp_bind.mpr (wp_step (exec_getClient w) (wp_step (exec_readRepo env w) ?_))
  refine wp_bind.mpr ?_
  cases readRepoDeclaration (env.repo w.tick) env.repoName w.client.storyId w.client.capabilityId
      w.client.repoClass with
  | error e => exact hstop e w.next rfl rfl
  | ok declaration =>
    let w₁ : World := { w.next with client := w.client.withDeclaration declaration }
    show wp (discover env >>= _) Q E w₁
    have hdiscover : OnlyAsks (discover env) w₁ := onlyAsks_discover
    refine wp_bind.mpr (wp_mono hdiscover (fun _ w₂ hasks => ?_) (fun e w₂ hasks => ?_))
    · exact hresume w₂ hasks.latest hasks.submitted
    · exact hstop e w₂ hasks.latest hasks.submitted

/-- A terminal state that is not ready is not returned before it was realized. -/
theorem neverStale_of_unready (hrealized : (progress record.state).realized)
    (hnot : ¬ (progress record.state).ready) : NeverStale record := by
  intro content _ env hrepo w _ hlatest result w' hrun
  refine wp_ok (Q := fun result v => Realized v.log result) (E := fun _ _ => True)
    (wp_runGovernedRepoFlow (fun _ _ _ _ => trivial) ?_) hrun
  intro w₁ hlatest₁ _
  rw [resume_eq_continueRun]
  refine wp_bind.mpr (wp_mono (opens_openRun (hlatest₁.trans hlatest) hrepo) ?_
    (fun _ _ _ => trivial))
  rintro _ w₂ ⟨hreloaded, hdeclared⟩
  refine wp_bind.mpr (wp_mono onlyAsks_discover ?_ (fun _ _ _ => trivial))
  intro _ w₃ hasks
  have hlive : w₃.live = progress record.state :=
    hasks.live.trans (congrArg progress hreloaded.state)
  have hrealized₃ : w₃.live.realized := by
    rw [hlive]
    exact hrealized
  obtain ⟨declaration, hknown⟩ := exec_knownDeclaration env (hasks.declaration ▸ hdeclared)
  refine wp_step (exec_recoverPendingRun_idle (not_pending_of_realized hrealized₃)) ?_
  refine wp_step hknown ?_
  have hstages : Follows env Lingering.always 5 (stages env) (fun _ w' => Completes w₃ w')
    (fun _ _ => True) w₃ := by
    refine follows_stages ?_ (fun _ => .inr (.inl trivial))
    rw [hlive]
    exact record.named
  refine wp_bind.mpr (wp_mono hstages ?_ (fun _ _ _ => trivial))
  rintro _ w₄ ⟨-, hcompletes⟩
  refine wp_step (exec_getClient w₄) ?_
  obtain ⟨⟨older, -, r, d, how, hsettled, -, -, hreceipt⟩, -, -⟩ :=
    hcompletes.done (fun hfinished => hnot (hlive ▸ hfinished.1))
  exact ⟨older, _, r, d, how, hsettled, (resultReceipt_fromState _ _).trans hreceipt⟩

/-! ### A finished state is returned with any content -/

/-- A commit the saved state does not name. -/
def otherCommit (record : RunRecord) : String := strOr (record.state.get "commit_sha") ++ "1"

theorem otherCommit_ne_empty (record : RunRecord) : otherCommit record ≠ "" := by
  intro h
  have hlength := congrArg String.length h
  unfold otherCommit at hlength
  rw [String.length_append] at hlength
  have hone : "1".length = 1 := rfl
  have hzero : "".length = 0 := rfl
  omega

theorem changed_otherCommit (record : RunRecord) :
    Changed record (completeContent (otherCommit record)) := by
  left
  intro h
  have hsame : strOr (record.state.get "commit_sha") = otherCommit record := by
    rw [h]
    exact strOr_str _
  have hlength := congrArg String.length hsame
  unfold otherCommit at hlength
  rw [String.length_append] at hlength
  have hone : "1".length = 1 := rfl
  omega

/-- The server that answers as usual, over the repository at another commit. -/
def otherEnv (record : RunRecord) : Env := scripted (otherCommit record) (fun _ _ => none)

theorem describes_otherEnv (record : RunRecord) : Describes (otherEnv record) fourOperations := by
  intro t r hsite
  refine ⟨⟨200, "", some (.obj fourOperations)⟩, ?_, by decide, rfl⟩
  unfold otherEnv
  rw [answer_scripted, hsite]
  rfl

/-- The finished state is returned, and nothing was requested. -/
theorem returns_finished (hfinished : (progress record.state).finished) :
    ∃ result w', exec (runGovernedRepoFlow (otherEnv record) false) (savedWorld record "")
      = (.ok result, w') ∧ submitted w'.log = [] := by
  have hreadable : Nonempty (Readable (completeContent (otherCommit record)) "" "") :=
    readable_complete (otherCommit_ne_empty record)
  let w : World := savedWorld record ""
  obtain ⟨declaration, hread⟩ := exists_declaration hreadable "app" "" "" ""
  let w₁ : World := { w.next with client := w.client.withDeclaration declaration }
  obtain ⟨r, resp, hsite, hdiscover⟩ :=
    exec_discover_accepted (w := w₁) (describes_otherEnv record) accepts_fourOperations
  generalize hw₂ : ({ (w₁.send r).hear r resp with
    client := w₁.client.discovered fourOperations fourTable } : World) = w₂ at hdiscover
  have hlatest₂ : w₂.latest = .saved record := by
    rw [← hw₂]
    rfl
  have hlog₂ : submitted w₂.log = [] := by
    rw [← hw₂]
    exact submitted_asked (by rw [hsite]; rfl)
  rcases loadLastState_cases (otherEnv record) hlatest₂ with
    ⟨found, w₃, -, hload, hreloaded, hdeclared⟩ | ⟨e, w₃, hfails, -, -, -⟩
  · have hlive₃ : w₃.live = progress record.state := congrArg progress hreloaded.state
    obtain ⟨r', resp', hsite', hdiscover'⟩ :=
      exec_discover_accepted (w := w₃) (describes_otherEnv record) accepts_fourOperations
    generalize hw₄ : ({ (w₃.send r').hear r' resp' with
      client := w₃.client.discovered fourOperations fourTable } : World) = w₄ at hdiscover'
    have hfinished₄ : w₄.live.finished := by
      have hlive₄ : w₄.live = w₃.live := by
        rw [← hw₄]
        rfl
      rw [hlive₄, hlive₃]
      exact hfinished
    have hdeclared₄ : w₄.client.repoDeclaration.isSome = true := by
      rw [← hw₄]
      show w₃.client.repoDeclaration.isSome = true
      rw [hdeclared]
      rfl
    have hlog₄ : submitted w₄.log = [] := by
      rw [← hw₄]
      show submitted (.sent w₃.record r' :: w₃.log) = []
      rw [submitted_asked (by rw [hsite']; rfl), hreloaded.log]
      exact hlog₂
    obtain ⟨known, hknown⟩ := exec_knownDeclaration (otherEnv record) hdeclared₄
    refine ⟨resultFromState w₄.client.currentState known, w₄, ?_, hlog₄⟩
    have hinspect : exec (inspectRepo (otherEnv record) false) w = (.ok declaration, w₁) :=
      exec_inspectRepo (otherEnv record) false hread
    have hopen : exec (openRun (otherEnv record) true) w₂ = (.ok ⟨⟩, w₃) := by
      show exec (catchGoverned (loadLastState (otherEnv record)) >>= _) w₂ = _
      rw [exec_bind_ok (exec_catchGoverned_ok hload)]
      rfl
    unfold runGovernedRepoFlow
    rw [exec_bind_ok hinspect, exec_bind_ok hdiscover, if_neg Bool.false_ne_true,
      resume_eq_continueRun, exec_bind_ok hopen]
    unfold continueRun
    rw [exec_bind_ok hdiscover',
      exec_bind_ok (exec_recoverPendingRun_idle (not_pending_of_realized hfinished₄.2)),
      exec_bind_ok hknown, exec_bind_ok (exec_stages_finished hfinished₄)]
    rfl
  · obtain ⟨found, hok⟩ := exists_declaration hreadable "app" (loadHints record w₂.client).1
      (loadHints record w₂.client).2.1 (loadHints record w₂.client).2.2
    exact nomatch hok.symm.trans hfails

theorem not_neverStale_of_finished (hfinished : (progress record.state).finished) :
    ¬ NeverStale record := by
  intro h
  obtain ⟨result, w', hrun, hnone⟩ := returns_finished hfinished
  obtain ⟨older, name, r, d, how, hsettled, -⟩ := h _ (changed_otherCommit record)
    (otherEnv record) (fun _ => rfl) _ rfl rfl result w' hrun
  have hrequested := submitted_of_settled hsettled
  rw [hnone] at hrequested
  exact nomatch hrequested

/-- A saved receipt is returned with the content it was realized for exactly where the state
    leaves a stage to be done. -/
theorem neverStale_iff (record : RunRecord) (hfinal : (progress record.state).realized) :
    NeverStale record ↔ ¬ (progress record.state).ready :=
  ⟨fun h hready => not_neverStale_of_finished ⟨hready, hfinal⟩ h, neverStale_of_unready hfinal⟩

end Stale

/-- A state that went through every stage. -/
def finishedRecord : RunRecord where
  state := .ofDict [("run_record_id", .str "20260101T000000000000Z"),
    ("commit_sha", .str "commit-1"), ("resolved_gap_id", .str "gap_1"),
    ("claim_id", .str "claim-1"), ("registration_id", .str "registration-1"),
    ("governance_context_id", .str "context-1"), ("receipt_id", .str "receipt-1"),
    ("terminal", .bool true)]
  named := by decide

theorem realized_finishedRecord : (progress finishedRecord.state).realized := by decide +kernel

theorem neverStale_iff_finishedRecord :
    NeverStale finishedRecord ↔ ¬ (progress finishedRecord.state).ready :=
  neverStale_iff finishedRecord realized_finishedRecord

/-- Its receipt is returned with whatever commit the repository is at. -/
theorem finishedRecord_stale : (progress finishedRecord.state).realized ∧ ¬ NeverStale finishedRecord := by
  have hready : (progress finishedRecord.state).ready := by decide
  exact ⟨realized_finishedRecord, not_neverStale_of_finished ⟨hready, realized_finishedRecord⟩⟩

end KeyholeFlow
