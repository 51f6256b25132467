import Keyhole.FlowStages

/-!
# The commands follow the protocol

The five stages of `resume_governed_repo_flow`, the recovery of the run a saved
state names, and the commands built from them.  A stage whose result the state
holds does nothing; the others leave the run record open.  What holds of every run
of commands is proved from here about paths alone. -/

namespace KeyholeFlow

open KeyholeJson KeyholeRedaction KeyholeEnvelope KeyholeGaps KeyholeOperations KeyholeRepo
  EffectProgram

variable {env : Env} {L : Lingering} {n : Nat} {w : World}

/-! ## The stages -/

/-- A run that is named when the stages begin has a reason: only the realization is
    left to do, or `L`, or the log is `Loose`. -/
def Entered (L : Lingering) (w : World) : Prop := w.live.namesRun → w.live.ready ∨ L.holds w.log ∨ Loose w.log

theorem Entered.licence (h : Entered L w) (hready : ¬w.live.ready) :
    w.live.namesRun → L.holds w.log ∨ Loose w.log := by
  intro hn
  rcases h hn with hr | hl
  · exact absurd hr hready
  · exact hl

/-- What a stage does: nothing when the state holds its result, and otherwise it
    brings the result into a state that is not terminal. -/
structure Staged (L : Lingering) (key : Progress → Prop) (w w' : World) : Prop where
  held : key w'.live
  skipped : key w.live → w' = w
  done : ¬key w.live → w'.live.terminal = false ∧ (w'.live.namesRun → L.holds w'.log ∨ Loose w'.log)

variable {d : Dict} {key : Progress → Prop} {r : Request} {resp : Response}

theorem Staged.skip (h : key w.live) : Staged L key w w :=
  ⟨h, fun _ => rfl, fun hn => absurd h hn⟩

theorem Staged.entered {w' : World} (h : Staged L key w w') (hw : Entered L w) : Entered L w' := by
  by_cases hk : key w.live
  · rw [h.skipped hk]
    exact hw
  · exact fun hn => .inr ((h.done hk).2 hn)

/-- A stage that persists its result. -/
theorem Persists.staged {q : Progress} {w w₁ w' : World}
    (h : Persists q w₁ w') (hp : Path env L n w₁ w') (hnone : ¬key w.live)
    (hkey : ∀ name, key (q.named name)) (hopen : q.terminal = false)
    (hrun : q.namesRun → w₁.live.namesRun) (hw₁ : w₁.live.namesRun → L.holds w₁.log ∨ Loose w₁.log) :
    Staged L key w w' := by
  obtain ⟨name, -, hlive⟩ := h.live
  refine ⟨by rw [hlive]; exact hkey name, fun hk => absurd hk hnone, fun _ => ⟨?_, ?_⟩⟩
  · rw [hlive]
    exact hopen
  · exact (h.tame hrun).licence hp hw₁

theorem follows_gapStage (hL : Entered L w) :
    Follows env L 1 (gapStage env) (fun _ w' => Staged L (fun p => p.gap ≠ "") w w')
      (fun _ _ => True) w := by
  refine Follows.getClient (traced_ite (fun hset => ?_) (fun hset => ?_))
  · rw [truthy_gap, decide_eq_true_iff] at hset
    exact Follows.pure (Staged.skip hset)
  · rw [truthy_gap, decide_eq_true_iff] at hset
    have hrun := hL.licence (fun h => hset h.1)
    refine Follows.bind follows_caughtGapId ?_
    rintro result w₁ hp₁ ⟨hs₁, hgap⟩
    have hrun₁ := hs₁.tame.licence hp₁ hrun
    cases result with
    | error message =>
      refine Follows.bind ((follows_persist (amounts_gapError message)
        (.gap w₁.live.gap "gap_resolution" (.inr rfl) (.inl rfl) hrun₁)
        (Nat.le_refl 1)).mono (Nat.le_refl 1) (fun _ _ h => h) (fun _ _ _ => trivial)) ?_
      exact fun _ _ _ _ => Follows.raise trivial
    | ok g =>
      obtain ⟨hne, hop⟩ := hgap g rfl
      refine Follows.getClient ((follows_persist (amounts_gap g _)
        (.gap g "gap_resolved" (.inl rfl) (.inr ⟨hne, fun ho => ?_⟩) hrun₁)
        (Nat.le_refl 1)).weaken ?_ (fun _ _ _ _ => trivial))
      · have hoperator := (hp₁.keeps (by decide)).operator
        rw [hoperator] at ho ⊢
        exact hop ho
      · intro _ w₂ hp₂ h₂
        exact h₂.staged hp₂ hset (fun _ => hne) rfl id hrun₁

theorem follows_claimStage (hrecord : w.live.record ≠ "") (hL : Entered L w) :
    Follows env L 2 (claimStage env) (fun _ w' => Staged L Progress.claimed w w')
      (fun _ _ => True) w := by
  refine Follows.getClient (traced_ite (fun hset => ?_) (fun hset => ?_))
  · rw [truthy_claim, decide_eq_true_iff] at hset
    exact Follows.pure (Staged.skip hset)
  · rw [truthy_claim, decide_eq_true_iff] at hset
    have hrun := hL.licence (fun h => hset h.2.1)
    refine Follows.bind (follows_claimGap hset hrecord hrun) ?_
    intro claim w₁ hp₁ h₁
    have hrun₁ := h₁.tame.licence hp₁ hrun
    obtain ⟨older, r, d, how, hsettled, hid, href⟩ := h₁.settled
    have hrec : w₁.live.record = w.live.record := hp₁.frame.record (by decide) hrecord
    have hoperator := (hp₁.keeps (by decide)).operator
    rw [← hrec] at hsettled
    refine (follows_persist (amounts_claim claim)
      (.claimed claim older r d how hsettled hid href h₁.some h₁.gap (fun ho => ?_) hrun₁)
      (Nat.le_refl 2)).weaken ?_ (fun _ _ _ _ => trivial)
    · rw [hoperator] at ho ⊢
      exact h₁.operator ho
    · intro _ w₂ hp₂ h₂
      exact h₂.staged hp₂ hset (fun _ => h₁.some) rfl id hrun₁

theorem follows_registrationStage (hrecord : w.live.record ≠ "") (hgap : w.live.gap ≠ "")
    (hclaim : w.live.claimed) (hL : Entered L w) :
    Follows env L 3 (registrationStage env)
      (fun _ w' => Staged L (fun p => p.registration ≠ "") w w') (fun _ _ => True) w := by
  refine Follows.getClient (traced_ite (fun hset => ?_) (fun hset => ?_))
  · rw [truthy_registration, decide_eq_true_iff] at hset
    exact Follows.pure (Staged.skip hset)
  · rw [truthy_registration, decide_eq_true_iff] at hset
    have hrun := hL.licence (fun h => hset h.2.2.1)
    refine Follows.bind (follows_registerRepo (Decidable.not_not.mp hset) hclaim hgap) ?_
    intro registration w₁ hp₁ h₁
    have hrun₁ := h₁.tame.licence hp₁ hrun
    obtain ⟨older, r, d, how, hsettled, hne, hid⟩ := h₁.settled
    have hrec : w₁.live.record = w.live.record := hp₁.frame.record (by decide) hrecord
    rw [← hrec] at hsettled
    -- the claim the registration was sent with is the one the state holds
    have hclaimId : registration.claim.claimId = w₁.live.claimId := by
      rw [h₁.results]; exact h₁.claimId
    have hclaimRef : registration.claim.claimRef = w₁.live.claimRef := by
      rw [h₁.results]; exact h₁.claimRef
    have hclaimGap : registration.claim.gapId = w₁.live.gap := by
      rw [h₁.results]; exact h₁.gap
    refine (follows_persist (amounts_registration registration) ?_
      (Nat.le_refl 3)).weaken ?_ (fun _ _ _ _ => trivial)
    · rw [hclaimId, hclaimRef, hclaimGap, hid]
      exact .registered _ older r d how hsettled hne hrun₁
    · intro _ w₂ hp₂ h₂
      exact h₂.staged hp₂ hset (fun _ => by rw [hid]; exact hne) rfl id hrun₁

theorem follows_compileStage (hrecord : w.live.record ≠ "") (hgap : w.live.gap ≠ "")
    (hclaim : w.live.claimed) (hreg : w.live.registration ≠ "") (hL : Entered L w) :
    Follows env L 4 (compileStage env) (fun _ w' => Staged L (fun p => p.context ≠ "") w w')
      (fun _ _ => True) w := by
  refine Follows.getClient (traced_ite (fun hset => ?_) (fun hset => ?_))
  · rw [truthy_context, decide_eq_true_iff] at hset
    exact Follows.pure (Staged.skip hset)
  · rw [truthy_context, decide_eq_true_iff] at hset
    have hrun := hL.licence (fun h => hset h.2.2.2)
    refine Follows.bind (follows_compileContext (Decidable.not_not.mp hset) hreg hclaim hgap) ?_
    intro context w₁ hp₁ h₁
    have hrun₁ := h₁.tame.licence hp₁ hrun
    obtain ⟨older, r, d, how, hsettled, hne, hid, hdigest⟩ := h₁.settled
    have hrec : w₁.live.record = w.live.record := hp₁.frame.record (by decide) hrecord
    rw [← hrec] at hsettled
    refine (follows_persist (amounts_context context) ?_
      (Nat.le_refl 4)).weaken ?_ (fun _ _ _ _ => trivial)
    · rw [hid, hdigest]
      exact .compiled older r d how hsettled hne hrun₁
    · intro _ w₂ hp₂ h₂
      exact h₂.staged hp₂ hset (fun _ => by rw [hid]; exact hne) rfl id hrun₁

/-- A realization was requested after the log was that of `w`, and its answer accepted:
    the state holds the receipt. -/
def RealizedAfter (w w' : World) : Prop :=
  ∃ older newer r d how, Settled w'.log older w.live.record r .realization d how ∧
    older = newer ++ w.log ∧ receiptContext d ≠ "" ∧ w'.live.receipt = receiptIdOf d

/-- What the realization stage does. -/
structure Realizes (w w' : World) : Prop where
  skipped : w.live.realized → w' = w
  done : ¬w.live.realized → RealizedAfter w w' ∧ w'.live.terminal = true ∧ ¬w'.live.namesRun

theorem follows_realizeStage (hrecord : w.live.record ≠ "") (hready : w.live.ready) :
    Follows env L 5 (realizeStage env) (fun _ w' => Realizes w w') (fun _ _ => True) w := by
  refine Follows.getClient (traced_ite (fun hset => ?_) (fun hset => ?_))
  · rw [isRealized_eq, decide_eq_true_iff] at hset
    exact Follows.pure ⟨fun _ => rfl, fun h => absurd hset h⟩
  · rw [isRealized_eq, decide_eq_true_iff] at hset
    refine Follows.bind (follows_runGovernedRealization hready hset hrecord) ?_
    intro receipt w₁ hp₁ h₁
    obtain ⟨older, r, d, how, hsettled, hreceipt, newer, hold⟩ := h₁.settled
    have hrec : w₁.live.record = w.live.record := hp₁.frame.record (by decide) hrecord
    refine (follows_persist (amounts_realized hreceipt.context hreceipt.receiptId) ?_
      (Nat.le_refl 5)).weaken ?_ (fun _ _ _ _ => trivial)
    · rw [← hrec] at hsettled
      exact .realized older r d how hsettled hreceipt.some
    · intro _ w₂ hp₂ h₂
      obtain ⟨name, -, hlive⟩ := h₂.live
      obtain ⟨newer', hext⟩ := hp₂.extends
      refine ⟨fun h => absurd h hset, fun _ => ⟨⟨older, newer, r, d, how, ?_, hold,
        hreceipt.some, ?_⟩, ?_, ?_⟩⟩
      · rw [hext]
        exact hsettled.mono newer'
      · rw [hlive]
        rfl
      · rw [hlive]
        rfl
      · rw [hlive]
        exact fun h => h.elim (fun h => h rfl) (fun h => h rfl)

/-- A stage whose result is held does nothing. -/
theorem exec_held {held : Client → Bool} {rest : Client → Flow Unit} {P : Prop} [Decidable P]
    (hset : held w.client = decide P) (h : P) :
    exec (getClient >>= fun c => if held c = true then pure ⟨⟩ else rest c) w = (.ok ⟨⟩, w) := by
  rw [exec_bind_ok (exec_getClient w), if_pos (hset.trans (decide_eq_true h))]
  rfl

theorem exec_gapStage_held (h : w.live.gap ≠ "") : exec (gapStage env) w = (.ok ⟨⟩, w) :=
  exec_held (truthy_gap _) h

theorem exec_claimStage_held (h : w.live.claimed) : exec (claimStage env) w = (.ok ⟨⟩, w) :=
  exec_held (truthy_claim _) h

theorem exec_registrationStage_held (h : w.live.registration ≠ "") :
    exec (registrationStage env) w = (.ok ⟨⟩, w) := exec_held (truthy_registration _) h

theorem exec_compileStage_held (h : w.live.context ≠ "") :
    exec (compileStage env) w = (.ok ⟨⟩, w) := exec_held (truthy_context _) h

theorem exec_realizeStage_held (h : w.live.realized) : exec (realizeStage env) w = (.ok ⟨⟩, w) :=
  exec_held (isRealized_eq _) h

/-- What the stages do together. -/
structure Completes (w w' : World) : Prop where
  ready : w'.live.ready
  skipped : w.live.ready → w.live.realized → w' = w
  done : ¬(w.live.ready ∧ w.live.realized) →
    RealizedAfter w w' ∧ w'.live.terminal = true ∧ ¬w'.live.namesRun

theorem RealizedAfter.of_path {a b c : World} (h : RealizedAfter b c) (hp : Path env L n a b)
    (hrec : b.live.record = a.live.record) : RealizedAfter a c := by
  obtain ⟨older, newer, r, d, how, hsettled, hold, hc, hreceipt⟩ := h
  obtain ⟨newer', hext⟩ := hp.extends
  rw [hrec] at hsettled
  exact ⟨older, newer ++ newer', r, d, how, hsettled,
    by rw [hold, hext, List.append_assoc], hc, hreceipt⟩

theorem follows_stages (hrecord : w.live.record ≠ "") (hL : Entered L w) :
    Follows env L 5 (stages env) (fun _ w' => Completes w w') (fun _ _ => True) w := by
  have hrec : ∀ {w'}, Path env L 5 w w' → w'.live.record = w.live.record := fun hp =>
    hp.frame.record (Nat.le_refl 5) hrecord
  refine Follows.bind ((follows_gapStage hL).lift (by decide)) ?_
  rintro _ w₁ hw₁ ⟨hp₁, h₁⟩
  have hr₁ : w₁.live.record ≠ "" := by rw [hrec hw₁]; exact hrecord
  have hL₁ := h₁.entered hL
  refine Follows.bind ((follows_claimStage hr₁ hL₁).lift (by decide)) ?_
  rintro _ w₂ hp₂' ⟨hp₂, h₂⟩
  have hw₂ := hw₁.trans hp₂'
  have hr₂ : w₂.live.record ≠ "" := by rw [hrec hw₂]; exact hrecord
  have hL₂ := h₂.entered hL₁
  have hgap₂ : w₂.live.gap ≠ "" := hp₂.frame.hasGap (by decide) h₁.held
  refine Follows.bind ((follows_registrationStage hr₂ hgap₂ h₂.held hL₂).lift (by decide)) ?_
  rintro _ w₃ hp₃' ⟨hp₃, h₃⟩
  have hw₃ := hw₂.trans hp₃'
  have hr₃ : w₃.live.record ≠ "" := by rw [hrec hw₃]; exact hrecord
  have hL₃ := h₃.entered hL₂
  have hgap₃ : w₃.live.gap ≠ "" := hp₃.frame.hasGap (by decide) hgap₂
  have hclaim₃ : w₃.live.claimed := hp₃.frame.claimed (by decide) h₂.held
  refine Follows.bind ((follows_compileStage hr₃ hgap₃ hclaim₃ h₃.held hL₃).lift (by decide)) ?_
  rintro _ w₄ hp₄' ⟨hp₄, h₄⟩
  have hw₄ := hw₃.trans hp₄'
  have hr₄ : w₄.live.record ≠ "" := by rw [hrec hw₄]; exact hrecord
  have hready₄ : w₄.live.ready := ⟨hp₄.frame.hasGap (by decide) hgap₃,
    hp₄.frame.claimed (by decide) hclaim₃, hp₄.frame.registered (by decide) h₃.held, h₄.held⟩
  refine (follows_realizeStage hr₄ hready₄).weaken ?_ (fun _ _ _ _ => trivial)
  intro _ w₅ hp₅ h₅
  have hready₅ : w₅.live.ready := ⟨hp₅.frame.hasGap (by decide) hready₄.1,
    hp₅.frame.claimed (by decide) hready₄.2.1, hp₅.frame.registered (by decide) hready₄.2.2.1,
    hp₅.frame.compiled (by decide) hready₄.2.2.2⟩
  -- a stage that was not skipped left a state that is not terminal
  have hwhole : w₄.live.realized → w.live.ready ∧ w₄ = w := by
    intro hfinal
    have hopen : w₄.live.terminal ≠ false := fun h => by
      rw [hfinal.2] at h
      exact nomatch h
    have hg : w.live.gap ≠ "" := Decidable.by_contra fun hk =>
      hopen (hp₄.frame.open_ (by decide) (hp₃.frame.open_ (by decide)
        (hp₂.frame.open_ (by decide) (h₁.done hk).1)))
    have e₁ := h₁.skipped hg
    have hc : w₁.live.claimed := Decidable.by_contra fun hk =>
      hopen (hp₄.frame.open_ (by decide) (hp₃.frame.open_ (by decide) (h₂.done hk).1))
    have e₂ := h₂.skipped hc
    have hreg : w₂.live.registration ≠ "" := Decidable.by_contra fun hk =>
      hopen (hp₄.frame.open_ (by decide) (h₃.done hk).1)
    have e₃ := h₃.skipped hreg
    have hctx : w₃.live.context ≠ "" := Decidable.by_contra fun hk => hopen (h₄.done hk).1
    have e₄ := h₄.skipped hctx
    subst e₁ e₂ e₃ e₄
    exact ⟨⟨hg, hc, hreg, hctx⟩, rfl⟩
  refine ⟨hready₅, fun hr hf => ?_, fun hn => ?_⟩
  · have e₁ := h₁.skipped hr.1
    subst e₁
    have e₂ := h₂.skipped hr.2.1
    subst e₂
    have e₃ := h₃.skipped hr.2.2.1
    subst e₃
    have e₄ := h₄.skipped hr.2.2.2
    subst e₄
    exact h₅.skipped hf
  · have hopen : ¬w₄.live.realized := fun hf => by
      obtain ⟨hr, e⟩ := hwhole hf
      subst e
      exact hn ⟨hr, hf⟩
    obtain ⟨hafter, hterm, hrun⟩ := h₅.done hopen
    exact ⟨hafter.of_path hw₄ (hrec hw₄), hterm, hrun⟩

/-! ## The recovery -/

/-- The last path of a saved run of this step was answered, and the run had not come
    to an end. -/
def Unfinished (log : List Event) (step : String) : Prop :=
  ∃ r resp d, .received r resp ∈ log ∧ r.site = .savedRunPoll step true ∧ Gives resp d ∧
    isFinished d = false

/-- What is known when the recovery is over. -/
structure Polled (w w' : World) : Prop where
  client : SameButGap w w'
  record : w'.live.record ≠ ""
  run : w'.live.namesRun → w'.live.terminal = true ∨ Unfinished w'.log w'.live.step
  skipped : ¬w.live.pending → w' = w

theorem record_named_ne_empty {p : Progress} {name : String} (h : name ≠ "") :
    (p.named name).record ≠ "" := by
  show (if p.record = "" then name else p.record) ≠ ""
  by_cases hr : p.record = ""
  · rw [if_pos hr]
    exact h
  · rw [if_neg hr]
    exact hr

theorem amounts_consumed : Amounts (consumedUpdates ++ []) Progress.consumed :=
  ⟨updated_consumed, fun _ _ => rfl⟩

theorem amounts_recoveredGap (gapId : String) (source : Json) :
    Amounts (consumedUpdates ++ [("resolved_gap_id", .str gapId), ("gap_id_source", source),
        ("status", .str "gap_resolved"), ("step", .str "gap_resolved")])
      (fun p => { p.consumed with gap := gapId, step := "gap_resolved" }) :=
  ⟨fun s => updated_recoveredGap s gapId source, fun _ _ => rfl⟩

theorem amounts_recoveredClaim (claimId claimRef : String) :
    Amounts (consumedUpdates ++ [("claim_id", .str claimId), ("claim_ref", .str claimRef),
        ("status", .str "claim_succeeded"), ("step", .str "claim_succeeded")])
      (fun p => { p.consumed with
        claimId := claimId
        claimRef := claimRef
        step := "claim_succeeded" }) :=
  ⟨fun s => updated_recoveredClaim s claimId claimRef, fun _ _ => rfl⟩

theorem amounts_recoveredRegistration (registrationId : String) :
    Amounts (consumedUpdates ++ [("registration_id", .str registrationId),
        ("status", .str "context_created"), ("step", .str "context_created")])
      (fun p => { p.consumed with registration := registrationId, step := "context_created" }) :=
  ⟨fun s => updated_recoveredRegistration s registrationId, fun _ _ => rfl⟩

theorem amounts_recoveredContext (step : String) (data : Dict) :
    Amounts (consumedUpdates ++ recoveredContextUpdates step data)
      (fun p => { p.consumed with
        context := extractContextId data
        ctxpack := contextDigestOr data (extractContextId data)
        step := recoveredContextWord step }) :=
  ⟨fun s => updated_recoveredContext s step data, fun _ _ => rfl⟩

theorem amounts_recoveredReceipt {receipt : GovernanceReceipt} (h : ReceiptOf d receipt) :
    Amounts (consumedUpdates ++ receiptUpdates receipt) (fun p => { p.consumed with
        step := "receipt_ready"
        terminal := true
        context := receiptContext d
        receipt := receiptIdOf d }) := by
  refine ⟨fun s => ?_, fun _ _ => rfl⟩
  rw [updated_recoveredReceipt, h.context, h.receiptId]
  rfl

/-- What the updates of a recovered answer amount to. -/
def RecoversTo (p : Progress) (d : Dict) (updates : Dict) : Prop :=
  ∃ change, Amounts (consumedUpdates ++ updates) change ∧ Recovered p d (change p) ∧
    ∀ name, ¬((change p).named name).namesRun

/-- The recovery reads an answer by the step the state is at. -/
theorem follows_recoveredUpdates (d : Dict) :
    Follows env L n (recoveredUpdates env w.live.step d)
      (fun updates w' => w'.log = w.log ∧ SameButGap w w' ∧ w'.live = w.live ∧
        RecoversTo w.live d updates) (fun _ _ => True) w := by
  have hnames : ∀ q : Progress, q.runId = "" → q.pollUrl = "" → ∀ name,
      ¬(q.named name).namesRun := fun q hid hurl name h => h.elim (fun h => h hid) (fun h => h hurl)
  refine Follows.getClient (traced_ite (fun hstep => ?_) (fun hgap => ?_))
  · cases selectGapId d (gapQuery env w.client) with
    | error message => exact Follows.raise trivial
    | ok g =>
      refine traced_ite (fun hg => ?_) (fun _ => ?_)
      · refine Follows.bind_exec (exec_modifyClient _ _)
          (Path.client (fun c => { c with resolvedGapId := g }) rfl rfl rfl rfl) ?_
        exact Follows.pure ⟨rfl, ⟨_, g, _, _, rfl⟩, rfl, _, amounts_recoveredGap g _,
          .gap g hg hstep, hnames _ rfl rfl⟩
      · refine Follows.pure ⟨rfl, .refl w, rfl, _, amounts_consumed, .other ?_, hnames _ rfl rfl⟩
        intro action ha
        rw [hstep]
        cases action with
        | gapDiscovery => exact absurd rfl ha
        | _ => decide
  refine traced_ite (fun hstep => ?_) (fun hclaim => ?_)
  · exact Follows.pure ⟨rfl, .refl w, rfl, _, amounts_recoveredClaim _ _, .claim hstep,
      hnames _ rfl rfl⟩
  refine traced_ite (fun hstep => ?_) (fun hreg => ?_)
  · exact Follows.pure ⟨rfl, .refl w, rfl, _, amounts_recoveredRegistration _,
      .registration hstep, hnames _ rfl rfl⟩
  refine traced_ite (fun hstep => ?_) (fun hcontext => ?_)
  · refine Follows.pure ⟨rfl, .refl w, rfl, _, amounts_recoveredContext _ _, ?_,
      hnames _ rfl rfl⟩
    rcases hstep with hs | hs
    · exact .context .preclaimCompile (.inl rfl) hs
    · exact .context .contextCompile (.inr rfl) hs
  refine traced_ite (fun hstep => ?_) (fun hrealize => ?_)
  · refine Follows.bind ((follows_receiptOf d _).mono (Nat.le_refl n) (fun _ _ h => h)
      (fun _ _ _ => trivial)) ?_
    rintro receipt w' - ⟨rfl, hreceipt⟩
    exact Follows.pure ⟨rfl, ⟨_, _, _, _, rfl⟩, rfl, _, amounts_recoveredReceipt hreceipt,
      .receipt hreceipt.some hstep, hnames _ rfl rfl⟩
  · refine Follows.pure ⟨rfl, .refl w, rfl, _, amounts_consumed, .other ?_, hnames _ rfl rfl⟩
    intro action ha
    cases action with
    | gapDiscovery => exact absurd rfl ha
    | gapClaim => exact hclaim
    | registration => exact hreg
    | preclaimCompile => exact fun h => hcontext (.inl h)
    | contextCompile => exact fun h => hcontext (.inr h)
    | realization => exact hrealize

/-- An answer that ends a saved run is read into the state. -/
theorem follows_updateStateFromResult {older : List Event} (last : Bool) (base path : String)
    (hlog : w.log = .received r resp :: older) (hsite : r.site = .savedRunPoll w.live.step last)
    (hurl : r.url = base ++ path) (hpath : path ∈ savedRunPaths w.live.runId w.live.pollUrl)
    (hgives : Gives resp d) (hd : Succeeds d) (hp : w.live.pending) :
    Follows env L 6 (updateStateFromResult env d) (fun _ w' => Polled w w')
      (fun _ _ => True) w := by
  refine Follows.getClient (Follows.bind (follows_recoveredUpdates d) ?_)
  rintro updates w₁ hp₁ ⟨hlog₁, hclient₁, hlive₁, change, hamounts, hrecovered, hruns⟩
  rw [← hlive₁] at hrecovered hsite hpath
  refine (follows_persist hamounts (.recovered _ r resp d older last path base
    (hlog₁.trans hlog) hsite hurl hpath hgives hd (by rw [hlive₁]; exact hp) hrecovered)
    (Nat.le_refl 6)).weaken ?_ (fun _ _ _ _ => trivial)
  intro _ w₂ _ h₂
  obtain ⟨name, hname, hlive⟩ := h₂.live
  refine ⟨hclient₁.trans (.of_sameClient h₂.client), ?_, fun hn => ?_, fun h => absurd hp h⟩
  · rw [hlive]
    exact record_named_ne_empty hname
  · rw [hlive, hlive₁] at hn
    exact absurd hn (hruns name)

theorem amounts_notFound (id url : String) :
    Amounts (runNotFoundUpdates id url) (fun p => { p with terminal := false }) :=
  ⟨fun s => updated_notFound s id url, fun _ _ => rfl⟩

theorem amounts_failed (code message : String) :
    Amounts (runFailedUpdates code message) (fun p => { p with terminal := true }) :=
  ⟨fun s => updated_failed s code message, fun _ _ => rfl⟩

theorem amounts_pending (status : String) :
    Amounts [("status", .str status), ("terminal", .bool false)]
      (fun p => { p with terminal := false }) :=
  ⟨fun s => updated_pending s status, fun _ _ => rfl⟩

/-- A saved run is asked for, and answered with a document or not at all. -/
theorem follows_savedRunAnswer (id url : String) {last : Bool}
    (hsite : r.site = .savedRunPoll w.live.step last) (hp : w.live.pending) :
    Follows env L 6 (savedRunAnswer env id url r)
      (fun d w' => ∃ resp older, Gives resp d ∧ w'.log = .received r resp :: older ∧
        w'.client = w.client) (fun _ _ => True) w := by
  have licence : Licensed w r := by
    rw [Licensed, hsite]
    exact ⟨hp, rfl⟩
  have hlevel : r.site.level ≤ 6 := by
    rw [hsite]
    exact Nat.le_refl 6
  refine Follows.bind ((follows_http r licence hlevel).mono (Nat.le_refl 6) (fun _ _ h => h)
    (fun _ _ _ => trivial)) ?_
  rintro resp w₁ - ⟨-, rfl⟩
  have hp₁ : ((w.send r).hear r resp).live.pending := hp
  refine traced_ite (fun _ => ?_) (fun _ => ?_)
  · refine Follows.bind ((follows_persist (amounts_notFound id url) (.notFound hp₁)
      (Nat.le_refl 6)).mono (Nat.le_refl 6) (fun _ _ h => h) (fun _ _ _ => trivial)) ?_
    exact fun _ _ _ _ => Follows.raise trivial
  · exact Follows.ofExcept (fun d hd => ⟨resp, _, gives_of_checkAnswer hd, rfl, rfl⟩)
      (fun _ _ => trivial)

theorem follows_finishSavedRun {older : List Event} (last : Bool) (base path : String)
    (hlog : w.log = .received r resp :: older) (hsite : r.site = .savedRunPoll w.live.step last)
    (hurl : r.url = base ++ path) (hpath : path ∈ savedRunPaths w.live.runId w.live.pollUrl)
    (hgives : Gives resp d) (hd : isFinished d = true) (hp : w.live.pending) :
    Follows env L 6 (finishSavedRun env d) (fun _ w' => Polled w w') (fun _ _ => True) w := by
  refine traced_ite (fun hfail => ?_) (fun hfail => ?_)
  · refine Follows.bind ((follows_persist (amounts_failed _ _)
      (.failed r resp d older last hlog hsite hgives hd hfail hp) (Nat.le_refl 6)).mono
      (Nat.le_refl 6) (fun _ _ h => h) (fun _ _ _ => trivial)) ?_
    exact fun _ _ _ _ => Follows.raise trivial
  · exact follows_updateStateFromResult last base path hlog hsite hurl hpath hgives
      ⟨hd, Bool.not_eq_true _ ▸ hfail⟩ hp

theorem Polled.of_client {a b c : World} (h : Polled b c) (hclient : b.client = a.client)
    (hp : a.live.pending) : Polled a c :=
  ⟨(SameButGap.of_sameClient (.of_eq hclient)).trans h.client, h.record, h.run,
    fun hn => absurd hp hn⟩

/-- The loop over the paths ends with a run that is consumed, or with one that the
    last path reports to be active. -/
theorem follows_pollSavedPaths (path : String) (rest : List String) (lastError : String)
    (hp : w.live.pending)
    (hall : ∀ q ∈ path :: rest, q ∈ savedRunPaths w.live.runId w.live.pollUrl) (id url : String) :
    Follows env L 6 (pollSavedPaths env id url (path :: rest) lastError)
      (fun _ w' => Polled w w') (fun _ _ => True) w := by
  induction rest generalizing path lastError w with
  | nil =>
    refine Follows.getClient (Follows.bind (follows_savedRunAnswer id url rfl hp) ?_)
    rintro d w₁ - ⟨resp, older, hgives, hlog, hclient⟩
    have hlive := live_of_client hclient
    have hp₁ : w₁.live.pending := by rw [hlive]; exact hp
    refine traced_ite (fun hfin => ?_) (fun hfin => ?_)
    · refine (follows_finishSavedRun true w.client.mcpUrl path hlog ?_ rfl ?_ hgives hfin hp₁).mono (Nat.le_refl 6) ?_ (fun _ _ h => h)
      · rw [hlive]; rfl
      · rw [hlive]; exact hall path List.mem_cons_self
      · exact fun _ w' h => h.of_client hclient hp
    · -- the last path has been asked, and the run is still active
      have hopen : isFinished d = false := Bool.not_eq_true _ ▸ hfin
      refine (follows_persist (amounts_pending _)
        (.unfinished _ resp d older hlog ?_ hgives hopen hp₁) (Nat.le_refl 6)).weaken ?_
        (fun _ _ _ _ => trivial)
      · rw [hlive]; rfl
      intro _ w₂ hpath h
      obtain ⟨name, hname, hlive₂⟩ := h.live
      obtain ⟨newer, hext⟩ := hpath.extends
      have hstop : Unfinished w₂.log w₂.live.step := by
        refine ⟨pollRequest w.client (.savedRunPoll w.live.step true) path, resp, d, ?_, ?_,
          hgives, hopen⟩
        · rw [hext, hlog]
          exact List.mem_append_right _ List.mem_cons_self
        · rw [hlive₂, hlive]
          rfl
      have hrecord : w₂.live.record ≠ "" := by
        rw [hlive₂]
        exact record_named_ne_empty hname
      exact Polled.of_client ⟨.of_sameClient h.client, hrecord, fun _ => .inr hstop,
        fun hn => absurd hp₁ hn⟩ hclient hp
  | cons next rest ih =>
    refine Follows.getClient (Follows.bind (follows_savedRunAnswer id url rfl hp) ?_)
    rintro d w₁ - ⟨resp, older, hgives, hlog, hclient⟩
    have hlive := live_of_client hclient
    have hp₁ : w₁.live.pending := by rw [hlive]; exact hp
    refine traced_ite (fun hfin => ?_) (fun _ => ?_)
    · refine (follows_finishSavedRun false w.client.mcpUrl path hlog ?_ rfl ?_ hgives hfin hp₁).mono (Nat.le_refl 6) ?_ (fun _ _ h => h)
      · rw [hlive]; rfl
      · rw [hlive]; exact hall path List.mem_cons_self
      · exact fun _ w' h => h.of_client hclient hp
    · refine (ih next _ hp₁ ?_).mono (Nat.le_refl 6) ?_ (fun _ _ h => h)
      · intro q hq
        rw [hlive]
        exact hall q (List.mem_cons_of_mem _ hq)
      · exact fun _ w' h => h.of_client hclient hp

theorem savedRunPaths_of_named {id url : String} (h : id ≠ "" ∨ url ≠ "") :
    ∃ path rest, savedRunPaths id url = path :: rest := by
  unfold savedRunPaths
  by_cases hurl : url = ""
  · have hid : id ≠ "" := h.resolve_right (fun hne => hne hurl)
    rw [if_pos hurl, if_neg hid, List.nil_append, List.eraseDups_cons]
    exact ⟨_, _, rfl⟩
  · rw [if_neg hurl, List.singleton_append, List.eraseDups_cons]
    exact ⟨_, _, rfl⟩

/-- Without a pending run there is nothing to recover. -/
theorem exec_recoverPendingRun_idle (h : ¬ w.live.pending) :
    exec (recoverPendingRun env) w = (.ok ⟨⟩, w) := by
  unfold recoverPendingRun
  rw [exec_bind_ok (exec_getClient w)]
  by_cases hterm : isTrue (w.client.currentState.get "terminal") = true
  · rw [if_pos hterm]
    rfl
  rw [if_neg hterm]
  have hrun : ¬ (truthy (w.client.currentState.get "run_id")
      || truthy (w.client.currentState.get "poll_url")) = true := by
    rw [truthy_run, decide_eq_true_iff]
    exact fun hnamed => h ⟨hnamed, Bool.not_eq_true _ ▸ hterm⟩
  rw [if_neg hrun]
  rfl

/-- A pending run is asked for along its paths. -/
theorem exec_recoverPendingRun_pending (h : w.live.pending) :
    exec (recoverPendingRun env) w = exec (pollSavedPaths env w.live.runId w.live.pollUrl
      (savedRunPaths w.live.runId w.live.pollUrl) "") w := by
  have hterm : ¬ isTrue (w.client.currentState.get "terminal") = true := by
    rw [Bool.not_eq_true]
    exact h.2
  have hrun : (truthy (w.client.currentState.get "run_id")
      || truthy (w.client.currentState.get "poll_url")) = true := by
    rw [truthy_run, decide_eq_true_iff]
    exact h.1
  have hnone : ¬ (strOr (w.client.currentState.get "run_id") = ""
      ∧ strOr (w.client.currentState.get "poll_url") = "") :=
    fun hnone => h.1.elim (fun hid => hid hnone.1) (fun hurl => hurl hnone.2)
  unfold recoverPendingRun pollSavedRun
  rw [exec_bind_ok (exec_getClient w), if_neg hterm, if_pos hrun, exec_bind_ok (exec_getClient w)]
  show exec (if _ then _ else _) w = _
  rw [if_neg hnone]
  rfl

/-- A saved run that the server answers with a finished document is brought to its end. -/
theorem exec_recoverPendingRun_answered
    (hanswer : ∀ t r step last, r.site = .savedRunPoll step last → env.answer t r = .response resp)
    (hgives : Gives resp d) (hd : isFinished d = true) (h : w.live.pending) :
    ∃ w₁, w₁.client = w.client ∧ w₁.demo = w.demo ∧
      exec (recoverPendingRun env) w = exec (finishSavedRun env d) w₁ := by
  obtain ⟨path, rest, hpaths⟩ := savedRunPaths_of_named h.1
  let r := pollRequest w.client (.savedRunPoll w.live.step rest.isEmpty) path
  have hhttp : exec (http env r) w = (.ok resp, (w.send r).hear r resp) := by
    rw [exec_http, hanswer w.tick r _ _ rfl]
  have hfound : ¬ resp.statusCode = 404 := fun heq => by
    have hs := hgives.1
    omega
  have hrun : exec (savedRunAnswer env w.live.runId w.live.pollUrl r) w
      = (.ok d, (w.send r).hear r resp) := by
    unfold savedRunAnswer
    rw [exec_bind_ok hhttp, if_neg hfound, checkAnswer_of_gives hgives]
    rfl
  refine ⟨(w.send r).hear r resp, rfl, rfl, ?_⟩
  rw [exec_recoverPendingRun_pending h, hpaths]
  unfold pollSavedPaths
  rw [exec_bind_ok (exec_getClient w)]
  show exec (savedRunAnswer env w.live.runId w.live.pollUrl r >>= _) w = _
  rw [exec_bind_ok hrun, if_pos hd]

theorem follows_recoverPendingRun (hrecord : w.live.record ≠ "") :
    Follows env L 6 (recoverPendingRun env) (fun _ w' => Polled w w') (fun _ _ => True) w := by
  have hself : ∀ hrun : w.live.namesRun → w.live.terminal = true, Polled w w := fun hrun =>
    ⟨.refl w, hrecord, fun hn => .inl (hrun hn), fun _ => rfl⟩
  refine Follows.getClient (traced_ite (fun hterm => ?_) (fun hterm => ?_))
  · exact Follows.pure (hself (fun _ => hterm))
  refine traced_ite (fun hrun => ?_) (fun hrun => ?_)
  · rw [truthy_run, decide_eq_true_iff] at hrun
    have hp : w.live.pending := ⟨hrun, Bool.not_eq_true _ ▸ hterm⟩
    have hnamed : w.live.runId ≠ "" ∨ w.live.pollUrl ≠ "" := hrun
    refine Follows.getClient (traced_ite (fun hnone => ?_) (fun _ => ?_))
    · exact absurd hrun (fun h => h.elim (fun h => h hnone.1) (fun h => h hnone.2))
    · obtain ⟨path, rest, hpaths⟩ := savedRunPaths_of_named hnamed
      show Follows env L 6 (pollSavedPaths env w.live.runId w.live.pollUrl
        (savedRunPaths w.live.runId w.live.pollUrl) "") _ _ w
      rw [hpaths]
      exact follows_pollSavedPaths path rest "" hp (fun q hq => by rw [hpaths]; exact hq) _ _
  · rw [truthy_run, decide_eq_true_iff] at hrun
    exact Follows.pure (hself (fun hn => absurd hn hrun))

/-! ## Opening a run -/

/-- A change of the client outside a run: its saved state stays, or is the one on
    disk. -/
theorem Path.reopen (f : Client → Client)
    (hstate : progress (f w.client).currentState = w.live ∨
      w.disk = some (progress (f w.client).currentState))
    (hoperator : (f w.client).operatorGapId = w.client.operatorGapId) :
    Path env L 6 w { w with client := f w.client } :=
  Path.single (Nat.le_refl 6) (Step.opened rfl hstate rfl hoperator)

theorem amounts_inspect (env : Env) (declaration : RepoDeclaration) :
    Amounts (inspectUpdates env declaration) (fun p => { p with
      story := declaration.storyId
      capability := declaration.capabilityId
      repoClass := declaration.repoClass
      terminal := false }) :=
  ⟨fun s => updated_inspect s env declaration, fun _ _ => rfl⟩

theorem follows_inspectRepo (persist : Bool) :
    Follows env L 6 (inspectRepo env persist)
      (fun declaration w' => w'.client.repoDeclaration = some declaration ∧
        (persist = true → w'.live.record ≠ "")) (fun _ _ => True) w := by
  refine Follows.getClient (Follows.bind follows_readRepo ?_)
  rintro content w₁ - ⟨-, rfl⟩
  refine Follows.bind (Follows.ofExcept (Q := fun declaration v => v = w.next ∧
    readRepoDeclaration content env.repoName w.client.storyId w.client.capabilityId
      w.client.repoClass = .ok declaration) (fun _ h => ⟨rfl, h⟩) (fun _ _ => trivial)) ?_
  rintro declaration w₁ - ⟨rfl, hread⟩
  obtain ⟨hcap, hclass⟩ := readRepoDeclaration_named hread
  refine Follows.bind_exec (exec_modifyClient _ _)
    (Path.reopen (fun c => c.withDeclaration declaration) (.inl rfl) rfl) ?_
  cases persist with
  | false =>
    exact Follows.bind (P := fun _ v => v.client.repoDeclaration = some declaration)
      (Follows.pure rfl)
      (fun _ _ _ h => Follows.pure ⟨h, nofun⟩)
  | true =>
    refine Follows.bind ((follows_persist
      (amounts_inspect env declaration)
      (.inspected declaration.storyId _ _ hcap hclass) (Nat.le_refl 6)).mono (Nat.le_refl 6)
      (fun _ _ h => h) (fun _ _ _ => trivial)) ?_
    intro _ w₂ _ h₂
    obtain ⟨name, hname, hlive⟩ := h₂.live
    obtain ⟨record, -, -, -, hclient⟩ := h₂.stored
    refine Follows.pure ⟨?_, fun _ => ?_⟩
    · rw [hclient]
      rfl
    · rw [hlive]
      exact record_named_ne_empty hname

/-- What is known when the last state was loaded. -/
structure Loaded (w : World) (state : SavedState) (w' : World) : Prop where
  live : w'.live = progress state
  disk : w.disk = some (progress state)
  record : w'.live.record ≠ ""
  declaration : w'.client.repoDeclaration.isSome = true

theorem follows_loadLastState :
    Follows env L 6 (loadLastState env) (fun state w' => Loaded w state w')
      (fun _ _ => True) w := by
  refine Follows.bind (P := fun state v => v = w ∧ w.disk = some (progress state) ∧
    (progress state).record ≠ "") ?_ ?_
  · refine Follows.bind_exec (exec_get w) (Path.refl w) ?_
    unfold World.disk
    cases w.latest with
    | absent => exact Follows.raise trivial
    | corrupt => exact Follows.throw trivial
    | notObject => exact Follows.raise trivial
    | saved record => exact Follows.pure ⟨rfl, rfl, record.named⟩
  rintro state w - ⟨rfl, hdisk, hrecord⟩
  refine Follows.bind_exec (exec_modifyClient _ _)
    (Path.reopen (fun c => { c with currentState := state }) (.inr hdisk) rfl) ?_
  refine Follows.getClient (Follows.bind follows_readRepo ?_)
  rintro content w₁ - ⟨-, rfl⟩
  refine Follows.bind (P := fun _ v => v.live = progress state) (Follows.ofExcept
    (fun _ _ => rfl) (fun _ _ => trivial)) ?_
  rintro declaration w₁ - hlive₁
  refine Follows.bind_exec (exec_modifyClient _ _)
    (Path.reopen (fun c => c.withDeclaration declaration) (.inl rfl) rfl) ?_
  refine Follows.bind (P := fun _ v => v.live = progress state ∧
    v.client.repoDeclaration.isSome = true) (traced_ite (fun _ => ?_) (fun _ => ?_)) ?_
  · exact ⟨Path.client (fun c => { c with
      resolvedGapId := _, gapIdSource := _, gapIdClaimableVerified := false }) rfl rfl rfl rfl,
      hlive₁, rfl⟩
  · exact Follows.pure ⟨hlive₁, rfl⟩
  · rintro _ w₂ - ⟨hlive₂, hdeclaration⟩
    exact Follows.pure ⟨hlive₂, hdisk, by rw [hlive₂]; exact hrecord, hdeclaration⟩

/-- A run record is open and the declaration was read. -/
def Opened (w : World) : Prop :=
  w.live.record ≠ "" ∧ w.client.repoDeclaration.isSome = true

theorem follows_openRun (useLastState : Bool) :
    Follows env L 6 (openRun env useLastState) (fun _ w' => Opened w') (fun _ _ => True) w := by
  have hinspect : ∀ v, Follows env L 6 (do let _ ← inspectRepo env true; pure PUnit.unit)
      (fun _ w' => Opened w') (fun _ _ => True) v := fun v =>
    Follows.bind (follows_inspectRepo true) (fun declaration w' _ h =>
      Follows.pure ⟨h.2 rfl, by rw [h.1]; rfl⟩)
  cases useLastState with
  | false => exact hinspect w
  | true =>
    refine Follows.bind (Follows.catchGoverned
      (Q := fun result w' => ∀ state, result = .ok state → Opened w')
      follows_loadLastState ?_ nofun (fun _ _ _ => trivial)) ?_
    · intro state w' h state' hs
      exact ⟨h.record, h.declaration⟩
    · intro result w₁ _ h
      cases result with
      | ok state => exact Follows.pure (h state rfl)
      | error message => exact hinspect w₁

/-! ## The commands -/

/-- What the recovery leaves of a run: none that is named, one that has failed, or one
    that is still active. -/
def Recoverable (w : World) : Prop :=
  w.live.namesRun → w.live.terminal = true ∨ Unfinished w.log w.live.step

theorem follows_discoverAny :
    Follows env L 6 (discover env) (fun _ w' => ∃ capabilities operations,
      w'.client = { w.client with capabilities := capabilities, operations := operations })
      (fun _ _ => True) w :=
  (follows_discover (.inr (Nat.le_refl 6))).mono (Nat.le_refl 6) (fun _ _ h => h.2.2)
    (fun _ _ _ => trivial)

theorem follows_resumeGovernedRepoFlow (useLastState : Bool)
    (hL : ∀ w', Path env L 6 w w' → Recoverable w' → Entered L w') :
    Follows env L 6 (resumeGovernedRepoFlow env useLastState) (fun _ w' => w'.live.ready)
      (fun _ _ => True) w := by
  refine Follows.bind (follows_openRun useLastState) ?_
  rintro _ w₁ hp₁ ⟨hrecord₁, hdeclaration₁⟩
  refine Follows.bind follows_discoverAny ?_
  rintro _ w₂ hp₂ ⟨capabilities, operations, hclient₂⟩
  have hrecord₂ : w₂.live.record ≠ "" := by
    unfold World.live
    rw [hclient₂]
    exact hrecord₁
  refine Follows.bind (follows_recoverPendingRun hrecord₂) ?_
  intro _ w₃ hp₃ h₃
  obtain ⟨state, gapId, source, verified, hclient₃⟩ := h₃.client
  refine Follows.bind (P := fun _ v => v = w₃) (Follows.getClient ?_) ?_
  · have hdeclaration₃ : w₃.client.repoDeclaration.isSome = true := by
      rw [hclient₃, hclient₂]
      exact hdeclaration₁
    cases hd : w₃.client.repoDeclaration with
    | none => rw [hd] at hdeclaration₃; exact nomatch hdeclaration₃
    | some declaration => exact Follows.pure rfl
  rintro declaration w₃ - rfl
  have hentered := hL w₃ (hp₁.trans (hp₂.trans hp₃)) h₃.run
  refine Follows.bind ((follows_stages h₃.record hentered).mono (by decide) (fun _ _ h => h)
    (fun _ _ h => h)) ?_
  exact fun _ w₄ _ h₄ => Follows.getClient (Follows.pure h₄.ready)

/-- Every command follows the protocol. -/
theorem follows_flow (command : Command)
    (hL : ∀ w', Path env L 6 w w' → Recoverable w' → Entered L w') :
    Follows env L 6 (command.flow env) (fun _ _ => True) (fun _ _ => True) w := by
  cases command with
  | inspect persist =>
    exact Follows.bind (follows_inspectRepo persist) (fun _ _ _ _ => Follows.pure trivial)
  | resume useLastState =>
    exact (follows_resumeGovernedRepoFlow useLastState hL).mono (Nat.le_refl 6)
      (fun _ _ _ => trivial) (fun _ _ h => h)
  | run dryRun =>
    refine Follows.bind (follows_inspectRepo false) ?_
    intro declaration w₁ hp₁ _
    refine Follows.bind follows_discoverAny ?_
    intro _ w₂ hp₂ _
    refine traced_ite (fun _ => ?_) (fun _ => ?_)
    · refine Follows.bind (P := fun _ _ => True) (Follows.getClient (traced_ite
        (fun _ => Follows.pure trivial) (fun _ => ?_))) ?_
      · exact (follows_resolveGapId).mono (by decide) (fun _ _ _ => trivial)
          (fun _ _ _ => trivial)
      · exact fun _ _ _ _ => Follows.getClient (Follows.pure trivial)
    · exact (follows_resumeGovernedRepoFlow true
        (fun w' hp => hL w' (hp₁.trans (hp₂.trans hp)))).mono (Nat.le_refl 6)
        (fun _ _ _ => trivial) (fun _ _ h => h)
  | status =>
    refine Follows.bind follows_loadLastState ?_
    intro state w₁ _ h₁
    refine Follows.bind follows_discoverAny ?_
    rintro _ w₂ _ ⟨capabilities, operations, hclient⟩
    have hrecord : w₂.live.record ≠ "" := by
      unfold World.live
      rw [hclient]
      exact h₁.record
    refine Follows.bind (follows_recoverPendingRun hrecord) ?_
    exact fun _ _ _ _ => Follows.getClient (Follows.pure trivial)
  | receipt =>
    refine Follows.bind follows_loadLastState ?_
    exact fun _ _ _ _ => traced_ite (fun _ => Follows.raise trivial)
      (fun _ => Follows.pure trivial)

end KeyholeFlow
