import Keyhole.FlowSimulation

/-!
# The stages follow the protocol

The methods behind the five stages of `resume_governed_repo_flow`, from the bottom
up: each is a path of the level of its stage, and leaves what the next one needs. -/

namespace KeyholeFlow

open KeyholeJson KeyholeRedaction KeyholeEnvelope KeyholeGaps KeyholeOperations KeyholeRepo
  EffectProgram

variable {env : Env} {L : Lingering} {n : Nat} {w : World}

/-! ## Digests and discovery -/

theorem follows_currentCanonicalDigest :
    Follows env L n (currentCanonicalDigest env) (fun _ w' => w'.client = w.client)
      (fun e _ => ∃ f, e = .fault f) w := by
  refine traced_tryCatch (@Path.trans env L n) (F := fun _ w' => w'.client = w.client) ?_ ?_
  · refine Follows.getClient (Follows.bind
      ((follows_http _ (by exact trivial) (Nat.zero_le n)).mono (Nat.le_refl n) (fun _ _ h => h)
        (fun _ _ h => h.2)) ?_)
    rintro resp w' - ⟨-, rfl⟩
    refine traced_ite (fun _ => Follows.pure rfl) (fun _ => ?_)
    refine Follows.bind (Follows.ofExcept (Q := fun _ v => v = (w.send _).hear _ resp)
      (fun _ _ => rfl) (fun _ _ => rfl)) ?_
    rintro data w' - rfl
    exact traced_ite (fun _ => Follows.pure rfl) (fun _ => Follows.pure rfl)
  · intro e w' _ hclient
    cases e with
    | governed m => exact Follows.pure hclient
    | fault f =>
      cases f with
      | raised t => exact Follows.pure hclient
      | killed => exact Follows.throw ⟨.killed, rfl⟩

/-- The clients differ in their saved state and in what discovery found at most. -/
def SameConfig (w w' : World) : Prop :=
  ∃ capabilities operations state, w'.client = { w.client with
    capabilities := capabilities, operations := operations, currentState := state }

theorem follows_requireAll (names : List String) {E : Err → World → Prop} (hE : ∀ e, E e w) :
    Follows env L n (requireAll names) (fun _ w' => w' = w ∧
      ∀ name ∈ names, (w.client.operations.lookup name).isSome = true) E w := by
  refine Follows.getClient ?_
  unfold requireOperations
  cases h : missingOperations w.client.operations names with
  | cons x xs => exact Follows.raise (hE _)
  | nil =>
    refine Follows.pure ⟨rfl, fun name hname => ?_⟩
    have hnot := List.filter_eq_nil_iff.mp h name hname
    cases hl : w.client.operations.lookup name with
    | some op => rfl
    | none => rw [hl] at hnot; exact absurd rfl hnot

theorem follows_checkOperations (data : Dict) :
    Follows env L n (checkOperations data) (fun _ w' => w' = w ∧
      ∀ name ∈ ["repo.register", "context.compile", "governed.realize"],
        (w.client.operations.lookup name).isSome = true) (fun _ w' => w' = w) w := by
  refine Follows.bind (P := fun _ v => v = w) (traced_ite
    (fun _ => (follows_requireAll _ (E := fun _ v => v = w) (fun _ => rfl)).mono
      (Nat.le_refl n) (fun _ _ h => h.1) (fun _ _ h => h))
    (fun _ => Follows.pure rfl)) ?_
  rintro _ w' - rfl
  exact follows_requireAll _ (fun _ => rfl)

/-- Discovery changes what the client knows of the server only.  It is a step of the
    first five levels when nothing was known. -/
theorem follows_discover (h : w.client.operations = [] ∨ 6 ≤ n) :
    Follows env L n (discover env)
      (fun _ w' => w'.latest = w.latest ∧
        (∀ name ∈ ["repo.register", "context.compile", "governed.realize"],
          (w'.client.operations.lookup name).isSome = true) ∧
        ∃ capabilities operations, w'.client = { w.client with
          capabilities := capabilities, operations := operations })
      (fun _ w' => w'.live = w.live) w := by
  refine Follows.getClient (Follows.bind
    ((follows_http _ (by exact trivial) (Nat.zero_le n)).mono (Nat.le_refl n) (fun _ _ h => h)
      (fun _ _ h => live_of_client h.2)) ?_)
  rintro resp w' - ⟨-, rfl⟩
  refine Follows.bind (Follows.ofExcept (Q := fun _ v => v = (w.send _).hear _ resp)
    (fun _ _ => rfl) (fun _ _ => rfl)) ?_
  rintro _ w' - rfl
  refine Follows.bind (Follows.ofExcept (Q := fun _ v => v = (w.send _).hear _ resp)
    (fun _ _ => rfl) (fun _ _ => rfl)) ?_
  rintro raw w' - rfl
  refine Follows.bind_exec (exec_modifyClient _ _)
    (Path.client (fun c => { c with capabilities := unwrapMcpEnvelope raw }) rfl rfl rfl rfl) ?_
  cases hops : extractOperations raw with
  | none => exact Follows.throw rfl
  | some operations =>
    refine Follows.bind_exec (exec_modifyClient _ _) ?_ ?_
    · rcases h with hempty | h6
      · exact Path.silent rfl rfl rfl ⟨rfl, rfl, fun hne => absurd hempty hne⟩
      · exact Path.single h6 (Step.opened rfl (.inl rfl) rfl rfl)
    · refine (follows_checkOperations _).mono (Nat.le_refl n) ?_ ?_
      · rintro _ w' ⟨rfl, hall⟩
        exact ⟨rfl, hall, _, _, rfl⟩
      · rintro _ w' rfl
        rfl

theorem follows_ensureDiscovered :
    Follows env L n (ensureDiscovered env)
      (fun _ w' => ∃ capabilities operations, w'.client = { w.client with
        capabilities := capabilities, operations := operations })
      (fun _ _ => True) w := by
  refine Follows.getClient (traced_ite (fun hempty => ?_) (fun _ => Follows.pure ⟨_, _, rfl⟩))
  exact (follows_discover (.inl (List.isEmpty_iff.mp hempty))).mono (Nat.le_refl n)
    (fun _ _ h => h.2.2) (fun _ _ _ => trivial)

/-! ## The gap -/

/-- The clients differ in their saved state and in the resolved gap at most. -/
def SameButGap (w w' : World) : Prop :=
  ∃ state gapId source verified, w'.client = { w.client with
    currentState := state, resolvedGapId := gapId, gapIdSource := source
    gapIdClaimableVerified := verified }

theorem SameButGap.refl (w : World) : SameButGap w w := ⟨_, _, _, _, rfl⟩

variable {w w' a b c : World} {data : Dict}

theorem SameButGap.trans (h : SameButGap a b) (h' : SameButGap b c) :
    SameButGap a c := by
  obtain ⟨s, g, src, v, hb⟩ := h
  obtain ⟨s', g', src', v', hc⟩ := h'
  exact ⟨s', g', src', v', by rw [hc, hb]⟩

theorem SameButGap.of_sameClient (h : SameClient w w') : SameButGap w w' := by
  obtain ⟨s, hs⟩ := h
  exact ⟨s, _, _, _, hs⟩

/-- What is known after looking for a gap, found or not. -/
structure Searched (w w' : World) : Prop where
  client : SameButGap w w'
  tame : Tame w w'

theorem Searched.refl (w : World) : Searched w w := ⟨.refl w, .refl w⟩

theorem Searched.trans (h : Searched a b) (h' : Searched b c)
    (hp : Path env L n b c) : Searched a c :=
  ⟨h.client.trans h'.client, h.tame.trans h'.tame hp⟩

/-- A change of the gap the client has in mind. -/
theorem follows_gapClient (f : Client → Client)
    (hf : ∀ c, ∃ gapId source verified, f c = { c with
      resolvedGapId := gapId, gapIdSource := source, gapIdClaimableVerified := verified })
    {E : Err → World → Prop} :
    Follows env L n (modifyClient f) (fun _ w' => Searched w w') E w := by
  obtain ⟨gapId, source, verified, hc⟩ := hf w.client
  have hpath : Path env L n w { w with client := f w.client } :=
    Path.client f (by rw [hc]) (by rw [hc]) (by rw [hc]) (by rw [hc])
  refine ⟨hpath, ⟨⟨w.client.currentState, gapId, source, verified, hc⟩, Tame.of_live ?_⟩⟩
  show progress (f w.client).currentState = _
  rw [hc]
  rfl

theorem follows_runGapDiscovery (op : BoundaryOperation) (params : Dict) :
    Follows env L 1 (runGapDiscovery env op params) (fun _ w' => Searched w w')
      (fun _ w' => Searched w w') w := by
  refine Follows.getClient (Follows.bind (follows_headers false) ?_)
  rintro hs w₁ - ⟨-, -, hclient⟩
  have h₁ : Searched w w₁ :=
    ⟨.of_sameClient (.of_eq hclient), Tame.of_live (live_of_client hclient)⟩
  refine Follows.bind ((follows_submit .gapDiscovery rfl
    (by exact trivial) (Nat.le_refl 1)).weaken (fun _ _ _ h => h) ?_) ?_
  · intro e w₂ hp hf
    exact h₁.trans ⟨.of_sameClient hf.client, hf.tame rfl⟩ hp
  · intro data w₂ hp hd
    have h₂ : Searched w w₂ :=
      h₁.trans ⟨.of_sameClient hd.client, hd.tame (by decide)⟩ hp
    cases selectGapId data (gapQuery env w.client) with
    | ok g => exact Follows.pure h₂
    | error message => exact Follows.raise h₂

theorem follows_discoverWithoutStory (op : BoundaryOperation) (params : Dict)
    (earlier : Option String) :
    Follows env L 1 (discoverWithoutStory env op params earlier) (fun _ w' => Searched w w')
      (fun _ w' => Searched w w') w := by
  refine Follows.bind (Follows.catchGoverned (Q := fun _ w' => Searched w w')
    (follows_runGapDiscovery op _) (fun _ _ h => h) (fun _ _ h => h) (fun _ _ h => h)) ?_
  intro result w' _ h
  cases result with
  | ok g => exact Follows.pure h
  | error message => exact Follows.raise h

theorem follows_discoverGapId :
    Follows env L 1 (discoverGapId env) (fun _ w' => Searched w w')
      (fun _ w' => Searched w w') w := by
  refine Follows.getClient ?_
  cases gapDiscoveryOperation w.client.capabilities with
  | none => exact Follows.raise (.refl w)
  | some op =>
    refine Follows.bind (Follows.catchGoverned (Q := fun _ w' => Searched w w')
      (follows_runGapDiscovery op _) (fun _ _ h => h) (fun _ _ h => h) (fun _ _ h => h)) ?_
    intro result w₁ hp₁ h₁
    have hfallback : ∀ earlier, Follows env L 1
        (discoverWithoutStory env op (discoveryParams env w.client) earlier)
        (fun _ w' => Searched w w') (fun _ w' => Searched w w') w₁ := fun earlier =>
      (follows_discoverWithoutStory op _ earlier).weaken
        (fun _ _ hp h => h₁.trans h hp) (fun _ _ hp h => h₁.trans h hp)
    cases result with
    | error message =>
      exact traced_ite (fun _ => Follows.raise h₁) (fun _ => hfallback _)
    | ok g =>
      exact traced_ite (fun _ => Follows.pure h₁)
        (fun _ => traced_ite (fun _ => hfallback none) (fun _ => Follows.pure h₁))

/-- What is known once a gap is resolved: it is not empty, and it is the operator's
    when there is one. -/
structure Resolved (w : World) (gapId : String) (w' : World) : Prop where
  searched : Searched w w'
  gap : gapId ≠ ""
  operator : w.client.operatorGapId ≠ "" → gapId = w.client.operatorGapId

theorem follows_setGap (gapId source : String) {E : Err → World → Prop} :
    Follows env L n (setGap gapId source) (fun _ w' => Searched w w') E w :=
  follows_gapClient _ (fun c => ⟨gapId, source, c.gapIdClaimableVerified, rfl⟩)

theorem follows_resolveListedGapId :
    Follows env L 1 (resolveListedGapId env) (fun g w' => Searched w w' ∧ g ≠ "")
      (fun _ w' => Searched w w') w := by
  refine Follows.bind (follows_discoverGapId) ?_
  intro g w₁ _ h₁
  refine traced_ite (fun hg => ?_) (fun _ => Follows.getClient (Follows.raise h₁))
  refine Follows.bind (follows_setGap g "gaps.list") ?_
  exact fun _ w₂ hp h₂ => Follows.pure ⟨h₁.trans h₂ hp, hg⟩

theorem follows_resolveGapIdBase :
    Follows env L 1 (resolveGapIdBase env) (fun g w' => Searched w w' ∧ g ≠ "")
      (fun _ w' => Searched w w') w := by
  refine Follows.getClient ?_
  refine traced_ite (fun h => Follows.pure ⟨.refl w, h⟩) (fun _ => ?_)
  refine traced_ite (fun ho => ?_) (fun _ => ?_)
  · -- whether the given id looks like one does not matter
    generalize startsWith (strip env.gapOverride) "gap_" = canonical
    refine traced_ite (fun _ => ?_) (fun _ => Follows.raise (.refl w))
    exact Follows.bind (follows_setGap _ _) (fun _ w₁ _ h₁ => Follows.pure ⟨h₁, ho⟩)
  · refine traced_ite (fun he => ?_) (fun _ => follows_resolveListedGapId)
    exact Follows.bind (follows_setGap _ _) (fun _ w₁ _ h₁ => Follows.pure ⟨h₁, he⟩)

theorem follows_resolveGapId :
    Follows env L 1 (resolveGapId env) (fun g w' => Resolved w g w')
      (fun _ w' => Searched w w') w := by
  refine Follows.getClient ?_
  refine traced_ite (fun hop => ?_) (fun hop => ?_)
  · refine traced_ite (fun _ => ?_) (fun _ => Follows.raise (.refl w))
    refine Follows.bind (follows_setGap _ _) (fun _ w₁ _ h₁ => ?_)
    refine Follows.bind (follows_gapClient _
      (fun c => ⟨c.resolvedGapId, c.gapIdSource, true, rfl⟩)) (fun _ w₂ hp₂ h₂ => ?_)
    exact Follows.pure ⟨h₁.trans h₂ hp₂, hop, fun _ => rfl⟩
  · refine Follows.bind (Follows.catchGoverned
      (Q := fun r w' => Searched w w' ∧ ∀ g, r = .ok g → g ≠ "") follows_resolveGapIdBase
      (fun g _ h => ⟨h.1, fun _ hg => by cases hg; exact h.2⟩)
      (fun _ _ h => ⟨h, nofun⟩) (fun _ _ h => h)) ?_
    rintro result w₁ hp₁ ⟨h₁, hne⟩
    cases result with
    | error message => exact Follows.raise h₁
    | ok g =>
      refine Follows.bind (follows_gapClient _
        (fun c => ⟨c.resolvedGapId, c.gapIdSource, _, rfl⟩)) (fun _ w₂ hp₂ h₂ => ?_)
      exact Follows.pure ⟨h₁.trans h₂ hp₂, hne g rfl, fun h => absurd h hop⟩

theorem Persists.tame {q : Progress} (h : Persists q w w')
    (hq : q.namesRun → w.live.namesRun) : Tame w w' := by
  obtain ⟨name, -, hlive⟩ := h.live
  intro hn
  rw [hlive] at hn
  exact .inl (hq hn)

/-- A run that is named at a direct step has a reason when one that was named at the
    beginning had. -/
theorem Tame.licence (h : Tame w w') (hp : Path env L n w w')
    (hL : w.live.namesRun → L.holds w.log ∨ Loose w.log) : w'.live.namesRun → L.holds w'.log ∨ Loose w'.log := by
  intro hn
  rcases h hn with hw | hl
  · rcases hL hw with hL | hl
    · obtain ⟨newer, hlog⟩ := hp.extends
      rw [hlog]
      exact .inl (L.mono newer w.log hL)
    · exact .inr (hl.of_path hp)
  · exact .inr hl

theorem follows_caughtGapId :
    Follows env L 1 (catchGoverned (resolveGapId env))
      (fun r w' => Searched w w' ∧ ∀ g, r = .ok g →
        g ≠ "" ∧ (w.client.operatorGapId ≠ "" → g = w.client.operatorGapId))
      (fun _ _ => True) w := by
  refine Follows.catchGoverned (follows_resolveGapId) ?_ ?_ (fun _ _ _ => trivial)
  · intro g w' h
    refine ⟨h.searched, fun g' hg => ?_⟩
    cases hg
    exact ⟨h.gap, h.operator⟩
  · exact fun _ w' h => ⟨h, nofun⟩

theorem follows_refreshCachedGapClaimability (hL : w.live.namesRun → L.holds w.log ∨ Loose w.log) :
    Follows env L 1 (refreshCachedGapClaimability env) (fun _ w' => Searched w w')
      (fun _ _ => True) w := by
  refine Follows.getClient ?_
  refine traced_ite (fun _ => Follows.pure (.refl w)) (fun hop => ?_)
  refine traced_ite (fun _ => Follows.pure (.refl w)) (fun _ => ?_)
  refine Follows.bind (follows_gapClient _
    (fun c => ⟨"", c.gapIdSource, c.gapIdClaimableVerified, rfl⟩)) (fun _ w₁ hp₁ h₁ => ?_)
  refine Follows.bind follows_caughtGapId ?_
  rintro result w₂ hp₂ ⟨hs₂, hgap⟩
  have h₂ := h₁.trans hs₂ hp₂
  have hoperator : w₂.client.operatorGapId = w₁.client.operatorGapId :=
    (hp₂.keeps (by decide)).operator
  cases result with
  | error message =>
    refine Follows.bind (follows_gapClient _
      (fun c => ⟨_, c.gapIdSource, c.gapIdClaimableVerified, rfl⟩)) (fun _ w₃ hp₃ h₃ => ?_)
    have h : Searched w w₃ := h₂.trans h₃ hp₃
    have hrun := h.tame.licence (hp₁.trans (hp₂.trans hp₃)) hL
    refine Follows.bind ((follows_persist (amounts_noClaimable message)
      (.gap w₃.live.gap "gap_resolved" (.inl rfl) (.inl rfl) hrun)
      (Nat.le_refl 1)).mono (Nat.le_refl 1) (fun _ _ h => h) (fun _ _ _ => trivial)) ?_
    exact fun _ _ _ _ => Follows.raise trivial
  | ok g =>
    have hrun := h₂.tame.licence (hp₁.trans hp₂) hL
    refine traced_ite (fun _ => Follows.getClient ?_) (fun _ => Follows.pure h₂)
    refine (follows_persist (amounts_gap g _)
      (.gap g "gap_resolved" (.inl rfl) (.inr ⟨(hgap g rfl).1, fun ho => ?_⟩) hrun)
      (Nat.le_refl 1)).weaken ?_ (fun _ _ _ _ => trivial)
    · rw [hoperator] at ho ⊢
      exact (hgap g rfl).2 ho
    · intro _ w₃ hp₃ h₃
      exact h₂.trans ⟨.of_sameClient h₃.client, h₃.tame id⟩ hp₃

/-! ## The claim -/

/-- Nothing but the step and the named run has changed, and no run is named without
    a reason. -/
structure Quiet (w w' : World) : Prop where
  client : SameClient w w'
  results : SameResults w.live w'.live
  tame : Tame w w'

theorem Quiet.refl (w : World) : Quiet w w := ⟨.refl w, .refl _, .refl w⟩

theorem Quiet.trans (h : Quiet a b) (h' : Quiet b c) (hp : Path env L n b c) : Quiet a c :=
  ⟨h.client.trans h'.client, h.results.trans h'.results, h.tame.trans h'.tame hp⟩

theorem Quiet.of_client (h : w'.client = w.client) : Quiet w w' :=
  ⟨.of_eq h, by rw [live_of_client h]; exact .refl _, Tame.of_live (live_of_client h)⟩

theorem Quiet.searched (h : Quiet w w') : Searched w w' :=
  ⟨.of_sameClient h.client, h.tame⟩

theorem Settles.quiet {action : Action} {r : Request} {d : Dict}
    (h : Settles action r w d w') (ha : action ≠ .realization) : Quiet w w' :=
  ⟨h.client, h.results, h.tame ha⟩

theorem Quiet.claimed (h : Quiet w w') : w'.live.claimed ↔ w.live.claimed := by
  rw [h.results]
  exact Iff.rfl

theorem follows_compilePreclaimContext (hclaim : ¬w.live.claimed) (hn : 2 ≤ n) :
    Follows env L n (compilePreclaimContext env) (fun _ w' => Quiet w w')
      (fun _ _ => True) w := by
  refine Follows.bind (follows_requireOperation _ (fun _ => trivial)) ?_
  rintro op w' - ⟨rfl, -⟩
  refine Follows.getClient (Follows.bind (follows_headers true) ?_)
  rintro hs w₁ - ⟨-, -, hclient⟩
  have h₁ : Quiet w' w₁ := .of_client hclient
  refine Follows.bind ((follows_submit .preclaimCompile rfl ?_ hn).weaken
    (fun _ _ _ h => h) (fun _ _ _ _ => trivial)) ?_
  · refine ⟨fun h => hclaim (h₁.claimed.mp h), ?_⟩
    rw [hclient]
    simp [Request.gap, Request.params, operationRequest, Dict.child]
  · intro data w₂ hp hd
    have h₂ := h₁.trans (hd.quiet (by decide)) hp
    exact traced_ite (fun _ => Follows.raise trivial) (fun _ => Follows.pure h₂)

theorem follows_claimContextDigest (hclaim : ¬w.live.claimed) (hn : 2 ≤ n) :
    Follows env L n (claimContextDigest env) (fun _ w' => Quiet w w') (fun _ _ => True) w := by
  refine Follows.bind ((follows_currentCanonicalDigest).mono (Nat.le_refl n) (fun _ _ h => h)
    (fun _ _ _ => trivial)) ?_
  intro digest w₁ _ hclient
  have h₁ : Quiet w w₁ := .of_client hclient
  refine traced_ite (fun _ => ?_) (fun _ => Follows.pure h₁)
  exact (follows_compilePreclaimContext (fun h => hclaim (h₁.claimed.mp h)) hn).weaken
    (fun _ _ hp h => h₁.trans h hp) (fun _ _ _ _ => trivial)

/-- The way to a claim: a path on which no claim was taken. -/
structure Unclaimed (env : Env) (L : Lingering) (w w' : World) : Prop where
  path : Path env L 2 w w'
  unclaimed : ¬w'.live.claimed
  tame : Tame w w'

/-- A stretch of level 1 on the way to a claim. -/
theorem Unclaimed.search (h : Unclaimed env L w a) (hp : Path env L 1 a b)
    (ht : Tame a b) : Unclaimed env L w b where
  path := h.path.trans (hp.mono (by decide))
  unclaimed := by
    obtain ⟨hid, href⟩ := hp.frame.claim (Nat.le_refl 1)
    unfold Progress.claimed
    rw [hid, href]
    exact h.unclaimed
  tame := h.tame.trans ht hp

theorem Unclaimed.quiet (h : Unclaimed env L w a) (hp : Path env L 2 a b)
    (hq : Quiet a b) : Unclaimed env L w b where
  path := h.path.trans hp
  unclaimed := fun hb => h.unclaimed (hq.claimed.mp hb)
  tame := h.tame.trans hq.tame hp

theorem Unclaimed.of_live (h : Unclaimed env L w a) (hp : Path env L 2 a b)
    (hl : b.live = a.live) : Unclaimed env L w b where
  path := h.path.trans hp
  unclaimed := by rw [hl]; exact h.unclaimed
  tame := h.tame.trans (Tame.of_live hl) hp

/-- What is known about a claim that was taken: the settled answer it was read from,
    and its gap. -/
structure Claimed (w : World) (taken : Claim) (w' : World) : Prop where
  settled : ∃ older r d how, Settled w'.log older w.live.record r .gapClaim d how ∧
    taken.claimId = extractClaimId d ∧ taken.claimRef = extractClaimRef d
  some : taken.claimId ≠ "" ∨ taken.claimRef ≠ ""
  gap : taken.gapId ≠ ""
  operator : w.client.operatorGapId ≠ "" → taken.gapId = w.client.operatorGapId
  tame : Tame w w'

theorem claimOf_ok {gapId source digest : String} {taken : Claim}
    (h : claimOf data gapId source digest = .ok taken) :
    (taken.claimId = extractClaimId data ∧ taken.claimRef = extractClaimRef data) ∧
      (taken.claimId ≠ "" ∨ taken.claimRef ≠ "") ∧ taken.gapId = gapId := by
  unfold claimOf at h
  by_cases hnone : extractClaimId data = "" ∧ extractClaimRef data = ""
  · rw [if_pos hnone] at h
    exact nomatch h
  · rw [if_neg hnone] at h
    cases h
    refine ⟨⟨rfl, rfl⟩, ?_, rfl⟩
    by_cases hid : extractClaimId data = ""
    · exact .inr (fun href => hnone ⟨hid, href⟩)
    · exact .inl hid

theorem follows_claimGap (hclaim : ¬w.live.claimed) (hrecord : w.live.record ≠ "")
    (hL : w.live.namesRun → L.holds w.log ∨ Loose w.log) :
    Follows env L 2 (claimGap env) (fun taken w' => Claimed w taken w') (fun _ _ => True) w := by
  have h₀ : Unclaimed env L w w := ⟨.refl w, hclaim, .refl w⟩
  refine Follows.bind ((follows_refreshCachedGapClaimability hL).lift (by decide)) ?_
  rintro _ w₁ - ⟨hp₁, hs₁⟩
  have h₁ := h₀.search hp₁ hs₁.tame
  refine Follows.bind follows_ensureDiscovered ?_
  rintro _ w₂ hp₂ ⟨capabilities, operations, hclient₂⟩
  have h₂ := h₁.of_live hp₂ (by unfold World.live; rw [hclient₂])
  refine Follows.bind (follows_requireOperation _ (fun _ => trivial)) ?_
  rintro op w₂ - ⟨rfl, -⟩
  refine Follows.bind follows_readRepo ?_
  rintro content w₃ hp₃ ⟨-, rfl⟩
  have h₃ := h₂.of_live hp₃ rfl
  refine Follows.bind (Follows.ofExcept (Q := fun _ v => v = w₂.next) (fun _ _ => rfl)
    (fun _ _ => trivial)) ?_
  rintro _ w₃ - rfl
  refine Follows.bind (follows_claimContextDigest h₃.unclaimed (Nat.le_refl 2)) ?_
  intro digest w₄ hp₄ hq₄
  have h₄ := h₃.quiet hp₄ hq₄
  refine Follows.bind (((follows_resolveGapId).lift (by decide)).mono (Nat.le_refl 2)
    (fun _ _ h => h) (fun _ _ _ => trivial)) ?_
  rintro gapId w₅ - ⟨hp₅, hr₅⟩
  have h₅ := h₄.search hp₅ hr₅.searched.tame
  have hop₄ := (h₄.path.keeps (by decide)).operator
  have hop₅ := (h₅.path.keeps (by decide)).operator
  have hgap : w.client.operatorGapId ≠ "" → gapId = w.client.operatorGapId := by
    rw [← hop₄]
    exact hr₅.operator
  refine Follows.getClient (Follows.bind (follows_headers true) ?_)
  rintro hs w₆ hp₆ ⟨-, -, hclient₆⟩
  have h₆ := h₅.of_live hp₆ (live_of_client hclient₆)
  refine Follows.bind ((follows_submit .gapClaim rfl ?_ (Nat.le_refl 2)).weaken
    (fun _ _ _ h => h) (fun _ _ _ _ => trivial)) ?_
  · refine ⟨h₆.unclaimed, fun ho => ?_⟩
    rw [hclient₆, hop₅] at ho ⊢
    rw [← hgap ho]
    simp [Request.gap, Request.params, operationRequest, claimPayload, Dict.child]
  · intro data w₇ hp₇ hd
    have h₇ := h₆.path.trans hp₇
    obtain ⟨how, hsettled⟩ := hd.settled
    have hrec : w₆.record = w.live.record := h₆.path.frame.record (by decide) hrecord
    refine Follows.getClient (Follows.ofExcept (fun taken htaken => ?_) (fun _ _ => trivial))
    obtain ⟨hread, hsome, hg⟩ := claimOf_ok htaken
    rw [hrec] at hsettled
    exact ⟨⟨_, _, _, how, hsettled, hread⟩, hsome, by rw [hg]; exact hr₅.gap,
      fun ho => hg.trans (hgap ho), h₆.tame.trans (hd.tame (by decide)) hp₇⟩

/-! ## The registration -/

/-- With a claim held, a registration is sent with the saved one. -/
theorem follows_registrationClaim (hclaim : w.live.claimed) (hgap : w.live.gap ≠ "") :
    Follows env L n (registrationClaim env)
      (fun claim w' => w'.client = w.client ∧ claim.claimId = w.live.claimId ∧
        claim.claimRef = w.live.claimRef ∧ claim.gapId = w.live.gap) (fun _ _ => True) w := by
  have hsaved : (savedClaim w.client).gapId = w.live.gap := by
    show strOr (orElse _ _) = _
    rw [strOr_orElse]
    exact if_neg hgap
  refine Follows.bind (P := fun claim v => claim = savedClaim w.client ∧ v = w)
    (Follows.getClient (traced_ite (fun hnone => ?_) (fun _ => Follows.pure ⟨rfl, rfl⟩))) ?_
  · exact absurd hclaim (fun h => h.elim (fun h => h hnone.1) (fun h => h hnone.2.1))
  · rintro claim w' - ⟨rfl, rfl⟩
    refine traced_ite (fun _ => ?_) (fun _ => Follows.pure ⟨rfl, rfl, rfl, hsaved⟩)
    refine Follows.bind ((follows_currentCanonicalDigest).mono (Nat.le_refl n) (fun _ _ h => h)
      (fun _ _ _ => trivial)) ?_
    exact fun digest w₁ _ hclient => Follows.pure ⟨hclient, rfl, rfl, hsaved⟩

theorem follows_currentDeclaration :
    Follows env L n (currentDeclaration env) (fun _ w' => w'.client = w.client)
      (fun _ _ => True) w := by
  refine Follows.getClient ?_
  cases w.client.repoDeclaration with
  | some declaration => exact Follows.pure rfl
  | none =>
    refine Follows.bind follows_readRepo ?_
    rintro content w' - ⟨-, rfl⟩
    exact Follows.ofExcept (fun _ _ => rfl) (fun _ _ => trivial)

theorem follows_legacyPathDigest (op : BoundaryOperation) :
    Follows env L n (legacyPathDigest env op) (fun _ w' => w'.client = w.client)
      (fun _ _ => True) w := by
  refine traced_ite (fun _ => Follows.bind follows_readRepo ?_) (fun _ => Follows.pure rfl)
  rintro content w' - ⟨-, rfl⟩
  exact Follows.pure rfl

/-- What is known about a registration that succeeded. -/
structure RegisteredAs (w : World) (registration : Registration) (w' : World) : Prop where
  settled : ∃ older r d how, Settled w'.log older w.live.record r .registration d how ∧
    extractRegistrationId d ≠ "" ∧ registration.registrationId = extractRegistrationId d
  claimId : registration.claim.claimId = w.live.claimId
  claimRef : registration.claim.claimRef = w.live.claimRef
  gap : registration.claim.gapId = w.live.gap
  results : SameResults w.live w'.live
  tame : Tame w w'

theorem registrationOf_ok {claim : Claim} {registration : Registration}
    (h : registrationOf data claim = .ok registration) :
    extractRegistrationId data ≠ "" ∧
      registration.registrationId = extractRegistrationId data ∧ registration.claim = claim := by
  unfold registrationOf at h
  by_cases hid : extractRegistrationId data = ""
  · rw [if_pos hid] at h
    exact nomatch h
  · rw [if_neg hid] at h
    cases h
    exact ⟨hid, rfl, rfl⟩

theorem gap_of_registrationPayload (c : Client) (declaration : RepoDeclaration)
    {op : BoundaryOperation} {claim : Claim} (pathDigest : String)
    (hs : List (String × String)) (hop : op.runType ≠ "") (hgap : claim.gapId ≠ "") :
    Request.gap (operationRequest c (.submit .registration) op hs
      (buildGenericRegistrationPayload c declaration op claim pathDigest)) = .str claim.gapId := by
  simp [Request.gap, Request.params, operationRequest, buildGenericRegistrationPayload,
    Dict.child, hop, hgap]

theorem follows_registerRepo (hnone : w.live.registration = "") (hclaim : w.live.claimed)
    (hgap : w.live.gap ≠ "") :
    Follows env L 3 (registerRepo env) (fun registration w' => RegisteredAs w registration w')
      (fun _ _ => True) w := by
  refine Follows.bind follows_ensureDiscovered ?_
  rintro _ w₁ hp₁ ⟨capabilities, operations, hclient₁⟩
  have hlive₁ : w₁.live = w.live := by unfold World.live; rw [hclient₁]
  refine Follows.bind (follows_requireOperation _ (fun _ => trivial)) ?_
  rintro op w₁ - ⟨rfl, hlookup⟩
  refine Follows.bind (follows_registrationClaim (by rw [hlive₁]; exact hclaim)
    (by rw [hlive₁]; exact hgap)) ?_
  rintro claim w₂ hp₂ ⟨hclient₂, hid, href, hclaimGap⟩
  rw [hlive₁] at hid href hclaimGap
  refine Follows.bind follows_currentDeclaration ?_
  intro declaration w₃ hp₃ hclient₃
  refine Follows.bind (follows_legacyPathDigest op) ?_
  intro pathDigest w₄ hp₄ hclient₄
  refine Follows.getClient (Follows.bind (follows_headers true) ?_)
  rintro hs w₅ hp₅ ⟨-, -, hclient₅⟩
  have hsame : w₅.client = w₁.client :=
    hclient₅.trans (hclient₄.trans (hclient₃.trans hclient₂))
  have hlive₅ : w₅.live = w.live := (live_of_client hsame).trans hlive₁
  refine Follows.bind ((follows_submit .registration rfl ?_
    (Nat.le_refl 3)).weaken (fun _ _ _ h => h) (fun _ _ _ _ => trivial)) ?_
  · refine ⟨by rw [hlive₅]; exact hnone, by rw [hlive₅]; exact hclaim, op, ?_, fun hop => ?_⟩
    · rw [hsame]; exact hlookup
    · rw [hlive₅, ← hclaimGap]
      exact gap_of_registrationPayload _ _ _ _ hop (by rw [hclaimGap]; exact hgap)
  · intro data w₆ hp₆ hd
    obtain ⟨how, hsettled⟩ := hd.settled
    have hrec : w₅.record = w.live.record := congrArg Progress.record hlive₅
    rw [hrec] at hsettled
    have htame : Tame w w₆ := (Tame.of_live hlive₅).trans (hd.tame (by decide)) hp₆
    have hresults : SameResults w.live w₆.live := hlive₅ ▸ hd.results
    refine Follows.bind (Follows.ofExcept (Q := fun registration v => v = w₆ ∧
      registrationOf data claim = .ok registration) (fun _ h => ⟨rfl, h⟩) (fun _ _ => trivial)) ?_
    rintro registration w₆ - ⟨rfl, hread⟩
    obtain ⟨hne, hregId, hclaimEq⟩ := registrationOf_ok hread
    refine Follows.bind (follows_writeDemoState _ _) ?_
    rintro _ w₇ hp₇ ⟨hlog, -, hclient₇⟩
    have hlive₇ := live_of_client hclient₇
    refine Follows.pure ⟨⟨_, _, _, how, by rw [hlog]; exact hsettled, hne, hregId⟩, ?_, ?_, ?_, ?_,
      htame.trans (Tame.of_live hlive₇) hp₇⟩
    · rw [hclaimEq]; exact hid
    · rw [hclaimEq]; exact href
    · rw [hclaimEq]; exact hclaimGap
    · rw [hlive₇]; exact hresults

/-! ## The context -/

/-- What is known about a context that was compiled. -/
structure CompiledAs (w : World) (context : CompiledContext) (w' : World) : Prop where
  settled : ∃ older r d how, Settled w'.log older w.live.record r .contextCompile d how ∧
    extractContextId d ≠ "" ∧ context.governanceContextId = extractContextId d ∧
    context.ctxpackDigest = contextDigestOr d (extractContextId d)
  results : SameResults w.live w'.live
  tame : Tame w w'

theorem contextOf_ok {context : CompiledContext} (h : contextOf data = .ok context) :
    extractContextId data ≠ "" ∧ context.governanceContextId = extractContextId data ∧
      context.ctxpackDigest = contextDigestOr data (extractContextId data) := by
  unfold contextOf at h
  by_cases hid : extractContextId data = ""
  · rw [if_pos hid] at h
    exact nomatch h
  · rw [if_neg hid] at h
    cases h
    exact ⟨hid, rfl, rfl⟩

theorem follows_compileRegistrationId :
    Follows env L n (compileRegistrationId env) (fun _ w' => w' = w) (fun _ _ => True) w := by
  refine Follows.getClient (traced_ite (fun _ => ?_) (fun _ => Follows.pure rfl))
  refine Follows.bind (follows_readDemoState _ (fun _ => trivial)) ?_
  rintro d w' - rfl
  exact Follows.pure rfl

theorem gap_of_compilePayload (env : Env) (c : Client) (op : BoundaryOperation)
    (registrationId contextRef : String) (hs : List (String × String))
    (hgap : strOr (c.currentState.get "resolved_gap_id") ≠ "") :
    Request.gap (operationRequest c (.submit .contextCompile) op hs
      (compilePayload env c op registrationId contextRef))
        = .str (strOr (c.currentState.get "resolved_gap_id")) := by
  simp [Request.gap, Request.params, operationRequest, compilePayload, Dict.child, strOr_orElse,
    hgap]

theorem follows_compileContext (hnone : w.live.context = "") (hreg : w.live.registration ≠ "")
    (hclaim : w.live.claimed) (hgap : w.live.gap ≠ "") :
    Follows env L 4 (compileContext env) (fun context w' => CompiledAs w context w')
      (fun _ _ => True) w := by
  refine Follows.bind follows_ensureDiscovered ?_
  rintro _ w₁ hp₁ ⟨capabilities, operations, hclient₁⟩
  have hlive₁ : w₁.live = w.live := by unfold World.live; rw [hclient₁]
  refine Follows.bind (follows_requireOperation _ (fun _ => trivial)) ?_
  rintro op w₁ - ⟨rfl, -⟩
  refine Follows.getClient (Follows.bind follows_compileRegistrationId ?_)
  rintro registrationId w₁ - rfl
  refine Follows.bind ((follows_currentCanonicalDigest).mono (Nat.le_refl 4) (fun _ _ h => h)
    (fun _ _ _ => trivial)) ?_
  intro canonical w₂ hp₂ hclient₂
  refine Follows.bind (follows_headers true) ?_
  rintro hs w₃ hp₃ ⟨-, -, hclient₃⟩
  have hlive₃ : w₃.live = w.live :=
    (live_of_client (hclient₃.trans hclient₂)).trans hlive₁
  refine Follows.bind ((follows_submit .contextCompile rfl ?_
    (Nat.le_refl 4)).weaken (fun _ _ _ h => h) (fun _ _ _ _ => trivial)) ?_
  · refine ⟨by rw [hlive₃]; exact hnone, by rw [hlive₃]; exact hreg,
      by rw [hlive₃]; exact hclaim, ?_⟩
    have hg : strOr (w₁.client.currentState.get "resolved_gap_id") = w.live.gap :=
      congrArg Progress.gap hlive₁
    rw [hlive₃, ← hg]
    exact gap_of_compilePayload _ _ _ _ _ _ (by rw [hg]; exact hgap)
  · intro data w₄ hp₄ hd
    obtain ⟨how, hsettled⟩ := hd.settled
    have hrec : w₃.record = w.live.record := congrArg Progress.record hlive₃
    rw [hrec] at hsettled
    have htame : Tame w w₄ := (Tame.of_live hlive₃).trans (hd.tame (by decide)) hp₄
    have hresults : SameResults w.live w₄.live := hlive₃ ▸ hd.results
    refine Follows.bind (Follows.ofExcept (Q := fun context v => v = w₄ ∧
      contextOf data = .ok context) (fun _ h => ⟨rfl, h⟩) (fun _ _ => trivial)) ?_
    rintro context w₄ - ⟨rfl, hread⟩
    obtain ⟨hne, hid, hdigest⟩ := contextOf_ok hread
    refine Follows.bind (follows_writeDemoState _ _) ?_
    rintro _ w₅ hp₅ ⟨hlog, -, hclient₅⟩
    have hlive₅ := live_of_client hclient₅
    exact Follows.pure ⟨⟨_, _, _, how, by rw [hlog]; exact hsettled, hne, hid, hdigest⟩,
      by rw [hlive₅]; exact hresults, htame.trans (Tame.of_live hlive₅) hp₅⟩

/-! ## The realization -/

/-- A receipt that was accepted names the context of its answer. -/
structure ReceiptOf (d : Dict) (receipt : GovernanceReceipt) : Prop where
  context : receipt.governanceContextId = some (receiptContext d)
  receiptId : receipt.receiptId = some (receiptIdOf d)
  some : receiptContext d ≠ ""

theorem receiptOf_of_valid {now candidate : String} {receipt : GovernanceReceipt}
    (h : validReceipt env now data candidate = .ok receipt) : ReceiptOf data receipt := by
  unfold validReceipt at h
  dsimp only at h
  cases ht : env.parseTime (normalizeGovernanceReceipt data candidate now).realizedAt with
  | none =>
    rw [ht] at h
    exact nomatch h
  | some time =>
    rw [ht] at h
    dsimp only at h
    cases hv : validateGovernedReceipt
        (stampedReceipt (normalizeGovernanceReceipt data candidate now) time) with
    | some message =>
      rw [hv] at h
      exact nomatch h
    | none =>
      rw [hv] at h
      cases h
      obtain ⟨c, hc, hne⟩ := context_of_valid_receipt hv
      refine ⟨rfl, rfl, ?_⟩
      have heq : receiptContext data = c := Option.some.inj hc
      rw [heq]
      exact hne

theorem follows_receiptOf (data : Dict) (candidate : String) :
    Follows env L n (receiptOf env data candidate)
      (fun receipt w' => w' = w.next ∧ ReceiptOf data receipt) (fun _ w' => w' = w.next) w := by
  refine Follows.bind_exec (exec_nextTick w) (Path.tick w) (Follows.ofExcept ?_ ?_)
  · exact fun receipt h => ⟨rfl, receiptOf_of_valid h⟩
  · exact fun _ _ => rfl

theorem follows_realizationContext (h : w.live.context ≠ "") :
    Follows env L n (realizationContext env) (fun r w' => w' = w ∧ r.1 = w.live.context)
      (fun _ _ => True) w := by
  refine Follows.getClient (traced_ite (fun hnone => absurd hnone h) (fun _ => ?_))
  exact Follows.pure ⟨rfl, rfl⟩

theorem follows_contextFile (context : Dict) :
    Follows env L n (contextFile env context) (fun _ w' => w' = w) (fun _ _ => True) w := by
  refine traced_ite (fun _ => ?_) (fun _ => Follows.pure rfl)
  refine Follows.bind (Follows.catchGoverned (Q := fun _ w' => w' = w)
    (follows_readDemoState (E := fun _ w' => w' = w) _ (fun _ => rfl)) (fun _ _ h => h)
    (fun _ _ h => h) (fun _ _ _ => trivial)) ?_
  rintro result w' - rfl
  cases result with
  | ok d => exact Follows.pure rfl
  | error message => exact Follows.pure rfl

theorem follows_realizationRef (contextId : String) (context : Dict) :
    Follows env L n (realizationRef env contextId context) (fun _ w' => w' = w)
      (fun _ _ => True) w := by
  refine Follows.getClient (traced_ite (fun _ => Follows.pure rfl) (fun _ => ?_))
  refine Follows.bind (follows_contextFile context) ?_
  rintro d w' - rfl
  exact Follows.pure rfl

theorem follows_realizationRequest (op : BoundaryOperation) (candidate : String)
    {contextId : String} (invariant : Dict) (contextRef : String) (hne : contextId ≠ "") :
    Follows env L n
      (realizationRequest env op (realizationParams candidate contextId invariant) contextRef)
      (fun r w' => w'.client = w.client ∧ r.site = .submit .realization ∧ r.context = contextId)
      (fun _ _ => True) w := by
  refine Follows.getClient (traced_ite (fun _ => ?_) (fun _ => ?_))
  · refine Follows.pure ⟨rfl, rfl, ?_⟩
    simp [Request.context, realizationParams, Dict.child, firstString, hne, asDict]
  · refine Follows.bind (follows_headers true) ?_
    rintro hs w' - ⟨-, -, hclient⟩
    refine Follows.pure ⟨hclient, rfl, ?_⟩
    simp [Request.context, operationRequest, realizationParams, Dict.child, firstString, hne]

/-- What is known about a realization whose receipt was accepted. -/
structure RealizedAs (w : World) (receipt : GovernanceReceipt) (w' : World) : Prop where
  settled : ∃ older r d how, Settled w'.log older w.live.record r .realization d how ∧
    ReceiptOf d receipt ∧ ∃ newer, older = newer ++ w.log
  results : SameResults { w.live with ctxpack := w'.live.ctxpack } w'.live

theorem follows_runGovernedRealization (hready : w.live.ready) (hopen : ¬w.live.realized)
    (hrecord : w.live.record ≠ "") :
    Follows env L 5 (runGovernedRealization env) (fun receipt w' => RealizedAs w receipt w')
      (fun _ _ => True) w := by
  refine Follows.bind follows_ensureDiscovered ?_
  rintro _ w₁ hp₁ ⟨capabilities, operations, hclient₁⟩
  have hlive₁ : w₁.live = w.live := by unfold World.live; rw [hclient₁]
  refine Follows.bind (follows_realizationContext (by rw [hlive₁]; exact hready.2.2.2)) ?_
  rintro ⟨contextId, context⟩ w₁ - ⟨rfl, hcontext⟩
  have hctx : contextId = w.live.context := by rw [← hlive₁]; exact hcontext
  refine Follows.bind (follows_realizationRef contextId context) ?_
  rintro contextRef w₁ - rfl
  refine Follows.bind follows_readRepo ?_
  rintro content w₂ hp₂ ⟨-, rfl⟩
  refine Follows.getClient (Follows.bind (Follows.ofExcept (Q := fun _ v => v = w₁.next)
    (fun _ _ => rfl) (fun _ _ => trivial)) ?_)
  rintro invariant w₂ - rfl
  refine Follows.bind ((follows_persist (amounts_candidate _ contextRef)
    (.candidate _) (Nat.le_refl 5)).mono (Nat.le_refl 5) (fun _ _ h => h)
    (fun _ _ _ => trivial)) ?_
  intro _ w₃ hp₃ hpersist
  obtain ⟨name, -, hlive₃⟩ := hpersist.live
  have hlive₃' : w₃.live = { w.live with ctxpack := w₃.live.ctxpack } := by
    have hrec : (w.live.named name).record = w.live.record := if_neg hrecord
    have h₂ : w₁.next.live = w.live := hlive₁
    rw [hlive₃, h₂]
    unfold Progress.named
    simp [hrecord]
  refine Follows.bind (follows_requireOperation _ (fun _ => trivial)) ?_
  rintro op w₃ - ⟨rfl, -⟩
  refine Follows.bind (follows_realizationRequest op _ invariant contextRef
    (by rw [hctx]; exact hready.2.2.2)) ?_
  rintro request w₄ hp₄ ⟨hclient₄, hsite, hreqContext⟩
  have hlive₄ : w₄.live = { w.live with ctxpack := w₃.live.ctxpack } :=
    (live_of_client hclient₄).trans hlive₃'
  refine Follows.bind ((follows_submit _ hsite ?_ (Nat.le_refl 5)).weaken (fun _ _ _ h => h)
    (fun _ _ _ _ => trivial)) ?_
  · rw [Licensed, hsite]
    refine ⟨?_, ?_, ?_⟩
    · rw [hlive₄]; exact hready
    · rw [hlive₄]; exact hopen
    · rw [hlive₄, hreqContext]; exact hctx
  · intro data w₅ hp₅ hd
    obtain ⟨how, hsettled⟩ := hd.settled
    have hrec : w₄.record = w.live.record := congrArg Progress.record hlive₄
    rw [hrec] at hsettled
    have hresults : SameResults { w.live with ctxpack := w₅.live.ctxpack } w₅.live := by
      have h := hd.results
      rw [hlive₄] at h
      rw [h]
      rfl
    have hold : ∃ newer, w₄.log = newer ++ w.log :=
      (hp₁.trans (hp₂.trans (hp₃.trans hp₄))).extends
    refine Follows.bind ((follows_receiptOf data _).mono (Nat.le_refl 5) (fun _ _ h => h)
      (fun _ _ _ => trivial)) ?_
    rintro receipt w₆ - ⟨rfl, hreceipt⟩
    refine Follows.bind (follows_writeDemoState _ _) ?_
    rintro _ w₇ hp₇ ⟨hlog, -, hclient₇⟩
    have hlive₇ : w₇.live = w₅.live := live_of_client hclient₇
    exact Follows.pure ⟨⟨_, _, _, how, by rw [hlog]; exact hsettled, hreceipt, hold⟩,
      by rw [hlive₇]; exact hresults⟩

end KeyholeFlow
