import Keyhole.GapChoice
import Keyhole.ScriptedServer

/-!
# Whether the gap that is discovered is related

`_discover_gap_id` asks for gaps once with the story and once without, and takes what
`_select_gap_id` returns.  A gap scores for being open as well as for what it mentions, so that an
unrelated gap is selected where no related one is claimable.

* `Consulted`: the answers a discovery selects from;
* `onlyRelated_iff`: the discovery returns a related gap only, exactly when each of them offers a
  related gap to claim, or nothing to select. -/

namespace KeyholeRelatedGap

open EffectProgram KeyholeJson KeyholeOperations KeyholeEnvelope KeyholeGaps KeyholeRepo
open KeyholeFlow RankedChoice KeyholeGapChoice

/-! ## What a gap mentions -/

/-- The text `_select_gap_id` searches. -/
def rawText (gap : Dict) : String := lower (dumps defaultSeparators (.obj gap))

/-- The gap mentions the story, the capability or the repository. -/
def Mentions (query : GapQuery) (gap : Dict) : Prop :=
  (query.storyId ≠ "" ∧ contains (rawText gap) (lower query.storyId) = true) ∨
  (query.capabilityId ≠ "" ∧ contains (rawText gap) (lower query.capabilityId) = true) ∨
  contains (rawText gap) (lower query.repoName) = true

theorem gapScore_eq (query : GapQuery) (gap : Dict) :
    gapScore query gap
      = (if query.storyId ≠ "" ∧ contains (rawText gap) (lower query.storyId) = true then 100 else 0)
        + (if query.capabilityId ≠ "" ∧ contains (rawText gap) (lower query.capabilityId) = true
            then 40 else 0)
        + (if contains (rawText gap) (lower query.repoName) = true then 20 else 0)
        + (if contains (rawText gap) "sdk-v1" = true then 10 else 0)
        + (if ["open", "claimable", "actionable", "claimed"].contains (gapStatus gap) = true then 5
            else 0) := rfl

variable {query : GapQuery} {op : BoundaryOperation} {params gap : Dict}

/-- What the gap scores without a mention. -/
theorem score_le_of_not_mentions (h : ¬ Mentions query gap) :
    gapScore query gap ≤ 15 := by
  have hstory : ¬ (query.storyId ≠ "" ∧ contains (rawText gap) (lower query.storyId) = true) :=
    fun hs => h (.inl hs)
  have hcapability :
      ¬ (query.capabilityId ≠ "" ∧ contains (rawText gap) (lower query.capabilityId) = true) :=
    fun hc => h (.inr (.inl hc))
  have hrepo : ¬ contains (rawText gap) (lower query.repoName) = true :=
    fun hr => h (.inr (.inr hr))
  rw [gapScore_eq, if_neg hstory, if_neg hcapability, if_neg hrepo]
  split <;> split <;> omega

/-- What a mention is worth at least. -/
theorem score_ge_of_mentions (h : Mentions query gap) :
    20 ≤ gapScore query gap := by
  rw [gapScore_eq]
  rcases h with hstory | hcapability | hrepo
  · rw [if_pos hstory]
    omega
  · rw [if_pos hcapability]
    omega
  · rw [if_pos hrepo]
    omega

/-- An answer offers a related gap to claim, or nothing it would select. -/
def Warranted (query : GapQuery) (data : Dict) : Prop :=
  (∃ gap ∈ gapsOf data, isClaimableGap gap = true ∧ Mentions query gap) ∨
  ¬ ∃ best, Best query data best ∧
    rivals (gapScore query) isClaimableGap (gapsOf data) (gapScore query best) = 1

/-- The best gap is related where any claimable gap is. -/
theorem best_mentions {data best : Dict} (hgap : gap ∈ gapsOf data)
    (hclaimable : isClaimableGap gap = true) (hmentions : Mentions query gap)
    (hbest : Best query data best) : Mentions query best := by
  have hscore := score_ge_of_mentions hmentions
  have htop := hbest.top gap hgap ⟨by omega, hclaimable⟩
  by_contra hnot
  have hlow := score_le_of_not_mentions hnot
  omega

/-! ## The discovery -/

/-- `_run_gap_discovery` up to its answer, with what is looked for. -/
def gapAnswer (env : Env) (op : BoundaryOperation) (params : Dict) : Flow (GapQuery × Dict) := do
  let c ← getClient
  let hs ← headers env false
  let payload : Dict := [("run_type", .str op.runType), ("params", .obj params)]
  let data ← submit env (operationRequest c (.submit .gapDiscovery) op hs payload) .gapDiscovery
  return (gapQuery env c, data)

/-- What `_run_gap_discovery` makes of its answer. -/
def selection (query : GapQuery) (data : Dict) : Except Err String :=
  match selectGapId data query with
  | .ok gapId => .ok gapId
  | .error message => .error (.governed message)

theorem exec_runGapDiscovery_ok {env : Env} {w w' : World} {data : Dict}
    (h : exec (gapAnswer env op params) w = (.ok (query, data), w')) :
    exec (runGapDiscovery env op params) w = (selection query data, w') := by
  obtain ⟨c, w₁, hclient, h⟩ := exec_bind_inv h
  obtain ⟨hs, w₂, hheaders, h⟩ := exec_bind_inv h
  obtain ⟨answer, w₃, hsubmit, h⟩ := exec_bind_inv h
  obtain ⟨hpair, rfl⟩ := Prod.mk.inj h
  obtain ⟨rfl, rfl⟩ := Prod.mk.inj (Except.ok.inj hpair)
  unfold runGapDiscovery selection
  rw [exec_bind_ok hclient, exec_bind_ok hheaders, exec_bind_ok hsubmit]
  cases selectGapId answer (gapQuery env c) <;> rfl

/-- A discovery that returns has an answer it selects from. -/
theorem gapAnswer_of_ok {env : Env} {w w' : World}
    {g : String} (h : exec (runGapDiscovery env op params) w = (.ok g, w')) :
    ∃ query data, exec (gapAnswer env op params) w = (.ok (query, data), w')
      ∧ selectGapId data query = .ok g := by
  obtain ⟨c, w₁, hclient, h⟩ := exec_bind_inv h
  obtain ⟨hs, w₂, hheaders, h⟩ := exec_bind_inv h
  obtain ⟨data, w₃, hsubmit, h⟩ := exec_bind_inv h
  refine ⟨gapQuery env c, data, ?_, ?_⟩
  · unfold gapAnswer
    rw [exec_bind_ok hclient, exec_bind_ok hheaders, exec_bind_ok hsubmit]
    cases hselect : selectGapId data (gapQuery env c) with
    | ok g' =>
      rw [hselect] at h
      obtain ⟨-, rfl⟩ := Prod.mk.inj h
      rfl
    | error message =>
      rw [hselect] at h
      exact nomatch (Prod.mk.inj h).1
  · cases hselect : selectGapId data (gapQuery env c) with
    | ok g' =>
      rw [hselect] at h
      exact congrArg Except.ok (Except.ok.inj (Prod.mk.inj h).1)
    | error message =>
      rw [hselect] at h
      exact nomatch (Prod.mk.inj h).1

/-- The first look finds no gap: it returns none, or raises a `GovernedDemoError`. -/
def FindsNothing (r : Except Err String) : Prop :=
  r = .ok "" ∨ ∃ message, r = .error (.governed message)

/-- An answer the discovery selects from: the one to the query with the story, or, where that one
    leads to no gap, the one to the query without. -/
inductive Consulted (env : Env) (w : World) (query : GapQuery) (data : Dict) : Prop where
  | first {op : BoundaryOperation} {w₁ : World}
      (hop : gapDiscoveryOperation w.client.capabilities = some op)
      (hanswer : exec (gapAnswer env op (discoveryParams env w.client)) w
        = (.ok (query, data), w₁))
  | second {op : BoundaryOperation} {w₁ w₂ : World} {r : Except Err String}
      (hop : gapDiscoveryOperation w.client.capabilities = some op)
      (hfirst : exec (runGapDiscovery env op (discoveryParams env w.client)) w = (r, w₁))
      (hnothing : FindsNothing r) (hstory : w.client.storyId ≠ "")
      (hanswer : exec (gapAnswer env op ((discoveryParams env w.client).pop "story_id")) w₁
        = (.ok (query, data), w₂))

section Discovery

variable {env : Env} {w w' : World} {query : GapQuery} {data : Dict} {g : String}

theorem exec_discoverWithoutStory_ok {earlier : Option String}
    (h : exec (runGapDiscovery env op (params.pop "story_id")) w = (.ok g, w')) :
    exec (discoverWithoutStory env op params earlier) w = (.ok g, w') := by
  unfold discoverWithoutStory
  rw [exec_bind_ok (exec_catchGoverned_ok h)]
  rfl

theorem ok_of_discoverWithoutStory {earlier : Option String}
    (h : exec (discoverWithoutStory env op params earlier) w = (.ok g, w')) :
    exec (runGapDiscovery env op (params.pop "story_id")) w = (.ok g, w') := by
  obtain ⟨result, w₁, hcaught, h⟩ := exec_bind_inv h
  cases hrun : exec (runGapDiscovery env op (params.pop "story_id")) w with
  | mk r w₂ =>
    cases r with
    | ok g' =>
      rw [exec_catchGoverned_ok hrun] at hcaught
      obtain ⟨hr, rfl⟩ := Prod.mk.inj hcaught
      obtain rfl := Except.ok.inj hr
      exact h
    | error e =>
      cases e with
      | governed message =>
        rw [exec_catchGoverned_governed hrun] at hcaught
        obtain ⟨hr, rfl⟩ := Prod.mk.inj hcaught
        obtain rfl := Except.ok.inj hr
        exact nomatch (Prod.mk.inj h).1
      | fault f =>
        rw [exec_catchGoverned_fault hrun] at hcaught
        exact nomatch (Prod.mk.inj hcaught).1

/-- A gap that is selected from an answer consulted is returned. -/
theorem returned_of_consulted (h : Consulted env w query data)
    (hselect : selectGapId data query = .ok g) (hg : g ≠ "") :
    ∃ w', exec (discoverGapId env) w = (.ok g, w') := by
  have hselection : selection query data = .ok g := by
    unfold selection
    rw [hselect]
  unfold discoverGapId
  rw [exec_bind_ok (exec_getClient w)]
  cases h with
  | @first op w₁ hop hanswer =>
    rw [hop]
    have hrun := exec_runGapDiscovery_ok hanswer
    rw [hselection] at hrun
    refine ⟨w₁, ?_⟩
    show exec (_ >>= _) w = _
    rw [exec_bind_ok (exec_catchGoverned_ok hrun)]
    show exec (if g ≠ "" then _ else _) _ = _
    rw [if_pos hg]
    rfl
  | @second op w₁ w₂ r hop hfirst hnothing hstory hanswer =>
    rw [hop]
    have hrun := exec_runGapDiscovery_ok hanswer
    rw [hselection] at hrun
    refine ⟨w₂, ?_⟩
    show exec (_ >>= _) w = _
    rcases hnothing with rfl | ⟨message, rfl⟩
    · rw [exec_bind_ok (exec_catchGoverned_ok hfirst)]
      show exec (if "" ≠ "" then _ else if w.client.storyId ≠ "" then _ else _) _ = _
      rw [if_neg (fun hne => hne rfl), if_pos hstory]
      exact exec_discoverWithoutStory_ok hrun
    · rw [exec_bind_ok (exec_catchGoverned_governed hfirst)]
      show exec (if w.client.storyId = "" then _ else _) _ = _
      rw [if_neg hstory]
      exact exec_discoverWithoutStory_ok hrun

/-- A gap that is returned was selected from an answer consulted. -/
theorem consulted_of_returned (h : exec (discoverGapId env) w = (.ok g, w')) (hg : g ≠ "") :
    ∃ query data, Consulted env w query data ∧ selectGapId data query = .ok g := by
  unfold discoverGapId at h
  rw [exec_bind_ok (exec_getClient w)] at h
  cases hop : gapDiscoveryOperation w.client.capabilities with
  | none =>
    rw [hop] at h
    exact nomatch (Prod.mk.inj h).1
  | some op =>
    rw [hop] at h
    have hsecond : ∀ {r : Except Err String} {w₁ : World} {earlier : Option String},
        exec (runGapDiscovery env op (discoveryParams env w.client)) w = (r, w₁) →
        FindsNothing r → w.client.storyId ≠ "" →
        exec (discoverWithoutStory env op (discoveryParams env w.client) earlier) w₁
          = (.ok g, w') →
        ∃ query data, Consulted env w query data ∧ selectGapId data query = .ok g := by
      intro r w₁ earlier hfirst hnothing hstory hrest
      obtain ⟨query, data, hanswer, hselect⟩ :=
        gapAnswer_of_ok (ok_of_discoverWithoutStory hrest)
      exact ⟨query, data, .second hop hfirst hnothing hstory hanswer, hselect⟩
    cases hfirst : exec (runGapDiscovery env op (discoveryParams env w.client)) w with
    | mk r w₁ =>
      cases r with
      | ok first =>
        replace h : exec (_ >>= _) w = _ := h
        rw [exec_bind_ok (exec_catchGoverned_ok hfirst)] at h
        replace h : exec (if first ≠ "" then _ else if w.client.storyId ≠ "" then _ else _)
          _ = _ := h
        by_cases hempty : first ≠ ""
        · rw [if_pos hempty] at h
          obtain ⟨hr, rfl⟩ := Prod.mk.inj h
          obtain rfl := Except.ok.inj hr
          obtain ⟨query, data, hanswer, hselect⟩ := gapAnswer_of_ok hfirst
          exact ⟨query, data, .first hop hanswer, hselect⟩
        · rw [if_neg hempty] at h
          by_cases hstory : w.client.storyId ≠ ""
          · rw [if_pos hstory] at h
            exact hsecond hfirst (.inl (congrArg Except.ok (not_not.mp hempty))) hstory h
          · rw [if_neg hstory] at h
            exact absurd (Except.ok.inj (Prod.mk.inj h).1).symm hg
      | error e =>
        replace h : exec (_ >>= _) w = _ := h
        cases e with
        | governed message =>
          rw [exec_bind_ok (exec_catchGoverned_governed hfirst)] at h
          replace h : exec (if w.client.storyId = "" then _ else _) _ = _ := h
          by_cases hstory : w.client.storyId = ""
          · rw [if_pos hstory] at h
            exact nomatch (Prod.mk.inj h).1
          · rw [if_neg hstory] at h
            exact hsecond hfirst (.inr ⟨message, rfl⟩) hstory h
        | fault f =>
          rw [exec_bind_error (exec_catchGoverned_fault hfirst)] at h
          exact nomatch (Prod.mk.inj h).1

/-- The discovery selects from one answer. -/
theorem consulted_unique {query' : GapQuery} {data' : Dict} {g' : String}
    (h : Consulted env w query data) (h' : Consulted env w query' data')
    (hselect : selectGapId data query = .ok g) (hg : g ≠ "")
    (hselect' : selectGapId data' query' = .ok g') (hg' : g' ≠ "") :
    query = query' ∧ data = data' := by
  -- an answer with the story that leads to a gap leaves none without it
  have hnever : ∀ {op op' : BoundaryOperation} {query : GapQuery} {data : Dict} {g : String}
      {w₁ w₁' : World} {r : Except Err String},
      gapDiscoveryOperation w.client.capabilities = some op →
      exec (gapAnswer env op (discoveryParams env w.client)) w = (.ok (query, data), w₁) →
      selectGapId data query = .ok g → g ≠ "" →
      gapDiscoveryOperation w.client.capabilities = some op' →
      exec (runGapDiscovery env op' (discoveryParams env w.client)) w = (r, w₁') →
      ¬ FindsNothing r := by
    intro op op' query data g w₁ w₁' r hop hanswer hselect hg hop' hfirst hnothing
    obtain rfl := Option.some.inj (hop.symm.trans hop')
    have hrun := exec_runGapDiscovery_ok hanswer
    unfold selection at hrun
    rw [hfirst, hselect] at hrun
    obtain ⟨rfl, -⟩ := Prod.mk.inj hrun
    rcases hnothing with hempty | ⟨message, herror⟩
    · exact hg (Except.ok.inj hempty)
    · exact nomatch herror
  cases h with
  | first hop hanswer =>
    cases h' with
    | first hop' hanswer' =>
      obtain rfl := Option.some.inj (hop.symm.trans hop')
      rw [hanswer] at hanswer'
      exact Prod.mk.inj (Except.ok.inj (Prod.mk.inj hanswer').1)
    | second hop' hfirst hnothing _ _ =>
      exact absurd hnothing (hnever hop hanswer hselect hg hop' hfirst)
  | second hop hfirst hnothing _ hanswer =>
    cases h' with
    | first hop' hanswer' =>
      exact absurd hnothing (hnever hop' hanswer' hselect' hg' hop hfirst)
    | second hop' hfirst' _ _ hanswer' =>
      obtain rfl := Option.some.inj (hop.symm.trans hop')
      rw [hfirst] at hfirst'
      obtain ⟨-, rfl⟩ := Prod.mk.inj hfirst'
      rw [hanswer] at hanswer'
      exact Prod.mk.inj (Except.ok.inj (Prod.mk.inj hanswer').1)

end Discovery

/-! ## Related gaps -/

/-- A gap that the discovery returns is one that mentions what was looked for. -/
def OnlyRelated (env : Env) (w : World) : Prop :=
  ∀ g w', exec (discoverGapId env) w = (.ok g, w') → g ≠ "" →
    ∃ query data gap, Consulted env w query data ∧ selectGapId data query = .ok g ∧
      Best query data gap ∧ gapId gap = g ∧ Mentions query gap

/-- The discovery returns a related gap only, exactly when every answer it selects from offers a
    related gap to claim or has no gap that stands alone at the top. -/
theorem onlyRelated_iff (env : Env) (w : World) :
    OnlyRelated env w ↔ ∀ query data, Consulted env w query data → Warranted query data := by
  constructor
  · intro h query data hconsulted
    by_contra hnot
    obtain ⟨best, hbest, hone⟩ := not_not.mp fun hnone => hnot (.inr hnone)
    have hne : gapId best ≠ "" := gapId_ne_empty hbest.mem
    have hselect : selectGapId data query = .ok (gapId best) :=
      (selected_iff hne).mpr ⟨best, rfl, hbest, hone⟩
    obtain ⟨w', hrun⟩ := returned_of_consulted hconsulted hselect hne
    obtain ⟨query', data', gap, hconsulted', hselect', hgap, -, hmentions⟩ := h _ _ hrun hne
    obtain ⟨rfl, rfl⟩ := consulted_unique hconsulted hconsulted' hselect hne hselect' hne
    exact hnot (.inl ⟨gap, hgap.mem, hgap.candidate.2, hmentions⟩)
  · intro h g w' hrun hg
    obtain ⟨query, data, hconsulted, hselect⟩ := consulted_of_returned hrun hg
    obtain ⟨best, hid, hbest, hone⟩ := (selected_iff hg).mp hselect
    refine ⟨query, data, best, hconsulted, hselect, hbest, hid, ?_⟩
    rcases h query data hconsulted with ⟨gap, hgap, hclaimable, hmentions⟩ | hnone
    · exact best_mentions hgap hclaimable hmentions hbest
    · exact absurd ⟨best, hbest, hone⟩ hnone

/-! ## An unrelated gap -/

/-- A gap of the story that is blocked. -/
def blockedGap : Dict :=
  [("gap_id", .str "gap_9"), ("status", .str "blocked"), ("story_id", .str "story-1")]

/-- A listing with the blocked gap of the story, and an open gap that mentions nothing. -/
def listing : Dict := [("gaps", .arr [.obj blockedGap, .obj openGap])]

/-- A server that answers gap discovery with the listing. -/
def listingEnv : Env :=
  scripted "abc" fun _ site =>
    match site with
    | .submit .gapDiscovery => some (found listing)
    | _ => none

/-- A client that looks for a gap of the story. -/
def storyClient : Client :=
  { operatorClient "" with
    storyId := "story-1"
    capabilities := [("governed_worker_sdk", .obj [("logical_operation_map", .obj
      [("gap_discovery", .obj [("run_type", .str "gaps.list")])])])] }

/-- What it looks for. -/
def storyQuery : GapQuery := ⟨"app", "story-1", ""⟩

theorem consulted_listing :
    Consulted listingEnv (untouched storyClient) storyQuery listing := .first rfl rfl

theorem rawText_openGap :
    rawText openGap = "\x7b\"gap_id\": \"gap_1\", \"status\": \"open\"\x7d" := by
  have hsorted : ([("gap_id", "\"gap_1\""), ("status", "\"open\"")] :
      List (String × String)).mergeSort (fun a b => decide (a.1 ≤ b.1))
        = [("gap_id", "\"gap_1\""), ("status", "\"open\"")] :=
    List.mergeSort_of_pairwise (by decide)
  have hfields : dumpFields defaultSeparators openGap
      = [("gap_id", "\"gap_1\""), ("status", "\"open\"")] := by decide
  unfold rawText dumps
  rw [hfields, hsorted]
  decide

theorem openGap_unrelated : ¬ Mentions storyQuery openGap := by
  unfold Mentions
  rw [rawText_openGap]
  decide

theorem gapsOf_listing : gapsOf listing = [blockedGap, openGap] := rfl

/-- The open gap is claimed in the place of the story's. -/
theorem unrelated_discovered : ¬ OnlyRelated listingEnv (untouched storyClient) := by
  have hclaimable : ∀ gap ∈ gapsOf listing, isClaimableGap gap = true → gap = openGap := by
    intro gap hmem hgap
    rw [gapsOf_listing] at hmem
    rcases List.mem_cons.mp hmem with rfl | hrest
    · exact absurd hgap (by decide)
    · exact List.mem_singleton.mp hrest
  have hcandidate := openGap_candidate storyQuery
  have hbest : Best storyQuery listing openGap := by
    refine ⟨?_, hcandidate, fun gap hmem hgap => ?_⟩
    · rw [gapsOf_listing]
      exact List.mem_cons_of_mem _ List.mem_cons_self
    · rewrite [hclaimable gap hmem hgap.2]
      exact Nat.le_refl _
  have hone : rivals (gapScore storyQuery) isClaimableGap (gapsOf listing)
      (gapScore storyQuery openGap) = 1 := by
    unfold rivals
    rw [gapsOf_listing, List.countP_cons_of_neg, List.countP_cons_of_pos, List.countP_nil]
    · rw [decide_eq_true hcandidate.1, hcandidate.2, beq_self_eq_true]
      rfl
    · rw [show isClaimableGap blockedGap = false by decide, Bool.and_false, Bool.false_and]
      exact Bool.false_ne_true
  have hselect : selectGapId listing storyQuery = .ok "gap_1" :=
    (selected_iff (by decide)).mpr ⟨openGap, rfl, hbest, hone⟩
  intro h
  obtain ⟨w', hrun⟩ := returned_of_consulted consulted_listing hselect (by decide)
  obtain ⟨query, data, gap, hconsulted, hselect', hgap, -, hmentions⟩ := h _ _ hrun (by decide)
  obtain ⟨rfl, rfl⟩ :=
    consulted_unique consulted_listing hconsulted hselect (by decide) hselect' (by decide)
  rw [hclaimable gap hgap.mem hgap.candidate.2] at hmentions
  exact openGap_unrelated hmentions

end KeyholeRelatedGap
