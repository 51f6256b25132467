import Keyhole.GapHonoured
import Keyhole.SuccessFinality

/-!
# A server that lets the operator's gap be lost

A saved state that does not meet the condition under which the operator's gap is honoured
meets a server, of the kind in question, with which the stages start from a progress that
does not meet it either.

* `gapEnv`: that server; the repository cannot be read at the one moment the saved state is
  loaded, so that the state is declared anew and a run it names is asked for;
* `exec_run_anew`: a call goes on with the state declared anew;
* `exists_exposing`: one of four answers to the question for the saved run will do. -/

namespace KeyholeFlow

open KeyholeJson KeyholeRedaction KeyholeEnvelope KeyholeGaps KeyholeOperations KeyholeRepo
  EffectProgram

/-! ## The server -/

/-- The capabilities of a server that registers repositories at a path of its own. -/
def pathOperations : Dict :=
  [("operations", .obj [
    ("gaps.claim", .obj [("run_type", .str "gaps.claim")]),
    ("repo.register", .obj [("path", .str "/mcp/v1/repos")]),
    ("context.compile", .obj [("run_type", .str "context.compile")]),
    ("governed.realize", .obj [("run_type", .str "governed.realize")])])]

/-- Their table. -/
def pathTable : Operations :=
  [throughRuns "gaps.claim", ("repo.register", ⟨"repo.register", "/mcp/v1/repos", "POST", "http", ""⟩),
    throughRuns "context.compile", throughRuns "governed.realize"]

theorem accepts_pathOperations : Accepts pathOperations pathTable :=
  ⟨by decide, fun _ => by decide, by decide⟩

/-- The document the server describes itself by, and its table. -/
def Service.document (s : Service) : Dict := if s.runs then fourOperations else pathOperations

def Service.table (s : Service) : Operations := if s.runs then fourTable else pathTable

theorem Service.accepts (s : Service) : Accepts s.document s.table := by
  unfold Service.document Service.table
  cases s.runs with
  | true => exact accepts_fourOperations
  | false => exact accepts_pathOperations

/-- The answers that differ from the ordinary ones. -/
def gapScript (s : Service) (reading : Dict) (_ : Nat) : Site → Option HttpAnswer
  | .capabilities => some (found s.document)
  | .canonicalStatus => if s.digest then none else some (found [])
  | .savedRunPoll _ _ => some (found reading)
  | _ => none

/-- The working tree, with a declaration file missing at the one moment. -/
def blinkingContent (t : Nat) : RepoContent :=
  if t = 2 then { completeContent "commit-1" with keyhole := none } else completeContent "commit-1"

/-- The environment of that server, over that working tree. -/
def gapEnv (s : Service) (reading : Dict) : Env :=
  { scripted "commit-1" (gapScript s reading) with repo := blinkingContent }

section Server

variable {s : Service} {reading : Dict}

theorem answer_gapEnv (t : Nat) (r : Request) :
    (gapEnv s reading).answer t r = (gapScript s reading t r.site).getD (ordinaryAnswer r.site) :=
  rfl

theorem describes_gapEnv : Describes (gapEnv s reading) s.document := by
  intro t r hsite
  refine ⟨⟨200, "", some (.obj s.document)⟩, ?_, (by decide : 200 < 400), rfl⟩
  rw [answer_gapEnv, hsite]
  rfl

theorem serves_gapEnv : s.Serves (gapEnv s reading) where
  digest := by
    intro hdigest t r hsite
    refine ⟨⟨200, "", some (.obj [("current_canonical_digest", .str "canonical-1")])⟩, _, ?_,
      gives_found _ (by decide), by decide⟩
    rw [answer_gapEnv, hsite]
    show ((if s.digest = true then none else some (found [])).getD _ : HttpAnswer) = _
    rw [if_pos hdigest]
    rfl
  runs := by
    intro hruns t r resp raw operations op hsite hanswer hjson hextract hlookup
    rw [answer_gapEnv, hsite] at hanswer
    cases hanswer
    cases hjson
    rw [Service.document, hruns] at hextract
    have htable : operations = fourTable :=
      Option.some.inj (hextract.symm.trans accepts_fourOperations.extracted)
    subst htable
    have hop : op = (throughRuns "repo.register").2 := by
      have hfound : fourTable.lookup "repo.register" = some (throughRuns "repo.register").2 := by
        decide
      exact Option.some.inj (hlookup.symm.trans hfound)
    subst hop
    decide

theorem undigested_gapEnv (hdigest : s.digest = false) : Undigested (gapEnv s reading) := by
  intro t r hsite
  refine ⟨⟨200, "", some (.obj [])⟩, [], ?_, rfl, by decide⟩
  rw [answer_gapEnv, hsite]
  show ((if s.digest = true then none else some (found [])).getD _ : HttpAnswer) = _
  rw [if_neg (by rw [hdigest]; exact Bool.false_ne_true)]
  rfl

theorem git_blinkingContent (t : Nat) : repoGitMetadata (blinkingContent t) = .ok () := by
  unfold blinkingContent
  by_cases h : t = 2
  · rw [if_pos h]
    rfl
  · rw [if_neg h]
    rfl

theorem gate_blinkingContent (t : Nat) (capability : String) :
    ∃ invariant, runLocalInvariant (blinkingContent t) "/app" capability = .ok invariant := by
  unfold blinkingContent
  by_cases h : t = 2
  · rw [if_pos h]
    exact ⟨_, runLocalInvariant_complete "commit-1" "/app" capability⟩
  · rw [if_neg h]
    exact ⟨_, runLocalInvariant_complete "commit-1" "/app" capability⟩

theorem obliging_gapEnv : Obliging (gapEnv s reading) none where
  write := fun _ => rfl
  dies := nofun
  capabilities := by
    refine ⟨s.document, s.table, describes_gapEnv, s.accepts, ?_⟩
    unfold Service.table
    cases s.runs with
    | true => decide
    | false => decide
  status := by
    intro t r hsite hanswer
    rw [answer_gapEnv, hsite] at hanswer
    cases hd : s.digest with
    | true =>
      rw [gapScript, hd] at hanswer
      exact nomatch hanswer
    | false =>
      rw [gapScript, hd] at hanswer
      exact nomatch hanswer
  submit := by
    intro action hgap hrealization _
    refine usable_of_ordinary hgap hrealization fun t r hsite => ?_
    rw [answer_gapEnv, hsite]
    rfl
  git := git_blinkingContent
  gate := gate_blinkingContent

theorem delivers_gapEnv : Delivers (gapEnv s reading) .realization completeReceipt := by
  refine delivers_found (fun t r hsite => ?_) acceptable_completeReceipt.ok
    acceptable_completeReceipt.settled
  rw [answer_gapEnv, hsite]
  rfl

theorem valid_gapEnv (now candidate : String) :
    ∃ receipt, validReceipt (gapEnv s reading) now completeReceipt candidate = .ok receipt :=
  acceptable_completeReceipt.valid now candidate

end Server

/-! ## Up to the recovery -/

/-- The declaration of the complete working tree names no story. -/
theorem story_completeContent {name cap cls : String} {declaration : RepoDeclaration}
    (h : readRepoDeclaration (completeContent "commit-1") name "" cap cls = .ok declaration) :
    declaration.storyId = "" := by
  obtain ⟨r, rfl⟩ := readRepoDeclaration_cases h
  have hkeyhole : r.keyhole = [("repo_class", .str "SDK_TEMPLATE")] :=
    (Except.ok.inj r.keyholeLoads).symm
  have hcontract : r.contract = [("produces", .arr [.str "echo.user.v1"])] :=
    (Except.ok.inj r.contractLoads).symm
  show strOr (orElse (r.keyhole.get "story_id") (r.contract.get "story_id")) = ""
  rw [hkeyhole, hcontract]
  rfl

section Opening

variable (s : Service) (reading : Dict) {w : World}

/-- Away from that moment the repository can be read. -/
theorem read_gapEnv (htick : w.tick ≠ 2) (hstory : w.client.storyId = "") :
    ∃ declaration, readRepoDeclaration ((gapEnv s reading).repo w.tick) (gapEnv s reading).repoName
      w.client.storyId w.client.capabilityId w.client.repoClass = .ok declaration
      ∧ declaration.storyId = "" := by
  have hcontent : (gapEnv s reading).repo w.tick = completeContent "commit-1" := if_neg htick
  have hcommit : "commit-1" ≠ "" := by decide
  rw [hcontent, hstory]
  obtain ⟨declaration, hread⟩ := exists_declaration (readable_complete hcommit)
    (gapEnv s reading).repoName "" w.client.capabilityId w.client.repoClass
  exact ⟨declaration, hread, story_completeContent hread⟩

/-- The saved state was declared anew. -/
structure Anew (record : RunRecord) (gapId : String) (w : World) : Prop where
  live : Redeclared { progress record.state with terminal := false } w.live
  operator : w.client.operatorGapId = gapId
  story : w.client.storyId = ""
  declaration : w.client.repoDeclaration.isSome = true
  demo : ∀ name, w.demo name ≠ .corrupt

/-- A state that cannot be loaded is declared anew. -/
theorem exec_openRun_anew {record : RunRecord} (htick : w.tick = 2)
    (hlatest : w.latest = .saved record) (hstory : w.client.storyId = "")
    (hdemo : ∀ name, w.demo name ≠ .corrupt) :
    ∃ w', exec (openRun (gapEnv s reading) true) w = (.ok ⟨⟩, w')
      ∧ Anew record w.client.operatorGapId w' := by
  have hfails : ∃ message, loadReading (gapEnv s reading) record w = .error (.governed message) := by
    unfold loadReading
    rw [htick]
    exact ⟨_, rfl⟩
  obtain ⟨message, hfails⟩ := hfails
  let w₁ : World := { w.next with client := { w.client with currentState := record.state } }
  have hload : exec (loadLastState (gapEnv s reading)) w = (.error (.governed message), w₁) :=
    exec_loadLastState_error hlatest hfails
  have htick₁ : w₁.tick ≠ 2 := by
    show w.tick + 1 ≠ 2
    omega
  obtain ⟨declaration, hread, hnone⟩ := read_gapEnv s reading htick₁ hstory
  let w₂ : World := { w₁.next with client := w₁.client.withDeclaration declaration }
  let updates : Dict := inspectUpdates (gapEnv s reading) declaration
  let w₃ : World := { (w₂.openRecord (gapEnv s reading)).store (w₂.merged (gapEnv s reading) updates) with
    client := { w₂.client with currentState := (w₂.merged (gapEnv s reading) updates).state } }
  have hinspect : exec (inspectRepo (gapEnv s reading) true) w₁ = (.ok declaration, w₃) := by
    rw [exec_inspectRepo (gapEnv s reading) true hread]
    have hpersist : exec (persistState (gapEnv s reading) updates) w₂ = (.ok ⟨⟩, w₃) := by
      rw [exec_persistState]
      rfl
    exact exec_bind_ok hpersist
  refine ⟨w₃, ?_, ?_, rfl, hnone, rfl, hdemo⟩
  · show exec (catchGoverned (loadLastState (gapEnv s reading)) >>= _) w = _
    rw [exec_bind_ok (exec_catchGoverned_governed hload)]
    show exec (inspectRepo (gapEnv s reading) true >>= _) w₁ = _
    rw [exec_bind_ok hinspect]
    rfl
  · show Redeclared _ (progress (w₂.merged (gapEnv s reading) updates).state)
    rw [progress_merged _ (amounts_inspect _ declaration) w₂, named_self]
    · rfl
    · exact record.named

/-- A call on the saved state goes on with the state declared anew. -/
theorem exec_run_anew (record : RunRecord) (gapId : String) :
    ∃ w', exec (runGovernedRepoFlow (gapEnv s reading) false) (savedWorld record gapId)
        = exec (continueRun (gapEnv s reading)) w'
      ∧ Anew record gapId w' := by
  let w : World := savedWorld record gapId
  have htick : w.tick ≠ 2 := (by decide : 0 ≠ 2)
  obtain ⟨declaration, hread, hnone⟩ := read_gapEnv s reading htick rfl
  let w₁ : World := { w.next with client := w.client.withDeclaration declaration }
  have hinspect : exec (inspectRepo (gapEnv s reading) false) w = (.ok declaration, w₁) :=
    exec_inspectRepo (gapEnv s reading) false hread
  have hdescribes : Describes (gapEnv s reading) s.document := describes_gapEnv
  obtain ⟨r, resp, -, hdiscover⟩ := exec_discover_accepted (w := w₁) hdescribes s.accepts
  let w₂ : World := { (w₁.send r).hear r resp with
    client := w₁.client.discovered s.document s.table }
  have hlatest : w₂.latest = .saved record := rfl
  obtain ⟨w', hopen, hanew⟩ := exec_openRun_anew s reading (w := w₂) rfl hlatest hnone
    (fun _ => DemoFile.noConfusion)
  refine ⟨w', ?_, hanew⟩
  unfold runGovernedRepoFlow
  rw [exec_bind_ok hinspect, exec_bind_ok hdiscover, if_neg Bool.false_ne_true,
    resume_eq_continueRun, exec_bind_ok hopen]

end Opening

/-! ## The recovery -/

/-- A document that reports a run finished and lists one gap. -/
def offer (g : String) : Dict :=
  [("status", .str "succeeded"),
    ("gaps", .arr [.obj [("gap_id", .str g), ("status", .str "open")]])]

/-- A gap other than the given one. -/
def otherGap (g : String) : String := if g = "gap_1" then "gap_2" else "gap_1"

theorem otherGap_ne (g : String) : otherGap g ≠ g := by
  unfold otherGap
  by_cases h : g = "gap_1"
  · rw [if_pos h, h]
    decide
  · rw [if_neg h]
    exact fun heq => h heq.symm

theorem startsWith_otherGap (g : String) : startsWith (otherGap g) "gap_" = true := by
  unfold otherGap
  by_cases h : g = "gap_1"
  · rw [if_pos h]
    decide
  · rw [if_neg h]
    decide

/-- The one gap is selected, whatever is looked for. -/
theorem selectGapId_offer {g : String} (h : startsWith g "gap_" = true) (query : GapQuery) :
    selectGapId (offer g) query = .ok g := by
  let gap : Dict := [("gap_id", .str g), ("status", .str "open")]
  have hid : KeyholeGaps.gapId gap = g := by
    have hne : g ≠ "" := by
      rintro rfl
      exact absurd h (by decide)
    simp [KeyholeGaps.gapId, gap, firstString, hne]
  have hnone : KeyholeGaps.gapId (offer g) = "" := by
    simp [KeyholeGaps.gapId, offer, firstString]
  have hgaps : iterGapObjects (.obj (offer g)) = [gap] := by
    have hempty : startsWith "" "gap_" = false := by decide
    unfold iterGapObjects
    rw [hnone, hempty]
    simp only [offer, iterGapFields, iterGapObjects, iterGapItems]
    rw [show ([("gap_id", .str g), ("status", .str "open")] : Dict) = gap from rfl, hid, h]
    rfl
  have hstatus : gapStatus gap = "open" := by
    show lower "open" = "open"
    decide
  have hscore : 0 < gapScore query gap := by
    have hopen : ["open", "claimable", "actionable", "claimed"].contains (gapStatus gap) = true := by
      rw [hstatus]
      decide
    simp only [gapScore, hopen, if_true]
    omega
  have hclaimable : isClaimableGap gap = true := by
    have hlisted : claimableGapStatuses.contains (gapStatus gap) = true := by
      rw [hstatus]
      decide
    have hunlisted : nonClaimableGapStatuses.contains (gapStatus gap) = false := by
      rw [hstatus]
      decide
    unfold isClaimableGap
    rw [hlisted, hunlisted]
    rfl
  unfold selectGapId rankGaps
  rw [hgaps, List.mergeSort_singleton]
  simp only [List.filter_cons, List.filter_nil, hscore, decide_true, if_true, hclaimable,
    List.isEmpty_nil, hid]

/-- What the stages start with. -/
structure Resumed (s : Service) (gapId : String) (w : World) : Prop where
  underway : Underway w
  operations : w.client.operations = s.table
  operator : w.client.operatorGapId = gapId
  story : w.client.storyId = ""
  record : w.live.record ≠ ""

section Recovery

variable {s : Service} {reading : Dict} {gapId : String} {w w' : World} {record : RunRecord}

theorem Resumed.of_sameButGap (h : Resumed s gapId w) (hclient : SameButGap w w')
    (hdemo : w'.demo = w.demo) (hrecord : w'.live.record ≠ "") : Resumed s gapId w' := by
  have hunderway : Underway w' := h.underway.of_sameButGap hclient (by rw [hdemo]; exact h.underway.demo)
  obtain ⟨state, resolved, source, verified, hc⟩ := hclient
  refine ⟨hunderway, ?_, ?_, ?_, hrecord⟩
  · rw [hc]
    exact h.operations
  · rw [hc]
    exact h.operator
  · rw [hc]
    exact h.story

/-- The capabilities are asked for once more. -/
theorem resumed_discover (hgap : startsWith gapId "gap_" = true) (h : Anew record gapId w) :
    ∃ w', exec (discover (gapEnv s reading)) w = (.ok ⟨⟩, w') ∧ Resumed s gapId w'
      ∧ w'.live = w.live := by
  have hdescribes : Describes (gapEnv s reading) s.document := describes_gapEnv
  obtain ⟨r, resp, -, hdiscover⟩ := exec_discover_accepted (w := w) hdescribes s.accepts
  refine ⟨_, hdiscover, ⟨⟨s.accepts.supplied, ?_, ?_, h.declaration, h.demo⟩, rfl, h.operator,
    h.story, ?_⟩, rfl⟩
  · show (s.table.lookup "gaps.claim").isSome = true
    unfold Service.table
    cases s.runs with
    | true => decide
    | false => decide
  · show startsWith w.client.operatorGapId "gap_" = true
    rw [h.operator]
    exact hgap
  · show w.live.record ≠ ""
    rw [h.live]
    exact record.named

/-- A write leaves what the stages start with. -/
theorem resumed_persistState (reading : Dict) (h : Resumed s gapId w) {updates : Dict} {change : Progress → Progress}
    (hamounts : Amounts updates change) (hrecord : (change w.live).record ≠ "") :
    ∃ w', exec (persistState (gapEnv s reading) updates) w = (.ok ⟨⟩, w') ∧ Resumed s gapId w'
      ∧ w'.live = change w.live := by
  have hdone : ∃ w', exec (persistState (gapEnv s reading) updates) w = (.ok ⟨⟩, w') :=
    exec_persist_done rfl updates
  obtain ⟨w', hrun⟩ := hdone
  have hclient : SameButGap w w' ∧ w'.demo = w.demo := by
    rw [exec_persistState] at hrun
    obtain ⟨-, hw'⟩ := Prod.mk.inj hrun
    rw [← hw']
    exact ⟨⟨_, _, _, _, rfl⟩, rfl⟩
  have hlive : w'.live = change w.live := by
    rw [live_of_exec_persist hamounts hrun]
    exact named_self hrecord _
  refine ⟨w', hrun, h.of_sameButGap hclient.1 hclient.2 ?_, hlive⟩
  rw [hlive]
  exact hrecord

/-- The document reports success, whatever gap it lists. -/
theorem succeeds_offer (g : String) :
    isFalse ((offer g).get "ok") = false ∧ Succeeds (offer g) := by
  have hlower : lower "succeeded" = "succeeded" := by decide
  have hstatus : runStatus (offer g) = "succeeded" := hlower
  have hfinal : asyncTerminalStatuses.contains "succeeded" = true := by decide
  have hfailed : failedRunStatuses.contains "succeeded" = false := by decide
  refine ⟨rfl, ?_, ?_⟩
  · unfold isFinished
    rw [hstatus, hfinal, Bool.true_or]
  · unfold isFailedRun
    rw [hstatus, hfailed]

theorem lasting_gapEnv : Lasting (gapEnv s activeRun) := by
  intro t r step last hsite
  refine ⟨⟨200, "", some (.obj activeRun)⟩, activeRun, ?_, gives_found _ (by decide),
    by decide⟩
  rw [answer_gapEnv, hsite]
  rfl

/-- A run that is still active leaves the progress. -/
theorem exec_recover_active (h : Resumed s gapId w) :
    ∃ w', exec (recoverPendingRun (gapEnv s activeRun)) w = (.ok ⟨⟩, w') ∧ Resumed s gapId w'
      ∧ Redeclared w.live w'.live := by
  have hlasting : Lasting (gapEnv s activeRun) := lasting_gapEnv
  have hrecover : Unrecovers (gapEnv s activeRun) (recoverPendingRun (gapEnv s activeRun)) w :=
    unrecovers_recoverPendingRun hlasting h.record
  obtain ⟨_, w', hrun, hwaits, hsame, hdemo⟩ := exec_of_wp (wp_mono hrecover (fun _ _ hQ => hQ)
    (fun _ _ hE => hE.2.elim fun t hwrite => hwrite rfl))
  refine ⟨w', hrun, h.of_sameButGap (.of_sameClient hsame) hdemo ?_, hwaits.live⟩
  rw [hwaits.live]
  exact h.record

theorem reports_gapEnv (s : Service) {reading : Dict} (hok : isFalse (reading.get "ok") = false) :
    Reports (gapEnv s reading) reading := by
  refine ⟨⟨200, "", some (.obj reading)⟩, gives_found reading hok, ?_⟩
  intro t r step last hsite
  rw [answer_gapEnv, hsite]
  rfl

/-- A run that has come to its end is read. -/
theorem exec_recover_finished (h : Resumed s gapId w) {action : Action}
    (haction : Recorded action) (hpending : w.live.pending) (hstep : w.live.step = stateStep action)
    (hok : isFalse (reading.get "ok") = false) (hd : Succeeds reading)
    (hrecord : (w.live.restored reading action).record ≠ "") :
    ∃ w', exec (recoverPendingRun (gapEnv s reading)) w = (.ok ⟨⟩, w') ∧ Resumed s gapId w'
      ∧ w'.live = w.live.restored reading action := by
  obtain ⟨resp, hgives, hanswer⟩ := reports_gapEnv s hok
  obtain ⟨w₁, hclient, hdemo, hfinish⟩ := exec_recoverPendingRun_answered hanswer hgives hd.1 hpending
  have hlive : w₁.live = w.live := live_of_client hclient
  obtain ⟨updates, hamounts, hpersist⟩ :=
    exec_finishSavedRun (gapEnv s reading) haction (hlive ▸ hstep) hd.2
  have hw₁ : Resumed s gapId w₁ := h.of_sameButGap (.of_sameClient (.of_eq hclient)) hdemo
    (by rw [hlive]; exact h.record)
  obtain ⟨w', hrun, hw', hlive'⟩ := resumed_persistState reading hw₁ hamounts
    (by rw [hlive]; exact hrecord)
  refine ⟨w', ?_, hw', ?_⟩
  · rw [hfinish, hpersist, hrun]
  · rw [hlive', hlive]

/-- A lookup that has come to its end with another gap is taken for it. -/
theorem exec_recover_offer (h : Resumed s gapId w) (hpending : w.live.pending)
    (hstep : w.live.step = stateStep .gapDiscovery) {g : String} (hg : startsWith g "gap_" = true) :
    ∃ w', exec (recoverPendingRun (gapEnv s (offer g))) w = (.ok ⟨⟩, w') ∧ Resumed s gapId w'
      ∧ w'.live = { w.live.consumed with gap := g, step := "gap_resolved" } := by
  obtain ⟨hok, hd⟩ := succeeds_offer g
  obtain ⟨resp, hgives, hanswer⟩ := reports_gapEnv s hok
  obtain ⟨w₁, hclient, hdemo, hfinish⟩ := exec_recoverPendingRun_answered hanswer hgives hd.1 hpending
  have hlive : w₁.live = w.live := live_of_client hclient
  have hw₁ : Resumed s gapId w₁ := h.of_sameButGap (.of_sameClient (.of_eq hclient)) hdemo
    (by rw [hlive]; exact h.record)
  let w₂ : World := { w₁ with client := { w₁.client with resolvedGapId := g } }
  have hw₂ : Resumed s gapId w₂ := hw₁.of_sameButGap ⟨_, _, _, _, rfl⟩ rfl hw₁.record
  obtain ⟨w', hrun, hw', hlive'⟩ := resumed_persistState (offer g) hw₂
    (amounts_recoveredGap g (orElse (.str w₁.client.gapIdSource) (.str "gaps.list"))) hw₂.record
  have hne : g ≠ "" := by
    rintro rfl
    exact absurd hg (by decide)
  have hupdates : exec (recoveredUpdates (gapEnv s (offer g)) "gap_discovery" (offer g)) w₁
      = (.ok [("resolved_gap_id", .str g),
          ("gap_id_source", orElse (.str w₁.client.gapIdSource) (.str "gaps.list")),
          ("status", .str "gap_resolved"), ("step", .str "gap_resolved")], w₂) := by
    unfold recoveredUpdates
    rw [exec_bind_ok (exec_getClient w₁), if_pos rfl, selectGapId_offer hg]
    show exec (if g ≠ "" then _ else _) w₁ = _
    rw [if_pos hne]
    rfl
  refine ⟨w', ?_, hw', ?_⟩
  · rw [hfinish]
    unfold finishSavedRun updateStateFromResult
    rw [if_neg (by rw [hd.2]; exact Bool.false_ne_true), exec_bind_ok (exec_getClient w₁)]
    have hstep₁ : strOr (w₁.client.currentState.get "step") = "gap_discovery" := by
      show w₁.live.step = _
      rw [hlive, hstep]
      rfl
    rw [hstep₁, exec_bind_ok hupdates]
    exact hrun
  · rw [hlive', show w₂.live = w₁.live from rfl, hlive]

end Recovery

/-- With this reading of the saved run the recovery leaves a progress that does not meet the
    condition. -/
def Exposes (s : Service) (reading : Dict) (p : Progress) (gapId : String) : Prop :=
  ∀ w, Resumed s gapId w → Redeclared { p with terminal := false } w.live →
    ∃ w', exec (recoverPendingRun (gapEnv s reading)) w = (.ok ⟨⟩, w') ∧ Resumed s gapId w'
      ∧ ¬ Yielding s w'.live gapId

section Exposing

variable {s : Service} {reading : Dict} {gapId : String} {p q : Progress}

/-- The condition does not look at the declaration, nor at the end of the run. -/
theorem Yielding.of_redeclared (h : Yielding s q gapId)
    (hlive : Redeclared { p with terminal := false } q) : Yielding s p gapId := by
  unfold Redeclared at hlive
  rw [hlive] at h
  exact ⟨h.claimed, h.preclaim, h.registration⟩

/-- A run the state waits for is asked for once the state is declared anew. -/
theorem pending_of_waitsFor {action : Action} (h : p.waitsFor action)
    (hlive : Redeclared { p with terminal := false } q) :
    q.pending ∧ q.step = stateStep action := by
  unfold Redeclared at hlive
  rw [hlive]
  exact ⟨⟨h.1, rfl⟩, h.2⟩

theorem exposes_active (h : ¬ Yielding s p gapId) : Exposes s activeRun p gapId := by
  intro w hw hlive
  obtain ⟨w', hrun, hw', hlive'⟩ := exec_recover_active hw
  refine ⟨w', hrun, hw', fun hyields => h ?_⟩
  exact hyields.of_redeclared (hlive.trans hlive')

theorem exposes_finished {action : Action} (haction : Recorded action) (hwaits : p.waitsFor action)
    (hok : isFalse (reading.get "ok") = false) (hd : Succeeds reading)
    (h : ¬ Yielding s (p.restored reading action) gapId) : Exposes s reading p gapId := by
  intro w hw hlive
  obtain ⟨hpending, hstep⟩ := pending_of_waitsFor hwaits hlive
  have hrecord : (w.live.restored reading action).record = w.live.record := by
    rcases haction with rfl | rfl | rfl
    · rfl
    · rfl
    · rfl
  obtain ⟨w', hrun, hw', hlive'⟩ := exec_recover_finished hw haction hpending hstep hok hd
    (by rw [hrecord]; exact hw.record)
  refine ⟨w', hrun, hw', fun hyields => h ?_⟩
  unfold Redeclared at hlive
  rw [hlive', hlive] at hyields
  -- none of the three results depends on the declaration
  rcases haction with rfl | rfl | rfl
  · exact ⟨hyields.claimed, hyields.preclaim, hyields.registration⟩
  · exact ⟨hyields.claimed, hyields.preclaim, hyields.registration⟩
  · exact ⟨hyields.claimed, hyields.preclaim, hyields.registration⟩

theorem exposes_offer (hclaimed : p.claimed) (hwaits : p.waitsFor .gapDiscovery) :
    Exposes s (offer (otherGap gapId)) p gapId := by
  intro w hw hlive
  obtain ⟨hpending, hstep⟩ := pending_of_waitsFor hwaits hlive
  obtain ⟨w', hrun, hw', hlive'⟩ :=
    exec_recover_offer hw hpending hstep (startsWith_otherGap gapId)
  refine ⟨w', hrun, hw', fun hyields => ?_⟩
  unfold Redeclared at hlive
  rw [hlive', hlive] at hyields
  have hstarts := startsWith_otherGap gapId
  rcases hyields.claimed hclaimed with hnone | hsame
  · have hblank : otherGap gapId = "" := hnone
    rw [hblank] at hstarts
    exact absurd hstarts (by decide)
  · exact otherGap_ne gapId hsame

/-- A state that does not meet the condition is exposed by one of four readings. -/
theorem exists_exposing (hnot : ¬ Yields s p gapId) : ∃ reading, Exposes s reading p gapId := by
  by_contra hno
  have hactive : Yielding s p gapId := by
    by_contra h
    exact hno ⟨_, exposes_active h⟩
  have hread : ∀ (d : Dict) {action : Action}, Recorded action → p.waitsFor action →
      isFalse (d.get "ok") = false → Succeeds d → Yielding s (p.restored d action) gapId := by
    intro d action haction hwaits hok hd
    by_contra h
    exact hno ⟨_, exposes_finished haction hwaits hok hd h⟩
  have hempty : Succeeds emptyRun := ⟨by decide, by decide⟩
  refine hnot ⟨?_, ?_, ?_, ?_⟩
  · rintro (hclaimed | hwaits)
    · exact hactive.claimed hclaimed
    · have hsucceeds : Succeeds succeededClaim := ⟨by decide, by decide⟩
      have hclaimed : (p.restored succeededClaim .gapClaim).claimed :=
        .inl (by decide : extractClaimId succeededClaim ≠ "")
      exact (hread succeededClaim (.inl rfl) hwaits rfl hsucceeds).claimed hclaimed
  · intro hclaimed hwaits
    exact hno ⟨_, exposes_offer hclaimed hwaits⟩
  · by_cases hdigest : s.digest = true
    · exact .inl hdigest
    · refine .inr ⟨hactive.preclaim.resolve_left hdigest, fun hwaits => ?_⟩
      have hnone : extractClaimId emptyRun = "" ∧ extractClaimRef emptyRun = "" := by decide
      rcases (hread emptyRun (.inl rfl) hwaits rfl hempty).preclaim.resolve_left hdigest with
        hid | href
      · exact hid hnone.1
      · exact href hnone.2
  · by_cases hruns : s.runs = true
    · exact .inl hruns
    · refine .inr ⟨hactive.registration.resolve_left hruns, fun hwaits => ?_⟩
      have hnone : recoverRegistrationId emptyRun = "" := by decide
      exact (hread emptyRun (.inr (.inl rfl)) hwaits rfl hempty).registration.resolve_left hruns
        hnone

end Exposing

end KeyholeFlow
