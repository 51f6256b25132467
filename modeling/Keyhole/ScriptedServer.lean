import Keyhole.FlowOpening

/-!
# A server to run against

Environments in which the server answers each request by the place it comes from, the
working tree stays as it is and every write succeeds.  An ordinary answer lets the
flow go on; a script replaces some of them.  What the flow does against such a server
can be followed to its end. -/

namespace KeyholeFlow

open KeyholeJson KeyholeRedaction KeyholeEnvelope KeyholeGaps KeyholeOperations KeyholeRepo
  EffectProgram

/-! ## Answers -/

/-- An answer that carries the document. -/
def found (d : Dict) : HttpAnswer := .response ⟨200, "", some (.obj d)⟩

/-- The capabilities of a server that offers the four operations through runs. -/
def fourOperations : Dict :=
  [("operations", .obj [
    ("gaps.claim", .obj [("run_type", .str "gaps.claim")]),
    ("repo.register", .obj [("run_type", .str "repo.register")]),
    ("context.compile", .obj [("run_type", .str "context.compile")]),
    ("governed.realize", .obj [("run_type", .str "governed.realize")])])]

/-- A receipt that passes validation. -/
def completeReceipt : Dict :=
  [("governed", .bool true), ("event_spine_evidence", .bool true),
    ("governance_verdict", .str "ACCEPT"), ("drift_state", .str "none"),
    ("governance_context_id", .str "context-1"), ("mcp_event_id", .str "event-1"),
    ("receipt_id", .str "receipt-1"), ("realized_at", .str "2026-01-01T00:00:00Z")]

/-- The answer that lets the flow go on. -/
def ordinaryAnswer : Site → HttpAnswer
  | .capabilities => found fourOperations
  | .canonicalStatus => found [("current_canonical_digest", .str "canonical-1")]
  | .submit .gapDiscovery => found [("gap_id", .str "gap_1")]
  | .submit .gapClaim => found [("claim_id", .str "claim-1")]
  | .submit .registration => found [("registration_id", .str "registration-1")]
  | .submit .preclaimCompile => found [("governance_context_id", .str "preclaim-1")]
  | .submit .contextCompile => found [("governance_context_id", .str "context-1")]
  | .submit .realization => found completeReceipt
  | .runPoll _ => found [("status", .str "running")]
  | .savedRunPoll _ _ => found [("status", .str "running")]

/-- The answers of a script, ordinary ones where it is silent. -/
def scriptedAnswer (script : Nat → Site → Option HttpAnswer) (t : Nat) (r : Request) :
    HttpAnswer :=
  (script t r.site).getD (ordinaryAnswer r.site)

/-! ## Environments -/

/-- A file of the declaration. -/
def declared (content : Dict) : Option RepoFile := some ⟨"sha256:00", some (.obj content)⟩

/-- A working tree whose declaration is complete and whose local invariant holds. -/
def completeContent (commitSha : String) : RepoContent where
  keyhole := declared [("repo_class", .str "SDK_TEMPLATE")]
  contract := declared [("produces", .arr [.str "echo.user.v1"])]
  passport := declared []
  dependencies := declared []
  repoRemote := "https://example.test/app.git"
  commitSha := commitSha
  branch := "main"
  gate := fun _ => .ran [("verdict", .str "ACCEPT")]

/-- The environment of a script, over a working tree at one commit.  Nothing in the
    flow compares candidate digests, so that any digest will do. -/
def scripted (commitSha : String) (script : Nat → Site → Option HttpAnswer) : Env where
  answer := scriptedAnswer script
  write := fun _ => .done
  rounds := fun _ => 1
  now := fun _ => "2026-01-01T00:00:00+00:00"
  stamp := fun _ => "20260101T000000000000Z"
  stamp_ne_empty := fun _ => by decide
  freshIds := fun _ => ("key", "request")
  repo := fun _ => completeContent commitSha
  repoName := "app"
  repoDir := "/app"
  gapOverride := ""
  parseTime := fun text =>
    some (if text = "2026-01-01T00:00:00+00:00" then "2026-01-01T00:00:00Z" else text)
  sha256 := fun _ => "00"

/-- What a request is answered with depends on its place only. -/
theorem answer_scripted (commitSha : String) (script : Nat → Site → Option HttpAnswer) (t : Nat)
    (r : Request) : (scripted commitSha script).answer t r
      = (script t r.site).getD (ordinaryAnswer r.site) := rfl

/-- The client built from them. -/
def operatorClient (gapId : String) : Client where
  mcpUrl := "https://mcp.test"
  token := "token"
  runtimeUrl := "https://runtime.test"
  storyId := ""
  capabilityId := ""
  repoClass := ""
  operatorGapId := gapId
  resolvedGapId := ""
  gapIdSource := ""
  gapIdClaimableVerified := false
  capabilities := []
  operations := []
  repoDeclaration := none
  currentState := .empty

/-- A repository the flow was never used in. -/
def untouched (client : Client) : World := ⟨0, [], .absent, fun _ => .absent, client⟩

theorem initial_untouched (gapId : String) : Initial (untouched (operatorClient gapId)) :=
  ⟨rfl, rfl, rfl⟩

/-- A world that was reached from the untouched repository, with what its log shows. -/
structure OpeningRun (w : World) (shown : Prop) : Type where
  run : Run (untouched (operatorClient "gap_1")) w
  shows : shown

/-! ## A saved state -/

/-- The repository with a saved state, opened by a client with that operator gap. -/
def savedWorld (record : RunRecord) (operatorGapId : String) : World :=
  { untouched (operatorClient operatorGapId) with latest := .saved record }

/-- The complete working tree is readable. -/
theorem readable_complete {commitSha : String} (h : commitSha ≠ "") :
    Nonempty (Readable (completeContent commitSha) "" "") :=
  ⟨{ keyhole := [("repo_class", .str "SDK_TEMPLATE")]
     contract := [("produces", .arr [.str "echo.user.v1"])]
     passport := []
     dependencies := []
     missing := rfl
     keyholeLoads := rfl
     contractLoads := rfl
     passportLoads := rfl
     dependenciesLoads := rfl
     git := by
       have hremote : "https://example.test/app.git" ≠ "" := by decide
       have hnone : missingGitFields (completeContent commitSha) = [] := by
         rw [missingGitFields, completeContent, if_neg hremote, if_neg h]
         rfl
       rw [repoGitMetadata, hnone]
     capability := by decide
     repoClass := by decide }⟩

/-- Its local invariant holds for every capability. -/
theorem runLocalInvariant_complete (commitSha repoDir capabilityId : String) :
    runLocalInvariant (completeContent commitSha) repoDir capabilityId
      = .ok [("verdict", .str "ACCEPT")] := by
  have hgate : declaredInvariantGate (completeContent commitSha) capabilityId
      = .ok "tests/invariants/inv_greet.py" := by
    unfold declaredInvariantGate
    by_cases h : capabilityId = ""
    · simp only [if_pos h]
      rfl
    · simp only [if_neg h]
      rfl
  unfold runLocalInvariant
  rw [hgate]
  rfl

/-- A working tree that can be read without a hint can be read with any. -/
theorem exists_declaration {content : RepoContent} (h : Nonempty (Readable content "" ""))
    (repoName story cap cls : String) :
    ∃ declaration, readRepoDeclaration content repoName story cap cls = .ok declaration := by
  obtain ⟨hread⟩ := h
  exact readRepoDeclaration_of_filled story (hread.read repoName story) (or_not.imp_right id)
    (or_not.imp_right id)

/-- A client as the loaded state leaves it. -/
structure Loads (record : RunRecord) (operatorGapId : String) (w : World) : Prop where
  state : w.client.currentState = record.state
  latest : w.latest = .saved record
  log : w.log = []
  demo : w.demo = fun _ => .absent
  operator : w.client.operatorGapId = operatorGapId
  verified : w.client.gapIdClaimableVerified = false
  resolved : (progress record.state).gap = "" → w.client.resolvedGapId = ""
  declaration : w.client.repoDeclaration.isSome = true

theorem exec_loadLastState_saved {env : Env} (hread : ∀ t, Nonempty (Readable (env.repo t) "" ""))
    (record : RunRecord) (operatorGapId : String) :
    ∃ w', exec (loadLastState env) (savedWorld record operatorGapId) = (.ok record.state, w')
      ∧ Loads record operatorGapId w' := by
  let w : World := savedWorld record operatorGapId
  have hlatest : w.latest = .saved record := rfl
  rcases loadLastState_cases env hlatest with
    ⟨declaration, w', -, hload, hw', hdeclared⟩ | ⟨e, w', hfails, -, -, -⟩
  · refine ⟨w', hload, hw'.state, hw'.latest, hw'.log, hw'.demo, hw'.operator, hw'.verified rfl,
      hw'.resolved, ?_⟩
    rw [hdeclared]
    rfl
  · obtain ⟨declaration, hok⟩ := exists_declaration (hread w.tick) env.repoName
      (loadHints record w.client).1 (loadHints record w.client).2.1 (loadHints record w.client).2.2
    exact nomatch hok.symm.trans hfails

theorem exec_openRun_saved {env : Env} (hread : ∀ t, Nonempty (Readable (env.repo t) "" ""))
    (record : RunRecord) (operatorGapId : String) :
    ∃ w', exec (openRun env true) (savedWorld record operatorGapId) = (.ok ⟨⟩, w')
      ∧ Loads record operatorGapId w' := by
  obtain ⟨w', hrun, hw'⟩ := exec_loadLastState_saved hread record operatorGapId
  refine ⟨w', ?_, hw'⟩
  show exec (catchGoverned (loadLastState env) >>= _) _ = _
  rw [exec_bind_ok (exec_catchGoverned_ok hrun)]
  rfl

end KeyholeFlow
