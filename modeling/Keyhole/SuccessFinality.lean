import Keyhole.CrashRecovery
import Keyhole.FinalReceipt

/-!
# What a success is taken for later

A realization is accepted on its evidence, recognized as done by its `receipt_id`, and
fetched by its `receipt_id` or its `proof_id`: three different questions to one receipt.
An accepted receipt may answer the first and neither of the others.

* `Succeeded`: a call that accepted a receipt and saved the success;
* `Recognized`: no later call requests a realization, and the receipt can be fetched;
* `recognized_of_receiptId`: so it is, whatever is called and however often, where the
  receipt names an id. -/

namespace KeyholeFlow

open KeyholeJson KeyholeRedaction KeyholeEnvelope KeyholeGaps KeyholeOperations KeyholeRepo
  EffectProgram

/-! ## Later calls -/

/-- A call of `resume_governed_repo_flow` returned after it had accepted the receipt in the
    answer `d` and persisted the success. -/
structure Succeeded (env : Env) (useLastState : Bool) (d : Dict) (w w' : World) : Prop where
  returned : ∃ result, exec (resumeGovernedRepoFlow env useLastState) w = (.ok result, w')
  accepted : ∃ receipt v v₁, exec (runGovernedRealization env) v = (.ok receipt, v₁)
    ∧ ReceiptOf d receipt
    ∧ exec (persistState env (realizedUpdates receipt)) v₁ = (.ok ⟨⟩, w')

/-- A call on the saved state, over one content of the repository, or a new process.  A call
    may come to its end, raise or die on the way. -/
inductive LaterCall (content : RepoContent) : World → World → Prop where
  | resume (env : Env) (hrepo : ∀ t, env.repo t = content) (w : World) :
      LaterCall content w ((Command.resume true).after env w)
  | run (env : Env) (hrepo : ∀ t, env.repo t = content) (w : World) :
      LaterCall content w ((Command.run false).after env w)
  | process (config : Config) (client : Client) (h : Client.init config = .ok client)
      (w : World) : LaterCall content w { w with client := client }

/-- Any number of them. -/
def Later (content : RepoContent) : World → World → Prop :=
  Relation.ReflTransGen (LaterCall content)

/-- `receipt_governed_repo_flow` returns the receipt with that id to every client that can
    read the declaration; to another it reports what the reading raises. -/
structure Fetches (env : Env) (v : World) (id : String) : Prop where
  readable : (∃ declaration, readRepoDeclaration (env.repo v.tick) env.repoName v.client.storyId
      v.client.capabilityId v.client.repoClass = .ok declaration) →
    ∃ result v', exec (receiptGovernedRepoFlow env) v = (.ok result, v')
      ∧ resultReceipt result = id
  other : ∀ e v', exec (receiptGovernedRepoFlow env) v = (.error e, v') →
    ∃ story cap cls, readRepoDeclaration (env.repo v.tick) env.repoName story cap cls = .error e

/-- Later calls take the success for final. -/
structure Recognized (content : RepoContent) (w' : World) (id : String) : Prop where
  unrepeated : ∀ v, Later content w' v → ∀ newer, v.log = newer ++ w'.log →
    .realization ∉ submitted newer
  fetched : ∀ v, Later content w' v → ∀ env, (∀ t, env.repo t = content) → Fetches env v id

/-! ## The saved success -/

section Saved

variable {env : Env} {w v : World} {record : RunRecord}

/-- Where a write returns, the state in memory is the one on disk, and in the log. -/
theorem saved_of_exec_persist {updates : Dict} {u : PUnit}
    (hrun : exec (persistState env updates) w = (.ok u, v)) :
    ∃ record, v.latest = .saved record ∧ v.client.currentState = record.state
      ∧ v.log = .persisted record :: w.log := by
  rw [exec_persistState] at hrun
  cases hwrite : env.write w.tick with
  | done =>
    rw [hwrite] at hrun
    obtain ⟨-, hv⟩ := Prod.mk.inj hrun
    rw [← hv]
    exact ⟨_, rfl, rfl, rfl⟩
  | lost f | torn f | late f =>
    rw [hwrite] at hrun
    exact nomatch (Prod.mk.inj hrun).1

/-- A success is saved with every stage done and the id of its receipt. -/
theorem saved_of_succeeded {useLastState : Bool} {d : Dict} {w' : World}
    (h : Succeeded env useLastState d w w') :
    ∃ record, w'.latest = .saved record ∧ (progress record.state).ready
      ∧ (progress record.state).terminal = true
      ∧ (progress record.state).receipt = receiptIdOf d := by
  obtain ⟨result, hrun⟩ := h.returned
  obtain ⟨receipt, v, v₁, -, hreceipt, hpersist⟩ := h.accepted
  have hready : w'.live.ready :=
    (wp_ok (follows_resumeGovernedRepoFlow (L := .always) useLastState
      (fun _ _ _ _ => .inr (.inl trivial))) hrun).2
  have hlive := live_of_exec_persist (amounts_realized hreceipt.context hreceipt.receiptId)
    hpersist
  obtain ⟨record, hlatest, hstate, -⟩ := saved_of_exec_persist hpersist
  have hsame : progress record.state = w'.live := congrArg progress hstate.symm
  refine ⟨record, hlatest, ?_, ?_, ?_⟩
  · rw [hsame]
    exact hready
  · rw [hsame, hlive]
    rfl
  · rw [hsame, hlive]
    rfl

/-! ## Calls on a finished state -/

/-- The saved state and what was requested are as they were. -/
def Unmoved (w w' : World) : Prop := w'.latest = w.latest ∧ submitted w'.log = submitted w.log

/-- A resumption of a finished state leaves it and requests nothing. -/
theorem unmoved_resume {content : RepoContent} (hrepo : ∀ t, env.repo t = content)
    (hlatest : w.latest = .saved record) (hfinished : (progress record.state).finished) :
    wp (resumeGovernedRepoFlow env true) (fun _ w' => Unmoved w w') (fun _ w' => Unmoved w w')
      w := by
  rw [resume_eq_continueRun]
  refine wp_bind.mpr (wp_mono (opens_openRun hlatest hrepo) ?_ ?_)
  · rintro _ w₁ ⟨hreloaded, hdeclared⟩
    have hlive : w₁.live.finished := by
      rw [World.live, hreloaded.state]
      exact hfinished
    have hdone : ∀ w₂, Asks w₁ w₂ → Unmoved w w₂ := fun w₂ hasks =>
      ⟨hasks.latest.trans hreloaded.latest, by rw [hasks.submitted, hreloaded.log]⟩
    exact wp_mono (continueRun_finished hlive hdeclared) (fun _ w₂ => hdone w₂)
      (fun _ w₂ => hdone w₂)
  · rintro _ w₁ ⟨hlog, hkept⟩
    exact ⟨hkept, by rw [hlog]⟩

/-- What one later call leaves of a finished state. -/
theorem unmoved_of_laterCall {content : RepoContent} {w' : World}
    (hlatest : w.latest = .saved record) (hfinished : (progress record.state).finished)
    (h : LaterCall content w w') : Unmoved w w' := by
  cases h with
  | resume env hrepo => exact wp_final (unmoved_resume hrepo hlatest hfinished)
  | run env hrepo =>
    refine wp_final (P := fun v => Unmoved w v) (wp_runGovernedRepoFlow (fun _ _ => And.intro) ?_)
    intro w₁ hkept hsubmitted
    have htrans : ∀ v, Unmoved w₁ v → Unmoved w v := fun v hv =>
      ⟨hv.1.trans hkept, hv.2.trans hsubmitted⟩
    exact wp_mono (unmoved_resume hrepo (hkept.trans hlatest) hfinished) (fun _ v => htrans v)
      (fun _ v => htrans v)
  | process => exact ⟨rfl, rfl⟩

/-- What any number of them leave. -/
theorem unmoved_of_later {content : RepoContent} {w' : World}
    (hlatest : w.latest = .saved record) (hfinished : (progress record.state).finished)
    (h : Later content w w') : Unmoved w w' := by
  refine invariant_of_trace (I := fun v => Unmoved w v) ?_ h ⟨rfl, rfl⟩
  intro v v' hv hcall
  obtain ⟨hkept, hsubmitted⟩ := unmoved_of_laterCall (hv.1.trans hlatest) hfinished hcall
  exact ⟨hkept.trans hv.1, hsubmitted.trans hv.2⟩

/-! ## Fetching the receipt -/

/-- What `receipt_governed_repo_flow` returns of a state. -/
def fetchedResult (state : SavedState) : Dict :=
  redactFields [
    ("live_confirmed", .bool (truthy (state.getOr "live_confirmed" (.bool false)))),
    ("receipt", receiptSection state)]

/-- Redaction leaves a plain value with a default alone. -/
theorem redact_getOr_empty (s : SavedState) (k : String) (h : PlainKey k) :
    redact (s.getOr k (.str "")) = s.getOr k (.str "") := by
  unfold SavedState.getOr
  cases hhas : s.doc.has k with
  | true =>
    rw [getOr_of_has hhas]
    exact s.redact_get k h
  | false => rw [getOr_of_not_has hhas, redact_str]

/-- The id shown is that of the saved receipt. -/
theorem resultReceipt_fetched (s : SavedState) :
    resultReceipt (fetchedResult s) = (progress s).receipt := by
  have hsection : (fetchedResult s).child "receipt" = asDict (redact (receiptSection s)) := by
    show asDict (Dict.get (redactFields _) "receipt") = _
    rw [get_redactFields _ _ (by decide)]
    simp
  have hid : Dict.get (asDict (redact (receiptSection s))) "receipt_id"
      = redact (s.getOr "receipt_id" (.str "")) := by
    show Dict.get (redactFields _) "receipt_id" = _
    rw [get_redactFields _ _ (by decide)]
    simp
  unfold resultReceipt
  rw [hsection, hid, redact_getOr_empty s "receipt_id" (by decide)]
  exact strOr_getOr_empty s "receipt_id"

/-- The receipt of a saved state that has one is returned, or the declaration cannot be
    read. -/
theorem exec_receipt_saved (env : Env) (hlatest : w.latest = .saved record)
    (hreceipt : (progress record.state).receipt ≠ "") :
    (∃ result w', exec (receiptGovernedRepoFlow env) w = (.ok result, w')
      ∧ resultReceipt result = (progress record.state).receipt) ∨
    (∃ e w', exec (receiptGovernedRepoFlow env) w = (.error e, w')
      ∧ loadReading env record w = .error e) := by
  rcases loadLastState_cases env hlatest with
    ⟨declaration, w', -, hload, -, -⟩ | ⟨e, w', hfails, hload, -, -⟩
  · left
    have hset : truthy (record.state.get "receipt_id") = true := by
      rw [truthy_eq_strOr, decide_eq_true_iff]
      exact hreceipt
    refine ⟨fetchedResult record.state, w', ?_, resultReceipt_fetched _⟩
    unfold receiptGovernedRepoFlow
    rw [exec_bind_ok hload, if_neg]
    · rfl
    · rintro ⟨hnone, -⟩
      exact nomatch hnone.symm.trans hset
  · right
    refine ⟨e, w', ?_, hfails⟩
    unfold receiptGovernedRepoFlow
    exact exec_bind_error hload

/-- A saved receipt is fetched. -/
theorem fetches_of_saved (env : Env) (hlatest : w.latest = .saved record)
    (hreceipt : (progress record.state).receipt ≠ "") :
    Fetches env w (progress record.state).receipt where
  readable := by
    rintro ⟨declaration, hread⟩
    rcases exec_receipt_saved env hlatest hreceipt with hok | ⟨e, w', -, hfails⟩
    · exact hok
    · obtain ⟨declaration', hok⟩ := loadReading_of_read record hread
      exact nomatch hok.symm.trans hfails
  other := by
    intro e v' hrun
    rcases exec_receipt_saved env hlatest hreceipt with ⟨result, w', hok, -⟩ | ⟨e', w', herr, hfails⟩
    · exact nomatch hok.symm.trans hrun
    · cases herr.symm.trans hrun
      exact ⟨_, _, _, hfails⟩

end Saved

/-- **A success is taken for final** by every later call where its receipt names an id. -/
theorem recognized_of_receiptId {env : Env} {useLastState : Bool} {d : Dict} {w w' : World}
    (h : Succeeded env useLastState d w w') (hid : receiptIdOf d ≠ "") (content : RepoContent) :
    Recognized content w' (receiptIdOf d) := by
  obtain ⟨record, hlatest, hready, hterminal, hreceipt⟩ := saved_of_succeeded h
  have hfinished : (progress record.state).finished :=
    ⟨hready, by rw [hreceipt]; exact hid, hterminal⟩
  constructor
  · intro v hlater newer hlog
    have hsubmitted := (unmoved_of_later hlatest hfinished hlater).2
    rw [hlog, submitted_append] at hsubmitted
    have hnone : submitted newer = [] := List.append_left_eq_self.mp hsubmitted
    rw [hnone]
    exact List.not_mem_nil
  · intro v hlater env' hrepo
    have hkept := (unmoved_of_later hlatest hfinished hlater).1.trans hlatest
    rw [← hreceipt]
    exact fetches_of_saved env' hkept (by rw [hreceipt]; exact hid)

/-! ## A server that answers with a given receipt -/

/-- The environment whose server answers every realization with the document. -/
def receiptEnv (d : Dict) : Env := scripted "commit-1" fun _ site =>
  if site = .submit .realization then some (found d) else none

/-- A document that the client accepts as a receipt whenever it comes. -/
structure Acceptable (d : Dict) : Prop where
  ok : isFalse (d.get "ok") = false
  settled : isActive d = false
  valid : ∀ now candidate, ∃ receipt, validReceipt (receiptEnv d) now d candidate = .ok receipt

section Repeated

variable {d : Dict} {w : World} {record : RunRecord}

theorem answer_receiptEnv {t : Nat} {r : Request} (hsite : r.site ≠ .submit .realization) :
    (receiptEnv d).answer t r = ordinaryAnswer r.site := by
  unfold receiptEnv
  rw [answer_scripted, if_neg hsite]
  rfl

theorem describes_receiptEnv : Describes (receiptEnv d) fourOperations := by
  intro t r hsite
  refine ⟨⟨200, "", some (.obj fourOperations)⟩, ?_, by decide, rfl⟩
  rw [answer_receiptEnv (by rw [hsite]; exact nofun), hsite]
  rfl

theorem obliging_receiptEnv : Obliging (receiptEnv d) none where
  write := fun _ => rfl
  dies := nofun
  capabilities := ⟨fourOperations, fourTable, describes_receiptEnv, accepts_fourOperations,
    by decide⟩
  status := by
    intro t r hsite hanswer
    rw [answer_receiptEnv (by rw [hsite]; exact nofun), hsite] at hanswer
    exact nomatch hanswer
  submit := by
    intro action hgap hrealization _
    refine usable_of_ordinary hgap hrealization fun t r hsite => ?_
    rw [answer_receiptEnv (by rw [hsite]; exact fun h => hrealization (Site.submit.inj h)), hsite]
  git := fun _ => rfl
  gate := fun _ capability => ⟨_, runLocalInvariant_complete "commit-1" "/app" capability⟩

theorem delivers_receiptEnv (hd : Acceptable d) : Delivers (receiptEnv d) .realization d := by
  refine delivers_found (fun t r hsite => ?_) hd.ok hd.settled
  unfold receiptEnv
  rw [answer_scripted, if_pos hsite]
  rfl

/-- A run whose target is none comes to its end. -/
theorem returns_of_comes {α : Type} {m : Flow α} {Q : α → World → Prop}
    (h : Comes none m Q w) : ∃ a w', exec m w = (.ok a, w') ∧ Q a w' := by
  refine exec_of_wp (wp_mono h (fun _ _ hQ => hQ) ?_)
  rintro _ _ ⟨-, _, _, _, hnone, -⟩
  exact nomatch hnone

/-- Opening the saved state and asking for the capabilities. -/
theorem exec_opening_receiptEnv (hlatest : w.latest = .saved record)
    (hoperator : startsWith w.client.operatorGapId "gap_" = true)
    (hdemo : ∀ name, w.demo name ≠ .corrupt) :
    ∃ w₁ w₂, exec (openRun (receiptEnv d) true) w = (.ok ⟨⟩, w₁)
      ∧ exec (discover (receiptEnv d)) w₁ = (.ok ⟨⟩, w₂)
      ∧ w₂.live = progress record.state ∧ Underway w₂ ∧ ∃ newer, w₂.log = newer ++ w.log := by
  rcases loadLastState_cases (receiptEnv d) hlatest with
    ⟨declaration, w₁, -, hload, hreloaded, hdeclared⟩ | ⟨e, w₁, hfails, -, -, -⟩
  · obtain ⟨r, resp, -, hdiscover⟩ :=
      exec_discover_accepted (w := w₁) (describes_receiptEnv (d := d)) accepts_fourOperations
    refine ⟨w₁, _, ?_, hdiscover, ?_, ?_, ?_⟩
    · show exec (catchGoverned (loadLastState (receiptEnv d)) >>= _) w = _
      rw [exec_bind_ok (exec_catchGoverned_ok hload)]
      rfl
    · show progress w₁.client.currentState = _
      rw [hreloaded.state]
    · have hclaim : (fourTable.lookup "gaps.claim").isSome = true := by decide
      refine ⟨accepts_fourOperations.supplied, hclaim, ?_, ?_, fun name => ?_⟩
      · show startsWith w₁.client.operatorGapId "gap_" = true
        rw [hreloaded.operator]
        exact hoperator
      · show w₁.client.repoDeclaration.isSome = true
        rw [hdeclared]
        rfl
      · show w₁.demo name ≠ .corrupt
        rw [hreloaded.demo]
        exact hdemo name
    · exact ⟨[_, _], congrArg (fun log => _ :: _ :: log) hreloaded.log⟩
  · have hcommit : "commit-1" ≠ "" := by decide
    obtain ⟨declaration, hok⟩ := exists_declaration (readable_complete hcommit)
      "app" (loadHints record w.client).1 (loadHints record w.client).2.1
      (loadHints record w.client).2.2
    exact nomatch hok.symm.trans hfails

/-- From a state that waits for its realization only, the flow comes to its success. -/
theorem succeeds_receiptEnv (hd : Acceptable d) (hlatest : w.latest = .saved record)
    (hready : (progress record.state).ready) (hopen : ¬ (progress record.state).realized)
    (hidle : ¬ (progress record.state).pending)
    (hoperator : startsWith w.client.operatorGapId "gap_" = true)
    (hdemo : ∀ name, w.demo name ≠ .corrupt) :
    ∃ w', Succeeded (receiptEnv d) true d w w' ∧ Underway w'
      ∧ ∃ newer, w'.log = newer ++ w.log ∧ .realization ∈ submitted newer := by
  obtain ⟨w₁, w₂, hopening, hdiscover, hlive, hunderway, newer, hlog⟩ :=
    exec_opening_receiptEnv (d := d) hlatest hoperator hdemo
  have hrecord : w₂.live.record ≠ "" := by
    rw [hlive]
    exact record.named
  rw [← hlive] at hready hopen hidle
  obtain ⟨declaration, hknown⟩ := exec_knownDeclaration (receiptEnv d) hunderway.declaration
  have hobliging : Obliging (receiptEnv d) none := obliging_receiptEnv
  have hrealizes : Comes none (runGovernedRealization (receiptEnv d)) (fun receipt v =>
      Underway v ∧ ReceiptOf d receipt) w₂ := by
    refine (comes_runGovernedRealization (P := fun d' => d' = d) hobliging hunderway
      hready.2.2.2 (fun r v hsite hv => comes_delivered hv hsite (delivers_receiptEnv hd))
      (fun d' hsame t candidate => hsame ▸ hd.valid _ _)).mono ?_
    rintro receipt v ⟨hv, d', t, candidate, rfl, hvalid⟩
    exact ⟨hv, receiptOf_of_valid hvalid⟩
  obtain ⟨receipt, v, hrealization, hv, hreceipt⟩ := returns_of_comes hrealizes
  obtain ⟨_, w', hpersist, hw'⟩ :=
    returns_of_comes (comes_persistState hobliging hv (realizedUpdates receipt))
  have hstage : exec (realizeStage (receiptEnv d)) w₂ = (.ok ⟨⟩, w') := by
    have hset : ¬ isRealized w₂.client.currentState = true := by
      rw [isRealized_eq, decide_eq_true_iff]
      exact hopen
    unfold realizeStage
    rw [exec_bind_ok (exec_getClient w₂), if_neg hset, exec_bind_ok hrealization]
    exact hpersist
  have hstages : exec (stages (receiptEnv d)) w₂ = (.ok ⟨⟩, w') := by
    unfold stages
    rw [exec_bind_ok (exec_gapStage_held hready.1), exec_bind_ok (exec_claimStage_held hready.2.1),
      exec_bind_ok (exec_registrationStage_held hready.2.2.1),
      exec_bind_ok (exec_compileStage_held hready.2.2.2)]
    exact hstage
  refine ⟨w', ⟨⟨resultFromState w'.client.currentState declaration, ?_⟩,
    receipt, w₂, v, hrealization, hreceipt, hpersist⟩, hw', ?_⟩
  · rw [resume_eq_continueRun, exec_bind_ok hopening]
    unfold continueRun
    rw [exec_bind_ok hdiscover, exec_bind_ok (exec_recoverPendingRun_idle hidle),
      exec_bind_ok hknown, exec_bind_ok hstages]
    rfl
  · -- the request came after the state was opened
    obtain ⟨-, hrealized⟩ := wp_ok (follows_runGovernedRealization (L := .always) hready hopen
      hrecord) hrealization
    obtain ⟨older, r, d', how, hsettled, -, since, holder⟩ := hrealized.settled
    obtain ⟨recent, hrecent, hmem⟩ := submitted_since hsettled holder
    obtain ⟨saved, -, -, hsaved⟩ := saved_of_exec_persist hpersist
    refine ⟨.persisted saved :: recent ++ newer, ?_, ?_⟩
    · rw [hsaved, hrecent, hlog, List.cons_append, List.cons_append, List.append_assoc]
    · rw [List.cons_append, submitted_persisted, submitted_append]
      exact List.mem_append_left _ hmem

end Repeated

/-! ## A receipt with a name and one without -/

/-- A state that only waits for its realization. -/
def readyRecord : RunRecord where
  state := .ofDict [("run_record_id", .str "20260101T000000000000Z"),
    ("commit_sha", .str "commit-1"), ("resolved_gap_id", .str "gap_1"),
    ("claim_id", .str "claim-1"), ("registration_id", .str "registration-1"),
    ("governance_context_id", .str "context-1")]
  named := by decide

/-- A receipt that passes validation and names no id. -/
def namelessReceipt : Dict :=
  [("governed", .bool true), ("event_spine_evidence", .bool true),
    ("governance_verdict", .str "ACCEPT"), ("drift_state", .str "none"),
    ("governance_context_id", .str "context-1"), ("mcp_event_id", .str "event-1"),
    ("realized_at", .str "2026-01-01T00:00:00Z")]

theorem acceptable_completeReceipt : Acceptable completeReceipt where
  ok := by decide
  settled := by decide
  valid := fun _ _ => ⟨_, rfl⟩

theorem acceptable_namelessReceipt : Acceptable namelessReceipt where
  ok := by decide
  settled := by decide
  valid := fun _ _ => ⟨_, rfl⟩

/-- The realization of the state is accepted whatever receipt answers it. -/
theorem succeeds_readyRecord {d : Dict} (hd : Acceptable d) :
    ∃ w', Succeeded (receiptEnv d) true d (savedWorld readyRecord "gap_1") w' ∧ Underway w' := by
  have hready : (progress readyRecord.state).ready := by decide
  have hopen : ¬ (progress readyRecord.state).realized := by decide
  have hidle : ¬ (progress readyRecord.state).pending := by decide
  have hgap : startsWith (savedWorld readyRecord "gap_1").client.operatorGapId "gap_" = true := by
    decide
  obtain ⟨w', h, hw', -⟩ := succeeds_receiptEnv hd (w := savedWorld readyRecord "gap_1") rfl
    hready hopen hidle hgap (fun _ => DemoFile.noConfusion)
  exact ⟨w', h, hw'⟩

theorem success_recognized : ∃ w',
    Succeeded (receiptEnv completeReceipt) true completeReceipt (savedWorld readyRecord "gap_1") w'
      ∧ ∀ content, Recognized content w' (receiptIdOf completeReceipt) := by
  obtain ⟨w', h, -⟩ := succeeds_readyRecord acceptable_completeReceipt
  exact ⟨w', h, recognized_of_receiptId h (by decide)⟩

/-- A success whose receipt names no id is realized again by the next call. -/
theorem nameless_success_repeated : ∃ w',
    Succeeded (receiptEnv namelessReceipt) true namelessReceipt (savedWorld readyRecord "gap_1") w'
      ∧ ¬ ∃ id, Recognized (completeContent "commit-1") w' id := by
  obtain ⟨w₁, h, hw₁⟩ := succeeds_readyRecord acceptable_namelessReceipt
  refine ⟨w₁, h, ?_⟩
  rintro ⟨id, hrecognized⟩
  obtain ⟨record, hlatest, hready, hterminal, hreceipt⟩ := saved_of_succeeded h
  have hnameless : receiptIdOf namelessReceipt = "" := by decide
  have hopen : ¬ (progress record.state).realized := fun hrealized =>
    hrealized.1 (hreceipt.trans hnameless)
  have hidle : ¬ (progress record.state).pending := fun hpending =>
    nomatch hterminal.symm.trans hpending.2
  obtain ⟨w₂, hagain, -, newer, hlog, hmem⟩ := succeeds_receiptEnv acceptable_namelessReceipt
    hlatest hready hopen hidle hw₁.operator hw₁.demo
  have hlater : Later (completeContent "commit-1") w₁ w₂ := by
    obtain ⟨result, hrun⟩ := hagain.returned
    have hafter : (Command.resume true).after (receiptEnv namelessReceipt) w₁ = w₂ :=
      congrArg Prod.snd hrun
    rw [← hafter]
    exact .single (.resume _ (fun _ => rfl) w₁)
  exact hrecognized.unrepeated w₂ hlater newer hlog hmem

end KeyholeFlow
