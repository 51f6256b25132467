import Keyhole.ScriptedServer

/-!
# Where the context of a realization comes from

The invariant that carries every governance context id back to the answer it was
read from.  A saved state is `Grounded` in a log when each of its results is: the
registration in an answer to a registration of the same run record, the context in an
answer to a compile sent after it, and a run it names in the answer that accepted
it.  The recovery of a pre-claim compile and the receipt of a realization write the
same key from other answers, which `ContextsAgree` rules out. -/

namespace KeyholeFlow

open KeyholeJson KeyholeEnvelope EffectProgram

/-! ## Grounded states -/

/-- The results of a progress of the run record `record` are grounded in the log. -/
structure GroundedIn (log : List Event) (record : String) (p : Progress) : Prop where
  registered : p.registration ≠ "" → Registered log record
  produced : p.context ≠ "" → Produced log record p.context
  run : ∀ action, 3 ≤ action.level → p.namesRun → p.step = stateStep action →
    ∃ older r accepted, Answered log older record r action accepted ∧
      isActive accepted = true ∧ runId accepted = p.runId ∧ pollUrl accepted = p.pollUrl

/-- A progress without a run record is blank, any other is grounded. -/
structure Grounded (log : List Event) (p : Progress) : Prop where
  blank : p.record = "" → p = .blank
  results : GroundedIn log p.record p

/-- What a request was sent on. -/
def SentWell (older : List Event) (record : String) (r : Request) : Prop :=
  match r.site with
  | .submit .registration => record ≠ ""
  | .submit .contextCompile => record ≠ "" ∧ Registered older record
  | .submit .realization => record ≠ "" ∧ Produced older record r.context
  | _ => True

/-- What a log may hold: a request was sent on what the log held before it, and a
    state that was persisted is grounded. -/
def WellGrounded : Event → List Event → Prop
  | .sent record r, older => SentWell older record r
  | .received _ _, _ => True
  | .persisted s, older => Grounded older (progress s.state)

/-- Everything in the log is well grounded. -/
def Justified (log : List Event) : Prop := Throughout WellGrounded log

/-- The answers under which the context of a state stays the one that was compiled:
    no recovered pre-claim compile brings a context id, and no receipt names another
    context than its realization was sent with. -/
structure ContextsAgree (log : List Event) : Prop where
  preclaim : ∀ r resp d last, .received r resp ∈ log →
    r.site = .savedRunPoll (stateStep .preclaimCompile) last → Gives resp d → Succeeds d →
    extractContextId d = ""
  receipt : ∀ older record r d how, Settled log older record r .realization d how →
    receiptContext d ≠ "" → receiptContext d = r.context

theorem contextsAgree_hereditary : Hereditary ContextsAgree := fun newer _ h =>
  { preclaim := fun r resp d last hmem =>
      h.preclaim r resp d last (List.mem_append_right newer hmem)
    receipt := fun older record r d how hs =>
      h.receipt older record r d how (hs.mono newer) }

variable {r : Request} {older log : List Event} {d : Dict} {action : Action} {q p : Progress}
variable {how : Delivery} {record operator : String}

section Grounding

variable {log : List Event} {record : String} {p : Progress}

theorem GroundedIn.blank (log : List Event) (record : String) : GroundedIn log record .blank where
  registered h := absurd rfl h
  produced h := absurd rfl h
  run _ _ hn := absurd hn (fun h => h.elim (fun h => h rfl) (fun h => h rfl))

theorem Grounded.blankProgress (log : List Event) : Grounded log .blank :=
  ⟨fun _ => rfl, .blank log _⟩

theorem GroundedIn.mono (h : GroundedIn log record p) (newer : List Event) :
    GroundedIn (newer ++ log) record p where
  registered hreg := (h.registered hreg).mono newer
  produced hctx := (h.produced hctx).mono newer
  run action hl hn hstep := by
    obtain ⟨older, r, accepted, hans, hrest⟩ := h.run action hl hn hstep
    exact ⟨older, r, accepted, hans.mono newer, hrest⟩

theorem Grounded.mono (h : Grounded log p) (newer : List Event) : Grounded (newer ++ log) p :=
  ⟨h.blank, h.results.mono newer⟩

theorem Grounded.of_record (hrecord : q.record ≠ "")
    (h : GroundedIn log q.record q) : Grounded log q :=
  ⟨fun hq => absurd hq hrecord, h⟩

/-- Naming the run record of a grounded progress keeps it grounded. -/
theorem Grounded.named (h : Grounded log p) {name : String} (hname : name ≠ "") :
    Grounded log (p.named name) := by
  refine Grounded.of_record (record_named_ne_empty hname) ?_
  by_cases hr : p.record = ""
  · rw [h.blank hr]
    exact ⟨fun h => absurd rfl h, fun h => absurd rfl h,
      fun _ _ hn => absurd hn (fun h => h.elim (fun h => h rfl) (fun h => h rfl))⟩
  · have hsame : p.named name = p := by
      unfold Progress.named
      rw [if_neg hr]
    rw [hsame]
    exact h.results

/-! ## Answers in a justified log -/

theorem Answered.sentWell (hlog : Justified log) (h : Answered log older record r action d) :
    r.site = .submit action ∧ SentWell older record r := by
  obtain ⟨newer, resp, heq, hsite, -⟩ := h
  rw [heq, List.append_cons] at hlog
  exact ⟨hsite, Throughout.at hlog⟩

theorem Settled.answered (h : Settled log older record r action d how) :
    ∃ first, Answered log older record r action first := by
  cases how with
  | inline => exact ⟨d, h.1⟩
  | polled | recovered =>
    obtain ⟨accepted, -, -, hans, -⟩ := h
    exact ⟨accepted, hans⟩

/-- What a request of a late action was sent on. -/
theorem SentWell.record_ne
    (h : SentWell older record r) (hsite : r.site = .submit action) (hl : 3 ≤ action.level) :
    record ≠ "" := by
  unfold SentWell at h
  rw [hsite] at h
  cases action with
  | registration => exact h
  | contextCompile => exact h.1
  | realization => exact h.1
  | gapDiscovery | gapClaim | preclaimCompile => exact absurd hl (by decide)

theorem Answered.record_ne
    (hlog : Justified log) (h : Answered log older record r action d) (hl : 3 ≤ action.level) :
    record ≠ "" := by
  obtain ⟨hsite, hsent⟩ := h.sentWell hlog
  exact hsent.record_ne hsite hl

theorem Settled.record_ne (hlog : Justified log) (h : Settled log older record r action d how)
    (hl : 3 ≤ action.level) : record ≠ "" := by
  obtain ⟨first, hans⟩ := h.answered
  exact hans.record_ne hlog hl

/-- A compile that was settled produced its context after a registration. -/
theorem Settled.produced
    (hlog : Justified log) (h : Settled log older record r .contextCompile d how) :
    Produced log record (extractContextId d) := by
  obtain ⟨first, hans⟩ := h.answered
  obtain ⟨hsite, hsent⟩ := hans.sentWell hlog
  unfold SentWell at hsent
  rw [hsite] at hsent
  exact ⟨older, r, d, how, h, hsent.2, rfl⟩

/-- The context a settled realization was sent with had been produced. -/
theorem Settled.context (hlog : Justified log) (h : Settled log older record r .realization d how) :
    Produced log record r.context := by
  obtain ⟨first, hans⟩ := h.answered
  obtain ⟨hsite, hsent⟩ := hans.sentWell hlog
  unfold SentWell at hsent
  rw [hsite] at hsent
  obtain ⟨newer, resp, heq, -⟩ := hans
  have hmono := (hsent.2.mono [.received r resp, .sent record r]).mono newer
  rw [heq]
  exact hmono

end Grounding

/-! ## One step -/

section Steps

variable {env : Env} {L : Lingering} {k : Nat} {w w' : World}

/-- Changing what `GroundedIn` does not read. -/
theorem GroundedIn.keep (h : GroundedIn log record p) (hreg : q.registration = p.registration)
    (hctx : q.context = p.context)
    (hrun : q.namesRun → ∀ action, 3 ≤ action.level → q.step = stateStep action →
      q.step = p.step ∧ q.runId = p.runId ∧ q.pollUrl = p.pollUrl) :
    GroundedIn log record q where
  registered hne := h.registered (hreg ▸ hne)
  produced hne := by
    rw [hctx] at hne ⊢
    exact h.produced hne
  run action hl hn hstep := by
    obtain ⟨hs, hid, hurl⟩ := hrun hn action hl hstep
    rw [hid, hurl]
    refine h.run action hl ?_ (hs ▸ hstep)
    unfold Progress.namesRun at hn ⊢
    rw [← hid, ← hurl]
    exact hn

theorem not_late_step {word : String} (hword : ∀ action, word ≠ stateStep action)
    {P : Prop} : ∀ action : Action, 3 ≤ action.level → word = stateStep action → P :=
  fun action _ h => absurd h (hword action)

theorem gapWord_ne {word : String} (h : word = "gap_resolved" ∨ word = "gap_resolution") :
    ∀ action, word ≠ stateStep action := by
  intro action
  rcases h with rfl | rfl <;> cases action <;> decide

theorem claimWord_ne : ∀ action, "claim_succeeded" ≠ stateStep action := by
  intro action
  cases action <;> decide

theorem registrationWord_ne : ∀ action, "context_created" ≠ stateStep action := by
  intro action
  cases action <;> decide

theorem contextWord_ne (step : String) :
    ∀ action, recoveredContextWord step ≠ stateStep action := by
  intro action
  unfold recoveredContextWord
  by_cases h : step = "context_compile"
  · rw [if_pos h]
    cases action <;> decide
  · rw [if_neg h]
    cases action <;> decide

/-- A recovered answer settles the request whose acceptance named the run. -/
theorem settled_of_recovered {resp : Response} {last : Bool} {path base : String}
    (h : GroundedIn log record p) (hl : 3 ≤ action.level)
    (hlog : log = .received r resp :: older) (hsite : r.site = .savedRunPoll p.step last)
    (hurl : r.url = base ++ path) (hpath : path ∈ savedRunPaths p.runId p.pollUrl)
    (hgives : Gives resp d) (hd : Succeeds d) (hp : p.pending) (hstep : p.step = stateStep action) :
    ∃ before request, Settled log before record request action d .recovered := by
  obtain ⟨before, request, accepted, hans, hact, hid, hpoll⟩ := h.run action hl hp.1 hstep
  refine ⟨before, request, accepted, r, resp, hans, hact, ?_, ⟨last, by rw [hsite, hstep]⟩,
    ⟨base, path, hurl, List.mem_append_right _ (by rw [hid, hpoll]; exact hpath)⟩, hgives, hd⟩
  rw [hlog]
  exact List.mem_cons_self

/-- What is persisted is grounded when what it came from was. -/
theorem Advance.grounded (h : Advance L log operator p k q) (hlog : Justified log)
    (hK : ContextsAgree log) (hp : GroundedIn log record p)
    (hrecord : p.record ≠ "" → record = p.record) : GroundedIn log record q := by
  cases h with
  | accepted action r resp d older heq hsite hgives hactive _ =>
    refine ⟨hp.registered, hp.produced, fun action' hl hn hstep => ?_⟩
    have hsame : action = action' := stateStep_injective hstep
    subst hsame
    have hans : Answered log older p.record r action d := ⟨[], resp, heq, hsite, hgives⟩
    rw [hrecord (hans.record_ne hlog hl)]
    exact ⟨older, r, d, hans, hactive, rfl, rfl⟩
  | gap g word hword =>
    exact hp.keep rfl rfl (fun _ => not_late_step (gapWord_ne hword))
  | claimed claim =>
    exact hp.keep rfl rfl (fun _ => not_late_step claimWord_ne)
  | registered digest older r d how hsettled hid =>
    refine ⟨fun _ => ?_, hp.produced, fun action hl _ hstep =>
      absurd hstep (registrationWord_ne action)⟩
    rw [hrecord (hsettled.record_ne hlog (Nat.le_refl 3))]
    exact ⟨older, r, d, how, hsettled, hid⟩
  | compiled older r d how hsettled hid =>
    refine ⟨hp.registered, fun _ => ?_, fun action hl _ hstep =>
      absurd hstep (contextWord_ne "context_compile" action)⟩
    rw [hrecord (hsettled.record_ne hlog (by decide))]
    exact hsettled.produced hlog
  | candidate digest => exact hp.keep rfl rfl (fun _ _ _ _ => ⟨rfl, rfl, rfl⟩)
  | realized older r d how hsettled hc =>
    refine ⟨hp.registered, fun _ => ?_, fun action hl hn =>
      absurd hn (fun h => h.elim (fun h => h rfl) (fun h => h rfl))⟩
    rw [hrecord (hsettled.record_ne hlog (by decide)), hK.receipt older _ r d how hsettled hc]
    exact hsettled.context hlog
  | inspected => exact hp.keep rfl rfl (fun _ _ _ _ => ⟨rfl, rfl, rfl⟩)
  | notFound => exact hp.keep rfl rfl (fun _ _ _ _ => ⟨rfl, rfl, rfl⟩)
  | unfinished => exact hp.keep rfl rfl (fun _ _ _ _ => ⟨rfl, rfl, rfl⟩)
  | failed => exact hp.keep rfl rfl (fun _ _ _ _ => ⟨rfl, rfl, rfl⟩)
  | recovered q r resp d older last path base heq hsite hurl hpath hgives hd hpend hq =>
    have hsettled : ∀ action, 3 ≤ action.level → p.step = stateStep action →
        ∃ before request, Settled log before record request action d .recovered :=
      fun action hl hstep =>
        settled_of_recovered hp hl heq hsite hurl hpath hgives hd hpend hstep
    have hnone : ∀ q' : Progress, q'.runId = "" → q'.pollUrl = "" → q'.namesRun →
        ∀ P : Prop, P := fun q' hid hurl hn _ =>
      (hn.elim (fun h => h hid) (fun h => h hurl)).elim
    cases hq with
    | gap g hg hstep => exact hp.keep rfl rfl (fun hn => hnone _ rfl rfl hn _)
    | claim hstep => exact hp.keep rfl rfl (fun hn => hnone _ rfl rfl hn _)
    | registration hstep =>
      refine ⟨fun hne => ?_, hp.produced, fun _ _ hn => hnone _ rfl rfl hn _⟩
      obtain ⟨before, request, hs⟩ := hsettled .registration (Nat.le_refl 3) hstep
      exact ⟨before, request, d, .recovered, hs, extractRegistrationId_of_recovered hne⟩
    | context action ha hstep =>
      refine ⟨hp.registered, fun hne => ?_, fun _ _ hn => hnone _ rfl rfl hn _⟩
      rcases ha with rfl | rfl
      · -- a recovered pre-claim compile brings no context id
        refine absurd (hK.preclaim r resp d last ?_ (by rw [hsite, hstep]) hgives hd) hne
        rw [heq]
        exact List.mem_cons_self
      · obtain ⟨before, request, hs⟩ := hsettled .contextCompile (by decide) hstep
        exact hs.produced hlog
    | receipt hc hstep =>
      refine ⟨hp.registered, fun _ => ?_, fun _ _ hn => hnone _ rfl rfl hn _⟩
      obtain ⟨before, request, hs⟩ := hsettled .realization (by decide) hstep
      have hctx := hK.receipt before record request d .recovered hs hc
      show Produced log record (receiptContext d)
      rw [hctx]
      exact hs.context hlog
    | other => exact hp.keep rfl rfl (fun hn => hnone _ rfl rfl hn _)

/-- A step never changes the run record but by opening one. -/
theorem Advance.record_eq (h : Advance L log operator p k q) : q.record = p.record := by
  cases h with
  | recovered _ _ _ _ _ _ _ _ _ _ _ _ _ _ _ hq => cases hq <;> rfl
  | _ => rfl

/-- The state in memory and the one on disk are grounded in a justified log. -/
structure WorldGrounded (w : World) : Prop where
  log : Justified w.log
  live : Grounded w.log w.live
  disk : ∀ p, w.disk = some p → Grounded w.log p

theorem Licensed.sentWell (h : Licensed w r) (hlive : Grounded w.log w.live) :
    SentWell w.log w.record r := by
  have hnamed : (w.live ≠ .blank) → w.record ≠ "" := fun hb hr => hb (hlive.blank hr)
  unfold Licensed at h
  unfold SentWell
  cases hsite : r.site with
  | capabilities | canonicalStatus | runPoll | savedRunPoll => trivial
  | submit action =>
    rw [hsite] at h
    cases action with
    | gapDiscovery | gapClaim | preclaimCompile => trivial
    | registration =>
      refine hnamed (fun hb => ?_)
      obtain ⟨-, hclaim, -⟩ := h
      rw [hb] at hclaim
      exact hclaim.elim (fun h => h rfl) (fun h => h rfl)
    | contextCompile =>
      obtain ⟨-, hreg, -⟩ := h
      refine ⟨hnamed (fun hb => ?_), hlive.results.registered hreg⟩
      rw [hb] at hreg
      exact hreg rfl
    | realization =>
      obtain ⟨hready, -, hcontext⟩ := h
      refine ⟨hnamed (fun hb => ?_), ?_⟩
      · rw [hb] at hready
        exact hready.1 rfl
      · show Produced w.log w.record r.context
        rw [hcontext]
        exact hlive.results.produced hready.2.2.2

/-- What a step persists is grounded when the state it started from was. -/
theorem Grounded.advance
    (h : Grounded log p) (hadvance : Advance L log operator p k q) (hlog : Justified log)
    (hK : ContextsAgree log) {name : String} (hname : name ≠ "") : Grounded log (q.named name) := by
  refine Grounded.of_record (record_named_ne_empty hname) ?_
  have hp : GroundedIn log (p.named name).record p := by
    by_cases hr : p.record = ""
    · rw [h.blank hr]
      exact .blank log _
    · have hsame : (p.named name).record = p.record := if_neg hr
      rw [hsame]
      exact h.results
  have hq := hadvance.grounded hlog hK hp (fun hr => if_neg hr)
  have hrecord : (q.named name).record = (p.named name).record := by
    unfold Progress.named
    rw [hadvance.record_eq]
  rw [hrecord]
  exact hq.keep rfl rfl (fun _ _ _ _ => ⟨rfl, rfl, rfl⟩)

theorem Step.grounded (h : Step env L k w w') (hK : ContextsAgree w'.log)
    (hw : WorldGrounded w) : WorldGrounded w' := by
  -- an event that changes neither state
  have hquiet : ∀ e, w'.log = e :: w.log → Justified (e :: w.log) → w'.live = w.live →
      w'.disk = w.disk → WorldGrounded w' := by
    intro e hlog hjust hlive hdisk
    refine ⟨by rw [hlog]; exact hjust, ?_, fun p hp => ?_⟩
    · rw [hlog, hlive]
      exact hw.live.mono [e]
    · rw [hdisk] at hp
      rw [hlog]
      exact (hw.disk p hp).mono [e]
  cases h with
  | silent hlog hlive hdisk =>
    refine ⟨by rw [hlog]; exact hw.log, by rw [hlog, hlive]; exact hw.live, fun p hp => ?_⟩
    rw [hlog]
    rcases hdisk with hdisk | hdisk
    · rw [hdisk] at hp
      exact hw.disk p hp
    · rw [hdisk] at hp
      exact nomatch hp
  | named record hrecord hlog hblank hlive hdisk =>
    refine ⟨by rw [hlog]; exact hw.log, ?_, fun p hp => ?_⟩
    · rw [hlog, hlive]
      exact hw.live.named hrecord
    · rw [hlog]
      rcases hdisk with hdisk | hdisk
      · rw [hdisk] at hp
        exact hw.disk p hp
      · rw [hdisk] at hp
        exact nomatch hp
  | sent r licence hlog hlive hdisk =>
    exact hquiet _ hlog ⟨licence.sentWell hw.live, hw.log⟩ hlive hdisk
  | received r resp t hanswer hlog hlive hdisk =>
    exact hquiet _ hlog ⟨trivial, hw.log⟩ hlive hdisk
  | persisted q record s hadvance hrecord hs hlog hdisk hlive =>
    have hK' : ContextsAgree w.log := by
      rw [hlog] at hK
      exact contextsAgree_hereditary [.persisted s] w.log hK
    have hq : Grounded w.log (q.named record) :=
      hw.live.advance hadvance hw.log hK' hrecord
    refine ⟨?_, ?_, fun p hp => ?_⟩
    · rw [hlog]
      refine ⟨?_, hw.log⟩
      show Grounded w.log (progress s.state)
      rw [hs]
      exact hq
    · rw [hlog]
      rcases hlive with hlive | hlive | ⟨-, hlive⟩
      · rw [hlive]
        exact hq.mono [_]
      · rw [hlive]
        exact hw.live.mono [_]
      · rw [hlive]
        exact (hw.live.named hrecord).mono [_]
    · rw [hdisk] at hp
      cases hp
      rw [hlog]
      exact hq.mono [_]
  | opened hlog hlive hdisk =>
    refine ⟨by rw [hlog]; exact hw.log, ?_, fun p hp => ?_⟩
    · rw [hlog]
      rcases hlive with hlive | hlive
      · rw [hlive]
        exact hw.live
      · exact hw.disk _ hlive
    · rw [hlog]
      rw [hdisk] at hp
      exact hw.disk p hp

end Steps

/-! ## Whole runs -/

theorem Initial.grounded {w : World} (h : Initial w) : WorldGrounded w where
  log := by rw [h.log]; trivial
  live := by
    unfold World.live
    rw [h.client]
    exact .blankProgress _
  disk := by
    intro p hp
    rw [h.disk] at hp
    exact nomatch hp

theorem Run.grounded {w w' : World} (h : Run w w') (hw : Initial w)
    (hK : ContextsAgree w'.log) : WorldGrounded w' := by
  refine Run.invariant_under contextsAgree_hereditary ?_ ?_ h hK hw.grounded
  · intro env command v hv hground
    have hpath : Path env .always 6 v (command.after env v) :=
      traced_final (follows_flow command (fun _ _ _ _ => .inr (.inl trivial)))
    exact hpath.invariant_under contextsAgree_hereditary (fun _ _ _ hs => hs.grounded) hv hground
  · intro v client hclient hground
    refine ⟨hground.log, ?_, hground.disk⟩
    show Grounded v.log (progress client.currentState)
    rw [hclient]
    exact .blankProgress _

/-- The server finishes no run it is asked for, and knows no context but one. -/
structure OneContext (env : Env) (contextId : String) : Prop where
  unfinished : ∀ t r resp d, env.answer t r = .response resp → Gives resp d →
    (∃ action, r.site = .runPoll action) ∨ (∃ step last, r.site = .savedRunPoll step last) →
    isFinished d = false
  compiled : ∀ t r resp d, env.answer t r = .response resp → Gives resp d →
    r.site = .submit .contextCompile → extractContextId d = contextId
  realized : ∀ t r resp d, env.answer t r = .response resp → Gives resp d →
    r.site = .submit .realization → receiptContext d = contextId

/-- What was heard are answers of the server. -/
def Heard (env : Env) (log : List Event) : Prop :=
  ∀ r resp, .received r resp ∈ log → ∃ t, env.answer t r = .response resp

section OneContext

variable {env : Env} {contextId : String} {L : Lingering} {w w' : World} {k : Nat}

/-- Nothing is settled but by the answer to the request itself. -/
theorem Settled.direct (hone : OneContext env contextId)
    (hheard : Heard env log) (h : Settled log older record r action d how) :
    ∃ t resp, env.answer t r = .response resp ∧ Gives resp d ∧ r.site = .submit action ∧
      .sent record r ∈ log := by
  have hpolled : ∀ poll resp, .received poll resp ∈ log → Gives resp d → Succeeds d →
      ¬ ((∃ action, poll.site = .runPoll action) ∨
        ∃ step last, poll.site = .savedRunPoll step last) := by
    intro poll resp hmem hgives hd hsite
    obtain ⟨t, hanswer⟩ := hheard poll resp hmem
    exact nomatch (hone.unfinished t poll resp d hanswer hgives hsite).symm.trans hd.1
  cases how with
  | inline =>
    obtain ⟨⟨newer, resp, hlog, hsite, hgives⟩, -⟩ := h
    have hmem : .received r resp ∈ log := by
      rw [hlog]
      exact List.mem_append_right _ List.mem_cons_self
    obtain ⟨t, hanswer⟩ := hheard r resp hmem
    refine ⟨t, resp, hanswer, hgives, hsite, ?_⟩
    rw [hlog]
    exact List.mem_append_right _ (List.mem_cons_of_mem _ List.mem_cons_self)
  | polled =>
    obtain ⟨accepted, poll, resp, -, -, hmem, hsite, -, hgives, hd⟩ := h
    exact absurd (.inl ⟨_, hsite⟩) (hpolled poll resp hmem hgives hd)
  | recovered =>
    obtain ⟨accepted, poll, resp, -, -, hmem, ⟨last, hsite⟩, -, hgives, hd⟩ := h
    exact absurd (.inr ⟨_, last, hsite⟩) (hpolled poll resp hmem hgives hd)

end OneContext

/-! ## An ordinary run, and a recovered pre-claim compile -/

/-- The world after a call that the server answers as it should. -/
def ordinaryRun : World :=
  (Command.resume true).after (scripted "abc" (fun _ _ => none))
    (untouched (operatorClient "gap_1"))

/-- A context that was produced was asked for by a compile. -/
theorem Produced.sent {contextId : String} (h : Produced log record contextId) :
    log.any (sentFrom (.submit .contextCompile)) = true := by
  obtain ⟨older, r, d, how, hsettled, -⟩ := h
  obtain ⟨first, newer, resp, hlog, hsite, -⟩ := hsettled.answered
  have hsent : Event.sent record r ∈ log := by
    rw [hlog]
    exact List.mem_append_right _ (List.mem_cons_of_mem _ List.mem_cons_self)
  exact any_sent_of_mem hsent hsite

end KeyholeFlow
