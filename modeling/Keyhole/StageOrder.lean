import Keyhole.ContextProvenance

/-!
# The order of the stages

A saved state says what is done, not that it was asked for, and a process may die between any two
requests.  Over every run of commands and processes the requests still come in one order: no
registration before a claim, no compile before a registration, no realization before both and a
compile.

* `Before`: what the log must hold when a request is sent;
* `Requested`: what a progress records was requested;
* `run_stagesInOrder`: in every run, the requests come in order. -/

namespace KeyholeFlow

open EffectProgram

variable {env : Env} {L : Lingering} {k : Nat} {w w' : World} {log newer older : List Event}
variable {p q : Progress} {record operator : String} {r : Request} {d : KeyholeJson.Dict}
variable {how : Delivery} {action : Action}

/-- A compile was requested, with the claim or after the registration. -/
def CompileRequested (log : List Event) : Prop :=
  .preclaimCompile ∈ submitted log ∨ .contextCompile ∈ submitted log

/-- What was requested when a request is sent from this place. -/
def Before (older : List Event) : Site → Prop
  | .submit .registration => .gapClaim ∈ submitted older
  | .submit .contextCompile => .gapClaim ∈ submitted older ∧ .registration ∈ submitted older
  | .submit .realization => .gapClaim ∈ submitted older ∧ .registration ∈ submitted older ∧
      CompileRequested older
  | _ => True

/-- Every request of the log comes after those it builds on. -/
def StagesInOrder (log : List Event) : Prop :=
  ∀ newer older record r, log = newer ++ .sent record r :: older → Before older r.site

/-- A request comes after those it builds on. -/
def InOrder : Event → List Event → Prop
  | .sent _ r, older => Before older r.site
  | _, _ => True

/-- What the progress records was requested, and so was the action whose run it names. -/
structure Requested (log : List Event) (p : Progress) : Prop where
  claim : p.claimed → .gapClaim ∈ submitted log
  registration : p.registration ≠ "" → .registration ∈ submitted log
  context : p.context ≠ "" → CompileRequested log
  step : ∀ action, p.step = stateStep action → action ∈ submitted log

theorem submitted_mono (newer : List Event) (h : action ∈ submitted log) :
    action ∈ submitted (newer ++ log) := by
  rw [submitted_append]
  exact List.mem_append_right _ h

theorem CompileRequested.mono (newer : List Event) (h : CompileRequested log) :
    CompileRequested (newer ++ log) :=
  h.imp (submitted_mono newer) (submitted_mono newer)

theorem Requested.mono (h : Requested log p) (newer : List Event) : Requested (newer ++ log) p where
  claim hp := submitted_mono newer (h.claim hp)
  registration hp := submitted_mono newer (h.registration hp)
  context hp := (h.context hp).mono newer
  step action hp := submitted_mono newer (h.step action hp)

theorem Requested.blank (log : List Event) : Requested log .blank where
  claim h := (h.elim (fun h => h rfl) (fun h => h rfl)).elim
  registration h := absurd rfl h
  context h := absurd rfl h
  step action h := by cases action <;> exact absurd h (by decide)

/-- The results of a state and the step it is at, with any run record. -/
theorem Requested.keep (h : Requested log p) (hclaim : q.claimed → p.claimed)
    (hregistration : q.registration = p.registration) (hcontext : q.context = p.context)
    (hstep : q.step = p.step ∨ ∀ action, q.step ≠ stateStep action) : Requested log q where
  claim hq := h.claim (hclaim hq)
  registration hq := h.registration (hregistration ▸ hq)
  context hq := h.context (hcontext ▸ hq)
  step action hq := hstep.elim (fun heq => h.step action (heq ▸ hq)) (fun hne => absurd hq (hne _))

theorem Requested.named (h : Requested log p) (record : String) : Requested log (p.named record) :=
  h.keep id rfl rfl (.inl rfl)

theorem Settled.submitted (h : Settled log older record r action d how) :
    action ∈ submitted log := by
  obtain ⟨first, newer, resp, hlog, hsite, -⟩ := h.answered
  refine @mem_submitted log r record action ?_ hsite
  rw [hlog]
  exact List.mem_append_right _ (List.mem_cons_of_mem _ List.mem_cons_self)

/-- A realization that was requested came after a compile. -/
theorem compileRequested_of_realization (hlog : Throughout InOrder log)
    (h : .realization ∈ submitted log) : CompileRequested log := by
  obtain ⟨e, hmem, he⟩ := List.mem_filterMap.mp h
  obtain ⟨newer, older, rfl⟩ := List.append_of_mem hmem
  cases e with
  | sent record r =>
    have hbefore : Before older r.site := Throughout.at hlog
    rw [site_of_action he] at hbefore
    rw [List.append_cons]
    exact hbefore.2.2.mono _
  | received | persisted => exact nomatch he

theorem receiptWord_ne : ∀ action, "receipt_ready" ≠ stateStep action := by
  intro action
  cases action <;> decide

/-- What recovering an answer records was requested: the step names the action. -/
theorem Recovered.requested (h : Recovered p d q) (hp : Requested log p)
    (hlog : Throughout InOrder log) : Requested log q := by
  cases h with
  | gap g hg _ => exact hp.keep id rfl rfl (.inr (gapWord_ne (.inl rfl)))
  | claim hstep =>
    exact ⟨fun _ => hp.step _ hstep, hp.registration, hp.context,
      fun action h => absurd h (claimWord_ne action)⟩
  | registration hstep =>
    exact ⟨hp.claim, fun _ => hp.step _ hstep, hp.context,
      fun action h => absurd h (registrationWord_ne action)⟩
  | context action haction hstep =>
    refine ⟨hp.claim, hp.registration, fun _ => ?_,
      fun action h => absurd h (contextWord_ne p.step action)⟩
    rcases haction with rfl | rfl
    · exact .inl (hp.step _ hstep)
    · exact .inr (hp.step _ hstep)
  | receipt _ hstep =>
    exact ⟨hp.claim, hp.registration,
      fun _ => compileRequested_of_realization hlog (hp.step _ hstep),
      fun action h => absurd h (receiptWord_ne action)⟩
  | other => exact hp.keep id rfl rfl (.inl rfl)

/-- What is persisted was requested when what it came from was. -/
theorem Advance.requested (h : Advance L log operator p k q) (hp : Requested log p)
    (hlog : Throughout InOrder log) : Requested log q := by
  cases h with
  | accepted action r resp d older heq hsite =>
    refine ⟨hp.claim, hp.registration, hp.context, fun action' hstep => ?_⟩
    obtain rfl : action = action' := stateStep_injective hstep
    refine @mem_submitted log r p.record action ?_ hsite
    rw [heq]
    exact List.mem_cons_of_mem _ List.mem_cons_self
  | gap g word hword => exact hp.keep id rfl rfl (.inr (gapWord_ne hword))
  | claimed claim older r d how hsettled =>
    exact ⟨fun _ => hsettled.submitted, hp.registration, hp.context,
      fun action h => absurd h (claimWord_ne action)⟩
  | registered digest older r d how hsettled =>
    exact ⟨hp.claim, fun _ => hsettled.submitted, hp.context,
      fun action h => absurd h (registrationWord_ne action)⟩
  | compiled older r d how hsettled =>
    exact ⟨hp.claim, hp.registration, fun _ => .inr hsettled.submitted,
      fun action h => absurd h (contextWord_ne "context_compile" action)⟩
  | realized older r d how hsettled =>
    exact ⟨hp.claim, hp.registration,
      fun _ => compileRequested_of_realization hlog hsettled.submitted,
      fun action h => absurd h (receiptWord_ne action)⟩
  | recovered _ _ _ _ _ _ _ _ _ _ _ _ _ _ _ hq => exact hq.requested hp hlog
  | candidate | inspected | notFound | unfinished | failed =>
    exact hp.keep id rfl rfl (.inl rfl)

/-- The log is in order, and the states in memory and on disk record what was requested. -/
structure Ordered (w : World) : Prop where
  log : Throughout InOrder w.log
  live : Requested w.log w.live
  disk : ∀ p, w.disk = some p → Requested w.log p

/-- A licensed request comes in order. -/
theorem Licensed.before (h : Licensed w r) (hlive : Requested w.log w.live) :
    Before w.log r.site := by
  unfold Licensed at h
  cases hsite : r.site with
  | submit action =>
    rw [hsite] at h
    cases action with
    | registration => exact hlive.claim h.2.1
    | contextCompile => exact ⟨hlive.claim h.2.2.1, hlive.registration h.2.1⟩
    | realization =>
      obtain ⟨⟨-, hclaim, hregistration, hcontext⟩, -⟩ := h
      exact ⟨hlive.claim hclaim, hlive.registration hregistration, hlive.context hcontext⟩
    | gapDiscovery | gapClaim | preclaimCompile => trivial
  | capabilities | canonicalStatus | runPoll | savedRunPoll => trivial

theorem Step.ordered (h : Step env L k w w') (hw : Ordered w) : Ordered w' := by
  -- the log only grows, so that the two states are what is left to look at
  obtain ⟨newer, hgrown⟩ := h.extends
  have hold : ∀ p, Requested w.log p → Requested w'.log p := fun p hp => hgrown ▸ hp.mono newer
  have hlive := hold _ hw.live
  have hdisk : w'.disk = w.disk ∨ w'.disk = none → ∀ p, w'.disk = some p → Requested w'.log p := by
    rintro (hsame | hsame) p hp
    · exact hold p (hw.disk p (hsame ▸ hp))
    · exact nomatch hsame.symm.trans hp
  cases h with
  | silent hlog heq hsame => exact ⟨hlog ▸ hw.log, heq ▸ hlive, hdisk hsame⟩
  | named record _ hlog _ heq hsame =>
    exact ⟨hlog ▸ hw.log, heq ▸ hlive.named record, hdisk hsame⟩
  | sent r licence hlog heq hsame =>
    refine ⟨?_, heq ▸ hlive, hdisk (.inl hsame)⟩
    rw [hlog]
    exact ⟨licence.before hw.live, hw.log⟩
  | received r resp _ _ hlog heq hsame =>
    refine ⟨?_, heq ▸ hlive, hdisk (.inl hsame)⟩
    rw [hlog]
    exact ⟨trivial, hw.log⟩
  | persisted q record s hadvance _ _ hlog hsame heq =>
    have hq := hold _ ((hadvance.requested hw.live hw.log).named record)
    refine ⟨?_, ?_, fun p hp => ?_⟩
    · rw [hlog]
      exact ⟨trivial, hw.log⟩
    · rcases heq with heq | heq | ⟨-, heq⟩
      · exact heq ▸ hq
      · exact heq ▸ hlive
      · exact heq ▸ hlive.named record
    · obtain rfl : q.named record = p := Option.some.inj (hsame.symm.trans hp)
      exact hq
  | opened hlog heq hsame =>
    refine ⟨hlog ▸ hw.log, ?_, hdisk (.inl hsame)⟩
    rcases heq with heq | heq
    · exact heq ▸ hlive
    · exact hold _ (hw.disk _ heq)

/-- In every run, across crashes, resumptions and new processes, no registration is requested
    before a claim, no compile before a registration, and no realization before all of them. -/
theorem run_stagesInOrder (hw : Initial w) (h : Run w w') : StagesInOrder w'.log := by
  have hempty : ∀ client : Client, client.currentState = .empty →
      ∀ log, Requested log (progress client.currentState) := by
    intro client hclient log
    rw [hclient]
    exact .blank log
  have hordered : Ordered w' := by
    refine invariant_of_trace (R := Call) (fun v v' hv hcall => ?_) h
      ⟨by rw [hw.log]; trivial, hempty _ hw.client _, fun p hp => nomatch hw.disk.symm.trans hp⟩
    cases hcall with
    | command env command =>
      have hpath : Path env .always 6 v (command.after env v) :=
        traced_final (follows_flow command (fun _ _ _ _ => .inr (.inl trivial)))
      exact Path.invariant (fun _ _ _ _ hs hi => hs.ordered hi) hpath hv
    | process config client hinit =>
      exact ⟨hv.log, hempty client (init_currentState hinit) _, hv.disk⟩
  intro newer older record r heq
  have hlog := hordered.log
  rw [heq] at hlog
  exact Throughout.at hlog

theorem ordinaryRun_stagesInOrder : StagesInOrder ordinaryRun.log :=
  run_stagesInOrder (initial_untouched "gap_1")
    (Relation.ReflTransGen.single (.command _ (.resume true) _))

end KeyholeFlow
