import Keyhole.ContextProvenance

/-!
# The run a saved state names

A state that names a run and is not terminal was persisted when the run was accepted,
or has kept its results since.  `_resolve_async_result` sets the pointers; the direct
success paths of the early steps never clear them, so the invariant needs answers
under which no early step ends while a run is named: `RunsConsumedApart`. -/

namespace KeyholeFlow

open KeyholeJson KeyholeEnvelope EffectProgram

/-! ## Fresh pointers -/

/-- The results two progresses of a run record hold are the same. -/
structure SameStored (p q : Progress) : Prop where
  gap : q.gap = p.gap
  claimId : q.claimId = p.claimId
  claimRef : q.claimRef = p.claimRef
  claimDigest : q.claimDigest = p.claimDigest
  registration : q.registration = p.registration
  context : q.context = p.context
  receipt : q.receipt = p.receipt

theorem SameStored.refl (p : Progress) : SameStored p p := ⟨rfl, rfl, rfl, rfl, rfl, rfl, rfl⟩

variable {p q : Progress} {log : List Event} {action : Action}

theorem SameStored.trans {r : Progress} (h : SameStored p q) (h' : SameStored q r) :
    SameStored p r where
  gap := h'.gap.trans h.gap
  claimId := h'.claimId.trans h.claimId
  claimRef := h'.claimRef.trans h.claimRef
  claimDigest := h'.claimDigest.trans h.claimDigest
  registration := h'.registration.trans h.registration
  context := h'.context.trans h.context
  receipt := h'.receipt.trans h.receipt

/-- The run that `p` names was accepted for `action` in an answer whose acceptance was
    persisted, and no result has been stored since. -/
def Unincorporated (log : List Event) (p : Progress) (action : Action) : Prop :=
  ∃ newer s r resp d record before,
    log = newer ++ .persisted s :: .received r resp :: .sent record r :: before ∧
    r.site = .submit action ∧ Gives resp d ∧ isActive d = true ∧
    p.step = stateStep action ∧ p.runId = runId d ∧ p.pollUrl = pollUrl d ∧
    SameStored (progress s.state) p

theorem Unincorporated.mono (h : Unincorporated log p action) (newer : List Event) :
    Unincorporated (newer ++ log) p action := by
  obtain ⟨new, s, r, resp, d, record, before, hlog, hrest⟩ := h
  exact ⟨newer ++ new, s, r, resp, d, record, before, by rw [hlog, List.append_assoc], hrest⟩

theorem Unincorporated.step_eq (h : Unincorporated log p action) : p.step = stateStep action := by
  obtain ⟨-, -, -, -, -, -, -, -, -, -, -, hstep, -⟩ := h
  exact hstep

/-- A change that leaves the run and the results alone. -/
theorem Unincorporated.keep
    (h : Unincorporated log p action) (hstep : q.step = p.step) (hid : q.runId = p.runId)
    (hurl : q.pollUrl = p.pollUrl) (hsame : SameStored p q) : Unincorporated log q action := by
  obtain ⟨newer, s, r, resp, d, record, before, hlog, hsite, hgives, hactive, hs, hi, hu, hst⟩ := h
  exact ⟨newer, s, r, resp, d, record, before, hlog, hsite, hgives, hactive, hstep.trans hs,
    hid.trans hi, hurl.trans hu, hst.trans hsame⟩

/-- A run that is named has not been incorporated.  In a terminal state it is that of
    a realization, and such a run is named by states that are ready only. -/
def Fresh (log : List Event) (p : Progress) : Prop :=
  p.namesRun → ∃ action, Unincorporated log p action ∧
    (p.terminal = true → action = .realization) ∧ (action = .realization → p.ready)

theorem Fresh.mono (h : Fresh log p) (newer : List Event) :
    Fresh (newer ++ log) p := by
  intro hn
  obtain ⟨action, hun, hterm, hready⟩ := h hn
  exact ⟨action, hun.mono newer, hterm, hready⟩

theorem Fresh.blank (log : List Event) : Fresh log .blank :=
  fun hn => absurd hn (fun h => h.elim (fun h => h rfl) (fun h => h rfl))

theorem Fresh.named (h : Fresh log p) (record : String) :
    Fresh log (p.named record) := by
  intro hn
  obtain ⟨action, hun, hterm, hready⟩ := h hn
  exact ⟨action, hun.keep rfl rfl rfl ⟨rfl, rfl, rfl, rfl, rfl, rfl, rfl⟩, hterm, hready⟩

/-- The answers under which no early step ends while a run is named: gap discovery
    is answered at once, the polls of a call bring no early step to a successful end,
    and the run of an early step that a later call asks for has succeeded. -/
structure RunsConsumedApart (log : List Event) : Prop where
  direct : ¬Loose log
  finished : ∀ r resp d action, .received r resp ∈ log → action ≠ .realization →
    r.site = .savedRunPoll (stateStep action) true → Gives resp d → isFinished d = true
  succeeded : ∀ r resp d action last, .received r resp ∈ log → action ≠ .realization →
    r.site = .savedRunPoll (stateStep action) last → Gives resp d → isFinished d = true →
    isFailedRun d = false

theorem runsConsumedApart_hereditary : Hereditary RunsConsumedApart := fun newer _ h =>
  { direct := fun hl => h.direct (hl.mono newer)
    finished := fun r resp d action hmem =>
      h.finished r resp d action (List.mem_append_right newer hmem)
    succeeded := fun r resp d action last hmem =>
      h.succeeded r resp d action last (List.mem_append_right newer hmem) }

/-- A run may linger where the answers fail to meet the condition. -/
def lingeringRuns : Lingering where
  holds log := ¬RunsConsumedApart log
  mono newer log h hK := h (runsConsumedApart_hereditary newer log hK)

/-! ## One step -/

section Steps

variable {env : Env} {k : Nat} {w w' : World}

/-- A step that changes neither the run nor the results, and leaves a state that is
    not terminal. -/
theorem Fresh.reopen (h : Fresh log p)
    (hstep : q.step = p.step) (hid : q.runId = p.runId) (hurl : q.pollUrl = p.pollUrl)
    (hsame : SameStored p q) (hterm : q.terminal = true → p.terminal = true) : Fresh log q := by
  intro hn
  have hp : p.namesRun := by
    unfold Progress.namesRun at hn ⊢
    rw [← hid, ← hurl]
    exact hn
  obtain ⟨action, hun, ht, hready⟩ := h hp
  refine ⟨action, hun.keep hstep hid hurl hsame, fun hq => ht (hterm hq), fun ha => ?_⟩
  obtain ⟨hgap, hclaim, hreg, hctx⟩ := hready ha
  refine ⟨by rw [hsame.gap]; exact hgap, ?_, by rw [hsame.registration]; exact hreg,
    by rw [hsame.context]; exact hctx⟩
  unfold Progress.claimed
  rw [hsame.claimId, hsame.claimRef]
  exact hclaim

theorem Fresh.of_none (hid : p.runId = "") (hurl : p.pollUrl = "") : Fresh log p :=
  fun hn => absurd hn (fun h => h.elim (fun h => h hid) (fun h => h hurl))

/-- Persisting keeps the pointers fresh: a new acceptance names its own run, and no
    other step stores a result while a run is named. -/
theorem Advance.fresh {operator : String} {record : String}
    {s : RunRecord} (h : Advance lingeringRuns log operator p k q)
    (hK : RunsConsumedApart log) (hp : Fresh log p) (hs : progress s.state = q.named record) :
    Fresh (.persisted s :: log) q := by
  have hsame : ∀ {q' : Progress}, Fresh log q' → Fresh (.persisted s :: log) q' :=
    fun hq => hq.mono [_]
  -- without a run named, the direct success paths leave none behind
  have hdirect : ∀ {q' : Progress}, (p.namesRun → lingeringRuns.holds log ∨ Loose log) →
      q'.runId = p.runId → q'.pollUrl = p.pollUrl → Fresh (.persisted s :: log) q' := by
    intro q' hrun hid hurl hn
    have hpn : p.namesRun := by
      unfold Progress.namesRun at hn ⊢
      rw [← hid, ← hurl]
      exact hn
    exact ((hrun hpn).elim (fun hL => hL hK) hK.direct).elim
  cases h with
  | accepted action r resp d older heq hsite hgives hactive hready =>
    intro _
    refine ⟨action, ⟨[], s, r, resp, d, p.record, older, by rw [heq]; rfl, hsite, hgives,
      hactive, rfl, rfl, rfl, ?_⟩, nofun, hready⟩
    rw [hs]
    exact ⟨rfl, rfl, rfl, rfl, rfl, rfl, rfl⟩
  | gap g word hword hgap hrun => exact hdirect hrun rfl rfl
  | claimed claim older r d how hsettled hid href hclaim hgap hop hrun =>
    exact hdirect hrun rfl rfl
  | registered digest older r d how hsettled hid hrun => exact hdirect hrun rfl rfl
  | compiled older r d how hsettled hid hrun => exact hdirect hrun rfl rfl
  | candidate digest =>
    exact hsame (hp.reopen rfl rfl rfl ⟨rfl, rfl, rfl, rfl, rfl, rfl, rfl⟩ id)
  | realized => exact Fresh.of_none rfl rfl
  | inspected =>
    exact hsame (hp.reopen rfl rfl rfl ⟨rfl, rfl, rfl, rfl, rfl, rfl, rfl⟩
      nofun)
  | notFound =>
    exact hsame (hp.reopen rfl rfl rfl ⟨rfl, rfl, rfl, rfl, rfl, rfl, rfl⟩
      nofun)
  | unfinished =>
    exact hsame (hp.reopen rfl rfl rfl ⟨rfl, rfl, rfl, rfl, rfl, rfl, rfl⟩
      nofun)
  | failed r resp d older last heq hsite hgives hd hfailed hpend =>
    -- only a realization may fail: its run stays named in a terminal state
    obtain ⟨action, hun, -, hready⟩ := hp hpend.1
    have ha : action = .realization := by
      refine Decidable.by_contra fun hne => ?_
      rw [hun.step_eq] at hsite
      have hok := hK.succeeded r resp d action last (by rw [heq]; exact List.mem_cons_self)
        hne hsite hgives hd
      rw [hok] at hfailed
      exact nomatch hfailed
    refine hsame fun _ => ⟨action, hun.keep rfl rfl rfl
      ⟨rfl, rfl, rfl, rfl, rfl, rfl, rfl⟩, fun _ => ha, hready⟩
  | recovered q r resp d older last path base heq hsite hurl hpath hgives hd hpend hq =>
    cases hq <;> exact Fresh.of_none rfl rfl

/-- The states in memory, on disk and in the log name fresh runs only. -/
structure WorldFresh (w : World) : Prop where
  log : Throughout (fun e older => ∀ s, e = .persisted s →
    Fresh (.persisted s :: older) (progress s.state)) w.log
  live : Fresh w.log w.live
  disk : ∀ p, w.disk = some p → Fresh w.log p

theorem Step.fresh (h : Step env lingeringRuns k w w') (hK : RunsConsumedApart w'.log)
    (hw : WorldFresh w) : WorldFresh w' := by
  have hquiet : ∀ e, w'.log = e :: w.log → (∀ s, e ≠ .persisted s) → w'.live = w.live →
      w'.disk = w.disk → WorldFresh w' := by
    intro e hlog hne hlive hdisk
    refine ⟨by rw [hlog]; exact ⟨fun s hs => absurd hs (hne s), hw.log⟩, ?_, fun p hp => ?_⟩
    · rw [hlog, hlive]
      exact hw.live.mono [e]
    · rw [hdisk] at hp
      rw [hlog]
      exact (hw.disk p hp).mono [e]
  cases h with
  | silent hlog hlive hdisk =>
    refine ⟨by rw [hlog]; exact hw.log, by rw [hlog, hlive]; exact hw.live, fun p hp => ?_⟩
    rw [hlog]
    rcases hdisk with hdisk | hdisk
    · rw [hdisk] at hp
      exact hw.disk p hp
    · rw [hdisk] at hp
      exact nomatch hp
  | named record hrecord hlog hblank hlive hdisk =>
    refine ⟨by rw [hlog]; exact hw.log, ?_, fun p hp => ?_⟩
    · rw [hlog, hlive]
      exact hw.live.named record
    · rw [hlog]
      rcases hdisk with hdisk | hdisk
      · rw [hdisk] at hp
        exact hw.disk p hp
      · rw [hdisk] at hp
        exact nomatch hp
  | sent r licence hlog hlive hdisk =>
    exact hquiet _ hlog nofun hlive hdisk
  | received r resp t hanswer hlog hlive hdisk =>
    exact hquiet _ hlog nofun hlive hdisk
  | persisted q record s hadvance hrecord hs hlog hdisk hlive =>
    have hK' : RunsConsumedApart w.log := by
      rw [hlog] at hK
      exact runsConsumedApart_hereditary [.persisted s] w.log hK
    have hq : Fresh (.persisted s :: w.log) (q.named record) :=
      (hadvance.fresh hK' hw.live hs).named record
    refine ⟨?_, ?_, fun p hp => ?_⟩
    · rw [hlog]
      refine ⟨fun s' hs' => ?_, hw.log⟩
      cases hs'
      rw [hs]
      exact hq
    · rw [hlog]
      rcases hlive with hlive | hlive | ⟨-, hlive⟩
      · rw [hlive]
        exact hq
      · rw [hlive]
        exact hw.live.mono [_]
      · rw [hlive]
        exact (hw.live.named record).mono [_]
    · rw [hdisk] at hp
      cases hp
      rw [hlog]
      exact hq
  | opened hlog hlive hdisk =>
    refine ⟨by rw [hlog]; exact hw.log, ?_, fun p hp => ?_⟩
    · rw [hlog]
      rcases hlive with hlive | hlive
      · rw [hlive]
        exact hw.live
      · exact hw.disk _ hlive
    · rw [hlog]
      rw [hdisk] at hp
      exact hw.disk p hp

/-- When the recovery is over, the stages are entered with no run named, or only the
    realization is left to do. -/
theorem WorldFresh.entered (hw : WorldFresh w) (hrecovered : Recoverable w) :
    Entered lingeringRuns w := by
  intro hn
  by_cases hK : RunsConsumedApart w.log
  · obtain ⟨action, hun, hterm, hready⟩ := hw.live hn
    refine .inl (hready ?_)
    rcases hrecovered hn with ht | ⟨r, resp, d, hmem, hsite, hgives, hopen⟩
    · exact hterm ht
    · refine Decidable.by_contra fun hne => ?_
      rw [hun.step_eq] at hsite
      rw [hK.finished r resp d action hmem hne hsite hgives] at hopen
      exact nomatch hopen
  · exact .inr (.inl hK)

end Steps

/-! ## Whole runs -/

theorem Run.fresh {w w' : World} (h : Run w w') (hw : Initial w)
    (hK : RunsConsumedApart w'.log) : WorldFresh w' := by
  refine Run.invariant_under runsConsumedApart_hereditary ?_ ?_ h hK ?_
  · intro env command v hv hfresh
    have hstep : ∀ k a b, Step env lingeringRuns k a b → RunsConsumedApart b.log →
        WorldFresh a → WorldFresh b := fun _ _ _ hs => hs.fresh
    have hpath : Path env lingeringRuns 6 v (command.after env v) := by
      refine traced_final (follows_flow command ?_)
      intro v' hp hrecovered
      by_cases hv' : RunsConsumedApart v'.log
      · exact (hp.invariant_under runsConsumedApart_hereditary hstep hv' hfresh).entered
          hrecovered
      · exact fun _ => .inr (.inl hv')
    exact hpath.invariant_under runsConsumedApart_hereditary hstep hv hfresh
  · intro v client hclient hfresh
    refine ⟨hfresh.log, ?_, hfresh.disk⟩
    show Fresh v.log (progress client.currentState)
    rw [hclient]
    exact .blank _
  · refine ⟨by rw [hw.log]; trivial, ?_, fun p hp => ?_⟩
    · unfold World.live
      rw [hw.client]
      exact .blank _
    · rw [hw.disk] at hp
      exact nomatch hp

/-- Every persisted state that names a run and is not terminal is at the step of that
    run, and has stored no result since the run was accepted. -/
def PointersFresh (log : List Event) : Prop :=
  ∀ newer older s, log = newer ++ .persisted s :: older → (progress s.state).pending →
    ∃ action, Unincorporated (.persisted s :: older) (progress s.state) action

/-- In a run whose answers consume every run apart from the direct steps, no pointer
    dangles. -/
theorem run_pointersFresh {w w' : World} (hw : Initial w) (h : Run w w')
    (hK : RunsConsumedApart w'.log) : PointersFresh w'.log := by
  intro newer older s heq hpending
  have hlog := (h.fresh hw hK).log
  rw [heq] at hlog
  obtain ⟨action, hun, -⟩ := Throughout.at hlog s rfl hpending.1
  exact ⟨action, hun⟩

/-- Without polls and without gap discovery every run is consumed apart. -/
theorem runsConsumedApart_of_unpolled (h : log.all unpolled = true) :
    RunsConsumedApart log where
  direct := by
    rintro ⟨r, resp, d, hmem, -, ⟨hsite, -⟩ | ⟨action, -, hsite, -⟩⟩
    · exact (site_of_unpolled h hmem).2.2 hsite
    · exact (site_of_unpolled h hmem).1 action hsite
  finished := by
    intro r resp d action hmem _ hsite
    exact absurd hsite ((site_of_unpolled h hmem).2.1 _ true)
  succeeded := by
    intro r resp d action last hmem _ hsite
    exact absurd hsite ((site_of_unpolled h hmem).2.1 _ last)

/-! ## Two runs that claim a gap -/

/-- The server accepts a claim, and the process dies before it asks for the run. -/
def acceptedClaimScript : Nat → Site → Option HttpAnswer
  | _, .submit .gapClaim =>
      some (found [("status", .str "accepted"), ("run_id", .str "run-1")])
  | _, .runPoll .gapClaim => some (.fault .killed)
  | _, _ => none

/-- The world after a call that claims a gap so. -/
def claimAccepted : World :=
  (Command.resume true).after (scripted "abc" acceptedClaimScript)
    (untouched (operatorClient "gap_1"))

/-- The server accepts a claim and ends its run at the first poll; the process dies before the
    registration. -/
def polledClaimScript : Nat → Site → Option HttpAnswer
  | _, .submit .gapClaim =>
      some (found [("status", .str "accepted"), ("run_id", .str "run-1")])
  | _, .runPoll .gapClaim =>
      some (found [("status", .str "succeeded"), ("claim_id", .str "claim-1")])
  | _, .submit .registration => some (.fault .killed)
  | _, _ => none

/-- The world after a call that claims a gap so. -/
def claimPolled : World :=
  (Command.resume true).after (scripted "abc" polledClaimScript)
    (untouched (operatorClient "gap_1"))

/-- A state was persisted that has taken its claim and still names the run of it. -/
def danglingClaim : Event → Bool
  | .persisted s =>
      decide ((progress s.state).pending ∧ (progress s.state).step = "claim_succeeded")
  | _ => false

/-- No poll was heard of in the first run. -/
def claimAcceptedRun : OpeningRun claimAccepted (claimAccepted.log.all unpolled = true) where
  run := Relation.ReflTransGen.single (.command _ _ _)
  shows := by decide +kernel

/-- The second run leaves a pointer that dangles. -/
def claimPolledRun : OpeningRun claimPolled (claimPolled.log.any danglingClaim = true) where
  run := Relation.ReflTransGen.single (.command _ _ _)
  shows := by decide +kernel

theorem claimAccepted_pointersFresh : PointersFresh claimAccepted.log :=
  run_pointersFresh (initial_untouched "gap_1") claimAcceptedRun.run
    (runsConsumedApart_of_unpolled claimAcceptedRun.shows)

/-- A claim that is polled to its end in the call that sent it leaves its run named. -/
theorem polled_claim_dangles :
    ¬∀ w w', Initial w → Run w w' → PointersFresh w'.log := by
  intro h
  obtain ⟨e, hmem, he⟩ := List.any_eq_true.mp claimPolledRun.shows
  obtain ⟨newer, older, hlog⟩ := List.append_of_mem hmem
  cases e with
  | persisted s =>
      obtain ⟨hpending, hstep⟩ := of_decide_eq_true he
      obtain ⟨action, hun⟩ :=
        h _ _ (initial_untouched "gap_1") claimPolledRun.run newer older s hlog hpending
      rw [hun.step_eq] at hstep
      cases action <;> exact absurd hstep (by decide)
  | sent record r => exact nomatch he
  | received r resp => exact nomatch he

end KeyholeFlow
