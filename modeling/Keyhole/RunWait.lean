import Keyhole.BoundedRetry
import Keyhole.StatusQuery

/-!
# Waiting for the end of a run

`wait_for_terminal` asks for the status of a run again and again: until a query fails, the
callback stops it, the status is a terminal one, or the polls it may make are used up.

* `waitForTerminal`: the loop, with the number of the observations it makes;
* `waitForTerminal_cases`: how it can end;
* `HonestWait`: what its result says of the observations, `waitForTerminal_honest`. -/

namespace KeyholeObserve

open KeyholeJson KeyholeDispatch KeyholeStatus BoundedRetry

/-- `RunStatus.value`. -/
def statusValue : RunStatus → String
  | .accepted => "accepted"
  | .running => "running"
  | .deferred => "deferred"
  | .success => "success"
  | .failed => "failed"
  | .rejected => "rejected"
  | .denied => "denied"
  | .cancelled => "cancelled"
  | .unknown => "unknown"

theorem statusValue_injective : Function.Injective statusValue := by
  intro a b h
  cases a <;> cases b <;> first | rfl | exact absurd h (by decide)

/-! ## Callbacks -/

/-- What a call of a callback comes to. -/
inductive Reply where
  | value (truth : Bool)
  | keyboardInterrupt
  | raises (e : Raised)

/-- Does the callback ask to stop? `KeyboardInterrupt` does, another exception escapes. -/
def Reply.stop : Reply → Except Raised Bool
  | .value truth => .ok truth
  | .keyboardInterrupt => .ok true
  | .raises e => .error e

/-- `on_poll`: what it is called with, and the number of the poll. A callback that keeps a
    state of its own is one that answers each poll in its own way. -/
abbrev OnPoll := Option (RunStatusResult → Nat → Reply)

def pollStop (onPoll : OnPoll) (seen : RunStatusResult) (polls : Nat) : Except Raised Bool :=
  match onPoll with
  | none => .ok false
  | some f => (f seen polls).stop

/-! ## The loop -/

/-- `RunWaitResult`, without the time that went by. -/
structure RunWaitResult where
  success : Bool
  runId : String := ""
  terminalStatus : RunStatus := .unknown
  polls : Nat := 0
  finalData : Dict := []
  interrupted : Bool := false
  errorClass : Json := .str ""
  reason : String := ""
  repairGuidance : List String := []

/-- The result after an observation that failed. -/
def waitFailed (runId : String) (seen : RunStatusResult) (polls : Nat) : RunWaitResult where
  success := false
  runId := runId
  polls := polls
  errorClass := orElse seen.errorClass (.str "observation_failed")
  reason := "Status retrieval failed: " ++ pyStr seen.reason
  repairGuidance :=
    if seen.repairGuidance = [] then
      ["Retry: keyhole runs status " ++ runId,
        "Observation failure does not mean execution failed."]
    else seen.repairGuidance

/-- The result that hands on an observation: the callback stopped there, or the run ended. -/
def waitSeen (runId : String) (seen : RunStatusResult) (polls : Nat) (interrupted : Bool) :
    RunWaitResult where
  success := true
  runId := runId
  terminalStatus := seen.status
  polls := polls
  finalData := seen.responseData
  interrupted := interrupted

/-- The result when the polls are used up. -/
def waitTimedOut (runId : String) (polls : Nat) : RunWaitResult where
  success := false
  runId := runId
  terminalStatus := .unknown
  polls := polls
  errorClass := .str "wait_timeout"
  reason := "Run did not reach terminal state after " ++ toString polls ++ " polls."
  repairGuidance := ["Try again: keyhole runs wait " ++ runId,
    "Check status: keyhole runs status " ++ runId,
    "The run may still be in progress."]

/-- The body of the loop on the observation of one poll: how the wait ends there, if it does. -/
def waitTurn (runId : String) (onPoll : OnPoll) (polls : Nat) :
    Except Raised RunStatusResult → Option (Except Raised RunWaitResult)
  | .error e => some (.error e)
  | .ok seen =>
      if seen.success = false then some (.ok (waitFailed runId seen polls))
      else match pollStop onPoll seen polls with
        | .error e => some (.error e)
        | .ok true => some (.ok (waitSeen runId seen polls true))
        | .ok false =>
            if isTerminal seen.status then some (.ok (waitSeen runId seen polls false))
            else none

/-- One turn of the loop; its state is the number of polls made. -/
def waitStep (fetch : Nat → Except Raised RunStatusResult) (runId : String) (onPoll : OnPoll)
    (attempt : Nat) (polls : Nat) : Nat × Verdict (Option (Except Raised RunWaitResult)) :=
  match waitTurn runId onPoll (polls + 1) (fetch attempt) with
  | some out => (polls + 1, .stop (some out))
  | none => (polls + 1, .again)

/-- `wait_for_terminal`, where `fetch n` is what the `n`th call of `fetch_run_status` gives:
    the number of the calls, and how the wait ends. -/
def waitForTerminal (fetch : Nat → Except Raised RunStatusResult) (runId : String)
    (maxPolls : Int) (onPoll : OnPoll) : Nat × Except Raised RunWaitResult :=
  match loop (waitStep fetch runId onPoll) none maxPolls.toNat 1 0 with
  | (some out, polls) => (polls, out)
  | (none, polls) => (polls, .ok (waitTimedOut runId polls))

/-- The `n`th poll lets the wait go on: it succeeded, no callback stopped it, and the status
    is not a terminal one. -/
def GoesOn (fetch : Nat → Except Raised RunStatusResult) (onPoll : OnPoll) (n : Nat) : Prop :=
  ∃ seen, fetch n = .ok seen ∧ seen.success = true ∧ pollStop onPoll seen n = .ok false ∧
    isTerminal seen.status = false

section Wait

variable {fetch : Nat → Except Raised RunStatusResult} {runId : String} {onPoll : OnPoll}
  {n : Nat}

theorem waitTurn_eq_none_iff :
    waitTurn runId onPoll n (fetch n) = none ↔ GoesOn fetch onPoll n := by
  constructor
  · intro h
    cases hfetch : fetch n with
    | error e =>
      rw [hfetch] at h
      exact nomatch h
    | ok seen =>
      rw [hfetch, waitTurn] at h
      by_cases hsuccess : seen.success = false
      · rw [if_pos hsuccess] at h
        exact nomatch h
      · rw [if_neg hsuccess] at h
        match hstop : pollStop onPoll seen n with
        | .error e => rw [hstop] at h; exact nomatch h
        | .ok true => rw [hstop] at h; exact nomatch h
        | .ok false =>
          rw [hstop] at h
          by_cases hterminal : isTerminal seen.status = true
          · simp only [if_pos hterminal] at h
            exact nomatch h
          · exact ⟨seen, hfetch, Bool.not_eq_false _ ▸ hsuccess, hstop,
              Bool.not_eq_true _ ▸ hterminal⟩
  · rintro ⟨seen, hfetch, hsuccess, hstop, hterminal⟩
    have hok : ¬ seen.success = false := fun hfalse => nomatch hsuccess.symm.trans hfalse
    rw [hfetch, waitTurn, if_neg hok, hstop]
    simp only [hterminal, Bool.false_eq_true, if_false]

theorem waitStep_none (h : waitTurn runId onPoll (n + 1) (fetch (n + 1)) = none) :
    waitStep fetch runId onPoll (n + 1) n = (n + 1, .again) := by
  rw [waitStep, h]

theorem waitStep_some {out : Except Raised RunWaitResult}
    (h : waitTurn runId onPoll (n + 1) (fetch (n + 1)) = some out) :
    waitStep fetch runId onPoll (n + 1) n = (n + 1, .stop (some out)) := by
  rw [waitStep, h]

/-- The `n`th poll is the one the wait ends on. -/
def EndsOn (fetch : Nat → Except Raised RunStatusResult) (runId : String) (onPoll : OnPoll)
    (n : Nat) (out : Except Raised RunWaitResult) : Prop :=
  (∀ i, 0 < i → i < n → GoesOn fetch onPoll i) ∧ waitTurn runId onPoll n (fetch n) = some out

/-- The wait ends on the first poll that does not let it go on, or when the polls are used
    up. -/
theorem waitForTerminal_cases (fetch : Nat → Except Raised RunStatusResult) (runId : String)
    (maxPolls : Int) (onPoll : OnPoll) :
    (∃ n out, 0 < n ∧ n ≤ maxPolls.toNat ∧ EndsOn fetch runId onPoll n out ∧
        waitForTerminal fetch runId maxPolls onPoll = (n, out)) ∨
      ((∀ i, 0 < i → i ≤ maxPolls.toNat → GoesOn fetch onPoll i) ∧
        waitForTerminal fetch runId maxPolls onPoll
          = (maxPolls.toNat, .ok (waitTimedOut runId maxPolls.toNat))) := by
  -- the state of the loop is the number of polls it made
  have hrule : Decided (fun k polls => polls = k) (GoesOn fetch onPoll)
        (fun k _ a => ∃ out, a = some out ∧ waitTurn runId onPoll k (fetch k) = some out)
        0 (0 + maxPolls.toNat) (loop (waitStep fetch runId onPoll) none maxPolls.toNat 1 0) ∨
      Exhausted none (fun k polls => polls = k) (GoesOn fetch onPoll) 0 (0 + maxPolls.toNat)
        (loop (waitStep fetch runId onPoll) none maxPolls.toNat 1 0) := by
    refine loop_rule ?_ ?_ ?_ maxPolls.toNat 0 0 rfl
    · rintro _ k rfl
      cases hturn : waitTurn runId onPoll (k + 1) (fetch (k + 1)) with
      | none => rw [waitStep_none hturn]
      | some out => rw [waitStep_some hturn]
    · rintro _ k rfl hagain
      cases hturn : waitTurn runId onPoll (k + 1) (fetch (k + 1)) with
      | none => exact waitTurn_eq_none_iff.mp hturn
      | some out =>
        rw [waitStep_some hturn] at hagain
        exact nomatch hagain
    · rintro _ k a rfl hstop
      cases hturn : waitTurn runId onPoll (k + 1) (fetch (k + 1)) with
      | none =>
        rw [waitStep_none hturn] at hstop
        exact nomatch hstop
      | some out =>
        rw [waitStep_some hturn] at hstop
        exact ⟨out, (Verdict.stop.inj hstop).symm, rfl⟩
  rw [Nat.zero_add] at hrule
  rw [waitForTerminal]
  rcases hrule with ⟨n, hpos, hle, hpolls, hbefore, out, hout, hturn⟩ | ⟨hout, hpolls, hall⟩
  · refine .inl ⟨n, out, hpos, hle, ⟨hbefore, hturn⟩, ?_⟩
    rw [show loop (waitStep fetch runId onPoll) none maxPolls.toNat 1 0 = (some out, n) from
      Prod.ext hout hpolls]
  · refine .inr ⟨hall, ?_⟩
    rw [show loop (waitStep fetch runId onPoll) none maxPolls.toNat 1 0 = (none, maxPolls.toNat)
      from Prod.ext hout hpolls]

/-! ## What the result says -/

/-- How a wait that returns on a poll came to its result. -/
theorem waitTurn_ok {r : RunWaitResult} (h : waitTurn runId onPoll n (fetch n) = some (.ok r)) :
    ∃ seen, fetch n = .ok seen ∧
      ((seen.success = false ∧ r = waitFailed runId seen n) ∨
        (seen.success = true ∧ pollStop onPoll seen n = .ok true ∧ r = waitSeen runId seen n true) ∨
        (seen.success = true ∧ isTerminal seen.status = true ∧
          r = waitSeen runId seen n false)) := by
  cases hfetch : fetch n with
  | error e =>
    rw [hfetch] at h
    exact nomatch h
  | ok seen =>
    refine ⟨seen, rfl, ?_⟩
    rw [hfetch, waitTurn] at h
    by_cases hsuccess : seen.success = false
    · rw [if_pos hsuccess] at h
      cases h
      exact .inl ⟨hsuccess, rfl⟩
    · rw [if_neg hsuccess] at h
      have hok : seen.success = true := Bool.not_eq_false _ ▸ hsuccess
      match hstop : pollStop onPoll seen n with
      | .error e =>
        rw [hstop] at h
        exact nomatch h
      | .ok true =>
        rw [hstop] at h
        cases h
        exact .inr (.inl ⟨hok, rfl, rfl⟩)
      | .ok false =>
        rw [hstop] at h
        by_cases hterminal : isTerminal seen.status = true
        · simp only [if_pos hterminal] at h
          cases h
          exact .inr (.inr ⟨hok, hterminal, rfl⟩)
        · simp only [if_neg hterminal] at h
          exact nomatch h

/-- The wait ends on a failed observation that itself carries the class `wait_timeout`. -/
def BorrowsTimeout (fetch : Nat → Except Raised RunStatusResult) (onPoll : OnPoll) (bound : Nat) :
    Prop :=
  ∃ n seen, 0 < n ∧ n ≤ bound ∧ (∀ i, 0 < i → i < n → GoesOn fetch onPoll i) ∧
    fetch n = .ok seen ∧ seen.success = false ∧ seen.errorClass = .str "wait_timeout"

/-- What a wait that made `made` observations says of them. -/
structure HonestWait (fetch : Nat → Except Raised RunStatusResult) (onPoll : OnPoll)
    (maxPolls : Int) (made : Nat) (out : Except Raised RunWaitResult) : Prop where
  bounded : made ≤ maxPolls.toNat
  polls : ∀ r, out = .ok r → r.polls = made
  success : ∀ r, out = .ok r → r.success = true → r.interrupted = false →
    ∃ seen, 0 < made ∧ fetch made = .ok seen ∧ seen.success = true ∧
      isTerminal seen.status = true ∧ r.terminalStatus = seen.status ∧
      ∀ i, 0 < i → i < made → ∃ earlier, fetch i = .ok earlier ∧ earlier.success = true ∧
        isTerminal earlier.status = false
  timeout : (∃ r, out = .ok r ∧ r.errorClass = .str "wait_timeout") ↔
    (∀ i, 0 < i → i ≤ maxPolls.toNat → GoesOn fetch onPoll i) ∨
      BorrowsTimeout fetch onPoll maxPolls.toNat

theorem orElse_eq_timeout {v : Json} :
    orElse v (.str "observation_failed") = .str "wait_timeout" ↔ v = .str "wait_timeout" := by
  rw [orElse]
  by_cases h : truthy v = true
  · rw [if_pos h]
  · rw [if_neg h]
    constructor
    · intro hother
      exact absurd (Json.str.inj hother) (by decide)
    · rintro rfl
      exact absurd rfl h

/-- Of two polls that do not go on, where all before either one do, neither is the earlier. -/
theorem first_unique {p : Nat → Prop} {m : Nat} (hn : ∀ i, 0 < i → i < n → p i) (hpn : ¬ p n)
    (hm : ∀ i, 0 < i → i < m → p i) (hpm : ¬ p m) (hn0 : 0 < n) (hm0 : 0 < m) : n = m := by
  rcases Nat.lt_trichotomy n m with hlt | heq | hgt
  · exact absurd (hm n hn0 hlt) hpn
  · exact heq
  · exact absurd (hn m hm0 hgt) hpm

theorem not_goesOn_of_some {out : Except Raised RunWaitResult}
    (h : waitTurn runId onPoll n (fetch n) = some out) : ¬ GoesOn fetch onPoll n := fun hgoes => by
  rw [waitTurn_eq_none_iff.mpr hgoes] at h
  exact nomatch h

/-- The class of the result, where the wait ends on a poll. -/
theorem endsOn_timeout_iff {out : Except Raised RunWaitResult} {bound : Nat} (hpos : 0 < n)
    (hle : n ≤ bound) (h : EndsOn fetch runId onPoll n out) :
    (∃ r, out = .ok r ∧ r.errorClass = .str "wait_timeout") ↔
      BorrowsTimeout fetch onPoll bound := by
  constructor
  · rintro ⟨r, rfl, hclass⟩
    obtain ⟨seen, hfetch, ⟨hfail, rfl⟩ | ⟨-, -, rfl⟩ | ⟨-, -, rfl⟩⟩ := waitTurn_ok h.2
    · exact ⟨n, seen, hpos, hle, h.1, hfetch, hfail, orElse_eq_timeout.mp hclass⟩
    · exact absurd (Json.str.inj hclass) (by decide)
    · exact absurd (Json.str.inj hclass) (by decide)
  · rintro ⟨m, seen, hm, -, hbefore, hfetch, hfail, hclass⟩
    have hstays : ¬ GoesOn fetch onPoll m := by
      rintro ⟨seen', hfetch', hsuccess, -⟩
      cases hfetch.symm.trans hfetch'
      exact nomatch hfail.symm.trans hsuccess
    obtain rfl := first_unique h.1 (not_goesOn_of_some h.2) hbefore hstays hpos hm
    have hturn := h.2
    rw [hfetch, waitTurn, if_pos hfail] at hturn
    exact ⟨_, (Option.some.inj hturn).symm, orElse_eq_timeout.mpr hclass⟩

theorem waitForTerminal_honest (fetch : Nat → Except Raised RunStatusResult) (runId : String)
    (maxPolls : Int) (onPoll : OnPoll) :
    HonestWait fetch onPoll maxPolls (waitForTerminal fetch runId maxPolls onPoll).1
      (waitForTerminal fetch runId maxPolls onPoll).2 := by
  rcases waitForTerminal_cases fetch runId maxPolls onPoll with
    ⟨n, out, hpos, hle, hends, heq⟩ | ⟨hall, heq⟩
  · rw [heq]
    refine ⟨hle, ?_, ?_, ?_⟩
    · rintro r rfl
      obtain ⟨seen, -, ⟨-, rfl⟩ | ⟨-, -, rfl⟩ | ⟨-, -, rfl⟩⟩ := waitTurn_ok hends.2 <;> rfl
    · rintro r rfl hsuccess hquiet
      obtain ⟨seen, hfetch, ⟨-, rfl⟩ | ⟨-, -, rfl⟩ | ⟨hok, hterminal, rfl⟩⟩ := waitTurn_ok hends.2
      · exact nomatch hsuccess
      · exact nomatch hquiet
      · refine ⟨seen, hpos, hfetch, hok, hterminal, rfl, fun i hi hlt => ?_⟩
        obtain ⟨earlier, hearlier, hgood, -, hopen⟩ := hends.1 i hi hlt
        exact ⟨earlier, hearlier, hgood, hopen⟩
    · rw [endsOn_timeout_iff hpos hle hends]
      constructor
      · intro h
        exact .inr h
      · rintro (hall | h)
        · exact absurd (hall n hpos hle) (not_goesOn_of_some hends.2)
        · exact h
  · rw [heq]
    refine ⟨Nat.le_refl _, ?_, ?_, ?_⟩
    · rintro r hr
      cases hr
      rfl
    · rintro r hr hsuccess -
      cases hr
      exact nomatch hsuccess
    · exact ⟨fun _ => .inl hall, fun _ => ⟨_, rfl, rfl⟩⟩

end Wait

end KeyholeObserve
