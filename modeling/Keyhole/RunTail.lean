import Mathlib.Data.List.Destutter
import Keyhole.RunWait

/-!
# Following a run

`tail_run` asks for the status of a run again and again as waiting does, and keeps an entry of
every status that differs from the one before it.

* `tailRun`: the loop, with the number of the observations it makes;
* `Kept`: the entries of the loop are the statuses seen so far, adjacent repetitions collapsed;
* `HonestTail`: what its result says of the observations, `tailRun_honest`. -/

namespace KeyholeObserve

open KeyholeJson KeyholeDispatch KeyholeStatus BoundedRetry

/-! ## The loop -/

/-- `RunTailEntry`, without its `timestamp`. -/
structure RunTailEntry where
  status : String := ""
  message : Json := .str ""
  source : String := ""
  raw : Dict := []

/-- `RunTailResult`. -/
structure RunTailResult where
  success : Bool
  runId : String := ""
  observationMethod : String := "status_poll"
  entries : List RunTailEntry := []
  terminalStatus : Option RunStatus := none
  interrupted : Bool := false
  errorClass : Json := .str ""
  reason : String := ""
  repairGuidance : List String := []

/-- The entry of a status. -/
def statusEntry (seen : RunStatusResult) : RunTailEntry where
  status := statusValue seen.status
  message := orElse seen.summary (.str ("Status: " ++ statusValue seen.status))
  source := "status_poll"
  raw := seen.responseData

/-- The entry of an observation that failed. -/
def errorEntry (seen : RunStatusResult) : RunTailEntry where
  status := "error"
  message := .str ("Observation failed: " ++ pyStr seen.reason)
  source := "status_poll"
  raw := [("error_class", seen.errorClass)]

/-- The result after an observation that failed. -/
def tailFailed (runId : String) (entries : List RunTailEntry) (seen : RunStatusResult) :
    RunTailResult where
  success := false
  runId := runId
  entries := entries ++ [errorEntry seen]
  errorClass := orElse seen.errorClass (.str "observation_failed")
  reason := "Tail observation failed: " ++ pyStr seen.reason
  repairGuidance :=
    if seen.repairGuidance = [] then
      ["Retry: keyhole runs tail " ++ runId,
        "Observation failure does not mean execution failed."]
    else seen.repairGuidance

/-- The result at the end of the loop. -/
def tailEnded (runId : String) (entries : List RunTailEntry) (terminal : Option RunStatus)
    (interrupted : Bool) : RunTailResult where
  success := true
  runId := runId
  entries := entries
  terminalStatus := terminal
  interrupted := interrupted

/-- `on_entry`: what it is called with, and the number of entries before it. -/
abbrev OnEntry := Option (RunTailEntry → Nat → Reply)

def entryStop (onEntry : OnEntry) (entry : RunTailEntry) (before : Nat) : Except Raised Bool :=
  match onEntry with
  | none => .ok false
  | some f => (f entry before).stop

/-- The variables of the loop. -/
structure TailState where
  entries : List RunTailEntry := []
  lastStatus : String := ""
  polls : Nat := 0

/-- Is the status a new one? -/
def isNew (st : TailState) (seen : RunStatusResult) : Bool :=
  statusValue seen.status != st.lastStatus || st.entries.isEmpty

/-- The state after the status has been recorded. -/
def record (st : TailState) (seen : RunStatusResult) : TailState :=
  if isNew st seen then
    { st with entries := st.entries ++ [statusEntry seen], lastStatus := statusValue seen.status }
  else st

/-- The callback is asked about a new entry only. -/
def askedToStop (onEntry : OnEntry) (st : TailState) (seen : RunStatusResult) :
    Except Raised Bool :=
  if isNew st seen then entryStop onEntry (statusEntry seen) st.entries.length else .ok false

/-- What the body of the loop does with an observation that succeeded. -/
def tailSeen (runId : String) (onEntry : OnEntry) (st : TailState) (seen : RunStatusResult) :
    Verdict (Option (Except Raised RunTailResult)) :=
  match askedToStop onEntry st seen with
  | .error e => .stop (some (.error e))
  | .ok true => .stop (some (.ok (tailEnded runId (record st seen).entries none true)))
  | .ok false =>
      if isTerminal seen.status then
        .stop (some (.ok (tailEnded runId (record st seen).entries (some seen.status) false)))
      else .again

/-- One turn of the loop. -/
def tailStep (fetch : Nat → Except Raised RunStatusResult) (runId : String) (onEntry : OnEntry)
    (attempt : Nat) (st : TailState) :
    TailState × Verdict (Option (Except Raised RunTailResult)) :=
  let polled := { st with polls := st.polls + 1 }
  match fetch attempt with
  | .error e => (polled, .stop (some (.error e)))
  | .ok seen =>
      if seen.success = false then (polled, .stop (some (.ok (tailFailed runId st.entries seen))))
      else (record polled seen, tailSeen runId onEntry polled seen)

/-- `tail_run`, where `fetch n` is what the `n`th call of `fetch_run_status` gives: the number
    of the calls, and how the tail ends. -/
def tailRun (fetch : Nat → Except Raised RunStatusResult) (runId : String) (maxEntries : Int)
    (onEntry : OnEntry) : Nat × Except Raised RunTailResult :=
  match loop (tailStep fetch runId onEntry) none maxEntries.toNat 1 {} with
  | (some out, st) => (st.polls, out)
  | (none, st) => (st.polls, .ok (tailEnded runId st.entries none false))

/-! ## Collapsing adjacent repetitions -/

section Collapse

variable {α : Type} [DecidableEq α]

theorem destutter'_concat (l : List α) (a b : α) :
    (l ++ [a]).destutter' (· ≠ ·) b
      = l.destutter' (· ≠ ·) b ++ if l.getLastD b = a then [] else [a] := by
  induction l generalizing b with
  | nil =>
    rw [List.nil_append, List.destutter'_singleton, List.destutter'_nil, List.getLastD_nil]
    by_cases h : b = a
    · rw [if_neg (not_not.mpr h), if_pos h, List.append_nil]
    · rw [if_pos h, if_neg h]
      rfl
  | cons c l ih =>
    rw [List.cons_append, List.getLastD_cons]
    by_cases h : b ≠ c
    · rw [List.destutter'_cons_pos _ h, List.destutter'_cons_pos _ h, ih c, List.cons_append]
    · rw [List.destutter'_cons_neg _ h, List.destutter'_cons_neg _ h, ih b]
      rw [not_not.mp h]

/-- One more element is kept when it differs from the last one. -/
theorem destutter_concat (l : List α) (a : α) :
    (l ++ [a]).destutter (· ≠ ·)
      = l.destutter (· ≠ ·) ++ if l.getLast? = some a then [] else [a] := by
  cases l with
  | nil => rfl
  | cons b l =>
    rw [List.cons_append, List.destutter_cons', List.destutter_cons', destutter'_concat]
    rw [List.getLast?_cons]
    simp only [Option.some.injEq, List.getLastD_eq_getLast?]

end Collapse

/-! ## What the entries are -/

/-- The status an observation gives. -/
def observedStatus : Except Raised RunStatusResult → List RunStatus
  | .error _ => []
  | .ok seen => if seen.success = false then [] else [seen.status]

/-- The statuses of the first `n` observations. -/
def statuses (fetch : Nat → Except Raised RunStatusResult) : Nat → List RunStatus
  | 0 => []
  | n + 1 => statuses fetch n ++ observedStatus (fetch (n + 1))

/-- The entries of the loop are the statuses seen, adjacent repetitions collapsed. -/
structure Kept (seen : List RunStatus) (st : TailState) : Prop where
  entries : st.entries.map (·.status) = (seen.destutter (· ≠ ·)).map statusValue
  last : ∀ s, seen.getLast? = some s → st.lastStatus = statusValue s

variable {st : TailState} {k n : Nat}

theorem Kept.isEmpty_iff {seen : List RunStatus} (h : Kept seen st) :
    st.entries = [] ↔ seen = [] := by
  rw [← List.map_eq_nil_iff (f := (·.status)), h.entries, List.map_eq_nil_iff,
    List.destutter_eq_nil]

/-- A status is new when it is not the last one seen. -/
theorem Kept.isNew_iff {seen : List RunStatus} (h : Kept seen st)
    (r : RunStatusResult) : isNew st r = true ↔ seen.getLast? ≠ some r.status := by
  rw [isNew, Bool.or_eq_true, bne_iff_ne, List.isEmpty_iff, h.isEmpty_iff]
  cases hlast : seen.getLast? with
  | none =>
    rw [List.getLast?_eq_none_iff.mp hlast]
    exact ⟨fun _ => nofun, fun _ => .inr rfl⟩
  | some s =>
    have hne : seen ≠ [] := fun hnil => by
      rw [hnil] at hlast
      exact nomatch hlast
    rw [h.last s hlast]
    constructor
    · rintro (hdiff | hnil) heq
      · exact hdiff (congrArg statusValue (Option.some.inj heq).symm)
      · exact hne hnil
    · intro hdiff
      exact .inl fun heq => hdiff (congrArg some (statusValue_injective heq.symm))

/-- Recording keeps it so. -/
theorem Kept.record {seen : List RunStatus} (h : Kept seen st)
    (r : RunStatusResult) : Kept (seen ++ [r.status]) (record st r) := by
  have hlast : (seen ++ [r.status]).getLast? = some r.status := List.getLast?_concat
  rw [KeyholeObserve.record]
  by_cases hnew : isNew st r = true
  · have hdiff := (h.isNew_iff r).mp hnew
    rw [if_pos hnew]
    constructor
    · rw [destutter_concat, if_neg hdiff, List.map_append, List.map_append, h.entries]
      rfl
    · intro s hs
      rw [hlast] at hs
      exact congrArg statusValue (Option.some.inj hs)
  · have hsame : seen.getLast? = some r.status := by
      by_contra hdiff
      exact hnew ((h.isNew_iff r).mpr hdiff)
    rw [if_neg hnew]
    constructor
    · rw [destutter_concat, if_pos hsame, List.append_nil]
      exact h.entries
    · intro s hs
      rw [hlast] at hs
      rw [← Option.some.inj hs]
      exact h.last r.status hsame

/-- Collapsing keeps the last element. -/
theorem getLast?_destutter {α : Type} [DecidableEq α] (l : List α) :
    (l.destutter (· ≠ ·)).getLast? = l.getLast? := by
  induction l using List.reverseRecOn with
  | nil => rfl
  | append_singleton l a ih =>
    rw [destutter_concat, List.getLast?_concat]
    by_cases h : l.getLast? = some a
    · rw [if_pos h, List.append_nil, ih, h]
    · rw [if_neg h, List.getLast?_concat]

theorem Kept.getLast? {seen : List RunStatus} (h : Kept seen st) :
    st.entries.getLast?.map (·.status) = seen.getLast?.map statusValue := by
  rw [← List.getLast?_map, h.entries, List.getLast?_map, getLast?_destutter]

/-! ## How the tail ends -/

section Tail

variable {fetch : Nat → Except Raised RunStatusResult} {runId : String} {onEntry : OnEntry}

/-- The observation is one of a run that has not ended. -/
def Open (fetch : Nat → Except Raised RunStatusResult) (n : Nat) : Prop :=
  ∃ seen, fetch n = .ok seen ∧ seen.success = true ∧ isTerminal seen.status = false

/-- The state after `n` polls. -/
def TailAfter (fetch : Nat → Except Raised RunStatusResult) (n : Nat) (st : TailState) : Prop :=
  st.polls = n ∧ Kept (statuses fetch n) st

/-- What a tail that ended on its `n`th poll returns, if it returns. -/
def TailEnds (fetch : Nat → Except Raised RunStatusResult) (runId : String) (n : Nat)
    (st : TailState) (a : Option (Except Raised RunTailResult)) : Prop :=
  ∃ out, a = some out ∧ ∀ r, out = .ok r → ∃ seen, fetch n = .ok seen ∧
    ((seen.success = false ∧ r = tailFailed runId st.entries seen) ∨
      (seen.success = true ∧ ∃ terminal interrupted,
        r = tailEnded runId st.entries terminal interrupted ∧
          (interrupted = true ∨ (terminal = some seen.status ∧ isTerminal seen.status = true))))

theorem tailAfter_step (h : TailAfter fetch k st) :
    TailAfter fetch (k + 1) (tailStep fetch runId onEntry (k + 1) st).1 := by
  obtain ⟨hpolls, hkept⟩ := h
  have hpolled : Kept (statuses fetch k) { st with polls := st.polls + 1 } :=
    ⟨hkept.entries, hkept.last⟩
  rw [tailStep, TailAfter, statuses]
  cases fetch (k + 1) with
  | error e =>
    rw [observedStatus, List.append_nil]
    exact ⟨congrArg (· + 1) hpolls, hpolled⟩
  | ok seen =>
    rw [observedStatus]
    by_cases hsuccess : seen.success = false
    · simp only [if_pos hsuccess, List.append_nil]
      exact ⟨congrArg (· + 1) hpolls, hpolled⟩
    · simp only [if_neg hsuccess]
      refine ⟨?_, hpolled.record seen⟩
      rw [record, ← hpolls]
      by_cases hnew : isNew { st with polls := st.polls + 1 } seen = true
      · rw [if_pos hnew]
      · rw [if_neg hnew]

/-- The tail goes on after an open observation only. -/
theorem open_of_again (h : (tailStep fetch runId onEntry k st).2 = .again) : Open fetch k := by
  rw [tailStep] at h
  cases hfetch : fetch k with
  | error e =>
    rw [hfetch] at h
    exact nomatch h
  | ok seen =>
    rw [hfetch] at h
    by_cases hsuccess : seen.success = false
    · simp only [if_pos hsuccess] at h
      exact nomatch h
    · simp only [if_neg hsuccess, tailSeen] at h
      match hasked : askedToStop onEntry { st with polls := st.polls + 1 } seen with
      | .error e => rw [hasked] at h; exact nomatch h
      | .ok true => rw [hasked] at h; exact nomatch h
      | .ok false =>
        rw [hasked] at h
        by_cases hterminal : isTerminal seen.status = true
        · simp only [if_pos hterminal] at h
          exact nomatch h
        · exact ⟨seen, hfetch, Bool.not_eq_false _ ▸ hsuccess,
            Bool.not_eq_true _ ▸ hterminal⟩

theorem tailEnds_of_stop {a : Option (Except Raised RunTailResult)}
    (h : (tailStep fetch runId onEntry k st).2 = .stop a) :
    TailEnds fetch runId k (tailStep fetch runId onEntry k st).1 a := by
  rw [tailStep] at h ⊢
  cases hfetch : fetch k with
  | error e =>
    rw [hfetch] at h
    exact ⟨_, (Verdict.stop.inj h).symm, nofun⟩
  | ok seen =>
    rw [hfetch] at h
    by_cases hsuccess : seen.success = false
    · simp only [if_pos hsuccess] at h ⊢
      refine ⟨_, (Verdict.stop.inj h).symm, fun r hr => ⟨seen, hfetch, .inl ⟨hsuccess, ?_⟩⟩⟩
      exact (Except.ok.inj hr).symm
    · have hok : seen.success = true := Bool.not_eq_false _ ▸ hsuccess
      simp only [if_neg hsuccess, tailSeen] at h ⊢
      match hasked : askedToStop onEntry { st with polls := st.polls + 1 } seen with
      | .error e =>
        rw [hasked] at h
        exact ⟨_, (Verdict.stop.inj h).symm, nofun⟩
      | .ok true =>
        rw [hasked] at h
        refine ⟨_, (Verdict.stop.inj h).symm, fun r hr => ⟨seen, hfetch, .inr ⟨hok, ?_⟩⟩⟩
        exact ⟨none, true, (Except.ok.inj hr).symm, .inl rfl⟩
      | .ok false =>
        rw [hasked] at h
        by_cases hterminal : isTerminal seen.status = true
        · simp only [if_pos hterminal] at h
          refine ⟨_, (Verdict.stop.inj h).symm, fun r hr => ⟨seen, hfetch, .inr ⟨hok, ?_⟩⟩⟩
          exact ⟨some seen.status, false, (Except.ok.inj hr).symm, .inr ⟨rfl, hterminal⟩⟩
        · simp only [if_neg hterminal] at h
          exact nomatch h

/-- The tail ends on the first poll that is not open, or when the polls are used up. -/
theorem tailRun_cases (fetch : Nat → Except Raised RunStatusResult) (runId : String)
    (maxEntries : Int) (onEntry : OnEntry) :
    (∃ n st out, 0 < n ∧ n ≤ maxEntries.toNat ∧ (∀ i, 0 < i → i < n → Open fetch i) ∧
        TailAfter fetch n st ∧ TailEnds fetch runId n st (some out) ∧
        tailRun fetch runId maxEntries onEntry = (n, out)) ∨
      ∃ st, (∀ i, 0 < i → i ≤ maxEntries.toNat → Open fetch i) ∧
        TailAfter fetch maxEntries.toNat st ∧
        tailRun fetch runId maxEntries onEntry
          = (maxEntries.toNat, .ok (tailEnded runId st.entries none false)) := by
  have hrule : Decided (TailAfter fetch) (Open fetch) (TailEnds fetch runId) 0
        (0 + maxEntries.toNat) (loop (tailStep fetch runId onEntry) none maxEntries.toNat 1 {}) ∨
      Exhausted none (TailAfter fetch) (Open fetch) 0 (0 + maxEntries.toNat)
        (loop (tailStep fetch runId onEntry) none maxEntries.toNat 1 {}) :=
    loop_rule (fun _ _ => tailAfter_step) (fun _ _ _ => open_of_again)
      (fun _ _ _ _ => tailEnds_of_stop) maxEntries.toNat 0 {} ⟨rfl, rfl, nofun⟩
  rw [Nat.zero_add] at hrule
  rw [tailRun]
  generalize loop (tailStep fetch runId onEntry) none maxEntries.toNat 1 {} = run at hrule
  obtain ⟨a, st⟩ := run
  rcases hrule with ⟨n, hpos, hle, hafter, hbefore, hends⟩ | ⟨rfl, hafter, hall⟩
  · obtain ⟨out, rfl, hout⟩ := hends
    refine .inl ⟨n, st, out, hpos, hle, hbefore, hafter, ⟨out, rfl, hout⟩, ?_⟩
    show (st.polls, out) = (n, out)
    rw [hafter.1]
  · refine .inr ⟨st, hall, hafter, ?_⟩
    show (st.polls, _) = (maxEntries.toNat, _)
    rw [hafter.1]

/-! ## What the result says -/

/-- What a tail that made `made` observations says of them. -/
structure HonestTail (fetch : Nat → Except Raised RunStatusResult) (maxEntries : Int)
    (made : Nat) (out : Except Raised RunTailResult) : Prop where
  bounded : made ≤ maxEntries.toNat
  earlier : ∀ i, 0 < i → i < made → Open fetch i
  failure : ∀ r, out = .ok r → (r.success = false ↔
    ∃ seen, 0 < made ∧ fetch made = .ok seen ∧ seen.success = false)
  entries : ∀ r, out = .ok r → r.entries.map (·.status)
    = ((statuses fetch made).destutter (· ≠ ·)).map statusValue
      ++ if r.success = true then [] else ["error"]
  terminal : ∀ r, out = .ok r → r.success = true → r.interrupted = false →
    ∀ s, r.terminalStatus = some s ↔
      isTerminal s = true ∧ r.entries.getLast?.map (·.status) = some (statusValue s)

theorem statuses_getLast? {seen : RunStatusResult} (hpos : 0 < n)
    (hfetch : fetch n = .ok seen) (hsuccess : seen.success = true) :
    (statuses fetch n).getLast? = some seen.status := by
  obtain ⟨k, rfl⟩ : ∃ k, n = k + 1 := ⟨n - 1, by omega⟩
  have hok : ¬ seen.success = false := fun hfalse => nomatch hsuccess.symm.trans hfalse
  rw [statuses, hfetch, observedStatus, if_neg hok, List.getLast?_concat]

theorem not_terminal_of_open (h : ∀ i, 0 < i → i ≤ n → Open fetch i) :
    ∀ s ∈ (statuses fetch n).getLast?, isTerminal s = false := by
  intro s hs
  cases n with
  | zero => exact nomatch hs
  | succ k =>
    obtain ⟨seen, hfetch, hsuccess, hopen⟩ := h (k + 1) (Nat.succ_pos k) (Nat.le_refl _)
    rw [statuses_getLast? (Nat.succ_pos k) hfetch hsuccess] at hs
    rw [← Option.some.inj hs]
    exact hopen

/-- A poll that is followed by the end of the tail without a failure. -/
theorem honest_ended {seen : RunStatusResult}
    {terminal : Option RunStatus} {interrupted : Bool} {maxEntries : Int} (hpos : 0 < n)
    (hle : n ≤ maxEntries.toNat) (hbefore : ∀ i, 0 < i → i < n → Open fetch i)
    (hafter : TailAfter fetch n st) (hfetch : fetch n = .ok seen) (hok : seen.success = true)
    (hend : interrupted = true ∨ (terminal = some seen.status ∧ isTerminal seen.status = true)) :
    HonestTail fetch maxEntries n (.ok (tailEnded runId st.entries terminal interrupted)) := by
  constructor
  case bounded => exact hle
  case earlier => exact hbefore
  case failure =>
    intro r hr
    cases hr
    refine ⟨nofun, ?_⟩
    rintro ⟨seen', -, hfetch', hfail⟩
    cases hfetch.symm.trans hfetch'
    exact nomatch hok.symm.trans hfail
  case entries =>
    intro r hr
    cases hr
    exact hafter.2.entries.trans (List.append_nil _).symm
  case terminal =>
    intro r hr _ hquiet s
    cases hr
    have hlast : st.entries.getLast?.map (·.status) = some (statusValue seen.status) := by
      rw [hafter.2.getLast?, statuses_getLast? hpos hfetch hok]
      rfl
    rcases hend with rfl | ⟨rfl, hterminal⟩
    · exact nomatch hquiet
    · show some seen.status = some s ↔
        isTerminal s = true ∧ st.entries.getLast?.map (·.status) = some (statusValue s)
      rw [hlast]
      constructor
      · intro hs
        cases hs
        exact ⟨hterminal, rfl⟩
      · rintro ⟨-, hs⟩
        exact congrArg some (statusValue_injective (Option.some.inj hs))

theorem tailRun_honest (fetch : Nat → Except Raised RunStatusResult) (runId : String)
    (maxEntries : Int) (onEntry : OnEntry) :
    HonestTail fetch maxEntries (tailRun fetch runId maxEntries onEntry).1
      (tailRun fetch runId maxEntries onEntry).2 := by
  rcases tailRun_cases fetch runId maxEntries onEntry with
    ⟨n, st, out, hpos, hle, hbefore, hafter, ⟨out', hsome, hout⟩, heq⟩ | ⟨st, hall, hafter, heq⟩
  · cases hsome
    rw [heq]
    cases out with
    | error e =>
      exact ⟨hle, hbefore, nofun, nofun,
        nofun⟩
    | ok r =>
      obtain ⟨seen, hfetch, ⟨hfail, rfl⟩ | ⟨hok, terminal, interrupted, rfl, hend⟩⟩ := hout r rfl
      · refine ⟨hle, hbefore, ?_, ?_, ?_⟩
        · rintro r' hr'
          cases hr'
          exact ⟨fun _ => ⟨seen, hpos, hfetch, hfail⟩, fun _ => rfl⟩
        · rintro r' hr'
          cases hr'
          show (st.entries ++ [errorEntry seen]).map (·.status) = _
          rw [List.map_append, hafter.2.entries]
          rfl
        · rintro r' hr' hsuccess
          cases hr'
          exact nomatch hsuccess
      · exact honest_ended hpos hle hbefore hafter hfetch hok hend
  · rw [heq]
    refine ⟨Nat.le_refl _, fun i hi hlt => hall i hi (Nat.le_of_lt hlt), ?_, ?_, ?_⟩
    · rintro r hr
      cases hr
      refine ⟨nofun, ?_⟩
      rintro ⟨seen, hpos, hfetch, hfail⟩
      obtain ⟨seen', hfetch', hok, -⟩ := hall _ hpos (Nat.le_refl _)
      cases hfetch.symm.trans hfetch'
      exact nomatch hok.symm.trans hfail
    · rintro r hr
      cases hr
      exact hafter.2.entries.trans (List.append_nil _).symm
    · rintro r hr - - s
      cases hr
      refine ⟨nofun, ?_⟩
      rintro ⟨hterminal, hlast⟩
      have hmapped : st.entries.getLast?.map (·.status) = some (statusValue s) := hlast
      rw [hafter.2.getLast?] at hmapped
      obtain ⟨s', hs', hsame⟩ := Option.map_eq_some_iff.mp hmapped
      rw [statusValue_injective hsame] at hs'
      exact nomatch (not_terminal_of_open hall s hs').symm.trans hterminal

end Tail

/-! ## Both loops -/

/-- Waiting and tailing report what they observed. Waiting reports `wait_timeout` when every
    poll it may make went by without an end, and when the observation that ends it failed
    with that very class. -/
theorem reports_what_was_observed (fetch : Nat → Except Raised RunStatusResult) (runId : String)
    (maxPolls maxEntries : Int) (onPoll : OnPoll) (onEntry : OnEntry) :
    HonestWait fetch onPoll maxPolls (waitForTerminal fetch runId maxPolls onPoll).1
        (waitForTerminal fetch runId maxPolls onPoll).2 ∧
      HonestTail fetch maxEntries (tailRun fetch runId maxEntries onEntry).1
        (tailRun fetch runId maxEntries onEntry).2 :=
  ⟨waitForTerminal_honest fetch runId maxPolls onPoll,
    tailRun_honest fetch runId maxEntries onEntry⟩

/-- The answer of a boundary that names its own failure `wait_timeout`. -/
def borrowedAnswer : TransportResult where
  data := .obj [("ok", .bool false), ("error", .obj [("code", .str "wait_timeout")])]
  statusCode := 200

/-- A wait of three polls whose first query fails with the class `wait_timeout` reports a
    timeout, though none of its observations succeeded. -/
theorem borrowed_timeout :
    ¬ ((∃ r, (waitForTerminal (fun _ => fetchRunStatus (.ok borrowedAnswer) "run-1" "") "run-1" 3
        none).2 = .ok r ∧ r.errorClass = .str "wait_timeout") ↔
      ∀ i, 0 < i → i ≤ 3 →
        GoesOn (fun _ => fetchRunStatus (.ok borrowedAnswer) "run-1" "") none i) := by
  intro h
  obtain ⟨seen, hfetch, hsuccess, -⟩ := h.mp ⟨_, rfl, rfl⟩ 1 (by decide) (by decide)
  cases hfetch
  exact nomatch hsuccess

end KeyholeObserve
