import Keyhole.FlowResume
import Keyhole.StatusQuery

/-!
# Two observers of one run

The governed flow polls a run it has accepted and stops when the run is over; the status
query classifies the same documents.  The poller prefers the payload's `status` and knows
seven words, without stripping them.  The query prefers the envelope's, knows ten words of an
end, and has no `timed_out` among them.

* `pollVerdict`, `fetchVerdict`: what each observer makes of one answer;
* `exec_pollSavedPaths_cons`, `exec_pollRound_cons`: the two loops of the poller act on it;
* `ObserversAgree`: one story, which is that of the run's own status;
* `observersAgree_iff`: the answers for which they tell it. -/

namespace KeyholeObservers

open KeyholeJson KeyholeDispatch KeyholeEnvelope KeyholeStatus KeyholeFlow EffectProgram

/-! ## Verdicts -/

/-- What an observer makes of an answer. -/
inductive Verdict where
  /-- the answer is not one about the run -/
  | refused
  /-- the run goes on -/
  | pending
  | succeeded
  | failed
  deriving DecidableEq

/-- The run has come to its end. -/
def Verdict.isOver (v : Verdict) : Prop := v = .succeeded ∨ v = .failed

instance (v : Verdict) : Decidable v.isOver := inferInstanceAs (Decidable (_ ∨ _))

/-- What the poller makes of a document. -/
def documentVerdict (data : Dict) : Verdict :=
  if isFinished data then
    if isFailedRun data then .failed else .succeeded
  else .pending

/-- What the poller makes of a response. -/
def pollVerdict (resp : Response) (action : String) : Verdict :=
  match checkAnswer resp action with
  | .ok data => documentVerdict data
  | .error _ => .refused

/-- What the caller of `fetch_run_status` is told. -/
def fetchVerdict (result : Except Raised RunStatusResult) : Verdict :=
  match result with
  | .error _ => .refused
  | .ok r =>
      if r.success then
        if r.status = .success then .succeeded
        else if isTerminal r.status then .failed
        else .pending
      else .refused

/-! ## The loops of the poller -/

section Loops

variable {env : Env} {w : World} {resp : Response} {d : Dict}

/-- `_poll_saved_run` brings the run to its end exactly on such a verdict, and asks along the
    next path otherwise. -/
theorem exec_pollSavedPaths_cons (id url path : String) (rest : List String) (last : String)
    (hanswer : env.answer w.tick
      (pollRequest w.client (.savedRunPoll w.live.step rest.isEmpty) path) = .response resp)
    (hgives : Gives resp d) :
    exec (pollSavedPaths env id url (path :: rest) last) w =
      if (pollVerdict resp "governed run status").isOver then
        exec (finishSavedRun env d) ((w.send (pollRequest w.client
          (.savedRunPoll w.live.step rest.isEmpty) path)).hear (pollRequest w.client
          (.savedRunPoll w.live.step rest.isEmpty) path) resp)
      else
        exec (pollSavedPaths env id url rest (orPending (runStatus d)))
          ((w.send (pollRequest w.client (.savedRunPoll w.live.step rest.isEmpty) path)).hear
            (pollRequest w.client (.savedRunPoll w.live.step rest.isEmpty) path) resp) := by
  let r := pollRequest w.client (.savedRunPoll w.live.step rest.isEmpty) path
  have hfound : ¬ resp.statusCode = 404 := fun heq => by
    have hs := hgives.1
    omega
  have hhttp : exec (http env r) w = (.ok resp, (w.send r).hear r resp) := by
    rw [exec_http, hanswer]
  have hrun : exec (savedRunAnswer env id url r) w = (.ok d, (w.send r).hear r resp) := by
    rw [savedRunAnswer, exec_bind_ok hhttp, if_neg hfound, checkAnswer_of_gives hgives]
    rfl
  have hverdict : pollVerdict resp "governed run status" = documentVerdict d := by
    rw [pollVerdict, checkAnswer_of_gives hgives]
  rw [pollSavedPaths, exec_bind_ok (exec_getClient w), hverdict, documentVerdict]
  show exec (savedRunAnswer env id url r >>= _) w = _
  rw [exec_bind_ok hrun]
  by_cases hfinished : isFinished d = true
  · rw [if_pos hfinished, if_pos hfinished]
    by_cases hfailed : isFailedRun d = true
    · rw [if_pos hfailed, if_pos (.inr rfl)]
    · rw [if_neg hfailed, if_pos (.inl rfl)]
  · rw [if_neg hfinished, if_neg hfinished, if_neg (by decide)]

/-- `_resolve_async_result` stops the same way: it raises for a run that failed, and returns
    the document of one that succeeded. -/
theorem exec_pollRound_cons (action : Action) (path : String) (rest : List String) (last : Dict)
    (hanswer : env.answer w.tick (pollRequest w.client (.runPoll action) path) = .response resp)
    (hgives : Gives resp d) :
    exec (pollRound env action (path :: rest) last) w =
      match pollVerdict resp (action.text ++ " status poll") with
      | .failed => exec (raise (action.text ++ " failed: " ++ (runError d []).1 ++ ": "
          ++ (runError d []).2)) ((w.send (pollRequest w.client (.runPoll action) path)).hear
          (pollRequest w.client (.runPoll action) path) resp)
      | .succeeded => (.ok (.inr d), (w.send (pollRequest w.client (.runPoll action) path)).hear
          (pollRequest w.client (.runPoll action) path) resp)
      | _ => exec (pollRound env action rest d)
          ((w.send (pollRequest w.client (.runPoll action) path)).hear
            (pollRequest w.client (.runPoll action) path) resp) := by
  let r := pollRequest w.client (.runPoll action) path
  have hhttp : exec (http env r) w = (.ok resp, (w.send r).hear r resp) := by
    rw [exec_http, hanswer]
  have hrun : exec (exchange env r (action.text ++ " status poll")) w
      = (.ok d, (w.send r).hear r resp) := by
    rw [exchange, exec_bind_ok hhttp, checkAnswer_of_gives hgives]
    rfl
  have hverdict : pollVerdict resp (action.text ++ " status poll") = documentVerdict d := by
    rw [pollVerdict, checkAnswer_of_gives hgives]
  rw [pollRound, exec_bind_ok (exec_getClient w), exec_bind_ok hrun, hverdict, documentVerdict]
  by_cases hfinished : isFinished d = true
  · rw [if_pos hfinished, if_pos hfinished]
    by_cases hfailed : isFailedRun d = true
    · rw [if_pos hfailed, if_pos hfailed]
    · rw [if_neg hfailed, if_neg hfailed]
      rfl
  · rw [if_neg hfinished, if_neg hfinished]

end Loops

/-! ## The words an answer is judged by -/

/-- `is_terminal` of the payload. -/
def flagged (data : Dict) : Prop := isTrue ((inner data).get "is_terminal") = true

/-- The places of the run's own status. -/
def ownPlaces (data : Dict) : List Json :=
  let nested := innerData data
  [nested.get "status", nested.get "state", nested.get "run_status",
    (nested.child "run").get "status", (nested.child "receipt").get "status"]

/-- The status the payload states for the run, `""` if it states none. -/
def ownStatus (data : Dict) : String := firstString (ownPlaces data)

/-- The word for the run's status, wherever it stands: the payload's before the envelope's. -/
def statedWord (data : Dict) : String := strip (lower (statedStatus data))

/-- The document without the status of the envelope. -/
def withoutEnvelopeStatus (data : Dict) : Dict :=
  Dict.pop (Dict.pop (Dict.pop data "status") "state") "run_status"

/-- Words for a run that came to nothing. -/
def endingWords : List String := ["timed_out", "rejected", "denied", "error"]

theorem get_pop (d : Dict) (k k' : String) :
    Dict.get (Dict.pop d k) k' = if k' = k then .null else Dict.get d k' := by
  induction d with
  | nil => exact (ite_self _).symm
  | cons hd rest ih =>
    obtain ⟨key, v⟩ := hd
    by_cases hkey : key = k
    · subst hkey
      rw [show Dict.pop ((key, v) :: rest) key = Dict.pop rest key by simp [Dict.pop], ih,
        get_cons]
      by_cases hk' : k' = key
      · rw [if_pos hk', if_pos hk']
      · rw [if_neg hk', if_neg hk', if_neg hk']
    · rw [show Dict.pop ((key, v) :: rest) k = (key, v) :: Dict.pop rest k by
        simp [Dict.pop, hkey], get_cons, ih, get_cons]
      by_cases hk' : k' = key
      · rw [if_pos hk', if_pos hk', if_neg (fun hk => hkey (hk'.symm.trans hk))]
      · rw [if_neg hk', if_neg hk']

/-- Any other entry stays. -/
theorem get_withoutEnvelopeStatus (data : Dict) {k : String}
    (h : k ∉ ["status", "state", "run_status"]) :
    Dict.get (withoutEnvelopeStatus data) k = Dict.get data k := by
  obtain ⟨hstatus, hstate, hrun⟩ : k ≠ "status" ∧ k ≠ "state" ∧ k ≠ "run_status" := by
    simpa using h
  rw [withoutEnvelopeStatus, get_pop, if_neg hrun, get_pop, if_neg hstate, get_pop,
    if_neg hstatus]

theorem get_withoutEnvelopeStatus_status (data : Dict) {k : String}
    (h : k ∈ ["status", "state", "run_status"]) :
    Dict.get (withoutEnvelopeStatus data) k = .null := by
  rw [withoutEnvelopeStatus, get_pop, get_pop, get_pop]
  rcases List.mem_cons.mp h with rfl | h
  · rfl
  · rcases List.mem_cons.mp h with rfl | h
    · rfl
    · rw [List.mem_singleton.mp h]
      rfl

theorem innerData_withoutEnvelopeStatus (data : Dict) :
    innerData (withoutEnvelopeStatus data) = innerData data := by
  show asDict (Dict.get (withoutEnvelopeStatus data) "data") = _
  rw [get_withoutEnvelopeStatus data (by decide)]
  rfl

/-- Without the envelope's, the query judges by the payload's status. -/
theorem queriedWord_withoutEnvelopeStatus (data : Dict) :
    queriedWord (withoutEnvelopeStatus data) = strip (lower (ownStatus data)) := by
  rw [queriedWord, queriedPlaces, innerData_withoutEnvelopeStatus,
    get_withoutEnvelopeStatus_status data (by decide),
    get_withoutEnvelopeStatus_status data (by decide),
    get_withoutEnvelopeStatus_status data (by decide)]
  rfl

/-- Without the envelope's, the poller judges by the payload's `status` alone. -/
theorem runStatus_withoutEnvelopeStatus (data : Dict) :
    runStatus (withoutEnvelopeStatus data)
      = lower (firstString [(inner data).get "status"]) := by
  have hinner : inner (withoutEnvelopeStatus data) = inner data :=
    innerData_withoutEnvelopeStatus data
  rw [runStatus, hinner, get_withoutEnvelopeStatus_status data (by decide)]
  cases hstatus : (inner data).get "status" with
  | str text => rfl
  | _ => rfl

variable {data : Dict} {statusCode : Nat} {word : String} {flag : Bool} {body : Json}

/-- The stated word is the payload's, where the payload states one. -/
theorem statedWord_own (h : ownStatus data ≠ "") :
    statedWord data = strip (lower (ownStatus data)) := by
  have hsplit : statusPlaces data = ownPlaces data ++
      [data.get "status", data.get "state", data.get "run_status"] := rfl
  rw [statedWord, statedStatus, hsplit, firstString_append]
  show strip (lower (if ownStatus data = "" then _ else ownStatus data)) = _
  rw [if_neg h]

/-- Where the payload states none, all of them judge by the envelope's. -/
theorem statedWord_envelope (h : ownStatus data = "") :
    statedWord data = queriedWord data := by
  have hsplit : statusPlaces data = ownPlaces data ++
      [data.get "status", data.get "state", data.get "run_status"] := rfl
  have hqueried : queriedPlaces data =
      [data.get "status", data.get "state", data.get "run_status"] ++ ownPlaces data := rfl
  have hown : firstString (ownPlaces data) = "" := h
  rw [statedWord, queriedWord, statedStatus, hsplit, hqueried, firstString_append,
    firstString_append, hown, if_pos rfl]
  by_cases hnone : firstString [data.get "status", data.get "state", data.get "run_status"] = ""
  · rw [if_pos hnone, hnone]
  · rw [if_neg hnone]

/-! ## The verdicts, by their words -/

/-- The verdict of the poller on a word and the flag. -/
def polledVerdict (word : String) (flag : Bool) : Verdict :=
  if asyncTerminalStatuses.contains word || flag then
    if failedRunStatuses.contains word then .failed else .succeeded
  else .pending

/-- The verdict of the query on a word. -/
def queriedVerdict (word : String) : Verdict :=
  if word ∈ successWords then .succeeded
  else if word ∈ failureWords then .failed
  else .pending

theorem documentVerdict_eq (data : Dict) :
    documentVerdict data
      = polledVerdict (runStatus data) (isTrue ((inner data).get "is_terminal")) := rfl

/-- The four failures are terminal. -/
theorem terminal_of_failed (h : word ∈ failedRunStatuses) :
    word ∈ asyncTerminalStatuses := by
  have hsub : ∀ w ∈ failedRunStatuses, w ∈ asyncTerminalStatuses := by decide
  exact hsub word h

theorem polledVerdict_failed_iff :
    polledVerdict word flag = .failed ↔ word ∈ failedRunStatuses := by
  rw [polledVerdict]
  by_cases hfailed : word ∈ failedRunStatuses
  · have hterminal := List.contains_iff_mem.mpr (terminal_of_failed hfailed)
    rw [hterminal, Bool.true_or, if_pos rfl, if_pos (List.contains_iff_mem.mpr hfailed)]
    exact ⟨fun _ => hfailed, fun _ => rfl⟩
  · have hnot : ¬ failedRunStatuses.contains word = true :=
      fun h => hfailed (List.contains_iff_mem.mp h)
    rw [if_neg hnot]
    refine ⟨fun h => ?_, fun h => absurd h hfailed⟩
    by_cases hend : (asyncTerminalStatuses.contains word || flag) = true
    · rw [if_pos hend] at h
      exact nomatch h
    · rw [if_neg hend] at h
      exact nomatch h

theorem polledVerdict_over_iff :
    (polledVerdict word flag).isOver ↔ word ∈ asyncTerminalStatuses ∨ flag = true := by
  have hcond : (asyncTerminalStatuses.contains word || flag) = true ↔
      word ∈ asyncTerminalStatuses ∨ flag = true := by
    rw [Bool.or_eq_true, List.contains_iff_mem]
  rw [← hcond, polledVerdict]
  by_cases hend : (asyncTerminalStatuses.contains word || flag) = true
  · rw [if_pos hend]
    refine ⟨fun _ => hend, fun _ => ?_⟩
    by_cases hfailed : failedRunStatuses.contains word = true
    · rw [if_pos hfailed]
      exact .inr rfl
    · rw [if_neg hfailed]
      exact .inl rfl
  · rw [if_neg hend]
    exact ⟨fun h => absurd h (by decide), fun h => absurd h hend⟩

theorem isOver_iff {v : Verdict} (h : v ≠ .failed) : v.isOver ↔ v = .succeeded :=
  ⟨fun hover => hover.resolve_right h, .inl⟩

theorem polledVerdict_succeeded_iff :
    polledVerdict word flag = .succeeded ↔
      word ∉ failedRunStatuses ∧ (word ∈ asyncTerminalStatuses ∨ flag = true) := by
  rw [← polledVerdict_over_iff, ← polledVerdict_failed_iff]
  constructor
  · intro h
    rw [h]
    exact ⟨nofun, .inl rfl⟩
  · rintro ⟨hnot, hover⟩
    exact (isOver_iff hnot).mp hover

/-- An empty word leaves the verdict to the flag. -/
theorem polledVerdict_empty_iff :
    polledVerdict word flag = polledVerdict "" flag ↔
      word ∉ failedRunStatuses ∧ (word ∈ asyncTerminalStatuses → flag = true) := by
  cases flag with
  | true =>
    have hempty : polledVerdict "" true = .succeeded := rfl
    rw [hempty, polledVerdict_succeeded_iff]
    exact ⟨fun h => ⟨h.1, fun _ => rfl⟩, fun h => ⟨h.1, .inr rfl⟩⟩
  | false =>
    have hempty : polledVerdict "" false = .pending := rfl
    rw [hempty]
    constructor
    · intro h
      have hover : ¬ (polledVerdict word false).isOver := by
        rw [h]
        decide
      have hterminal : word ∉ asyncTerminalStatuses :=
        fun hw => hover (polledVerdict_over_iff.mpr (.inl hw))
      exact ⟨fun hf => hterminal (terminal_of_failed hf), fun hw => absurd hw hterminal⟩
    · rintro ⟨-, hterminal⟩
      have hword : ¬ asyncTerminalStatuses.contains word = true :=
        fun h => nomatch hterminal (List.contains_iff_mem.mp h)
      rw [polledVerdict, Bool.or_false, if_neg hword]

/-- No word is both. -/
theorem not_failure_of_success (h : word ∈ successWords) :
    word ∉ failureWords := by
  have hdisjoint : ∀ w ∈ successWords, w ∉ failureWords := by decide
  exact hdisjoint word h

theorem queriedVerdict_succeeded_iff :
    queriedVerdict word = .succeeded ↔ word ∈ successWords := by
  rw [queriedVerdict]
  by_cases hsuccess : word ∈ successWords
  · rw [if_pos hsuccess]
    exact ⟨fun _ => hsuccess, fun _ => rfl⟩
  · rw [if_neg hsuccess]
    refine ⟨fun h => ?_, fun h => absurd h hsuccess⟩
    by_cases hfailure : word ∈ failureWords
    · rw [if_pos hfailure] at h
      exact nomatch h
    · rw [if_neg hfailure] at h
      exact nomatch h

theorem queriedVerdict_failed_iff :
    queriedVerdict word = .failed ↔ word ∈ failureWords := by
  rw [queriedVerdict]
  by_cases hsuccess : word ∈ successWords
  · rw [if_pos hsuccess]
    exact ⟨nofun, fun h => absurd h (not_failure_of_success hsuccess)⟩
  · rw [if_neg hsuccess]
    by_cases hfailure : word ∈ failureWords
    · rw [if_pos hfailure]
      exact ⟨fun _ => hfailure, fun _ => rfl⟩
    · rw [if_neg hfailure]
      exact ⟨nofun, fun h => absurd h hfailure⟩

/-- The query's verdict depends on the kind of the word alone. -/
theorem queriedVerdict_eq_iff {u v : String} :
    queriedVerdict u = queriedVerdict v ↔
      (u ∈ successWords ↔ v ∈ successWords) ∧ (u ∈ failureWords ↔ v ∈ failureWords) := by
  constructor
  · intro h
    rw [← queriedVerdict_succeeded_iff, ← queriedVerdict_failed_iff, h,
      queriedVerdict_succeeded_iff, queriedVerdict_failed_iff]
    exact ⟨Iff.rfl, Iff.rfl⟩
  · rintro ⟨hsuccess, hfailure⟩
    rw [queriedVerdict, queriedVerdict]
    simp only [hsuccess, hfailure]

/-! ## The two observers on one answer -/

/-- What the two calls are made with, beside the answer. -/
structure Call where
  action : String
  text : String
  runId : String
  repoName : String

variable {call : Call}

/-- The poller's verdict on an answer. -/
def polled (call : Call) (statusCode : Nat) (body : Json) : Verdict :=
  pollVerdict ⟨statusCode, call.text, some body⟩ call.action

/-- The query's verdict on it. -/
def fetched (call : Call) (statusCode : Nat) (body : Json) : Verdict :=
  fetchVerdict (fetchRunStatus (.ok ⟨body, statusCode⟩) call.runId call.repoName)

theorem polled_read (hcode : statusCode < 400) (hok : isFalse (data.get "ok") = false) :
    polled call statusCode (.obj data) = documentVerdict data := by
  rw [polled, pollVerdict, checkAnswer_of_gives ⟨hcode, rfl, hok⟩]

theorem polled_refused (h : ¬ (statusCode < 400 ∧ isFalse (data.get "ok") = false)) :
    polled call statusCode (.obj data) = .refused := by
  rw [polled, pollVerdict]
  cases hcheck : checkAnswer ⟨statusCode, call.text, some (.obj data)⟩ call.action with
  | error e => rfl
  | ok found =>
    have hgives := gives_of_checkAnswer hcheck
    have hsame : data = found := by
      have hjson : some (Json.obj data) = some (Json.obj found) := hgives.2.1
      exact Json.obj.inj (Option.some.inj hjson)
    subst hsame
    exact absurd ⟨hgives.1, hgives.2.2⟩ h

theorem polled_noDocument
    (h : ∀ data, body ≠ .obj data) : polled call statusCode body = .refused := by
  rw [polled, pollVerdict]
  cases hcheck : checkAnswer ⟨statusCode, call.text, some body⟩ call.action with
  | error e => rfl
  | ok found => exact absurd (Option.some.inj (gives_of_checkAnswer hcheck).2.1) (h found)

theorem fetchVerdict_failure {r : RunStatusResult} (h : r.success = false) :
    fetchVerdict (.ok r) = .refused := by
  show (if r.success = true then _ else Verdict.refused) = _
  rw [if_neg (by rw [h]; exact Bool.false_ne_true)]

/-- A successful query is judged by the word its status was classified from. -/
theorem fetchVerdict_classified {r : RunStatusResult} {raw : String} (h : r.success = true)
    (hstatus : r.status = classifyStatus raw) :
    fetchVerdict (.ok r) = queriedVerdict (strip (lower raw)) := by
  show (if r.success = true then _ else Verdict.refused) = _
  rw [if_pos h, hstatus, queriedVerdict]
  by_cases hsuccess : classifyStatus raw = .success
  · rw [if_pos hsuccess, if_pos (classifyStatus_success_iff.mp hsuccess)]
  · rw [if_neg hsuccess, if_neg (fun hw => hsuccess (classifyStatus_success_iff.mpr hw))]
    by_cases hterminal : isTerminal (classifyStatus raw) = true
    · rw [if_pos hterminal, if_pos (classifyStatus_failure_iff.mp ⟨hterminal, hsuccess⟩)]
    · rw [if_neg hterminal,
        if_neg (fun hw => hterminal (classifyStatus_failure_iff.mpr hw).1)]

theorem fetched_accepted (h : Accepted statusCode data) :
    fetched call statusCode (.obj data) = queriedVerdict (queriedWord data) := by
  have hresult : fetchRunStatus (.ok ⟨.obj data, statusCode⟩) call.runId call.repoName
      = .ok (resolvedStatus data statusCode call.runId call.repoName) :=
    congrArg Except.ok (classifyStatusData_accepted h call.runId call.repoName)
  rw [fetched, hresult, fetchVerdict_classified rfl (resolvedStatus_status ..), queriedWord]

theorem fetched_refused
    (h : ¬ Accepted statusCode data) : fetched call statusCode (.obj data) = .refused := by
  have hresult : fetchRunStatus (.ok ⟨.obj data, statusCode⟩) call.runId call.repoName
      = .ok (classifyStatusData data statusCode call.runId call.repoName) := rfl
  have hfailure := (classifyStatusData_refused h call.runId call.repoName).success
  rw [fetched, hresult, fetchVerdict_failure hfailure]

theorem fetched_noDocument
    (h : ∀ data, body ≠ .obj data) : fetched call statusCode body = .refused := by
  cases body with
  | obj data => exact absurd rfl (h data)
  | _ => rfl

/-! ## One story -/

/-- The two observers agree on when the run is over and how it ended; what they say is what
    the run's own status says; and the words for a run that came to nothing end it. -/
structure ObserversAgree (call : Call) (statusCode : Nat) (body : Json) : Prop where
  ended : (polled call statusCode body).isOver ↔ (fetched call statusCode body).isOver
  succeeded : polled call statusCode body = .succeeded ↔ fetched call statusCode body = .succeeded
  failed : polled call statusCode body = .failed ↔ fetched call statusCode body = .failed
  own : ∀ data, body = .obj data → ownStatus data ≠ "" →
    polled call statusCode body = polled call statusCode (.obj (withoutEnvelopeStatus data)) ∧
    fetched call statusCode body = fetched call statusCode (.obj (withoutEnvelopeStatus data))
  words : ∀ data, body = .obj data → statedWord data ∈ endingWords →
    (polled call statusCode body).isOver ∧ (fetched call statusCode body).isOver

/-- The poller's word and the query's are words for the same end. -/
inductive WordsMatch (data : Dict) : Prop
  /-- both read a failure -/
  | failure (hpolled : runStatus data ∈ failedRunStatuses)
      (hqueried : queriedWord data ∈ failureWords)
  /-- the query reads a success, and the poller one, or the flag and no failure -/
  | success (hpolled : runStatus data ∉ failedRunStatuses)
      (hend : runStatus data ∈ asyncTerminalStatuses ∨ flagged data)
      (hqueried : queriedWord data ∈ successWords)
  /-- neither reads an end -/
  | pending (hpolled : runStatus data ∉ asyncTerminalStatuses) (hflag : ¬ flagged data)
      (hqueried : queriedWord data ∉ successWords ++ failureWords)

/-- The status of the envelope makes no difference: the word the query reads is of the same
    kind as the payload's, and where the payload has no `status` the poller's word ends
    nothing by itself. -/
structure EnvelopeIdle (data : Dict) : Prop where
  success : queriedWord data ∈ successWords ↔ statedWord data ∈ successWords
  failure : queriedWord data ∈ failureWords ↔ statedWord data ∈ failureWords
  polled : firstString [(inner data).get "status"] = "" → runStatus data ∉ failedRunStatuses ∧
    (runStatus data ∈ asyncTerminalStatuses → flagged data)

/-- The answers about which the observers tell one story. -/
inductive OneStory (statusCode : Nat) (data : Dict) : Prop
  /-- both refuse it -/
  | refused (h : ¬ (statusCode < 400 ∧ isFalse (data.get "ok") = false))
      (hword : statedWord data ∉ endingWords)
  /-- the query refuses it, and the poller finds no end -/
  | payloadRefused (hcode : statusCode < 400) (hok : isFalse (data.get "ok") = false)
      (hpayload : isFalse ((innerData data).get "ok") = true)
      (hpolled : runStatus data ∉ asyncTerminalStatuses) (hflag : ¬ flagged data)
      (hword : statedWord data ∉ endingWords)
  /-- both read it -/
  | accepted (h : Accepted statusCode data) (hmatch : WordsMatch data)
      (hidle : ownStatus data ≠ "" → EnvelopeIdle data) (hword : statedWord data ≠ "timed_out")

theorem accepted_withoutEnvelopeStatus :
    Accepted statusCode (withoutEnvelopeStatus data) ↔ Accepted statusCode data := by
  have hok := get_withoutEnvelopeStatus data (k := "ok") (by decide)
  constructor
  · rintro ⟨hcode, henvelope, hpayload⟩
    rw [hok] at henvelope
    rw [innerData_withoutEnvelopeStatus] at hpayload
    exact ⟨hcode, henvelope, hpayload⟩
  · rintro ⟨hcode, henvelope, hpayload⟩
    refine ⟨hcode, ?_, ?_⟩
    · rw [hok]
      exact henvelope
    · rw [innerData_withoutEnvelopeStatus]
      exact hpayload

/-- The query disregards the envelope's status when its word is of the payload's kind. -/
theorem fetched_own_iff (h : Accepted statusCode data) (hown : ownStatus data ≠ "") :
    fetched call statusCode (.obj data)
        = fetched call statusCode (.obj (withoutEnvelopeStatus data)) ↔
      (queriedWord data ∈ successWords ↔ statedWord data ∈ successWords) ∧
        (queriedWord data ∈ failureWords ↔ statedWord data ∈ failureWords) := by
  rw [fetched_accepted h, fetched_accepted (accepted_withoutEnvelopeStatus.mpr h),
    queriedWord_withoutEnvelopeStatus, ← statedWord_own hown, queriedVerdict_eq_iff]

/-- The poller disregards it when the payload has a `status`, or when it says nothing. -/
theorem documentVerdict_own_iff :
    documentVerdict data = documentVerdict (withoutEnvelopeStatus data) ↔
      (firstString [(inner data).get "status"] = "" → runStatus data ∉ failedRunStatuses ∧
        (runStatus data ∈ asyncTerminalStatuses → flagged data)) := by
  have hinner : inner (withoutEnvelopeStatus data) = inner data :=
    innerData_withoutEnvelopeStatus data
  rw [documentVerdict_eq, documentVerdict_eq, hinner, runStatus_withoutEnvelopeStatus]
  by_cases hstatus : firstString [(inner data).get "status"] = ""
  · rw [hstatus]
    have hlower : lower "" = "" := rfl
    rw [hlower, polledVerdict_empty_iff]
    exact ⟨fun h _ => h, fun h => h rfl⟩
  · have hsame : runStatus data = lower (firstString [(inner data).get "status"]) := by
      have hsplit : firstString [(inner data).get "status", data.get "status"]
          = firstString [(inner data).get "status"] := by
        have happend := firstString_append [(inner data).get "status"] [data.get "status"]
        rw [if_neg hstatus] at happend
        exact happend
      rw [runStatus, hsplit]
    rw [hsame]
    exact ⟨fun _ h => absurd h hstatus, fun _ => rfl⟩

/-- The two verdicts on an accepted answer coincide when the words match. -/
theorem documentVerdict_eq_queried_iff :
    documentVerdict data = queriedVerdict (queriedWord data) ↔ WordsMatch data := by
  have hover : (polledVerdict (runStatus data)
      (isTrue ((inner data).get "is_terminal"))).isOver ↔
      runStatus data ∈ asyncTerminalStatuses ∨ flagged data := polledVerdict_over_iff
  constructor
  · intro h
    cases hq : queriedVerdict (queriedWord data) with
    | refused =>
      rw [queriedVerdict] at hq
      split at hq
      · exact nomatch hq
      · split at hq
        · exact nomatch hq
        · exact nomatch hq
    | failed =>
      exact .failure (polledVerdict_failed_iff.mp (h.trans hq))
        (queriedVerdict_failed_iff.mp hq)
    | succeeded =>
      have hpolled := polledVerdict_succeeded_iff.mp (h.trans hq)
      exact .success hpolled.1 hpolled.2 (queriedVerdict_succeeded_iff.mp hq)
    | pending =>
      have hnot : ¬ (polledVerdict (runStatus data)
          (isTrue ((inner data).get "is_terminal"))).isOver := by
        rw [← documentVerdict_eq, h.trans hq]
        decide
      refine .pending (fun hw => hnot (hover.mpr (.inl hw))) (fun hf => hnot (hover.mpr (.inr hf)))
        (fun hw => ?_)
      rcases List.mem_append.mp hw with hw | hw
      · exact nomatch hq.symm.trans (queriedVerdict_succeeded_iff.mpr hw)
      · exact nomatch hq.symm.trans (queriedVerdict_failed_iff.mpr hw)
  · intro h
    cases h with
    | failure hpolled hqueried =>
      rw [queriedVerdict_failed_iff.mpr hqueried]
      exact polledVerdict_failed_iff.mpr hpolled
    | success hpolled hend hqueried =>
      rw [queriedVerdict_succeeded_iff.mpr hqueried]
      exact polledVerdict_succeeded_iff.mpr ⟨hpolled, hend⟩
    | pending hpolled hflag hqueried =>
      have hword : ¬ asyncTerminalStatuses.contains (runStatus data) = true :=
        fun hc => hpolled (List.contains_iff_mem.mp hc)
      have hsuccess : queriedWord data ∉ successWords :=
        fun hw => hqueried (List.mem_append_left _ hw)
      have hfailure : queriedWord data ∉ failureWords :=
        fun hw => hqueried (List.mem_append_right _ hw)
      have hquiet : ¬ (asyncTerminalStatuses.contains (runStatus data)
          || isTrue ((inner data).get "is_terminal")) = true := by
        rw [Bool.or_eq_true]
        exact fun hc => hc.elim hword hflag
      rw [queriedVerdict, if_neg hsuccess, if_neg hfailure, documentVerdict_eq, polledVerdict,
        if_neg hquiet]

/-- Verdicts on the run that agree on both ends are the same. -/
theorem verdict_eq_of_ends {u v : Verdict} (hu : u ≠ .refused) (hv : v ≠ .refused)
    (hsucceeded : u = .succeeded ↔ v = .succeeded) (hfailed : u = .failed ↔ v = .failed) :
    u = v := by
  cases u with
  | refused => exact absurd rfl hu
  | succeeded => exact (hsucceeded.mp rfl).symm
  | failed => exact (hfailed.mp rfl).symm
  | pending =>
    cases v with
    | refused => exact absurd rfl hv
    | pending => rfl
    | succeeded => exact hsucceeded.mpr rfl
    | failed => exact hfailed.mpr rfl

theorem documentVerdict_ne_refused (data : Dict) : documentVerdict data ≠ .refused := by
  rw [documentVerdict]
  by_cases hfinished : isFinished data = true
  · rw [if_pos hfinished]
    by_cases hfailed : isFailedRun data = true
    · rw [if_pos hfailed]
      exact nofun
    · rw [if_neg hfailed]
      exact nofun
  · rw [if_neg hfinished]
    exact nofun

theorem queriedVerdict_ne_refused (word : String) : queriedVerdict word ≠ .refused := by
  rw [queriedVerdict]
  by_cases hsuccess : word ∈ successWords
  · rw [if_pos hsuccess]
    exact nofun
  · rw [if_neg hsuccess]
    by_cases hfailure : word ∈ failureWords
    · rw [if_pos hfailure]
      exact nofun
    · rw [if_neg hfailure]
      exact nofun

theorem not_isOver_refused : ¬ Verdict.isOver .refused := fun h =>
  h.elim nofun nofun

/-- Two refusals tell one story, unless the document has a word for an end. -/
theorem agree_of_refused (hpolled : ∀ data, body = .obj data →
      polled call statusCode (.obj (withoutEnvelopeStatus data)) = .refused ∧
      fetched call statusCode (.obj (withoutEnvelopeStatus data)) = .refused)
    (hp : polled call statusCode body = .refused) (hf : fetched call statusCode body = .refused)
    (hword : ∀ data, body = .obj data → statedWord data ∉ endingWords) :
    ObserversAgree call statusCode body where
  ended := by rw [hp, hf]
  succeeded := by rw [hp, hf]
  failed := by rw [hp, hf]
  own data hdata _ := by
    obtain ⟨hp', hf'⟩ := hpolled data hdata
    rw [hp, hf, hp', hf']
    exact ⟨rfl, rfl⟩
  words data hdata h := absurd h (hword data hdata)

/-- On an accepted answer, the words decide. -/
theorem agree_accepted_iff (h : Accepted statusCode data) :
    ObserversAgree call statusCode (.obj data) ↔
      WordsMatch data ∧ (ownStatus data ≠ "" → EnvelopeIdle data) ∧
        statedWord data ≠ "timed_out" := by
  have hwithout := accepted_withoutEnvelopeStatus.mpr h
  have hp : polled call statusCode (.obj data) = documentVerdict data :=
    polled_read h.code h.envelope
  have hp' : polled call statusCode (.obj (withoutEnvelopeStatus data))
      = documentVerdict (withoutEnvelopeStatus data) := polled_read hwithout.code hwithout.envelope
  have hf : fetched call statusCode (.obj data) = queriedVerdict (queriedWord data) :=
    fetched_accepted h
  -- the word the query reads is of the kind of the stated one, with or without an envelope's
  have hkind : (ownStatus data ≠ "" → EnvelopeIdle data) →
      (queriedWord data ∈ successWords ↔ statedWord data ∈ successWords) ∧
      (queriedWord data ∈ failureWords ↔ statedWord data ∈ failureWords) := by
    intro hidle
    by_cases hown : ownStatus data = ""
    · rw [statedWord_envelope hown]
      exact ⟨Iff.rfl, Iff.rfl⟩
    · exact ⟨(hidle hown).success, (hidle hown).failure⟩
  constructor
  · intro hagree
    have hidle : ownStatus data ≠ "" → EnvelopeIdle data := by
      intro hown
      obtain ⟨hpolled, hfetched⟩ := hagree.own data rfl hown
      rw [hp, hp'] at hpolled
      obtain ⟨hsuccess, hfailure⟩ := (fetched_own_iff h hown).mp hfetched
      exact ⟨hsuccess, hfailure, documentVerdict_own_iff.mp hpolled⟩
    refine ⟨documentVerdict_eq_queried_iff.mp ?_, hidle, fun htimed => ?_⟩
    · refine verdict_eq_of_ends (documentVerdict_ne_refused data)
        (queriedVerdict_ne_refused _) ?_ ?_
      · rw [← hp, ← hf]
        exact hagree.succeeded
      · rw [← hp, ← hf]
        exact hagree.failed
    · obtain ⟨hsuccess, hfailure⟩ := hkind hidle
      rw [htimed] at hsuccess hfailure
      have hover := (hagree.words data rfl (by rw [htimed]; exact List.mem_cons_self)).2
      rw [hf] at hover
      rcases hover with hs | hs
      · have hw := hsuccess.mp (queriedVerdict_succeeded_iff.mp hs)
        exact absurd hw (by decide)
      · have hw := hfailure.mp (queriedVerdict_failed_iff.mp hs)
        exact absurd hw (by decide)
  · rintro ⟨hmatch, hidle, htimed⟩
    have hsame : polled call statusCode (.obj data) = fetched call statusCode (.obj data) := by
      rw [hp, hf]
      exact documentVerdict_eq_queried_iff.mpr hmatch
    refine ⟨by rw [hsame], by rw [hsame], by rw [hsame], ?_, ?_⟩
    · intro found hfound hown
      obtain rfl := Json.obj.inj hfound
      refine ⟨?_, (fetched_own_iff h hown).mpr ⟨(hidle hown).success, (hidle hown).failure⟩⟩
      rw [hp, hp']
      exact documentVerdict_own_iff.mpr (hidle hown).polled
    · intro found hfound hword
      obtain rfl := Json.obj.inj hfound
      have hfailure : statedWord data ∈ failureWords := by
        have hwords : ∀ w ∈ endingWords, w ≠ "timed_out" → w ∈ failureWords := by decide
        exact hwords _ hword htimed
      have hend : fetched call statusCode (.obj data) = .failed := by
        rw [hf]
        exact queriedVerdict_failed_iff.mpr ((hkind hidle).2.mpr hfailure)
      rw [hsame, hend]
      exact ⟨.inr rfl, .inr rfl⟩

/-- On an answer that the query alone refuses, the poller has to find no end. -/
theorem agree_payloadRefused_iff
    (hcode : statusCode < 400) (hok : isFalse (Dict.get data "ok") = false)
    (hpayload : isFalse ((innerData data).get "ok") = true) :
    ObserversAgree call statusCode (.obj data) ↔
      (runStatus data ∉ asyncTerminalStatuses ∧ ¬ flagged data) ∧
        statedWord data ∉ endingWords := by
  have hnot : ∀ found : Dict, innerData found = innerData data → ¬ Accepted statusCode found := by
    intro found hsame h
    have hpayload' := h.payload
    rw [hsame, hpayload] at hpayload'
    exact nomatch hpayload'
  have hp : polled call statusCode (.obj data) = documentVerdict data := polled_read hcode hok
  have hf : fetched call statusCode (.obj data) = .refused := fetched_refused (hnot data rfl)
  constructor
  · intro h
    have hopen : ¬ (documentVerdict data).isOver := by
      rw [← hp, h.ended, hf]
      exact not_isOver_refused
    refine ⟨⟨fun hw => hopen (polledVerdict_over_iff.mpr (.inl hw)),
      fun hw => hopen (polledVerdict_over_iff.mpr (.inr hw))⟩, fun hw => ?_⟩
    have hover := (h.words data rfl hw).2
    rw [hf] at hover
    exact not_isOver_refused hover
  · rintro ⟨⟨hpolled, hflag⟩, hword⟩
    have hopen : ¬ (documentVerdict data).isOver :=
      fun hover => (polledVerdict_over_iff.mp hover).elim hpolled hflag
    have hfetched : fetched call statusCode (.obj (withoutEnvelopeStatus data)) = .refused :=
      fetched_refused (hnot _ (innerData_withoutEnvelopeStatus data))
    have hpolled' : polled call statusCode (.obj (withoutEnvelopeStatus data))
        = documentVerdict (withoutEnvelopeStatus data) := by
      refine polled_read hcode ?_
      rw [get_withoutEnvelopeStatus data (by decide)]
      exact hok
    refine ⟨?_, ?_, ?_, ?_, ?_⟩
    · rw [hp, hf]
      exact ⟨fun hover => absurd hover hopen, fun hover => absurd hover not_isOver_refused⟩
    · rw [hp, hf]
      exact ⟨fun hs => absurd (.inl hs) hopen, nofun⟩
    · rw [hp, hf]
      exact ⟨fun hs => absurd (.inr hs) hopen, nofun⟩
    · intro found hfound hown
      obtain rfl := Json.obj.inj hfound
      rw [hf, hfetched, hp, hpolled']
      refine ⟨documentVerdict_own_iff.mpr (fun _ => ⟨fun hw => ?_, fun hw => ?_⟩), rfl⟩
      · exact hpolled (terminal_of_failed hw)
      · exact absurd hw hpolled
    · intro found hfound hw
      obtain rfl := Json.obj.inj hfound
      exact absurd hw hword

/-- On an answer that both refuse, the word alone matters. -/
theorem agree_refused_iff (h : ¬ (statusCode < 400 ∧ isFalse (Dict.get data "ok") = false)) :
    ObserversAgree call statusCode (.obj data) ↔ statedWord data ∉ endingWords := by
  have hboth : ∀ found : Dict, Dict.get found "ok" = Dict.get data "ok" →
      polled call statusCode (.obj found) = .refused ∧
        fetched call statusCode (.obj found) = .refused := by
    intro found hok
    have hread : ¬ (statusCode < 400 ∧ isFalse (Dict.get found "ok") = false) := by
      rw [hok]
      exact h
    exact ⟨polled_refused hread, fetched_refused (fun ha => hread ⟨ha.code, ha.envelope⟩)⟩
  obtain ⟨hp, hf⟩ := hboth data rfl
  constructor
  · intro hagree hword
    have hover := (hagree.words data rfl hword).2
    rw [hf] at hover
    exact not_isOver_refused hover
  · intro hword
    refine agree_of_refused (fun found hfound => ?_) hp hf (fun found hfound => ?_)
    · obtain rfl := Json.obj.inj hfound
      exact hboth _ (get_withoutEnvelopeStatus data (by decide))
    · obtain rfl := Json.obj.inj hfound
      exact hword

/-- For which answers the two observers tell one story. -/
theorem observersAgree_iff (call : Call) (statusCode : Nat) (body : Json) :
    ObserversAgree call statusCode body ↔
      ∀ data, body = .obj data → OneStory statusCode data := by
  by_cases hbody : ∃ data, body = .obj data
  · obtain ⟨data, rfl⟩ := hbody
    have hsingle : (∀ found, Json.obj data = .obj found → OneStory statusCode found) ↔
        OneStory statusCode data :=
      ⟨fun h => h data rfl, fun h found hfound => Json.obj.inj hfound ▸ h⟩
    rw [hsingle]
    by_cases hread : statusCode < 400 ∧ isFalse (Dict.get data "ok") = false
    · by_cases hpayload : isFalse ((innerData data).get "ok") = true
      · rw [agree_payloadRefused_iff hread.1 hread.2 hpayload]
        constructor
        · rintro ⟨⟨hpolled, hflag⟩, hword⟩
          exact .payloadRefused hread.1 hread.2 hpayload hpolled hflag hword
        · intro h
          cases h with
          | refused hrefused => exact absurd hread hrefused
          | payloadRefused _ _ _ hpolled hflag hword => exact ⟨⟨hpolled, hflag⟩, hword⟩
          | accepted haccepted => exact absurd (hpayload.symm.trans haccepted.payload) (by decide)
      · have haccepted : Accepted statusCode data :=
          ⟨hread.1, hread.2, Bool.not_eq_true _ ▸ hpayload⟩
        rw [agree_accepted_iff haccepted]
        constructor
        · rintro ⟨hmatch, hidle, hword⟩
          exact .accepted haccepted hmatch hidle hword
        · intro h
          cases h with
          | refused hrefused => exact absurd hread hrefused
          | payloadRefused _ _ hrefused => exact absurd hrefused hpayload
          | accepted _ hmatch hidle hword => exact ⟨hmatch, hidle, hword⟩
    · rw [agree_refused_iff hread]
      constructor
      · exact fun hword => .refused hread hword
      · intro h
        cases h with
        | refused _ hword => exact hword
        | payloadRefused hcode hok => exact absurd ⟨hcode, hok⟩ hread
        | accepted haccepted => exact absurd ⟨haccepted.code, haccepted.envelope⟩ hread
  · have hno : ∀ data, body ≠ .obj data := fun data h => hbody ⟨data, h⟩
    have hagree : ObserversAgree call statusCode body :=
      agree_of_refused (fun data h => absurd h (hno data)) (polled_noDocument hno)
        (fetched_noDocument hno) (fun data h => absurd h (hno data))
    exact ⟨fun _ data h => absurd h (hno data), fun _ => hagree⟩

/-- An envelope that says `ok` about the request, around a run that goes on. -/
def runningRun : Dict :=
  [("ok", .bool true), ("status", .str "ok"),
    ("data", .obj [("run_id", .str "run-1"), ("status", .str "running")])]

/-- The poller asks again about it, and the query calls it a success. -/
theorem runningRun_disagrees :
    ¬ ObserversAgree ⟨"governed run status", "", "run-1", "demo"⟩ 200 (.obj runningRun) := by
  intro h
  have hpolled : polled ⟨"governed run status", "", "run-1", "demo"⟩ 200 (.obj runningRun)
      = .pending := by decide
  have hfetched : fetched ⟨"governed run status", "", "run-1", "demo"⟩ 200 (.obj runningRun)
      = .succeeded := by decide
  have hsucceeded := h.succeeded.mpr hfetched
  rw [hpolled] at hsucceeded
  exact nomatch hsucceeded

end KeyholeObservers
