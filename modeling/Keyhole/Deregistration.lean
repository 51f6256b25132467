import Keyhole.RunDispatch
import Keyhole.WhoamiIdentity

/-!
# Deleting an account

`DeregistrationClient.deregister` posts the run that deletes an account and classifies the
answer.  The payload is taken out of its envelope first, and read before the status code.

* `classifyOutcome`, `deregister`: the source;
* `Sound`: an outcome that reports a deletion as accepted only when it was;
* `deregister_sound_iff`: the answers that are classified so. -/

namespace KeyholeDeregistration

open KeyholeJson
open KeyholeDispatch (Raised classifyStatus)
open KeyholeIdentity (unwrapMcpEnvelope)

/-! ## Requests, outcomes and errors -/

/-- `DeregistrationStatus`. -/
inductive DeregistrationStatus where
  | accepted
  | deferred
  | replayed
  | rejected
  | alreadyDeleted
  | failed
  | transportError
  deriving DecidableEq

/-- `DeregistrationRequest`, the fields that an outcome repeats. -/
structure DeregistrationRequest where
  registrationId : String
  correlationId : String

/-- `DeregistrationOutcome`. -/
structure DeregistrationOutcome where
  status : DeregistrationStatus
  registrationId : String
  runId : Option String := none
  correlationId : String
  reason : Option String := none
  repairGuidance : List String := []
  rawResponse : Dict

/-- `DeregistrationError` and its subclasses. -/
structure DeregistrationError where
  errorClass : String
  message : String
  reason : String
  repairSuggestions : List String

/-- `DeregistrationNetworkError`. -/
def networkError (text : String) : DeregistrationError where
  errorClass := "deregistration_network_error"
  message := text
  reason := "Could not reach the MCP boundary."
  repairSuggestions := ["Check network connectivity.", "Verify the MCP server URL is correct.",
    "Try again in a few moments."]

/-- An exception that leaves the client. -/
inductive Escape where
  /-- one of the module's typed errors -/
  | typed (e : DeregistrationError)
  | other (errorClass : Raised)

/-- What the server answers: the status code, and what `resp.json()` returns or raises. -/
structure Response where
  statusCode : Nat
  body : Except Raised Json

/-! ## Fields of a pydantic model -/

/-- A field that has to be a string or `None`. -/
def optText : Json → Except Escape (Option String)
  | .null => .ok none
  | .str s => .ok (some s)
  | _ => .error (.other "ValidationError")

/-- A field that has to be a list of strings. -/
def textList : Json → Except Escape (List String)
  | .arr items =>
      if items.all isText then .ok (items.map pyStr) else .error (.other "ValidationError")
  | _ => .error (.other "ValidationError")

/-- `v or w`. -/
def orElse (v w : Json) : Json := if truthy v then v else w

/-! ## The client -/

/-- `"identity_not_found" in str(data.get("error") or "").lower()`. -/
def mentionsNotFound (data : Dict) : Bool :=
  contains (lower (strOr (data.get "error"))) "identity_not_found"

/-- `removed is True or lifecycle_state == "removed"`. -/
def statesRemoval (data : Dict) : Bool :=
  isTrue (data.get "removed") || isStr "removed" (data.getOr "lifecycle_state" (.str ""))

/-- The run id of a removal. -/
def removalRunId (data : Dict) : Json := orElse (data.get "run_id") (data.get "correlation_id")

/-- The reason of a rejection. -/
def rejectionReason (data : Dict) : Json :=
  orElse (orElse (data.get "message") (data.get "reason"))
    (.str (pyStr (data.getOr "error" (.str "Request rejected"))))

/-- `_classify_outcome`. -/
def classifyOutcome (statusCode : Nat) (data : Dict) (registrationId correlationId : String) :
    Except Escape DeregistrationOutcome :=
  if mentionsNotFound data then
    return {
      status := .alreadyDeleted
      registrationId, correlationId
      reason := some "The target identity was not found (already removed)."
      repairGuidance := ["Inspect the prior deletion outcome instead of retrying a new delete."]
      rawResponse := data }
  else if statesRemoval data then do
    let runId ← optText (removalRunId data)
    return { status := .accepted, registrationId, runId, correlationId, rawResponse := data }
  else if 400 ≤ statusCode ∧ statusCode < 500 then do
    let reason ← optText (rejectionReason data)
    let repairGuidance ← textList (data.getOr "repair_suggestions" (.arr []))
    return {
      status := .rejected
      registrationId, correlationId, reason, repairGuidance
      rawResponse := data }
  else if 500 ≤ statusCode then
    return {
      status := .failed
      registrationId, correlationId
      reason := some ("Server error (HTTP " ++ toString statusCode ++ ")")
      repairGuidance := ["Retry the deletion request.",
        "If the issue persists, contact support."]
      rawResponse := data }
  else do
    let runId ← optText (data.get "run_id")
    return { status := .accepted, registrationId, runId, correlationId, rawResponse := data }

/-- `unwrap_mcp_envelope(resp.json())` and its classification: only a dictionary has `get`. -/
def classifyBody (statusCode : Nat) (body : Json) (registrationId correlationId : String) :
    Except Escape DeregistrationOutcome :=
  match unwrapMcpEnvelope body with
  | .obj data => classifyOutcome statusCode data registrationId correlationId
  | _ => .error (.other "AttributeError")

/-- `correlation_id or request.correlation_id`. -/
def effectiveId (correlationId : Option String) (request : DeregistrationRequest) : String :=
  if correlationId.getD "" = "" then request.correlationId else correlationId.getD ""

/-- `DeregistrationClient.deregister`; an `.error` of the exchange is a `RequestException`. -/
def deregister (exchange : Except String Response) (request : DeregistrationRequest)
    (correlationId : Option String) : Except Escape DeregistrationOutcome :=
  match exchange with
  | .error text => .error (.typed (networkError text))
  | .ok response =>
      match response.body with
      | .error errorClass => .error (.other errorClass)
      | .ok body =>
          classifyBody response.statusCode body request.registrationId
            (effectiveId correlationId request)

/-! ## What an answer says -/

/-- The payload of an answer. -/
def payload (raw : Dict) : Dict := asDict (unwrapMcpEnvelope (.obj raw))

/-- The errors that an answer gives, in its envelope and in its payload. -/
def givenErrors (raw : Dict) : List Json :=
  [raw.get "error", (payload raw).get "error"].filter truthy

/-- The code of an error: the error itself, or the one it carries. -/
def errorCode : Json → String
  | .str s => lower s
  | .obj e => match Dict.get e "code" with
    | .str s => lower s
    | _ => ""
  | _ => ""

/-- The answer says that there is no such identity. -/
def NotFound (raw : Dict) : Prop := ∃ e ∈ givenErrors raw, errorCode e = "identity_not_found"

/-- The answer states a run that has not failed or been rejected. -/
def StatesRun (data : Dict) : Prop :=
  (∃ runId, data.get "run_id" = .str runId ∧ runId ≠ "") ∧
    classifyStatus (strOr (data.get "status")) ∉ [KeyholeDispatch.RunStatus.failed, .rejected]

/-- A 2xx answer without `ok: false` and without an error. -/
def Accepting (statusCode : Nat) (raw : Dict) : Prop :=
  (200 ≤ statusCode ∧ statusCode < 300) ∧ isFalse (raw.get "ok") = false ∧ givenErrors raw = []

/-- An outcome that says of an answer what it is. -/
structure Sound (r : Response) (result : Except Escape DeregistrationOutcome) : Prop where
  typed : ∀ errorClass, result ≠ .error (.other errorClass)
  accepted : ∀ outcome, result = .ok outcome → outcome.status = .accepted →
    ∃ raw, r.body = .ok (.obj raw) ∧ Accepting r.statusCode raw ∧
      (statesRemoval (payload raw) = true ∨ StatesRun (payload raw))
  rejected : 400 ≤ r.statusCode ∧ r.statusCode < 500 → ∃ outcome, result = .ok outcome ∧
    (outcome.status = .rejected ∨ outcome.status = .alreadyDeleted ∧
      ∃ raw, r.body = .ok (.obj raw) ∧ NotFound raw)
  failed : 500 ≤ r.statusCode ∧ r.statusCode < 600 → ∃ outcome, result = .ok outcome ∧
    (outcome.status = .failed ∨ outcome.status = .alreadyDeleted ∧
      ∃ raw, r.body = .ok (.obj raw) ∧ NotFound raw)
  gone : ∀ raw, r.body = .ok (.obj raw) → NotFound raw →
    ∃ outcome, result = .ok outcome ∧ outcome.status = .alreadyDeleted

/-! ## The answers that are classified soundly -/

/-- A value that `optText` takes. -/
def IsOptText (v : Json) : Prop := v = .null ∨ ∃ s, v = .str s

/-- A value that `textList` takes. -/
def IsTextList (v : Json) : Prop := ∃ items, v = .arr items ∧ items.all isText = true

/-- An answer that is classified soundly: where its payload mentions a missing identity, an
    error has that code or the status is none of 4xx and 5xx; elsewhere no error has it, and
    where the payload states removal, or the status is below 400, the answer is accepting. -/
def ClearAnswer (statusCode : Nat) (raw : Dict) : Prop :=
  (mentionsNotFound (payload raw) = true → 400 ≤ statusCode → statusCode < 600 → NotFound raw) ∧
  (mentionsNotFound (payload raw) = false → ¬ NotFound raw ∧
    (statesRemoval (payload raw) = true →
      Accepting statusCode raw ∧ IsOptText (removalRunId (payload raw))) ∧
    (statesRemoval (payload raw) = false →
      (400 ≤ statusCode ∧ statusCode < 500 → IsOptText (rejectionReason (payload raw)) ∧
        IsTextList ((payload raw).getOr "repair_suggestions" (.arr []))) ∧
      (statusCode < 400 → Accepting statusCode raw ∧ StatesRun (payload raw))))

/-- The body is an object, and the answer it holds is clear. -/
def Clear (r : Response) : Prop :=
  ∃ raw, r.body = .ok (.obj raw) ∧ ClearAnswer r.statusCode raw

/-! ## Outcomes -/

theorem unwrap_obj (raw : Dict) : unwrapMcpEnvelope (.obj raw) = .obj (payload raw) := by
  rw [payload, unwrapMcpEnvelope]
  by_cases henvelope : KeyholeIdentity.isEnvelope raw = true
  · rw [if_pos henvelope]
    rw [KeyholeIdentity.isEnvelope, Bool.and_eq_true] at henvelope
    cases hdata : raw.get "data" with
    | obj data => rfl
    | _ =>
      rw [hdata] at henvelope
      exact nomatch henvelope.2
  · rw [if_neg henvelope]
    rfl

theorem not_sound_other (r : Response) (errorClass : Raised) :
    ¬ Sound r (.error (.other errorClass)) :=
  fun h => h.typed errorClass rfl

theorem body_injective {raw raw' : Dict}
    (h : (Except.ok (.obj raw) : Except Raised Json) = .ok (.obj raw')) : raw' = raw := by
  injection h with hobj
  injection hobj with hraw
  exact hraw.symm

/-- What has to hold of an outcome, where the body is an object. -/
theorem sound_ok_iff {r : Response} {raw : Dict} (hbody : r.body = .ok (.obj raw))
    (outcome : DeregistrationOutcome) : Sound r (.ok outcome) ↔
      (outcome.status = .accepted → Accepting r.statusCode raw ∧
        (statesRemoval (payload raw) = true ∨ StatesRun (payload raw))) ∧
      (400 ≤ r.statusCode ∧ r.statusCode < 500 →
        outcome.status = .rejected ∨ outcome.status = .alreadyDeleted ∧ NotFound raw) ∧
      (500 ≤ r.statusCode ∧ r.statusCode < 600 →
        outcome.status = .failed ∨ outcome.status = .alreadyDeleted ∧ NotFound raw) ∧
      (NotFound raw → outcome.status = .alreadyDeleted) := by
  have hraw : ∀ {raw' : Dict}, r.body = .ok (.obj raw') → raw' = raw :=
    fun hbody' => body_injective (hbody.symm.trans hbody')
  have hgone : ∀ status, ((∃ o, (Except.ok outcome : Except Escape _) = .ok o ∧
      (o.status = status ∨ o.status = .alreadyDeleted ∧
        ∃ raw, r.body = .ok (.obj raw) ∧ NotFound raw)) ↔
      (outcome.status = status ∨ outcome.status = .alreadyDeleted ∧ NotFound raw)) := by
    intro status
    constructor
    · rintro ⟨o, ⟨⟩, hstatus | ⟨hstatus, raw', hbody', hfound⟩⟩
      · exact .inl hstatus
      · rw [hraw hbody'] at hfound
        exact .inr ⟨hstatus, hfound⟩
    · rintro (hstatus | ⟨hstatus, hfound⟩)
      · exact ⟨outcome, rfl, .inl hstatus⟩
      · exact ⟨outcome, rfl, .inr ⟨hstatus, raw, hbody, hfound⟩⟩
  constructor
  · intro h
    refine ⟨fun hstatus => ?_, fun hcode => (hgone _).mp (h.rejected hcode),
      fun hcode => (hgone _).mp (h.failed hcode), fun hfound => ?_⟩
    · obtain ⟨raw', hbody', hanswer⟩ := h.accepted outcome rfl hstatus
      rw [hraw hbody'] at hanswer
      exact hanswer
    · obtain ⟨o, ⟨⟩, hstatus⟩ := h.gone raw hbody hfound
      exact hstatus
  · rintro ⟨haccepted, hrejected, hfailed, hfound⟩
    exact {
      typed := nofun
      accepted := by
        rintro _ ⟨⟩ hstatus
        exact ⟨raw, hbody, haccepted hstatus⟩
      rejected := fun hcode => (hgone _).mpr (hrejected hcode)
      failed := fun hcode => (hgone _).mpr (hfailed hcode)
      gone := by
        intro raw' hbody' hfound'
        rw [hraw hbody'] at hfound'
        exact ⟨outcome, rfl, hfound hfound'⟩ }

theorem optText_cases (v : Json) : (IsOptText v ∧ ∃ t, optText v = .ok t) ∨
    (¬ IsOptText v ∧ optText v = .error (.other "ValidationError")) := by
  cases v with
  | null => exact .inl ⟨.inl rfl, none, rfl⟩
  | str s => exact .inl ⟨.inr ⟨s, rfl⟩, some s, rfl⟩
  | _ =>
    refine .inr ⟨?_, rfl⟩
    rintro (hnull | ⟨s, hs⟩)
    · exact nomatch hnull
    · exact nomatch hs

theorem textList_cases (v : Json) : (IsTextList v ∧ ∃ ts, textList v = .ok ts) ∨
    (¬ IsTextList v ∧ textList v = .error (.other "ValidationError")) := by
  cases v with
  | arr items =>
    by_cases htexts : items.all isText = true
    · refine .inl ⟨⟨items, rfl, htexts⟩, items.map pyStr, ?_⟩
      rw [textList, if_pos htexts]
    · refine .inr ⟨?_, ?_⟩
      · rintro ⟨_, ⟨⟩, hall⟩
        exact htexts hall
      · rw [textList, if_neg htexts]
  | _ =>
    refine .inr ⟨?_, rfl⟩
    rintro ⟨items, hitems, -⟩
    exact nomatch hitems

/-- An accepting answer gives no error, and so not that the identity is missing. -/
theorem not_notFound {statusCode : Nat} {raw : Dict} (h : Accepting statusCode raw) :
    ¬ NotFound raw := by
  rintro ⟨e, he, -⟩
  rw [h.2.2] at he
  exact absurd he List.not_mem_nil

/-! ## The classification -/

section Classify

variable {r : Response} {raw : Dict} (hbody : r.body = .ok (.obj raw))
  (registrationId correlationId : String)

include hbody

theorem sound_missing (hmissing : mentionsNotFound (payload raw) = true) :
    Sound r (classifyOutcome r.statusCode (payload raw) registrationId correlationId) ↔
      (400 ≤ r.statusCode → r.statusCode < 600 → NotFound raw) := by
  rw [classifyOutcome, if_pos hmissing]
  refine (sound_ok_iff hbody _).trans ?_
  constructor
  · rintro ⟨-, hrejected, hfailed, -⟩ hlow hhigh
    by_cases hclient : r.statusCode < 500
    · rcases hrejected ⟨hlow, hclient⟩ with hstatus | ⟨-, hfound⟩
      · exact nomatch hstatus
      · exact hfound
    · rcases hfailed ⟨Nat.le_of_not_lt hclient, hhigh⟩ with hstatus | ⟨-, hfound⟩
      · exact nomatch hstatus
      · exact hfound
  · intro hfound
    refine ⟨nofun, ?_, ?_, fun _ => rfl⟩
    · rintro ⟨hlow, hhigh⟩
      exact .inr ⟨rfl, hfound hlow (by omega)⟩
    · rintro ⟨hlow, hhigh⟩
      exact .inr ⟨rfl, hfound (by omega) hhigh⟩

/-- An accepted outcome is sound for an accepting answer that states removal or a run. -/
theorem sound_accepted {outcome : DeregistrationOutcome} (hstatus : outcome.status = .accepted) :
    Sound r (.ok outcome) ↔ Accepting r.statusCode raw ∧
      (statesRemoval (payload raw) = true ∨ StatesRun (payload raw)) := by
  rw [sound_ok_iff hbody, hstatus]
  constructor
  · rintro ⟨haccepted, -⟩
    exact haccepted rfl
  · intro haccepting
    have hcode := haccepting.1.1
    refine ⟨fun _ => haccepting, ?_, ?_, fun hfound => absurd hfound (not_notFound haccepting.1)⟩
    · rintro ⟨hlow, -⟩
      omega
    · rintro ⟨hlow, -⟩
      omega

theorem sound_removed (hmissing : mentionsNotFound (payload raw) = false)
    (hremoved : statesRemoval (payload raw) = true) :
    Sound r (classifyOutcome r.statusCode (payload raw) registrationId correlationId) ↔
      Accepting r.statusCode raw ∧ IsOptText (removalRunId (payload raw)) := by
  rw [classifyOutcome, if_neg (Bool.eq_false_iff.mp hmissing), if_pos hremoved]
  rcases optText_cases (removalRunId (payload raw)) with ⟨hid, t, ht⟩ | ⟨hid, herror⟩
  · rw [ht]
    refine (sound_accepted hbody rfl).trans ?_
    exact ⟨fun h => ⟨h.1, hid⟩, fun h => ⟨h.1, .inl hremoved⟩⟩
  · rw [herror]
    exact ⟨fun h => absurd h (not_sound_other r _), fun h => absurd h.2 hid⟩

theorem sound_rejected (hmissing : mentionsNotFound (payload raw) = false)
    (hremoved : statesRemoval (payload raw) = false)
    (hcode : 400 ≤ r.statusCode ∧ r.statusCode < 500) :
    Sound r (classifyOutcome r.statusCode (payload raw) registrationId correlationId) ↔
      ¬ NotFound raw ∧ IsOptText (rejectionReason (payload raw)) ∧
        IsTextList ((payload raw).getOr "repair_suggestions" (.arr [])) := by
  rw [classifyOutcome, if_neg (Bool.eq_false_iff.mp hmissing),
    if_neg (Bool.eq_false_iff.mp hremoved), if_pos hcode]
  rcases optText_cases (rejectionReason (payload raw)) with ⟨hreason, t, ht⟩ | ⟨hreason, herror⟩
  · rcases textList_cases ((payload raw).getOr "repair_suggestions" (.arr [])) with
      ⟨hlist, ts, hts⟩ | ⟨hlist, herror⟩
    · rw [ht, hts]
      refine (sound_ok_iff hbody _).trans ?_
      constructor
      · rintro ⟨-, -, -, hfound⟩
        exact ⟨fun h => (nomatch hfound h), hreason, hlist⟩
      · rintro ⟨hnot, -⟩
        refine ⟨nofun, fun _ => .inl rfl, ?_, fun hfound => absurd hfound hnot⟩
        rintro ⟨hlow, -⟩
        omega
    · rw [ht, herror]
      exact ⟨fun h => absurd h (not_sound_other r _), fun h => absurd h.2.2 hlist⟩
  · rw [herror]
    exact ⟨fun h => absurd h (not_sound_other r _), fun h => absurd h.2.1 hreason⟩

theorem sound_failed (hmissing : mentionsNotFound (payload raw) = false)
    (hremoved : statesRemoval (payload raw) = false) (hcode : 500 ≤ r.statusCode) :
    Sound r (classifyOutcome r.statusCode (payload raw) registrationId correlationId) ↔
      ¬ NotFound raw := by
  have hserver : ¬ (400 ≤ r.statusCode ∧ r.statusCode < 500) := by omega
  rw [classifyOutcome, if_neg (Bool.eq_false_iff.mp hmissing),
    if_neg (Bool.eq_false_iff.mp hremoved), if_neg hserver, if_pos hcode]
  refine (sound_ok_iff hbody _).trans ?_
  constructor
  · rintro ⟨-, -, -, hfound⟩ h
    exact nomatch hfound h
  · intro hnot
    exact ⟨nofun, fun h => absurd h hserver, fun _ => .inl rfl,
      fun hfound => absurd hfound hnot⟩

/-- The last case, in which any answer below 400 is an acceptance. -/
theorem sound_otherwise (hmissing : mentionsNotFound (payload raw) = false)
    (hremoved : statesRemoval (payload raw) = false) (hcode : r.statusCode < 400) :
    Sound r (classifyOutcome r.statusCode (payload raw) registrationId correlationId) ↔
      Accepting r.statusCode raw ∧ StatesRun (payload raw) := by
  have hclient : ¬ (400 ≤ r.statusCode ∧ r.statusCode < 500) := by omega
  have hserver : ¬ 500 ≤ r.statusCode := by omega
  rw [classifyOutcome, if_neg (Bool.eq_false_iff.mp hmissing),
    if_neg (Bool.eq_false_iff.mp hremoved), if_neg hclient, if_neg hserver]
  rcases optText_cases ((payload raw).get "run_id") with ⟨hid, t, ht⟩ | ⟨hid, herror⟩
  · rw [ht]
    refine (sound_accepted hbody rfl).trans ?_
    rw [hremoved]
    constructor
    · rintro ⟨haccepting, hfalse | hrun⟩
      · exact nomatch hfalse
      · exact ⟨haccepting, hrun⟩
    · rintro ⟨haccepting, hrun⟩
      exact ⟨haccepting, .inr hrun⟩
  · rw [herror]
    refine ⟨fun h => absurd h (not_sound_other r _), fun h => absurd ?_ hid⟩
    obtain ⟨-, ⟨runId, hget, -⟩, -⟩ := h
    exact .inr ⟨runId, hget⟩

theorem classifyOutcome_sound_iff :
    Sound r (classifyOutcome r.statusCode (payload raw) registrationId correlationId) ↔
      ClearAnswer r.statusCode raw := by
  rw [ClearAnswer]
  cases hmissing : mentionsNotFound (payload raw) with
  | true =>
    rw [sound_missing hbody _ _ hmissing]
    exact ⟨fun h => ⟨fun _ => h, nofun⟩, fun h => h.1 rfl⟩
  | false =>
    refine Iff.trans ?_ ⟨fun h => ⟨nofun, fun _ => h⟩, fun h => h.2 rfl⟩
    cases hremoved : statesRemoval (payload raw) with
    | true =>
      rw [sound_removed hbody _ _ hmissing hremoved]
      exact ⟨fun h => ⟨not_notFound h.1, fun _ => h, nofun⟩, fun h => h.2.1 rfl⟩
    | false =>
      refine Iff.trans (b := ¬ NotFound raw ∧ (_ ∧ _)) ?_
        ⟨fun h => ⟨h.1, nofun, fun _ => h.2⟩, fun h => ⟨h.1, h.2.2 rfl⟩⟩
      by_cases hclient : 400 ≤ r.statusCode ∧ r.statusCode < 500
      · rw [sound_rejected hbody _ _ hmissing hremoved hclient]
        have hhigh : ¬ r.statusCode < 400 := Nat.not_lt_of_le hclient.1
        exact ⟨fun h => ⟨h.1, fun _ => h.2, fun hlow => absurd hlow hhigh⟩,
          fun h => ⟨h.1, h.2.1 hclient⟩⟩
      · by_cases hserver : 500 ≤ r.statusCode
        · rw [sound_failed hbody _ _ hmissing hremoved hserver]
          have hhigh : ¬ r.statusCode < 400 := by omega
          exact ⟨fun h => ⟨h, fun hc => absurd hc hclient, fun hlow => absurd hlow hhigh⟩,
            fun h => h.1⟩
        · have hlow : r.statusCode < 400 := by omega
          rw [sound_otherwise hbody _ _ hmissing hremoved hlow]
          exact ⟨fun h => ⟨not_notFound h.1, fun hc => absurd hc hclient, fun _ => h⟩,
            fun h => h.2.2 hlow⟩

end Classify

/-- A deletion is reported for what the server made of it exactly where the answer is clear. -/
theorem deregister_sound_iff (r : Response) (request : DeregistrationRequest)
    (correlationId : Option String) :
    Sound r (deregister (.ok r) request correlationId) ↔ Clear r := by
  obtain ⟨statusCode, body⟩ := r
  cases body with
  | error errorClass =>
      constructor
      · intro h
        exact absurd h (not_sound_other _ errorClass)
      · rintro ⟨raw, hobj, -⟩
        exact nomatch hobj
  | ok body =>
      cases body with
      | obj raw =>
          have hcall : deregister (.ok ⟨statusCode, .ok (.obj raw)⟩) request correlationId =
              classifyOutcome statusCode (payload raw) request.registrationId
                (effectiveId correlationId request) := by
            show classifyBody _ _ _ _ = _
            rw [classifyBody, unwrap_obj]
          rw [hcall, classifyOutcome_sound_iff (r := ⟨statusCode, .ok (.obj raw)⟩) rfl]
          constructor
          · intro h
            exact ⟨raw, rfl, h⟩
          · rintro ⟨raw', hobj, h⟩
            rw [body_injective hobj] at h
            exact h
      | _ =>
          constructor
          · intro h
            exact absurd h (not_sound_other _ "AttributeError")
          · rintro ⟨raw, hobj, -⟩
            exact nomatch hobj

/-- A refusal of the server. -/
def refusal : Response where
  statusCode := 200
  body := .ok (.obj [("ok", .bool false), ("data", .obj []),
    ("error", .obj [("code", .str "POLICY_BLOCKED")])])

/-- The refusal is reported as an accepted deletion. -/
theorem refusal_accepted :
    (∃ outcome, deregister (.ok refusal) ⟨"user-abc", "corr-1"⟩ none = .ok outcome ∧
      outcome.status = .accepted) ∧
    ¬ Sound refusal (deregister (.ok refusal) ⟨"user-abc", "corr-1"⟩ none) := by
  have hmissing : mentionsNotFound [] = false := by
    simp [mentionsNotFound, strOr, truthy, contains, lower, occursIn]
  have haccepted : ∃ outcome, deregister (.ok refusal) ⟨"user-abc", "corr-1"⟩ none =
      .ok outcome ∧ outcome.status = .accepted := by
    simp [deregister, classifyBody, refusal, unwrapMcpEnvelope, KeyholeIdentity.isEnvelope, Dict.has,
      classifyOutcome, hmissing, statesRemoval, KeyholeJson.isTrue, isStr, optText, pure, Except.pure, bind,
      Except.bind]
  refine ⟨haccepted, fun hsound => ?_⟩
  obtain ⟨outcome, hreturn, hstatus⟩ := haccepted
  obtain ⟨raw, hbody, haccepting, -⟩ := hsound.accepted outcome hreturn hstatus
  have hok := haccepting.2.1
  rw [body_injective hbody, get_cons, if_pos rfl] at hok
  cases hok

end KeyholeDeregistration
