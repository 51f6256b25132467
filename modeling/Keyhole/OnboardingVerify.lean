import Keyhole.RunDispatch
import Keyhole.WhoamiIdentity
import Keyhole.ExceptLoops

/-!
# Completing a verification

`OnboardingClient.verify` posts a verification.  An error that says the identity is already
verified counts as done, and a response without the identity's fields makes the client ask for
its status.  Whether an answer was such an error is told from the keys it lacks.

* `checkError`: the typed errors, and the errors that are none;
* `verify`: the client, with the second request and the response it falls back on;
* `neverInvents_iff`: the answers on which it reports no active identity of its own. -/

namespace KeyholeOnboarding

open KeyholeJson KeyholeDispatch
open ExceptLoops (bind_ok)
open KeyholeIdentity (payloadOf)

/-! ## Errors -/

/-- The classes of the module's errors. -/
inductive OnboardingErrorClass where
  | onboardingError
  | networkError
  | registrationRejected
  | duplicateRegistration
  | verificationFailed
  | verificationExpired
  deriving DecidableEq

/-- A typed error: its reason and its suggestions are the server's where it gives any. -/
structure OnboardingError where
  errorClass : OnboardingErrorClass
  message : String
  reason : Json
  repairSuggestions : Json

/-- An exception that leaves the client: a typed error, or another. -/
inductive Escape where
  | typed (error : OnboardingError)
  | untyped (raised : Raised)

/-- A list of texts. -/
def texts (items : List String) : Json := .arr (items.map .str)

/-- `OnboardingError(..)`. -/
def onboardingError (message : String) (reason repairSuggestions : Json) : OnboardingError where
  errorClass := .onboardingError
  message := message
  reason := orElse reason (.str message)
  repairSuggestions := orElse repairSuggestions (.arr [])

/-- `OnboardingNetworkError(..)`. -/
def onboardingNetworkError (message : String) : OnboardingError where
  errorClass := .networkError
  message := message
  reason := .str "Could not reach the onboarding endpoint."
  repairSuggestions := texts ["Check network connectivity.",
    "Verify the MCP server URL is correct.", "Try again in a few moments."]

/-- `RegistrationRejectedError(..)`. -/
def registrationRejectedError (message : String) (reason repairSuggestions : Json) :
    OnboardingError where
  errorClass := .registrationRejected
  message := message
  reason := orElse reason (.str "The registration request was rejected.")
  repairSuggestions := orElse repairSuggestions (texts
    ["Check registration fields for correctness.", "Verify the target realm is correct.",
      "Try: keyhole register --help"])

/-- `DuplicateRegistrationError(..)`. -/
def duplicateRegistrationError (message : String) : OnboardingError where
  errorClass := .duplicateRegistration
  message := message
  reason := .str "An identity with this username or email already exists."
  repairSuggestions := texts ["Use a different username or email.",
    "If this is your account, proceed to: keyhole login",
    "Check registration status: keyhole registration-status --registration-id <id>"]

/-- `VerificationFailedError(..)`. -/
def verificationFailedError (message : String) (reason : Json) : OnboardingError where
  errorClass := .verificationFailed
  message := message
  reason := orElse reason (.str "The verification code or token was rejected.")
  repairSuggestions := texts ["Check the verification code for typos.",
    "Request a new verification: keyhole resend-verification --registration-id <id>",
    "Complete verification promptly — codes expire."]

/-- `VerificationExpiredError(..)`. -/
def verificationExpiredError (message : String) : OnboardingError where
  errorClass := .verificationExpired
  message := message
  reason := .str "Verification token expired before completion."
  repairSuggestions := texts
    ["Request a new verification: keyhole resend-verification --registration-id <id>",
      "Complete verification promptly after receiving the new code."]

/-! ## Answers -/

/-- What a request comes to: a `RequestException`, a body that is no JSON, or an answer. -/
inductive Response where
  | unreachable (text : String)
  | notJson
  | answered (statusCode : Nat) (body : Json)

/-- `error_envelope`. -/
def errorEnvelope (data : Dict) : Dict := data.child "error"

/-- `error_class`. -/
def errorClassOf (data : Dict) : Json :=
  orElse (data.get "error_class") (orElse ((errorEnvelope data).get "code") (.str ""))

/-- `message`. -/
def messageOf (data : Dict) : String :=
  pyStr (orElse (data.get "message") (orElse ((errorEnvelope data).get "message")
    (orElse (data.get "error") (.str "Request failed"))))

/-- `message or default`. -/
def messageOr (data : Dict) (default : String) : String :=
  if messageOf data = "" then default else messageOf data

/-- Does the message say that the identity is already verified? -/
def messageSaysVerified (data : Dict) : Bool := contains (lower (messageOf data)) "already verified"

/-- The two words the third test looks for. -/
def mentionsVerification (data : Dict) : Bool := contains (lower (messageOf data)) "verification"

def mentionsAlready (data : Dict) : Bool := contains (lower (messageOf data)) "already"

/-- `_check_error` at the codes it has no error of its own for. -/
def checkOtherError (data : Dict) : Except Escape Unit :=
  if messageSaysVerified data then .ok ()
  else
    match lowered (errorClassOf data) with
    | .error raised => .error (.untyped raised)
    | .ok errorClass =>
        if contains errorClass "already_verified"
            || (mentionsVerification data && mentionsAlready data) then .ok ()
        else if contains errorClass "verification" || mentionsVerification data then
          .error (.typed (verificationFailedError (messageOf data)
            (orElse (data.get "reason") ((errorEnvelope data).get "repair"))))
        else .error (.typed (onboardingError (messageOf data) (data.get "reason")
          (data.get "repair_suggestions")))

/-- `_check_error`, on a dictionary. -/
def checkError (statusCode : Nat) (data : Dict) : Except Escape Unit :=
  if statusCode = 409 then
    .error (.typed (duplicateRegistrationError (messageOr data "Identity already registered")))
  else if statusCode = 422 then
    .error (.typed (registrationRejectedError (messageOr data "Registration rejected")
      (orElse (data.get "reason") ((errorEnvelope data).get "detail"))
      (data.get "repair_suggestions")))
  else if statusCode = 410 then
    .error (.typed (verificationExpiredError (messageOr data "Verification expired")))
  else if 400 ≤ statusCode then checkOtherError data
  else .ok ()

/-- A request: the envelope is unwrapped and the error checked. -/
def received : Response → Except Escape Dict
  | .unreachable text => .error (.typed (onboardingNetworkError text))
  | .notJson => .error (.untyped "JSONDecodeError")
  | .answered statusCode (.obj body) =>
      match checkError statusCode (payloadOf (.obj body)) with
      | .ok () => .ok (payloadOf (.obj body))
      | .error escape => .error escape
  | .answered _ _ => .error (.untyped "AttributeError")

/-! ## The models -/

/-- `OnboardingState`. -/
inductive OnboardingState where
  | pendingVerification
  | registeredPendingVerification
  | verified
  | verifiedActive
  | activationReady
  | active
  | failed
  | blocked
  | rateLimited
  deriving DecidableEq

/-- The values of the states. -/
def stateValues : List (String × OnboardingState) :=
  [("pending_verification", .pendingVerification),
    ("registered_pending_verification", .registeredPendingVerification), ("verified", .verified),
    ("verified_active", .verifiedActive), ("activation_ready", .activationReady),
    ("active", .active), ("failed", .failed), ("blocked", .blocked),
    ("rate_limited", .rateLimited)]

/-- The value of a state. -/
def OnboardingState.value : OnboardingState → String
  | .pendingVerification => "pending_verification"
  | .registeredPendingVerification => "registered_pending_verification"
  | .verified => "verified"
  | .verifiedActive => "verified_active"
  | .activationReady => "activation_ready"
  | .active => "active"
  | .failed => "failed"
  | .blocked => "blocked"
  | .rateLimited => "rate_limited"

/-- A required field of type `str`. -/
def requiredText (d : Dict) (key : String) : Except Raised String :=
  match d.get key with
  | .str s => .ok s
  | _ => .error "ValidationError"

/-- A field of type `Optional[str]`. -/
def optionalText (d : Dict) (key : String) : Except Raised (Option String) :=
  match d.get key with
  | .null => .ok none
  | .str s => .ok (some s)
  | _ => .error "ValidationError"

/-- A field of type `OnboardingState`. -/
def stateField (d : Dict) (key : String) : Except Raised OnboardingState :=
  match d.get key with
  | .str s =>
      match stateValues.lookup s with
      | some state => .ok state
      | none => .error "ValidationError"
  | _ => .error "ValidationError"

/-- `v[new] = v[old]`, where only the old key is there. -/
def renamed (d : Dict) (old new : String) : Dict :=
  if d.has old && !d.has new then d.set new (d.get old) else d

/-- `_normalize_server_fields`. -/
def normalizeServerFields (d : Dict) : Dict :=
  renamed (renamed d "user_id" "registration_id") "lifecycle_state" "state"

/-- `VerificationResponse`. -/
structure VerificationResponse where
  registrationId : String
  state : OnboardingState
  userId : Option String
  username : Option String
  realm : Option String
  message : Option String
  nextStep : Option String

/-- `VerificationResponse.model_validate`. -/
def validateVerification (data : Dict) : Except Raised VerificationResponse := do
  let v := normalizeServerFields data
  return {
    registrationId := ← requiredText v "registration_id"
    state := ← stateField v "state"
    userId := ← optionalText v "user_id"
    username := ← optionalText v "username"
    realm := ← optionalText v "realm"
    message := ← optionalText v "message"
    nextStep := ← optionalText v "next_step" }

/-- `RegistrationStatusResponse`. -/
structure RegistrationStatusResponse where
  registrationId : String
  state : OnboardingState
  realm : Option String
  origin : Option String
  purpose : Option String
  username : Option String
  email : Option String
  userId : Option String
  nextStep : Option String
  message : Option String

/-- `RegistrationStatusResponse.model_validate`. -/
def validateStatus (data : Dict) : Except Raised RegistrationStatusResponse := do
  let v := renamed (normalizeServerFields data) "next_step_hint" "next_step"
  return {
    registrationId := ← requiredText v "registration_id"
    state := ← stateField v "state"
    realm := ← optionalText v "realm"
    origin := ← optionalText v "origin"
    purpose := ← optionalText v "purpose"
    username := ← optionalText v "username"
    email := ← optionalText v "email"
    userId := ← optionalText v "user_id"
    nextStep := ← optionalText v "next_step"
    message := ← optionalText v "message" }

/-! ## The client -/

/-- An exception of the validation. -/
def untyped {α : Type} : Except Raised α → Except Escape α
  | .ok a => .ok a
  | .error raised => .error (.untyped raised)

/-- `get_status`. -/
def getStatus (answer : Response) : Except Escape RegistrationStatusResponse :=
  match received answer with
  | .ok data => untyped (validateStatus data)
  | .error escape => .error escape

/-- The message of a response made by the client. -/
def alreadyVerifiedMessage : Json := .str "Already verified. Proceed to authentication."

/-- A field that may be missing. -/
def optional : Option String → Json
  | some s => .str s
  | none => .null

/-- The response made of a status. -/
def statusFields (status : RegistrationStatusResponse) : Dict :=
  [("registration_id", .str status.registrationId), ("state", .str status.state.value),
    ("user_id", optional status.userId), ("username", optional status.username),
    ("realm", optional status.realm), ("message", alreadyVerifiedMessage)]

/-- The response made without one. -/
def fallbackFields (registrationId : String) : Dict :=
  [("registration_id", .str registrationId), ("state", .str "verified_active"),
    ("message", alreadyVerifiedMessage)]

/-- The answer has none of the keys an identity is told by. -/
def lacksIdentity (data : Dict) : Bool :=
  !data.has "lifecycle_state" && !data.has "user_id" && !data.has "registration_id"

/-- The `try` of `verify`. -/
def fromStatus (statusAnswer : Response) : Except Escape VerificationResponse :=
  match getStatus statusAnswer with
  | .ok status => untyped (validateVerification (statusFields status))
  | .error escape => .error escape

/-- `verify`. -/
def verify (registrationId : String) (verifyAnswer statusAnswer : Response) :
    Except Escape VerificationResponse :=
  match received verifyAnswer with
  | .error escape => .error escape
  | .ok data =>
      if lacksIdentity data then
        match fromStatus statusAnswer with
        | .ok response => .ok response
        | .error _ => untyped (validateVerification (fallbackFields registrationId))
      else untyped (validateVerification data)

/-! ## What the answers say -/

/-- The payload carries the active state. -/
def carriesActive (data : Dict) : Bool :=
  isStr "verified_active" (data.get "state") || isStr "verified_active" (data.get "lifecycle_state")

/-- The error states, in its message or its code, that the identity is already verified. -/
def StatesVerified (data : Dict) : Prop :=
  messageSaysVerified data = true ∨
    ∃ errorClass, errorClassOf data = .str errorClass ∧
      contains (lower errorClass) "already_verified" = true

/-- The answer says that the identity is active: it carries that state, or is an error that
    states it. -/
def Says : Response → Prop
  | .answered statusCode (.obj body) =>
      carriesActive (payloadOf (.obj body)) = true ∨
        (400 ≤ statusCode ∧ StatesVerified (payloadOf (.obj body)))
  | _ => False

/-- The client never invents an active identity: it reports one only where an answer says so, and
    every other error answer raises a typed error. -/
structure NeverInvents (statusCode : Nat) (body : Dict) (statusAnswer : Response) : Prop where
  active : ∀ registrationId response,
    verify registrationId (.answered statusCode (.obj body)) statusAnswer = .ok response →
    response.state = .verifiedActive →
      Says (.answered statusCode (.obj body)) ∨
        (lacksIdentity (payloadOf (.obj body)) = true ∧ Says statusAnswer)
  typed : 400 ≤ statusCode → ¬ Says (.answered statusCode (.obj body)) → ∀ registrationId,
    ∃ error, verify registrationId (.answered statusCode (.obj body)) statusAnswer
      = .error (.typed error)

/-! ## What the models keep of an answer -/

variable {data d : Dict} {verifyAnswer : Response} {key registrationId : String}
variable {state : OnboardingState} {status : RegistrationStatusResponse} {statusCode : Nat}

theorem get_renamed {old new : String} (h : key ≠ new) :
    (renamed d old new).get key = d.get key := by
  unfold renamed
  by_cases hrename : (d.has old && !d.has new) = true
  · rw [if_pos hrename, get_set, if_neg h]
  · rw [if_neg hrename]

/-- A renamed key is the old one or the new one. -/
theorem get_renamed_self (d : Dict) (old new : String) :
    (renamed d old new).get new = d.get old ∨ (renamed d old new).get new = d.get new := by
  unfold renamed
  by_cases hrename : (d.has old && !d.has new) = true
  · rw [if_pos hrename, get_set, if_pos rfl]
    exact .inl rfl
  · rw [if_neg hrename]
    exact .inr rfl

/-- The state of a normalized answer is one the answer carries. -/
theorem state_normalized (d : Dict) :
    (normalizeServerFields d).get "state" = d.get "lifecycle_state" ∨
      (normalizeServerFields d).get "state" = d.get "state" := by
  have hlifecycle : (renamed d "user_id" "registration_id").get "lifecycle_state"
      = d.get "lifecycle_state" := get_renamed (by decide)
  have hstate : (renamed d "user_id" "registration_id").get "state" = d.get "state" :=
    get_renamed (by decide)
  unfold normalizeServerFields
  rcases get_renamed_self (renamed d "user_id" "registration_id") "lifecycle_state" "state"
    with h | h
  · exact .inl (h.trans hlifecycle)
  · exact .inr (h.trans hstate)

/-- A value of the table is the value of its state. -/
theorem value_of_lookup {text : String}
    (h : stateValues.lookup text = some state) : text = state.value := by
  have hvalues : ∀ entry ∈ stateValues, entry.1 = entry.2.value := by decide
  exact hvalues (text, state) (mem_of_lookup h)

theorem lookup_value (state : OnboardingState) : stateValues.lookup state.value = some state := by
  cases state <;> decide

/-- A state field that was read. -/
theorem stateField_ok (h : stateField d key = .ok state) : d.get key = .str state.value := by
  unfold stateField at h
  cases hvalue : d.get key with
  | str s =>
    simp only [hvalue] at h
    cases hlookup : stateValues.lookup s with
    | some found =>
      rw [hlookup] at h
      cases h
      rw [value_of_lookup hlookup]
    | none =>
      rw [hlookup] at h
      exact nomatch h
  | _ =>
    simp only [hvalue] at h
    exact nomatch h

theorem stateField_value (h : d.get key = .str state.value) : stateField d key = .ok state := by
  unfold stateField
  simp only [h, lookup_value]

/-- The state of an accepted response. -/
theorem validateVerification_state {response : VerificationResponse}
    (h : validateVerification data = .ok response) :
    (normalizeServerFields data).get "state" = .str response.state.value := by
  obtain ⟨registrationId, -, h⟩ := bind_ok.mp h
  obtain ⟨state, hstate, h⟩ := bind_ok.mp h
  obtain ⟨userId, -, h⟩ := bind_ok.mp h
  obtain ⟨username, -, h⟩ := bind_ok.mp h
  obtain ⟨realm, -, h⟩ := bind_ok.mp h
  obtain ⟨message, -, h⟩ := bind_ok.mp h
  obtain ⟨nextStep, -, h⟩ := bind_ok.mp h
  cases h
  exact stateField_ok hstate

/-- The state of an accepted status. -/
theorem validateStatus_state (h : validateStatus data = .ok status) :
    (normalizeServerFields data).get "state" = .str status.state.value := by
  obtain ⟨registrationId, -, h⟩ := bind_ok.mp h
  obtain ⟨state, hstate, h⟩ := bind_ok.mp h
  obtain ⟨realm, -, h⟩ := bind_ok.mp h
  obtain ⟨origin, -, h⟩ := bind_ok.mp h
  obtain ⟨purpose, -, h⟩ := bind_ok.mp h
  obtain ⟨username, -, h⟩ := bind_ok.mp h
  obtain ⟨email, -, h⟩ := bind_ok.mp h
  obtain ⟨userId, -, h⟩ := bind_ok.mp h
  obtain ⟨nextStep, -, h⟩ := bind_ok.mp h
  obtain ⟨message, -, h⟩ := bind_ok.mp h
  cases h
  have hkept := stateField_ok hstate
  rw [get_renamed (by decide)] at hkept
  exact hkept

/-- An answer whose normalized state is the active one carries it. -/
theorem carriesActive_of_state
    (h : (normalizeServerFields data).get "state" = .str "verified_active") :
    carriesActive data = true := by
  unfold carriesActive
  rcases state_normalized data with hstate | hstate
  · rw [← hstate, h]
    exact Bool.or_true _
  · rw [← hstate, h]
    rfl

/-- The models of the client: the response made of a status has its state. -/
theorem validateVerification_statusFields (status : RegistrationStatusResponse) :
    ∃ response, validateVerification (statusFields status) = .ok response ∧
      response.state = status.state := by
  have hstate : stateField (normalizeServerFields (statusFields status)) "state"
      = .ok status.state := stateField_value rfl
  obtain ⟨registrationId, state, realm, origin, purpose, username, email, userId, nextStep,
    message⟩ := status
  unfold validateVerification
  simp only [hstate]
  cases userId <;> cases username <;> cases realm <;> exact ⟨_, rfl, rfl⟩

/-- The response the client falls back on is the active one. -/
theorem validateVerification_fallback (registrationId : String) :
    ∃ response, validateVerification (fallbackFields registrationId) = .ok response ∧
      response.state = .verifiedActive := ⟨_, rfl, rfl⟩

/-! ## On which answers no identity is invented -/

/-- The status can be read. -/
def Readable (statusAnswer : Response) : Prop := ∃ status, getStatus statusAnswer = .ok status

/-- The error is raised as a typed one: it has a code of its own, or its class is a text and its
    message does not mention a verification and an `already`. -/
def RaisedTyped (statusCode : Nat) (data : Dict) : Prop :=
  statusCode ∈ [409, 410, 422] ∨
    ((∃ errorClass, errorClassOf data = .str errorClass) ∧
      (mentionsVerification data && mentionsAlready data) = false)

/-- The answers on which no active identity is invented: an error that does not state it is raised
    as a typed one, and a success without the keys of an identity carries the state, or the
    status carries it or can be read. -/
structure Sound (statusCode : Nat) (body : Dict) (statusAnswer : Response) : Prop where
  error : 400 ≤ statusCode → ¬ Says (.answered statusCode (.obj body)) →
    RaisedTyped statusCode (payloadOf (.obj body))
  success : statusCode < 400 → lacksIdentity (payloadOf (.obj body)) = true →
    carriesActive (payloadOf (.obj body)) = true ∨ Says statusAnswer ∨ Readable statusAnswer

/-- The codes with an error of their own. -/
theorem checkError_of_mem (h : statusCode ∈ [409, 410, 422]) (data : Dict) :
    ∃ error, checkError statusCode data = .error (.typed error) := by
  simp only [List.mem_cons, List.not_mem_nil, or_false] at h
  rcases h with rfl | rfl | rfl
  · exact ⟨_, rfl⟩
  · exact ⟨_, rfl⟩
  · exact ⟨_, rfl⟩

theorem checkError_of_not_mem (h : statusCode ∉ [409, 410, 422])
    (hcode : 400 ≤ statusCode) (data : Dict) :
    checkError statusCode data = checkOtherError data := by
  simp only [List.mem_cons, List.not_mem_nil, or_false, not_or] at h
  obtain ⟨h409, h410, h422⟩ := h
  unfold checkError
  rw [if_neg h409, if_neg h422, if_neg h410, if_pos hcode]

/-- A code below 400 is no error. -/
theorem checkError_of_lt (hcode : statusCode < 400) (data : Dict) :
    checkError statusCode data = .ok () := by
  unfold checkError
  rw [if_neg (by omega), if_neg (by omega), if_neg (by omega), if_neg (by omega)]

/-- An error that does not state the verification is raised as a typed one exactly where it has a
    textual class and does not mention both words. -/
theorem checkOtherError_typed (hsaid : ¬ StatesVerified data) :
    (∃ error, checkOtherError data = .error (.typed error)) ↔
      (∃ errorClass, errorClassOf data = .str errorClass) ∧
        (mentionsVerification data && mentionsAlready data) = false := by
  obtain ⟨hmessage, hclass⟩ := not_or.mp hsaid
  unfold checkOtherError
  rw [if_neg hmessage]
  cases hvalue : errorClassOf data with
  | str errorClass =>
    have hnot : contains (lower errorClass) "already_verified" = false := by
      cases hcontains : contains (lower errorClass) "already_verified" with
      | false => rfl
      | true => exact absurd ⟨errorClass, hvalue, hcontains⟩ hclass
    show (∃ error, (if (contains (lower errorClass) "already_verified" || _) = true then _ else _)
      = Except.error (Escape.typed error)) ↔ _
    rw [hnot, Bool.false_or]
    by_cases hboth : (mentionsVerification data && mentionsAlready data) = true
    · rw [if_pos hboth]
      exact ⟨fun ⟨_, h⟩ => (nomatch h), fun h => nomatch hboth.symm.trans h.2⟩
    · rw [if_neg hboth]
      refine ⟨fun _ => ⟨⟨errorClass, rfl⟩, Bool.eq_false_iff.mpr hboth⟩, fun _ => ?_⟩
      by_cases hfailed : (contains (lower errorClass) "verification"
          || mentionsVerification data) = true
      · rw [if_pos hfailed]
        exact ⟨_, rfl⟩
      · rw [if_neg hfailed]
        exact ⟨_, rfl⟩
  | _ =>
    exact ⟨fun ⟨_, h⟩ => (nomatch h), fun h => (nomatch h.1)⟩

section Verify

variable {statusCode : Nat} {body : Dict} {statusAnswer : Response}

/-- An answer that is an object is received as its payload, unless it is an error. -/
theorem received_obj : received (.answered statusCode (.obj body))
    = (match checkError statusCode (payloadOf (.obj body)) with
      | .ok () => .ok (payloadOf (.obj body))
      | .error escape => .error escape) := rfl

/-- What was received is the payload of an object. -/
theorem payload_of_received {answer : Response} (h : received answer = .ok data) :
    ∃ statusCode body, answer = .answered statusCode (.obj body) ∧ data = payloadOf (.obj body) := by
  cases answer with
  | unreachable text => exact nomatch h
  | notJson => exact nomatch h
  | answered statusCode doc =>
    cases doc with
    | obj body =>
      rw [received_obj] at h
      cases hcheck : checkError statusCode (payloadOf (.obj body)) with
      | ok done =>
        rw [hcheck] at h
        cases h
        exact ⟨statusCode, body, rfl, rfl⟩
      | error escape =>
        rw [hcheck] at h
        exact nomatch h
    | _ => exact nomatch h

/-- A status that was read as the active one carries it. -/
theorem says_of_status
    (h : getStatus statusAnswer = .ok status) (hactive : status.state = .verifiedActive) :
    Says statusAnswer := by
  unfold getStatus at h
  cases hreceived : received statusAnswer with
  | error escape =>
    rw [hreceived] at h
    exact nomatch h
  | ok data =>
    rw [hreceived] at h
    obtain ⟨code, body, rfl, rfl⟩ := payload_of_received hreceived
    cases hstatus : validateStatus (payloadOf (.obj body)) with
    | error raised =>
      simp only [hstatus] at h
      exact nomatch h
    | ok found =>
      simp only [hstatus] at h
      cases h
      have hstate := validateStatus_state hstatus
      rw [hactive] at hstate
      exact .inl (carriesActive_of_state hstate)

/-- The `try` of `verify` succeeds exactly where the status can be read. -/
theorem fromStatus_ok (h : getStatus statusAnswer = .ok status) :
    ∃ response, fromStatus statusAnswer = .ok response ∧ response.state = status.state := by
  obtain ⟨response, hresponse, hstate⟩ := validateVerification_statusFields status
  refine ⟨response, ?_, hstate⟩
  unfold fromStatus
  rw [h]
  simp only [hresponse]
  rfl

/-- An answer that was received and lacks an identity makes the client return the state of the
    status, or the one it falls back on. -/
theorem verify_of_lacking (registrationId : String) (statusAnswer : Response)
    (hreceived : received verifyAnswer = .ok data) (hlacks : lacksIdentity data = true) :
    ∃ response, verify registrationId verifyAnswer statusAnswer = .ok response ∧
      ((∃ status, getStatus statusAnswer = .ok status ∧ response.state = status.state) ∨
        (¬ Readable statusAnswer ∧ response.state = .verifiedActive)) := by
  unfold verify
  rw [hreceived]
  simp only [if_pos hlacks]
  cases hstatus : getStatus statusAnswer with
  | ok status =>
    obtain ⟨response, hfrom, hstate⟩ := fromStatus_ok hstatus
    rw [hfrom]
    exact ⟨response, rfl, .inl ⟨status, rfl, hstate⟩⟩
  | error escape =>
    have hfrom : fromStatus statusAnswer = .error escape := by
      unfold fromStatus
      rw [hstatus]
    obtain ⟨response, hresponse, hstate⟩ := validateVerification_fallback registrationId
    rw [hfrom]
    simp only [hresponse]
    refine ⟨response, rfl, .inr ⟨?_, hstate⟩⟩
    rintro ⟨status, hread⟩
    exact nomatch hstatus.symm.trans hread

/-- An answer with an identity makes the client return its own state. -/
theorem verify_of_identity
    {response : VerificationResponse} (hreceived : received verifyAnswer = .ok data)
    (hlacks : lacksIdentity data = false)
    (h : verify registrationId verifyAnswer statusAnswer = .ok response) :
    (normalizeServerFields data).get "state" = .str response.state.value := by
  unfold verify at h
  rw [hreceived] at h
  simp only [hlacks] at h
  cases hvalid : validateVerification data with
  | error raised =>
    simp only [hvalid] at h
    exact nomatch h
  | ok found =>
    simp only [hvalid] at h
    cases h
    exact validateVerification_state hvalid

/-- Only what is received makes the client return. -/
theorem verify_of_not_received {escape : Escape} (h : received verifyAnswer = .error escape) :
    verify registrationId verifyAnswer statusAnswer = .error escape := by
  unfold verify
  rw [h]

/-- A received answer does not make the client raise a typed error. -/
theorem not_typed_of_received (h : received verifyAnswer = .ok data) (error : OnboardingError) :
    verify registrationId verifyAnswer statusAnswer ≠ .error (.typed error) := by
  by_cases hlacks : lacksIdentity data = true
  · obtain ⟨response, hresponse, -⟩ := verify_of_lacking registrationId statusAnswer h hlacks
    rw [hresponse]
    exact nofun
  · unfold verify
    rw [h]
    simp only [if_neg hlacks]
    cases validateVerification data with
    | ok response => exact nofun
    | error raised => exact nofun

/-- An error answer that does not state the verification makes the client raise a typed error
    exactly where the check does. -/
theorem verify_typed_iff (hcode : 400 ≤ statusCode)
    (hsaid : ¬ Says (.answered statusCode (.obj body))) (registrationId : String) :
    (∃ error, verify registrationId (.answered statusCode (.obj body)) statusAnswer
      = .error (.typed error)) ↔ RaisedTyped statusCode (payloadOf (.obj body)) := by
  have hstates : ¬ StatesVerified (payloadOf (.obj body)) := fun h => hsaid (.inr ⟨hcode, h⟩)
  have hraises : (∃ error, verify registrationId (.answered statusCode (.obj body)) statusAnswer
      = .error (.typed error)) ↔
      ∃ error, checkError statusCode (payloadOf (.obj body)) = .error (.typed error) := by
    cases hcheck : checkError statusCode (payloadOf (.obj body)) with
    | ok done =>
      have hreceived : received (.answered statusCode (.obj body))
          = .ok (payloadOf (.obj body)) := by
        rw [received_obj, hcheck]
      exact ⟨fun ⟨error, h⟩ => absurd h (not_typed_of_received hreceived error),
        fun ⟨_, h⟩ => (nomatch h)⟩
    | error escape =>
      have hreceived : received (.answered statusCode (.obj body)) = .error escape := by
        rw [received_obj, hcheck]
      rw [verify_of_not_received hreceived]
      exact ⟨fun ⟨error, h⟩ => ⟨error, congrArg _ (Except.error.inj h)⟩,
        fun ⟨error, h⟩ => ⟨error, congrArg _ (Except.error.inj h)⟩⟩
  rw [hraises]
  by_cases hmem : statusCode ∈ [409, 410, 422]
  · exact ⟨fun _ => .inl hmem, fun _ => checkError_of_mem hmem _⟩
  · rw [checkError_of_not_mem hmem hcode, checkOtherError_typed hstates]
    exact ⟨.inr, fun h => h.resolve_left hmem⟩

/-- No active identity is invented exactly on the sound answers. -/
theorem neverInvents_iff (statusCode : Nat) (body : Dict) (statusAnswer : Response) :
    NeverInvents statusCode body statusAnswer ↔ Sound statusCode body statusAnswer := by
  constructor
  · intro h
    refine ⟨fun hcode hsaid => ?_, fun hcode hlacks => ?_⟩
    · exact (verify_typed_iff hcode hsaid "reg-1").mp (h.typed hcode hsaid "reg-1")
    · have hreceived : received (.answered statusCode (.obj body)) = .ok (payloadOf (.obj body)) := by
        rw [received_obj, checkError_of_lt hcode]
      obtain ⟨response, hresponse, hstate⟩ :=
        verify_of_lacking "reg-1" statusAnswer hreceived hlacks
      rcases hstate with ⟨status, hread, -⟩ | ⟨-, hactive⟩
      · exact .inr (.inr ⟨status, hread⟩)
      · rcases h.active "reg-1" response hresponse hactive with (hcarries | ⟨hge, -⟩) | ⟨-, hstatus⟩
        · exact .inl hcarries
        · omega
        · exact .inr (.inl hstatus)
  · intro h
    refine ⟨fun registrationId response hresponse hactive => ?_, fun hcode hsaid registrationId =>
      (verify_typed_iff hcode hsaid registrationId).mpr (h.error hcode hsaid)⟩
    cases hreceived : received (.answered statusCode (.obj body)) with
    | error escape => exact nomatch (verify_of_not_received hreceived).symm.trans hresponse
    | ok data =>
      obtain ⟨code, doc, hanswer, rfl⟩ := payload_of_received hreceived
      cases hanswer
      cases hlacks : lacksIdentity (payloadOf (.obj body)) with
      | false =>
        have hstate := verify_of_identity hreceived hlacks hresponse
        rw [hactive] at hstate
        exact .inl (.inl (carriesActive_of_state hstate))
      | true =>
        by_cases hcode : 400 ≤ statusCode
        · -- an error was received, so it states the verification
          by_cases hsaid : Says (.answered statusCode (.obj body))
          · exact .inl hsaid
          · obtain ⟨error, herror⟩ :=
              (verify_typed_iff hcode hsaid registrationId).mpr (h.error hcode hsaid)
            exact nomatch herror.symm.trans hresponse
        · obtain ⟨response', hresponse', hstate⟩ :=
            verify_of_lacking registrationId statusAnswer hreceived hlacks
          cases hresponse.symm.trans hresponse'
          rcases h.success (Nat.lt_of_not_le hcode) hlacks with hcarries | hsaid | hread
          · exact .inl (.inl hcarries)
          · exact .inr ⟨rfl, hsaid⟩
          · rcases hstate with ⟨status, hstatus, hsame⟩ | ⟨hunread, -⟩
            · exact .inr ⟨rfl, says_of_status hstatus (hsame.symm.trans hactive)⟩
            · exact absurd hread hunread

end Verify

/-- A code that has expired, and a status that cannot be read: the identity is reported active. -/
theorem expired_invented : ¬ NeverInvents 400
    [("message", .str "verification code has already expired")] (.answered 404 (.obj [])) := by
  intro h
  have hsaid : ¬ Says (.answered 400
      (.obj [("message", .str "verification code has already expired")])) := by
    rintro (hcarries | ⟨-, hmessage | ⟨errorClass, hclass, hcontains⟩⟩)
    · exact absurd hcarries (by decide)
    · exact absurd hmessage (by decide)
    · cases (hclass : Json.str "" = .str errorClass)
      exact absurd hcontains (by decide)
  obtain ⟨error, herror⟩ := h.typed (by decide) hsaid "reg-1"
  exact nomatch herror

end KeyholeOnboarding
