import Keyhole.EffectProgram
import Mathlib.Algebra.Order.Field.Rat
import Mathlib.Logic.Relation
import Mathlib.Tactic.Linarith

/-!
# The wait for the login callback

`PKCEFlow.wait_for_callback` lets a thread serve the callback port with `handle_request()` and
polls what the handler leaves in its class attributes.  On the way out it calls `shutdown()`,
which waits for the end of a `serve_forever()` loop.

* `Step`: the two threads, the clock and the requests;
* `attributes_of_one_request`: at rest, the attributes are those of one request;
* `stopping_forever`: the wait does not come back from `shutdown()`. -/

namespace KeyholePkce

open EffectProgram (invariant_of_trace)

/-! ## The handler -/

/-- A GET request, by what `urlparse` and `parse_qs` make of its target: the path, and the fields
    of the query that are not blank. -/
structure Request where
  path : String
  params : List (String × String)
  deriving DecidableEq

/-- `_CALLBACK_PATH`. -/
def callbackPath : String := "/callback"

/-- `params.get(key, [None])[0]`. -/
def Request.first (r : Request) (key : String) : Option String := r.params.lookup key

/-- The class attributes of `_CallbackHandler`. -/
structure Attributes where
  authCode : Option String := none
  error : Option String := none
  state : Option String := none
  deriving DecidableEq

/-- What `do_GET` leaves of a callback. -/
def Request.attributes (r : Request) : Attributes where
  authCode := r.first "code"
  error := r.first "error"
  state := r.first "state"

/-- Is an attribute set, and not empty? -/
def truthy (text : Option String) : Bool := text.getD "" != ""

/-! ## The two threads -/

/-- Where `wait_for_callback` is. -/
inductive MainAt where
  | starting
  | polling
  | sleeping (wake : ℚ)
  /-- in `server.shutdown()` -/
  | stopping
  /-- the attributes are read, one after another -/
  | stopped
  | errorRead
  | codeRead
  | stateRead
  | raised (exception message : String)
  | returned (code : Option String)

/-- Where `_serve_until_callback` is; a callback sets the attributes in three assignments. -/
inductive ServerAt where
  | checking
  | waiting
  | atCode (r : Request)
  | atError (r : Request)
  | atState (r : Request)
  | finished

/-- A call of `wait_for_callback`. -/
structure Wait where
  timeout : ℤ
  expectedState : String
  requests : List Request

/-- The state of a call. `loopEnded` says that a `serve_forever()` loop of the server has ended;
    `handle_request()` runs no such loop. -/
structure State where
  now : ℚ
  deadline : ℚ
  main : MainAt
  server : ServerAt
  attributes : Attributes
  pending : List Request
  loopEnded : Bool

/-- The thread was started; no request was taken. -/
def Wait.init (w : Wait) : State where
  now := 0
  deadline := 0
  main := .starting
  server := .checking
  attributes := {}
  pending := w.requests
  loopEnded := false

/-- `_CallbackHandler.auth_code or _CallbackHandler.error`. -/
def State.called (s : State) : Bool := truthy s.attributes.authCode || truthy s.attributes.error

/-- `auth_code is None and error is None`. -/
def State.serving (s : State) : Bool :=
  s.attributes.authCode.isNone && s.attributes.error.isNone

/-- The next of the checks after `shutdown()`. -/
def Wait.readNext (w : Wait) (s : State) : MainAt → Option MainAt
  | .stopped =>
      if truthy s.attributes.error then
        some (.raised "InvalidTokenError"
          ("Auth server returned error: " ++ s.attributes.error.getD ""))
      else some .errorRead
  | .errorRead =>
      if truthy s.attributes.authCode then some .codeRead
      else some (.raised "ExpiredChallengeError" "")
  | .codeRead =>
      if s.attributes.state = some w.expectedState then some .stateRead
      else some (.raised "InvalidTokenError"
        "State parameter mismatch — possible CSRF attack.")
  | .stateRead => some (.returned s.attributes.authCode)
  | _ => none

/-- One step of a thread, or of the clock. -/
inductive Step (w : Wait) : State → State → Prop
  | start (s) (h : s.main = .starting) :
      Step w s { s with main := .polling, deadline := s.now + w.timeout }
  | poll (s) (h : s.main = .polling) (hbefore : s.now < s.deadline) (hnone : s.called = false) :
      Step w s { s with main := .sleeping (s.now + 1 / 2) }
  | wake (s wake) (h : s.main = .sleeping wake) (hpast : wake ≤ s.now) :
      Step w s { s with main := .polling }
  | leave (s) (h : s.main = .polling) (hdue : s.deadline ≤ s.now ∨ s.called = true) :
      Step w s { s with main := .stopping }
  | stop (s) (h : s.main = .stopping) (hended : s.loopEnded = true) :
      Step w s { s with main := .stopped }
  | read (s next) (h : w.readNext s s.main = some next) : Step w s { s with main := next }
  | serve (s) (h : s.server = .checking) (hserving : s.serving = true) :
      Step w s { s with server := .waiting }
  | finish (s) (h : s.server = .checking) (hserved : s.serving = false) :
      Step w s { s with server := .finished }
  | idle (s) (h : s.server = .waiting) : Step w s { s with server := .checking }
  | take (s r rest) (h : s.server = .waiting) (hpending : s.pending = r :: rest) :
      Step w s { s with
        pending := rest
        server := if r.path = callbackPath then .atCode r else .checking }
  | setCode (s r) (h : s.server = .atCode r) :
      Step w s { s with
        attributes := { s.attributes with authCode := r.first "code" }
        server := .atError r }
  | setError (s r) (h : s.server = .atError r) :
      Step w s { s with
        attributes := { s.attributes with error := r.first "error" }
        server := .atState r }
  | setState (s r) (h : s.server = .atState r) :
      Step w s { s with
        attributes := { s.attributes with state := r.first "state" }
        server := .checking }
  | tick (s) (seconds : ℚ) (h : 0 < seconds) : Step w s { s with now := s.now + seconds }

/-- A run from one state to another. -/
def Path (w : Wait) : State → State → Prop := Relation.ReflTransGen (Step w)

/-- A state of a call. -/
def Reachable (w : Wait) (s : State) : Prop := Path w w.init s

/-! ## The promise -/

/-- The call has returned or raised. -/
def MainAt.ended : MainAt → Prop
  | .raised _ _ => True
  | .returned _ => True
  | _ => False

/-- No request is being handled. -/
def ServerAt.atRest : ServerAt → Prop
  | .checking => True
  | .waiting => True
  | .finished => True
  | _ => False

/-- The timeout has passed, or a callback with a code or an error was handled. -/
def Due (s : State) : Prop :=
  (s.main ≠ .starting ∧ s.deadline ≤ s.now) ∨ (s.server.atRest ∧ s.called = true)

/-- What the call promises.  Where it is due it can still end, which is the least that ending
    asks for; and what it returns came in one request, with the state. -/
structure ComesBack (w : Wait) : Prop where
  ends : ∀ s, Reachable w s → Due s → ∃ s', Path w s s' ∧ s'.main.ended
  binds : ∀ s c, Reachable w s → s.main = .returned c →
    ∃ r ∈ w.requests, r.path = callbackPath ∧ r.first "code" = c ∧
      r.first "state" = some w.expectedState

/-! ## What the handler leaves -/

/-- The attributes are those of one callback, or still those of the reset.  While a callback is
    being handled, the assignments already made are its own. -/
def OneRequest (w : Wait) (s : State) : Prop :=
  match s.server with
  | .checking | .finished =>
      s.attributes = {} ∨
        ∃ r ∈ w.requests, r.path = callbackPath ∧ s.attributes = r.attributes
  | .waiting =>
      s.serving = true ∧ (s.attributes = {} ∨
        ∃ r ∈ w.requests, r.path = callbackPath ∧ s.attributes = r.attributes)
  | .atCode r => r ∈ w.requests ∧ r.path = callbackPath
  | .atError r =>
      r ∈ w.requests ∧ r.path = callbackPath ∧ s.attributes.authCode = r.first "code"
  | .atState r =>
      r ∈ w.requests ∧ r.path = callbackPath ∧ s.attributes.authCode = r.first "code" ∧
        s.attributes.error = r.first "error"

/-- What every state of a call has. -/
structure Sound (w : Wait) (s : State) : Prop where
  pending : ∀ r ∈ s.pending, r ∈ w.requests
  attributes : OneRequest w s
  unended : s.loopEnded = false
  before : s.main = .starting ∨ s.main = .polling ∨ (∃ wake, s.main = .sleeping wake) ∨
    s.main = .stopping

variable {w : Wait} {s s' : State}

theorem sound_init (w : Wait) : Sound w w.init where
  pending := fun _ hr => hr
  attributes := .inl rfl
  unended := rfl
  before := .inl rfl

/-- No check is made before `shutdown()` has come back. -/
theorem readNext_before {s₀ : State} (h : Sound w s) : w.readNext s₀ s.main = none := by
  rcases h.before with hmain | hmain | ⟨wake, hmain⟩ | hmain
  · rw [hmain]
    rfl
  · rw [hmain]
    rfl
  · rw [hmain]
    rfl
  · rw [hmain]
    rfl

/-- A step of either thread keeps this; no step ends a `serve_forever()` loop. -/
theorem Sound.step (h : Sound w s) (hstep : Step w s s') : Sound w s' := by
  cases hstep with
  | start hmain => exact ⟨h.pending, h.attributes, h.unended, .inr (.inl rfl)⟩
  | poll hmain => exact ⟨h.pending, h.attributes, h.unended, .inr (.inr (.inl ⟨_, rfl⟩))⟩
  | wake wake hmain => exact ⟨h.pending, h.attributes, h.unended, .inr (.inl rfl)⟩
  | leave hmain => exact ⟨h.pending, h.attributes, h.unended, .inr (.inr (.inr rfl))⟩
  | stop hmain hended => exact nomatch h.unended.symm.trans hended
  | read next hnext => exact nomatch (readNext_before h).symm.trans hnext
  | serve hserver hserving =>
    have hattributes := h.attributes
    rw [OneRequest, hserver] at hattributes
    exact ⟨h.pending, ⟨hserving, hattributes⟩, h.unended, h.before⟩
  | finish hserver =>
    have hattributes := h.attributes
    rw [OneRequest, hserver] at hattributes
    exact ⟨h.pending, hattributes, h.unended, h.before⟩
  | idle hserver =>
    have hattributes := h.attributes
    rw [OneRequest, hserver] at hattributes
    exact ⟨h.pending, hattributes.2, h.unended, h.before⟩
  | take r rest hserver hpending =>
    have hattributes := h.attributes
    rw [OneRequest, hserver] at hattributes
    have hr : r ∈ w.requests := h.pending r (hpending ▸ List.mem_cons_self)
    have hrest : ∀ r' ∈ rest, r' ∈ w.requests :=
      fun r' hr' => h.pending r' (hpending ▸ List.mem_cons_of_mem r hr')
    refine ⟨hrest, ?_, h.unended, h.before⟩
    by_cases hpath : r.path = callbackPath
    · simp only [OneRequest, if_pos hpath]
      exact ⟨hr, hpath⟩
    · simp only [OneRequest, if_neg hpath]
      exact hattributes.2
  | setCode r hserver =>
    have hattributes := h.attributes
    rw [OneRequest, hserver] at hattributes
    exact ⟨h.pending, ⟨hattributes.1, hattributes.2, rfl⟩, h.unended, h.before⟩
  | setError r hserver =>
    have hattributes := h.attributes
    rw [OneRequest, hserver] at hattributes
    exact ⟨h.pending, ⟨hattributes.1, hattributes.2.1, hattributes.2.2, rfl⟩, h.unended, h.before⟩
  | setState r hserver =>
    have hattributes := h.attributes
    rw [OneRequest, hserver] at hattributes
    obtain ⟨hr, hpath, hcode, herror⟩ := hattributes
    refine ⟨h.pending, .inr ⟨r, hr, hpath, ?_⟩, h.unended, h.before⟩
    rw [Request.attributes, ← hcode, ← herror]
  | tick seconds hpos => exact ⟨h.pending, h.attributes, h.unended, h.before⟩

theorem sound_of_reachable (h : Reachable w s) : Sound w s :=
  invariant_of_trace (fun _ _ hsound hstep => hsound.step hstep) h (sound_init w)

/-- At rest, code and state are those of one request. -/
theorem attributes_of_one_request (h : Reachable w s) (hrest : s.server.atRest) {c state : String}
    (hcode : s.attributes.authCode = some c) (hstate : s.attributes.state = some state) :
    ∃ r ∈ w.requests, r.path = callbackPath ∧ r.first "code" = some c ∧
      r.first "state" = some state := by
  have hone : s.attributes = {} ∨
      ∃ r ∈ w.requests, r.path = callbackPath ∧ s.attributes = r.attributes := by
    have hattributes := (sound_of_reachable h).attributes
    rw [OneRequest] at hattributes
    cases hserver : s.server with
    | checking =>
      rw [hserver] at hattributes
      exact hattributes
    | waiting =>
      rw [hserver] at hattributes
      exact hattributes.2
    | finished =>
      rw [hserver] at hattributes
      exact hattributes
    | atCode r =>
      rw [hserver] at hrest
      exact hrest.elim
    | atError r =>
      rw [hserver] at hrest
      exact hrest.elim
    | atState r =>
      rw [hserver] at hrest
      exact hrest.elim
  rcases hone with hreset | ⟨r, hr, hpath, hown⟩
  · rw [hreset] at hcode
    exact nomatch hcode
  · rw [hown] at hcode hstate
    exact ⟨r, hr, hpath, hcode, hstate⟩

/-! ## The way out -/

/-- No run of a call has an end. -/
theorem not_ended (h : Reachable w s) : ¬ s.main.ended := by
  intro hended
  rcases (sound_of_reachable h).before with hmain | hmain | ⟨wake, hmain⟩ | hmain
  · rw [hmain] at hended
    exact hended
  · rw [hmain] at hended
    exact hended
  · rw [hmain] at hended
    exact hended
  · rw [hmain] at hended
    exact hended

/-- A wait that is in `shutdown()` stays there. -/
theorem stopping_forever (h : Reachable w s) (hmain : s.main = .stopping) (hpath : Path w s s') :
    s'.main = .stopping := by
  induction hpath with
  | refl => exact hmain
  | tail hbefore hstep ih =>
    have hsound := sound_of_reachable (h.trans hbefore)
    cases hstep with
    | start h => exact nomatch h.symm.trans ih
    | poll h => exact nomatch h.symm.trans ih
    | wake wake h => exact nomatch h.symm.trans ih
    | leave h => rfl
    | stop _ hended => exact nomatch hsound.unended.symm.trans hended
    | read next hnext => exact nomatch (readNext_before hsound).symm.trans hnext
    | _ => exact ih

/-- The timeout passes, whatever was requested. -/
theorem due_reachable (w : Wait) : ∃ s, Reachable w s ∧ Due s := by
  have hlater : (0 : ℚ) < |(w.timeout : ℚ)| + 1 := by positivity
  refine ⟨_, (Relation.ReflTransGen.single (.start w.init rfl)).tail (.tick _ _ hlater),
    .inl ⟨nofun, ?_⟩⟩
  show w.init.now + (w.timeout : ℚ) ≤ w.init.now + (|(w.timeout : ℚ)| + 1)
  have habs := le_abs_self (w.timeout : ℚ)
  linarith

/-- **The wait never comes back**, for any requests and any timeout. -/
theorem never_comes_back (w : Wait) : ¬ ComesBack w := by
  intro h
  obtain ⟨s, hreachable, hdue⟩ := due_reachable w
  obtain ⟨s', hpath, hended⟩ := h.ends s hreachable hdue
  exact not_ended (hreachable.trans hpath) hended

/-! ## A login -/

/-- The authorization server redirects with the code and the state that was sent. -/
def login : Wait where
  timeout := 300
  expectedState := "xyz"
  requests := [{ path := "/callback", params := [("code", "abc"), ("state", "xyz")] }]

/-- The code and the state it is left with are those of the redirect. -/
theorem login_code_and_state : ∃ r ∈ login.requests, r.path = callbackPath ∧
    r.first "code" = some "abc" ∧ r.first "state" = some "xyz" :=
  attributes_of_one_request (((((Relation.ReflTransGen.single (.serve login.init rfl rfl)).tail
    (.take _ _ _ rfl rfl)).tail (.setCode _ _ rfl)).tail (.setError _ _ rfl)).tail
    (.setState _ _ rfl)) trivial rfl rfl

/-- The callback is handled at once, and the wait does not come back. -/
theorem login_hangs :
    (∃ s, Reachable login s ∧ s.server.atRest ∧ s.now = 0 ∧
      s.attributes.authCode = some "abc" ∧ s.attributes.state = some login.expectedState) ∧
    ¬ ComesBack login := by
  have hhandled : ∃ s, Reachable login s ∧ s.server.atRest ∧ s.now = 0 ∧ s.called = true ∧
      s.attributes.authCode = some "abc" ∧ s.attributes.state = some login.expectedState := by
    refine ⟨_, ((((Relation.ReflTransGen.single (.serve login.init rfl rfl)).tail
      (.take _ _ _ rfl rfl)).tail (.setCode _ _ rfl)).tail (.setError _ _ rfl)).tail
      (.setState _ _ rfl), trivial, rfl, ?_, ?_, ?_⟩
    · decide
    · rfl
    · rfl
  obtain ⟨s, hreachable, hrest, hnow, hcalled, hcode, hstate⟩ := hhandled
  refine ⟨⟨s, hreachable, hrest, hnow, hcode, hstate⟩, fun h => ?_⟩
  obtain ⟨s', hpath, hended⟩ := h.ends s hreachable (.inr ⟨hrest, hcalled⟩)
  exact not_ended (hreachable.trans hpath) hended

end KeyholePkce
