import Mathlib.Algebra.Order.Ring.Rat
import Mathlib.Tactic.Linarith
import Keyhole.BoundedRetry
import Keyhole.ExceptLoops
import Keyhole.LoginSession

/-!
# Polling for the token of a device

`poll_for_token` asks the token endpoint again and again until the user has approved or denied
the device, three polls in a row have failed, the attempt is cancelled or superseded, or the
code has expired; between two polls it sleeps for its interval.

* `fromDict`, `pollOnce`: the device's data, and what one poll makes of an answer;
* `cycle`, `pollForToken`: one turn of the loop, and the loop;
* `Passes`: what lets the loop go past a poll, told of the answers, the signals and the clock;
* `cycle_again_iff`: the loop goes on after the polls that pass, and no others. -/

namespace KeyholeDevice

open KeyholeJson KeyholeLogin BoundedRetry

/-- An exception, by its name or its text. -/
abbrev Raised := String

/-! ## The device -/

/-- `DeviceAuthorizationResponse`. -/
structure DeviceAuthorizationResponse where
  deviceCode : String
  userCode : String
  verificationUri : String
  verificationUriComplete : Option String
  expiresIn : Int
  interval : Int

/-- What `int(x)` raises. -/
inductive IntError where
  | typeError
  | valueError
  | overflowError

/-- `int(x)`, with a default for a `TypeError` and a `ValueError`. -/
def intOr (int : Json → Except IntError Int) (x : Json) (default : Int) : Except Raised Int :=
  match int x with
  | .ok n => .ok n
  | .error .overflowError => .error "OverflowError"
  | .error _ => .ok default

/-- A field that has to be a text that is not empty. -/
def requiredText (data : Dict) (key : String) : Except Raised String :=
  match data.get key with
  | .str s =>
      if s = "" then .error (key ++ " missing from device authorization response") else .ok s
  | _ => .error (key ++ " missing from device authorization response")

/-- The field `verification_uri_complete`, left out unless it is a text. -/
def optionalText : Json → Option String
  | .str s => some s
  | _ => none

/-- `DeviceAuthorizationResponse.from_dict`. -/
def fromDict (int : Json → Except IntError Int) :
    Json → Except Raised DeviceAuthorizationResponse
  | .obj data => do
      let deviceCode ← requiredText data "device_code"
      let userCode ← requiredText data "user_code"
      let verificationUri ← requiredText data "verification_uri"
      let expiresIn ← intOr int (Dict.getOr data "expires_in" (.int 900)) 900
      let interval ← intOr int (Dict.getOr data "interval" (.int 5)) 5
      return {
        deviceCode := deviceCode
        userCode := userCode
        verificationUri := verificationUri
        verificationUriComplete := optionalText (Dict.get data "verification_uri_complete")
        expiresIn := max 60 expiresIn
        interval := max 1 interval }
  | _ => .error "device authorization response must be a JSON object"

/-- A device code is good for a minute at least, and polled once a second at most. -/
theorem fromDict_bounds {int : Json → Except IntError Int} {data : Json}
    {device : DeviceAuthorizationResponse} (h : fromDict int data = .ok device) :
    60 ≤ device.expiresIn ∧ 1 ≤ device.interval := by
  cases data with
  | obj data =>
    rw [fromDict] at h
    obtain ⟨_, -, h⟩ := ExceptLoops.bind_ok.mp h
    obtain ⟨_, -, h⟩ := ExceptLoops.bind_ok.mp h
    obtain ⟨_, -, h⟩ := ExceptLoops.bind_ok.mp h
    obtain ⟨_, -, h⟩ := ExceptLoops.bind_ok.mp h
    obtain ⟨_, -, h⟩ := ExceptLoops.bind_ok.mp h
    cases h
    exact ⟨le_max_left _ _, le_max_left _ _⟩
  | null => exact nomatch h
  | bool _ => exact nomatch h
  | int _ => exact nomatch h
  | float _ => exact nomatch h
  | str _ => exact nomatch h
  | arr _ => exact nomatch h

/-! ## One poll -/

/-- `DevicePollOutcome`: its status, with the token of an approval and the detail that the
    loop reads. -/
inductive PollOutcome where
  | pending
  | slowDown
  | approved (token : TokenResponse)
  | denied (detail : String)
  | expired (detail : String)
  | networkError (detail : String)

/-- What the request of a poll comes to: an answer, whose body may be no JSON, a failure of the
    network, or any other exception. -/
inductive TokenReply where
  | answer (statusCode : Nat) (body : Option Json)
  | unreachable (text : String)
  | raises (e : Raised)

/-- `(err_payload.get("error") or "").strip()`. -/
def errorOf : Option Json → Except Raised String
  | some (.obj payload) =>
      match orElse (Dict.get payload "error") (.str "") with
      | .str s => .ok (strip s)
      | _ => .error "AttributeError"
  | _ => .ok ""

/-- The outcome of an answer that is no success. -/
def refusedOutcome (statusCode : Nat) (error : String) : PollOutcome :=
  if error = "authorization_pending" then .pending
  else if error = "slow_down" then .slowDown
  else if error = "access_denied" then .denied "access_denied"
  else if error = "expired_token" ∨ error = "expired_device_code" then .expired error
  else if 500 ≤ statusCode ∧ statusCode < 600 then
    .networkError ("server error " ++ toString statusCode)
  else .networkError ("unexpected token endpoint response (HTTP " ++ toString statusCode ++
    ", error=" ++ (if error = "" then "none" else error) ++ ")")

/-- `_poll_once`; `validate` is `TokenResponse.model_validate`. -/
def pollOnce (validate : Json → Except String TokenResponse) :
    TokenReply → Except Raised PollOutcome
  | .raises e => .error e
  | .unreachable text => .ok (.networkError text)
  | .answer statusCode body =>
      if statusCode = 200 then
        match body with
        | none => .ok (.networkError "token response is not valid JSON")
        | some data =>
            match validate data with
            | .ok token => .ok (.approved token)
            | .error text => .ok (.networkError ("unparseable token response: " ++ text))
      else (errorOf body).map (refusedOutcome statusCode)

/-! ## The loop -/

/-- How polling ends without a token. -/
inductive DeviceError where
  | expired (text : String)
  | denied (text : String)
  | cancelled (text : String)
  | network (text : String)
  | escaped (e : Raised)

/-- Everything the loop reads from outside. The `k`th poll is preceded by the `k`th look at the
    two signals; `clock 0` is read before the first poll and `clock k` after the `k`th one;
    `supersededLast` is the last look before a token is returned. -/
structure PollEnv where
  poll : Nat → Except Raised PollOutcome
  cancelled : Nat → Option String
  superseded : Nat → Bool
  supersededLast : Nat → Bool
  clock : Nat → Rat

/-- The variables of the loop, and the calls of `_sleep`, the last one first. -/
structure PollState where
  interval : Int
  failures : Nat := 0
  sleeps : List Rat := []

/-- `text or default`. -/
def orText (text default : String) : String := if text = "" then default else text

/-- `interval`, after an outcome. -/
def nextInterval (interval : Int) : PollOutcome → Int
  | .slowDown => min (interval + 5) 60
  | _ => interval

/-- `consecutive_failures`, after an outcome. -/
def nextFailures (failures : Nat) : PollOutcome → Nat
  | .networkError _ => failures + 1
  | .pending | .slowDown => 0
  | _ => failures

/-- How polling ends on an outcome, if it does. -/
def judge (env : PollEnv) (k : Nat) (failures : Nat) :
    PollOutcome → Option (Except DeviceError TokenResponse)
  | .approved token =>
      some (if env.supersededLast k then .error (.cancelled "superseded") else .ok token)
  | .denied detail => some (.error (.denied (orText detail "access_denied")))
  | .expired detail => some (.error (.expired (orText detail "expired_token")))
  | .networkError detail =>
      if 3 ≤ failures + 1 then
        some (.error (.network (orText detail "network error during polling")))
      else none
  | .pending | .slowDown => none

/-- `deadline`. -/
def deadline (env : PollEnv) (device : DeviceAuthorizationResponse) : Rat :=
  env.clock 0 + device.expiresIn

/-- `sleep_for`, when the clock shows `now`. -/
def sleepFor (interval : Int) (deadline now : Rat) : Rat :=
  min (interval : Rat) (max 0 (deadline - now))

/-- The variables after an outcome. -/
def PollState.after (st : PollState) (outcome : PollOutcome) : PollState :=
  { st with
    interval := nextInterval st.interval outcome
    failures := nextFailures st.failures outcome }

/-- The call of `_sleep`, if there is one. -/
def PollState.sleep (st : PollState) (span : Rat) : PollState :=
  if 0 < span then { st with sleeps := span :: st.sleeps } else st

/-- One turn of the loop. The observer `on_status` is told the outcome and gives nothing back. -/
def cycle (env : PollEnv) (device : DeviceAuthorizationResponse) (k : Nat) (st : PollState) :
    PollState × Verdict (Option (Except DeviceError TokenResponse)) :=
  match env.cancelled k with
  | some reason => (st, .stop (some (.error (.cancelled (orText reason "cancelled")))))
  | none =>
      if env.superseded k then (st, .stop (some (.error (.cancelled "superseded"))))
      else match env.poll k with
        | .error e => (st, .stop (some (.error (.escaped e))))
        | .ok outcome =>
            match judge env k st.failures outcome with
            | some ending => (st.after outcome, .stop (some ending))
            | none =>
                if deadline env device ≤ env.clock k then
                  (st.after outcome, .stop (some (.error (.expired "device code expired"))))
                else
                  ((st.after outcome).sleep
                    (sleepFor (st.after outcome).interval (deadline env device) (env.clock k)),
                    .again)

/-- The variables before the first turn. -/
def initial (device : DeviceAuthorizationResponse) : PollState where
  interval := device.interval

/-- `poll_for_token`, for `fuel` turns of its loop: how it ends, if it does, and its variables. -/
def pollForToken (env : PollEnv) (device : DeviceAuthorizationResponse) (fuel : Nat) :
    Option (Except DeviceError TokenResponse) × PollState :=
  loop (cycle env device) none fuel 1 (initial device)

/-! ## What lets the loop go on -/

/-- Neither signal is up when the loop looks at them before the `k`th poll. -/
def Quiet (env : PollEnv) (k : Nat) : Prop := env.cancelled k = none ∧ env.superseded k = false

/-- The `k`th poll fails on the network. -/
def failsAt (env : PollEnv) (k : Nat) : Bool :=
  match env.poll k with
  | .ok (.networkError _) => true
  | _ => false

/-- The polls in a row, up to the `k`th one, that fail on the network. -/
def streak (env : PollEnv) : Nat → Nat
  | 0 => 0
  | k + 1 => if failsAt env (k + 1) then streak env k + 1 else 0

/-- The `k`th poll decides nothing: it is pending, or is to slow down, or fails on the network
    for the first or second time in a row. -/
def Undecided (env : PollEnv) (k : Nat) : Prop :=
  env.poll k = .ok .pending ∨ env.poll k = .ok .slowDown ∨
    (failsAt env k = true ∧ streak env k < 3)

/-- The loop goes past the `k`th poll. -/
structure Passes (env : PollEnv) (device : DeviceAuthorizationResponse) (k : Nat) : Prop where
  quiet : Quiet env k
  undecided : Undecided env k
  inTime : env.clock k < deadline env device

/-- The loop goes past the first `k` polls. -/
def Went (env : PollEnv) (device : DeviceAuthorizationResponse) (k : Nat) : Prop :=
  ∀ j, 0 < j → j ≤ k → Passes env device j

/-- The interval after the `k`th poll. -/
def intervalAfter (env : PollEnv) (device : DeviceAuthorizationResponse) : Nat → Int
  | 0 => device.interval
  | k + 1 =>
      match env.poll (k + 1) with
      | .ok outcome => nextInterval (intervalAfter env device k) outcome
      | .error _ => intervalAfter env device k

/-- What the loop sleeps after the `k`th poll. -/
def sleptAfter (env : PollEnv) (device : DeviceAuthorizationResponse) : Nat → Rat
  | 0 => 0
  | k + 1 =>
      sleepFor (intervalAfter env device (k + 1)) (deadline env device) (env.clock (k + 1))

section Cycle

variable {env : PollEnv} {device : DeviceAuthorizationResponse} {k : Nat}

theorem went_zero : Went env device 0 := fun _ hpos hle => absurd hpos (Nat.not_lt.mpr hle)

theorem went_succ : Went env device (k + 1) ↔ Went env device k ∧ Passes env device (k + 1) := by
  constructor
  · intro h
    exact ⟨fun j hpos hle => h j hpos (Nat.le_succ_of_le hle), h (k + 1) (Nat.succ_pos k) le_rfl⟩
  · rintro ⟨hwent, hlast⟩ j hpos hle
    rcases Nat.lt_or_eq_of_le hle with hlt | rfl
    · exact hwent j hpos (Nat.le_of_lt_succ hlt)
    · exact hlast

/-- What the loop knows after `k` polls it went past. -/
structure Tracks (env : PollEnv) (device : DeviceAuthorizationResponse) (k : Nat)
    (st : PollState) : Prop where
  interval : st.interval = intervalAfter env device k
  failures : st.failures = streak env k

theorem nextInterval_of_poll {outcome : PollOutcome} (h : env.poll (k + 1) = .ok outcome) :
    intervalAfter env device (k + 1) = nextInterval (intervalAfter env device k) outcome := by
  rw [intervalAfter, h]

theorem failsAt_iff {outcome : PollOutcome} (h : env.poll k = .ok outcome) :
    failsAt env k = true ↔ ∃ detail, outcome = .networkError detail := by
  rw [failsAt, h]
  cases outcome with
  | networkError detail => exact ⟨fun _ => ⟨detail, rfl⟩, fun _ => rfl⟩
  | pending => exact ⟨nofun, fun ⟨_, heq⟩ => nomatch heq⟩
  | slowDown => exact ⟨nofun, fun ⟨_, heq⟩ => nomatch heq⟩
  | approved token => exact ⟨nofun, fun ⟨_, heq⟩ => nomatch heq⟩
  | denied detail => exact ⟨nofun, fun ⟨_, heq⟩ => nomatch heq⟩
  | expired detail => exact ⟨nofun, fun ⟨_, heq⟩ => nomatch heq⟩

/-- The outcomes that decide nothing. -/
theorem undecided_iff {outcome : PollOutcome} (h : env.poll k = .ok outcome) :
    Undecided env k ↔ outcome = .pending ∨ outcome = .slowDown ∨
      ((∃ detail, outcome = .networkError detail) ∧ streak env k < 3) := by
  rw [Undecided, failsAt_iff h, h, Except.ok.injEq, Except.ok.injEq]

/-- An outcome ends the polling unless its poll decides nothing. -/
theorem judge_eq_none_iff {outcome : PollOutcome} (h : env.poll (k + 1) = .ok outcome) :
    judge env (k + 1) (streak env k) outcome = none ↔ Undecided env (k + 1) := by
  rw [undecided_iff h]
  cases outcome with
  | pending => exact ⟨fun _ => .inl rfl, fun _ => rfl⟩
  | slowDown => exact ⟨fun _ => .inr (.inl rfl), fun _ => rfl⟩
  | networkError detail =>
    rw [judge, streak, if_pos ((failsAt_iff h).mpr ⟨detail, rfl⟩)]
    by_cases hthird : 3 ≤ streak env k + 1
    · rw [if_pos hthird]
      simp
      omega
    · rw [if_neg hthird]
      simp
      omega
  | approved token => simp [judge]
  | denied detail => simp [judge]
  | expired detail => simp [judge]

theorem judge_token {failures : Nat} {outcome : PollOutcome} {token : TokenResponse}
    (h : judge env k failures outcome = some (.ok token)) :
    (.ok outcome : Except Raised PollOutcome) = .ok (.approved token) ∧
      env.supersededLast k = false := by
  cases outcome with
  | pending => exact nomatch h
  | slowDown => exact nomatch h
  | denied detail => exact nomatch h
  | expired detail => exact nomatch h
  | networkError detail =>
    rw [judge] at h
    by_cases hthird : 3 ≤ failures + 1
    · rw [if_pos hthird] at h
      exact nomatch h
    · rw [if_neg hthird] at h
      exact nomatch h
  | approved other =>
    rw [judge] at h
    by_cases hlast : env.supersededLast k = true
    · rw [if_pos hlast] at h
      exact nomatch h
    · rw [if_neg hlast] at h
      cases h
      exact ⟨rfl, Bool.eq_false_of_not_eq_true hlast⟩

/-- A poll that decides nothing has an outcome. -/
theorem Undecided.outcome (h : Undecided env k) : ∃ outcome, env.poll k = .ok outcome := by
  rcases h with h | h | ⟨h, -⟩
  · exact ⟨_, h⟩
  · exact ⟨_, h⟩
  · rw [failsAt] at h
    cases hpoll : env.poll k with
    | ok outcome => exact ⟨outcome, rfl⟩
    | error e =>
      rw [hpoll] at h
      exact nomatch h

/-- The failures that are counted are those in a row. -/
theorem nextFailures_of_undecided {outcome : PollOutcome} (h : env.poll (k + 1) = .ok outcome)
    (hundecided : Undecided env (k + 1)) :
    nextFailures (streak env k) outcome = streak env (k + 1) := by
  rw [streak]
  rcases (undecided_iff h).mp hundecided with rfl | rfl | ⟨⟨detail, rfl⟩, -⟩
  · rw [failsAt, h]
    rfl
  · rw [failsAt, h]
    rfl
  · rw [failsAt, h]
    rfl

/-- The state a turn goes on with. -/
def restedState (env : PollEnv) (device : DeviceAuthorizationResponse) (k : Nat) (st : PollState)
    (outcome : PollOutcome) : PollState :=
  (st.after outcome).sleep
    (sleepFor (st.after outcome).interval (deadline env device) (env.clock k))

/-- A turn that sees a signal makes no poll. -/
theorem cycle_of_not_quiet (device : DeviceAuthorizationResponse) (h : ¬ Quiet env k)
    (st : PollState) :
    ∃ text, cycle env device k st = (st, .stop (some (.error (.cancelled text)))) := by
  rw [cycle]
  cases hcancelled : env.cancelled k with
  | some reason => exact ⟨_, rfl⟩
  | none =>
    have hsuperseded : env.superseded k = true :=
      Bool.eq_true_of_not_eq_false fun hfalse => h ⟨hcancelled, hfalse⟩
    exact ⟨"superseded", if_pos hsuperseded⟩

/-- An exception that a poll does not handle escapes. -/
theorem cycle_of_raise (hquiet : Quiet env k) {e : Raised} (hpoll : env.poll k = .error e)
    (st : PollState) : cycle env device k st = (st, .stop (some (.error (.escaped e)))) := by
  rw [cycle, hquiet.1]
  show (if env.superseded k = true then _ else _) = _
  rw [if_neg (by rw [hquiet.2]; exact Bool.false_ne_true), hpoll]

theorem cycle_of_outcome (hquiet : Quiet env k) {outcome : PollOutcome}
    (hpoll : env.poll k = .ok outcome) (st : PollState) :
    cycle env device k st = match judge env k st.failures outcome with
      | some ending => (st.after outcome, .stop (some ending))
      | none =>
        if deadline env device ≤ env.clock k then
          (st.after outcome, .stop (some (.error (.expired "device code expired"))))
        else (restedState env device k st outcome, .again) := by
  rw [cycle, hquiet.1]
  show (if env.superseded k = true then _ else _) = _
  rw [if_neg (by rw [hquiet.2]; exact Bool.false_ne_true), hpoll]
  rfl

/-- The loop goes on after the polls that pass, and no others. -/
theorem cycle_again_iff {st st' : PollState} (h : Tracks env device k st) :
    cycle env device (k + 1) st = (st', .again) ↔
      Passes env device (k + 1) ∧
        ∃ outcome, env.poll (k + 1) = .ok outcome ∧
          st' = restedState env device (k + 1) st outcome := by
  constructor
  · intro hcycle
    by_cases hquiet : Quiet env (k + 1)
    case neg =>
      obtain ⟨text, heq⟩ := cycle_of_not_quiet device hquiet st
      exact nomatch heq.symm.trans hcycle
    cases hpoll : env.poll (k + 1) with
    | error e => exact nomatch (cycle_of_raise hquiet hpoll st).symm.trans hcycle
    | ok outcome =>
      rw [cycle_of_outcome hquiet hpoll, h.failures] at hcycle
      cases hjudge : judge env (k + 1) (streak env k) outcome with
      | some ending =>
        rw [hjudge] at hcycle
        exact nomatch hcycle
      | none =>
        rw [hjudge] at hcycle
        by_cases hlate : deadline env device ≤ env.clock (k + 1)
        · simp only [if_pos hlate] at hcycle
          exact nomatch hcycle
        · simp only [if_neg hlate] at hcycle
          exact ⟨⟨hquiet, (judge_eq_none_iff hpoll).mp hjudge, not_le.mp hlate⟩, outcome, rfl,
            (congrArg Prod.fst hcycle).symm⟩
  · rintro ⟨⟨hquiet, hundecided, htime⟩, outcome, hpoll, rfl⟩
    rw [cycle_of_outcome hquiet hpoll, h.failures, (judge_eq_none_iff hpoll).mpr hundecided]
    simp only [if_neg (not_le.mpr htime)]

/-- A turn ends the polling with a token when it makes a poll that is approved, and the last
    look finds the attempt not superseded. -/
theorem cycle_token_iff (st : PollState) (token : TokenResponse) :
    (cycle env device k st).2 = .stop (some (.ok token)) ↔
      Quiet env k ∧ env.poll k = .ok (.approved token) ∧ env.supersededLast k = false := by
  constructor
  · intro hcycle
    by_cases hquiet : Quiet env k
    case neg =>
      obtain ⟨text, heq⟩ := cycle_of_not_quiet device hquiet st
      rw [heq] at hcycle
      exact nomatch hcycle
    refine ⟨hquiet, ?_⟩
    cases hpoll : env.poll k with
    | error e =>
      rw [cycle_of_raise hquiet hpoll] at hcycle
      exact nomatch hcycle
    | ok outcome =>
      rw [cycle_of_outcome hquiet hpoll] at hcycle
      cases hjudge : judge env k st.failures outcome with
      | none =>
        rw [hjudge] at hcycle
        by_cases hlate : deadline env device ≤ env.clock k
        · simp only [if_pos hlate] at hcycle
          exact nomatch hcycle
        · simp only [if_neg hlate] at hcycle
          exact nomatch hcycle
      | some ending =>
        rw [hjudge] at hcycle
        obtain rfl : ending = .ok token := Option.some.inj (Verdict.stop.inj hcycle)
        exact judge_token hjudge
  · rintro ⟨hquiet, hpoll, hlast⟩
    rw [cycle_of_outcome hquiet hpoll, judge, hlast]
    rfl

@[simp] theorem sleep_interval (st : PollState) (span : Rat) :
    (st.sleep span).interval = st.interval := by
  rw [PollState.sleep]
  by_cases h : 0 < span
  · rw [if_pos h]
  · rw [if_neg h]

@[simp] theorem sleep_failures (st : PollState) (span : Rat) :
    (st.sleep span).failures = st.failures := by
  rw [PollState.sleep]
  by_cases h : 0 < span
  · rw [if_pos h]
  · rw [if_neg h]

/-- A turn that makes a poll sets the interval by its outcome. -/
theorem cycle_interval_of_outcome (hquiet : Quiet env k) {outcome : PollOutcome}
    (hpoll : env.poll k = .ok outcome) (st : PollState) :
    (cycle env device k st).1.interval = nextInterval st.interval outcome := by
  rw [cycle_of_outcome hquiet hpoll]
  cases judge env k st.failures outcome with
  | some ending => rfl
  | none =>
    by_cases hlate : deadline env device ≤ env.clock k
    · simp only [if_pos hlate]
      rfl
    · simp only [if_neg hlate, restedState, sleep_interval]
      rfl

/-- The loop keeps track of the interval and of the failures in a row. -/
theorem Tracks.rested {st : PollState} (h : Tracks env device k st) {outcome : PollOutcome}
    (hpoll : env.poll (k + 1) = .ok outcome) (hundecided : Undecided env (k + 1)) :
    Tracks env device (k + 1) (restedState env device (k + 1) st outcome) := by
  constructor
  · rw [restedState, sleep_interval, nextInterval_of_poll hpoll, ← h.interval]
    rfl
  · rw [restedState, sleep_failures, ← nextFailures_of_undecided hpoll hundecided, ← h.failures]
    rfl

/-- The states of the loop. -/
abbrev Polled (env : PollEnv) (device : DeviceAuthorizationResponse) : Nat → PollState → Prop :=
  Reaches (cycle env device) (initial device)

theorem tracks_of_polled {st : PollState} (h : Polled env device k st) :
    Went env device k ∧ Tracks env device k st := by
  induction h with
  | start => exact ⟨went_zero, rfl, rfl⟩
  | next _ hstep ih =>
    obtain ⟨hwent, htracks⟩ := ih
    obtain ⟨hpasses, outcome, hpoll, rfl⟩ := (cycle_again_iff htracks).mp hstep
    exact ⟨went_succ.mpr ⟨hwent, hpasses⟩, htracks.rested hpoll hpasses.undecided⟩

/-- The loop gets to every poll whose predecessors pass. -/
theorem polled_of_went (h : Went env device k) : ∃ st, Polled env device k st := by
  induction k with
  | zero => exact ⟨_, .start⟩
  | succ k ih =>
    obtain ⟨hwent, hpasses⟩ := went_succ.mp h
    obtain ⟨st, hst⟩ := ih hwent
    obtain ⟨outcome, hpoll⟩ := hpasses.undecided.outcome
    have hagain := (cycle_again_iff (tracks_of_polled hst).2).mpr ⟨hpasses, outcome, hpoll, rfl⟩
    exact ⟨_, hst.next hagain⟩

end Cycle

end KeyholeDevice
