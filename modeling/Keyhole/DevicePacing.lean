import Keyhole.DevicePolling

/-!
# How often a device is polled

A `slow_down` answer adds five seconds to the polling interval, up to a minute. A server may ask
for an interval that is already longer; the addition then shortens it.

* `Advances`: a clock that goes on by what the loop sleeps at least;
* `went_le_lifetime`: the loop goes past one poll for each second of the code's life at most;
* `ObeysRfc`: the ending, the token and the pace of a polling;
* `obeys_iff_never_capped`: they are as they should be exactly when no `slow_down` answer takes
  the interval past a minute. -/

namespace KeyholeDevice

open KeyholeJson KeyholeLogin BoundedRetry

/-- The `k`th poll is made. -/
structure Made (env : PollEnv) (device : DeviceAuthorizationResponse) (k : Nat) : Prop where
  before : ∀ j, 0 < j → j < k → Passes env device j
  quiet : Quiet env k

/-- The clock goes on by what the loop sleeps, or by more. -/
def Advances (env : PollEnv) (device : DeviceAuthorizationResponse) : Prop :=
  ∀ k, Went env device k → env.clock k + sleptAfter env device k ≤ env.clock (k + 1)

/-- The `slow_down` answers among the first `k` polls. -/
def slowDowns (env : PollEnv) : Nat → Nat
  | 0 => 0
  | k + 1 =>
      match env.poll (k + 1) with
      | .ok .slowDown => slowDowns env k + 1
      | _ => slowDowns env k

section Pace

variable {env : PollEnv} {device : DeviceAuthorizationResponse} {k : Nat}

theorem made_succ_iff : Made env device (k + 1) ↔ Went env device k ∧ Quiet env (k + 1) := by
  constructor
  · intro h
    exact ⟨fun j hpos hle => h.before j hpos (Nat.lt_succ_of_le hle), h.quiet⟩
  · rintro ⟨hwent, hquiet⟩
    exact ⟨fun j hpos hlt => hwent j hpos (Nat.le_of_lt_succ hlt), hquiet⟩

theorem slowDowns_slowDown (h : env.poll (k + 1) = .ok .slowDown) :
    slowDowns env (k + 1) = slowDowns env k + 1 := by
  rw [slowDowns, h]

/-- An outcome leaves the interval and the count of `slow_down` answers alone, unless it is
    one. -/
theorem pace_of_other (device : DeviceAuthorizationResponse)
    (hpoll : env.poll (k + 1) ≠ .ok .slowDown) :
    intervalAfter env device (k + 1) = intervalAfter env device k ∧
      slowDowns env (k + 1) = slowDowns env k := by
  rw [intervalAfter, slowDowns]
  cases h : env.poll (k + 1) with
  | error e => exact ⟨rfl, rfl⟩
  | ok outcome =>
    cases outcome with
    | slowDown => exact absurd h hpoll
    | pending => exact ⟨rfl, rfl⟩
    | approved token => exact ⟨rfl, rfl⟩
    | denied detail => exact ⟨rfl, rfl⟩
    | expired detail => exact ⟨rfl, rfl⟩
    | networkError detail => exact ⟨rfl, rfl⟩

theorem interval_slowDown (h : env.poll (k + 1) = .ok .slowDown) :
    intervalAfter env device (k + 1) = min (intervalAfter env device k + 5) 60 := by
  rw [nextInterval_of_poll h]
  rfl

/-- The interval stays a second at least. -/
theorem one_le_interval (h : 1 ≤ device.interval) (k : Nat) : 1 ≤ intervalAfter env device k := by
  induction k with
  | zero => exact h
  | succ k ih =>
    by_cases hpoll : env.poll (k + 1) = .ok .slowDown
    · rw [interval_slowDown hpoll]
      exact le_min (by omega) (by decide)
    · rw [(pace_of_other device hpoll).1]
      exact ih

/-! ## The end of the polling -/

/-- A sleep is the interval, or lasts to the deadline. -/
theorem sleepFor_of_lt {interval : Int} {deadline now : Rat} (h : now < deadline) :
    sleepFor interval deadline now = min (interval : Rat) (deadline - now) := by
  rw [sleepFor, max_eq_right (sub_nonneg.mpr (le_of_lt h))]

theorem clock_after (hinterval : 1 ≤ device.interval) (hclock : Advances env device)
    (h : Went env device k) :
    min (deadline env device) (env.clock 0 + k) ≤ env.clock k + sleptAfter env device k := by
  induction k with
  | zero =>
    refine le_trans (min_le_right _ _) ?_
    rw [sleptAfter, Nat.cast_zero]
  | succ k ih =>
    obtain ⟨hwent, hpasses⟩ := went_succ.mp h
    have hnow : env.clock 0 + k ≤ env.clock (k + 1) := by
      rcases min_le_iff.mp (le_trans (ih hwent) (hclock k hwent)) with hlate | hnow
      · exact absurd hpasses.inTime (not_lt.mpr hlate)
      · exact hnow
    have hone : (1 : Rat) ≤ intervalAfter env device (k + 1) :=
      Int.cast_one_le_of_pos (one_le_interval hinterval (k + 1))
    rw [sleptAfter, sleepFor_of_lt hpasses.inTime]
    rcases min_choice ((intervalAfter env device (k + 1) : Int) : Rat)
        (deadline env device - env.clock (k + 1)) with hfull | hcut
    · rw [hfull]
      refine le_trans (min_le_right _ _) ?_
      push_cast
      linarith
    · rw [hcut]
      exact le_trans (min_le_left _ _) (by linarith)

/-- The loop goes past one poll for each second of the code's life at most. -/
theorem went_le_lifetime (hinterval : 1 ≤ device.interval) (hlife : 60 ≤ device.expiresIn)
    (hclock : Advances env device) (h : Went env device k) : (k : Int) ≤ device.expiresIn := by
  cases k with
  | zero => omega
  | succ k =>
    obtain ⟨hwent, hpasses⟩ := went_succ.mp h
    have hnow := le_trans (clock_after hinterval hclock hwent) (hclock k hwent)
    have hlt : env.clock 0 + k < deadline env device := by
      rcases min_le_iff.mp hnow with hlate | hnow
      · exact absurd hpasses.inTime (not_lt.mpr hlate)
      · exact lt_of_le_of_lt hnow hpasses.inTime
    rw [deadline] at hlt
    have hcast : ((k : Int) : Rat) < (device.expiresIn : Rat) := by
      rw [Int.cast_natCast]
      linarith
    have := Int.cast_lt.mp hcast
    omega

/-- Whatever ends the polling is given. -/
theorem ending_of_stop {st st' : PollState} {a : Option (Except DeviceError TokenResponse)}
    (h : cycle env device k st = (st', .stop a)) : ∃ ending, a = some ending := by
  by_cases hquiet : Quiet env k
  case neg =>
    obtain ⟨text, heq⟩ := cycle_of_not_quiet device hquiet st
    cases heq.symm.trans h
    exact ⟨_, rfl⟩
  cases hpoll : env.poll k with
  | error e =>
    cases (cycle_of_raise hquiet hpoll st).symm.trans h
    exact ⟨_, rfl⟩
  | ok outcome =>
    rw [cycle_of_outcome hquiet hpoll] at h
    cases hjudge : judge env k st.failures outcome with
    | some ending =>
      rw [hjudge] at h
      cases h
      exact ⟨ending, rfl⟩
    | none =>
      rw [hjudge] at h
      by_cases hlate : deadline env device ≤ env.clock k
      · simp only [if_pos hlate] at h
        cases h
        exact ⟨_, rfl⟩
      · simp only [if_neg hlate] at h
        exact nomatch h

/-- The polling comes to an end, after one poll more than the code has seconds to live at
    most. -/
theorem pollForToken_ends (hinterval : 1 ≤ device.interval) (hlife : 60 ≤ device.expiresIn)
    (hclock : Advances env device) :
    ∃ n ending, n ≤ device.expiresIn.toNat + 1 ∧
      ∀ fuel, n ≤ fuel → (pollForToken env device fuel).1 = some ending := by
  rcases loop_of_reaches none (.start : Polled env device 0 (initial device))
      (device.expiresIn.toNat + 1) with ⟨j, st, st', a, -, hlt, hj, hstop, -⟩ | ⟨st, hall, -⟩
  · obtain ⟨ending, rfl⟩ := ending_of_stop hstop
    refine ⟨j + 1, ending, by omega, fun fuel hfuel => ?_⟩
    rw [pollForToken, loop_eq_of_stop hj hstop hfuel]
  · have := went_le_lifetime hinterval hlife hclock (tracks_of_polled hall).1
    omega

/-- A token is returned for an approval that the loop gets to, if the last look finds the
    attempt not superseded. -/
theorem pollForToken_token_iff (token : TokenResponse) :
    (∃ fuel, (pollForToken env device fuel).1 = some (.ok token)) ↔
      ∃ k, 0 < k ∧ Made env device k ∧ env.poll k = .ok (.approved token) ∧
        env.supersededLast k = false := by
  constructor
  · rintro ⟨fuel, htoken⟩
    rw [pollForToken] at htoken
    rcases loop_of_reaches none (.start : Polled env device 0 (initial device)) fuel with
      ⟨j, st, st', a, -, -, hj, hstop, heq⟩ | ⟨st, -, heq⟩
    · rw [heq] at htoken
      obtain rfl : a = some (.ok token) := htoken
      obtain ⟨hquiet, hpoll, hlast⟩ := (cycle_token_iff st token).mp (congrArg Prod.snd hstop)
      have hmade := made_succ_iff.mpr ⟨(tracks_of_polled hj).1, hquiet⟩
      exact ⟨j + 1, Nat.succ_pos j, hmade, hpoll, hlast⟩
    · rw [heq] at htoken
      exact nomatch htoken
  · rintro ⟨k, hpos, hmade, hpoll, hlast⟩
    obtain ⟨j, rfl⟩ : ∃ j, k = j + 1 := ⟨k - 1, by omega⟩
    obtain ⟨hwent, hquiet⟩ := made_succ_iff.mp hmade
    obtain ⟨st, hst⟩ := polled_of_went hwent
    have hstop : cycle env device (j + 1) st
        = ((cycle env device (j + 1) st).1, .stop (some (.ok token))) :=
      Prod.ext rfl ((cycle_token_iff st token).mpr ⟨hquiet, hpoll, hlast⟩)
    exact ⟨j + 1, congrArg Prod.fst (loop_eq_of_stop hst hstop (Nat.lt_succ_self j))⟩

/-! ## The pace of the polling -/

/-- A turn leaves the interval alone unless its poll is answered by `slow_down`. -/
theorem cycle_interval_of_other (hpoll : env.poll k ≠ .ok .slowDown) {st : PollState} :
    (cycle env device k st).1.interval = st.interval := by
  by_cases hquiet : Quiet env k
  case neg =>
    obtain ⟨text, heq⟩ := cycle_of_not_quiet device hquiet st
    rw [heq]
  cases h : env.poll k with
  | error e => rw [cycle_of_raise hquiet h]
  | ok outcome =>
    rw [cycle_interval_of_outcome hquiet h]
    cases outcome with
    | slowDown => exact absurd h hpoll
    | pending => rfl
    | approved token => rfl
    | denied detail => rfl
    | expired detail => rfl
    | networkError detail => rfl

/-- A turn that goes on sleeps for the interval in full, or until the deadline; it is the last
    turn to go on, then. -/
theorem sleeps_in_full (hinterval : 1 ≤ device.interval) (hclock : Advances env device)
    {st st' : PollState} (hst : Polled env device k st)
    (hcycle : cycle env device (k + 1) st = (st', .again)) :
    ∃ span : Rat, 0 < span ∧ st'.sleeps = span :: st.sleeps ∧
      (span = st'.interval ∨ (span < st'.interval ∧
        env.clock (k + 1) + span = deadline env device ∧
        ∀ st'', cycle env device (k + 2) st' ≠ (st'', .again))) := by
  obtain ⟨hwent', htracks'⟩ := tracks_of_polled (hst.next hcycle)
  obtain ⟨hpasses, outcome, hpoll, rfl⟩ := (cycle_again_iff (tracks_of_polled hst).2).mp hcycle
  have hspan : sleepFor (st.after outcome).interval (deadline env device) (env.clock (k + 1))
      = sleptAfter env device (k + 1) := by
    rw [sleptAfter, ← htracks'.interval, restedState, sleep_interval]
  have hone : (1 : Rat) ≤ intervalAfter env device (k + 1) :=
    Int.cast_one_le_of_pos (one_le_interval hinterval (k + 1))
  have hslept : sleepFor (intervalAfter env device (k + 1)) (deadline env device)
      (env.clock (k + 1)) = min ((intervalAfter env device (k + 1) : Int) : Rat)
        (deadline env device - env.clock (k + 1)) := sleepFor_of_lt hpasses.inTime
  have hpos : 0 < sleptAfter env device (k + 1) := by
    rw [sleptAfter, hslept]
    exact lt_min (by linarith) (sub_pos.mpr hpasses.inTime)
  refine ⟨sleptAfter env device (k + 1), hpos, ?_, ?_⟩
  · rw [restedState, hspan, PollState.sleep, if_pos hpos]
    rfl
  · rw [htracks'.interval]
    by_cases hfull : (intervalAfter env device (k + 1) : Rat)
        ≤ deadline env device - env.clock (k + 1)
    · left
      rw [sleptAfter, hslept, min_eq_left hfull]
    · right
      have hcut := not_le.mp hfull
      have hsleep : sleptAfter env device (k + 1) = deadline env device - env.clock (k + 1) := by
        rw [sleptAfter, hslept, min_eq_right (le_of_lt hcut)]
      refine ⟨by rw [hsleep]; exact hcut, by rw [hsleep]; linarith, fun st'' hnext => ?_⟩
      -- the clock shows the deadline, or later, after the next poll
      have hlate := hclock (k + 1) hwent'
      rw [hsleep] at hlate
      obtain ⟨hpasses', -⟩ := (cycle_again_iff htracks').mp hnext
      have := hpasses'.inTime
      rw [show k + 1 + 1 = k + 2 from rfl] at hlate this
      linarith

/-- Polling a device, as it should be. -/
structure ObeysRfc (env : PollEnv) (device : DeviceAuthorizationResponse) : Prop where
  ends : ∃ n ending, n ≤ device.expiresIn.toNat + 1 ∧
    ∀ fuel, n ≤ fuel → (pollForToken env device fuel).1 = some ending
  token : ∀ token, (∃ fuel, (pollForToken env device fuel).1 = some (.ok token)) ↔
    ∃ k, 0 < k ∧ Made env device k ∧ env.poll k = .ok (.approved token) ∧
      env.supersededLast k = false
  floor : ∀ k st, Polled env device k st → device.interval ≤ st.interval ∧
    device.interval ≤ (cycle env device (k + 1) st).1.interval
  growth : ∀ k st, Polled env device k st → Made env device (k + 1) →
    env.poll (k + 1) = .ok .slowDown →
    (cycle env device (k + 1) st).1.interval = st.interval + 5
  sleeps : ∀ k st st', Polled env device k st → cycle env device (k + 1) st = (st', .again) →
    ∃ span : Rat, 0 < span ∧ st'.sleeps = span :: st.sleeps ∧
      (span = st'.interval ∨ (span < st'.interval ∧
        env.clock (k + 1) + span = deadline env device ∧
        ∀ st'', cycle env device (k + 2) st' ≠ (st'', .again)))

/-- No `slow_down` answer takes the interval past a minute. -/
def NeverCapped (env : PollEnv) (device : DeviceAuthorizationResponse) : Prop :=
  ∀ k, 0 < k → Made env device k → env.poll k = .ok .slowDown →
    device.interval + 5 * (slowDowns env k : Int) ≤ 60

/-- A `slow_down` answer adds its five seconds when the interval is `55` at most. -/
def Uncapped (env : PollEnv) (device : DeviceAuthorizationResponse) (k : Nat) : Prop :=
  Made env device (k + 1) → env.poll (k + 1) = .ok .slowDown → intervalAfter env device k + 5 ≤ 60

/-- Until then the interval grows by five seconds with each `slow_down` answer. -/
theorem interval_of_uncapped (h : ∀ j, j < k → Uncapped env device j)
    (hwent : Went env device k) :
    intervalAfter env device k = device.interval + 5 * (slowDowns env k : Int) := by
  induction k with
  | zero =>
    rw [intervalAfter, slowDowns]
    omega
  | succ k ih =>
    obtain ⟨hbefore, hpasses⟩ := went_succ.mp hwent
    have hprev := ih (fun j hj => h j (Nat.lt_succ_of_lt hj)) hbefore
    by_cases hpoll : env.poll (k + 1) = .ok .slowDown
    · have hcap := h k (Nat.lt_succ_self k) (made_succ_iff.mpr ⟨hbefore, hpasses.quiet⟩) hpoll
      rw [interval_slowDown hpoll, min_eq_left hcap, hprev, slowDowns_slowDown hpoll]
      push_cast
      omega
    · obtain ⟨hinterval, hcount⟩ := pace_of_other device hpoll
      rw [hinterval, hcount]
      exact hprev

theorem neverCapped_iff : NeverCapped env device ↔ ∀ k, Uncapped env device k := by
  constructor
  · intro h k
    induction k using Nat.strong_induction_on with
    | _ k ih =>
      intro hmade hpoll
      have hcap := h (k + 1) (Nat.succ_pos k) hmade hpoll
      rw [slowDowns_slowDown hpoll] at hcap
      rw [interval_of_uncapped ih (made_succ_iff.mp hmade).1]
      push_cast at hcap
      omega
  · intro h k hpos hmade hpoll
    obtain ⟨j, rfl⟩ : ∃ j, k = j + 1 := ⟨k - 1, by omega⟩
    have hcap := h j hmade hpoll
    rw [interval_of_uncapped (fun i _ => h i) (made_succ_iff.mp hmade).1] at hcap
    rw [slowDowns_slowDown hpoll]
    push_cast
    omega

/-- The interval of a turn that makes a poll answered by `slow_down`. -/
theorem cycle_slowDown {st : PollState} (hmade : Made env device (k + 1))
    (hpoll : env.poll (k + 1) = .ok .slowDown) :
    (cycle env device (k + 1) st).1.interval = min (st.interval + 5) 60 :=
  cycle_interval_of_outcome hmade.quiet hpoll st

/-- The interval is never below the device's when no answer is capped. -/
theorem interval_le_of_uncapped (h : ∀ k, Uncapped env device k) {st : PollState}
    (hst : Polled env device k st) : device.interval ≤ st.interval := by
  obtain ⟨hwent, htracks⟩ := tracks_of_polled hst
  rw [htracks.interval, interval_of_uncapped (fun j _ => h j) hwent]
  omega

/-- Polling is as it should be exactly when no `slow_down` answer takes the interval past a
    minute. -/
theorem obeys_iff_never_capped {int : Json → Except IntError Int} {data : Json}
    (hdevice : fromDict int data = .ok device) (hclock : Advances env device) :
    ObeysRfc env device ↔ NeverCapped env device := by
  obtain ⟨hlife, hinterval⟩ := fromDict_bounds hdevice
  rw [neverCapped_iff]
  constructor
  · intro h k hmade hpoll
    obtain ⟨st, hst⟩ := polled_of_went (made_succ_iff.mp hmade).1
    have hgrowth := h.growth k st hst hmade hpoll
    rw [cycle_slowDown hmade hpoll, (tracks_of_polled hst).2.interval] at hgrowth
    exact min_eq_left_iff.mp hgrowth
  · intro h
    constructor
    case ends => exact pollForToken_ends hinterval hlife hclock
    case token => exact pollForToken_token_iff
    case floor =>
      intro k st hst
      have hfloor := interval_le_of_uncapped h hst
      refine ⟨hfloor, ?_⟩
      by_cases hquiet : Quiet env (k + 1)
      case neg =>
        obtain ⟨text, heq⟩ := cycle_of_not_quiet device hquiet st
        rw [heq]
        exact hfloor
      have hmade := made_succ_iff.mpr ⟨(tracks_of_polled hst).1, hquiet⟩
      by_cases hpoll : env.poll (k + 1) = .ok .slowDown
      · have hcap := h k hmade hpoll
        rw [← (tracks_of_polled hst).2.interval] at hcap
        rw [cycle_slowDown hmade hpoll, min_eq_left hcap]
        omega
      · rw [cycle_interval_of_other hpoll]
        exact hfloor
    case growth =>
      intro k st hst hmade hpoll
      have hcap := h k hmade hpoll
      rw [← (tracks_of_polled hst).2.interval] at hcap
      rw [cycle_slowDown hmade hpoll, min_eq_left hcap]
    case sleeps =>
      intro k st st' hst hcycle
      exact sleeps_in_full hinterval hclock hst hcycle

end Pace

/-! ## A server that asks for two minutes -/

/-- `int`, on numbers only. -/
def plainInt : Json → Except IntError Int
  | .int n => .ok n
  | _ => .error .typeError

/-- A device authorization response with a polling interval. -/
def deviceData (interval : Int) : Json :=
  .obj [("device_code", .str "DEV"), ("user_code", .str "USER"),
    ("verification_uri", .str "https://x/device"), ("interval", .int interval)]

def deviceOf (interval : Int) : DeviceAuthorizationResponse where
  deviceCode := "DEV"
  userCode := "USER"
  verificationUri := "https://x/device"
  verificationUriComplete := none
  expiresIn := 900
  interval := interval

/-- The first poll is told to slow down, the second is approved. -/
def slowedEnv : PollEnv where
  poll := fun k => if k = 1 then .ok .slowDown else .ok (.approved { accessToken := "T" })
  cancelled := fun _ => none
  superseded := fun _ => false
  supersededLast := fun _ => false
  clock := fun k => 200 * k

theorem slowedEnv_made (interval : Int) : Made slowedEnv (deviceOf interval) 1 :=
  ⟨fun _ hpos hlt => absurd hpos (by omega), rfl, rfl⟩

theorem slowedEnv_advances (interval : Int) : Advances slowedEnv (deviceOf interval) := by
  intro k hwent
  match k with
  | 0 =>
    show (200 * ((0 : Nat) : Rat)) + 0 ≤ 200 * ((0 + 1 : Nat) : Rat)
    norm_num
  | 1 =>
    have hinterval : intervalAfter slowedEnv (deviceOf interval) 1 ≤ 60 := by
      rw [interval_slowDown rfl]
      exact min_le_right _ _
    have hslept : sleptAfter slowedEnv (deviceOf interval) 1 ≤ 60 :=
      le_trans (min_le_left _ _) (by exact_mod_cast hinterval)
    show (200 * ((1 : Nat) : Rat)) + _ ≤ 200 * ((1 + 1 : Nat) : Rat)
    push_cast
    linarith
  | k + 2 =>
    have hpasses := hwent 2 (by omega) (by omega)
    rcases (undecided_iff (show slowedEnv.poll 2 = .ok (.approved { accessToken := "T" }) from
      rfl)).mp hpasses.undecided with heq | heq | ⟨⟨detail, heq⟩, -⟩
    · exact nomatch heq
    · exact nomatch heq
    · exact nomatch heq

theorem slowed_polling : ObeysRfc slowedEnv (deviceOf 5) := by
  refine (obeys_iff_never_capped (rfl : fromDict plainInt (deviceData 5) = .ok (deviceOf 5))
    (slowedEnv_advances 5)).mpr ?_
  intro k _ _ hpoll
  by_cases hk : k = 1
  · subst hk
    decide
  · rw [show slowedEnv.poll k = .ok (.approved { accessToken := "T" }) from if_neg hk] at hpoll
    exact nomatch hpoll

/-- A server that wants two minutes between polls, and then more, is polled every minute. -/
theorem long_interval_shortened :
    fromDict plainInt (deviceData 120) = .ok (deviceOf 120) ∧
      Advances slowedEnv (deviceOf 120) ∧ ¬ ObeysRfc slowedEnv (deviceOf 120) := by
  refine ⟨rfl, slowedEnv_advances 120, fun h => ?_⟩
  have hfloor := (h.floor 0 (initial (deviceOf 120)) .start).2
  rw [cycle_slowDown (slowedEnv_made 120) rfl] at hfloor
  exact absurd hfloor (by decide)

end KeyholeDevice
