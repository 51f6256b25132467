import Keyhole.FloatLiterals
import Keyhole.RetryFidelity

/-!
# The exceptions of the governed transport

Before another attempt the transport waits, as long as the server's `Retry-After` says or as its
own backoff computes; an answer that ends the call is decoded.  Either can raise an exception
that is none of the transport's own.

* `computeBackoffDelay`, `parseRetryAfter`, `sleepForBackoff`: the wait;
* `executeWaiting`: `execute` with these waits;
* `Closed`: the call returns an answer below 400 or raises one of the documented exceptions;
* `executeWaiting_closed_iff`: when it does. -/

namespace KeyholeTransportClosure

open KeyholeJson KeyholeTransport KeyholeRetryFidelity BoundedRetry
open Binary64 (Double nearest)
open KeyholeFloats (pyFloat)

/-! ## Waiting -/

/-- What the waits depend on: the rest of `RetryConfig`, what `random.uniform(0, ms)` draws at an
    attempt, and the finite times that `time.sleep` does not take. -/
structure Backoff where
  baseMs : ℤ := 250
  maxMs : ℤ := 5000
  respectRetryAfter : Bool := true
  jitter : Bool := true
  uniform : Nat → ℚ → ℚ
  rejects : ℚ → Bool

/-- `parse_retry_after`. -/
def parseRetryAfter (r : HttpResponse) : Option Double :=
  (header "Retry-After" r.headers).bind fun raw => pyFloat raw.toList

/-- `max(delay, 0.0)`. -/
def atLeastZero : Double → Double
  | .finite q => .finite (max q 0)
  | .infinite true => .finite 0
  | .infinite false => .infinite false
  | .nan => .nan

/-- The exponential backoff; `none` where the milliseconds are too large for a float. -/
def ownDelay (b : Backoff) (attempt : Nat) : Option Double :=
  (nearest (min (b.baseMs * 2 ^ (attempt - 1)) b.maxMs : ℤ)).map fun ms =>
    Double.ofRat ((if b.jitter then b.uniform attempt ms else ms) / 1000)

/-- `compute_backoff_delay`. -/
def computeBackoffDelay (b : Backoff) (attempt : Nat) (retryAfter : Option Double) :
    Option Double :=
  match retryAfter with
  | some seconds => if b.respectRetryAfter then some (atLeastZero seconds) else ownDelay b attempt
  | none => ownDelay b attempt

/-- `sleep_for_backoff` takes the delay: `time.sleep` is called for what is above zero. -/
def sleepForBackoff (b : Backoff) : Double → Bool
  | .finite q => !(decide (0 < q) && b.rejects q)
  | .infinite negative => negative
  | .nan => true

/-- What waiting after an attempt raises, if anything. -/
def waitRaises (b : Backoff) (attempt : Nat) (retryAfter : Option Double) : Option String :=
  match computeBackoffDelay b attempt retryAfter with
  | none => some "OverflowError"
  | some delay => if sleepForBackoff b delay then none else some "OverflowError"

/-- The wait after the outcome of an attempt. -/
def waitAfter (b : Backoff) (attempt : Nat) : AttemptOutcome → Option String
  | .failed _ => waitRaises b attempt none
  | .answered r => waitRaises b attempt (parseRetryAfter r)

/-- A transport with these waits. -/
def waiting (t : Transport) (b : Backoff) (outcomes : Nat → AttemptOutcome) : Transport :=
  { t with backoff := fun attempt => waitAfter b attempt (outcomes attempt) }

/-- `execute`, with what the waits raise. -/
def executeWaiting (t : Transport) (b : Backoff) (c : Call) (outcomes : Nat → AttemptOutcome) :
    Execution :=
  execute (waiting t b outcomes) c outcomes

/-! ## The error surface -/

/-- The exceptions that `execute` documents. -/
def documentedErrors : List String :=
  ["TransportUnknownError", "IdempotencyConflictError", "RateLimitedError", "RetryExhaustedError",
    "RuntimeUnavailableError", "PublicEndpointError", "SchemaError"]

/-- The call returns an answer below 400, or raises a documented exception. -/
def Closed : Ended → Prop
  | .ok result => result.statusCode < 400
  | .error e => e.errorClass ∈ documentedErrors

/-- The answer ends a call of that many attempts, and its body is decoded. -/
def Decoded (bound : Nat) (r : HttpResponse) : Prop :=
  r.statusCode ≠ 409 ∧ r.statusCode ≠ 429 ∧ (1 < bound → r.statusCode ∉ retryableStatuses) ∧
    r.statusCode < 500

/-- The body is not nested too deep; from 400 on, it is an object where it is JSON. -/
def BodyClear (r : HttpResponse) : Prop :=
  r.tooDeep = false ∧
    (400 ≤ r.statusCode → ∀ body, r.json = some body → ∃ fields, body = .obj fields)

/-- An attempt after which nothing else escapes: a body that is decoded is clear, and a wait
    before another attempt is taken. -/
structure AttemptClear (t : Transport) (b : Backoff) (c : Call) (attempt : Nat)
    (outcome : AttemptOutcome) : Prop where
  body : ∀ r, outcome = .answered r → Decoded (attemptBound t c) r → BodyClear r
  wait : attempt < attemptBound t c → ¬ AnsweredFinally outcome →
    waitAfter b attempt outcome = none

/-! ## One attempt -/

theorem waitRaises_class {b : Backoff} {attempt : Nat} {outcome : AttemptOutcome}
    {raised : String} (h : waitAfter b attempt outcome = some raised) :
    raised = "OverflowError" := by
  have hraises : ∀ retryAfter, waitRaises b attempt retryAfter = some raised →
      raised = "OverflowError" := by
    intro retryAfter hwait
    rw [waitRaises] at hwait
    cases hdelay : computeBackoffDelay b attempt retryAfter with
    | none =>
      rw [hdelay] at hwait
      exact (Option.some.inj hwait).symm
    | some delay =>
      rw [hdelay] at hwait
      dsimp only at hwait
      by_cases hsleep : sleepForBackoff b delay = true
      · rw [if_pos hsleep] at hwait
        exact nomatch hwait
      · rw [if_neg hsleep] at hwait
        exact (Option.some.inj hwait).symm
  cases outcome with
  | failed text => exact hraises none h
  | answered r => exact hraises (parseRetryAfter r) h

section Attempt

variable {t : Transport} {b : Backoff} {c : Call} {outcomes : Nat → AttemptOutcome}
  {attempt : Nat} {ended : Ended}

/-- A wait that ends the call ends it with an exception that is not documented. -/
theorem not_closed_of_wait (h : goOn (waiting t b outcomes) attempt = .stop ended) :
    waitAfter b attempt (outcomes attempt) ≠ none ∧ ¬ Closed ended := by
  rw [goOn] at h
  cases hwait : (waiting t b outcomes).backoff attempt with
  | none =>
    rw [hwait] at h
    exact nomatch h
  | some raised =>
    rw [hwait] at h
    obtain rfl := (Verdict.stop.inj h).symm
    have hraised : waitAfter b attempt (outcomes attempt) = some raised := hwait
    rw [hraised, waitRaises_class hraised]
    exact ⟨nofun, by simp [Closed, documentedErrors]⟩

/-- An attempt that may be followed by another one ends the call with a wait, or, as the last one,
    with a documented exception. -/
theorem closed_retry_iff {may : Prop} [Decidable may] {e : ExecuteError}
    (hdocumented : e.errorClass ∈ documentedErrors)
    (hmay : may ↔ attempt < attemptBound t c) (hfinal : ¬ AnsweredFinally (outcomes attempt))
    (hbody : ∀ r, outcomes attempt = .answered r → ¬ Decoded (attemptBound t c) r)
    (h : (if may then goOn (waiting t b outcomes) attempt else .stop (.error e)) = .stop ended) :
    Closed ended ↔ AttemptClear t b c attempt (outcomes attempt) := by
  by_cases hon : may
  · rw [if_pos hon] at h
    obtain ⟨hwait, hopen⟩ := not_closed_of_wait h
    exact ⟨fun hclosed => absurd hclosed hopen,
      fun hclear => absurd (hclear.wait (hmay.mp hon) hfinal) hwait⟩
  · rw [if_neg hon] at h
    obtain rfl := (Verdict.stop.inj h).symm
    constructor
    · intro _
      exact ⟨fun r hr hdecoded => absurd hdecoded (hbody r hr),
        fun hlt => absurd (hmay.mpr hlt) hon⟩
    · intro _
      exact hdocumented

/-- An answer that ends the call. -/
theorem closed_finalAnswer_iff (proof : TransportProofMetadata) (r : HttpResponse) :
    Closed (finalAnswer proof r) ↔ r.statusCode < 500 → BodyClear r := by
  rw [finalAnswer]
  by_cases hclient : 400 ≤ r.statusCode
  · rw [if_pos hclient, errorAnswer]
    by_cases hserver : 500 ≤ r.statusCode
    · rw [if_pos hserver]
      refine ⟨fun _ hlow => absurd hserver (Nat.not_le_of_lt hlow), fun _ => ?_⟩
      simp [Closed, documentedErrors]
    · rw [if_neg hserver]
      have hlow : r.statusCode < 500 := Nat.lt_of_not_le hserver
      by_cases hdeep : r.tooDeep = true
      · rw [if_pos hdeep]
        constructor
        · intro hclosed
          simp [Closed, recursionError, documentedErrors] at hclosed
        · intro hclear
          exact nomatch hdeep.symm.trans (hclear hlow).1
      · rw [if_neg hdeep]
        have hshallow := Bool.eq_false_iff.mpr hdeep
        cases hjson : r.json with
        | none =>
          refine ⟨fun _ _ => ⟨hshallow, fun _ body hbody => ?_⟩, fun _ => ?_⟩
          · exact nomatch hjson.symm.trans hbody
          · simp [Closed, documentedErrors]
        | some body =>
          cases body with
          | obj fields =>
            refine ⟨fun _ _ => ⟨hshallow, fun _ body hbody => ?_⟩, fun _ => ?_⟩
            · exact ⟨fields, Option.some.inj (hbody.symm.trans hjson)⟩
            · simp [Closed, documentedErrors]
          | _ =>
            constructor
            · intro hclosed
              simp [Closed, documentedErrors] at hclosed
            · intro hclear
              obtain ⟨fields, hfields⟩ := (hclear hlow).2 hclient _ hjson
              exact nomatch hfields
  · have hlow : r.statusCode < 500 := by omega
    rw [if_neg hclient]
    by_cases hdeep : r.tooDeep = true
    · rw [if_pos hdeep]
      constructor
      · intro hclosed
        simp [Closed, recursionError, documentedErrors] at hclosed
      · intro hclear
        exact nomatch hdeep.symm.trans (hclear hlow).1
    · rw [if_neg hdeep]
      refine ⟨fun _ _ => ⟨Bool.eq_false_iff.mpr hdeep, fun h => absurd h hclient⟩, fun _ => ?_⟩
      cases r.json with
      | none => simp [Closed, documentedErrors]
      | some data => exact Nat.lt_of_not_le hclient

/-- The attempt that ends a call ends it as it should exactly where it is clear. -/
theorem closed_verdict_iff (hpos : 0 < attempt) {key : Option String}
    {proof : TransportProofMetadata}
    (h : verdict (waiting t b outcomes) (retryPolicy t c) (attemptBound t c) attempt key proof
      (outcomes attempt) = .stop ended) :
    Closed ended ↔ AttemptClear t b c attempt (outcomes attempt) := by
  have hmay : (attempt < attemptBound t c ∧ retryPolicy t c ≠ .noRetry) ↔
      attempt < attemptBound t c :=
    ⟨fun hon => hon.1, fun hlt => ⟨hlt, retries_of_bound (by omega)⟩⟩
  cases houtcome : outcomes attempt with
  | failed text =>
    rw [houtcome] at h
    rw [← houtcome]
    refine closed_retry_iff (by simp [documentedErrors]) hmay ?_ ?_ h
    · rw [houtcome]
      exact id
    · intro r hr
      exact nomatch houtcome.symm.trans hr
  | answered r =>
    rw [houtcome] at h
    have hsame : ∀ r', outcomes attempt = .answered r' → r' = r := by
      intro r' hr'
      exact AttemptOutcome.answered.inj (hr'.symm.trans houtcome)
    rw [verdict, answeredVerdict] at h
    by_cases hconflict : isConflictStatus r.statusCode = true
    · rw [if_pos hconflict] at h
      obtain rfl := (Verdict.stop.inj h).symm
      have hcode : r.statusCode = 409 := beq_iff_eq.mp hconflict
      refine ⟨fun _ => ⟨?_, fun _ hfinal => absurd ?_ hfinal⟩, fun _ => ?_⟩
      · rintro _ ⟨⟩ hdecoded
        exact absurd hcode hdecoded.1
      · show r.statusCode ∉ retryableStatuses
        rw [hcode]
        decide
      · simp [Closed, documentedErrors]
    rw [if_neg hconflict] at h
    by_cases hlimited : isRateLimited r.statusCode = true
    · rw [if_pos hlimited] at h
      rw [← houtcome]
      refine closed_retry_iff (by simp [documentedErrors]) hmay ?_ ?_ h
      · rw [houtcome]
        exact not_final_of_rateLimited hlimited
      · intro r' hr' hdecoded
        rw [hsame r' hr'] at hdecoded
        exact hdecoded.2.1 (beq_iff_eq.mp hlimited)
    rw [if_neg hlimited] at h
    by_cases hretryable : (isRetryableStatus r.statusCode && decide (1 < attemptBound t c)) = true
    · rw [if_pos hretryable] at h
      obtain ⟨hstatus, hbound⟩ := Bool.and_eq_true_iff.mp hretryable
      rw [← houtcome]
      refine closed_retry_iff (by simp [documentedErrors]) Iff.rfl ?_ ?_ h
      · rw [houtcome]
        exact not_final_of_retryable hstatus
      · intro r' hr' hdecoded
        rw [hsame r' hr'] at hdecoded
        exact hdecoded.2.2.1 (of_decide_eq_true hbound) (List.contains_iff_mem.mp hstatus)
    · rw [if_neg hretryable] at h
      obtain rfl := (Verdict.stop.inj h).symm
      have hretried : 1 < attemptBound t c → r.statusCode ∉ retryableStatuses := by
        intro hbound hstatus
        refine hretryable (Bool.and_eq_true_iff.mpr ⟨?_, decide_eq_true hbound⟩)
        exact List.contains_iff_mem.mpr hstatus
      rw [closed_finalAnswer_iff]
      constructor
      · intro hbody
        constructor
        · rintro _ ⟨⟩ hdecoded
          exact hbody hdecoded.2.2.2
        · intro hlt hfinal
          exact absurd (hretried (by omega)) hfinal
      · intro hclear hlow
        refine hclear.body r rfl ⟨?_, ?_, hretried, hlow⟩
        · intro hcode
          exact hconflict (beq_iff_eq.mpr hcode)
        · intro hcode
          exact hlimited (beq_iff_eq.mpr hcode)

end Attempt

/-! ## A call -/

section Call

variable {t : Transport} {b : Backoff} {c : Call}

/-- A call ends with an attempt that decides it, after attempts that were all retried. -/
theorem execute_ends (outcomes : Nat → AttemptOutcome) (h : refuses t c = false) :
    ∃ n key proof, 0 < n ∧ Reached t c outcomes n ∧
      verdict t (retryPolicy t c) (attemptBound t c) n key proof (outcomes n) =
        .stop (execute t c outcomes).ended := by
  have hdecided : Decided (After t c) (Retried t c outcomes)
      (fun n _ ended => ∃ key proof, verdict t (retryPolicy t c) (attemptBound t c) n key proof
        (outcomes n) = .stop ended) 0 (attemptBound t c)
      (loop (attemptOnce t c outcomes) (.error (exhaustedError t c)) (attemptBound t c) 1
        (initialState t c)) := by
    refine loop_decided (fun k s hk => after_attempt hk) ?_ ?_ attemptBound_pos
      (fun hlast => Nat.lt_irrefl _ hlast.1) after_initial
    · intro k s _ hagain
      exact (verdict_again_iff (Nat.succ_pos k) _ _).mp hagain
    · intro k s ended _ hstop
      exact ⟨_, _, hstop⟩
  obtain ⟨n, hpos, -, -, hons, key, proof, hverdict⟩ := hdecided
  rw [execute_eq outcomes h]
  exact ⟨n, key, proof, hpos, hons, hverdict⟩

/-- The error surface of a call is closed exactly where the call is not refused and every attempt
    that it gets to is clear. -/
theorem executeWaiting_closed_iff (t : Transport) (b : Backoff) (c : Call)
    (outcomes : Nat → AttemptOutcome) :
    Closed (executeWaiting t b c outcomes).ended ↔
      refuses t c = false ∧ ∀ k, 0 < k → Reached (waiting t b outcomes) c outcomes k →
        AttemptClear t b c k (outcomes k) := by
  cases hrefuses : refuses t c with
  | true =>
    have hended : (executeWaiting t b c outcomes).ended = .error (missingKeyError c) := by
      have hwaiting : refuses (waiting t b outcomes) c = true := hrefuses
      rw [executeWaiting, execute, if_pos hwaiting]
    rw [hended]
    constructor
    · intro hclosed
      simp [Closed, missingKeyError, documentedErrors] at hclosed
    · rintro ⟨hfalse, -⟩
      cases hfalse
  | false =>
    obtain ⟨n, key, proof, hpos, hreached, hverdict⟩ :=
      execute_ends (t := waiting t b outcomes) outcomes hrefuses
    have hlast := closed_verdict_iff hpos hverdict
    constructor
    · intro hclosed
      refine ⟨rfl, fun k hk hkreached => ?_⟩
      rcases Nat.lt_trichotomy k n with hlt | rfl | hgt
      · -- a retried attempt is not decoded, and its wait was taken
        obtain ⟨hbound, hfinal, hwait⟩ := hreached k hk hlt
        refine ⟨fun r hr hdecoded => absurd ?_ hfinal, fun _ _ => hwait⟩
        rw [hr]
        exact hdecoded.2.2.1 (Nat.lt_of_le_of_lt hk hbound)
      · exact hlast.mp hclosed
      · have hagain := (verdict_again_iff hpos key proof).mpr (hkreached n hpos hgt)
        cases hagain.symm.trans hverdict
    · rintro ⟨-, hclear⟩
      exact hlast.mpr (hclear n hpos hreached)

end Call

/-! ## A rejection that is no object -/

/-- Waits without a draw, which `time.sleep` takes. -/
def plainBackoff : Backoff where
  uniform := fun _ ms => ms
  rejects := fun _ => false

/-- Every request is answered by a list of what is wrong with it. -/
def badRequest (_ : Nat) : AttemptOutcome :=
  .answered { statusCode := 400, json := some (.arr [.str "unknown parameter"]) }

/-- An exception that is not documented escapes. -/
theorem badRequest_escapes : ¬ Closed (executeWaiting (sampleTransport builtinRegistry)
    plainBackoff tracedCall badRequest).ended := by
  have hrefuses : refuses (waiting (sampleTransport builtinRegistry) plainBackoff badRequest)
      tracedCall = false := by
    refine builtin_not_refused rfl ?_ tracedCall
    simp [waiting, sampleTransport]
  obtain ⟨n, key, proof, hpos, -, hverdict⟩ := execute_ends
    (t := waiting (sampleTransport builtinRegistry) plainBackoff badRequest) badRequest hrefuses
  rw [executeWaiting, closed_verdict_iff (t := sampleTransport builtinRegistry)
    (b := plainBackoff) (c := tracedCall) hpos hverdict]
  intro hclear
  have hdecoded : Decoded (attemptBound (sampleTransport builtinRegistry) tracedCall)
      { statusCode := 400, json := some (.arr [.str "unknown parameter"]) } := by
    simp [Decoded, retryableStatuses]
  obtain ⟨fields, hfields⟩ := (hclear.body _ rfl hdecoded).2 (by decide) _ rfl
  exact nomatch hfields

end KeyholeTransportClosure
