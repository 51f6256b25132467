import Keyhole.GovernedTransport

/-!
# What the attempts of one call have in common

`GovernedTransport.execute` takes the caller's headers out of its keyword arguments with
`kwargs.pop("headers", {})` in every attempt, so that only the first attempt finds any.

* `execute_reach`: which attempts a call makes;
* `lookup_attemptHeaders`: the value of a header is the transport's own, or else the caller's;
* `resendsSame_iff`: the attempts send the same request exactly where the transport itself puts
  into each retry what the first attempt carried. -/

namespace KeyholeRetryFidelity

open KeyholeJson KeyholeTransport BoundedRetry

/-! ## The attempts of a call -/

/-- The attempt is followed by another one. -/
def Retried (t : Transport) (c : Call) (outcomes : Nat → AttemptOutcome) (attempt : Nat) : Prop :=
  attempt < attemptBound t c ∧ ¬ AnsweredFinally (outcomes attempt) ∧ t.backoff attempt = none

section Attempts

variable {t : Transport} {c : Call} {outcomes : Nat → AttemptOutcome}

/-- A call with several attempts has a policy that retries. -/
theorem retries_of_bound (h : 1 < attemptBound t c) : retryPolicy t c ≠ .noRetry := by
  intro hpolicy
  rw [attemptBound_eq_one (.inr (.inl hpolicy))] at h
  exact Nat.lt_irrefl 1 h

theorem goOn_again_iff {attempt : Nat} :
    goOn t attempt = .again ↔ t.backoff attempt = none := by
  unfold goOn
  cases t.backoff attempt with
  | none => exact ⟨fun _ => rfl, fun _ => rfl⟩
  | some raised => exact ⟨nofun, nofun⟩

/-- A status that is retried is no conflict. -/
theorem not_conflict_of_retryable {statusCode : Nat} (h : statusCode ∈ retryableStatuses) :
    isConflictStatus statusCode = false := by
  rw [isConflictStatus, beq_eq_false_iff_ne]
  rintro rfl
  exact absurd h (by decide)

/-- The loop goes on exactly after an attempt that is retried. -/
theorem verdict_again_iff {attempt : Nat} (hpos : 0 < attempt) (key : Option String)
    (proof : TransportProofMetadata) :
    verdict t (retryPolicy t c) (attemptBound t c) attempt key proof (outcomes attempt) = .again
      ↔ Retried t c outcomes attempt := by
  constructor
  · intro h
    rcases weighed_verdict t (retryPolicy t c) (attemptBound t c) attempt key proof
        (outcomes attempt) with ⟨hgo, hlt, hfinal⟩ | ⟨e, hstop⟩ | ⟨r, -, hstop⟩
    · exact ⟨hlt, hfinal, goOn_again_iff.mp (hgo ▸ h)⟩
    · exact nomatch h.symm.trans hstop
    · exact nomatch h.symm.trans hstop
  · intro ⟨hlt, hfinal, hwait⟩
    have hmay : attempt < attemptBound t c ∧ retryPolicy t c ≠ .noRetry :=
      ⟨hlt, retries_of_bound (by omega)⟩
    have hgo := goOn_again_iff.mpr hwait
    cases houtcome : outcomes attempt with
    | failed text =>
      show failedVerdict t _ _ _ _ _ = _
      unfold failedVerdict
      rw [if_pos hmay]
      exact hgo
    | answered r =>
      rw [houtcome] at hfinal
      have hretryable : r.statusCode ∈ retryableStatuses := not_not.mp hfinal
      show answeredVerdict t _ _ _ _ _ _ = _
      unfold answeredVerdict
      rw [if_neg (by rw [not_conflict_of_retryable hretryable]; exact Bool.false_ne_true)]
      by_cases hlimited : isRateLimited r.statusCode = true
      · rw [if_pos hlimited, if_pos hmay]
        exact hgo
      · have hbound : 1 < attemptBound t c := by omega
        rw [if_neg hlimited, if_pos (by
          rw [isRetryableStatus, List.contains_iff_mem.mpr hretryable, decide_eq_true hbound]
          rfl), if_pos hlt]
        exact hgo

/-- A call makes its attempts up to the first one that is not retried. -/
theorem execute_reach (outcomes : Nat → AttemptOutcome) (h : refuses t c = false) :
    ∃ n, 0 < n ∧ (execute t c outcomes).requests = (List.range' 1 n).map (requestAt t c) ∧
      (∀ i, 0 < i → i < n → Retried t c outcomes i) ∧ ¬ Retried t c outcomes n := by
  have hdecided : Decided (After t c) (Retried t c outcomes)
      (fun n _ _ => ¬ Retried t c outcomes n) 0 (attemptBound t c)
      (loop (attemptOnce t c outcomes) (.error (exhaustedError t c)) (attemptBound t c) 1
        (initialState t c)) := by
    refine loop_decided (fun k s hk => after_attempt hk) ?_ ?_ attemptBound_pos
      (fun hlast => Nat.lt_irrefl _ hlast.1) after_initial
    · intro k s _ hagain
      exact (verdict_again_iff (Nat.succ_pos k) _ _).mp hagain
    · intro k s ended _ hstop hretried
      have hagain := (verdict_again_iff (Nat.succ_pos k) (effectiveKey t c)
        (s.proof.recordAttempt (attemptRecord t (k + 1)))).mpr hretried
      exact nomatch hagain.symm.trans hstop
  obtain ⟨n, hpos, -, hafter, hons, hlast⟩ := hdecided
  rw [execute_eq outcomes h]
  exact ⟨n, hpos, hafter.requests, hons, hlast⟩

/-- Every attempt before this one is retried: the call gets to it. -/
def Reached (t : Transport) (c : Call) (outcomes : Nat → AttemptOutcome) (attempt : Nat) : Prop :=
  ∀ i, 0 < i → i < attempt → Retried t c outcomes i

/-- The requests of a call are those of the attempts it gets to. -/
theorem mem_requests_iff (h : refuses t c = false) (r : HttpRequest) :
    r ∈ (execute t c outcomes).requests
      ↔ ∃ k, 0 < k ∧ Reached t c outcomes k ∧ r = requestAt t c k := by
  obtain ⟨n, hpos, hrequests, hons, hlast⟩ := execute_reach outcomes h
  rw [hrequests, List.mem_map]
  constructor
  · rintro ⟨k, hk, rfl⟩
    obtain ⟨hone, hle⟩ := List.mem_range'_1.mp hk
    exact ⟨k, hone, fun i hi hik => hons i hi (by omega), rfl⟩
  · rintro ⟨k, hk, hreached, rfl⟩
    refine ⟨k, List.mem_range'_1.mpr ⟨hk, ?_⟩, rfl⟩
    by_contra hlt
    exact hlast (hreached n hpos (by omega))

theorem head_requests (h : refuses t c = false) :
    (execute t c outcomes).requests.head? = some (requestAt t c 1) := by
  obtain ⟨n, hpos, hrequests, -⟩ := execute_reach outcomes h
  obtain ⟨m, rfl⟩ : ∃ m, n = m + 1 := ⟨n - 1, by omega⟩
  rw [hrequests, List.range'_succ]
  rfl

end Attempts

/-! ## Headers by name -/

/-- `headers.get(name)`. -/
def getHeader (name : String) : Headers → Option String
  | [] => none
  | (k, v) :: rest => if name = k then some v else getHeader name rest

theorem getHeader_setHeader (name k v : String) (headers : Headers) :
    getHeader name (setHeader k v headers)
      = if name = k then some v else getHeader name headers := by
  induction headers with
  | nil => rfl
  | cons hd rest ih =>
    obtain ⟨k', v'⟩ := hd
    rw [setHeader_cons]
    by_cases hk : k = k'
    · subst hk
      rw [if_pos rfl]
      show (if name = k then some v else _) = (if name = k then some v else _)
      by_cases hn : name = k
      · rw [if_pos hn, if_pos hn]
      · rw [if_neg hn, if_neg hn]
        show _ = (if name = k then some v' else _)
        rw [if_neg hn]
    · rw [if_neg hk]
      show (if name = k' then some v' else _) = _
      rw [ih]
      by_cases hn : name = k'
      · have hnk : name ≠ k := fun e => hk (e.symm.trans hn)
        rw [if_pos hn, if_neg hnk]
        show _ = (if name = k' then some v' else _)
        rw [if_pos hn]
      · rw [if_neg hn]
        by_cases hnk : name = k
        · rw [if_pos hnk, if_pos hnk]
        · rw [if_neg hnk, if_neg hnk]
          show _ = (if name = k' then some v' else _)
          rw [if_neg hn]

/-- What an update leaves under a name: the update's value, or else the old one. -/
theorem getHeader_updateHeaders (name : String) (updates headers : Headers) :
    getHeader name (updateHeaders headers updates)
      = (getHeader name (updateHeaders [] updates)).or (getHeader name headers) := by
  induction updates generalizing headers with
  | nil => rfl
  | cons hd rest ih =>
    show getHeader name (updateHeaders (setHeader hd.1 hd.2 headers) rest)
      = (getHeader name (updateHeaders [(hd.1, hd.2)] rest)).or _
    rw [ih, ih [(hd.1, hd.2)], getHeader_setHeader, Option.or_assoc]
    show _ = (getHeader name (updateHeaders [] rest)).or
      ((if name = hd.1 then some hd.2 else none).or _)
    by_cases hn : name = hd.1
    · rw [if_pos hn, if_pos hn]
      rfl
    · rw [if_neg hn, if_neg hn]
      rfl

/-- The header the transport itself gives an attempt: of the auth provider, or else the version of
    the SDK, or else the idempotency key. -/
def ownHeader (t : Transport) (c : Call) (attempt : Nat) (name : String) : Option String :=
  (getHeader name (updateHeaders [] (t.authHeaders attempt))).or
    ((if name = "X-Keyhole-SDK-Version" ∧ t.sdkVersion ≠ "" then some t.sdkVersion else none).or
      (if name = "X-Idempotency-Key" ∧ missingKey (effectiveKey t c) = false
        then some ((effectiveKey t c).getD "") else none))

/-- The name of the request id, in any case. -/
def NamesRequestId (name : String) : Prop := lower name = "x-request-id"

theorem ne_requestId {name : String} (h : ¬ NamesRequestId name) : name ≠ "X-Request-Id" := by
  rintro rfl
  exact h (by unfold NamesRequestId; decide)

/-- A header of an attempt is the transport's own, or else the caller's. -/
theorem lookup_attemptHeaders (t : Transport) (c : Call) (attempt : Nat) (headers : Headers)
    {name : String} (h : ¬ NamesRequestId name) :
    getHeader name (attemptHeaders t (effectiveKey t c) attempt headers)
      = (ownHeader t c attempt name).or (getHeader name headers) := by
  have hid : getHeader name (setHeader "X-Request-Id" (t.freshRequestId attempt) headers)
      = getHeader name headers := by
    rw [getHeader_setHeader, if_neg (ne_requestId h)]
  unfold attemptHeaders ownHeader
  rw [getHeader_updateHeaders, Option.or_assoc, Option.or_assoc]
  refine congrArg ((getHeader name (updateHeaders [] (t.authHeaders attempt))).or ·) ?_
  have hkey : getHeader name (if missingKey (effectiveKey t c) = true
        then setHeader "X-Request-Id" (t.freshRequestId attempt) headers
        else setHeader "X-Idempotency-Key" ((effectiveKey t c).getD "")
          (setHeader "X-Request-Id" (t.freshRequestId attempt) headers))
      = (if name = "X-Idempotency-Key" ∧ missingKey (effectiveKey t c) = false
          then some ((effectiveKey t c).getD "") else none).or (getHeader name headers) := by
    cases hmissing : missingKey (effectiveKey t c) with
    | true =>
      rw [if_pos rfl, hid, if_neg (fun hboth => nomatch hboth.2)]
      rfl
    | false =>
      rw [if_neg Bool.false_ne_true, getHeader_setHeader, hid]
      by_cases hn : name = "X-Idempotency-Key"
      · rw [if_pos hn, if_pos ⟨hn, rfl⟩]
        rfl
      · rw [if_neg hn, if_neg (fun hboth => hn hboth.1)]
        rfl
  by_cases hversion : t.sdkVersion = ""
  · have hnone : (if name = "X-Keyhole-SDK-Version" ∧ t.sdkVersion ≠ "" then some t.sdkVersion
        else none) = none := if_neg fun hboth => hboth.2 hversion
    rw [if_pos hversion, hkey, hnone]
    rfl
  · rw [if_neg hversion, getHeader_setHeader, hkey]
    by_cases hn : name = "X-Keyhole-SDK-Version"
    · rw [if_pos hn, if_pos ⟨hn, hversion⟩]
      rfl
    · have hnone : (if name = "X-Keyhole-SDK-Version" ∧ t.sdkVersion ≠ "" then some t.sdkVersion
          else none) = none := if_neg fun hboth => hn hboth.1
      rw [if_neg hn, hnone]
      rfl

/-! ## The same request -/

/-- Two requests differ at most in their request id. -/
structure SameRequest (r₁ r₂ : HttpRequest) : Prop where
  method : r₁.method = r₂.method
  url : r₁.url = r₂.url
  body : r₁.body = r₂.body
  options : r₁.options = r₂.options
  headers : ∀ name, ¬ NamesRequestId name → getHeader name r₁.headers = getHeader name r₂.headers

/-- Every attempt sends what the first one sent. -/
def ResendsSame (t : Transport) (c : Call) (outcomes : Nat → AttemptOutcome) : Prop :=
  ∀ first, (execute t c outcomes).requests.head? = some first →
    ∀ r ∈ (execute t c outcomes).requests, SameRequest first r

/-- The transport itself gives a retry what the first attempt carried under each name, be it its
    own or the caller's. -/
def SuppliesAgain (t : Transport) (c : Call) (attempt : Nat) : Prop :=
  ∀ name, ¬ NamesRequestId name →
    ownHeader t c attempt name = (ownHeader t c 1 name).or (getHeader name c.headers)

/-- The attempts of a call send the same request, exactly where the call is refused before it sends
    one, or where in every retry it gets to the transport itself supplies what the first attempt
    carried: the caller's headers are not sent again. -/
theorem resendsSame_iff (t : Transport) (c : Call) (outcomes : Nat → AttemptOutcome) :
    ResendsSame t c outcomes ↔
      refuses t c = true ∨
        ∀ attempt, 1 < attempt → Reached t c outcomes attempt → SuppliesAgain t c attempt := by
  cases hrefused : refuses t c with
  | true =>
      refine ⟨fun _ => .inl rfl, fun _ first hfirst => ?_⟩
      rw [execute_of_refused outcomes hrefused] at hfirst
      exact nomatch hfirst
  | false =>
      have hheaders : ∀ attempt, 1 < attempt → ∀ name, ¬ NamesRequestId name →
          (getHeader name (requestAt t c 1).headers = getHeader name (requestAt t c attempt).headers
            ↔ ownHeader t c attempt name
              = (ownHeader t c 1 name).or (getHeader name c.headers)) := by
        intro attempt hlt name hname
        show getHeader name (attemptHeaders _ _ _ (if 1 = 1 then c.headers else []))
          = getHeader name (attemptHeaders _ _ _ (if attempt = 1 then c.headers else [])) ↔ _
        rw [if_pos rfl, if_neg (by omega), lookup_attemptHeaders t c _ _ hname,
          lookup_attemptHeaders t c _ _ hname]
        show _ = (ownHeader t c attempt name).or none ↔ _
        rw [Option.or_none]
        exact eq_comm
      constructor
      · intro h
        refine .inr fun attempt hlt hreached name hname => ?_
        have hmem : requestAt t c attempt ∈ (execute t c outcomes).requests :=
          (mem_requests_iff hrefused _).mpr ⟨attempt, by omega, hreached, rfl⟩
        have hsame := h _ (head_requests hrefused) _ hmem
        exact (hheaders attempt hlt name hname).mp (hsame.headers name hname)
      · intro h first hfirst r hr
        have hsupplies := h.resolve_left Bool.false_ne_true
        rw [head_requests hrefused] at hfirst
        obtain rfl := Option.some.inj hfirst
        obtain ⟨attempt, hpos, hreached, rfl⟩ := (mem_requests_iff hrefused r).mp hr
        refine ⟨rfl, rfl, rfl, rfl, fun name hname => ?_⟩
        by_cases hlt : 1 < attempt
        · exact (hheaders attempt hlt name hname).mpr (hsupplies attempt hlt hreached name hname)
        · rw [show attempt = 1 by omega]

/-! ## A retry without its headers -/

/-- A read with a header of the caller. -/
def tracedCall : Call :=
  { method := "GET", path := "/mcp/v1/whoami", operationName := "whoami",
    headers := [("X-Trace", "trace-1")] }

/-- The service is unavailable at first. -/
def unavailableOnce (attempt : Nat) : AttemptOutcome :=
  .answered { statusCode := if attempt = 1 then 503 else 200, json := some (.obj []) }

/-- The retry does not carry the caller's header. -/
theorem header_dropped :
    ¬ ResendsSame (sampleTransport builtinRegistry) tracedCall unavailableOnce := by
  intro h
  have hsame := h (requestAt (sampleTransport builtinRegistry) tracedCall 1) rfl
    (requestAt (sampleTransport builtinRegistry) tracedCall 2) (by
      show _ ∈ [requestAt (sampleTransport builtinRegistry) tracedCall 1,
        requestAt (sampleTransport builtinRegistry) tracedCall 2]
      exact List.mem_cons_of_mem _ List.mem_cons_self)
  have htrace := hsame.headers "X-Trace" (by unfold NamesRequestId; decide)
  exact absurd htrace (by decide)

end KeyholeRetryFidelity
