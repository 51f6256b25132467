import Keyhole.LoginSession

/-!
# A login's identity is the server's word

A login that succeeds reports an identity and a mode, and stores the mode with the
session.  Both should be what the `/whoami` body supplies.  The body passes through the
envelope, the flattening and the schema, which has a default for the mode; this module
compares what comes out with what was supplied.

* `ServerWord`: every login that rests on the body stays with what it supplies;
* `serverWord_iff`: the bodies for which that holds. -/

namespace KeyholeLogin

open KeyholeJson KeyholeIdentity KeyholeCoherence EffectProgram

/-- The answer of `/whoami` that the result of a login rests on: the one for the stored
    session where that is reused, the one for the new token otherwise. -/
def decidingAnswer (env : LoginEnv) (args : LoginArgs) (store : Store) : Option WhoamiAnswer :=
  match standingSession env args store with
  | .error _ => none
  | .ok standing =>
      if (reusedSession env standing).isSome then some env.reuseWhoami
      else some env.freshWhoami

/-- The credentials file holds a session with this mode. -/
def SavedMode (store : Store) (mode : AuthMode) : Prop :=
  ∃ (format : SessionFormat) (session : AuthSession),
    store.credentials = some (.doc (.obj (session.dump format))) ∧ session.mode = mode

/-- The login comes to check the identity in `body` for the token of its auth flow. -/
def ChecksFresh (env : LoginEnv) (args : LoginArgs) (store : Store) (body : Json) : Prop :=
  env.freshWhoami = .response 200 (some body)
    ∧ (∃ standing, standingSession env args store = .ok standing
        ∧ reusedSession env standing = none)
    ∧ ∃ token session, startFlow env args = .ok token
        ∧ provisionalSession env args token = some session

/-- Logins that rest on the body report and store no identity beyond what it supplies. -/
structure ServerWord (body : Json) : Prop where
  /-- a success rests on a `user_id` and a mode of the body, and on no refusal -/
  accepted : ∀ env args store result store',
    exec (login env args) store = (.ok result, store') → result.success = true →
    decidingAnswer env args store = some (.response 200 (some body)) →
    SuppliesUserId body ∧ ¬ RefusalEnvelope body
      ∧ ∃ mode, SuppliesMode body mode ∧ result.mode = some mode ∧ SavedMode store' mode
  /-- a well-formed body without a mode is reported as an incomplete identity -/
  incomplete : ∀ who, identityOf body = some who → (∀ mode, ¬ SuppliesMode body mode) →
    ∀ env args store, ChecksFresh env args store body →
      "mode" ∈ who.validateRequiredIdentity
        ∧ ∃ result store', exec (login env args) store = (.ok result, store')
            ∧ result.success = false ∧ result.errorClass = some "incomplete_identity"

/-- A mode value, or `governance_rules`, stands in the body. -/
def SpeaksOfMode (body : Json) : Prop :=
  Dict.has (identityGroup (payloadOf body)) "mode" = true
    ∨ ∃ governance, deepGet (payloadOf body) "context_overlay" "governance_rules"
        = .obj governance

/-- A mode value stands in the body, or `governance_rules` that the flattening reads or that
    stand for the default. -/
def ModeCarried (body : Json) : Prop :=
  Dict.has (identityGroup (payloadOf body)) "mode" = true
    ∨ ∃ governance, deepGet (payloadOf body) "context_overlay" "governance_rules"
        = .obj governance
      ∧ (Dict.has (payloadOf body) "user_id" = false
          ∨ truthy (Dict.get governance "noncanonical") = false)

/-! ## The mode of an accepted body -/

variable {who : WhoamiResponse} {body : Json}

/-- A body that is accepted without a mode value carries one only by its rules. -/
theorem suppliesMode_iff
    (h : identityOf body = some who) : SuppliesMode body who.mode ↔ ModeCarried body := by
  have hmode := identityOf_mode h
  generalize who.mode = mode at hmode
  constructor
  · intro hsupplied
    cases hsupplied with
    | value text mode htext _ =>
      left
      cases hhas : Dict.has (identityGroup (payloadOf body)) "mode" with
      | true => rfl
      | false =>
        rw [get_of_not_has hhas] at htext
        exact nomatch htext
    | derived governance hnone hgov =>
      refine .inr ⟨governance, hgov, ?_⟩
      rcases hmode with ⟨text, htext, -⟩ | ⟨-, hmode⟩
      · rw [get_of_not_has hnone] at htext
        exact nomatch htext
      · cases hflat : Dict.has (payloadOf body) "user_id" with
        | false => exact .inl rfl
        | true =>
          rw [if_pos hflat] at hmode
          right
          cases hnon : truthy (Dict.get governance "noncanonical") with
          | false => rfl
          | true =>
            rw [governedMode, if_pos hnon] at hmode
            exact nomatch hmode
  · intro hcarried
    rcases hmode with ⟨text, htext, hvalue⟩ | ⟨hnone, hmode⟩
    · exact .value text mode htext hvalue
    · rcases hcarried with hhas | ⟨governance, hgov, hread⟩
      · rw [hhas] at hnone
        exact nomatch hnone
      · have hgoverned : mode = governedMode governance := by
          rw [hmode]
          cases hflat : Dict.has (payloadOf body) "user_id" with
          | false =>
            rw [if_neg (by simp), hgov]
          | true =>
            rcases hread with hnested | hnon
            · rw [hflat] at hnested
              exact nomatch hnested
            · rw [if_pos rfl, governedMode, hnon, if_neg (by simp)]
        rw [hgoverned]
        exact .derived governance hnone hgov

/-- An accepted body supplies some mode exactly when it speaks of one. -/
theorem supplies_some_mode_iff
    (h : identityOf body = some who) : (∃ mode, SuppliesMode body mode) ↔ SpeaksOfMode body := by
  constructor
  · rintro ⟨mode, hsupplied⟩
    cases hsupplied with
    | value text mode htext _ =>
      left
      cases hhas : Dict.has (identityGroup (payloadOf body)) "mode" with
      | true => rfl
      | false =>
        rw [get_of_not_has hhas] at htext
        exact nomatch htext
    | derived governance _ hgov => exact .inr ⟨governance, hgov⟩
  · rintro hspeaks
    rcases identityOf_mode h with ⟨text, htext, hvalue⟩ | ⟨hnone, -⟩
    · exact ⟨who.mode, .value text _ htext hvalue⟩
    · rcases hspeaks with hhas | ⟨governance, hgov⟩
      · rw [hhas] at hnone
        exact nomatch hnone
      · exact ⟨_, .derived governance hnone hgov⟩

/-! ## Logins -/

/-- An answer that gives an identity carries the body it is read from. -/
theorem whoami_ok {explain : Json → String} {statusCode : Nat}
    (h : whoami explain (.response statusCode (some body)) = .ok who) :
    identityOf body = some who := by
  unfold whoami at h
  by_cases h401 : statusCode = 401
  · simp only [if_pos h401] at h
    exact nomatch h
  · by_cases h403 : statusCode = 403
    · simp only [if_neg h401, if_pos h403] at h
      exact nomatch h
    · by_cases h200 : statusCode ≠ 200
      · simp only [if_neg h401, if_neg h403, if_pos h200] at h
        exact nomatch h
      · simp only [if_neg h401, if_neg h403, if_neg h200] at h
        cases hid : identityOf body with
        | none =>
          rw [hid] at h
          exact nomatch h
        | some found =>
          rw [hid] at h
          exact congrArg some (Except.ok.inj h)

theorem whoami_of_identity {explain : Json → String}
    (h : identityOf body = some who) : whoami explain (.response 200 (some body)) = .ok who := by
  simp [whoami, h]

/-- The identity a login binds was read from the answer it rests on, is complete, and its
    mode is the one of the session. -/
theorem boundSession_some {env : LoginEnv} {args : LoginArgs} {store : Store} {saved : AuthSession}
    (h : boundSession env args store = some (who, saved)) :
    ∃ answer, decidingAnswer env args store = some answer
      ∧ whoami env.explain answer = .ok who ∧ who.validateRequiredIdentity = []
      ∧ saved.mode = who.mode := by
  unfold boundSession at h
  unfold decidingAnswer
  cases hstanding : standingSession env args store with
  | error e =>
    rw [hstanding] at h
    exact nomatch h
  | ok standing =>
    rw [hstanding] at h
    cases hreuse : reusedSession env standing with
    | some bound =>
      simp only [hreuse, Option.some.injEq] at h
      subst h
      obtain ⟨session, -, hverified⟩ := Option.bind_eq_some_iff.mp hreuse
      obtain ⟨hwho, hcomplete, -, rfl⟩ := verified_eq_some hverified
      exact ⟨env.reuseWhoami, by simp [hreuse], hwho, hcomplete, rfl⟩
    | none =>
      simp only [hreuse] at h
      unfold freshSession at h
      cases hflow : startFlow env args with
      | error e =>
        rw [hflow] at h
        exact nomatch h
      | ok token =>
        rw [hflow] at h
        obtain ⟨session, -, hverified⟩ := Option.bind_eq_some_iff.mp h
        obtain ⟨hwho, hcomplete, -, rfl⟩ := verified_eq_some hverified
        exact ⟨env.freshWhoami, by simp [hreuse], hwho, hcomplete, rfl⟩

/-- A login that succeeds binds a session. -/
theorem bound_of_success {env : LoginEnv} {args : LoginArgs} {store store' : Store}
    {result : LoginResult} (hexec : exec (login env args) store = (.ok result, store'))
    (hsuccess : result.success = true) :
    ∃ who saved, boundSession env args store = some (who, saved)
      ∧ result.mode = some who.mode
      ∧ store'.credentials = some (.doc (.obj (saved.dump env.format))) := by
  cases hbound : boundSession env args store with
  | none =>
    obtain ⟨outcome, store'', hrun, -, hfailed⟩ := login_of_unbound env args hbound
    rw [hexec] at hrun
    have := hfailed result (congrArg Prod.fst hrun).symm
    rw [hsuccess] at this
    exact nomatch this
  | some bound =>
    obtain ⟨who, saved⟩ := bound
    obtain ⟨flowType, hrun⟩ := login_of_bound env args hbound
    rw [hexec] at hrun
    have hresult := Except.ok.inj (congrArg Prod.fst hrun)
    have hstore := congrArg Prod.snd hrun
    exact ⟨who, saved, rfl, by rw [hresult]; rfl, by rw [show store' = _ from hstore]; rfl⟩

/-! ## The plain login -/

/-- A login by device flow on an empty store, with `body` as the answer of `/whoami`. -/
def plainLogin (body : Json) : LoginEnv where
  format := ⟨fun _ => none, fun _ => "", "kh-prod", ⟨0, some 0⟩⟩
  authServerUrl := "https://auth.example.com"
  uuid := "cid-1"
  explain := fun _ => ""
  devPasswordLogin := false
  authenticatedReadFault := none
  reuseReadFault := none
  checkedAt := ⟨0, some 0⟩
  reuseWhoami := .timeout ""
  reusedAt := ⟨0, some 0⟩
  reuseSave := ⟨none, none, none⟩
  flow := fun _ => .ok { accessToken := "token-1" }
  tokenAt := ⟨0, some 0⟩
  createdAt := ⟨0, some 0⟩
  freshWhoami := .response 200 (some body)
  verifiedAt := ⟨0, some 0⟩
  freshSave := ⟨none, none, none⟩

/-- No credentials yet. -/
def emptyStore : Store := ⟨none, none, none⟩

theorem plainLogin_checks (body : Json) : ChecksFresh (plainLogin body) {} emptyStore body :=
  ⟨rfl, ⟨none, rfl, rfl⟩, _, _, rfl, rfl⟩

theorem plainLogin_deciding (body : Json) :
    decidingAnswer (plainLogin body) {} emptyStore = some (.response 200 (some body)) := rfl

/-- With a complete identity the plain login succeeds. -/
theorem plainLogin_succeeds
    (h : identityOf body = some who) (hcomplete : who.validateRequiredIdentity = []) :
    ∃ flowType store', exec (login (plainLogin body) {}) emptyStore
      = (.ok (succeeded flowType who "cid-1"), store') := by
  have hbound : ∃ saved, boundSession (plainLogin body) {} emptyStore = some (who, saved) := by
    refine ⟨{
      accessToken := "token-1"
      tokenType := "Bearer"
      refreshToken := none
      expiresAt := none
      scope := none
      flowType := .pkce
      mode := who.mode
      realm := "kh-prod"
      authServerUrl := some "https://auth.example.com"
      createdAt := ⟨0, some 0⟩
      lastVerifiedAt := some ⟨0, some 0⟩ }, ?_⟩
    show verified _ (.response 200 (some body)) _ _ _ = _
    unfold verified
    rw [whoami_of_identity h]
    simp only [hcomplete, true_and]
    exact if_pos rfl
  obtain ⟨saved, hsaved⟩ := hbound
  obtain ⟨flowType, hexec⟩ := login_of_bound (plainLogin body) {} hsaved
  exact ⟨flowType, _, hexec⟩

/-! ## The server's word -/

/-- A login takes no identity beyond the server's word from exactly these bodies: where the
    schema accepts the body, it speaks of a mode; and where it also has a `user_id`, it
    carries the mode that comes out and is no refusal. -/
theorem serverWord_iff (body : Json) :
    ServerWord body
      ↔ ∀ who, identityOf body = some who →
          SpeaksOfMode body
            ∧ (SuppliesUserId body → ModeCarried body ∧ ¬ RefusalEnvelope body) := by
  constructor
  · intro hword who hbody
    refine ⟨?_, fun huser => ?_⟩
    · rw [← supplies_some_mode_iff hbody]
      by_contra hnone
      have hmissing := (hword.incomplete who hbody (fun mode hm => hnone ⟨mode, hm⟩) _ _ _
        (plainLogin_checks body)).1
      exact mode_not_missing who hmissing
    · have hcomplete := (validateRequiredIdentity_eq_nil_iff hbody).mpr huser
      obtain ⟨flowType, store', hexec⟩ := plainLogin_succeeds hbody hcomplete
      obtain ⟨-, hrefusal, mode, hsupplied, hmode, -⟩ :=
        hword.accepted _ _ _ _ _ hexec rfl (plainLogin_deciding body)
      have hsame : who.mode = mode := Option.some.inj hmode
      exact ⟨(suppliesMode_iff hbody).mp (hsame ▸ hsupplied), hrefusal⟩
  · intro hcond
    refine ⟨?_, ?_⟩
    · intro env args store result store' hexec hsuccess hdeciding
      obtain ⟨who, saved, hbound, hmode, hstored⟩ := bound_of_success hexec hsuccess
      obtain ⟨answer, hanswer, hwho, hcomplete, hsaved⟩ := boundSession_some hbound
      have hbody : identityOf body = some who := by
        rw [hdeciding] at hanswer
        rw [← Option.some.inj hanswer] at hwho
        exact whoami_ok hwho
      have huser := (validateRequiredIdentity_eq_nil_iff hbody).mp hcomplete
      obtain ⟨hcarried, hrefusal⟩ := (hcond who hbody).2 huser
      exact ⟨huser, hrefusal, who.mode, (suppliesMode_iff hbody).mpr hcarried, hmode,
        env.format, saved, hstored, hsaved⟩
    · intro who hbody hnone
      obtain ⟨mode, hsupplied⟩ := (supplies_some_mode_iff hbody).mpr (hcond who hbody).1
      exact absurd hsupplied (hnone mode)

/-- A body that names a user and no mode logs in with the mode `real`. -/
theorem modeless_body_accepted : ¬ ServerWord (.obj [("user_id", .str "u-1")]) := by
  intro hword
  have hmissing := (hword.incomplete _ rfl ?_ _ _ _ (plainLogin_checks _)).1
  · exact mode_not_missing _ hmissing
  · intro mode hsupplied
    cases hsupplied with
    | value text mode htext _ => exact nomatch htext
    | derived governance _ hgov => exact nomatch hgov

end KeyholeLogin
