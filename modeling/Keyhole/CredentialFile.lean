import Keyhole.LoginGuard

/-!
# The credentials file

`CredentialStore.load` decodes the file, reads it as JSON and validates it as a session; what
the second step raises becomes a `CredentialStoreError`, what the others raise escapes. A login
looks at the file before it starts its flow, and lets everything through that this raises.

* `FileCodec`: from the bytes of the file to what `load` makes of them;
* `ofFields_dump`: a session is read back from what `save` writes;
* `NotLockedOut`: what is promised of `load`, `is_authenticated` and the two logins;
* `notLockedOut_iff_healthy`: it holds exactly of a file that is missing or holds a session that
  can be compared with the clock. -/

namespace KeyholeLogin

open KeyholeJson KeyholeIdentity KeyholeCoherence EffectProgram

/-! ## From bytes to contents -/

/-- What `json.loads` raises. -/
inductive LoadsError where
  | decodeError (text : String)
  | other (error : String)

/-- Decoding a file as UTF-8, and `json.loads`. -/
structure FileCodec where
  decode : List UInt8 → Option String
  loads : String → Except LoadsError Json

/-- What the bytes of a file are to `load`. -/
def FileCodec.content (codec : FileCodec) (bytes : List UInt8) : FileContent :=
  match codec.decode bytes with
  | none => .undecodable bytes
  | some text =>
      match codec.loads text with
      | .ok json => .doc json
      | .error (.decodeError text) => .garbled text
      | .error (.other error) => .unparsable error

/-- The session that the bytes of a file are read as. -/
def FileCodec.session (codec : FileCodec) (format : SessionFormat) (bytes : List UInt8) :
    Option AuthSession :=
  match codec.content bytes with
  | .doc json => AuthSession.modelValidate format json
  | _ => none

/-- The store with this credentials file, or none. -/
def Store.holding (store : Store) (codec : FileCodec) (file : Option (List UInt8)) : Store :=
  { store with credentials := file.map codec.content }

/-- `is_authenticated`. -/
def isAuthenticated (format : SessionFormat) (readFault : Option String) (now : Timestamp)
    (store : Store) : Except Fault Bool := do
  match ← loadSession format readFault store with
  | none => return false
  | some session => return !(← session.isExpired now)

/-! ## Reading back what was saved -/

/-- The datetimes of the session come back as they were written. -/
structure ReadsBack (format : SessionFormat) (session : AuthSession) : Prop where
  createdAt : format.readDatetime (.str (format.writeDatetime session.createdAt))
    = some session.createdAt
  expiresAt : ∀ t, session.expiresAt = some t →
    format.readDatetime (.str (format.writeDatetime t)) = some t
  lastVerifiedAt : ∀ t, session.lastVerifiedAt = some t →
    format.readDatetime (.str (format.writeDatetime t)) = some t

section RoundTrip

variable {format : SessionFormat} {session : AuthSession}

theorem ofText_text (flowType : AuthFlowType) :
    AuthFlowType.ofText flowType.text = some flowType := by
  cases flowType <;> decide

theorem modeOfText_text (mode : AuthMode) : AuthMode.ofText mode.text = some mode := by
  cases mode <;> decide

theorem readOptStr_dump {d : Dict} {k : String} {text : Option String}
    (h : Dict.get d k = dumpOptStr text) : readOptStr d k = some text := by
  rw [readOptStr, h]
  cases text with
  | none => rfl
  | some s => rfl

theorem readOptDatetime_dump {d : Dict} {k : String} {time : Option Timestamp}
    (h : Dict.get d k = dumpOptStr (time.map format.writeDatetime))
    (hback : ∀ t, time = some t → format.readDatetime (.str (format.writeDatetime t)) = some t) :
    readOptDatetime format d k = some time := by
  rw [readOptDatetime, h]
  cases time with
  | none => rfl
  | some t =>
    show (format.readDatetime (.str (format.writeDatetime t))).map some = _
    rw [hback t rfl]
    rfl

/-- A session is read back from what it is dumped to. -/
theorem ofFields_dump (h : ReadsBack format session) :
    AuthSession.ofFields format (session.dump format) = some session := by
  have hflow : (readRequiredStr (session.dump format) "flow_type").bind AuthFlowType.ofText
      = some session.flowType := ofText_text session.flowType
  have hmode : readStoredMode (session.dump format) = some session.mode :=
    modeOfText_text session.mode
  have hcreated : readCreatedAt format (session.dump format) = some session.createdAt :=
    h.createdAt
  have hrefresh : readOptStr (session.dump format) "refresh_token" = some session.refreshToken :=
    readOptStr_dump rfl
  have hscope : readOptStr (session.dump format) "scope" = some session.scope :=
    readOptStr_dump rfl
  have hserver : readOptStr (session.dump format) "auth_server_url" = some session.authServerUrl :=
    readOptStr_dump rfl
  have hexpires : readOptDatetime format (session.dump format) "expires_at"
      = some session.expiresAt := readOptDatetime_dump rfl h.expiresAt
  have hverified : readOptDatetime format (session.dump format) "last_verified_at"
      = some session.lastVerifiedAt := readOptDatetime_dump rfl h.lastVerifiedAt
  rw [AuthSession.ofFields, hflow, hmode, hcreated, hrefresh, hscope, hserver, hexpires, hverified]
  rfl

/-- Loading what was saved gives the session. -/
theorem load_saved (h : ReadsBack format session) {outcome : SaveOutcome}
    (hfault : outcome.fault = none) {store store' : Store}
    (hsave : exec (saveSession format outcome session) store = (.ok (), store')) :
    loadSession format none store' = .ok (some session) := by
  rw [exec_saveSession hfault] at hsave
  cases hsave
  have hvalid : AuthSession.modelValidate format (.obj (session.dump format)) = some session :=
    ofFields_dump h
  simp only [loadSession, Store.stored, hvalid]

end RoundTrip

/-! ## What is promised of the file -/

/-- Nothing but the contents of the file stands in the way: it can be read, and the clock has a
    zone. -/
structure Reads (env : LoginEnv) : Prop where
  authenticated : env.authenticatedReadFault = none
  reuse : env.reuseReadFault = none
  clock : env.checkedAt.offset ≠ none

/-- A call returns, or raises a `CredentialStoreError`. -/
def StoreErrorOnly {α : Type} (x : Except Fault α) : Prop :=
  (∃ a, x = .ok a) ∨ ∃ text, x = .error (.auth (credentialStoreError text))

/-- The credentials file does not lock the user out. -/
structure NotLockedOut (format : SessionFormat) (store : Store) : Prop where
  load : StoreErrorOnly (loadSession format none store)
  authenticated : ∀ now, now.offset ≠ none → StoreErrorOnly (isAuthenticated format none now store)
  login : ∀ env args, env.format = format → Reads env →
    exec (login env args) store = exec (freshLogin env args) store ∨
      ∃ session, standingSession env args store = .ok (some session) ∧
        loadSession format none store = .ok (some session) ∧
        session.isExpired env.checkedAt = .ok false
  command : ∀ env args flowType, env.login.format = format → Reads env.login →
    env.noticeReadFault = none → AuthFlowType.ofText (lower args.flow) = some flowType →
    ∃ loginArgs, exec (runLogin env args) store
      = exec (KeyholeLogin.login env.login loginArgs >>= concludeLogin env args) store
  roundTrip : ∀ session outcome store', ReadsBack format session → outcome.fault = none →
    exec (saveSession format outcome session) store = (.ok (), store') →
    loadSession format none store' = .ok (some session)

/-- The file is missing, or holds a session that expires at no time or at one with a zone. -/
def Healthy (codec : FileCodec) (format : SessionFormat) (file : Option (List UInt8)) : Prop :=
  ∀ bytes, file = some bytes → ∃ session, codec.session format bytes = some session ∧
    ∀ t, session.expiresAt = some t → t.offset ≠ none

section Promise

variable {codec : FileCodec} {format : SessionFormat} {store : Store}

theorem loadSession_missing (h : store.credentials = none) (readFault : Option String) :
    loadSession format readFault store = .ok none := by
  rw [loadSession, h]

/-- What `load` makes of a file that can be read. -/
theorem loadSession_doc {json : Json} (h : store.credentials = some (.doc json)) :
    loadSession format none store = match AuthSession.modelValidate format json with
      | some session => .ok (some session)
      | none => .error (.other "ValidationError") := by
  obtain ⟨credentials, tmp, policy⟩ := store
  have hcredentials : credentials = some (.doc json) := h
  subst hcredentials
  rfl

/-- A session that expires at a time with a zone can be compared with the clock. -/
theorem isExpired_returns {session : AuthSession} {now : Timestamp} (hnow : now.offset ≠ none)
    (h : ∀ t, session.expiresAt = some t → t.offset ≠ none) :
    ∃ expired, session.isExpired now = .ok expired := by
  rw [AuthSession.isExpired]
  cases hexpires : session.expiresAt with
  | none => exact ⟨false, rfl⟩
  | some t =>
    obtain ⟨x, hx⟩ := Option.ne_none_iff_exists'.mp (h t hexpires)
    obtain ⟨y, hy⟩ := Option.ne_none_iff_exists'.mp hnow
    simp only [Timestamp.atMost, hx, hy]
    exact ⟨_, rfl⟩

/-- A session that expires at a time without a zone cannot. -/
theorem isExpired_naive {session : AuthSession} {t : Timestamp}
    (hexpires : session.expiresAt = some t) (hnaive : t.offset = none) :
    session.isExpired ⟨0, some 0⟩
      = .error (.other "can't compare offset-naive and offset-aware datetimes") := by
  rw [AuthSession.isExpired, hexpires]
  simp only [Timestamp.atMost, hnaive]

/-- A file that `load` accepts holds a session. -/
theorem session_of_load {bytes : List UInt8} {found : Option AuthSession}
    (h : loadSession format none (store.holding codec (some bytes)) = .ok found) :
    ∃ session, found = some session ∧ codec.session format bytes = some session := by
  rw [FileCodec.session]
  simp only [loadSession, Store.holding, Option.map_some] at h
  cases hcontent : codec.content bytes with
  | undecodable bytes =>
    rw [hcontent] at h
    cases h
  | garbled text =>
    rw [hcontent] at h
    cases h
  | unparsable error =>
    rw [hcontent] at h
    cases h
  | doc json =>
    rw [hcontent] at h
    cases hvalid : AuthSession.modelValidate format json with
    | none =>
      simp only [hvalid] at h
      cases h
    | some session =>
      simp only [hvalid] at h
      exact ⟨session, (Except.ok.inj h).symm, hvalid⟩

/-- A login without a session to try runs its flow. -/
theorem login_of_none {env : LoginEnv} {args : LoginArgs}
    (h : standingSession env args store = .ok none) :
    exec (login env args) store = exec (freshLogin env args) store := by
  rw [login, exec_bind_ok (exec_get store), h]

/-- A login whose look at the file raises, raises that. -/
theorem login_of_error {env : LoginEnv} {args : LoginArgs} {e : Fault}
    (h : standingSession env args store = .error e) :
    exec (login env args) store = (.error e, store) := by
  rw [login, exec_bind_ok (exec_get store), h]
  rfl

/-- What a login finds, where the file holds a session. -/
theorem standing_of_session {env : LoginEnv} (hreads : Reads env) (hformat : env.format = format)
    (args : LoginArgs) {session : AuthSession}
    (hload : loadSession format none store = .ok (some session))
    (hzone : ∀ t, session.expiresAt = some t → t.offset ≠ none) :
    standingSession env args store = .ok none ∨
      (standingSession env args store = .ok (some session) ∧
        session.isExpired env.checkedAt = .ok false) := by
  obtain ⟨expired, hexpired⟩ := isExpired_returns hreads.clock hzone
  by_cases hforce : args.force = true
  · left
    rw [standingSession, if_pos hforce]
  · have hstanding : standingSession env args store =
        session.isExpired env.checkedAt >>= fun passed =>
          if passed = true then .ok none else .ok (some session) := by
      rw [standingSession, if_neg hforce, hreads.authenticated, hreads.reuse, hformat, hload]
      rfl
    rw [hstanding, hexpired]
    cases expired with
    | true => exact .inl rfl
    | false => exact .inr ⟨rfl, rfl⟩

/-- A healthy file is loaded as the session it holds. -/
theorem loadSession_healthy {file : Option (List UInt8)} (h : Healthy codec format file)
    (store : Store) :
    loadSession format none (store.holding codec file) = .ok none ∨
      ∃ session, loadSession format none (store.holding codec file) = .ok (some session) ∧
        ∀ t, session.expiresAt = some t → t.offset ≠ none := by
  cases file with
  | none => exact .inl (loadSession_missing rfl none)
  | some bytes =>
    obtain ⟨session, hsession, hzone⟩ := h bytes rfl
    refine .inr ⟨session, ?_, hzone⟩
    rw [FileCodec.session] at hsession
    cases hcontent : codec.content bytes with
    | doc json =>
      rw [hcontent] at hsession
      rw [loadSession_doc (congrArg some hcontent :)]
      have hsession : AuthSession.modelValidate format json = some session := hsession
      rw [hsession]
    | undecodable bytes =>
      rw [hcontent] at hsession
      exact nomatch hsession
    | garbled text =>
      rw [hcontent] at hsession
      exact nomatch hsession
    | unparsable error =>
      rw [hcontent] at hsession
      exact nomatch hsession

/-- A command whose notice can read the file gets to the login. -/
theorem runLogin_of_load {env : RunEnv} {args : RunArgs} {flowType : AuthFlowType}
    (hflow : AuthFlowType.ofText (lower args.flow) = some flowType)
    {found : Option AuthSession}
    (hload : loadSession env.login.format env.noticeReadFault store = .ok found) :
    ∃ loginArgs, exec (runLogin env args) store
      = exec (login env.login loginArgs >>= concludeLogin env args) store := by
  have hprepared : ∃ loginArgs, prepareLogin env args store = .ok (some loginArgs) := by
    rw [prepareLogin, hflow]
    by_cases hexplicit : (!args.flowExplicit) = true
    · simp only [if_pos hexplicit, hload]
      exact ⟨_, rfl⟩
    · simp only [if_neg hexplicit]
      exact ⟨_, rfl⟩
  obtain ⟨loginArgs, hprepared⟩ := hprepared
  refine ⟨loginArgs, ?_⟩
  rw [runLogin, exec_bind_ok (exec_get store), hprepared]

end Promise

/-! ## A login whose flow is refused -/

/-- An environment in which the flow of a login is refused at once. -/
def refusedEnv (format : SessionFormat) : LoginEnv where
  format := format
  authServerUrl := ""
  uuid := "cid"
  explain := fun _ => ""
  devPasswordLogin := false
  authenticatedReadFault := none
  reuseReadFault := none
  checkedAt := ⟨0, some 0⟩
  reuseWhoami := .response 401 none
  reusedAt := ⟨0, some 0⟩
  reuseSave := ⟨none, none, none⟩
  flow := fun _ => .error (.auth (invalidTokenError "refused"))
  tokenAt := ⟨0, some 0⟩
  createdAt := ⟨0, some 0⟩
  freshWhoami := .response 401 none
  verifiedAt := ⟨0, some 0⟩
  freshSave := ⟨none, none, none⟩

/-- A refused flow is reported: the fresh login returns. -/
theorem freshLogin_refused (format : SessionFormat) (store : Store) :
    ∃ result, exec (freshLogin (refusedEnv format) {}) store = (.ok result, store) := ⟨_, rfl⟩

/-- A file that raises on the first look locks the user out. -/
theorem locked_of_error {format : SessionFormat} {store : Store} {e : Fault}
    (h : standingSession (refusedEnv format) {} store = .error e) :
    ¬ NotLockedOut format store := by
  intro hpromise
  have hreads : Reads (refusedEnv format) := ⟨rfl, rfl, nofun⟩
  rcases hpromise.login (refusedEnv format) {} rfl hreads with hfresh | ⟨session, hstanding, -⟩
  · obtain ⟨result, hresult⟩ := freshLogin_refused format store
    rw [login_of_error h, hresult] at hfresh
    exact nomatch congrArg Prod.fst hfresh
  · rw [h] at hstanding
    exact nomatch hstanding

/-- The credentials file locks nobody out exactly when it is missing, or holds a session that
    can be compared with the clock. -/
theorem notLockedOut_iff_healthy (codec : FileCodec) (format : SessionFormat)
    (file : Option (List UInt8)) (store : Store) :
    NotLockedOut format (store.holding codec file) ↔ Healthy codec format file := by
  constructor
  · rintro hpromise bytes rfl
    -- an error of the first look, as any file that is not healthy brings about
    have hnever : ∀ e, loadSession format none (store.holding codec (some bytes)) ≠ .error e := by
      intro e herror
      have hstanding : standingSession (refusedEnv format) {} (store.holding codec (some bytes))
          = .error e := by
        show loadSession format none (store.holding codec (some bytes)) >>= _ = _
        rw [herror]
        rfl
      exact locked_of_error hstanding hpromise
    cases hload : loadSession format none (store.holding codec (some bytes)) with
    | error e => exact absurd hload (hnever e)
    | ok found =>
        obtain ⟨session, rfl, hsession⟩ := session_of_load hload
        refine ⟨session, hsession, fun t hexpires hnaive => ?_⟩
        have hstanding : standingSession (refusedEnv format) {} (store.holding codec (some bytes))
            = .error (.other "can't compare offset-naive and offset-aware datetimes") := by
          show loadSession format none (store.holding codec (some bytes)) >>= _ = _
          rw [hload]
          show session.isExpired ⟨0, some 0⟩ >>= _ = _
          rw [isExpired_naive hexpires hnaive]
          rfl
        exact locked_of_error hstanding hpromise
  · intro h
    constructor
    case load =>
      rcases loadSession_healthy h store with hload | ⟨session, hload, -⟩
      · exact .inl ⟨_, hload⟩
      · exact .inl ⟨_, hload⟩
    case authenticated =>
      intro now hnow
      rw [isAuthenticated]
      rcases loadSession_healthy h store with hload | ⟨session, hload, hzone⟩
      · rw [hload]
        exact .inl ⟨_, rfl⟩
      · obtain ⟨expired, hexpired⟩ := isExpired_returns hnow hzone
        rw [hload]
        show StoreErrorOnly (session.isExpired now >>= fun expired => pure !expired)
        rw [hexpired]
        exact .inl ⟨_, rfl⟩
    case login =>
      intro env args hformat hreads
      rcases loadSession_healthy h store with hload | ⟨session, hload, hzone⟩
      · refine .inl (login_of_none ?_)
        by_cases hforce : args.force = true
        · rw [standingSession, if_pos hforce]
        · rw [standingSession, if_neg hforce, hreads.authenticated, hformat, hload]
          rfl
      · rcases standing_of_session hreads hformat args hload hzone with hnone | ⟨hsome, hfresh⟩
        · exact .inl (login_of_none hnone)
        · exact .inr ⟨session, hsome, hload, hfresh⟩
    case command =>
      intro env args flowType hformat _ hnotice hflow
      rcases loadSession_healthy h store with hload | ⟨session, hload, -⟩
      · exact runLogin_of_load hflow (by rw [hnotice, hformat]; exact hload)
      · exact runLogin_of_load hflow (by rw [hnotice, hformat]; exact hload)
    case roundTrip =>
      intro session outcome store' hback hfault hsave
      exact load_saved hback hfault hsave

/-- A codec for plain ASCII that knows the empty object only. -/
def asciiCodec : FileCodec where
  decode := fun bytes =>
    if bytes.all (· < 128) then some (String.ofList (bytes.map fun b => Char.ofNat b.toNat))
    else none
  loads := fun text =>
    if text = "\x7b\x7d" then .ok (.obj []) else .error (.decodeError "Expecting value")

/-- A store without credentials, and datetimes that are not read. -/
def bareStore : Store := ⟨none, none, none⟩

def bareFormat : SessionFormat where
  readDatetime := fun _ => none
  writeDatetime := fun _ => ""
  defaultRealm := "kh-prod"
  now := ⟨0, some 0⟩

/-- A credentials file that holds an empty object: `load` raises a `ValidationError`. -/
theorem empty_object_locks_out :
    loadSession bareFormat none (bareStore.holding asciiCodec (some [0x7b, 0x7d]))
        = .error (.other "ValidationError") ∧
      ¬ NotLockedOut bareFormat (bareStore.holding asciiCodec (some [0x7b, 0x7d])) := by
  have hload : loadSession bareFormat none (bareStore.holding asciiCodec (some [0x7b, 0x7d]))
      = .error (.other "ValidationError") := by rfl
  refine ⟨hload, fun hpromise => ?_⟩
  rcases hpromise.load with ⟨found, hok⟩ | ⟨text, herror⟩
  · rw [hload] at hok
    exact nomatch hok
  · rw [hload] at herror
    exact nomatch herror

end KeyholeLogin
