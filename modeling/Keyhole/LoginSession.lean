import Keyhole.EffectProgram
import Keyhole.HostCoherence
import Keyhole.WhoamiIdentity

/-!
# Logging in

`AuthBootstrapClient.login` first tries the stored session: if it has not expired and
`/whoami` still answers for its token, the session is saved again and the login is done.
Otherwise it runs the chosen auth flow, asks `/whoami` for the identity of the new token
and saves the new session.  The credentials file is replaced by a rename, so a save that
fails leaves it alone.

* `login`: the method, over the credential store;
* `boundSession`: the identity and session that the inputs of a login lead it to store;
* `login_of_bound`, `login_of_unbound`: a login succeeds, and replaces the stored
  credentials, exactly when there is one. -/

namespace KeyholeLogin

open KeyholeJson KeyholeIdentity KeyholeCoherence EffectProgram

/-! ## Sessions -/

/-- `AuthFlowType`. -/
inductive AuthFlowType where
  | pkce
  | device
  | password
  | passwordless
  deriving DecidableEq

/-- The value of a flow type. -/
def AuthFlowType.text : AuthFlowType → String
  | .pkce => "pkce"
  | .device => "device"
  | .password => "password"
  | .passwordless => "passwordless"

/-- `AuthFlowType(text)`. -/
def AuthFlowType.ofText (text : String) : Option AuthFlowType :=
  [AuthFlowType.pkce, .device, .password, .passwordless].find? (fun flow => flow.text == text)

/-- `AuthSession`. -/
structure AuthSession where
  accessToken : String
  tokenType : String
  refreshToken : Option String
  expiresAt : Option Timestamp
  scope : Option String
  flowType : AuthFlowType
  mode : AuthMode
  realm : String
  authServerUrl : Option String
  createdAt : Timestamp
  lastVerifiedAt : Option Timestamp
  deriving DecidableEq

/-- `AuthSession.is_expired`; comparing with a time that has no offset is a `TypeError`. -/
def AuthSession.isExpired (session : AuthSession) (now : Timestamp) : Except Fault Bool :=
  match session.expiresAt with
  | none => .ok false
  | some expiresAt =>
      match expiresAt.atMost now with
      | some passed => .ok passed
      | none => .error (.other "can't compare offset-naive and offset-aware datetimes")

/-- How sessions are read and written: the datetimes, the default realm of the
    configuration, and the time a missing `created_at` is filled with. -/
structure SessionFormat where
  readDatetime : Json → Option Timestamp
  writeDatetime : Timestamp → String
  defaultRealm : String
  now : Timestamp

/-- An optional text in the dumped session. -/
def dumpOptStr : Option String → Json
  | some s => .str s
  | none => .null

/-- `AuthSession.model_dump(mode="json")`. -/
def AuthSession.dump (format : SessionFormat) (session : AuthSession) : Dict :=
  [("access_token", .str session.accessToken),
    ("token_type", .str session.tokenType),
    ("refresh_token", dumpOptStr session.refreshToken),
    ("expires_at", dumpOptStr (session.expiresAt.map format.writeDatetime)),
    ("scope", dumpOptStr session.scope),
    ("flow_type", .str session.flowType.text),
    ("mode", .str session.mode.text),
    ("realm", .str session.realm),
    ("auth_server_url", dumpOptStr session.authServerUrl),
    ("created_at", .str (format.writeDatetime session.createdAt)),
    ("last_verified_at", dumpOptStr (session.lastVerifiedAt.map format.writeDatetime))]

/-- A field of type `str` with a default. -/
def readStr (d : Dict) (k default : String) : Option String :=
  if Dict.has d k then match d.get k with | .str s => some s | _ => none else some default

/-- A field of type `Optional[str]`. -/
def readOptStr (d : Dict) (k : String) : Option (Option String) :=
  match d.get k with
  | .str s => some (some s)
  | .null => some none
  | _ => none

/-- A field of type `Optional[datetime]`. -/
def readOptDatetime (format : SessionFormat) (d : Dict) (k : String) :
    Option (Option Timestamp) :=
  match d.get k with
  | .null => some none
  | v => (format.readDatetime v).map some

/-- The field `created_at`, which has a default but may not be `null`. -/
def readCreatedAt (format : SessionFormat) (d : Dict) : Option Timestamp :=
  if Dict.has d "created_at" then format.readDatetime (d.get "created_at") else some format.now

/-- The field `mode` of a stored session. -/
def readStoredMode (d : Dict) : Option AuthMode :=
  if Dict.has d "mode" then
    match d.get "mode" with | .str text => AuthMode.ofText text | _ => none
  else some .real

/-- A field of type `str` without a default. -/
def readRequiredStr (d : Dict) (k : String) : Option String :=
  match d.get k with
  | .str s => some s
  | _ => none

/-- The fields of a stored session. -/
def AuthSession.ofFields (format : SessionFormat) (d : Dict) : Option AuthSession := do
  let accessToken ← readRequiredStr d "access_token"
  let tokenType ← readStr d "token_type" "Bearer"
  let refreshToken ← readOptStr d "refresh_token"
  let expiresAt ← readOptDatetime format d "expires_at"
  let scope ← readOptStr d "scope"
  let flowType ← (readRequiredStr d "flow_type").bind AuthFlowType.ofText
  let mode ← readStoredMode d
  let realm ← readStr d "realm" format.defaultRealm
  let authServerUrl ← readOptStr d "auth_server_url"
  let createdAt ← readCreatedAt format d
  let lastVerifiedAt ← readOptDatetime format d "last_verified_at"
  some ⟨accessToken, tokenType, refreshToken, expiresAt, scope, flowType, mode, realm,
    authServerUrl, createdAt, lastVerifiedAt⟩

/-- `AuthSession.model_validate`; `none` is a validation error. -/
def AuthSession.modelValidate (format : SessionFormat) : Json → Option AuthSession
  | .obj fields => AuthSession.ofFields format fields
  | _ => none

/-! ## The credential store -/

/-- What a file holds: bytes that are no text, a text that is no JSON, a text on which
    `json.loads` raises anything but a `JSONDecodeError` (an integer with too many digits,
    nesting that is too deep), or a document. -/
inductive FileContent where
  | undecodable (bytes : List UInt8)
  | garbled (text : String)
  | unparsable (error : String)
  | doc (json : Json)

/-- The files of the store directory that a login touches. -/
structure Store where
  credentials : Option FileContent
  tmp : Option FileContent
  policy : Option IdentityPolicyOverride

/-- `CredentialStoreError`. -/
def credentialStoreError (message : String) : AuthError where
  errorClass := "credential_store_error"
  message := message
  repairSuggestions := [
    "Check file permissions in ~/.keyhole/",
    "Clear the credential store: rm -rf ~/.keyhole/credentials.json",
    "Retry login: keyhole login"]

/-- `CredentialStore.load`; `readFault` is an `OSError` while the file is read. -/
def loadSession (format : SessionFormat) (readFault : Option String) (store : Store) :
    Except Fault (Option AuthSession) :=
  match store.credentials with
  | none => .ok none
  | some content =>
      match readFault with
      | some text => .error (.auth (credentialStoreError ("Could not read credentials: " ++ text)))
      | none =>
          match content with
          | .undecodable _ => .error (.other "UnicodeDecodeError")
          | .garbled text =>
              .error (.auth (credentialStoreError ("Could not read credentials: " ++ text)))
          | .unparsable error => .error (.other error)
          | .doc json =>
              match AuthSession.modelValidate format json with
              | some session => .ok (some session)
              | none => .error (.other "ValidationError")

/-- The steps of `CredentialStore.save`. -/
inductive SaveStep where
  | ensureDir
  | writeText
  | chmod
  | replace
  deriving DecidableEq

/-- What a save comes to: the step that raises an `OSError`, what a failed write leaves in
    the temporary file, and an `OSError` of the cleanup. -/
structure SaveOutcome where
  fault : Option (SaveStep × String)
  partialTmp : Option FileContent
  cleanupFault : Option String

/-- `CredentialStore.save`. -/
def saveSession (format : SessionFormat) (outcome : SaveOutcome) (session : AuthSession) :
    Prog Fault Store Unit :=
  match outcome.fault with
  | none => modify fun store =>
      { store with credentials := some (.doc (.obj (session.dump format))), tmp := none }
  | some (.ensureDir, text) => throw (.auth (credentialStoreError
      ("Could not create credential store directory: " ++ text)))
  | some (step, text) => do
      modify fun store => { store with
        tmp := if step = .writeText then outcome.partialTmp
          else some (.doc (.obj (session.dump format))) }
      let store ← get
      if store.tmp.isSome then
        match outcome.cleanupFault with
        | some text => throw (.other text)
        | none => modify fun store => { store with tmp := none }
      throw (.auth (credentialStoreError ("Could not write credentials: " ++ text)))

/-! ## The environment of a login -/

/-- `TokenResponse`. -/
structure TokenResponse where
  accessToken : String
  tokenType : String := "Bearer"
  expiresIn : Option Int := none
  refreshToken : Option String := none
  scope : Option String := none

/-- Everything a login reads from outside: the store's read errors, the clock, the outcome
    of each auth flow, the answers of `/whoami` and the outcomes of its saves. -/
structure LoginEnv where
  format : SessionFormat
  authServerUrl : String
  uuid : String
  explain : Json → String
  /-- `os.environ.get("KEYHOLE_ENABLE_DEV_PASSWORD_LOGIN") == "1"` -/
  devPasswordLogin : Bool
  /-- the reads of `is_authenticated` and of the session to reuse -/
  authenticatedReadFault : Option String
  reuseReadFault : Option String
  checkedAt : Timestamp
  reuseWhoami : WhoamiAnswer
  reusedAt : Timestamp
  reuseSave : SaveOutcome
  /-- the outcome of the chosen flow -/
  flow : AuthFlowType → Except Fault TokenResponse
  tokenAt : Timestamp
  createdAt : Timestamp
  freshWhoami : WhoamiAnswer
  verifiedAt : Timestamp
  freshSave : SaveOutcome

/-- The arguments of `login`. -/
structure LoginArgs where
  flowType : AuthFlowType := .pkce
  force : Bool := false
  correlationId : Option String := none
  username : Option String := none
  password : Option String := none
  email : Option String := none

/-- `LoginResult`. -/
structure LoginResult where
  success : Bool
  flowType : Option AuthFlowType := none
  mode : Option AuthMode := none
  whoami : Option WhoamiResponse := none
  correlationId : Option String := none
  errorClass : Option String := none
  errorMessage : Option String := none
  repairSuggestions : List String := []
  credentialPersisted : Bool := false
  verificationPassed : Bool := false
  identitySource : Option String := none

/-- `text` is given and not empty. -/
def given : Option String → Bool
  | some text => text ≠ ""
  | none => false

/-- The correlation id: the caller's, or a fresh one. -/
def LoginArgs.cid (args : LoginArgs) (env : LoginEnv) : String :=
  match args.correlationId with
  | some id => if id = "" then env.uuid else id
  | none => env.uuid

/-! ## The login -/

/-- `IncompleteIdentityError`. -/
def incompleteIdentityError (missing : List String) : AuthError where
  errorClass := "incomplete_identity"
  message := "Server returned incomplete identity: missing " ++ join ", " missing
  repairSuggestions := [
    "Retry login: keyhole login --force",
    "Contact your organization admin — your account may not be fully provisioned.",
    "Check that the MCP server is running a compatible version."]

/-- `InvalidTokenError`. -/
def invalidTokenError (message : String) : AuthError where
  errorClass := "invalid_token"
  message := message
  repairSuggestions := [
    "Retry login: keyhole login",
    "Ensure you completed the correct browser window.",
    "Clear local session and retry: keyhole login --force"]

/-- The result of a login that succeeded. -/
def succeeded (flowType : AuthFlowType) (who : WhoamiResponse) (cid : String) : LoginResult where
  success := true
  flowType := some flowType
  mode := some who.mode
  whoami := some who
  correlationId := some cid
  credentialPersisted := true
  verificationPassed := true
  identitySource := some "server/whoami"

/-- The result of a login that failed with an error of the SDK. -/
def failedWith (flowType : AuthFlowType) (cid : String) (verified : Bool) (error : AuthError) :
    LoginResult where
  success := false
  flowType := some flowType
  correlationId := some cid
  errorClass := some error.errorClass
  errorMessage := some error.message
  repairSuggestions := error.repairSuggestions
  verificationPassed := verified

/-- `not force and is_authenticated()`, then `load()`: the session a login tries to reuse. -/
def standingSession (env : LoginEnv) (args : LoginArgs) (store : Store) :
    Except Fault (Option AuthSession) :=
  if args.force then .ok none
  else do
    match ← loadSession env.format env.authenticatedReadFault store with
    | none => .ok none
    | some session =>
        if ← session.isExpired env.checkedAt then .ok none
        else loadSession env.format env.reuseReadFault store

/-- The reuse of a stored session. -/
def reuseSession (env : LoginEnv) (args : LoginArgs) (session : AuthSession) :
    Prog Fault Store LoginResult := do
  match whoami env.explain env.reuseWhoami with
  | .error e => throw e
  | .ok who =>
      let missing := who.validateRequiredIdentity
      if missing ≠ [] then throw (.auth (incompleteIdentityError missing))
      saveSession env.format env.reuseSave
        { session with mode := who.mode, lastVerifiedAt := some env.reusedAt }
      pure (succeeded session.flowType who (args.cid env))

/-- The auth flow of the chosen type. -/
def startFlow (env : LoginEnv) (args : LoginArgs) : Except Fault TokenResponse :=
  match args.flowType with
  | .pkce => env.flow .pkce
  | .password =>
      if !env.devPasswordLogin then
        .error (.auth {
          errorClass := "auth_bootstrap_error"
          message := "Password login is disabled in the public SDK by default."
          repairSuggestions := [
            "Use: keyhole login --flow device --force",
            "For local/dev only: set KEYHOLE_ENABLE_DEV_PASSWORD_LOGIN=1 and retry."] })
      else if !given args.username || !given args.password then
        .error (.auth (invalidTokenError "Password flow requires username and password."))
      else env.flow .password
  | .passwordless =>
      if !given args.email then
        .error (.auth {
          errorClass := "auth_bootstrap_error"
          message := "Passwordless flow requires --email."
          repairSuggestions := [
            "Use: keyhole login --flow passwordless --email you@example.com"] })
      else env.flow .passwordless
  | .device => env.flow .device

/-- `t + timedelta(seconds=seconds)`, within the range of `datetime`. -/
def Timestamp.plusSeconds (t : Timestamp) (seconds : Int) : Option Timestamp :=
  let wall := t.wall + seconds * 1000000
  if -62135596800000000 ≤ wall ∧ wall ≤ 253402300799999999 then some { t with wall := wall }
  else none

/-- The session built from a token response, not yet persisted; `none` is the
    `OverflowError` of an expiry out of range. -/
def provisionalSession (env : LoginEnv) (args : LoginArgs) (token : TokenResponse) :
    Option AuthSession := do
  let expiresAt ← match token.expiresIn with
    | none => some none
    | some seconds => (Timestamp.plusSeconds env.tokenAt seconds).map some
  some {
    accessToken := token.accessToken
    tokenType := token.tokenType
    refreshToken := token.refreshToken
    expiresAt := expiresAt
    scope := token.scope
    flowType := args.flowType
    mode := .real
    realm := env.format.defaultRealm
    authServerUrl := some env.authServerUrl
    createdAt := env.createdAt
    lastVerifiedAt := none }

/-- The report of an identity that lacks required fields. -/
def reportIncomplete (args : LoginArgs) (cid : String) (missing : List String) : LoginResult where
  success := false
  flowType := some args.flowType
  correlationId := some cid
  errorClass := some "incomplete_identity"
  errorMessage := some ("Server returned incomplete identity: missing " ++ join ", " missing)
  repairSuggestions := [
    "Retry login: keyhole login --force",
    "Contact your organization admin — your account may not be fully provisioned."]

/-- The identity of a new token, and the save of its session. -/
def adoptSession (env : LoginEnv) (args : LoginArgs) (session : AuthSession) :
    Prog Fault Store LoginResult :=
  match whoami env.explain env.freshWhoami with
  | .error (.auth e) => pure (failedWith args.flowType (args.cid env) false e)
  | .error (.other text) => throw (.other text)
  | .ok who =>
      let missing := who.validateRequiredIdentity
      if missing ≠ [] then pure (reportIncomplete args (args.cid env) missing)
      else
        tryCatch
          (do saveSession env.format env.freshSave
                { session with mode := who.mode, lastVerifiedAt := some env.verifiedAt }
              pure (succeeded args.flowType who (args.cid env)))
          (fun e => match e with
            | .auth e => pure (failedWith args.flowType (args.cid env) true e)
            | .other text => throw (.other text))

/-- A login with the auth flow. -/
def freshLogin (env : LoginEnv) (args : LoginArgs) : Prog Fault Store LoginResult :=
  match startFlow env args with
  | .error (.auth e) => pure (failedWith args.flowType (args.cid env) false e)
  | .error (.other text) => throw (.other text)
  | .ok token =>
      match provisionalSession env args token with
      | none => throw (.other "OverflowError")
      | some session => adoptSession env args session

/-- `AuthBootstrapClient.login`. -/
def login (env : LoginEnv) (args : LoginArgs) : Prog Fault Store LoginResult := do
  let store ← get
  match standingSession env args store with
  | .error e => throw e
  | .ok none => freshLogin env args
  | .ok (some session) =>
      -- whatever stops the reuse, the login goes on with the flow
      match ← tryCatch (some <$> reuseSession env args session) (fun _ => pure none) with
      | some result => pure result
      | none => freshLogin env args

/-! ## The session a login binds -/

/-- The identity and session that an answer of `/whoami` lets a login store: the answer
    gives a complete identity and the save goes through. -/
def verified (explain : Json → String) (answer : WhoamiAnswer) (verifiedAt : Timestamp)
    (outcome : SaveOutcome) (session : AuthSession) : Option (WhoamiResponse × AuthSession) :=
  match whoami explain answer with
  | .error _ => none
  | .ok who =>
      if who.validateRequiredIdentity = [] ∧ outcome.fault = none then
        some (who, { session with mode := who.mode, lastVerifiedAt := some verifiedAt })
      else none

/-- What the auth flow leads to. -/
def freshSession (env : LoginEnv) (args : LoginArgs) : Option (WhoamiResponse × AuthSession) :=
  match startFlow env args with
  | .error _ => none
  | .ok token =>
      (provisionalSession env args token).bind
        (verified env.explain env.freshWhoami env.verifiedAt env.freshSave)

/-- What the stored session leads to. -/
def reusedSession (env : LoginEnv) (standing : Option AuthSession) :
    Option (WhoamiResponse × AuthSession) :=
  standing.bind (verified env.explain env.reuseWhoami env.reusedAt env.reuseSave)

/-- The identity and session that the inputs lead a login to store, if any. -/
def boundSession (env : LoginEnv) (args : LoginArgs) (store : Store) :
    Option (WhoamiResponse × AuthSession) :=
  match standingSession env args store with
  | .error _ => none
  | .ok standing =>
      match reusedSession env standing with
      | some bound => some bound
      | none => freshSession env args

/-- The store after a session was saved. -/
def Store.stored (store : Store) (format : SessionFormat) (session : AuthSession) : Store :=
  { store with credentials := some (.doc (.obj (session.dump format))), tmp := none }

/-- Two stores with the same credentials and the same policy. -/
def SameCredentials (store store' : Store) : Prop :=
  store'.credentials = store.credentials ∧ store'.policy = store.policy

theorem SameCredentials.trans {a b c : Store} (h : SameCredentials a b)
    (h' : SameCredentials b c) : SameCredentials a c :=
  ⟨h'.1.trans h.1, h'.2.trans h.2⟩

variable {session saved : AuthSession} {who : WhoamiResponse} {store : Store}
variable {outcome : SaveOutcome}

/-- Saving a session leaves nothing of the earlier credentials. -/
theorem stored_congr {store' : Store} (h : SameCredentials store store')
    (format : SessionFormat) (session : AuthSession) :
    store'.stored format session = store.stored format session := by
  unfold Store.stored
  rw [h.2]

theorem exec_saveSession {format : SessionFormat}
    (h : outcome.fault = none) (session : AuthSession) (store : Store) :
    exec (saveSession format outcome session) store = (.ok (), store.stored format session) := by
  unfold saveSession
  rw [h]
  rfl

/-- A save that meets an error raises it and leaves the credentials file alone. -/
theorem exec_saveSession_fault (format : SessionFormat)
    (h : outcome.fault ≠ none) (session : AuthSession) (store : Store) :
    ∃ e store', exec (saveSession format outcome session) store = (.error e, store')
      ∧ SameCredentials store store' := by
  unfold saveSession
  obtain ⟨⟨step, text⟩, hfault⟩ := Option.ne_none_iff_exists'.mp h
  rw [hfault]
  have hlate : ∀ content : Option FileContent,
      ∃ e store', exec (do
          modify fun store : Store => { store with tmp := content }
          let store ← get
          if store.tmp.isSome then
            match outcome.cleanupFault with
            | some text => throw (.other text)
            | none => modify fun store => { store with tmp := none }
          throw (.auth (credentialStoreError ("Could not write credentials: " ++ text)))
          : Prog Fault Store Unit) store = (.error e, store')
        ∧ SameCredentials store store' := by
    intro content
    cases content with
    | none => exact ⟨_, _, rfl, rfl, rfl⟩
    | some content =>
      cases hcleanup : outcome.cleanupFault with
      | none => exact ⟨_, _, rfl, rfl, rfl⟩
      | some text => exact ⟨_, _, rfl, rfl, rfl⟩
  cases step with
  | ensureDir => exact ⟨_, _, rfl, rfl, rfl⟩
  | writeText => exact hlate _
  | chmod => exact hlate _
  | replace => exact hlate _

/-- The program leaves the credentials alone, and a result it returns is a failure. -/
def Refuses (m : Prog Fault Store LoginResult) (store : Store) : Prop :=
  ∃ outcome store', exec m store = (outcome, store') ∧ SameCredentials store store'
    ∧ ∀ result, outcome = .ok result → result.success = false

theorem refuses_pure {result : LoginResult} (h : result.success = false) (store : Store) :
    Refuses (pure result) store :=
  ⟨_, store, rfl, ⟨rfl, rfl⟩, fun _ e => Except.ok.inj e ▸ h⟩

theorem refuses_throw (e : Fault) (store : Store) : Refuses (throw e) store :=
  ⟨_, store, rfl, ⟨rfl, rfl⟩, fun _ h => nomatch h⟩

theorem refuses_of_exec {m n : Prog Fault Store LoginResult} {store' : Store}
    (hsame : SameCredentials store store') (hexec : exec m store = exec n store')
    (h : Refuses n store') : Refuses m store := by
  obtain ⟨outcome, store'', hn, hkept, hfailed⟩ := h
  exact ⟨outcome, store'', hexec.trans hn, hsame.trans hkept, hfailed⟩

/-- What `verified` says of the identity it gives. -/
theorem verified_eq_some {explain : Json → String} {answer : WhoamiAnswer} {at' : Timestamp}
    (h : verified explain answer at' outcome session = some (who, saved)) :
    whoami explain answer = .ok who ∧ who.validateRequiredIdentity = []
      ∧ outcome.fault = none
      ∧ saved = { session with mode := who.mode, lastVerifiedAt := some at' } := by
  unfold verified at h
  cases hwho : whoami explain answer with
  | error e =>
    rw [hwho] at h
    exact nomatch h
  | ok found =>
    rw [hwho] at h
    by_cases hcomplete : found.validateRequiredIdentity = [] ∧ outcome.fault = none
    · simp only [if_pos hcomplete, Option.some.injEq, Prod.mk.injEq] at h
      obtain ⟨rfl, rfl⟩ := h
      exact ⟨rfl, hcomplete.1, hcomplete.2, rfl⟩
    · simp only [if_neg hcomplete] at h
      exact nomatch h

theorem verified_eq_none {explain : Json → String} {answer : WhoamiAnswer} {at' : Timestamp}
    (h : verified explain answer at' outcome session = none)
    (hwho : whoami explain answer = .ok who) (hcomplete : who.validateRequiredIdentity = []) :
    outcome.fault ≠ none := by
  unfold verified at h
  rw [hwho] at h
  intro hfault
  simp only [if_pos (And.intro hcomplete hfault)] at h
  exact nomatch h

variable (env : LoginEnv) (args : LoginArgs)

/-- Reusing a session stores it when its token is verified. -/
theorem exec_reuseSession
    (h : verified env.explain env.reuseWhoami env.reusedAt env.reuseSave session
      = some (who, saved)) (store : Store) :
    exec (reuseSession env args session) store
      = (.ok (succeeded session.flowType who (args.cid env)), store.stored env.format saved) := by
  obtain ⟨hwho, hcomplete, hsave, rfl⟩ := verified_eq_some h
  unfold reuseSession
  simp only [hwho, hcomplete, ne_eq, not_true, if_false]
  exact exec_bind_ok (exec_saveSession hsave _ store)

/-- Reusing a session raises when its token is not verified. -/
theorem exec_reuseSession_fault
    (h : verified env.explain env.reuseWhoami env.reusedAt env.reuseSave session = none)
    (store : Store) :
    ∃ e store', exec (reuseSession env args session) store = (.error e, store')
      ∧ SameCredentials store store' := by
  unfold reuseSession
  cases hwho : whoami env.explain env.reuseWhoami with
  | error e => exact ⟨e, store, rfl, rfl, rfl⟩
  | ok who =>
    by_cases hcomplete : who.validateRequiredIdentity = []
    · simp only [hcomplete, ne_eq, not_true, if_false]
      obtain ⟨e, store', hexec, hsame⟩ := exec_saveSession_fault env.format
        (verified_eq_none h hwho hcomplete)
        { session with mode := who.mode, lastVerifiedAt := some env.reusedAt } store
      exact ⟨e, store', exec_bind_error hexec, hsame⟩
    · simp only [hcomplete, ne_eq, not_false_eq_true, if_true]
      exact ⟨_, store, rfl, rfl, rfl⟩

/-- The session of a new token is stored when the token is verified. -/
theorem exec_adoptSession
    (h : verified env.explain env.freshWhoami env.verifiedAt env.freshSave session
      = some (who, saved)) (store : Store) :
    exec (adoptSession env args session) store
      = (.ok (succeeded args.flowType who (args.cid env)), store.stored env.format saved) := by
  obtain ⟨hwho, hcomplete, hsave, rfl⟩ := verified_eq_some h
  unfold adoptSession
  simp only [hwho, hcomplete, ne_eq, not_true, if_false]
  rw [exec_tryCatch, exec_bind_ok (exec_saveSession hsave _ store)]
  rfl

/-- A new token that is not verified stores nothing. -/
theorem adoptSession_refuses
    (h : verified env.explain env.freshWhoami env.verifiedAt env.freshSave session = none)
    (store : Store) : Refuses (adoptSession env args session) store := by
  unfold adoptSession
  cases hwho : whoami env.explain env.freshWhoami with
  | error e =>
    cases e with
    | auth error => exact refuses_pure rfl store
    | other text => exact refuses_throw _ store
  | ok who =>
    by_cases hcomplete : who.validateRequiredIdentity = []
    · simp only [hcomplete, ne_eq, not_true, if_false]
      obtain ⟨e, store', hexec, hsame⟩ := exec_saveSession_fault env.format
        (verified_eq_none h hwho hcomplete)
        { session with mode := who.mode, lastVerifiedAt := some env.verifiedAt } store
      cases e with
      | auth error =>
        have hfailed : (failedWith args.flowType (args.cid env) true error).success = false := rfl
        refine refuses_of_exec hsame ?_ (refuses_pure hfailed store')
        rw [exec_tryCatch, exec_bind_error hexec]
      | other text =>
        refine refuses_of_exec hsame ?_ (refuses_throw (.other text) store')
        rw [exec_tryCatch, exec_bind_error hexec]
    · simp only [hcomplete, ne_eq, not_false_eq_true, if_true]
      exact refuses_pure rfl store

/-- A login with the auth flow stores the session the flow leads to. -/
theorem exec_freshLogin (h : freshSession env args = some (who, saved)) (store : Store) :
    exec (freshLogin env args) store
      = (.ok (succeeded args.flowType who (args.cid env)), store.stored env.format saved) := by
  unfold freshSession at h
  unfold freshLogin
  cases hflow : startFlow env args with
  | error e =>
    rw [hflow] at h
    exact nomatch h
  | ok token =>
    rw [hflow] at h
    obtain ⟨session, hsession, hverified⟩ := Option.bind_eq_some_iff.mp h
    simp only [hsession]
    exact exec_adoptSession env args hverified store

/-- A flow that leads to no session stores nothing. -/
theorem freshLogin_refuses (h : freshSession env args = none) (store : Store) :
    Refuses (freshLogin env args) store := by
  unfold freshSession at h
  unfold freshLogin
  cases hflow : startFlow env args with
  | error e =>
    cases e with
    | auth error => exact refuses_pure rfl store
    | other text => exact refuses_throw _ store
  | ok token =>
    rw [hflow] at h
    cases hsession : provisionalSession env args token with
    | none =>
      simp only [hsession]
      exact refuses_throw _ store
    | some session =>
      simp only [hsession, Option.bind_some] at h ⊢
      exact adoptSession_refuses env args h store

/-- The outcome of trying a standing session. -/
theorem exec_reuse_some (h : reusedSession env (some session) = some (who, saved)) (store : Store) :
    exec (tryCatch (some <$> reuseSession env args session) (fun _ => pure none)) store
      = (.ok (some (succeeded session.flowType who (args.cid env))),
          store.stored env.format saved) := by
  rw [exec_tryCatch, map_eq_pure_bind, exec_bind_ok (exec_reuseSession env args h store)]
  rfl

theorem exec_reuse_none (h : reusedSession env (some session) = none) (store : Store) :
    ∃ store', exec (tryCatch (some <$> reuseSession env args session) (fun _ => pure none)) store
        = (.ok none, store') ∧ SameCredentials store store' := by
  obtain ⟨e, store', hexec, hsame⟩ := exec_reuseSession_fault env args h store
  refine ⟨store', ?_, hsame⟩
  rw [exec_tryCatch, map_eq_pure_bind, exec_bind_error hexec]
  rfl

/-- A login stores the session its inputs lead to, and succeeds. -/
theorem login_of_bound (h : boundSession env args store = some (who, saved)) :
    ∃ flowType, exec (login env args) store
      = (.ok (succeeded flowType who (args.cid env)), store.stored env.format saved) := by
  unfold boundSession at h
  unfold login
  rw [exec_bind_ok (exec_get store)]
  cases hstanding : standingSession env args store with
  | error e =>
    rw [hstanding] at h
    exact nomatch h
  | ok standing =>
    rw [hstanding] at h
    cases standing with
    | none => exact ⟨_, exec_freshLogin env args h store⟩
    | some session =>
      cases hreuse : reusedSession env (some session) with
      | some bound =>
        simp only [hreuse, Option.some.injEq] at h
        subst h
        exact ⟨_, exec_bind_ok (exec_reuse_some env args hreuse store)⟩
      | none =>
        simp only [hreuse] at h
        obtain ⟨store', hexec, hsame⟩ := exec_reuse_none env args hreuse store
        refine ⟨args.flowType, (exec_bind_ok hexec).trans ?_⟩
        rw [← stored_congr hsame env.format saved]
        exact exec_freshLogin env args h store'

/-- A login whose inputs lead to no session leaves the credentials alone and does not
    succeed. -/
theorem login_of_unbound (h : boundSession env args store = none) :
    Refuses (login env args) store := by
  unfold boundSession at h
  unfold login
  refine refuses_of_exec ⟨rfl, rfl⟩ (exec_bind_ok (exec_get store)) ?_
  cases hstanding : standingSession env args store with
  | error e => exact refuses_throw e store
  | ok standing =>
    rw [hstanding] at h
    cases standing with
    | none => exact freshLogin_refuses env args h store
    | some session =>
      cases hreuse : reusedSession env (some session) with
      | some bound =>
        simp only [hreuse] at h
        exact nomatch h
      | none =>
        simp only [hreuse] at h
        obtain ⟨store', hexec, hsame⟩ := exec_reuse_none env args hreuse store
        exact refuses_of_exec hsame (exec_bind_ok hexec) (freshLogin_refuses env args h store')

end KeyholeLogin
