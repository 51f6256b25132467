import Mathlib.Logic.Function.Basic
import Keyhole.LoginSession

/-!
# Refreshing the access token

`get_fresh_token` reads the credentials file, and when the access token is near its expiry
it trades the refresh token for a new pair and writes the file through a temporary file.
The session reuse of a login reads and writes the same file through a temporary file of
the same name, and `CredentialStore.clear` removes it.  No lock is held, so the calls take
their steps in any order: a read, the request to the authorization server, the write of
the temporary file, its `chmod`, the rename.

* `State`, `Event`, `step`: any number of calls over the files and a server that rotates
  refresh tokens;
* `step_load` … `step_clear`: where each step starts, and what it does. -/

namespace KeyholeRefresh

open KeyholeJson KeyholeIdentity KeyholeLogin KeyholeCoherence

/-! ## The stored credentials -/

/-- What the functions use of the libraries: `json.loads` of a base64 text and `int`, each
    `none` where they raise, and the text of a UTC time some seconds after the clock. -/
structure TokenLib where
  loadsBase64 : List Char → Option Json
  toInt : Json → Option Int
  isoAfter : Rat → Int → String
  format : SessionFormat
  explain : Json → String

/-- `_EXPIRY_BUFFER_SECONDS`. -/
def expiryBufferSeconds : Int := 60

/-- `_TOKEN_SUFFIX`. -/
def tokenSuffix : String := "/protocol/openid-connect/token"

/-- `_DEFAULT_AUTH_SERVER`. -/
def defaultAuthServer : String := "https://auth.keyholesolution.com/realms/kh-prod"

/-- `token.split(".")[1]`. -/
def secondPart (token : List Char) : Option (List Char) :=
  match token.dropWhile (fun c => c != '.') with
  | [] => none
  | _ :: rest => some (rest.takeWhile (fun c => c != '.'))

/-- `_jwt_exp`; whatever raises comes to `None`. -/
def jwtExp (lib : TokenLib) : Json → Option Int
  | .str token => do
      let payload ← secondPart token.toList
      let padded := payload ++ List.replicate ((4 - payload.length % 4) % 4) '='
      match ← lib.loadsBase64 padded with
      | .obj fields => if Dict.has fields "exp" then lib.toInt (Dict.get fields "exp") else none
      | _ => none
  | _ => none

/-- `_token_is_valid`, at a reading of `time.time()`. -/
def tokenIsValid (lib : TokenLib) (now : Rat) (token : Json) : Bool :=
  match jwtExp lib token with
  | none => false
  | some exp => now < (exp - expiryBufferSeconds : Int)

/-- `s.rstrip("/")`. -/
def rstripSlash (s : String) : String :=
  String.ofList ((s.toList.reverse.dropWhile (fun c => c == '/')).reverse)

/-- The token endpoint of the credentials; `none` where `rstrip` is not there. -/
def tokenEndpoint (creds : Dict) : Option String :=
  match creds.getOr "auth_server_url" (.str defaultAuthServer) with
  | .str url => some (rstripSlash url ++ tokenSuffix)
  | _ => none

/-- The JSON body of an answer to a refresh grant. -/
structure GrantAnswer where
  accessToken : String
  tokenType : Option String
  expiresIn : Option Int
  refreshToken : Option String

/-- The credentials with the refresh token of the answer, if it has one. -/
def withRefreshToken (creds : Dict) : Option String → Dict
  | some token => creds.set "refresh_token" (.str token)
  | none => creds

/-- `_do_refresh` after the request: the answer, merged into the credentials. -/
def mergeGrant (lib : TokenLib) (now : Rat) (creds : Dict) (data : GrantAnswer) : Dict :=
  let creds := creds.set "access_token" (.str data.accessToken)
  let creds := creds.set "token_type" (.str (data.tokenType.getD "Bearer"))
  let creds := creds.set "expires_at" (.str (lib.isoAfter now (data.expiresIn.getD 300)))
  withRefreshToken creds data.refreshToken

/-! ## The calls -/

/-- The two that write the credentials file. -/
inductive Caller where
  | getFreshToken
  | sessionReuse
  deriving DecidableEq

/-- How `get_fresh_token` fails. -/
inductive Failure where
  | noCredentials
  | unreadable
  | malformed
  | noRefreshToken
  /-- the request did not reach the server -/
  | unreachable
  /-- the server does not accept the refresh token -/
  | refused
  /-- the temporary file is gone; who removed it -/
  | temporaryFileGone (by_ : Option Caller)
  deriving DecidableEq

/-- Where a call stands: what it has read, and what it does next. -/
inductive Point where
  | idle
  /-- `get_fresh_token` before the request -/
  | refreshing (creds : Dict)
  /-- a login that found itself authenticated, before it loads the session -/
  | authenticated
  /-- a login that asks `/whoami` for its session -/
  | verifying (session : AuthSession)
  /-- before `write_text`, `chmod` and `replace` -/
  | saving (caller : Caller) (content : Dict)
  | written (caller : Caller) (content : Dict)
  | restricted (caller : Caller) (content : Dict)
  /-- `CredentialStore.save` after an `OSError` -/
  | cleaning
  | returned (token : String)
  | failed (why : Failure)
  /-- the login reused its session -/
  | reused
  /-- the login left the reuse -/
  | left

/-- The call holds credentials that it read. -/
def Point.busy : Point → Bool
  | .refreshing _ | .verifying _ | .saving .. | .written .. | .restricted .. | .cleaning => true
  | _ => false

/-- The call was granted new tokens that are not in the file. -/
def Point.ahead : Point → Bool
  | .saving .getFreshToken _ | .written .getFreshToken _ | .restricted .getFreshToken _ => true
  | _ => false

/-- The call was not made or is over. -/
def Point.finished : Point → Bool
  | .idle | .returned _ | .failed _ | .reused | .left => true
  | _ => false

/-- The files, the server and the calls.  The server accepts one refresh token, `live`, and
    never issues one twice. -/
structure State where
  credentials : Option FileContent
  tmp : Option FileContent
  /-- who removed the temporary file last -/
  removedBy : Option Caller
  live : String
  issued : List String
  calls : Nat → Point

/-- One step, of the call `i`. -/
inductive Event where
  | load (i : Nat) (now : Rat)
  | grant (i : Nat) (now : Rat) (answer : Option GrantAnswer)
  | isAuthenticated (i : Nat) (now : Timestamp)
  | reload (i : Nat)
  | whoami (i : Nat) (answer : WhoamiAnswer) (now : Timestamp)
  | writeText (i : Nat)
  | chmod (i : Nat)
  | replace (i : Nat)
  | cleanup (i : Nat)
  | clear

/-- The call `i` moves on. -/
def State.move (s : State) (i : Nat) (p : Point) : State :=
  { s with calls := Function.update s.calls i p }

/-! ## The steps -/

/-- `get_fresh_token` on credentials, up to its request. -/
def withCreds (lib : TokenLib) (now : Rat) (creds : Dict) : Point :=
  let accessToken := creds.getOr "access_token" (.str "")
  if tokenIsValid lib now accessToken then .returned (pyStr accessToken)
  else if !truthy (creds.get "refresh_token") then .failed .noRefreshToken
  else match tokenEndpoint creds with
    | some _ => .refreshing creds
    | none => .failed .malformed

/-- `get_fresh_token` up to its request.  A file that is removed between `exists` and
    `read_text` raises the same `FileNotFoundError`. -/
def afterLoad (lib : TokenLib) (now : Rat) : Option FileContent → Point
  | none => .failed .noCredentials
  | some (.doc (.obj creds)) => withCreds lib now creds
  | some (.doc _) => .failed .malformed
  | some _ => .failed .unreadable

/-- The server gives up the live token for one it never issued. -/
def grantTokens (lib : TokenLib) (s : State) (i : Nat) (creds : Dict) (now : Rat)
    (answer : GrantAnswer) : Option State :=
  match answer.refreshToken with
  | none => none
  | some fresh =>
      if fresh ∈ s.issued then none
      else some { s.move i (.saving .getFreshToken (mergeGrant lib now creds answer)) with
        live := fresh, issued := fresh :: s.issued }

/-- The request of a refresh grant; the server takes the live token and no other. -/
def requestGrant (lib : TokenLib) (s : State) (i : Nat) (creds : Dict) (now : Rat) :
    Option GrantAnswer → Option State
  | none => some (s.move i (.failed .unreachable))
  | some answer =>
      if isStr s.live (creds.get "refresh_token") then grantTokens lib s i creds now answer
      else some (s.move i (.failed .refused))

/-- `CredentialStore.load`. -/
def State.loadSession (lib : TokenLib) (s : State) : Except Fault (Option AuthSession) :=
  KeyholeLogin.loadSession lib.format none ⟨s.credentials, s.tmp, none⟩

/-- A session that has not expired lets the login go on to reuse it. -/
def afterExpiry : Except Fault Bool → Point
  | .ok false => .authenticated
  | _ => .left

/-- `CredentialStore.is_authenticated`; a login whose check raises ends. -/
def afterCheck (now : Timestamp) : Except Fault (Option AuthSession) → Point
  | .ok (some session) => afterExpiry (session.isExpired now)
  | _ => .left

/-- The session the login reuses. -/
def afterReload : Except Fault (Option AuthSession) → Point
  | .ok (some session) => .verifying session
  | _ => .left

/-- The login has the answer of `/whoami` for its session. -/
def afterWhoami (lib : TokenLib) (session : AuthSession) (answer : WhoamiAnswer)
    (now : Timestamp) : Point :=
  match KeyholeIdentity.whoami lib.explain answer with
  | .error _ => .left
  | .ok who =>
      if who.validateRequiredIdentity ≠ [] then .left
      else .saving .sessionReuse
        ({ session with mode := who.mode, lastVerifiedAt := some now }.dump lib.format)

/-- The temporary file is not there for `chmod` or `replace`. -/
def State.temporaryFileGone (s : State) : Caller → Point
  | .getFreshToken => .failed (.temporaryFileGone s.removedBy)
  | .sessionReuse => .cleaning

/-- The file is saved. -/
def afterReplace (content : Dict) : Caller → Point
  | .getFreshToken => .returned (pyStr (content.get "access_token"))
  | .sessionReuse => .reused

/-- `tmp.chmod`. -/
def chmodTmp (s : State) (i : Nat) (caller : Caller) (content : Dict) : State :=
  match s.tmp with
  | some _ => s.move i (.restricted caller content)
  | none => s.move i (s.temporaryFileGone caller)

/-- `tmp.replace(path)`. -/
def replaceCredentials (s : State) (i : Nat) (caller : Caller) (content : Dict) : State :=
  match s.tmp with
  | some found =>
      { s.move i (afterReplace content caller) with
        credentials := some found, tmp := none, removedBy := some caller }
  | none => s.move i (s.temporaryFileGone caller)

/-- What a step does; `none` where the call does not stand there. -/
def step (lib : TokenLib) (s : State) : Event → Option State
  | .load i now =>
      match s.calls i with
      | .idle => some (s.move i (afterLoad lib now s.credentials))
      | _ => none
  | .grant i now answer =>
      match s.calls i with
      | .refreshing creds => requestGrant lib s i creds now answer
      | _ => none
  | .isAuthenticated i now =>
      match s.calls i with
      | .idle => some (s.move i (afterCheck now (s.loadSession lib)))
      | _ => none
  | .reload i =>
      match s.calls i with
      | .authenticated => some (s.move i (afterReload (s.loadSession lib)))
      | _ => none
  | .whoami i answer now =>
      match s.calls i with
      | .verifying session => some (s.move i (afterWhoami lib session answer now))
      | _ => none
  | .writeText i =>
      match s.calls i with
      | .saving caller content =>
          some { s.move i (.written caller content) with tmp := some (.doc (.obj content)) }
      | _ => none
  | .chmod i =>
      match s.calls i with
      | .written caller content => some (chmodTmp s i caller content)
      | _ => none
  | .replace i =>
      match s.calls i with
      | .restricted caller content => some (replaceCredentials s i caller content)
      | _ => none
  | .cleanup i =>
      match s.calls i with
      | .cleaning => some
          { s.move i .left with
            tmp := none
            removedBy := if s.tmp.isSome then some .sessionReuse else s.removedBy }
      | _ => none
  | .clear => some { s with credentials := none }

/-- The state after some steps. -/
def run (lib : TokenLib) (s : State) : List Event → Option State
  | [] => some s
  | e :: events => (step lib s e).bind fun next => run lib next events

/-! ## What each step does -/

variable {lib : TokenLib} {s s' : State} {i : Nat}

@[simp] theorem move_calls (p : Point) :
    (s.move i p).calls = Function.update s.calls i p := rfl

@[simp] theorem move_credentials (p : Point) : (s.move i p).credentials = s.credentials := rfl

@[simp] theorem move_tmp (p : Point) : (s.move i p).tmp = s.tmp := rfl

@[simp] theorem move_live (p : Point) : (s.move i p).live = s.live := rfl

@[simp] theorem move_removedBy (p : Point) : (s.move i p).removedBy = s.removedBy := rfl

theorem step_load {now : Rat} (h : step lib s (.load i now) = some s') :
    s.calls i = .idle ∧ s' = s.move i (afterLoad lib now s.credentials) := by
  rw [step] at h
  split at h
  next hp => exact ⟨hp, (Option.some.inj h).symm⟩
  next => exact nomatch h

theorem step_grant {now : Rat} {answer : Option GrantAnswer}
    (h : step lib s (.grant i now answer) = some s') :
    ∃ creds, s.calls i = .refreshing creds ∧ requestGrant lib s i creds now answer = some s' := by
  rw [step] at h
  split at h
  next creds hp => exact ⟨creds, hp, h⟩
  next => exact nomatch h

theorem requestGrant_live {creds : Dict} {now : Rat} {data : GrantAnswer}
    (h : isStr s.live (Dict.get creds "refresh_token") = true) :
    requestGrant lib s i creds now (some data) = grantTokens lib s i creds now data := if_pos h

theorem requestGrant_dead {creds : Dict} {now : Rat} {data : GrantAnswer}
    (h : isStr s.live (Dict.get creds "refresh_token") = false) :
    requestGrant lib s i creds now (some data) = some (s.move i (.failed .refused)) :=
  if_neg (by rw [h]; exact Bool.false_ne_true)

theorem step_isAuthenticated {now : Timestamp} (h : step lib s (.isAuthenticated i now) = some s') :
    s.calls i = .idle ∧ s' = s.move i (afterCheck now (s.loadSession lib)) := by
  rw [step] at h
  split at h
  next hp => exact ⟨hp, (Option.some.inj h).symm⟩
  next => exact nomatch h

theorem step_reload (h : step lib s (.reload i) = some s') :
    s.calls i = .authenticated ∧ s' = s.move i (afterReload (s.loadSession lib)) := by
  rw [step] at h
  split at h
  next hp => exact ⟨hp, (Option.some.inj h).symm⟩
  next => exact nomatch h

theorem step_whoami {answer : WhoamiAnswer} {now : Timestamp}
    (h : step lib s (.whoami i answer now) = some s') :
    ∃ session, s.calls i = .verifying session
      ∧ s' = s.move i (afterWhoami lib session answer now) := by
  rw [step] at h
  split at h
  next session hp => exact ⟨session, hp, (Option.some.inj h).symm⟩
  next => exact nomatch h

theorem step_writeText (h : step lib s (.writeText i) = some s') :
    ∃ caller content, s.calls i = .saving caller content
      ∧ s' = { s.move i (.written caller content) with tmp := some (.doc (.obj content)) } := by
  rw [step] at h
  split at h
  next caller content hp => exact ⟨caller, content, hp, (Option.some.inj h).symm⟩
  next => exact nomatch h

theorem step_chmod (h : step lib s (.chmod i) = some s') :
    ∃ caller content, s.calls i = .written caller content
      ∧ s' = chmodTmp s i caller content := by
  rw [step] at h
  split at h
  next caller content hp => exact ⟨caller, content, hp, (Option.some.inj h).symm⟩
  next => exact nomatch h

theorem step_replace (h : step lib s (.replace i) = some s') :
    ∃ caller content, s.calls i = .restricted caller content
      ∧ s' = replaceCredentials s i caller content := by
  rw [step] at h
  split at h
  next caller content hp => exact ⟨caller, content, hp, (Option.some.inj h).symm⟩
  next => exact nomatch h

theorem step_cleanup (h : step lib s (.cleanup i) = some s') :
    s.calls i = .cleaning
      ∧ s' = { s.move i .left with
          tmp := none
          removedBy := if s.tmp.isSome then some .sessionReuse else s.removedBy } := by
  rw [step] at h
  split at h
  next hp => exact ⟨hp, (Option.some.inj h).symm⟩
  next => exact nomatch h

theorem step_clear (h : step lib s .clear = some s') : s' = { s with credentials := none } :=
  (Option.some.inj h).symm

end KeyholeRefresh
