import Keyhole.ExceptLoops
import Keyhole.LoginAttempts

/-!
# Signing out

`SignOutManager.sign_out` asks the boundary to revoke the stored tokens, cancels the pending
login attempts, deletes the credentials file and cleans up further paths. A revocation may fail;
what `_revoke` does not catch escapes before anything is cleared.

* `signOut`: the method, over the credential store and the registry of attempts;
* `revokeTokens_eq`: its two requests are one fold over the tokens there are to revoke;
* `SignedOut`: what is promised of it;
* `signedOut_iff_caught`: it holds exactly when `_revoke` catches whatever the requests raise. -/

namespace KeyholeSignOut

open KeyholeLogin KeyholeAttempts ExceptLoops

/-! ## Revocation -/

/-- An exception, by its name. -/
abbrev Raised := String

/-- `token_type_hint`. -/
inductive Hint where
  | refreshToken
  | accessToken
  deriving DecidableEq

/-- What a revocation request comes to: an answer, a `ConnectionError` or `Timeout`, or another
    exception. -/
inductive RevokeReply where
  | answer (statusCode : Nat)
  | unreachable (text : String)
  | raises (e : Raised)

/-- What an extra path comes to: it is not there, it is removed, or removing it raises. -/
inductive ExtraOutcome where
  | absent
  | removed
  | raises
  deriving DecidableEq

/-- An `OSError` of `CredentialStore.clear`: where it looks for the file, or where it unlinks
    it. -/
inductive ClearFault where
  | look (text : String)
  | unlink (text : String)

/-- The manager, and all that a sign-out reads from outside. -/
structure SignOutEnv where
  format : SessionFormat
  revocationEndpoint : Option String
  clientId : Option String
  readFault : Option String
  reply : Hint → RevokeReply
  clearFault : Option ClearFault
  extraPaths : List (String × ExtraOutcome)
  correlationId : Option String
  uuid : String

/-- A revocation endpoint and a client are configured. -/
def SignOutEnv.canRevoke (env : SignOutEnv) : Bool :=
  given env.revocationEndpoint && given env.clientId

/-- `_revoke`: is the token revoked, and if not, why. -/
def revoke (env : SignOutEnv) (hint : Hint) : Except Raised (Bool × Option String) :=
  if !env.canRevoke then .ok (false, none)
  else match env.reply hint with
    | .unreachable text => .ok (false, some ("revocation network error: " ++ text))
    | .raises e => .error e
    | .answer statusCode =>
        if statusCode = 200 ∨ statusCode = 204 then .ok (true, none)
        else .ok (false, some ("revocation HTTP " ++ toString statusCode))

/-- `revoked_refresh`, `revoked_access` and `revoke_error`. -/
structure Revoked where
  refresh : Bool := false
  access : Bool := false
  error : Option String := none

/-- The first error is kept. -/
def Revoked.note (r : Revoked) (ok : Bool) (error : Option String) : Option String :=
  if !ok && given error && !given r.error then error else r.error

/-- The revocation of the refresh token. -/
def revokeRefresh (env : SignOutEnv) (session : AuthSession) (r : Revoked) :
    Except Raised Revoked :=
  if given session.refreshToken then do
    let (ok, error) ← revoke env .refreshToken
    return { r with refresh := ok, error := r.note ok error }
  else return r

/-- The revocation of the access token. -/
def revokeAccess (env : SignOutEnv) (session : AuthSession) (r : Revoked) :
    Except Raised Revoked :=
  if session.accessToken ≠ "" then do
    let (ok, error) ← revoke env .accessToken
    return { r with access := ok, error := r.note ok error }
  else return r

/-- The first step of a sign-out. -/
def revokeTokens (env : SignOutEnv) (session : Option AuthSession) : Except Raised Revoked :=
  match session with
  | none => return {}
  | some session =>
      if env.canRevoke then do
        let r ← revokeRefresh env session {}
        revokeAccess env session r
      else return {}

/-! ## The sign-out -/

/-- The machine: the credential store and the registry. -/
structure Machine where
  store : Store
  registry : Registry

/-- `LogoutResult`. -/
structure LogoutResult where
  success : Bool
  revokedRefreshToken : Bool
  revokedAccessToken : Bool
  clearedCredentialStore : Bool
  clearedPendingAttempts : List String
  clearedExtraPaths : List String
  errorMessage : Option String
  correlationId : String

/-- `CredentialStore.clear`. -/
def clear (fault : Option ClearFault) (store : Store) : Except String Unit × Store :=
  match fault with
  | some (.look text) => (.error ("Could not clear credentials: " ++ text), store)
  | fault =>
      match store.credentials with
      | none => (.ok (), store)
      | some _ =>
          match fault with
          | some (.unlink text) => (.error ("Could not clear credentials: " ++ text), store)
          | _ => (.ok (), { store with credentials := none })

/-- The session to revoke the tokens of; a store that cannot be read has none. -/
def storedSession (env : SignOutEnv) (store : Store) : Option AuthSession :=
  match loadSession env.format env.readFault store with
  | .ok session => session
  | .error _ => none

/-- The error a sign-out reports: the first one. -/
def reportedError (revokeError : Option String) : Except String Unit → Option String
  | .ok _ => revokeError
  | .error text =>
      if given revokeError then revokeError else some ("credential clear failed: " ++ text)

/-- `correlation_id or str(uuid.uuid4())`. -/
def SignOutEnv.cid (env : SignOutEnv) : String :=
  match env.correlationId with
  | some id => if id = "" then env.uuid else id
  | none => env.uuid

/-- `sign_out`; what its observer raises is dropped. -/
def signOut (env : SignOutEnv) (machine : Machine) : Except Raised LogoutResult × Machine :=
  match revokeTokens env (storedSession env machine.store) with
  | .error e => (.error e, machine)
  | .ok revoked =>
      let (registry, cancelled) := machine.registry.cancelAll
      let (cleared, store) := clear env.clearFault machine.store
      let error := reportedError revoked.error cleared
      (.ok {
        success := cleared.isOk && error.isNone
        revokedRefreshToken := revoked.refresh
        revokedAccessToken := revoked.access
        clearedCredentialStore := cleared.isOk
        clearedPendingAttempts := cancelled
        clearedExtraPaths := (env.extraPaths.filter (·.2 = .removed)).map (·.1)
        errorMessage := error
        correlationId := env.cid },
        { store := store, registry := registry })

/-! ## The requests of a sign-out -/

section Revoke

variable {env : SignOutEnv}

/-- The tokens there are to revoke. -/
def attempted (env : SignOutEnv) (session : Option AuthSession) : List Hint :=
  match session with
  | none => []
  | some session =>
      if env.canRevoke then
        (if given session.refreshToken then [.refreshToken] else []) ++
          if session.accessToken ≠ "" then [.accessToken] else []
      else []

/-- One revocation. -/
def revokeStep (env : SignOutEnv) (r : Revoked) : Hint → Except Raised Revoked
  | .refreshToken => do
      let (ok, error) ← revoke env .refreshToken
      return { r with refresh := ok, error := r.note ok error }
  | .accessToken => do
      let (ok, error) ← revoke env .accessToken
      return { r with access := ok, error := r.note ok error }

/-- The requests of a sign-out are one fold over the tokens there are to revoke. -/
theorem revokeTokens_eq (env : SignOutEnv) (session : Option AuthSession) :
    revokeTokens env session = (attempted env session).foldlM (revokeStep env) {} := by
  cases session with
  | none => rfl
  | some session =>
    rw [revokeTokens, attempted]
    by_cases hcan : env.canRevoke = true
    · rw [if_pos hcan, if_pos hcan, List.foldlM_append]
      have hrefresh : revokeRefresh env session {} =
          (if given session.refreshToken then [Hint.refreshToken] else []).foldlM
            (revokeStep env) {} := by
        rw [revokeRefresh]
        by_cases h : given session.refreshToken = true
        · rw [if_pos h, if_pos h, List.foldlM_cons]
          exact (bind_pure _).symm
        · rw [if_neg h, if_neg h]
          rfl
      rw [hrefresh]
      congr 1
      funext r
      rw [revokeAccess]
      by_cases h : session.accessToken ≠ ""
      · rw [if_pos h, if_pos h, List.foldlM_cons]
        exact (bind_pure _).symm
      · rw [if_neg h, if_neg h]
        rfl
    · rw [if_neg hcan, if_neg hcan]
      rfl

/-- `_revoke` catches what the request raises, if it raises anything. -/
def Caught : RevokeReply → Prop
  | .raises _ => False
  | _ => True

/-- The boundary revoked the token. -/
def Succeeded : RevokeReply → Prop
  | .answer statusCode => statusCode = 200 ∨ statusCode = 204
  | _ => False

theorem canRevoke_of_mem {session : Option AuthSession} {hint : Hint}
    (h : hint ∈ attempted env session) : env.canRevoke = true := by
  cases session with
  | none => exact nomatch h
  | some session =>
    rw [attempted] at h
    by_contra hcan
    rw [if_neg hcan] at h
    exact nomatch h

/-- A step that makes a request returns unless the request raises what is not caught. -/
theorem returns_revoke (hcan : env.canRevoke = true) (hint : Hint) :
    Returns (revoke env hint) ↔ Caught (env.reply hint) := by
  rw [revoke, hcan]
  show Returns (match env.reply hint with
    | .unreachable text => _
    | .raises e => _
    | .answer statusCode => _) ↔ _
  cases env.reply hint with
  | unreachable text => exact ⟨fun _ => trivial, fun _ => returns_ok _⟩
  | raises e => exact ⟨fun h => absurd h (not_returns_error e), fun h => h.elim⟩
  | answer statusCode =>
    refine ⟨fun _ => trivial, fun _ => ?_⟩
    by_cases h : statusCode = 200 ∨ statusCode = 204
    · simp only [if_pos h]
      exact returns_ok _
    · simp only [if_neg h]
      exact returns_ok _

theorem returns_revokeStep (hcan : env.canRevoke = true) (r : Revoked) (hint : Hint) :
    Returns (revokeStep env r hint) ↔ Caught (env.reply hint) := by
  cases hint with
  | refreshToken =>
    rw [revokeStep, returns_bind_of_forall fun _ => returns_pure _, returns_revoke hcan]
  | accessToken =>
    rw [revokeStep, returns_bind_of_forall fun _ => returns_pure _, returns_revoke hcan]

/-- The first step of a sign-out returns exactly when `_revoke` catches whatever its requests
    raise. -/
theorem returns_revokeTokens (env : SignOutEnv) (session : Option AuthSession) :
    Returns (revokeTokens env session) ↔
      ∀ hint ∈ attempted env session, Caught (env.reply hint) := by
  rw [revokeTokens_eq]
  by_cases hcan : env.canRevoke = true
  · exact returns_foldlM (returns_revokeStep hcan) _ _
  · have hnone : attempted env session = [] :=
      List.eq_nil_iff_forall_not_mem.mpr fun hint hmem => hcan (canRevoke_of_mem hmem)
    rw [hnone]
    exact ⟨nofun, fun _ => returns_pure _⟩

/-- A text that starts with one that is not empty is not empty. -/
theorem given_append {start text : String} (h : start ≠ "") : given (some (start ++ text)) = true :=
  decide_eq_true fun hempty => h (String.append_eq_empty_iff.mp hempty).1

/-- A revocation that reports no error succeeded. -/
theorem succeeded_of_revoke (hcan : env.canRevoke = true) {hint : Hint} {ok : Bool}
    {error : Option String} (h : revoke env hint = .ok (ok, error)) :
    Succeeded (env.reply hint) ∨ (ok = false ∧ given error = true) := by
  rw [revoke, hcan] at h
  have h : (match env.reply hint with
    | .unreachable text => _
    | .raises e => _
    | .answer statusCode => _) = Except.ok (ok, error) := h
  cases hreply : env.reply hint with
  | raises e =>
    rw [hreply] at h
    exact nomatch h
  | unreachable text =>
    rw [hreply] at h
    cases h
    exact .inr ⟨rfl, given_append (by decide)⟩
  | answer statusCode =>
    rw [hreply] at h
    by_cases hcode : statusCode = 200 ∨ statusCode = 204
    · exact .inl hcode
    · simp only [if_neg hcode] at h
      cases h
      exact .inr ⟨rfl, given_append (by decide)⟩

/-- No error after a request means that there was none before it, and that it succeeded. -/
theorem note_eq_none {r : Revoked} {ok : Bool} {error : Option String}
    (h : r.note ok error = none) : r.error = none ∧ ¬(ok = false ∧ given error = true) := by
  rw [Revoked.note] at h
  by_cases htaken : (!ok && given error && !given r.error) = true
  · rw [if_pos htaken] at h
    rw [h] at htaken
    simp [given] at htaken
  · rw [if_neg htaken] at h
    refine ⟨h, ?_⟩
    rintro ⟨rfl, hgiven⟩
    rw [h, hgiven] at htaken
    exact htaken rfl

theorem succeeded_of_step (hcan : env.canRevoke = true) {r r' : Revoked} {hint : Hint}
    (h : revokeStep env r hint = .ok r') (hnone : r'.error = none) :
    r.error = none ∧ Succeeded (env.reply hint) := by
  have hstep : ∃ ok error, revoke env hint = .ok (ok, error) ∧ r'.error = r.note ok error := by
    cases hint with
    | refreshToken =>
      obtain ⟨⟨ok, error⟩, hrevoke, hr⟩ := bind_ok.mp h
      cases hr
      exact ⟨ok, error, hrevoke, rfl⟩
    | accessToken =>
      obtain ⟨⟨ok, error⟩, hrevoke, hr⟩ := bind_ok.mp h
      cases hr
      exact ⟨ok, error, hrevoke, rfl⟩
  obtain ⟨ok, error, hrevoke, hr⟩ := hstep
  obtain ⟨hfirst, hnot⟩ := note_eq_none (hr.symm.trans hnone)
  rcases succeeded_of_revoke hcan hrevoke with hok | hfailed
  · exact ⟨hfirst, hok⟩
  · exact absurd hfailed hnot

/-- When no error is noted, every token there was to revoke is revoked. -/
theorem succeeded_of_revokeTokens {session : Option AuthSession} {r : Revoked}
    (h : revokeTokens env session = .ok r) (hnone : r.error = none) :
    ∀ hint ∈ attempted env session, Succeeded (env.reply hint) := by
  rw [revokeTokens_eq] at h
  intro hint hmem
  have hcan := canRevoke_of_mem hmem
  exact (foldlM_backward (fun _ _ _ hstep hgood => succeeded_of_step hcan hstep hgood) h
    hnone).2 hint hmem

end Revoke

/-! ## What a sign-out leaves behind -/

/-- The store refuses to delete the credentials. -/
def Refuses (env : SignOutEnv) (machine : Machine) : Prop :=
  ∃ text, (clear env.clearFault machine.store).1 = .error text

/-- The promise of a sign-out. -/
structure SignedOut (env : SignOutEnv) (machine : Machine) : Prop where
  returns : ∃ result machine', signOut env machine = (.ok result, machine') ∧
    (∀ a ∈ machine'.registry.attempts, ¬ a.Live) ∧
    (machine'.store.credentials = none ∨ Refuses env machine) ∧
    (Refuses env machine → result.clearedCredentialStore = false ∧ result.success = false) ∧
    (result.success = true →
      ∀ hint ∈ attempted env (storedSession env machine.store), Succeeded (env.reply hint))

/-- The file is gone, unless deleting it is refused. -/
theorem clear_cases (fault : Option ClearFault) (store : Store) :
    ((clear fault store).1 = .ok () ∧ (clear fault store).2.credentials = none) ∨
      ∃ text, (clear fault store).1 = .error text := by
  cases hstore : store.credentials with
  | none =>
    match fault with
    | some (.look text) => exact .inr ⟨_, rfl⟩
    | some (.unlink text) =>
      left
      simp [clear, hstore]
    | none =>
      left
      simp [clear, hstore]
  | some content =>
    match fault with
    | some (.look text) => exact .inr ⟨_, rfl⟩
    | some (.unlink text) =>
      right
      exact ⟨"Could not clear credentials: " ++ text, by simp [clear, hstore]⟩
    | none =>
      left
      simp [clear, hstore]

/-- A sign-out keeps its promise exactly when `_revoke` catches whatever its requests raise. -/
theorem signedOut_iff_caught (env : SignOutEnv) (machine : Machine) :
    SignedOut env machine ↔
      ∀ hint ∈ attempted env (storedSession env machine.store), Caught (env.reply hint) := by
  rw [← returns_revokeTokens]
  constructor
  · rintro ⟨result, machine', heq, -⟩
    cases hrevoked : revokeTokens env (storedSession env machine.store) with
    | ok revoked => exact returns_ok revoked
    | error e =>
        rw [signOut, hrevoked] at heq
        exact nomatch congrArg Prod.fst heq
  · rintro ⟨revoked, hrevoked⟩
    refine ⟨⟨_, _, by rw [signOut, hrevoked], ?_, ?_, ?_, ?_⟩⟩
    · intro a ha
      exact not_live_cancelAll (r := machine.registry) ha
    · rcases clear_cases env.clearFault machine.store with ⟨-, hgone⟩ | hrefused
      · exact .inl hgone
      · exact .inr hrefused
    · rintro ⟨text, hrefused⟩
      simp only [hrefused]
      exact ⟨rfl, rfl⟩
    · intro hsuccess
      refine succeeded_of_revokeTokens hrevoked ?_
      rcases clear_cases env.clearFault machine.store with ⟨hok, -⟩ | ⟨text, hrefused⟩
      · simp only [hok] at hsuccess
        exact Option.isNone_iff_eq_none.mp hsuccess
      · simp only [hrefused] at hsuccess
        exact nomatch hsuccess

/-! ## A boundary that redirects without end -/

/-- A machine with a stored session and a pending login. -/
def signedInMachine : Machine where
  store := {
    credentials := some (.doc (.obj [("access_token", .str "A"), ("refresh_token", .str "R"),
      ("flow_type", .str "device")]))
    tmp := none
    policy := none }
  registry := ({} : Registry).start "a" "device_authorization"

/-- The revocation requests end in `TooManyRedirects`. -/
def redirectingEnv : SignOutEnv where
  format := {
    readDatetime := fun _ => none
    writeDatetime := fun _ => ""
    defaultRealm := "realm"
    now := ⟨0, some 0⟩ }
  revocationEndpoint := some "https://auth.example.com/revoke"
  clientId := some "keyhole-cli"
  readFault := none
  reply := fun _ => .raises "TooManyRedirects"
  clearFault := none
  extraPaths := []
  correlationId := none
  uuid := "cid"

/-- The sign-out raises, and leaves the credentials and the pending login where they are. -/
theorem redirect_keeps_signed_in :
    signOut redirectingEnv signedInMachine = (.error "TooManyRedirects", signedInMachine) ∧
      ¬ SignedOut redirectingEnv signedInMachine := by
  have hraises : signOut redirectingEnv signedInMachine
      = (.error "TooManyRedirects", signedInMachine) := rfl
  refine ⟨hraises, ?_⟩
  rintro ⟨result, machine', heq, -⟩
  rw [hraises] at heq
  exact nomatch congrArg Prod.fst heq

end KeyholeSignOut
