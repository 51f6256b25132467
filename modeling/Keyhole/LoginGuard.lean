import Keyhole.LoginIdentity

/-!
# `keyhole login` and the host-coherence guard

`run_login` chooses the flow, runs `AuthBootstrapClient.login` and then asks the guard
whether the identity may be bound on this machine.  By then the login has already replaced
the stored credentials.

* `checkHostCoherence`, `runLogin`: the command;
* `BindRefused`: the guard refuses the identity the inputs lead to;
* `keepsCredentials_iff`: when a login that reports failure has left the stored
  credentials as they were. -/

namespace KeyholeLogin

open KeyholeJson KeyholeIdentity KeyholeCoherence EffectProgram

/-! ## The command's environment -/

/-- Everything `run_login` reads from outside. -/
structure RunEnv where
  login : LoginEnv
  /-- the command's own correlation id -/
  correlationId : String
  /-- the reads of `_auto_detect_flow` and of the notice before the login -/
  detectReadFault : Option String
  noticeReadFault : Option String
  /-- the outcome of `_recover_email_from_state` -/
  recoveredEmail : Option String
  /-- the outcome of `load_attestations` -/
  attestations : Except String (List HostIdentityAttestation)
  policyReadFault : Option String
  lib : Library
  /-- the instant the guard's time checks read -/
  now : Timestamp
  /-- `datetime.now(timezone.utc).isoformat()` for a new override -/
  policyCreatedAt : String
  policySaveFault : Option String

/-- The arguments of `run_login`. -/
structure RunArgs where
  flow : String := "device"
  force : Bool := false
  username : Option String := none
  password : Option String := none
  email : Option String := none
  allowSplitIdentity : Bool := false
  flowExplicit : Bool := false

/-- `CommandResult`. -/
structure CommandResult where
  command : String
  success : Bool
  exitCode : Nat
  data : Dict
  warnings : List String := []
  nextSteps : List String := []
  summary : String

/-! ## The flow -/

/-- `_auto_detect_flow`. -/
def autoDetectFlow (env : RunEnv) (store : Store) (flow : AuthFlowType) (email : Option String) :
    AuthFlowType × Option String :=
  match loadSession env.login.format env.detectReadFault store with
  | .error _ => (flow, email)
  | .ok none => (flow, email)
  | .ok (some session) =>
      if session.flowType = .passwordless then
        let recovered := if given email then email else env.recoveredEmail
        if given recovered then (.passwordless, recovered) else (flow, email)
      else (flow, email)

/-- The arguments `login` is called with; `none` is an unknown flow type. -/
def prepareLogin (env : RunEnv) (args : RunArgs) (store : Store) :
    Except Fault (Option LoginArgs) :=
  match AuthFlowType.ofText (lower args.flow) with
  | none => .ok none
  | some flowType => do
      let (flowType, email) := if !args.flowExplicit && flowType == .device
        then autoDetectFlow env store flowType args.email else (flowType, args.email)
      if !args.flowExplicit then
        let _ ← loadSession env.login.format env.noticeReadFault store
      .ok (some {
        flowType := flowType
        force := args.force
        correlationId := some env.correlationId
        username := args.username
        password := args.password
        email := email })

/-! ## The guard -/

/-- `whoami.display_name or whoami.email or whoami.user_id or ""`. -/
def cliPrincipal (who : WhoamiResponse) : String :=
  if given who.displayName then who.displayName.getD ""
  else if given who.email then who.email.getD ""
  else who.userId.getD ""

/-- The override that `--allow-split-identity` records. -/
def recordedOverride (env : RunEnv) (principal : String) (coherence : CoherenceResult) :
    IdentityPolicyOverride where
  createdAt := env.policyCreatedAt
  targetPrincipal := principal
  conflictingHostPrincipal := match coherence.conflictingAttestations with
    | att :: _ => att.effectivePrincipal
    | [] => ""
  hostKind := match coherence.conflictingAttestations with
    | att :: _ => att.hostKind
    | [] => "unknown"
  reason := "User explicitly allowed split identity via --allow-split-identity"

/-- The value of the verdict that blocks a login. -/
def rejectText : String := "REJECT_HOST_CONFLICT"

/-- The result that blocks a login. -/
def blockedResult (principal : String) (coherence : CoherenceResult) : CommandResult where
  command := "login"
  success := false
  exitCode := 1
  data := [("error_class", .str "host_identity_conflict"),
    ("verdict", .str rejectText),
    ("cli_principal", .str principal),
    ("conflicting_hosts", .arr (coherence.conflictingAttestations.map fun att =>
      .obj [("host_kind", .str att.hostKind),
        ("effective_principal", .str att.effectivePrincipal)]))]
  summary := coherence.description
  nextSteps := coherence.fixSteps

/-- `load_identity_policy`. -/
def loadIdentityPolicy (env : RunEnv) (store : Store) :
    Except String (Option IdentityPolicyOverride) :=
  match env.policyReadFault with
  | some text => .error text
  | none => .ok store.policy

/-- `_check_host_coherence`: a result that blocks the login, or `none`. -/
def checkHostCoherence (env : RunEnv) (allowSplitIdentity : Bool) (result : LoginResult) :
    Prog Fault Store (Option CommandResult) := do
  match result.whoami with
  | none => pure none
  | some who =>
      let principal := cliPrincipal who
      if principal = "" then pure none
      else
        let store ← get
        match env.attestations, loadIdentityPolicy env store with
        | .ok attestations, .ok override =>
            if attestations.isEmpty then pure none
            else
              let coherence := classifyCoherence env.lib principal attestations override env.now
              if coherence.verdict = .rejectHostConflict then
                if allowSplitIdentity then do
                  if env.policySaveFault.isNone then
                    modify fun store =>
                      { store with policy := some (recordedOverride env principal coherence) }
                  pure none
                else pure (some (blockedResult principal coherence))
              else pure none
        | _, _ => pure none

/-! ## The results -/

/-- An optional text of a result. -/
def optText : Option String → Json
  | some s => .str s
  | none => .null

/-- `_success_result`. -/
def successResult (result : LoginResult) (correlationId authPath : String) : CommandResult where
  command := "login"
  success := true
  exitCode := 0
  data :=
    [("correlation_id", .str correlationId),
      ("flow_type", optText (result.flowType.map AuthFlowType.text)),
      ("mode", optText (result.mode.map AuthMode.text)),
      ("auth_path", .str authPath),
      ("credential_persisted", .bool result.credentialPersisted),
      ("verification_passed", .bool result.verificationPassed)]
      ++ (match result.whoami with
        | none => []
        | some who =>
            [("user_id", optText who.userId), ("tenant_id", optText who.tenantId),
              ("org_id", optText who.orgId), ("display_name", optText who.displayName),
              ("actor_envelope_present", .bool who.actorEnvelope.isSome)])
  warnings := match result.whoami with
    | some who => if who.actorEnvelope.isNone then
        ["actor_envelope_missing: server did not include actor_envelope in /whoami "
          ++ "(SDK-SERVER-29 not yet active?)."] else []
    | none => []
  summary := "Logged in successfully (mode: "
    ++ (result.mode.map AuthMode.text).getD "unknown" ++ ")"
  nextSteps := [
    "Run 'keyhole whoami' to inspect your identity.",
    "Run 'keyhole init vertical' to scaffold a governed repository.",
    "Run 'keyhole ingest .' to analyze an existing repository."]

/-- The error classes that may mean there is no account. -/
def accountErrorClasses : List String :=
  ["login_denied", "invalid_token", "expired_challenge", "whoami_verification_error",
    "incomplete_identity"]

/-- The hint on registering. -/
def registerHint : String :=
  "No account yet? Register first: keyhole register --email you@example.com "
    ++ "--username yourname --display-name 'Your Name'"

/-- `_failure_result`. -/
def failureResult (result : LoginResult) (correlationId : String) : CommandResult where
  command := "login"
  success := false
  exitCode := 1
  data := [("correlation_id", .str correlationId),
    ("error_class", optText result.errorClass),
    ("credential_persisted", .bool result.credentialPersisted),
    ("verification_passed", .bool result.verificationPassed)]
  nextSteps :=
    let steps := if result.repairSuggestions.isEmpty then ["Retry: keyhole login"]
      else result.repairSuggestions
    if accountErrorClasses.contains (result.errorClass.getD "") && !steps.contains registerHint
    then steps ++ [registerHint] else steps
  summary := if given result.errorMessage then result.errorMessage.getD "" else "Login failed"

/-- The result for a flow type that does not exist. -/
def unknownFlow (flow : String) : CommandResult where
  command := "login"
  success := false
  exitCode := 1
  data := [("error_class", .str "invalid_flow_type"), ("flow", .str flow)]
  summary := "Unknown flow type: " ++ flow
    ++ ". Use 'pkce', 'device', 'password', or 'passwordless'."
  nextSteps := [
    "Use: keyhole login --flow device",
    "Or: keyhole login --flow passwordless --email you@example.com"]

/-- What follows the login. -/
def concludeLogin (env : RunEnv) (args : RunArgs) (result : LoginResult) :
    Prog Fault Store CommandResult :=
  if result.success then do
    match ← checkHostCoherence env args.allowSplitIdentity result with
    | some blocked => pure blocked
    | none =>
        let authPath := if !args.force && result.credentialPersisted then "session_reuse"
          else "device_flow"
        pure (successResult result env.correlationId authPath)
  else pure (failureResult result env.correlationId)

/-- `run_login`. -/
def runLogin (env : RunEnv) (args : RunArgs) : Prog Fault Store CommandResult := do
  let store ← get
  match prepareLogin env args store with
  | .error e => throw e
  | .ok none => pure (unknownFlow args.flow)
  | .ok (some loginArgs) =>
      let result ← login env.login loginArgs
      concludeLogin env args result

/-! ## When a refused login has left the credentials alone -/

/-- The guard refuses the identity: a fresh confirmed attestation names another principal,
    no override stands, and the split was not allowed on the command line. -/
def BindRefused (env : RunEnv) (args : RunArgs) (store : Store) (who : WhoamiResponse) : Prop :=
  args.allowSplitIdentity = false
    ∧ ∃ attestations override, env.attestations = .ok attestations
        ∧ loadIdentityPolicy env store = .ok override
        ∧ (∃ att ∈ attestations, Conflicts env.lib (cliPrincipal who) env.now att)
        ∧ ¬ ∃ record, override = some record ∧ record.isExpired env.lib env.now = false

/-- Whenever `run_login` reports a failure, the credentials file is what it was. -/
def KeepsCredentials (env : RunEnv) (args : RunArgs) (store : Store) : Prop :=
  ∀ result store', exec (runLogin env args) store = (.ok result, store') →
    result.success = false → store'.credentials = store.credentials

/-- The guard does not refuse an identity that the login goes on to bind — or the file
    already holds the very session the login stores, its times included. -/
def BindAllowed (env : RunEnv) (args : RunArgs) (store : Store) : Prop :=
  ∀ loginArgs, prepareLogin env args store = .ok (some loginArgs) →
    ∀ who saved, boundSession env.login loginArgs store = some (who, saved) →
      BindRefused env args store who →
      store.credentials = some (.doc (.obj (saved.dump env.login.format)))

/-- The guard rejects exactly when something conflicts and no override stands. -/
theorem verdict_reject_iff {lib : Library} {principal : String}
    {attestations : List HostIdentityAttestation} {override : Option IdentityPolicyOverride}
    {now : Timestamp} :
    (classifyCoherence lib principal attestations override now).verdict = .rejectHostConflict
      ↔ (∃ att ∈ attestations, Conflicts lib principal now att)
        ∧ ¬ ∃ record, override = some record ∧ record.isExpired lib now = false := by
  by_cases hconflict : ∃ att ∈ attestations, Conflicts lib principal now att
  · rw [classifyCoherence_of_conflict override hconflict]
    by_cases hstanding : ∃ record, override = some record ∧ record.isExpired lib now = false
    · rw [if_pos hstanding]
      exact ⟨nofun, fun h => absurd hstanding h.2⟩
    · rw [if_neg hstanding]
      exact ⟨fun _ => ⟨hconflict, hstanding⟩, fun _ => rfl⟩
  · obtain ⟨hreject, -⟩ := classifyCoherence_of_no_conflict override hconflict
    exact ⟨fun e => absurd e hreject, fun h => absurd h.1 hconflict⟩

section Guard

variable {env : RunEnv} {args : RunArgs} {store : Store} {who : WhoamiResponse}
  {result : LoginResult}

/-- An identity that the guard refuses is blocked, with nothing written. -/
theorem checkHostCoherence_refused (hwho : result.whoami = some who)
    (h : BindRefused env args store who) :
    ∃ blocked, exec (checkHostCoherence env args.allowSplitIdentity result) store
        = (.ok (some blocked), store) ∧ blocked.success = false := by
  obtain ⟨hallow, attestations, override, hattestations, hoverride, hconflict, hstanding⟩ := h
  have hprincipal : cliPrincipal who ≠ "" := by
    obtain ⟨att, -, hne, -⟩ := hconflict
    exact hne
  have hempty : attestations.isEmpty ≠ true := by
    intro he
    obtain ⟨att, hmem, -⟩ := hconflict
    rw [List.isEmpty_iff.mp he] at hmem
    exact nomatch hmem
  have hverdict := verdict_reject_iff.mpr ⟨hconflict, hstanding⟩
  refine ⟨blockedResult (cliPrincipal who) (classifyCoherence env.lib (cliPrincipal who)
    attestations override env.now), ?_, rfl⟩
  unfold checkHostCoherence
  simp only [hwho, if_neg hprincipal]
  rw [exec_bind_ok (exec_get store)]
  simp only [hattestations, hoverride, if_neg hempty, if_pos hverdict, hallow, Bool.false_eq_true,
    if_false]
  rfl

/-- An identity that the guard does not refuse passes, and the credentials stay. -/
theorem checkHostCoherence_allowed (hwho : result.whoami = some who)
    (h : ¬ BindRefused env args store who) :
    ∃ store', exec (checkHostCoherence env args.allowSplitIdentity result) store
        = (.ok none, store') ∧ store'.credentials = store.credentials := by
  unfold checkHostCoherence
  simp only [hwho]
  by_cases hprincipal : cliPrincipal who = ""
  · rw [if_pos hprincipal]
    exact ⟨store, rfl, rfl⟩
  · rw [if_neg hprincipal, exec_bind_ok (exec_get store)]
    cases hattestations : env.attestations with
    | error text => exact ⟨store, rfl, rfl⟩
    | ok attestations =>
      cases hoverride : loadIdentityPolicy env store with
      | error text => exact ⟨store, rfl, rfl⟩
      | ok override =>
        by_cases hempty : attestations.isEmpty = true
        · simp only [if_pos hempty]
          exact ⟨store, rfl, rfl⟩
        · simp only [if_neg hempty]
          by_cases hverdict : (classifyCoherence env.lib (cliPrincipal who) attestations
              override env.now).verdict = .rejectHostConflict
          · rw [if_pos hverdict]
            cases hallow : args.allowSplitIdentity with
            | true =>
              cases hfault : env.policySaveFault with
              | none => exact ⟨_, rfl, rfl⟩
              | some text => exact ⟨store, rfl, rfl⟩
            | false =>
              obtain ⟨hconflict, hstanding⟩ := verdict_reject_iff.mp hverdict
              exact absurd ⟨hallow, attestations, override, hattestations, hoverride,
                hconflict, hstanding⟩ h
          · rw [if_neg hverdict]
            exact ⟨store, rfl, rfl⟩

end Guard

/-- The guard reads the policy, not the credentials. -/
theorem bindRefused_stored (env : RunEnv) (args : RunArgs) (store : Store) (who : WhoamiResponse)
    (format : SessionFormat) (session : AuthSession) :
    BindRefused env args (store.stored format session) who ↔ BindRefused env args store who :=
  Iff.rfl

variable {env : RunEnv} {args : RunArgs} {store : Store} {loginArgs : LoginArgs}

/-- A command whose login binds an identity that the guard refuses fails after the session
    was stored. -/
theorem exec_runLogin_refused (hprepared : prepareLogin env args store = .ok (some loginArgs))
    {who : WhoamiResponse} {saved : AuthSession}
    (hbound : boundSession env.login loginArgs store = some (who, saved))
    (hrefused : BindRefused env args store who) :
    ∃ result, exec (runLogin env args) store
        = (.ok result, store.stored env.login.format saved) ∧ result.success = false := by
  obtain ⟨flowType, hlogin⟩ := login_of_bound env.login loginArgs hbound
  have hwho : (succeeded flowType who (loginArgs.cid env.login)).whoami = some who := rfl
  obtain ⟨blocked, hguard, hfailed⟩ := checkHostCoherence_refused hwho
    ((bindRefused_stored env args store who env.login.format saved).mpr hrefused)
  refine ⟨blocked, ?_, hfailed⟩
  unfold runLogin
  rw [exec_bind_ok (exec_get store), hprepared]
  refine (exec_bind_ok hlogin).trans ?_
  exact exec_bind_ok hguard

/-- A command whose login binds an identity that the guard lets pass succeeds. -/
theorem exec_runLogin_allowed (hprepared : prepareLogin env args store = .ok (some loginArgs))
    {who : WhoamiResponse} {saved : AuthSession}
    (hbound : boundSession env.login loginArgs store = some (who, saved))
    (hallowed : ¬ BindRefused env args store who) :
    ∃ result store', exec (runLogin env args) store = (.ok result, store')
      ∧ result.success = true := by
  obtain ⟨flowType, hlogin⟩ := login_of_bound env.login loginArgs hbound
  have hwho : (succeeded flowType who (loginArgs.cid env.login)).whoami = some who := rfl
  obtain ⟨store', hguard, -⟩ := checkHostCoherence_allowed hwho
    (mt (bindRefused_stored env args store who env.login.format saved).mp hallowed)
  refine ⟨successResult (succeeded flowType who (loginArgs.cid env.login)) env.correlationId
    (if !args.force && true then "session_reuse" else "device_flow"), store', ?_, rfl⟩
  unfold runLogin
  rw [exec_bind_ok (exec_get store), hprepared]
  refine (exec_bind_ok hlogin).trans ?_
  exact exec_bind_ok hguard

/-- A command whose login binds nothing leaves the credentials alone. -/
theorem exec_runLogin_unbound (hprepared : prepareLogin env args store = .ok (some loginArgs))
    (hbound : boundSession env.login loginArgs store = none) :
    (exec (runLogin env args) store).2.credentials = store.credentials := by
  obtain ⟨outcome, store', hlogin, hsame, hfailed⟩ := login_of_unbound env.login loginArgs hbound
  unfold runLogin
  rw [exec_bind_ok (exec_get store), hprepared]
  cases outcome with
  | error e =>
    show (exec (login env.login loginArgs >>= concludeLogin env args) store).2.credentials = _
    rw [exec_bind_error hlogin]
    exact hsame.1
  | ok result =>
    show (exec (login env.login loginArgs >>= concludeLogin env args) store).2.credentials = _
    rw [exec_bind_ok hlogin, concludeLogin, hfailed result rfl]
    exact hsame.1

/-- A login that reports failure has left the stored credentials as they were exactly when
    the guard refuses no identity the login binds. -/
theorem keepsCredentials_iff (env : RunEnv) (args : RunArgs) (store : Store) :
    KeepsCredentials env args store ↔ BindAllowed env args store := by
  constructor
  · intro hkeeps loginArgs hprepared who saved hbound hrefused
    obtain ⟨result, hexec, hfailed⟩ := exec_runLogin_refused hprepared hbound hrefused
    exact (hkeeps result _ hexec hfailed).symm
  · intro hallowed result store' hexec hfailed
    cases hprepared : prepareLogin env args store with
    | error e =>
      have hrun : exec (runLogin env args) store = (.error e, store) := by
        unfold runLogin
        rw [exec_bind_ok (exec_get store), hprepared]
        rfl
      rw [hrun] at hexec
      exact nomatch congrArg Prod.fst hexec
    | ok prepared =>
      cases prepared with
      | none =>
        have hrun : exec (runLogin env args) store
            = (.ok (unknownFlow args.flow), store) := by
          unfold runLogin
          rw [exec_bind_ok (exec_get store), hprepared]
          rfl
        rw [hrun] at hexec
        rw [← show store = store' from congrArg Prod.snd hexec]
      | some loginArgs =>
        cases hbound : boundSession env.login loginArgs store with
        | none =>
          have hkept := exec_runLogin_unbound hprepared hbound
          rw [hexec] at hkept
          exact hkept
        | some bound =>
          obtain ⟨who, saved⟩ := bound
          by_cases hrefused : BindRefused env args store who
          · obtain ⟨blocked, hrun, -⟩ := exec_runLogin_refused hprepared hbound hrefused
            have hstored := hallowed loginArgs hprepared who saved hbound hrefused
            rw [hexec] at hrun
            rw [show store' = _ from congrArg Prod.snd hrun, hstored]
            rfl
          · obtain ⟨passed, store'', hrun, hpassed⟩ :=
              exec_runLogin_allowed hprepared hbound hrefused
            rw [hexec] at hrun
            rw [Except.ok.inj (congrArg Prod.fst hrun), hpassed] at hfailed
            exact nomatch hfailed

/-- A first login of `alice`, on a machine where a host attests `mallory`. -/
def aliceBesideMallory : RunEnv where
  login := plainLogin (.obj [("user_id", .str "alice@example.com"), ("mode", .str "real")])
  correlationId := "cid-1"
  detectReadFault := none
  noticeReadFault := none
  recoveredEmail := none
  attestations := .ok [malloryHost]
  policyReadFault := none
  lib := twoDates
  now := ⟨1777593600000000, some 0⟩
  policyCreatedAt := ""
  policySaveFault := none

/-- The blocked login of `alice` leaves her new credentials in the store. -/
theorem blocked_login_stored : ¬ KeepsCredentials aliceBesideMallory {} emptyStore := by
  intro hkeeps
  have hrefused : ∀ who, cliPrincipal who = "alice@example.com" →
      BindRefused aliceBesideMallory {} emptyStore who := by
    intro who hwho
    refine ⟨rfl, [malloryHost], none, rfl, rfl, ⟨malloryHost, List.mem_cons_self, ?_⟩, ?_⟩
    · rw [hwho]
      exact ⟨by decide, by decide, rfl, by decide⟩
    · rintro ⟨record, hrecord, -⟩
      exact nomatch hrecord
  obtain ⟨result, hexec, hfailed⟩ :=
    @exec_runLogin_refused aliceBesideMallory {} emptyStore _ rfl _ _ rfl (hrefused _ rfl)
  exact nomatch hkeeps result _ hexec hfailed

end KeyholeLogin
