import Keyhole.RunDispatch
import Keyhole.ExceptLoops

/-!
# The governance proof runner

`GovernanceProofRunner.run` goes through seven phases.  A phase has two flags, `success` and
`scaffolded`, and the verdict asks for the success of the phases that are not scaffolded.  A
phase whose adapter reports a failure is marked as scaffolded, and a collector that returns
something other than a `VerificationOutput` leaves no trace in the bundle.

* `run`: the seven phases;
* `Sound`: what the printed verdict and the evidence bundle promise;
* `hidesNothing_iff`: they keep the promise exactly where nothing is concealed. -/

namespace KeyholeGovernance

open KeyholeJson KeyholeDispatch ExceptLoops

/-! ## Data -/

/-- `GovernancePhase`. -/
inductive Phase where
  | registration
  | context
  | implementation
  | verification
  | submission
  | evaluation
  | promotion
  deriving DecidableEq

/-- The value of a phase. -/
def Phase.value : Phase → String
  | .registration => "registration"
  | .context => "context"
  | .implementation => "implementation"
  | .verification => "verification"
  | .submission => "submission"
  | .evaluation => "evaluation"
  | .promotion => "promotion"

/-- `EXPECTED_EVENTS.get(phase, f"{phase.value}.completed")`. -/
def Phase.eventType : Phase → String
  | .registration => "participant.contract.registered"
  | .context => "context.compile.resolved"
  | .implementation => "implementation.commit.captured"
  | .submission => "proof.bundle.submitted"
  | .evaluation => "governance.verdict"
  | .promotion => "promotion.executed"
  | .verification => "verification.completed"

/-- `_SCAFFOLDED_PHASES`. -/
def scaffoldedPhases : List Phase := [.registration, .submission, .evaluation, .promotion]

/-- `VerificationOutput`, the fields the runner reads or writes. -/
structure VerificationOutput where
  verificationClass : String := ""
  passed : Bool := false
  errorSummary : String := ""

/-- What a call of a collector comes to. -/
inductive CollectorRun where
  | output (o : VerificationOutput)
  /-- any other return value -/
  | other
  | raised (text : String)
  /-- an exception `except Exception` does not catch -/
  | aborted (errorClass : Raised)

/-- `AdapterResult`. -/
structure AdapterResult where
  supported : Bool := false
  success : Bool := false
  reason : String := ""
  data : Dict := []

/-- What `capture_source_info` returns. -/
structure SourceInfo where
  commit : String
  ref : String

/-- `ProofBundlePlaceholder`. -/
structure ProofBundle where
  sourceCommit : String
  sourceRef : String
  outputs : List VerificationOutput

/-- `GovernanceEvent`. -/
structure GovernanceEvent where
  eventType : String
  phase : Phase
  correlationId : String
  eventDigest : String
  data : Dict
  scaffolded : Bool

/-- `GovernancePhaseResult`. -/
structure PhaseResult where
  phase : Phase
  success : Bool := false
  scaffolded : Bool := false
  event : Option GovernanceEvent := none
  data : Dict := []
  error : String := ""
  suggestion : String := ""

/-- `GovernanceProofResult`. -/
structure ProofResult where
  phases : List PhaseResult
  proofBundle : Option ProofBundle
  correlationId : String

/-- The context snapshot of a compile. -/
structure Snapshot where
  digest : String
  contract : String
  correlationId : String

/-- What a run meets: the behaviour of everything it calls. -/
structure RunnerEnv where
  baseUrl : String
  correlationId : String
  sha256 : String → String
  /-- the compile of the context, or the text of its exception -/
  compile : Except String Snapshot
  /-- `capture_source_info` of the implementation phase -/
  source : Except Raised SourceInfo
  /-- `capture_source_info` of the verification, or the text of its exception -/
  sourceAgain : Except String SourceInfo
  registration : Except Raised AdapterResult
  submission : Except Raised AdapterResult
  verdict : Except Raised AdapterResult

/-- The runner: its collectors, each with what calling it comes to, and the bundle an
    earlier run left. -/
structure Runner where
  collectors : List (String × CollectorRun) := []
  proofBundle : Option ProofBundle := none

/-- `self._collectors[verification_class] = collector`. -/
def setCollector (verificationClass : String) (collector : CollectorRun) :
    List (String × CollectorRun) → List (String × CollectorRun)
  | [] => [(verificationClass, collector)]
  | (k, c) :: rest =>
      if k = verificationClass then (k, collector) :: rest
      else (k, c) :: setCollector verificationClass collector rest

/-- `register_collector`. -/
def Runner.registerCollector (runner : Runner) (verificationClass : String)
    (collector : CollectorRun) : Runner :=
  { runner with collectors := setCollector verificationClass collector runner.collectors }

/-! ## The bundle -/

/-- `all_passed` of a bundle. -/
def ProofBundle.allPassed (bundle : ProofBundle) : Bool :=
  decide (0 < bundle.outputs.length) && bundle.outputs.all (·.passed)

/-- `verification_summary`. -/
def ProofBundle.summary (bundle : ProofBundle) : Dict :=
  let passed := (bundle.outputs.filter (·.passed)).length
  [("total_verifications", .int bundle.outputs.length), ("passed", .int passed),
    ("failed", .int (bundle.outputs.length - passed)), ("all_passed", .bool bundle.allPassed)]

/-- The collector loop of `VerificationRunner.run`. -/
def collect : List (String × CollectorRun) → Except Raised (List VerificationOutput)
  | [] => .ok []
  | (verificationClass, collector) :: rest =>
      match collector with
      | .aborted errorClass => .error errorClass
      | .other => collect rest
      | .output o => do
          let outputs ← collect rest
          return (if o.verificationClass = "" then
            { o with verificationClass := verificationClass } else o) :: outputs
      | .raised text => do
          let outputs ← collect rest
          return ⟨verificationClass, false, "Collector raised: " ++ text⟩ :: outputs

/-! ## The phases -/

/-- `_make_event`. -/
def makeEvent (env : RunnerEnv) (phase : Phase) (data : Dict) : GovernanceEvent where
  eventType := phase.eventType
  phase := phase
  correlationId := env.correlationId
  eventDigest := takeChars 16
    (env.sha256 (phase.eventType ++ ":" ++ env.correlationId ++ ":" ++ phase.value))
  data := data
  scaffolded := decide (phase ∈ scaffoldedPhases)

/-- A phase that rests on an adapter: what is not a supported success counts as
    scaffolded. -/
def adapterPhase (env : RunnerEnv) (phase : Phase) (eventData : Dict) (suggestion : String)
    (result : AdapterResult) : PhaseResult :=
  if result.supported && result.success then
    { phase := phase
      success := true
      event := some (makeEvent env phase eventData)
      data := result.data }
  else
    { phase := phase
      scaffolded := true
      error := result.reason
      suggestion := suggestion
      data := [("adapter_supported", .bool result.supported)] }

/-- `_phase_registration`. -/
def phaseRegistration (env : RunnerEnv) : Except Raised PhaseResult := do
  let result ← env.registration
  return adapterPhase env .registration
    [("contract_digest", result.data.getOr "contract_digest" (.str "")),
      ("source_repo", .str "keyhole-developer-kit")]
    ("Contract registration requires platform-side DEV-UX-03 "
      ++ "stabilization. This phase is scaffolded.") result

/-- `_phase_context`. -/
def phaseContext (env : RunnerEnv) : PhaseResult :=
  if env.baseUrl = "" then
    let data := [("mode", .str "local-only"), ("run_type", .str "context.compile")]
    { phase := .context, success := true, data := data, event := some (makeEvent env .context data) }
  else
    match env.compile with
    | .ok snapshot =>
        { phase := .context
          success := true
          event := some (makeEvent env .context [("context_digest", .str snapshot.digest),
            ("surface_version", .str snapshot.contract), ("run_type", .str "context.compile")])
          data := [("context_digest", .str snapshot.digest),
            ("correlation_id", .str snapshot.correlationId)] }
    | .error text =>
        { phase := .context
          error := text
          suggestion := "Verify MCP boundary is reachable and token is valid." }

/-- `_phase_implementation`. -/
def phaseImplementation (env : RunnerEnv) : Except Raised PhaseResult := do
  let source ← env.source
  let data := [("commit_digest", .str source.commit), ("source_ref", .str source.ref)]
  return {
    phase := .implementation
    success := true
    event := some (makeEvent env .implementation
      (data ++ [("source_repo", .str "keyhole-developer-kit")]))
    data := data }

/-- The result of a verification that assembled a bundle. -/
def verifiedPhase (env : RunnerEnv) (bundle : ProofBundle) : PhaseResult where
  phase := .verification
  -- no output at all is vacuously passing
  success := bundle.allPassed || bundle.outputs.length == 0
  event := some (makeEvent env .verification
    [("all_passed", .bool bundle.allPassed), ("summary", .obj bundle.summary)])
  data := [("all_passed", .bool bundle.allPassed), ("summary", .obj bundle.summary),
    ("commit_digest", .str bundle.sourceCommit)]

/-- `_phase_verification`, with `VerificationRunner.run`: the source is captured before the
    collectors are called. -/
def phaseVerification (env : RunnerEnv) (runner : Runner) :
    Except Raised (PhaseResult × Runner) :=
  match env.sourceAgain with
  | .error text => .ok ({
      phase := .verification
      error := text
      suggestion := "Check verification collectors are correctly registered." }, runner)
  | .ok source => do
      let outputs ← collect runner.collectors
      let bundle : ProofBundle := ⟨source.commit, source.ref, outputs⟩
      return (verifiedPhase env bundle, { runner with proofBundle := some bundle })

/-- `_phase_submission`. -/
def phaseSubmission (env : RunnerEnv) (runner : Runner) : Except Raised PhaseResult :=
  match runner.proofBundle with
  | none => .ok {
      phase := .submission
      scaffolded := true
      error := "No proof bundle available (Phase 4 did not produce one)." }
  | some bundle => do
      let result ← env.submission
      return adapterPhase env .submission
        [("proof_digest", result.data.getOr "proof_digest" (.str "")),
          ("source_commit", .str bundle.sourceCommit)]
        ("Proof submission requires platform-side DEV-UX-04 "
          ++ "stabilization. This phase is scaffolded.") result

/-- `_phase_evaluation`. -/
def phaseEvaluation (env : RunnerEnv) : Except Raised PhaseResult := do
  let result ← env.verdict
  return adapterPhase env .evaluation
    [("verdict", result.data.getOr "verdict" (.str "")),
      ("reason", result.data.getOr "reason" (.str ""))]
    ("Verdict retrieval requires platform-side DEV-UX-06 "
      ++ "stabilization. This phase is scaffolded.") result

/-- `_phase_promotion`. -/
def phasePromotion : PhaseResult where
  phase := .promotion
  scaffolded := true
  error := "Promotion requires governance verdict (Phase 6) and "
    ++ "platform-side promotion pipeline. This phase is scaffolded."
  suggestion := "Promotion will execute automatically when verdict "
    ++ "and promotion pipeline are stable."
  data := [("promotion_model", .str "one-mint")]

/-- `GovernanceProofRunner.run`. -/
def run (env : RunnerEnv) (runner : Runner) : Except Raised (ProofResult × Runner) := do
  let registration ← phaseRegistration env
  let implementation ← phaseImplementation env
  let (verification, runner) ← phaseVerification env runner
  let submission ← phaseSubmission env runner
  let evaluation ← phaseEvaluation env
  return (⟨[registration, phaseContext env, implementation, verification, submission, evaluation,
    phasePromotion], runner.proofBundle, env.correlationId⟩, runner)

/-! ## What is reported -/

/-- `all_supported_passed`. -/
def ProofResult.allSupportedPassed (result : ProofResult) : Bool :=
  (result.phases.filter (fun p => !p.scaffolded)).all (·.success)

/-- `phase_summary`, as numbers: supported and passed, supported, scaffolded. -/
def ProofResult.counts (result : ProofResult) : Nat × Nat × Nat :=
  let scaffolded := (result.phases.filter (·.scaffolded)).length
  ((result.phases.filter (fun p => p.success && !p.scaffolded)).length,
    result.phases.length - scaffolded, scaffolded)

/-- The `result` of `to_evidence_bundle`. -/
def ProofResult.evidence (result : ProofResult) : String :=
  if !result.phases.any (·.success) then "FAILURE"
  else if result.phases.any (·.scaffolded) then "PARTIAL"
  else if result.allSupportedPassed then "SUCCESS"
  else "PARTIAL"

/-- `f"{text:<16s}"`. -/
def padded (text : String) : String :=
  text ++ String.ofList (List.replicate (16 - text.length) ' ')

/-- The lines of one phase in `summary`. -/
def PhaseResult.lines (p : PhaseResult) : List String :=
  let status := if p.success then "PASS" else if p.scaffolded then "SKIP" else "FAIL"
  ("  Phase " ++ padded p.phase.value ++ " " ++ status
    ++ (if p.scaffolded then " [scaffolded]" else ""))
  :: (if p.error = "" then [] else ["    error: " ++ p.error])

/-- The verdict `summary` prints last. -/
def ProofResult.verdict (result : ProofResult) : String :=
  if result.allSupportedPassed then "LAUNCH-READY" else "NOT READY"

/-- The lines of `summary`. -/
def ProofResult.summary (result : ProofResult) : List String :=
  let (passed, supported, scaffolded) := result.counts
  ["=== Recursive Governance Proof — RG-01 ===", "Participant: keyhole-developer-kit",
    "Correlation: " ++ (if result.correlationId = "" then "(local)" else result.correlationId), ""]
  ++ result.phases.flatMap PhaseResult.lines
  ++ ["", "Supported: " ++ toString passed ++ "/" ++ toString supported ++ " passed",
    "Scaffolded: " ++ toString scaffolded ++ " phases awaiting platform surfaces",
    "Verdict: " ++ result.verdict]

/-! ## The promise -/

/-- The verdicts that accept. -/
def acceptingVerdicts : List String := ["ACCEPT", "ACCEPTED", "PASS"]

/-- The adapter says that it is supported, and reports a failure or a verdict that does not
    accept. -/
def AdapterResult.refuses (result : AdapterResult) : Prop :=
  result.supported = true ∧ (result.success = false ∨
    (truthy (result.data.get "verdict") = true ∧
      ∀ word ∈ acceptingVerdicts, isStr word (result.data.get "verdict") = false))

/-- The context phase has what it needs. -/
def RunnerEnv.contextSucceeds (env : RunnerEnv) : Prop :=
  env.baseUrl = "" ∨ ∃ snapshot, env.compile = .ok snapshot

/-- One of the adapters refuses. -/
def RunnerEnv.refused (env : RunnerEnv) : Prop :=
  ∃ result, (env.registration = .ok result ∨ env.submission = .ok result
    ∨ env.verdict = .ok result) ∧ result.refuses

/-- The collector returned an output that passed. -/
def CollectorRun.Passed (collector : CollectorRun) : Prop :=
  ∃ o, collector = .output o ∧ o.passed = true

/-- The summary ends in this verdict. -/
def ProofResult.Prints (result : ProofResult) (verdict : String) : Prop :=
  result.summary.getLast? = some ("Verdict: " ++ verdict)

/-- A run that reports readiness, or success, has nothing to hide. -/
structure Sound (env : RunnerEnv) (runner : Runner) : Prop where
  ready : ∀ result runner', run env runner = .ok (result, runner') →
    result.Prints "LAUNCH-READY" → (∀ entry ∈ runner.collectors, entry.2.Passed) ∧
      env.contextSucceeds ∧ ¬ env.refused
  evidence : ∀ result runner', run env runner = .ok (result, runner') →
    result.evidence = "SUCCESS" → ∀ p ∈ result.phases, p.success = true

/-- What the verdict hides: the run returns, nothing it calls fails openly, and a collector
    that returned no output was dropped or an adapter that refuses was put down as
    scaffolded. -/
structure Conceals (env : RunnerEnv) (runner : Runner) : Prop where
  registered : ∃ result, env.registration = .ok result
  captured : ∃ source, env.source = .ok source
  recaptured : ∃ source, env.sourceAgain = .ok source
  submitted : ∃ result, env.submission = .ok result
  evaluated : ∃ result, env.verdict = .ok result
  context : env.contextSucceeds
  collectors : ∀ entry ∈ runner.collectors, entry.2 = .other ∨ entry.2.Passed
  hidden : (∃ entry ∈ runner.collectors, entry.2 = .other) ∨ env.refused

/-! ## The collectors -/

/-- The collector is dropped, or returned an output that passed. -/
def CollectorRun.Quiet (collector : CollectorRun) : Prop :=
  collector = .other ∨ collector.Passed

theorem collect_output {o : VerificationOutput} {verificationClass : String}
    {rest : List (String × CollectorRun)} {outputs : List VerificationOutput}
    (h : collect ((verificationClass, .output o) :: rest) = .ok outputs) :
    ∃ tail o', collect rest = .ok tail ∧ outputs = o' :: tail ∧ o'.passed = o.passed := by
  rw [collect] at h
  obtain ⟨tail, htail, h⟩ := bind_ok.mp h
  obtain rfl := Except.ok.inj h
  refine ⟨tail, _, htail, rfl, ?_⟩
  by_cases hc : o.verificationClass = ""
  · rw [if_pos hc]
  · rw [if_neg hc]

theorem collect_raised {text verificationClass : String}
    {rest : List (String × CollectorRun)} {outputs : List VerificationOutput}
    (h : collect ((verificationClass, .raised text) :: rest) = .ok outputs) :
    ∃ tail o', collect rest = .ok tail ∧ outputs = o' :: tail ∧ o'.passed = false := by
  rw [collect] at h
  obtain ⟨tail, htail, h⟩ := bind_ok.mp h
  obtain rfl := Except.ok.inj h
  exact ⟨tail, _, htail, rfl, rfl⟩

/-- The outputs all pass exactly when every collector is dropped or passed. -/
theorem collect_passed : ∀ {entries : List (String × CollectorRun)}
    {outputs : List VerificationOutput}, collect entries = .ok outputs →
    ((∀ o ∈ outputs, o.passed = true) ↔ ∀ entry ∈ entries, entry.2.Quiet)
  | [], outputs, h => by
    obtain rfl := Except.ok.inj h
    simp
  | (verificationClass, .output o) :: rest, outputs, h => by
    obtain ⟨tail, o', hr, rfl, ho⟩ := collect_output h
    have ih := collect_passed hr
    have head : CollectorRun.Quiet (.output o) ↔ o'.passed = true := by
      rw [ho]
      constructor
      · rintro (hother | ⟨o₁, he, hp⟩)
        · exact nomatch hother
        · cases he
          exact hp
      · intro hp
        exact Or.inr ⟨o, rfl, hp⟩
    rw [List.forall_mem_cons, List.forall_mem_cons, ih, head]
  | (verificationClass, .other) :: rest, outputs, h => by
    have ih := collect_passed (show collect rest = .ok outputs from h)
    rw [List.forall_mem_cons, ih]
    exact ⟨fun hall => ⟨Or.inl rfl, hall⟩, fun hall => hall.2⟩
  | (verificationClass, .raised text) :: rest, outputs, h => by
    obtain ⟨tail, o', hr, rfl, ho⟩ := collect_raised h
    rw [List.forall_mem_cons, List.forall_mem_cons, ho]
    constructor
    · rintro ⟨hfalse, -⟩
      exact nomatch hfalse
    · rintro ⟨hother | ⟨o₁, he, -⟩, -⟩
      · exact nomatch hother
      · exact nomatch he
  | (verificationClass, .aborted errorClass) :: rest, outputs, h => nomatch h

/-- Where every collector is dropped or passed, the loop goes through. -/
theorem collect_returns : ∀ {entries : List (String × CollectorRun)},
    (∀ entry ∈ entries, entry.2.Quiet) → ∃ outputs, collect entries = .ok outputs
  | [], _ => ⟨[], rfl⟩
  | (verificationClass, collector) :: rest, h => by
    obtain ⟨head, tail⟩ := List.forall_mem_cons.mp h
    obtain ⟨outputs, hr⟩ := collect_returns tail
    rcases head with he | ⟨o, he, -⟩
    · obtain rfl : collector = .other := he
      exact ⟨outputs, hr⟩
    · obtain rfl : collector = .output o := he
      simp only [collect, hr]
      exact ⟨_, rfl⟩

/-! ## The phases of a run -/

/-- A bundle passes the verification phase when no output of it failed. -/
theorem verifiedPhase_success (env : RunnerEnv) (bundle : ProofBundle) :
    (verifiedPhase env bundle).success = true ↔ ∀ o ∈ bundle.outputs, o.passed = true := by
  show (bundle.allPassed || bundle.outputs.length == 0) = true ↔ _
  unfold ProofBundle.allPassed
  cases bundle.outputs with
  | nil => simp
  | cons o rest => simp

/-- A phase that rests on an adapter never fails openly. -/
theorem adapterPhase_supported (env : RunnerEnv) (phase : Phase) (eventData : Dict)
    (suggestion : String) (result : AdapterResult) :
    (adapterPhase env phase eventData suggestion result).scaffolded = true ∨
      (adapterPhase env phase eventData suggestion result).success = true := by
  unfold adapterPhase
  by_cases h : (result.supported && result.success) = true
  · rw [if_pos h]
    exact Or.inr rfl
  · rw [if_neg h]
    exact Or.inl rfl

/-- The context phase is never scaffolded. -/
theorem phaseContext_scaffolded (env : RunnerEnv) : (phaseContext env).scaffolded = false := by
  unfold phaseContext
  by_cases h : env.baseUrl = ""
  · rw [if_pos h]
  · rw [if_neg h]
    cases env.compile with
    | ok snapshot => rfl
    | error text => rfl

/-- The context phase succeeds where there is nothing to compile, or the compile succeeds. -/
theorem phaseContext_success (env : RunnerEnv) :
    (phaseContext env).success = true ↔ env.contextSucceeds := by
  unfold phaseContext RunnerEnv.contextSucceeds
  by_cases h : env.baseUrl = ""
  · rw [if_pos h]
    exact ⟨fun _ => Or.inl h, fun _ => rfl⟩
  · rw [if_neg h]
    cases hc : env.compile with
    | ok snapshot => exact ⟨fun _ => Or.inr ⟨snapshot, rfl⟩, fun _ => rfl⟩
    | error text =>
      constructor
      · intro hf
        exact nomatch hf
      · rintro (he | ⟨snapshot, he⟩)
        · exact absurd he h
        · exact nomatch he

variable {env : RunnerEnv} {runner runner' : Runner} {p : PhaseResult} {result : ProofResult}

/-- The verification succeeds when the source is captured and no output failed. -/
theorem phaseVerification_success (h : phaseVerification env runner = .ok (p, runner')) :
    p.scaffolded = false ∧ (p.success = true ↔
      (∃ source, env.sourceAgain = .ok source) ∧ ∀ entry ∈ runner.collectors, entry.2.Quiet) := by
  unfold phaseVerification at h
  cases hs : env.sourceAgain with
  | error text =>
    rw [hs] at h
    obtain ⟨rfl, -⟩ := Prod.mk.inj (Except.ok.inj h)
    refine ⟨rfl, ?_⟩
    constructor
    · intro hf
      exact nomatch hf
    · rintro ⟨⟨source, hsource⟩, -⟩
      exact nomatch hsource
  | ok source =>
    rw [hs] at h
    obtain ⟨outputs, houtputs, h⟩ := bind_ok.mp h
    obtain ⟨rfl, -⟩ := Prod.mk.inj (Except.ok.inj h)
    refine ⟨rfl, ?_⟩
    rw [verifiedPhase_success, collect_passed houtputs]
    exact ⟨fun hq => ⟨⟨source, rfl⟩, hq⟩, fun hq => hq.2⟩

/-- A verification that captured the source leaves a bundle. -/
theorem phaseVerification_bundle {source : SourceInfo} (hs : env.sourceAgain = .ok source)
    (h : phaseVerification env runner = .ok (p, runner')) :
    ∃ bundle, runner'.proofBundle = some bundle := by
  unfold phaseVerification at h
  rw [hs] at h
  obtain ⟨outputs, -, h⟩ := bind_ok.mp h
  obtain ⟨-, rfl⟩ := Prod.mk.inj (Except.ok.inj h)
  exact ⟨_, rfl⟩

/-- The submission never fails openly. -/
theorem phaseSubmission_supported
    (h : phaseSubmission env runner = .ok p) : p.scaffolded = true ∨ p.success = true := by
  unfold phaseSubmission at h
  cases hb : runner.proofBundle with
  | none =>
    rw [hb] at h
    obtain rfl := Except.ok.inj h
    exact Or.inl rfl
  | some bundle =>
    rw [hb] at h
    obtain ⟨result, -, h⟩ := bind_ok.mp h
    obtain rfl := Except.ok.inj h
    exact adapterPhase_supported env _ _ _ result

/-- What a run that returns went through. -/
theorem run_phases (h : run env runner = .ok (result, runner')) :
    ∃ registration implementation verification submission evaluation,
      phaseRegistration env = .ok registration ∧
      phaseImplementation env = .ok implementation ∧
      phaseVerification env runner = .ok (verification, runner') ∧
      phaseSubmission env runner' = .ok submission ∧
      phaseEvaluation env = .ok evaluation ∧
      result.phases = [registration, phaseContext env, implementation, verification,
        submission, evaluation, phasePromotion] := by
  obtain ⟨registration, hregistration, h⟩ := bind_ok.mp h
  obtain ⟨implementation, himplementation, h⟩ := bind_ok.mp h
  obtain ⟨⟨verification, after⟩, hverification, h⟩ := bind_ok.mp h
  obtain ⟨submission, hsubmission, h⟩ := bind_ok.mp h
  obtain ⟨evaluation, hevaluation, h⟩ := bind_ok.mp h
  obtain ⟨rfl, rfl⟩ := Prod.mk.inj (Except.ok.inj h)
  exact ⟨registration, implementation, verification, submission, evaluation, hregistration,
    himplementation, hverification, hsubmission, hevaluation, rfl⟩

theorem phaseRegistration_ok (h : phaseRegistration env = .ok p) :
    (∃ result, env.registration = .ok result) ∧ (p.scaffolded = true ∨ p.success = true) := by
  obtain ⟨result, hresult, h⟩ := bind_ok.mp h
  obtain rfl := Except.ok.inj h
  exact ⟨⟨result, hresult⟩, adapterPhase_supported env _ _ _ result⟩

theorem phaseEvaluation_ok (h : phaseEvaluation env = .ok p) :
    (∃ result, env.verdict = .ok result) ∧ (p.scaffolded = true ∨ p.success = true) := by
  obtain ⟨result, hresult, h⟩ := bind_ok.mp h
  obtain rfl := Except.ok.inj h
  exact ⟨⟨result, hresult⟩, adapterPhase_supported env _ _ _ result⟩

theorem phaseImplementation_ok (h : phaseImplementation env = .ok p) :
    (∃ source, env.source = .ok source) ∧ p.scaffolded = false ∧ p.success = true := by
  obtain ⟨source, hsource, h⟩ := bind_ok.mp h
  obtain rfl := Except.ok.inj h
  exact ⟨⟨source, hsource⟩, rfl, rfl⟩

/-! ## The verdict -/

/-- Every phase passed or is scaffolded. -/
theorem allSupportedPassed_iff (result : ProofResult) :
    result.allSupportedPassed = true ↔
      ∀ p ∈ result.phases, p.scaffolded = true ∨ p.success = true := by
  unfold ProofResult.allSupportedPassed
  rw [List.all_eq_true]
  constructor
  · intro h p hp
    cases hs : p.scaffolded with
    | true => exact Or.inl rfl
    | false => exact Or.inr (h p (List.mem_filter.mpr ⟨hp, by rw [hs]; rfl⟩))
  · intro h p hp
    obtain ⟨hp, hs⟩ := List.mem_filter.mp hp
    rcases h p hp with hscaffolded | hsuccess
    · rw [hscaffolded] at hs
      exact nomatch hs
    · exact hsuccess

/-- The summary ends in the verdict. -/
theorem prints_iff (result : ProofResult) (verdict : String) :
    result.Prints verdict ↔ result.verdict = verdict := by
  unfold ProofResult.Prints ProofResult.summary
  rw [List.getLast?_append]
  show some ("Verdict: " ++ result.verdict) = _ ↔ _
  rw [Option.some_inj]
  constructor
  · intro h
    exact String.append_right_inj _ |>.mp h
  · rintro rfl
    rfl

theorem prints_launchReady_iff (result : ProofResult) :
    result.Prints "LAUNCH-READY" ↔ result.allSupportedPassed = true := by
  rw [prints_iff]
  unfold ProofResult.verdict
  cases result.allSupportedPassed with
  | true => exact ⟨fun _ => rfl, fun _ => rfl⟩
  | false => exact ⟨fun h => absurd h (by decide), nofun⟩

/-- A run is reported as ready exactly when its context succeeds, its source is captured and
    no collector that was heard failed: nothing an adapter answers matters. -/
theorem run_ready (h : run env runner = .ok (result, runner')) :
    result.Prints "LAUNCH-READY" ↔ env.contextSucceeds ∧
      (∃ source, env.sourceAgain = .ok source) ∧ ∀ entry ∈ runner.collectors, entry.2.Quiet := by
  obtain ⟨registration, implementation, verification, submission, evaluation, hr, hi, hv, hs, he,
    hphases⟩ := run_phases h
  obtain ⟨hopen, hverified⟩ := phaseVerification_success hv
  rw [prints_launchReady_iff, allSupportedPassed_iff, hphases, ← hverified,
    ← phaseContext_success]
  constructor
  · intro hall
    have hcontext := hall (phaseContext env) (by simp)
    have hverification := hall verification (by simp)
    rw [phaseContext_scaffolded] at hcontext
    rw [hopen] at hverification
    exact ⟨hcontext.resolve_left nofun,
      hverification.resolve_left nofun⟩
  · rintro ⟨hcontext, hverification⟩ p hp
    simp only [List.mem_cons, List.not_mem_nil, or_false] at hp
    rcases hp with rfl | rfl | rfl | rfl | rfl | rfl | rfl
    · exact (phaseRegistration_ok hr).2
    · exact Or.inr hcontext
    · exact Or.inr (phaseImplementation_ok hi).2.2
    · exact Or.inr hverification
    · exact phaseSubmission_supported hs
    · exact (phaseEvaluation_ok he).2
    · exact Or.inl rfl

/-- Success is never reported: the promotion is scaffolded. -/
theorem run_evidence
    (h : run env runner = .ok (result, runner')) : result.evidence ≠ "SUCCESS" := by
  obtain ⟨registration, implementation, verification, submission, evaluation, -, hi, -, -, -,
    hphases⟩ := run_phases h
  have hany : result.phases.any (·.success) = true := by
    rw [List.any_eq_true]
    exact ⟨implementation, by rw [hphases]; simp, (phaseImplementation_ok hi).2.2⟩
  have hscaffolded : result.phases.any (·.scaffolded) = true := by
    rw [List.any_eq_true]
    exact ⟨phasePromotion, by rw [hphases]; simp, rfl⟩
  intro h
  unfold ProofResult.evidence at h
  rw [hany, hscaffolded] at h
  exact absurd h (by decide : ("PARTIAL" : String) ≠ "SUCCESS")

/-- Where everything called returns and no heard collector failed, the run returns. -/
theorem run_returns (h : Conceals env runner) :
    ∃ result runner', run env runner = .ok (result, runner') := by
  obtain ⟨registration, hr⟩ := h.registered
  obtain ⟨source, hs⟩ := h.captured
  obtain ⟨again, ha⟩ := h.recaptured
  obtain ⟨submission, hsub⟩ := h.submitted
  obtain ⟨evaluation, he⟩ := h.evaluated
  obtain ⟨outputs, hc⟩ := collect_returns h.collectors
  simp only [run, phaseRegistration, phaseImplementation, phaseVerification, phaseSubmission,
    phaseEvaluation, hr, hs, ha, hsub, he, hc, bind, Except.bind, pure, Except.pure]
  exact ⟨_, _, rfl⟩

/-- The verdict and the evidence keep their promise exactly where nothing is concealed. -/
theorem hidesNothing_iff (env : RunnerEnv) (runner : Runner) :
    Sound env runner ↔ ¬ Conceals env runner := by
  constructor
  · intro hsound hconceals
    obtain ⟨result, runner', hrun⟩ := run_returns hconceals
    have hready := (run_ready hrun).mpr
      ⟨hconceals.context, hconceals.recaptured, hconceals.collectors⟩
    obtain ⟨hpassed, -, hrefused⟩ := hsound.ready result runner' hrun hready
    rcases hconceals.hidden with ⟨entry, hmem, hother⟩ | h
    · obtain ⟨o, ho, -⟩ := hpassed entry hmem
      rw [hother] at ho
      exact nomatch ho
    · exact hrefused h
  · intro hnot
    refine ⟨?_, fun result runner' hrun he => absurd he (run_evidence hrun)⟩
    intro result runner' hrun hprints
    obtain ⟨hcontext, hagain, hquiet⟩ := (run_ready hrun).mp hprints
    obtain ⟨registration, implementation, verification, submission, evaluation, hr, hi, hv, hs,
      he, -⟩ := run_phases hrun
    obtain ⟨source, hsource⟩ := hagain
    obtain ⟨bundle, hbundle⟩ := phaseVerification_bundle hsource hv
    have hsubmitted : ∃ answer, env.submission = .ok answer := by
      unfold phaseSubmission at hs
      rw [hbundle] at hs
      cases ha : env.submission with
      | error e => simp only [ha] at hs; exact nomatch hs
      | ok answer => exact ⟨answer, rfl⟩
    -- everything but the hidden part holds of a run that is reported as ready
    have hshown : ¬ ((∃ entry ∈ runner.collectors, entry.2 = .other) ∨ env.refused) :=
      fun hhidden => hnot ⟨(phaseRegistration_ok hr).1, (phaseImplementation_ok hi).1,
        ⟨source, hsource⟩, hsubmitted, (phaseEvaluation_ok he).1, hcontext, hquiet, hhidden⟩
    refine ⟨?_, hcontext, fun h => hshown (Or.inr h)⟩
    intro entry hmem
    exact (hquiet entry hmem).resolve_left fun hother => hshown (Or.inl ⟨entry, hmem, hother⟩)

/-- The verdict adapter is supported and reports a failure. -/
def rejectingEnv : RunnerEnv where
  baseUrl := ""
  correlationId := "c-1"
  sha256 := fun text => text
  compile := .error ""
  source := .ok ⟨"abc", "main"⟩
  sourceAgain := .ok ⟨"abc", "main"⟩
  registration := .ok {}
  submission := .ok {}
  verdict := .ok { supported := true, success := false, reason := "verdict: REJECT" }

/-- A verdict that the adapter reports as failed is put down as scaffolded, and the summary
    says LAUNCH-READY. -/
theorem rejectingEnv_ready : ¬ Sound rejectingEnv {} := by
  intro hsound
  have hquiet : ∀ entry ∈ ({} : Runner).collectors, entry.2.Quiet :=
    fun entry hmem => nomatch hmem
  have hrun : ∃ result runner', run rejectingEnv {} = .ok (result, runner') := ⟨_, _, rfl⟩
  obtain ⟨result, runner', hrun⟩ := hrun
  have hready := (run_ready hrun).mpr ⟨Or.inl rfl, ⟨_, rfl⟩, hquiet⟩
  exact (hsound.ready result runner' hrun hready).2.2
    ⟨_, Or.inr (Or.inr rfl), rfl, Or.inl rfl⟩

end KeyholeGovernance
