import Keyhole.IngestionHandover

/-!
# The three submitters

`submit_registration`, `submit_ingestion` and `submit_alignment` each classify an answer of the
boundary by its HTTP code, its status word and, for a registration, a replay flag.  Each takes a
word it does not know for a success, and the last knows no word for a failure.

* `submitRegistration`, `submitIngestion`, `submitAlignment`: the submitters, with the validation
  of the models they build;
* `Honest`: what they promise together, `Plain`: the answers on which they keep it;
* `honest_iff_plain`: these, and no others. -/

namespace KeyholeSubmitters

open KeyholeJson KeyholeDispatch
open KeyholeHandover (RegistrationSource RegistrationReadiness CompatibilityPosture)
open KeyholeCapability (textField textItems textList)
open ExceptLoops (Returns bind_ok returns_bind_of_forall returns_bind_of_iff)

/-! ## What the three share -/

/-- What `GovernedTransport.execute` returns: from 400 on it raises. -/
structure Answered extends TransportResult where
  answered : statusCode < 400

/-- What it comes to. -/
abbrev Executed := Except TransportFailure Answered

/-- The status of an outcome. -/
inductive SubmissionStatus where
  | success
  | accepted
  | deferred
  | replayed
  | rejected
  | failed
  deriving DecidableEq

/-- Its text. -/
def SubmissionStatus.value : SubmissionStatus → String
  | .success => "success"
  | .accepted => "accepted"
  | .deferred => "deferred"
  | .replayed => "replayed"
  | .rejected => "rejected"
  | .failed => "failed"

/-- A field of type `Optional[str]`. -/
def optionalText : Json → Except Raised (Option String)
  | .str s => .ok (some s)
  | .null => .ok none
  | _ => .error "ValidationError"

/-- `Enum(value)`: the member with the value. -/
def memberOf {α : Type} (members : List (String × α)) : Json → Option α
  | .str s => members.lookup s
  | _ => none

/-- A field of an enumeration. -/
def memberField {α : Type} (members : List (String × α)) (v : Json) : Except Raised α :=
  match memberOf members v with
  | some member => .ok member
  | none => .error "ValidationError"

/-- The entry of a table of repair guidance. -/
def repairEntry (table : List (String × List String)) (default : List String)
    (errorClass : String) : List String :=
  (table.lookup errorClass).getD default

/-- `data.get("suggested_actions", data.get("next_steps", []))`. -/
def suggestedActionsField (data : Dict) : Json :=
  data.getOr "suggested_actions" (data.getOr "next_steps" (.arr []))

/-- `data.get("reason", data.get("message", ""))`. -/
def reasonField (data : Dict) : Json := data.getOr "reason" (data.getOr "message" (.str ""))

/-- The words both outcomes take for a rejection. -/
def rejectedWords : List String := ["rejected", "error", "failed"]

/-! ## Registrations -/

/-- `RegistrationRequest`: the fields of its payload the classifier reads. -/
structure RegistrationRequest where
  repoName : String
  registrationSource : RegistrationSource
  readiness : RegistrationReadiness
  shadow : Bool
  correlationId : String

/-- `IdentityBinding`. -/
structure IdentityBinding where
  tenantId : String
  orgId : String
  userId : String
  cohortId : String
  workerId : String
  repoId : String
  workspaceId : String
  origin : String
  purpose : String

/-- `RegistrationOutcome`. -/
structure RegistrationOutcome where
  status : SubmissionStatus
  registrationId : Option String := none
  repoName : String
  registrationSource : RegistrationSource
  readiness : RegistrationReadiness
  shadow : Bool
  correlationId : String
  isReplay : Bool := false
  identityBinding : Option IdentityBinding := none
  httpStatus : Nat := 0
  responseData : Dict := []
  errorClass : String := ""
  reason : String := ""
  repairGuidance : List String := []
  isLocalFailure : Bool := false
  warnings : List String := []
  suggestedActions : List String := []

/-- `_REPAIR_MAP` of the registrations. -/
def registrationRepairMap : List (String × List String) :=
  [("AuthenticationError", ["Run: keyhole login", "Then re-run: keyhole repo register"]),
    ("TransportUnknownError", ["Check network connectivity to the MCP boundary.",
      "Retry is safe — the operation has idempotency protection."]),
    ("RetryExhaustedError", ["The boundary is unavailable after all retry attempts.",
      "Wait and retry later. The operation preserved its idempotency key."]),
    ("RuntimeUnavailableError", ["The registration service is temporarily unavailable.",
      "Try again later."]),
    ("IdempotencyConflictError", ["A different payload was sent with the same idempotency key.",
      "If this is a new registration, use a fresh attempt."]),
    ("RateLimitedError", ["You are being rate-limited by the boundary.",
      "Wait for the Retry-After period and try again."]),
    ("MissingNativeArtifacts", ["This repo is not ready for native registration.",
      "Run: keyhole ingest .", "Review compatibility posture and alignment guidance.",
      "Then re-run: keyhole repo register --from-ingest <ingest-id>"]),
    ("MissingIngestionReference",
      ["Ingestion-backed registration requires a prior ingestion reference.",
        "Run: keyhole ingest .", "Then: keyhole repo register --from-ingest <ingest-id>"]),
    ("WeakIngestionPosture", ["This repo is not yet registration-ready.",
      "Review inferred structure and compatibility posture.",
      "Address the suggested alignment steps.", "Then retry registration."]),
    ("MissingCapabilityPassport",
      ["Generate or repair the capability passport, then re-run registration.",
        "Run: keyhole repo register — once the passport is in place."]),
    ("InvalidRepoPath", ["The specified repository path does not exist or is not a directory.",
      "Check the path and try again: keyhole repo register --path <valid-path>"]),
    ("ServerRejection", ["The registration boundary rejected the request.",
      "Check the error reason for details.",
      "Try: keyhole repo register --shadow — for an observational pass."]),
    ("NotAuthenticated", ["Run: keyhole login", "Then re-run: keyhole repo register"]),
    ("PublicEndpointError", ["The boundary rejected the request payload.",
      "Check error details for the specific reason."])]

/-- `map_registration_repair`. -/
def mapRegistrationRepair (errorClass : String) : List String :=
  repairEntry registrationRepairMap ["Unexpected error: " ++ errorClass,
    "Try: keyhole repo register --shadow — for an observational pass.",
    "Try: keyhole doctor — to diagnose your environment."] errorClass

/-- `data.get("registration_id") or data.get("repo_id") or data.get("id")`. -/
def registrationIdField (data : Dict) : Json :=
  orElse (data.get "registration_id") (orElse (data.get "repo_id") (data.get "id"))

/-- `data.get("is_replay", data.get("replayed", False))`. -/
def replayFlag (data : Dict) : Json :=
  data.getOr "is_replay" (data.getOr "replayed" (.bool false))

/-- The nested binding, `{}` if it is no dictionary. -/
def bindingData (data : Dict) : Dict :=
  asDict (orElse (data.get "identity_binding") (orElse (data.get "binding") (.obj [])))

/-- A field of the binding, which may also be at the top level. -/
def bindingField (data : Dict) (name : String) : Json :=
  (bindingData data).getOr name (data.getOr name (.str ""))

/-- The fields of a binding. -/
def bindingNames : List String :=
  ["tenant_id", "org_id", "user_id", "cohort_id", "worker_id", "repo_id", "workspace_id", "origin",
    "purpose"]

/-- `IdentityBinding(**fields)`. -/
def identityBinding (data : Dict) : Except Raised IdentityBinding := do
  let tenantId ← textField (bindingField data "tenant_id")
  let orgId ← textField (bindingField data "org_id")
  let userId ← textField (bindingField data "user_id")
  let cohortId ← textField (bindingField data "cohort_id")
  let workerId ← textField (bindingField data "worker_id")
  let repoId ← textField (bindingField data "repo_id")
  let workspaceId ← textField (bindingField data "workspace_id")
  let origin ← textField (bindingField data "origin")
  let purpose ← textField (bindingField data "purpose")
  return ⟨tenantId, orgId, userId, cohortId, workerId, repoId, workspaceId, origin, purpose⟩

/-- `_extract_identity_binding`. -/
def extractIdentityBinding (data : Dict) : Except Raised (Option IdentityBinding) :=
  if bindingNames.any (fun name => truthy (bindingField data name)) = true then
    (identityBinding data).map some
  else .ok none

/-- `RegistrationOutcome(status=.., **base_kwargs)`. -/
def registrationOutcome (data : Dict) (statusCode : Nat) (request : RegistrationRequest)
    (binding : Option IdentityBinding) (status : SubmissionStatus) :
    Except Raised RegistrationOutcome := do
  let registrationId ← optionalText (registrationIdField data)
  let warnings ← textList (data.getOr "warnings" (.arr []))
  let suggestedActions ← textList (suggestedActionsField data)
  return {
    status
    registrationId
    repoName := request.repoName
    registrationSource := request.registrationSource
    readiness := request.readiness
    shadow := request.shadow
    correlationId := request.correlationId
    identityBinding := binding
    httpStatus := statusCode
    responseData := data
    warnings
    suggestedActions }

/-- The outcome of a rejected registration. -/
def rejectedRegistration (data : Dict) (statusCode : Nat) (request : RegistrationRequest)
    (binding : Option IdentityBinding) : Except Raised RegistrationOutcome := do
  let errorClass ← textField (data.getOr "error_class" (.str "server_rejection"))
  let reason ← textField (reasonField data)
  let repairGuidance ← textList (data.getOr "repair_guidance" (.arr []))
  let base ← registrationOutcome data statusCode request binding .rejected
  return { base with errorClass, reason, repairGuidance }

/-- The outcome of a replayed registration. -/
def replayedRegistration (data : Dict) (statusCode : Nat) (request : RegistrationRequest)
    (binding : Option IdentityBinding) : Except Raised RegistrationOutcome := do
  let base ← registrationOutcome data statusCode request binding .replayed
  return { base with isReplay := true }

/-- `_classify_outcome` of a registration, by the lower-case status. -/
def registrationByWord (data : Dict) (statusCode : Nat) (request : RegistrationRequest)
    (serverStatus : String) (binding : Option IdentityBinding) :
    Except Raised RegistrationOutcome :=
  if truthy (replayFlag data) = true then replayedRegistration data statusCode request binding
  else if statusCode = 202 ∨ serverStatus ∈ ["accepted", "pending"] then
    registrationOutcome data statusCode request binding .accepted
  else if serverStatus = "deferred" then
    registrationOutcome data statusCode request binding .deferred
  else if serverStatus ∈ rejectedWords then rejectedRegistration data statusCode request binding
  else registrationOutcome data statusCode request binding .success

/-- `_classify_outcome` of a registration. -/
def classifyRegistration (data : Dict) (statusCode : Nat) (request : RegistrationRequest) :
    Except Raised RegistrationOutcome := do
  let serverStatus ← lowered (data.getOr "status" (.str ""))
  let binding ← extractIdentityBinding data
  registrationByWord data statusCode request serverStatus binding

/-- `_handle_transport_exception` of a registration. -/
def failedRegistration (failure : TransportFailure) (request : RegistrationRequest) :
    RegistrationOutcome where
  status := .failed
  repoName := request.repoName
  registrationSource := request.registrationSource
  readiness := request.readiness
  shadow := request.shadow
  correlationId := request.correlationId
  errorClass := failure.errorClass
  reason := failure.text
  repairGuidance := mapRegistrationRepair failure.errorClass
  isLocalFailure := true

/-- `submit_registration`: what is no dictionary has no `get`. -/
def submitRegistration (executed : Executed) (request : RegistrationRequest) :
    Except Raised RegistrationOutcome :=
  match executed with
  | .error failure => .ok (failedRegistration failure request)
  | .ok result =>
      match result.data with
      | .obj data => classifyRegistration data result.statusCode request
      | _ => .error "AttributeError"

/-! ## Ingestions -/

/-- `IngestionRequest`: the fields of its package the classifier reads. -/
structure IngestionRequest where
  repoIdentity : String
  shadow : Bool
  correlationId : String

/-- `ConfidenceLevel`. -/
inductive ConfidenceLevel where
  | high
  | medium
  | low
  deriving DecidableEq

/-- The values of the confidence levels. -/
def confidenceLevels : List (String × ConfidenceLevel) :=
  [("high", .high), ("medium", .medium), ("low", .low)]

/-- The values of the compatibility postures. -/
def compatibilityPostures : List (String × CompatibilityPosture) :=
  [("foreign", .foreign), ("partially_aligned", .partiallyAligned), ("keyhole_ready", .keyholeReady)]

/-- `InferredCapability`. -/
structure InferredCapability where
  name : String
  confidence : ConfidenceLevel := .low
  basis : String := ""
  category : String := ""

/-- `GraphSummary`. -/
structure GraphSummary where
  nodeCount : Int
  edgeCount : Int
  components : Int
  primaryLanguage : String
  topologyNotes : List String

/-- `IngestionOutcome`. -/
structure IngestionOutcome where
  status : SubmissionStatus
  ingestionId : Option String := none
  repoIdentity : String
  shadow : Bool
  correlationId : String
  compatibility : CompatibilityPosture := .foreign
  graphSummary : Option GraphSummary := none
  inferredCapabilities : List InferredCapability := []
  warnings : List String := []
  suggestedActions : List String := []
  httpStatus : Nat := 0
  responseData : Dict := []
  errorClass : String := ""
  reason : String := ""
  repairGuidance : List String := []
  isLocalFailure : Bool := false

/-- `_REPAIR_MAP` of the ingestions. -/
def ingestionRepairMap : List (String × List String) :=
  [("AuthenticationError", ["Run: keyhole login", "Re-authenticate and try again."]),
    ("TransportUnknownError", ["Check network connectivity to the MCP boundary.",
      "Retry is safe — the operation has idempotency protection."]),
    ("RetryExhaustedError", ["The boundary is unavailable after all retry attempts.",
      "Wait and retry later. The operation preserved its idempotency key."]),
    ("RuntimeUnavailableError", ["The ingestion service is temporarily unavailable.",
      "Try again later."]),
    ("IdempotencyConflictError", ["A different payload was sent with the same idempotency key.",
      "If this is a new ingestion, retry with --shadow for a fresh attempt."]),
    ("RateLimitedError", ["You are being rate-limited by the boundary.",
      "Wait for the Retry-After period and try again."]),
    ("InvalidRepoPath", ["The specified repository path does not exist or is not a directory.",
      "Check the path and try again: keyhole ingest <valid-path>"]),
    ("EmptyPackage", ["No files were included after filtering.",
      "Check your --include and --exclude patterns.",
      "Try: keyhole ingest <path> --include '*.py' — to include specific files."]),
    ("PackageTooLarge", ["The ingestion package exceeds the size limit.",
      "Use --max-bytes to constrain package size.", "Use --exclude to skip large directories."]),
    ("ServerRejection", ["The ingestion boundary rejected the request.",
      "Check the error reason for details.",
      "Try: keyhole ingest --shadow — for a low-risk exploratory pass."]),
    ("PublicEndpointError", ["The boundary rejected the request payload.",
      "Check error details for the specific reason."])]

/-- `map_ingestion_repair`. -/
def mapIngestionRepair (errorClass : String) : List String :=
  repairEntry ingestionRepairMap ["Unexpected error: " ++ errorClass,
    "Try: keyhole ingest --shadow — for a low-risk exploratory pass.",
    "Try: keyhole doctor — to diagnose your environment."] errorClass

/-- `data.get("ingestion_id") or data.get("run_id") or data.get("id")`. -/
def ingestionIdField (data : Dict) : Json :=
  orElse (data.get "ingestion_id") (orElse (data.get "run_id") (data.get "id"))

/-- The graph of an answer. -/
def graphField (data : Dict) : Json := orElse (data.get "graph_summary") (data.get "graph")

/-- The capabilities of an answer. -/
def capabilitiesField (data : Dict) : Json :=
  data.getOr "inferred_capabilities" (data.getOr "capabilities" (.arr []))

/-- A dictionary of the capabilities; a confidence that is none is low. -/
def inferredCapability (item : Dict) : Except Raised InferredCapability := do
  let confidence := (memberOf confidenceLevels (item.getOr "confidence" (.str "low"))).getD .low
  let name ← textField (item.getOr "name" (.str ""))
  let basis ← textField (item.getOr "basis" (.str ""))
  let category ← textField (item.getOr "category" (.str ""))
  return { name, confidence, basis, category }

/-- The loop of `_extract_inferred_capabilities`. -/
def inferredItems : List Json → Except Raised (List InferredCapability)
  | [] => .ok []
  | .obj item :: rest => do
      let capability ← inferredCapability item
      let capabilities ← inferredItems rest
      return capability :: capabilities
  | .str name :: rest => do
      let capabilities ← inferredItems rest
      return { name } :: capabilities
  | _ :: rest => inferredItems rest

/-- `_extract_inferred_capabilities`. -/
def extractInferredCapabilities (data : Dict) : Except Raised (List InferredCapability) :=
  inferredItems (asList (capabilitiesField data))

/-- `_extract_compatibility`. -/
def extractCompatibility (data : Dict) : CompatibilityPosture :=
  (memberOf compatibilityPostures
    (data.getOr "compatibility" (data.getOr "compatibility_posture" (.str "foreign")))).getD .foreign

/-- The outcome of a rejected ingestion. -/
def rejectedIngestion (data : Dict) (statusCode : Nat) (request : IngestionRequest) :
    Except Raised IngestionOutcome := do
  let ingestionId ← optionalText (ingestionIdField data)
  let errorClass ← textField (data.getOr "error_class" (.str "server_rejection"))
  let reason ← textField (reasonField data)
  let repairGuidance ← textList (data.getOr "repair_guidance" (.arr []))
  return {
    status := .rejected
    ingestionId
    repoIdentity := request.repoIdentity
    shadow := request.shadow
    correlationId := request.correlationId
    compatibility := extractCompatibility data
    httpStatus := statusCode
    responseData := data
    errorClass
    reason
    repairGuidance }

/-- The outcome of any other ingestion. -/
def ingestionOutcome (data : Dict) (statusCode : Nat) (request : IngestionRequest)
    (graphSummary : Option GraphSummary) (inferredCapabilities : List InferredCapability)
    (status : SubmissionStatus) : Except Raised IngestionOutcome := do
  let ingestionId ← optionalText (ingestionIdField data)
  let warnings ← textList (data.getOr "warnings" (.arr []))
  let suggestedActions ← textList (suggestedActionsField data)
  return {
    status
    ingestionId
    repoIdentity := request.repoIdentity
    shadow := request.shadow
    correlationId := request.correlationId
    compatibility := extractCompatibility data
    graphSummary
    inferredCapabilities
    warnings
    suggestedActions
    httpStatus := statusCode
    responseData := data }

/-- `_classify_outcome` of an ingestion, by the lower-case status. -/
def ingestionByWord (data : Dict) (statusCode : Nat) (request : IngestionRequest)
    (serverStatus : String) (graphSummary : Option GraphSummary)
    (capabilities : List InferredCapability) : Except Raised IngestionOutcome :=
  if statusCode = 202 ∨ serverStatus ∈ ["accepted", "pending"] then
    ingestionOutcome data statusCode request graphSummary capabilities .accepted
  else if serverStatus = "deferred" then
    ingestionOutcome data statusCode request graphSummary capabilities .deferred
  else if serverStatus ∈ rejectedWords then rejectedIngestion data statusCode request
  else ingestionOutcome data statusCode request graphSummary capabilities .success

/-- `_handle_transport_exception` of an ingestion. -/
def failedIngestion (failure : TransportFailure) (request : IngestionRequest) :
    IngestionOutcome where
  status := .failed
  repoIdentity := request.repoIdentity
  shadow := request.shadow
  correlationId := request.correlationId
  errorClass := failure.errorClass
  reason := failure.text
  repairGuidance := mapIngestionRepair failure.errorClass
  isLocalFailure := true

section Ingestions

-- the validation of a field of type `int`
variable (intField : Json → Except Raised Int)

/-- `GraphSummary(..)` of the graph. -/
def graphSummaryOf (graph : Dict) : Except Raised GraphSummary := do
  let nodeCount ← intField (graph.getOr "node_count" (graph.getOr "nodes" (.int 0)))
  let edgeCount ← intField (graph.getOr "edge_count" (graph.getOr "edges" (.int 0)))
  let components ← intField (graph.getOr "components" (.int 0))
  let primaryLanguage ← textField (graph.getOr "primary_language" (.str ""))
  let topologyNotes ← textList (graph.getOr "topology_notes" (.arr []))
  return ⟨nodeCount, edgeCount, components, primaryLanguage, topologyNotes⟩

/-- `_extract_graph_summary`. -/
def extractGraphSummary (data : Dict) : Except Raised (Option GraphSummary) :=
  match graphField data with
  | .obj graph => if graph = [] then .ok none else (graphSummaryOf intField graph).map some
  | _ => .ok none

/-- `_classify_outcome` of an ingestion. -/
def classifyIngestion (data : Dict) (statusCode : Nat) (request : IngestionRequest) :
    Except Raised IngestionOutcome := do
  let serverStatus ← lowered (data.getOr "status" (.str ""))
  let graphSummary ← extractGraphSummary intField data
  let capabilities ← extractInferredCapabilities data
  ingestionByWord data statusCode request serverStatus graphSummary capabilities

/-- `submit_ingestion`. -/
def submitIngestion (executed : Executed) (request : IngestionRequest) :
    Except Raised IngestionOutcome :=
  match executed with
  | .error failure => .ok (failedIngestion failure request)
  | .ok result =>
      match result.data with
      | .obj data => classifyIngestion intField data result.statusCode request
      | _ => .error "AttributeError"

end Ingestions

/-! ## Alignment guidance -/

/-- `GuidanceClass`, in the order of `_CLASS_ORDER`. -/
inductive GuidanceClass where
  | gap
  | warning
  | suggestion
  | nextBestAction
  | inference
  deriving DecidableEq

/-- `GuidanceSeverity`, in the order of `_SEVERITY_ORDER`. -/
inductive GuidanceSeverity where
  | high
  | medium
  | low
  | info
  deriving DecidableEq

/-- `GuidanceState`, in the order of `_STATE_ORDER`. -/
inductive GuidanceState where
  | verified
  | inferred
  deriving DecidableEq

/-- `AlignmentReadiness`. -/
inductive AlignmentReadiness where
  | foreign
  | partiallyAligned
  | registrationReady
  | runReady
  | blocked
  deriving DecidableEq

/-- The values of the classes. -/
def guidanceClasses : List (String × GuidanceClass) :=
  [("gap", .gap), ("warning", .warning), ("suggestion", .suggestion),
    ("next_best_action", .nextBestAction), ("inference", .inference)]

/-- The values of the severities. -/
def guidanceSeverities : List (String × GuidanceSeverity) :=
  [("high", .high), ("medium", .medium), ("low", .low), ("info", .info)]

/-- The values of the states. -/
def guidanceStates : List (String × GuidanceState) :=
  [("verified", .verified), ("inferred", .inferred)]

/-- The values of the postures. -/
def alignmentReadinesses : List (String × AlignmentReadiness) :=
  [("foreign", .foreign), ("partially_aligned", .partiallyAligned),
    ("registration_ready", .registrationReady), ("run_ready", .runReady), ("blocked", .blocked)]

/-- `GuidanceItem`; the confidence is the text of a float. -/
structure GuidanceItem where
  id : String
  guidanceClass : GuidanceClass
  severity : GuidanceSeverity
  confidence : String
  state : GuidanceState
  title : String
  detail : String
  repair : List String
  source : String
  artifactRef : String := ""

/-- The modes of an analysis. -/
inductive AnalysisMode where
  | terminal
  | accepted
  | deferred
  deriving DecidableEq

/-- The text of a mode. -/
def AnalysisMode.value : AnalysisMode → String
  | .terminal => "terminal"
  | .accepted => "accepted"
  | .deferred => "deferred"

/-- `AlignmentGuidanceRequest`: the field the classifier reads. -/
structure AlignmentGuidanceRequest where
  correlationId : String

/-- `AlignmentGuidanceResult`. -/
structure AlignmentGuidanceResult where
  success : Bool
  readiness : AlignmentReadiness := .foreign
  items : List GuidanceItem := []
  nextBestAction : Option String := none
  verifiedCount : Nat := 0
  inferredCount : Nat := 0
  gapCount : Nat := 0
  warningCount : Nat := 0
  suggestionCount : Nat := 0
  noMutationApplied : Bool := true
  correlationId : String
  runId : Option String := none
  analysisMode : AnalysisMode
  errorClass : String := ""
  reason : String := ""
  repairGuidance : List String := []

/-- `_REPAIR_MAP` of the alignments, without its default. -/
def alignmentRepairMap : List (String × List String) :=
  [("AuthenticationError", ["Run: keyhole login", "Re-authenticate and try again."]),
    ("NotAuthenticated", ["Run: keyhole login to authenticate.",
      "Ensure your session has not expired."]),
    ("TransportUnknownError", ["Check network connectivity to the MCP boundary.",
      "Retry is safe — alignment guidance is read-only."]),
    ("RetryExhaustedError", ["The boundary is unavailable after all retry attempts.",
      "Wait and retry later."]),
    ("RuntimeUnavailableError", ["The alignment guidance service is temporarily unavailable.",
      "Try again later."]),
    ("ConnectionError", ["Cannot reach the MCP boundary.",
      "Check your MCP URL and network connection."]),
    ("RateLimitedError", ["You are being rate-limited. Wait for the Retry-After period.",
      "Reduce request frequency."]),
    ("NoAnalysisArtifact", ["No prior analysis artifact found for this repo.",
      "Run keyhole ingest . to generate an analysis first.",
      "Or provide an explicit --analysis-id."]),
    ("MalformedServerResponse", ["The server returned an unexpected response shape.",
      "Update keyhole CLI to ensure contract compatibility.",
      "File an issue if the problem persists."]),
    ("CorruptedSavedArtifact", ["A saved guidance artifact appears corrupt or incomplete.",
      "Rerun: keyhole ingest . to regenerate analysis."]),
    ("UnsupportedSchemaVersion", ["The server returned an unsupported guidance schema version.",
      "Update keyhole CLI: pip install --upgrade keyhole-cli"]),
    ("MissingRepoContext", ["Repo context is required but was not found.",
      "Run: keyhole ingest . to establish context first."]),
    ("RenderFailure", ["Guidance rendering encountered an error.",
      "Check that your guidance artifact is not empty.",
      "Rerun with --shadow for a fresh advisory pass."]),
    ("AcceptedDeferredNotReady", ["Guidance analysis was accepted but is not yet complete.",
      "Use: keyhole runs status <run-id> to check progress."]),
    ("ServerRejection", ["The alignment boundary rejected the request.",
      "Check the error reason for details.",
      "Try: keyhole ingest --shadow . for a low-risk exploratory pass."])]

/-- `map_alignment_repair`. -/
def mapAlignmentRepair (errorClass : String) : List String :=
  repairEntry alignmentRepairMap ["Rerun: keyhole ingest . to regenerate analysis.",
    "Check your credentials: keyhole login",
    "Use --shadow mode for a safe advisory pass."] errorClass

/-- `data.get("run_id") or data.get("analysis_id")`. -/
def runIdField (data : Dict) : Json := orElse (data.get "run_id") (data.get "analysis_id")

/-- The raw items of an answer. -/
def rawItems (data : Dict) : Json :=
  orElse (data.get "guidance_items") (orElse (data.get "items") (.arr []))

/-- The item made of a dictionary that is none. -/
def fallbackItem (d : Dict) : Except Raised GuidanceItem := do
  let id ← textField (d.getOr "id" (.str "unknown"))
  let title ← textField (d.getOr "title" (.str "Unknown guidance item"))
  let detail ← textField (d.getOr "detail" (.str ""))
  let repair ← textList (d.getOr "repair" (.arr []))
  let source ← textField (d.getOr "source" (.str "server"))
  return {
    id
    guidanceClass := .warning
    severity := .low
    confidence := "0.5"
    state := .inferred
    title
    detail
    repair
    source }

/-- `_derive_readiness`. -/
def deriveReadiness (items : List GuidanceItem) : AlignmentReadiness :=
  let verifiedItems := items.filter fun item => item.state = .verified
  let verifiedGaps := verifiedItems.filter fun item => item.guidanceClass = .gap
  if verifiedGaps.any fun item => item.severity = .high then .blocked
  else if verifiedGaps ≠ [] then .partiallyAligned
  else if verifiedItems = [] then .foreign
  else if items.all fun item => item.guidanceClass ∈ [.warning, .suggestion, .inference] then
    .registrationReady
  else .runReady

/-- The posture an answer names, or the one of its items. -/
def readinessOf (data : Dict) (items : List GuidanceItem) : AlignmentReadiness :=
  (memberOf alignmentReadinesses (orElse (data.get "readiness")
    (orElse (data.get "alignment_posture") (.str "")))).getD (deriveReadiness items)

/-- The result of a queued analysis. -/
def queuedAlignment (data : Dict) (request : AlignmentGuidanceRequest) (serverStatus : String) :
    Except Raised AlignmentGuidanceResult := do
  let honestMode := if serverStatus = "deferred" then AnalysisMode.deferred else .accepted
  let runId ← optionalText (runIdField data)
  return {
    success := true
    nextBestAction := some ("Analysis " ++ honestMode.value ++ " (run_id="
      ++ pyStr (runIdField data) ++ "). Use keyhole runs status to check completion.")
    correlationId := request.correlationId
    runId
    analysisMode := honestMode }

/-- The class of a server error: only a text has repair guidance, and a list or a dictionary
    is no key. -/
def errorClassField : Json → Except Raised String
  | .arr _ | .obj _ => .error "TypeError"
  | v => textField v

/-- The result of a server error. -/
def rejectedAlignment (data : Dict) (statusCode : Nat) (request : AlignmentGuidanceRequest) :
    Except Raised AlignmentGuidanceResult := do
  let errorClass ← errorClassField (data.getOr "error_class" (.str "ServerRejection"))
  let reason ← textField (orElse (data.get "reason")
    (orElse (data.get "detail") (.str ("HTTP " ++ toString statusCode))))
  return {
    success := false
    correlationId := request.correlationId
    errorClass
    reason
    repairGuidance := mapAlignmentRepair errorClass
    analysisMode := .terminal }

/-- `_handle_transport_exception` of an alignment. -/
def failedAlignment (failure : TransportFailure) (request : AlignmentGuidanceRequest) :
    AlignmentGuidanceResult where
  success := false
  correlationId := request.correlationId
  errorClass := failure.errorClass
  reason := failure.text
  repairGuidance := mapAlignmentRepair failure.errorClass
  analysisMode := .terminal

section Alignment

-- the validation of a confidence, and the comparison of two of them
variable (confidenceField : Json → Except Raised String)
variable (compareConfidence : String → String → Option Ordering)

/-- `sort_key()` of one item is less than that of the other. -/
def GuidanceItem.before (a b : GuidanceItem) : Bool :=
  if a.guidanceClass ≠ b.guidanceClass then a.guidanceClass.ctorIdx < b.guidanceClass.ctorIdx
  else if a.state ≠ b.state then a.state.ctorIdx < b.state.ctorIdx
  else if a.severity ≠ b.severity then a.severity.ctorIdx < b.severity.ctorIdx
  else match compareConfidence a.confidence b.confidence with
    | some .eq => a.id < b.id
    -- the key has the negated confidence
    | some .gt => true
    | some .lt | none => false

/-- `_pick_next_action`. -/
def pickNextAction (items : List GuidanceItem) : Option String :=
  ((items.mergeSort fun a b => !(b.before compareConfidence a)).find? fun item =>
    item.repair ≠ []).bind fun item => item.repair.head?

/-- The confidence of an item; the default is not validated. -/
def itemConfidence (d : Dict) : Except Raised String :=
  if d.has "confidence" = true then confidenceField (d.get "confidence") else .ok "1.0"

/-- `GuidanceItem.model_validate`: the class may be given by its alias or by its name. -/
def validateItem (d : Dict) : Except Raised GuidanceItem := do
  let id ← textField (d.get "id")
  let guidanceClass ← memberField guidanceClasses
    (if d.has "class" = true then d.get "class" else d.get "guidance_class")
  let severity ← memberField guidanceSeverities (d.getOr "severity" (.str "medium"))
  let confidence ← itemConfidence confidenceField d
  let state ← memberField guidanceStates (d.getOr "state" (.str "verified"))
  let title ← textField (d.get "title")
  let detail ← textField (d.getOr "detail" (.str ""))
  let repair ← textList (d.getOr "repair" (.arr []))
  let source ← textField (d.getOr "source" (.str ""))
  let artifactRef ← textField (d.getOr "artifact_ref" (.str ""))
  return {
    id, guidanceClass, severity, confidence, state, title, detail, repair, source, artifactRef }

/-- `_parse_item`. -/
def parseItem (d : Dict) : Except Raised GuidanceItem :=
  match validateItem confidenceField d with
  | .ok item => .ok item
  | .error _ => fallbackItem d

/-- The comprehension over the raw items. -/
def parseItems : List Json → Except Raised (List GuidanceItem)
  | [] => .ok []
  | .obj d :: rest => do
      let item ← parseItem confidenceField d
      let items ← parseItems rest
      return item :: items
  | _ :: rest => parseItems rest

/-- What is iterated: the characters of a text and the keys of a dictionary are no
    dictionaries. -/
def parseGuidance : Json → Except Raised (List GuidanceItem)
  | .arr items => parseItems confidenceField items
  | .str _ | .obj _ => .ok []
  | .null | .bool _ | .int _ | .float _ => .error "TypeError"

/-- The action an answer names, or the first repair step of its items. -/
def nextActionField (data : Dict) (items : List GuidanceItem) : Json :=
  orElse (data.get "next_best_action") (match pickNextAction compareConfidence items with
    | some step => .str step
    | none => .null)

/-- The result of an analysis that came to its end. -/
def terminalAlignment (data : Dict) (request : AlignmentGuidanceRequest) :
    Except Raised AlignmentGuidanceResult := do
  let items ← parseGuidance confidenceField (rawItems data)
  let nextBestAction ← optionalText (nextActionField compareConfidence data items)
  let runId ← optionalText (runIdField data)
  return {
    success := true
    readiness := readinessOf data items
    items
    nextBestAction
    verifiedCount := (items.filter fun item => item.state = .verified).length
    inferredCount := (items.filter fun item => item.state = .inferred).length
    gapCount := (items.filter fun item => item.guidanceClass = .gap).length
    warningCount := (items.filter fun item => item.guidanceClass = .warning).length
    suggestionCount := (items.filter fun item => item.guidanceClass = .suggestion).length
    correlationId := request.correlationId
    runId
    analysisMode := .terminal }

/-- `_classify_outcome` of an alignment, by the lower-case status. -/
def alignmentByWord (data : Dict) (statusCode : Nat) (request : AlignmentGuidanceRequest)
    (serverStatus : String) : Except Raised AlignmentGuidanceResult :=
  if statusCode = 202 ∨ serverStatus ∈ ["accepted", "pending", "deferred"] then
    queuedAlignment data request serverStatus
  else if 400 ≤ statusCode then rejectedAlignment data statusCode request
  else terminalAlignment confidenceField compareConfidence data request

/-- `_classify_outcome` of an alignment. -/
def classifyAlignment (data : Dict) (statusCode : Nat) (request : AlignmentGuidanceRequest) :
    Except Raised AlignmentGuidanceResult := do
  let serverStatus ← lowered (data.getOr "status" (.str ""))
  alignmentByWord confidenceField compareConfidence data statusCode request serverStatus

/-- `submit_alignment`. -/
def submitAlignment (executed : Executed) (request : AlignmentGuidanceRequest) :
    Except Raised AlignmentGuidanceResult :=
  match executed with
  | .error failure => .ok (failedAlignment failure request)
  | .ok result =>
      match result.data with
      | .obj data =>
          classifyAlignment confidenceField compareConfidence data result.statusCode request
      | _ => .error "AttributeError"

end Alignment

end KeyholeSubmitters
