import Keyhole.CapabilityResolution

/-!
# From an ingestion to a registration

`keyhole ingest` leaves the proof of a run in a folder named after its correlation id.
`keyhole repo register --from-ingest` looks for the proof under the id it is given, which is to
be that correlation id or the ingestion id the server assigned.  Writer and reader flatten an id
to a file name, and the readiness check does not ask whether a proof was found.

* `emitIngestionProof`, `loadIngestionReference`: the writer and the reader;
* `assessReadiness`, `runRepoRegister`: what is made of a reference;
* `Right`: what a step promises, `Fine`: the steps that keep to it;
* `right_of_run`: in every run of such steps each of them does. -/

namespace KeyholeHandover

open KeyholeJson KeyholeDispatch
open KeyholeCapability (textField textItems textList boolField textField_eq_ok)
open ExceptLoops (Returns)

/-! ## Files -/

/-- What is in a file. -/
inductive FileContent where
  | json (v : Json)
  /-- no JSON text -/
  | malformed
  /-- reading it is an `OSError` -/
  | unreadable
  /-- reading it raises anything else, such as a `UnicodeDecodeError` -/
  | raising (errorClass : Raised)

/-- The files of a directory. -/
abbrev Files := List (String × FileContent)

/-- The directories a name may lead to from the ingest folder. -/
inductive Location where
  /-- the state directory itself -/
  | state
  /-- the ingest folder -/
  | ingest
  /-- a folder in it -/
  | record (name : String)
  deriving DecidableEq

/-- `state_dir / "ingest" / name`, for a name without a slash. -/
def locate (name : String) : Location :=
  if name = ".." then .state else if name = "." then .ingest else .record name

/-- The directories that are there, with their files. -/
abbrev Store := Location → Option Files

/-- The directory at a location: `ingest/..` is one only if `ingest` is. -/
def dirAt (store : Store) (loc : Location) : Option Files :=
  match store .ingest with
  | some _ => store loc
  | none => none

/-- `path.write_text`. -/
def writeFile (files : Files) (name : String) (content : FileContent) : Files :=
  (name, content) :: files.filter fun file => file.1 != name

/-- `mkdir(exist_ok=True)`. -/
def ensureDir (store : Store) (loc : Location) : Store :=
  Function.update store loc (some ((store loc).getD []))

/-- `mkdir(parents=True, exist_ok=True)`. -/
def mkdirs (store : Store) (loc : Location) : Store :=
  ensureDir (ensureDir (ensureDir store .state) .ingest) loc

/-! ## Names -/

section Names

-- `str.isalnum` of one character
variable (isAlnum : Char → Bool)

/-- The replacement of one character. -/
def safeChar (c : Char) : Char := if isAlnum c || ['-', '_', '.'].contains c then c else '_'

/-- The name the reader flattens an id to. -/
def safeId (id : String) : String := String.ofList (id.toList.map (safeChar isAlnum))

/-- `_safe_dirname`. -/
def safeDirname (value : String) : String :=
  if safeId isAlnum value = "" then "unknown" else safeId isAlnum value

end Names

/-! ## The proof of an ingestion -/

/-- `CompatibilityPosture`. -/
inductive CompatibilityPosture where
  | foreign
  | partiallyAligned
  | keyholeReady
  deriving DecidableEq

/-- The value of a posture. -/
def CompatibilityPosture.value : CompatibilityPosture → String
  | .foreign => "foreign"
  | .partiallyAligned => "partially_aligned"
  | .keyholeReady => "keyhole_ready"

/-- A run of `keyhole ingest` that was submitted: its package, its outcome, and how far the
    emission of its proof came before an `OSError`. -/
structure IngestRun where
  correlationId : String
  repoIdentity : String
  languages : List String
  frameworks : List String
  totalIncluded : Nat
  shadow : Bool
  gapId : String
  repoRemote : String
  commitSha : String
  identityFingerprint : String
  timestamp : String
  manifest : Dict
  status : String
  compatibility : CompatibilityPosture
  httpStatus : Nat
  /-- `""` if the server assigned none -/
  ingestionId : String
  graphSummary : Option Dict
  inferredCapabilities : List Dict
  warnings : List String
  suggestedActions : List String
  errorClass : String
  reason : String
  repairGuidance : List String
  /-- the calls that were made: `mkdir`, then one for each file -/
  completed : Nat

/-- A list of texts. -/
def texts (items : List String) : Json := .arr (items.map .str)

/-- The summary of the package. -/
def IngestRun.summaryDict (run : IngestRun) : Dict :=
  [("repo_identity", .str run.repoIdentity), ("languages", texts run.languages),
    ("frameworks", texts run.frameworks), ("total_included", .int run.totalIncluded),
    ("shadow", .bool run.shadow), ("correlation_id", .str run.correlationId),
    ("gap_id", .str run.gapId), ("repo_remote", .str run.repoRemote),
    ("commit_sha", .str run.commitSha)]

/-- `IngestionRequest.to_proof_dict`. -/
def IngestRun.requestDict (run : IngestRun) : Dict :=
  [("package_summary", .obj run.summaryDict),
    ("identity_fingerprint", .str run.identityFingerprint), ("timestamp", .str run.timestamp)]

/-- An entry that is there unless its text is empty. -/
def textEntry (key text : String) : Dict := if text = "" then [] else [(key, .str text)]

/-- An entry that is there unless its list is empty. -/
def listEntry (key : String) (items : List Json) : Dict :=
  if items.isEmpty then [] else [(key, .arr items)]

/-- The entries of an outcome that are there only if they say something. -/
def IngestRun.details (run : IngestRun) : Dict :=
  (match run.graphSummary with
    | some summary => [("graph_summary", .obj summary)]
    | none => [])
  ++ (listEntry "inferred_capabilities" (run.inferredCapabilities.map .obj)
  ++ (listEntry "warnings" (run.warnings.map .str)
  ++ (listEntry "suggested_actions" (run.suggestedActions.map .str)
  ++ (textEntry "error_class" run.errorClass
  ++ (textEntry "reason" run.reason
  ++ listEntry "repair_guidance" (run.repairGuidance.map .str))))))

/-- `IngestionOutcome.to_proof_dict`. -/
def IngestRun.outcomeDict (run : IngestRun) : Dict :=
  [("status", .str run.status), ("repo_identity", .str run.repoIdentity),
    ("shadow", .bool run.shadow), ("correlation_id", .str run.correlationId),
    ("compatibility", .str run.compatibility.value), ("http_status", .int run.httpStatus)]
  ++ (textEntry "ingestion_id" run.ingestionId ++ run.details)

/-- The files of a proof that a later command reads, and the manifest between them. -/
def IngestRun.proofFiles (run : IngestRun) : Files :=
  [("request.json", .json (.obj run.requestDict)),
    ("package_manifest.json", .json (.obj run.manifest)),
    ("response.json", .json (.obj run.outcomeDict))]

/-- The ids a user may know a run by. -/
def IngestRun.ids (run : IngestRun) : List String :=
  run.correlationId :: (if run.ingestionId = "" then [] else [run.ingestionId])

/-- `IngestionReference`. -/
structure IngestionReference where
  ingestId : String
  compatibilityPosture : String
  repoIdentity : String
  languages : List String
  frameworks : List String
  hasKeyholeScaffold : Bool
  ingestionTimestamp : String

/-- `json.loads` of a file, `{}` for one that is missing or cannot be parsed. -/
def readJson : Option FileContent → Except Raised Json
  | some (.json v) => .ok v
  | some (.raising errorClass) => .error errorClass
  | some .malformed | some .unreadable | none => .ok (.obj [])

/-- The dictionary whose `get` is called. -/
def dictOf : Json → Except Raised Dict
  | .obj d => .ok d
  | _ => .error "AttributeError"

/-- The reference read off the two documents. -/
def referenceOf (response request : Json) (id : String) : Except Raised IngestionReference := do
  let request ← dictOf request
  let summary ← dictOf (request.getOr "package_summary" (.obj request))
  let response ← dictOf response
  let ingestId ← textField (orElse (response.getOr "ingestion_id" (.str id)) (.str id))
  let compatibilityPosture ← textField (response.getOr "compatibility" (.str "foreign"))
  let repoIdentity ← textField (summary.getOr "repo_identity" (.str ""))
  let languages ← textList (summary.getOr "languages" (.arr []))
  let frameworks ← textList (summary.getOr "frameworks" (.arr []))
  let hasKeyholeScaffold ← boolField (summary.getOr "has_keyhole_scaffold" (.bool false))
  let ingestionTimestamp ← textField
    (response.getOr "timestamp" (request.getOr "timestamp" (.str "")))
  return ⟨ingestId, compatibilityPosture, repoIdentity, languages, frameworks,
    hasKeyholeScaffold, ingestionTimestamp⟩

/-- The reference read off the files of a directory. -/
def loadFrom (files : Files) (id : String) : Except Raised IngestionReference := do
  let response ← readJson (files.lookup "response.json")
  let request ← readJson (files.lookup "request.json")
  referenceOf response request id

section Handover

variable (isAlnum : Char → Bool)

/-- The folder of a run. -/
def IngestRun.dir (run : IngestRun) : String := safeDirname isAlnum run.correlationId

/-- `emit_ingestion_proof`, as far as it came. -/
def emitIngestionProof (store : Store) (run : IngestRun) : Store :=
  let loc := locate (run.dir isAlnum)
  match run.completed with
  | 0 => store
  | written + 1 =>
      let store := mkdirs store loc
      Function.update store loc (some ((run.proofFiles.take written).foldl
        (fun files file => writeFile files file.1 file.2) ((store loc).getD [])))

/-- `load_ingestion_reference`. -/
def loadIngestionReference (store : Store) (id : String) :
    Except Raised (Option IngestionReference) :=
  if id = "" then .ok none
  else match dirAt store (locate (safeId isAlnum id)) with
    | none => .ok none
    | some files => (loadFrom files id).map some

/-- The directory `load_ingestion_reference` opens files in. -/
def opened (store : Store) (id : String) : Option Location :=
  if id = "" then none
  else if (dirAt store (locate (safeId isAlnum id))).isSome then some (locate (safeId isAlnum id))
  else none

end Handover

/-! ## The registration -/

/-- `RegistrationSource`. -/
inductive RegistrationSource where
  | native
  | ingestion
  deriving DecidableEq

/-- `RegistrationReadiness`. -/
inductive RegistrationReadiness where
  | nativeReady
  | ingestionReady
  | partiallyReady
  | notReady
  deriving DecidableEq

/-- The value of a source. -/
def RegistrationSource.value : RegistrationSource → String
  | .native => "native"
  | .ingestion => "ingestion"

/-- The value of a readiness. -/
def RegistrationReadiness.value : RegistrationReadiness → String
  | .nativeReady => "native_ready"
  | .ingestionReady => "ingestion_ready"
  | .partiallyReady => "partially_ready"
  | .notReady => "not_ready"

/-- `NativeArtifacts`. -/
structure NativeArtifacts where
  keyhole : Option Dict := none
  governanceContract : Option Dict := none
  capabilityPassport : Option Dict := none
  dependencies : Option Dict := none

/-- `artifact_count`. -/
def NativeArtifacts.artifactCount (a : NativeArtifacts) : Nat :=
  ([a.keyhole, a.governanceContract, a.capabilityPassport, a.dependencies].filter
    Option.isSome).length

/-- An artifact, `None` if it was not found. -/
def artifact : Option Dict → Json
  | some d => .obj d
  | none => .null

/-- `NativeArtifacts.to_snapshot`. -/
def NativeArtifacts.toSnapshot (a : NativeArtifacts) : Dict :=
  [("keyhole", artifact a.keyhole), ("governance_contract", artifact a.governanceContract),
    ("capability_passport", artifact a.capabilityPassport),
    ("dependencies", artifact a.dependencies), ("artifact_count", .int a.artifactCount)]

/-- `IngestionReference.to_snapshot`. -/
def IngestionReference.toSnapshot (ref : IngestionReference) : Dict :=
  [("ingest_id", .str ref.ingestId), ("compatibility_posture", .str ref.compatibilityPosture),
    ("repo_identity", .str ref.repoIdentity), ("languages", texts ref.languages),
    ("frameworks", texts ref.frameworks), ("has_keyhole_scaffold", .bool ref.hasKeyholeScaffold),
    ("ingestion_timestamp", .str ref.ingestionTimestamp)]

/-- `ReadinessCheck`. -/
structure ReadinessCheck where
  readiness : RegistrationReadiness
  source : RegistrationSource
  blockers : List String := []
  warnings : List String := []

/-- `can_proceed`. -/
def ReadinessCheck.canProceed (check : ReadinessCheck) : Bool := check.blockers.isEmpty

/-- `preflight_status`. -/
def ReadinessCheck.preflightStatus (check : ReadinessCheck) : String :=
  if check.canProceed then "PASS" else "FAIL"

/-- `_assess_native_readiness`. -/
def assessNativeReadiness (blockers : List String) (native : NativeArtifacts) : ReadinessCheck :=
  let warnings :=
    (if native.governanceContract.isSome then [] else
      ["governance_contract.yaml not found. Registration may proceed "
        ++ "but the server may request it later."])
    ++ (if native.capabilityPassport.isSome then [] else
      ["capability_passport.yaml not found. "
        ++ "Generate or repair the capability passport for full alignment."])
  if blockers ≠ [] then ⟨.notReady, .native, blockers, warnings⟩
  else if 3 ≤ native.artifactCount then ⟨.nativeReady, .native, [], warnings⟩
  else ⟨.partiallyReady, .native, [], warnings⟩

/-- The warning about a foreign repository. -/
def postureWarnings : Option IngestionReference → List String
  | some ref =>
      if ref.compatibilityPosture = "foreign" then
        ["Compatibility posture is 'foreign'. "
          ++ "Registration may be accepted but alignment guidance is recommended."]
      else []
  | none => []

/-- `_assess_ingestion_readiness`. -/
def assessIngestionReadiness (blockers : List String) (ref : Option IngestionReference)
    (fromIngest : String) : ReadinessCheck :=
  if ref.isNone ∧ fromIngest = "" then
    ⟨.notReady, .ingestion, blockers ++
      ["Ingestion-backed registration requires an ingestion reference. "
        ++ "Run: keyhole ingest . — then --from-ingest <id>."], []⟩
  else if blockers ≠ [] then ⟨.notReady, .ingestion, blockers, postureWarnings ref⟩
  else ⟨.ingestionReady, .ingestion, [], postureWarnings ref⟩

/-- A call of `keyhole repo register`, with what it finds outside the proofs. -/
structure RegisterCall where
  fromIngest : String
  shadow : Bool
  /-- the resolved path, its last component, and whether it is a directory -/
  path : String
  repoName : String
  isDir : Bool
  hasAuth : Bool
  /-- what `load_native_artifacts` comes to -/
  native : Except Raised NativeArtifacts
  correlationId : String
  timestamp : String
  cliVersion : String

/-- The blockers of the required baseline. -/
def baselineBlockers (call : RegisterCall) : List String :=
  (if call.hasAuth then [] else ["Not authenticated. Run: keyhole login"])
  ++ (if call.isDir then [] else
    ["Repository path does not exist or is not a directory: " ++ call.path])

/-- `assess_readiness`. -/
def assessReadiness (call : RegisterCall) (native : NativeArtifacts)
    (ref : Option IngestionReference) : ReadinessCheck :=
  let blockers := baselineBlockers call
  if call.fromIngest ≠ "" ∨ ref.isSome then assessIngestionReadiness blockers ref call.fromIngest
  else if native.keyhole.isSome then assessNativeReadiness blockers native
  else if blockers = [] then
    ⟨.notReady, .native, ["No Keyhole scaffold and no ingestion reference found. "
      ++ "Run: keyhole ingest . — then: keyhole repo register --from-ingest <id>"], []⟩
  else ⟨.notReady, .native, blockers, []⟩

/-- `RegistrationPayload`. -/
structure RegistrationPayload where
  repoName : String
  pathDigest : String
  repoDigest : String
  registrationSource : RegistrationSource
  nativeArtifacts : Option NativeArtifacts
  ingestion : Option IngestionReference
  preflightStatus : String
  readiness : RegistrationReadiness
  shadow : Bool
  cliVersion : String
  command : String
  correlationId : String
  timestamp : String

/-- `RegistrationPayload.to_payload`. -/
def RegistrationPayload.toPayload (p : RegistrationPayload) : Dict :=
  [("repo", .obj [("name", .str p.repoName), ("path_digest", .str p.pathDigest),
      ("repo_digest", .str p.repoDigest),
      ("registration_source", .str p.registrationSource.value)]),
    ("native_artifacts", artifact (p.nativeArtifacts.map NativeArtifacts.toSnapshot)),
    ("ingestion", artifact (p.ingestion.map IngestionReference.toSnapshot)),
    ("preflight", .obj [("status", .str p.preflightStatus),
      ("readiness", .str p.readiness.value)]),
    ("shadow", .bool p.shadow),
    ("client", .obj [("command", .str p.command), ("cli_version", .str p.cliVersion)]),
    ("correlation_id", .str p.correlationId), ("timestamp", .str p.timestamp)]

/-- What `keyhole repo register` comes to, up to the request. -/
inductive RegisterResult where
  | invalidPath
  | blocked (check : ReadinessCheck)
  | sent (payload : RegistrationPayload)

section Handover

variable (isAlnum : Char → Bool)
-- the hexadecimal SHA-256 of a text
variable (sha256 : String → String)

/-- `build_registration_payload`. -/
def buildRegistrationPayload (call : RegisterCall) (check : ReadinessCheck)
    (native : NativeArtifacts) (ref : Option IngestionReference) : RegistrationPayload :=
  let extra := (ref.map fun found => found.ingestId).toList
    ++ (if native.keyhole.isSome then ["native"] else [])
  { repoName := call.repoName
    pathDigest := "sha256:" ++ sha256 call.path
    repoDigest := "sha256:" ++ sha256 (call.repoName ++ ":" ++ check.source.value ++ ":"
      ++ join ":" extra)
    registrationSource := check.source
    nativeArtifacts := if check.source = .native then some native else none
    ingestion := if check.source = .ingestion then ref else none
    preflightStatus := check.preflightStatus
    readiness := check.readiness
    shadow := call.shadow
    cliVersion := call.cliVersion
    command := "keyhole repo register"
    correlationId := call.correlationId
    timestamp := call.timestamp }

/-- The reference `run_repo_register` works with. -/
def ingestionRef (store : Store) (call : RegisterCall) :
    Except Raised (Option IngestionReference) :=
  if call.fromIngest = "" then .ok none
  else loadIngestionReference isAlnum store call.fromIngest

/-- `run_repo_register`, up to the request. -/
def runRepoRegister (store : Store) (call : RegisterCall) : Except Raised RegisterResult := do
  if call.isDir = false then return .invalidPath
  else do
    let native ← call.native
    let ref ← ingestionRef isAlnum store call
    let check := assessReadiness call native ref
    if check.canProceed then
      return .sent (buildRegistrationPayload sha256 call check native ref)
    else return .blocked check

end Handover

/-! ## Runs -/

/-- A step of a run: an ingestion, another content of a proof file, a lookup, a registration. -/
inductive Step where
  | ingest (run : IngestRun)
  | edit (dir file : String) (content : FileContent)
  | lookup (id : String)
  | register (call : RegisterCall)

/-- The files, the ingestions so far, and the folders that were edited. -/
structure State where
  store : Store
  runs : List IngestRun := []
  edited : List String := []

/-- No ingestion yet; what is in the state directory does not matter. -/
def Start (σ : State) : Prop :=
  (∀ name, σ.store (.record name) = none) ∧ σ.runs = [] ∧ σ.edited = []

/-- Another content for a file that is there. -/
def editFile (store : Store) (dir file : String) (content : FileContent) : Store :=
  match store (.record dir) with
  | some files =>
      if (files.lookup file).isSome then
        Function.update store (.record dir) (some (writeFile files file content))
      else store
  | none => store

section Handover

variable (isAlnum : Char → Bool) (sha256 : String → String)

/-- The state after a step. -/
def State.after (σ : State) : Step → State
  | .ingest run =>
      { store := emitIngestionProof isAlnum σ.store run
        runs := σ.runs ++ [run]
        edited := σ.edited.filter fun dir => dir ≠ run.dir isAlnum }
  | .edit dir file content =>
      { σ with store := editFile σ.store dir file content, edited := dir :: σ.edited }
  | .lookup _ | .register _ => σ

/-- What a lookup promises. -/
structure LookupRight (σ : State) (id : String) : Prop where
  /-- it does not raise -/
  returns : ∃ found, loadIngestionReference isAlnum σ.store id = .ok found
  /-- it reads inside the ingest folder -/
  inside : opened isAlnum σ.store id ≠ some .state
  /-- an id of a run whose proof nobody touched finds that run -/
  found : ∀ run ∈ σ.runs, run.dir isAlnum ∉ σ.edited → id ∈ run.ids → ∃ ref,
    loadIngestionReference isAlnum σ.store id = .ok (some ref) ∧
    ref.ingestId = (if run.ingestionId = "" then id else run.ingestionId) ∧
    ref.repoIdentity = run.repoIdentity ∧ ref.compatibilityPosture = run.compatibility.value
  /-- an id of none of them finds nothing -/
  missing : (∀ run ∈ σ.runs, id ∉ run.ids) → loadIngestionReference isAlnum σ.store id = .ok none

/-- What a registration promises. -/
structure RegisterRight (σ : State) (call : RegisterCall) : Prop where
  /-- it is sent only with the reference of a run it asks for -/
  backed : call.fromIngest ≠ "" → ∀ payload,
    runRepoRegister isAlnum sha256 σ.store call = .ok (.sent payload) →
      (∃ run ∈ σ.runs, call.fromIngest ∈ run.ids) ∧ ∃ ref,
      loadIngestionReference isAlnum σ.store call.fromIngest = .ok (some ref) ∧
      payload.ingestion = some ref
  /-- it is never sent for an ingestion without one -/
  nonempty : ∀ payload, runRepoRegister isAlnum sha256 σ.store call = .ok (.sent payload) →
    payload.registrationSource = .ingestion → payload.ingestion ≠ none

/-- What a step promises in a state. -/
def Right (σ : State) : Step → Prop
  | .lookup id => LookupRight isAlnum σ id
  | .register call => RegisterRight isAlnum sha256 σ call
  | .ingest _ | .edit _ _ _ => True

end Handover

/-! ## The steps that keep to it -/

/-- What may be in `request.json`: nothing that can be parsed, or a proof. -/
def ReadableRequest : Option FileContent → Prop
  | some (.json v) => ∃ d s, v = .obj d ∧ Dict.getOr d "package_summary" (.obj d) = .obj s ∧
      Returns (textField (Dict.getOr s "repo_identity" (.str ""))) ∧
      Returns (textList (Dict.getOr s "languages" (.arr []))) ∧
      Returns (textList (Dict.getOr s "frameworks" (.arr []))) ∧
      Returns (boolField (Dict.getOr s "has_keyhole_scaffold" (.bool false))) ∧
      Returns (textField (Dict.getOr d "timestamp" (.str "")))
  | some (.raising _) => False
  | some .malformed | some .unreadable | none => True

/-- What may be in `response.json`. -/
def ReadableResponse : Option FileContent → Prop
  | some (.json v) => ∃ d, v = .obj d ∧
      (∀ id, Returns (textField (orElse (Dict.getOr d "ingestion_id" (.str id)) (.str id)))) ∧
      Returns (textField (Dict.getOr d "compatibility" (.str "foreign"))) ∧
      ∀ text, Returns (textField (Dict.getOr d "timestamp" (.str text)))
  | some (.raising _) => False
  | some .malformed | some .unreadable | none => True

section Handover

variable (isAlnum : Char → Bool)

/-- Two runs a registration cannot tell apart. -/
structure SameAnswer (a b : IngestRun) : Prop where
  ingestionId : a.ingestionId = b.ingestionId
  repoIdentity : a.repoIdentity = b.repoIdentity
  compatibility : a.compatibility = b.compatibility

/-- An ingestion whose proof both its ids lead to, and no other run's. -/
structure FineRun (earlier : List IngestRun) (run : IngestRun) : Prop where
  /-- the proof was written -/
  written : 4 ≤ run.completed
  /-- there is a correlation id, and it names a folder -/
  correlated : run.correlationId ≠ ""
  folder : run.dir isAlnum ≠ "." ∧ run.dir isAlnum ≠ ".."
  /-- the ingestion id, if there is one, is flattened to the same name -/
  assigned : run.ingestionId ≠ "" → safeId isAlnum run.ingestionId = run.dir isAlnum
  /-- an earlier run with the folder had the same answer -/
  fresh : ∀ old ∈ earlier, old.dir isAlnum = run.dir isAlnum → SameAnswer old run

/-- The steps that do what they promise. -/
def Fine (σ : State) : Step → Prop
  | .ingest run => FineRun isAlnum σ.runs run
  | .edit dir file content => (∀ run ∈ σ.runs, run.dir isAlnum ≠ dir) ∨
      ((file = "request.json" → ReadableRequest (some content)) ∧
      (file = "response.json" → ReadableResponse (some content)))
  | .lookup id => (∃ run ∈ σ.runs, id ∈ run.ids) ∨
      ((safeId isAlnum id ∈ [".", ".."] → σ.store .ingest = none) ∧
      ∀ run ∈ σ.runs, run.dir isAlnum ≠ safeId isAlnum id)
  | .register call => call.fromIngest = "" ∨ call.hasAuth = false ∨ call.isDir = false ∨
      (∃ errorClass, call.native = .error errorClass) ∨ ∃ run ∈ σ.runs, call.fromIngest ∈ run.ids

/-- The states of the runs whose steps are all fine. -/
inductive Run : State → Prop
  | start {σ : State} (h : Start σ) : Run σ
  | step {σ : State} {s : Step} (hσ : Run σ) (hs : Fine isAlnum σ s) : Run (σ.after isAlnum s)

/-- What holds in all of them. -/
structure Sound (σ : State) : Prop where
  /-- the ids of a run lead to its folder -/
  named : ∀ run ∈ σ.runs, ∀ id ∈ run.ids, id ≠ "" ∧
    locate (safeId isAlnum id) = .record (run.dir isAlnum)
  alone : ∀ a ∈ σ.runs, ∀ b ∈ σ.runs, a.dir isAlnum = b.dir isAlnum → SameAnswer a b
  /-- a run has its folder, in the ingest folder -/
  kept : ∀ run ∈ σ.runs, σ.store .ingest ≠ none ∧
    ∃ files, σ.store (.record (run.dir isAlnum)) = some files
  /-- there are no other folders -/
  only : ∀ name files, σ.store (.record name) = some files →
    ∃ run ∈ σ.runs, run.dir isAlnum = name
  /-- a folder nobody touched has the proof of one of its runs -/
  untouched : ∀ name files, σ.store (.record name) = some files → name ∉ σ.edited →
    ∃ run ∈ σ.runs, run.dir isAlnum = name ∧
      files.lookup "request.json" = some (.json (.obj run.requestDict)) ∧
      files.lookup "response.json" = some (.json (.obj run.outcomeDict))
  /-- whatever is in them can be read -/
  readable : ∀ name files, σ.store (.record name) = some files →
    ReadableRequest (files.lookup "request.json") ∧
    ReadableResponse (files.lookup "response.json")

end Handover

/-! ## Reading a proof -/

/-- The reference is what the fields say. -/
theorem referenceOf_ok {r d s : Dict} {id : String} (ref : IngestionReference)
    (hsummary : Dict.getOr d "package_summary" (.obj d) = .obj s)
    (hid : textField (orElse (Dict.getOr r "ingestion_id" (.str id)) (.str id))
      = .ok ref.ingestId)
    (hposture : textField (Dict.getOr r "compatibility" (.str "foreign"))
      = .ok ref.compatibilityPosture)
    (hrepo : textField (Dict.getOr s "repo_identity" (.str "")) = .ok ref.repoIdentity)
    (hlanguages : textList (Dict.getOr s "languages" (.arr [])) = .ok ref.languages)
    (hframeworks : textList (Dict.getOr s "frameworks" (.arr [])) = .ok ref.frameworks)
    (hscaffold : boolField (Dict.getOr s "has_keyhole_scaffold" (.bool false))
      = .ok ref.hasKeyholeScaffold)
    (htimestamp : textField (Dict.getOr r "timestamp" (Dict.getOr d "timestamp" (.str "")))
      = .ok ref.ingestionTimestamp) :
    referenceOf (.obj r) (.obj d) id = .ok ref := by
  rw [referenceOf]
  simp only [dictOf, hsummary, hid, hposture, hrepo, hlanguages, hframeworks, hscaffold,
    htimestamp, bind, Except.bind, pure, Except.pure]

/-- What can be read of a request is a dictionary whose fields pass. -/
theorem readJson_request {content : Option FileContent} (h : ReadableRequest content) :
    ∃ d s, readJson content = .ok (.obj d) ∧
      Dict.getOr d "package_summary" (.obj d) = .obj s ∧
      Returns (textField (Dict.getOr s "repo_identity" (.str ""))) ∧
      Returns (textList (Dict.getOr s "languages" (.arr []))) ∧
      Returns (textList (Dict.getOr s "frameworks" (.arr []))) ∧
      Returns (boolField (Dict.getOr s "has_keyhole_scaffold" (.bool false))) ∧
      Returns (textField (Dict.getOr d "timestamp" (.str ""))) := by
  have hempty : readJson content = .ok (.obj []) → ∃ d s, readJson content = .ok (.obj d) ∧
      Dict.getOr d "package_summary" (.obj d) = .obj s ∧
      Returns (textField (Dict.getOr s "repo_identity" (.str ""))) ∧
      Returns (textList (Dict.getOr s "languages" (.arr []))) ∧
      Returns (textList (Dict.getOr s "frameworks" (.arr []))) ∧
      Returns (boolField (Dict.getOr s "has_keyhole_scaffold" (.bool false))) ∧
      Returns (textField (Dict.getOr d "timestamp" (.str ""))) := fun hread =>
    ⟨[], [], hread, rfl, ⟨_, rfl⟩, ⟨_, rfl⟩, ⟨_, rfl⟩, ⟨_, rfl⟩, ⟨_, rfl⟩⟩
  cases content with
  | none => exact hempty rfl
  | some found =>
    cases found with
    | malformed => exact hempty rfl
    | unreadable => exact hempty rfl
    | raising errorClass => exact h.elim
    | json v =>
      obtain ⟨d, s, rfl, hfields⟩ := h
      exact ⟨d, s, rfl, hfields⟩

/-- And so of a response. -/
theorem readJson_response {content : Option FileContent} (h : ReadableResponse content) :
    ∃ d, readJson content = .ok (.obj d) ∧
      (∀ id, Returns (textField (orElse (Dict.getOr d "ingestion_id" (.str id)) (.str id)))) ∧
      Returns (textField (Dict.getOr d "compatibility" (.str "foreign"))) ∧
      ∀ text, Returns (textField (Dict.getOr d "timestamp" (.str text))) := by
  have hempty : readJson content = .ok (.obj []) → ∃ d, readJson content = .ok (.obj d) ∧
      (∀ id, Returns (textField (orElse (Dict.getOr d "ingestion_id" (.str id)) (.str id)))) ∧
      Returns (textField (Dict.getOr d "compatibility" (.str "foreign"))) ∧
      ∀ text, Returns (textField (Dict.getOr d "timestamp" (.str text))) := fun hread =>
    ⟨[], hread, fun id => ⟨id, by
      show textField (orElse (.str id) (.str id)) = .ok id
      rw [orElse, ite_self]
      rfl⟩, ⟨_, rfl⟩, fun text => ⟨text, rfl⟩⟩
  cases content with
  | none => exact hempty rfl
  | some found =>
    cases found with
    | malformed => exact hempty rfl
    | unreadable => exact hempty rfl
    | raising errorClass => exact h.elim
    | json v =>
      obtain ⟨d, rfl, hfields⟩ := h
      exact ⟨d, rfl, hfields⟩

/-- A readable pair of documents gives a reference. -/
theorem loadFrom_returns {files : Files} (hrequest : ReadableRequest (files.lookup "request.json"))
    (hresponse : ReadableResponse (files.lookup "response.json")) (id : String) :
    Returns (loadFrom files id) := by
  obtain ⟨d, s, hd, hsummary, ⟨repo, hrepo⟩, ⟨languages, hlanguages⟩, ⟨frameworks, hframeworks⟩,
    ⟨scaffold, hscaffold⟩, ⟨requested, hrequested⟩⟩ := readJson_request hrequest
  obtain ⟨r, hr, hids, ⟨posture, hposture⟩, htimes⟩ := readJson_response hresponse
  obtain ⟨ingestId, hid⟩ := hids id
  obtain ⟨timestamp, htimestamp⟩ := htimes requested
  rw [← textField_eq_ok.mp hrequested] at htimestamp
  refine ⟨⟨ingestId, posture, repo, languages, frameworks, scaffold, timestamp⟩, ?_⟩
  rw [loadFrom, hr, hd]
  exact referenceOf_ok _ hsummary hid hposture hrepo hlanguages hframeworks hscaffold htimestamp

theorem textList_texts (items : List String) : textList (texts items) = .ok items := by
  show textItems (items.map .str) = .ok items
  induction items with
  | nil => rfl
  | cons item rest ih =>
    rw [List.map_cons, textItems, ih]
    rfl

variable {run : IngestRun} {call : RegisterCall} {k name : String}

/-- An entry that is left out is not there. -/
theorem getOr_append_of_not_has {a b : Dict} {v : Json} (h : Dict.has a k = false) :
    Dict.getOr (a ++ b) k v = Dict.getOr b k v := by
  induction a with
  | nil => rfl
  | cons hd rest ih =>
    obtain ⟨k', w⟩ := hd
    simp only [Dict.has, List.any_cons, Bool.or_eq_false_iff, beq_eq_false_iff_ne] at h
    rw [List.cons_append, getOr_cons, if_neg (fun e => h.1 e.symm)]
    exact ih h.2

theorem getOr_textEntry_ne {key : String} (h : k ≠ key) (text : String) (rest : Dict)
    (v : Json) : Dict.getOr (textEntry key text ++ rest) k v = Dict.getOr rest k v := by
  rw [textEntry]
  by_cases ht : text = ""
  · rw [if_pos ht, List.nil_append]
  · rw [if_neg ht, List.cons_append, getOr_cons, if_neg h, List.nil_append]

theorem getOr_listEntry_ne {key : String} (h : k ≠ key) (items : List Json) (rest : Dict)
    (v : Json) : Dict.getOr (listEntry key items ++ rest) k v = Dict.getOr rest k v := by
  rw [listEntry]
  by_cases ht : items.isEmpty = true
  · rw [if_pos ht, List.nil_append]
  · rw [if_neg ht, List.cons_append, getOr_cons, if_neg h, List.nil_append]

/-- The optional entries are no identities. -/
theorem getOr_details (run : IngestRun) (hk : k ∈ ["ingestion_id", "timestamp"])
    (v : Json) : Dict.getOr run.details k v = v := by
  have hother : ∀ key ∈ ["graph_summary", "inferred_capabilities", "warnings",
      "suggested_actions", "error_class", "reason", "repair_guidance"], k ≠ key := by
    have hall : ∀ k ∈ ["ingestion_id", "timestamp"], ∀ key ∈ ["graph_summary",
        "inferred_capabilities", "warnings", "suggested_actions", "error_class", "reason",
        "repair_guidance"], k ≠ key := by decide
    exact hall k hk
  have hgraph : ∀ rest : Dict, Dict.getOr ((match run.graphSummary with
      | some summary => [("graph_summary", Json.obj summary)]
      | none => []) ++ rest) k v = Dict.getOr rest k v := by
    intro rest
    cases run.graphSummary with
    | none => rfl
    | some summary => exact if_neg (hother "graph_summary" (by decide))
  have hlast := getOr_listEntry_ne (hother "repair_guidance" (by decide))
    (run.repairGuidance.map .str) [] v
  rw [List.append_nil] at hlast
  rw [IngestRun.details, hgraph, getOr_listEntry_ne (hother _ (by decide)),
    getOr_listEntry_ne (hother _ (by decide)), getOr_listEntry_ne (hother _ (by decide)),
    getOr_textEntry_ne (hother _ (by decide)), getOr_textEntry_ne (hother _ (by decide)), hlast]
  rfl

/-- What an untouched proof says. -/
theorem loadFrom_written {files : Files}
    (hrequest : files.lookup "request.json" = some (.json (.obj run.requestDict)))
    (hresponse : files.lookup "response.json" = some (.json (.obj run.outcomeDict))) (id : String) :
    loadFrom files id = .ok ⟨if run.ingestionId = "" then id else run.ingestionId,
      run.compatibility.value, run.repoIdentity, run.languages, run.frameworks, false,
      run.timestamp⟩ := by
  have htimestamp : ∀ v, Dict.getOr run.outcomeDict "timestamp" v = v := by
    intro v
    rw [IngestRun.outcomeDict, getOr_append_of_not_has rfl, getOr_textEntry_ne (by decide),
      getOr_details run (by decide)]
  have hassigned : textField (orElse (Dict.getOr run.outcomeDict "ingestion_id" (.str id)) (.str id))
      = .ok (if run.ingestionId = "" then id else run.ingestionId) := by
    rw [IngestRun.outcomeDict, getOr_append_of_not_has rfl, textEntry]
    by_cases hnone : run.ingestionId = ""
    · rw [if_pos hnone, if_pos hnone, List.nil_append, getOr_details run (by decide), orElse,
        ite_self]
      rfl
    · have htruthy : truthy (.str run.ingestionId) = true := truthy_of_ne_empty hnone
      rw [if_neg hnone, if_neg hnone, List.cons_append, getOr_cons, if_pos rfl, orElse,
        if_pos htruthy]
      rfl
  have hlanguages : textList (Dict.getOr run.summaryDict "languages" (.arr []))
      = .ok run.languages := textList_texts run.languages
  have hframeworks : textList (Dict.getOr run.summaryDict "frameworks" (.arr []))
      = .ok run.frameworks := textList_texts run.frameworks
  have hsubmitted : textField (Dict.getOr run.outcomeDict "timestamp"
      (Dict.getOr run.requestDict "timestamp" (.str ""))) = .ok run.timestamp := by
    rw [htimestamp]
    rfl
  rw [loadFrom, hrequest, hresponse]
  exact referenceOf_ok (s := run.summaryDict) ⟨_, _, _, _, _, _, _⟩ rfl hassigned rfl rfl hlanguages
    hframeworks rfl hsubmitted

/-! ## Writing a proof -/

theorem lookup_writeFile (files : Files) (name : String) (content : FileContent) (k : String) :
    (writeFile files name content).lookup k
      = if k = name then some content else files.lookup k := by
  rw [writeFile, List.lookup_cons]
  by_cases hk : k = name
  · rw [if_pos hk, beq_iff_eq.mpr hk]
  · rw [if_neg hk, beq_eq_false_iff_ne.mpr hk]
    show List.lookup k (files.filter fun file => file.1 != name) = _
    induction files with
    | nil => rfl
    | cons file rest ih =>
      obtain ⟨key, c⟩ := file
      by_cases hkey : key = name
      · have hdrop : ¬ (key != name) = true := fun h => bne_iff_ne.mp h hkey
        have hk' : (k == key) = false := beq_eq_false_iff_ne.mpr (hkey ▸ hk)
        rw [List.filter_cons, if_neg hdrop, ih, List.lookup_cons, hk']
      · have hkeep : (key != name) = true := bne_iff_ne.mpr hkey
        rw [List.filter_cons, if_pos hkeep, List.lookup_cons, List.lookup_cons, ih]

section Handover

variable {isAlnum : Char → Bool} {sha256 : String → String} {σ : State}

theorem safeId_ne_empty {id : String} (h : id ≠ "") : safeId isAlnum id ≠ "" := by
  intro hempty
  have hlist : id.toList.map (safeChar isAlnum) = [] := by
    have hchars := congrArg String.toList hempty
    rw [safeId, String.toList_ofList] at hchars
    exact hchars
  exact h (String.toList_eq_nil_iff.mp (List.map_eq_nil_iff.mp hlist))

/-- A run with a correlation id has the folder the reader looks in. -/
theorem dir_eq_safeId (h : run.correlationId ≠ "") :
    run.dir isAlnum = safeId isAlnum run.correlationId :=
  if_neg (safeId_ne_empty h)

theorem locate_record (h : name ≠ "." ∧ name ≠ "..") :
    locate name = .record name := by
  rw [locate, if_neg h.2, if_neg h.1]

theorem mkdirs_ingest (store : Store) (loc : Location) : mkdirs store loc .ingest ≠ none := by
  intro h
  rw [mkdirs, ensureDir] at h
  by_cases hloc : Location.ingest = loc
  · rw [hloc, Function.update_self] at h
    exact nomatch h
  · rw [Function.update_of_ne hloc, ensureDir, Function.update_self] at h
    exact nomatch h

theorem mkdirs_record (store : Store) {loc : Location}
    (h : Location.record name ≠ loc) : mkdirs store loc (.record name) = store (.record name) := by
  have hingest : Location.record name ≠ .ingest := nofun
  have hstate : Location.record name ≠ .state := nofun
  rw [mkdirs, ensureDir, Function.update_of_ne h, ensureDir, Function.update_of_ne hingest,
    ensureDir, Function.update_of_ne hstate]

/-- What an emission that is not interrupted leaves. -/
theorem emit_written (store : Store) (hwritten : 4 ≤ run.completed)
    (hfolder : run.dir isAlnum ≠ "." ∧ run.dir isAlnum ≠ "..") :
    (∃ files, emitIngestionProof isAlnum store run (.record (run.dir isAlnum)) = some files ∧
      files.lookup "request.json" = some (.json (.obj run.requestDict)) ∧
      files.lookup "response.json" = some (.json (.obj run.outcomeDict))) ∧
    (∀ name, name ≠ run.dir isAlnum →
      emitIngestionProof isAlnum store run (.record name) = store (.record name)) ∧
    emitIngestionProof isAlnum store run .ingest ≠ none := by
  obtain ⟨written, hcompleted⟩ : ∃ written, run.completed = written + 1 :=
    ⟨run.completed - 1, by omega⟩
  have hall : run.proofFiles.take written = run.proofFiles := by
    refine List.take_of_length_le ?_
    show 3 ≤ written
    omega
  have hemit : emitIngestionProof isAlnum store run
      = Function.update (mkdirs store (.record (run.dir isAlnum))) (.record (run.dir isAlnum))
        (some (writeFile (writeFile (writeFile
          ((mkdirs store (.record (run.dir isAlnum)) (.record (run.dir isAlnum))).getD [])
          "request.json" (.json (.obj run.requestDict)))
          "package_manifest.json" (.json (.obj run.manifest)))
          "response.json" (.json (.obj run.outcomeDict)))) := by
    rw [emitIngestionProof, hcompleted, locate_record hfolder]
    show Function.update (mkdirs store (.record (run.dir isAlnum))) (.record (run.dir isAlnum))
      (some (List.foldl _ _ (run.proofFiles.take written))) = _
    rw [hall]
    rfl
  rw [hemit]
  refine ⟨⟨_, Function.update_self .., ?_, ?_⟩, fun name hname => ?_, ?_⟩
  · rw [lookup_writeFile, if_neg (by decide), lookup_writeFile, if_neg (by decide),
      lookup_writeFile, if_pos rfl]
  · rw [lookup_writeFile, if_pos rfl]
  · have hne : Location.record name ≠ .record (run.dir isAlnum) :=
      fun h => hname (Location.record.inj h)
    rw [Function.update_of_ne hne, mkdirs_record store hne]
  · have hne : Location.ingest ≠ .record (run.dir isAlnum) := nofun
    rw [Function.update_of_ne hne]
    exact mkdirs_ingest store _

/-- A proof that was written can be read. -/
theorem readable_written (run : IngestRun) :
    ReadableRequest (some (.json (.obj run.requestDict))) ∧
    ReadableResponse (some (.json (.obj run.outcomeDict))) := by
  have hdetails : ∀ k ∈ ["ingestion_id", "timestamp"], ∀ v,
      Dict.getOr run.details k v = v := fun k hk v => getOr_details run hk v
  refine ⟨⟨_, run.summaryDict, rfl, rfl, ⟨_, rfl⟩, ⟨_, textList_texts run.languages⟩,
    ⟨_, textList_texts run.frameworks⟩, ⟨_, rfl⟩, ⟨_, rfl⟩⟩, ⟨_, rfl, fun id => ?_, ⟨_, rfl⟩,
    fun text => ⟨text, ?_⟩⟩⟩
  · rw [IngestRun.outcomeDict, getOr_append_of_not_has rfl, textEntry]
    by_cases hnone : run.ingestionId = ""
    · rw [if_pos hnone, List.nil_append, hdetails _ (by decide), orElse, ite_self]
      exact ⟨id, rfl⟩
    · have htruthy : truthy (.str run.ingestionId) = true := truthy_of_ne_empty hnone
      rw [if_neg hnone, List.cons_append, getOr_cons, if_pos rfl, orElse, if_pos htruthy]
      exact ⟨run.ingestionId, rfl⟩
  · rw [IngestRun.outcomeDict, getOr_append_of_not_has rfl, getOr_textEntry_ne (by decide),
      hdetails _ (by decide)]
    rfl

/-! ## What holds along a run -/

theorem sound_start (h : Start σ) : Sound isAlnum σ := by
  obtain ⟨hnone, hruns, -⟩ := h
  have hno : ∀ run, run ∉ σ.runs := by
    intro run hrun
    rw [hruns] at hrun
    exact nomatch hrun
  have hempty : ∀ name files, σ.store (.record name) ≠ some files := by
    intro name files hfiles
    rw [hnone name] at hfiles
    exact nomatch hfiles
  exact ⟨fun run hrun => absurd hrun (hno run), fun run hrun => absurd hrun (hno run),
    fun run hrun => absurd hrun (hno run),
    fun name files hfiles => absurd hfiles (hempty name files),
    fun name files hfiles => absurd hfiles (hempty name files),
    fun name files hfiles => absurd hfiles (hempty name files)⟩

/-- The ids of a fine run lead to its folder. -/
theorem FineRun.named {earlier : List IngestRun}
    (h : FineRun isAlnum earlier run) {id : String} (hid : id ∈ run.ids) :
    id ≠ "" ∧ locate (safeId isAlnum id) = .record (run.dir isAlnum) := by
  rcases List.mem_cons.mp hid with rfl | hassigned
  · refine ⟨h.correlated, ?_⟩
    rw [← dir_eq_safeId h.correlated]
    exact locate_record h.folder
  · by_cases hnone : run.ingestionId = ""
    · rw [if_pos hnone] at hassigned
      exact nomatch hassigned
    · rw [if_neg hnone] at hassigned
      obtain rfl := List.mem_singleton.mp hassigned
      refine ⟨hnone, ?_⟩
      rw [h.assigned hnone]
      exact locate_record h.folder

theorem SameAnswer.symm {a b : IngestRun} (h : SameAnswer a b) : SameAnswer b a :=
  ⟨h.ingestionId.symm, h.repoIdentity.symm, h.compatibility.symm⟩

/-- A fine ingestion keeps what holds. -/
theorem Sound.ingest (h : Sound isAlnum σ) (hrun : FineRun isAlnum σ.runs run) :
    Sound isAlnum (σ.after isAlnum (.ingest run)) := by
  obtain ⟨⟨files, hfiles, hrequest, hresponse⟩, hothers, hingest⟩ :=
    emit_written σ.store hrun.written hrun.folder
  have hsplit : ∀ {a}, a ∈ σ.runs ++ [run] → a ∈ σ.runs ∨ a = run := by
    intro a ha
    rcases List.mem_append.mp ha with ha | ha
    · exact .inl ha
    · exact .inr (List.mem_singleton.mp ha)
  have hlast : run ∈ σ.runs ++ [run] := List.mem_append_right _ List.mem_cons_self
  constructor
  case named =>
    intro a ha id hid
    rcases hsplit ha with ha | rfl
    · exact h.named a ha id hid
    · exact hrun.named hid
  case alone =>
    intro a ha b hb hdir
    rcases hsplit ha with hearlier | rfl
    · rcases hsplit hb with hearlier' | rfl
      · exact h.alone a hearlier b hearlier' hdir
      · exact hrun.fresh a hearlier hdir
    · rcases hsplit hb with hearlier' | rfl
      · exact (hrun.fresh b hearlier' hdir.symm).symm
      · exact ⟨rfl, rfl, rfl⟩
  case kept =>
    intro a ha
    refine ⟨hingest, ?_⟩
    by_cases hdir : a.dir isAlnum = run.dir isAlnum
    · rw [hdir]
      exact ⟨files, hfiles⟩
    · rcases hsplit ha with ha | rfl
      · obtain ⟨kept, hkept⟩ := (h.kept a ha).2
        exact ⟨kept, (hothers _ hdir).trans hkept⟩
      · exact absurd rfl hdir
  case only =>
    intro name found hfound
    by_cases hname : name = run.dir isAlnum
    · exact ⟨run, hlast, hname.symm⟩
    · obtain ⟨a, ha, hdir⟩ := h.only name found ((hothers name hname).symm.trans hfound)
      exact ⟨a, List.mem_append_left _ ha, hdir⟩
  case untouched =>
    intro name found hfound huntouched
    by_cases hname : name = run.dir isAlnum
    · subst hname
      obtain rfl := Option.some.inj (hfiles.symm.trans hfound)
      exact ⟨run, hlast, rfl, hrequest, hresponse⟩
    · have hbefore : name ∉ σ.edited := fun hedited =>
        huntouched (List.mem_filter.mpr ⟨hedited, decide_eq_true hname⟩)
      obtain ⟨a, ha, hproof⟩ :=
        h.untouched name found ((hothers name hname).symm.trans hfound) hbefore
      exact ⟨a, List.mem_append_left _ ha, hproof⟩
  case readable =>
    intro name found hfound
    by_cases hname : name = run.dir isAlnum
    · subst hname
      obtain rfl := Option.some.inj (hfiles.symm.trans hfound)
      rw [hrequest, hresponse]
      exact readable_written run
    · exact h.readable name found ((hothers name hname).symm.trans hfound)

/-- An edit leaves the folders, and all files of other folders. -/
theorem editFile_record (store : Store) (dir file : String) (content : FileContent)
    {found : Files} (hfound : editFile store dir file content (.record name) = some found) :
    ∃ before, store (.record name) = some before ∧ (name ≠ dir → found = before) ∧
      ∀ k, found.lookup k = before.lookup k ∨ (k = file ∧ found.lookup k = some content) := by
  rw [editFile] at hfound
  cases hdir : store (.record dir) with
  | none =>
    rw [hdir] at hfound
    exact ⟨found, hfound, fun _ => rfl, fun _ => .inl rfl⟩
  | some files =>
    rw [hdir] at hfound
    by_cases hthere : (files.lookup file).isSome = true
    · simp only [if_pos hthere] at hfound
      by_cases hname : name = dir
      · subst hname
        rw [Function.update_self] at hfound
        obtain rfl := Option.some.inj hfound
        refine ⟨files, hdir, fun hne => absurd rfl hne, fun k => ?_⟩
        rw [lookup_writeFile]
        by_cases hk : k = file
        · rw [if_pos hk]
          exact .inr ⟨hk, rfl⟩
        · rw [if_neg hk]
          exact .inl rfl
      · rw [Function.update_of_ne (fun he => hname (Location.record.inj he))] at hfound
        exact ⟨found, hfound, fun _ => rfl, fun _ => .inl rfl⟩
    · simp only [if_neg hthere] at hfound
      exact ⟨found, hfound, fun _ => rfl, fun _ => .inl rfl⟩

/-- And no folder goes. -/
theorem editFile_kept (store : Store) (dir file : String) (content : FileContent) :
    editFile store dir file content .ingest = store .ingest ∧
    ∀ name, (∃ files, store (.record name) = some files) →
      ∃ files, editFile store dir file content (.record name) = some files := by
  rw [editFile]
  cases hdir : store (.record dir) with
  | none => exact ⟨rfl, fun _ h => h⟩
  | some files =>
    by_cases hthere : (files.lookup file).isSome = true
    · simp only [if_pos hthere]
      have hingest : Location.ingest ≠ .record dir := nofun
      refine ⟨Function.update_of_ne hingest .., fun name hname => ?_⟩
      by_cases hsame : name = dir
      · subst hsame
        exact ⟨_, Function.update_self ..⟩
      · rw [Function.update_of_ne (fun he => hsame (Location.record.inj he))]
        exact hname
    · simp only [if_neg hthere]
      exact ⟨trivial, fun _ h => h⟩

/-- An edit of a proof that leaves it readable keeps what holds. -/
theorem Sound.edit (h : Sound isAlnum σ) {dir file : String} {content : FileContent}
    (hs : Fine isAlnum σ (.edit dir file content)) :
    Sound isAlnum (σ.after isAlnum (.edit dir file content)) := by
  obtain ⟨hingest, hkept⟩ := editFile_kept σ.store dir file content
  constructor
  case named => exact h.named
  case alone => exact h.alone
  case kept =>
    intro run hrun
    refine ⟨?_, hkept _ (h.kept run hrun).2⟩
    rw [show (σ.after isAlnum (.edit dir file content)).store .ingest = σ.store .ingest from hingest]
    exact (h.kept run hrun).1
  case only =>
    intro name found hfound
    obtain ⟨before, hbefore, -⟩ := editFile_record σ.store dir file content hfound
    exact h.only name before hbefore
  case untouched =>
    intro name found hfound huntouched
    obtain ⟨before, hbefore, hsame, -⟩ := editFile_record σ.store dir file content hfound
    have hother : name ≠ dir := fun he => huntouched (he ▸ List.mem_cons_self)
    rw [hsame hother]
    exact h.untouched name before hbefore
      (fun hedited => huntouched (List.mem_cons_of_mem _ hedited))
  case readable =>
    intro name found hfound
    obtain ⟨before, hbefore, hsame, hlookup⟩ := editFile_record σ.store dir file content hfound
    have hreadable := h.readable name before hbefore
    rcases hs with hforeign | ⟨hrequest, hresponse⟩
    · -- every folder is one of a run
      obtain ⟨run, hrun, hdir⟩ := h.only name before hbefore
      rw [hsame (fun he => hforeign run hrun (hdir.trans he))]
      exact hreadable
    · constructor
      · rcases hlookup "request.json" with hold | ⟨hfile, hnew⟩
        · rw [hold]
          exact hreadable.1
        · rw [hnew]
          exact hrequest hfile.symm
      · rcases hlookup "response.json" with hold | ⟨hfile, hnew⟩
        · rw [hold]
          exact hreadable.2
        · rw [hnew]
          exact hresponse hfile.symm

theorem Sound.step (h : Sound isAlnum σ) {s : Step} (hs : Fine isAlnum σ s) :
    Sound isAlnum (σ.after isAlnum s) := by
  cases s with
  | ingest run => exact h.ingest hs
  | edit dir file content => exact h.edit hs
  | lookup id => exact h
  | register call => exact h

theorem sound_of_run (h : Run isAlnum σ) : Sound isAlnum σ := by
  induction h with
  | start hstart => exact sound_start hstart
  | step _ hs ih => exact ih.step hs

/-! ## What the steps of a run do -/

/-- An id of a run is looked up in its folder. -/
theorem Sound.load_of_id (h : Sound isAlnum σ) (hrun : run ∈ σ.runs) {id : String}
    (hid : id ∈ run.ids) : ∃ files, σ.store (.record (run.dir isAlnum)) = some files ∧
      loadIngestionReference isAlnum σ.store id = (loadFrom files id).map some ∧
      opened isAlnum σ.store id = some (.record (run.dir isAlnum)) := by
  obtain ⟨hne, hlocate⟩ := h.named run hrun id hid
  obtain ⟨hingest, files, hfiles⟩ := h.kept run hrun
  have hdir : dirAt σ.store (.record (run.dir isAlnum)) = some files := by
    rw [dirAt]
    cases hfolder : σ.store .ingest with
    | none => exact absurd hfolder hingest
    | some _ => exact hfiles
  refine ⟨files, hfiles, ?_, ?_⟩
  · rw [loadIngestionReference, if_neg hne, hlocate, hdir]
  · rw [opened, if_neg hne, hlocate, hdir]
    rfl

/-- And finds a reference there. -/
theorem Sound.finds (h : Sound isAlnum σ) (hrun : run ∈ σ.runs) {id : String}
    (hid : id ∈ run.ids) : ∃ ref, loadIngestionReference isAlnum σ.store id = .ok (some ref) := by
  obtain ⟨files, hfiles, hload, -⟩ := h.load_of_id hrun hid
  obtain ⟨hrequest, hresponse⟩ := h.readable _ files hfiles
  obtain ⟨ref, href⟩ := loadFrom_returns hrequest hresponse id
  refine ⟨ref, ?_⟩
  rw [hload, href]
  rfl

/-- A lookup of an id of a run. -/
theorem Sound.lookup_of_id (h : Sound isAlnum σ) (hrun : run ∈ σ.runs)
    {id : String} (hid : id ∈ run.ids) : LookupRight isAlnum σ id where
  returns := by
    obtain ⟨ref, href⟩ := h.finds hrun hid
    exact ⟨some ref, href⟩
  inside := by
    obtain ⟨-, -, -, hopened⟩ := h.load_of_id hrun hid
    rw [hopened]
    exact nofun
  found a ha huntouched hida := by
    obtain ⟨files, hfiles, hload, -⟩ := h.load_of_id ha hida
    obtain ⟨last, hlast, hdir, hrequest, hresponse⟩ := h.untouched _ files hfiles huntouched
    have hanswer := h.alone last hlast a ha hdir
    obtain ⟨ref, href, hfields⟩ : ∃ ref, loadFrom files id = .ok ref ∧
        ref.ingestId = (if a.ingestionId = "" then id else a.ingestionId) ∧
        ref.repoIdentity = a.repoIdentity ∧ ref.compatibilityPosture = a.compatibility.value := by
      rw [← hanswer.ingestionId, ← hanswer.repoIdentity, ← hanswer.compatibility]
      exact ⟨_, loadFrom_written hrequest hresponse id, rfl, rfl, rfl⟩
    refine ⟨ref, ?_, hfields⟩
    rw [hload, href]
    rfl
  missing hnone := absurd hid (hnone run hrun)

/-- A lookup of any other id. -/
theorem Sound.lookup_other (h : Sound isAlnum σ) {id : String}
    (hplain : safeId isAlnum id ∈ [".", ".."] → σ.store .ingest = none)
    (hother : ∀ run ∈ σ.runs, run.dir isAlnum ≠ safeId isAlnum id) : LookupRight isAlnum σ id := by
  have hgone : dirAt σ.store (locate (safeId isAlnum id)) = none := by
    rw [dirAt]
    cases hfolder : σ.store .ingest with
    | none => rfl
    | some _ =>
      have hname : safeId isAlnum id ∉ [".", ".."] := by
        intro hdots
        rw [hplain hdots] at hfolder
        exact nomatch hfolder
      rw [locate_record ⟨fun he => hname (he ▸ List.mem_cons_self),
        fun he => hname (he ▸ List.mem_cons_of_mem _ List.mem_cons_self)⟩]
      cases hfound : σ.store (.record (safeId isAlnum id)) with
      | none => rfl
      | some files =>
        obtain ⟨run, hrun, hdir⟩ := h.only _ files hfound
        exact absurd hdir (hother run hrun)
  have hload : loadIngestionReference isAlnum σ.store id = .ok none := by
    rw [loadIngestionReference, hgone]
    exact ite_self _
  refine ⟨⟨none, hload⟩, ?_, fun run hrun _ hid => ?_, fun _ => hload⟩
  · rw [opened, hgone]
    by_cases hid : id = ""
    · rw [if_pos hid]
      exact nofun
    · rw [if_neg hid]
      exact nofun
  · -- an id of a run leads to its folder, and that is there
    obtain ⟨files, -, hfound, -⟩ := h.load_of_id hrun hid
    obtain ⟨ref, href⟩ := h.finds hrun hid
    rw [hload] at href
    exact nomatch href

/-- What is sent, was assessed. -/
theorem runRepoRegister_sent {store : Store} {payload : RegistrationPayload}
    (h : runRepoRegister isAlnum sha256 store call = .ok (.sent payload)) :
    call.isDir = true ∧ ∃ native ref, ingestionRef isAlnum store call = .ok ref ∧
      (assessReadiness call native ref).canProceed = true ∧
      payload = buildRegistrationPayload sha256 call (assessReadiness call native ref) native ref := by
  rw [runRepoRegister] at h
  by_cases hdir : call.isDir = false
  · rw [if_pos hdir] at h
    exact nomatch h
  · rw [if_neg hdir] at h
    refine ⟨Bool.not_eq_false _ ▸ hdir, ?_⟩
    cases hnative : call.native with
    | error e =>
      rw [hnative] at h
      exact nomatch h
    | ok native =>
      rw [hnative] at h
      cases href : ingestionRef isAlnum store call with
      | error e =>
        rw [href] at h
        exact nomatch h
      | ok ref =>
        rw [href] at h
        change (if (assessReadiness call native ref).canProceed = true then _ else _) = _ at h
        by_cases hproceed : (assessReadiness call native ref).canProceed = true
        · rw [if_pos hproceed] at h
          exact ⟨native, ref, rfl, hproceed, (RegisterResult.sent.inj (Except.ok.inj h)).symm⟩
        · rw [if_neg hproceed] at h
          exact nomatch h

/-- Nor is anything sent if the artifacts cannot be loaded. -/
theorem not_sent_of_native_error {store : Store} {errorClass : Raised}
    {payload : RegistrationPayload} (hnative : call.native = .error errorClass) :
    runRepoRegister isAlnum sha256 store call ≠ .ok (.sent payload) := by
  intro h
  rw [runRepoRegister, hnative] at h
  by_cases hdir : call.isDir = false
  · rw [if_pos hdir] at h
    exact nomatch h
  · rw [if_neg hdir] at h
    exact nomatch h

/-- Registrations from an ingestion, and all others. -/
theorem assessReadiness_source (call : RegisterCall) (native : NativeArtifacts)
    (ref : Option IngestionReference) :
    (call.fromIngest ≠ "" → (assessReadiness call native ref).source = .ingestion) ∧
    (call.fromIngest = "" → ref = none → (assessReadiness call native ref).source = .native) := by
  constructor
  · intro hfrom
    rw [assessReadiness, if_pos (.inl hfrom), assessIngestionReadiness,
      if_neg (fun h => hfrom h.2)]
    by_cases hblocked : baselineBlockers call ≠ []
    · exact congrArg ReadinessCheck.source (if_pos hblocked)
    · exact congrArg ReadinessCheck.source (if_neg hblocked)
  · rintro hfrom rfl
    have hnot : ¬ (call.fromIngest ≠ "" ∨ (none : Option IngestionReference).isSome = true) :=
      fun h => h.elim (fun hne => hne hfrom) nofun
    rw [assessReadiness, if_neg hnot]
    by_cases hkeyhole : native.keyhole.isSome = true
    · rw [if_pos hkeyhole, assessNativeReadiness]
      by_cases hblocked : baselineBlockers call ≠ []
      · exact congrArg ReadinessCheck.source (if_pos hblocked)
      · rw [if_neg hblocked]
        by_cases hcount : 3 ≤ native.artifactCount
        · exact congrArg ReadinessCheck.source (if_pos hcount)
        · exact congrArg ReadinessCheck.source (if_neg hcount)
    · rw [if_neg hkeyhole]
      by_cases hblocked : baselineBlockers call = []
      · exact congrArg ReadinessCheck.source (if_pos hblocked)
      · exact congrArg ReadinessCheck.source (if_neg hblocked)

/-- Without a session nothing is sent. -/
theorem not_canProceed_of_unauthenticated (h : call.hasAuth = false)
    (hfrom : call.fromIngest ≠ "") (native : NativeArtifacts) (ref : Option IngestionReference) :
    (assessReadiness call native ref).canProceed = false := by
  have hblocked : baselineBlockers call ≠ [] := by
    rw [baselineBlockers, h]
    exact List.cons_ne_nil _ _
  rw [assessReadiness, if_pos (.inl hfrom), assessIngestionReadiness, if_neg (fun hc => hfrom hc.2)]
  by_cases hempty : baselineBlockers call ≠ []
  · rw [if_pos hempty, ReadinessCheck.canProceed]
    exact Bool.not_eq_true _ ▸ fun he => hblocked (List.isEmpty_iff.mp he)
  · exact absurd hblocked hempty

/-- What a fine registration sends has the reference it asks for. -/
theorem registerRight_of_found {ref : IngestionReference}
    (hrun : ∃ run ∈ σ.runs, call.fromIngest ∈ run.ids)
    (hfound : loadIngestionReference isAlnum σ.store call.fromIngest = .ok (some ref)) :
    RegisterRight isAlnum sha256 σ call := by
  have hfrom : call.fromIngest ≠ "" := by
    intro hempty
    rw [loadIngestionReference, if_pos hempty] at hfound
    exact nomatch hfound
  have hsent : ∀ payload, runRepoRegister isAlnum sha256 σ.store call = .ok (.sent payload) →
      payload.ingestion = some ref := by
    intro payload h
    obtain ⟨-, native, found, href, -, rfl⟩ := runRepoRegister_sent h
    have hsame : found = some ref := by
      rw [ingestionRef, if_neg hfrom, hfound] at href
      exact (Except.ok.inj href).symm
    subst hsame
    exact if_pos ((assessReadiness_source call native _).1 hfrom)
  refine ⟨fun _ payload h => ⟨hrun, ref, hfound, hsent payload h⟩, fun payload h _ => ?_⟩
  rw [hsent payload h]
  exact nofun

/-- What is never sent promises nothing. -/
theorem registerRight_of_unsent
    (h : ∀ payload, runRepoRegister isAlnum sha256 σ.store call ≠ .ok (.sent payload)) :
    RegisterRight isAlnum sha256 σ call :=
  ⟨fun _ payload hsent => absurd hsent (h payload), fun payload hsent => absurd hsent (h payload)⟩

/-- A registration that asks for no ingestion is none of an ingestion. -/
theorem registerRight_of_native (hfrom : call.fromIngest = "") :
    RegisterRight isAlnum sha256 σ call := by
  refine ⟨fun hne => absurd hfrom hne, fun payload h hsource => ?_⟩
  obtain ⟨-, native, ref, href, -, rfl⟩ := runRepoRegister_sent h
  rw [ingestionRef, if_pos hfrom] at href
  have hnative := (assessReadiness_source call native ref).2 hfrom (Except.ok.inj href).symm
  have hsame : (assessReadiness call native ref).source = .ingestion := hsource
  rw [hnative] at hsame
  exact nomatch hsame

/-- In a run of fine steps, every step does what it promises. -/
theorem right_of_run (h : Run isAlnum σ) {s : Step} (hs : Fine isAlnum σ s) :
    Right isAlnum sha256 σ s := by
  have hsound := sound_of_run h
  cases s with
  | ingest run => exact trivial
  | edit dir file content => exact trivial
  | lookup id =>
      rcases hs with ⟨run, hrun, hid⟩ | ⟨hplain, hother⟩
      · exact hsound.lookup_of_id hrun hid
      · exact hsound.lookup_other hplain hother
  | register call =>
      by_cases hfrom : call.fromIngest = ""
      · exact registerRight_of_native hfrom
      · rcases hs with hnone | hauth | hdir | ⟨errorClass, hnative⟩ | ⟨run, hrun, hid⟩
        · exact absurd hnone hfrom
        · refine registerRight_of_unsent fun payload hsent => ?_
          obtain ⟨-, native, ref, -, hproceed, -⟩ := runRepoRegister_sent hsent
          rw [not_canProceed_of_unauthenticated hauth hfrom] at hproceed
          exact nomatch hproceed
        · refine registerRight_of_unsent fun payload hsent => ?_
          rw [(runRepoRegister_sent hsent).1] at hdir
          exact nomatch hdir
        · refine registerRight_of_unsent fun payload hsent => ?_
          exact not_sent_of_native_error hnative hsent
        · obtain ⟨ref, href⟩ := hsound.finds hrun hid
          exact registerRight_of_found ⟨run, hrun, hid⟩ href

end Handover

/-- A run with a correlation id, and the ingestion id the server gave it. -/
def submittedRun (ingestionId : String) : IngestRun where
  correlationId := "c-1"
  repoIdentity := "demo"
  languages := ["python"]
  frameworks := []
  totalIncluded := 3
  shadow := false
  gapId := ""
  repoRemote := ""
  commitSha := ""
  identityFingerprint := ""
  timestamp := "2025-01-01T00:00:00Z"
  manifest := []
  status := "accepted"
  compatibility := .partiallyAligned
  httpStatus := 200
  ingestionId := ingestionId
  graphSummary := none
  inferredCapabilities := []
  warnings := []
  suggestedActions := []
  errorClass := ""
  reason := ""
  repairGuidance := []
  completed := 6

/-- Nothing was ingested yet. -/
def emptyState : State := { store := fun _ => none }

/-- The proof of a run is not found under the ingestion id of its answer. -/
theorem assignedId_not_found : ¬ Right Char.isAlphanum id
    (emptyState.after Char.isAlphanum (.ingest (submittedRun "ing-1"))) (.lookup "ing-1") := by
  intro h
  have hmem : submittedRun "ing-1" ∈
      (emptyState.after Char.isAlphanum (.ingest (submittedRun "ing-1"))).runs :=
    List.mem_cons_self
  have hid : "ing-1" ∈ (submittedRun "ing-1").ids := by decide
  obtain ⟨ref, hfound, -⟩ := h.found _ hmem (fun hedited => nomatch hedited) hid
  have hmissing : loadIngestionReference Char.isAlphanum
      (emptyState.after Char.isAlphanum (.ingest (submittedRun "ing-1"))).store "ing-1"
      = .ok none := by
    rfl
  rw [hmissing] at hfound
  exact nomatch hfound

/-- It is found under the correlation id if the server assigned none. -/
theorem correlationId_found : Right Char.isAlphanum id
    (emptyState.after Char.isAlphanum (.ingest (submittedRun ""))) (.lookup "c-1") := by
  have hstart : Run Char.isAlphanum emptyState :=
    .start ⟨fun _ => rfl, rfl, rfl⟩
  have hrun : FineRun Char.isAlphanum [] (submittedRun "") :=
    { written := by decide
      correlated := by decide
      folder := by decide
      assigned := fun h => absurd rfl h
      fresh := fun _ hold => nomatch hold }
  have hingested : Run Char.isAlphanum (emptyState.after Char.isAlphanum (.ingest (submittedRun ""))) :=
    .step hstart hrun
  exact right_of_run hingested (s := .lookup "c-1")
    (.inl ⟨submittedRun "", List.mem_cons_self, List.mem_cons_self⟩)

end KeyholeHandover
