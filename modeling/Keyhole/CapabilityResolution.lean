import Keyhole.RunDispatch
import Keyhole.ExceptLoops

/-!
# Resolving a capability

`capability.resolve` is answered with a status and, for a resolved capability, with the provider
selected for it.  `_classify_resolution` names the statuses that are no resolution and takes any
other for one; `materialize_resolution` then writes the entry into `dependencies.yaml`.

* `classifyResolution`: the classifier, with the validation of the models it builds;
* `materializeResolution`: what is done with an outcome;
* `kept_iff`: the answers after which only a resolved provider reaches the repository. -/

namespace KeyholeCapability

open KeyholeJson KeyholeDispatch
open ExceptLoops (bind_ok)

/-! ## The models -/

/-- `RepoPosture`. -/
inductive RepoPosture where
  | native
  | foreign
  | ingestionBacked
  deriving DecidableEq

/-- The value of a posture. -/
def RepoPosture.value : RepoPosture → String
  | .native => "native"
  | .foreign => "foreign"
  | .ingestionBacked => "ingestion_backed"

/-- `MaterializationMode`. -/
inductive MaterializationMode where
  | advisory
  | write
  deriving DecidableEq

/-- `ResolutionStatus`. -/
inductive ResolutionStatus where
  | resolved
  | ambiguous
  | incompatible
  | notFound
  | rejected
  | failed
  | accepted
  | deferred
  deriving DecidableEq

/-- The value of a status. -/
def ResolutionStatus.value : ResolutionStatus → String
  | .resolved => "resolved"
  | .ambiguous => "ambiguous"
  | .incompatible => "incompatible"
  | .notFound => "not_found"
  | .rejected => "rejected"
  | .failed => "failed"
  | .accepted => "accepted"
  | .deferred => "deferred"

/-- `ResolutionRequest`, the fields the classifier reads. -/
structure ResolutionRequest where
  capability : String
  mode : MaterializationMode := .advisory
  correlationId : String := ""

/-- `CapabilityCandidate`. -/
structure CapabilityCandidate where
  capability : String
  provider : String
  version : String
  visibility : String
  summary : String
  digest : String

/-- `ResolvedDependency`. -/
structure ResolvedDependency where
  capability : String
  provider : String
  version : String := ""
  digest : String := ""
  reason : String := ""

/-- `ResolutionOutcome`. -/
structure ResolutionOutcome where
  status : ResolutionStatus
  resolved : Option ResolvedDependency := none
  candidates : List CapabilityCandidate := []
  mode : MaterializationMode
  correlationId : String
  httpStatus : Nat
  isReplay : Bool
  errorClass : String := ""
  reason : String := ""
  repairGuidance : List String := []
  warnings : List String
  responseData : Dict

/-! ## Validation -/

/-- A field of type `str`. -/
def textField : Json → Except Raised String
  | .str s => .ok s
  | _ => .error "ValidationError"

/-- The items of a list field. -/
def textItems : List Json → Except Raised (List String)
  | [] => .ok []
  | v :: rest => do
      let text ← textField v
      let texts ← textItems rest
      return text :: texts

/-- A field of type `List[str]`. -/
def textList : Json → Except Raised (List String)
  | .arr items => textItems items
  | _ => .error "ValidationError"

/-- The texts a boolean field takes for true, and for false. -/
def trueTexts : List String := ["1", "on", "t", "true", "y", "yes"]

def falseTexts : List String := ["0", "off", "f", "false", "n", "no"]

/-- A field of type `bool`. -/
def boolField : Json → Except Raised Bool
  | .bool b => .ok b
  | .int n => if n = 1 then .ok true else if n = 0 then .ok false else .error "ValidationError"
  | .float text =>
      if text = "1.0" then .ok true
      else if text ∈ ["0.0", "-0.0"] then .ok false
      else .error "ValidationError"
  | .str s =>
      if lower s ∈ trueTexts then .ok true
      else if lower s ∈ falseTexts then .ok false
      else .error "ValidationError"
  | .null | .arr _ | .obj _ => .error "ValidationError"

/-! ## The classifier -/

/-- A dictionary of the raw candidates. -/
def parseCandidate (raw : Dict) : Except Raised CapabilityCandidate := do
  return {
    capability := ← textField (raw.getOr "capability" (raw.getOr "name" (.str "")))
    provider := ← textField (raw.getOr "provider" (.str ""))
    version := ← textField (raw.getOr "version" (.str ""))
    visibility := ← textField (raw.getOr "visibility" (.str "public"))
    summary := ← textField (raw.getOr "summary" (.str ""))
    digest := ← textField (raw.getOr "digest" (.str "")) }

/-- The loop of `_parse_candidates`. -/
def parseCandidateItems : List Json → Except Raised (List CapabilityCandidate)
  | [] => .ok []
  | .obj raw :: rest => do
      let candidate ← parseCandidate raw
      let candidates ← parseCandidateItems rest
      return candidate :: candidates
  | _ :: rest => parseCandidateItems rest

/-- `_parse_candidates`: the characters of a text and the keys of a dictionary are no
    dictionaries. -/
def parseCandidates : Json → Except Raised (List CapabilityCandidate)
  | .arr items => parseCandidateItems items
  | .str _ | .obj _ => .ok []
  | .null | .bool _ | .int _ | .float _ => .error "TypeError"

/-- `_ambiguity_repair`. -/
def ambiguityRepair (request : ResolutionRequest) (candidates : List CapabilityCandidate) :
    List String :=
  let providers := join ", " ((candidates.map (·.provider)).filter (· != ""))
  ["Multiple providers satisfy '" ++ request.capability ++ "' — no lawful tie-break exists."]
    ++ (if providers = "" then [] else ["Candidates: " ++ providers])
    ++ ["Specify --provider <name> to pin a provider explicitly.",
      "Inspect candidates: keyhole search " ++ request.capability]

/-- `ResolutionOutcome(status=.., **base_kwargs)`. -/
def baseOutcome (data : Dict) (statusCode : Nat) (request : ResolutionRequest)
    (status : ResolutionStatus) : Except Raised ResolutionOutcome := do
  let warnings ← textList (data.getOr "warnings" (.arr []))
  let isReplay ← boolField (data.getOr "is_replay" (data.getOr "replayed" (.bool false)))
  return {
    status
    mode := request.mode
    correlationId := request.correlationId
    httpStatus := statusCode
    isReplay
    warnings
    responseData := data }

/-- The outcome of an ambiguous answer. -/
def ambiguousOutcome (data : Dict) (statusCode : Nat) (request : ResolutionRequest) :
    Except Raised ResolutionOutcome := do
  let candidates ← parseCandidates (data.getOr "candidates" (.arr []))
  let base ← baseOutcome data statusCode request .ambiguous
  return { base with candidates, repairGuidance := ambiguityRepair request candidates }

/-- The outcome of an incompatible answer. -/
def incompatibleOutcome (data : Dict) (statusCode : Nat) (request : ResolutionRequest) :
    Except Raised ResolutionOutcome := do
  let candidates ← parseCandidates (data.getOr "candidates" (.arr []))
  let reason ← textField (data.getOr "reason" (.str "No compatible provider found."))
  let repairGuidance ← textList (data.getOr "repair_guidance" (.arr
    [.str ("Inspect candidate providers: keyhole search " ++ request.capability),
      .str "Refine version or provider constraints."]))
  let base ← baseOutcome data statusCode request .incompatible
  return { base with candidates, reason, repairGuidance }

/-- The outcome of a capability that was not found. -/
def notFoundOutcome (data : Dict) (statusCode : Nat) (request : ResolutionRequest) :
    Except Raised ResolutionOutcome := do
  let reason ← textField (data.getOr "reason"
    (.str ("Capability '" ++ request.capability ++ "' not found.")))
  let base ← baseOutcome data statusCode request .notFound
  return { base with
    reason
    repairGuidance := ["Check spelling: '" ++ request.capability ++ "'.",
      "Try: keyhole search " ++ request.capability ++ " — to discover candidates."] }

/-- `_classify_error`. -/
def classifyError (data : Dict) (statusCode : Nat) (request : ResolutionRequest) :
    Except Raised ResolutionOutcome := do
  let serverStatus ← lowered (data.getOr "status" (.str "rejected"))
  if serverStatus = "ambiguous" then ambiguousOutcome data statusCode request
  else do
    let errorClass ← textField (data.getOr "error_class" (.str "server_rejection"))
    let reason ← textField (data.getOr "reason" (data.getOr "message" (.str "")))
    let repairGuidance ← textList (data.getOr "repair_guidance" (.arr []))
    let base ← baseOutcome data statusCode request .rejected
    return { base with errorClass, reason, repairGuidance }

/-- The reason of a resolved entry. -/
def entryReason (entry : Dict) : Json :=
  entry.getOr "reason" (entry.getOr "selection_reason" (.str ""))

/-- `ResolvedDependency(..)` from the resolved entry. -/
def resolvedDependency (entry : Dict) (request : ResolutionRequest) :
    Except Raised ResolvedDependency := do
  return {
    capability := ← textField (entry.getOr "capability" (.str request.capability))
    provider := ← textField (entry.getOr "provider" (.str ""))
    version := ← textField (entry.getOr "version" (.str ""))
    digest := ← textField (entry.getOr "digest" (.str ""))
    reason := ← textField (entryReason entry) }

/-- The outcome of an answer taken for a resolution. -/
def resolvedOutcome (data : Dict) (statusCode : Nat) (request : ResolutionRequest) :
    Except Raised ResolutionOutcome :=
  match data.getOr "resolved" (.obj data) with
  | .obj entry => do
      let resolved ← resolvedDependency entry request
      let base ← baseOutcome data statusCode request .resolved
      return { base with resolved := some resolved }
  | _ => .error "AttributeError"

/-- `_classify_resolution` by the lower-case status. -/
def classifyWord (data : Dict) (statusCode : Nat) (request : ResolutionRequest)
    (serverStatus : String) : Except Raised ResolutionOutcome :=
  if 400 ≤ statusCode then classifyError data statusCode request
  else if statusCode = 202 ∨ serverStatus ∈ ["accepted", "pending"] then
    baseOutcome data statusCode request .accepted
  else if serverStatus = "deferred" then baseOutcome data statusCode request .deferred
  else if serverStatus = "ambiguous" then ambiguousOutcome data statusCode request
  else if serverStatus = "incompatible" then incompatibleOutcome data statusCode request
  else if serverStatus = "not_found" then notFoundOutcome data statusCode request
  else resolvedOutcome data statusCode request

/-- `_classify_resolution`. -/
def classifyResolution (result : TransportResult) (request : ResolutionRequest) :
    Except Raised ResolutionOutcome :=
  match result.data with
  | .obj data =>
      match lowered (Dict.getOr data "status" (.str "")) with
      | .ok serverStatus => classifyWord data result.statusCode request serverStatus
      | .error raised => .error raised
  | _ => .error "AttributeError"

/-! ## The materializer -/

/-- `MaterializationResult`. -/
structure MaterializationResult where
  success : Bool
  target : String := ""
  diffSummary : String := ""
  isWrite : Bool := false
  errorClass : String := ""
  reason : String := ""
  repairGuidance : List String := []

/-- What the materializer may write: the text of `dependencies.yaml`, if there is such a file,
    and the artifacts of the state directory. -/
structure Store where
  dependencies : Option String
  artifacts : List (String × Dict)

/-- Where it writes, and what the file system does. -/
structure MaterializeEnv where
  repoPath : String
  stateDir : String
  readFault : Option Raised := none
  /-- the exception of a failed write, and what it leaves in the file -/
  writeFault : Option (Raised × Option String) := none
  artifactFault : Option Raised := none

/-- What the materializer comes to, and what it leaves. -/
abbrev Materialized := Except Raised MaterializationResult × Store

/-- `to_dependency_entry`. -/
def dependencyEntry (resolved : ResolvedDependency) : Dict :=
  [("capability", .str resolved.capability), ("provider", .str resolved.provider)]
    ++ (if resolved.version = "" then [] else [("version", .str resolved.version)])
    ++ (if resolved.digest = "" then [] else [("digest", .str resolved.digest)])

/-- `_safe_dirname`, on the ASCII of the ids the SDK generates. -/
def safeDirname (name : String) : String :=
  String.ofList (name.toList.map fun c =>
    if c.isAlphanum || ['-', '_', '.'].contains c then c else '_')

/-- `_emit_advisory_artifact`. -/
def emitAdvisoryArtifact (env : MaterializeEnv) (resolved : ResolvedDependency)
    (outcome : ResolutionOutcome) (store : Store) : Materialized :=
  match env.artifactFault with
  | some raised => (.error raised, store)
  | none =>
      let corr := if outcome.correlationId = "" then "unknown" else outcome.correlationId
      let target := env.stateDir ++ "/resolution/" ++ safeDirname corr ++ "/suggested-dependency.json"
      let suggested := dependencyEntry resolved
        ++ [("advisory", .bool true), ("correlation_id", .str outcome.correlationId)]
      (.ok {
        success := true
        target
        diffSummary := "Advisory artifact emitted (no repo mutation)." },
      { store with artifacts := store.artifacts ++ [(target, suggested)] })

/-- The block that is appended. -/
def dependencyBlock (resolved : ResolvedDependency) : String :=
  join "\n" (["- capability: " ++ resolved.capability, "  provider: " ++ resolved.provider]
    ++ (if resolved.version = "" then [] else ["  version: " ++ resolved.version])
    ++ (if resolved.digest = "" then [] else ["  digest: " ++ resolved.digest])) ++ "\n"

/-- A text file as Python reads it: every line end is a newline. -/
def readNewlines : List Char → List Char
  | '\r' :: '\n' :: rest => '\n' :: readNewlines rest
  | '\r' :: rest => '\n' :: readNewlines rest
  | c :: rest => c :: readNewlines rest
  | [] => []

/-- `existing.rstrip("\n")`. -/
def withoutNewlines (text : String) : String :=
  String.ofList (text.toList.reverse.dropWhile (· = '\n')).reverse

/-- The text after the block was appended. -/
def appendBlock (existing block : String) : String :=
  if strip existing = "" then block else withoutNewlines existing ++ "\n" ++ block

/-- `_write_native_dependency`. -/
def writeNativeDependency (env : MaterializeEnv) (resolved : ResolvedDependency) (store : Store) :
    Materialized :=
  let target := env.repoPath ++ "/dependencies.yaml"
  match store.dependencies, env.readFault with
  | some _, some raised => (.error raised, store)
  | content, _ =>
      let existing := String.ofList (readNewlines (content.getD "").toList)
      if contains existing resolved.capability && contains existing resolved.provider then
        (.ok {
          success := true
          target
          diffSummary := "Dependency already present in dependencies.yaml (no change)." }, store)
      else
        match env.writeFault with
        | some (raised, left) => (.error raised, { store with dependencies := left })
        | none =>
            (.ok {
              success := true
              target
              diffSummary := "Added dependency: " ++ resolved.capability ++ " → "
                ++ resolved.provider
                ++ (if resolved.version = "" then "" else "@" ++ resolved.version)
              isWrite := true },
            { store with dependencies := some (appendBlock existing (dependencyBlock resolved)) })

/-- The result for an outcome that resolved nothing. -/
def unresolvedResult (outcome : ResolutionOutcome) : MaterializationResult where
  success := false
  errorClass := "UnresolvedOutcome"
  reason := "Cannot materialise: outcome status is '" ++ outcome.status.value ++ "'."
  repairGuidance := ["Resolve the capability first."]

/-- The result for a posture that may not be written to. -/
def unsupportedResult (posture : RepoPosture) : MaterializationResult where
  success := false
  errorClass := "UnsupportedWriteTarget"
  reason := "Repo posture is '" ++ posture.value ++ "' — "
    ++ "in-repo write is not lawful for foreign repos by default."
  repairGuidance := ["Use --advisory mode for foreign repos.",
    "Complete alignment before writing dependency state.",
    "Run: keyhole repo register — and alignment steps first."]

/-- `materialize_resolution`. -/
def materializeResolution (env : MaterializeEnv) (outcome : ResolutionOutcome)
    (posture : RepoPosture) (mode : MaterializationMode) (store : Store) : Materialized :=
  match decide (outcome.status = .resolved), outcome.resolved with
  | true, some resolved =>
      if mode = .advisory then emitAdvisoryArtifact env resolved outcome store
      else if posture = .foreign ∨ posture = .ingestionBacked then
        (.ok (unsupportedResult posture), store)
      else writeNativeDependency env resolved store
  | _, _ => (.ok (unresolvedResult outcome), store)

/-! ## What may reach the repository -/

/-- The answer states no status, or one of a resolution. -/
def SuccessLike (data : Dict) : Prop :=
  ∃ word, data.getOr "status" (.str "") = .str word ∧
    (word = "" ∨ strip (lower word) = "resolved" ∨ classifyStatus word = .success)

/-- The outcome names a provider. -/
def NamesProvider (outcome : ResolutionOutcome) : Prop :=
  ∃ resolved, outcome.resolved = some resolved ∧ resolved.provider ≠ ""

/-- Only an answer that is a resolution by a named provider is taken for one, and no other is
    written to a native repository. -/
structure Kept (result : TransportResult) : Prop where
  resolved : ∀ request outcome, classifyResolution result request = .ok outcome →
    outcome.status = .resolved → SuccessLike (asDict result.data) ∧ NamesProvider outcome
  unwritten : ∀ request outcome, classifyResolution result request = .ok outcome →
    ¬ SuccessLike (asDict result.data) → ∀ env store,
      (materializeResolution env outcome .native .write store).2.dependencies = store.dependencies

/-! ## Which answers are taken for a resolution -/

/-- The statuses the classifier names. -/
def namedStatuses : List String :=
  ["accepted", "pending", "deferred", "ambiguous", "incompatible", "not_found"]

/-- The status is none the classifier names, and the HTTP code neither says that the request
    failed nor that it was queued. -/
structure FallsThrough (data : Dict) (statusCode : Nat) (word : String) : Prop where
  text : data.getOr "status" (.str "") = .str word
  answered : statusCode < 400
  inline : statusCode ≠ 202
  unnamed : lower word ∉ namedStatuses

/-- The resolved entry, and the rest of the answer, have the types of the models. -/
structure WellTyped (data entry : Dict) : Prop where
  resolved : data.getOr "resolved" (.obj data) = .obj entry
  capability : isText (entry.getOr "capability" (.str "")) = true
  provider : isText (entry.getOr "provider" (.str "")) = true
  version : isText (entry.getOr "version" (.str "")) = true
  digest : isText (entry.getOr "digest" (.str "")) = true
  reason : isText (entryReason entry) = true
  warnings : ∃ texts, textList (data.getOr "warnings" (.arr [])) = .ok texts
  isReplay : ∃ b, boolField (data.getOr "is_replay" (data.getOr "replayed" (.bool false))) = .ok b

/-- An answer that falls through, and has the types of the models, is a resolution by a named
    provider. -/
def Safe (result : TransportResult) : Prop :=
  ∀ data word entry, result.data = .obj data → FallsThrough data result.statusCode word →
    WellTyped data entry → SuccessLike data ∧ entry.getOr "provider" (.str "") ≠ .str ""

theorem textField_eq_ok {v : Json} {text : String} : textField v = .ok text ↔ v = .str text := by
  cases v with
  | str s =>
    constructor
    · intro h
      cases h
      rfl
    · intro h
      cases h
      rfl
  | _ =>
    exact ⟨nofun, nofun⟩

theorem textField_of_isText {v : Json} (h : isText v = true) : ∃ text, textField v = .ok text := by
  cases v with
  | str s => exact ⟨s, rfl⟩
  | _ => exact nomatch h

theorem isText_of_textField {v : Json} {text : String} (h : textField v = .ok text) :
    isText v = true := by
  rw [textField_eq_ok.mp h]
  rfl

/-- A field with a text for its default is a text whatever that default is. -/
theorem isText_getOr (d : Dict) (k s t : String) :
    isText (d.getOr k (.str s)) = isText (d.getOr k (.str t)) := by
  cases hhas : d.has k with
  | true => rw [getOr_of_has hhas, getOr_of_has hhas]
  | false =>
    rw [getOr_of_not_has hhas, getOr_of_not_has hhas]
    rfl

section Classifier

variable {data : Dict} {statusCode : Nat} {request : ResolutionRequest} {outcome : ResolutionOutcome}

/-- The base of an outcome has its status. -/
theorem baseOutcome_status {status : ResolutionStatus}
    (h : baseOutcome data statusCode request status = .ok outcome) : outcome.status = status := by
  obtain ⟨warnings, -, h⟩ := bind_ok.mp h
  obtain ⟨isReplay, -, h⟩ := bind_ok.mp h
  cases h
  rfl

theorem ambiguousOutcome_status (h : ambiguousOutcome data statusCode request = .ok outcome) :
    outcome.status = .ambiguous := by
  obtain ⟨candidates, -, h⟩ := bind_ok.mp h
  obtain ⟨base, hbase, h⟩ := bind_ok.mp h
  cases h
  exact (baseOutcome_status hbase : base.status = _)

theorem incompatibleOutcome_status (h : incompatibleOutcome data statusCode request = .ok outcome) :
    outcome.status = .incompatible := by
  obtain ⟨candidates, -, h⟩ := bind_ok.mp h
  obtain ⟨reason, -, h⟩ := bind_ok.mp h
  obtain ⟨guidance, -, h⟩ := bind_ok.mp h
  obtain ⟨base, hbase, h⟩ := bind_ok.mp h
  cases h
  exact (baseOutcome_status hbase : base.status = _)

theorem notFoundOutcome_status (h : notFoundOutcome data statusCode request = .ok outcome) :
    outcome.status = .notFound := by
  obtain ⟨reason, -, h⟩ := bind_ok.mp h
  obtain ⟨base, hbase, h⟩ := bind_ok.mp h
  cases h
  exact (baseOutcome_status hbase : base.status = _)

/-- An error answer is ambiguous or rejected. -/
theorem classifyError_status (h : classifyError data statusCode request = .ok outcome) :
    outcome.status ≠ .resolved := by
  obtain ⟨serverStatus, -, h⟩ := bind_ok.mp h
  by_cases hambiguous : serverStatus = "ambiguous"
  · rw [if_pos hambiguous] at h
    rw [ambiguousOutcome_status h]
    exact nofun
  · rw [if_neg hambiguous] at h
    obtain ⟨errorClass, -, h⟩ := bind_ok.mp h
    obtain ⟨reason, -, h⟩ := bind_ok.mp h
    obtain ⟨guidance, -, h⟩ := bind_ok.mp h
    obtain ⟨base, hbase, h⟩ := bind_ok.mp h
    cases h
    show base.status ≠ .resolved
    rw [baseOutcome_status hbase]
    exact nofun

/-- A resolved entry has the types of its model, and keeps its provider. -/
theorem resolvedDependency_ok {entry : Dict} {resolved : ResolvedDependency}
    (h : resolvedDependency entry request = .ok resolved) :
    isText (entry.getOr "capability" (.str "")) = true ∧
      entry.getOr "provider" (.str "") = .str resolved.provider ∧
      isText (entry.getOr "version" (.str "")) = true ∧
      isText (entry.getOr "digest" (.str "")) = true ∧ isText (entryReason entry) = true := by
  obtain ⟨capability, hcapability, h⟩ := bind_ok.mp h
  obtain ⟨provider, hprovider, h⟩ := bind_ok.mp h
  obtain ⟨version, hversion, h⟩ := bind_ok.mp h
  obtain ⟨digest, hdigest, h⟩ := bind_ok.mp h
  obtain ⟨reason, hreason, h⟩ := bind_ok.mp h
  cases h
  refine ⟨?_, textField_eq_ok.mp hprovider, isText_of_textField hversion,
    isText_of_textField hdigest, isText_of_textField hreason⟩
  rw [isText_getOr entry "capability" "" request.capability]
  exact isText_of_textField hcapability

/-- An outcome taken for a resolution comes of a well typed answer. -/
theorem resolvedOutcome_ok (h : resolvedOutcome data statusCode request = .ok outcome) :
    ∃ entry resolved, WellTyped data entry ∧ outcome.resolved = some resolved ∧
      entry.getOr "provider" (.str "") = .str resolved.provider := by
  unfold resolvedOutcome at h
  cases hentry : data.getOr "resolved" (.obj data) with
  | obj entry =>
    rw [hentry] at h
    obtain ⟨resolved, hresolved, h⟩ := bind_ok.mp h
    obtain ⟨base, hbase, h⟩ := bind_ok.mp h
    obtain ⟨hcapability, hprovider, hversion, hdigest, hreason⟩ := resolvedDependency_ok hresolved
    obtain ⟨warnings, hwarnings, hbase⟩ := bind_ok.mp hbase
    obtain ⟨isReplay, hreplay, -⟩ := bind_ok.mp hbase
    cases h
    refine ⟨entry, resolved, ⟨hentry, hcapability, ?_, hversion, hdigest, hreason,
      ⟨warnings, hwarnings⟩, ⟨isReplay, hreplay⟩⟩, rfl, hprovider⟩
    rw [hprovider]
    rfl
  | _ =>
    rw [hentry] at h
    exact nomatch h

/-- A well typed answer is taken for a resolution by the provider of its entry. -/
theorem resolvedOutcome_of_wellTyped {entry : Dict} (h : WellTyped data entry) :
    ∃ outcome resolved, resolvedOutcome data statusCode request = .ok outcome ∧
      outcome.status = .resolved ∧ outcome.resolved = some resolved ∧
      entry.getOr "provider" (.str "") = .str resolved.provider := by
  have hcapabilityText := h.capability
  rw [isText_getOr entry "capability" "" request.capability] at hcapabilityText
  obtain ⟨capability, hcapability⟩ := textField_of_isText hcapabilityText
  obtain ⟨provider, hprovider⟩ := textField_of_isText h.provider
  obtain ⟨version, hversion⟩ := textField_of_isText h.version
  obtain ⟨digest, hdigest⟩ := textField_of_isText h.digest
  obtain ⟨reason, hreason⟩ := textField_of_isText h.reason
  obtain ⟨warnings, hwarnings⟩ := h.warnings
  obtain ⟨isReplay, hreplay⟩ := h.isReplay
  have hresolved : resolvedDependency entry request
      = .ok ⟨capability, provider, version, digest, reason⟩ := by
    unfold resolvedDependency
    rw [hcapability, hprovider, hversion, hdigest, hreason]
    rfl
  unfold resolvedOutcome
  rw [h.resolved]
  show ∃ outcome _, (resolvedDependency entry request >>= _) = Except.ok outcome ∧ _
  rw [hresolved]
  unfold baseOutcome
  rw [hwarnings, hreplay]
  exact ⟨_, ⟨capability, provider, version, digest, reason⟩, rfl, rfl, rfl,
    textField_eq_ok.mp hprovider⟩

/-- The branches before the last are taken by an HTTP code or by a named status. -/
theorem classifyWord_last {word : String} (hanswered : statusCode < 400) (hinline : statusCode ≠ 202)
    (hunnamed : word ∉ namedStatuses) :
    classifyWord data statusCode request word = resolvedOutcome data statusCode request := by
  have hne : ∀ named ∈ namedStatuses, word ≠ named := by
    rintro named hmem rfl
    exact hunnamed hmem
  unfold classifyWord
  rw [if_neg (Nat.not_le.mpr hanswered), if_neg, if_neg (hne "deferred" (by decide)),
    if_neg (hne "ambiguous" (by decide)), if_neg (hne "incompatible" (by decide)),
    if_neg (hne "not_found" (by decide))]
  rintro (h | h)
  · exact hinline h
  · exact hunnamed (List.mem_of_mem_take (i := 2) h)

/-- Only the last branch has the status of a resolution. -/
theorem classifyWord_resolved {word : String}
    (h : classifyWord data statusCode request word = .ok outcome)
    (hresolved : outcome.status = .resolved) :
    statusCode < 400 ∧ statusCode ≠ 202 ∧ word ∉ namedStatuses ∧
      resolvedOutcome data statusCode request = .ok outcome := by
  unfold classifyWord at h
  by_cases hcode : 400 ≤ statusCode
  · rw [if_pos hcode] at h
    exact absurd hresolved (classifyError_status h)
  rw [if_neg hcode] at h
  by_cases haccepted : statusCode = 202 ∨ word ∈ ["accepted", "pending"]
  · rw [if_pos haccepted] at h
    exact nomatch (baseOutcome_status h).symm.trans hresolved
  rw [if_neg haccepted] at h
  obtain ⟨hinline, hword⟩ := not_or.mp haccepted
  by_cases hdeferred : word = "deferred"
  · rw [if_pos hdeferred] at h
    exact nomatch (baseOutcome_status h).symm.trans hresolved
  rw [if_neg hdeferred] at h
  by_cases hambiguous : word = "ambiguous"
  · rw [if_pos hambiguous] at h
    exact nomatch (ambiguousOutcome_status h).symm.trans hresolved
  rw [if_neg hambiguous] at h
  by_cases hincompatible : word = "incompatible"
  · rw [if_pos hincompatible] at h
    exact nomatch (incompatibleOutcome_status h).symm.trans hresolved
  rw [if_neg hincompatible] at h
  by_cases hnotFound : word = "not_found"
  · rw [if_pos hnotFound] at h
    exact nomatch (notFoundOutcome_status h).symm.trans hresolved
  rw [if_neg hnotFound] at h
  refine ⟨Nat.lt_of_not_le hcode, hinline, fun hmem => ?_, h⟩
  rcases List.mem_append.mp
    (show word ∈ ["accepted", "pending"] ++ ["deferred", "ambiguous", "incompatible", "not_found"]
      from hmem) with hmem | hmem
  · exact hword hmem
  · simp only [List.mem_cons, List.not_mem_nil, or_false] at hmem
    rcases hmem with h | h | h | h
    · exact hdeferred h
    · exact hambiguous h
    · exact hincompatible h
    · exact hnotFound h

/-- An answer is taken for a resolution only if it falls through and is well typed. -/
theorem fallsThrough_of_resolved
    (h : classifyResolution ⟨.obj data, statusCode⟩ request = .ok outcome)
    (hresolved : outcome.status = .resolved) :
    ∃ word entry resolved, FallsThrough data statusCode word ∧ WellTyped data entry ∧
      outcome.resolved = some resolved ∧
      entry.getOr "provider" (.str "") = .str resolved.provider := by
  have hclassify : (match lowered (data.getOr "status" (.str "")) with
      | .ok serverStatus => classifyWord data statusCode request serverStatus
      | .error raised => .error raised) = Except.ok outcome := h
  cases hfield : data.getOr "status" (.str "") with
  | str word =>
    rw [hfield] at hclassify
    have hword : classifyWord data statusCode request (lower word) = .ok outcome := hclassify
    obtain ⟨hanswered, hinline, hunnamed, hlast⟩ := classifyWord_resolved hword hresolved
    obtain ⟨entry, resolved, hentry, hsome, hprovider⟩ := resolvedOutcome_ok hlast
    exact ⟨word, entry, resolved, ⟨hfield, hanswered, hinline, hunnamed⟩, hentry, hsome, hprovider⟩
  | _ =>
    rw [hfield] at hclassify
    exact nomatch hclassify

/-- Such an answer is taken for a resolution by the provider of its entry. -/
theorem resolved_of_fallsThrough (request : ResolutionRequest) {word : String} {entry : Dict}
    (hfalls : FallsThrough data statusCode word) (hentry : WellTyped data entry) :
    ∃ outcome resolved, classifyResolution ⟨.obj data, statusCode⟩ request = .ok outcome ∧
      outcome.status = .resolved ∧ outcome.resolved = some resolved ∧
      entry.getOr "provider" (.str "") = .str resolved.provider := by
  have hclassify : classifyResolution ⟨.obj data, statusCode⟩ request
      = resolvedOutcome data statusCode request := by
    show (match lowered (data.getOr "status" (.str "")) with
      | .ok serverStatus => classifyWord data statusCode request serverStatus
      | .error raised => .error raised) = _
    rw [hfalls.text]
    exact classifyWord_last hfalls.answered hfalls.inline hfalls.unnamed
  rw [hclassify]
  exact resolvedOutcome_of_wellTyped hentry

end Classifier

/-- An outcome that is no resolution leaves the store. -/
theorem materialize_of_unresolved {outcome : ResolutionOutcome} (h : outcome.status ≠ .resolved)
    (env : MaterializeEnv) (posture : RepoPosture) (mode : MaterializationMode) (store : Store) :
    materializeResolution env outcome posture mode store = (.ok (unresolvedResult outcome), store) := by
  unfold materializeResolution
  rw [decide_eq_false h]

/-- Only a dictionary is classified. -/
theorem dict_of_classified {result : TransportResult} {request : ResolutionRequest}
    {outcome : ResolutionOutcome} (h : classifyResolution result request = .ok outcome) :
    ∃ data, result = ⟨.obj data, result.statusCode⟩ := by
  obtain ⟨doc, statusCode⟩ := result
  cases doc with
  | obj data => exact ⟨data, rfl⟩
  | _ => exact nomatch h

/-- Only a resolved provider reaches the repository exactly where every answer that falls through
    the classifier is a resolution by a named one. -/
theorem kept_iff (result : TransportResult) : Kept result ↔ Safe result := by
  constructor
  · intro h data word entry hdata hfalls hentry
    obtain ⟨doc, statusCode⟩ := result
    cases (hdata : doc = .obj data)
    obtain ⟨outcome, resolved, hclassify, hstatus, hsome, hprovider⟩ :=
      resolved_of_fallsThrough ⟨"", .write, ""⟩ hfalls hentry
    obtain ⟨hsuccess, resolved', hsome', hne⟩ := h.resolved _ outcome hclassify hstatus
    cases hsome.symm.trans hsome'
    refine ⟨hsuccess, fun hempty => hne ?_⟩
    rw [hprovider] at hempty
    exact Json.str.inj hempty
  · intro h
    have hresolved : ∀ request outcome, classifyResolution result request = .ok outcome →
        outcome.status = .resolved → SuccessLike (asDict result.data) ∧ NamesProvider outcome := by
      intro request outcome hclassify hstatus
      obtain ⟨data, hdata⟩ := dict_of_classified hclassify
      rw [hdata] at hclassify
      obtain ⟨word, entry, resolved, hfalls, hentry, hsome, hprovider⟩ :=
        fallsThrough_of_resolved hclassify hstatus
      have hdoc : result.data = .obj data := congrArg TransportResult.data hdata
      obtain ⟨hsuccess, hne⟩ := h data word entry hdoc hfalls hentry
      rw [hdoc]
      refine ⟨hsuccess, resolved, hsome, fun hempty => hne ?_⟩
      rw [hprovider, hempty]
    refine ⟨hresolved, fun request outcome hclassify hunlike env store => ?_⟩
    rw [materialize_of_unresolved fun hstatus =>
      hunlike (hresolved request outcome hclassify hstatus).1]

/-- A rejection at HTTP 200 that echoes the request: it is taken for a resolution. -/
theorem rejected_kept : ¬ Kept ⟨.obj [("status", .str "rejected"), ("capability", .str "auth.oidc"),
    ("provider", .str "keycloak")], 200⟩ := by
  intro h
  obtain ⟨word, hword, hlike⟩ := (h.resolved ⟨"auth.oidc", .write, ""⟩ _ rfl rfl).1
  cases hword
  exact absurd hlike (by decide)

end KeyholeCapability
