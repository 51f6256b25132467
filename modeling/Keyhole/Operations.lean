import Keyhole.RunEnvelope

/-!
# Boundary operations advertised by the server

The capabilities document says which operations the server offers, under which
names and through which run types.  This file models the normalisation of
`discovery/operations.py`, `_extract_operations` and the readers of the
`governed_worker_sdk` block in `governed_demo.py`.

A Python iteration over a value that cannot be iterated raises a `TypeError`;
the functions that can do so return `none`. -/

namespace KeyholeOperations

open KeyholeJson KeyholeEnvelope

/-! ## Normalised operation definitions -/

/-- `OperationDefinition`. -/
structure OperationDefinition where
  operationName : String
  canonicalRunType : String
  aliases : List String
  status : String
  method : String
  path : String
  canonicalEndpoint : Dict
  governed : Bool
  eventSpineEvidence : Bool
  requiredAuthorization : Dict
  inputSchema : Dict
  outputSchema : Dict
  capabilityMetadata : Dict
  raw : Dict

/-- An operation known only by its name. -/
def OperationDefinition.named (name : String) : OperationDefinition where
  operationName := name
  canonicalRunType := name
  aliases := []
  status := ""
  method := ""
  path := ""
  canonicalEndpoint := []
  governed := false
  eventSpineEvidence := false
  requiredAuthorization := []
  inputSchema := []
  outputSchema := []
  capabilityMetadata := []
  raw := []

/-- The non-empty texts of a list, each once, in order. -/
def distinctNonEmpty : List String → List String → List String
  | _, [] => []
  | seen, v :: rest =>
      if v ≠ "" ∧ seen.contains v = false then v :: distinctNonEmpty (v :: seen) rest
      else distinctNonEmpty seen rest

/-- `OperationDefinition.identifiers`. -/
def OperationDefinition.identifiers (op : OperationDefinition) : List String :=
  distinctNonEmpty [] (op.operationName :: op.canonicalRunType :: op.aliases)

/-- Iterating over `item.get("aliases", [])`. -/
def iterAliases (item : Dict) : Option (List Json) :=
  match item.getOr "aliases" (.arr []) with
  | .arr items => some items
  | .str s => some (s.toList.map (fun c => .str (String.ofList [c])))
  | .obj fields => some (fields.map (fun kv => .str kv.1))
  | _ => none

/-- The non-empty strings of a list of values. -/
def nonEmptyStrings : List Json → List String
  | [] => []
  | .str s :: rest => if s = "" then nonEmptyStrings rest else s :: nonEmptyStrings rest
  | _ :: rest => nonEmptyStrings rest

/-- The strings of a list of values. -/
def strings : List Json → List String
  | [] => []
  | .str s :: rest => s :: strings rest
  | _ :: rest => strings rest

/-- `_safe_dict(a) or _safe_dict(b)`. -/
def dictOr (a b : Dict) : Dict := if a.isEmpty then b else a

/-- `_normalize_operation_dict`. -/
def normalizeOperationDict (nameHint : String) (item : Dict) : Option OperationDefinition := do
  let aliases ← iterAliases item
  let endpoint := item.child "canonical_endpoint"
  return {
    operationName := strOr (orElse (item.get "operation_name") (orElse (item.get "operation_id")
      (orElse (item.get "name") (orElse (item.get "operation") (.str nameHint)))))
    canonicalRunType := strOr (orElse (item.get "canonical_run_type")
      (orElse (item.get "run_type") (item.get "canonical")))
    aliases := nonEmptyStrings aliases
    status := strOr (item.get "status")
    method := upper (strOr (orElse (item.get "method") (endpoint.get "method")))
    path := strOr (orElse (item.get "path") (endpoint.get "path"))
    canonicalEndpoint := endpoint
    governed := truthy (item.get "governed")
    eventSpineEvidence := truthy (item.get "event_spine_evidence")
    requiredAuthorization := dictOr (item.child "required_authorization")
      (dictOr (item.child "authorization") (item.child "auth"))
    inputSchema := item.child "input_schema"
    outputSchema := item.child "output_schema"
    capabilityMetadata := dictOr (item.child "capability") (item.child "metadata")
    raw := item }

/-- The normalised entries of an `operations` dictionary. -/
def normalizeOperationFields : List (String × Json) → Option (List OperationDefinition)
  | [] => some []
  | (name, .obj spec) :: rest => do
      let op ← normalizeOperationDict name spec
      return op :: (← normalizeOperationFields rest)
  | (name, spec) :: rest => do
      let ops ← normalizeOperationFields rest
      return if truthy spec then .named name :: ops else ops

/-- The normalised entries of an `operations` list. -/
def normalizeOperationItems : List Json → Option (List OperationDefinition)
  | [] => some []
  | .str name :: rest => do return .named name :: (← normalizeOperationItems rest)
  | .obj item :: rest => do
      let op ← normalizeOperationDict "" item
      return op :: (← normalizeOperationItems rest)
  | _ :: rest => normalizeOperationItems rest

/-- `normalize_operations_from_capabilities`. -/
def normalizeOperationsFromCapabilities (raw : Dict) : Option (List OperationDefinition) :=
  let body := match raw.get "data" with
    | .obj data => data
    | _ => raw
  match Dict.getOr body "operations" (.arr []) with
  | .obj fields => normalizeOperationFields fields
  | .arr items => normalizeOperationItems items
  | _ => some []

/-! ## The operation table -/

/-- `BoundaryOperation`. -/
structure BoundaryOperation where
  name : String
  path : String
  method : String
  surface : String
  runType : String
  deriving DecidableEq, Repr

/-- The table `_extract_operations` fills. -/
abbrev Operations := List (String × BoundaryOperation)

/-- `found[name] = op`. -/
def Operations.put (found : Operations) (name : String) (op : BoundaryOperation) : Operations :=
  match found with
  | [] => [(name, op)]
  | (k, o) :: rest => if name = k then (name, op) :: rest else (k, o) :: Operations.put rest name op

/-- The generic path of a run. -/
def runsStartPath : String := "/mcp/v1/runs/start"

/-- The inner function `add`. -/
def addOperation (found : Operations) (name path method surface runType : String) : Operations :=
  if name = "" then found
  else
    let path := if path = "" ∧ (surface = "runs.start" ∨ runType ≠ "") then runsStartPath else path
    let surface := if path = "/realize" then "runtime" else surface
    let op : BoundaryOperation := ⟨name, path, upper method, surface, runType⟩
    match found.lookup name with
    | some current =>
        if current.runType ≠ "" ∧ runType = "" then found
        else if current.runType ≠ "" ∧ runType = name ∧ current.runType ≠ runType then found
        else found.put name op
    | none => found.put name op

/-- The run types that register a repository. -/
def registrationRunTypes : List String :=
  ["governance.context.create", "repo.register", "participant.declare", "worker.repo.register"]

/-- `_logical_name_for_run_type`. -/
def logicalNameForRunType (runType : String) : String :=
  if registrationRunTypes.contains runType then "repo.register" else runType

mutual

/-- `_iter_run_types`. -/
def iterRunTypes : Json → List String
  | .obj fields => iterRunTypeFields fields
  | .arr items => iterRunTypeItems items
  | _ => []

/-- `_iter_run_types` over the entries of a dictionary. -/
def iterRunTypeFields : List (String × Json) → List String
  | [] => []
  | (key, v) :: rest =>
      (if ["run_type", "name", "operation"].contains key then strings [v] else [])
        ++ iterRunTypes v ++ iterRunTypeFields rest

/-- `_iter_run_types` over the elements of a list. -/
def iterRunTypeItems : List Json → List String
  | [] => []
  | v :: rest => strings [v] ++ iterRunTypes v ++ iterRunTypeItems rest

end

/-- The additions for one normalised definition. -/
def addDefinition (found : Operations) (op : OperationDefinition) : Operations :=
  let method := strOr (orElse (op.canonicalEndpoint.get "method")
    (orElse (.str op.method) (.str "POST")))
  let path := strOr (orElse (op.canonicalEndpoint.get "path") (.str op.path))
  let surface := if path = runsStartPath then "runs.start" else "http"
  op.identifiers.foldl
    (fun found identifier => addOperation found identifier path method surface op.canonicalRunType)
    found

/-- The additions for one entry of a raw `operations` dictionary. -/
def addRawField (found : Operations) (entry : String × Json) : Operations :=
  match entry.2 with
  | .obj spec =>
      addOperation found entry.1 (pyStr (Dict.getOr spec "path" (.str "")))
        (pyStr (Dict.getOr spec "method" (.str "POST")))
        (pyStr (Dict.getOr spec "surface" (.str "http")))
        (pyStr (Dict.getOr spec "run_type" (.str "")))
  | spec =>
      if truthy spec then
        addOperation found entry.1 (if endsWith entry.1 ".realize" then runsStartPath else "")
          "POST" "http" ""
      else found

/-- The additions for one entry of a raw `operations` list. -/
def addRawItem (found : Operations) (entry : Json) : Operations :=
  match entry with
  | .str name => addOperation found name "" "POST" "http" ""
  | .obj item =>
      let path := pyStr (Dict.getOr item "path" (.str ""))
      let method := pyStr (Dict.getOr item "method" (.str "POST"))
      let operationId := strOr (orElse (Dict.get item "operation_id")
        (orElse (Dict.get item "name") (Dict.get item "operation")))
      let runType := strOr (Dict.get item "run_type")
      let found :=
        if operationId ≠ "" ∧ truthy (Dict.get item "run_types") = false then
          addOperation found operationId path method "http" runType
        else found
      (strings (asList (Dict.get item "run_types"))).foldl
        (fun found rt => addOperation found (logicalNameForRunType rt) path method
          (if operationId = "" then "runs.start" else operationId) rt)
        found
  | _ => found

/-- The additions for one raw `operations` value. -/
def addRawOperations (found : Operations) : Json → Operations
  | .obj fields => fields.foldl addRawField found
  | .arr items => items.foldl addRawItem found
  | _ => found

/-- The additions for one entry of `logical_operation_map`. -/
def addLogicalEntry (found : Operations) (entry : String × Json) : Operations :=
  match entry.2 with
  | .obj spec =>
      let runType := strOr (Dict.get spec "run_type")
      let path := strOr (Dict.get spec "path")
      let method := strOr (orElse (Dict.get spec "method") (.str "POST"))
      let surface := strOr (orElse (Dict.get spec "surface")
        (orElse (Dict.get spec "kind") (.str "runs.start")))
      let names := [entry.1] ++ strings (asList (Dict.get spec "equivalent_to"))
        ++ (if runType = "" then [] else [logicalNameForRunType runType])
      names.foldl (fun found name => addOperation found name path method surface runType) found
  | _ => found

/-- The addition for one run type mentioned anywhere in the document. -/
def addRunType (found : Operations) (rt : String) : Operations :=
  if registrationRunTypes.contains rt then
    addOperation found "repo.register" runsStartPath "POST" "runs.start" rt
  else if rt = "context.compile" ∨ rt = "governed.realize" ∨ rt = "gaps.claim" then
    addOperation found rt runsStartPath "POST" "runs.start" rt
  else found

/-- The `governed_worker_sdk` block. -/
def workerSdk (capabilities : Dict) : Dict := capabilities.child "governed_worker_sdk"

/-- The additions `_extract_operations` makes for the `repo_governance` block. -/
def addRepoGovernance (found : Operations) (repoGovernance : Dict) : Operations :=
  let canonical := strOr (repoGovernance.get "canonical_run_type")
  if canonical = "" then found
  else
    let aliases := match repoGovernance.get "logical_aliases" with
      | .arr items => strings items
      | _ => ["repo.register"]
    (aliases ++ ["repo.register"]).foldl
      (fun found name => addOperation found name runsStartPath "POST" "runs.start" canonical)
      found

/-- The addition for an operation whose run type a block of its own declares. -/
def addDeclared (found : Operations) (name runType : String) : Operations :=
  if runType = "" then found
  else addOperation found name runsStartPath "POST" "runs.start" runType

/-- `_extract_operations`. -/
def extractOperations (capabilities : Dict) : Option Operations := do
  let data := unwrapMcpEnvelope capabilities
  let definitions ← normalizeOperationsFromCapabilities capabilities
  let sdk := workerSdk data
  let logicalMap := sdk.child "logical_operation_map"
  let found := definitions.foldl addDefinition []
  let found := addRawOperations found (capabilities.get "operations")
  let found := addRawOperations found (data.get "operations")
  let found := addRepoGovernance found (sdk.child "repo_governance")
  let found := logicalMap.foldl addLogicalEntry found
  let found := addDeclared found "context.compile"
    (strOr ((sdk.child "governed_context_compile").get "canonical_run_type"))
  let found := addDeclared found "governed.realize"
    (strOr ((logicalMap.child "governed_realization").get "run_type"))
  return (iterRunTypes (.obj data)).foldl addRunType found

/-! ## The `governed_worker_sdk` block -/

/-- `_requires_active_claim` of `governed_demo.py`, on unwrapped capabilities. -/
def requiresActiveClaim (capabilities : Dict) : Bool :=
  isTrue (((workerSdk capabilities).child "repo_governance").get "requires_active_claim")

/-- The gap id candidates of one block. -/
def gapIdCandidates (block : Dict) : List Json :=
  [block.get "canonical_gap_id", block.get "gap_id"]

/-- The first canonical gap id among the values. -/
def firstGapId : List Json → String
  | [] => ""
  | .str s :: rest => if startsWith s "gap_" then s else firstGapId rest
  | _ :: rest => firstGapId rest

/-- `_gap_id_from_capabilities`. -/
def gapIdFromCapabilities (capabilities : Dict) : String :=
  let sdk := workerSdk capabilities
  let blockCandidates := fun block =>
    gapIdCandidates block ++ gapIdCandidates (Dict.child block "gap_id_resolution")
      ++ gapIdCandidates (Dict.child block "gap_prerequisite")
  firstGapId (gapIdCandidates sdk ++ blockCandidates (sdk.child "gap_claim")
    ++ blockCandidates (sdk.child "repo_governance"))

/-- `_gap_discovery_operation`: `none` when the document names no run type for
    gap discovery, which the source raises on. -/
def gapDiscoveryOperation (capabilities : Dict) : Option BoundaryOperation :=
  let sdk := workerSdk capabilities
  let discovery := (sdk.child "logical_operation_map").child "gap_discovery"
  let declared := strOr (orElse (discovery.get "start_with_run_type") (discovery.get "run_type"))
  let runType :=
    if declared = "" then
      strOr (((sdk.child "gap_claim").child "gap_id_resolution").get "start_here_run_type")
    else declared
  if runType = "" then none
  else some {
    name := "gap_discovery"
    path := strOr (orElse (discovery.get "path") (.str runsStartPath))
    method := strOr (orElse (discovery.get "method") (.str "POST"))
    surface := strOr (orElse (discovery.get "surface") (.str "runs.start"))
    runType := runType }

/-- The names missing from the table. -/
def missingOperations (operations : Operations) (names : List String) : List String :=
  names.filter (fun name => (operations.lookup name).isNone)

/-- The message of `_require_operations`, `none` when nothing is missing. -/
def requireOperations (operations : Operations) (names : List String) : Option String :=
  match missingOperations operations names with
  | [] => none
  | missing => some ("MCP capabilities missing required operation(s): " ++ join ", " missing)

end KeyholeOperations
