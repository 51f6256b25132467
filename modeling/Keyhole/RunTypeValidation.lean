import Keyhole.Operations
import Keyhole.UniqueIndex
import Mathlib.Data.List.Sort
import Mathlib.Data.List.DropRight

/-!
# Checking a run type before dispatch

Before a run is dispatched its run type is looked up in three places: the operations the
server advertises, the published canonical names, and the mistakes people are known to
make.  This file models `dispatch/validator.py` with the part of
`discovery/operations.py` that indexes the advertised operations.

* `DiscoveredOperationRegistry` — the index, refused as a whole when two operations
  share an identifier;
* `RunTypeValidator.check` — the verdict on one name;
* `check_valid_iff` — when the verdict is `VALID`, and for which canonical run type.

The table of known mistakes is a module-level dictionary, so it is handed to
`fromCapabilities` as it stands.  `str.lower`, which picks the suggestions, is a
parameter. -/

namespace KeyholeRunTypes

open KeyholeJson KeyholeOperations ExceptLoops

/-! ## The capabilities result -/

/-- One entry of `CapabilitiesResult.operations`.  Operation definitions are objects that
    the list refers to, and it may refer to one of them twice. -/
inductive OperationItem where
  | definition (ref : Nat)
  | dict (data : Dict)
  | other

/-- What the validator and the schema helper read of a `CapabilitiesResult`. -/
structure CapabilitiesResult where
  objects : Nat → OperationDefinition
  operations : List OperationItem
  implementedSurfaces : List String
  runTypeMistakes : List String

/-- The definition `OperationDefinition.from_dict` builds, given the aliases it iterates. -/
def operationOf (aliases : List Json) (data : Dict) : OperationDefinition where
  operationName := strOr (data.get "operation_name")
  canonicalRunType := strOr (data.get "canonical_run_type")
  aliases := strings aliases
  status := strOr (data.get "status")
  method := strOr (data.get "method")
  path := strOr (data.get "path")
  canonicalEndpoint := data.child "canonical_endpoint"
  governed := truthy (data.get "governed")
  eventSpineEvidence := truthy (data.get "event_spine_evidence")
  requiredAuthorization := data.child "required_authorization"
  inputSchema := data.child "input_schema"
  outputSchema := data.child "output_schema"
  capabilityMetadata := data.child "capability_metadata"
  raw := data.child "raw"

/-! ## The index of the advertised operations -/

/-- Why no index is built. -/
inductive RegistryError where
  | typeError
  | ambiguousAlias (message : String)
  deriving DecidableEq

/-- Which object an operation is: one the result refers to, or the one built from the
    entry at a position. -/
inductive ObjectId where
  | held (ref : Nat)
  | built (position : Nat)
  deriving DecidableEq

/-- An operation of the registry. -/
structure Discovered where
  object : ObjectId
  definition : OperationDefinition

/-- The names an operation is found under. -/
def Discovered.identifiers (op : Discovered) : List String := op.definition.identifiers

/-- `if operation.canonical_run_type: operations.append(operation)`. -/
def keepCanonical (op : Discovered) : List Discovered :=
  if op.definition.canonicalRunType = "" then [] else [op]

/-- The operations of one entry. -/
def readItem (objects : Nat → OperationDefinition) (position : Nat) :
    OperationItem → Except RegistryError (List Discovered)
  | .definition ref => .ok (keepCanonical ⟨.held ref, objects ref⟩)
  | .dict data =>
      match iterAliases data with
      | some aliases => .ok (keepCanonical ⟨.built position, operationOf aliases data⟩)
      | none => .error .typeError
  | .other => .ok []

/-- `DiscoveredOperationRegistry`. -/
structure DiscoveredOperationRegistry where
  operations : List Discovered
  byIdentifier : UniqueIndex.Index String Discovered

/-- The message of `AmbiguousOperationAliasError`. -/
def clashMessage (clash : UniqueIndex.Clash String Discovered) : String :=
  "Identifier " ++ KeyholeJson.reprStr clash.key ++ " is advertised by both "
    ++ KeyholeJson.reprStr clash.existing.definition.operationName ++ " and "
    ++ KeyholeJson.reprStr clash.added.definition.operationName ++ "."

/-- `_build_indexes`. -/
def buildIndexes (operations : List Discovered) :
    Except RegistryError DiscoveredOperationRegistry :=
  match UniqueIndex.build Discovered.object Discovered.identifiers operations with
  | .ok index => .ok ⟨operations, index⟩
  | .error clash => .error (.ambiguousAlias (clashMessage clash))

/-- `DiscoveredOperationRegistry.from_capabilities`. -/
def registryFromCapabilities (caps : CapabilitiesResult) :
    Except RegistryError DiscoveredOperationRegistry := do
  let operations ← collect (readItem caps.objects) 0 caps.operations
  buildIndexes operations

/-- `resolve`. -/
def DiscoveredOperationRegistry.resolve (registry : DiscoveredOperationRegistry)
    (identifier : String) : Option Discovered :=
  registry.byIdentifier (strip identifier)

/-! ## Known mistakes -/

/-- A table of mistaken names with the names to suggest. -/
abbrev Mistakes := List (String × List String)

/-- `KNOWN_MISTAKES`. -/
def knownMistakes : Mistakes := [
  ("gaps.states", ["gaps.status"]),
  ("gaps.next", ["gaps.next_open_canonical"]),
  ("gap.status", ["gaps.status"]),
  ("gap.list", ["gaps.list"]),
  ("gap.states", ["gaps.status"]),
  ("context.get", ["context.compile"]),
  ("context.fetch", ["context.compile"]),
  ("context.retrieve", ["context.compile"]),
  ("convergence.statuses", ["convergence.status.v0_1"]),
  ("lineage.get", ["lineage.get.v0_1"])]

/-- `CANONICAL_RUN_TYPES`. -/
def canonicalRunTypes : List String := [
  "auth.login_complete", "auth.login_request", "auth.register", "auth.remove", "auth.status",
  "auth.verify", "bindings.cohort.get", "bindings.cohort.upsert", "connection.identity.inspect",
  "connection.invalidate", "connection.lineage.inspect", "connection.list.inspect",
  "connection.rebind", "connection.status.inspect", "context.compile",
  "context.constraints.build", "convergence.candidate", "convergence.closure",
  "convergence.constraints.check", "convergence.execute", "convergence.frontier.next",
  "convergence.gap.explain", "convergence.gap.resolve", "convergence.gap.validate",
  "convergence.loop", "convergence.operator_view", "convergence.status",
  "convergence.status.v0_1", "convergence.verdict", "digest.register", "events.replay",
  "eventvault.subject_stats.v1", "eventvault.verdicts.list", "flightcheck.v3", "gaps.claim",
  "gaps.evidence.submit", "gaps.get", "gaps.list", "gaps.next_open_canonical", "gaps.resolve",
  "gaps.status", "gaps.submit", "identity.binding.provision", "intent.compile", "intent.submit",
  "lineage.get.v0_1", "ops.pattern.acknowledge", "ops.pattern.get", "ops.pattern.list",
  "promotion.candidate.from_verdict.v0_1", "promotion.submit", "proof.bundle.emit",
  "proofbundle.build", "proofs.e2e.harness", "request.inspect", "run.budget", "run.explain",
  "run.status", "run.tail", "support.bundle", "readiness.explain", "tool.git.commit_push_pr",
  "tool.patch.apply", "workspace.close", "workspace.provision"]

/-- `mistakes.setdefault(bad, [])`, and `good` among its suggestions. -/
def addSuggestion (bad good : String) : Mistakes → Mistakes
  | [] => [(bad, [good])]
  | (name, suggestions) :: rest =>
      if bad = name then
        (name, if suggestions.contains good then suggestions else suggestions ++ [good]) :: rest
      else (name, suggestions) :: addSuggestion bad good rest

/-- A mistake with its correction, unless the name is canonical after all. -/
def learnMistake (canonical : List String) (mistakes : Mistakes) (bad good : String) : Mistakes :=
  if bad ≠ "" ∧ good ≠ "" ∧ canonical.contains bad = false then addSuggestion bad good mistakes
  else mistakes

/-- `text.replace("use ", "")`. -/
def dropUse : List Char → List Char
  | 'u' :: 's' :: 'e' :: ' ' :: rest => dropUse rest
  | c :: rest => c :: dropUse rest
  | [] => []

/-- `text.split(sep, 1)` where `sep` occurs. -/
def cutAt (sep : List Char) : List Char → Option (List Char × List Char)
  | [] => none
  | c :: rest =>
      if sep.isPrefixOf (c :: rest) then some ([], (c :: rest).drop sep.length)
      else (cutAt sep rest).map fun parts => (c :: parts.1, parts.2)

/-- `_incorporate_mistake`. -/
def incorporateMistake (canonical : List String) (mistakes : Mistakes) (item : String) :
    Mistakes :=
  let text := item.toList
  -- `bad (use good)`
  if text.contains '(' && text.contains ')' then
    let bad := text.take (text.idxOf '(')
    let goodPart := (text.take (text.idxOf ')')).drop (text.idxOf '(' + 1)
    learnMistake canonical mistakes (strip (String.ofList bad))
      (strip (String.ofList (dropUse goodPart)))
  else
    -- `bad → good`; a name alone suggests nothing and is forgotten
    match [['→'], ['-', '>'], ['=', '>']].findSome? fun sep => cutAt sep text with
    | some (bad, good) =>
        learnMistake canonical mistakes (strip (String.ofList bad)) (strip (String.ofList good))
    | none => mistakes

/-! ## The validator -/

/-- `RunTypeStatus`. -/
inductive RunTypeStatus where
  | valid
  | invalid
  | unknown
  | ambiguous
  | discoveryUnavailable
  deriving DecidableEq, Repr

/-- `RunTypeCheckResult`. -/
structure RunTypeCheckResult where
  runType : String
  status : RunTypeStatus
  suggestions : List String := []
  reason : String
  source : String := ""
  suppliedIdentifier : String := ""
  canonicalRunType : String := ""
  operationName : String := ""
  deriving DecidableEq, Repr

/-- `RunTypeValidator`. -/
structure RunTypeValidator where
  canonical : List String
  mistakes : Mistakes
  discoveredRegistry : Option DiscoveredOperationRegistry
  discoveryAttempted : Bool
  discoveryAmbiguousReason : String
  discoveryUnavailable : Bool

/-- The names the validator accepts without an operation: the published ones and the
    surfaces the server implements. -/
def publishedNames (caps : CapabilitiesResult) : List String :=
  canonicalRunTypes ++ caps.implementedSurfaces.filter (· != "")

/-- `RunTypeValidator.from_capabilities`, `none` when it raises a `TypeError`. -/
def RunTypeValidator.fromCapabilities (known : Mistakes) (caps : CapabilitiesResult) :
    Option RunTypeValidator :=
  let canonical := publishedNames caps
  let mistakes := caps.runTypeMistakes.foldl (incorporateMistake canonical) known
  let validator := fun registry reason =>
    some ⟨canonical, mistakes, registry, true, reason, false⟩
  match registryFromCapabilities caps with
  | .ok registry => validator (some registry) ""
  -- one clash, and every operation is forgotten
  | .error (.ambiguousAlias message) => validator none message
  | .error .typeError => none

/-- The part of a name before its first dot. -/
def family (name : String) : String := String.ofList (name.toList.takeWhile (· != '.'))

section

variable (lower : String → String)

/-- `_find_close_matches`. -/
def RunTypeValidator.findCloseMatches (v : RunTypeValidator) (runType : String) : List String :=
  let rtLower := lower runType
  let close := fun name =>
    startsWith (lower name) (family rtLower ++ ".")
      || startsWith rtLower (family (lower name) ++ ".")
  -- the names of a set are distinct, so nothing is listed twice
  ((v.canonical.dedup.insertionSort (· ≤ ·)).filter close).take 3

/-- `_mistake_reason`. -/
def mistakeReason (runType : String) : List String → String
  | [suggestion] => "'" ++ runType ++ "' is not canonical. Use '" ++ suggestion ++ "' instead."
  | suggestions =>
      "'" ++ runType ++ "' is not canonical. Consider: " ++ join ", " suggestions ++ "."

/-- The verdict on a name nothing is known about. -/
def RunTypeValidator.unrecognized (v : RunTypeValidator) (runType : String) :
    RunTypeCheckResult :=
  if v.discoveryAmbiguousReason ≠ "" then {
    runType
    status := .ambiguous
    reason := "The refreshed server capability contract contains ambiguous operation aliases: "
      ++ v.discoveryAmbiguousReason
    suppliedIdentifier := runType }
  else {
    runType
    status := if v.discoveryUnavailable then .discoveryUnavailable else .unknown
    reason :=
      if v.discoveryUnavailable then
        "'" ++ runType ++ "' is not recognized and live discovery is unavailable."
      else if v.discoveryAttempted then
        "Operation was not found in the static registry or the refreshed "
          ++ "server capability contract."
      else "'" ++ runType ++ "' is not recognized."
    suppliedIdentifier := runType }

/-- The verdict on a name that is neither an operation's nor canonical. -/
def RunTypeValidator.checkMistaken (v : RunTypeValidator) (runType : String) :
    RunTypeCheckResult :=
  match v.mistakes.lookup runType with
  | some suggestions => {
      runType
      status := .invalid
      suggestions
      reason := mistakeReason runType suggestions }
  | none =>
      match v.findCloseMatches lower runType with
      | [] => v.unrecognized runType
      | close => {
          runType
          status := .invalid
          suggestions := close
          reason := "'" ++ runType ++ "' is not a canonical run type. Did you mean: "
            ++ join ", " close ++ "?" }

/-- The operation a name resolves to, if there is an index. -/
def RunTypeValidator.discover (v : RunTypeValidator) (runType : String) : Option Discovered :=
  v.discoveredRegistry.bind fun registry => registry.resolve runType

/-- `RunTypeValidator.check`. -/
def RunTypeValidator.check (v : RunTypeValidator) (supplied : String) : RunTypeCheckResult :=
  let runType := strip supplied
  if runType = "" then {
    runType := supplied
    status := .invalid
    reason := "Run type must be a non-empty string." }
  else
    match v.discover runType with
    -- the live contract comes first, also for a published name
    | some operation => {
        runType := operation.definition.canonicalRunType
        status := .valid
        reason := "Discovered from live capability contract."
        source := "known_discovered"
        suppliedIdentifier := runType
        canonicalRunType := operation.definition.canonicalRunType
        operationName := operation.definition.operationName }
    | none =>
        if v.canonical.contains runType then {
          runType
          status := .valid
          reason := "Canonical run type."
          source := "known_static"
          suppliedIdentifier := runType
          canonicalRunType := runType
          operationName := runType }
        else v.checkMistaken lower runType

end

/-! ## White space around a name -/

theorem rdropWhile_isSpace (text : List Char) :
    ((text.reverse.dropWhile isSpace).reverse) = text.rdropWhile isSpace := rfl

/-- Stripping leaves no white space in front. -/
theorem dropWhile_stripped (text : List Char) :
    ((text.dropWhile isSpace).rdropWhile isSpace).dropWhile isSpace
      = (text.dropWhile isSpace).rdropWhile isSpace := by
  rw [List.dropWhile_eq_self_iff]
  intro hpos
  -- the first character is the first one of the text that is no white space
  have hfront := List.rdropWhile_prefix isSpace (l := text.dropWhile isSpace)
  have hlen : 0 < (text.dropWhile isSpace).length :=
    Nat.lt_of_lt_of_le hpos hfront.length_le
  have hhead := List.dropWhile_get_zero_not isSpace text hlen
  rwa [hfront.getElem hpos]

@[simp] theorem strip_strip (s : String) : strip (strip s) = strip s := by
  show String.ofList (((String.toList (String.ofList _)).dropWhile isSpace).rdropWhile isSpace) = _
  rw [String.toList_ofList, rdropWhile_isSpace, dropWhile_stripped, List.rdropWhile_idempotent]
  rfl

/-! ## The verdict `VALID` -/

section

variable {lower : String → String} {v : RunTypeValidator}

theorem unrecognized_not_valid (runType : String) : (v.unrecognized runType).status ≠ .valid := by
  rw [RunTypeValidator.unrecognized]
  by_cases hreason : v.discoveryAmbiguousReason ≠ ""
  · rw [if_pos hreason]
    exact nofun
  · rw [if_neg hreason]
    cases v.discoveryUnavailable with
    | true => exact nofun
    | false => exact nofun

theorem checkMistaken_not_valid (runType : String) :
    (v.checkMistaken lower runType).status ≠ .valid := by
  rw [RunTypeValidator.checkMistaken]
  cases v.mistakes.lookup runType with
  | some suggestions => exact nofun
  | none =>
    cases v.findCloseMatches lower runType with
    | nil => exact unrecognized_not_valid runType
    | cons name close => exact nofun

/-- A name is `VALID` when an operation is found under it, or when there is none and the
    name itself is canonical. -/
theorem check_valid_iff (supplied canonical : String) :
    (v.check lower supplied).status = .valid
        ∧ (v.check lower supplied).canonicalRunType = canonical
      ↔ strip supplied ≠ ""
        ∧ ((∃ op, v.discover (strip supplied) = some op
              ∧ op.definition.canonicalRunType = canonical)
          ∨ v.discover (strip supplied) = none ∧ strip supplied ∈ v.canonical
              ∧ strip supplied = canonical) := by
  rw [RunTypeValidator.check]
  by_cases hempty : strip supplied = ""
  · rw [if_pos hempty]
    exact ⟨fun h => (nomatch h.1), fun h => absurd hempty h.1⟩
  · rw [if_neg hempty]
    cases hop : v.discover (strip supplied) with
    | some op =>
      constructor
      · rintro ⟨-, hcanonical⟩
        exact ⟨hempty, .inl ⟨op, rfl, hcanonical⟩⟩
      · rintro ⟨-, ⟨found, hfound, hcanonical⟩ | ⟨hnone, -⟩⟩
        · cases hfound
          exact ⟨rfl, hcanonical⟩
        · exact nomatch hnone
    | none =>
      by_cases hmem : strip supplied ∈ v.canonical
      · show (if _ then _ else _ : RunTypeCheckResult).status = _ ∧ _ ↔ _
        rw [if_pos (List.contains_iff_mem.mpr hmem)]
        constructor
        · rintro ⟨-, hcanonical⟩
          exact ⟨hempty, .inr ⟨rfl, hmem, hcanonical⟩⟩
        · rintro ⟨-, ⟨found, hfound, -⟩ | ⟨-, -, hcanonical⟩⟩
          · exact nomatch hfound
          · exact ⟨rfl, hcanonical⟩
      · show (if _ then _ else _ : RunTypeCheckResult).status = _ ∧ _ ↔ _
        rw [if_neg fun h => hmem (List.contains_iff_mem.mp h)]
        constructor
        · rintro ⟨hstatus, -⟩
          exact absurd hstatus (checkMistaken_not_valid _)
        · rintro ⟨-, ⟨found, hfound, -⟩ | ⟨-, hname, -⟩⟩
          · exact nomatch hfound
          · exact absurd hname hmem

end

/-! ## The validator of a capabilities result -/

/-- The operation the live index finds under a name. -/
def resolveLive (caps : CapabilitiesResult) (name : String) : Option Discovered :=
  (registryFromCapabilities caps).toOption.bind fun registry => registry.resolve name

@[simp] theorem resolveLive_strip (caps : CapabilitiesResult) (name : String) :
    resolveLive caps (strip name) = resolveLive caps name := by
  have hresolve : ∀ registry : DiscoveredOperationRegistry,
      registry.resolve (strip name) = registry.resolve name := by
    intro registry
    rw [DiscoveredOperationRegistry.resolve, strip_strip, DiscoveredOperationRegistry.resolve]
  rw [resolveLive, funext hresolve, resolveLive]

theorem fromCapabilities_spec {known : Mistakes} {caps : CapabilitiesResult}
    {v : RunTypeValidator} (h : RunTypeValidator.fromCapabilities known caps = some v) :
    v.canonical = publishedNames caps ∧ ∀ name, v.discover name = resolveLive caps name := by
  rw [RunTypeValidator.fromCapabilities] at h
  cases hregistry : registryFromCapabilities caps with
  | ok registry =>
    rw [hregistry] at h
    cases h
    refine ⟨rfl, fun name => ?_⟩
    rw [resolveLive, hregistry]
    rfl
  | error raised =>
    rw [hregistry] at h
    cases raised with
    | typeError => exact nomatch h
    | ambiguousAlias message =>
      cases h
      refine ⟨rfl, fun name => ?_⟩
      rw [resolveLive, hregistry]
      rfl

theorem fromCapabilities_isSome {known : Mistakes} {caps : CapabilitiesResult} :
    (∃ v, RunTypeValidator.fromCapabilities known caps = some v)
      ↔ registryFromCapabilities caps ≠ .error .typeError := by
  rw [RunTypeValidator.fromCapabilities]
  cases registryFromCapabilities caps with
  | ok registry => exact ⟨nofun, fun _ => ⟨_, rfl⟩⟩
  | error raised =>
    cases raised with
    | typeError => exact ⟨fun ⟨_, h⟩ => (nomatch h), fun h => absurd rfl h⟩
    | ambiguousAlias message => exact ⟨nofun, fun _ => ⟨_, rfl⟩⟩

end KeyholeRunTypes
