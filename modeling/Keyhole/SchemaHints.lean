import Keyhole.RunTypeValidation
import Keyhole.PhraseSearch

/-!
# Schema hints and the parameters they require

The schema helper answers which parameters a run type takes: from the schema the server
advertises with the operation, or from a table of published hints, to which the
implemented surfaces are added without parameters.  This file models
`dispatch/schema.py` up to `validate_params`.

* `SchemaHelper.getHint` — the hint for a name;
* `SchemaHelper.validateParams` — the warnings about parameters;
* `lookup_schemas` — which names the table of a capabilities result answers.

The example request of a hint is not modelled: nothing reads it. -/

namespace KeyholeSchema

open KeyholeJson KeyholeOperations KeyholeRunTypes

/-- `SchemaHint`. -/
structure SchemaHint where
  runType : String
  available : Bool
  requiredParams : List String := []
  optionalParams : List String := []
  notes : String
  inputSchema : Dict := []
  outputSchema : Dict := []
  schemaSource : String := ""
  canonicalRunType : String := ""
  operationName : String := ""

/-- A table of hints by run type. -/
abbrev Schemas := List (String × SchemaHint)

/-- A hint that is filed under its own run type. -/
def published (runType : String) (requiredParams optionalParams : List String)
    (notes : String) : String × SchemaHint :=
  (runType, { runType, available := true, requiredParams, optionalParams, notes })

/-- `_KNOWN_SCHEMAS`. -/
def knownSchemas : Schemas := [
  published "context.compile" [] [] "Primary context bootstrap surface. No required parameters.",
  published "gaps.list" [] [] "Browse current gaps. No required parameters.",
  published "gaps.status" [] [] "Current gap status posture.",
  published "gaps.next_open_canonical" [] [] "Next open canonical gap.",
  published "lineage.get.v0_1" ["target"] []
    "Causal lineage for a specific target. Requires 'target' parameter.",
  published "convergence.status.v0_1" [] []
    "Current convergence posture. No required parameters.",
  published "convergence.constraints.check" [] ["target", "scope"]
    "Check convergence constraints. Optional: 'target' and 'scope' parameters.",
  published "promotion.submit" ["repo_name"] ["ctxpack_digest"]
    "Submit a promotion request. Re-discover capabilities for current shape.",
  published "gaps.resolve" ["gap_id"] [] "Resolve (close) an open gap.",
  published "gaps.claim" ["gap_id", "repo_name"] ["ctxpack_digest"]
    "Claim an open gap for a repo.",
  published "gaps.submit" ["capability", "repo_name"] ["ctxpack_digest", "description"]
    "Submit a new gap for a capability.",
  published "gaps.get" ["gap_id"] [] "Retrieve a specific gap by ID.",
  published "gaps.evidence.submit" ["gap_id", "evidence"] [] "Submit evidence for an open gap.",
  published "convergence.candidate" [] []
    "Current convergence candidate. Re-discover for exact shape.",
  published "convergence.closure" [] [] "Convergence closure posture.",
  published "convergence.frontier.next" [] [] "Next convergence frontier item.",
  published "convergence.verdict" [] [] "Current convergence verdict.",
  published "convergence.gap.validate" ["gap_id"] []
    "Validate a gap against convergence constraints.",
  published "convergence.gap.resolve" ["gap_id"] [] "Resolve a gap through the convergence path.",
  published "convergence.gap.explain" ["gap_id"] [] "Explain the current state of a gap.",
  published "convergence.loop" [] [] "Convergence loop execution.",
  published "convergence.execute" [] [] "Execute a convergence cycle.",
  published "convergence.operator_view" [] [] "Operator view of current convergence state.",
  published "convergence.status" [] []
    "Convergence status. Prefer convergence.status.v0_1 for versioned contract.",
  published "promotion.candidate.from_verdict.v0_1" [] []
    "Build a promotion candidate from a convergence verdict.",
  published "ops.pattern.acknowledge" ["pattern_id"] [] "Acknowledge an ops pattern.",
  published "ops.pattern.get" ["pattern_id"] [] "Get a specific ops pattern.",
  published "ops.pattern.list" [] [] "List all ops patterns.",
  published "connection.identity.inspect" [] [] "Inspect current connection identity.",
  published "connection.status.inspect" [] [] "Inspect current connection status.",
  published "connection.list.inspect" [] [] "List and inspect current connections.",
  published "connection.lineage.inspect" [] [] "Inspect connection lineage.",
  published "connection.rebind" [] [] "Rebind the current connection.",
  published "connection.invalidate" [] [] "Invalidate the current connection.",
  published "flightcheck.v3" [] [] "Pre-flight readiness check v3.",
  published "auth.login_request" [] [] "Initiate auth login request.",
  published "auth.login_complete" [] [] "Complete auth login flow.",
  published "auth.register" [] [] "Register a new auth identity.",
  published "auth.verify" [] [] "Verify current auth identity.",
  published "auth.status" [] [] "Check current auth status.",
  published "auth.remove" [] [] "Remove an auth identity.",
  published "context.constraints.build" [] [] "Build context constraints.",
  published "tool.patch.apply" ["patch"] [] "Apply a patch via the tool surface.",
  published "tool.git.commit_push_pr" ["message"] ["branch", "title"]
    "Commit, push, and open a PR via the tool surface.",
  published "events.replay" [] ["from_cursor", "limit"] "Replay events from the Event Spine.",
  published "proofs.e2e.harness" [] [] "Run the end-to-end proof harness.",
  published "intent.compile" [] [] "Compile current intent context.",
  published "intent.submit" [] ["intent_ref"] "Submit a governed intent for dispatch.",
  published "workspace.provision" ["repo_name", "gap_id", "claim_token"] []
    "Provision a governed workspace for a claimed gap.",
  published "workspace.close" ["workspace_id"] [] "Close a provisioned workspace.",
  published "readiness.explain" [] []
    "Explain current platform readiness state and invariant results.",
  published "proof.bundle.emit" ["workspace_id"] [] "Emit a proof bundle for a workspace.",
  published "proofbundle.build" [] [] "Build a proof bundle.",
  published "run.status" [] ["run_id", "request_id", "correlation_id"]
    "Server-backed run status for a durable run, request, or correlation identifier.",
  published "run.explain" [] ["run_id", "request_id", "correlation_id"]
    "Server-backed run explanation for a durable run, request, or correlation identifier.",
  published "request.inspect" [] ["request_id", "run_id", "correlation_id"]
    "Server-backed request inspection linked to run, context, proof, and receipt evidence.",
  published "support.bundle" [] ["run_id", "request_id", "correlation_id"]
    "Server-backed support bundle or manifest for a durable run/request chain.",
  published "run.tail" [] ["run_id", "request_id", "correlation_id", "cursor", "limit"]
    "Server-backed ordered run observations for a durable run/request chain.",
  published "run.budget" [] ["run_id", "request_id", "correlation_id"]
    "Run-level budget and limit posture for a durable run/request chain.",
  published "bindings.cohort.get" [] ["cohort_id"] "Get cohort binding information.",
  published "bindings.cohort.upsert" ["cohort_id"] [] "Upsert a cohort binding.",
  published "digest.register" ["digest"] [] "Register a canonical digest.",
  published "identity.binding.provision" [] [] "Provision an identity binding.",
  published "eventvault.subject_stats.v1" [] ["subject"] "Get Event Vault subject statistics.",
  published "eventvault.verdicts.list" [] ["cursor", "limit"]
    "List verdicts from the Event Vault."]

/-- The hint of a surface the capabilities declare. -/
def surfaceHint (surface : String) : SchemaHint where
  runType := surface
  available := true
  notes := "Discovered via capabilities. Consult schema discovery for parameter details."

/-- A surface added to the table, unless the table knows it. -/
def addSurface (schemas : Schemas) (surface : String) : Schemas :=
  if surface ≠ "" ∧ (schemas.lookup surface).isNone then
    schemas ++ [(surface, surfaceHint surface)]
  else schemas

/-- The table of a capabilities result. -/
def schemasOf (caps : CapabilitiesResult) : Schemas :=
  caps.implementedSurfaces.foldl addSurface knownSchemas

/-- `SchemaHelper`. -/
structure SchemaHelper where
  schemas : Schemas
  discoveredRegistry : Option DiscoveredOperationRegistry

/-- `SchemaHelper.from_capabilities`, `none` when it raises a `TypeError`. -/
def SchemaHelper.fromCapabilities (caps : CapabilitiesResult) : Option SchemaHelper :=
  match registryFromCapabilities caps with
  | .ok registry => some ⟨schemasOf caps, some registry⟩
  | .error (.ambiguousAlias _) => some ⟨schemasOf caps, none⟩
  | .error .typeError => none

/-- The hint for an operation of the live index. -/
def operationHint (schemas : Schemas) (op : OperationDefinition) : SchemaHint :=
  if op.inputSchema.isEmpty = false then {
    runType := op.canonicalRunType
    available := true
    notes := "Schema discovered from live capability contract."
    inputSchema := op.inputSchema
    outputSchema := op.outputSchema
    schemaSource := "live_capabilities"
    canonicalRunType := op.canonicalRunType
    operationName := op.operationName }
  else
    match schemas.lookup op.canonicalRunType with
    | some hint => { hint with
        canonicalRunType := op.canonicalRunType
        operationName := op.operationName
        schemaSource := "static_fallback" }
    | none => {
        runType := op.canonicalRunType
        available := false
        notes := "No live or static schema available for '" ++ op.canonicalRunType ++ "'."
        schemaSource := "unavailable"
        canonicalRunType := op.canonicalRunType
        operationName := op.operationName }

/-- `text or default`. -/
def textOr (text default : String) : String := if text = "" then default else text

/-- The hint for a name no operation is found under: the name is looked up as it is. -/
def tableHint (schemas : Schemas) (runType : String) : SchemaHint :=
  match schemas.lookup runType with
  | some hint => { hint with
      schemaSource := textOr hint.schemaSource "static"
      canonicalRunType := textOr hint.canonicalRunType runType
      operationName := textOr hint.operationName runType }
  | none => {
      runType
      available := false
      notes := "No schema available for '" ++ runType
        ++ "'. Re-discover via GET /mcp/v1/capabilities or "
        ++ "consult published guidance before assuming request shape." }

/-- `get_hint`. -/
def SchemaHelper.getHint (helper : SchemaHelper) (runType : String) : SchemaHint :=
  match helper.discoveredRegistry.bind fun registry => registry.resolve runType with
  | some op => operationHint helper.schemas op.definition
  -- the index strips the name, the table does not
  | none => tableHint helper.schemas runType

/-- The parameters `validate_params` requires under a hint. -/
def SchemaHint.required (hint : SchemaHint) : List String :=
  if hint.requiredParams.isEmpty then strings (asList (hint.inputSchema.get "required"))
  else hint.requiredParams

/-- The warning when no schema is available. -/
def unavailableWarning (runType : String) : String :=
  "Schema unavailable for '" ++ runType
    ++ "'. Cannot validate parameters. Re-discover first."

/-- The warning about a required parameter. -/
def missingWarning (runType req : String) : String :=
  "Required parameter '" ++ req ++ "' is missing for '" ++ runType ++ "'."

/-- `validate_params`. -/
def SchemaHelper.validateParams (helper : SchemaHelper) (runType : String)
    (params : Option Dict) : List String :=
  let hint := helper.getHint runType
  if hint.available = false then [unavailableWarning runType]
  else
    match params with
    -- parameters that were not supplied yet are not missed
    | none => []
    | some actual =>
        (hint.required.filter fun req => !Dict.has actual req).map (missingWarning runType)

theorem occursIn_iff (phrase text : List Char) :
    occursIn phrase text = true ↔ phrase <:+: text := by
  induction text with
  | nil => rw [occursIn, List.isPrefixOf_iff_prefix, List.prefix_nil, List.infix_nil]
  | cons c rest ih =>
    rw [occursIn, Bool.or_eq_true, List.isPrefixOf_iff_prefix, ih, List.infix_cons_iff]

/-! ## The table of a capabilities result -/

theorem lookup_addSurface (schemas : Schemas) (surface name : String) :
    (addSurface schemas surface).lookup name
      = (schemas.lookup name).or
          (if name = surface ∧ surface ≠ "" then some (surfaceHint name) else none) := by
  rw [addSurface]
  by_cases hnew : surface ≠ "" ∧ (schemas.lookup surface).isNone
  · rw [if_pos hnew, List.lookup_append]
    by_cases hname : name = surface
    · subst hname
      rw [List.lookup_cons_self, if_pos ⟨rfl, hnew.1⟩]
    · rw [if_neg fun h => hname h.1, List.lookup_cons, beq_false_of_ne hname]
      rfl
  · rw [if_neg hnew]
    by_cases hname : name = surface ∧ surface ≠ ""
    · obtain ⟨rfl, hne⟩ := hname
      cases hlookup : schemas.lookup name with
      | none => exact absurd ⟨hne, hlookup ▸ rfl⟩ hnew
      | some hint => rfl
    · rw [if_neg hname, Option.or_none]

theorem lookup_foldl_addSurface (surfaces : List String) (schemas : Schemas) (name : String) :
    (surfaces.foldl addSurface schemas).lookup name
      = (schemas.lookup name).or
          (if name ∈ surfaces.filter (· != "") then some (surfaceHint name) else none) := by
  induction surfaces generalizing schemas with
  | nil =>
    rw [List.foldl_nil, List.filter_nil, if_neg List.not_mem_nil, Option.or_none]
  | cons surface rest ih =>
    rw [List.foldl_cons, ih, lookup_addSurface, Option.or_assoc]
    congr 1
    by_cases hempty : surface = ""
    · rw [if_neg fun h => h.2 hempty, Option.none_or, hempty]
      rfl
    · have hkeep : (surface :: rest).filter (· != "") = surface :: rest.filter (· != "") :=
        List.filter_cons_of_pos (bne_iff_ne.mpr hempty)
      rw [hkeep]
      by_cases hname : name = surface
      · rw [if_pos ⟨hname, hempty⟩, if_pos (List.mem_cons.mpr (.inl hname)), Option.some_or]
      · rw [if_neg fun h => hname h.1, Option.none_or]
        by_cases hrest : name ∈ rest.filter (· != "")
        · rw [if_pos hrest, if_pos (List.mem_cons_of_mem _ hrest)]
        · rw [if_neg hrest, if_neg (List.not_mem_cons_of_ne_of_not_mem hname hrest)]

theorem lookup_schemas (caps : CapabilitiesResult) (name : String) :
    (schemasOf caps).lookup name
      = (knownSchemas.lookup name).or
          (if name ∈ caps.implementedSurfaces.filter (· != "") then some (surfaceHint name)
            else none) :=
  lookup_foldl_addSurface caps.implementedSurfaces knownSchemas name

/-- The parameters a published run type requires. -/
def publishedRequired (name : String) : List String :=
  match knownSchemas.lookup name with
  | some hint => hint.requiredParams
  | none => []

/-- What the published hints have in common. -/
structure Published (hint : SchemaHint) : Prop where
  available : hint.available = true
  noSchema : hint.inputSchema = []

variable {name phrase : String} {caps : CapabilitiesResult}

theorem published_of_lookup {hint : SchemaHint}
    (h : knownSchemas.lookup name = some hint) : Published hint := by
  have hall : ∀ entry ∈ knownSchemas, entry.2.available = true
      ∧ entry.2.inputSchema.isEmpty = true := by decide
  obtain ⟨havailable, hschema⟩ := hall (name, hint) (mem_of_lookup h)
  exact ⟨havailable, List.isEmpty_iff.mp hschema⟩

/-- The table and the list of canonical names have the same names. -/
theorem canonical_known :
    name ∈ canonicalRunTypes ↔ ∃ hint, knownSchemas.lookup name = some hint := by
  have hperm : (knownSchemas.map Prod.fst).isPerm canonicalRunTypes = true := by decide +kernel
  rw [← (List.isPerm_iff.mp hperm).mem_iff]
  constructor
  · intro h
    obtain ⟨entry, hentry, rfl⟩ := List.mem_map.mp h
    exact Option.isSome_iff_exists.mp
      (List.lookup_isSome_iff.mpr ⟨entry, hentry, beq_self_eq_true _⟩)
  · rintro ⟨hint, hhint⟩
    exact List.mem_map.mpr ⟨(name, hint), mem_of_lookup hhint, rfl⟩

/-- The text neither starts nor ends with white space, and has no `R` in it. -/
def plainText (text : List Char) : Bool :=
  text.head?.all (fun c => !isSpace c) && text.getLast?.all (fun c => !isSpace c)
    && !text.contains 'R'

theorem strip_of_plain (h : plainText name.toList = true) : strip name = name := by
  rw [plainText, Bool.and_eq_true, Bool.and_eq_true] at h
  obtain ⟨⟨hfirst, hlast⟩, -⟩ := h
  have hfront : name.toList.dropWhile isSpace = name.toList := by
    cases hname : name.toList with
    | nil => rfl
    | cons c rest =>
      rw [hname] at hfirst
      exact List.dropWhile_cons_of_neg (by simpa using hfirst)
  have hback : name.toList.rdropWhile isSpace = name.toList := by
    rw [List.rdropWhile_eq_self_iff]
    intro hne hspace
    rw [List.getLast?_eq_some_getLast hne, Option.all_some, hspace] at hlast
    exact nomatch hlast
  show String.ofList ((name.toList.dropWhile isSpace).rdropWhile isSpace) = name
  rw [hfront, hback, String.ofList_toList]

theorem quiet_of_plain (h : plainText name.toList = true) :
    contains name "Required parameter" = false := by
  rw [plainText, Bool.and_eq_true, Bool.not_eq_true'] at h
  rw [contains, Bool.eq_false_iff, ne_eq, occursIn_iff]
  intro hinfix
  have hmem : 'R' ∈ name.toList := hinfix.subset (by decide)
  rw [List.contains_iff_mem.mpr hmem] at h
  exact nomatch h.2

/-- The names under which the table requires something are plain. -/
theorem requiring_plain : ∀ entry ∈ knownSchemas, entry.2.requiredParams.isEmpty = false →
    plainText entry.1.toList = true := by
  decide +kernel

/-- A name under which the table requires something has no white space around it, and does
    not read like a warning. -/
theorem requiring_spelled (h : publishedRequired name ≠ []) :
    strip name = name ∧ contains name "Required parameter" = false := by
  rw [publishedRequired] at h
  cases hlookup : knownSchemas.lookup name with
  | none =>
    rw [hlookup] at h
    exact absurd rfl h
  | some hint =>
    rw [hlookup] at h
    have hplain := requiring_plain (name, hint) (mem_of_lookup hlookup)
      (Bool.eq_false_iff.mpr fun hempty => h (List.isEmpty_iff.mp hempty))
    exact ⟨strip_of_plain hplain, quiet_of_plain hplain⟩

/-- Nothing is required under a padded name. -/
theorem publishedRequired_padded (h : strip name ≠ name) :
    publishedRequired name = [] := by
  by_contra hrequired
  exact h (requiring_spelled hrequired).1

/-- The hint of the table for a name: published names and surfaces have one, and only the
    published names require anything. -/
theorem lookup_schemas_cases (caps : CapabilitiesResult) (name : String) :
    (name ∈ publishedNames caps
        ∧ ∃ hint, (schemasOf caps).lookup name = some hint ∧ hint.available = true
          ∧ hint.inputSchema = [] ∧ hint.requiredParams = publishedRequired name)
      ∨ name ∉ publishedNames caps ∧ (schemasOf caps).lookup name = none
        ∧ publishedRequired name = [] := by
  rw [lookup_schemas, publishedNames, List.mem_append, canonical_known, publishedRequired]
  cases hlookup : knownSchemas.lookup name with
  | some hint =>
    have hpublished := published_of_lookup hlookup
    exact .inl ⟨.inl ⟨hint, rfl⟩, hint, rfl, hpublished.available, hpublished.noSchema, rfl⟩
  | none =>
    by_cases hsurface : name ∈ caps.implementedSurfaces.filter (· != "")
    · rw [if_pos hsurface]
      exact .inl ⟨.inr hsurface, surfaceHint name, rfl, rfl, rfl, rfl⟩
    · rw [if_neg hsurface]
      refine .inr ⟨?_, rfl, rfl⟩
      rintro (⟨hint, hhint⟩ | hmem)
      · exact nomatch hhint
      · exact hsurface hmem

/-! ## Hints -/

theorem required_of_noSchema {hint : SchemaHint} (h : hint.inputSchema = []) :
    hint.required = hint.requiredParams := by
  rw [SchemaHint.required, h]
  cases hparams : hint.requiredParams with
  | nil => rfl
  | cons req rest => rfl

theorem tableHint_published (h : name ∈ publishedNames caps) :
    (tableHint (schemasOf caps) name).available = true
      ∧ (tableHint (schemasOf caps) name).required = publishedRequired name := by
  rcases lookup_schemas_cases caps name with ⟨-, hint, hlookup, havailable, hschema, hreq⟩ | ⟨hnot, -⟩
  · rw [tableHint, hlookup]
    refine ⟨havailable, ?_⟩
    rw [← hreq]
    exact required_of_noSchema hschema
  · exact absurd h hnot

theorem tableHint_unpublished (h : name ∉ publishedNames caps) :
    (tableHint (schemasOf caps) name).available = false
      ∧ (tableHint (schemasOf caps) name).required = [] := by
  rcases lookup_schemas_cases caps name with ⟨hmem, -⟩ | ⟨-, hlookup, -⟩
  · exact absurd hmem h
  · rw [tableHint, hlookup]
    exact ⟨rfl, rfl⟩

/-- There is a schema for the operation, live or published. -/
def HasSchema (caps : CapabilitiesResult) (op : OperationDefinition) : Prop :=
  op.inputSchema ≠ [] ∨ op.canonicalRunType ∈ publishedNames caps

theorem operationHint_available {op : OperationDefinition} :
    (operationHint (schemasOf caps) op).available = true ↔ HasSchema caps op := by
  rw [operationHint]
  cases hschema : op.inputSchema with
  | cons field fields => exact ⟨fun _ => .inl (hschema ▸ List.cons_ne_nil _ _), fun _ => rfl⟩
  | nil =>
    show (match (schemasOf caps).lookup op.canonicalRunType with
      | some hint => _ | none => _ : SchemaHint).available = true ↔ _
    rcases lookup_schemas_cases caps op.canonicalRunType with
      ⟨hmem, hint, hlookup, havailable, -⟩ | ⟨hnot, hlookup, -⟩
    · rw [hlookup]
      exact ⟨fun _ => .inr hmem, fun _ => havailable⟩
    · rw [hlookup]
      constructor
      · exact nofun
      · rintro (h | h)
        · exact absurd hschema h
        · exact absurd h hnot

/-- An operation without a schema requires nothing. -/
theorem required_of_unavailable {op : OperationDefinition}
    (h : ¬ HasSchema caps op) : (operationHint (schemasOf caps) op).required = [] := by
  rw [operationHint]
  cases hschema : op.inputSchema with
  | cons field fields => exact absurd (.inl (hschema ▸ List.cons_ne_nil _ _)) h
  | nil =>
    show (match (schemasOf caps).lookup op.canonicalRunType with
      | some hint => _ | none => _ : SchemaHint).required = []
    rcases lookup_schemas_cases caps op.canonicalRunType with ⟨hmem, -⟩ | ⟨-, hlookup, -⟩
    · exact absurd (.inr hmem) h
    · rw [hlookup]
      rfl

/-! ## Warnings -/

/-- A phrase of a warning: it starts and ends with a letter and has no quote in it. -/
structure Phrase (phrase : String) : Prop where
  nonempty : phrase.toList ≠ []
  first : ∀ c ∈ phrase.toList.head?, isSpace c = false
  last : ∀ c ∈ phrase.toList.getLast?, isSpace c = false
  unquoted : '\'' ∉ phrase.toList

theorem contains_strip (h : Phrase phrase) (text : String) :
    contains (strip text) phrase = contains text phrase := by
  rw [Bool.eq_iff_iff, contains, contains, occursIn_iff, occursIn_iff, strip, String.toList_ofList,
    rdropWhile_isSpace, PhraseSearch.infix_rdropWhile_iff h.last h.nonempty,
    PhraseSearch.infix_dropWhile_iff h.first h.nonempty]

theorem contains_append_left {text : String} (h : contains text phrase = true)
    (rest : String) : contains (text ++ rest) phrase = true := by
  rw [contains, occursIn_iff] at h ⊢
  rw [String.toList_append]
  exact h.trans (List.prefix_append _ _).isInfix

theorem contains_append_right {text : String} (h : contains text phrase = true)
    (before : String) : contains (before ++ text) phrase = true := by
  rw [contains, occursIn_iff] at h ⊢
  rw [String.toList_append]
  exact h.trans (List.suffix_append _ _).isInfix

/-- A phrase occurs in a text about a quoted name when one of the three parts has it. -/
theorem contains_quoted {before after : String} {left right : List Char}
    (h : Phrase phrase) (hbefore : before.toList = left ++ ['\''])
    (hafter : after.toList = '\'' :: right) (name : String) :
    contains (before ++ name ++ after) phrase = true
      ↔ phrase.toList <:+: left ∨ contains name phrase = true ∨ phrase.toList <:+: right := by
  rw [contains, contains, occursIn_iff, occursIn_iff, String.toList_append, String.toList_append,
    hbefore, hafter, List.append_assoc, List.append_assoc, List.singleton_append,
    PhraseSearch.infix_separated_iff h.unquoted, PhraseSearch.infix_separated_iff h.unquoted]

/-- `"Required parameter" in text and "is missing" in text`. -/
def readsMissing (text : String) : Bool :=
  contains text "Required parameter" && contains text "is missing"

theorem phrase_required : Phrase "Required parameter" where
  nonempty := by decide
  first := by
    intro c hc
    cases hc
    decide
  last := by
    intro c hc
    cases hc
    decide
  unquoted := by decide

theorem phrase_missing : Phrase "is missing" where
  nonempty := by decide
  first := by
    intro c hc
    cases hc
    decide
  last := by
    intro c hc
    cases hc
    decide
  unquoted := by decide

theorem readsMissing_strip (text : String) : readsMissing (strip text) = readsMissing text := by
  rw [readsMissing, contains_strip phrase_required, contains_strip phrase_missing, readsMissing]

theorem warning_open : "Schema unavailable for '".toList
    = "Schema unavailable for ".toList ++ ['\''] := by
  have hquoted : "Schema unavailable for '".toList = _ := String.toList_ofList
  have hfront : "Schema unavailable for ".toList = _ := String.toList_ofList
  rw [hquoted, hfront]
  rfl

theorem warning_close : "'. Cannot validate parameters. Re-discover first.".toList
    = '\'' :: ". Cannot validate parameters. Re-discover first.".toList := by
  have hquoted : "'. Cannot validate parameters. Re-discover first.".toList = _ :=
    String.toList_ofList
  have hback : ". Cannot validate parameters. Re-discover first.".toList = _ :=
    String.toList_ofList
  rw [hquoted, hback]

/-- Neither half of the warning has one of the two phrases in it. -/
theorem warning_quiet : ∀ phrase ∈ ["Required parameter", "is missing"],
    occursIn phrase.toList "Schema unavailable for ".toList = false ∧
      occursIn phrase.toList ". Cannot validate parameters. Re-discover first.".toList = false := by
  have hfront : "Schema unavailable for ".toList = _ := String.toList_ofList
  have hback : ". Cannot validate parameters. Re-discover first.".toList = _ :=
    String.toList_ofList
  rw [hfront, hback]
  decide

/-- A phrase that the warning itself does not use is in it when it is in the name. -/
theorem contains_unavailable (h : Phrase phrase)
    (hbefore : occursIn phrase.toList "Schema unavailable for ".toList = false)
    (hafter : occursIn phrase.toList
      ". Cannot validate parameters. Re-discover first.".toList = false) (runType : String) :
    contains (unavailableWarning runType) phrase = contains runType phrase := by
  have hquoted : contains (unavailableWarning runType) phrase = true ↔ _ :=
    contains_quoted h warning_open warning_close runType
  rw [Bool.eq_iff_iff, hquoted]
  rw [Bool.eq_false_iff, ne_eq, occursIn_iff] at hbefore hafter
  constructor
  · rintro (hfront | hname | hback)
    · exact absurd hfront hbefore
    · exact hname
    · exact absurd hback hafter
  · exact fun hname => .inr (.inl hname)

theorem readsMissing_unavailable (runType : String) :
    readsMissing (unavailableWarning runType) = readsMissing runType := by
  obtain ⟨hfront, hback⟩ := warning_quiet "Required parameter" List.mem_cons_self
  obtain ⟨hfront', hback'⟩ := warning_quiet "is missing" (List.mem_cons_of_mem _ List.mem_cons_self)
  rw [readsMissing, contains_unavailable phrase_required hfront hback,
    contains_unavailable phrase_missing hfront' hback', readsMissing]

theorem readsMissing_missing (runType req : String) :
    readsMissing (missingWarning runType req) = true := by
  have hrequired : contains "Required parameter '" "Required parameter" = true := by decide
  have hmissing : contains "' is missing for '" "is missing" = true := by decide
  rw [readsMissing, Bool.and_eq_true]
  constructor
  · exact contains_append_left (contains_append_left (contains_append_left
      (contains_append_left hrequired req) _) runType) _
  · exact contains_append_left (contains_append_left (contains_append_right hmissing _) runType) _

end KeyholeSchema
