import Keyhole.RunTypeValidation

/-!
# The cache of a capabilities snapshot

`discovery/cache.py`: a normalised `CapabilitiesResult` is written to a file with the base URL
it came from and the time it expires, and read back by `load` and `load_valid`.  On the way
each operation goes from a dataclass to a dictionary, to JSON text, back to a dictionary and
through `OperationDefinition.from_dict` to a dataclass.

What is not the repository's own comes in as `Libraries`: `json`, `hashlib`, the
`isoformat` of a time, and pydantic on the sections of the result the cache does not look
into.  `Faithful` says what the cache relies on.

  - `answer_loaded`: a registry answers the same from the loaded result as from the live one.
  - `transparent_and_robust_iff`: that, and which files `load` and `load_valid` raise on.
  - `list_raises`: a file that holds a JSON list. -/

namespace KeyholeDiscoveryCache

open KeyholeJson KeyholeOperations KeyholeRunTypes ExceptLoops

/-! ## The result -/

/-- An entry of `operations: List[Any]`: an `OperationDefinition`, or a JSON value. -/
inductive Item
  | definition (op : OperationDefinition)
  | value (v : Json)

/-- The typed sections of a result.  The cache reads three texts of them. -/
structure Sections (σ : Type) where
  contract : String
  digest : String
  ctxRefSha256 : String
  others : σ

/-- `CapabilitiesResult`. -/
structure CapabilitiesResult (σ : Type) where
  sections : Sections σ
  operations : List Item
  raw : Dict

/-- `OperationDefinition.to_dict`. -/
def toDict (op : OperationDefinition) : Dict :=
  [("operation_name", .str op.operationName),
    ("canonical_run_type", .str op.canonicalRunType),
    ("aliases", .arr (op.aliases.map Json.str)),
    ("status", .str op.status),
    ("method", .str op.method),
    ("path", .str op.path),
    ("canonical_endpoint", .obj op.canonicalEndpoint),
    ("governed", .bool op.governed),
    ("event_spine_evidence", .bool op.eventSpineEvidence),
    ("required_authorization", .obj op.requiredAuthorization),
    ("input_schema", .obj op.inputSchema),
    ("output_schema", .obj op.outputSchema),
    ("capability_metadata", .obj op.capabilityMetadata),
    ("raw", .obj op.raw)]

/-! ## What is read from a file -/

/-- What `json.loads` makes of the bytes of a file, once they are decoded. -/
inductive Reading
  | value (v : Json)
  | malformed
  | undecodable
  | refused

/-- What reading raises: a `UnicodeDecodeError`, another error of `json.loads` than a
    `JSONDecodeError` (an integer with too many digits, nesting that is too deep), or the
    `AttributeError` of a value without `get`. -/
inductive Raised
  | unicodeDecodeError
  | refused
  | attributeError
  deriving DecidableEq, Repr

/-- The cache file. -/
inductive CacheFile
  | missing
  | unreadable
  | content (bytes : List UInt8)

/-- Code outside the repository. -/
structure Libraries (σ : Type) where
  dumps : Json → List UInt8
  loads : List UInt8 → Reading
  sha256 : Json → String
  isoformat : Int → String
  fromisoformat : String → Option Int
  dumpSections : Sections σ → Dict
  validateSections : Dict → Option (Sections σ)

section Cache

variable {σ : Type} (lib : Libraries σ)

/-- An entry in `model_dump`: a dataclass becomes the dictionary of its fields. -/
def Item.dump : Item → Json
  | .definition op => .obj (toDict op)
  | .value v => v

/-- `result.model_dump()`. -/
def modelDump (result : CapabilitiesResult σ) : Dict :=
  lib.dumpSections result.sections ++
    [("operations", .arr (result.operations.map Item.dump)), ("raw", .obj result.raw)]

/-- A field of type `List[Any]`. -/
def listField : Option Json → Option (List Item)
  | none => some []
  | some (.arr items) => some (items.map Item.value)
  | some _ => none

/-- A field of type `Dict[str, Any]`. -/
def dictField : Option Json → Option Dict
  | none => some []
  | some (.obj fields) => some fields
  | some _ => none

/-- `CapabilitiesResult.model_validate`, `none` when it raises. -/
def modelValidate (data : Dict) : Option (CapabilitiesResult σ) := do
  let sections ← lib.validateSections data
  let operations ← listField (data.lookup "operations")
  let raw ← dictField (data.lookup "raw")
  return ⟨sections, operations, raw⟩

/-- `CapabilitiesCache`, its paths apart. -/
structure CapabilitiesCache where
  baseUrl : String
  ttlSeconds : Int

/-- The envelope that `store` writes at a time. -/
def envelope (cache : CapabilitiesCache) (cachedAt : Int) (result : CapabilitiesResult σ) : Json :=
  .obj [("base_url", .str cache.baseUrl),
    ("server_identity", .str result.sections.contract),
    ("capability_contract_version", .str result.sections.contract),
    ("runtime_digest", .str (if result.sections.digest = "" then result.sections.ctxRefSha256
      else result.sections.digest)),
    ("raw_response_digest", .str ("sha256:" ++ lib.sha256 (.obj result.raw))),
    ("cached_at", .str (lib.isoformat cachedAt)),
    ("fetched_at", .str (lib.isoformat cachedAt)),
    ("expires_at", .str (lib.isoformat (cachedAt + max cache.ttlSeconds 0))),
    ("advisory", .bool true),
    ("result", .obj (modelDump lib result))]

/-- `store`: the file it leaves. -/
def store (cache : CapabilitiesCache) (cachedAt : Int) (result : CapabilitiesResult σ) :
    CacheFile :=
  .content (lib.dumps (envelope lib cache cachedAt result))

/-- `json.loads(path.read_text(…))`, with the errors that are caught as `none`. -/
def readEnvelope : CacheFile → Except Raised (Option Json)
  | .missing => .ok none
  | .unreadable => .ok none
  | .content bytes =>
      match lib.loads bytes with
      | .value v => .ok (some v)
      | .malformed => .ok none
      | .undecodable => .error .unicodeDecodeError
      | .refused => .error .refused

/-- `envelope.get(key)`. -/
def envelopeGet (v : Json) (key : String) : Except Raised Json :=
  match v with
  | .obj fields => .ok (Dict.get fields key)
  | _ => .error .attributeError

/-- `load`. -/
def load (file : CacheFile) : Except Raised (Option (CapabilitiesResult σ)) := do
  match ← readEnvelope lib file with
  | none => return none
  | some v =>
      match ← envelopeGet v "result" with
      | .obj data => return modelValidate lib data
      | _ => return none

/-- Whether the envelope has expired; a text that is no time counts as expired. -/
def expired (now : Int) : Json → Bool
  | .str text =>
      if text = "" then false
      else
        match lib.fromisoformat text with
        | some expiresAt => decide (expiresAt ≤ now)
        | none => true
  | _ => false

/-- `envelope.get("base_url") != self._base_url`, which is only asked with a base URL. -/
def otherServer (cache : CapabilitiesCache) (v : Json) : Except Raised Bool :=
  if cache.baseUrl = "" then .ok false
  else (envelopeGet v "base_url").map fun
    | .str url => url != cache.baseUrl
    | _ => true

/-- `load_valid` at a time. -/
def loadValid (cache : CapabilitiesCache) (now : Int) (file : CacheFile) :
    Except Raised (Option (CapabilitiesResult σ)) := do
  match ← readEnvelope lib file with
  | none => return none
  | some v =>
      if ← otherServer cache v then return none
      else
        let expiresAt ← envelopeGet v "expires_at"
        if expired lib now expiresAt then return none else load lib file

end Cache

/-! ## The registry of a result -/

/-- The entries of a result as the registry reads them; each definition is an object of its
    own. -/
def asCapabilities (items : List Item) : KeyholeRunTypes.CapabilitiesResult where
  objects := fun position =>
    match items[position]? with
    | some (.definition op) => op
    | _ => operationOf [] []
  operations := items.zipIdx.map fun entry =>
    match entry.1 with
    | .definition _ => .definition entry.2
    | .value (.obj data) => .dict data
    | .value _ => .other
  implementedSurfaces := []
  runTypeMistakes := []

/-- What the registry of a result answers for an identifier, or why there is none. -/
def answer {σ : Type} (result : CapabilitiesResult σ) (identifier : String) :
    Except RegistryError (Option OperationDefinition) :=
  (registryFromCapabilities (asCapabilities result.operations)).map fun registry =>
    (registry.resolve identifier).map Discovered.definition

/-- What the cache relies on: pydantic validates what it dumped, and its dump of the sections
    leaves the two other fields alone. -/
structure Faithful {σ : Type} (lib : Libraries σ) : Prop where
  sections : ∀ s operations raw,
    lib.validateSections (lib.dumpSections s ++ [("operations", operations), ("raw", raw)]) =
      some s
  keys : ∀ s, ∀ field ∈ lib.dumpSections s, field.1 ≠ "operations" ∧ field.1 ≠ "raw"

/-! ## One operation -/

theorem strings_map (aliases : List String) : strings (aliases.map Json.str) = aliases := by
  induction aliases with
  | nil => rfl
  | cons a rest ih =>
    show a :: strings (rest.map Json.str) = a :: rest
    rw [ih]

theorem iterAliases_toDict (op : OperationDefinition) :
    iterAliases (toDict op) = some (op.aliases.map Json.str) := rfl

/-- `from_dict` undoes `to_dict`. -/
theorem operationOf_toDict (op : OperationDefinition) :
    operationOf (op.aliases.map Json.str) (toDict op) = op := by
  have hname : strOr ((toDict op).get "operation_name") = op.operationName := strOr_str _
  have hcanonical : strOr ((toDict op).get "canonical_run_type") = op.canonicalRunType :=
    strOr_str _
  have hstatus : strOr ((toDict op).get "status") = op.status := strOr_str _
  have hmethod : strOr ((toDict op).get "method") = op.method := strOr_str _
  have hpath : strOr ((toDict op).get "path") = op.path := strOr_str _
  rw [operationOf, hname, hcanonical, hstatus, hmethod, hpath, strings_map]
  rfl

/-- An entry of the loaded result declares the operation the live one declares there. -/
theorem readItem_dump (objects : Nat → OperationDefinition) (position : Nat)
    (op : OperationDefinition) :
    readItem objects position (.dict (toDict op)) =
      .ok (keepCanonical ⟨.built position, op⟩) := by
  rw [readItem, iterAliases_toDict]
  show Except.ok (keepCanonical ⟨.built position, operationOf _ _⟩) = _
  rw [operationOf_toDict]

/-! ## All operations -/

/-- The definitions an object stands for, however the object came about. -/
def rebuilt (op : Discovered) : Discovered :=
  match op.object with
  | .held position => ⟨.built position, op.definition⟩
  | .built position => ⟨.held position, op.definition⟩

theorem rebuilt_object (a b : Discovered) :
    (rebuilt a).object = (rebuilt b).object ↔ a.object = b.object := by
  obtain ⟨objectA, definitionA⟩ := a
  obtain ⟨objectB, definitionB⟩ := b
  cases objectA with
  | held i =>
    cases objectB with
    | held j =>
      show ObjectId.built i = ObjectId.built j ↔ ObjectId.held i = ObjectId.held j
      exact ⟨fun h => congrArg ObjectId.held (ObjectId.built.inj h),
        fun h => congrArg ObjectId.built (ObjectId.held.inj h)⟩
    | built j => exact ⟨nofun, nofun⟩
  | built i =>
    cases objectB with
    | held j => exact ⟨nofun, nofun⟩
    | built j =>
      show ObjectId.held i = ObjectId.held j ↔ ObjectId.built i = ObjectId.built j
      exact ⟨fun h => congrArg ObjectId.built (ObjectId.held.inj h),
        fun h => congrArg ObjectId.held (ObjectId.built.inj h)⟩

theorem rebuilt_definition (op : Discovered) : (rebuilt op).definition = op.definition := by
  obtain ⟨object, definition⟩ := op
  cases object with
  | held position => rfl
  | built position => rfl

theorem rebuilt_keepCanonical (position : Nat) (op : OperationDefinition) :
    keepCanonical ⟨.built position, op⟩ = (keepCanonical ⟨.held position, op⟩).map rebuilt := by
  rw [keepCanonical, keepCanonical]
  by_cases hempty : op.canonicalRunType = ""
  · rw [if_pos hempty, if_pos hempty]
    rfl
  · rw [if_neg hempty, if_neg hempty]
    rfl

/-- The entries of a live result, from a position on. -/
def liveItems (ops : List OperationDefinition) (start : Nat) : List OperationItem :=
  (ops.zipIdx start).map fun entry => .definition entry.2

/-- The entries of the loaded result. -/
def loadedItems (ops : List OperationDefinition) : List OperationItem :=
  ops.map fun op => .dict (toDict op)

/-- The loaded entries declare what the live ones declare, each as an object of its own. -/
theorem collect_loaded (objects objects' : Nat → OperationDefinition)
    (ops : List OperationDefinition) (start : Nat)
    (hobjects : ∀ i op, ops[i]? = some op → objects (start + i) = op) :
    collect (readItem objects') start (loadedItems ops) =
      (collect (readItem objects) start (liveItems ops start)).map (List.map rebuilt) := by
  induction ops generalizing start with
  | nil => rfl
  | cons op rest ih =>
    have hhere : objects start = op := hobjects 0 op rfl
    have hrest := ih (start + 1) fun i op' hop => by
      rw [Nat.add_right_comm]
      exact hobjects (i + 1) op' hop
    show collect (readItem objects') start (.dict (toDict op) :: loadedItems rest) =
      (collect (readItem objects) start (.definition start :: liveItems rest (start + 1))).map _
    rw [collect_cons, collect_cons, readItem_dump, hrest]
    show _ = ((Except.ok (keepCanonical ⟨.held start, objects start⟩) >>= _ :
      Except RegistryError _)).map _
    rw [hhere, rebuilt_keepCanonical]
    cases collect (readItem objects) (start + 1) (liveItems rest (start + 1)) with
    | error raised => rfl
    | ok later =>
      show Except.ok (List.map rebuilt _ ++ List.map rebuilt later) = Except.ok _
      rw [← List.map_append]

/-- The index of the rebuilt operations, or the same clash. -/
theorem buildIndexes_rebuilt (operations : List Discovered) (identifier : String) :
    (buildIndexes (operations.map rebuilt)).map
        (fun registry => (registry.resolve identifier).map Discovered.definition) =
      (buildIndexes operations).map
        fun registry => (registry.resolve identifier).map Discovered.definition := by
  have hkeys : ∀ op : Discovered, (rebuilt op).identifiers = op.identifiers := fun op => by
    rw [Discovered.identifiers, rebuilt_definition]
    rfl
  rw [buildIndexes, buildIndexes, UniqueIndex.build_relabel rebuilt_object hkeys]
  cases UniqueIndex.build Discovered.object Discovered.identifiers operations with
  | ok index =>
    refine congrArg Except.ok ?_
    show ((index (strip identifier)).map rebuilt).map _ = (index (strip identifier)).map _
    rw [Option.map_map]
    exact congrArg (Option.map · _) (funext rebuilt_definition)
  | error clash =>
    refine congrArg (fun message => Except.error (RegistryError.ambiguousAlias message)) ?_
    show clashMessage ⟨clash.key, rebuilt clash.existing, rebuilt clash.added⟩ = clashMessage clash
    rw [clashMessage, clashMessage, rebuilt_definition, rebuilt_definition]

/-! ## The way through the file -/

section Transparency

variable {σ : Type} {lib : Libraries σ} (sections : Sections σ) (ops : List OperationDefinition)
  (raw : Dict)

/-- A live result with its operations. -/
def live : CapabilitiesResult σ := ⟨sections, ops.map Item.definition, raw⟩

/-- `CapabilitiesClient._normalize` of a response, given the sections it extracts; `none` when
    it raises. -/
def normalize : Option (CapabilitiesResult σ) :=
  (normalizeOperationsFromCapabilities raw).map fun ops => live sections ops raw

/-- What the cache makes of it. -/
def loaded : CapabilitiesResult σ :=
  ⟨sections, ops.map fun op => .value (.obj (toDict op)), raw⟩

theorem lookup_append_of_forall {fields rest : Dict} {key : String}
    (h : ∀ field ∈ fields, field.1 ≠ key) : (fields ++ rest).lookup key = rest.lookup key := by
  induction fields with
  | nil => rfl
  | cons field others ih =>
    rw [List.cons_append, List.lookup_cons, beq_eq_false_iff_ne.mpr (Ne.symm (h field
      List.mem_cons_self))]
    exact ih fun other hother => h other (List.mem_cons_of_mem field hother)

theorem validate_dump (hlib : Faithful lib) :
    modelValidate lib (modelDump lib (live sections ops raw)) = some (loaded sections ops raw) := by
  have hoperations : (modelDump lib (live sections ops raw)).lookup "operations" =
      some (.arr ((ops.map Item.definition).map Item.dump)) :=
    lookup_append_of_forall fun field hfield => (hlib.keys sections field hfield).1
  have hraw : (modelDump lib (live sections ops raw)).lookup "raw" = some (.obj raw) :=
    lookup_append_of_forall fun field hfield => (hlib.keys sections field hfield).2
  have hsections : lib.validateSections (modelDump lib (live sections ops raw)) = some sections :=
    hlib.sections sections _ _
  rw [modelValidate, hsections, hoperations, hraw, List.map_map]
  show some (CapabilitiesResult.mk sections _ raw) = some (loaded sections ops raw)
  rw [List.map_map]
  rfl

theorem load_stored (hlib : Faithful lib) (cache : CapabilitiesCache) (cachedAt : Int)
    (hjson : lib.loads (lib.dumps (envelope lib cache cachedAt (live sections ops raw))) =
      .value (envelope lib cache cachedAt (live sections ops raw))) :
    load lib (store lib cache cachedAt (live sections ops raw)) =
      .ok (some (loaded sections ops raw)) := by
  have hread : readEnvelope lib (store lib cache cachedAt (live sections ops raw)) =
      .ok (some (envelope lib cache cachedAt (live sections ops raw))) := by
    rw [store, readEnvelope, hjson]
  rw [load, hread]
  show Except.ok (modelValidate lib (modelDump lib (live sections ops raw))) = _
  rw [validate_dump sections ops raw hlib]

/-- Before it expires, and for the server it came from, the snapshot is loaded. -/
theorem loadValid_stored (hlib : Faithful lib) (cache : CapabilitiesCache) {cachedAt now : Int}
    (hjson : lib.loads (lib.dumps (envelope lib cache cachedAt (live sections ops raw))) =
      .value (envelope lib cache cachedAt (live sections ops raw)))
    (htime : lib.fromisoformat (lib.isoformat (cachedAt + max cache.ttlSeconds 0)) =
      some (cachedAt + max cache.ttlSeconds 0))
    (hnow : now < cachedAt + max cache.ttlSeconds 0) :
    loadValid lib cache now (store lib cache cachedAt (live sections ops raw)) =
      .ok (some (loaded sections ops raw)) := by
  have hread : readEnvelope lib (store lib cache cachedAt (live sections ops raw)) =
      .ok (some (envelope lib cache cachedAt (live sections ops raw))) := by
    rw [store, readEnvelope, hjson]
  have hserver : otherServer cache (envelope lib cache cachedAt (live sections ops raw)) =
      .ok false := by
    rw [otherServer]
    by_cases hurl : cache.baseUrl = ""
    · rw [if_pos hurl]
    · rw [if_neg hurl]
      exact congrArg Except.ok (bne_self_eq_false cache.baseUrl)
  have hfresh : expired lib now (.str (lib.isoformat (cachedAt + max cache.ttlSeconds 0))) =
      false := by
    rw [expired]
    by_cases hempty : lib.isoformat (cachedAt + max cache.ttlSeconds 0) = ""
    · rw [if_pos hempty]
    · rw [if_neg hempty, htime]
      exact decide_eq_false (Int.not_le.mpr hnow)
  rw [loadValid, hread]
  show (otherServer cache _ >>= _) = _
  rw [hserver]
  show (if expired lib now (.str (lib.isoformat _)) = true then _ else _) = _
  rw [hfresh, if_neg Bool.false_ne_true]
  exact load_stored sections ops raw hlib cache cachedAt hjson

/-- The registry of the loaded result answers as the live one. -/
theorem answer_loaded (identifier : String) :
    answer (loaded sections ops raw) identifier = answer (live sections ops raw) identifier := by
  have hlive : (asCapabilities (live sections ops raw).operations).operations =
      liveItems ops 0 := by
    show (ops.map Item.definition).zipIdx.map _ = _
    rw [List.zipIdx_map, List.map_map]
    rfl
  have hloaded : (asCapabilities (loaded sections ops raw).operations).operations =
      loadedItems ops := by
    show (ops.map _).zipIdx.map _ = ops.map _
    rw [List.zipIdx_map, List.map_map]
    conv_rhs => rw [← List.zipIdx_map_fst 0 ops, List.map_map]
    rfl
  have hobjects : ∀ i op, ops[i]? = some op →
      (asCapabilities (live sections ops raw).operations).objects (0 + i) = op := by
    intro i op hop
    show (match (ops.map Item.definition)[0 + i]? with
      | some (.definition op) => op
      | _ => operationOf [] []) = op
    rw [Nat.zero_add, List.getElem?_map, hop]
    rfl
  rw [answer, answer, registryFromCapabilities, registryFromCapabilities, hlive, hloaded,
    collect_loaded _ _ ops 0 hobjects]
  cases collect (readItem (asCapabilities (live sections ops raw).operations).objects) 0
      (liveItems ops 0) with
  | error raised => rfl
  | ok operations => exact buildIndexes_rebuilt operations identifier

end Transparency

/-! ## Any file -/

/-- A file that reading does not raise on: it is missing, cannot be opened, is no JSON, or holds
    a JSON object. -/
def CacheFile.Sound {σ : Type} (lib : Libraries σ) : CacheFile → Prop
  | .missing => True
  | .unreadable => True
  | .content bytes => lib.loads bytes = .malformed ∨ ∃ fields, lib.loads bytes = .value (.obj fields)

section Robustness

variable {σ : Type} {lib : Libraries σ}

theorem returns_load_obj {file : CacheFile} {fields : Dict}
    (h : readEnvelope lib file = .ok (some (.obj fields))) : Returns (load lib file) := by
  rw [load, h]
  show Returns (match Dict.get fields "result" with
    | .obj data => pure (modelValidate lib data)
    | _ => pure none : Except Raised _)
  cases Dict.get fields "result" with
  | null => exact returns_pure _
  | bool b => exact returns_pure _
  | int n => exact returns_pure _
  | float text => exact returns_pure _
  | str s => exact returns_pure _
  | arr items => exact returns_pure _
  | obj data => exact returns_pure _

/-- `load` returns exactly on a sound file. -/
theorem returns_load_iff (file : CacheFile) : Returns (load lib file) ↔ file.Sound lib := by
  cases file with
  | missing => exact ⟨fun _ => trivial, fun _ => returns_pure none⟩
  | unreadable => exact ⟨fun _ => trivial, fun _ => returns_pure none⟩
  | content bytes =>
    cases hloads : lib.loads bytes with
    | malformed =>
      have hread : readEnvelope lib (.content bytes) = .ok none := by rw [readEnvelope, hloads]
      refine ⟨fun _ => .inl hloads, fun _ => ?_⟩
      rw [load, hread]
      exact returns_pure none
    | undecodable =>
      have hread : readEnvelope lib (.content bytes) = .error .unicodeDecodeError := by
        rw [readEnvelope, hloads]
      constructor
      · intro ⟨result, h⟩
        rw [load, hread] at h
        exact nomatch h
      · rintro (h | ⟨fields, h⟩)
        · exact nomatch hloads.symm.trans h
        · exact nomatch hloads.symm.trans h
    | refused =>
      have hread : readEnvelope lib (.content bytes) = .error .refused := by
        rw [readEnvelope, hloads]
      constructor
      · intro ⟨result, h⟩
        rw [load, hread] at h
        exact nomatch h
      · rintro (h | ⟨fields, h⟩)
        · exact nomatch hloads.symm.trans h
        · exact nomatch hloads.symm.trans h
    | value v =>
      have hread : readEnvelope lib (.content bytes) = .ok (some v) := by rw [readEnvelope, hloads]
      have hother : (∀ fields, v ≠ .obj fields) →
          (Returns (load lib (.content bytes)) ↔ CacheFile.Sound lib (.content bytes)) := by
        intro hv
        constructor
        · intro ⟨result, h⟩
          rw [load, hread] at h
          cases v with
          | obj fields => exact absurd rfl (hv fields)
          | null => exact nomatch h
          | bool b => exact nomatch h
          | int n => exact nomatch h
          | float text => exact nomatch h
          | str s => exact nomatch h
          | arr items => exact nomatch h
        · rintro (h | ⟨fields, h⟩)
          · exact nomatch hloads.symm.trans h
          · exact absurd (Reading.value.inj (hloads.symm.trans h)) (hv fields)
      cases v with
      | obj fields => exact ⟨fun _ => .inr ⟨fields, hloads⟩, fun _ => returns_load_obj hread⟩
      | null => exact hother nofun
      | bool b => exact hother nofun
      | int n => exact hother nofun
      | float text => exact hother nofun
      | str s => exact hother nofun
      | arr items => exact hother nofun

/-- So does `load_valid`, whatever the time and the server. -/
theorem returns_loadValid_iff (cache : CapabilitiesCache) (now : Int) (file : CacheFile) :
    Returns (loadValid lib cache now file) ↔ file.Sound lib := by
  rw [← returns_load_iff]
  cases hread : readEnvelope lib file with
  | error raised =>
    constructor
    · intro ⟨result, h⟩
      rw [loadValid, hread] at h
      exact nomatch h
    · intro ⟨result, h⟩
      rw [load, hread] at h
      exact nomatch h
  | ok found =>
    cases found with
    | none =>
      constructor
      · intro _
        rw [load, hread]
        exact returns_pure none
      · intro _
        rw [loadValid, hread]
        exact returns_pure none
    | some v =>
      have hother : (∀ key, envelopeGet v key = .error .attributeError) →
          (Returns (loadValid lib cache now file) ↔ Returns (load lib file)) := by
        intro hget
        constructor
        · intro h
          refine absurd h ?_
          rintro ⟨result, h⟩
          rw [loadValid, hread] at h
          replace h : (otherServer cache v >>= fun other => if other = true then pure none
            else envelopeGet v "expires_at" >>= fun expiresAt =>
              if expired lib now expiresAt = true then pure none else load lib file) =
                .ok result := h
          rw [hget, otherServer, hget] at h
          by_cases hurl : cache.baseUrl = ""
          · rw [if_pos hurl] at h
            exact nomatch h
          · rw [if_neg hurl] at h
            exact nomatch h
        · intro ⟨result, h⟩
          rw [load, hread] at h
          replace h : (envelopeGet v "result" >>= _) = Except.ok result := h
          rw [hget] at h
          exact nomatch h
      cases v with
      | obj fields =>
        have hload : Returns (load lib file) := returns_load_obj hread
        refine ⟨fun _ => hload, fun _ => ?_⟩
        rw [loadValid, hread]
        show Returns (otherServer cache (.obj fields) >>= fun other =>
          if other = true then pure none
          else if expired lib now (Dict.get fields "expires_at") = true then pure none
            else load lib file)
        have hserver : ∃ other, otherServer cache (.obj fields) = .ok other := by
          rw [otherServer]
          by_cases hurl : cache.baseUrl = ""
          · rw [if_pos hurl]
            exact ⟨false, rfl⟩
          · rw [if_neg hurl]
            exact ⟨_, rfl⟩
        obtain ⟨other, hserver⟩ := hserver
        rw [hserver]
        show Returns (if other = true then _ else _)
        by_cases hother : other = true
        · rw [if_pos hother]
          exact returns_pure none
        · rw [if_neg hother]
          by_cases hexpired : expired lib now (Dict.get fields "expires_at") = true
          · rw [if_pos hexpired]
            exact returns_pure none
          · rw [if_neg hexpired]
            exact hload
      | null => exact hother fun key => rfl
      | bool b => exact hother fun key => rfl
      | int n => exact hother fun key => rfl
      | float text => exact hother fun key => rfl
      | str s => exact hother fun key => rfl
      | arr items => exact hother fun key => rfl

end Robustness

/-- The cache is transparent, and it raises on a file exactly when the file is not sound. -/
theorem transparent_and_robust_iff {σ : Type} (lib : Libraries σ) (hlib : Faithful lib)
    (cache : CapabilitiesCache) (sections : Sections σ) (response : Dict)
    (result : CapabilitiesResult σ) (hresult : normalize sections response = some result)
    (cachedAt now : Int)
    (hjson : lib.loads (lib.dumps (envelope lib cache cachedAt result)) =
      .value (envelope lib cache cachedAt result))
    (htime : lib.fromisoformat (lib.isoformat (cachedAt + max cache.ttlSeconds 0)) =
      some (cachedAt + max cache.ttlSeconds 0))
    (hnow : now < cachedAt + max cache.ttlSeconds 0) (file : CacheFile) :
    ((∃ found, loadValid lib cache now (store lib cache cachedAt result) = .ok (some found) ∧
        ∀ identifier, answer found identifier = answer result identifier) ∧
      Returns (load lib file) ∧ Returns (loadValid lib cache now file)) ↔ file.Sound lib := by
  constructor
  · intro ⟨_, hload, _⟩
    exact (returns_load_iff file).mp hload
  · intro hsound
    obtain ⟨ops, _, rfl⟩ := Option.map_eq_some_iff.mp hresult
    refine ⟨⟨loaded sections ops response, ?_, answer_loaded sections ops response⟩, ?_, ?_⟩
    · exact loadValid_stored sections ops response hlib cache hjson htime hnow
    · exact (returns_load_iff file).mpr hsound
    · exact (returns_loadValid_iff cache now file).mpr hsound

/-! ## One snapshot -/

/-- The libraries on one snapshot and on three files: `[]`, a byte that starts no character,
    and anything else, which is no JSON. -/
def sampleLibraries : Libraries Unit where
  dumps := fun v => (KeyholeJson.dumps defaultSeparators v).toUTF8.data.toList
  loads := fun bytes =>
    if bytes = [0x5b, 0x5d] then .value (.arr [])
    else if bytes = [0xff] then .undecodable
    else .malformed
  sha256 := fun _ => "47957bd0f737fd6e115d7fe10440712bf8efc746f35a752543bbfe837be46dbd"
  isoformat := fun t =>
    if t = 0 then "1970-01-01T00:00:00+00:00" else "1970-01-01T01:00:00+00:00"
  fromisoformat := fun text =>
    if text = "1970-01-01T00:00:00+00:00" then some 0
    else if text = "1970-01-01T01:00:00+00:00" then some 3600
    else none
  dumpSections := fun s =>
    [("contract", .obj [("contract", .str s.contract)]),
      ("metadata", .obj [("digest", .str s.digest), ("ctx_ref_sha256", .str s.ctxRefSha256)])]
  validateSections := fun data =>
    let metadata := Dict.child data "metadata"
    some ⟨strOr (Dict.get (Dict.child data "contract") "contract"),
      strOr (Dict.get metadata "digest"), strOr (Dict.get metadata "ctx_ref_sha256"), ()⟩

def sampleCache : CapabilitiesCache := ⟨"https://mcp.keyholesolution.com", 3600⟩

def sampleSections : Sections Unit := ⟨"mcp/v1", "", "", ()⟩

def sampleResponse : Dict := [("operations", .arr [.str "payments.refund"])]

def sampleResult : CapabilitiesResult Unit :=
  live sampleSections [.named "payments.refund"] sampleResponse

/-- The same, with the file of the snapshot read back. -/
def snapshotLibraries : Libraries Unit :=
  { sampleLibraries with
    loads := fun bytes =>
      if bytes = sampleLibraries.dumps (envelope sampleLibraries sampleCache 0 sampleResult) then
        .value (envelope sampleLibraries sampleCache 0 sampleResult)
      else sampleLibraries.loads bytes }

theorem faithful_snapshot : Faithful snapshotLibraries where
  sections := by
    rintro ⟨contract, digest, ctxRefSha256, others⟩ operations raw
    show some (Sections.mk (strOr (.str contract)) (strOr (.str digest))
      (strOr (.str ctxRefSha256)) ()) = _
    rw [strOr_str, strOr_str, strOr_str]
  keys := by
    have hcontract : "contract" ≠ "operations" ∧ "contract" ≠ "raw" := by decide
    have hmetadata : "metadata" ≠ "operations" ∧ "metadata" ≠ "raw" := by decide
    intro s field hfield
    rcases List.mem_cons.mp hfield with rfl | hfield
    · exact hcontract
    · rw [List.mem_singleton.mp hfield]
      exact hmetadata

/-- The snapshot is loaded half an hour later, and answers as it did. -/
theorem snapshot_loaded :
    ∃ found, loadValid snapshotLibraries sampleCache 1800
        (store snapshotLibraries sampleCache 0 sampleResult) = .ok (some found) ∧
      ∀ identifier, answer found identifier = answer sampleResult identifier := by
  have hjson : snapshotLibraries.loads (snapshotLibraries.dumps
      (envelope snapshotLibraries sampleCache 0 sampleResult)) =
        .value (envelope snapshotLibraries sampleCache 0 sampleResult) := if_pos rfl
  exact ((transparent_and_robust_iff snapshotLibraries faithful_snapshot sampleCache
    sampleSections sampleResponse sampleResult rfl 0 1800 hjson (by decide) (by decide)
    .missing).mpr trivial).1

/-- A JSON list has no `get`, and a byte that starts no character is not decoded. -/
theorem list_raises :
    load sampleLibraries (.content [0x5b, 0x5d]) = .error .attributeError ∧
      loadValid sampleLibraries sampleCache 0 (.content [0x5b, 0x5d]) = .error .attributeError ∧
      load sampleLibraries (.content [0xff]) = .error .unicodeDecodeError ∧
      ¬∀ file, Returns (load sampleLibraries file) ∧
        Returns (loadValid sampleLibraries sampleCache 0 file) := by
  refine ⟨rfl, rfl, rfl, fun h => ?_⟩
  obtain ⟨found, hfound⟩ := (h (.content [0x5b, 0x5d])).1
  exact nomatch (rfl : load sampleLibraries (.content [0x5b, 0x5d]) = .error .attributeError).symm.trans
    hfound

end KeyholeDiscoveryCache
