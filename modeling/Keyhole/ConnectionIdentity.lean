import Keyhole.RunDispatch
import Keyhole.WhoamiIdentity

/-!
# The connection identity client

Six operations post a run and read the answer.  They share `_check_envelope_error`, which
handles one error code and leaves the rest to its callers: the inspecting calls look for a
404 or an `ok` that is false, and take every other answer for the record they asked for.

* `call`: the six operations, with the exception a call of one ends in;
* `Sound`: a failed operation never looks like a success;
* `soundCall_iff`: the answers that the client treats soundly. -/

namespace KeyholeConnections

open KeyholeJson
open KeyholeDispatch (Raised)
open KeyholeIdentity (unwrapMcpEnvelope)

/-! ## Errors -/

/-- `ConnectionIdentityError` and its subclasses. -/
structure ConnectionError where
  errorClass : String
  message : Json
  reason : Json
  repairSuggestions : List String

/-- `ConnectionNotFoundError`. -/
def notFoundError (hostId connectionId : String) : ConnectionError where
  errorClass := "host_connection_not_visible"
  message := .str "Connection not visible from server."
  reason := .str ("Connection for host '" ++ (if hostId = "" then connectionId else hostId)
    ++ "' not visible.")
  repairSuggestions := ["Ensure the host has opened a Keyhole connection.",
    "Refresh the host and retry.", "Run 'keyhole connections list' to see visible connections."]

/-- `ConnectionNetworkError`. -/
def networkError (text : String) : ConnectionError where
  errorClass := "connection_network_error"
  message := .str text
  reason := .str "Failed to reach the MCP boundary."
  repairSuggestions := ["Check network connectivity.", "Verify the MCP URL is correct.",
    "Run 'keyhole doctor' to check environment health."]

/-- `ConnectionSurfaceUnavailableError`. -/
def surfaceUnavailableError (message : Json) (surface : String) : ConnectionError where
  errorClass := "host_rebind_unsupported"
  message := message
  reason := .str ("Server does not support surface '" ++ surface ++ "'.")
  repairSuggestions :=
    ["Upgrade the server to a version that supports connection surfaces.",
      "Use 'keyhole whoami' for generic identity inspection.",
      "Invalidate the connection and reconnect under the desired profile."]

/-- An exception that leaves the client. -/
inductive Escape where
  /-- one of the module's typed errors -/
  | typed (e : ConnectionError)
  | other (errorClass : Raised)

/-! ## Records -/

/-- `ConnectionAuthority`. -/
inductive Authority where
  | sessionBound
  | tokenBound
  | unknown
  deriving DecidableEq

/-- The values of `ConnectionAuthority`. -/
def authorities : List (String × Authority) :=
  [("session_bound", .sessionBound), ("token_bound", .tokenBound), ("unknown", .unknown)]

/-- `ConnectionStaleness`. -/
inductive Staleness where
  | fresh
  | stale
  | expired
  | unknown
  deriving DecidableEq

/-- The values of `ConnectionStaleness`. -/
def stalenesses : List (String × Staleness) :=
  [("fresh", .fresh), ("stale", .stale), ("expired", .expired), ("unknown", .unknown)]

/-- `RebindStatus`. -/
inductive RebindStatus where
  | accepted
  | rebound
  | deferred
  | replayed
  | rejected
  deriving DecidableEq

/-- The values of `RebindStatus`. -/
def rebindStatuses : List (String × RebindStatus) :=
  [("accepted", .accepted), ("rebound", .rebound), ("deferred", .deferred),
    ("replayed", .replayed), ("rejected", .rejected)]

/-- `InvalidateStatus`. -/
inductive InvalidateStatus where
  | accepted
  | rejected
  | alreadyInvalidated
  deriving DecidableEq

/-- The values of `InvalidateStatus`. -/
def invalidateStatuses : List (String × InvalidateStatus) :=
  [("accepted", .accepted), ("rejected", .rejected), ("already_invalidated", .alreadyInvalidated)]

/-- `ConnectionInfo`. -/
structure ConnectionInfo where
  connectionId : String
  hostHint : String
  principal : String
  userId : String
  authority : Authority
  purpose : String
  origin : String
  boundAt : String
  stalenessState : Staleness
  sessionLineageId : String
  supportsRebind : Bool
  supportsInvalidate : Bool

/-- `RebindOutcome`. -/
structure RebindOutcome where
  status : RebindStatus
  connectionId : String
  oldPrincipal : String := ""
  newPrincipal : String := ""
  runId : String
  serverMessage : String
  repairGuidance : List String := []

/-- `InvalidateOutcome`. -/
structure InvalidateOutcome where
  status : InvalidateStatus
  connectionId : String
  reconnectRequired : Bool := true
  runId : String
  serverMessage : String
  repairGuidance : List String := []

/-- A field of a pydantic model that has to be a string. -/
def text : Json → Except Escape String
  | .str s => .ok s
  | _ => .error (.other "ValidationError")

/-! ## Reading an answer -/

/-- What the server answers: `none` is a body that is not JSON. -/
structure Response where
  statusCode : Nat
  body : Option Json

/-- `data` of an answer, as `unwrap_mcp_envelope` finds it. -/
def unwrapped (raw : Dict) : Dict := asDict (unwrapMcpEnvelope (.obj raw))

/-- `raw.get("error", {})`, of which `get` is called. -/
def errorEntry (raw : Dict) : Except Escape Dict :=
  match raw.getOr "error" (.obj []) with
  | .obj e => .ok e
  | _ => .error (.other "AttributeError")

/-- `raw.get("ok") is False`. -/
def refuses (raw : Dict) : Bool := isFalse (raw.get "ok")

/-- `_check_envelope_error`. -/
def checkEnvelopeError (raw : Dict) : Except Escape Unit :=
  if refuses raw then do
    let e ← errorEntry raw
    if isStr "SCOPE_DENIED" (e.getOr "code" (.str "UNKNOWN")) then
      .error (.typed (surfaceUnavailableError
        (e.getOr "message" (.str "Scope not available.")) "connection"))
    else return ()
  else return ()

/-- The post and the shared check; an `.error` of the exchange is a `RequestException`. -/
def receive (exchange : Except String Response) : Except Escape (Nat × Dict) :=
  match exchange with
  | .error text => .error (.typed (networkError text))
  | .ok response =>
      match response.body with
      | none => .error (.other "JSONDecodeError")
      | some (.obj raw) => do
          checkEnvelopeError raw
          return (response.statusCode, raw)
      | some _ => .error (.other "AttributeError")

/-- `_parse_connection`. -/
def parseConnection (entry : Json) : Except Escape ConnectionInfo :=
  match entry with
  | .obj data => do
      let connectionId ← text (Dict.getOr data "connection_id" (.str ""))
      let hostHint ← text (Dict.getOr data "host_hint" (Dict.getOr data "host_id" (.str "")))
      let principal ←
        text (Dict.getOr data "principal" (Dict.getOr data "principal_label" (.str "")))
      let userId ←
        text (Dict.getOr data "user_id" (Dict.getOr data "principal_user_id" (.str "")))
      let purpose ← text (Dict.getOr data "purpose" (.str ""))
      let origin ← text (Dict.getOr data "origin" (.str ""))
      let boundAt ← text (Dict.getOr data "bound_at" (.str ""))
      let sessionLineageId ← text (Dict.getOr data "session_lineage_id" (.str ""))
      return {
        connectionId, hostHint, principal, userId, purpose, origin, boundAt, sessionLineageId
        authority := (authorities.lookup
          (lower (pyStr (Dict.getOr data "authority" (.str "unknown"))))).getD .unknown
        stalenessState := (stalenesses.lookup
          (lower (pyStr (Dict.getOr data "staleness_state" (.str "unknown"))))).getD .unknown
        supportsRebind := truthy (Dict.getOr data "supports_rebind" (.bool false))
        supportsInvalidate := truthy (Dict.getOr data "supports_invalidate" (.bool false)) }
  | _ => .error (.other "AttributeError")

/-- `[self._parse_connection(c) for c in connections]`. -/
def parseConnections : List Json → Except Escape (List ConnectionInfo)
  | [] => .ok []
  | entry :: rest => do
      let info ← parseConnection entry
      let infos ← parseConnections rest
      return info :: infos

/-! ## The inspecting operations -/

/-- `list_connections`. -/
def listConnections (exchange : Except String Response) :
    Except Escape (List ConnectionInfo) := do
  let (statusCode, raw) ← receive exchange
  if statusCode = 404 then return []
  else
    match (unwrapped raw).getOr "connections" (.arr []) with
    | .arr connections => parseConnections connections
    | _ => return []

/-- The check the three calls about one connection share. -/
def inspected (exchange : Except String Response) (hostId connectionId : String) :
    Except Escape Dict := do
  let (statusCode, raw) ← receive exchange
  if statusCode = 404 || refuses raw then
    .error (.typed (notFoundError hostId connectionId))
  else return unwrapped raw

/-- `connection_inspect`. -/
def connectionInspect (exchange : Except String Response) (hostId connectionId : String) :
    Except Escape ConnectionInfo := do
  let data ← inspected exchange hostId connectionId
  parseConnection (.obj data)

/-- `connection_status`. -/
def connectionStatus (exchange : Except String Response) (hostId connectionId : String) :
    Except Escape ConnectionInfo := do
  let data ← inspected exchange hostId connectionId
  parseConnection (.obj data)

/-- `connection_lineage`. -/
def connectionLineage (exchange : Except String Response) (hostId connectionId : String) :
    Except Escape Dict :=
  inspected exchange hostId connectionId

/-! ## The mutating operations -/

/-- `RebindRequest`, the fields the client reads from it. -/
structure RebindRequest where
  connectionId : String
  targetProfile : String

/-- `InvalidateRequest`, the field the client reads from it. -/
structure InvalidateRequest where
  connectionId : String

/-- The guidance of a rebind that the server refused. -/
def rebindRepair : List String :=
  ["Inspect the server's rejection reason.", "Verify the target profile and session.",
    "Retry with a valid identity."]

/-- The guidance of an invalidation that the server refused. -/
def invalidateRepair : List String :=
  ["Inspect the server's rejection reason.", "Verify the connection exists."]

/-- `data.get("message", data.get("error", ""))`. -/
def messageOf (data : Dict) : Json := data.getOr "message" (data.getOr "error" (.str ""))

/-- The run id of an answer with `ok` false. -/
def refusedRunId (raw : Dict) : Json := (raw.child "data").getOr "run_id" (.str "")

/-- `str(data.get("status", "accepted")).lower()`. -/
def statusWord (data : Dict) : String := lower (pyStr (data.getOr "status" (.str "accepted")))

/-- The codes that the classifiers take for an acceptance. -/
def acceptedCodes : List Nat := [200, 201, 202]

/-- `_classify_rebind_outcome`. -/
def classifyRebindOutcome (statusCode : Nat) (raw : Dict) (request : RebindRequest) :
    Except Escape RebindOutcome :=
  if refuses raw then do
    let e ← errorEntry raw
    let code := e.getOr "code" (.str "UNKNOWN")
    let runId ← text (refusedRunId raw)
    let message ← text (e.getOr "message" (.str "Rebind blocked."))
    return {
      status := .rejected
      connectionId := request.connectionId
      runId := runId
      serverMessage := message
      repairGuidance :=
        if isStr "REBIND_FORBIDDEN" code then
          ["This connection does not support rebind.", "Check the connection definition."]
        else if isStr "TARGET_PRINCIPAL_INVALID" code then
          ["Verify the target profile and user ID.", "Retry with a valid identity."]
        else rebindRepair }
  else
    let data := unwrapped raw
    let message := pyStr (messageOf data)
    if statusCode ∈ acceptedCodes then do
      let connectionId ← text (data.getOr "connection_id" (.str request.connectionId))
      let oldPrincipal ← text (data.getOr "old_principal" (.str ""))
      let newPrincipal ← text (data.getOr "new_principal" (.str request.targetProfile))
      let runId ← text (data.getOr "run_id" (.str ""))
      return {
        status := (rebindStatuses.lookup (statusWord data)).getD .accepted
        connectionId, oldPrincipal, newPrincipal, runId
        serverMessage := message }
    else if 400 ≤ statusCode ∧ statusCode < 500 then do
      let oldPrincipal ← text (data.getOr "old_principal" (.str ""))
      let runId ← text (data.getOr "run_id" (.str ""))
      return {
        status := .rejected
        connectionId := request.connectionId
        oldPrincipal, runId
        serverMessage := message
        repairGuidance := rebindRepair }
    else do
      let runId ← text (data.getOr "run_id" (.str ""))
      return {
        status := .rejected
        connectionId := request.connectionId
        runId
        serverMessage := "Server error (" ++ toString statusCode ++ "): " ++ message
        repairGuidance := ["Retry later or contact support."] }

/-- `_classify_invalidate_outcome`. -/
def classifyInvalidateOutcome (statusCode : Nat) (raw : Dict) (request : InvalidateRequest) :
    Except Escape InvalidateOutcome :=
  if refuses raw then do
    let e ← errorEntry raw
    let code := e.getOr "code" (.str "UNKNOWN")
    let runId ← text (refusedRunId raw)
    let message ← text (e.getOr "message" (.str "Invalidate blocked."))
    return {
      status := .rejected
      connectionId := request.connectionId
      runId := runId
      serverMessage := message
      repairGuidance :=
        if isStr "INVALIDATE_FORBIDDEN" code then
          ["This connection does not support invalidation.", "Check the connection definition."]
        else if isStr "CONNECTION_NOT_FOUND" code then
          ["The specified connection was not found.",
            "Run 'keyhole connections list' to see visible connections."]
        else invalidateRepair }
  else
    let data := unwrapped raw
    let message := pyStr (messageOf data)
    if statusCode ∈ acceptedCodes then do
      let connectionId ← text (data.getOr "connection_id" (.str request.connectionId))
      let runId ← text (data.getOr "run_id" (.str ""))
      return {
        status := (invalidateStatuses.lookup (statusWord data)).getD .accepted
        connectionId, runId
        reconnectRequired := truthy (data.getOr "reconnect_required" (.bool true))
        serverMessage := message }
    else if 400 ≤ statusCode ∧ statusCode < 500 then do
      let runId ← text (data.getOr "run_id" (.str ""))
      return {
        status := .rejected
        connectionId := request.connectionId
        runId
        serverMessage := message
        repairGuidance := invalidateRepair }
    else do
      let runId ← text (data.getOr "run_id" (.str ""))
      return {
        status := .rejected
        connectionId := request.connectionId
        runId
        serverMessage := "Server error (" ++ toString statusCode ++ "): " ++ message
        repairGuidance := ["Retry later or contact support."] }

/-- `rebind`. -/
def rebind (exchange : Except String Response) (request : RebindRequest) :
    Except Escape RebindOutcome := do
  let (statusCode, raw) ← receive exchange
  classifyRebindOutcome statusCode raw request

/-- `invalidate`. -/
def invalidate (exchange : Except String Response) (request : InvalidateRequest) :
    Except Escape InvalidateOutcome := do
  let (statusCode, raw) ← receive exchange
  classifyInvalidateOutcome statusCode raw request

/-! ## The six operations -/

/-- An operation of the client, with its arguments. -/
inductive Operation where
  | list
  | inspect (hostId connectionId : String)
  | status (hostId connectionId : String)
  | lineage (hostId connectionId : String)
  | rebind (request : RebindRequest)
  | invalidate (request : InvalidateRequest)

/-- What an operation returns. -/
inductive Result where
  | connections (infos : List ConnectionInfo)
  | connection (info : ConnectionInfo)
  | lineage (data : Dict)
  | rebound (outcome : RebindOutcome)
  | invalidated (outcome : InvalidateOutcome)

/-- A call of an operation. -/
def call (exchange : Except String Response) : Operation → Except Escape Result
  | .list => do return .connections (← listConnections exchange)
  | .inspect hostId connectionId => do
      return .connection (← connectionInspect exchange hostId connectionId)
  | .status hostId connectionId => do
      return .connection (← connectionStatus exchange hostId connectionId)
  | .lineage hostId connectionId => do
      return .lineage (← connectionLineage exchange hostId connectionId)
  | .rebind request => do return .rebound (← rebind exchange request)
  | .invalidate request => do return .invalidated (← invalidate exchange request)

/-- The operation changes a connection. -/
def Operation.mutates : Operation → Bool
  | .rebind _ | .invalidate _ => true
  | _ => false

/-- The outcome says that the server rejected the request. -/
def Result.rejected : Result → Bool
  | .rebound outcome => decide (outcome.status = .rejected)
  | .invalidated outcome => decide (outcome.status = .rejected)
  | _ => false

/-! ## Sound calls -/

/-- The answer has a 2xx code. -/
def Response.ok (r : Response) : Prop := 200 ≤ r.statusCode ∧ r.statusCode < 300

/-- A 2xx answer that does not say `ok: false`. -/
def Response.Answered (r : Response) : Prop :=
  r.ok ∧ ∀ raw : Dict, r.body = some (.obj raw) → refuses raw = false

/-- The server reported that there are no connections. -/
def Response.ReportsNone (r : Response) : Prop :=
  ∃ raw, r.body = some (.obj raw) ∧ (unwrapped raw).get "connections" = .arr []

/-- The words with which the server accepts an operation. -/
def Operation.acceptingWords : Operation → List String
  | .rebind _ => ["accepted", "rebound", "deferred", "replayed"]
  | .invalidate _ => ["accepted", "already_invalidated"]
  | _ => []

/-- The answer has an accepting status word, or none. -/
def Response.Accepts (r : Response) (op : Operation) : Prop :=
  ∃ raw, r.body = some (.obj raw) ∧
    (isNull ((unwrapped raw).get "status") = true ∨ statusWord (unwrapped raw) ∈ op.acceptingWords)

/-- The outcome of an operation does not make a failure look like a success. -/
structure SoundOutcome (r : Response) (op : Operation) (outcome : Except Escape Result) :
    Prop where
  typed : ∀ errorClass, outcome ≠ .error (.other errorClass)
  inspecting : op.mutates = false → ∀ result, outcome = .ok result →
    r.Answered ∨ (r.statusCode = 404 ∧ result = .connections [])
  mutating : op.mutates = true → ¬ r.Answered →
    ∃ result, outcome = .ok result ∧ result.rejected = true
  empty : outcome = .ok (.connections []) → r.statusCode = 404 ∨ r.ReportsNone
  accepting : op.mutates = true → ∀ result, outcome = .ok result → result.rejected = false →
    r.Answered ∧ r.Accepts op

/-- A failed operation never looks like a success. -/
def Sound (r : Response) (op : Operation) : Prop := SoundOutcome r op (call (.ok r) op)

/-! ## When a call is sound -/

/-- All of the values are strings. -/
def Texts (values : List Json) : Prop := ∀ v ∈ values, isText v = true

/-- The fields of a connection record that have to be strings. -/
def recordTexts (data : Dict) : List Json :=
  [data.getOr "connection_id" (.str ""),
    data.getOr "host_hint" (data.getOr "host_id" (.str "")),
    data.getOr "principal" (data.getOr "principal_label" (.str "")),
    data.getOr "user_id" (data.getOr "principal_user_id" (.str "")),
    data.getOr "purpose" (.str ""), data.getOr "origin" (.str ""),
    data.getOr "bound_at" (.str ""), data.getOr "session_lineage_id" (.str "")]

/-- The value is a connection record. -/
def IsRecord (entry : Json) : Prop := ∃ data, entry = .obj data ∧ Texts (recordTexts data)

/-- The error code of an answer is `SCOPE_DENIED`. -/
def scopeDenied (e : Dict) : Bool := isStr "SCOPE_DENIED" (e.getOr "code" (.str "UNKNOWN"))

/-- The fields of a refusal that have to be strings. -/
def refusalTexts (raw e : Dict) (message : String) : List Json :=
  [refusedRunId raw, e.getOr "message" (.str message)]

/-- A refusal, whose `error` is the dictionary `e`, is one the operation is sound for. -/
def RefusalClear (raw e : Dict) (statusCode : Nat) : Operation → Prop
  -- any other code is ignored, and the answer read as a list
  | .list => scopeDenied e = true ∨ statusCode = 404
  | .inspect _ _ | .status _ _ | .lineage _ _ => True
  | .rebind _ => scopeDenied e = false ∧ Texts (refusalTexts raw e "Rebind blocked.")
  | .invalidate _ => scopeDenied e = false ∧ Texts (refusalTexts raw e "Invalidate blocked.")

/-- The fields of an outcome that have to be strings, by the code of the answer. -/
def outcomeTexts (data : Dict) (statusCode : Nat) : Operation → List Json
  | .rebind request =>
      if statusCode ∈ acceptedCodes then
        [data.getOr "connection_id" (.str request.connectionId),
          data.getOr "old_principal" (.str ""),
          data.getOr "new_principal" (.str request.targetProfile), data.getOr "run_id" (.str "")]
      else if 400 ≤ statusCode ∧ statusCode < 500 then
        [data.getOr "old_principal" (.str ""), data.getOr "run_id" (.str "")]
      else [data.getOr "run_id" (.str "")]
  | .invalidate request =>
      if statusCode ∈ acceptedCodes then
        [data.getOr "connection_id" (.str request.connectionId), data.getOr "run_id" (.str "")]
      else [data.getOr "run_id" (.str "")]
  | _ => []

/-- The status words the operation knows. -/
def Operation.knownWords : Operation → List String
  | .rebind _ => rebindStatuses.map (·.1)
  | .invalidate _ => invalidateStatuses.map (·.1)
  | _ => []

/-- An answer that is no refusal, with the payload `data`, is one the operation is sound
    for. -/
def AnswerClear (data : Dict) (r : Response) : Operation → Prop
  | .list => r.statusCode = 404 ∨ (r.ok ∧ ∃ entries, data.get "connections" = .arr entries ∧
      ∀ entry ∈ entries, IsRecord entry)
  | .inspect _ _ | .status _ _ => r.statusCode = 404 ∨ (r.ok ∧ Texts (recordTexts data))
  | .lineage _ _ => r.statusCode = 404 ∨ r.ok
  | op@(.rebind _) | op@(.invalidate _) => Texts (outcomeTexts data r.statusCode op) ∧
      (r.statusCode ∈ acceptedCodes →
        isNull (data.get "status") = true ∨ statusWord data ∈ op.knownWords)

/-- The answers that an operation is sound for. -/
def Clear (r : Response) (op : Operation) : Prop :=
  ∃ raw : Dict, r.body = some (.obj raw) ∧
    (refuses raw = true → ∃ e, raw.getOr "error" (.obj []) = .obj e ∧
      RefusalClear raw e r.statusCode op) ∧
    (refuses raw = false → AnswerClear (unwrapped raw) r op)

/-! ## Outcomes -/

theorem not_sound_other (r : Response) (op : Operation) (errorClass : Raised) :
    ¬ SoundOutcome r op (.error (.other errorClass)) :=
  fun h => h.typed errorClass rfl

/-- A typed error is sound, unless a mutating operation was refused. -/
theorem sound_typed (r : Response) (op : Operation) (e : ConnectionError) :
    SoundOutcome r op (.error (.typed e)) ↔ (op.mutates = true → r.Answered) := by
  constructor
  · intro h hmutates
    by_contra hnot
    obtain ⟨result, hok, -⟩ := h.mutating hmutates hnot
    exact nomatch hok
  · intro h
    exact {
      typed := fun errorClass => nofun
      inspecting := nofun
      mutating := fun hmutates hnot => absurd (h hmutates) hnot
      empty := nofun
      accepting := nofun }

variable {raw e : Dict} {r : Response} {op : Operation} {exchange : Except String Response}
variable {result : Result} {statusCode : Nat}

/-- A result of an inspecting operation. -/
theorem sound_inspecting (hop : op.mutates = false)
    (result : Result) : SoundOutcome r op (.ok result) ↔
      (r.Answered ∨ (r.statusCode = 404 ∧ result = .connections [])) ∧
        (result = .connections [] → r.statusCode = 404 ∨ r.ReportsNone) := by
  have hno : ¬ op.mutates = true := by
    rw [hop]
    exact nofun
  constructor
  · intro h
    exact ⟨h.inspecting hop result rfl, fun he => h.empty (congrArg Except.ok he)⟩
  · rintro ⟨hnormal, hempty⟩
    exact {
      typed := fun errorClass => nofun
      inspecting := by
        rintro - _ ⟨⟩
        exact hnormal
      mutating := fun hmutates => absurd hmutates hno
      empty := fun he => hempty (Except.ok.inj he)
      accepting := fun hmutates => absurd hmutates hno }

/-- A result of a mutating operation. -/
theorem sound_mutating (hop : op.mutates = true) (hne : result ≠ .connections []) :
    SoundOutcome r op (.ok result) ↔ (result.rejected = false → r.Answered ∧ r.Accepts op) := by
  constructor
  · intro h
    exact h.accepting hop result rfl
  · intro h
    exact {
      typed := fun errorClass => nofun
      inspecting := fun hno => absurd (hno.symm.trans hop) nofun
      mutating := by
        intro _ hnot
        refine ⟨result, rfl, ?_⟩
        by_contra hrejected
        exact hnot (h (Bool.eq_false_iff.mpr hrejected)).1
      empty := fun he => absurd (Except.ok.inj he) hne
      accepting := by
        rintro - _ ⟨⟩
        exact h }

/-! ## Fields that have to be strings -/

/-- The computation succeeds, with a good result, when the values are strings, and raises
    otherwise. -/
def Guarded {α : Type} (x : Except Escape α) (values : List Json) (good : α → Prop) : Prop :=
  (Texts values → ∃ a, x = .ok a ∧ good a) ∧
    (¬ Texts values → ∃ errorClass, x = .error (.other errorClass))

section Guarded

variable {α : Type} {good : α → Prop}

theorem Guarded.pure {a : α} (h : good a) : Guarded (.ok a) [] good :=
  ⟨fun _ => ⟨a, rfl, h⟩, fun hnot => absurd (List.forall_mem_nil _) hnot⟩

/-- One more field is read. -/
theorem Guarded.bind {f : String → Except Escape α} {v : Json} {values : List Json}
    (h : ∀ s, Guarded (f s) values good) : Guarded (text v >>= f) (v :: values) good := by
  have raised : ∀ w, isText w = false → text w = .error (.other "ValidationError") := by
    intro w hw
    cases w with
    | str s => exact nomatch hw
    | _ => rfl
  by_cases hv : isText v = true
  · obtain ⟨s, rfl⟩ : ∃ s, v = .str s := by
      cases v with
      | str s => exact ⟨s, rfl⟩
      | _ => exact nomatch hv
    refine ⟨fun hall => (h s).1 fun w hw => hall w (List.mem_cons_of_mem _ hw), fun hnot => ?_⟩
    exact (h s).2 fun hall => hnot (List.forall_mem_cons.mpr ⟨hv, hall⟩)
  · refine ⟨fun hall => absurd (hall v List.mem_cons_self) hv, fun _ => ?_⟩
    rw [raised v (Bool.eq_false_iff.mpr hv)]
    exact ⟨_, rfl⟩

end Guarded

/-- A record is parsed exactly when its texts are texts. -/
theorem parseConnection_guarded (data : Dict) :
    Guarded (parseConnection (.obj data)) (recordTexts data) (fun _ => True) :=
  .bind fun _ => .bind fun _ => .bind fun _ => .bind fun _ => .bind fun _ => .bind fun _ =>
    .bind fun _ => .bind fun _ => .pure trivial

/-- A list is parsed exactly when all of its entries are records. -/
theorem parseConnections_ok : ∀ {entries : List Json}, (∀ entry ∈ entries, IsRecord entry) →
    ∃ infos, parseConnections entries = .ok infos ∧ (infos = [] ↔ entries = [])
  | [], _ => ⟨[], rfl, ⟨fun _ => rfl, fun _ => rfl⟩⟩
  | entry :: rest, h => by
    obtain ⟨⟨data, rfl, htexts⟩, hrest⟩ := List.forall_mem_cons.mp h
    obtain ⟨info, hinfo, -⟩ := (parseConnection_guarded data).1 htexts
    obtain ⟨infos, hinfos, -⟩ := parseConnections_ok hrest
    refine ⟨info :: infos, ?_, ⟨nofun, nofun⟩⟩
    rw [parseConnections, hinfo, hinfos]
    rfl

theorem parseConnections_raises : ∀ {entries : List Json},
    (¬ ∀ entry ∈ entries, IsRecord entry) →
    ∃ errorClass, parseConnections entries = .error (.other errorClass)
  | [], h => absurd (List.forall_mem_nil _) h
  | entry :: rest, h => by
    have head : IsRecord entry ∨ ∃ c, parseConnection entry = .error (.other c) := by
      cases entry with
      | obj data =>
        by_cases htexts : Texts (recordTexts data)
        · exact Or.inl ⟨data, rfl, htexts⟩
        · exact Or.inr ((parseConnection_guarded data).2 htexts)
      | _ => exact Or.inr ⟨_, rfl⟩
    rw [parseConnections]
    rcases head with hrecord | ⟨c, hc⟩
    · have hrest : ¬ ∀ e ∈ rest, IsRecord e :=
        fun hall => h (List.forall_mem_cons.mpr ⟨hrecord, hall⟩)
      obtain ⟨c, hc⟩ := parseConnections_raises hrest
      obtain ⟨data, rfl, htexts⟩ := hrecord
      obtain ⟨info, hinfo, -⟩ := (parseConnection_guarded data).1 htexts
      rw [hinfo, hc]
      exact ⟨c, rfl⟩
    · rw [hc]
      exact ⟨c, rfl⟩

/-- The outcome of a computation on the fields of a record. -/
theorem sound_guarded {α : Type} {x : Except Escape α}
    {values : List Json} {good : α → Prop} (result : α → Result) (P : Prop)
    (hx : Guarded x values good) (h : ∀ a, good a → (SoundOutcome r op (.ok (result a)) ↔ P)) :
    SoundOutcome r op (x >>= fun a => pure (result a)) ↔ Texts values ∧ P := by
  by_cases htexts : Texts values
  · obtain ⟨a, rfl, ha⟩ := hx.1 htexts
    rw [show (Except.ok a >>= fun a => pure (result a)) = (.ok (result a) : Except Escape Result)
      from rfl, h a ha]
    exact ⟨fun hp => ⟨htexts, hp⟩, fun hp => hp.2⟩
  · obtain ⟨c, rfl⟩ := hx.2 htexts
    exact ⟨fun hs => absurd hs (not_sound_other r op c), fun hp => absurd hp.1 htexts⟩

/-- A rejected outcome of a mutating operation is sound. -/
theorem sound_rejected (hop : op.mutates = true)
    (h : result.rejected = true) : SoundOutcome r op (.ok result) ↔ True := by
  have hne : result ≠ .connections [] := by
    rintro rfl
    exact nomatch h
  rw [sound_mutating hop hne, h]
  exact ⟨fun _ => trivial, nofun⟩

/-! ## The classifiers -/

theorem classifyRebind_refused (statusCode : Nat) (request : RebindRequest)
    (hok : refuses raw = true) (he : errorEntry raw = .ok e) :
    Guarded (classifyRebindOutcome statusCode raw request)
      (refusalTexts raw e "Rebind blocked.") (fun o => o.status = .rejected) := by
  unfold classifyRebindOutcome
  rw [if_pos hok, he]
  exact .bind fun _ => .bind fun _ => .pure rfl

theorem classifyInvalidate_refused (statusCode : Nat)
    (request : InvalidateRequest) (hok : refuses raw = true) (he : errorEntry raw = .ok e) :
    Guarded (classifyInvalidateOutcome statusCode raw request)
      (refusalTexts raw e "Invalidate blocked.") (fun o => o.status = .rejected) := by
  unfold classifyInvalidateOutcome
  rw [if_pos hok, he]
  exact .bind fun _ => .bind fun _ => .pure rfl

/-- The status of a rebind whose answer is no refusal. -/
def rebindStatusOf (data : Dict) (statusCode : Nat) : RebindStatus :=
  if statusCode ∈ acceptedCodes then (rebindStatuses.lookup (statusWord data)).getD .accepted
  else .rejected

/-- The status of an invalidation whose answer is no refusal. -/
def invalidateStatusOf (data : Dict) (statusCode : Nat) : InvalidateStatus :=
  if statusCode ∈ acceptedCodes then (invalidateStatuses.lookup (statusWord data)).getD .accepted
  else .rejected

theorem classifyRebind_answer (statusCode : Nat) (request : RebindRequest)
    (hok : refuses raw = false) :
    Guarded (classifyRebindOutcome statusCode raw request)
      (outcomeTexts (unwrapped raw) statusCode (.rebind request))
      (fun o => o.status = rebindStatusOf (unwrapped raw) statusCode) := by
  unfold classifyRebindOutcome outcomeTexts rebindStatusOf
  rw [if_neg (Bool.eq_false_iff.mp hok)]
  by_cases haccepted : statusCode ∈ acceptedCodes
  · simp only [if_pos haccepted]
    exact .bind fun _ => .bind fun _ => .bind fun _ => .bind fun _ => .pure rfl
  · simp only [if_neg haccepted]
    by_cases hclient : 400 ≤ statusCode ∧ statusCode < 500
    · simp only [if_pos hclient]
      exact .bind fun _ => .bind fun _ => .pure rfl
    · simp only [if_neg hclient]
      exact .bind fun _ => .pure rfl

theorem classifyInvalidate_answer (statusCode : Nat) (request : InvalidateRequest)
    (hok : refuses raw = false) :
    Guarded (classifyInvalidateOutcome statusCode raw request)
      (outcomeTexts (unwrapped raw) statusCode (.invalidate request))
      (fun o => o.status = invalidateStatusOf (unwrapped raw) statusCode) := by
  unfold classifyInvalidateOutcome outcomeTexts invalidateStatusOf
  rw [if_neg (Bool.eq_false_iff.mp hok)]
  by_cases haccepted : statusCode ∈ acceptedCodes
  · simp only [if_pos haccepted]
    exact .bind fun _ => .bind fun _ => .pure rfl
  · simp only [if_neg haccepted]
    by_cases hclient : 400 ≤ statusCode ∧ statusCode < 500
    · simp only [if_pos hclient]
      exact .bind fun _ => .pure rfl
    · simp only [if_neg hclient]
      exact .bind fun _ => .pure rfl

/-! ## What is received -/

theorem receive_answer (hbody : r.body = some (.obj raw))
    (hok : refuses raw = false) : receive (.ok r) = .ok (r.statusCode, raw) := by
  unfold receive checkEnvelopeError
  simp only [hbody, hok]
  rfl

theorem receive_refusal (hbody : r.body = some (.obj raw))
    (hok : refuses raw = true) (he : errorEntry raw = .ok e) (hscope : scopeDenied e = false) :
    receive (.ok r) = .ok (r.statusCode, raw) := by
  unfold scopeDenied at hscope
  unfold receive checkEnvelopeError
  simp only [hbody, hok, he, hscope, bind, Except.bind]
  rfl

theorem receive_denied (hbody : r.body = some (.obj raw))
    (hok : refuses raw = true) (he : errorEntry raw = .ok e) (hscope : scopeDenied e = true) :
    ∃ failure, receive (.ok r) = .error (.typed failure) := by
  unfold scopeDenied at hscope
  unfold receive checkEnvelopeError
  simp only [hbody, hok, he, hscope, bind, Except.bind]
  exact ⟨_, rfl⟩

/-- An answer that cannot be read makes `_check_envelope_error` or its caller raise. -/
theorem receive_unreadable (h : ∀ raw : Dict, r.body = some (.obj raw) →
      refuses raw = true ∧ ∀ e, raw.getOr "error" (.obj []) ≠ .obj e) :
    ∃ errorClass, receive (.ok r) = .error (.other errorClass) := by
  obtain ⟨statusCode, body⟩ := r
  cases body with
  | none => exact ⟨_, rfl⟩
  | some body =>
    cases body with
    | obj raw =>
      obtain ⟨hok, hentry⟩ := h raw rfl
      have he : errorEntry raw = .error (.other "AttributeError") := by
        unfold errorEntry
        cases hv : Dict.getOr raw "error" (.obj []) with
        | obj e => exact absurd hv (hentry e)
        | _ => rfl
      refine ⟨"AttributeError", ?_⟩
      unfold receive checkEnvelopeError
      simp only [hok, he]
      rfl
    | _ => exact ⟨_, rfl⟩

/-- Every operation passes an exception of the exchange on. -/
theorem call_error {escape : Escape} (h : receive exchange = .error escape) (op : Operation) :
    call exchange op = .error escape := by
  cases op with
  | list => rw [call, listConnections, h]; rfl
  | inspect host id => rw [call, connectionInspect, inspected, h]; rfl
  | status host id => rw [call, connectionStatus, inspected, h]; rfl
  | lineage host id => rw [call, connectionLineage, inspected, h]; rfl
  | rebind request => rw [call, rebind, h]; rfl
  | invalidate request => rw [call, invalidate, h]; rfl

theorem call_list_notFound
    (h : receive exchange = .ok (statusCode, raw)) (hcode : statusCode = 404) :
    call exchange .list = .ok (.connections []) := by
  rw [call, listConnections, h]
  simp only [bind, Except.bind, if_pos hcode]
  rfl

/-- Anything but a 404 is read as a list. -/
theorem call_list (h : receive exchange = .ok (statusCode, raw)) (hcode : statusCode ≠ 404) :
    call exchange .list =
      (match (unwrapped raw).getOr "connections" (.arr []) with
        | .arr connections => parseConnections connections
        | _ => .ok []) >>= fun infos => pure (.connections infos) := by
  rw [call, listConnections, h]
  simp only [bind, Except.bind, if_neg hcode]
  rfl

/-- After the exchange, a listing raises none of the typed errors. -/
theorem call_list_escapes {escape : Escape} (h : receive exchange = .ok (statusCode, raw))
    (hcall : call exchange .list = .error escape) : ∃ c, escape = .other c := by
  by_cases hcode : statusCode = 404
  · rw [call_list_notFound h hcode] at hcall
    exact nomatch hcall
  · rw [call_list h hcode] at hcall
    cases hv : (unwrapped raw).getOr "connections" (.arr []) with
    | arr entries =>
      rw [hv] at hcall
      by_cases hall : ∀ entry ∈ entries, IsRecord entry
      · obtain ⟨infos, hinfos, -⟩ := parseConnections_ok hall
        simp only [hinfos] at hcall
        exact nomatch hcall
      · obtain ⟨c, hc⟩ := parseConnections_raises hall
        simp only [hc] at hcall
        exact ⟨c, (Except.error.inj hcall).symm⟩
    | _ =>
      rw [hv] at hcall
      exact nomatch hcall

/-- Where no connections are listed, an empty list comes from a key that is missing or from a
    value that is no list. -/
theorem list_unreported {entries : List Json} {data : Dict}
    (hget : data.get "connections" ≠ .arr entries)
    (hor : data.getOr "connections" (.arr []) = .arr entries) :
    entries = [] ∧ data.get "connections" ≠ .arr [] := by
  cases hhas : data.has "connections" with
  | true =>
    rw [getOr_of_has hhas] at hor
    exact absurd hor hget
  | false =>
    rw [getOr_of_not_has hhas] at hor
    rw [get_of_not_has hhas]
    exact ⟨(Json.arr.inj hor).symm, nofun⟩

/-! ## Sound calls, by the kind of answer -/

section Answers

variable {r : Response} {raw : Dict} (hbody : r.body = some (.obj raw))

include hbody

theorem answered_iff : r.Answered ↔ r.ok ∧ refuses raw = false := by
  constructor
  · rintro ⟨hcode, hok⟩
    exact ⟨hcode, hok raw hbody⟩
  · rintro ⟨hcode, hok⟩
    refine ⟨hcode, fun raw' hbody' => ?_⟩
    obtain rfl : raw = raw' := Json.obj.inj (Option.some.inj (hbody.symm.trans hbody'))
    exact hok

theorem reportsNone_iff : r.ReportsNone ↔ (unwrapped raw).get "connections" = .arr [] := by
  constructor
  · rintro ⟨raw', hbody', hnone⟩
    obtain rfl : raw = raw' := Json.obj.inj (Option.some.inj (hbody.symm.trans hbody'))
    exact hnone
  · exact fun hnone => ⟨raw, hbody, hnone⟩

theorem accepts_iff (op : Operation) : r.Accepts op ↔
    isNull ((unwrapped raw).get "status") = true ∨
      statusWord (unwrapped raw) ∈ op.acceptingWords := by
  constructor
  · rintro ⟨raw', hbody', haccepts⟩
    obtain rfl : raw = raw' := Json.obj.inj (Option.some.inj (hbody.symm.trans hbody'))
    exact haccepts
  · exact fun haccepts => ⟨raw, hbody, haccepts⟩

theorem not_answered (hok : refuses raw = true) : ¬ r.Answered := by
  rw [answered_iff hbody, hok]
  exact fun h => nomatch h.2

/-- Refusals. -/
theorem sound_refused (hok : refuses raw = true) (he : errorEntry raw = .ok e)
    (op : Operation) : Sound r op ↔ RefusalClear raw e r.statusCode op := by
  have hnot := not_answered hbody hok
  unfold Sound
  by_cases hscope : scopeDenied e = true
  · obtain ⟨failure, hreceive⟩ := receive_denied hbody hok he hscope
    rw [call_error hreceive, sound_typed]
    cases op with
    | list => exact ⟨fun _ => Or.inl hscope, nofun⟩
    | inspect host id => exact ⟨fun _ => trivial, nofun⟩
    | status host id => exact ⟨fun _ => trivial, nofun⟩
    | lineage host id => exact ⟨fun _ => trivial, nofun⟩
    | rebind request =>
      exact ⟨fun h => absurd (h rfl) hnot, fun h => absurd hscope (Bool.eq_false_iff.mp h.1)⟩
    | invalidate request =>
      exact ⟨fun h => absurd (h rfl) hnot, fun h => absurd hscope (Bool.eq_false_iff.mp h.1)⟩
  · have hscope := Bool.eq_false_iff.mpr hscope
    have hreceive := receive_refusal hbody hok he hscope
    have hinspected : ∀ host id, inspected (.ok r) host id = .error (.typed (notFoundError host id)) := by
      intro host id
      unfold inspected
      rw [hreceive]
      simp only [bind, Except.bind, hok, Bool.or_true]
      rfl
    cases op with
    | list =>
      by_cases hcode : r.statusCode = 404
      · rw [call_list_notFound hreceive hcode, sound_inspecting rfl]
        exact ⟨fun _ => Or.inr hcode, fun _ => ⟨Or.inr ⟨hcode, rfl⟩, fun _ => Or.inl hcode⟩⟩
      · constructor
        · intro h
          -- a list, or an exception: both are wrong for a refusal
          exfalso
          cases hcall : call (.ok r) .list with
          | error escape =>
            rw [hcall] at h
            obtain ⟨c, hc⟩ := call_list_escapes hreceive hcall
            rw [hc] at h
            exact not_sound_other r _ c h
          | ok result =>
            rw [hcall, sound_inspecting rfl] at h
            rcases h.1 with hanswered | ⟨hfound, -⟩
            · exact hnot hanswered
            · exact hcode hfound
        · rintro (hdenied | hfound)
          · exact absurd hdenied (Bool.eq_false_iff.mp hscope)
          · exact absurd hfound hcode
    | inspect host id =>
      rw [call, connectionInspect, hinspected]
      exact ⟨fun _ => trivial, fun _ => (sound_typed r _ _).mpr nofun⟩
    | status host id =>
      rw [call, connectionStatus, hinspected]
      exact ⟨fun _ => trivial, fun _ => (sound_typed r _ _).mpr nofun⟩
    | lineage host id =>
      rw [call, connectionLineage, hinspected]
      exact ⟨fun _ => trivial, fun _ => (sound_typed r _ _).mpr nofun⟩
    | rebind request =>
      rw [call, rebind, hreceive]
      show SoundOutcome r _ (classifyRebindOutcome r.statusCode raw request >>= _) ↔ _
      rw [sound_guarded .rebound True (classifyRebind_refused r.statusCode request hok he)
        fun a ha => sound_rejected rfl (decide_eq_true ha)]
      exact ⟨fun h => ⟨hscope, h.1⟩, fun h => ⟨h.2, trivial⟩⟩
    | invalidate request =>
      rw [call, invalidate, hreceive]
      show SoundOutcome r _ (classifyInvalidateOutcome r.statusCode raw request >>= _) ↔ _
      rw [sound_guarded .invalidated True
        (classifyInvalidate_refused r.statusCode request hok he)
        fun a ha => sound_rejected rfl (decide_eq_true ha)]
      exact ⟨fun h => ⟨hscope, h.1⟩, fun h => ⟨h.2, trivial⟩⟩

theorem sound_list (hok : refuses raw = false) :
    Sound r .list ↔ AnswerClear (unwrapped raw) r .list := by
  have hreceive := receive_answer hbody hok
  have hanswered : r.Answered ↔ r.ok := by
    rw [answered_iff hbody, hok]
    exact and_iff_left rfl
  unfold Sound
  by_cases hcode : r.statusCode = 404
  · rw [call_list_notFound hreceive hcode, sound_inspecting rfl]
    exact ⟨fun _ => Or.inl hcode, fun _ => ⟨Or.inr ⟨hcode, rfl⟩, fun _ => Or.inl hcode⟩⟩
  · -- every other answer has to list records
    have clear_iff : AnswerClear (unwrapped raw) r .list ↔ r.ok ∧ ∃ entries,
        (unwrapped raw).get "connections" = .arr entries ∧ ∀ entry ∈ entries, IsRecord entry :=
      or_iff_right hcode
    have empty_iff : SoundOutcome r .list (.ok (.connections [])) ↔
        r.ok ∧ (unwrapped raw).get "connections" = .arr [] := by
      rw [sound_inspecting rfl, hanswered, reportsNone_iff hbody]
      constructor
      · rintro ⟨hcalled, hnone⟩
        exact ⟨hcalled.resolve_right fun h => hcode h.1, (hnone rfl).resolve_left hcode⟩
      · rintro ⟨hcalled, hnone⟩
        exact ⟨Or.inl hcalled, fun _ => Or.inr hnone⟩
    rw [call_list hreceive hcode, clear_iff]
    cases hv : (unwrapped raw).getOr "connections" (.arr []) with
    | arr entries =>
      by_cases hget : (unwrapped raw).get "connections" = .arr entries
      · by_cases hall : ∀ entry ∈ entries, IsRecord entry
        · obtain ⟨infos, hinfos, hnil⟩ := parseConnections_ok hall
          show SoundOutcome r .list (parseConnections entries >>= _) ↔ _
          rw [hinfos]
          show SoundOutcome r .list (.ok (.connections infos)) ↔ _
          rw [sound_inspecting rfl, hanswered, reportsNone_iff hbody]
          constructor
          · rintro ⟨hcalled, -⟩
            exact ⟨hcalled.resolve_right fun h => hcode h.1, entries, hget, hall⟩
          · rintro ⟨hcalled, -⟩
            refine ⟨Or.inl hcalled, fun he => Or.inr ?_⟩
            rw [hget, hnil.mp (Result.connections.inj he)]
        · obtain ⟨c, hc⟩ := parseConnections_raises hall
          show SoundOutcome r .list (parseConnections entries >>= _) ↔ _
          rw [hc]
          refine ⟨fun h => absurd h (not_sound_other r _ c), ?_⟩
          rintro ⟨-, entries', hget', hall'⟩
          obtain rfl : entries = entries' := Json.arr.inj (hget.symm.trans hget')
          exact absurd hall' hall
      · obtain ⟨rfl, hne⟩ := list_unreported hget hv
        show SoundOutcome r .list (.ok (.connections [])) ↔ _
        rw [empty_iff]
        refine ⟨fun h => absurd h.2 hne, ?_⟩
        rintro ⟨-, entries', hget', -⟩
        have hhas := getOr_of_get_arr (v := .arr []) hget'
        obtain rfl : [] = entries' := Json.arr.inj (hv.symm.trans hhas)
        exact absurd hget' hne
    | _ =>
      show SoundOutcome r .list (.ok (.connections [])) ↔ _
      rw [empty_iff]
      have hne : ∀ entries, (unwrapped raw).get "connections" ≠ .arr entries := by
        intro entries hget
        exact nomatch hv.symm.trans (getOr_of_get_arr hget)
      refine ⟨fun h => absurd h.2 (hne []), ?_⟩
      rintro ⟨-, entries, hget, -⟩
      exact absurd hget (hne entries)

/-- The answer of an inspecting call about one connection, which parses what it is given. -/
theorem sound_record (hop : op.mutates = false) (hok : refuses raw = false)
    (hfound : r.statusCode ≠ 404) :
    SoundOutcome r op (parseConnection (.obj (unwrapped raw)) >>= fun a => pure (.connection a)) ↔
      r.ok ∧ Texts (recordTexts (unwrapped raw)) := by
  rw [sound_guarded .connection r.ok (parseConnection_guarded _), and_comm]
  intro a _
  rw [sound_inspecting hop, answered_iff hbody, hok]
  constructor
  · rintro ⟨hcalled | ⟨hcode, -⟩, -⟩
    · exact hcalled.1
    · exact absurd hcode hfound
  · intro hcalled
    exact ⟨Or.inl ⟨hcalled, rfl⟩, nofun⟩

/-- Where the shared check passes an answer on, it hands over the payload. -/
theorem inspected_answer (hok : refuses raw = false) (hostId connectionId : String) :
    inspected (.ok r) hostId connectionId =
      if r.statusCode = 404 then .error (.typed (notFoundError hostId connectionId))
      else .ok (unwrapped raw) := by
  unfold inspected
  rw [receive_answer hbody hok]
  simp only [bind, Except.bind, hok, Bool.or_false]
  by_cases hcode : r.statusCode = 404
  · simp only [hcode, decide_true, if_pos]
  · simp only [hcode, decide_false, if_neg, Bool.false_eq_true, not_false_eq_true]
    rfl

theorem sound_lineage (hok : refuses raw = false) (hostId connectionId : String) :
    Sound r (.lineage hostId connectionId) ↔
      AnswerClear (unwrapped raw) r (.lineage hostId connectionId) := by
  unfold Sound
  rw [call, connectionLineage, inspected_answer hbody hok]
  by_cases hcode : r.statusCode = 404
  · rw [if_pos hcode]
    exact ⟨fun _ => Or.inl hcode, fun _ => (sound_typed r _ _).mpr nofun⟩
  · rw [if_neg hcode]
    show SoundOutcome r _ (.ok (.lineage (unwrapped raw))) ↔ _
    rw [sound_inspecting rfl, answered_iff hbody, hok]
    constructor
    · rintro ⟨hcalled | ⟨hfound, -⟩, -⟩
      · exact Or.inr hcalled.1
      · exact absurd hfound hcode
    · rintro (hfound | hcalled)
      · exact absurd hfound hcode
      · exact ⟨Or.inl ⟨hcalled, rfl⟩, nofun⟩

end Answers

/-! ## Status words -/

/-- A word outside a table gets the default. -/
theorem lookup_of_not_mem {α : Type} {table : List (String × α)} {word : String}
    (h : word ∉ table.map (·.1)) : table.lookup word = none := by
  rw [List.lookup_eq_none_iff]
  intro entry hentry
  rw [bne_iff_ne]
  rintro rfl
  exact h (List.mem_map_of_mem hentry)

/-- A table reports an acceptance only on an accepting word exactly when it knows the word. -/
theorem table_word {α : Type} {table : List (String × α)} {words : List String}
    {accepted rejected : α} (hdefault : accepted ≠ rejected)
    (hsub : ∀ w ∈ words, w ∈ table.map (·.1))
    (hsound : ∀ w ∈ table.map (·.1), (table.lookup w).getD accepted ≠ rejected → w ∈ words)
    (word : String) :
    ((table.lookup word).getD accepted ≠ rejected → word ∈ words) ↔ word ∈ table.map (·.1) := by
  by_cases hknown : word ∈ table.map (·.1)
  · exact ⟨fun _ => hknown, fun _ => hsound word hknown⟩
  · rw [lookup_of_not_mem hknown]
    exact ⟨fun h => hsub word (h hdefault), fun h => absurd h hknown⟩

theorem rebind_word (word : String) :
    ((rebindStatuses.lookup word).getD .accepted ≠ .rejected →
      word ∈ ["accepted", "rebound", "deferred", "replayed"]) ↔
    word ∈ rebindStatuses.map (·.1) := by
  refine table_word ?_ ?_ ?_ word <;> decide

theorem invalidate_word (word : String) :
    ((invalidateStatuses.lookup word).getD .accepted ≠ .rejected →
      word ∈ ["accepted", "already_invalidated"]) ↔
    word ∈ invalidateStatuses.map (·.1) := by
  refine table_word ?_ ?_ ?_ word <;> decide

theorem ok_of_acceptedCodes (h : r.statusCode ∈ acceptedCodes) : r.ok := by
  simp only [acceptedCodes, List.mem_cons, List.not_mem_nil, or_false] at h
  unfold Response.ok
  omega

section Answers

variable {r : Response} {raw : Dict} (hbody : r.body = some (.obj raw))

include hbody

/-- An outcome of a mutating operation on an answer that is no refusal: the code and the word
    decide. -/
theorem sound_answered {α : Type} {status known refused : α}
    (hop : op.mutates = true) (hok : refuses raw = false) (hne : result ≠ .connections [])
    (hrejected : result.rejected = false ↔ status ≠ refused)
    (hstatus : status = if r.statusCode ∈ acceptedCodes then known else refused)
    (hword : (known ≠ refused → statusWord (unwrapped raw) ∈ op.acceptingWords) ↔
      statusWord (unwrapped raw) ∈ op.knownWords) :
    SoundOutcome r op (.ok result) ↔ (r.statusCode ∈ acceptedCodes →
      isNull ((unwrapped raw).get "status") = true ∨
        statusWord (unwrapped raw) ∈ op.knownWords) := by
  rw [sound_mutating hop hne, hrejected, answered_iff hbody, accepts_iff hbody, hok, ← hword,
    hstatus]
  by_cases hcode : r.statusCode ∈ acceptedCodes
  · rw [if_pos hcode]
    constructor
    · intro h _
      by_cases hnull : isNull ((unwrapped raw).get "status") = true
      · exact Or.inl hnull
      · exact Or.inr fun hr => (h hr).2.resolve_left hnull
    · intro h hr
      refine ⟨⟨ok_of_acceptedCodes hcode, rfl⟩, ?_⟩
      rcases h hcode with hnull | hmem
      · exact Or.inl hnull
      · exact Or.inr (hmem hr)
  · rw [if_neg hcode]
    exact ⟨fun _ h => absurd h hcode, fun _ h => absurd rfl h⟩

theorem sound_rebind (hok : refuses raw = false) (request : RebindRequest) :
    Sound r (.rebind request) ↔ AnswerClear (unwrapped raw) r (.rebind request) := by
  unfold Sound
  rw [call, rebind, receive_answer hbody hok]
  exact sound_guarded .rebound _ (classifyRebind_answer r.statusCode request hok)
    fun _ hstatus => sound_answered hbody rfl hok nofun decide_eq_false_iff_not hstatus
      (rebind_word _)

theorem sound_invalidate (hok : refuses raw = false) (request : InvalidateRequest) :
    Sound r (.invalidate request) ↔ AnswerClear (unwrapped raw) r (.invalidate request) := by
  unfold Sound
  rw [call, invalidate, receive_answer hbody hok]
  exact sound_guarded .invalidated _ (classifyInvalidate_answer r.statusCode request hok)
    fun _ hstatus => sound_answered hbody rfl hok nofun decide_eq_false_iff_not hstatus
      (invalidate_word _)

/-- The two calls that read one record, on an answer that is no refusal. -/
theorem sound_connection (hop : op.mutates = false) (hok : refuses raw = false)
    (hostId connectionId : String) (hcall : call (.ok r) op = (do
      let data ← inspected (.ok r) hostId connectionId
      return .connection (← parseConnection (.obj data)))) :
    Sound r op ↔ r.statusCode = 404 ∨ (r.ok ∧ Texts (recordTexts (unwrapped raw))) := by
  unfold Sound
  rw [hcall, inspected_answer hbody hok]
  by_cases hcode : r.statusCode = 404
  · rw [if_pos hcode]
    refine ⟨fun _ => Or.inl hcode, fun _ => (sound_typed r _ _).mpr fun h => ?_⟩
    exact nomatch hop.symm.trans h
  · rw [if_neg hcode, or_iff_right hcode]
    exact sound_record hbody hop hok hcode

/-- Answers that are no refusal. -/
theorem sound_answer (hok : refuses raw = false) (op : Operation) :
    Sound r op ↔ AnswerClear (unwrapped raw) r op := by
  cases op with
  | list => exact sound_list hbody hok
  | inspect hostId connectionId =>
    exact sound_connection hbody rfl hok hostId connectionId
      (by simp only [call, connectionInspect, bind_assoc])
  | status hostId connectionId =>
    exact sound_connection hbody rfl hok hostId connectionId
      (by simp only [call, connectionStatus, bind_assoc])
  | lineage hostId connectionId => exact sound_lineage hbody hok hostId connectionId
  | rebind request => exact sound_rebind hbody hok request
  | invalidate request => exact sound_invalidate hbody hok request

end Answers

/-- A failed operation never looks like a success exactly on the answers that are clear. -/
theorem soundCall_iff (r : Response) (op : Operation) : Sound r op ↔ Clear r op := by
  by_cases hreadable : ∃ raw : Dict, r.body = some (.obj raw) ∧
      (refuses raw = true → ∃ e, raw.getOr "error" (.obj []) = .obj e)
  · obtain ⟨raw, hbody, hentry⟩ := hreadable
    have hraw : ∀ {raw' : Dict}, r.body = some (.obj raw') → raw' = raw :=
      fun hbody' => Json.obj.inj (Option.some.inj (hbody'.symm.trans hbody))
    cases hok : refuses raw with
    | true =>
      obtain ⟨e, he⟩ := hentry hok
      have hread : errorEntry raw = .ok e := by
        unfold errorEntry
        rw [he]
      rw [sound_refused hbody hok hread]
      constructor
      · intro h
        exact ⟨raw, hbody, fun _ => ⟨e, he, h⟩, fun hf => (nomatch hok.symm.trans hf)⟩
      · rintro ⟨raw', hbody', hrefusal, -⟩
        obtain rfl := hraw hbody'
        obtain ⟨e', he', hclear⟩ := hrefusal hok
        obtain rfl : e = e' := Json.obj.inj (he.symm.trans he')
        exact hclear
    | false =>
      rw [sound_answer hbody hok]
      constructor
      · intro h
        exact ⟨raw, hbody, fun ht => (nomatch hok.symm.trans ht), fun _ => h⟩
      · rintro ⟨raw', hbody', -, hclear⟩
        obtain rfl := hraw hbody'
        exact hclear hok
  · have hunreadable : ∀ raw : Dict, r.body = some (.obj raw) →
        refuses raw = true ∧ ∀ e, raw.getOr "error" (.obj []) ≠ .obj e := by
      intro raw hbody
      by_contra hnot
      refine hreadable ⟨raw, hbody, fun hok => ?_⟩
      by_contra hentry
      exact hnot ⟨hok, fun e he => hentry ⟨e, he⟩⟩
    obtain ⟨c, hc⟩ := receive_unreadable hunreadable
    constructor
    · intro h
      unfold Sound at h
      rw [call_error hc] at h
      exact absurd h (not_sound_other r op c)
    · rintro ⟨raw, hbody, hrefusal, -⟩
      obtain ⟨hok, hentry⟩ := hunreadable raw hbody
      obtain ⟨e, he, -⟩ := hrefusal hok
      exact absurd he (hentry e)

/-- A 500 whose body is an empty object is a connection. -/
theorem serverError_inspected :
    ¬ Sound ⟨500, some (.obj [])⟩ (.inspect "vscode" "") := by
  intro h
  have hcall : ∃ info, call (.ok ⟨500, some (.obj [])⟩) (.inspect "vscode" "")
      = .ok (.connection info) := ⟨_, rfl⟩
  obtain ⟨info, hcall⟩ := hcall
  rcases h.inspecting rfl _ hcall with ⟨⟨-, hcode⟩, -⟩ | ⟨hcode, -⟩
  · exact absurd hcode (by decide)
  · exact absurd hcode (by decide)

end KeyholeConnections
