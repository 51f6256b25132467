import Keyhole.ExceptLoops
import Keyhole.FloatLiterals

/-!
# Budgets and limits of an answer

`parse_limit_outcome` classifies an answer by the limits it mentions, and takes over the budget
figures and the time to wait.  Alternative names of a field are tried one after the other, as
long as what they hold is false.

* `classifyOutcome`, `extractBudgetSnapshots`, `extractRetryAfter`, `parseLimitOutcome`: the
  source;
* `Kept`: the figures are those the server reported, and an answer without limits is classified
  as an empty one;
* `parseLimitOutcome_kept_iff`: the answers whose figures are kept. -/

namespace KeyholeBudget

open KeyholeJson KeyholeNamespace
open Binary64
open ExceptLoops (bind_ok)
open KeyholeFloats
open KeyholeSubset (intLiteral)

/-! ## Numbers -/

/-- The class of an exception that escapes. -/
abbrev Raised := String

/-- `_safe_float`: an integer too large for a double raises an exception it does not catch. -/
def safeFloat : Json → Except Raised (Option Double)
  | .null => .ok none
  | .bool b => .ok (some (.finite (if b then 1 else 0)))
  | .int n =>
      match nearest n with
      | some q => .ok (some (.finite q))
      | none => .error "OverflowError"
  | .float text => .ok (some (floatOfText text.toList))
  | .str s => .ok (pyFloat s.toList)
  | .arr _ | .obj _ => .ok none

/-- `_safe_int`: so does an infinite double. -/
def safeInt : Json → Except Raised (Option ℤ)
  | .null => .ok none
  | .bool b => .ok (some (if b then 1 else 0))
  | .int n => .ok (some n)
  | .float text =>
      match floatOfText text.toList with
      | .finite q => .ok (some (truncate q))
      | .infinite _ => .error "OverflowError"
      | .nan => .ok none
  | .str s => .ok (intLiteral (stripText s.toList))
  | .arr _ | .obj _ => .ok none

/-! ## Results -/

/-- `LimitOutcomeClass`. -/
inductive LimitOutcomeClass where
  | successWithBudgetVisibility
  | budgetExhausted
  | deferred
  | rateLimited
  | concurrencyLimited
  | unknownPressure
  | noPressureData
  deriving DecidableEq

/-- `LimitOutcomeClass.value`. -/
def LimitOutcomeClass.value : LimitOutcomeClass → String
  | .successWithBudgetVisibility => "success_with_budget_visibility"
  | .budgetExhausted => "budget_exhausted"
  | .deferred => "deferred"
  | .rateLimited => "rate_limited"
  | .concurrencyLimited => "concurrency_limited"
  | .unknownPressure => "unknown_pressure"
  | .noPressureData => "no_pressure_data"

/-- `BudgetSnapshot`. -/
structure BudgetSnapshot where
  budgetClass : String
  budgetUsed : Option Double
  budgetRemaining : Option Double
  budgetUnit : String
  nearLimit : Bool
  retryAfter : Option ℤ

/-- `LimitResult`, without the time of the parse. -/
structure LimitResult where
  outcomeClass : LimitOutcomeClass
  runId : String
  requestId : String
  status : String := ""
  limitClass : String := ""
  budgetSnapshots : List BudgetSnapshot := []
  partialExecution : Bool := false
  isTerminal : Bool := true
  retryAfter : Option ℤ := none
  retrySafe : Bool := false
  repairGuidance : List String := []
  correlationId : String
  rawData : Dict

/-- `_REPAIR_MAP`. -/
def repairMap : List (String × List String) :=
  [("budget_exhausted",
      ["Inspect the exhausted budget class and narrow the run scope.",
        "Reduce output volume or target set before retrying.",
        "Use --shadow for exploratory work to avoid consuming bounded budgets.",
        "Contact your tenant admin if the budget appears misconfigured.",
        "Run: keyhole runs status <run-id> — to retrieve the full terminal state."]),
    ("deferred",
      ["The request was deferred due to governed pressure handling — not rejected.",
        "The run may still execute when platform pressure reduces.",
        "Run: keyhole runs status <run-id> — to check if the run has started.",
        "Run: keyhole runs wait <run-id> — to await terminal state.",
        "Run: keyhole runs resume <identifier> — to reconnect to a deferred run."]),
    ("rate_limited",
      ["The request was rate limited — this is not a semantic contract failure.",
        "Wait for the indicated retry interval, then retry.",
        "Run: keyhole runs status <run-id> — to check if an earlier run already started.",
        "Reduce submission rate if the rate limit persists.",
        "Check your tenant rate posture if limits seem too low."]),
    ("concurrency_limited",
      ["The request was gated by a concurrency slot limit.",
        "Wait for current runs to complete before submitting new work.",
        "Run: keyhole runs list — to see which runs are currently active.",
        "Run: keyhole runs wait <run-id> — for each active run before retrying.",
        "Reduce the number of simultaneous governed runs in your tenant."]),
    ("unknown_pressure",
      ["The server returned an unrecognized limit or pressure category.",
        "Run: keyhole runs status <run-id> — to retrieve full run metadata.",
        "Inspect the proof artifact for raw server response details.",
        "Retry after a short delay — this may be a transient platform condition.",
        "If the issue persists, contact support with the run_id and request_id."]),
    ("success_with_budget_visibility",
      ["The run completed successfully.",
        "Review the budget posture summary for any near-limit warnings.",
        "Consider reducing run scope if any budgets are near exhaustion."]),
    ("no_pressure_data",
      ["No budget or limit information was returned by the server.",
        "Run: keyhole runs status <run-id> — to request fresh status."]),
    ("TransportUnknownError",
      ["A transport-level error occurred when fetching budget posture.",
        "Check network connectivity and retry.",
        "Verify the MCP boundary is reachable: keyhole doctor"]),
    ("AuthenticationError",
      ["Not authenticated. Run: keyhole login",
        "Then retry: keyhole runs budget <run-id>"]),
    ("NotAuthenticated",
      ["Not authenticated. Run: keyhole login",
        "Then retry: keyhole runs budget <run-id>"]),
    ("MissingRunId",
      ["A run ID is required. Use: keyhole runs budget <run-id>",
        "Run: keyhole runs list — to find recent run IDs."])]

/-- `_DEFAULT_REPAIR`. -/
def defaultRepair : List String :=
  ["Inspect the proof artifact for raw server details.",
    "Run: keyhole runs status <run-id> — for current run state.",
    "Retry after a short delay if this is a transient condition."]

/-- `map_budget_repair`. -/
def mapBudgetRepair (outcomeClass : String) : List String :=
  (repairMap.lookup outcomeClass).getD defaultRepair

/-! ## The fields of an answer -/

/-- `v or w`. -/
def orElse (v w : Json) : Json := if truthy v then v else w

/-- The first list with an entry under one of the keys. -/
def firstList (data : Dict) : List String → Option (List Json)
  | [] => none
  | key :: rest =>
      match data.get key with
      | .arr (v :: items) => some (v :: items)
      | _ => firstList data rest

/-- The first dictionary with an entry under one of the keys. -/
def firstDict (data : Dict) : List String → Option Dict
  | [] => none
  | key :: rest =>
      match data.get key with
      | .obj (entry :: fields) => some (entry :: fields)
      | _ => firstDict data rest

/-- `_get_snapshots_raw`. -/
def getSnapshotsRaw (data : Dict) : List Json :=
  match firstList data ["budget_snapshots", "budgets", "budget_dimensions"] with
  | some items => items
  | none =>
      match firstDict data ["budget", "budget_posture", "budget_snapshot"] with
      | some fields => [.obj fields]
      | none => []

/-- The snapshot of one mapping; what it raises is caught by the loop. -/
def readSnapshot (raw : Dict) : Except Raised BudgetSnapshot := do
  let budgetUsed ← safeFloat (orElse (raw.get "budget_used") (raw.get "used"))
  let budgetRemaining ← safeFloat (orElse (raw.get "budget_remaining") (raw.get "remaining"))
  let retryAfter ← safeInt (raw.get "retry_after")
  return {
    budgetClass := strOr (orElse (orElse (raw.get "budget_class") (raw.get "class"))
      (raw.get "type"))
    budgetUsed, budgetRemaining
    budgetUnit := strOr (orElse (raw.get "budget_unit") (raw.get "unit"))
    nearLimit := truthy (orElse (raw.get "near_limit") (raw.get "warning"))
    retryAfter }

/-- One turn of the loop: what is no mapping, or raises, is left out. -/
def readEntry : Json → Option BudgetSnapshot
  | .obj raw => (readSnapshot raw).toOption
  | _ => none

/-- The snapshots of a list. -/
def readSnapshots (entries : List Json) : List BudgetSnapshot := entries.filterMap readEntry

/-- `_extract_budget_snapshots`. -/
def extractBudgetSnapshots (data : Dict) : List BudgetSnapshot :=
  readSnapshots (getSnapshotsRaw data)

/-- `data.get("budget") or data.get("budget_posture") or {}`. -/
def budgetOf (data : Dict) : Json :=
  orElse (orElse (data.get "budget") (data.get "budget_posture")) (.obj [])

/-- `budget.get("retry_after")`, if the budget is a dictionary. -/
def budgetRetry (data : Dict) : Json :=
  match budgetOf data with
  | .obj budget => Dict.get budget "retry_after"
  | _ => .null

/-- `_extract_retry_after`. -/
def extractRetryAfter (data : Dict) : Except Raised (Option ℤ) :=
  let val := orElse (data.get "retry_after") (data.get "retry_after_seconds")
  if isNull val then
    if isNull (budgetRetry data) then .ok none else safeInt (budgetRetry data)
  else safeInt val

/-! ## The classification -/

/-- `_BUDGET_EXHAUSTED_STATUSES`. -/
def budgetExhaustedStatuses : List String :=
  ["budget_exhausted", "budget_exceeded", "limit_exceeded", "resource_exhausted",
    "quota_exceeded"]

/-- `_RATE_LIMIT_STATUSES`. -/
def rateLimitStatuses : List String :=
  ["rate_limited", "ratelimited", "throttled", "too_many_requests"]

/-- `_CONCURRENCY_LIMIT_STATUSES`. -/
def concurrencyLimitStatuses : List String :=
  ["concurrency_limited", "concurrency_exceeded", "slot_unavailable", "capacity_exceeded"]

/-- `_DEFERRED_STATUSES`. -/
def deferredStatuses : List String :=
  ["deferred", "deferred_pressure", "held", "admission_held", "queue_full"]

/-- `_RATE_LIMIT_HTTP_CODES` and `_OVERLOAD_HTTP_CODES`. -/
def rateLimitHttpCodes : List Nat := [429]

def overloadHttpCodes : List Nat := [503, 529]

/-- The four classes that a field can name, tried in this order. -/
def namedClass (field : String) : Option LimitOutcomeClass :=
  if field ∈ budgetExhaustedStatuses ∨ contains field "budget_exhaust" then some .budgetExhausted
  else if field ∈ rateLimitStatuses ∨ contains field "rate_limit" ∨ contains field "throttl" then
    some .rateLimited
  else if field ∈ concurrencyLimitStatuses ∨ contains field "concurrency" then
    some .concurrencyLimited
  else if field ∈ deferredStatuses ∨ contains field "defer" then some .deferred
  else none

/-- The class that the budget data of an answer make visible. -/
def visibleClass (rawStatus : String) (data : Dict) : LimitOutcomeClass :=
  let budget := asDict (budgetOf data)
  if budget ≠ [] ∧ (truthy (orElse (budget.get "near_limit") (budget.get "warning")) ∨
      rawStatus ∈ ["success", "completed", "ok"]) then
    .successWithBudgetVisibility
  else if getSnapshotsRaw data ≠ [] ∧ rawStatus ∈ ["success", "completed", "ok", ""] then
    .successWithBudgetVisibility
  else .noPressureData

/-- The class by the HTTP status. -/
def httpClass (httpStatusCode : Option Nat) : Option LimitOutcomeClass :=
  httpStatusCode.bind fun code =>
    if code ∈ rateLimitHttpCodes then some .rateLimited
    else if code ∈ overloadHttpCodes then some .unknownPressure
    else none

/-- `_classify_outcome`. -/
def classifyOutcome (rawStatus limitOutcomeField : String) (httpStatusCode : Option Nat)
    (data : Dict) : LimitOutcomeClass :=
  if limitOutcomeField ≠ "" then
    match namedClass limitOutcomeField with
    | some outcomeClass => outcomeClass
    | none =>
        if contains limitOutcomeField "success" ∨
            contains limitOutcomeField "budget_visibility" then
          .successWithBudgetVisibility
        else .unknownPressure
  else
    match httpClass httpStatusCode with
    | some outcomeClass => outcomeClass
    | none =>
        match namedClass rawStatus with
        | some outcomeClass => outcomeClass
        | none => visibleClass rawStatus data

/-- `_infer_limit_class`. -/
def inferLimitClass (snapshots : List BudgetSnapshot) (outcomeClass : LimitOutcomeClass) :
    String :=
  let classes := (snapshots.map BudgetSnapshot.budgetClass).filter (· ≠ "")
  if classes ≠ [] then join ", " classes
  else match outcomeClass with
    | .budgetExhausted => "budget"
    | .rateLimited => "rate"
    | .concurrencyLimited => "concurrency_slot"
    | _ => ""

/-! ## The parser -/

/-- A field of a pydantic model that has to be a string. -/
def text : Json → Except Raised String
  | .str s => .ok s
  | _ => .error "ValidationError"

/-- `str(data.get(key, "")).lower().strip()`. -/
def word (data : Dict) (key : String) : String := strip (lower (pyStr (data.getOr key (.str ""))))

/-- `given or data.get(key, "")`. -/
def ownOr (given : String) (data : Dict) (key : String) : Json :=
  if given = "" then data.getOr key (.str "") else .str given

/-- The repair guidance of the server, or that of the class. -/
def repairOf (data : Dict) (outcomeClass : LimitOutcomeClass) : List String :=
  let server := orElse (data.get "repair_guidance") (data.get "suggested_actions")
  let texts := ((asList server).filter truthy).map pyStr
  if texts = [] then mapBudgetRepair outcomeClass.value else texts

/-- Did the run begin before the limit was met? -/
def partialExecutionOf (data : Dict) (outcomeClass : LimitOutcomeClass) : Bool :=
  if outcomeClass = .budgetExhausted then
    truthy (data.getOr "partial_execution" (.bool true))
  else truthy (data.get "partial_execution") || truthy (data.get "partially_executed") ||
    truthy (data.get "execution_started")

/-- The result of an answer without a body. -/
def emptyOutcome (httpStatusCode : Option Nat) (runId requestId correlationId : String) :
    LimitResult :=
  match httpStatusCode with
  | some code =>
      if code ∈ rateLimitHttpCodes then
        { outcomeClass := .rateLimited
          runId, requestId, correlationId
          retrySafe := true
          repairGuidance := mapBudgetRepair LimitOutcomeClass.rateLimited.value
          rawData := [] }
      else if code ∈ overloadHttpCodes then
        { outcomeClass := .deferred
          runId, requestId, correlationId
          isTerminal := false
          retrySafe := true
          repairGuidance := mapBudgetRepair LimitOutcomeClass.deferred.value
          rawData := [] }
      else { outcomeClass := .noPressureData, runId, requestId, correlationId, rawData := [] }
  | none => { outcomeClass := .noPressureData, runId, requestId, correlationId, rawData := [] }

/-- The class of an answer with a body. -/
def outcomeClassOf (data : Dict) (httpStatusCode : Option Nat) : LimitOutcomeClass :=
  classifyOutcome (word data "status") (word data "limit_outcome") httpStatusCode data

/-- The posture of a class: final, and safe to retry. -/
def isTerminalOf (outcomeClass : LimitOutcomeClass) : Bool := decide (outcomeClass ≠ .deferred)

def retrySafeOf (outcomeClass : LimitOutcomeClass) : Bool :=
  decide (outcomeClass ∈ [LimitOutcomeClass.rateLimited, .concurrencyLimited, .deferred])

/-- `effective_limit_class`. -/
def limitClassOf (data : Dict) (outcomeClass : LimitOutcomeClass) : String :=
  if word data "limit_class" ≠ "" then word data "limit_class"
  else if word data "limit_outcome" ≠ "" then word data "limit_outcome"
  else inferLimitClass (extractBudgetSnapshots data) outcomeClass

/-- `raw_status or response_data.get("status", "")`; where the stripped status is empty, the given
    one is a string. -/
def statusOf (data : Dict) : String :=
  if word data "status" = "" then pyStr (data.getOr "status" (.str "")) else word data "status"

/-- The result of an answer with a body, by its class. -/
def bodyOutcome (outcomeClass : LimitOutcomeClass) (data : Dict)
    (runId requestId correlationId : String) (retryAfter : Option ℤ) : LimitResult where
  outcomeClass := outcomeClass
  runId := runId
  requestId := requestId
  status := statusOf data
  limitClass := limitClassOf data outcomeClass
  budgetSnapshots := extractBudgetSnapshots data
  partialExecution := partialExecutionOf data outcomeClass
  isTerminal := isTerminalOf outcomeClass
  retryAfter := retryAfter
  retrySafe := retrySafeOf outcomeClass
  repairGuidance := repairOf data outcomeClass
  correlationId := correlationId
  rawData := data

/-- `parse_limit_outcome`. -/
def parseLimitOutcome (data : Dict) (httpStatusCode : Option Nat)
    (runId requestId correlationId : String) : Except Raised LimitResult :=
  if data = [] then .ok (emptyOutcome httpStatusCode runId requestId correlationId)
  else do
    let retryAfter ← extractRetryAfter data
    let resolvedRunId ← text (ownOr runId data "run_id")
    let resolvedCorrelationId ← text (ownOr correlationId data "correlation_id")
    return bodyOutcome (outcomeClassOf data httpStatusCode) data resolvedRunId requestId
      resolvedCorrelationId retryAfter

/-! ## What the server reported -/

/-- The first of several fields that is given. -/
def reported (values : List Json) : Json := (values.find? fun v => !isNull v).getD .null

def isNumber : Json → Bool
  | .int _ | .float _ => true
  | _ => false

/-- A number, or not given. -/
def IsFigure (v : Json) : Prop := isNull v = true ∨ isNumber v = true

/-- The number that a field reports. -/
def exactValue : Json → Option Double
  | .int n => some (.finite n)
  | .float text => some (floatOfText text.toList)
  | _ => none

/-- The amounts that a snapshot of the server reports. -/
def usedOf (raw : Dict) : Json := reported [raw.get "budget_used", raw.get "used"]

def remainingOf (raw : Dict) : Json := reported [raw.get "budget_remaining", raw.get "remaining"]

/-- A mapping whose figures are numbers. -/
def Numeric (raw : Dict) : Prop :=
  IsFigure (usedOf raw) ∧ IsFigure (remainingOf raw) ∧ IsFigure (raw.get "retry_after")

/-- The time to wait that the server reports. -/
def serverRetry (data : Dict) : Json :=
  reported [data.get "retry_after", data.get "retry_after_seconds", budgetRetry data]

/-- The snapshot has the figures of the mapping. -/
structure Matches (raw : Dict) (snapshot : BudgetSnapshot) : Prop where
  used : snapshot.budgetUsed = exactValue (usedOf raw)
  remaining : snapshot.budgetRemaining = exactValue (remainingOf raw)
  retryAfter : snapshot.retryAfter.map (fun n => Double.finite n) =
    exactValue (raw.get "retry_after")

/-- The fields that say something about limits. -/
def limitFields : List String :=
  ["status", "limit_outcome", "limit_class", "budget_snapshots", "budgets", "budget_dimensions",
    "budget", "budget_posture", "budget_snapshot", "retry_after", "retry_after_seconds",
    "partial_execution", "partially_executed", "execution_started"]

def Unlimited (data : Dict) : Prop := ∀ key ∈ limitFields, data.has key = false

/-- Each mapping with numeric figures has its snapshot, the time to wait is that of the server,
    and without a limit field the answer is classified as an empty one. -/
structure Kept (data : Dict) (httpStatusCode : Option Nat)
    (runId requestId correlationId : String) (result : LimitResult) : Prop where
  snapshots : ∀ before raw after, getSnapshotsRaw data = before ++ .obj raw :: after →
    Numeric raw → ∃ snapshot, result.budgetSnapshots =
      readSnapshots before ++ snapshot :: readSnapshots after ∧ Matches raw snapshot
  retryAfter : IsFigure (serverRetry data) →
    result.retryAfter.map (fun n => Double.finite n) = exactValue (serverRetry data)
  classified : Unlimited data → ∀ empty,
    parseLimitOutcome [] httpStatusCode runId requestId correlationId = .ok empty →
      result.outcomeClass = empty.outcomeClass ∧ result.isTerminal = empty.isTerminal ∧
        result.retrySafe = empty.retrySafe

/-! ## When the figures are kept -/

def isZero (v : Json) : Bool := isNumber v && !truthy v

/-- A zero stands before nothing but another zero, and an integer is a double. -/
def AmountKept (first second : Json) : Prop :=
  (isZero first = true → safeFloat second = .ok (some (.finite 0))) ∧
    (isZero first = false → ∀ n : ℤ, reported [first, second] = .int n → nearest n = some (n : ℚ))

/-- A double is a whole number. -/
def IsWhole (v : Json) : Prop :=
  ∀ text, v = .float text → ∃ n : ℤ, floatOfText text.toList = .finite n

def SnapshotKept (raw : Dict) : Prop :=
  AmountKept (raw.get "budget_used") (raw.get "used") ∧
    AmountKept (raw.get "budget_remaining") (raw.get "remaining") ∧
    IsWhole (raw.get "retry_after")

/-- The time to wait that is read. -/
def retryRead (data : Dict) : Json :=
  let val := orElse (data.get "retry_after") (data.get "retry_after_seconds")
  if isNull val then budgetRetry data else val

/-- A zero stands before nothing but another zero, and a double is a whole number. -/
def RetryKept (data : Dict) : Prop :=
  (isZero (data.get "retry_after") = true → safeInt (retryRead data) = .ok (some 0)) ∧
    (isZero (data.get "retry_after") = false → IsWhole (serverRetry data))

/-- The answer has a result, whose figures are kept. -/
structure ClearAnswer (data : Dict) (httpStatusCode : Option Nat) (runId correlationId : String) :
    Prop where
  runId : isText (ownOr runId data "run_id") = true
  correlationId : isText (ownOr correlationId data "correlation_id") = true
  finiteRetry : ∀ text negative, retryRead data = .float text →
    floatOfText text.toList ≠ .infinite negative
  snapshots : ∀ raw, .obj raw ∈ getSnapshotsRaw data → Numeric raw → SnapshotKept raw
  retryAfter : IsFigure (serverRetry data) → RetryKept data
  code : Unlimited data → ∀ code, httpStatusCode = some code → code ∉ overloadHttpCodes

/-! ## Figures -/

theorem isNull_iff (v : Json) : isNull v = true ↔ v = .null := by
  cases v with
  | null => exact ⟨fun _ => rfl, fun _ => rfl⟩
  | _ => exact ⟨nofun, nofun⟩

theorem reported_cons (v : Json) (rest : List Json) :
    reported (v :: rest) = if isNull v then reported rest else v := by
  rw [reported, List.find?_cons]
  cases v with
  | null => rfl
  | _ => rfl

theorem reported_nil : reported [] = .null := rfl

/-- Where the first field is no zero, the alternative that is tried is the one reported. -/
theorem orElse_eq_reported {first second : Json} (hfigure : IsFigure (reported [first, second]))
    (hzero : isZero first = false) : orElse first second = reported [first, second] := by
  rw [reported_cons, reported_cons, reported_nil] at hfigure ⊢
  rw [orElse]
  cases hnull : isNull first with
  | true =>
    rw [(isNull_iff first).mp hnull, if_neg (by simp [truthy]), if_pos rfl]
    cases hsecond : isNull second with
    | true =>
      rw [if_pos rfl]
      exact (isNull_iff second).mp hsecond
    | false => rw [if_neg (by simp)]
  | false =>
    have hgiven : isNumber first = true := by
      rw [hnull, if_neg (by simp)] at hfigure
      exact hfigure.resolve_left (Bool.eq_false_iff.mp hnull)
    rw [isZero, hgiven, Bool.true_and, Bool.not_eq_false'] at hzero
    rw [if_pos hzero, if_neg (by simp)]

theorem floatOfText_zero {text : String} (h : truthy (.float text) = false) :
    floatOfText text.toList = .finite 0 := by
  rw [truthy, Bool.not_eq_false', List.contains_iff_mem] at h
  have hcases : text = "" ∨ text = "0.0" ∨ text = "-0.0" := by simpa using h
  rcases hcases with rfl | rfl | rfl
  · exact floatOfText_of_digits (by decide) (by decide)
  · exact floatOfText_of_digits (by decide) (by decide)
  · exact floatOfText_of_digits (by decide) (by decide)

/-- A field that is zero reports zero. -/
theorem exactValue_of_zero {v : Json} (h : isZero v = true) : exactValue v = some (.finite 0) := by
  rw [isZero, Bool.and_eq_true, Bool.not_eq_true'] at h
  obtain ⟨hnumber, hfalse⟩ := h
  cases v with
  | int n =>
    have hn : n = 0 := by simpa [truthy] using hfalse
    rw [hn]
    rfl
  | float text =>
    rw [exactValue, floatOfText_zero hfalse]
  | _ => cases hnumber

theorem reported_of_zero {first : Json} (h : isZero first = true) (rest : List Json) :
    reported (first :: rest) = first := by
  have hgiven : isNull first = false := by
    cases first with
    | null => exact nomatch h
    | _ => rfl
  rw [reported_cons, hgiven, if_neg (by simp)]

theorem orElse_of_zero {first : Json} (h : isZero first = true) (second : Json) :
    orElse first second = second := by
  rw [isZero, Bool.and_eq_true, Bool.not_eq_true'] at h
  rw [orElse, h.2, if_neg (by simp)]

/-- A figure is read as it is, except for the integers that are no double. -/
theorem safeFloat_figure {v : Json} (h : IsFigure v) :
    safeFloat v = .ok (exactValue v) ↔ ∀ n : ℤ, v = .int n → nearest n = some (n : ℚ) := by
  cases v with
  | null =>
    exact ⟨fun _ _ h => (by cases h), fun _ => rfl⟩
  | int n =>
    rw [safeFloat, exactValue]
    constructor
    · rintro heq m ⟨⟩
      cases hround : nearest (n : ℚ) with
      | none =>
        rw [hround] at heq
        cases heq
      | some q =>
        rw [hround] at heq
        simp only [Except.ok.injEq, Option.some.injEq, Double.finite.injEq] at heq
        rw [heq]
    · intro hexact
      rw [hexact n rfl]
  | float text =>
    exact ⟨fun _ _ h => (by cases h), fun _ => rfl⟩
  | _ =>
    rcases h with hnull | hnumber
    · cases hnull
    · cases hnumber

/-- The amount of a snapshot is the one that the server reports. -/
theorem safeFloat_amount {first second : Json} (h : IsFigure (reported [first, second])) :
    safeFloat (orElse first second) = .ok (exactValue (reported [first, second])) ↔
      AmountKept first second := by
  rw [AmountKept]
  cases hzero : isZero first with
  | true =>
    rw [orElse_of_zero hzero, reported_of_zero hzero, exactValue_of_zero hzero]
    exact ⟨fun heq => ⟨fun _ => heq, nofun⟩, fun heq => heq.1 rfl⟩
  | false =>
    rw [orElse_eq_reported h hzero, safeFloat_figure h]
    exact ⟨fun heq => ⟨nofun, fun _ => heq⟩, fun heq => heq.2 rfl⟩

/-- A time to wait is read as it is where it is a whole number. -/
theorem safeInt_figure {v : Json} (h : IsFigure v) :
    (∃ r, safeInt v = .ok r ∧ r.map (fun n => Double.finite n) = exactValue v) ↔ IsWhole v := by
  cases v with
  | null =>
    exact ⟨fun _ _ h => (by cases h), fun _ => ⟨none, rfl, rfl⟩⟩
  | int n =>
    exact ⟨fun _ _ h => (by cases h), fun _ => ⟨some n, rfl, rfl⟩⟩
  | float text =>
    rw [IsWhole, safeInt, exactValue]
    constructor
    · rintro ⟨r, hread, hvalue⟩ t ⟨⟩
      cases r with
      | none => cases hvalue
      | some n => exact ⟨n, (Option.some.inj hvalue).symm⟩
    · intro hwhole
      obtain ⟨n, hn⟩ := hwhole text rfl
      refine ⟨some n, ?_, ?_⟩
      · rw [hn]
        simp only [Except.ok.injEq, Option.some.injEq]
        exact_mod_cast (truncate_eq_iff (n : ℚ)).mpr ⟨n, rfl⟩
      · rw [hn]
        rfl
  | _ =>
    rcases h with hnull | hnumber
    · cases hnull
    · cases hnumber

/-! ## Snapshots -/

/-- A mapping with numeric figures has its snapshot exactly when its figures are kept. -/
theorem readSnapshot_matches_iff {raw : Dict} (h : Numeric raw) :
    (∃ snapshot, readSnapshot raw = .ok snapshot ∧ Matches raw snapshot) ↔ SnapshotKept raw := by
  obtain ⟨hused, hremaining, hretry⟩ := h
  rw [SnapshotKept, ← safeFloat_amount hused, ← safeFloat_amount hremaining,
    ← safeInt_figure hretry]
  constructor
  · rintro ⟨snapshot, hread, hmatches⟩
    rw [readSnapshot] at hread
    cases hu : safeFloat (orElse (raw.get "budget_used") (raw.get "used")) with
    | error e =>
      rw [hu] at hread
      exact nomatch hread
    | ok used =>
      cases hr : safeFloat (orElse (raw.get "budget_remaining") (raw.get "remaining")) with
      | error e =>
        rw [hu, hr] at hread
        exact nomatch hread
      | ok remaining =>
        cases hw : safeInt (raw.get "retry_after") with
        | error e =>
          rw [hu, hr, hw] at hread
          exact nomatch hread
        | ok retry =>
          rw [hu, hr, hw] at hread
          obtain rfl := Except.ok.inj hread
          exact ⟨congrArg Except.ok hmatches.used, congrArg Except.ok hmatches.remaining,
            retry, rfl, hmatches.retryAfter⟩
  · rintro ⟨hu, hr, retry, hw, hvalue⟩
    rw [readSnapshot, hu, hr, hw]
    exact ⟨_, rfl, rfl, rfl, hvalue⟩

theorem readSnapshots_append (before : List Json) (raw : Dict) (after : List Json) :
    readSnapshots (before ++ .obj raw :: after) =
      readSnapshots before ++ ((readSnapshot raw).toOption.toList ++ readSnapshots after) := by
  rw [readSnapshots, List.filterMap_append, List.filterMap_cons, readEntry]
  cases readSnapshot raw with
  | error e => rfl
  | ok snapshot => rfl

/-- In the list, the mapping has its snapshot in its place. -/
theorem readSnapshots_matches_iff {before after : List Json} {raw : Dict} (h : Numeric raw) :
    (∃ snapshot, readSnapshots (before ++ .obj raw :: after) =
        readSnapshots before ++ snapshot :: readSnapshots after ∧ Matches raw snapshot) ↔
      SnapshotKept raw := by
  rw [← readSnapshot_matches_iff h, readSnapshots_append]
  constructor
  · rintro ⟨snapshot, heq, hmatches⟩
    have hone : (readSnapshot raw).toOption.toList = [snapshot] :=
      List.append_cancel_right (List.append_cancel_left heq)
    cases hread : readSnapshot raw with
    | error e =>
      rw [hread] at hone
      exact nomatch hone
    | ok s =>
      rw [hread] at hone
      obtain rfl : s = snapshot := (List.cons.inj hone).1
      exact ⟨s, rfl, hmatches⟩
  · rintro ⟨snapshot, hread, hmatches⟩
    rw [hread]
    exact ⟨snapshot, rfl, hmatches⟩

/-! ## The time to wait -/

theorem extractRetryAfter_eq (data : Dict) : extractRetryAfter data = safeInt (retryRead data) := by
  simp only [extractRetryAfter, retryRead]
  cases isNull (orElse (data.get "retry_after") (data.get "retry_after_seconds")) with
  | false => rfl
  | true =>
    rw [if_pos rfl, if_pos rfl]
    cases hnull : isNull (budgetRetry data) with
    | true =>
      rw [if_pos rfl, (isNull_iff _).mp hnull]
      rfl
    | false => rw [if_neg (by simp)]

/-- Where the first field is no zero, the field that is read is the one reported. -/
theorem retryRead_eq {data : Dict} (h : IsFigure (serverRetry data))
    (hzero : isZero (data.get "retry_after") = false) : retryRead data = serverRetry data := by
  simp only [retryRead, serverRetry] at h ⊢
  rw [reported_cons] at h ⊢
  cases hfirst : isNull (data.get "retry_after") with
  | true =>
    -- the second field is read where it is given, also as a zero
    have hread : orElse (data.get "retry_after") (data.get "retry_after_seconds") =
        data.get "retry_after_seconds" := by
      rw [(isNull_iff _).mp hfirst]
      rfl
    rw [hread, if_pos rfl, reported_cons, reported_cons, reported_nil]
    cases hsecond : isNull (data.get "retry_after_seconds") with
    | false => rw [if_neg (by simp), if_neg (by simp)]
    | true =>
      rw [if_pos rfl, if_pos rfl]
      cases hthird : isNull (budgetRetry data) with
      | false => rw [if_neg (by simp)]
      | true =>
        rw [if_pos rfl]
        exact (isNull_iff _).mp hthird
  | false =>
    have hgiven : isNumber (data.get "retry_after") = true := by
      rw [hfirst, if_neg (by simp)] at h
      exact h.resolve_left (Bool.eq_false_iff.mp hfirst)
    rw [isZero, hgiven, Bool.true_and, Bool.not_eq_false'] at hzero
    have hread : orElse (data.get "retry_after") (data.get "retry_after_seconds") =
        data.get "retry_after" := by
      rw [orElse, if_pos hzero]
    rw [hread, hfirst, if_neg (by simp), if_neg (by simp)]

/-- The time to wait is that of the server exactly when it is kept. -/
theorem extractRetryAfter_iff {data : Dict} (h : IsFigure (serverRetry data)) :
    (∃ r, extractRetryAfter data = .ok r ∧
        r.map (fun n => Double.finite n) = exactValue (serverRetry data)) ↔ RetryKept data := by
  rw [extractRetryAfter_eq, RetryKept]
  cases hzero : isZero (data.get "retry_after") with
  | true =>
    rw [serverRetry, reported_of_zero hzero, exactValue_of_zero hzero]
    constructor
    · rintro ⟨r, hread, hvalue⟩
      cases r with
      | none => exact nomatch hvalue
      | some n =>
        have hn : (n : ℚ) = 0 := Double.finite.inj (Option.some.inj hvalue)
        refine ⟨fun _ => ?_, nofun⟩
        rw [hread, Int.cast_eq_zero.mp hn]
    · rintro ⟨hread, -⟩
      exact ⟨some 0, hread rfl, rfl⟩
  | false =>
    rw [retryRead_eq h hzero, safeInt_figure h]
    exact ⟨fun heq => ⟨nofun, fun _ => heq⟩, fun heq => heq.2 rfl⟩

/-- Only an infinite double raises. -/
theorem safeInt_ok_iff (v : Json) : (∃ r, safeInt v = .ok r) ↔
    ∀ text negative, v = .float text → floatOfText text.toList ≠ .infinite negative := by
  cases v with
  | float text =>
    constructor
    · rintro ⟨r, hread⟩ t negative ⟨⟩ hinfinite
      rw [safeInt, hinfinite] at hread
      cases hread
    · intro hfinite
      rw [safeInt]
      cases hvalue : floatOfText text.toList with
      | finite q => exact ⟨_, rfl⟩
      | nan => exact ⟨_, rfl⟩
      | infinite negative => exact absurd hvalue (hfinite text negative rfl)
  | _ =>
    exact ⟨fun _ _ _ h => (by cases h), fun _ => ⟨_, rfl⟩⟩

/-! ## The classification without limits -/

section Unlimited

variable {data : Dict} (h : Unlimited data)

include h

theorem get_of_unlimited {key : String} (hkey : key ∈ limitFields) : data.get key = .null :=
  get_of_not_has (h key hkey)

theorem word_of_unlimited {key : String} (hkey : key ∈ limitFields) : word data key = "" := by
  rw [word, getOr_of_not_has (h key hkey)]
  decide

theorem budgetOf_of_unlimited : budgetOf data = .obj [] := by
  rw [budgetOf, get_of_unlimited h (by simp [limitFields]),
    get_of_unlimited h (by simp [limitFields])]
  rfl

theorem getSnapshotsRaw_of_unlimited : getSnapshotsRaw data = [] := by
  have hget : ∀ key ∈ limitFields, data.get key = .null := fun key hkey => get_of_unlimited h hkey
  simp only [limitFields, List.forall_mem_cons] at hget
  simp only [getSnapshotsRaw, firstList, firstDict, hget]

/-- Without a limit field only the HTTP status classifies. -/
theorem outcomeClassOf_of_unlimited (httpStatusCode : Option Nat) :
    outcomeClassOf data httpStatusCode = (httpClass httpStatusCode).getD .noPressureData := by
  have hnamed : namedClass "" = none := by decide
  have hvisible : visibleClass "" data = .noPressureData := by
    simp only [visibleClass, budgetOf_of_unlimited h, getSnapshotsRaw_of_unlimited h]
    rfl
  rw [outcomeClassOf, word_of_unlimited h (by simp [limitFields]),
    word_of_unlimited h (by simp [limitFields]), classifyOutcome, if_neg (by simp)]
  cases httpClass httpStatusCode with
  | some outcomeClass => rfl
  | none =>
    rw [hnamed, hvisible]
    rfl

end Unlimited

/-- The empty answer is classified by the HTTP status as one without limits, but for the codes of
    an overload. -/
theorem emptyOutcome_iff (httpStatusCode : Option Nat) (runId requestId correlationId : String) :
    ((httpClass httpStatusCode).getD .noPressureData =
          (emptyOutcome httpStatusCode runId requestId correlationId).outcomeClass ∧
        isTerminalOf ((httpClass httpStatusCode).getD .noPressureData) =
          (emptyOutcome httpStatusCode runId requestId correlationId).isTerminal ∧
        retrySafeOf ((httpClass httpStatusCode).getD .noPressureData) =
          (emptyOutcome httpStatusCode runId requestId correlationId).retrySafe) ↔
      ∀ code, httpStatusCode = some code → code ∉ overloadHttpCodes := by
  cases httpStatusCode with
  | none => exact ⟨nofun, fun _ => ⟨rfl, rfl, rfl⟩⟩
  | some code =>
    rw [httpClass, Option.bind_some, emptyOutcome]
    by_cases hrate : code ∈ rateLimitHttpCodes
    · have hapart : code ∉ overloadHttpCodes := by
        rw [List.mem_singleton.mp hrate]
        decide
      rw [if_pos hrate, if_pos hrate]
      exact ⟨fun _ c hc => (Option.some.inj hc) ▸ hapart, fun _ => ⟨rfl, rfl, rfl⟩⟩
    · rw [if_neg hrate, if_neg hrate]
      by_cases hoverload : code ∈ overloadHttpCodes
      · rw [if_pos hoverload, if_pos hoverload]
        exact ⟨fun hsame => (nomatch hsame.1), fun hapart => absurd hoverload (hapart code rfl)⟩
      · rw [if_neg hoverload, if_neg hoverload]
        exact ⟨fun _ c hc => (Option.some.inj hc) ▸ hoverload, fun _ => ⟨rfl, rfl, rfl⟩⟩

/-! ## The parser -/

section Parse

variable {data : Dict} {httpStatusCode : Option Nat} {runId requestId correlationId : String}

theorem text_ok_iff (v : Json) : (∃ s, text v = .ok s) ↔ isText v = true := by
  cases v with
  | str s => exact ⟨fun _ => rfl, fun _ => ⟨s, rfl⟩⟩
  | _ =>
    constructor
    · rintro ⟨s, hs⟩
      exact nomatch hs
    · intro htext
      exact nomatch htext

/-- An answer with a body has a result exactly where its time to wait can be read and its ids are
    strings. -/
theorem parseLimitOutcome_ok_iff (hdata : data ≠ []) {result : LimitResult} :
    parseLimitOutcome data httpStatusCode runId requestId correlationId = .ok result ↔
      ∃ retry rid cid, extractRetryAfter data = .ok retry ∧
        text (ownOr runId data "run_id") = .ok rid ∧
        text (ownOr correlationId data "correlation_id") = .ok cid ∧
        bodyOutcome (outcomeClassOf data httpStatusCode) data rid requestId cid retry = result := by
  rw [parseLimitOutcome, if_neg hdata, bind_ok]
  constructor
  · rintro ⟨retry, hretry, h⟩
    obtain ⟨rid, hrid, h⟩ := bind_ok.mp h
    obtain ⟨cid, hcid, h⟩ := bind_ok.mp h
    exact ⟨retry, rid, cid, hretry, hrid, hcid, Except.ok.inj h⟩
  · rintro ⟨retry, rid, cid, hretry, hrid, hcid, h⟩
    refine ⟨retry, hretry, bind_ok.mpr ⟨rid, hrid, bind_ok.mpr ⟨cid, hcid, ?_⟩⟩⟩
    exact congrArg Except.ok h

theorem parseLimitOutcome_nil :
    parseLimitOutcome [] httpStatusCode runId requestId correlationId =
      .ok (emptyOutcome httpStatusCode runId requestId correlationId) := rfl

/-- An empty answer reports nothing. -/
theorem kept_nil : Kept [] httpStatusCode runId requestId correlationId
    (emptyOutcome httpStatusCode runId requestId correlationId) where
  snapshots := by
    intro before raw after hentries
    have hnone : getSnapshotsRaw [] = [] := rfl
    rw [hnone] at hentries
    exact absurd hentries.symm (by simp)
  retryAfter := by
    intro _
    have hretry : (emptyOutcome httpStatusCode runId requestId correlationId).retryAfter =
        none := by
      simp only [emptyOutcome]
      split
      · split_ifs <;> rfl
      · rfl
    rw [hretry]
    rfl
  classified := by
    rintro _ empty ⟨⟩
    exact ⟨rfl, rfl, rfl⟩

/-- The figures of an answer are kept, and an answer without limits is classified as an empty
    one, exactly where the answer is empty or clear. -/
theorem parseLimitOutcome_kept_iff (data : Dict) (httpStatusCode : Option Nat)
    (runId requestId correlationId : String) :
    (∃ result, parseLimitOutcome data httpStatusCode runId requestId correlationId = .ok result ∧
        Kept data httpStatusCode runId requestId correlationId result) ↔
      data = [] ∨ ClearAnswer data httpStatusCode runId correlationId := by
  by_cases hdata : data = []
  · rw [hdata]
    exact ⟨fun _ => .inl rfl, fun _ => ⟨_, rfl, kept_nil⟩⟩
  · constructor
    · rintro ⟨result, hparse, hkept⟩
      obtain ⟨retry, rid, cid, hretry, hrid, hcid, rfl⟩ :=
        (parseLimitOutcome_ok_iff hdata).mp hparse
      refine .inr ⟨(text_ok_iff _).mp ⟨rid, hrid⟩, (text_ok_iff _).mp ⟨cid, hcid⟩, ?_, ?_, ?_, ?_⟩
      · rw [← safeInt_ok_iff, ← extractRetryAfter_eq]
        exact ⟨retry, hretry⟩
      · intro raw hmem hnumeric
        obtain ⟨before, after, hentries⟩ := List.append_of_mem hmem
        obtain ⟨snapshot, heq, hmatches⟩ := hkept.snapshots before raw after hentries hnumeric
        rw [bodyOutcome, extractBudgetSnapshots, hentries] at heq
        exact (readSnapshots_matches_iff hnumeric).mp ⟨snapshot, heq, hmatches⟩
      · intro hfigure
        exact (extractRetryAfter_iff hfigure).mp ⟨retry, hretry, hkept.retryAfter hfigure⟩
      · intro hunlimited
        have hsame := hkept.classified hunlimited _ parseLimitOutcome_nil
        rw [outcomeClassOf_of_unlimited hunlimited] at hsame
        exact (emptyOutcome_iff httpStatusCode runId requestId correlationId).mp hsame
    · rintro (hnil | hclear)
      · exact absurd hnil hdata
      · obtain ⟨retry, hretry⟩ : ∃ r, extractRetryAfter data = .ok r := by
          rw [extractRetryAfter_eq, safeInt_ok_iff]
          exact hclear.finiteRetry
        obtain ⟨rid, hrid⟩ := (text_ok_iff _).mpr hclear.runId
        obtain ⟨cid, hcid⟩ := (text_ok_iff _).mpr hclear.correlationId
        refine ⟨bodyOutcome (outcomeClassOf data httpStatusCode) data rid requestId cid retry,
          (parseLimitOutcome_ok_iff hdata).mpr ⟨retry, rid, cid, hretry, hrid, hcid, rfl⟩,
          ?_, ?_, ?_⟩
        · intro before raw after hentries hnumeric
          rw [bodyOutcome, extractBudgetSnapshots, hentries]
          refine (readSnapshots_matches_iff hnumeric).mpr (hclear.snapshots raw ?_ hnumeric)
          rw [hentries]
          exact List.mem_append_right _ List.mem_cons_self
        · intro hfigure
          obtain ⟨r, hr, hvalue⟩ := (extractRetryAfter_iff hfigure).mpr (hclear.retryAfter hfigure)
          rw [hretry] at hr
          rw [← Except.ok.inj hr] at hvalue
          exact hvalue
        · intro hunlimited empty hempty
          obtain rfl := Except.ok.inj hempty
          rw [outcomeClassOf_of_unlimited hunlimited]
          exact (emptyOutcome_iff httpStatusCode runId requestId correlationId).mpr
            (hclear.code hunlimited)

end Parse

/-- A budget of which nothing remains. -/
def exhaustedBudget : Dict :=
  [("budget_class", .str "event"), ("budget_used", .int 100), ("budget_remaining", .int 0)]

/-- What remains of it is shown as unknown. -/
theorem exhaustedBudget_unknown : ¬ ∃ result,
    parseLimitOutcome [("budget_snapshots", .arr [.obj exhaustedBudget])] (some 200) "run-1"
        "req-1" "corr-1" = .ok result ∧
      Kept [("budget_snapshots", .arr [.obj exhaustedBudget])] (some 200) "run-1" "req-1" "corr-1"
        result := by
  rintro ⟨result, hparse, hkept⟩
  obtain ⟨retry, rid, cid, -, -, -, rfl⟩ :=
    (parseLimitOutcome_ok_iff (List.cons_ne_nil _ _)).mp hparse
  have hentries : getSnapshotsRaw [("budget_snapshots", .arr [.obj exhaustedBudget])] =
      [.obj exhaustedBudget] := by
    simp [getSnapshotsRaw, firstList]
  have hnumeric : Numeric exhaustedBudget := by
    simp [Numeric, IsFigure, usedOf, remainingOf, reported, exhaustedBudget, isNull, isNumber]
  obtain ⟨snapshot, heq, hmatches⟩ := hkept.snapshots [] exhaustedBudget [] hentries hnumeric
  rw [bodyOutcome, extractBudgetSnapshots, hentries] at heq
  obtain ⟨-, hremaining, -⟩ := (@readSnapshots_matches_iff [] [] _ hnumeric).mp
    ⟨snapshot, heq, hmatches⟩
  have hlost := hremaining.1 (by simp [exhaustedBudget, isZero, isNumber, truthy])
  simp [exhaustedBudget, safeFloat] at hlost

end KeyholeBudget
