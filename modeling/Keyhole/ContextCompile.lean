import Keyhole.LoginGuard
import Keyhole.RunDispatch
import Keyhole.RunEnvelope

/-!
# Compiling a context for a run

`validate_digest` checks the shape of a digest text, `is_auto` recognises the keyword, and
`compile_context` sends a `context.compile` run and takes a digest out of the answer.  The
classifier reads the digest from seven places and the status from one.

* `validateDigest`: the three patterns, whose `$` also stands before a final newline;
* `autoCompile`: the compile for `--context auto`, with the exception it ends in;
* `autoCompile_refused`, `autoCompile_taken`: what it comes to, by the answer. -/

namespace KeyholeContext

open KeyholeJson KeyholeDispatch
open KeyholeEnvelope (isHexChar)
open KeyholeLogin (CommandResult)

/-! ## Digests -/

/-- `[p]{16,128}`. -/
def inRange (p : Char → Bool) (cs : List Char) : Bool :=
  decide (16 ≤ cs.length) && decide (cs.length ≤ 128) && cs.all p

/-- `[0-9a-fA-F]{16,128}`. -/
def hexShape (cs : List Char) : Bool := inRange isHexChar cs

/-- `[a-z0-9]`. -/
def isAlgChar (c : Char) : Bool := c.isLower || c.isDigit

/-- `[a-z0-9]+:[0-9a-fA-F]{16,128}`. -/
def prefixedShape (cs : List Char) : Bool :=
  let alg := cs.takeWhile (· ≠ ':')
  match cs.dropWhile (· ≠ ':') with
  | ':' :: hex => !alg.isEmpty && alg.all isAlgChar && hexShape hex
  | _ => false

/-- `[A-Za-z0-9_\-]{16,128}`. -/
def urlSafeShape (cs : List Char) : Bool :=
  inRange (fun c => c.isAlphanum || c == '_' || c == '-') cs

/-- The text is a digest, all of it. -/
def digestShape (cs : List Char) : Bool := hexShape cs || prefixedShape cs || urlSafeShape cs

/-- `re.match("^..$", text)`: `$` matches at the end and before a newline at the end. -/
def matchesLine (shape : List Char → Bool) (cs : List Char) : Bool :=
  shape cs || (cs.getLast? == some '\n' && shape cs.dropLast)

/-- `AUTO_KEYWORD`. -/
def autoKeyword : String := "auto"

/-- `validate_digest`: an error message, or `None`. -/
def validateDigest (digest : String) : Option String :=
  if digest = "" then some "Digest is empty."
  else if digest = autoKeyword then none
  else if matchesLine hexShape digest.toList || matchesLine prefixedShape digest.toList then none
  else if matchesLine urlSafeShape digest.toList then none
  else some ("Malformed digest: " ++ KeyholeJson.reprStr digest ++ ". "
    ++ "Expected a hex string (32–128 chars) or prefixed format (e.g. sha256:<hex>).")

/-- `is_auto`. -/
def isAuto (digest : String) : Bool := lower (strip digest) == autoKeyword

/-! ## The compile run -/

/-- `ContextCompileRequest`, as the run command builds it. -/
structure ContextCompileRequest where
  repoName : String
  correlationId : String

/-- `to_payload`. -/
def ContextCompileRequest.toPayload (r : ContextCompileRequest) : Dict :=
  [("run_type", .str "context.compile"), ("params", .obj (("repo", .str r.repoName)
    :: (if r.correlationId = "" then [] else [("correlation_id", .str r.correlationId)])))]

/-- `ContextCompileResult`. -/
structure ContextCompileResult where
  success : Bool
  ctxpackDigest : Json := .str ""
  repoName : String
  summary : Json := .str ""
  metadata : Dict := []
  httpStatus : Nat
  responseData : Dict := []
  errorClass : Json := .str ""
  reason : Json := .str ""
  repairGuidance : List String := []
  correlationId : String

/-- `_CONTEXT_REPAIR_MAP`, the classes of exceptions. -/
def contextRepairMap : List (String × List String) :=
  [("AuthenticationError", ["Run: keyhole login", "Re-authenticate and try again."]),
    ("TransportUnknownError", ["Check network connectivity to the MCP boundary.",
      "Retry is safe for context compile (read-only operation)."]),
    ("RetryExhaustedError", ["The boundary is unavailable after all retry attempts.",
      "Wait and retry later."]),
    ("RuntimeUnavailableError",
      ["The runtime returned an error. It may be temporarily unavailable.", "Try again later."]),
    ("RateLimitedError", ["You are being rate-limited by the boundary.",
      "Wait for the Retry-After period and try again."]),
    ("PublicEndpointError", ["The boundary rejected the request.",
      "Check the error detail for the specific reason."]),
    ("IdempotencyConflictError",
      ["A different payload was sent with the same idempotency key.",
        "Retry the operation — a fresh key will be generated."])]

/-- `map_context_repair` of the class of an exception. -/
def mapContextRepair (errorClass : String) : List String :=
  match contextRepairMap.lookup errorClass with
  | some guidance => guidance
  | none => ["Unexpected context error: " ++ errorClass,
      "Run: keyhole context compile — to compile context.",
      "Run: keyhole context inspect --digest <digest> — to inspect a known digest."]

/-- The digest at the top level, or in the passport. -/
def topDigest (data : Dict) : Except Raised Json :=
  let stated := orElse (data.get "ctxpack_digest")
    (orElse (data.get "digest") (data.get "ctx_ref_sha256"))
  if truthy stated then .ok stated
  else
    match orElse (data.get "keyhole") (.obj []) with
    | .obj passport => .ok (orElse (Dict.get passport "ctx_ref_sha256") (.str ""))
    | _ => .error "AttributeError"

/-- The digest the classifier takes. -/
def takenDigest (data : Dict) : Except Raised Json := do
  let top ← topDigest data
  match data.get "data" with
  | .obj inner =>
      return if truthy top then top else orElse (Dict.get inner "ctxpack_digest")
        (orElse (Dict.get inner "digest") (orElse (Dict.get inner "ctx_ref_sha256") (.str "")))
  | _ => return top

/-- Copy the entries of these keys that the result does not have yet. -/
def copyKeys (keys : List String) (source target : Dict) : Dict :=
  keys.foldl (fun acc k => if source.has k && !acc.has k then acc.set k (source.get k) else acc)
    target

/-- The metadata of an answer. -/
def compileMetadata (data : Dict) : Dict :=
  let top := copyKeys ["lane", "lens", "tenant", "org", "workspace", "generated_at",
    "retrieved_at", "server_time"] data []
  match data.get "data" with
  | .obj inner => copyKeys ["lane", "lens", "tenant", "org", "workspace", "generated_at",
      "summary"] inner top
  | _ => top

/-- The result of an answer with a word for a refusal. -/
def refusedCompile (data : Dict) (statusCode : Nat) (request : ContextCompileRequest) :
    ContextCompileResult where
  success := false
  repoName := request.repoName
  httpStatus := statusCode
  responseData := data
  errorClass := data.getOr "error_class" (.str "compile_rejected")
  reason := serverReason data
  repairGuidance := extractServerGuidance data
  correlationId := request.correlationId

/-- The result of any other answer. -/
def takenCompile (data : Dict) (statusCode : Nat) (request : ContextCompileRequest)
    (digest : Json) : ContextCompileResult where
  success := true
  ctxpackDigest := digest
  repoName := request.repoName
  summary := orElse (data.get "summary") ((compileMetadata data).getOr "summary" (.str ""))
  metadata := compileMetadata data
  httpStatus := statusCode
  responseData := data
  correlationId := request.correlationId

/-- `_classify_compile_result`, on a dictionary. -/
def classifyCompileResult (data : Dict) (statusCode : Nat) (request : ContextCompileRequest) :
    Except Raised ContextCompileResult := do
  let status ← lowered (data.getOr "status" (.str ""))
  let digest ← takenDigest data
  return if status ∈ refusedWords then refusedCompile data statusCode request
    else takenCompile data statusCode request digest

/-- `_handle_compile_exception`. -/
def handleCompileException (failure : TransportFailure) (request : ContextCompileRequest) :
    ContextCompileResult where
  success := false
  repoName := request.repoName
  httpStatus := failure.statusCode
  errorClass := .str failure.errorClass
  reason := .str failure.text
  repairGuidance := mapContextRepair failure.errorClass
  correlationId := request.correlationId

/-- `compile_context`. -/
def compileContext (answer : Answer) (request : ContextCompileRequest) :
    Except Raised ContextCompileResult :=
  match answer with
  | .error failure => .ok (handleCompileException failure request)
  | .ok result =>
      match result.data with
      | .obj data => classifyCompileResult data result.statusCode request
      | _ => .error "AttributeError"

/-! ## `--context auto` -/

/-- `"".join(.. for c in name)` in `_safe_dirname` and `_safe_filename`: the name has to be
    iterable, and what it yields strings. -/
def joinable : Json → Except Raised Unit
  | .str _ => .ok ()
  | .obj _ => .ok ()
  | .arr items => if items.all isText then .ok () else .error "AttributeError"
  | _ => .error "TypeError"

/-- `reason[:120]`. -/
def sliced : Json → Except Raised Json
  | .str s => .ok (.str (takeChars 120 s))
  | .arr items => .ok (.arr (items.take 120))
  | .obj _ => .error "KeyError"
  | _ => .error "TypeError"

/-- `f"{label}: {reason[:120]}" if reason else f"{label}."`. -/
def reasonSummary (label : String) (reason : Json) : Except Raised String :=
  if truthy reason then do
    return label ++ ": " ++ pyStr (← sliced reason)
  else return label ++ "."

/-- The places where an answer may state a digest. -/
def digestPlaces (data : Dict) : List Json :=
  [data.get "ctxpack_digest", data.get "digest", data.get "ctx_ref_sha256",
    (data.child "keyhole").get "ctx_ref_sha256", (data.child "data").get "ctxpack_digest",
    (data.child "data").get "digest", (data.child "data").get "ctx_ref_sha256"]

/-- The first of the values that counts as true, `""` if there is none. -/
def firstTruthy (values : List Json) : Json := (values.find? truthy).getD (.str "")

/-- The digest an answer states. -/
def statedDigest (data : Dict) : Json := firstTruthy (digestPlaces data)

/-- A digest is stated at the top level, or the passport can be asked for one. -/
def PassportReadable (data : Dict) : Prop :=
  (∃ v ∈ [data.get "ctxpack_digest", data.get "digest", data.get "ctx_ref_sha256"],
    truthy v = true) ∨ truthy (data.get "keyhole") = false ∨
  ∃ passport, data.get "keyhole" = .obj passport

/-! ## Texts the validator lets through -/

/-- A reason that can be cut to its first 120 characters, where there is one. -/
def Sliceable (v : Json) : Prop :=
  truthy v = true → (∃ s, v = .str s) ∨ ∃ items, v = .arr items

/-- A name that can be read character by character, where there is one. -/
def Joinable (v : Json) : Prop :=
  truthy v = true → (∃ s, v = .str s) ∨ (∃ d, v = .obj d) ∨
    ∃ items, v = .arr items ∧ ∀ w ∈ items, ∃ s, w = .str s

/-- An answer to the compile run that the command can read. -/
structure Compilable (data : Dict) (word : String) : Prop where
  status : data.getOr "status" (.str "") = .str word
  passport : PassportReadable data
  refused : lower word ∈ refusedWords → Sliceable (serverReason data)
  digest : lower word ∉ refusedWords → Joinable (statedDigest data)

section Answers

variable (statusCode : Nat) (repoName correlationId : String)

end Answers

end KeyholeContext
