import Keyhole.LoginGuard
import Keyhole.RunDispatch

/-!
# Submitting a proof and verifying its receipt

`proof submit` sends the local result of an invariant and writes a receipt; `receipt verify`
reads the receipt and the local result again.  The two commands meet in a file whose name is
a slug of the invariant, and the hash that ties the receipt to the result is looked for in
the server's answer.

* `runProofSubmit`: the submission, with the receipt it writes;
* `runReceiptVerify`: the verification, with the checks of every receipt;
* `exec`: a bundle after submissions and edits of its result files. -/

namespace KeyholeReceipts

open KeyholeJson KeyholeDispatch
open KeyholeLogin (CommandResult)

/-! ## Documents and their hash -/

/-- One character inside a JSON string, with `ensure_ascii=False`. -/
def rawChar (c : Char) : List Char :=
  if c = '\"' ∨ c = '\\' then ['\\', c]
  else if c = '\n' then ['\\', 'n']
  else if c = '\r' then ['\\', 'r']
  else if c = '\t' then ['\\', 't']
  else if c = '\x08' then ['\\', 'b']
  else if c = '\x0c' then ['\\', 'f']
  else if c.toNat < 32 then unicodeEscape c.toNat
  else [c]

/-- A JSON string literal, with `ensure_ascii=False`. -/
def rawStr (s : String) : String := String.ofList ('\"' :: s.toList.flatMap rawChar ++ ['\"'])

mutual

/-- `json.dumps(v, sort_keys=True, ensure_ascii=False)`. -/
def canonical : Json → String
  | .null => "null"
  | .bool b => if b then "true" else "false"
  | .int n => toString n
  | .float text => dumpFloat text
  | .str s => rawStr s
  | .arr items => "[" ++ join ", " (canonicalItems items) ++ "]"
  | .obj fields => "\x7b" ++ join ", "
      (((canonicalFields fields).mergeSort (fun a b => decide (a.1 ≤ b.1))).map
        (fun kv => rawStr kv.1 ++ ": " ++ kv.2)) ++ "\x7d"

/-- The elements of a list, encoded. -/
def canonicalItems : List Json → List String
  | [] => []
  | v :: rest => canonical v :: canonicalItems rest

/-- The entries of a dictionary, values encoded. -/
def canonicalFields : List (String × Json) → List (String × String)
  | [] => []
  | (k, v) :: rest => (k, canonical v) :: canonicalFields rest

end

/-! ## The bundle -/

/-- What reading a file comes to. -/
inductive LocalFile where
  | document (v : Json)
  /-- neither UTF-8 nor UTF-16, or no JSON in either -/
  | undecodable
  /-- the exception the operating system raises -/
  | unreadable (e : Raised)

/-- The directory of an invariant: `<slug>-result.json`, and the paths of the other result
    files in the order the file system lists them. -/
structure ResultDir where
  main : Option LocalFile := none
  others : List (String × LocalFile) := []

/-- What does not change in the runs of this development. -/
structure Site where
  bundlePath : String
  bundleIsDir : Bool
  repoName : String
  /-- the hexadecimal SHA-256 of a text: 64 digits -/
  sha256 : String → String
  sha256_ne : ∀ text, sha256 text ≠ ""
  /-- the file that `receipts/<slug>-receipt.json` denotes -/
  receiptFile : String → String
  /-- can a receipt be written to the file? -/
  writable : String → Bool

/-- The files of a bundle: the receipts by file, and the result directories by slug. -/
structure Bundle where
  receiptsIsDir : Bool
  receipts : String → Option Json
  results : String → ResultDir

/-- The slug of an invariant. -/
def invSlug (invariantId : String) : String :=
  String.ofList ((lower invariantId).toList.map fun c => if c = '_' ∨ c = ' ' then '-' else c)

/-- `_sha256_result`. -/
def Site.sha256Result (site : Site) (result : Json) : String := site.sha256 (canonical result)

/-- Read a file: its document, or `none` if it cannot be decoded. -/
def LocalFile.read : LocalFile → Except Raised (Option Json)
  | .document v => .ok (some v)
  | .undecodable => .ok none
  | .unreadable e => .error e

/-! ## `keyhole proof submit` -/

/-- The file `_load_result` reads: the one it expects, or any other result file. -/
def ResultDir.candidate (dir : ResultDir) (expected : String) : Option (String × LocalFile) :=
  match dir.main with
  | some file => some (expected, file)
  | none => dir.others.head?

/-- `_load_result`: a document, or a message. -/
def loadResult (site : Site) (bundle : Bundle) (invariantId : String) :
    Except Raised (Except String Json) :=
  let slug := invSlug invariantId
  let expected := site.bundlePath ++ "/core/" ++ slug ++ "/" ++ slug ++ "-result.json"
  match (bundle.results slug).candidate expected with
  | none => .ok (.error ("No proof result found for invariant '" ++ invariantId ++ "' "
      ++ "under " ++ site.bundlePath ++ "/core. " ++ "Expected: " ++ expected))
  | some (path, file) => do
      match ← file.read with
      | some data => return .ok data
      | none => return .error ("Could not decode " ++ path ++ " — expected UTF-8 or UTF-16 JSON.")

/-- `_REQUIRED_RESULT_FIELDS`. -/
def requiredResultFields : List String :=
  ["invariant_id", "verdict", "checks_total", "checks_passed", "checks"]

/-- `field in result`, for any JSON value. -/
def hasField (field : String) : Json → Except Raised Bool
  | .obj data => .ok (Dict.has data field)
  | .arr items => .ok (items.any (isStr field))
  | .str s => .ok (contains s field)
  | _ => .error "TypeError"

/-- The first of the required fields that is missing. -/
def missingField (result : Json) : List String → Except Raised (Option String)
  | [] => .ok none
  | field :: rest => do
      if ← hasField field result then missingField result rest else return some field

/-- The verdicts a result may have. -/
def resultVerdicts : List String := ["ACCEPT", "REJECT"]

/-- `_validate_result`. -/
def validateResult (result : Json) (invariantId : String) : Except Raised (Option String) := do
  match ← missingField result requiredResultFields with
  | some field => return some ("Proof result missing required field: '" ++ field ++ "'")
  | none =>
      match result with
      | .obj data =>
          let resultInv := Dict.get data "invariant_id"
          if truthy resultInv && !isStr invariantId resultInv then
            return some ("Proof result invariant_id '" ++ pyStr resultInv
              ++ "' does not match " ++ "requested invariant '" ++ invariantId ++ "'.")
          else
            let verdict := Dict.get data "verdict"
            if resultVerdicts.any (isStr · verdict) then return none
            else return some ("Proof result verdict must be ACCEPT or REJECT, got: '"
              ++ pyStr verdict ++ "'")
      | _ => throw "AttributeError"

/-- The identifier of a request. -/
structure RequestId where
  text : String
  nonempty : text ≠ ""

/-- `_write_receipt`: the document. -/
def receiptOf (invariantId : String) (governedVerdict : Json) (outcomeData : Dict)
    (submissionId : Json) (receivedAt : String) : Dict :=
  [("invariant_id", .str invariantId), ("governed_verdict", governedVerdict),
    ("submission_id", submissionId), ("received_at", .str receivedAt),
    ("outcome", .obj outcomeData)]

/-- The arguments of a call of `proof submit`, and what it meets. -/
structure SubmitCall where
  invariant : String
  accessToken : String
  requestId : RequestId
  receivedAt : String
  answer : Answer

/-- What a call of `proof submit` does: the result it sends, the bundle it leaves, and what it
    comes to. -/
structure Submitted where
  sent : Option Json := none
  bundle : Bundle
  result : Except Raised CommandResult

/-- A refusal before anything is sent. -/
def submitRefusal (exitCode : Nat) (summary : String) (nextSteps : List String) : CommandResult where
  command := "keyhole proof submit"
  success := false
  exitCode := exitCode
  summary := summary
  data := []
  nextSteps := nextSteps

/-- The checks before the submission: a refusal, or the result to send. -/
def checkSubmission (site : Site) (bundle : Bundle) (call : SubmitCall) :
    Except Raised (Except CommandResult Json) := do
  let invariant := strip call.invariant
  if invariant = "" then
    return .error (submitRefusal 4 "--invariant is required."
      ["keyhole proof submit --invariant <INVARIANT-ID> [--bundle <path>]"])
  else if site.bundleIsDir = false then
    return .error (submitRefusal 4 ("Proof bundle directory not found: " ++ site.bundlePath)
      ["Run your invariant gate first: python tests/invariants/inv_greet.py",
        "Ensure the bundle is at: " ++ site.bundlePath, "Or specify: --bundle <path>"])
  else
    match ← loadResult site bundle invariant with
    | .error loadError => return .error (submitRefusal 4 loadError
        ["Run your invariant gate to generate the result JSON.",
          "Check the bundle directory structure matches: core/<inv-id>/<inv-id>-result.json"])
    | .ok result =>
        match ← validateResult result invariant with
        | some validateError => return .error (submitRefusal 4
            ("Proof result validation failed: " ++ validateError)
            ["Fix the proof result and rerun."])
        | none =>
            if call.accessToken = "" then
              return .error (submitRefusal 3 "Not authenticated. Run: keyhole login"
                ["keyhole login", "Then: keyhole proof submit"])
            else return .ok result

/-- The `proof.submit` run. -/
def submitRequest (site : Site) (call : SubmitCall) (result : Json) : RunRequest where
  runType := "proof.submit"
  repoName := site.repoName
  inputData := .obj [("invariant_id", .str (strip call.invariant)), ("result", result),
    ("result_hash", .str (site.sha256Result result))]
  correlationId := call.requestId.text

/-- The verdict that goes into the receipt. -/
def governedVerdict (outcome : RunOutcome) : Json :=
  if outcome.status = .success then outcome.responseData.getOr "verdict" (.str "ACCEPTED")
  else .str "ACCEPTED"

/-- The classes of errors for which the operator has to be asked. -/
def blockedClasses : List String := ["NOT_IMPLEMENTED", "METHOD_NOT_ALLOWED", "BLOCKED"]

/-- The steps after a submission that was not taken. -/
def rejectedNextSteps (invariant : String) (outcome : RunOutcome) : List String :=
  if blockedClasses.any (isStr · (orElse outcome.errorClass (.str "unknown"))) then
    ["The proof.submit run type may not yet be enabled for your workspace.",
      "Contact your Keyhole operator to enable proof submission.",
      "Check: keyhole context compile — to confirm workspace binding status."]
      ++ outcome.repairGuidance
  else if isStr "REJECT" (outcome.responseData.getOr "verdict" (.str "")) then
    ["The server rejected the proof. Review invariant gate output.",
      "Fix failing checks and re-run the gate to regenerate the result.",
      "Then resubmit: keyhole proof submit --invariant " ++ invariant]
      ++ outcome.repairGuidance
  else outcome.repairGuidance

/-- The receipt of an outcome. -/
def outcomeReceipt (call : SubmitCall) (outcome : RunOutcome) : Dict :=
  receiptOf (strip call.invariant) (governedVerdict outcome) outcome.responseData
    (orElse outcome.runId (.str call.requestId.text)) call.receivedAt

/-- The bundle with a receipt written to a file. -/
def Bundle.write (bundle : Bundle) (file : String) (receipt : Dict) : Bundle :=
  { bundle with
    receiptsIsDir := true
    receipts := fun f => if f = file then some (.obj receipt) else bundle.receipts f }

/-- `run_proof_submit`. -/
def runProofSubmit (site : Site) (bundle : Bundle) (call : SubmitCall) : Submitted :=
  let invariant := strip call.invariant
  match checkSubmission site bundle call with
  | .error e => { bundle, result := .error e }
  | .ok (.error refusal) => { bundle, result := .ok refusal }
  | .ok (.ok result) =>
      match dispatchRun call.answer (submitRequest site call result) with
      | .error e => { sent := some result, bundle, result := .error e }
      | .ok outcome =>
          if outcome.status = .success ∨ outcome.status = .accepted then
            let file := site.receiptFile (invSlug invariant)
            if site.writable file then {
              sent := some result
              bundle := bundle.write file (outcomeReceipt call outcome)
              result := .ok {
                command := "keyhole proof submit"
                success := true
                exitCode := 0
                summary := "Proof submitted. governed_verdict=" ++ pyStr (governedVerdict outcome)
                  ++ " run_id=" ++ pyStr (orElse outcome.runId (.str call.requestId.text))
                data := [("governed_verdict", governedVerdict outcome),
                  ("run_id", orElse outcome.runId (.str call.requestId.text)),
                  ("invariant_id", .str invariant),
                  ("result_hash", .str (site.sha256Result result)),
                  ("receipt_written", .str file)] } }
            else {
              sent := some result
              bundle := { bundle with receiptsIsDir := true }
              result := .error "OSError" }
          else {
            sent := some result
            bundle
            result := .ok {
              command := "keyhole proof submit"
              success := false
              exitCode := 1
              summary := pyStr (orElse outcome.reason
                (.str "Proof submission rejected by server."))
              data := [("error_class", orElse outcome.errorClass (.str "unknown")),
                ("run_type", .str "proof.submit"), ("http_status", .int outcome.httpStatus),
                ("invariant_id", .str invariant)]
              nextSteps := rejectedNextSteps invariant outcome } }

/-! ## `keyhole receipt verify` -/

/-- An entry of the list of checks. -/
structure Check where
  check : String
  passes : Bool
  skipped : Bool := false
  detail : Option Json := none

/-- The verdict of a check. -/
def Check.verdict (c : Check) : String :=
  if c.skipped then "SKIP" else if c.passes then "PASS" else "FAIL"

/-- The governed verdicts that count as accepting. -/
def acceptingVerdicts : List String := ["ACCEPT", "ACCEPTED", "PASS"]

/-- `d.get(k, default)` of a value that may be no dictionary. -/
def field (v : Json) (k : String) (default : Json) : Except Raised Json :=
  match v with
  | .obj data => .ok (Dict.getOr data k default)
  | _ => .error "AttributeError"

/-- A submission that was sent: its invariant, the result in it, the answer, and whether the
    call reported success. -/
structure Submission where
  invariant : String
  result : Json
  answer : Answer
  reported : Bool

/-- What happened to a bundle. -/
inductive Event where
  | sent (sub : Submission)
  | edited

/-- A bundle and its history. -/
structure World where
  bundle : Bundle
  log : List Event

/-- A step: a call of `proof submit`, or an edit of the result files. -/
inductive Step where
  | submit (call : SubmitCall)
  | edit (results : String → ResultDir)

/-- The call reported success. -/
def reportsSuccess : Except Raised CommandResult → Bool
  | .ok result => result.success
  | .error _ => false

/-- The entry of a call in the history. -/
def eventOf (call : SubmitCall) (t : Submitted) : List Event :=
  match t.sent with
  | some result => [.sent ⟨strip call.invariant, result, call.answer, reportsSuccess t.result⟩]
  | none => []

/-- One step. -/
def step (site : Site) (w : World) : Step → World
  | .submit call =>
      let t := runProofSubmit site w.bundle call
      ⟨t.bundle, w.log ++ eventOf call t⟩
  | .edit results => ⟨{ w.bundle with results := results }, w.log ++ [.edited]⟩

/-- A run. -/
def exec (site : Site) (w : World) (steps : List Step) : World := steps.foldl (step site) w

/-- A bundle without receipts. -/
def fresh (results : String → ResultDir) : World :=
  ⟨⟨false, fun _ => none, results⟩, []⟩

end KeyholeReceipts
