import Keyhole.FlowProgress

/-!
# The protocol of a governed run

What the flow may do, told without the code: which requests it may send in which
state of progress, and how an answer may change the progress.  A step carries its
licence — the progress it needs, the answers it rests on — and a level:

* 0, the client's own bookkeeping and what it hears;
* 1 to 5, the gap, the claim, the registration, the compile and the realization;
* 6, opening a run and recovering the one a saved state names.

`FlowSimulation` shows that every method of the client follows these steps; the
invariants of whole runs are proved about the steps alone. -/

namespace KeyholeFlow

open KeyholeJson KeyholeRedaction KeyholeEnvelope KeyholeRepo KeyholeOperations EffectProgram

/-! ## Answers -/

/-- The response carries the document: no HTTP error, a JSON object, not
    `ok=false`. -/
def Gives (resp : Response) (d : Dict) : Prop :=
  resp.statusCode < 400 ∧ resp.json = some (.obj d) ∧ isFalse (d.get "ok") = false

/-- The run came to an end that is none of the four failures. -/
def Succeeds (d : Dict) : Prop := isFinished d = true ∧ isFailedRun d = false

/-- The request asks for the run that `accepted` names. -/
def PollsRun (accepted : Dict) (poll : Request) : Prop :=
  ∃ base path, poll.url = base ++ path ∧
    path ∈ runPaths accepted ++ savedRunPaths (runId accepted) (pollUrl accepted)

/-- How an action got its final answer. -/
inductive Delivery where
  /-- in the response to its request -/
  | inline
  /-- by polling in the same call -/
  | polled
  /-- by the recovery of a later call -/
  | recovered
  deriving DecidableEq

/-- The site of the poll that a delivery rests on. -/
def Delivery.site (action : Action) : Delivery → Site → Prop
  | .inline, _ => False
  | .polled, site => site = .runPoll action
  | .recovered, site => ∃ last, site = .savedRunPoll (stateStep action) last

/-- The request `r` of `action`, sent for the run record `record` when the log was
    `older`, was answered with the document `first`. -/
def Answered (log older : List Event) (record : String) (r : Request) (action : Action)
    (first : Dict) : Prop :=
  ∃ newer resp, log = newer ++ .received r resp :: .sent record r :: older ∧
    r.site = .submit action ∧ Gives resp first

/-- The request was answered for good with `d`: at once, or by a later poll of the
    run its answer accepted. -/
def Settled (log older : List Event) (record : String) (r : Request) (action : Action)
    (d : Dict) : Delivery → Prop
  | .inline => Answered log older record r action d ∧ isActive d = false
  | how => ∃ accepted poll resp, Answered log older record r action accepted ∧
      isActive accepted = true ∧ .received poll resp ∈ log ∧ how.site action poll.site ∧
      PollsRun accepted poll ∧ Gives resp d ∧ Succeeds d

/-- A repository registration of this run record has succeeded. -/
def Registered (log : List Event) (record : String) : Prop :=
  ∃ older r d how, Settled log older record r .registration d how ∧
    extractRegistrationId d ≠ ""

/-- The context id was produced by a compile sent after a registration of this run
    record had succeeded. -/
def Produced (log : List Event) (record contextId : String) : Prop :=
  ∃ older r d how, Settled log older record r .contextCompile d how ∧
    Registered older record ∧ extractContextId d = contextId

/-- A poll of this call brought an early action to its end, or gap discovery was
    answered with a run: the two ways a direct step can leave a run named. -/
def Loose (log : List Event) : Prop :=
  ∃ r resp d, .received r resp ∈ log ∧ Gives resp d ∧
    ((r.site = .submit .gapDiscovery ∧ isActive d = true) ∨
      (∃ action, action ≠ .realization ∧ r.site = .runPoll action ∧ Succeeds d))

/-- The context id the receipt in an answer names. -/
def receiptContext (d : Dict) : String :=
  (normalizeGovernanceReceipt d "" "").governanceContextId.getD ""

/-- The id of the receipt in an answer. -/
def receiptIdOf (d : Dict) : String := (normalizeGovernanceReceipt d "" "").receiptId.getD ""

/-! ## Requests -/

/-- The parameters of a request's body. -/
def Request.params (r : Request) : Dict :=
  match r.body with
  | some (.obj body) => Dict.child body "params"
  | _ => []

/-- The gap a request names. -/
def Request.gap (r : Request) : Json := r.params.get "gap_id"

/-- The context id a realization request carries, under its parameters or, to the
    runtime, at the top. -/
def Request.context (r : Request) : String :=
  match r.body with
  | some (.obj body) =>
      firstString [(Dict.child body "params").get "governance_context_id",
        Dict.get body "governance_context_id"]
  | _ => ""

/-! ## Views of the world -/

/-- The progress of the state in memory. -/
def World.live (w : World) : Progress := progress w.client.currentState

/-- The progress of the state on disk, if one can be read. -/
def World.disk (w : World) : Option Progress :=
  match w.latest with
  | .saved record => some (progress record.state)
  | _ => none

/-- The level of an action. -/
def Action.level : Action → Nat
  | .gapDiscovery => 1
  | .gapClaim => 2
  | .preclaimCompile => 2
  | .registration => 3
  | .contextCompile => 4
  | .realization => 5

/-- The level of a request. -/
def Site.level : Site → Nat
  | .capabilities => 0
  | .canonicalStatus => 0
  | .submit action => action.level
  | .runPoll _ => 0
  | .savedRunPoll _ _ => 6

/-- When a request may be sent. -/
def Licensed (w : World) (r : Request) : Prop :=
  match r.site with
  | .submit .preclaimCompile => ¬w.live.claimed ∧ r.gap = .str w.client.storyId
  | .submit .gapClaim =>
      ¬w.live.claimed ∧
        (w.client.operatorGapId ≠ "" → r.gap = .str w.client.operatorGapId)
  | .submit .registration =>
      w.live.registration = "" ∧ w.live.claimed ∧
        ∃ op, w.client.operations.lookup "repo.register" = some op ∧
          (op.runType ≠ "" → r.gap = .str w.live.gap)
  | .submit .contextCompile =>
      w.live.context = "" ∧ w.live.registration ≠ "" ∧ w.live.claimed ∧
        r.gap = .str w.live.gap
  | .submit .realization =>
      w.live.ready ∧ ¬w.live.realized ∧ r.context = w.live.context
  | .savedRunPoll step _ => w.live.pending ∧ step = w.live.step
  | _ => True

/-! ## Progress -/

/-- What recovering the answer `d` to a run of this step makes of the progress. -/
inductive Recovered (p : Progress) (d : Dict) : Progress → Prop where
  | gap (g : String) (hg : g ≠ "") (h : p.step = stateStep .gapDiscovery) :
      Recovered p d { p.consumed with gap := g, step := "gap_resolved" }
  | claim (h : p.step = stateStep .gapClaim) :
      Recovered p d { p.consumed with
        claimId := extractClaimId d
        claimRef := extractClaimRef d
        step := "claim_succeeded" }
  | registration (h : p.step = stateStep .registration) :
      Recovered p d { p.consumed with
        registration := recoverRegistrationId d
        step := "context_created" }
  | context (action : Action) (ha : action = .preclaimCompile ∨ action = .contextCompile)
      (h : p.step = stateStep action) :
      Recovered p d { p.consumed with
        context := extractContextId d
        ctxpack := contextDigestOr d (extractContextId d)
        step := recoveredContextWord p.step }
  | receipt (hc : receiptContext d ≠ "") (h : p.step = stateStep .realization) :
      Recovered p d { p.consumed with
        step := "receipt_ready"
        terminal := true
        context := receiptContext d
        receipt := receiptIdOf d }
  | other (h : ∀ action, action ≠ .gapDiscovery → p.step ≠ stateStep action) :
      Recovered p d p.consumed

/-- When the stages may be entered with a run still named, besides a realization
    that is ready: a condition on the log that only becomes easier. -/
structure Lingering where
  holds : List Event → Prop
  mono : ∀ newer log, holds log → holds (newer ++ log)

/-- No condition. -/
def Lingering.always : Lingering := ⟨fun _ => True, fun _ _ h => h⟩

/-- How the progress may change when a state is persisted: from `p` to `q`, at a
    level, on the strength of the log.  A step that ends while a run is still named
    is one of a flow entered with it, or the log is `Loose`. -/
inductive Advance (lingering : Lingering) (log : List Event) (operator : String) (p : Progress) :
    Nat → Progress → Prop where
  | accepted (action : Action) (r : Request) (resp : Response) (d : Dict) (older : List Event)
      (hlog : log = .received r resp :: .sent p.record r :: older)
      (hsite : r.site = .submit action) (hgives : Gives resp d) (hactive : isActive d = true)
      (hready : action = .realization → p.ready) :
      Advance lingering log operator p action.level { p with
        step := stateStep action
        runId := runId d
        pollUrl := pollUrl d
        terminal := false }
  | gap (g word : String) (hword : word = "gap_resolved" ∨ word = "gap_resolution")
      (hgap : g = p.gap ∨ (g ≠ "" ∧ (operator ≠ "" → g = operator)))
      (hrun : p.namesRun → lingering.holds log ∨ Loose log) :
      Advance lingering log operator p 1 { p with gap := g, step := word, terminal := false }
  | claimed (claim : Claim) (older : List Event) (r : Request) (d : Dict) (how : Delivery)
      (hsettled : Settled log older p.record r .gapClaim d how)
      (hid : claim.claimId = extractClaimId d) (href : claim.claimRef = extractClaimRef d)
      (hclaim : claim.claimId ≠ "" ∨ claim.claimRef ≠ "") (hgap : claim.gapId ≠ "")
      (hop : operator ≠ "" → claim.gapId = operator)
      (hrun : p.namesRun → lingering.holds log ∨ Loose log) :
      Advance lingering log operator p 2 { p with
        claimId := claim.claimId
        claimRef := claim.claimRef
        claimDigest := claim.ctxpackDigest
        gap := claim.gapId
        step := "claim_succeeded"
        terminal := false }
  | registered (digest : String) (older : List Event) (r : Request) (d : Dict) (how : Delivery)
      (hsettled : Settled log older p.record r .registration d how)
      (hid : extractRegistrationId d ≠ "")
      (hrun : p.namesRun → lingering.holds log ∨ Loose log) :
      Advance lingering log operator p 3 { p with
        registration := extractRegistrationId d
        claimDigest := digest
        step := "context_created"
        terminal := false }
  | compiled (older : List Event) (r : Request) (d : Dict) (how : Delivery)
      (hsettled : Settled log older p.record r .contextCompile d how)
      (hid : extractContextId d ≠ "")
      (hrun : p.namesRun → lingering.holds log ∨ Loose log) :
      Advance lingering log operator p 4 { p with
        context := extractContextId d
        ctxpack := contextDigestOr d (extractContextId d)
        step := "context_compiled"
        terminal := false }
  | candidate (digest : String) :
      Advance lingering log operator p 5 { p with ctxpack := digest }
  | realized (older : List Event) (r : Request) (d : Dict) (how : Delivery)
      (hsettled : Settled log older p.record r .realization d how)
      (hc : receiptContext d ≠ "") :
      Advance lingering log operator p 5 { p with
        step := "receipt_ready"
        terminal := true
        runId := ""
        pollUrl := ""
        context := receiptContext d
        receipt := receiptIdOf d }
  | inspected (story capability repoClass : String) (hcap : capability ≠ "")
      (hclass : repoClass ≠ "") :
      Advance lingering log operator p 6 { p with
        story := story
        capability := capability
        repoClass := repoClass
        terminal := false }
  | notFound (hp : p.pending) : Advance lingering log operator p 6 { p with terminal := false }
  | unfinished (r : Request) (resp : Response) (d : Dict) (older : List Event)
      (hlog : log = .received r resp :: older) (hsite : r.site = .savedRunPoll p.step true)
      (hgives : Gives resp d) (hd : isFinished d = false) (hp : p.pending) :
      Advance lingering log operator p 6 { p with terminal := false }
  | failed (r : Request) (resp : Response) (d : Dict) (older : List Event) (last : Bool)
      (hlog : log = .received r resp :: older) (hsite : r.site = .savedRunPoll p.step last)
      (hgives : Gives resp d) (hd : isFinished d = true) (hfailed : isFailedRun d = true)
      (hp : p.pending) :
      Advance lingering log operator p 6 { p with terminal := true }
  | recovered (q : Progress) (r : Request) (resp : Response) (d : Dict) (older : List Event)
      (last : Bool) (path base : String)
      (hlog : log = .received r resp :: older) (hsite : r.site = .savedRunPoll p.step last)
      (hurl : r.url = base ++ path) (hpath : path ∈ savedRunPaths p.runId p.pollUrl)
      (hgives : Gives resp d) (hd : Succeeds d) (hp : p.pending) (hq : Recovered p d q) :
      Advance lingering log operator p 6 q

/-! ## Steps and paths -/

/-- What the steps of the levels 0 to 5 leave alone. -/
structure Keeps (w w' : World) : Prop where
  operator : w'.client.operatorGapId = w.client.operatorGapId
  story : w'.client.storyId = w.client.storyId
  operations : w.client.operations ≠ [] → w'.client.operations = w.client.operations

/-- One step of a run, with its level.  Every progress that is persisted has a run
    record, opened with the first one. -/
inductive Step (env : Env) (lingering : Lingering) : Nat → World → World → Prop where
  | silent {w w' : World} (hlog : w'.log = w.log) (hlive : w'.live = w.live)
      (hdisk : w'.disk = w.disk ∨ w'.disk = none) (keeps : Keeps w w') :
      Step env lingering 0 w w'
  | named {w w' : World} (record : String) (hrecord : record ≠ "") (hlog : w'.log = w.log)
      (hblank : w.live = .blank) (hlive : w'.live = w.live.named record)
      (hdisk : w'.disk = w.disk ∨ w'.disk = none) (keeps : Keeps w w') :
      Step env lingering 0 w w'
  | sent {w w' : World} (r : Request) (licence : Licensed w r)
      (hlog : w'.log = .sent w.record r :: w.log) (hlive : w'.live = w.live)
      (hdisk : w'.disk = w.disk) (keeps : Keeps w w') :
      Step env lingering r.site.level w w'
  | received {w w' : World} (r : Request) (resp : Response) (t : Nat)
      (hanswer : env.answer t r = .response resp)
      (hlog : w'.log = .received r resp :: w.log) (hlive : w'.live = w.live)
      (hdisk : w'.disk = w.disk) (keeps : Keeps w w') :
      Step env lingering 0 w w'
  | persisted {w w' : World} {n : Nat} (q : Progress) (record : String) (s : RunRecord)
      (hadvance : Advance lingering w.log w.client.operatorGapId w.live n q)
      (hrecord : record ≠ "") (hs : progress s.state = q.named record)
      (hlog : w'.log = .persisted s :: w.log) (hdisk : w'.disk = some (q.named record))
      (hlive : w'.live = q.named record ∨ w'.live = w.live ∨
        (w.live = .blank ∧ w'.live = w.live.named record)) (keeps : Keeps w w') :
      Step env lingering n w w'
  | opened {w w' : World} (hlog : w'.log = w.log)
      (hlive : w'.live = w.live ∨ w.disk = some w'.live) (hdisk : w'.disk = w.disk)
      (operator : w'.client.operatorGapId = w.client.operatorGapId) :
      Step env lingering 6 w w'

/-- A run of steps up to a level. -/
def Path (env : Env) (lingering : Lingering) (n : Nat) : World → World → Prop :=
  Relation.ReflTransGen (fun w w' => ∃ k, k ≤ n ∧ Step env lingering k w w')

namespace Path

variable {env : Env} {L : Lingering} {n m : Nat} {a b c : World}

theorem refl (w : World) : Path env L n w w := Relation.ReflTransGen.refl

theorem trans (h : Path env L n a b) (h' : Path env L n b c) : Path env L n a c :=
  Relation.ReflTransGen.trans h h'

theorem single {k : Nat} (hk : k ≤ n) (h : Step env L k a b) : Path env L n a b :=
  Relation.ReflTransGen.single ⟨k, hk, h⟩

/-- Whatever every step of the level preserves, a path preserves. -/
theorem invariant {I : World → Prop}
    (step : ∀ k w w', k ≤ n → Step env L k w w' → I w → I w') (h : Path env L n a b)
    (ha : I a) : I b :=
  invariant_of_trace (fun w w' hi ⟨k, hk, hs⟩ => step k w w' hk hs hi) h ha

theorem mono (hnm : n ≤ m) (h : Path env L n a b) : Path env L m a b :=
  invariant (I := Path env L m a)
    (fun _ _ _ hk hs hi => hi.trans (single (Nat.le_trans hk hnm) hs)) h (refl a)

end Path

/-! ## What steps keep -/

section Frame

variable {env : Env} {L : Lingering} {k n : Nat} {w w' : World}

/-- The log only grows. -/
theorem Step.extends (h : Step env L k w w') : ∃ newer, w'.log = newer ++ w.log := by
  cases h with
  | silent hlog => exact ⟨[], hlog⟩
  | named _ _ hlog => exact ⟨[], hlog⟩
  | sent r _ hlog => exact ⟨[_], hlog⟩
  | received r resp _ _ hlog => exact ⟨[_], hlog⟩
  | persisted _ _ s _ _ _ hlog => exact ⟨[_], hlog⟩
  | opened hlog => exact ⟨[], hlog⟩

theorem Path.extends (h : Path env L n w w') : ∃ newer, w'.log = newer ++ w.log := by
  refine Path.invariant (I := fun v => ∃ newer, v.log = newer ++ w.log) ?_ h ⟨[], rfl⟩
  rintro k v v' - hs ⟨newer, hv⟩
  obtain ⟨newer', hv'⟩ := hs.extends
  exact ⟨newer' ++ newer, by rw [hv', hv, List.append_assoc]⟩

theorem Keeps.refl (w : World) : Keeps w w := ⟨rfl, rfl, fun _ => rfl⟩

theorem Keeps.trans {a b c : World} (h : Keeps a b) (h' : Keeps b c) : Keeps a c where
  operator := h'.operator.trans h.operator
  story := h'.story.trans h.story
  operations := by
    intro ha
    have hb := h.operations ha
    rw [h'.operations (by rw [hb]; exact ha), hb]

theorem Step.keeps (h : Step env L k w w') (hk : k ≤ 5) : Keeps w w' := by
  cases h with
  | silent _ _ _ keeps => exact keeps
  | named _ _ _ _ _ _ keeps => exact keeps
  | sent _ _ _ _ _ keeps => exact keeps
  | received _ _ _ _ _ _ _ keeps => exact keeps
  | persisted _ _ _ _ _ _ _ _ _ keeps => exact keeps
  | opened => exact absurd hk (by decide)

theorem Path.keeps (h : Path env L n w w') (hn : n ≤ 5) : Keeps w w' :=
  Path.invariant (I := fun v => Keeps w v)
    (fun _ _ _ hk hs hi => hi.trans (hs.keeps (Nat.le_trans hk hn))) h (Keeps.refl w)

/-- What a step up to level `n` leaves of the progress `p` in `q`. -/
structure Frame (n : Nat) (p q : Progress) : Prop where
  record : n ≤ 5 → p.record ≠ "" → q.record = p.record
  claim : n ≤ 1 → q.claimId = p.claimId ∧ q.claimRef = p.claimRef
  registration : n ≤ 2 → q.registration = p.registration
  context : n ≤ 3 → q.context = p.context
  receipt : n ≤ 4 → q.receipt = p.receipt
  open_ : n ≤ 4 → p.terminal = false → q.terminal = false
  hasGap : n ≤ 5 → p.gap ≠ "" → q.gap ≠ ""
  claimed : n ≤ 5 → p.claimed → q.claimed
  registered : n ≤ 5 → p.registration ≠ "" → q.registration ≠ ""
  compiled : n ≤ 5 → p.context ≠ "" → q.context ≠ ""

theorem Frame.refl (n : Nat) (p : Progress) : Frame n p p :=
  ⟨fun _ _ => rfl, fun _ => ⟨rfl, rfl⟩, fun _ => rfl, fun _ => rfl, fun _ => rfl,
    fun _ h => h, fun _ h => h, fun _ h => h, fun _ h => h, fun _ h => h⟩

theorem Frame.trans {n : Nat} {p q r : Progress} (h : Frame n p q) (h' : Frame n q r) :
    Frame n p r where
  record hn hp := by
    have hq := h.record hn hp
    exact (h'.record hn (by rw [hq]; exact hp)).trans hq
  claim hn := ⟨(h'.claim hn).1.trans (h.claim hn).1, (h'.claim hn).2.trans (h.claim hn).2⟩
  registration hn := (h'.registration hn).trans (h.registration hn)
  context hn := (h'.context hn).trans (h.context hn)
  receipt hn := (h'.receipt hn).trans (h.receipt hn)
  open_ hn hp := h'.open_ hn (h.open_ hn hp)
  hasGap hn hp := h'.hasGap hn (h.hasGap hn hp)
  claimed hn hp := h'.claimed hn (h.claimed hn hp)
  registered hn hp := h'.registered hn (h.registered hn hp)
  compiled hn hp := h'.compiled hn (h.compiled hn hp)

theorem Frame.mono {n m : Nat} {p q : Progress} (hnm : n ≤ m) (h : Frame n p q) :
    Frame m p q where
  record hm := h.record (Nat.le_trans hnm hm)
  claim hm := h.claim (Nat.le_trans hnm hm)
  registration hm := h.registration (Nat.le_trans hnm hm)
  context hm := h.context (Nat.le_trans hnm hm)
  receipt hm := h.receipt (Nat.le_trans hnm hm)
  open_ hm := h.open_ (Nat.le_trans hnm hm)
  hasGap hm := h.hasGap (Nat.le_trans hnm hm)
  claimed hm := h.claimed (Nat.le_trans hnm hm)
  registered hm := h.registered (Nat.le_trans hnm hm)
  compiled hm := h.compiled (Nat.le_trans hnm hm)

theorem Frame.named {n : Nat} {p q : Progress} (record : String) (h : Frame n p q) :
    Frame n p (q.named record) :=
  { h with
    record := by
      intro hn hp
      have hq := h.record hn hp
      show (if q.record = "" then record else q.record) = p.record
      rw [if_neg (by rw [hq]; exact hp), hq] }

theorem Advance.frame {log : List Event} {operator : String} {p q : Progress}
    (h : Advance L log operator p k q) : Frame k p q := by
  have self := Frame.refl k p
  cases h with
  | accepted action =>
    exact ⟨self.record, self.claim, self.registration, self.context, self.receipt, fun _ _ => rfl,
      self.hasGap, self.claimed, self.registered, self.compiled⟩
  | gap g word _ hgap =>
    refine ⟨self.record, self.claim, self.registration, self.context, self.receipt, fun _ _ => rfl, ?_,
      self.claimed, self.registered, self.compiled⟩
    intro _ hp
    rcases hgap with rfl | ⟨hg, -⟩
    · exact hp
    · exact hg
  | claimed claim _ _ _ _ _ _ _ hclaim hgap =>
    exact ⟨self.record, fun h => absurd h (by decide), self.registration, self.context, self.receipt,
      fun _ _ => rfl, fun _ _ => hgap, fun _ _ => hclaim, self.registered, self.compiled⟩
  | registered _ _ _ _ _ _ hid =>
    exact ⟨self.record, fun h => absurd h (by decide), fun h => absurd h (by decide), self.context,
      self.receipt, fun _ _ => rfl, self.hasGap, self.claimed, fun _ _ => hid, self.compiled⟩
  | compiled _ _ _ _ _ hid =>
    exact ⟨self.record, fun h => absurd h (by decide), fun h => absurd h (by decide),
      fun h => absurd h (by decide), self.receipt, fun _ _ => rfl, self.hasGap, self.claimed,
      self.registered, fun _ _ => hid⟩
  | candidate digest =>
    exact ⟨self.record, self.claim, self.registration, self.context, self.receipt, self.open_, self.hasGap,
      self.claimed, self.registered, self.compiled⟩
  | realized _ _ _ _ _ hc =>
    exact ⟨self.record, fun h => absurd h (by decide), fun h => absurd h (by decide),
      fun h => absurd h (by decide), fun h => absurd h (by decide),
      fun h => absurd h (by decide), self.hasGap, self.claimed, self.registered, fun _ _ => hc⟩
  | inspected _ _ _ _ _ =>
    exact ⟨self.record, self.claim, self.registration, self.context, self.receipt, fun _ _ => rfl,
      self.hasGap, self.claimed, self.registered, self.compiled⟩
  | _ =>
    exact ⟨fun h => absurd h (by decide), fun h => absurd h (by decide), fun h => absurd h (by decide),
      fun h => absurd h (by decide), fun h => absurd h (by decide),
      fun h => absurd h (by decide), fun h => absurd h (by decide),
      fun h => absurd h (by decide), fun h => absurd h (by decide),
      fun h => absurd h (by decide)⟩

theorem Step.frame (h : Step env L k w w') : Frame k w.live w'.live := by
  cases h with
  | silent _ hlive => rw [hlive]; exact Frame.refl _ _
  | named record _ _ _ hlive => rw [hlive]; exact (Frame.refl _ _).named record
  | sent _ _ _ hlive => rw [hlive]; exact Frame.refl _ _
  | received _ _ _ _ _ hlive => rw [hlive]; exact Frame.refl _ _
  | persisted q record _ hadvance _ _ _ _ hlive =>
    rcases hlive with hlive | hlive | ⟨-, hlive⟩
    · rw [hlive]; exact hadvance.frame.named record
    · rw [hlive]; exact Frame.refl _ _
    · rw [hlive]; exact (Frame.refl _ _).named record
  | opened =>
    exact ⟨fun h => absurd h (by decide), fun h => absurd h (by decide),
      fun h => absurd h (by decide), fun h => absurd h (by decide), fun h => absurd h (by decide),
      fun h => absurd h (by decide), fun h => absurd h (by decide),
      fun h => absurd h (by decide), fun h => absurd h (by decide),
      fun h => absurd h (by decide)⟩

theorem Path.frame (h : Path env L n w w') : Frame n w.live w'.live :=
  Path.invariant (I := fun v => Frame n w.live v.live)
    (fun _ _ _ hk hs hi => hi.trans (hs.frame.mono hk)) h (Frame.refl _ _)

/-- The stages do not lose the run record. -/
theorem Path.hasRecord (h : Path env L n w w') (hn : n ≤ 5) (hrecord : w.live.record ≠ "") :
    w'.live.record ≠ "" := by
  rw [h.frame.record hn hrecord]
  exact hrecord

end Frame

/-! ## Facts that stay true as the log grows -/

section Mono

variable {log : List Event} {record : String}

theorem Answered.mono {older : List Event} {r : Request} {action : Action} {d : Dict}
    (h : Answered log older record r action d) (newer : List Event) :
    Answered (newer ++ log) older record r action d := by
  obtain ⟨new, resp, hlog, hsite, hgives⟩ := h
  exact ⟨newer ++ new, resp, by rw [hlog, List.append_assoc], hsite, hgives⟩

theorem Settled.mono {older : List Event} {r : Request} {action : Action} {d : Dict}
    {how : Delivery} (h : Settled log older record r action d how) (newer : List Event) :
    Settled (newer ++ log) older record r action d how := by
  cases how with
  | inline => exact ⟨h.1.mono newer, h.2⟩
  | polled =>
    obtain ⟨accepted, poll, resp, hans, hact, hmem, hrest⟩ := h
    exact ⟨accepted, poll, resp, hans.mono newer, hact, List.mem_append_right _ hmem, hrest⟩
  | recovered =>
    obtain ⟨accepted, poll, resp, hans, hact, hmem, hrest⟩ := h
    exact ⟨accepted, poll, resp, hans.mono newer, hact, List.mem_append_right _ hmem, hrest⟩

theorem Registered.mono (h : Registered log record) (newer : List Event) :
    Registered (newer ++ log) record := by
  obtain ⟨older, r, d, how, hs, hid⟩ := h
  exact ⟨older, r, d, how, hs.mono newer, hid⟩

theorem Produced.mono {contextId : String} (h : Produced log record contextId)
    (newer : List Event) : Produced (newer ++ log) record contextId := by
  obtain ⟨older, r, d, how, hs, hreg, hid⟩ := h
  exact ⟨older, r, d, how, hs.mono newer, hreg, hid⟩

theorem Loose.mono (h : Loose log) (newer : List Event) : Loose (newer ++ log) := by
  obtain ⟨r, resp, d, hmem, hrest⟩ := h
  exact ⟨r, resp, d, List.mem_append_right _ hmem, hrest⟩

end Mono

end KeyholeFlow
