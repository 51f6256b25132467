import Mathlib.Data.List.Nodup
import Keyhole.RuntimeLedger

/-!
# The ledger under interleaved requests

The fields of `RuntimeState` that move together, and what the answers to requests say
about them.  Handlers are resumed in any order, and two of them may carry the same
digest: the digest is looked up when it is applied, after the check, so that an answer
is decided on the state it changes.  Nothing here depends on the mode of the runtime
or on what the server answers. -/

namespace KeyholeRuntime

open KeyholeJson

/-! ## The invariant -/

/-- The fields of the state are in step. -/
structure LedgerValid (state : RuntimeState) : Prop where
  nodup : state.realizedDigests.Nodup
  receipts : state.governanceReceipts.map RecordedReceipt.digest = state.realizedDigests
  pointer : state.pointer = state.realizedDigests.length
  current : state.currentDigest = state.realizedDigests.getLast?

theorem LedgerValid.init (now : String) : LedgerValid (.init now) :=
  ⟨List.nodup_nil, rfl, rfl, rfl⟩

variable {state : RuntimeState} {request : RealizationRequest} {outcome : McpOutcome}

/-- Realizing a digest that was not realized keeps the fields in step. -/
theorem LedgerValid.realized {a : Application}
    (h : LedgerValid state) (hfresh : state.isRealized a.digest ≠ true) (now : String) :
    LedgerValid (state.realized a now) where
  nodup := by
    have hnot : a.digest ∉ state.realizedDigests := fun hmem =>
      hfresh (List.contains_iff_mem.mpr hmem)
    exact List.nodup_append.mpr ⟨h.nodup, List.nodup_singleton _, fun d hd d' hd' heq =>
      hnot (List.mem_singleton.mp hd' ▸ heq ▸ hd)⟩
  receipts := by
    show (state.governanceReceipts ++ [_]).map RecordedReceipt.digest = _
    rw [List.map_append, h.receipts]
    rfl
  pointer := by
    show state.pointer + 1 = (state.realizedDigests ++ [a.digest]).length
    rw [h.pointer, List.length_append]
    rfl
  current := by
    show some a.digest = (state.realizedDigests ++ [a.digest]).getLast?
    rw [List.getLast?_concat]

/-! ## What an answer says -/

/-- The digest an answer accepts. -/
def Served.accepted (s : Served) : Option String :=
  match s.reply with
  | .receipt r => if r.status = "ACCEPT" then some r.digest else none
  | .error _ _ => none

/-- An answer that accepts nothing left the state alone: a rejection, or the receipt of
    a digest that was realized before. -/
structure AnswerFaithful (s : Served) : Prop where
  rejected : ∀ status detail, s.reply = .error status detail → s.after = s.before
  replayed : ∀ r, s.reply = .receipt r → r.status = "ALREADY_REALIZED" → s.after = s.before
  accepted : ∀ d, s.accepted = some d →
    s.before.isRealized d = false ∧ s.after.realizedDigests = s.before.realizedDigests ++ [d]

/-- What answering a request comes to, whatever the mode. -/
inductive Settlement (request : RealizationRequest) (outcome : McpOutcome) (state : RuntimeState)
    (s : Served) : Prop where
  | rejected (status : Nat) (detail : Dict)
      (h : s = ⟨request, outcome, state, .error status detail, state⟩)
  | replayed (r : RealizationReceipt) (hr : r.status = "ALREADY_REALIZED")
      (h : s = ⟨request, outcome, state, .receipt r, state⟩)
  | accepted (r : RealizationReceipt) (a : Application) (now : String) (hr : r.status = "ACCEPT")
      (hd : r.digest = a.digest) (hfresh : state.isRealized a.digest ≠ true)
      (h : s = ⟨request, outcome, state, .receipt r, state.realized a now⟩)

theorem serve_settles (config : BridgeConfig) (request : RealizationRequest)
    (outcome : McpOutcome) (now : String) (state : RuntimeState) :
    Settlement request outcome state (serve config request outcome now state) := by
  unfold serve settle
  by_cases hok : (governanceCheck config outcome).ok = false
  · rw [if_pos hok]
    exact .rejected 422 _ rfl
  rw [if_neg hok]
  by_cases hgate : unevidenced request (governanceCheck config outcome).governanceReceipt
  · rw [if_pos hgate]
    exact .rejected 502 _ rfl
  rw [if_neg hgate]
  -- the lookup and the change happen without a suspension between them
  show Settlement _ _ _ ⟨_, _, _, .receipt (RuntimeState.applyDigest _ _ _).1,
    (RuntimeState.applyDigest _ _ _).2⟩
  unfold RuntimeState.applyDigest
  by_cases hrealized : state.isRealized
      (applicationOf request (governanceCheck config outcome)).digest = true
  · rw [if_pos hrealized]
    exact .replayed _ rfl rfl
  · rw [if_neg hrealized]
    exact .accepted _ _ now rfl rfl hrealized rfl

/-- An answer accepts nothing and leaves the state alone, or accepts a digest that was
    not realized and realizes it. -/
theorem Settlement.cases {s : Served} (h : Settlement request outcome state s) :
    (s.accepted = none ∧ s.after = state) ∨
      ∃ a now, s.accepted = some a.digest ∧ state.isRealized a.digest ≠ true ∧
        s.after = state.realized a now := by
  cases h with
  | rejected status detail h =>
    subst h
    exact .inl ⟨rfl, rfl⟩
  | replayed r hr h =>
    subst h
    refine .inl ⟨if_neg ?_, rfl⟩
    rw [hr]
    decide
  | accepted r a now hr hd hfresh h =>
    subst h
    refine .inr ⟨a, now, ?_, hfresh, rfl⟩
    show (if r.status = "ACCEPT" then some r.digest else none) = some a.digest
    rw [if_pos hr, hd]

theorem Settlement.faithful {s : Served} (h : Settlement request outcome state s) :
    AnswerFaithful s := by
  refine ⟨fun status detail hr => ?_, fun r hr hword => ?_, fun d hd => ?_⟩
  · cases h with
    | rejected _ _ h => subst h; rfl
    | replayed _ _ h => subst h; exact nomatch hr
    | accepted _ _ _ _ _ _ h => subst h; exact nomatch hr
  · cases h with
    | rejected _ _ h => subst h; exact nomatch hr
    | replayed _ _ h => subst h; rfl
    | accepted r' _ _ hr' _ _ h =>
      subst h
      cases hr
      rw [hr'] at hword
      exact absurd hword (by decide)
  · have hbefore : s.before = state := by cases h <;> (rename_i h; subst h; rfl)
    rcases h.cases with ⟨hnone, -⟩ | ⟨a, now, hsome, hfresh, hafter⟩
    · rw [hnone] at hd
      exact nomatch hd
    · rw [hsome] at hd
      cases hd
      rw [hbefore, hafter]
      exact ⟨Bool.not_eq_true _ ▸ hfresh, rfl⟩

/-! ## Every interleaving -/

/-- The state and the history of a server, related: the digests that were realized are
    those that were accepted, in order. -/
structure LedgerInvariant (state : RuntimeState) (history : List Served) : Prop where
  valid : LedgerValid state
  accepted : history.reverse.filterMap Served.accepted = state.realizedDigests
  faithful : ∀ s ∈ history, AnswerFaithful s

theorem LedgerInvariant.step {config : BridgeConfig} {now : String} {history : List Served}
    (h : LedgerInvariant state history) :
    LedgerInvariant (serve config request outcome now state).after
      (serve config request outcome now state :: history) := by
  have hsettles := serve_settles config request outcome now state
  have hfaithful : ∀ s ∈ serve config request outcome now state :: history, AnswerFaithful s := by
    intro s hs
    rcases List.mem_cons.mp hs with rfl | hs
    · exact hsettles.faithful
    · exact h.faithful s hs
  rcases hsettles.cases with ⟨hnone, hafter⟩ | ⟨a, t, hsome, hfresh, hafter⟩
  · refine ⟨by rw [hafter]; exact h.valid, ?_, hfaithful⟩
    rw [List.reverse_cons, List.filterMap_append, h.accepted, List.filterMap_cons_none hnone, hafter]
    exact List.append_nil _
  · refine ⟨by rw [hafter]; exact h.valid.realized hfresh t, ?_, hfaithful⟩
    rw [List.reverse_cons, List.filterMap_append, h.accepted, List.filterMap_cons_some hsome, hafter]
    rfl

/-- In every state that any interleaving of requests leads to: the fields are in step,
    no digest is accepted twice, and only an acceptance changes the state. -/
theorem ledger_valid_of_reachable {config : BridgeConfig} {v : Server}
    (hv : Reachable config v) :
    LedgerValid v.state ∧ (v.history.filterMap Served.accepted).Nodup ∧
      (∀ s ∈ v.history, AnswerFaithful s) ∧
      ∀ v', ServerStep config v v' → v'.state ≠ v.state →
        ∃ s d, v'.history = s :: v.history ∧ s.accepted = some d := by
  have hinv : LedgerInvariant v.state v.history :=
    Reachable.invariant (I := LedgerInvariant)
      (fun now => ⟨.init now, rfl, fun _ hs => nomatch hs⟩) (fun _ _ _ _ _ h => h.step) hv
  refine ⟨hinv.valid, ?_, hinv.faithful, ?_⟩
  · have hnodup := hinv.valid.nodup
    rw [← hinv.accepted, List.filterMap_reverse] at hnodup
    exact List.nodup_reverse.mp hnodup
  · intro v' hstep hchanged
    cases hstep with
    | refused => exact absurd rfl hchanged
    | admitted => exact absurd rfl hchanged
    | answered request front back outcome now _ _ =>
        rcases (serve_settles config request outcome now v.state).cases with
          ⟨-, hafter⟩ | ⟨a, t, hsome, -, -⟩
        · exact absurd hafter hchanged
        · exact ⟨_, a.digest, rfl, hsome⟩

/-- Two requests for one digest wait together; the second answer replays the first. -/
def answeredTwice (config : BridgeConfig) (request : RealizationRequest)
    (outcome : McpOutcome) : Server :=
  let first := serve config request outcome "t1" (.init "t0")
  let second := serve config request outcome "t2" first.after
  ⟨second.after, [], [second, first]⟩

theorem answeredTwice_reachable {config : BridgeConfig}
    (h : refusal config request = none) (outcome : McpOutcome) :
    Reachable config (answeredTwice config request outcome) := by
  refine ⟨"t0", ?_⟩
  have hfirst := ServerStep.admitted request h ⟨.init "t0", [], []⟩
  have hsecond := ServerStep.admitted request h ⟨.init "t0", [request], []⟩
  have hanswer : ServerStep config ⟨.init "t0", [request, request], []⟩ _ :=
    .answered request [] [request] outcome "t1" _ rfl
  have hreplay : ServerStep config ⟨(serve config request outcome "t1" (.init "t0")).after,
      [request], [serve config request outcome "t1" (.init "t0")]⟩ _ :=
    .answered request [] [] outcome "t2" _ rfl
  exact (((Relation.ReflTransGen.single hfirst).tail hsecond).tail hanswer).tail hreplay

theorem answeredTwice_valid :
    LedgerValid (answeredTwice governedConfig (governedRequest "sha256:a")
      (approving reportedResult)).state :=
  (ledger_valid_of_reachable (answeredTwice_reachable
    (rfl : refusal governedConfig (governedRequest "sha256:a") = none)
    (approving reportedResult))).1

end KeyholeRuntime
