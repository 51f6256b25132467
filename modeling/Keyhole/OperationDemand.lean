import Keyhole.FlowResume

/-!
# Which operations the stages ask for

Two methods look an operation up and raise when the capabilities document does not offer
it: `_require_operation` in the table of operations, `_gap_discovery_operation` in the
document itself.  Their messages begin alike, and no other message of the flow does, so
that an error tells whether it comes from one of them.

* `Missing`, `Plain`: the messages of the two methods, and all others;
* `SameTables`: the document and the table stay what `discover` made them;
* one lemma a method, up to `demands_stages`: with the operations it asks for at hand, it
  raises plain errors only. -/

namespace KeyholeFlow

open KeyholeJson KeyholeRedaction KeyholeEnvelope KeyholeGaps KeyholeOperations KeyholeRepo
  EffectProgram

/-! ## Messages -/

/-- The message says that an operation is missing. -/
def Missing (message : String) : Prop := startsWith message "MCP capabilities missing" = true

/-- The message begins otherwise. -/
def plain (message : String) : Bool :=
  match message.toList with
  | a :: b :: _ => !(a == 'M' && b == 'C')
  | _ => false

theorem plain_append {p : String} (h : plain p = true) (rest : String) :
    plain (p ++ rest) = true := by
  unfold plain at h ⊢
  rw [String.toList_append]
  cases hp : p.toList with
  | nil =>
    rw [hp] at h
    exact nomatch h
  | cons a tail =>
    cases tail with
    | nil =>
      rw [hp] at h
      exact nomatch h
    | cons b tail =>
      rw [hp] at h
      exact h

variable {e : Err} {w' w : World} {data : Dict} {message action : String} {content : RepoContent}
variable {env : Env} {resp : Response}

/-- A plain message does not say that an operation is missing. -/
theorem not_missing_of_plain (h : plain message = true) :
    ¬ Missing message := by
  intro hm
  unfold plain at h
  unfold Missing startsWith at hm
  have hstart : "MCP capabilities missing".toList = 'M' :: 'C' :: "P capabilities missing".toList :=
    rfl
  rw [hstart] at hm
  cases hp : message.toList with
  | nil =>
    rw [hp] at h
    exact nomatch h
  | cons a tail =>
    cases tail with
    | nil =>
      rw [hp] at h
      exact nomatch h
    | cons b tail =>
      rw [hp] at h hm
      simp only [List.isPrefixOf, Bool.and_eq_true, beq_iff_eq] at hm
      obtain ⟨rfl, rfl, -⟩ := hm
      exact nomatch h

/-- A fault, or an error with a plain message. -/
def PlainErr : Err → Prop
  | .governed message => plain message = true
  | .fault _ => True

/-! ## The tables -/

/-- The document, the table and the operator's gap are the same. -/
structure SameTables (w w' : World) : Prop where
  operations : w'.client.operations = w.client.operations
  capabilities : w'.client.capabilities = w.client.capabilities
  operator : w'.client.operatorGapId = w.client.operatorGapId

theorem SameTables.refl (w : World) : SameTables w w := ⟨rfl, rfl, rfl⟩

theorem SameTables.trans {a b c : World} (h : SameTables a b) (h' : SameTables b c) :
    SameTables a c :=
  ⟨h'.operations.trans h.operations, h'.capabilities.trans h.capabilities,
    h'.operator.trans h.operator⟩

/-- A change that leaves the client alone. -/
theorem SameTables.of_client (h : w'.client = w.client) : SameTables w w' :=
  ⟨by rw [h], by rw [h], by rw [h]⟩

/-- The run of `m` keeps the tables and raises plain errors only. -/
structure Demands {α : Type} (m : Flow α) (Q : α → World → Prop) (w : World) : Prop where
  traced : Traced SameTables m Q (fun e _ => PlainErr e) w

section Rules

variable {α β : Type} {w : World}

theorem Demands.bind {m : Flow α} {f : α → Flow β} {P : α → World → Prop} {Q : β → World → Prop}
    (hm : Demands m P w) (hf : ∀ a w', SameTables w w' → P a w' → Demands (f a) Q w') :
    Demands (m >>= f) Q w :=
  ⟨traced_bind (@SameTables.trans) hm.traced fun a w' hs hp => (hf a w' hs hp).traced⟩

theorem Demands.pure {a : α} {Q : α → World → Prop} (h : Q a w) : Demands (pure a) Q w :=
  ⟨traced_pure SameTables.refl h⟩

theorem Demands.error {Q : α → World → Prop} (h : PlainErr e) :
    Demands (throw e : Flow α) Q w := ⟨traced_throw SameTables.refl h⟩

theorem Demands.raise {Q : α → World → Prop} (h : plain message = true) :
    Demands (raise message : Flow α) Q w := Demands.error h

theorem Demands.fault {f : Fault} {Q : α → World → Prop} :
    Demands (throw (.fault f) : Flow α) Q w := Demands.error trivial

theorem Demands.ite {c : Prop} [Decidable c] {m n : Flow α} {Q : α → World → Prop}
    (hm : c → Demands m Q w) (hn : ¬c → Demands n Q w) : Demands (if c then m else n) Q w :=
  ⟨traced_ite (fun hc => (hm hc).traced) (fun hc => (hn hc).traced)⟩

/-- A step whose outcome is known. -/
theorem Demands.of_exec {m : Flow α} {Q : α → World → Prop} {a : α}
    (hm : exec m w = (.ok a, w')) (hsame : SameTables w w') (hQ : Q a w') : Demands m Q w := by
  refine ⟨?_⟩
  unfold Traced wp
  rw [hm]
  exact ⟨hsame, hQ⟩

theorem Demands.step {m : Flow α} {f : α → Flow β} {Q : β → World → Prop} {a : α}
    (hm : exec m w = (.ok a, w')) (hsame : SameTables w w') (hf : Demands (f a) Q w') :
    Demands (m >>= f) Q w := by
  refine Demands.bind (P := fun b v => b = a ∧ v = w') (.of_exec hm hsame ⟨rfl, rfl⟩) ?_
  rintro b v - ⟨rfl, rfl⟩
  exact hf

theorem Demands.getClient {f : Client → Flow β} {Q : β → World → Prop}
    (h : Demands (f w.client) Q w) : Demands (getClient >>= f) Q w :=
  Demands.step (exec_getClient w) (.refl w) h

theorem Demands.mono {m : Flow α} {Q Q' : α → World → Prop} (h : Demands m Q w)
    (hQ : ∀ a w', SameTables w w' → Q a w' → Q' a w') : Demands m Q' w :=
  ⟨traced_mono h.traced hQ (fun _ _ _ h => h)⟩

theorem Demands.ofExcept {x : Except Err α} {Q : α → World → Prop}
    (hok : ∀ a, x = .ok a → Q a w) (herr : ∀ e, x = .error e → PlainErr e) :
    Demands (ofExcept x) Q w := by
  cases x with
  | ok a => exact Demands.pure (hok a rfl)
  | error e => exact Demands.error (herr e rfl)

/-- A message that is caught is plain. -/
theorem Demands.caught {m : Flow α} {P : α → World → Prop} (h : Demands m P w) :
    Demands (catchGoverned m)
      (fun result _ => ∀ message, result = .error message → plain message = true) w := by
  refine ⟨traced_tryCatch (@SameTables.trans)
    (Demands.bind h fun _ _ _ _ => Demands.pure nofun).traced ?_⟩
  intro e w' _ hplain
  cases e with
  | governed message => exact (Demands.pure fun m hm => Except.error.inj hm ▸ hplain).traced
  | fault f => exact Demands.fault.traced

/-- What the protocol knows of the run is known as well. -/
theorem Demands.follows {m : Flow α} {Q Q' : α → World → Prop} {E : Err → World → Prop}
    {L : Lingering} {n : Nat} (h : Demands m Q w) (hf : Follows env L n m Q' E w) :
    Demands m (fun a w' => Q a w' ∧ Path env L n w w' ∧ Q' a w') w :=
  ⟨wp_mono (wp_and h.traced hf) (fun _ _ h => ⟨h.1.1, h.1.2, h.2⟩) (fun _ _ h => h.1)⟩

end Rules

/-! ## Effects -/

section Effects

variable {env : Env} {w : World}

theorem demands_modifyClient (f : Client → Client)
    (hoperations : (f w.client).operations = w.client.operations)
    (hcapabilities : (f w.client).capabilities = w.client.capabilities)
    (hoperator : (f w.client).operatorGapId = w.client.operatorGapId) :
    Demands (modifyClient f) (fun _ w' => w' = { w with client := f w.client }) w :=
  Demands.of_exec (exec_modifyClient w f) ⟨hoperations, hcapabilities, hoperator⟩ rfl

theorem demands_readRepo :
    Demands (readRepo env) (fun _ w' => w'.client = w.client) w :=
  Demands.of_exec (exec_readRepo env w) (.of_client rfl) rfl

theorem demands_headers (idempotent : Bool) :
    Demands (headers env idempotent) (fun _ w' => w'.client = w.client) w := by
  refine Demands.getClient ?_
  cases idempotent with
  | true => exact Demands.step (exec_nextTick w) (.of_client rfl) (Demands.pure rfl)
  | false => exact Demands.pure rfl

theorem demands_http (r : Request) :
    Demands (http env r) (fun _ w' => w'.client = w.client) w := by
  refine ⟨?_⟩
  unfold Traced wp
  rw [exec_http]
  cases env.answer w.tick r with
  | fault f => exact ⟨.of_client rfl, trivial⟩
  | response resp => exact ⟨.of_client rfl, rfl⟩

theorem demands_persistState (updates : Dict) :
    Demands (persistState env updates) (fun _ _ => True) w := by
  refine ⟨?_⟩
  unfold Traced wp
  rw [exec_persistState]
  cases env.write w.tick with
  | done => exact ⟨⟨rfl, rfl, rfl⟩, trivial⟩
  | lost f => exact ⟨⟨rfl, rfl, rfl⟩, trivial⟩
  | torn f => exact ⟨⟨rfl, rfl, rfl⟩, trivial⟩
  | late f => exact ⟨⟨rfl, rfl, rfl⟩, trivial⟩

theorem demands_writeDemoState (name : String) (data : Dict) :
    Demands (writeDemoState env name data) (fun _ _ => True) w := by
  refine ⟨?_⟩
  unfold Traced wp
  rw [exec_writeDemoState]
  cases env.write w.tick with
  | done => exact ⟨.of_client rfl, trivial⟩
  | lost f => exact ⟨.of_client rfl, trivial⟩
  | torn f => exact ⟨.of_client rfl, trivial⟩
  | late f => exact ⟨.of_client rfl, trivial⟩

theorem demands_readDemoState (name : String) :
    Demands (readDemoState env name) (fun _ w' => w' = w) w := by
  refine Demands.step (exec_get w) (.refl w) ?_
  cases w.demo name with
  | absent => exact Demands.raise (plain_append (by simp [plain]) _)
  | corrupt => exact Demands.fault
  | notObject => exact Demands.raise (plain_append (by simp [plain]) _)
  | doc d => exact Demands.pure rfl

end Effects

/-! ## Answers -/

section Answers

variable {env : Env} {w : World}

theorem plain_jsonObject (h : jsonObject resp = .error e) :
    PlainErr e := by
  unfold jsonObject at h
  cases hj : resp.json with
  | none =>
    rw [hj] at h
    rw [← Except.error.inj h]
    trivial
  | some v =>
    rw [hj] at h
    cases v with
    | obj data => exact nomatch h
    | _ =>
      rw [← Except.error.inj h]
      simp [PlainErr, plain]

theorem plain_raiseForResponse
    (haction : plain action = true) (h : raiseForResponse resp action = .error e) :
    PlainErr e := by
  unfold raiseForResponse at h
  by_cases hs : 400 ≤ resp.statusCode
  · rw [if_pos hs] at h
    rw [← Except.error.inj h]
    exact plain_append (plain_append (plain_append (plain_append haction _) _) _) _
  · rw [if_neg hs] at h
    exact nomatch h

theorem plain_raiseForMcpError
    (haction : plain action = true) (h : raiseForMcpError data action = .error e) :
    PlainErr e := by
  unfold raiseForMcpError mcpError at h
  by_cases hok : isFalse (Dict.get data "ok") = true
  · simp only [if_pos hok] at h
    rw [← Except.error.inj h]
    exact plain_append (plain_append haction _) _
  · simp only [if_neg hok] at h
    exact nomatch h

theorem plain_checkAnswer
    (haction : plain action = true) (h : checkAnswer resp action = .error e) : PlainErr e := by
  unfold checkAnswer at h
  cases hr : raiseForResponse resp action with
  | error e' =>
    rw [hr] at h
    obtain rfl : e' = e := Except.error.inj h
    exact plain_raiseForResponse haction hr
  | ok =>
    rw [hr] at h
    cases hj : jsonObject resp with
    | error e' =>
      rw [hj] at h
      obtain rfl : e' = e := Except.error.inj h
      exact plain_jsonObject hj
    | ok data =>
      rw [hj] at h
      cases hm : raiseForMcpError data action with
      | error e' =>
        simp only [bind, Except.bind, hm] at h
        obtain rfl : e' = e := Except.error.inj h
        exact plain_raiseForMcpError haction hm
      | ok =>
        simp only [bind, Except.bind, hm] at h
        exact nomatch h

theorem demands_exchange (r : Request) (haction : plain action = true) :
    Demands (exchange env r action) (fun _ w' => w'.client = w.client) w := by
  refine Demands.bind (demands_http r) ?_
  intro resp w' _ hclient
  exact Demands.ofExcept (fun _ _ => hclient) (fun _ h => plain_checkAnswer haction h)

/-- The texts of the actions are plain. -/
theorem plain_action (action : Action) : plain action.text = true := by
  cases action <;> simp [plain, Action.text]

theorem demands_pollRound (action : Action) (paths : List String) (last : Dict) :
    Demands (pollRound env action paths last) (fun _ _ => True) w := by
  induction paths generalizing w last with
  | nil => exact Demands.pure trivial
  | cons path rest ih =>
    refine Demands.getClient (Demands.bind
      (demands_exchange _ (plain_append (plain_action action) _)) ?_)
    intro polled w' _ _
    refine Demands.ite (fun _ => Demands.ite (fun _ => ?_) (fun _ => Demands.pure trivial))
      (fun _ => ih polled)
    exact Demands.raise (plain_append (plain_append (plain_append (plain_append
      (plain_action action) _) _) _) _)

theorem demands_pollUntil (action : Action) (paths : List String) (rounds : Nat) (last : Dict) :
    Demands (pollUntil env action paths rounds last) (fun _ _ => True) w := by
  induction rounds generalizing w last with
  | zero => exact Demands.raise (plain_append (plain_append (plain_action action) _) _)
  | succ rounds ih =>
    refine Demands.bind (demands_pollRound action paths last) ?_
    intro result w' _ _
    cases result with
    | inr polled => exact Demands.pure trivial
    | inl last => exact ih last

theorem demands_submit (r : Request) (action : Action) :
    Demands (submit env r action) (fun _ _ => True) w := by
  refine Demands.bind (demands_exchange r (plain_action action)) ?_
  intro data w' _ _
  refine Demands.ite (fun _ => Demands.getClient (Demands.bind (demands_persistState _) ?_))
    (fun _ => Demands.pure trivial)
  intro _ w'' _ _
  refine Demands.ite (fun _ => Demands.raise (plain_append (plain_action action) _)) (fun _ => ?_)
  exact Demands.step (exec_nextTick w'') (.of_client rfl) (demands_pollUntil action _ _ data)

/-- Asking for the canonical digest leaves the client alone, however it ends. -/
theorem wp_readCanonicalDigest :
    wp (readCanonicalDigest env) (fun _ w' => w'.client = w.client)
      (fun _ w' => w'.client = w.client) w := by
  have hhttp : ∀ r, wp (http env r) (fun _ w' => w'.client = w.client)
      (fun _ w' => w'.client = w.client) w := by
    intro r
    unfold wp
    rw [exec_http]
    cases env.answer w.tick r <;> rfl
  refine wp_bind.mpr ?_
  show wp (http env _ >>= _) _ _ w
  refine wp_bind.mpr (wp_mono (hhttp _) ?_ (fun _ _ h => h))
  intro resp w' hclient
  by_cases hs : 400 ≤ resp.statusCode
  · rw [if_pos hs]
    exact hclient
  rw [if_neg hs]
  refine wp_bind.mpr ?_
  cases jsonObject resp with
  | error e => exact hclient
  | ok data =>
    show wp (if isFalse (Dict.get data "ok") = true then _ else _) _ _ w'
    by_cases hok : isFalse (Dict.get data "ok") = true
    · rw [if_pos hok]
      exact hclient
    · rw [if_neg hok]
      exact hclient

theorem demands_currentCanonicalDigest :
    Demands (currentCanonicalDigest env) (fun _ w' => w'.client = w.client) w := by
  refine ⟨traced_tryCatch (@SameTables.trans) (F := fun _ w' => w'.client = w.client)
    (wp_mono wp_readCanonicalDigest (fun _ _ h => ⟨.of_client h, h⟩)
      (fun _ _ h => ⟨.of_client h, h⟩)) ?_⟩
  intro e w' _ hclient
  cases e with
  | governed m => exact (Demands.pure hclient).traced
  | fault f =>
    cases f with
    | raised t => exact (Demands.pure hclient).traced
    | killed => exact Demands.fault.traced

end Answers

/-! ## What is at hand -/

/-- The three operations every document must offer. -/
def Supplied (w : World) : Prop :=
  ∀ name ∈ ["repo.register", "context.compile", "governed.realize"],
    (w.client.operations.lookup name).isSome = true

/-- A gap id is given by the operator, the environment or the document, or the document
    says how to look one up. -/
def GapKnown (env : Env) (w : World) : Prop :=
  w.client.operatorGapId ≠ "" ∨ strip env.gapOverride ≠ ""
    ∨ gapIdFromCapabilities w.client.capabilities ≠ ""
    ∨ gapDiscoveryOperation w.client.capabilities ≠ none

/-- What claiming asks for. -/
structure Claimable (env : Env) (w : World) : Prop where
  gap : GapKnown env w
  claim : (w.client.operations.lookup "gaps.claim").isSome = true

theorem Supplied.of_same (h : Supplied w) (hs : SameTables w w') : Supplied w' := by
  unfold Supplied
  rw [hs.operations]
  exact h

theorem GapKnown.of_same (h : GapKnown env w) (hs : SameTables w w') :
    GapKnown env w' := by
  unfold GapKnown
  rw [hs.operator, hs.capabilities]
  exact h

theorem Claimable.of_same (h : Claimable env w) (hs : SameTables w w') : Claimable env w' :=
  ⟨h.gap.of_same hs, by rw [hs.operations]; exact h.claim⟩

section Methods

variable {env : Env} {w : World}

theorem demands_requireOperation {name : String}
    (h : (w.client.operations.lookup name).isSome = true) :
    Demands (requireOperation name) (fun _ w' => w' = w) w := by
  refine Demands.getClient ?_
  cases hl : w.client.operations.lookup name with
  | some op => exact Demands.pure rfl
  | none =>
    rw [hl] at h
    exact nomatch h

/-- A table with an operation in it is not discovered again. -/
theorem demands_ensureDiscovered (h : Supplied w) :
    Demands (ensureDiscovered env) (fun _ w' => w' = w) w := by
  refine Demands.getClient ?_
  have hsome := h "repo.register" List.mem_cons_self
  cases ho : w.client.operations with
  | nil =>
    rw [ho] at hsome
    exact nomatch hsome
  | cons entry rest => exact Demands.pure rfl

/-! ### The gap -/

/-- Joined texts begin with the first of them. -/
theorem plain_join {first : String} (h : plain first = true) (sep : String) :
    ∀ rest, plain (join sep (first :: rest)) = true
  | [] => h
  | _ :: _ => plain_append (plain_append h _) _

theorem plain_noClaimable (gap : Dict) : plain (noClaimableGapMessage gap) = true := by
  unfold noClaimableGapMessage
  simp only [List.cons_append, List.nil_append]
  exact plain_join (by simp [plain]) " " _

theorem plain_selectGapId {query : GapQuery}
    (h : selectGapId data query = .error message) : plain message = true := by
  unfold selectGapId at h
  simp only at h
  split at h
  · exact nomatch h
  · split at h
    · rw [← Except.error.inj h]
      exact plain_noClaimable _
    · split at h
      · exact nomatch h
      · rw [← Except.error.inj h]
        simp [plain]

theorem demands_runGapDiscovery (op : BoundaryOperation) (params : Dict) :
    Demands (runGapDiscovery env op params) (fun _ _ => True) w := by
  refine Demands.getClient (Demands.bind (demands_headers _) ?_)
  intro hs w₁ _ _
  refine Demands.bind (demands_submit _ _) ?_
  intro data w₂ _ _
  cases hselect : selectGapId data (gapQuery env w.client) with
  | ok gapId => exact Demands.pure trivial
  | error message => exact Demands.raise (plain_selectGapId hselect)

theorem demands_discoverWithoutStory (op : BoundaryOperation) (params : Dict)
    {earlier : Option String} (hearlier : ∀ message, earlier = some message → plain message = true) :
    Demands (discoverWithoutStory env op params earlier) (fun _ _ => True) w := by
  refine Demands.bind (demands_runGapDiscovery _ _).caught ?_
  intro result w₁ _ hresult
  cases result with
  | ok gapId => exact Demands.pure trivial
  | error message =>
    cases earlier with
    | none => exact Demands.raise (hresult message rfl)
    | some first => exact Demands.raise (hearlier first rfl)

theorem demands_discoverGapId (h : gapDiscoveryOperation w.client.capabilities ≠ none) :
    Demands (discoverGapId env) (fun _ _ => True) w := by
  refine Demands.getClient ?_
  cases hop : gapDiscoveryOperation w.client.capabilities with
  | none => exact absurd hop h
  | some op =>
    refine Demands.bind (demands_runGapDiscovery _ _).caught ?_
    intro result w₁ _ hresult
    cases result with
    | error message =>
      refine Demands.ite (fun _ => Demands.raise (hresult message rfl)) (fun _ => ?_)
      exact demands_discoverWithoutStory _ _ (fun m hm => Option.some.inj hm ▸ hresult message rfl)
    | ok gapId =>
      refine Demands.ite (fun _ => Demands.pure trivial) (fun _ => ?_)
      refine Demands.ite (fun _ => ?_) (fun _ => Demands.pure trivial)
      exact demands_discoverWithoutStory _ _ nofun

/-- Setting the resolved gap keeps the tables. -/
theorem demands_setGap (gapId source : String) :
    Demands (setGap gapId source) (fun _ _ => True) w :=
  (demands_modifyClient _ rfl rfl rfl).mono (fun _ _ _ _ => trivial)

theorem demands_resolveListedGapId (h : gapDiscoveryOperation w.client.capabilities ≠ none) :
    Demands (resolveListedGapId env) (fun _ _ => True) w := by
  refine Demands.bind (demands_discoverGapId h) ?_
  intro discovered w₁ _ _
  refine Demands.ite (fun _ => ?_) (fun _ => ?_)
  · exact Demands.bind (demands_setGap _ _) (fun _ _ _ _ => Demands.pure trivial)
  · exact Demands.getClient (Demands.raise (plain_append (plain_append (by simp [plain]) _) _))

theorem demands_resolveGapIdBase (h : strip env.gapOverride ≠ ""
      ∨ gapIdFromCapabilities w.client.capabilities ≠ ""
      ∨ gapDiscoveryOperation w.client.capabilities ≠ none) :
    Demands (resolveGapIdBase env) (fun _ _ => True) w := by
  refine Demands.getClient (Demands.ite (fun _ => Demands.pure trivial) (fun _ => ?_))
  refine Demands.ite (fun _ => ?_) (fun hoverride => ?_)
  · refine Demands.ite (fun _ => ?_) (fun _ => Demands.raise (by simp [plain]))
    exact Demands.bind (demands_setGap _ _) (fun _ _ _ _ => Demands.pure trivial)
  refine Demands.ite (fun _ => ?_) (fun hexplicit => ?_)
  · exact Demands.bind (demands_setGap _ _) (fun _ _ _ _ => Demands.pure trivial)
  · exact demands_resolveListedGapId ((h.resolve_left hoverride).resolve_left hexplicit)

theorem demands_resolveGapId (h : GapKnown env w) :
    Demands (resolveGapId env) (fun _ _ => True) w := by
  refine Demands.getClient (Demands.ite (fun _ => ?_) (fun hoperator => ?_))
  · refine Demands.ite (fun _ => ?_) (fun _ => Demands.raise (by simp [plain]))
    refine Demands.bind (demands_setGap _ _) ?_
    intro _ w₁ _ _
    exact Demands.bind (demands_modifyClient _ rfl rfl rfl) (fun _ _ _ _ => Demands.pure trivial)
  · refine Demands.bind (demands_resolveGapIdBase (h.resolve_left hoperator)).caught ?_
    intro result w₁ _ hresult
    cases result with
    | ok gapId =>
      exact Demands.bind (demands_modifyClient _ rfl rfl rfl)
        (fun _ _ _ _ => Demands.pure trivial)
    | error message =>
      exact Demands.raise (plain_append (plain_append (hresult message rfl) _) _)

theorem demands_refreshCachedGapClaimability (h : GapKnown env w) :
    Demands (refreshCachedGapClaimability env) (fun _ _ => True) w := by
  refine Demands.getClient (Demands.ite (fun _ => Demands.pure trivial) (fun _ => ?_))
  refine Demands.ite (fun _ => Demands.pure trivial) (fun _ => ?_)
  refine Demands.bind (demands_modifyClient _ rfl rfl rfl) ?_
  intro _ w₁ hs₁ _
  refine Demands.bind (demands_resolveGapId (h.of_same hs₁)).caught ?_
  intro result w₂ _ hresult
  cases result with
  | error message =>
    refine Demands.bind (demands_modifyClient _ rfl rfl rfl) ?_
    intro _ w₃ _ _
    exact Demands.bind (demands_persistState _)
      (fun _ _ _ _ => Demands.raise (hresult message rfl))
  | ok live =>
    refine Demands.ite (fun _ => ?_) (fun _ => Demands.pure trivial)
    exact Demands.getClient (demands_persistState _)

/-! ### The claim -/

theorem demands_compilePreclaimContext (h : Supplied w) :
    Demands (compilePreclaimContext env) (fun _ _ => True) w := by
  have hcompile := h "context.compile" (List.mem_cons_of_mem _ List.mem_cons_self)
  refine Demands.bind (demands_requireOperation hcompile) ?_
  rintro op _ - rfl
  refine Demands.getClient (Demands.bind (demands_headers _) ?_)
  intro hs w₁ _ _
  refine Demands.bind (demands_submit _ _) ?_
  intro data w₂ _ _
  exact Demands.ite (fun _ => Demands.raise (by simp [plain])) (fun _ => Demands.pure trivial)

theorem demands_claimContextDigest (h : Supplied w) :
    Demands (claimContextDigest env) (fun _ _ => True) w := by
  refine Demands.bind demands_currentCanonicalDigest ?_
  intro canonical w₁ hs₁ _
  exact Demands.ite (fun _ => demands_compilePreclaimContext (h.of_same hs₁))
    (fun _ => Demands.pure trivial)

theorem plain_repoGitMetadata (h : repoGitMetadata content = .error e) : PlainErr e := by
  unfold repoGitMetadata at h
  cases hm : missingGitFields content with
  | nil =>
    rw [hm] at h
    exact nomatch h
  | cons name rest =>
    rw [hm] at h
    rw [← Except.error.inj h]
    exact plain_append (by simp [plain]) _

theorem plain_claimOf {gapId source digest : String}
    (h : claimOf data gapId source digest = .error e) : PlainErr e := by
  unfold claimOf at h
  by_cases hid : extractClaimId data = "" ∧ extractClaimRef data = ""
  · rw [if_pos hid] at h
    rw [← Except.error.inj h]
    simp [PlainErr, plain]
  · rw [if_neg hid] at h
    exact nomatch h

theorem demands_claimGap (h : Supplied w) (hclaim : Claimable env w) :
    Demands (claimGap env) (fun _ _ => True) w := by
  refine Demands.bind (demands_refreshCachedGapClaimability hclaim.gap) ?_
  intro _ w₁ hs₁ _
  have h₁ := h.of_same hs₁
  have hclaim₁ := hclaim.of_same hs₁
  refine Demands.bind (demands_ensureDiscovered h₁) ?_
  rintro _ _ - rfl
  refine Demands.bind (demands_requireOperation hclaim₁.claim) ?_
  rintro op _ - rfl
  refine Demands.bind demands_readRepo ?_
  intro content w₂ hs₂ _
  refine Demands.bind (Demands.ofExcept (Q := fun _ _ => True) (fun _ _ => trivial)
    (fun _ h => plain_repoGitMetadata h)) ?_
  intro _ w₃ hs₃ _
  have hs₁₃ := hs₂.trans hs₃
  refine Demands.bind (demands_claimContextDigest (h₁.of_same hs₁₃)) ?_
  intro digest w₄ hs₄ _
  refine Demands.bind (demands_resolveGapId (hclaim₁.gap.of_same (hs₁₃.trans hs₄))) ?_
  intro gapId w₅ _ _
  refine Demands.getClient (Demands.bind (demands_headers _) ?_)
  intro hs w₆ _ _
  refine Demands.bind (demands_submit _ _) ?_
  intro data w₇ _ _
  exact Demands.getClient (Demands.ofExcept (fun _ _ => trivial) (fun _ h => plain_claimOf h))

/-! ### The registration -/

theorem plain_loadYaml {file : Option RepoFile} (h : loadYaml file = .error e) :
    PlainErr e := by
  unfold loadYaml at h
  cases file with
  | none => exact nomatch h
  | some file =>
    cases hy : file.yaml with
    | some data =>
      simp only [hy] at h
      exact nomatch h
    | none =>
      simp only [hy] at h
      rw [← Except.error.inj h]
      trivial

/-- An error of a sequence of readers is one of the first reader or of the rest. -/
theorem plain_bind {α β : Type} {x : Except Err α} {f : α → Except Err β}
    (hx : ∀ e, x = .error e → PlainErr e) (hf : ∀ a e, f a = .error e → PlainErr e) (e : Err)
    (h : (x >>= f) = .error e) : PlainErr e := by
  cases x with
  | error e' =>
    obtain rfl : e' = e := Except.error.inj h
    exact hx _ rfl
  | ok a => exact hf a e h

theorem plain_readRepoDeclaration {repoName storyId capabilityId
    repoClass : String}
    (h : readRepoDeclaration content repoName storyId capabilityId repoClass = .error e) :
    PlainErr e := by
  unfold readRepoDeclaration at h
  cases hm : content.missingFiles with
  | cons name rest =>
    rw [hm] at h
    rw [← Except.error.inj h]
    exact plain_append (by simp [plain]) _
  | nil =>
    rw [hm] at h
    refine plain_bind (fun _ h => plain_loadYaml h) (fun keyhole => ?_) e h
    refine plain_bind (fun _ h => plain_loadYaml h) (fun contract => ?_)
    refine plain_bind (fun _ h => plain_loadYaml h) (fun passport => ?_)
    refine plain_bind (fun _ h => plain_loadYaml h) (fun dependencies => ?_)
    refine plain_bind (fun _ h => plain_repoGitMetadata h) (fun _ e h => ?_)
    by_cases hcap : deriveCapability contract passport capabilityId = ""
    · simp only [if_pos hcap] at h
      rw [← Except.error.inj h]
      simp [PlainErr, plain]
    · by_cases hclass : deriveRepoClass keyhole repoClass = ""
      · simp only [if_neg hcap, if_pos hclass] at h
        rw [← Except.error.inj h]
        simp [PlainErr, plain]
      · simp only [if_neg hcap, if_neg hclass] at h
        exact nomatch h

theorem demands_currentDeclaration :
    Demands (currentDeclaration env) (fun _ _ => True) w := by
  refine Demands.getClient ?_
  cases w.client.repoDeclaration with
  | some declaration => exact Demands.pure trivial
  | none =>
    exact Demands.bind demands_readRepo (fun _ _ _ _ => Demands.ofExcept (fun _ _ => trivial)
      (fun _ h => plain_readRepoDeclaration h))

theorem demands_legacyPathDigest (op : BoundaryOperation) :
    Demands (legacyPathDigest env op) (fun _ _ => True) w :=
  Demands.ite
    (fun _ => Demands.bind demands_readRepo (fun _ _ _ _ => Demands.pure trivial))
    (fun _ => Demands.pure trivial)

/-- Registering claims a gap of its own only where the state holds no claim. -/
theorem demands_registrationClaim (h : Supplied w)
    (hclaim : w.live.claimed ∨ Claimable env w) :
    Demands (registrationClaim env) (fun _ _ => True) w := by
  have hactive : Demands (activeClaim env) (fun _ _ => True) w := by
    refine Demands.getClient (Demands.ite (fun hnone => ?_) (fun _ => Demands.pure trivial))
    have hunclaimed : ¬ w.live.claimed := fun hheld =>
      hheld.elim (fun hid => hid hnone.1) (fun href => href hnone.2.1)
    exact demands_claimGap h (hclaim.resolve_left hunclaimed)
  refine Demands.bind hactive ?_
  intro claim w₁ _ _
  refine Demands.ite (fun _ => ?_) (fun _ => Demands.pure trivial)
  exact Demands.bind demands_currentCanonicalDigest (fun _ _ _ _ => Demands.pure trivial)

theorem plain_registrationOf {claim : Claim}
    (h : registrationOf data claim = .error e) : PlainErr e := by
  unfold registrationOf at h
  by_cases hid : extractRegistrationId data = ""
  · rw [if_pos hid] at h
    rw [← Except.error.inj h]
    simp [PlainErr, plain]
  · rw [if_neg hid] at h
    exact nomatch h

theorem demands_registerRepo (h : Supplied w) (hclaim : w.live.claimed ∨ Claimable env w) :
    Demands (registerRepo env) (fun _ _ => True) w := by
  refine Demands.bind (demands_ensureDiscovered h) ?_
  rintro _ _ - rfl
  refine Demands.bind (demands_requireOperation (h "repo.register" List.mem_cons_self)) ?_
  rintro op _ - rfl
  refine Demands.bind (demands_registrationClaim h hclaim) ?_
  intro claim w₁ _ _
  refine Demands.bind demands_currentDeclaration ?_
  intro declaration w₂ _ _
  refine Demands.bind (demands_legacyPathDigest op) ?_
  intro digest w₃ _ _
  refine Demands.getClient (Demands.bind (demands_headers _) ?_)
  intro hs w₄ _ _
  refine Demands.bind (demands_submit _ _) ?_
  intro data w₅ _ _
  refine Demands.bind (Demands.ofExcept (Q := fun _ _ => True) (fun _ _ => trivial)
    (fun _ h => plain_registrationOf h)) ?_
  intro registration w₆ _ _
  exact Demands.bind (demands_writeDemoState _ _) (fun _ _ _ _ => Demands.pure trivial)

/-! ### The context -/

theorem plain_contextOf (h : contextOf data = .error e) :
    PlainErr e := by
  unfold contextOf at h
  by_cases hid : extractContextId data = ""
  · simp only [if_pos hid] at h
    rw [← Except.error.inj h]
    simp [PlainErr, plain]
  · simp only [if_neg hid] at h
    exact nomatch h

theorem demands_compileContext (h : Supplied w) :
    Demands (compileContext env) (fun _ _ => True) w := by
  have hcompile := h "context.compile" (List.mem_cons_of_mem _ List.mem_cons_self)
  refine Demands.bind (demands_ensureDiscovered h) ?_
  rintro _ _ - rfl
  refine Demands.bind (demands_requireOperation hcompile) ?_
  rintro op _ - rfl
  have hid : ∀ v, Demands (compileRegistrationId env) (fun _ _ => True) v := fun v =>
    Demands.getClient (Demands.ite
      (fun _ => Demands.bind (demands_readDemoState _) (fun _ _ _ _ => Demands.pure trivial))
      (fun _ => Demands.pure trivial))
  refine Demands.getClient (Demands.bind (hid _) ?_)
  intro registrationId w₁ _ _
  refine Demands.bind demands_currentCanonicalDigest ?_
  intro canonical w₂ _ _
  refine Demands.bind (demands_headers _) ?_
  intro hs w₃ _ _
  refine Demands.bind (demands_submit _ _) ?_
  intro data w₄ _ _
  refine Demands.bind (Demands.ofExcept (Q := fun _ _ => True) (fun _ _ => trivial)
    (fun _ h => plain_contextOf h)) ?_
  intro context w₅ _ _
  exact Demands.bind (demands_writeDemoState _ _) (fun _ _ _ _ => Demands.pure trivial)

/-! ### The realization -/

theorem plain_declaredInvariantGate {capability : String}
    (h : declaredInvariantGate content capability = .error e) : PlainErr e := by
  unfold declaredInvariantGate at h
  refine plain_bind (fun _ h => plain_loadYaml h) (fun contract e h => ?_) e h
  by_cases hcap : capability = ""
  · simp only [if_pos hcap] at h
    exact nomatch h
  · simp only [if_neg hcap] at h
    refine plain_bind (fun _ h => plain_loadYaml h) (fun passport e h => ?_) e h
    cases hw : wantedInvariants capability (asList (Dict.get passport "capabilities")) with
    | some wanted =>
      simp only [hw] at h
      exact nomatch h
    | none =>
      simp only [hw] at h
      rw [← Except.error.inj h]
      trivial

theorem plain_runLocalInvariant {repoDir capability : String}
    (h : runLocalInvariant content repoDir capability = .error e) : PlainErr e := by
  unfold runLocalInvariant at h
  refine plain_bind (fun _ h => plain_declaredInvariantGate h) (fun gate e h => ?_) e h
  cases hg : content.gate gate with
  | missing =>
    simp only [hg] at h
    rw [← Except.error.inj h]
    exact plain_append (plain_append (plain_append (by simp [plain]) _) _) _
  | notLoadable =>
    simp only [hg] at h
    rw [← Except.error.inj h]
    simp [PlainErr, plain]
  | raised text =>
    simp only [hg] at h
    rw [← Except.error.inj h]
    trivial
  | ran result =>
    simp only [hg] at h
    by_cases haccept : isStr "ACCEPT" (Dict.get result "verdict") = true
    · rw [if_pos haccept] at h
      exact nomatch h
    · rw [if_neg haccept] at h
      rw [← Except.error.inj h]
      simp [PlainErr, plain]

theorem plain_validateGovernedReceipt {receipt : GovernanceReceipt}
    (h : validateGovernedReceipt receipt = some message) : plain message = true := by
  unfold validateGovernedReceipt at h
  repeat' split at h
  all_goals first
    | (rw [← Option.some.inj h]; simp [plain])
    | exact nomatch h

theorem plain_validReceipt {now candidate : String}
    (h : validReceipt env now data candidate = .error e) : PlainErr e := by
  unfold validReceipt at h
  simp only at h
  cases ht : env.parseTime (normalizeGovernanceReceipt data candidate now).realizedAt with
  | none =>
    simp only [ht] at h
    rw [← Except.error.inj h]
    trivial
  | some time =>
    simp only [ht] at h
    cases hv : validateGovernedReceipt (stampedReceipt
        (normalizeGovernanceReceipt data candidate now) time) with
    | none =>
      simp only [hv] at h
      exact nomatch h
    | some message =>
      simp only [hv] at h
      rw [← Except.error.inj h]
      exact plain_validateGovernedReceipt hv

theorem demands_receiptOf (data : Dict) (candidate : String) :
    Demands (receiptOf env data candidate) (fun _ w' => w'.client = w.client) w :=
  Demands.step (exec_nextTick w) (.of_client rfl)
    (Demands.ofExcept (fun _ _ => rfl) (fun _ h => plain_validReceipt h))

theorem demands_realizationRef (contextId : String) (context : Dict) :
    Demands (realizationRef env contextId context) (fun _ _ => True) w := by
  refine Demands.getClient (Demands.ite (fun _ => Demands.pure trivial) (fun _ => ?_))
  refine Demands.bind (P := fun _ _ => True) ?_ (fun _ _ _ _ => Demands.pure trivial)
  refine Demands.ite (fun _ => ?_) (fun _ => Demands.pure trivial)
  refine Demands.bind (demands_readDemoState _).caught ?_
  intro result w₁ _ _
  cases result with
  | ok d => exact Demands.pure trivial
  | error message => exact Demands.pure trivial

theorem demands_runGovernedRealization (h : Supplied w) :
    Demands (runGovernedRealization env) (fun _ _ => True) w := by
  have hrealize := h "governed.realize"
    (List.mem_cons_of_mem _ (List.mem_cons_of_mem _ List.mem_cons_self))
  refine Demands.bind (demands_ensureDiscovered h) ?_
  rintro _ _ - rfl
  have hcontext : ∀ v, Demands (realizationContext env) (fun _ _ => True) v := fun v =>
    Demands.getClient (Demands.ite
      (fun _ => Demands.bind (demands_readDemoState _) (fun _ _ _ _ => Demands.pure trivial))
      (fun _ => Demands.pure trivial))
  refine Demands.bind (hcontext _) ?_
  rintro ⟨contextId, context⟩ w₁ hs₁ -
  refine Demands.bind (demands_realizationRef contextId context) ?_
  intro contextRef w₂ hs₂ _
  refine Demands.bind demands_readRepo ?_
  intro content w₃ hs₃ _
  refine Demands.getClient (Demands.bind (Demands.ofExcept (Q := fun _ _ => True)
    (fun _ _ => trivial) (fun _ h => plain_runLocalInvariant h)) ?_)
  intro invariant w₄ hs₄ _
  refine Demands.bind (demands_persistState _) ?_
  intro _ w₅ hs₅ _
  have hs := ((hs₁.trans hs₂).trans (hs₃.trans hs₄)).trans hs₅
  refine Demands.bind (demands_requireOperation (by rw [hs.operations]; exact hrealize)) ?_
  rintro op _ - rfl
  have hrequest : ∀ params v,
      Demands (realizationRequest env op params contextRef) (fun _ _ => True) v := fun params v =>
    Demands.getClient (Demands.ite (fun _ => Demands.pure trivial)
      (fun _ => Demands.bind (demands_headers _) (fun _ _ _ _ => Demands.pure trivial)))
  refine Demands.bind (hrequest _ _) ?_
  intro request w₆ _ _
  refine Demands.bind (demands_submit _ _) ?_
  intro data w₇ _ _
  refine Demands.bind (demands_receiptOf _ _) ?_
  intro receipt w₈ _ _
  exact Demands.bind (demands_writeDemoState _ _) (fun _ _ _ _ => Demands.pure trivial)

/-! ### The stages -/

/-- Resolving a gap drops no claim. -/
theorem demands_gapStage (hgap : w.live.gap = "" → GapKnown env w) :
    Demands (gapStage env) (fun _ w' => w.live.claimed → w'.live.claimed) w := by
  have hstage : Demands (gapStage env) (fun _ _ => True) w := by
    refine Demands.getClient (Demands.ite (fun _ => Demands.pure trivial) (fun hset => ?_))
    rw [truthy_gap, decide_eq_true_iff] at hset
    refine Demands.bind (demands_resolveGapId (hgap (not_not.mp hset))).caught ?_
    intro result w₁ _ hresult
    cases result with
    | error message =>
      exact Demands.bind (demands_persistState _)
        (fun _ _ _ _ => Demands.raise (hresult message rfl))
    | ok gapId => exact Demands.getClient (demands_persistState _)
  have hentered : Entered Lingering.always w := fun _ => .inr (.inl trivial)
  exact (hstage.follows (follows_gapStage hentered)).mono
    (fun _ _ _ h hheld => h.2.1.frame.claimed (by decide) hheld)

theorem demands_claimStage (h : Supplied w) (hclaim : ¬ w.live.claimed → Claimable env w) :
    Demands (claimStage env) (fun _ w' => w.live.claimed → w' = w) w := by
  refine Demands.getClient (Demands.ite (fun _ => Demands.pure fun _ => rfl) (fun hset => ?_))
  rw [truthy_claim, decide_eq_true_iff] at hset
  have hunclaimed : ¬ w.live.claimed := hset
  refine Demands.bind (demands_claimGap h (hclaim hunclaimed)) ?_
  intro claim w₁ _ _
  exact (demands_persistState _).mono (fun _ _ _ _ hheld => absurd hheld hunclaimed)

/-- With the operations it asks for at hand, the flow raises plain errors only. -/
theorem demands_stages (h : Supplied w)
    (hgap : w.live.gap = "" ∨ ¬ w.live.claimed → GapKnown env w)
    (hclaim : ¬ w.live.claimed → (w.client.operations.lookup "gaps.claim").isSome = true) :
    Demands (stages env) (fun _ _ => True) w := by
  refine Demands.bind (demands_gapStage fun hnone => hgap (.inl hnone)) ?_
  intro _ w₁ hs₁ hkept₁
  have hclaimable : ¬ w.live.claimed → Claimable env w := fun hnot =>
    ⟨hgap (.inr hnot), hclaim hnot⟩
  refine Demands.bind (demands_claimStage (h.of_same hs₁) fun hnot =>
    (hclaimable (fun hheld => hnot (hkept₁ hheld))).of_same hs₁) ?_
  intro _ w₂ hs₂ hkept₂
  have hs := hs₁.trans hs₂
  have hready : w₂.live.claimed ∨ Claimable env w₂ := by
    by_cases hheld : w.live.claimed
    · rw [hkept₂ (hkept₁ hheld)]
      exact .inl (hkept₁ hheld)
    · exact .inr ((hclaimable hheld).of_same hs)
  have hregister : Demands (registrationStage env) (fun _ _ => True) w₂ := by
    refine Demands.getClient (Demands.ite (fun _ => Demands.pure trivial) (fun _ => ?_))
    exact Demands.bind (demands_registerRepo (h.of_same hs) hready)
      (fun _ _ _ _ => demands_persistState _)
  refine Demands.bind hregister ?_
  intro _ w₃ hs₃ _
  have hcompile : Demands (compileStage env) (fun _ _ => True) w₃ := by
    refine Demands.getClient (Demands.ite (fun _ => Demands.pure trivial) (fun _ => ?_))
    exact Demands.bind (demands_compileContext (h.of_same (hs.trans hs₃)))
      (fun _ _ _ _ => demands_persistState _)
  refine Demands.bind hcompile ?_
  intro _ w₄ hs₄ _
  refine Demands.getClient (Demands.ite (fun _ => Demands.pure trivial) (fun _ => ?_))
  exact Demands.bind (demands_runGovernedRealization (h.of_same ((hs.trans hs₃).trans hs₄)))
    (fun _ _ _ _ => demands_persistState _)

end Methods

end KeyholeFlow
