import Keyhole.FlowResume

/-!
# Runs of the flow

A run is any sequence of commands and of processes: a command may end in an
exception or die at any effect, a client object may be used again or be replaced by
that of a new process, and the environment may change from one command to the next.
An invariant of runs is proved for one protocol step, under a condition on what was
heard so far. -/

namespace KeyholeFlow

open EffectProgram

/-- The world a command leaves, at its end or where it stopped. -/
def Command.after (command : Command) (env : Env) (w : World) : World :=
  (exec (command.flow env) w).2

/-- One link of a run. -/
inductive Call : World → World → Prop where
  | command (env : Env) (command : Command) (w : World) : Call w (command.after env w)
  /-- a new process -/
  | process (config : Config) (client : Client) (h : Client.init config = .ok client)
      (w : World) : Call w { w with client := client }

/-- Any number of links. -/
def Run : World → World → Prop := Relation.ReflTransGen Call

/-- A world no run has touched: nothing was sent and no state can be loaded. -/
structure Initial (w : World) : Prop where
  log : w.log = []
  disk : w.disk = none
  client : w.client.currentState = .empty

theorem init_currentState {config : Config} {client : Client}
    (h : Client.init config = .ok client) : client.currentState = .empty := by
  unfold Client.init at h
  by_cases hurl : config.mcpUrl = ""
  · rw [if_pos hurl] at h
    exact nomatch h
  · by_cases htoken : config.token = ""
    · rw [if_neg hurl, if_pos htoken] at h
      exact nomatch h
    · rw [if_neg hurl, if_neg htoken] at h
      cases h
      rfl

/-- The event and what came before it satisfy `P`, at every place of the log. -/
def Throughout (P : Event → List Event → Prop) : List Event → Prop
  | [] => True
  | e :: older => P e older ∧ Throughout P older

theorem Throughout.at {P : Event → List Event → Prop} {newer older : List Event} {e : Event}
    (h : Throughout P (newer ++ e :: older)) : P e older := by
  induction newer with
  | nil => exact h.1
  | cons x newer ih => exact ih h.2

/-- The event is a request from this place. -/
def sentFrom (site : Site) : Event → Bool
  | .sent _ r => decide (r.site = site)
  | _ => false

variable {log : List Event} {r : Request} {record : String} {site : Site} {w w' : World}

theorem any_sent_of_mem
    (h : .sent record r ∈ log) (hsite : r.site = site) : log.any (sentFrom site) = true :=
  List.any_eq_true.mpr ⟨_, h, decide_eq_true hsite⟩

/-- The actions are told apart by the names of their steps. -/
theorem stateStep_injective {a b : Action} (h : stateStep a = stateStep b) : a = b := by
  cases a <;> cases b <;> first | rfl | exact absurd h (by decide)

/-- The action whose request a place sends. -/
def Site.action : Site → Option Action
  | .submit action => some action
  | _ => none

/-- The action an event of the log requests. -/
def Event.action : Event → Option Action
  | .sent _ r => r.site.action
  | _ => none

/-- The actions that were requested, the last one first. -/
def submitted (log : List Event) : List Action := log.filterMap Event.action

@[simp] theorem submitted_nil : submitted [] = [] := rfl

@[simp] theorem submitted_received (r : Request) (resp : Response) (log : List Event) :
    submitted (.received r resp :: log) = submitted log := rfl

@[simp] theorem submitted_persisted (record : RunRecord) (log : List Event) :
    submitted (.persisted record :: log) = submitted log := rfl

theorem submitted_append (newer log : List Event) :
    submitted (newer ++ log) = submitted newer ++ submitted log :=
  List.filterMap_append

theorem submitted_sent {action : Action} (h : r.site.action = some action) :
    submitted (.sent record r :: log) = action :: submitted log :=
  List.filterMap_cons_some h

theorem submitted_asked
    (h : r.site.action = none) : submitted (.sent record r :: log) = submitted log :=
  List.filterMap_cons_none h

theorem site_of_action {action : Action} (h : site.action = some action) :
    site = .submit action := by
  cases site with
  | submit requested => exact congrArg Site.submit (Option.some.inj h)
  | _ => exact nomatch h

theorem mem_submitted {action : Action}
    (hmem : .sent record r ∈ log) (hsite : r.site = .submit action) : action ∈ submitted log :=
  List.mem_filterMap.mpr ⟨_, hmem, by rw [Event.action, hsite]; rfl⟩

/-- What the progress forbids, and goes on forbidding, is not requested on a path of the
    stages. -/
theorem Path.withheld {env : Env} {L : Lingering} (K : Progress → Prop)
    (bad : Action → Prop) (hkeep : ∀ p q, Frame 5 p q → K p → K q)
    (hdeny : ∀ v r action, K v.live → Licensed v r → r.site = .submit action → ¬ bad action)
    (h : Path env L 5 w w') (hw : K w.live) (hlog : ∀ action ∈ submitted w.log, ¬ bad action) :
    ∀ action ∈ submitted w'.log, ¬ bad action := by
  refine (Path.invariant (I := fun v => K v.live ∧ ∀ action ∈ submitted v.log, ¬ bad action)
    ?_ h ⟨hw, hlog⟩).2
  rintro k v v' hk hs ⟨hlive, hnone⟩
  refine ⟨hkeep _ _ (hs.frame.mono hk) hlive, ?_⟩
  cases hs with
  | silent heq | named _ _ heq | opened heq =>
    rw [heq]
    exact hnone
  | received r resp _ _ heq =>
    rw [heq]
    exact hnone
  | persisted _ _ s _ _ _ heq =>
    rw [heq]
    exact hnone
  | sent r licence heq =>
    rw [heq]
    intro action hmem
    cases hsite : r.site.action with
    | some requested =>
      rw [submitted_sent hsite] at hmem
      rcases List.mem_cons.mp hmem with rfl | hold
      · exact hdeny v r _ hlive licence (site_of_action hsite)
      · exact hnone action hold
    | none =>
      rw [submitted_asked hsite] at hmem
      exact hnone action hmem

/-- Nothing was heard from a poll or from gap discovery. -/
def unpolled : Event → Bool
  | .received r _ =>
      match r.site with
      | .runPoll _ | .savedRunPoll _ _ | .submit .gapDiscovery => false
      | _ => true
  | _ => true

theorem site_of_unpolled (h : log.all unpolled = true)
    {resp : Response} (hmem : .received r resp ∈ log) :
    (∀ action, r.site ≠ .runPoll action) ∧ (∀ step last, r.site ≠ .savedRunPoll step last) ∧
      r.site ≠ .submit .gapDiscovery := by
  have he : unpolled (.received r resp) = true := List.all_eq_true.mp h _ hmem
  refine ⟨fun action hs => ?_, fun step last hs => ?_, fun hs => ?_⟩ <;>
    rw [unpolled, hs] at he <;> exact nomatch he

/-- A condition on what was heard that holds of every earlier log as well. -/
def Hereditary (K : List Event → Prop) : Prop := ∀ newer log, K (newer ++ log) → K log

/-- Whatever every step preserves under the condition, a path preserves. -/
theorem Path.invariant_under {env : Env} {L : Lingering} {n : Nat}
    {K : List Event → Prop} (hK : Hereditary K) {I : World → Prop}
    (step : ∀ k w w', Step env L k w w' → K w'.log → I w → I w') (h : Path env L n w w')
    (hw' : K w'.log) (hw : I w) : I w' := by
  refine Path.invariant (I := fun v => K v.log → I v) ?_ h (fun _ => hw) hw'
  intro k v v' _ hs ih hv'
  obtain ⟨newer, hlog⟩ := hs.extends
  have hv : K v.log := by
    rw [hlog] at hv'
    exact hK newer v.log hv'
  exact step k v v' hs hv' (ih hv)

theorem Call.extends (h : Call w w') : ∃ newer, w'.log = newer ++ w.log := by
  cases h with
  | command env command =>
    exact (traced_final (follows_flow (L := .always) command
      (fun _ _ _ _ => .inr (.inl trivial)))).extends
  | process => exact ⟨[], rfl⟩

/-- The induction over a run: an invariant that a command preserves under the
    condition, and that a new client does not disturb. -/
theorem Run.invariant_under {K : List Event → Prop} (hK : Hereditary K) {I : World → Prop}
    (command : ∀ env command w, K (Command.after command env w).log → I w →
      I (Command.after command env w))
    (process : ∀ w client, client.currentState = .empty → I w → I { w with client := client })
    {w w' : World} (h : Run w w') (hw' : K w'.log) (hw : I w) : I w' := by
  refine invariant_of_trace (R := Call) (I := fun v => K v.log → I v) ?_ h (fun _ => hw) hw'
  intro v v' ih hcall hv'
  obtain ⟨newer, hlog⟩ := hcall.extends
  have hv : K v.log := by
    rw [hlog] at hv'
    exact hK newer v.log hv'
  cases hcall with
  | command env cmd => exact command env cmd v hv' (ih hv)
  | process config client hinit => exact process v client (init_currentState hinit) (ih hv)

end KeyholeFlow
