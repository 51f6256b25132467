import Mathlib.Data.List.Nodup
import Keyhole.DevicePacing

/-!
# The registry of login attempts

`AuthAttemptRegistry` keeps the login attempts of a process. A new attempt supersedes those that
are not completed; signing out cancels them all. Its operations are atomic, so a run of several
threads is one sequence of operations.

* `Registry`: the attempts, with `start`, `complete`, `cancel`, `cancelAll`, `isSuperseded`;
* `Sound`: a live attempt is the active one, kept by every operation;
* `Watches`: a polling that looks at the registry for its own attempt;
* `attempts_guarded`: over every history, one live attempt at most, and no token for an attempt
  that a later operation put aside. -/

namespace KeyholeAttempts

open KeyholeLogin KeyholeDevice

/-! ## The registry -/

/-- `AuthAttempt`, without the time it was created at. -/
structure AuthAttempt where
  attemptId : String
  flow : String
  superseded : Bool := false
  completed : Bool := false
  deriving DecidableEq

/-- The attempt is pending still. -/
def AuthAttempt.Live (a : AuthAttempt) : Prop := a.completed = false ∧ a.superseded = false

/-- `AuthAttemptRegistry`: the attempts by their ids, and the active one. -/
structure Registry where
  attempts : List AuthAttempt := []
  active : Option String := none

/-- `self._attempts.get(attempt_id)`. -/
def Registry.get (r : Registry) (attemptId : String) : Option AuthAttempt :=
  r.attempts.find? fun a => a.attemptId == attemptId

/-- `self._attempts[a.attempt_id] = a`. -/
def put (attempts : List AuthAttempt) (a : AuthAttempt) : List AuthAttempt :=
  if a.attemptId ∈ attempts.map (·.attemptId) then
    attempts.map fun b => if b.attemptId = a.attemptId then a else b
  else attempts ++ [a]

/-- The attempt is superseded, unless it is completed. -/
def supersede (a : AuthAttempt) : AuthAttempt :=
  if a.completed then a else { a with superseded := true }

/-- The attempt is over, unless it is completed. -/
def drop (a : AuthAttempt) : AuthAttempt :=
  if a.completed then a else { a with superseded := true, completed := true }

/-- A change of the attempt with an id. -/
def onAttempt (attemptId : String) (f : AuthAttempt → AuthAttempt) (a : AuthAttempt) :
    AuthAttempt :=
  if a.attemptId = attemptId then f a else a

/-- `start`, where `attemptId` is the fresh `uuid4`. -/
def Registry.start (r : Registry) (attemptId flow : String) : Registry where
  attempts := put (r.attempts.map supersede) { attemptId := attemptId, flow := flow }
  active := some attemptId

/-- `is_superseded`. -/
def Registry.isSuperseded (r : Registry) (attemptId : String) : Bool :=
  match r.get attemptId with
  | none => true
  | some a => a.superseded

/-- `complete`. -/
def Registry.complete (r : Registry) (attemptId : String) : Registry where
  attempts := r.attempts.map (onAttempt attemptId fun a => { a with completed := true })
  active := r.active

/-- `cancel`. -/
def Registry.cancel (r : Registry) (attemptId : String) : Registry where
  attempts := r.attempts.map
    (onAttempt attemptId fun a => { a with superseded := true, completed := true })
  active := r.active

/-- `cancel_all`: the registry after it, and the ids of the attempts it cancelled. -/
def Registry.cancelAll (r : Registry) : Registry × List String :=
  ({ attempts := r.attempts.map drop, active := none },
    (r.attempts.filter fun a => !a.completed).map (·.attemptId))

/-- The operations of the registry. -/
inductive Op where
  | start (attemptId flow : String)
  | complete (attemptId : String)
  | cancel (attemptId : String)
  | cancelAll

def Registry.apply (r : Registry) : Op → Registry
  | .start attemptId flow => r.start attemptId flow
  | .complete attemptId => r.complete attemptId
  | .cancel attemptId => r.cancel attemptId
  | .cancelAll => r.cancelAll.1

/-- What an operation does to an attempt that is there. -/
def Op.touch : Op → AuthAttempt → AuthAttempt
  | .start _ _ => supersede
  | .complete attemptId => onAttempt attemptId fun a => { a with completed := true }
  | .cancel attemptId =>
      onAttempt attemptId fun a => { a with superseded := true, completed := true }
  | .cancelAll => drop

/-- The id that an operation draws is one that no attempt has. -/
def Fresh (r : Registry) : Op → Prop
  | .start attemptId _ => attemptId ∉ r.attempts.map (·.attemptId)
  | _ => True

section Touch

variable (op : Op) (a : AuthAttempt)

@[simp] theorem supersede_attemptId : (supersede a).attemptId = a.attemptId := by
  rw [supersede]
  by_cases h : a.completed = true
  · rw [if_pos h]
  · rw [if_neg h]

@[simp] theorem drop_attemptId : (drop a).attemptId = a.attemptId := by
  rw [drop]
  by_cases h : a.completed = true
  · rw [if_pos h]
  · rw [if_neg h]

theorem onAttempt_attemptId {attemptId : String} {f : AuthAttempt → AuthAttempt}
    (hf : (f a).attemptId = a.attemptId) : (onAttempt attemptId f a).attemptId = a.attemptId := by
  rw [onAttempt]
  by_cases h : a.attemptId = attemptId
  · rw [if_pos h, hf]
  · rw [if_neg h]

/-- An operation leaves the ids alone. -/
@[simp] theorem touch_attemptId : (op.touch a).attemptId = a.attemptId := by
  cases op with
  | start _ _ => exact supersede_attemptId a
  | complete attemptId => exact onAttempt_attemptId a rfl
  | cancel attemptId => exact onAttempt_attemptId a rfl
  | cancelAll => exact drop_attemptId a

/-- What an operation leaves live was so before, and no operation that puts it aside. -/
theorem live_of_touch (h : (op.touch a).Live) :
    a.Live ∧ (∀ attemptId flow, op ≠ .start attemptId flow) ∧ op ≠ .cancelAll := by
  obtain ⟨hcompleted, hsuperseded⟩ := h
  cases op with
  | start _ _ =>
    rw [Op.touch, supersede] at hcompleted hsuperseded
    by_cases h : a.completed = true
    · rw [if_pos h] at hcompleted
      exact nomatch h.symm.trans hcompleted
    · rw [if_neg h] at hsuperseded
      exact nomatch hsuperseded
  | cancelAll =>
    rw [Op.touch, drop] at hcompleted hsuperseded
    by_cases h : a.completed = true
    · rw [if_pos h] at hcompleted
      exact nomatch h.symm.trans hcompleted
    · rw [if_neg h] at hsuperseded
      exact nomatch hsuperseded
  | complete attemptId =>
    rw [Op.touch, onAttempt] at hcompleted hsuperseded
    by_cases h : a.attemptId = attemptId
    · rw [if_pos h] at hcompleted
      exact nomatch hcompleted
    · rw [if_neg h] at hcompleted hsuperseded
      exact ⟨⟨hcompleted, hsuperseded⟩, nofun, nofun⟩
  | cancel attemptId =>
    rw [Op.touch, onAttempt] at hcompleted hsuperseded
    by_cases h : a.attemptId = attemptId
    · rw [if_pos h] at hcompleted
      exact nomatch hcompleted
    · rw [if_neg h] at hcompleted hsuperseded
      exact ⟨⟨hcompleted, hsuperseded⟩, nofun, nofun⟩

/-- What is superseded stays so. -/
theorem touch_superseded (h : a.superseded = true) : (op.touch a).superseded = true := by
  cases op with
  | start _ _ =>
    rw [Op.touch, supersede]
    by_cases hc : a.completed = true
    · rw [if_pos hc, h]
    · rw [if_neg hc]
  | cancelAll =>
    rw [Op.touch, drop]
    by_cases hc : a.completed = true
    · rw [if_pos hc, h]
    · rw [if_neg hc]
  | complete attemptId =>
    rw [Op.touch, onAttempt]
    by_cases hid : a.attemptId = attemptId
    · rw [if_pos hid]
      exact h
    · rw [if_neg hid, h]
  | cancel attemptId =>
    rw [Op.touch, onAttempt]
    by_cases hid : a.attemptId = attemptId
    · rw [if_pos hid]
    · rw [if_neg hid, h]

/-- The operations that put an attempt aside: a start of another one, its cancellation, and the
    cancellation of all. -/
def PutsAside (attemptId : String) : Op → Prop
  | .start _ _ => True
  | .complete _ => False
  | .cancel other => other = attemptId
  | .cancelAll => True

/-- They supersede it, if it is not completed. -/
theorem touch_putsAside {attemptId : String} (hop : PutsAside attemptId op)
    (hid : a.attemptId = attemptId) (h : a.completed = false) :
    (op.touch a).superseded = true := by
  have hc : ¬ a.completed = true := fun htrue => nomatch htrue.symm.trans h
  cases op with
  | start _ _ => rw [Op.touch, supersede, if_neg hc]
  | cancelAll => rw [Op.touch, drop, if_neg hc]
  | complete _ => exact hop.elim
  | cancel other =>
    rw [Op.touch, onAttempt, if_pos (hid.trans (Eq.symm hop))]

end Touch

/-! ## What an operation does to the registry -/

section Apply

variable {r : Registry} {op : Op}

theorem put_of_fresh {attempts : List AuthAttempt} {a : AuthAttempt}
    (h : a.attemptId ∉ attempts.map (·.attemptId)) : put attempts a = attempts ++ [a] := if_neg h

theorem map_touch_attemptId (op : Op) (attempts : List AuthAttempt) :
    (attempts.map op.touch).map (·.attemptId) = attempts.map (·.attemptId) := by
  rw [List.map_map]
  exact List.map_congr_left fun a _ => touch_attemptId op a

/-- The attempts after an operation: those before it, touched, and the one it starts. -/
theorem mem_apply {a : AuthAttempt} (h : a ∈ (r.apply op).attempts) :
    (∃ b ∈ r.attempts, a = op.touch b) ∨
      ∃ attemptId flow, op = .start attemptId flow ∧ a = ⟨attemptId, flow, false, false⟩ := by
  cases op with
  | start attemptId flow =>
    have hput : a ∈ put (r.attempts.map supersede) ⟨attemptId, flow, false, false⟩ := h
    rw [put] at hput
    by_cases hold : attemptId ∈ (r.attempts.map supersede).map (·.attemptId)
    · rw [if_pos hold] at hput
      obtain ⟨b, hb, heq⟩ := List.mem_map.mp hput
      obtain ⟨c, hc, rfl⟩ := List.mem_map.mp hb
      by_cases hid : (supersede c).attemptId = attemptId
      · rw [if_pos hid] at heq
        exact .inr ⟨attemptId, flow, rfl, heq.symm⟩
      · rw [if_neg hid] at heq
        exact .inl ⟨c, hc, heq.symm⟩
    · rw [if_neg hold] at hput
      rcases List.mem_append.mp hput with hb | hnew
      · obtain ⟨c, hc, rfl⟩ := List.mem_map.mp hb
        exact .inl ⟨c, hc, rfl⟩
      · exact .inr ⟨attemptId, flow, rfl, List.mem_singleton.mp hnew⟩
  | complete attemptId =>
    obtain ⟨b, hb, rfl⟩ := List.mem_map.mp h
    exact .inl ⟨b, hb, rfl⟩
  | cancel attemptId =>
    obtain ⟨b, hb, rfl⟩ := List.mem_map.mp h
    exact .inl ⟨b, hb, rfl⟩
  | cancelAll =>
    obtain ⟨b, hb, rfl⟩ := List.mem_map.mp h
    exact .inl ⟨b, hb, rfl⟩

/-- An attempt is still there after an operation that draws a fresh id. -/
theorem touch_mem_apply (hfresh : Fresh r op) {a : AuthAttempt} (h : a ∈ r.attempts) :
    op.touch a ∈ (r.apply op).attempts := by
  cases op with
  | start attemptId flow =>
    have hnew : attemptId ∉ (r.attempts.map supersede).map (·.attemptId) := by
      rw [show r.attempts.map supersede = r.attempts.map (Op.touch (.start attemptId flow)) from
        rfl, map_touch_attemptId]
      exact hfresh
    show supersede a ∈ put (r.attempts.map supersede) ⟨attemptId, flow, false, false⟩
    rw [put_of_fresh hnew]
    exact List.mem_append_left _ (List.mem_map_of_mem h)
  | complete attemptId => exact List.mem_map_of_mem h
  | cancel attemptId => exact List.mem_map_of_mem h
  | cancelAll => exact List.mem_map_of_mem h

theorem put_attemptIds (attempts : List AuthAttempt) (a : AuthAttempt) :
    (put attempts a).map (·.attemptId) =
      if a.attemptId ∈ attempts.map (·.attemptId) then attempts.map (·.attemptId)
      else attempts.map (·.attemptId) ++ [a.attemptId] := by
  rw [put]
  by_cases h : a.attemptId ∈ attempts.map (·.attemptId)
  · rw [if_pos h, if_pos h, List.map_map]
    refine List.map_congr_left fun b _ => ?_
    show (if b.attemptId = a.attemptId then a else b).attemptId = b.attemptId
    by_cases hid : b.attemptId = a.attemptId
    · rw [if_pos hid, hid]
    · rw [if_neg hid]
  · rw [if_neg h, if_neg h, List.map_append]
    rfl

/-! ## The invariant -/

/-- The ids are distinct, and a live attempt is the active one. -/
structure Sound (r : Registry) : Prop where
  distinct : (r.attempts.map (·.attemptId)).Nodup
  active : ∀ a ∈ r.attempts, a.Live → r.active = some a.attemptId

theorem sound_init : Sound {} := ⟨List.nodup_nil, nofun⟩

/-- Every operation keeps it. -/
theorem Sound.apply (h : Sound r) (op : Op) : Sound (r.apply op) := by
  constructor
  case distinct =>
    cases op with
    | start attemptId flow =>
      show ((put (r.attempts.map supersede) ⟨attemptId, flow, false, false⟩).map
        (·.attemptId)).Nodup
      have hids := map_touch_attemptId (.start attemptId flow) r.attempts
      rw [put_attemptIds, show r.attempts.map supersede
        = r.attempts.map (Op.touch (.start attemptId flow)) from rfl, hids]
      by_cases hold : attemptId ∈ r.attempts.map (·.attemptId)
      · rw [if_pos hold]
        exact h.distinct
      · rw [if_neg hold]
        refine List.nodup_append.mpr ⟨h.distinct, List.nodup_singleton attemptId, ?_⟩
        rintro a ha b hb rfl
        rw [List.mem_singleton.mp hb] at ha
        exact hold ha
    | complete attemptId =>
      exact (map_touch_attemptId (.complete attemptId) r.attempts).symm ▸ h.distinct
    | cancel attemptId =>
      exact (map_touch_attemptId (.cancel attemptId) r.attempts).symm ▸ h.distinct
    | cancelAll => exact (map_touch_attemptId .cancelAll r.attempts).symm ▸ h.distinct
  case active =>
    intro a ha hlive
    rcases mem_apply ha with ⟨b, hb, rfl⟩ | ⟨attemptId, flow, rfl, rfl⟩
    · obtain ⟨hlive', hnotStart, hnotAll⟩ := live_of_touch op b hlive
      rw [touch_attemptId]
      cases op with
      | start attemptId flow => exact absurd rfl (hnotStart attemptId flow)
      | cancelAll => exact absurd rfl hnotAll
      | complete attemptId => exact h.active b hb hlive'
      | cancel attemptId => exact h.active b hb hlive'
    · rfl

theorem eq_of_attemptId (h : (r.attempts.map (·.attemptId)).Nodup) {a b : AuthAttempt}
    (ha : a ∈ r.attempts) (hb : b ∈ r.attempts) (hid : a.attemptId = b.attemptId) : a = b :=
  List.inj_on_of_nodup_map h ha hb hid

/-- One attempt is live at most. -/
theorem Sound.unique (h : Sound r) {a b : AuthAttempt} (ha : a ∈ r.attempts)
    (hb : b ∈ r.attempts) (hlive : a.Live) (hlive' : b.Live) : a = b :=
  eq_of_attemptId h.distinct ha hb
    (Option.some.inj ((h.active a ha hlive).symm.trans (h.active b hb hlive')))

/-- An attempt that is known to be superseded is reported so. -/
theorem isSuperseded_of_mem (h : Sound r) {a : AuthAttempt} (ha : a ∈ r.attempts)
    (hsuperseded : a.superseded = true) : r.isSuperseded a.attemptId = true := by
  rw [Registry.isSuperseded, Registry.get]
  cases hfind : r.attempts.find? fun b => b.attemptId == a.attemptId with
  | none => rfl
  | some b =>
    have hid : b.attemptId = a.attemptId := eq_of_beq (List.find?_some hfind :)
    rw [eq_of_attemptId h.distinct (List.mem_of_find?_eq_some hfind) ha hid]
    exact hsuperseded

/-- After `cancel_all` no attempt is live. -/
theorem not_live_cancelAll {a : AuthAttempt} (h : a ∈ (r.apply .cancelAll).attempts) :
    ¬ a.Live := by
  intro hlive
  rcases mem_apply h with ⟨b, -, rfl⟩ | ⟨_, _, heq, -⟩
  · exact (live_of_touch .cancelAll b hlive).2.2 rfl
  · exact nomatch heq

end Apply

/-! ## Histories -/

section History

/-- A history of the registry: the operation of each moment, if there is one. -/
abbrev History := Nat → Option Op

/-- The registry at a moment. -/
def stateAt (history : History) : Nat → Registry
  | 0 => {}
  | t + 1 =>
      match history t with
      | none => stateAt history t
      | some op => (stateAt history t).apply op

/-- Every id that is drawn is a new one. -/
def FreshIds (history : History) : Prop :=
  ∀ t op, history t = some op → Fresh (stateAt history t) op

/-- The attempt is there, and superseded. -/
def SupersededAt (history : History) (t : Nat) (attemptId : String) : Prop :=
  ∃ a ∈ (stateAt history t).attempts, a.attemptId = attemptId ∧ a.superseded = true

variable {history : History} {t : Nat} {attemptId : String}

theorem stateAt_none (h : history t = none) : stateAt history (t + 1) = stateAt history t := by
  rw [stateAt, h]

theorem stateAt_some {op : Op} (h : history t = some op) :
    stateAt history (t + 1) = (stateAt history t).apply op := by
  rw [stateAt, h]

theorem sound_stateAt (history : History) (t : Nat) : Sound (stateAt history t) := by
  induction t with
  | zero => exact sound_init
  | succ t ih =>
    cases hop : history t with
    | none =>
      rw [stateAt_none hop]
      exact ih
    | some op =>
      rw [stateAt_some hop]
      exact ih.apply op

/-- Supersession is permanent. -/
theorem superseded_later (hfresh : FreshIds history) {t' : Nat} (hle : t ≤ t')
    (h : SupersededAt history t attemptId) : SupersededAt history t' attemptId := by
  induction t', hle using Nat.le_induction with
  | base => exact h
  | succ t' _ ih =>
    obtain ⟨a, ha, hid, hsuperseded⟩ := ih
    cases hop : history t' with
    | none =>
      rw [SupersededAt, stateAt_none hop]
      exact ⟨a, ha, hid, hsuperseded⟩
    | some op =>
      rw [SupersededAt, stateAt_some hop]
      exact ⟨op.touch a, touch_mem_apply (hfresh t' op hop) ha,
        (touch_attemptId op a).trans hid, touch_superseded op a hsuperseded⟩

/-- An attempt that is not completed is superseded by what puts it aside. -/
theorem superseded_of_putsAside (hfresh : FreshIds history) {op : Op} (hop : history t = some op)
    (haside : PutsAside attemptId op) {a : AuthAttempt} (ha : a ∈ (stateAt history t).attempts)
    (hid : a.attemptId = attemptId) (hpending : a.completed = false) :
    SupersededAt history (t + 1) attemptId := by
  rw [SupersededAt, stateAt_some hop]
  exact ⟨op.touch a, touch_mem_apply (hfresh t op hop) ha, (touch_attemptId op a).trans hid,
    touch_putsAside op a haside hid hpending⟩

/-- The polling of a login looks at the registry for its own attempt: at the moment `look k`
    before its `k`th poll, and at `final k` before it returns a token for it. -/
structure Watches (history : History) (attemptId : String) (look final : Nat → Nat)
    (env : PollEnv) : Prop where
  look : ∀ k, env.superseded k = (stateAt history (look k)).isSuperseded attemptId
  final : ∀ k, env.supersededLast k = (stateAt history (final k)).isSuperseded attemptId

/-- What holds of the attempts over a history. -/
structure Guarded (history : History) : Prop where
  unique : ∀ t, ∀ a ∈ (stateAt history t).attempts, ∀ b ∈ (stateAt history t).attempts,
    a.Live → b.Live → a = b
  active : ∀ t, ∀ a ∈ (stateAt history t).attempts, a.Live →
    (stateAt history t).active = some a.attemptId
  permanent : ∀ t t' attemptId, t ≤ t' → SupersededAt history t attemptId →
    SupersededAt history t' attemptId
  cancelled : ∀ t, history t = some .cancelAll →
    ∀ a ∈ (stateAt history (t + 1)).attempts, ¬ a.Live
  token : ∀ attemptId look final env device, Watches history attemptId look final env →
    ∀ fuel token, (pollForToken env device fuel).1 = some (.ok token) →
      ∃ k, 0 < k ∧ Made env device k ∧ env.poll k = .ok (.approved token) ∧
        ∀ t < final k, ∀ op, history t = some op → PutsAside attemptId op →
          ∀ a ∈ (stateAt history t).attempts, a.attemptId = attemptId → a.completed = true

/-- Over every history one attempt is live at most, and it is the active one; and no token is
    returned for an attempt that was put aside, before the last look, while it was pending. -/
theorem attempts_guarded (hfresh : FreshIds history) : Guarded history := by
  constructor
  case unique =>
    intro t a ha b hb hlive hlive'
    exact (sound_stateAt history t).unique ha hb hlive hlive'
  case active =>
    intro t a ha hlive
    exact (sound_stateAt history t).active a ha hlive
  case permanent =>
    intro t t' attemptId hle h
    exact superseded_later hfresh hle h
  case cancelled =>
    intro t hop a ha
    rw [stateAt_some hop] at ha
    exact not_live_cancelAll ha
  case token =>
    intro attemptId look final env device hwatches fuel token htoken
    obtain ⟨k, hpos, hmade, hpoll, hlast⟩ := (pollForToken_token_iff token).mp ⟨fuel, htoken⟩
    refine ⟨k, hpos, hmade, hpoll, ?_⟩
    intro t hbefore op hop haside a ha hid
    by_contra hpending
    -- superseded when it was put aside, and so at the last look
    have hthen := superseded_of_putsAside hfresh hop haside ha hid
      (Bool.eq_false_of_not_eq_true hpending)
    obtain ⟨b, hb, hbid, hsuperseded⟩ := superseded_later hfresh hbefore hthen
    have hseen := isSuperseded_of_mem (sound_stateAt history (final k)) hb hsuperseded
    rw [hbid, ← hwatches.final k, hlast] at hseen
    exact nomatch hseen

/-- Two logins, the second of which supersedes the first. -/
def twoLogins : History
  | 0 => some (.start "a" "device_authorization")
  | 1 => some (.start "b" "device_authorization")
  | _ => none

theorem twoLogins_guarded : Guarded twoLogins := by
  refine attempts_guarded ?_
  intro t op hop
  match t with
  | 0 =>
      cases hop
      exact fun h => nomatch h
  | 1 =>
      cases hop
      show "b" ∉ ["a"]
      decide
  | _ + 2 => exact nomatch hop

end History

end KeyholeAttempts
