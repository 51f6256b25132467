import Mathlib.Data.List.Basic

/-!
# Loops that can raise

A loop over a list whose body may raise, and when such a loop comes to its end.

* `Returns` — a computation that does not raise, with its rules for `>>=`;
* `returns_foldlM` — a fold returns when each of its steps does, `foldlM_keeps` — and
  keeps what its steps keep;
* `collect` — the loop that gathers what the body finds at each index, with
  `returns_collect` and `collect_any` for what it gathers. -/

namespace ExceptLoops

variable {ε α β σ : Type}

theorem bind_ok {x : Except ε α} {f : α → Except ε β} {b : β} :
    x >>= f = .ok b ↔ ∃ a, x = .ok a ∧ f a = .ok b := by
  cases x with
  | error raised => exact ⟨nofun, fun ⟨_, h, _⟩ => (nomatch h)⟩
  | ok a =>
    constructor
    · intro h
      exact ⟨a, rfl, h⟩
    · rintro ⟨a', ha, h⟩
      cases ha
      exact h

/-- The computation does not raise. -/
def Returns (x : Except ε α) : Prop := ∃ a, x = .ok a

@[simp] theorem returns_ok (a : α) : Returns (.ok a : Except ε α) := ⟨a, rfl⟩

@[simp] theorem returns_pure (a : α) : Returns (pure a : Except ε α) := ⟨a, rfl⟩

@[simp] theorem not_returns_error (e : ε) : ¬ Returns (.error e : Except ε α) :=
  fun ⟨_, h⟩ => nomatch h

theorem returns_bind {x : Except ε α} {f : α → Except ε β} :
    Returns (x >>= f) ↔ ∃ a, x = .ok a ∧ Returns (f a) := by
  constructor
  · rintro ⟨b, h⟩
    obtain ⟨a, ha, hb⟩ := bind_ok.mp h
    exact ⟨a, ha, b, hb⟩
  · rintro ⟨a, ha, b, hb⟩
    exact ⟨b, bind_ok.mpr ⟨a, ha, hb⟩⟩

/-- A computation returns whatever is made of its result. -/
theorem returns_map {f : α → β} {x : Except ε α} : Returns (x.map f) ↔ Returns x := by
  cases x with
  | error e => exact ⟨fun ⟨_, h⟩ => (nomatch h), fun ⟨_, h⟩ => (nomatch h)⟩
  | ok a => exact ⟨fun _ => returns_ok a, fun _ => returns_ok (f a)⟩

/-- What follows a computation and always returns does not matter. -/
theorem returns_bind_of_forall {x : Except ε α} {f : α → Except ε β}
    (h : ∀ a, Returns (f a)) : Returns (x >>= f) ↔ Returns x := by
  rw [returns_bind]
  constructor
  · rintro ⟨a, ha, -⟩
    exact ⟨a, ha⟩
  · rintro ⟨a, ha⟩
    exact ⟨a, ha, h a⟩

/-- What follows a computation and returns on the same terms whatever it is given. -/
theorem returns_bind_of_iff {x : Except ε α} {f : α → Except ε β} {p : Prop}
    (h : ∀ a, Returns (f a) ↔ p) : Returns (x >>= f) ↔ Returns x ∧ p := by
  rw [returns_bind]
  constructor
  · rintro ⟨a, ha, hf⟩
    exact ⟨⟨a, ha⟩, (h a).mp hf⟩
  · rintro ⟨⟨a, ha⟩, hp⟩
    exact ⟨a, ha, (h a).mpr hp⟩

/-! ## Folds -/

/-- A fold whose steps return on the same terms in every state returns exactly when
    all its elements meet them. -/
theorem returns_foldlM {step : σ → α → Except ε σ} {p : α → Prop}
    (h : ∀ s a, Returns (step s a) ↔ p a) (items : List α) (s : σ) :
    Returns (items.foldlM step s) ↔ ∀ a ∈ items, p a := by
  induction items generalizing s with
  | nil =>
    rw [List.foldlM_nil]
    exact ⟨nofun, fun _ => returns_pure s⟩
  | cons a rest ih =>
    rw [List.foldlM_cons, returns_bind_of_iff fun s' => ih s', h s a, List.forall_mem_cons]

/-- A fold whose steps return in every state, and keep a part of it, returns and keeps
    that part. -/
theorem foldlM_keeps {step : σ → α → Except ε σ} {part : σ → β}
    (h : ∀ s a, ∃ s', step s a = .ok s' ∧ part s' = part s) (items : List α) (s : σ) :
    ∃ s', items.foldlM step s = .ok s' ∧ part s' = part s := by
  induction items generalizing s with
  | nil => exact ⟨s, rfl, rfl⟩
  | cons a rest ih =>
    obtain ⟨next, hnext, hpart⟩ := h s a
    obtain ⟨s', hrun, hkept⟩ := ih next
    rw [List.foldlM_cons]
    exact ⟨s', bind_ok.mpr ⟨next, hnext, hrun⟩, hkept.trans hpart⟩

/-- What a step can leave only where it was so before, and for elements of one kind: at the
    end of a fold it was so from the start, and all elements are of that kind. -/
theorem foldlM_backward {step : σ → α → Except ε σ} {good : σ → Prop} {p : α → Prop}
    (h : ∀ s a s', step s a = .ok s' → good s' → good s ∧ p a) {items : List α} {s s' : σ}
    (hrun : items.foldlM step s = .ok s') (hgood : good s') : good s ∧ ∀ a ∈ items, p a := by
  induction items generalizing s with
  | nil =>
    rw [List.foldlM_nil] at hrun
    cases hrun
    exact ⟨hgood, nofun⟩
  | cons a rest ih =>
    rw [List.foldlM_cons] at hrun
    obtain ⟨next, hnext, hrest⟩ := bind_ok.mp hrun
    obtain ⟨hgoodNext, hall⟩ := ih hrest
    obtain ⟨hgoodFirst, hp⟩ := h s a next hnext hgoodNext
    exact ⟨hgoodFirst, List.forall_mem_cons.mpr ⟨hp, hall⟩⟩

/-! ## Gathering -/

/-- The loop that gathers what `each` finds, from index `idx` on. -/
def collect (each : Nat → α → Except ε (List β)) : Nat → List α → Except ε (List β)
  | _, [] => .ok []
  | idx, a :: rest => do
      let here ← each idx a
      let later ← collect each (idx + 1) rest
      return here ++ later

section Collect

variable {each : Nat → α → Except ε (List β)}

theorem collect_cons (idx : Nat) (a : α) (rest : List α) :
    collect each idx (a :: rest)
      = each idx a >>= fun here => collect each (idx + 1) rest >>= fun later =>
          pure (here ++ later) := rfl

theorem returns_collect {p : α → Prop} (h : ∀ idx a, Returns (each idx a) ↔ p a)
    (items : List α) (idx : Nat) : Returns (collect each idx items) ↔ ∀ a ∈ items, p a := by
  induction items generalizing idx with
  | nil => exact ⟨nofun, fun _ => returns_ok []⟩
  | cons a rest ih =>
    have htail : ∀ here : List β, Returns (collect each (idx + 1) rest >>= fun later =>
        (pure (here ++ later) : Except ε (List β))) ↔ ∀ a ∈ rest, p a := by
      intro here
      rw [returns_bind_of_forall fun later => returns_pure _]
      exact ih (idx + 1)
    rw [collect_cons, returns_bind_of_iff htail, h idx a, List.forall_mem_cons]

/-- The loop gathered something that meets `q` exactly when some element yields it. -/
theorem collect_any {q : β → Prop} {r : α → Prop}
    (h : ∀ idx a found, each idx a = .ok found → ((∃ b ∈ found, q b) ↔ r a))
    {items : List α} {idx : Nat} {gathered : List β}
    (hrun : collect each idx items = .ok gathered) :
    (∃ b ∈ gathered, q b) ↔ ∃ a ∈ items, r a := by
  induction items generalizing idx gathered with
  | nil =>
    cases hrun
    exact ⟨fun ⟨_, hb, _⟩ => (nomatch hb), fun ⟨_, ha, _⟩ => (nomatch ha)⟩
  | cons a rest ih =>
    rw [collect_cons] at hrun
    obtain ⟨here, hhere, hrun⟩ := bind_ok.mp hrun
    obtain ⟨later, hlater, hrun⟩ := bind_ok.mp hrun
    cases hrun
    rw [List.exists_mem_cons_iff, ← h idx a here hhere, ← ih hlater]
    constructor
    · rintro ⟨b, hb, hq⟩
      rcases List.mem_append.mp hb with hb | hb
      · exact .inl ⟨b, hb, hq⟩
      · exact .inr ⟨b, hb, hq⟩
    · rintro (⟨b, hb, hq⟩ | ⟨b, hb, hq⟩)
      · exact ⟨b, List.mem_append_left _ hb, hq⟩
      · exact ⟨b, List.mem_append_right _ hb, hq⟩

/-- What a body finds that can only find `f`. -/
theorem collect_eq {f : Nat → α → List β}
    (h : ∀ idx a found, each idx a = .ok found → found = f idx a) {items : List α} {idx : Nat}
    {gathered : List β} (hrun : collect each idx items = .ok gathered) :
    gathered = (items.zipIdx idx).flatMap fun p => f p.2 p.1 := by
  induction items generalizing idx gathered with
  | nil =>
    cases hrun
    rfl
  | cons a rest ih =>
    rw [collect_cons] at hrun
    obtain ⟨here, hhere, hrun⟩ := bind_ok.mp hrun
    obtain ⟨later, hlater, hrun⟩ := bind_ok.mp hrun
    cases hrun
    rw [List.zipIdx_cons, List.flatMap_cons, ← ih hlater, ← h idx a here hhere]

/-- A loop whose body raises one thing only. -/
theorem collect_error {raised : ε} (h : ∀ idx a e, each idx a = .error e → e = raised)
    {items : List α} {idx : Nat} (hrun : ¬ Returns (collect each idx items)) :
    collect each idx items = .error raised := by
  induction items generalizing idx with
  | nil => exact absurd (returns_ok []) hrun
  | cons a rest ih =>
    rw [collect_cons] at hrun ⊢
    cases hhere : each idx a with
    | error e =>
      rw [h idx a e hhere]
      rfl
    | ok here =>
      have hrest : ¬ Returns (collect each (idx + 1) rest) := by
        rintro ⟨later, hlater⟩
        apply hrun
        rw [hhere]
        exact ⟨_, bind_ok.mpr ⟨here, rfl, bind_ok.mpr ⟨later, hlater, rfl⟩⟩⟩
      show (collect each (idx + 1) rest >>= _) = _
      rw [ih hrest]
      rfl

end Collect

end ExceptLoops
