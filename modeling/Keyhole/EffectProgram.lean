import Mathlib.Logic.Relation

/-!
# Programs with state, exceptions and a trace relation

A program is a state transformer that may stop with an exception and keeps the
state it had reached when it stopped — the behaviour of an imperative method
that raises half way through.  This file gives the rules the developments over
it use:

* `exec` and its equations for the monad operations;
* `wp`, the weakest precondition with one postcondition for normal return and
  one for exceptions, with its composition rules;
* `Traced R`, the same with a step relation `R` that the whole run follows: a
  program traced in a transition system is simulated by it;
* `invariant_of_trace`, the induction over such a run.

Nothing here mentions a particular state or exception type. -/

namespace EffectProgram

variable {ε σ α β : Type}

/-- Programs over the state `σ` that may raise `ε`. -/
abbrev Prog (ε σ α : Type) := ExceptT ε (StateM σ) α

/-- Run a program: its outcome and the state it left. -/
def exec (m : Prog ε σ α) (s : σ) : Except ε α × σ := m.run.run s

@[simp] theorem exec_pure (a : α) (s : σ) :
    exec (pure a : Prog ε σ α) s = (.ok a, s) := rfl

@[simp] theorem exec_throw (e : ε) (s : σ) :
    exec (throw e : Prog ε σ α) s = (.error e, s) := rfl

@[simp] theorem exec_get (s : σ) : exec (get : Prog ε σ σ) s = (.ok s, s) := rfl

@[simp] theorem exec_set (s s' : σ) :
    exec (set s' : Prog ε σ PUnit) s = (.ok ⟨⟩, s') := rfl

@[simp] theorem exec_modify (f : σ → σ) (s : σ) :
    exec (modify f : Prog ε σ PUnit) s = (.ok ⟨⟩, f s) := rfl

theorem exec_bind (m : Prog ε σ α) (f : α → Prog ε σ β) (s : σ) :
    exec (m >>= f) s =
      match exec m s with
      | (.ok a, s') => exec (f a) s'
      | (.error e, s') => (.error e, s') := by
  simp only [exec, ExceptT.run_bind, StateT.run_bind]
  cases h : StateT.run m.run s with
  | mk r s' => cases r <;> rfl

theorem exec_bind_ok {m : Prog ε σ α} {f : α → Prog ε σ β} {s s' : σ} {a : α}
    (h : exec m s = (.ok a, s')) : exec (m >>= f) s = exec (f a) s' := by
  rw [exec_bind, h]

theorem exec_bind_error {m : Prog ε σ α} {f : α → Prog ε σ β} {s s' : σ} {e : ε}
    (h : exec m s = (.error e, s')) : exec (m >>= f) s = (.error e, s') := by
  rw [exec_bind, h]

/-- A sequence that returns has two parts that return. -/
theorem exec_bind_inv {m : Prog ε σ α} {f : α → Prog ε σ β} {s s' : σ} {b : β}
    (h : exec (m >>= f) s = (.ok b, s')) :
    ∃ a s₁, exec m s = (.ok a, s₁) ∧ exec (f a) s₁ = (.ok b, s') := by
  rw [exec_bind] at h
  cases hm : exec m s with
  | mk r s₁ =>
    rw [hm] at h
    cases r with
    | ok a => exact ⟨a, s₁, rfl, h⟩
    | error e => exact nomatch h

theorem exec_tryCatch (m : Prog ε σ α) (h : ε → Prog ε σ α) (s : σ) :
    exec (tryCatch m h) s =
      match exec m s with
      | (.ok a, s') => (.ok a, s')
      | (.error e, s') => exec (h e) s' := by
  show (ExceptT.tryCatch m h).run.run s = _
  simp only [exec, ExceptT.tryCatch, ExceptT.run_mk, StateT.run_bind]
  cases hm : StateT.run m.run s with
  | mk r s' =>
    have hm' : StateT.run m s = (r, s') := hm
    rw [hm']
    cases r <;> rfl

/-! ## Weakest preconditions -/

/-- The weakest precondition: `Q` after a normal return, `E` after an
    exception. -/
def wp (m : Prog ε σ α) (Q : α → σ → Prop) (E : ε → σ → Prop) (s : σ) : Prop :=
  match exec m s with
  | (.ok a, s') => Q a s'
  | (.error e, s') => E e s'

variable {Q : α → σ → Prop} {E : ε → σ → Prop}

@[simp] theorem wp_pure {a : α} {s : σ} :
    wp (pure a : Prog ε σ α) Q E s ↔ Q a s := Iff.rfl

@[simp] theorem wp_throw {e : ε} {s : σ} :
    wp (throw e : Prog ε σ α) Q E s ↔ E e s := Iff.rfl

@[simp] theorem wp_get {Q : σ → σ → Prop} {s : σ} :
    wp (get : Prog ε σ σ) Q E s ↔ Q s s := Iff.rfl

@[simp] theorem wp_modify {Q : PUnit → σ → Prop} {f : σ → σ} {s : σ} :
    wp (modify f : Prog ε σ PUnit) Q E s ↔ Q ⟨⟩ (f s) := Iff.rfl

theorem wp_bind {m : Prog ε σ α} {f : α → Prog ε σ β} {Q : β → σ → Prop} {s : σ} :
    wp (m >>= f) Q E s ↔ wp m (fun a s' => wp (f a) Q E s') E s := by
  unfold wp
  rw [exec_bind]
  cases h : exec m s with
  | mk r s' => cases r <;> exact Iff.rfl

theorem wp_tryCatch {m : Prog ε σ α} {h : ε → Prog ε σ α} {s : σ} :
    wp (tryCatch m h) Q E s ↔ wp m Q (fun e s' => wp (h e) Q E s') s := by
  unfold wp
  rw [exec_tryCatch]
  cases hm : exec m s with
  | mk r s' => cases r <;> exact Iff.rfl

/-- Consequence: both postconditions may be weakened. -/
theorem wp_mono {m : Prog ε σ α} {Q' : α → σ → Prop} {E' : ε → σ → Prop} {s : σ}
    (h : wp m Q E s) (hQ : ∀ a s', Q a s' → Q' a s')
    (hE : ∀ e s', E e s' → E' e s') : wp m Q' E' s := by
  unfold wp at h ⊢
  cases hm : exec m s with
  | mk r s' =>
    rw [hm] at h
    cases r with
    | ok a => exact hQ a s' h
    | error e => exact hE e s' h

/-- Two facts about one run hold together. -/
theorem wp_and {m : Prog ε σ α} {Q' : α → σ → Prop} {E' : ε → σ → Prop} {s : σ}
    (h : wp m Q E s) (h' : wp m Q' E' s) :
    wp m (fun a s' => Q a s' ∧ Q' a s') (fun e s' => E e s' ∧ E' e s') s := by
  unfold wp at h h' ⊢
  cases hm : exec m s with
  | mk r s' =>
    rw [hm] at h h'
    cases r with
    | ok a => exact ⟨h, h'⟩
    | error e => exact ⟨h, h'⟩

theorem wp_ok {m : Prog ε σ α} {s s' : σ} {a : α} (h : wp m Q E s)
    (hm : exec m s = (.ok a, s')) : Q a s' := by
  unfold wp at h
  rw [hm] at h
  exact h

theorem wp_error {m : Prog ε σ α} {s s' : σ} {e : ε} (h : wp m Q E s)
    (hm : exec m s = (.error e, s')) : E e s' := by
  unfold wp at h
  rw [hm] at h
  exact h

/-- A fact about both kinds of outcome is a fact about the final state. -/
theorem wp_final {m : Prog ε σ α} {P : σ → Prop} {s : σ}
    (h : wp m (fun _ s' => P s') (fun _ s' => P s') s) : P (exec m s).2 := by
  unfold wp at h
  cases hm : exec m s with
  | mk r s' =>
    rw [hm] at h
    cases r <;> exact h

/-- A program that cannot fail returns. -/
theorem exec_of_wp {m : Prog ε σ α} {s : σ}
    (h : wp m Q (fun _ _ => False) s) :
    ∃ a s', exec m s = (.ok a, s') ∧ Q a s' := by
  unfold wp at h
  cases hm : exec m s with
  | mk r s' =>
    rw [hm] at h
    cases r with
    | ok a => exact ⟨a, s', rfl, h⟩
    | error e => exact h.elim

/-! ## Runs that follow a relation -/

/-- The run of `m` from `s` follows `R`; a normal return also satisfies `Q`, an
    exception `E`. -/
def Traced (R : σ → σ → Prop) (m : Prog ε σ α) (Q : α → σ → Prop)
    (E : ε → σ → Prop) (s : σ) : Prop :=
  wp m (fun a s' => R s s' ∧ Q a s') (fun e s' => R s s' ∧ E e s') s

section Rules

variable {R : σ → σ → Prop}

theorem traced_pure (hr : ∀ s, R s s) {a : α} {s : σ} (h : Q a s) :
    Traced R (pure a : Prog ε σ α) Q E s := ⟨hr s, h⟩

theorem traced_throw (hr : ∀ s, R s s) {e : ε} {s : σ} (h : E e s) :
    Traced R (throw e : Prog ε σ α) Q E s := ⟨hr s, h⟩

/-- Sequencing: the run of the first program is continued by the second. -/
theorem traced_bind (ht : ∀ a b c, R a b → R b c → R a c)
    {m : Prog ε σ α} {f : α → Prog ε σ β} {P : α → σ → Prop} {Q : β → σ → Prop}
    {s : σ} (hm : Traced R m P E s)
    (hf : ∀ a s', R s s' → P a s' → Traced R (f a) Q E s') :
    Traced R (m >>= f) Q E s := by
  refine wp_bind.mpr (wp_mono hm ?_ ?_)
  · rintro a s' ⟨hr, hp⟩
    exact wp_mono (hf a s' hr hp)
      (fun b s'' h => ⟨ht _ _ _ hr h.1, h.2⟩) (fun e s'' h => ⟨ht _ _ _ hr h.1, h.2⟩)
  · exact fun e s' h => h

/-- A handler continues the run of the program it guards. -/
theorem traced_tryCatch (ht : ∀ a b c, R a b → R b c → R a c)
    {m : Prog ε σ α} {h : ε → Prog ε σ α} {F : ε → σ → Prop} {s : σ}
    (hm : Traced R m Q F s)
    (hh : ∀ e s', R s s' → F e s' → Traced R (h e) Q E s') :
    Traced R (tryCatch m h) Q E s := by
  refine wp_tryCatch.mpr (wp_mono hm (fun a s' h => h) ?_)
  rintro e s' ⟨hr, hf⟩
  exact wp_mono (hh e s' hr hf)
    (fun b s'' h => ⟨ht _ _ _ hr h.1, h.2⟩) (fun e s'' h => ⟨ht _ _ _ hr h.1, h.2⟩)

theorem traced_mono {m : Prog ε σ α} {Q' : α → σ → Prop} {E' : ε → σ → Prop} {s : σ}
    (h : Traced R m Q E s) (hQ : ∀ a s', R s s' → Q a s' → Q' a s')
    (hE : ∀ e s', R s s' → E e s' → E' e s') : Traced R m Q' E' s :=
  wp_mono h (fun a s' h => ⟨h.1, hQ a s' h.1 h.2⟩) (fun e s' h => ⟨h.1, hE e s' h.1 h.2⟩)

theorem traced_ite {c : Prop} [Decidable c] {m n : Prog ε σ α} {s : σ}
    (hm : c → Traced R m Q E s) (hn : ¬c → Traced R n Q E s) :
    Traced R (if c then m else n) Q E s := by
  by_cases hc : c
  · rw [if_pos hc]; exact hm hc
  · rw [if_neg hc]; exact hn hc

theorem traced_final {m : Prog ε σ α} {s : σ} (h : Traced R m Q E s) :
    R s (exec m s).2 :=
  wp_final (wp_mono h (fun _ _ h => h.1) (fun _ _ h => h.1))

end Rules

/-- Whatever every step preserves, a run preserves. -/
theorem invariant_of_trace {R : σ → σ → Prop} {I : σ → Prop}
    (step : ∀ s s', I s → R s s' → I s') {s s' : σ}
    (h : Relation.ReflTransGen R s s') (hs : I s) : I s' := by
  induction h with
  | refl => exact hs
  | tail _ hstep ih => exact step _ _ ih hstep

end EffectProgram
