import Mathlib.Data.List.Basic

/-!
# Bounded retry

A loop makes one attempt after another, on a state, until an attempt decides the matter or the
attempts it may make are used up.

* `loop`: the loop;
* `loop_rule`: what every attempt preserves, what an attempt that goes on shows and what one that
  decides shows, taken together for a whole run;
* `loop_decided`: the same where the last attempt cannot go on;
* `Reaches`: the states that a number of attempts going on lead to, and `loop_of_reaches`. -/

namespace BoundedRetry

variable {σ α : Type}

/-- What an attempt comes to: another one is made, or the matter is decided. -/
inductive Verdict (α : Type) where
  | again
  | stop (a : α)

/-- The loop: the attempts left, the number of the next one, and the state. -/
def loop (step : Nat → σ → σ × Verdict α) (exhausted : α) : Nat → Nat → σ → α × σ
  | 0, _, s => (exhausted, s)
  | left + 1, attempt, s =>
      match step attempt s with
      | (s', .stop a) => (a, s')
      | (s', .again) => loop step exhausted left (attempt + 1) s'

section Rule

variable {step : Nat → σ → σ × Verdict α} {exhausted : α}
  {inv : Nat → σ → Prop} {goesOn : Nat → Prop} {post : Nat → σ → α → Prop}

theorem loop_stop {attempt : Nat} {s s' : σ} {a : α} (left : Nat)
    (h : step attempt s = (s', .stop a)) : loop step exhausted (left + 1) attempt s = (a, s') := by
  show (match step attempt s with
    | (s', .stop a) => (a, s')
    | (s', .again) => loop step exhausted left (attempt + 1) s') = _
  rw [h]

theorem loop_again {attempt : Nat} {s s' : σ} (left : Nat)
    (h : step attempt s = (s', .again)) :
    loop step exhausted (left + 1) attempt s = loop step exhausted left (attempt + 1) s' := by
  show (match step attempt s with
    | (s', .stop a) => (a, s')
    | (s', .again) => loop step exhausted left (attempt + 1) s') = _
  rw [h]

/-- The run was decided by its `n`th attempt. -/
def Decided (inv : Nat → σ → Prop) (goesOn : Nat → Prop) (post : Nat → σ → α → Prop)
    (k bound : Nat) (r : α × σ) : Prop :=
  ∃ n, k < n ∧ n ≤ bound ∧ inv n r.2 ∧ (∀ i, k < i → i < n → goesOn i) ∧ post n r.2 r.1

/-- The run used up its attempts. -/
def Exhausted (exhausted : α) (inv : Nat → σ → Prop) (goesOn : Nat → Prop) (k bound : Nat)
    (r : α × σ) : Prop :=
  r.1 = exhausted ∧ inv bound r.2 ∧ ∀ i, k < i → i ≤ bound → goesOn i

/-- A run after `k` attempts is decided by a later one, or uses up its attempts. -/
theorem loop_rule
    (hinv : ∀ k s, inv k s → inv (k + 1) (step (k + 1) s).1)
    (hagain : ∀ k s, inv k s → (step (k + 1) s).2 = .again → goesOn (k + 1))
    (hstop : ∀ k s a, inv k s → (step (k + 1) s).2 = .stop a →
      post (k + 1) (step (k + 1) s).1 a) :
    ∀ left k s, inv k s →
      Decided inv goesOn post k (k + left) (loop step exhausted left (k + 1) s) ∨
        Exhausted exhausted inv goesOn k (k + left) (loop step exhausted left (k + 1) s) := by
  intro left
  induction left with
  | zero =>
    intro k s hk
    exact .inr ⟨rfl, hk, fun i hlt hle => absurd hle (by omega)⟩
  | succ left ih =>
    intro k s hk
    have hnext := hinv k s hk
    cases hstep : step (k + 1) s with
    | mk s' verdict =>
      cases verdict with
      | stop a =>
        rw [loop_stop left hstep]
        have hpost := hstop k s a hk (congrArg Prod.snd hstep)
        rw [hstep] at hnext hpost
        exact .inl ⟨k + 1, by omega, by omega, hnext, fun i hlt hlt' => by omega, hpost⟩
      | again =>
        rw [loop_again left hstep]
        have hon := hagain k s hk (congrArg Prod.snd hstep)
        rw [hstep] at hnext
        have hbefore : ∀ i, k < i → i = k + 1 ∨ k + 1 < i := fun i hlt => by omega
        rw [show k + (left + 1) = k + 1 + left by omega]
        rcases ih (k + 1) s' hnext with ⟨n, hlt, hle, hn, hons, hpost⟩ | ⟨hr, hn, hons⟩
        · refine .inl ⟨n, by omega, hle, hn, fun i hi hin => ?_, hpost⟩
          rcases hbefore i hi with rfl | hi'
          · exact hon
          · exact hons i hi' hin
        · refine .inr ⟨hr, hn, fun i hi hin => ?_⟩
          rcases hbefore i hi with rfl | hi'
          · exact hon
          · exact hons i hi' hin

/-- A run whose last attempt cannot go on is decided. -/
theorem loop_decided
    (hinv : ∀ k s, inv k s → inv (k + 1) (step (k + 1) s).1)
    (hagain : ∀ k s, inv k s → (step (k + 1) s).2 = .again → goesOn (k + 1))
    (hstop : ∀ k s a, inv k s → (step (k + 1) s).2 = .stop a →
      post (k + 1) (step (k + 1) s).1 a)
    {bound : Nat} {s : σ} (hpos : 0 < bound) (hlast : ¬ goesOn bound) (h : inv 0 s) :
    Decided inv goesOn post 0 bound (loop step exhausted bound 1 s) := by
  rcases loop_rule hinv hagain hstop bound 0 s h with hdecided | ⟨-, -, hons⟩
  · rw [Nat.zero_add] at hdecided
    exact hdecided
  · exact absurd (hons bound hpos (by omega)) hlast

end Rule

section Reaches

variable {step : Nat → σ → σ × Verdict α} {exhausted : α} {s₀ : σ}

/-- The states the loop is in after so many attempts, all of which go on. -/
inductive Reaches (step : Nat → σ → σ × Verdict α) (s₀ : σ) : Nat → σ → Prop where
  | start : Reaches step s₀ 0 s₀
  | next {k : Nat} {s s' : σ} : Reaches step s₀ k s → step (k + 1) s = (s', .again) →
      Reaches step s₀ (k + 1) s'

/-- The loop is in one state only after so many attempts. -/
theorem Reaches.unique {k : Nat} {s t : σ} (hs : Reaches step s₀ k s)
    (ht : Reaches step s₀ k t) : s = t := by
  induction hs generalizing t with
  | start =>
    cases ht
    rfl
  | next _ hstep ih =>
    cases ht with
    | next hprev hstep' =>
      rw [ih hprev, hstep'] at hstep
      exact (congrArg Prod.fst hstep).symm

/-- The attempts before one that the loop gets to all go on. -/
theorem Reaches.before {k : Nat} {s : σ} (h : Reaches step s₀ k s) {j : Nat} (hj : j < k) :
    ∃ t t', Reaches step s₀ j t ∧ step (j + 1) t = (t', .again) := by
  induction h with
  | start => exact absurd hj (Nat.not_lt_zero j)
  | @next i t t' hprev hstep ih =>
    rcases Nat.lt_succ_iff_lt_or_eq.mp hj with hlt | rfl
    · exact ih hlt
    · exact ⟨t, t', hprev, hstep⟩

/-- From a state it gets to, the loop comes to an attempt that decides the matter, or to the
    state after all the attempts it may make. -/
theorem loop_of_reaches (exhausted : α) {k : Nat} {s : σ} (h : Reaches step s₀ k s) (left : Nat) :
    (∃ j t t' a, k ≤ j ∧ j < k + left ∧ Reaches step s₀ j t ∧ step (j + 1) t = (t', .stop a) ∧
        loop step exhausted left (k + 1) s = (a, t')) ∨
      ∃ t, Reaches step s₀ (k + left) t ∧ loop step exhausted left (k + 1) s = (exhausted, t) := by
  induction left generalizing k s with
  | zero => exact .inr ⟨s, h, rfl⟩
  | succ left ih =>
    cases hstep : step (k + 1) s with
    | mk s' verdict =>
      cases verdict with
      | stop a =>
        exact .inl ⟨k, s, s', a, Nat.le_refl k, by omega, h, hstep, loop_stop left hstep⟩
      | again =>
        rw [loop_again left hstep, show k + (left + 1) = k + 1 + left by omega]
        rcases ih (h.next hstep) with ⟨j, t, t', a, hle, hlt, hj, hend, heq⟩ | hall
        · exact .inl ⟨j, t, t', a, by omega, by omega, hj, hend, heq⟩
        · exact .inr hall

/-- The loop ends with the first attempt that decides the matter, however many more it might
    have made. -/
theorem loop_eq_of_stop {j fuel : Nat} {t t' : σ} {a : α} (h : Reaches step s₀ j t)
    (hstop : step (j + 1) t = (t', .stop a)) (hfuel : j < fuel) :
    loop step exhausted fuel 1 s₀ = (a, t') := by
  have hnot : ∀ {i u}, Reaches step s₀ i u → ¬ j < i := fun hi hlt => by
    obtain ⟨v, v', hv, hstep⟩ := hi.before hlt
    rw [← h.unique hv, hstop] at hstep
    exact nomatch hstep
  rcases loop_of_reaches exhausted .start fuel with
    ⟨i, u, u', b, -, -, hi, hend, heq⟩ | ⟨u, hu, -⟩
  · rcases Nat.lt_trichotomy i j with hlt | rfl | hgt
    · obtain ⟨v, v', hv, hstep⟩ := h.before hlt
      rw [← hi.unique hv, hend] at hstep
      exact nomatch hstep
    · rw [← h.unique hi, hstop] at hend
      cases hend
      exact heq
    · exact absurd hgt (hnot hi)
  · exact absurd (by omega) (hnot hu)

end Reaches

end BoundedRetry
