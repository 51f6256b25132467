import Keyhole.ExceptLoops
import Mathlib.Logic.Function.Basic

/-!
# An index that refuses shared keys

Entries list their keys, and a loop enters each entry under each of its keys.  The loop
stops at the first key that another entry already holds, so one shared key costs the
whole index.

* `build` — the loop, over entries compared by an identity of their own;
* `returns_build` — an index is built exactly when no key is shared;
* `build_sound`, `build_complete` — what a built index answers;
* `build_relabel` — the index depends on how entries are told apart, not on what they are. -/

namespace UniqueIndex

open ExceptLoops

variable {κ ι α : Type} [DecidableEq κ] [DecidableEq ι] (ident : α → ι) (keys : α → List κ)

/-- The entry a key leads to. -/
abbrev Index (κ α : Type) := κ → Option α

/-- The key two entries hold, and the entries. -/
structure Clash (κ α : Type) where
  key : κ
  existing : α
  added : α

/-- One turn of the inner loop. -/
def enter (a : α) (index : Index κ α) (k : κ) : Except (Clash κ α) (Index κ α) :=
  match index k with
  | some existing =>
      if ident existing = ident a then .ok (Function.update index k (some a))
      else .error ⟨k, existing, a⟩
  | none => .ok (Function.update index k (some a))

/-- The two loops, from an index that may hold entries already. -/
def extend (index : Index κ α) (entries : List α) : Except (Clash κ α) (Index κ α) :=
  entries.foldlM (fun index a => (keys a).foldlM (enter ident a) index) index

/-- The index of the entries. -/
def build (entries : List α) : Except (Clash κ α) (Index κ α) :=
  extend ident keys (fun _ => none) entries

/-- No two entries list one key. -/
def Unshared (entries : List α) : Prop :=
  ∀ a ∈ entries, ∀ b ∈ entries, ∀ k, k ∈ keys a → k ∈ keys b → ident a = ident b

variable {ident keys}

/-! ## One entry -/

/-- The entry may be entered: whoever holds the key is the entry itself. -/
def Free (ident : α → ι) (index : Index κ α) (a : α) (k : κ) : Prop :=
  ∀ b, index k = some b → ident b = ident a

theorem enter_eq_ok {a : α} {index index' : Index κ α} {k : κ} :
    enter ident a index k = .ok index'
      ↔ Free ident index a k ∧ index' = Function.update index k (some a) := by
  rw [enter]
  cases hk : index k with
  | none =>
    constructor
    · intro h
      exact ⟨fun b hb => (nomatch hk.symm.trans hb), (Except.ok.inj h).symm⟩
    · rintro ⟨-, rfl⟩
      rfl
  | some existing =>
    by_cases hid : ident existing = ident a
    · show (if _ then _ else _) = _ ↔ _
      rw [if_pos hid]
      constructor
      · intro h
        refine ⟨fun b hb => ?_, (Except.ok.inj h).symm⟩
        rw [← Option.some.inj (hk.symm.trans hb)]
        exact hid
      · rintro ⟨-, rfl⟩
        rfl
    · show (if _ then _ else _) = _ ↔ _
      rw [if_neg hid]
      exact ⟨nofun, fun h => absurd (h.1 existing hk) hid⟩

/-- What entering one entry leaves of the index: every key is held by the entry that
    held it, or it is one of the entry's own. -/
theorem entered {a : α} {ks : List κ} {index index' : Index κ α}
    (h : ks.foldlM (enter ident a) index = .ok index') (k : κ) :
    index' k = if k ∈ ks then some a else index k := by
  induction ks generalizing index with
  | nil =>
    cases h
    rw [if_neg List.not_mem_nil]
  | cons k₀ rest ih =>
    rw [List.foldlM_cons] at h
    obtain ⟨next, hnext, hrest⟩ := bind_ok.mp h
    obtain ⟨-, rfl⟩ := enter_eq_ok.mp hnext
    rw [ih hrest]
    by_cases hk : k ∈ rest
    · rw [if_pos hk, if_pos (List.mem_cons_of_mem _ hk)]
    · rw [if_neg hk]
      by_cases h₀ : k = k₀
      · rw [h₀, Function.update_self, if_pos List.mem_cons_self]
      · rw [Function.update_of_ne h₀, if_neg (List.not_mem_cons_of_ne_of_not_mem h₀ hk)]

theorem returns_entered {a : α} {ks : List κ} {index : Index κ α} :
    Returns (ks.foldlM (enter ident a) index) ↔ ∀ k ∈ ks, Free ident index a k := by
  induction ks generalizing index with
  | nil => exact ⟨nofun, fun _ => returns_pure index⟩
  | cons k₀ rest ih =>
    -- entering the entry under one key leaves its other keys as free as they were
    have hfree : ∀ k, Free ident index a k₀ →
        (Free ident (Function.update index k₀ (some a)) a k ↔ Free ident index a k) := by
      intro k h₀
      by_cases hk : k = k₀
      · subst hk
        constructor
        · intro _
          exact h₀
        · intro _ b hb
          rw [Function.update_self] at hb
          rw [← Option.some.inj hb]
      · rw [Free, Function.update_of_ne hk, Free]
    rw [List.foldlM_cons, returns_bind, List.forall_mem_cons]
    constructor
    · rintro ⟨next, hnext, hrest⟩
      obtain ⟨h₀, rfl⟩ := enter_eq_ok.mp hnext
      exact ⟨h₀, fun k hk => (hfree k h₀).mp (ih.mp hrest k hk)⟩
    · rintro ⟨h₀, hrest⟩
      exact ⟨_, enter_eq_ok.mpr ⟨h₀, rfl⟩, ih.mpr fun k hk => (hfree k h₀).mpr (hrest k hk)⟩

/-! ## All entries -/

theorem extend_cons (index : Index κ α) (a : α) (rest : List α) :
    extend ident keys index (a :: rest)
      = (keys a).foldlM (enter ident a) index >>= fun next => extend ident keys next rest := by
  rw [extend, List.foldlM_cons]
  rfl

theorem extend_sound {entries : List α} {index index' : Index κ α}
    (h : extend ident keys index entries = .ok index') {k : κ} {b : α} (hb : index' k = some b) :
    index k = some b ∨ b ∈ entries ∧ k ∈ keys b := by
  induction entries generalizing index with
  | nil =>
    cases h
    exact .inl hb
  | cons a rest ih =>
    rw [extend_cons] at h
    obtain ⟨next, hnext, hrest⟩ := bind_ok.mp h
    rcases ih hrest with hold | ⟨hmem, hkey⟩
    · rw [entered hnext k] at hold
      by_cases hk : k ∈ keys a
      · rw [if_pos hk] at hold
        cases hold
        exact .inr ⟨List.mem_cons_self, hk⟩
      · rw [if_neg hk] at hold
        exact .inl hold
    · exact .inr ⟨List.mem_cons_of_mem _ hmem, hkey⟩

/-- A key that is held stays with the same entry. -/
theorem extend_holds {entries : List α} {index index' : Index κ α}
    (h : extend ident keys index entries = .ok index') {k : κ} {b : α} (hb : index k = some b) :
    ∃ b', index' k = some b' ∧ ident b' = ident b := by
  -- along the loop the holder may change, its identity does not
  induction entries generalizing index b with
  | nil =>
    cases h
    exact ⟨b, hb, rfl⟩
  | cons a rest ih =>
    rw [extend_cons] at h
    obtain ⟨next, hnext, hrest⟩ := bind_ok.mp h
    have hnextk := entered hnext k
    by_cases hk : k ∈ keys a
    · rw [if_pos hk] at hnextk
      obtain ⟨b', hb', hid⟩ := ih hrest hnextk
      exact ⟨b', hb', hid.trans (returns_entered.mp ⟨next, hnext⟩ k hk b hb).symm⟩
    · rw [if_neg hk, hb] at hnextk
      exact ih hrest hnextk

theorem extend_complete {entries : List α} {index index' : Index κ α}
    (h : extend ident keys index entries = .ok index') {a : α} (ha : a ∈ entries) {k : κ}
    (hk : k ∈ keys a) : ∃ b, index' k = some b ∧ ident b = ident a := by
  induction entries generalizing index with
  | nil => exact nomatch ha
  | cons a₀ rest ih =>
    rw [extend_cons] at h
    obtain ⟨next, hnext, hrest⟩ := bind_ok.mp h
    rcases List.mem_cons.mp ha with rfl | ha
    · have hnextk := entered hnext k
      rw [if_pos hk] at hnextk
      exact extend_holds hrest hnextk
    · exact ih hrest ha

theorem returns_extend {entries : List α} {index : Index κ α} :
    Returns (extend ident keys index entries)
      ↔ Unshared ident keys entries
        ∧ ∀ a ∈ entries, ∀ k ∈ keys a, Free ident index a k := by
  constructor
  · rintro ⟨index', h⟩
    constructor
    · intro a ha b hb k hka hkb
      obtain ⟨c, hc, hca⟩ := extend_complete h ha hka
      obtain ⟨d, hd, hdb⟩ := extend_complete h hb hkb
      rw [← hca, ← hdb, Option.some.inj (hc.symm.trans hd)]
    · intro a ha k hk b hb
      obtain ⟨c, hc, hca⟩ := extend_complete h ha hk
      obtain ⟨d, hd, hdb⟩ := extend_holds h hb
      rw [← hca, ← hdb, Option.some.inj (hc.symm.trans hd)]
  · rintro ⟨hunshared, hfree⟩
    induction entries generalizing index with
    | nil => exact ⟨index, rfl⟩
    | cons a rest ih =>
      obtain ⟨next, hnext⟩ :=
        returns_entered.mpr fun k hk => hfree a List.mem_cons_self k hk
      rw [extend_cons, returns_bind]
      refine ⟨next, hnext, ih ?_ ?_⟩
      · intro b hb c hc
        exact hunshared b (List.mem_cons_of_mem _ hb) c (List.mem_cons_of_mem _ hc)
      · intro b hb k hk c hc
        have hmem := List.mem_cons_of_mem a hb
        rw [entered hnext k] at hc
        by_cases hka : k ∈ keys a
        · rw [if_pos hka] at hc
          cases hc
          exact hunshared a List.mem_cons_self b hmem k hka hk
        · rw [if_neg hka] at hc
          exact hfree b hmem k hk c hc

/-! ## The index of the entries -/

/-- An index is built exactly when no key is shared. -/
theorem returns_build {entries : List α} :
    Returns (build ident keys entries) ↔ Unshared ident keys entries := by
  rw [build, returns_extend]
  exact ⟨And.left, fun h => ⟨h, nofun⟩⟩

theorem build_sound {entries : List α} {index : Index κ α}
    (h : build ident keys entries = .ok index) {k : κ} {a : α} (ha : index k = some a) :
    a ∈ entries ∧ k ∈ keys a := by
  rcases extend_sound h ha with hnone | hfound
  · exact nomatch hnone
  · exact hfound

theorem build_complete {entries : List α} {index : Index κ α}
    (h : build ident keys entries = .ok index) {a : α} (ha : a ∈ entries) {k : κ}
    (hk : k ∈ keys a) : ∃ b, index k = some b ∧ ident b = ident a :=
  extend_complete h ha hk

/-! ## Entries under other identities -/

section Relabel

variable {β ι' : Type} [DecidableEq ι'] {ident' : β → ι'} {keys' : β → List κ} (f : α → β)

/-- The outcome of a loop, each entry replaced. -/
def relabel : Except (Clash κ α) (Index κ α) → Except (Clash κ β) (Index κ β)
  | .ok index => .ok fun k => (index k).map f
  | .error clash => .error ⟨clash.key, f clash.existing, f clash.added⟩

variable {f}

theorem enter_relabel (hident : ∀ a b, ident' (f a) = ident' (f b) ↔ ident a = ident b) (a : α)
    (index : Index κ α) (k : κ) :
    enter ident' (f a) (fun k => (index k).map f) k = relabel f (enter ident a index k) := by
  have hupdate : Function.update (fun k => (index k).map f) k (some (f a)) =
      fun k' => (Function.update index k (some a) k').map f := by
    funext k'
    by_cases hk : k' = k
    · rw [hk, Function.update_self, Function.update_self]
      rfl
    · rw [Function.update_of_ne hk, Function.update_of_ne hk]
  rw [enter, enter]
  cases hk : index k with
  | none => exact congrArg Except.ok hupdate
  | some existing =>
    by_cases hid : ident existing = ident a
    · show (if _ then _ else _) = relabel f (if _ then _ else _)
      rw [if_pos hid, if_pos ((hident existing a).mpr hid)]
      exact congrArg Except.ok hupdate
    · show (if _ then _ else _) = relabel f (if _ then _ else _)
      rw [if_neg hid, if_neg fun h => hid ((hident existing a).mp h)]
      rfl

theorem entered_relabel (hident : ∀ a b, ident' (f a) = ident' (f b) ↔ ident a = ident b) (a : α)
    (ks : List κ) (index : Index κ α) :
    ks.foldlM (enter ident' (f a)) (fun k => (index k).map f) =
      relabel f (ks.foldlM (enter ident a) index) := by
  induction ks generalizing index with
  | nil => rfl
  | cons k rest ih =>
    rw [List.foldlM_cons, List.foldlM_cons, enter_relabel hident]
    cases enter ident a index k with
    | error clash => rfl
    | ok next => exact ih next

/-- Two lists of entries that tell their entries apart alike have the same index, or the same
    clash. -/
theorem build_relabel (hident : ∀ a b, ident' (f a) = ident' (f b) ↔ ident a = ident b)
    (hkeys : ∀ a, keys' (f a) = keys a) (entries : List α) :
    build ident' keys' (entries.map f) = relabel f (build ident keys entries) := by
  have hextend : ∀ index : Index κ α,
      extend ident' keys' (fun k => (index k).map f) (entries.map f) =
        relabel f (extend ident keys index entries) := by
    induction entries with
    | nil => exact fun index => rfl
    | cons a rest ih =>
      intro index
      rw [List.map_cons, extend_cons, extend_cons, hkeys, entered_relabel hident]
      cases (keys a).foldlM (enter ident a) index with
      | error clash => rfl
      | ok next => exact ih next
  exact hextend fun _ => none

end Relabel

end UniqueIndex
