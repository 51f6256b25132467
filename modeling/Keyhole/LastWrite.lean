import Mathlib.Data.List.Induction
import Mathlib.Data.List.Nodup

/-!
# Association lists filled by writes

Writing a sequence of elements into an association list, each under its key, leaves the last
element of every key.

* `fill`: the list after a sequence of writes;
* `Latest`: the last element of its key in a sequence;
* `mem_fill`: the list holds exactly the latest elements;
* `latest_agree_iff`: a coarser key has the same latest elements as a finer one exactly when
  it keeps apart what the finer one does;
* `lookup_assignAll`: one list written over another. -/

namespace LastWrite

variable {α κ ν β : Type}

/-- The last element of its key in a sequence. -/
def Latest (key : α → κ) (xs : List α) (a : α) : Prop :=
  ∃ before after, xs = before ++ a :: after ∧ ∀ b ∈ after, key b ≠ key a

section Latest

variable {key : α → κ} {xs : List α} {a b : α}

theorem Latest.mem (h : Latest key xs a) : a ∈ xs := by
  obtain ⟨before, after, rfl, -⟩ := h
  exact List.mem_append_right _ List.mem_cons_self

theorem not_latest_nil (key : α → κ) (a : α) : ¬ Latest key [] a := by
  intro h
  exact nomatch h.mem

/-- One more element takes the place of the last one with its key. -/
theorem latest_append_iff :
    Latest key (xs ++ [b]) a ↔ a = b ∨ (key b ≠ key a ∧ Latest key xs a) := by
  constructor
  · rintro ⟨before, after, heq, hafter⟩
    rcases List.eq_nil_or_concat after with rfl | ⟨rest, c, rfl⟩
    · obtain ⟨-, hab⟩ := List.append_inj' heq rfl
      exact Or.inl (List.cons.inj hab).1.symm
    · have heq' : xs ++ [b] = (before ++ a :: rest) ++ [c] := by
        rw [heq]
        simp
      obtain ⟨hxs, hbc⟩ := List.append_inj' heq' rfl
      obtain rfl := (List.cons.inj hbc).1
      refine Or.inr ⟨hafter b (by simp), before, rest, hxs, ?_⟩
      intro d hd
      exact hafter d (by simp [hd])
  · rintro (rfl | ⟨hne, before, after, rfl, hafter⟩)
    · exact ⟨xs, [], rfl, nofun⟩
    · refine ⟨before, after ++ [b], by simp, ?_⟩
      intro d hd
      rcases List.mem_append.mp hd with hd | hd
      · exact hafter d hd
      · rw [List.mem_singleton.mp hd]
        exact hne

/-- A key has one latest element. -/
theorem Latest.unique (ha : Latest key xs a) (hb : Latest key xs b) (h : key a = key b) :
    a = b := by
  induction xs using List.reverseRecOn with
  | nil => exact absurd ha (not_latest_nil key a)
  | append_singleton xs c ih =>
    rcases latest_append_iff.mp ha with rfl | ⟨hca, ha⟩
    · rcases latest_append_iff.mp hb with rfl | ⟨hcb, -⟩
      · rfl
      · exact absurd h hcb
    · rcases latest_append_iff.mp hb with rfl | ⟨-, hb⟩
      · exact absurd h.symm hca
      · exact ih ha hb

/-- Every element has a latest one with its key. -/
theorem exists_latest (key : α → κ) {xs : List α} {a : α} (h : a ∈ xs) :
    ∃ b, Latest key xs b ∧ key b = key a := by
  classical
  induction xs using List.reverseRecOn with
  | nil => exact nomatch h
  | append_singleton xs c ih =>
    by_cases hc : key c = key a
    · exact ⟨c, latest_append_iff.mpr (Or.inl rfl), hc⟩
    · rcases List.mem_append.mp h with h | h
      · obtain ⟨b, hb, hba⟩ := ih h
        refine ⟨b, latest_append_iff.mpr (Or.inr ⟨?_, hb⟩), hba⟩
        rw [hba]
        exact hc
      · rw [List.mem_singleton.mp h] at hc
        exact absurd rfl hc

end Latest

/-- Two keys of which the second determines the first have the same latest elements exactly
    when the first keeps the elements apart as the second does. -/
theorem latest_agree_iff {key : α → κ} {fine : α → ν} (xs : List α)
    (hfine : ∀ a b, fine a = fine b → key a = key b) :
    (∀ a, Latest key xs a ↔ Latest fine xs a) ↔
      ∀ a ∈ xs, ∀ b ∈ xs, key a = key b → fine a = fine b := by
  constructor
  · intro h a ha b hb hkey
    obtain ⟨a', ha', hfa⟩ := exists_latest fine ha
    obtain ⟨b', hb', hfb⟩ := exists_latest fine hb
    have hkey' : key a' = key b' :=
      (hfine _ _ hfa).trans (hkey.trans (hfine _ _ hfb).symm)
    have hsame : a' = b' := ((h a').mpr ha').unique ((h b').mpr hb') hkey'
    rw [← hfa, ← hfb, hsame]
  · intro h a
    constructor
    · rintro ⟨before, after, rfl, hafter⟩
      exact ⟨before, after, rfl, fun b hb he => hafter b hb (hfine b a he)⟩
    · rintro ⟨before, after, rfl, hafter⟩
      refine ⟨before, after, rfl, fun b hb he => hafter b hb (h b ?_ a ?_ he)⟩
      · exact List.mem_append_right _ (List.mem_cons_of_mem _ hb)
      · exact List.mem_append_right _ List.mem_cons_self

/-! ## Looking a key up -/

section Lookup

variable [DecidableEq κ] {m : List (κ × β)} {k : κ} {v : β}

theorem mem_of_lookup (h : m.lookup k = some v) : (k, v) ∈ m := by
  obtain ⟨before, after, rfl, -⟩ := List.lookup_eq_some_iff.mp h
  exact List.mem_append_right _ List.mem_cons_self

theorem lookup_of_mem (hsingle : (m.map Prod.fst).Nodup) (h : (k, v) ∈ m) :
    m.lookup k = some v := by
  induction m with
  | nil => exact absurd h List.not_mem_nil
  | cons entry rest ih =>
    obtain ⟨hfresh, hrest⟩ := List.nodup_cons.mp hsingle
    rw [List.lookup_cons]
    rcases List.mem_cons.mp h with rfl | hlater
    · rw [beq_self_eq_true]
    · have hne : k ≠ entry.1 := by
        rintro rfl
        exact hfresh (List.mem_map.mpr ⟨_, hlater, rfl⟩)
      rw [beq_eq_false_iff_ne.mpr hne]
      exact ih hrest hlater

theorem lookup_eq_none : m.lookup k = none ↔ k ∉ m.map Prod.fst := by
  rw [List.lookup_eq_none_iff]
  constructor
  · intro h hmem
    obtain ⟨entry, hentry, rfl⟩ := List.mem_map.mp hmem
    exact bne_iff_ne.mp (h entry hentry) rfl
  · intro h entry hentry
    refine bne_iff_ne.mpr ?_
    rintro rfl
    exact h (List.mem_map.mpr ⟨entry, hentry, rfl⟩)

/-- Two lists with the same keys looked up alike have the same entries. -/
theorem perm_of_lookup {m' : List (κ × β)} (h : (m.map Prod.fst).Nodup)
    (h' : (m'.map Prod.fst).Nodup) (hsame : ∀ k, m.lookup k = m'.lookup k) : m.Perm m' := by
  rw [List.perm_ext_iff_of_nodup (h.of_map _) (h'.of_map _)]
  rintro ⟨k, v⟩
  constructor
  · intro hmem
    exact mem_of_lookup ((hsame k).symm.trans (lookup_of_mem h hmem))
  · intro hmem
    exact mem_of_lookup ((hsame k).trans (lookup_of_mem h' hmem))

theorem lookup_of_perm {m' : List (κ × β)} (h : (m.map Prod.fst).Nodup) (hperm : m.Perm m')
    (k : κ) : m.lookup k = m'.lookup k := by
  have h' : (m'.map Prod.fst).Nodup := (hperm.map Prod.fst).nodup_iff.mp h
  cases hlookup : m.lookup k with
  | some v => exact (lookup_of_mem h' (hperm.mem_iff.mp (mem_of_lookup hlookup))).symm
  | none =>
    refine (lookup_eq_none.mpr fun hmem => ?_).symm
    exact lookup_eq_none.mp hlookup ((hperm.map Prod.fst).mem_iff.mpr hmem)

/-- A map over the values is a map over what is looked up. -/
theorem lookup_map (f : β → ν) (m : List (κ × β)) (k : κ) :
    (m.map fun kv => (kv.1, f kv.2)).lookup k = (m.lookup k).map f := by
  induction m with
  | nil => rfl
  | cons entry rest ih =>
    rw [List.map_cons, List.lookup_cons, List.lookup_cons, ih]
    cases k == entry.1 <;> rfl

end Lookup

/-! ## The list -/

section Fill

variable [DecidableEq κ]

/-- Write a value under a key. -/
def assign (m : List (κ × β)) (k : κ) (v : β) : List (κ × β) :=
  match m with
  | [] => [(k, v)]
  | (k', v') :: rest => if k = k' then (k, v) :: rest else (k', v') :: assign rest k v

/-- The list after a sequence of writes. -/
def fill (key : α → κ) (value : α → β) (xs : List α) : List (κ × β) :=
  xs.foldl (fun m a => assign m (key a) (value a)) []

theorem fill_append (key : α → κ) (value : α → β) (xs : List α) (a : α) :
    fill key value (xs ++ [a]) = assign (fill key value xs) (key a) (value a) := by
  rw [fill, List.foldl_append]
  rfl

/-- The keys after a write. -/
theorem mem_keys_assign (m : List (κ × β)) (k k' : κ) (v : β) :
    k' ∈ (assign m k v).map (·.1) ↔ k' = k ∨ k' ∈ m.map (·.1) := by
  induction m with
  | nil => simp [assign]
  | cons entry rest ih =>
    obtain ⟨k₀, v₀⟩ := entry
    rw [assign]
    by_cases h : k = k₀
    · rw [if_pos h]
      simp [h]
    · rw [if_neg h, List.map_cons, List.mem_cons, ih, List.map_cons, List.mem_cons]
      exact or_left_comm

theorem nodup_keys_assign {m : List (κ × β)} (k : κ) (v : β) (h : (m.map (·.1)).Nodup) :
    ((assign m k v).map (·.1)).Nodup := by
  induction m with
  | nil => simp [assign]
  | cons entry rest ih =>
    obtain ⟨k₀, v₀⟩ := entry
    obtain ⟨hnot, hrest⟩ := List.nodup_cons.mp h
    rw [assign]
    by_cases hk : k = k₀
    · rw [if_pos hk]
      subst hk
      exact List.nodup_cons.mpr ⟨hnot, hrest⟩
    · rw [if_neg hk]
      refine List.nodup_cons.mpr ⟨?_, ih hrest⟩
      rw [mem_keys_assign]
      rintro (he | hmem)
      · exact hk he.symm
      · exact hnot hmem

/-- The entries after a write. -/
theorem mem_assign {m : List (κ × β)} (h : (m.map (·.1)).Nodup) (k : κ) (v : β)
    (entry : κ × β) :
    entry ∈ assign m k v ↔ entry = (k, v) ∨ (k ≠ entry.1 ∧ entry ∈ m) := by
  induction m with
  | nil => simp [assign]
  | cons first rest ih =>
    obtain ⟨k₀, v₀⟩ := first
    obtain ⟨hnot, hrest⟩ := List.nodup_cons.mp h
    rw [assign]
    by_cases hk : k = k₀
    · rw [if_pos hk]
      subst hk
      rw [List.mem_cons, List.mem_cons]
      constructor
      · rintro (he | hmem)
        · exact Or.inl he
        · refine Or.inr ⟨?_, Or.inr hmem⟩
          rintro rfl
          exact hnot (List.mem_map.mpr ⟨entry, hmem, rfl⟩)
      · rintro (he | ⟨hne, he | hmem⟩)
        · exact Or.inl he
        · rw [he] at hne
          exact absurd rfl hne
        · exact Or.inr hmem
    · rw [if_neg hk, List.mem_cons, List.mem_cons, ih hrest]
      constructor
      · rintro (he | he | ⟨hne, hmem⟩)
        · refine Or.inr ⟨?_, Or.inl he⟩
          rw [he]
          exact hk
        · exact Or.inl he
        · exact Or.inr ⟨hne, Or.inr hmem⟩
      · rintro (he | ⟨hne, he | hmem⟩)
        · exact Or.inr (Or.inl he)
        · exact Or.inl he
        · exact Or.inr (Or.inr ⟨hne, hmem⟩)

theorem nodup_keys_fill (key : α → κ) (value : α → β) (xs : List α) :
    ((fill key value xs).map (·.1)).Nodup := by
  induction xs using List.reverseRecOn with
  | nil => exact List.nodup_nil
  | append_singleton xs a ih =>
    rw [fill_append]
    exact nodup_keys_assign _ _ ih

/-- The list holds the latest element of every key, and nothing else. -/
theorem mem_fill (key : α → κ) (value : α → β) (xs : List α) (entry : κ × β) :
    entry ∈ fill key value xs ↔ ∃ a, Latest key xs a ∧ entry = (key a, value a) := by
  induction xs using List.reverseRecOn with
  | nil =>
    constructor
    · intro h
      exact nomatch h
    · rintro ⟨a, ha, -⟩
      exact absurd ha (not_latest_nil key a)
  | append_singleton xs b ih =>
    rw [fill_append, mem_assign (nodup_keys_fill key value xs), ih]
    constructor
    · rintro (rfl | ⟨hne, a, ha, rfl⟩)
      · exact ⟨b, latest_append_iff.mpr (Or.inl rfl), rfl⟩
      · exact ⟨a, latest_append_iff.mpr (Or.inr ⟨hne, ha⟩), rfl⟩
    · rintro ⟨a, ha, rfl⟩
      rcases latest_append_iff.mp ha with rfl | ⟨hne, ha⟩
      · exact Or.inl rfl
      · exact Or.inr ⟨hne, a, ha, rfl⟩

theorem assign_of_not_mem {m : List (κ × β)} {k : κ} (h : k ∉ m.map (·.1)) (v : β) :
    assign m k v = m ++ [(k, v)] := by
  induction m with
  | nil => rfl
  | cons entry rest ih =>
    obtain ⟨k₀, v₀⟩ := entry
    rw [List.map_cons, List.mem_cons, not_or] at h
    rw [assign, if_neg h.1, ih h.2]
    rfl

/-- Where no key is written twice, the list holds the writes in their order. -/
theorem fill_of_nodup {key : α → κ} (value : α → β) {xs : List α} (h : (xs.map key).Nodup) :
    fill key value xs = xs.map fun a => (key a, value a) := by
  induction xs using List.reverseRecOn with
  | nil => rfl
  | append_singleton xs a ih =>
    rw [List.map_append, List.map_singleton] at h
    obtain ⟨hxs, -, hapart⟩ := List.nodup_append.mp h
    have hnew : key a ∉ (xs.map fun a => (key a, value a)).map (·.1) := by
      rw [List.map_map]
      exact fun hmem => hapart _ hmem _ (List.mem_singleton_self _) rfl
    rw [fill_append, ih hxs, assign_of_not_mem hnew, List.map_append, List.map_singleton]

/-- What is looked up after a write. -/
theorem lookup_assign (m : List (κ × β)) (k k' : κ) (v : β) :
    (assign m k v).lookup k' = if k' = k then some v else m.lookup k' := by
  induction m with
  | nil =>
    by_cases h : k' = k
    · rw [if_pos h, h]
      exact List.lookup_cons_self
    · rw [if_neg h, assign, List.lookup_cons, beq_eq_false_iff_ne.mpr h]
  | cons entry rest ih =>
    obtain ⟨k₀, v₀⟩ := entry
    rw [assign]
    by_cases hk : k = k₀
    · subst hk
      rw [if_pos rfl, List.lookup_cons, List.lookup_cons]
      by_cases h : k' = k
      · rw [if_pos h, beq_iff_eq.mpr h]
      · rw [if_neg h, beq_eq_false_iff_ne.mpr h]
    · rw [if_neg hk, List.lookup_cons, List.lookup_cons, ih]
      by_cases h : k' = k₀
      · have hne : k' ≠ k := fun he => hk (he.symm.trans h)
        rw [beq_iff_eq.mpr h]
        exact (if_neg hne).symm
      · rw [beq_eq_false_iff_ne.mpr h]

/-- Write every entry of `updates`. -/
def assignAll (m updates : List (κ × β)) : List (κ × β) :=
  updates.foldl (fun m entry => assign m entry.1 entry.2) m

theorem nodup_keys_assignAll {m : List (κ × β)} (updates : List (κ × β))
    (h : (m.map (·.1)).Nodup) : ((assignAll m updates).map (·.1)).Nodup := by
  induction updates generalizing m with
  | nil => exact h
  | cons entry rest ih => exact ih (nodup_keys_assign entry.1 entry.2 h)

/-- An entry of `updates` is looked up before one of the list. -/
theorem lookup_assignAll (m : List (κ × β)) {updates : List (κ × β)}
    (h : (updates.map (·.1)).Nodup) (k : κ) :
    (assignAll m updates).lookup k = (updates.lookup k).or (m.lookup k) := by
  induction updates generalizing m with
  | nil => rfl
  | cons entry rest ih =>
    obtain ⟨hfresh, hrest⟩ := List.nodup_cons.mp h
    show (assignAll (assign m entry.1 entry.2) rest).lookup k = _
    rw [ih _ hrest, lookup_assign, List.lookup_cons]
    by_cases hk : k = entry.1
    · have hnone : rest.lookup k = none := lookup_eq_none.mpr (hk ▸ hfresh)
      rw [if_pos hk, beq_iff_eq.mpr hk, hnone]
      rfl
    · rw [if_neg hk, beq_eq_false_iff_ne.mpr hk]

end Fill

end LastWrite
