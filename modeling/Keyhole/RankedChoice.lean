import Mathlib.Data.List.Basic

/-!
# The unique best of a list

A list is ranked by a score, best first; what scores nothing is dropped, then what is not eligible;
and the head is chosen unless another element scores as much.

* `choose`: the procedure;
* `choose_eq_chosen_iff`, `choose_eq_tie_iff`, `blocked_iff`, `choose_eq_none_iff`: what it comes
  to, by the elements of the list alone;
* `chosen_of_perm`: the order of the list does not matter. -/

namespace RankedChoice

universe u v

variable {α : Type u} {β : Type v}

/-- What a choice comes to. -/
inductive Choice (α : Type u) where
  /-- nothing scores -/
  | none
  /-- nothing that scores is eligible; `top` scores best -/
  | blocked (top : α)
  /-- several score best -/
  | tie
  | chosen (best : α)

/-- The elements with the best score first, in their order where they score alike. -/
def ranked (score : α → Nat) (xs : List α) : List α :=
  xs.mergeSort (fun a b => decide (score b ≤ score a))

/-- Rank, filter, and take the head if no other element scores as much. -/
def choose (score : α → Nat) (eligible : α → Bool) (xs : List α) : Choice α :=
  let scoring := (ranked score xs).filter (fun x => decide (0 < score x))
  match scoring with
  | [] => .none
  | top :: _ =>
      match scoring.filter eligible with
      | [] => .blocked top
      | best :: rest =>
          if (rest.filter (fun x => score x == score best)).isEmpty then .chosen best else .tie

/-- An element that scores and is eligible. -/
def IsCandidate (score : α → Nat) (eligible : α → Bool) (x : α) : Prop :=
  0 < score x ∧ eligible x = true

/-- A candidate of the list that no candidate of the list outscores. -/
structure Leads (score : α → Nat) (eligible : α → Bool) (xs : List α) (x : α) : Prop where
  mem : x ∈ xs
  candidate : IsCandidate score eligible x
  top : ∀ y ∈ xs, IsCandidate score eligible y → score y ≤ score x

/-- How many candidates of the list have this score. -/
def rivals (score : α → Nat) (eligible : α → Bool) (xs : List α) (value : Nat) : Nat :=
  xs.countP (fun x => decide (0 < score x) && eligible x && score x == value)

variable {score : α → Nat} {eligible : α → Bool} {xs : List α}

theorem mem_ranked {x : α} : x ∈ ranked score xs ↔ x ∈ xs := List.mem_mergeSort

theorem ranked_perm (xs : List α) : (ranked score xs).Perm xs := List.mergeSort_perm xs _

/-- The ranking descends. -/
theorem ranked_descends (xs : List α) :
    (ranked score xs).Pairwise (fun a b => score b ≤ score a) := by
  have hsorted : (ranked score xs).Pairwise (fun a b => decide (score b ≤ score a) = true) := by
    refine List.pairwise_mergeSort ?_ ?_ xs
    · intro a b c hab hbc
      exact decide_eq_true (Nat.le_trans (of_decide_eq_true hbc) (of_decide_eq_true hab))
    · intro a b
      rcases Nat.le_total (score b) (score a) with h | h
      · rw [decide_eq_true h, Bool.true_or]
      · rw [decide_eq_true h, Bool.or_true]
  exact hsorted.imp fun h => of_decide_eq_true h

/-- The candidates, best first. -/
def candidates (score : α → Nat) (eligible : α → Bool) (xs : List α) : List α :=
  ((ranked score xs).filter (fun x => decide (0 < score x))).filter eligible

theorem mem_candidates {x : α} :
    x ∈ candidates score eligible xs ↔ x ∈ xs ∧ IsCandidate score eligible x := by
  unfold candidates
  rw [List.mem_filter, List.mem_filter, mem_ranked, decide_eq_true_iff, and_assoc]
  exact Iff.rfl

theorem candidates_descends (xs : List α) :
    (candidates score eligible xs).Pairwise (fun a b => score b ≤ score a) :=
  ((ranked_descends xs).filter _).filter _

/-- The head of the candidates leads. -/
theorem leads_head {best : α} {rest : List α}
    (h : candidates score eligible xs = best :: rest) : Leads score eligible xs best := by
  have hmem : best ∈ candidates score eligible xs := h ▸ List.mem_cons_self
  have hsorted : (candidates score eligible xs).Pairwise (fun a b => score b ≤ score a) :=
    candidates_descends xs
  rw [h] at hsorted
  refine ⟨(mem_candidates.mp hmem).1, (mem_candidates.mp hmem).2, ?_⟩
  intro y hy hcandidate
  have hyc : y ∈ candidates score eligible xs := mem_candidates.mpr ⟨hy, hcandidate⟩
  rw [h] at hyc
  rcases List.mem_cons.mp hyc with rfl | hrest
  · exact Nat.le_refl _
  · exact List.rel_of_pairwise_cons hsorted hrest

/-- Those that lead score alike. -/
theorem Leads.score_eq {x y : α} (hx : Leads score eligible xs x)
    (hy : Leads score eligible xs y) : score x = score y :=
  Nat.le_antisymm (hy.top x hx.mem hx.candidate) (hx.top y hy.mem hy.candidate)

/-- What scores as the leader leads with it. -/
theorem Leads.of_score_eq {x y : α} (hx : Leads score eligible xs x) (hy : y ∈ xs)
    (hcandidate : IsCandidate score eligible y) (hscore : score y = score x) :
    Leads score eligible xs y :=
  ⟨hy, hcandidate, fun z hz hz' => hscore ▸ hx.top z hz hz'⟩

/-- The rivals are counted among the candidates. -/
theorem rivals_eq (value : Nat) :
    rivals score eligible xs value
      = ((candidates score eligible xs).filter (fun x => score x == value)).length := by
  unfold rivals candidates
  rw [← List.countP_eq_length_filter, List.countP_filter, List.countP_filter,
    (ranked_perm xs).countP_eq]
  refine List.countP_congr fun x _ => ?_
  simp only [Bool.and_eq_true]
  constructor
  · rintro ⟨⟨hpos, hel⟩, hscore⟩
    exact ⟨⟨hscore, hel⟩, hpos⟩
  · rintro ⟨⟨hscore, hel⟩, hpos⟩
    exact ⟨⟨hpos, hel⟩, hscore⟩

/-- A leader without a rival leads alone. -/
theorem Leads.unique {x y : α} (hx : Leads score eligible xs x) (hy : Leads score eligible xs y)
    (hone : rivals score eligible xs (score x) = 1) : x = y := by
  rw [rivals_eq] at hone
  obtain ⟨only, honly⟩ := List.length_eq_one_iff.mp hone
  have hmem : ∀ z, Leads score eligible xs z → score z = score x → z ∈ [only] := by
    intro z hz hscore
    rw [← honly]
    exact List.mem_filter.mpr
      ⟨mem_candidates.mpr ⟨hz.mem, hz.candidate⟩, beq_iff_eq.mpr hscore⟩
  rw [List.mem_singleton.mp (hmem x hx rfl),
    List.mem_singleton.mp (hmem y hy (hy.score_eq hx))]

/-- How `choose` is decided, given the candidates. -/
theorem choose_of_candidates {best : α} {rest : List α}
    (h : candidates score eligible xs = best :: rest) :
    choose score eligible xs
      = if rivals score eligible xs (score best) = 1 then .chosen best else .tie := by
  have hrivals : rivals score eligible xs (score best)
      = (rest.filter (fun x => score x == score best)).length + 1 := by
    rw [rivals_eq, h, List.filter_cons_of_pos (by exact beq_self_eq_true _), List.length_cons]
  have hbest : best ∈ candidates score eligible xs := h ▸ List.mem_cons_self
  have hscoring : best ∈ (ranked score xs).filter (fun x => decide (0 < score x)) :=
    (List.mem_filter.mp hbest).1
  unfold choose
  unfold candidates at h
  cases hlist : (ranked score xs).filter (fun x => decide (0 < score x)) with
  | nil =>
    rw [hlist] at hscoring
    exact nomatch hscoring
  | cons top others =>
    rw [hlist] at h
    simp only [h]
    rw [hrivals]
    cases hties : rest.filter (fun x => score x == score best) with
    | nil =>
      show (if true = true then Choice.chosen best else .tie) = _
      rw [if_pos rfl, if_pos (by exact rfl)]
    | cons y ys =>
      show (if false = true then Choice.chosen best else .tie) = _
      rw [if_neg Bool.false_ne_true, if_neg (by rw [List.length_cons]; omega)]

/-- `choose` without a candidate. -/
theorem choose_of_no_candidates (h : candidates score eligible xs = []) :
    choose score eligible xs
      = match (ranked score xs).filter (fun x => decide (0 < score x)) with
        | [] => .none
        | top :: _ => .blocked top := by
  unfold choose
  unfold candidates at h
  cases hlist : (ranked score xs).filter (fun x => decide (0 < score x)) with
  | nil => rfl
  | cons top others =>
    rw [hlist] at h
    simp only [h]

/-! ## What a choice comes to -/

theorem choose_eq_chosen_iff {x : α} :
    choose score eligible xs = .chosen x
      ↔ Leads score eligible xs x ∧ rivals score eligible xs (score x) = 1 := by
  cases hlist : candidates score eligible xs with
  | nil =>
    rw [choose_of_no_candidates hlist]
    constructor
    · intro h
      split at h <;> exact nomatch h
    · intro ⟨hleads, _⟩
      have hmem := mem_candidates.mpr ⟨hleads.mem, hleads.candidate⟩
      rw [hlist] at hmem
      exact nomatch hmem
  | cons best rest =>
    have hbest := leads_head hlist
    rw [choose_of_candidates hlist]
    constructor
    · intro h
      by_cases hone : rivals score eligible xs (score best) = 1
      · rw [if_pos hone] at h
        cases h
        exact ⟨hbest, hone⟩
      · rw [if_neg hone] at h
        exact nomatch h
    · intro ⟨hleads, hone⟩
      have hscore := hbest.score_eq hleads
      have hsame : x = best := hleads.unique hbest hone
      rw [if_pos (hscore ▸ hone), hsame]

theorem choose_eq_tie_iff :
    choose score eligible xs = .tie
      ↔ ∃ x, Leads score eligible xs x ∧ rivals score eligible xs (score x) ≠ 1 := by
  cases hlist : candidates score eligible xs with
  | nil =>
    rw [choose_of_no_candidates hlist]
    constructor
    · intro h
      split at h <;> exact nomatch h
    · intro ⟨x, hleads, _⟩
      have hmem := mem_candidates.mpr ⟨hleads.mem, hleads.candidate⟩
      rw [hlist] at hmem
      exact nomatch hmem
  | cons best rest =>
    have hbest := leads_head hlist
    rw [choose_of_candidates hlist]
    constructor
    · intro h
      refine ⟨best, hbest, fun hone => ?_⟩
      rw [if_pos hone] at h
      exact nomatch h
    · intro ⟨x, hleads, hne⟩
      rw [if_neg fun hone => hne (hleads.score_eq hbest ▸ hone)]

/-- Nothing is chosen and nothing blocked when nothing scores. -/
theorem choose_eq_none_iff :
    choose score eligible xs = .none ↔ ∀ x ∈ xs, score x = 0 := by
  have hscores : (ranked score xs).filter (fun x => decide (0 < score x)) = []
      ↔ ∀ x ∈ xs, score x = 0 := by
    rw [List.filter_eq_nil_iff]
    refine forall_congr' fun x => ?_
    rw [mem_ranked, decide_eq_true_iff, Nat.pos_iff_ne_zero, not_not]
  rw [← hscores]
  cases hlist : candidates score eligible xs with
  | nil =>
    rw [choose_of_no_candidates hlist]
    cases (ranked score xs).filter (fun x => decide (0 < score x)) with
    | nil => exact ⟨fun _ => rfl, fun _ => rfl⟩
    | cons top others => exact ⟨nofun, nofun⟩
  | cons best rest =>
    have hbest := leads_head hlist
    rw [choose_of_candidates hlist]
    constructor
    · intro h
      split at h <;> exact nomatch h
    · intro h
      have hzero := hscores.mp h best hbest.mem
      exact absurd hbest.candidate.1 (by rw [hzero]; exact Nat.lt_irrefl 0)

/-- The choice is blocked when something scores, but no candidate. -/
theorem blocked_iff :
    (∃ top, choose score eligible xs = .blocked top)
      ↔ (∃ x ∈ xs, 0 < score x) ∧ ∀ x ∈ xs, ¬ IsCandidate score eligible x := by
  cases hlist : candidates score eligible xs with
  | nil =>
    have hno : ∀ x ∈ xs, ¬ IsCandidate score eligible x := by
      intro x hx hcandidate
      have hmem := mem_candidates.mpr ⟨hx, hcandidate⟩
      rw [hlist] at hmem
      exact nomatch hmem
    rw [choose_of_no_candidates hlist]
    cases hscoring : (ranked score xs).filter (fun x => decide (0 < score x)) with
    | nil =>
      constructor
      · intro ⟨_, h⟩
        exact nomatch h
      · intro ⟨⟨x, hx, hpos⟩, _⟩
        have hmem : x ∈ (ranked score xs).filter (fun x => decide (0 < score x)) :=
          List.mem_filter.mpr ⟨mem_ranked.mpr hx, decide_eq_true hpos⟩
        rw [hscoring] at hmem
        exact nomatch hmem
    | cons top others =>
      have htop : top ∈ (ranked score xs).filter (fun x => decide (0 < score x)) :=
        hscoring ▸ List.mem_cons_self
      obtain ⟨hmem, hpos⟩ := List.mem_filter.mp htop
      exact ⟨fun _ => ⟨⟨top, mem_ranked.mp hmem, of_decide_eq_true hpos⟩, hno⟩,
        fun _ => ⟨top, rfl⟩⟩
  | cons best rest =>
    have hbest := leads_head hlist
    rw [choose_of_candidates hlist]
    constructor
    · intro ⟨top, h⟩
      split at h <;> exact nomatch h
    · intro ⟨_, hno⟩
      exact absurd hbest.candidate (hno best hbest.mem)

/-! ## The order of the list -/

section Order

variable {ys : List α} {scoreOf : β → Nat} {eligibleOf : β → Bool} {standing : α → β}
  (hscore : ∀ x, score x = scoreOf (standing x))
  (heligible : ∀ x, eligible x = eligibleOf (standing x))

include hscore heligible

theorem rivals_map (xs : List α) (value : Nat) :
    rivals score eligible xs value = rivals scoreOf eligibleOf (xs.map standing) value := by
  unfold rivals
  rw [List.countP_map]
  refine List.countP_congr fun x _ => ?_
  rw [Function.comp_apply, hscore, heligible]

/-- Where what counts about the elements is permuted, what is chosen counts the same. -/
theorem chosen_of_perm {x : α} (hperm : (xs.map standing).Perm (ys.map standing))
    (h : choose score eligible xs = .chosen x) :
    ∃ y, choose score eligible ys = .chosen y ∧ standing y = standing x := by
  obtain ⟨hleads, hone⟩ := choose_eq_chosen_iff.mp h
  obtain ⟨y, hy, hsame⟩ := List.mem_map.mp (hperm.mem_iff.mp (List.mem_map_of_mem hleads.mem))
  have hyx : score y = score x := by rw [hscore, hscore, hsame]
  refine ⟨y, choose_eq_chosen_iff.mpr ⟨⟨hy, ?_, ?_⟩, ?_⟩, hsame⟩
  · refine ⟨hyx ▸ hleads.candidate.1, ?_⟩
    rw [heligible, hsame, ← heligible]
    exact hleads.candidate.2
  · intro z hz hcandidate
    obtain ⟨w, hw, hwz⟩ := List.mem_map.mp (hperm.mem_iff.mpr (List.mem_map_of_mem hz))
    have hwscore : score w = score z := by rw [hscore, hscore, hwz]
    have hwcandidate : IsCandidate score eligible w := by
      refine ⟨hwscore ▸ hcandidate.1, ?_⟩
      rw [heligible, hwz, ← heligible]
      exact hcandidate.2
    rw [hyx, ← hwscore]
    exact hleads.top w hw hwcandidate
  · rw [hyx, rivals_map hscore heligible, rivals, ← hperm.countP_eq, ← rivals,
      ← rivals_map hscore heligible]
    exact hone

end Order

end RankedChoice
