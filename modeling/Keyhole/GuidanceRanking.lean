import Keyhole.StableSort
import Mathlib.Data.String.Basic
import Mathlib.Data.Prod.Lex
import Mathlib.Algebra.Order.Ring.Rat
import Mathlib.Order.Interval.Set.Defs

/-!
# Alignment guidance: its order, the readiness, the next action

`alignment/ranker.py` sorts guidance items, derives a readiness from them and picks the next
action.

* `renderGuidance`: the ranker;
* `renderGuidance_perm`: where no two items share an id, their order does not matter;
* `deriveReadiness_eq`: the readiness, by the items alone;
* `lawful_iff`: the readiness never rewards a gap exactly where no inferred gap stands beside
  a verified finding without a verified gap. -/

namespace KeyholeAlignment

open StableSort

/-! ## Items -/

/-- `GuidanceClass`, in the order of `_CLASS_ORDER`. -/
inductive GuidanceClass where
  | gap
  | warning
  | suggestion
  | nextBestAction
  | inference
  deriving DecidableEq

/-- `GuidanceSeverity`. -/
inductive GuidanceSeverity where
  | high
  | medium
  | low
  | info
  deriving DecidableEq

/-- `GuidanceState`. -/
inductive GuidanceState where
  | verified
  | inferred
  deriving DecidableEq

/-- `AlignmentReadiness`. -/
inductive AlignmentReadiness where
  | foreign
  | partiallyAligned
  | registrationReady
  | runReady
  | blocked
  deriving DecidableEq

/-- `_CLASS_ORDER`. -/
def classOrder : GuidanceClass → Nat
  | .gap => 0
  | .warning => 1
  | .suggestion => 2
  | .nextBestAction => 3
  | .inference => 4

/-- `_STATE_ORDER`. -/
def stateOrder : GuidanceState → Nat
  | .verified => 0
  | .inferred => 1

/-- `_SEVERITY_ORDER`. -/
def severityOrder : GuidanceSeverity → Nat
  | .high => 0
  | .medium => 1
  | .low => 2
  | .info => 3

/-- `GuidanceItem`; the confidence is a float between 0 and 1. -/
structure GuidanceItem where
  id : String
  guidanceClass : GuidanceClass
  severity : GuidanceSeverity := .medium
  confidence : Set.Icc (0 : ℚ) 1 := ⟨1, zero_le_one, le_refl 1⟩
  state : GuidanceState := .verified
  title : String
  detail : String := ""
  repair : List String := []
  source : String := ""
  artifactRef : String := ""

/-- The tuples that `sort_key` returns, in their order. -/
abbrev SortKey := Nat ×ₗ Nat ×ₗ Nat ×ₗ ℚ ×ₗ String

/-- `GuidanceItem.sort_key`. -/
def GuidanceItem.sortKey (i : GuidanceItem) : SortKey :=
  toLex (classOrder i.guidanceClass, toLex (stateOrder i.state,
    toLex (severityOrder i.severity, toLex (-i.confidence.val, i.id))))

/-- `AlignmentGuidanceRequest`, as far as the ranker reads it. -/
structure AlignmentGuidanceRequest where
  guidanceItems : List GuidanceItem := []
  correlationId : String := ""

/-- `AlignmentGuidanceResult`, as far as the ranker fills it. -/
structure AlignmentGuidanceResult where
  success : Bool
  readiness : AlignmentReadiness
  items : List GuidanceItem
  nextBestAction : Option String
  verifiedCount : Nat
  inferredCount : Nat
  gapCount : Nat
  warningCount : Nat
  suggestionCount : Nat
  noMutationApplied : Bool
  correlationId : String
  analysisMode : String

/-! ## The ranker -/

/-- A gap that was verified. -/
def verifiedGap (i : GuidanceItem) : Bool :=
  decide (i.state = .verified ∧ i.guidanceClass = .gap)

/-- `_derive_readiness`. -/
def deriveReadiness (items : List GuidanceItem) : AlignmentReadiness :=
  let verifiedGaps := items.filter verifiedGap
  let highVerifiedGaps := verifiedGaps.filter fun g => decide (g.severity = .high)
  let verifiedItems := items.filter fun i => decide (i.state = .verified)
  if highVerifiedGaps ≠ [] then .blocked
  else if verifiedGaps ≠ [] then .partiallyAligned
  else if verifiedItems = [] ∧ items ≠ [] then .foreign
  else if items = [] then .foreign
  else if items.all fun i => decide (i.guidanceClass ∈
      [GuidanceClass.warning, .suggestion, .inference]) then .registrationReady
  else .runReady

/-- `_READINESS_ACTIONS`. -/
def readinessAction : AlignmentReadiness → String
  | .foreign => "This repo is still foreign. Complete registration readiness before governed " ++
      "run attempts."
  | .partiallyAligned => "Resolve verified gaps before attempting governed runs."
  | .blocked => "Resolve all HIGH-severity verified gaps before proceeding."
  | .registrationReady => "Run keyhole repo register to complete governed registration."
  | .runReady => "Run keyhole run --context auto to begin a governed execution."

/-- The first repair step of the first item that has one. -/
def firstStep : List GuidanceItem → Option String
  | [] => none
  | i :: rest =>
      match i.repair with
      | step :: _ => some step
      | [] => firstStep rest

/-- `_select_next_best_action`. -/
def selectNextBestAction (items : List GuidanceItem) (readiness : AlignmentReadiness) :
    Option String :=
  match firstStep items with
  | some step => some step
  | none => some (readinessAction readiness)

/-- `render_guidance`. -/
def renderGuidance (request : AlignmentGuidanceRequest) (rawItems : Option (List GuidanceItem)) :
    AlignmentGuidanceResult :=
  let items := sortOn GuidanceItem.sortKey (rawItems.getD request.guidanceItems)
  let readiness := deriveReadiness items
  { success := true
    readiness := readiness
    items := items
    nextBestAction := selectNextBestAction items readiness
    verifiedCount := (items.filter fun i => decide (i.state = .verified)).length
    inferredCount := (items.filter fun i => decide (i.state = .inferred)).length
    gapCount := (items.filter fun i => decide (i.guidanceClass = .gap)).length
    warningCount := (items.filter fun i => decide (i.guidanceClass = .warning)).length
    suggestionCount := (items.filter fun i => decide (i.guidanceClass = .suggestion)).length
    noMutationApplied := true
    correlationId := request.correlationId
    analysisMode := "terminal" }

/-! ## The order of the input -/

/-- Items with one sort key have one id. -/
theorem id_of_sortKey {a b : GuidanceItem} (h : a.sortKey = b.sortKey) : a.id = b.id := by
  have hkeys := toLex.injective h
  have hstates := toLex.injective (Prod.mk.inj hkeys).2
  have hseverities := toLex.injective (Prod.mk.inj hstates).2
  have hconfidences := toLex.injective (Prod.mk.inj hseverities).2
  exact (Prod.mk.inj hconfidences).2

variable {items : List GuidanceItem}

/-- Where no two items share an id, the result does not depend on their order. -/
theorem renderGuidance_perm (request : AlignmentGuidanceRequest) {items' : List GuidanceItem}
    (hids : (items.map GuidanceItem.id).Nodup) (hperm : items'.Perm items) :
    renderGuidance request (some items') = renderGuidance request (some items) := by
  have hsame : sortOn GuidanceItem.sortKey items' = sortOn GuidanceItem.sortKey items :=
    sortOn_eq_of_perm hperm fun a ha b hb hkey =>
      List.inj_on_of_nodup_map hids ha hb (id_of_sortKey hkey)
  rw [renderGuidance, renderGuidance, Option.getD_some, Option.getD_some, hsame]

/-! ## The readiness -/

theorem filter_ne_nil {p : GuidanceItem → Bool} :
    items.filter p ≠ [] ↔ ∃ i ∈ items, p i = true := by
  constructor
  · intro h
    obtain ⟨i, hi⟩ := List.exists_mem_of_ne_nil _ h
    exact ⟨i, List.mem_filter.mp hi⟩
  · rintro ⟨i, hi⟩
    exact List.ne_nil_of_mem (List.mem_filter.mpr hi)

/-- The readiness of a list, by what is in it. -/
theorem deriveReadiness_eq (items : List GuidanceItem) : deriveReadiness items =
    if ∃ i ∈ items, verifiedGap i = true ∧ i.severity = .high then .blocked
    else if ∃ i ∈ items, verifiedGap i = true then .partiallyAligned
    else if ∀ i ∈ items, i.state ≠ .verified then .foreign
    else if ∀ i ∈ items, i.guidanceClass ∈ [GuidanceClass.warning, .suggestion, .inference]
      then .registrationReady
    else .runReady := by
  have hhigh : (items.filter verifiedGap).filter (fun g => decide (g.severity = .high)) ≠ [] ↔
      ∃ i ∈ items, verifiedGap i = true ∧ i.severity = .high := by
    rw [List.filter_filter, filter_ne_nil]
    simp only [Bool.and_eq_true, decide_eq_true_iff, and_comm]
  have hgap : items.filter verifiedGap ≠ [] ↔ ∃ i ∈ items, verifiedGap i = true := filter_ne_nil
  have hunverified : items.filter (fun i => decide (i.state = .verified)) = [] ↔
      ∀ i ∈ items, i.state ≠ .verified := by
    simp only [List.filter_eq_nil_iff, decide_eq_true_iff, ne_eq]
  have hmild : items.all (fun i => decide (i.guidanceClass ∈
      [GuidanceClass.warning, .suggestion, .inference])) = true ↔
        ∀ i ∈ items, i.guidanceClass ∈ [GuidanceClass.warning, .suggestion, .inference] := by
    simp only [List.all_eq_true, decide_eq_true_iff]
  rw [deriveReadiness]
  by_cases h₁ : ∃ i ∈ items, verifiedGap i = true ∧ i.severity = .high
  · rw [if_pos (hhigh.mpr h₁), if_pos h₁]
  rw [if_neg (fun h => h₁ (hhigh.mp h)), if_neg h₁]
  by_cases h₂ : ∃ i ∈ items, verifiedGap i = true
  · rw [if_pos (hgap.mpr h₂), if_pos h₂]
  rw [if_neg (fun h => h₂ (hgap.mp h)), if_neg h₂]
  by_cases h₃ : ∀ i ∈ items, i.state ≠ .verified
  · rw [if_pos h₃]
    by_cases hnil : items = []
    · rw [if_neg (fun h => h.2 hnil), if_pos hnil]
    · rw [if_pos ⟨hunverified.mpr h₃, hnil⟩]
  · have hnil : items ≠ [] := by
      rintro rfl
      exact h₃ fun i hi => absurd hi List.not_mem_nil
    rw [if_neg (fun h => h₃ (hunverified.mp h.1)), if_neg hnil, if_neg h₃]
    by_cases h₄ : ∀ i ∈ items, i.guidanceClass ∈ [GuidanceClass.warning, .suggestion, .inference]
    · rw [if_pos (hmild.mpr h₄), if_pos h₄]
    · rw [if_neg (fun h => h₄ (hmild.mp h)), if_neg h₄]

/-- The readiness of a list is that of its sorted list. -/
theorem readiness_renderGuidance (request : AlignmentGuidanceRequest)
    (items : List GuidanceItem) :
    (renderGuidance request (some items)).readiness = deriveReadiness items := by
  show deriveReadiness (sortOn GuidanceItem.sortKey items) = deriveReadiness items
  rw [deriveReadiness_eq, deriveReadiness_eq]
  simp only [mem_sortOn]

/-- The order BLOCKED < PARTIALLY_ALIGNED < FOREIGN < REGISTRATION_READY < RUN_READY. -/
def rank : AlignmentReadiness → Nat
  | .blocked => 0
  | .partiallyAligned => 1
  | .foreign => 2
  | .registrationReady => 3
  | .runReady => 4

/-- A high verified gap, and then any verified gap, decides the readiness. -/
theorem deriveReadiness_of_verifiedGap
    (h : ∃ i ∈ items, verifiedGap i = true) : deriveReadiness items =
      if ∃ i ∈ items, verifiedGap i = true ∧ i.severity = .high then .blocked
      else .partiallyAligned := by
  rw [deriveReadiness_eq, if_pos h]

/-- Without a verified gap the readiness is FOREIGN at least. -/
theorem rank_of_no_verifiedGap
    (h : ¬∃ i ∈ items, verifiedGap i = true) : 2 ≤ rank (deriveReadiness items) := by
  have hhigh : ¬∃ i ∈ items, verifiedGap i = true ∧ i.severity = .high :=
    fun ⟨i, hi, hgap, _⟩ => h ⟨i, hi, hgap⟩
  rw [deriveReadiness_eq, if_neg hhigh, if_neg h]
  by_cases h₃ : ∀ i ∈ items, i.state ≠ .verified
  · rw [if_pos h₃]
    exact Nat.le_refl 2
  · rw [if_neg h₃]
    by_cases h₄ : ∀ i ∈ items, i.guidanceClass ∈ [GuidanceClass.warning, .suggestion, .inference]
    · rw [if_pos h₄]
      exact Nat.le_succ 2
    · rw [if_neg h₄]
      exact Nat.le_add_left 2 2

/-- More verified gaps, and more high ones among them, do not raise the readiness. -/
theorem rank_mono_of_gaps {items' : List GuidanceItem}
    (hhigh : (∃ i ∈ items, verifiedGap i = true ∧ i.severity = .high) →
      ∃ i ∈ items', verifiedGap i = true ∧ i.severity = .high)
    (hgap : ∃ i ∈ items', verifiedGap i = true) :
    rank (deriveReadiness items') ≤ rank (deriveReadiness items) := by
  rw [deriveReadiness_of_verifiedGap hgap]
  by_cases h : ∃ i ∈ items', verifiedGap i = true ∧ i.severity = .high
  · rw [if_pos h]
    exact Nat.zero_le _
  · rw [if_neg h]
    by_cases hold : ∃ i ∈ items, verifiedGap i = true
    · rw [deriveReadiness_of_verifiedGap hold, if_neg (fun hh => h (hhigh hh))]
    · exact Nat.le_trans (Nat.le_succ 1) (rank_of_no_verifiedGap hold)

/-- A gap, none that was verified, and a verified finding of another class: the branches for
    gaps and for unverified lists are both passed. -/
def Masked (items : List GuidanceItem) : Prop :=
  (∃ i ∈ items, i.guidanceClass = .gap) ∧ (¬∃ i ∈ items, verifiedGap i = true) ∧
    ∃ i ∈ items, i.state = .verified

theorem deriveReadiness_of_masked (h : Masked items) :
    deriveReadiness items = .runReady := by
  obtain ⟨⟨g, hg, hclass⟩, hnone, ⟨v, hv, hverified⟩⟩ := h
  have hhigh : ¬∃ i ∈ items, verifiedGap i = true ∧ i.severity = .high :=
    fun ⟨i, hi, hgap, _⟩ => hnone ⟨i, hi, hgap⟩
  have hstate : ¬∀ i ∈ items, i.state ≠ .verified := fun hall => hall v hv hverified
  have hmild : ¬∀ i ∈ items, i.guidanceClass ∈
      [GuidanceClass.warning, .suggestion, .inference] := by
    intro hall
    have hgap := hall g hg
    rw [hclass] at hgap
    exact absurd hgap (by decide)
  rw [deriveReadiness_eq, if_neg hhigh, if_neg hnone, if_neg hstate, if_neg hmild]

/-- Otherwise a gap keeps the readiness at FOREIGN or below. -/
theorem rank_of_gap (hmasked : ¬Masked items)
    (hgap : ∃ i ∈ items, i.guidanceClass = .gap) : rank (deriveReadiness items) ≤ 2 := by
  by_cases hverified : ∃ i ∈ items, verifiedGap i = true
  · rw [deriveReadiness_of_verifiedGap hverified]
    by_cases hhigh : ∃ i ∈ items, verifiedGap i = true ∧ i.severity = .high
    · rw [if_pos hhigh]
      exact Nat.zero_le 2
    · rw [if_neg hhigh]
      exact Nat.le_succ 1
  · have hstate : ∀ i ∈ items, i.state ≠ .verified :=
      fun i hi hv => hmasked ⟨hgap, hverified, i, hi, hv⟩
    have hhigh : ¬∃ i ∈ items, verifiedGap i = true ∧ i.severity = .high :=
      fun ⟨i, hi, h, _⟩ => hverified ⟨i, hi, h⟩
    rw [deriveReadiness_eq, if_neg hhigh, if_neg hverified, if_pos hstate]
    exact Nat.le_refl 2

/-! ## The next action -/

/-- In a sorted list the first item with a repair step is a gap, where a gap has one. -/
theorem firstStep_of_gap
    (hsorted : items.Pairwise fun a b => a.sortKey ≤ b.sortKey) {g : GuidanceItem}
    (hg : g ∈ items) (hclass : g.guidanceClass = .gap) (hrepair : g.repair ≠ []) :
    ∃ i ∈ items, i.guidanceClass = .gap ∧ ∃ step rest, i.repair = step :: rest ∧
      firstStep items = some step := by
  induction items with
  | nil => exact absurd hg List.not_mem_nil
  | cons i rest ih =>
    obtain ⟨hfirst, hrest⟩ := List.pairwise_cons.mp hsorted
    cases hsteps : i.repair with
    | cons step steps =>
      refine ⟨i, List.mem_cons_self, ?_, step, steps, hsteps, ?_⟩
      · rcases List.mem_cons.mp hg with rfl | hlater
        · exact hclass
        · -- a later gap has no smaller class than the first item
          have hkey : classOrder i.guidanceClass ≤ classOrder g.guidanceClass :=
            (Prod.Lex.le_iff.mp (hfirst g hlater)).elim Nat.le_of_lt fun h => Nat.le_of_eq h.1
          rw [hclass] at hkey
          cases hi : i.guidanceClass with
          | gap => rfl
          | _ =>
            rw [hi] at hkey
            exact absurd hkey (by decide)
      · rw [firstStep, hsteps]
    | nil =>
      have hlater : g ∈ rest := by
        rcases List.mem_cons.mp hg with rfl | hlater
        · exact absurd hsteps hrepair
        · exact hlater
      obtain ⟨j, hj, hgap, step, steps, hj', hstep⟩ := ih hrest hlater
      refine ⟨j, List.mem_cons_of_mem i hj, hgap, step, steps, hj', ?_⟩
      rw [firstStep, hsteps]
      exact hstep

/-! ## What the guidance promises -/

/-- What the guidance for a list of items promises. -/
structure Lawful (request : AlignmentGuidanceRequest) (items : List GuidanceItem) : Prop where
  orderBlind : (items.map GuidanceItem.id).Nodup → ∀ items' : List GuidanceItem,
    items'.Perm items → renderGuidance request (some items') = renderGuidance request (some items)
  gapNotReady : (∃ i ∈ items, i.guidanceClass = .gap) →
    (renderGuidance request (some items)).readiness ≠ .runReady
  addGap : ∀ before after g, items = before ++ after → verifiedGap g = true →
    rank (renderGuidance request (some (before ++ g :: after))).readiness ≤
      rank (renderGuidance request (some items)).readiness
  replaceGap : ∀ before after g s, items = before ++ g :: after → g.guidanceClass = .gap →
    s.guidanceClass = .suggestion →
    rank (renderGuidance request (some items)).readiness ≤
      rank (renderGuidance request (some (before ++ s :: after))).readiness
  nextAction : (∃ i ∈ items, i.guidanceClass = .gap ∧ i.repair ≠ []) →
    ∃ i ∈ items, i.guidanceClass = .gap ∧ ∃ step rest, i.repair = step :: rest ∧
      (renderGuidance request (some items)).nextBestAction = some step

theorem gap_of_verifiedGap {i : GuidanceItem} (h : verifiedGap i = true) :
    i.guidanceClass = .gap := (of_decide_eq_true h).2

/-- A suggestion in place of a gap does not lower the readiness. -/
theorem rank_replaceGap {before after : List GuidanceItem} {g s : GuidanceItem}
    (hmasked : ¬Masked (before ++ g :: after)) (hg : g.guidanceClass = .gap)
    (hs : s.guidanceClass = .suggestion) :
    rank (deriveReadiness (before ++ g :: after)) ≤
      rank (deriveReadiness (before ++ s :: after)) := by
  -- what is a gap in the new list was in the old one
  have hkept : ∀ i ∈ before ++ s :: after, i.guidanceClass = .gap → i ∈ before ++ g :: after := by
    intro i hi hgap
    rcases List.mem_append.mp hi with hbefore | hrest
    · exact List.mem_append_left _ hbefore
    · rcases List.mem_cons.mp hrest with rfl | hafter
      · exact nomatch hs.symm.trans hgap
      · exact List.mem_append_right _ (List.mem_cons_of_mem g hafter)
  have hmem : g ∈ before ++ g :: after := List.mem_append_right _ List.mem_cons_self
  by_cases hleft : ∃ i ∈ before ++ s :: after, verifiedGap i = true
  · refine rank_mono_of_gaps ?_ ?_
    · rintro ⟨i, hi, hgap, hhigh⟩
      exact ⟨i, hkept i hi (gap_of_verifiedGap hgap), hgap, hhigh⟩
    · obtain ⟨i, hi, hgap⟩ := hleft
      exact ⟨i, hkept i hi (gap_of_verifiedGap hgap), hgap⟩
  · exact Nat.le_trans (rank_of_gap hmasked ⟨g, hmem, hg⟩) (rank_of_no_verifiedGap hleft)

/-- The guidance keeps its promise exactly where no gap is masked. -/
theorem lawful_iff (request : AlignmentGuidanceRequest) (items : List GuidanceItem) :
    Lawful request items ↔ ¬Masked items := by
  constructor
  · intro h hmasked
    refine h.gapNotReady hmasked.1 ?_
    rw [readiness_renderGuidance]
    exact deriveReadiness_of_masked hmasked
  · intro hmasked
    refine ⟨fun hids _ => renderGuidance_perm request hids, ?_, ?_, ?_, ?_⟩
    · intro hgap hready
      have hrank := rank_of_gap hmasked hgap
      rw [readiness_renderGuidance] at hready
      rw [hready] at hrank
      exact absurd hrank (by decide)
    · rintro before after g rfl hgap
      have hmem : g ∈ before ++ g :: after := List.mem_append_right _ List.mem_cons_self
      rw [readiness_renderGuidance, readiness_renderGuidance]
      refine rank_mono_of_gaps ?_ ⟨g, hmem, hgap⟩
      rintro ⟨i, hi, hother⟩
      refine ⟨i, ?_, hother⟩
      rcases List.mem_append.mp hi with hbefore | hafter
      · exact List.mem_append_left _ hbefore
      · exact List.mem_append_right _ (List.mem_cons_of_mem g hafter)
    · rintro before after g s rfl hg hs
      rw [readiness_renderGuidance, readiness_renderGuidance]
      exact rank_replaceGap hmasked hg hs
    · rintro ⟨g, hg, hclass, hrepair⟩
      obtain ⟨i, hi, hgap, step, rest, hsteps, hstep⟩ :=
        firstStep_of_gap (pairwise_sortOn GuidanceItem.sortKey items) (mem_sortOn.mpr hg) hclass
          hrepair
      refine ⟨i, mem_sortOn.mp hi, hgap, step, rest, hsteps, ?_⟩
      show selectNextBestAction (sortOn GuidanceItem.sortKey items) _ = some step
      rw [selectNextBestAction, hstep]

/-! ## A gap that is masked -/

/-- A gap that was only inferred. -/
def inferredGap : GuidanceItem where
  id := "gap.contract.missing_provider_pin"
  guidanceClass := .gap
  state := .inferred
  title := "Provider is not pinned"

/-- A warning that was verified. -/
def verifiedWarning : GuidanceItem where
  id := "warning.readme.missing"
  guidanceClass := .warning
  title := "No README"

/-- An inferred gap beside a verified warning is RUN_READY; with a suggestion in its place the
    list is REGISTRATION_READY. -/
theorem masked_gap_ready : ([inferredGap, verifiedWarning].map GuidanceItem.id).Nodup ∧
    (renderGuidance {} (some [inferredGap, verifiedWarning])).readiness = .runReady ∧
    (renderGuidance {} (some [{ inferredGap with guidanceClass := .suggestion },
      verifiedWarning])).readiness = .registrationReady ∧
    ¬∀ request items, (items.map GuidanceItem.id).Nodup → Lawful request items := by
  have hids : ([inferredGap, verifiedWarning].map GuidanceItem.id).Nodup := by decide
  have hready : (renderGuidance {} (some [inferredGap, verifiedWarning])).readiness =
      .runReady := by
    rw [readiness_renderGuidance]
    rfl
  refine ⟨hids, hready, ?_, fun h => ?_⟩
  · rw [readiness_renderGuidance]
    rfl
  · exact (h {} _ hids).gapNotReady ⟨inferredGap, List.mem_cons_self, rfl⟩ hready

end KeyholeAlignment
