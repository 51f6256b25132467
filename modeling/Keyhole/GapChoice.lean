import Keyhole.GapSelection
import Keyhole.RankedChoice

/-!
# Which gap is selected

`_select_gap_id` chooses the unique best of the gap objects of a document; a gap object that
stands twice in it counts twice.

* `selectGapId_eq`: the selection is a ranked choice;
* `Reordered`, `standings_perm`: the lists of a document, permuted;
* `selectsExactly_iff`: the selection is exact and order-blind, unless the best gap stands in the
  document several times and has no rival but itself. -/

namespace KeyholeGapChoice

open KeyholeJson KeyholeEnvelope KeyholeGaps RankedChoice

/-- The gap objects of an answer. -/
def gapsOf (data : Dict) : List Dict := iterGapObjects (.obj data)

/-- The message of a tie. -/
def tieMessage : String :=
  "MULTIPLE_GAP_CANDIDATES: server returned multiple equally ranked " ++ "canonical gaps."

/-- What `_select_gap_id` makes of a choice. -/
def answerOf : Choice Dict → Except String String
  | .none => .ok ""
  | .blocked top => .error (noClaimableGapMessage top)
  | .tie => .error tieMessage
  | .chosen best => .ok (gapId best)

/-- The selection is a ranked choice among the gap objects. -/
theorem selectGapId_eq (data : Dict) (query : GapQuery) :
    selectGapId data query
      = answerOf (choose (gapScore query) isClaimableGap (gapsOf data)) := by
  unfold selectGapId choose rankGaps ranked gapsOf
  cases hscoring : ((iterGapObjects (.obj data)).mergeSort
      (fun a b => decide (gapScore query b ≤ gapScore query a))).filter
      (fun gap => decide (0 < gapScore query gap)) with
  | nil => rfl
  | cons top others =>
    simp only []
    cases hclaimable : (top :: others).filter isClaimableGap with
    | nil => rfl
    | cons best rest =>
      simp only []
      by_cases h : (rest.filter
          (fun gap => gapScore query gap == gapScore query best)).isEmpty = true
      · rw [if_pos h, if_pos h]
        rfl
      · rw [if_neg h, if_neg h]
        rfl

mutual

/-- Every gap object has a gap id. -/
theorem startsWith_gapId : (v : Json) → ∀ gap ∈ iterGapObjects v,
    startsWith (gapId gap) "gap_" = true
  | .arr items, gap, hmem => startsWith_gapId_items items gap hmem
  | .obj fields, gap, hmem => by
    rw [iterGapObjects] at hmem
    rcases List.mem_append.mp hmem with hself | hnested
    · by_cases h : startsWith (gapId fields) "gap_" = true
      · rw [if_pos h, List.mem_singleton] at hself
        exact hself ▸ h
      · rw [if_neg h] at hself
        exact nomatch hself
    · exact startsWith_gapId_fields fields gap hnested

theorem startsWith_gapId_items : (items : List Json) → ∀ gap ∈ iterGapItems items,
    startsWith (gapId gap) "gap_" = true
  | v :: rest, gap, hmem => by
    rcases List.mem_append.mp hmem with hv | hrest
    · exact startsWith_gapId v gap hv
    · exact startsWith_gapId_items rest gap hrest

theorem startsWith_gapId_fields : (fields : List (String × Json)) →
    ∀ gap ∈ iterGapFields fields, startsWith (gapId gap) "gap_" = true
  | (_, v) :: rest, gap, hmem => by
    rcases List.mem_append.mp hmem with hv | hrest
    · exact startsWith_gapId v gap hv
    · exact startsWith_gapId_fields rest gap hrest

end

theorem gapId_ne_empty {data : Dict} {gap : Dict} (h : gap ∈ gapsOf data) : gapId gap ≠ "" := by
  intro hempty
  have hstarts := startsWith_gapId (.obj data) gap h
  rw [hempty] at hstarts
  exact absurd hstarts (by decide)

/-! ## Errors -/

/-- An error whose message begins with this word is raised. -/
def Raises (word : String) (result : Except String String) : Prop :=
  ∃ message, result = .error message ∧ startsWith message word = true

theorem startsWith_append {s p : String} (h : startsWith s p = true) (t : String) :
    startsWith (s ++ t) p = true := by
  unfold startsWith at h ⊢
  rw [List.isPrefixOf_iff_prefix] at h ⊢
  rw [String.toList_append]
  exact h.trans (List.prefix_append _ _)

/-- A joined text begins with its first part. -/
theorem startsWith_join {s p : String} (h : startsWith s p = true) (sep : String)
    (rest : List String) : startsWith (join sep (s :: rest)) p = true := by
  cases rest with
  | nil => exact h
  | cons t others => exact startsWith_append (startsWith_append h sep) _

/-- Two words that differ in their first letter begin no text together. -/
theorem not_startsWith {s p q : String} {c d : Char} {cs ds : List Char}
    (hp : p.toList = c :: cs) (hq : q.toList = d :: ds) (hne : c ≠ d)
    (h : startsWith s p = true) : startsWith s q = false := by
  unfold startsWith at h ⊢
  rw [hp] at h
  rw [hq]
  cases hs : s.toList with
  | nil => rfl
  | cons e es =>
    rw [hs, List.isPrefixOf_cons_cons, Bool.and_eq_true, beq_iff_eq] at h
    rw [List.isPrefixOf_cons_cons, Bool.and_eq_false_iff]
    exact .inl (beq_eq_false_iff_ne.mpr fun hd => hne (h.1.trans hd.symm))

theorem noClaimable_message (gap : Dict) :
    startsWith (noClaimableGapMessage gap) "NO_CLAIMABLE_GAP" = true := by
  unfold noClaimableGapMessage
  exact startsWith_join (by decide +kernel) _ _

theorem tie_message : startsWith tieMessage "MULTIPLE_GAP_CANDIDATES" = true := by decide +kernel

theorem raises_noClaimable_iff (choice : Choice Dict) :
    Raises "NO_CLAIMABLE_GAP" (answerOf choice) ↔ ∃ top, choice = .blocked top := by
  cases choice with
  | none | chosen best => exact ⟨fun ⟨_, h, _⟩ => (nomatch h), fun ⟨_, h⟩ => (nomatch h)⟩
  | blocked top => exact ⟨fun _ => ⟨top, rfl⟩, fun _ => ⟨_, rfl, noClaimable_message top⟩⟩
  | tie =>
    constructor
    · intro ⟨message, h, hstarts⟩
      cases h
      exact absurd hstarts (by decide)
    · exact fun ⟨_, h⟩ => nomatch h

theorem raises_multiple_iff (choice : Choice Dict) :
    Raises "MULTIPLE_GAP_CANDIDATES" (answerOf choice) ↔ choice = .tie := by
  cases choice with
  | none | chosen best => exact ⟨fun ⟨_, h, _⟩ => (nomatch h), nofun⟩
  | tie => exact ⟨fun _ => rfl, fun _ => ⟨_, rfl, tie_message⟩⟩
  | blocked top =>
    constructor
    · intro ⟨message, h, hstarts⟩
      cases h
      rw [not_startsWith rfl rfl (by decide) (noClaimable_message top)] at hstarts
      exact nomatch hstarts
    · exact nofun

/-! ## Permuted documents -/

mutual

/-- The second document is the first with lists permuted, at any depth.  A list inside a gap object
    is part of the text it is ranked by: the gap must keep its score. -/
inductive Reordered (query : GapQuery) : Json → Json → Prop where
  | refl (v : Json) : Reordered query v v
  | arr {a b c : List Json} :
      ReorderedItems query a b → b.Perm c → Reordered query (.arr a) (.arr c)
  | obj {a b : Dict} : ReorderedFields query a b →
      (startsWith (gapId a) "gap_" = true → gapScore query b = gapScore query a) →
      Reordered query (.obj a) (.obj b)

/-- The elements of a list, each reordered in itself. -/
inductive ReorderedItems (query : GapQuery) : List Json → List Json → Prop where
  | nil : ReorderedItems query [] []
  | cons {v w : Json} {a b : List Json} :
      Reordered query v w → ReorderedItems query a b → ReorderedItems query (v :: a) (w :: b)

/-- The values of a dictionary, each reordered in itself. -/
inductive ReorderedFields (query : GapQuery) : Dict → Dict → Prop where
  | nil : ReorderedFields query [] []
  | cons {k : String} {v w : Json} {a b : Dict} :
      Reordered query v w → ReorderedFields query a b →
      ReorderedFields query ((k, v) :: a) ((k, w) :: b)

end

section Reordered

variable {query : GapQuery}

theorem ReorderedFields.get {a b : Dict} (h : ReorderedFields query a b) (k : String) :
    Reordered query (a.get k) (b.get k) := by
  induction a generalizing b with
  | nil =>
    cases h with
    | nil => exact .refl _
  | cons hd rest ih =>
    cases h with
    | @cons k' v w _ b' hv hrest =>
      rw [get_cons, get_cons]
      by_cases hk : k = k'
      · rw [if_pos hk, if_pos hk]
        exact hv
      · rw [if_neg hk, if_neg hk]
        exact ih hrest

theorem ReorderedFields.isEmpty {a b : Dict} (h : ReorderedFields query a b) :
    a.isEmpty = b.isEmpty := by
  cases h with
  | nil => rfl
  | cons _ _ => rfl

theorem ReorderedItems.isEmpty {a b : List Json} (h : ReorderedItems query a b) :
    a.isEmpty = b.isEmpty := by
  cases h with
  | nil => rfl
  | cons _ _ => rfl

theorem Reordered.truthy_eq {v w : Json} (h : Reordered query v w) : truthy v = truthy w := by
  cases h with
  | refl _ => rfl
  | arr hitems hperm =>
    show (!List.isEmpty _) = (!List.isEmpty _)
    rw [hitems.isEmpty, hperm.isEmpty_eq]
  | obj hfields _ =>
    show (!List.isEmpty _) = (!List.isEmpty _)
    rw [hfields.isEmpty]

theorem Reordered.truthyFlag_eq {v w : Json} (h : Reordered query v w) :
    truthyFlag v = truthyFlag w := by
  cases h with
  | refl _ | arr _ _ | obj _ _ => rfl

theorem Reordered.falseyFlag_eq {v w : Json} (h : Reordered query v w) :
    falseyFlag v = falseyFlag w := by
  cases h with
  | refl _ | arr _ _ | obj _ _ => rfl

theorem firstString_reordered {v₁ w₁ v₂ w₂ : Json} (h₁ : Reordered query v₁ w₁)
    (h₂ : Reordered query v₂ w₂) : firstString [v₁, v₂] = firstString [w₁, w₂] := by
  cases h₁ with
  | refl _ =>
    cases h₂ with
    | refl _ => rfl
    | arr _ _ | obj _ _ => cases v₁ <;> rfl
  | arr _ _ | obj _ _ =>
    cases h₂ with
    | refl _ | arr _ _ | obj _ _ => rfl

theorem ReorderedFields.gapId_eq {a b : Dict} (h : ReorderedFields query a b) :
    gapId a = gapId b := firstString_reordered (h.get "gap_id") (h.get "id")

/-- A text that begins with a bracket is no status. -/
theorem bracket_unlisted {words : List String} (c : Char)
    (hwords : ∀ word ∈ words, word.toList.head? ≠ some (lowerChar c)) (text : String)
    (htext : text.toList.head? = some c) : words.contains (lower text) = false := by
  rw [← Bool.not_eq_true, List.contains_iff_mem]
  intro hmem
  refine hwords _ hmem ?_
  unfold lower
  rw [String.toList_ofList, List.head?_map, htext]
  rfl

/-- No status is what a list or a dictionary prints as. -/
theorem Reordered.listed_eq {v w : Json} (h : Reordered query v w) (words : List String)
    (hwords : ∀ word ∈ words, word ≠ "" ∧ word.toList.head? ≠ some '[' ∧
      word.toList.head? ≠ some '\x7b') :
    words.contains (lower (strOr v)) = words.contains (lower (strOr w)) := by
  have hempty : words.contains (lower "") = false := by
    rw [← Bool.not_eq_true, List.contains_iff_mem]
    exact fun hmem => (hwords _ hmem).1 (by decide)
  have hlist : ∀ items, words.contains (lower (strOr (.arr items))) = false := by
    intro items
    unfold strOr
    by_cases ht : truthy (.arr items) = true
    · rw [if_pos ht]
      refine bracket_unlisted '[' (fun word hword => (hwords word hword).2.1) _ ?_
      show (String.toList ("[" ++ _ ++ "]")).head? = some '['
      rw [String.toList_append, String.toList_append]
      rfl
    · rw [if_neg ht]
      exact hempty
  have hdict : ∀ fields, words.contains (lower (strOr (.obj fields))) = false := by
    intro fields
    unfold strOr
    by_cases ht : truthy (.obj fields) = true
    · rw [if_pos ht]
      refine bracket_unlisted '\x7b' (fun word hword => (hwords word hword).2.2) _ ?_
      show (String.toList ("\x7b" ++ _ ++ "\x7d")).head? = some '\x7b'
      rw [String.toList_append, String.toList_append]
      rfl
    · rw [if_neg ht]
      exact hempty
  cases h with
  | refl _ => rfl
  | arr _ _ => rw [hlist, hlist]
  | obj _ _ => rw [hdict, hdict]

theorem Reordered.orElse {v₁ w₁ v₂ w₂ : Json} (h₁ : Reordered query v₁ w₁)
    (h₂ : Reordered query v₂ w₂) :
    Reordered query (KeyholeJson.orElse v₁ v₂) (KeyholeJson.orElse w₁ w₂) := by
  unfold KeyholeJson.orElse
  rw [← h₁.truthy_eq]
  by_cases ht : truthy v₁ = true
  · rw [if_pos ht, if_pos ht]
    exact h₁
  · rw [if_neg ht, if_neg ht]
    exact h₂

theorem any_truthy_reordered {a b : List Json} (h : ReorderedItems query a b) :
    a.any truthy = b.any truthy := by
  induction a generalizing b with
  | nil =>
    cases h with
    | nil => rfl
  | cons v rest ih =>
    cases h with
    | cons hv hrest => rw [List.any_cons, List.any_cons, hv.truthy_eq, ih hrest]

theorem ReorderedFields.hasBlockedReasons_eq {a b : Dict} (h : ReorderedFields query a b) :
    hasBlockedReasons a = hasBlockedReasons b := by
  have hreasons := h.get "blocked_reasons"
  unfold hasBlockedReasons
  generalize a.get "blocked_reasons" = v at hreasons ⊢
  generalize b.get "blocked_reasons" = w at hreasons ⊢
  cases hreasons with
  | refl _ => rfl
  | arr hitems hperm =>
    show List.any _ truthy = List.any _ truthy
    rw [any_truthy_reordered hitems, hperm.any_eq]
  | obj hfields _ =>
    show (!List.isEmpty _) = (!List.isEmpty _)
    rw [hfields.isEmpty]

theorem ReorderedFields.isClaimableGap_eq {a b : Dict} (h : ReorderedFields query a b) :
    isClaimableGap a = isClaimableGap b := by
  have hstatus := (h.get "status").orElse (h.get "state")
  unfold isClaimableGap gapStatus
  rw [(h.get "blocked").truthyFlag_eq, h.hasBlockedReasons_eq, (h.get "claimable").truthyFlag_eq,
    (h.get "claimable").falseyFlag_eq, hstatus.listed_eq nonClaimableGapStatuses (by decide),
    hstatus.listed_eq claimableGapStatuses (by decide)]

/-- What the selection sees of a gap object. -/
structure Standing where
  gapId : String
  score : Nat
  claimable : Bool

/-- The standing of a gap object. -/
def standing (query : GapQuery) (gap : Dict) : Standing :=
  ⟨gapId gap, gapScore query gap, isClaimableGap gap⟩

/-- A gap object that is reordered in itself stands as before. -/
theorem self_reordered {a b : Dict} (hfields : ReorderedFields query a b)
    (hscore : startsWith (gapId a) "gap_" = true → gapScore query b = gapScore query a) :
    (if startsWith (gapId a) "gap_" then [a] else []).map (standing query)
      = (if startsWith (gapId b) "gap_" then [b] else []).map (standing query) := by
  rw [← hfields.gapId_eq]
  by_cases h : startsWith (gapId a) "gap_" = true
  · rw [if_pos h, if_pos h, List.map_singleton, List.map_singleton]
    unfold standing
    rw [hfields.gapId_eq, hscore h, hfields.isClaimableGap_eq]
  · rw [if_neg h, if_neg h]

theorem iterGapItems_eq (items : List Json) : iterGapItems items = items.flatMap iterGapObjects := by
  induction items with
  | nil => rfl
  | cons v rest ih => rw [iterGapItems, ih, List.flatMap_cons]

mutual

/-- Permuting the lists of a document permutes the standings of its gap objects. -/
theorem standings_perm : {v w : Json} → Reordered query v w →
    ((iterGapObjects v).map (standing query)).Perm ((iterGapObjects w).map (standing query))
  | _, _, .refl _ => .refl _
  | _, _, .arr hitems hperm => by
    refine (standings_perm_items hitems).trans ?_
    show ((iterGapItems _).map _).Perm ((iterGapItems _).map _)
    rw [iterGapItems_eq, iterGapItems_eq]
    exact (hperm.flatMap_right _).map _
  | _, _, .obj hfields hscore => by
    rw [iterGapObjects, iterGapObjects, List.map_append, List.map_append,
      self_reordered hfields hscore]
    exact (standings_perm_fields hfields).append_left _

theorem standings_perm_items : {a b : List Json} → ReorderedItems query a b →
    ((iterGapItems a).map (standing query)).Perm ((iterGapItems b).map (standing query))
  | _, _, .nil => .refl _
  | _, _, .cons hv hrest => by
    rw [iterGapItems, iterGapItems, List.map_append, List.map_append]
    exact (standings_perm hv).append (standings_perm_items hrest)

theorem standings_perm_fields : {a b : Dict} → ReorderedFields query a b →
    ((iterGapFields a).map (standing query)).Perm ((iterGapFields b).map (standing query))
  | _, _, .nil => .refl _
  | _, _, .cons hv hrest => by
    rw [iterGapFields, iterGapFields, List.map_append, List.map_append]
    exact (standings_perm hv).append (standings_perm_fields hrest)

end

end Reordered

/-! ## Exact selection -/

/-- A candidate that no candidate outscores. -/
def Best (query : GapQuery) (data : Dict) (gap : Dict) : Prop :=
  Leads (gapScore query) isClaimableGap (gapsOf data) gap

/-- The selection is exact and order-blind on a document. -/
structure SelectsExactly (query : GapQuery) (data : Dict) : Prop where
  selected : ∀ g, selectGapId data query = .ok g → g ≠ "" →
    ∃ gap ∈ gapsOf data, gapId gap = g ∧ isClaimableGap gap = true ∧ 0 < gapScore query gap ∧
      ∀ other ∈ gapsOf data, isClaimableGap other = true → gapId other ≠ g →
        gapScore query other < gapScore query gap
  multiple : Raises "MULTIPLE_GAP_CANDIDATES" (selectGapId data query) →
    ∃ a b, Best query data a ∧ Best query data b ∧ gapId a ≠ gapId b
  noClaimable : Raises "NO_CLAIMABLE_GAP" (selectGapId data query) ↔
    (∃ gap ∈ gapsOf data, 0 < gapScore query gap) ∧
      ∀ gap ∈ gapsOf data, 0 < gapScore query gap → isClaimableGap gap = false
  orderBlind : ∀ other : Dict, Reordered query (.obj data) (.obj other) →
    ∀ g, selectGapId data query = .ok g ↔ selectGapId other query = .ok g

/-- The best gap stands in the document several times, and nothing else scores as much. -/
def OnlyRivalsItself (query : GapQuery) (data : Dict) : Prop :=
  ∃ best, Best query data best ∧
    rivals (gapScore query) isClaimableGap (gapsOf data) (gapScore query best) ≠ 1 ∧
    ∀ other, Best query data other → gapId other = gapId best

section Exact

variable {query : GapQuery} {data : Dict}

/-- A gap id is returned for the one gap object that scores best. -/
theorem selected_iff {g : String} (hg : g ≠ "") :
    selectGapId data query = .ok g ↔ ∃ best, gapId best = g ∧ Best query data best ∧
      rivals (gapScore query) isClaimableGap (gapsOf data) (gapScore query best) = 1 := by
  rw [selectGapId_eq]
  constructor
  · intro h
    cases hchoice : choose (gapScore query) isClaimableGap (gapsOf data) with
    | chosen best =>
      rw [hchoice] at h
      obtain ⟨hbest, hone⟩ := choose_eq_chosen_iff.mp hchoice
      exact ⟨best, Except.ok.inj h, hbest, hone⟩
    | none =>
      rw [hchoice] at h
      exact absurd (Except.ok.inj h).symm hg
    | blocked top =>
      rw [hchoice] at h
      exact nomatch h
    | tie =>
      rw [hchoice] at h
      exact nomatch h
  · intro ⟨best, hid, hbest, hone⟩
    rw [choose_eq_chosen_iff.mpr ⟨hbest, hone⟩, ← hid]
    rfl

/-- Nothing is returned when nothing scores. -/
theorem unselected_iff :
    selectGapId data query = .ok "" ↔ ∀ gap ∈ gapsOf data, gapScore query gap = 0 := by
  rw [selectGapId_eq, ← @choose_eq_none_iff _ (gapScore query) isClaimableGap]
  constructor
  · intro h
    cases hchoice : choose (gapScore query) isClaimableGap (gapsOf data) with
    | none => rfl
    | chosen best =>
      rw [hchoice] at h
      exact absurd (Except.ok.inj h)
        (gapId_ne_empty (choose_eq_chosen_iff.mp hchoice).1.mem)
    | blocked top =>
      rw [hchoice] at h
      exact nomatch h
    | tie =>
      rw [hchoice] at h
      exact nomatch h
  · intro h
    rw [h]
    rfl

/-- What is returned for a document is returned for it permuted. -/
theorem ok_of_reordered {other : Dict}
    (hperm : ((gapsOf data).map (standing query)).Perm ((gapsOf other).map (standing query)))
    {g : String} (h : selectGapId data query = .ok g) : selectGapId other query = .ok g := by
  by_cases hg : g = ""
  · subst hg
    rw [unselected_iff] at h ⊢
    intro gap hgap
    obtain ⟨twin, htwin, hsame⟩ :=
      List.mem_map.mp (hperm.mem_iff.mpr (List.mem_map_of_mem hgap))
    have hscore := congrArg Standing.score hsame
    exact hscore.symm.trans (h twin htwin)
  · obtain ⟨best, hid, hbest, hone⟩ := (selected_iff hg).mp h
    obtain ⟨twin, hchosen, hsame⟩ := @chosen_of_perm _ _ (gapScore query) isClaimableGap _ _
      Standing.score Standing.claimable (standing query) (fun _ => rfl) (fun _ => rfl) _ hperm
      (choose_eq_chosen_iff.mpr ⟨hbest, hone⟩)
    rw [selectGapId_eq, hchosen, ← hid]
    exact congrArg Except.ok (congrArg Standing.gapId hsame)

/-- The selection is exact wherever a tie is one of different gaps. -/
theorem selectsExactly_of_no_twin (h : ¬ OnlyRivalsItself query data) :
    SelectsExactly query data where
  selected := by
    intro g hok hg
    obtain ⟨best, hid, hbest, hone⟩ := (selected_iff hg).mp hok
    refine ⟨best, hbest.mem, hid, hbest.candidate.2, hbest.candidate.1, ?_⟩
    intro other hother hclaimable hne
    by_cases hpos : 0 < gapScore query other
    · refine Nat.lt_of_le_of_ne (hbest.top other hother ⟨hpos, hclaimable⟩) fun hscore => ?_
      have hleads : Best query data other := hbest.of_score_eq hother ⟨hpos, hclaimable⟩ hscore
      have hsame : other = best := hleads.unique hbest (by rw [hscore]; exact hone)
      exact hne (by rw [hsame]; exact hid)
    · exact Nat.lt_of_le_of_lt (Nat.le_of_not_lt hpos) hbest.candidate.1
  multiple := by
    intro hraises
    rw [selectGapId_eq, raises_multiple_iff] at hraises
    obtain ⟨best, hbest, hmany⟩ := choose_eq_tie_iff.mp hraises
    by_contra hnone
    refine h ⟨best, hbest, hmany, fun other hother => ?_⟩
    by_contra hne
    exact hnone ⟨other, best, hother, hbest, hne⟩
  noClaimable := by
    rw [selectGapId_eq, raises_noClaimable_iff, blocked_iff]
    refine and_congr Iff.rfl (forall₂_congr fun gap _ => ?_)
    rw [IsCandidate, not_and, Bool.not_eq_true]
  orderBlind := by
    intro other hreordered g
    have hperm := standings_perm hreordered
    exact ⟨ok_of_reordered hperm, ok_of_reordered hperm.symm⟩

/-- A gap that only rivals itself is refused as several. -/
theorem not_selectsExactly_of_twin (h : OnlyRivalsItself query data) :
    ¬ SelectsExactly query data := by
  intro hexact
  obtain ⟨best, hbest, hmany, hsame⟩ := h
  have htie := choose_eq_tie_iff.mpr ⟨best, hbest, hmany⟩
  have hraises : Raises "MULTIPLE_GAP_CANDIDATES" (selectGapId data query) := by
    rw [selectGapId_eq, raises_multiple_iff]
    exact htie
  obtain ⟨a, b, ha, hb, hne⟩ := hexact.multiple hraises
  exact hne ((hsame a ha).trans (hsame b hb).symm)

end Exact

/-- The selection is exact and order-blind, unless the best gap stands in the document several
    times and rivals only itself. -/
theorem selectsExactly_iff (query : GapQuery) (data : Dict) :
    SelectsExactly query data ↔ ¬ OnlyRivalsItself query data :=
  ⟨fun hexact h => not_selectsExactly_of_twin h hexact, selectsExactly_of_no_twin⟩

/-! ## A gap that stands twice -/

/-- An open gap. -/
def openGap : Dict := [("gap_id", .str "gap_1"), ("status", .str "open")]

/-- An answer that names its first gap again. -/
def recommending : Dict := [("gaps", .arr [.obj openGap]), ("recommended", .obj openGap)]

theorem openGap_candidate (query : GapQuery) :
    IsCandidate (gapScore query) isClaimableGap openGap := by
  have hopen : ["open", "claimable", "actionable", "claimed"].contains (gapStatus openGap) = true := by
    decide
  refine ⟨?_, by decide⟩
  simp only [gapScore, hopen, if_true]
  omega

theorem gapsOf_recommending : gapsOf recommending = [openGap, openGap] := rfl

/-- The gap that is recommended is refused as several gaps. -/
theorem recommended_refused : ¬ SelectsExactly ⟨"app", "", ""⟩ recommending := by
  have hall : ∀ gap ∈ gapsOf recommending, gap = openGap := by
    intro gap hmem
    rw [gapsOf_recommending] at hmem
    rcases List.mem_cons.mp hmem with h | h
    · exact h
    · exact List.mem_singleton.mp h
  refine not_selectsExactly_of_twin ⟨openGap, ⟨?_, openGap_candidate _, ?_⟩, ?_, ?_⟩
  · rw [gapsOf_recommending]
    exact List.mem_cons_self
  · intro other hother _
    rewrite [hall other hother]
    exact Nat.le_refl _
  · have hcandidate := openGap_candidate ⟨"app", "", ""⟩
    unfold rivals
    rw [gapsOf_recommending, List.countP_cons_of_pos, List.countP_cons_of_pos, List.countP_nil]
    · decide
    all_goals
      rw [decide_eq_true hcandidate.1, hcandidate.2, beq_self_eq_true]
      rfl
  · intro other hother
    rw [hall other hother.mem]

end KeyholeGapChoice
