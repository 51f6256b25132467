import Keyhole.ValidationTotality
import Keyhole.CapabilityNames
import Mathlib.Data.List.TakeWhile

/-!
# Major-version conflicts

`validate_compatibility` notes the produced major version of each base name in a map, where a
later one takes the place of an earlier one, and then reports, once for a base, the first
consumed name of another major version.

* `majorOf`: the base and the major version of a name;
* `FirstClash`: the issues of the loop, `mem_conflicts_iff`;
* `Orderly`: what the issues are to be free of: the order of the lists, names that are produced
  as they are consumed, and bases that a contract covers;
* `orderly_iff`: the lists and contracts on which they are. -/

namespace KeyholeMajors

open KeyholeYaml KeyholeNamespace KeyholeValidation KeyholePipeline KeyholeTotality ExceptLoops

/-! ## Names with a major version -/

/-- The number decimal digits stand for. -/
def valueOf (digits : Text) : Nat := digits.foldl (fun n c => 10 * n + (decimal c).getD 0) 0

/-- The base and the major version of a name that has one. -/
def majorOf (name : String) : Option (Text × Nat) :=
  (namespaceVersion name).map fun version => (version.1, valueOf version.2)

variable {base : Text} {v p ver m : Nat} {cap name : String}
variable {produces names consumed' : List String} {bases : List (Text × Nat)}
variable {issue : ValidationIssue}

theorem baseVer_eq {version : Option (Text × Nat)}
    (h : baseVer name = .ok version) : version = majorOf name := by
  rw [baseVer] at h
  rw [majorOf]
  cases hname : namespaceVersion name with
  | none =>
    rw [hname] at h
    exact (Except.ok.inj h).symm
  | some entry =>
    rw [hname] at h
    obtain ⟨ver, hver, hpure⟩ := bind_ok.mp h
    rw [intOf] at hver
    by_cases hlong : intMaxStrDigits < entry.2.length
    · rw [if_pos hlong] at hver
      cases hver
    · rw [if_neg hlong] at hver
      rw [← Except.ok.inj hpure, ← Except.ok.inj hver]
      rfl

/-- A name with a major version is its base, a dot, and a rest without one. -/
theorem name_of_majorOf (h : majorOf name = some (base, ver)) :
    ∃ rest, name.toList = base ++ '.' :: rest ∧ '.' ∉ rest := by
  obtain ⟨⟨base', digits⟩, hversion, hpair⟩ := Option.map_eq_some_iff.mp h
  obtain ⟨rfl, -⟩ := Prod.mk.inj hpair
  have hline : ∃ ending, name.toList = beforeNewline name.toList ++ ending ∧ '.' ∉ ending := by
    unfold beforeNewline
    by_cases hlast : name.toList.getLast? = some '\n'
    · rw [if_pos hlast]
      refine ⟨['\n'], ?_, by decide⟩
      obtain ⟨before, hbefore⟩ := List.getLast?_eq_some_iff.mp hlast
      rw [hbefore, List.dropLast_concat]
    · rw [if_neg hlast]
      exact ⟨[], by simp, nofun⟩
  obtain ⟨ending, hending, hdot⟩ := hline
  unfold namespaceVersion at hversion
  simp only at hversion
  have hparts := List.takeWhile_append_dropWhile (p := isDecimal)
    (l := (beforeNewline name.toList).reverse)
  split at hversion
  · rename_i base₀ hdrop
    split at hversion
    · exact nomatch hversion
    · obtain ⟨hbase, hfound⟩ := Prod.mk.inj (Option.some.inj hversion)
      refine ⟨'v' :: ((beforeNewline name.toList).reverse.takeWhile isDecimal).reverse ++ ending,
        ?_, ?_⟩
      · rw [hdrop] at hparts
        have hforward := congrArg List.reverse hparts
        rw [List.reverse_reverse] at hforward
        calc name.toList = beforeNewline name.toList ++ ending := hending
          _ = (((beforeNewline name.toList).reverse.takeWhile isDecimal) ++ 'v' :: '.' :: base₀).reverse
                ++ ending := by rw [hforward]
          _ = _ := by simp [← hbase]
      · intro hmem
        rcases List.mem_append.mp hmem with hmem | hmem
        · rcases List.mem_cons.mp hmem with hmem | hmem
          · exact absurd hmem (by decide)
          · have hdecimal := List.mem_takeWhile_imp (List.mem_reverse.mp hmem)
            exact absurd hdecimal (by decide)
        · exact hdot hmem
  · exact nomatch hversion

/-! ## What the text of an issue is about -/

theorem split_at_last {α : Type} {x : α} : ∀ {front front' back back' : List α},
    x ∉ back → x ∉ back' → front ++ x :: back = front' ++ x :: back' →
    front = front' ∧ back = back' := by
  intro front
  induction front with
  | nil =>
    intro front' back back' hback hback' h
    cases front' with
    | nil => exact ⟨rfl, (List.cons.inj h).2⟩
    | cons y rest =>
      obtain ⟨-, htail⟩ := List.cons.inj h
      exact absurd (htail ▸ List.mem_append_right _ List.mem_cons_self) hback
  | cons y rest ih =>
    intro front' back back' hback hback' h
    cases front' with
    | nil =>
      obtain ⟨-, htail⟩ := List.cons.inj h
      exact absurd (htail ▸ List.mem_append_right _ List.mem_cons_self) hback'
    | cons y' rest' =>
      obtain ⟨hy, htail⟩ := List.cons.inj h
      obtain ⟨hrest, hsame⟩ := ih hback hback' htail
      exact ⟨by rw [hy, hrest], hsame⟩

/-- A text between two copies of another one, when a separator begins it and stands nowhere
    else in it, tells both. -/
theorem framed_agree {α : Type} {x : α} {base base' middle middle' : List α}
    (hmiddle : x ∉ middle) (hmiddle' : x ∉ middle')
    (h : base ++ x :: (middle ++ base) = base' ++ x :: (middle' ++ base')) :
    base = base' ∧ middle = middle' := by
  have hshorter : ∀ {base base' middle middle' : List α}, x ∉ middle →
      base ++ x :: (middle ++ base) = base' ++ x :: (middle' ++ base') →
      ∀ extra, base' = base ++ extra → extra = [] := by
    intro base base' middle middle' hmiddle h extra hextra
    cases extra with
    | nil => rfl
    | cons y more =>
      exfalso
      rw [hextra, List.append_assoc] at h
      have htail := List.append_cancel_left h
      rw [List.cons_append] at htail
      obtain ⟨-, hrest⟩ := List.cons.inj htail
      have hlength := congrArg List.length hrest
      simp only [List.length_append, List.length_cons] at hlength
      -- the separator of the longer reading falls inside the middle of the shorter one
      have hseparator : more ++ [x] <+: middle ++ base :=
        ⟨middle' ++ (base ++ y :: more), by rw [hrest]; simp⟩
      have hinside : more ++ [x] <+: middle := by
        refine List.prefix_of_prefix_length_le hseparator ⟨base, rfl⟩ ?_
        simp only [List.length_append, List.length_cons, List.length_nil]
        omega
      exact hmiddle (hinside.subset (List.mem_append_right _ List.mem_cons_self))
  have hbase : base = base' := by
    rcases List.append_eq_append_iff.mp h with ⟨extra, hextra, -⟩ | ⟨extra, hextra, -⟩
    · rw [hextra, hshorter hmiddle h extra hextra, List.append_nil]
    · rw [hextra, hshorter hmiddle' h.symm extra hextra, List.append_nil]
  subst hbase
  obtain ⟨-, htail⟩ := List.cons.inj (List.append_cancel_left h)
  exact ⟨rfl, List.append_cancel_right htail⟩

theorem not_mem_digits {c : Char} (hc : c.isDigit = false) (n : Nat) :
    c ∉ (toString n).toList := by
  intro hmem
  have hdigits : c ∈ Nat.toDigits 10 n := by
    rw [← Nat.toList_repr]
    exact hmem
  have hdigit : c.isDigit = true :=
    Nat.isDigit_of_mem_toDigits (show 0 < 10 by decide) (show 10 ≤ 10 by decide) hdigits
  rw [hc] at hdigit
  exact nomatch hdigit

theorem closing_no_v (v : Nat) : 'v' ∉ (toString v).toList ++ ").".toList := by
  intro hmem
  rcases List.mem_append.mp hmem with hmem | hmem
  · exact not_mem_digits (by decide) v hmem
  · exact absurd hmem (by decide)

theorem produced_no_dot (p : Nat) :
    '.' ∉ 'v' :: ((toString p).toList ++ "' but consumes '".toList) := by
  intro hmem
  rcases List.mem_cons.mp hmem with hmem | hmem
  · exact absurd hmem (by decide)
  · rcases List.mem_append.mp hmem with hmem | hmem
    · exact not_mem_digits (by decide) p hmem
    · exact absurd hmem (by decide)

/-- The text names the base, the produced version and the name. -/
theorem conflictIssue_inj {base' : Text} {p' v' : Nat} {cap' : String}
    (hcap : majorOf cap = some (base, v)) (hcap' : majorOf cap' = some (base', v'))
    (h : conflictIssue base p v cap = conflictIssue base' p' v' cap') :
    base = base' ∧ p = p' ∧ cap = cap' := by
  obtain ⟨rest, hname, hrest⟩ := name_of_majorOf hcap
  obtain ⟨rest', hname', hrest'⟩ := name_of_majorOf hcap'
  have hrepair := congrArg ValidationIssue.repair h
  have htext := congrArg String.toList (List.cons.inj hrepair).1
  have hopen : "' (v".toList = "' (".toList ++ ['v'] := rfl
  have hversion : ".v".toList = ['.', 'v'] := rfl
  simp only [String.toList_append, String.toList_ofList, List.append_assoc, hopen, hversion]
    at htext
  -- the consumed name ends before the last 'v' of the text
  have hrun : (base ++ (['.', 'v'] ++ ((toString p).toList ++ ("' but consumes '".toList
        ++ (cap.toList ++ "' (".toList))))) ++ 'v' :: ((toString v).toList ++ ").".toList) =
      (base' ++ (['.', 'v'] ++ ((toString p').toList ++ ("' but consumes '".toList
        ++ (cap'.toList ++ "' (".toList))))) ++ 'v' :: ((toString v').toList ++ ").".toList) := by
    simpa only [List.append_assoc, List.cons_append, List.nil_append]
      using List.append_cancel_left htext
  obtain ⟨hconsumed, -⟩ := split_at_last (closing_no_v v) (closing_no_v v') hrun
  have hframe : (base ++ '.' :: (('v' :: ((toString p).toList ++ "' but consumes '".toList)) ++ base)
        ++ '.' :: rest) ++ "' (".toList =
      (base' ++ '.' :: (('v' :: ((toString p').toList ++ "' but consumes '".toList)) ++ base')
        ++ '.' :: rest') ++ "' (".toList := by
    rw [hname, hname'] at hconsumed
    simpa only [List.append_assoc, List.cons_append, List.nil_append] using hconsumed
  obtain ⟨hfront, hback⟩ := split_at_last hrest hrest' (List.append_cancel_right hframe)
  obtain ⟨hbase, hmiddle⟩ := framed_agree (produced_no_dot p) (produced_no_dot p') hfront
  have hp : (toString p).toList = (toString p').toList :=
    List.append_cancel_right (List.cons.inj hmiddle).2
  refine ⟨hbase, KeyholeJson.repr_agree (String.toList_inj.mp hp), ?_⟩
  rw [← String.toList_inj, hname, hname', hbase, hback]

/-! ## The loops -/

/-- `produces_bases` once nothing was raised. -/
def basesOf (produces : List String) : List (Text × Nat) := (produces.filterMap majorOf).reverse

theorem producesBases_eq (h : producesBases produces = .ok bases) : bases = basesOf produces := by
  have hrun : ∀ (produces : List String) (before after : List (Text × Nat)),
      produces.foldlM producesStep before = .ok after →
      after = (produces.filterMap majorOf).reverse ++ before := by
    intro produces
    induction produces with
    | nil =>
      intro before after h
      exact (Except.ok.inj h).symm
    | cons cap rest ih =>
      intro before after h
      rw [List.foldlM_cons] at h
      obtain ⟨middle, hstep, hrest⟩ := bind_ok.mp h
      obtain ⟨version, hversion, hpure⟩ := bind_ok.mp hstep
      rw [ih middle after hrest]
      have hmajor := baseVer_eq hversion
      cases version with
      | none =>
        rw [List.filterMap_cons_none hmajor.symm, ← Except.ok.inj hpure]
      | some entry =>
        rw [List.filterMap_cons_some hmajor.symm, ← Except.ok.inj hpure]
        simp
  have hall := hrun produces [] bases h
  rwa [List.append_nil] at hall

/-- Some name of the list has this base and major version. -/
def Listed (names : List String) (base : Text) (ver : Nat) : Prop :=
  ∃ name ∈ names, majorOf name = some (base, ver)

theorem listed_of_lookup
    (h : (basesOf produces).lookup base = some ver) : Listed produces base ver := by
  exact List.mem_filterMap.mp (List.mem_reverse.mp (KeyholeJson.mem_of_lookup h))

theorem lookup_of_listed
    (h : Listed produces base ver) : ∃ last, (basesOf produces).lookup base = some last := by
  have hmem : (base, ver) ∈ basesOf produces := List.mem_reverse.mpr (List.mem_filterMap.mpr h)
  cases hlookup : (basesOf produces).lookup base with
  | some last => exact ⟨last, rfl⟩
  | none =>
    have hne := List.lookup_eq_none_iff.mp hlookup (base, ver) hmem
    exact absurd rfl (bne_iff_ne.mp hne)

/-- The last writer of a base wins. -/
theorem lookup_last (h : majorOf name = some (base, ver)) :
    (basesOf (produces ++ [name])).lookup base = some ver := by
  rw [basesOf, List.filterMap_append, List.filterMap_cons_some h, List.filterMap_nil,
    List.reverse_append]
  exact List.lookup_cons_self

/-- The consumed name has a base that is noted under another major version. -/
structure Clash (bases : List (Text × Nat)) (cap : String) (base : Text) (produced ver : Nat) :
    Prop where
  major : majorOf cap = some (base, ver)
  noted : bases.lookup base = some produced
  other : produced ≠ ver

/-- The issue of a consumed name that is the first to clash on its base. -/
def FirstClash (bases : List (Text × Nat)) (seen : List Text) (consumed : List String)
    (issue : ValidationIssue) : Prop :=
  ∃ before cap after base produced ver, consumed = before ++ cap :: after ∧
    Clash bases cap base produced ver ∧ base ∉ seen ∧
    (∀ earlier ∈ before, ∀ p v, ¬ Clash bases earlier base p v) ∧
    issue = conflictIssue base produced ver cap

theorem Clash.same {base' : Text}
    {p' v' : Nat} (h : Clash bases cap base p v) (h' : Clash bases cap base' p' v') :
    base = base' ∧ p = p' ∧ v = v' := by
  obtain ⟨hbase, hv⟩ := Prod.mk.inj (Option.some.inj (h.major.symm.trans h'.major))
  subst hbase
  exact ⟨rfl, Option.some.inj (h.noted.symm.trans h'.noted), hv⟩

/-- One pass of the loop: a clash on a base that was not reported is reported. -/
theorem conflictStep_cases {found found' : Conflicts}
    (h : conflictStep bases found cap = .ok found') :
    (∃ base p v, Clash bases cap base p v ∧ base ∉ found.seen ∧
      found' = ⟨base :: found.seen, found.issues ++ [conflictIssue base p v cap]⟩) ∨
    (found' = found ∧ ∀ base p v, Clash bases cap base p v → base ∈ found.seen) := by
  rw [conflictStep] at h
  obtain ⟨version, hversion, hrest⟩ := bind_ok.mp h
  have hmajor := baseVer_eq hversion
  rcases version with _ | ⟨base, ver⟩
  · refine .inr ⟨(Except.ok.inj hrest).symm, ?_⟩
    intro base p v hclash
    cases hmajor.trans hclash.major
  · cases hlookup : bases.lookup base with
    | none =>
      simp only [hlookup] at hrest
      refine .inr ⟨(Except.ok.inj hrest).symm, ?_⟩
      intro base' p v hclash
      obtain ⟨rfl, -⟩ := Prod.mk.inj (Option.some.inj (hmajor.trans hclash.major))
      cases hlookup.symm.trans hclash.noted
    | some produced =>
      simp only [hlookup] at hrest
      by_cases hquiet : produced = ver ∨ found.seen.contains base
      · rw [if_pos hquiet] at hrest
        refine .inr ⟨(Except.ok.inj hrest).symm, ?_⟩
        intro base' p v hclash
        obtain ⟨rfl, rfl⟩ := Prod.mk.inj (Option.some.inj (hmajor.trans hclash.major))
        have hp : produced = p := Option.some.inj (hlookup.symm.trans hclash.noted)
        rcases hquiet with hsame | hseen
        · exact absurd (hp.symm.trans hsame) hclash.other
        · exact List.contains_iff_mem.mp hseen
      · rw [if_neg hquiet] at hrest
        refine .inl ⟨base, produced, ver, ⟨hmajor.symm, hlookup, ?_⟩, ?_,
          (Except.ok.inj hrest).symm⟩
        · exact fun hsame => hquiet (.inl hsame)
        · exact fun hseen => hquiet (.inr (List.contains_iff_mem.mpr hseen))

/-- The whole loop reports the first clash of every base, and nothing else. -/
theorem mem_majorConflicts_iff :
    ∀ {consumed : List String} {found found' : Conflicts},
      consumed.foldlM (conflictStep bases) found = .ok found' →
      (issue ∈ found'.issues ↔
        issue ∈ found.issues ∨ FirstClash bases found.seen consumed issue) := by
  intro consumed
  induction consumed with
  | nil =>
    intro found found' h
    rw [← Except.ok.inj h]
    constructor
    · intro hmem
      exact .inl hmem
    · rintro (hmem | ⟨before, cap, after, _, _, _, hsplit, _⟩)
      · exact hmem
      · exact absurd hsplit (by simp)
  | cons cap rest ih =>
    intro found found' h
    rw [List.foldlM_cons] at h
    obtain ⟨middle, hstep, hrest⟩ := bind_ok.mp h
    rw [ih hrest]
    rcases conflictStep_cases hstep with ⟨base, p, v, hclash, hnew, rfl⟩ | ⟨rfl, hquiet⟩
    · constructor
      · rintro (hmem | ⟨before, cap', after, base', p', v', rfl, hclash', hnew', hfirst, rfl⟩)
        · rcases List.mem_append.mp hmem with hmem | hmem
          · exact .inl hmem
          · exact .inr ⟨[], cap, rest, base, p, v, rfl, hclash, hnew,
              nofun, List.mem_singleton.mp hmem⟩
        · refine .inr ⟨cap :: before, cap', after, base', p', v', rfl, hclash',
            fun hmem => hnew' (List.mem_cons_of_mem _ hmem), ?_, rfl⟩
          intro earlier hearlier q w hclash''
          rcases List.mem_cons.mp hearlier with rfl | hearlier
          · obtain ⟨rfl, -⟩ := hclash.same hclash''
            exact hnew' List.mem_cons_self
          · exact hfirst earlier hearlier q w hclash''
      · rintro (hmem | ⟨before, cap', after, base', p', v', hsplit, hclash', hnew', hfirst, rfl⟩)
        · exact .inl (List.mem_append_left _ hmem)
        · cases before with
          | nil =>
            obtain ⟨rfl, rfl⟩ := List.cons.inj hsplit
            obtain ⟨rfl, rfl, rfl⟩ := hclash.same hclash'
            exact .inl (List.mem_append_right _ (List.mem_singleton.mpr rfl))
          | cons first before =>
            obtain ⟨rfl, hlater⟩ := List.cons.inj hsplit
            refine .inr ⟨before, cap', after, base', p', v', hlater, hclash', ?_,
              fun earlier hearlier => hfirst earlier (List.mem_cons_of_mem _ hearlier), rfl⟩
            intro hmem
            rcases List.mem_cons.mp hmem with rfl | hmem
            · exact hfirst cap List.mem_cons_self p v hclash
            · exact hnew' hmem
    · constructor
      · rintro (hmem | ⟨before, cap', after, base', p', v', rfl, hclash', hnew', hfirst, rfl⟩)
        · exact .inl hmem
        · refine .inr ⟨cap :: before, cap', after, base', p', v', rfl, hclash', hnew', ?_, rfl⟩
          intro earlier hearlier q w hclash''
          rcases List.mem_cons.mp hearlier with rfl | hearlier
          · exact hnew' (hquiet base' q w hclash'')
          · exact hfirst earlier hearlier q w hclash''
      · rintro (hmem | ⟨before, cap', after, base', p', v', hsplit, hclash', hnew', hfirst, rfl⟩)
        · exact .inl hmem
        · cases before with
          | nil =>
            obtain ⟨rfl, rfl⟩ := List.cons.inj hsplit
            exact absurd (hquiet base' p' v' hclash') hnew'
          | cons first before =>
            obtain ⟨rfl, hlater⟩ := List.cons.inj hsplit
            exact .inr ⟨before, cap', after, base', p', v', hlater, hclash', hnew',
              fun earlier hearlier => hfirst earlier (List.mem_cons_of_mem _ hearlier), rfl⟩

/-! ## The issues -/

/-- The `incompatible_major_version` issues among some issues. -/
def conflictsOf (issues : List ValidationIssue) : List ValidationIssue :=
  issues.filter fun issue => issue.reason == .incompatibleMajorVersion

theorem contractIssues_reason {contract : Fields}
    (h : issue ∈ contractIssues contract) : issue.reason = .compatibilityContractInvalid := by
  unfold contractIssues at h
  split at h
  · exact nomatch h
  · obtain ⟨⟨entry, idx⟩, -, hentry⟩ := List.mem_flatMap.mp h
    unfold contractEntry at hentry
    split at hentry
    · split at hentry
      · exact nomatch hentry
      · rw [List.mem_singleton.mp hentry]
    · rw [List.mem_singleton.mp hentry]
  · rw [List.mem_singleton.mp h]

theorem selfDependencies_reason :
    ∀ {consumed seen : List String}, issue ∈ selfDependencies produces seen consumed →
      issue.reason = .selfDependencyDetected := by
  intro consumed
  induction consumed with
  | nil =>
    intro seen h
    exact nomatch h
  | cons cap rest ih =>
    intro seen h
    unfold selfDependencies at h
    split at h
    · rcases List.mem_cons.mp h with rfl | h
      · rfl
      · exact ih h
    · exact ih h

theorem mem_conflicts_iff {consumed : List String} {contract : Fields}
    {issues : List ValidationIssue}
    (h : validateCompatibility produces consumed contract = .ok issues) :
    issue ∈ conflictsOf issues ↔ FirstClash (basesOf produces) [] consumed issue := by
  obtain ⟨bases, hbases, hrest⟩ := bind_ok.mp h
  obtain ⟨conflicts, hconflicts, hpure⟩ := bind_ok.mp hrest
  rw [producesBases_eq hbases] at hconflicts
  have hrun : issue ∈ conflicts.issues ↔ FirstClash (basesOf produces) [] consumed issue := by
    rw [mem_majorConflicts_iff hconflicts]
    exact or_iff_right nofun
  rw [← hrun, ← Except.ok.inj hpure, conflictsOf, List.mem_filter, List.mem_append,
    List.mem_append, beq_iff_eq]
  constructor
  · rintro ⟨(hmem | hmem) | hmem, hreason⟩
    · exact nomatch (contractIssues_reason hmem).symm.trans hreason
    · exact nomatch (selfDependencies_reason hmem).symm.trans hreason
    · exact hmem
  · intro hmem
    refine ⟨.inr hmem, ?_⟩
    obtain ⟨_, _, _, _, _, _, _, _, _, _, rfl⟩ := hrun.mp hmem
    rfl

/-! ## What the issues are to be free of -/

/-- An entry of `compatibility_contracts` names a capability of this base. -/
def Covered (contract : Fields) (base : Text) : Prop :=
  ∃ items entry name ver, Fields.get contract "compatibility_contracts" = .seq items ∧
    Yaml.map entry ∈ items ∧ Fields.get entry "capability" = .str name ∧
    majorOf name = some (base, ver)

/-- The issues do not depend on the order of the lists, and none is raised for a name that is
    produced in that major version too, nor for a base that a contract covers. -/
structure Orderly (produces consumed : List String) (contract : Fields) : Prop where
  orderBlind : ∀ produces' consumed' issues issues',
    produces'.Perm produces → consumed'.Perm consumed →
    validateCompatibility produces consumed contract = .ok issues →
    validateCompatibility produces' consumed' contract = .ok issues' →
    ∀ issue, issue ∈ conflictsOf issues ↔ issue ∈ conflictsOf issues'
  producedAlike : ∀ issues, validateCompatibility produces consumed contract = .ok issues →
    ∀ cap ∈ consumed, ∀ base p v, majorOf cap = some (base, v) → Listed produces base v →
      conflictIssue base p v cap ∉ conflictsOf issues
  contracted : ∀ issues, validateCompatibility produces consumed contract = .ok issues →
    ∀ cap ∈ consumed, ∀ base p v, majorOf cap = some (base, v) → Covered contract base →
      conflictIssue base p v cap ∉ conflictsOf issues

/-- No version is longer than `int` takes. -/
def Readable (produces consumed : List String) : Prop :=
  (∀ name ∈ produces, ShortVersion name) ∧ ∀ name ∈ consumed, ShortVersion name

/-- Each base that is produced and consumed is produced in one major version only, is consumed
    under at most one name of another one, and under none if a contract covers it. -/
structure Unambiguous (produces consumed : List String) (contract : Fields) : Prop where
  oneMajor : ∀ base m m' v, Listed produces base m → Listed produces base m' →
    Listed consumed base v → m = m'
  oneConflict : ∀ base m, Listed produces base m → ∀ cap ∈ consumed, ∀ cap' ∈ consumed, ∀ v v',
    majorOf cap = some (base, v) → majorOf cap' = some (base, v') → m ≠ v → m ≠ v' → cap = cap'
  uncovered : ∀ base m v, Listed produces base m → Listed consumed base v → m ≠ v →
    ¬ Covered contract base

/-! ## One order after another -/

section

variable {produces consumed : List String} {contract : Fields}

theorem perm_first (h : name ∈ names) :
    (name :: names.erase name).Perm names := (List.perm_cons_erase h).symm

theorem perm_last (h : name ∈ names) : (names.erase name ++ [name]).Perm names :=
  (List.perm_append_singleton _ _).trans (perm_first h)

theorem returns_of_readable (contract : Fields) (h : Readable produces consumed) {produces' : List String}
    (hp : produces'.Perm produces) (hc : consumed'.Perm consumed) :
    ∃ issues, validateCompatibility produces' consumed' contract = .ok issues :=
  (returns_validateCompatibility _ _ _).mpr
    ⟨fun name hmem => h.1 name (hp.mem_iff.mp hmem), fun name hmem => h.2 name (hc.mem_iff.mp hmem)⟩

/-- Two orders of the same lists lead to the same issues. -/
theorem Orderly.firstClash_iff (h : Orderly produces consumed contract)
    (hread : Readable produces consumed) {produces₁ produces₂ consumed₁ consumed₂ : List String}
    (hp₁ : produces₁.Perm produces) (hc₁ : consumed₁.Perm consumed)
    (hp₂ : produces₂.Perm produces) (hc₂ : consumed₂.Perm consumed) (issue : ValidationIssue) :
    FirstClash (basesOf produces₁) [] consumed₁ issue ↔
      FirstClash (basesOf produces₂) [] consumed₂ issue := by
  obtain ⟨issues, hissues⟩ := returns_of_readable contract hread
    (List.Perm.refl produces) (List.Perm.refl consumed)
  obtain ⟨issues₁, hissues₁⟩ := returns_of_readable contract hread hp₁ hc₁
  obtain ⟨issues₂, hissues₂⟩ := returns_of_readable contract hread hp₂ hc₂
  rw [← mem_conflicts_iff hissues₁, ← mem_conflicts_iff hissues₂,
    ← h.orderBlind _ _ _ _ hp₁ hc₁ hissues hissues₁,
    ← h.orderBlind _ _ _ _ hp₂ hc₂ hissues hissues₂]

/-- Written last, a produced version is the one every issue of its base names. -/
theorem produced_of_firstClash {rest : List String} (hname : majorOf name = some (base, m))
    (hcap : majorOf cap = some (base, v))
    (h : FirstClash (basesOf (rest ++ [name])) [] consumed' (conflictIssue base p v cap)) :
    p = m := by
  obtain ⟨_, cap', _, base', p', v', _, hclash, _, _, htext⟩ := h
  obtain ⟨rfl, rfl, -⟩ := conflictIssue_inj hcap hclash.major htext
  exact Option.some.inj (hclash.noted.symm.trans (lookup_last hname))

/-- A name that clashes and stands first is reported. -/
theorem firstClash_head (h : Clash bases cap base p v) (rest : List String) :
    FirstClash bases [] (cap :: rest) (conflictIssue base p v cap) :=
  ⟨[], cap, rest, base, p, v, rfl, h, nofun, nofun, rfl⟩

/-- The issue of a base names the first name, if that one clashes. -/
theorem name_of_firstClash {first : String}
    {q w : Nat} {rest : List String} (hfirst : Clash bases first base q w)
    (hcap : majorOf cap = some (base, v))
    (h : FirstClash bases [] (first :: rest) (conflictIssue base p v cap)) : cap = first := by
  obtain ⟨before, cap', after, base', p', v', hsplit, hclash, -, hquiet, htext⟩ := h
  obtain ⟨rfl, rfl, rfl⟩ := conflictIssue_inj hcap hclash.major htext
  cases before with
  | nil => exact (List.cons.inj hsplit).1.symm
  | cons other before =>
    obtain ⟨rfl, -⟩ := List.cons.inj hsplit
    exact absurd hfirst (hquiet first List.mem_cons_self q w)

theorem Orderly.oneMajor (h : Orderly produces consumed contract)
    (hread : Readable produces consumed) {m' : Nat}
    (hm : Listed produces base m) (hm' : Listed produces base m') (hv : Listed consumed base v) :
    m = m' := by
  obtain ⟨cap, hcap, hmajor⟩ := hv
  -- of two versions one differs from the consumed one; written last, it is named
  have hnamed : ∀ {m m'}, Listed produces base m → Listed produces base m' → m ≠ v → m = m' := by
    rintro m m' ⟨name, hname, hversion⟩ ⟨name', hname', hversion'⟩ hne
    have hclash : Clash (basesOf (produces.erase name ++ [name])) cap base m v :=
      ⟨hmajor, lookup_last hversion, hne⟩
    have hreported := (h.firstClash_iff hread (perm_last hname) (perm_first hcap)
      (perm_last hname') (perm_first hcap) _).mp (firstClash_head hclash _)
    exact produced_of_firstClash hversion' hmajor hreported
  by_cases hne : m = v
  · by_cases hne' : m' = v
    · rw [hne, hne']
    · exact (hnamed hm' hm hne').symm
  · exact hnamed hm hm' hne

theorem lookup_of_oneMajor (hm : Listed produces base m)
    (hone : ∀ m', Listed produces base m' → m = m') :
    (basesOf produces).lookup base = some m := by
  obtain ⟨last, hlast⟩ := lookup_of_listed hm
  rw [hlast, hone last (listed_of_lookup hlast)]

theorem Orderly.unambiguous (h : Orderly produces consumed contract)
    (hread : Readable produces consumed) : Unambiguous produces consumed contract where
  oneMajor := fun base m m' v hm hm' hv => h.oneMajor hread hm hm' hv
  oneConflict := by
    intro base m hm cap hcap cap' hcap' v v' hmajor hmajor' hne hne'
    have hnoted := lookup_of_oneMajor hm fun m' hm' => h.oneMajor hread hm hm' ⟨cap, hcap, hmajor⟩
    have hreported := (h.firstClash_iff hread (List.Perm.refl produces) (perm_first hcap)
      (List.Perm.refl produces) (perm_first hcap') _).mp
      (firstClash_head ⟨hmajor, hnoted, hne⟩ _)
    exact name_of_firstClash ⟨hmajor', hnoted, hne'⟩ hmajor hreported
  uncovered := by
    rintro base m v hm ⟨cap, hcap, hmajor⟩ hne hcovered
    have hnoted := lookup_of_oneMajor hm fun m' hm' => h.oneMajor hread hm hm' ⟨cap, hcap, hmajor⟩
    obtain ⟨issues, hissues⟩ := returns_of_readable contract hread
      (List.Perm.refl produces) (List.Perm.refl consumed)
    have hreported := (h.firstClash_iff hread (List.Perm.refl produces) (perm_first hcap)
      (List.Perm.refl produces) (List.Perm.refl consumed) _).mp
      (firstClash_head ⟨hmajor, hnoted, hne⟩ _)
    exact h.contracted issues hissues cap hcap base m v hmajor hcovered
      ((mem_conflicts_iff hissues).mpr hreported)

/-! ## Where the order does not matter -/

/-- On unambiguous lists the first clash of a base is any clash of it. -/
theorem Unambiguous.firstClash_iff (h : Unambiguous produces consumed contract)
    (issue : ValidationIssue) :
    FirstClash (basesOf produces) [] consumed issue ↔
      ∃ cap ∈ consumed, ∃ base m v, Listed produces base m ∧ majorOf cap = some (base, v) ∧
        m ≠ v ∧ issue = conflictIssue base m v cap := by
  constructor
  · rintro ⟨before, cap, after, base, m, v, rfl, hclash, -, -, rfl⟩
    exact ⟨cap, List.mem_append_right _ List.mem_cons_self, base, m, v,
      listed_of_lookup hclash.noted, hclash.major, hclash.other, rfl⟩
  · rintro ⟨cap, hcap, base, m, v, hm, hmajor, hne, rfl⟩
    have hnoted := lookup_of_oneMajor hm fun m' hm' => h.oneMajor base m m' v hm hm'
      ⟨cap, hcap, hmajor⟩
    obtain ⟨before, after, hsplit, hnew⟩ := List.eq_append_cons_of_mem hcap
    refine ⟨before, cap, after, base, m, v, hsplit, ⟨hmajor, hnoted, hne⟩,
      nofun, ?_, rfl⟩
    intro earlier hearlier p w hclash
    have hmem : earlier ∈ consumed := hsplit ▸ List.mem_append_left _ hearlier
    have hother : m ≠ w := by
      rw [Option.some.inj (hnoted.symm.trans hclash.noted)]
      exact hclash.other
    have hsame := h.oneConflict base m hm cap hcap earlier hmem v w hmajor hclash.major hne hother
    exact hnew (hsame ▸ hearlier)

theorem Listed.perm {names' : List String} (hperm : names'.Perm names)
    : Listed names' base ver ↔ Listed names base ver := by
  unfold Listed
  simp only [hperm.mem_iff]

theorem Unambiguous.perm (h : Unambiguous produces consumed contract)
    {produces' : List String} (hp : produces'.Perm produces)
    (hc : consumed'.Perm consumed) : Unambiguous produces' consumed' contract where
  oneMajor := by
    intro base m m' v hm hm' hv
    exact h.oneMajor base m m' v ((Listed.perm hp).mp hm) ((Listed.perm hp).mp hm')
      ((Listed.perm hc).mp hv)
  oneConflict := by
    intro base m hm cap hcap cap' hcap'
    exact h.oneConflict base m ((Listed.perm hp).mp hm) cap (hc.mem_iff.mp hcap) cap'
      (hc.mem_iff.mp hcap')
  uncovered := by
    intro base m v hm hv
    exact h.uncovered base m v ((Listed.perm hp).mp hm) ((Listed.perm hc).mp hv)

/-- An issue that names this base and this name comes from this name's clash. -/
theorem Unambiguous.listed_of_mem (h : Unambiguous produces consumed contract)
    {issues : List ValidationIssue}
    (hissues : validateCompatibility produces consumed contract = .ok issues)
    (hmajor : majorOf cap = some (base, v))
    (hmem : conflictIssue base p v cap ∈ conflictsOf issues) : Listed produces base p ∧ p ≠ v := by
  obtain ⟨cap', -, base', m, v', hm, hmajor', hne, htext⟩ :=
    (h.firstClash_iff _).mp ((mem_conflicts_iff hissues).mp hmem)
  obtain ⟨rfl, rfl, rfl⟩ := conflictIssue_inj hmajor hmajor' htext
  obtain ⟨-, rfl⟩ := Prod.mk.inj (Option.some.inj (hmajor.symm.trans hmajor'))
  exact ⟨hm, hne⟩

theorem Unambiguous.orderly (h : Unambiguous produces consumed contract) :
    Orderly produces consumed contract where
  orderBlind := by
    intro produces' consumed' issues issues' hp hc hissues hissues' issue
    rw [mem_conflicts_iff hissues, mem_conflicts_iff hissues', h.firstClash_iff,
      (h.perm hp hc).firstClash_iff]
    simp only [hc.mem_iff, Listed.perm hp]
  producedAlike := by
    intro issues hissues cap hcap base p v hmajor hlisted hmem
    obtain ⟨hp, hne⟩ := h.listed_of_mem hissues hmajor hmem
    exact hne (h.oneMajor base p v v hp hlisted ⟨cap, hcap, hmajor⟩)
  contracted := by
    intro issues hissues cap hcap base p v hmajor hcovered hmem
    obtain ⟨hp, hne⟩ := h.listed_of_mem hissues hmajor hmem
    exact h.uncovered base p v hp ⟨cap, hcap, hmajor⟩ hne hcovered

/-- The major-version conflicts are free of the order of the lists and honour what is declared
    exactly on unambiguous lists, and where the names raise. -/
theorem orderly_iff (produces consumed : List String) (contract : Fields) :
    Orderly produces consumed contract ↔
      (Readable produces consumed → Unambiguous produces consumed contract) := by
  constructor
  · intro h hread
    exact h.unambiguous hread
  · intro h
    by_cases hread : Readable produces consumed
    · exact (h hread).orderly
    · have hraises : ∀ issues, validateCompatibility produces consumed contract ≠ .ok issues :=
        fun issues hissues => hread ((returns_validateCompatibility _ _ _).mp ⟨issues, hissues⟩)
      constructor
      · intro _ _ issues _ _ _ hissues
        exact absurd hissues (hraises issues)
      · intro issues hissues
        exact absurd hissues (hraises issues)
      · intro issues hissues
        exact absurd hissues (hraises issues)

/-- A capability that is produced in both its major versions and consumed in one of them. -/
theorem last_writer_decides :
    ¬ Orderly ["pay.card.charge.v2", "pay.card.charge.v1"] ["pay.card.charge.v2"] [] := by
  intro h
  have hfirst : majorOf "pay.card.charge.v1" = some ("pay.card.charge".toList, 1) := by decide
  have hsecond : majorOf "pay.card.charge.v2" = some ("pay.card.charge".toList, 2) := by decide
  have hshort : ∀ name ∈ ["pay.card.charge.v2", "pay.card.charge.v1"], ShortVersion name := by
    intro name hname base digits hversion
    have hdigits : ∀ name ∈ ["pay.card.charge.v2", "pay.card.charge.v1"],
        (namespaceVersion name).map (·.2.length) = some 1 := by decide
    have hone := hdigits name hname
    rw [hversion] at hone
    have hlength : digits.length = 1 := Option.some.inj hone
    rw [hlength]
    decide
  have hread : Readable ["pay.card.charge.v2", "pay.card.charge.v1"] ["pay.card.charge.v2"] :=
    ⟨hshort, fun name hname => hshort name (by simp_all)⟩
  have hsame := (h.unambiguous hread).oneMajor "pay.card.charge".toList 1 2 2
    ⟨_, List.mem_cons_of_mem _ List.mem_cons_self, hfirst⟩ ⟨_, List.mem_cons_self, hsecond⟩
    ⟨_, List.mem_cons_self, hsecond⟩
  exact nomatch hsame

end

end KeyholeMajors
