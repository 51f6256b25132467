import Keyhole.FileSummaries
import Keyhole.DependencyIndices

/-!
# The summaries of a validation

`run_validation` sums one list of issues up three times: a status for each file, recorded before
the passes across the files have run; a status for each of four domains, computed at the end;
and the overall status, from both.

* `late_contract_iff`, `late_dependency_iff`: what the later passes add, and about which file;
* `Agrees`: what the three summaries are to have in common;
* `summariesAgree_iff`: they have it, unless a later pass finds something about a file that passed. -/

namespace KeyholeSummaries

open KeyholeYaml KeyholeNamespace KeyholeValidation KeyholePipeline KeyholeTotality ExceptLoops
open KeyholeMajors
open KeyholeJson (mem_of_lookup)

/-! ## What the later passes add -/

/-- `compatibility_contracts` is set and is no list of mappings with a capability. -/
def MalformedContracts (contract : Fields) : Prop :=
  match Fields.get contract "compatibility_contracts" with
  | .null => False
  | .seq items => ∃ item ∈ items, ∀ entry, item = .map entry → Fields.has entry "capability" = false
  | _ => True

/-- In strict mode an entry names no provider; or a capability is both produced and consumed, or
    consumed in another major version than the one noted for its base. -/
inductive LateDependency (contract dependencies : Fields) (strict : Bool) : Prop where
  | provider (dep : Fields) : strict = true → dep ∈ entries dependencies →
      truthy (Fields.get dep "capability") = true →
      providerGiven (Fields.get dep "provider") = .ok false →
      LateDependency contract dependencies strict
  | itself (cap : String) : cap ∈ consumed dependencies → cap ∈ produced contract →
      LateDependency contract dependencies strict
  | major (cap : String) (base : Text) (p v : Nat) : cap ∈ consumed dependencies →
      Clash (basesOf (produced contract)) cap base p v →
      LateDependency contract dependencies strict

theorem contractEntry_eq_nil {item : Yaml} {idx : Nat} :
    contractEntry (item, idx) = [] ↔ ¬ ∀ entry, item = .map entry →
      Fields.has entry "capability" = false := by
  unfold contractEntry
  simp only
  split
  · rename_i entry
    by_cases hnamed : Fields.has entry "capability" = true
    · rw [if_pos hnamed]
      refine ⟨fun _ h => ?_, fun _ => rfl⟩
      exact nomatch hnamed.symm.trans (h entry rfl)
    · rw [if_neg hnamed]
      refine ⟨nofun, fun h => absurd ?_ h⟩
      intro entry' hentry
      cases hentry
      exact Bool.eq_false_iff.mpr hnamed
  · rename_i hother
    refine ⟨nofun, fun h => absurd ?_ h⟩
    intro entry hentry
    exact absurd hentry (hother entry)

theorem exists_contractIssue_iff {contract : Fields} :
    (∃ issue, issue ∈ contractIssues contract) ↔ MalformedContracts contract := by
  unfold contractIssues MalformedContracts
  cases Fields.get contract "compatibility_contracts" with
  | null => exact ⟨fun ⟨_, h⟩ => (nomatch h), fun h => h.elim⟩
  | seq items =>
    constructor
    · rintro ⟨issue, hissue⟩
      obtain ⟨⟨item, idx⟩, hmem, hentry⟩ := List.mem_flatMap.mp hissue
      refine ⟨item, (List.mem_iff_getElem?.mpr ⟨idx, List.mem_zipIdx_iff_getElem?.mp hmem⟩), ?_⟩
      by_contra hfine
      rw [contractEntry_eq_nil.mpr hfine] at hentry
      exact nomatch hentry
    · rintro ⟨item, hitem, hbad⟩
      obtain ⟨idx, hidx⟩ := List.mem_iff_getElem?.mp hitem
      have hsome : contractEntry (item, idx) ≠ [] := fun h => contractEntry_eq_nil.mp h hbad
      obtain ⟨issue, hissue⟩ := List.exists_mem_of_ne_nil _ hsome
      exact ⟨issue, List.mem_flatMap.mpr
        ⟨(item, idx), List.mem_zipIdx_iff_getElem?.mpr hidx, hissue⟩⟩
  | _ =>
    exact ⟨fun _ => trivial, fun _ => ⟨_, List.mem_cons_self⟩⟩

theorem exists_selfDependency_iff {produces : List String} : ∀ {consumed seen : List String},
    (∃ issue, issue ∈ selfDependencies produces seen consumed) ↔
      ∃ cap ∈ consumed, cap ∈ produces ∧ cap ∉ seen := by
  intro consumed
  induction consumed with
  | nil =>
    intro seen
    exact ⟨fun ⟨_, h⟩ => (by cases h), fun ⟨_, h, _⟩ => (by cases h)⟩
  | cons cap rest ih =>
    intro seen
    unfold selfDependencies
    by_cases hnew : (produces.contains cap && !seen.contains cap) = true
    · rw [if_pos hnew]
      rw [Bool.and_eq_true, Bool.not_eq_true', List.contains_iff_mem] at hnew
      refine ⟨fun _ => ⟨cap, List.mem_cons_self, hnew.1, ?_⟩, fun _ => ⟨_, List.mem_cons_self⟩⟩
      intro hmem
      rw [List.contains_iff_mem.mpr hmem] at hnew
      cases hnew.2
    · rw [if_neg hnew, ih]
      constructor
      · rintro ⟨cap', hmem, hrest⟩
        exact ⟨cap', List.mem_cons_of_mem _ hmem, hrest⟩
      · rintro ⟨cap', hmem, hproduced, hseen⟩
        rcases List.mem_cons.mp hmem with rfl | hmem
        · refine absurd ?_ hnew
          rw [Bool.and_eq_true, Bool.not_eq_true']
          exact ⟨List.contains_iff_mem.mpr hproduced,
            Bool.eq_false_iff.mpr fun h => hseen (List.contains_iff_mem.mp h)⟩
        · exact ⟨cap', hmem, hproduced, hseen⟩

variable {found : Findings} {issue : ValidationIssue} {providers compat : List ValidationIssue}
variable {fname : String} {posture : ContractRepoPosture}

theorem selfDependencies_file {produces : List String} :
    ∀ {consumed seen : List String}, issue ∈ selfDependencies produces seen consumed →
      issue.file = "dependencies.yaml" ∧ consumed ≠ [] := by
  intro consumed
  induction consumed with
  | nil =>
    intro seen h
    exact nomatch h
  | cons cap rest ih =>
    intro seen h
    refine ⟨?_, nofun⟩
    unfold selfDependencies at h
    split at h
    · rcases List.mem_cons.mp h with rfl | h
      · rfl
      · exact (ih h).1
    · exact (ih h).1

/-- Of the names that clash on a base one is the first. -/
theorem exists_firstClash {bases : List (Text × Nat)} {base : Text} {p : Nat} :
    ∀ {consumed : List String} {cap : String} {v : Nat}, cap ∈ consumed →
      Clash bases cap base p v → ∃ issue, FirstClash bases [] consumed issue := by
  have hsplit : ∀ {consumed : List String} {cap : String} {v : Nat}, cap ∈ consumed →
      Clash bases cap base p v → ∃ before cap' after w, consumed = before ++ cap' :: after ∧
        Clash bases cap' base p w ∧ ∀ earlier ∈ before, ∀ q w, ¬ Clash bases earlier base q w := by
    intro consumed
    induction consumed with
    | nil =>
      intro cap v hmem
      exact nomatch hmem
    | cons first rest ih =>
      intro cap v hmem hclash
      by_cases hfirst : ∃ q w, Clash bases first base q w
      · obtain ⟨q, w, hq⟩ := hfirst
        have hqp : q = p := Option.some.inj (hq.noted.symm.trans hclash.noted)
        exact ⟨[], first, rest, w, rfl, hqp ▸ hq, nofun⟩
      · rcases List.mem_cons.mp hmem with rfl | hmem
        · exact absurd ⟨p, v, hclash⟩ hfirst
        · obtain ⟨before, cap', after, w, rfl, hcap', hquiet⟩ := ih hmem hclash
          refine ⟨first :: before, cap', after, w, rfl, hcap', ?_⟩
          intro earlier hearlier q w hq
          rcases List.mem_cons.mp hearlier with rfl | hearlier
          · exact hfirst ⟨q, w, hq⟩
          · exact hquiet earlier hearlier q w hq
  intro consumed cap v hmem hclash
  obtain ⟨before, cap', after, w, hconsumed, hcap', hquiet⟩ := hsplit hmem hclash
  exact ⟨_, before, cap', after, base, p, w, hconsumed, hcap', nofun, hquiet, rfl⟩

section

variable {yaml : Option Loader} {repo : Repo} {strict : Bool}

/-- A document that something can be walked in is the document of a file. -/
theorem present_of_element {key : String} {file : FileText} {v : Yaml}
    (h : v ∈ elementsOf (Fields.get (rawDocument yaml fname file) key)) : file.present = true := by
  cases hfind : Fields.find (rawDocument yaml fname file) key with
  | some value => exact present_of_load (load_of_find hfind)
  | none =>
    rw [Fields.get, hfind] at h
    cases h

theorem mem_of_consumedNames {cap : String} : ∀ {items : List Yaml},
    cap ∈ consumedNames items → ∃ item, item ∈ items := by
  intro items h
  cases items with
  | nil => exact nomatch h
  | cons item rest => exact ⟨item, List.mem_cons_self⟩

theorem present_of_consumed (h : consumed (dependenciesOf yaml repo) ≠ []) :
    repo.dependencies.present = true := by
  obtain ⟨cap, hcap⟩ := List.exists_mem_of_ne_nil _ h
  obtain ⟨item, hitem⟩ := mem_of_consumedNames hcap
  exact present_of_element hitem

/-- What the strict pass adds, it adds to a list of dependencies that is there. -/
theorem provider_file (h : strictIssues yaml repo strict = .ok providers)
    (hmem : issue ∈ providers) :
    issue.file = "dependencies.yaml" ∧ repo.dependencies.present = true := by
  cases strict with
  | false =>
    cases h
    exact nomatch hmem
  | true =>
    obtain ⟨items, hwalk, hrun⟩ := bind_ok.mp (show strictProviders _ = .ok providers from h)
    obtain ⟨idx, item, here, hget, heach, hissue⟩ := KeyholeIndices.mem_collect hrun hmem
    constructor
    · unfold strictEntry at heach
      split at heach
      · split at heach
        · obtain ⟨given, -, hpure⟩ := bind_ok.mp heach
          rw [← Except.ok.inj hpure] at hissue
          split at hissue
          · exact nomatch hissue
          · rw [List.mem_singleton.mp hissue]
            rfl
        · rw [← Except.ok.inj heach] at hissue
          exact nomatch hissue
      · rw [← Except.ok.inj heach] at hissue
        exact nomatch hissue
    · rw [walked_eq hwalk] at hget
      exact present_of_element (List.mem_of_getElem? hget)

theorem exists_provider_iff (h : strictIssues yaml repo strict = .ok providers) :
    (∃ issue, issue ∈ providers) ↔ strict = true ∧
      ∃ dep ∈ entries (dependenciesOf yaml repo), truthy (Fields.get dep "capability") = true ∧
        providerGiven (Fields.get dep "provider") = .ok false := by
  refine Iff.trans ?_ (strictIssues_any h)
  constructor
  · rintro ⟨issue, hmem⟩
    refine ⟨issue, hmem, ?_⟩
    cases strict with
    | true => rfl
    | false =>
      cases h
      exact nomatch hmem
  · rintro ⟨issue, hmem, -⟩
    exact ⟨issue, hmem⟩

/-- What the compatibility pass adds. -/
theorem mem_compat_iff (h : compatibilityIssues yaml repo = .ok compat)
    :
    issue ∈ compat ↔ issue ∈ contractIssues (contractOf yaml repo) ∨
      issue ∈ selfDependencies (produced (contractOf yaml repo)) [] (consumed (dependenciesOf yaml repo)) ∨
      FirstClash (basesOf (produced (contractOf yaml repo))) [] (consumed (dependenciesOf yaml repo))
        issue := by
  obtain ⟨listed, hlisted, hrest⟩ := bind_ok.mp
    (show compatibility (contractOf yaml repo) (dependenciesOf yaml repo) = .ok compat from h)
  obtain ⟨named, hnamed, hrun⟩ := bind_ok.mp hrest
  rw [walked_eq hlisted, walked_eq hnamed] at hrun
  obtain ⟨bases, hbases, hrest⟩ := bind_ok.mp hrun
  obtain ⟨conflicts, hconflicts, hpure⟩ := bind_ok.mp hrest
  rw [producesBases_eq hbases] at hconflicts
  have hclash := @mem_majorConflicts_iff _ issue _ _ _ hconflicts
  rw [← Except.ok.inj hpure, List.mem_append, List.mem_append, hclash, or_assoc]
  apply or_congr Iff.rfl
  apply or_congr Iff.rfl
  exact or_iff_right nofun

theorem firstClash_file {bases : List (Text × Nat)} {names : List String}
    (h : FirstClash bases [] names issue) : issue.file = "dependencies.yaml" ∧ names ≠ [] := by
  obtain ⟨before, cap, after, _, _, _, rfl, _, _, _, rfl⟩ := h
  exact ⟨rfl, by simp⟩

theorem contractIssues_file (h : issue ∈ contractIssues (contractOf yaml repo)) :
    issue.file = "governance_contract.yaml" ∧ repo.contract.present = true := by
  constructor
  · unfold contractIssues at h
    split at h
    · cases h
    · obtain ⟨⟨item, idx⟩, -, hentry⟩ := List.mem_flatMap.mp h
      unfold contractEntry at hentry
      split at hentry
      · split at hentry
        · cases hentry
        · rw [List.mem_singleton.mp hentry]
      · rw [List.mem_singleton.mp hentry]
    · rw [List.mem_singleton.mp h]
  · cases hfind : Fields.find (contractOf yaml repo) "compatibility_contracts" with
    | some value => exact present_of_load (load_of_find hfind)
    | none =>
      unfold contractIssues at h
      rw [Fields.get, hfind] at h
      cases h

/-- Each issue of the later passes is about a file that is there. -/
theorem late_file (hproviders : strictIssues yaml repo strict = .ok providers)
    (hcompat : compatibilityIssues yaml repo = .ok compat) (h : issue ∈ providers ++ compat) :
    (issue.file = "governance_contract.yaml" ∧ repo.contract.present = true) ∨
      (issue.file = "dependencies.yaml" ∧ repo.dependencies.present = true) := by
  rcases List.mem_append.mp h with h | h
  · exact .inr (provider_file hproviders h)
  · rcases (mem_compat_iff hcompat).mp h with h | h | h
    · exact .inl (contractIssues_file h)
    · obtain ⟨hfile, hsome⟩ := selfDependencies_file h
      exact .inr ⟨hfile, present_of_consumed hsome⟩
    · obtain ⟨hfile, hsome⟩ := firstClash_file h
      exact .inr ⟨hfile, present_of_consumed hsome⟩

/-- The later passes find something about the contract exactly when its contracts are malformed. -/
theorem late_contract_iff (hproviders : strictIssues yaml repo strict = .ok providers)
    (hcompat : compatibilityIssues yaml repo = .ok compat) :
    issuesOf "governance_contract.yaml" (providers ++ compat) ≠ [] ↔
      MalformedContracts (contractOf yaml repo) := by
  rw [← exists_contractIssue_iff]
  constructor
  · intro h
    obtain ⟨issue, hissue⟩ := List.exists_mem_of_ne_nil _ h
    obtain ⟨hmem, hfile⟩ := List.mem_filter.mp hissue
    have hsame := beq_iff_eq.mp hfile
    rcases List.mem_append.mp hmem with hmem | hmem
    · rw [(provider_file hproviders hmem).1] at hsame
      exact absurd hsame (by decide)
    · rcases (mem_compat_iff hcompat).mp hmem with hmem | hmem | hmem
      · exact ⟨issue, hmem⟩
      · rw [(selfDependencies_file hmem).1] at hsame
        exact absurd hsame (by decide)
      · rw [(firstClash_file hmem).1] at hsame
        exact absurd hsame (by decide)
  · rintro ⟨issue, hissue⟩ hnil
    have hmem : issue ∈ issuesOf "governance_contract.yaml" (providers ++ compat) :=
      List.mem_filter.mpr ⟨List.mem_append_right _ ((mem_compat_iff hcompat).mpr (.inl hissue)),
        beq_iff_eq.mpr (contractIssues_file hissue).1⟩
    rw [hnil] at hmem
    exact nomatch hmem

theorem late_dependency_iff (hproviders : strictIssues yaml repo strict = .ok providers)
    (hcompat : compatibilityIssues yaml repo = .ok compat) :
    issuesOf "dependencies.yaml" (providers ++ compat) ≠ [] ↔
      LateDependency (contractOf yaml repo) (dependenciesOf yaml repo) strict := by
  have hof : ∀ issue, issue ∈ providers ++ compat → issue.file = "dependencies.yaml" →
      issuesOf "dependencies.yaml" (providers ++ compat) ≠ [] := by
    intro issue hmem hfile hnil
    have hissue : issue ∈ issuesOf "dependencies.yaml" (providers ++ compat) :=
      List.mem_filter.mpr ⟨hmem, beq_iff_eq.mpr hfile⟩
    rw [hnil] at hissue
    exact nomatch hissue
  constructor
  · intro h
    obtain ⟨issue, hissue⟩ := List.exists_mem_of_ne_nil _ h
    obtain ⟨hmem, hfile⟩ := List.mem_filter.mp hissue
    have hsame := beq_iff_eq.mp hfile
    rcases List.mem_append.mp hmem with hmem | hmem
    · obtain ⟨hstrict, dep, hdep, hcap, hnone⟩ := (exists_provider_iff hproviders).mp ⟨issue, hmem⟩
      exact .provider dep hstrict hdep hcap hnone
    · rcases (mem_compat_iff hcompat).mp hmem with hmem | hmem | hmem
      · rw [(contractIssues_file hmem).1] at hsame
        exact absurd hsame (by decide)
      · obtain ⟨cap, hcap, hproduced, -⟩ := exists_selfDependency_iff.mp ⟨issue, hmem⟩
        exact .itself cap hcap hproduced
      · obtain ⟨before, cap, after, base, p, v, hsplit, hclash, -⟩ := hmem
        exact .major cap base p v (hsplit ▸ List.mem_append_right _ List.mem_cons_self) hclash
  · intro h
    cases h with
    | provider dep hstrict hdep hcap hnone =>
      obtain ⟨issue, hmem⟩ := (exists_provider_iff hproviders).mpr ⟨hstrict, dep, hdep, hcap, hnone⟩
      exact hof issue (List.mem_append_left _ hmem) (provider_file hproviders hmem).1
    | itself cap hcap hproduced =>
      obtain ⟨issue, hmem⟩ := exists_selfDependency_iff.mpr
        ⟨cap, hcap, hproduced, List.not_mem_nil⟩
      exact hof issue (List.mem_append_right _ ((mem_compat_iff hcompat).mpr (.inr (.inl hmem))))
        (selfDependencies_file hmem).1
    | major cap base p v hcap hclash =>
      obtain ⟨issue, hmem⟩ := exists_firstClash hcap hclash
      exact hof issue (List.mem_append_right _ ((mem_compat_iff hcompat).mpr (.inr (.inr hmem))))
        (firstClash_file hmem).1

end

/-! ## The whole run -/

section

variable {yaml : Option Loader} {repo : Repo} {posture : ContractRepoPosture} {strict : Bool}

/-- No issue is about a file that was not recorded, so the compatibility pass records none. -/
theorem recordCompatibility_eq {files : List (String × ValidationStatus)} :
    ∀ {rest : List ValidationIssue}, (∀ issue ∈ rest, issue.file ∈ files.map (·.1)) →
      recordCompatibility strict compat files rest = files := by
  intro rest
  induction rest with
  | nil =>
    intro _
    rfl
  | cons issue rest ih =>
    intro h
    rw [recordCompatibility, if_neg]
    · exact ih fun i hi => h i (List.mem_cons_of_mem _ hi)
    · rintro ⟨-, hnew⟩
      obtain ⟨file, hfile, hname⟩ := List.mem_map.mp (h issue List.mem_cons_self)
      have hne := List.lookup_eq_none_iff.mp (Option.isNone_iff_eq_none.mp hnew) file hfile
      exact bne_iff_ne.mp hne hname.symm

/-- A run that returns leaves the files as their own checks recorded them, and beside their
    issues those of the later passes. -/
theorem findings_inv (h : findings yaml repo posture strict = .ok found) :
    ∃ providers compat, strictIssues yaml repo strict = .ok providers ∧
      compatibilityIssues yaml repo = .ok compat ∧
      found.files = (fileFindings yaml repo posture strict).files ∧
      found.issues = ownIssues yaml repo posture ++ (providers ++ compat) := by
  obtain ⟨providers, hproviders, hrest⟩ := bind_ok.mp h
  obtain ⟨compat, hcompat, hpure⟩ := bind_ok.mp hrest
  refine ⟨providers, compat, hproviders, hcompat, ?_, ?_⟩
  · rw [← Except.ok.inj hpure]
    apply recordCompatibility_eq
    intro issue hmem
    have hnames := fileFindings_names yaml repo posture strict
    show issue.file ∈ recordedNames (fileFindings yaml repo posture strict)
    rw [hnames]
    rcases late_file hproviders hcompat (List.mem_append_right _ hmem) with ⟨hfile, hpresent⟩ |
      ⟨hfile, hpresent⟩
    · rw [hfile]
      exact contract_mem_fileNames repo posture hpresent
    · rw [hfile]
      exact dependencies_mem_fileNames repo posture hpresent
  · rw [← Except.ok.inj hpure, ← fileFindings_issues yaml repo posture strict, ← List.append_assoc]

/-- Each issue of a run is about one of the four declaration files. -/
theorem file_of_mem (h : findings yaml repo posture strict = .ok found)
    (hmem : issue ∈ found.issues) :
    issue.file ∈ ["keyhole.yaml", "governance_contract.yaml", "capability_passport.yaml",
      "dependencies.yaml"] := by
  obtain ⟨providers, compat, hproviders, hcompat, -, hissues⟩ := findings_inv h
  rw [hissues] at hmem
  rcases List.mem_append.mp hmem with hmem | hmem
  · apply mem_fileNames repo posture
    rw [← fileFindings_names yaml repo posture strict]
    apply (fileFindings_exact yaml repo posture strict).recorded
    rw [fileFindings_issues]
    exact hmem
  · rcases late_file hproviders hcompat hmem with ⟨hfile, -⟩ | ⟨hfile, -⟩
    · rw [hfile]
      decide
    · rw [hfile]
      decide

/-- A recorded status that is not PASS has an issue behind it. -/
theorem issue_of_status (h : findings yaml repo posture strict = .ok found)
    {file : String × ValidationStatus} (hmem : file ∈ found.files) :
    ∃ own, (∀ issue ∈ own, issue ∈ found.issues) ∧ file.2 = domainStatus strict own := by
  obtain ⟨providers, compat, -, -, hfiles, hissues⟩ := findings_inv h
  rw [hfiles] at hmem
  refine ⟨_, ?_, (fileFindings_exact yaml repo posture strict).status file hmem⟩
  intro issue hissue
  rw [hissues, ← fileFindings_issues yaml repo posture strict]
  exact List.mem_append_left _ (List.mem_filter.mp hissue).1

/-- The overall status is that of all issues. -/
theorem overall_eq (h : findings yaml repo posture strict = .ok found) :
    overallStatus strict found = domainStatus strict found.issues := by
  apply status_ext
  · rw [domainStatus_eq_reject]
    apply overallStatus_reject_iff
    intro file hfile hreject
    obtain ⟨own, hown, hstatus⟩ := issue_of_status h hfile
    obtain ⟨issue, hissue, hhard⟩ := domainStatus_eq_reject.mp (hstatus.symm.trans hreject)
    exact ⟨issue, hown issue hissue, hhard⟩
  · rw [domainStatus_eq_pass]
    constructor
    · intro hpass
      by_contra hsome
      obtain ⟨issue, hissue⟩ := List.exists_mem_of_ne_nil _ hsome
      rw [overallStatus] at hpass
      by_cases hhard : issue.hard strict = true
      · have hany : found.issues.any (·.hard strict) = true :=
          List.any_eq_true.mpr ⟨issue, hissue, hhard⟩
        rw [if_pos (by rw [hany, Bool.or_true])] at hpass
        cases hpass
      · have hsoft : issueIsWarnOnly issue.reason strict = true := by
          rw [ValidationIssue.hard, Bool.not_eq_true'] at hhard
          simpa using hhard
        have hany : (found.issues.any fun issue => issueIsWarnOnly issue.reason strict) = true :=
          List.any_eq_true.mpr ⟨issue, hissue, hsoft⟩
        split at hpass
        · cases hpass
        · rw [if_pos (by rw [hany, Bool.or_true])] at hpass
          cases hpass
    · intro hnone
      have hfiles : ∀ file ∈ found.files, file.2 = .pass := by
        intro file hfile
        obtain ⟨own, hown, hstatus⟩ := issue_of_status h hfile
        rw [hstatus, domainStatus_eq_pass]
        apply List.eq_nil_iff_forall_not_mem.mpr
        intro issue hissue
        have hmem := hown issue hissue
        rw [hnone] at hmem
        cases hmem
      have hquiet : ∀ status, status ≠ .pass →
          (found.files.any fun file => file.2 == status) = false := by
        intro status hstatus
        apply Bool.eq_false_iff.mpr
        intro hany
        obtain ⟨file, hfile, heq⟩ := List.any_eq_true.mp hany
        exact hstatus ((beq_iff_eq.mp heq).symm.trans (hfiles file hfile))
      rw [overallStatus, hquiet .reject (by decide), hquiet .warn (by decide), hnone]
      rfl

theorem worst_four_eq_reject {a b c d : ValidationStatus} :
    worst [a, b, c, d] = .reject ↔ a = .reject ∨ b = .reject ∨ c = .reject ∨ d = .reject := by
  rw [worst_eq_reject]
  simp [eq_comm]

/-- The four domains cover every issue of a run. -/
theorem worst_checks {issues : List ValidationIssue}
    (h : ∀ issue ∈ issues, issue.file ∈ ["keyhole.yaml", "governance_contract.yaml",
      "capability_passport.yaml", "dependencies.yaml"]) :
    worst [(computeDomainChecks strict issues).schema,
      (computeDomainChecks strict issues).dependencies,
      (computeDomainChecks strict issues).namespaces,
      (computeDomainChecks strict issues).compatibility] = domainStatus strict issues := by
  have hcover : ∀ issue ∈ issues,
      ((schemaFiles.contains issue.file || issue.reason == .missingRequiredFile)
          && plainReason issue) = true ∨
        (issue.file == "dependencies.yaml" && plainReason issue) = true ∨
        (issue.reason == .invalidCapabilityNamespace) = true ∨
        compatReasons.contains issue.reason = true := by
    intro issue hmem
    cases hplain : plainReason issue with
    | true =>
      have hfile := h issue hmem
      simp only [List.mem_cons, List.not_mem_nil, or_false] at hfile
      rcases hfile with hfile | hfile | hfile | hfile
      · exact .inl (by rw [hfile]; rfl)
      · exact .inl (by rw [hfile]; rfl)
      · exact .inl (by rw [hfile]; rfl)
      · exact .inr (.inl (by rw [hfile]; rfl))
    | false =>
      unfold plainReason at hplain
      rw [Bool.and_eq_false_iff] at hplain
      rcases hplain with hplain | hplain
      · exact .inr (.inr (.inl (by simpa using hplain)))
      · exact .inr (.inr (.inr (by simpa using hplain)))
  apply status_ext
  · rw [worst_four_eq_reject, domainStatus_eq_reject]
    simp only [computeDomainChecks, domainStatus_eq_reject, List.mem_filter]
    constructor
    · rintro (⟨issue, ⟨hmem, -⟩, hhard⟩ | ⟨issue, ⟨hmem, -⟩, hhard⟩ | ⟨issue, ⟨hmem, -⟩, hhard⟩ |
        ⟨issue, ⟨hmem, -⟩, hhard⟩) <;> exact ⟨issue, hmem, hhard⟩
    · rintro ⟨issue, hmem, hhard⟩
      rcases hcover issue hmem with hpart | hpart | hpart | hpart
      · exact .inl ⟨issue, ⟨hmem, hpart⟩, hhard⟩
      · exact .inr (.inl ⟨issue, ⟨hmem, hpart⟩, hhard⟩)
      · exact .inr (.inr (.inl ⟨issue, ⟨hmem, hpart⟩, hhard⟩))
      · exact .inr (.inr (.inr ⟨issue, ⟨hmem, hpart⟩, hhard⟩))
  · rw [worst_eq_pass, domainStatus_eq_pass]
    simp only [List.mem_cons, List.not_mem_nil, or_false, forall_eq_or_imp, forall_eq,
      computeDomainChecks, domainStatus_eq_pass, List.filter_eq_nil_iff]
    constructor
    · rintro ⟨hschema, hdependencies, hnamespaces, hcompat⟩
      apply List.eq_nil_iff_forall_not_mem.mpr
      intro issue hmem
      rcases hcover issue hmem with hpart | hpart | hpart | hpart
      · exact hschema issue hmem hpart
      · exact hdependencies issue hmem hpart
      · exact hnamespaces issue hmem hpart
      · exact hcompat issue hmem hpart
    · rintro rfl
      simp

/-- A file's own issues decide its status, unless it has none and a later pass finds one. -/
theorem same_status_iff {own late : List ValidationIssue} (h : OwnHard fname own) :
    domainStatus strict own = domainStatus strict (own ++ late) ↔ (late ≠ [] → own ≠ []) := by
  constructor
  · intro hsame hlate hown
    rw [hown, List.nil_append] at hsame
    exact hlate (domainStatus_eq_pass.mp (hsame.symm.trans rfl))
  · intro hown
    by_cases hlate : late = []
    · rw [hlate, List.append_nil]
    · obtain ⟨issue, hmem⟩ := List.exists_mem_of_ne_nil _ (hown hlate)
      have hhard : issue.hard strict = true := by
        rw [ValidationIssue.hard, issueIsWarnOnly, (h issue hmem).2]
        cases strict <;> rfl
      rw [domainStatus_eq_reject.mpr ⟨issue, hmem, hhard⟩,
        domainStatus_eq_reject.mpr ⟨issue, List.mem_append_left _ hmem, hhard⟩]

end

/-! ## The three summaries -/

section

variable (yaml : Option Loader) (repo : Repo) (mode : String) (strict : Bool)

/-- The overall status is the worst of the domains, each file's status is the worst severity of
    its issues, and strictness lowers none of the three. -/
structure Agrees : Prop where
  domains : ∀ result, runValidation yaml repo mode strict = .ok result →
    ∃ checks, result.checks = some checks ∧ result.status =
      worst [checks.schema, checks.dependencies, checks.namespaces, checks.compatibility]
  files : ∀ result, runValidation yaml repo mode strict = .ok result →
    ∀ fname status, result.files.lookup fname = some status →
      status = worst ((issuesOf fname result.issues).map (severity strict))
  strictOverall : ∀ lax tight, runValidation yaml repo mode false = .ok lax →
    runValidation yaml repo mode true = .ok tight → level lax.status ≤ level tight.status
  strictFiles : ∀ lax tight, runValidation yaml repo mode false = .ok lax →
    runValidation yaml repo mode true = .ok tight →
    ∀ fname status, lax.files.lookup fname = some status →
      ∃ status', tight.files.lookup fname = some status' ∧ level status ≤ level status'
  strictDomains : ∀ lax tight, runValidation yaml repo mode false = .ok lax →
    runValidation yaml repo mode true = .ok tight →
    ∃ checks checks', lax.checks = some checks ∧ tight.checks = some checks' ∧
      level checks.schema ≤ level checks'.schema ∧
      level checks.dependencies ≤ level checks'.dependencies ∧
      level checks.namespaces ≤ level checks'.namespaces ∧
      level checks.compatibility ≤ level checks'.compatibility

/-- Where a later pass finds something about a file, the file's own check has found something. -/
structure Forewarned : Prop where
  contract : MalformedContracts (contractOf yaml repo) →
    validateGovernanceContract "governance_contract.yaml"
      (loadYamlSafe yaml "governance_contract.yaml" repo.contract) ≠ []
  dependencies : LateDependency (contractOf yaml repo) (dependenciesOf yaml repo) strict →
    (validateDependencies "dependencies.yaml"
      (loadYamlSafe yaml "dependencies.yaml" repo.dependencies)).1 ≠ []

end

section

variable {yaml : Option Loader} {repo : Repo} {mode : String} {strict : Bool}

theorem run_inv (hnative : postureFor mode repo ≠ .foreign) {result : ValidationResult}
    (h : runValidation yaml repo mode strict = .ok result) :
    ∃ found, findings yaml repo (postureFor mode repo) strict = .ok found ∧
      result = gradedResult yaml repo mode strict found := by
  rw [runValidation, if_neg hnative] at h
  obtain ⟨found, hfound, hpure⟩ := bind_ok.mp h
  exact ⟨found, hfound, (Except.ok.inj hpure).symm⟩

theorem lookup_of_name (h : fname ∈ recordedNames found) :
    ∃ status, found.files.lookup fname = some status := by
  obtain ⟨file, hfile, hname⟩ := List.mem_map.mp h
  cases hlookup : found.files.lookup fname with
  | some status => exact ⟨status, rfl⟩
  | none => exact absurd hname.symm (bne_iff_ne.mp (List.lookup_eq_none_iff.mp hlookup file hfile))

/-- The issues of a lax run are among those of a strict one. -/
theorem lax_issues {found' : Findings} (h : findings yaml repo posture false = .ok found)
    (h' : findings yaml repo posture true = .ok found') :
    ∀ issue ∈ found.issues, issue ∈ found'.issues := by
  obtain ⟨providers, compat, hproviders, hcompat, -, hissues⟩ := findings_inv h
  obtain ⟨providers', compat', -, hcompat', -, hissues'⟩ := findings_inv h'
  have hsame : compat = compat' := Except.ok.inj (hcompat.symm.trans hcompat')
  have hnone : providers = [] := (Except.ok.inj hproviders).symm
  intro issue hmem
  rw [hissues, hnone, List.nil_append] at hmem
  rw [hissues', ← hsame]
  rcases List.mem_append.mp hmem with hmem | hmem
  · exact List.mem_append_left _ hmem
  · exact List.mem_append_right _ (List.mem_append_right _ hmem)

/-- Filtered alike, more issues graded strictly are no better. -/
theorem level_le_filter {issues more : List ValidationIssue} (h : ∀ i ∈ issues, i ∈ more)
    (part : ValidationIssue → Bool) :
    level (domainStatus false (issues.filter part)) ≤
      level (domainStatus true (more.filter part)) := by
  apply level_le_strict
  intro issue hmem
  obtain ⟨hissue, hpart⟩ := List.mem_filter.mp hmem
  exact List.mem_filter.mpr ⟨h issue hissue, hpart⟩

theorem strict_files {found' : Findings} (h : findings yaml repo posture false = .ok found)
    (h' : findings yaml repo posture true = .ok found') {status : ValidationStatus}
    (hlookup : found.files.lookup fname = some status) :
    ∃ status', found'.files.lookup fname = some status' ∧ level status ≤ level status' := by
  obtain ⟨_, _, -, -, hfiles, -⟩ := findings_inv h
  obtain ⟨_, _, -, -, hfiles', -⟩ := findings_inv h'
  rw [hfiles] at hlookup
  rw [hfiles']
  have hmem := mem_of_lookup hlookup
  have hname : fname ∈ recordedNames (fileFindings yaml repo posture true) := by
    rw [fileFindings_names, ← fileFindings_names yaml repo posture false]
    exact List.mem_map_of_mem hmem
  obtain ⟨status', hlookup'⟩ := lookup_of_name hname
  refine ⟨status', hlookup', ?_⟩
  have hstatus := (fileFindings_exact yaml repo posture false).status _ hmem
  have hstatus' := (fileFindings_exact yaml repo posture true).status _ (mem_of_lookup hlookup')
  simp only at hstatus hstatus'
  rw [hstatus, hstatus', fileFindings_issues, fileFindings_issues]
  exact level_le_filter (fun i hi => hi) _

/-- What the files' statuses miss of the later passes. -/
theorem files_iff (h : findings yaml repo posture strict = .ok found) :
    (∀ fname status, found.files.lookup fname = some status →
      status = worst ((issuesOf fname found.issues).map (severity strict))) ↔
      Forewarned yaml repo strict := by
  obtain ⟨providers, compat, hproviders, hcompat, hfiles, hissues⟩ := findings_inv h
  have hexact := fileFindings_exact yaml repo posture strict
  have hnames := fileFindings_names yaml repo posture strict
  have hown := fileFindings_issues yaml repo posture strict
  constructor
  · intro hall
    -- the status recorded for a file is that of its own issues
    have hsame : ∀ fname, fname ∈ fileNames repo posture →
        domainStatus strict (issuesOf fname (ownIssues yaml repo posture)) = domainStatus strict
          (issuesOf fname (ownIssues yaml repo posture) ++ issuesOf fname (providers ++ compat)) := by
      intro fname hfname
      rw [← hnames] at hfname
      obtain ⟨status, hlookup⟩ := lookup_of_name hfname
      have hstatus := hexact.status _ (mem_of_lookup hlookup)
      have hworst := hall fname status (by rw [hfiles]; exact hlookup)
      rw [← domainStatus_eq_worst, hissues, issuesOf_append] at hworst
      rw [hown] at hstatus
      exact hstatus.symm.trans hworst
    constructor
    · intro hbad
      have hlate := (late_contract_iff hproviders hcompat).mpr hbad
      obtain ⟨issue, hissue⟩ := List.exists_mem_of_ne_nil _ hlate
      obtain ⟨hmem, hfile⟩ := List.mem_filter.mp hissue
      have hpresent : repo.contract.present = true := by
        rcases late_file hproviders hcompat hmem with ⟨-, hpresent⟩ | ⟨hother, -⟩
        · exact hpresent
        · exact absurd (hother.symm.trans (beq_iff_eq.mp hfile)) (by decide)
      have hstatus := hsame _ (contract_mem_fileNames repo posture hpresent)
      rw [issuesOf_contract yaml repo posture hpresent] at hstatus
      exact (same_status_iff (ownHard_contract _ _)).mp hstatus hlate
    · intro hbad
      have hlate := (late_dependency_iff hproviders hcompat).mpr hbad
      obtain ⟨issue, hissue⟩ := List.exists_mem_of_ne_nil _ hlate
      obtain ⟨hmem, hfile⟩ := List.mem_filter.mp hissue
      have hpresent : repo.dependencies.present = true := by
        rcases late_file hproviders hcompat hmem with ⟨hother, -⟩ | ⟨-, hpresent⟩
        · exact absurd (hother.symm.trans (beq_iff_eq.mp hfile)) (by decide)
        · exact hpresent
      have hstatus := hsame _ (dependencies_mem_fileNames repo posture hpresent)
      rw [issuesOf_dependencies yaml repo posture hpresent] at hstatus
      exact (same_status_iff (ownHard_dependencies _ _)).mp hstatus hlate
  · intro hfore fname status hlookup
    rw [hfiles] at hlookup
    have hstatus := hexact.status _ (mem_of_lookup hlookup)
    simp only at hstatus
    rw [← domainStatus_eq_worst, hissues, issuesOf_append, hstatus, hown]
    by_cases hlate : issuesOf fname (providers ++ compat) = []
    · rw [hlate, List.append_nil]
    · obtain ⟨issue, hissue⟩ := List.exists_mem_of_ne_nil _ hlate
      obtain ⟨hmem, hfile⟩ := List.mem_filter.mp hissue
      have hname : issue.file = fname := beq_iff_eq.mp hfile
      rcases late_file hproviders hcompat hmem with ⟨hcontract, hpresent⟩ |
        ⟨hdependencies, hpresent⟩
      · rw [← hname, hcontract] at hlate ⊢
        rw [issuesOf_contract yaml repo posture hpresent]
        refine (same_status_iff (ownHard_contract _ _)).mpr fun _ => hfore.contract ?_
        exact (late_contract_iff hproviders hcompat).mp hlate
      · rw [← hname, hdependencies] at hlate ⊢
        rw [issuesOf_dependencies yaml repo posture hpresent]
        refine (same_status_iff (ownHard_dependencies _ _)).mpr fun _ => hfore.dependencies ?_
        exact (late_dependency_iff hproviders hcompat).mp hlate

end

/-- The summaries of a native or partially aligned repository agree exactly when the validation
    raises, or each file that a later pass has something against failed its own check. -/
theorem summariesAgree_iff (yaml : Option Loader) (repo : Repo) (mode : String) (strict : Bool) :
    (postureFor mode repo ≠ .foreign → Agrees yaml repo mode strict) ↔
      (postureFor mode repo ≠ .foreign →
        Walkable (contractOf yaml repo) (dependenciesOf yaml repo) strict →
        Forewarned yaml repo strict) := by
  have hreturns := returns_findings yaml repo (postureFor mode repo) strict
  constructor
  · intro h hnative hwalk
    obtain ⟨found, hfound⟩ := hreturns.mpr hwalk
    apply (files_iff hfound).mp
    apply (h hnative).files (gradedResult yaml repo mode strict found)
    rw [runValidation, if_neg hnative, hfound]
    rfl
  · intro h hnative
    constructor
    · intro result hrun
      obtain ⟨found, hfound, rfl⟩ := run_inv hnative hrun
      refine ⟨_, rfl, ?_⟩
      show overallStatus strict found = _
      rw [overall_eq hfound]
      exact (worst_checks fun issue hmem => file_of_mem hfound hmem).symm
    · intro result hrun
      obtain ⟨found, hfound, rfl⟩ := run_inv hnative hrun
      exact (files_iff hfound).mpr (h hnative (hreturns.mp ⟨found, hfound⟩))
    · intro lax tight hlax htight
      obtain ⟨found, hfound, rfl⟩ := run_inv hnative hlax
      obtain ⟨found', hfound', rfl⟩ := run_inv hnative htight
      show level (overallStatus false found) ≤ level (overallStatus true found')
      rw [overall_eq hfound, overall_eq hfound']
      exact level_le_strict (lax_issues hfound hfound')
    · intro lax tight hlax htight fname status hlookup
      obtain ⟨found, hfound, rfl⟩ := run_inv hnative hlax
      obtain ⟨found', hfound', rfl⟩ := run_inv hnative htight
      exact strict_files hfound hfound' hlookup
    · intro lax tight hlax htight
      obtain ⟨found, hfound, rfl⟩ := run_inv hnative hlax
      obtain ⟨found', hfound', rfl⟩ := run_inv hnative htight
      have hmore := lax_issues hfound hfound'
      exact ⟨_, _, rfl, rfl, level_le_filter hmore _, level_le_filter hmore _,
        level_le_filter hmore _, level_le_filter hmore _⟩

/-- A repository that depends on what it produces. -/
def selfRepo : Repo where
  path := "/work/demo"
  name := "demo"
  keyhole := .text "keyhole"
  contract := .text "contract"
  passport := .missing
  dependencies := .text "dependencies"
  manifest _ := false

/-- What the loader makes of its three files. -/
def selfLoad (content : String) : Except String Yaml :=
  if content = "contract" then
    .ok (.map [(.str "repo", .str "demo"), (.str "produces", .seq [.str "pay.card.charge.v1"])])
  else if content = "dependencies" then
    .ok (.map [(.str "dependencies", .seq [.map [(.str "capability", .str "pay.card.charge.v1")]])])
  else .ok (.map [(.str "repo", .str "demo"), (.str "schema_version", .int 1)])

/-- The self-dependency warns overall, and `dependencies.yaml` stays at PASS. -/
theorem warned_file_passes : ¬ (postureFor "auto" selfRepo ≠ .foreign →
    Agrees (some selfLoad) selfRepo "auto" false) := by
  intro h
  have hnative : postureFor "auto" selfRepo ≠ .foreign := fun hforeign => nomatch hforeign
  obtain ⟨found, hfound⟩ : ∃ found,
      findings (some selfLoad) selfRepo (postureFor "auto" selfRepo) false = .ok found := ⟨_, rfl⟩
  have hfiles := (h hnative).files (gradedResult (some selfLoad) selfRepo "auto" false found)
    (by rw [runValidation, if_neg hnative, hfound]; rfl)
  refine ((files_iff hfound).mp hfiles).dependencies ?_ rfl
  exact .itself "pay.card.charge.v1" List.mem_cons_self List.mem_cons_self

end KeyholeSummaries
