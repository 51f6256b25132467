import Keyhole.ValidationTotality

/-!
# The status of each file

`_record_file_result` records a status for a file from the issues of the file's own check.

* `worst`, `domainStatus_eq_worst`: a status is the worst severity of some issues;
* `OwnHard`: a check reports issues of its own file, none of them a mere warning;
* `Exact`, `fileFindings_exact`: the invariant of the four file passes: each status sums its
  file's issues up, and every issue is about a recorded file;
* `fileNames`, `ownIssues`: the files and the issues they leave, in either mode. -/

namespace KeyholeSummaries

open KeyholeYaml KeyholeNamespace KeyholeValidation KeyholePipeline KeyholeTotality ExceptLoops

/-! ## Severities -/

/-- PASS, WARN, REJECT, in this order. -/
def level : ValidationStatus → Nat
  | .pass => 0
  | .warn => 1
  | .reject => 2

/-- The severity of one issue. -/
def severity (strict : Bool) (issue : ValidationIssue) : ValidationStatus :=
  if issue.hard strict then .reject else .warn

/-- The worst of some statuses. -/
def worst (statuses : List ValidationStatus) : ValidationStatus :=
  if statuses.contains .reject then .reject
  else if statuses.contains .warn then .warn
  else .pass

theorem worst_eq_reject {statuses : List ValidationStatus} :
    worst statuses = .reject ↔ .reject ∈ statuses := by
  unfold worst
  by_cases hreject : statuses.contains .reject = true
  · rw [if_pos hreject]
    exact ⟨fun _ => List.contains_iff_mem.mp hreject, fun _ => rfl⟩
  · rw [if_neg hreject]
    constructor
    · intro h
      split at h <;> exact nomatch h
    · intro h
      exact absurd (List.contains_iff_mem.mpr h) hreject

theorem worst_eq_pass {statuses : List ValidationStatus} :
    worst statuses = .pass ↔ ∀ status ∈ statuses, status = .pass := by
  unfold worst
  by_cases hreject : statuses.contains .reject = true
  · rw [if_pos hreject]
    refine ⟨nofun, fun h => ?_⟩
    exact nomatch h _ (List.contains_iff_mem.mp hreject)
  · rw [if_neg hreject]
    by_cases hwarn : statuses.contains .warn = true
    · rw [if_pos hwarn]
      refine ⟨nofun, fun h => ?_⟩
      exact nomatch h _ (List.contains_iff_mem.mp hwarn)
    · rw [if_neg hwarn]
      refine ⟨fun _ status hmem => ?_, fun _ => rfl⟩
      cases status with
      | pass => rfl
      | warn => exact absurd (List.contains_iff_mem.mpr hmem) hwarn
      | reject => exact absurd (List.contains_iff_mem.mpr hmem) hreject

theorem status_ext {a b : ValidationStatus} (hreject : a = .reject ↔ b = .reject)
    (hpass : a = .pass ↔ b = .pass) : a = b := by
  cases a with
  | pass => exact (hpass.mp rfl).symm
  | reject => exact (hreject.mp rfl).symm
  | warn =>
    cases b with
    | pass => exact nomatch hpass.mpr rfl
    | warn => rfl
    | reject => exact nomatch hreject.mpr rfl

variable {issues : List ValidationIssue} {fname name : String} {strict : Bool}

theorem domainStatus_eq_reject :
    domainStatus strict issues = .reject ↔ ∃ issue ∈ issues, issue.hard strict = true := by
  refine ⟨domainStatus_reject, ?_⟩
  rintro ⟨issue, hmem, hhard⟩
  unfold domainStatus
  rw [if_neg, if_pos (List.any_eq_true.mpr ⟨issue, hmem, hhard⟩)]
  intro hempty
  rw [List.isEmpty_iff.mp hempty] at hmem
  exact nomatch hmem

theorem domainStatus_eq_pass :
    domainStatus strict issues = .pass ↔ issues = [] := by
  unfold domainStatus
  cases issues with
  | nil => exact ⟨fun _ => rfl, fun _ => rfl⟩
  | cons issue rest =>
    refine ⟨fun h => ?_, nofun⟩
    rw [if_neg (show ¬ (issue :: rest).isEmpty = true from Bool.false_ne_true)] at h
    split at h <;> exact nomatch h

/-- The status of some issues is their worst severity. -/
theorem domainStatus_eq_worst (strict : Bool) (issues : List ValidationIssue) :
    domainStatus strict issues = worst (issues.map (severity strict)) := by
  apply status_ext
  · rw [domainStatus_eq_reject, worst_eq_reject, List.mem_map]
    constructor
    · rintro ⟨issue, hmem, hhard⟩
      exact ⟨issue, hmem, if_pos hhard⟩
    · rintro ⟨issue, hmem, hseverity⟩
      refine ⟨issue, hmem, ?_⟩
      by_contra hsoft
      rw [severity, if_neg hsoft] at hseverity
      exact nomatch hseverity
  · rw [domainStatus_eq_pass, worst_eq_pass]
    constructor
    · rintro rfl status hmem
      exact nomatch hmem
    · intro h
      cases issues with
      | nil => rfl
      | cons issue rest =>
        have hpass := h _ (List.mem_map_of_mem List.mem_cons_self)
        unfold severity at hpass
        split at hpass <;> exact nomatch hpass

theorem hard_strict (issue : ValidationIssue) : issue.hard true = true := rfl

/-- More issues, graded strictly, are no better. -/
theorem level_le_strict {more : List ValidationIssue} (h : ∀ i ∈ issues, i ∈ more) :
    level (domainStatus false issues) ≤ level (domainStatus true more) := by
  cases issues with
  | nil => exact Nat.zero_le _
  | cons issue rest =>
    have hmem := h issue List.mem_cons_self
    rw [domainStatus_eq_reject.mpr ⟨issue, hmem, hard_strict issue⟩]
    cases domainStatus false (issue :: rest) with
    | pass => exact Nat.zero_le _
    | warn => exact Nat.le_succ _
    | reject => exact Nat.le_refl _

/-! ## The passes over the files -/

/-- The names of the recorded files. -/
def recordedNames (found : Findings) : List String := found.files.map (·.1)

/-- The issues of one file. -/
def issuesOf (fname : String) (issues : List ValidationIssue) : List ValidationIssue :=
  issues.filter fun issue => issue.file == fname

/-- Each recorded status sums up the file's issues, and every issue is about a recorded file. -/
structure Exact (strict : Bool) (found : Findings) : Prop where
  status : ∀ file ∈ found.files, file.2 = domainStatus strict (issuesOf file.1 found.issues)
  recorded : ∀ issue ∈ found.issues, issue.file ∈ recordedNames found

theorem issuesOf_append (fname : String) (issues more : List ValidationIssue) :
    issuesOf fname (issues ++ more) = issuesOf fname issues ++ issuesOf fname more :=
  List.filter_append _ _

theorem issuesOf_self (h : ∀ issue ∈ issues, issue.file = fname) : issuesOf fname issues = issues :=
  List.filter_eq_self.mpr fun issue hmem => beq_iff_eq.mpr (h issue hmem)

theorem issuesOf_other (h : ∀ issue ∈ issues, issue.file ≠ fname) : issuesOf fname issues = [] :=
  List.filter_eq_nil_iff.mpr fun issue hmem heq => h issue hmem (beq_iff_eq.mp heq)

/-- Recording a new file with its issues keeps the invariant. -/
theorem Exact.add {found : Findings} (h : Exact strict found)
    {status : ValidationStatus} (hnew : fname ∉ recordedNames found)
    (hfile : ∀ issue ∈ issues, issue.file = fname) (hstatus : status = domainStatus strict issues) :
    Exact strict ⟨found.issues ++ issues, found.files ++ [(fname, status)]⟩ where
  status := by
    intro file hmem
    show file.2 = domainStatus strict (issuesOf file.1 (found.issues ++ issues))
    rw [issuesOf_append]
    rcases List.mem_append.mp hmem with hold | hlast
    · have hne : fname ≠ file.1 := fun heq => hnew (heq ▸ List.mem_map_of_mem hold)
      have hnone : issuesOf file.1 issues = [] :=
        issuesOf_other fun issue hi => (hfile issue hi).symm ▸ hne
      rw [hnone, List.append_nil]
      exact h.status file hold
    · rw [List.mem_singleton.mp hlast]
      rw [issuesOf_self hfile, issuesOf_other, List.nil_append]
      · exact hstatus
      · intro issue hi heq
        have hsame : issue.file = fname := heq
        exact hnew (hsame ▸ h.recorded issue hi)
  recorded := by
    intro issue hmem
    show issue.file ∈ (found.files ++ [(fname, status)]).map (·.1)
    rw [List.map_append]
    rcases List.mem_append.mp hmem with hold | hlast
    · exact List.mem_append_left _ (h.recorded issue hold)
    · exact List.mem_append_right _ (List.mem_singleton.mpr (hfile issue hlast))

/-! ## What each file's own check reports -/

/-- Issues about one file, none of them a mere warning. -/
def OwnHard (fname : String) (issues : List ValidationIssue) : Prop :=
  ∀ issue ∈ issues, issue.file = fname ∧ issueWarnReasons.contains issue.reason = false

theorem OwnHard.nil (fname : String) : OwnHard fname [] := nofun

theorem OwnHard.single {field : String} {reason : Reason} {repair : List String}
    (h : issueWarnReasons.contains reason = false) :
    OwnHard fname [⟨fname, field, reason, repair⟩] := by
  intro issue hmem
  rw [List.mem_singleton.mp hmem]
  exact ⟨rfl, h⟩

theorem OwnHard.append {more : List ValidationIssue}
    (h : OwnHard fname issues) (hmore : OwnHard fname more) : OwnHard fname (issues ++ more) := by
  intro issue hmem
  rcases List.mem_append.mp hmem with hmem | hmem
  · exact h issue hmem
  · exact hmore issue hmem

theorem OwnHard.flatMap {α : Type} {f : α → List ValidationIssue} {items : List α}
    (h : ∀ item, OwnHard fname (f item)) : OwnHard fname (items.flatMap f) := by
  intro issue hmem
  obtain ⟨item, -, hissue⟩ := List.mem_flatMap.mp hmem
  exact h item issue hissue

theorem ownHard_nameField (fname path cap : String) :
    OwnHard fname (validateCapabilityNameField fname path cap) := by
  unfold validateCapabilityNameField
  simp only
  split
  · exact .nil fname
  · exact .single rfl

theorem ownHard_required (fname : String) (required : List String) (data : Fields) :
    OwnHard fname (requiredIssues fname required data) := by
  intro issue hmem
  obtain ⟨key, -, rfl⟩ := List.mem_map.mp hmem
  exact ⟨rfl, rfl⟩

theorem ownHard_listField (fname field : String) {reason : Reason} (v : Option Yaml)
    (h : issueWarnReasons.contains reason = false) : OwnHard fname (listField fname field reason v) := by
  unfold listField
  split
  · exact .nil fname
  · exact .nil fname
  · exact .single h

theorem ownHard_contract (fname : String) (loaded : Except String Fields) :
    OwnHard fname (validateGovernanceContract fname loaded) := by
  cases loaded with
  | error why => exact .single rfl
  | ok data =>
    refine (((ownHard_required fname _ data).append ?_).append
      (ownHard_listField fname _ _ rfl)).append (ownHard_listField fname _ _ rfl)
    unfold producesIssues
    split
    · exact .nil fname
    · apply OwnHard.flatMap
      intro item
      unfold producesItem
      split
      · exact ownHard_nameField _ _ _
      · exact .single rfl
    · exact .single rfl

theorem ownHard_passport (fname : String) (loaded : Except String Fields) :
    OwnHard fname (validateCapabilityPassport fname loaded) := by
  cases loaded with
  | error why => exact .single rfl
  | ok data =>
    refine ((ownHard_required fname _ data).append ?_).append ?_
    · unfold capabilityIssues
      split
      · exact .nil fname
      · exact ownHard_nameField _ _ _
      · exact .single rfl
    · unfold delegatedIssues
      split
      · exact .nil fname
      · apply OwnHard.flatMap
        intro item
        unfold delegatedItem
        split
        · exact .nil fname
        · exact .single rfl
      · exact .single rfl

theorem ownHard_entry (fname : String) (idx : Nat) (seen : List String) (dep : Fields) :
    OwnHard fname (checkDependency fname idx seen dep).issues := by
  unfold checkDependency
  simp only
  split
  · exact .single rfl
  · split
    · refine (((ownHard_nameField _ _ _).append ?_).append ?_).append ?_
      · split
        · exact .single rfl
        · exact .nil fname
      · unfold providerField
        split
        · exact .single rfl
        · exact .nil fname
      · unfold digestField
        split
        · split
          · split
            · exact .nil fname
            · exact .single rfl
          · exact .single rfl
        · exact .nil fname
    · exact .single rfl

theorem ownHard_entries (fname : String) (deps : List Fields) :
    ∀ (idx : Nat) (seen : List String), OwnHard fname (checkDependencies fname idx seen deps).1 := by
  induction deps with
  | nil =>
    intro idx seen
    exact .nil fname
  | cons dep rest ih =>
    intro idx seen
    exact (ownHard_entry fname idx seen dep).append (ih _ _)

theorem ownHard_dependencies (fname : String) (loaded : Except String Fields) :
    OwnHard fname (validateDependencies fname loaded).1 := by
  cases loaded with
  | error why => exact .single rfl
  | ok data =>
    refine OwnHard.append ?_ (ownHard_entries fname _ 0 [])
    unfold parseDependenciesList
    split
    · exact .nil fname
    · apply OwnHard.flatMap
      intro item
      unfold dependencyShape
      split
      · exact .nil fname
      · exact .single rfl
    · exact .single rfl

theorem keyhole_file (fname : String) (loaded : Except String Fields) :
    ∀ issue ∈ (validateKeyholeYaml fname loaded).1, issue.file = fname := by
  intro issue hmem
  cases loaded with
  | error why =>
    rw [List.mem_singleton.mp hmem]
    rfl
  | ok data =>
    rcases List.mem_append.mp hmem with hmem | hmem
    · unfold repoField at hmem
      split at hmem
      · rw [List.mem_singleton.mp hmem]
      · split at hmem
        · rw [List.mem_singleton.mp hmem]
        · exact nomatch hmem
      · rw [List.mem_singleton.mp hmem]
    · split at hmem
      · exact nomatch hmem
      · rw [List.mem_singleton.mp hmem]

/-! ## What the file passes leave -/

section

variable {strict : Bool} {posture : ContractRepoPosture} {found : Findings} {fname : String}
  {file : FileText} {issues : List ValidationIssue}

/-- The names a required file adds, and the issues. -/
def requiredNames (posture : ContractRepoPosture) (fname : String) (file : FileText) :
    List String :=
  if file.present = true ∨ posture = .native then [fname] else []

def requiredAdds (posture : ContractRepoPosture) (fname : String) (file : FileText)
    (issues : List ValidationIssue) : List ValidationIssue :=
  if file.present then issues
  else if posture = .native then
    [⟨fname, "", .missingRequiredFile,
      ["'" ++ fname ++ "' is required for a native governed repo.",
        "Run: keyhole init vertical — to scaffold the governance files."]⟩]
  else []

/-- The names an optional file adds, and the issues. -/
def optionalNames (fname : String) (file : FileText) : List String :=
  if file.present then [fname] else []

def optionalAdds (file : FileText) (issues : List ValidationIssue) : List ValidationIssue :=
  if file.present then issues else []

theorem required_names : recordedNames (found.required strict posture fname file issues) =
    recordedNames found ++ requiredNames posture fname file := by
  unfold Findings.required requiredNames recordedNames
  by_cases hpresent : file.present = true
  · rw [if_pos hpresent, if_pos (.inl hpresent)]
    exact List.map_append
  · rw [if_neg hpresent]
    by_cases hnative : posture = .native
    · rw [if_pos hnative, if_pos (.inr hnative)]
      exact List.map_append
    · rw [if_neg hnative, if_neg (by rintro (h | h); exacts [hpresent h, hnative h]),
        List.append_nil]

theorem required_issues : (found.required strict posture fname file issues).issues =
    found.issues ++ requiredAdds posture fname file issues := by
  unfold Findings.required requiredAdds
  by_cases hpresent : file.present = true
  · rw [if_pos hpresent, if_pos hpresent]
    rfl
  · rw [if_neg hpresent, if_neg hpresent]
    by_cases hnative : posture = .native
    · rw [if_pos hnative, if_pos hnative]
    · rw [if_neg hnative, if_neg hnative, List.append_nil]

theorem optional_names : recordedNames (found.optional strict fname file issues) =
    recordedNames found ++ optionalNames fname file := by
  unfold Findings.optional optionalNames recordedNames
  by_cases hpresent : file.present = true
  · rw [if_pos hpresent, if_pos hpresent]
    exact List.map_append
  · rw [if_neg hpresent, if_neg hpresent, List.append_nil]

theorem optional_issues : (found.optional strict fname file issues).issues =
    found.issues ++ optionalAdds file issues := by
  unfold Findings.optional optionalAdds
  by_cases hpresent : file.present = true
  · rw [if_pos hpresent, if_pos hpresent]
    rfl
  · rw [if_neg hpresent, if_neg hpresent, List.append_nil]

theorem Exact.required (h : Exact strict found) (hnew : fname ∉ recordedNames found)
    (hfile : ∀ issue ∈ issues, issue.file = fname) :
    Exact strict (found.required strict posture fname file issues) := by
  unfold Findings.required
  by_cases hpresent : file.present = true
  · rw [if_pos hpresent]
    exact h.add hnew hfile rfl
  · rw [if_neg hpresent]
    by_cases hnative : posture = .native
    · rw [if_pos hnative]
      refine h.add hnew ?_ ?_
      · intro issue hmem
        rw [List.mem_singleton.mp hmem]
      · cases strict <;> rfl
    · rw [if_neg hnative]
      exact h

theorem Exact.optional (h : Exact strict found) (hnew : fname ∉ recordedNames found)
    (hfile : ∀ issue ∈ issues, issue.file = fname) :
    Exact strict (found.optional strict fname file issues) := by
  unfold Findings.optional
  by_cases hpresent : file.present = true
  · rw [if_pos hpresent]
    exact h.add hnew hfile rfl
  · rw [if_neg hpresent]
    exact h

theorem mem_requiredNames (h : name ∈ requiredNames posture fname file) :
    name = fname := by
  unfold requiredNames at h
  split at h
  · exact List.mem_singleton.mp h
  · exact nomatch h

theorem mem_optionalNames (h : name ∈ optionalNames fname file) :
    name = fname := by
  unfold optionalNames at h
  split at h
  · exact List.mem_singleton.mp h
  · exact nomatch h

end

section

variable (yaml : Option Loader) (repo : Repo) (posture : ContractRepoPosture)

/-- The files a validation records. -/
def fileNames : List String :=
  requiredNames posture "keyhole.yaml" repo.keyhole
    ++ requiredNames posture "governance_contract.yaml" repo.contract
    ++ optionalNames "capability_passport.yaml" repo.passport
    ++ optionalNames "dependencies.yaml" repo.dependencies

/-- The issues the files' own checks report. -/
def ownIssues : List ValidationIssue :=
  requiredAdds posture "keyhole.yaml" repo.keyhole
      (validateKeyholeYaml "keyhole.yaml" (loadYamlSafe yaml "keyhole.yaml" repo.keyhole)).1
    ++ requiredAdds posture "governance_contract.yaml" repo.contract
      (validateGovernanceContract "governance_contract.yaml"
        (loadYamlSafe yaml "governance_contract.yaml" repo.contract))
    ++ optionalAdds repo.passport (validateCapabilityPassport "capability_passport.yaml"
        (loadYamlSafe yaml "capability_passport.yaml" repo.passport))
    ++ optionalAdds repo.dependencies (validateDependencies "dependencies.yaml"
        (loadYamlSafe yaml "dependencies.yaml" repo.dependencies)).1

theorem fileFindings_names (strict : Bool) :
    recordedNames (fileFindings yaml repo posture strict) = fileNames repo posture := by
  unfold fileFindings
  simp only [optional_names, required_names]
  rfl

theorem fileFindings_issues (strict : Bool) :
    (fileFindings yaml repo posture strict).issues = ownIssues yaml repo posture := by
  unfold fileFindings
  simp only [optional_issues, required_issues]
  rfl

theorem fileFindings_exact (strict : Bool) : Exact strict (fileFindings yaml repo posture strict) := by
  have hnone : Exact strict ⟨[], []⟩ := ⟨nofun, nofun⟩
  refine Exact.optional (Exact.optional (Exact.required (Exact.required hnone ?_ ?_) ?_ ?_) ?_ ?_)
    ?_ ?_
  · exact nofun
  · exact keyhole_file _ _
  · rw [required_names]
    intro h
    rcases List.mem_append.mp h with h | h
    · exact nomatch h
    · exact absurd (mem_requiredNames h) (by decide)
  · exact fun issue h => (ownHard_contract _ _ issue h).1
  · rw [required_names, required_names]
    intro h
    rcases List.mem_append.mp h with h | h
    · rcases List.mem_append.mp h with h | h
      · exact nomatch h
      · exact absurd (mem_requiredNames h) (by decide)
    · exact absurd (mem_requiredNames h) (by decide)
  · exact fun issue h => (ownHard_passport _ _ issue h).1
  · rw [optional_names, required_names, required_names]
    intro h
    rcases List.mem_append.mp h with h | h
    · rcases List.mem_append.mp h with h | h
      · rcases List.mem_append.mp h with h | h
        · exact nomatch h
        · exact absurd (mem_requiredNames h) (by decide)
      · exact absurd (mem_requiredNames h) (by decide)
    · exact absurd (mem_optionalNames h) (by decide)
  · exact fun issue h => (ownHard_dependencies _ _ issue h).1

theorem mem_fileNames (h : name ∈ fileNames repo posture) :
    name ∈ ["keyhole.yaml", "governance_contract.yaml", "capability_passport.yaml",
      "dependencies.yaml"] := by
  unfold fileNames at h
  rcases List.mem_append.mp h with h | h
  · rcases List.mem_append.mp h with h | h
    · rcases List.mem_append.mp h with h | h
      · rw [mem_requiredNames h]
        exact List.mem_cons_self
      · rw [mem_requiredNames h]
        decide
    · rw [mem_optionalNames h]
      decide
  · rw [mem_optionalNames h]
    decide

theorem contract_mem_fileNames (h : repo.contract.present = true) :
    "governance_contract.yaml" ∈ fileNames repo posture := by
  refine List.mem_append_left _ (List.mem_append_left _ (List.mem_append_right _ ?_))
  rw [requiredNames, if_pos (.inl h)]
  exact List.mem_cons_self

theorem dependencies_mem_fileNames (h : repo.dependencies.present = true) :
    "dependencies.yaml" ∈ fileNames repo posture := by
  refine List.mem_append_right _ ?_
  rw [optionalNames, if_pos h]
  exact List.mem_cons_self

theorem requiredAdds_file {file : FileText} (h : ∀ issue ∈ issues, issue.file = fname) :
    ∀ issue ∈ requiredAdds posture fname file issues, issue.file = fname := by
  intro issue hmem
  unfold requiredAdds at hmem
  split at hmem
  · exact h issue hmem
  · split at hmem
    · rw [List.mem_singleton.mp hmem]
    · exact nomatch hmem

theorem optionalAdds_file {file : FileText} (h : ∀ issue ∈ issues, issue.file = fname) :
    ∀ issue ∈ optionalAdds file issues, issue.file = fname := by
  intro issue hmem
  unfold optionalAdds at hmem
  split at hmem
  · exact h issue hmem
  · exact nomatch hmem

/-- The issues a present governance contract has of its own. -/
theorem issuesOf_contract (h : repo.contract.present = true) :
    issuesOf "governance_contract.yaml" (ownIssues yaml repo posture) =
      validateGovernanceContract "governance_contract.yaml"
        (loadYamlSafe yaml "governance_contract.yaml" repo.contract) := by
  have hkeyhole : ∀ issue ∈ requiredAdds posture "keyhole.yaml" repo.keyhole
      (validateKeyholeYaml "keyhole.yaml" (loadYamlSafe yaml "keyhole.yaml" repo.keyhole)).1,
      issue.file ≠ "governance_contract.yaml" := by
    intro issue hmem
    rw [requiredAdds_file posture (keyhole_file _ _) issue hmem]
    decide
  have hpassport : ∀ issue ∈ optionalAdds repo.passport
      (validateCapabilityPassport "capability_passport.yaml"
        (loadYamlSafe yaml "capability_passport.yaml" repo.passport)),
      issue.file ≠ "governance_contract.yaml" := by
    intro issue hmem
    rw [optionalAdds_file (fun i hi => (ownHard_passport _ _ i hi).1) issue hmem]
    decide
  have hdependencies : ∀ issue ∈ optionalAdds repo.dependencies
      (validateDependencies "dependencies.yaml"
        (loadYamlSafe yaml "dependencies.yaml" repo.dependencies)).1,
      issue.file ≠ "governance_contract.yaml" := by
    intro issue hmem
    rw [optionalAdds_file (fun i hi => (ownHard_dependencies _ _ i hi).1) issue hmem]
    decide
  unfold ownIssues
  rw [issuesOf_append, issuesOf_append, issuesOf_append, issuesOf_other hkeyhole,
    issuesOf_other hpassport, issuesOf_other hdependencies, List.nil_append, List.append_nil,
    List.append_nil, requiredAdds, if_pos h]
  exact issuesOf_self fun i hi => (ownHard_contract _ _ i hi).1

/-- The issues a present list of dependencies has of its own. -/
theorem issuesOf_dependencies (h : repo.dependencies.present = true) :
    issuesOf "dependencies.yaml" (ownIssues yaml repo posture) =
      (validateDependencies "dependencies.yaml"
        (loadYamlSafe yaml "dependencies.yaml" repo.dependencies)).1 := by
  have hkeyhole : ∀ issue ∈ requiredAdds posture "keyhole.yaml" repo.keyhole
      (validateKeyholeYaml "keyhole.yaml" (loadYamlSafe yaml "keyhole.yaml" repo.keyhole)).1,
      issue.file ≠ "dependencies.yaml" := by
    intro issue hmem
    rw [requiredAdds_file posture (keyhole_file _ _) issue hmem]
    decide
  have hcontract : ∀ issue ∈ requiredAdds posture "governance_contract.yaml" repo.contract
      (validateGovernanceContract "governance_contract.yaml"
        (loadYamlSafe yaml "governance_contract.yaml" repo.contract)),
      issue.file ≠ "dependencies.yaml" := by
    intro issue hmem
    rw [requiredAdds_file posture (fun i hi => (ownHard_contract _ _ i hi).1) issue hmem]
    decide
  have hpassport : ∀ issue ∈ optionalAdds repo.passport
      (validateCapabilityPassport "capability_passport.yaml"
        (loadYamlSafe yaml "capability_passport.yaml" repo.passport)),
      issue.file ≠ "dependencies.yaml" := by
    intro issue hmem
    rw [optionalAdds_file (fun i hi => (ownHard_passport _ _ i hi).1) issue hmem]
    decide
  unfold ownIssues
  rw [issuesOf_append, issuesOf_append, issuesOf_append, issuesOf_other hkeyhole,
    issuesOf_other hcontract, issuesOf_other hpassport, List.nil_append, List.nil_append,
    List.nil_append, optionalAdds, if_pos h]
  exact issuesOf_self fun i hi => (ownHard_dependencies _ _ i hi).1

end

end KeyholeSummaries
