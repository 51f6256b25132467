import Keyhole.LastWrite
import Keyhole.ParentForest
import Keyhole.StableSort
import Mathlib.Data.String.Basic
import Mathlib.Data.List.Dedup

/-!
# Root causes of a failed diagnostic, and their repair

`doctor/root_cause.py` groups the failed checks by the check that caused them, writes the
groups into the diagnostic, and `doctor/repair_plan.py` computes a plan from them.

* `computeRootFailures`, `annotateDiagnosticWithRoots`, `computeRepairPlan`: the source;
* `groups_partition`: each failed check is in one group;
* `annotate_annotate`: annotating twice is annotating once;
* `rootCauses_iff`: with that, the plan covers the roots exactly where their codes are plain. -/

namespace KeyholeRootCauses

open LastWrite ParentForest StableSort

/-! ## Diagnostics -/

/-- `CheckResult`. -/
structure CheckResult where
  checkName : String
  category : String
  status : String
  reasonCode : String := ""
  message : String := ""
  isRoot : Bool := false
  downstreamOf : String := ""

/-- `RootFailureGroup`. -/
structure RootFailureGroup where
  rootCheck : String
  rootReasonCode : String
  rootMessage : String
  downstreamChecks : List String := []

/-- `DiagnosticResult`, as far as the groups and the plan read it. -/
structure DiagnosticResult where
  checkResults : List CheckResult := []
  reasonCodes : List String := []
  rootFailureGroups : List RootFailureGroup := []
  requestedMode : String := ""

/-! ## Grouping -/

/-- `DEPENDENCY_MAP`. -/
def dependencyMap : List (String × List String) :=
  [("python_available", ["python_version", "cli_installed"]),
    ("docker_available", ["compose_available", "runtime_running"]),
    ("runtime_running", ["runtime_reachable"])]

/-- Its pairs in the order of the two loops, each dependent with its root. -/
def dependencyPairs : List (String × String) :=
  dependencyMap.flatMap fun entry => entry.2.map fun dep => (dep, entry.1)

/-- `c.status == CheckStatus.FAIL.value`. -/
def CheckResult.failed (c : CheckResult) : Bool := c.status == "fail"

/-- `failed_checks`. -/
def failedChecks (checks : List CheckResult) : List (String × CheckResult) :=
  fill CheckResult.checkName id (checks.filter CheckResult.failed)

/-- The links that the checks name themselves. -/
def explicitLinks (failedChecks : List (String × CheckResult)) : List (String × String) :=
  failedChecks.filterMap fun entry =>
    if entry.2.downstreamOf ≠ "" ∧ entry.2.downstreamOf ∈ failedChecks.map Prod.fst then
      some (entry.2.checkName, entry.2.downstreamOf)
    else none

/-- One turn of the loop over the dependencies. -/
def addDependent (names : List String) (links : List (String × String))
    (pair : String × String) : List (String × String) :=
  if pair.2 ∈ names ∧ pair.1 ∈ names ∧ pair.1 ∉ links.map Prod.fst then links ++ [pair] else links

/-- `downstream_of`. -/
def downstreamLinks (failedChecks : List (String × CheckResult)) : List (String × String) :=
  dependencyPairs.foldl (addDependent (failedChecks.map Prod.fst)) (explicitLinks failedChecks)

/-- The group of a root. -/
def groupOf (failedChecks : List (String × CheckResult)) (links : List (String × String))
    (rootName : String) : Option RootFailureGroup :=
  (failedChecks.lookup rootName).map fun rootCheck =>
    { rootCheck := rootName
      rootReasonCode := rootCheck.reasonCode
      rootMessage := rootCheck.message
      downstreamChecks := sortOn id (collect links links.length rootName) }

/-- `compute_root_failures`; `_collect_downstream` goes as deep as it has to, by
    `Forest.collect_of_length_le`. -/
def computeRootFailures (diagnostic : DiagnosticResult) : List RootFailureGroup :=
  let failed := failedChecks diagnostic.checkResults
  let links := downstreamLinks failed
  let rootNames := (failed.map Prod.fst).filter fun name => name ∉ links.map Prod.fst
  (sortOn id rootNames).filterMap (groupOf failed links)

/-- What the annotation makes of one check. -/
def annotateCheck (groups : List RootFailureGroup) (c : CheckResult) : CheckResult :=
  let c := if c.checkName ∈ groups.map RootFailureGroup.rootCheck then { c with isRoot := true }
    else c
  if c.checkName ∈ groups.flatMap RootFailureGroup.downstreamChecks then
    { c with
      isRoot := false
      downstreamOf := match groups.find? fun g => c.checkName ∈ g.downstreamChecks with
        | some g => g.rootCheck
        | none => c.downstreamOf }
  else c

/-- `annotate_diagnostic_with_roots`. -/
def annotateDiagnosticWithRoots (diagnostic : DiagnosticResult) : DiagnosticResult :=
  let groups := computeRootFailures diagnostic
  let rc := "DOCTOR_ROOT_FAILURE_IDENTIFIED"
  { diagnostic with
    rootFailureGroups := groups
    checkResults := diagnostic.checkResults.map (annotateCheck groups)
    reasonCodes :=
      if groups ≠ [] ∧ rc ∉ diagnostic.reasonCodes then
        sortOn id (diagnostic.reasonCodes ++ [rc]).dedup
      else diagnostic.reasonCodes }

/-! ## The plan -/

/-- A rule of `_REPAIR_RULES`. -/
structure RepairRule where
  kind : String
  description : String
  command : String := ""
  docLink : String := ""
  authority : String := "user"
  verificationHint : String

/-- `_REPAIR_RULES`. -/
def repairRules : List (String × RepairRule) :=
  [("DOCTOR_UNSUPPORTED_ENVIRONMENT",
      { kind := "doc_link"
        description := "This platform is not in the supported set. Use Linux, macOS, or Windows " ++
          "(WSL) for development."
        docLink := "https://github.com/Keyhole-Solution/keyhole-developer-kit" ++
          "#supported-environments"
        verificationHint := "Run 'keyhole doctor' again on a supported OS." }),
    ("DOCTOR_PYTHON_MISSING",
      { kind := "install"
        description := "Install Python 3.9 or later."
        command := "https://www.python.org/downloads/"
        verificationHint := "Run 'python3 --version'." }),
    ("DOCTOR_PYTHON_VERSION_UNSUPPORTED",
      { kind := "install"
        description := "Upgrade or install a supported Python version (3.9–3.13)."
        command := "https://www.python.org/downloads/"
        verificationHint := "Run 'python3 --version'." }),
    ("DOCTOR_CLI_NOT_INSTALLED",
      { kind := "command"
        description := "Install the Keyhole CLI."
        command := "pip install keyhole-cli"
        verificationHint := "Run 'keyhole --version'." }),
    ("DOCTOR_DOCKER_UNAVAILABLE",
      { kind := "install"
        description := "Install Docker."
        command := "https://docs.docker.com/get-docker/"
        docLink := "https://docs.docker.com/get-docker/"
        authority := "admin"
        verificationHint := "Run 'docker --version'." }),
    ("DOCTOR_COMPOSE_UNAVAILABLE",
      { kind := "install"
        description := "Install Docker Compose."
        command := "https://docs.docker.com/compose/install/"
        docLink := "https://docs.docker.com/compose/install/"
        verificationHint := "Run 'docker compose version'." }),
    ("DOCTOR_RUNTIME_NOT_RUNNING",
      { kind := "command"
        description := "Start the Keyhole local runtime."
        command := "keyhole runtime start"
        verificationHint := "Run 'keyhole runtime status'." }),
    ("DOCTOR_RUNTIME_UNREACHABLE",
      { kind := "command"
        description := "Verify runtime is accessible. Check logs and network."
        command := "keyhole runtime status"
        verificationHint := "Run 'keyhole doctor --mode governed'." }),
    ("DOCTOR_MCP_CONFIG_MISSING",
      { kind := "file_create"
        description := "Create MCP configuration at ~/.keyhole/mcp.json with your runtime URL and " ++
          "credentials."
        command := "keyhole init --governed"
        docLink := "https://github.com/Keyhole-Solution/keyhole-developer-kit#governed-mode-setup"
        verificationHint := "Run 'keyhole doctor --mode governed'." }),
    ("DOCTOR_SDK_RUNTIME_VERSION_MISMATCH",
      { kind := "command"
        description := "Update keyhole-sdk to match the runtime version."
        command := "pip install --upgrade keyhole-sdk"
        verificationHint := "Run 'python -c \"import keyhole_sdk; " ++
          "print(keyhole_sdk.__version__)\"'." })]

/-- `_REPAIR_ORDER`. -/
def repairOrder : List String :=
  ["DOCTOR_UNSUPPORTED_ENVIRONMENT", "DOCTOR_PYTHON_MISSING", "DOCTOR_PYTHON_VERSION_UNSUPPORTED",
    "DOCTOR_CLI_NOT_INSTALLED", "DOCTOR_DOCKER_UNAVAILABLE", "DOCTOR_COMPOSE_UNAVAILABLE",
    "DOCTOR_RUNTIME_NOT_RUNNING", "DOCTOR_RUNTIME_UNREACHABLE", "DOCTOR_MCP_CONFIG_MISSING",
    "DOCTOR_SDK_RUNTIME_VERSION_MISMATCH"]

/-- `RepairStep`. -/
structure RepairStep where
  stepId : String
  order : Nat
  kind : String
  description : String
  command : String
  authority : String
  required : Bool
  addressesCheck : String
  addressesReasonCode : String
  verificationHint : String
  docLink : String

/-- `RepairPlan`, without its id and its time. -/
structure RepairPlan where
  requestedGoal : String
  requestedMode : String
  rootFailuresAddressed : List String
  steps : List RepairStep
  verificationSteps : List String

/-- Append what is not there yet. -/
def addNew (xs : List String) (x : String) : List String := if x ∈ xs then xs else xs ++ [x]

/-- `root_codes`. -/
def rootCodes (diagnostic : DiagnosticResult) : List String :=
  let ofGroups := ((diagnostic.rootFailureGroups.map RootFailureGroup.rootReasonCode).filter
    (· ≠ "")).foldl addNew []
  if ofGroups = [] then
    ((diagnostic.checkResults.filter fun c => c.failed && c.isRoot && c.reasonCode ≠ "").map
      CheckResult.reasonCode).foldl addNew ofGroups
  else ofGroups

/-- `ordered_codes`. -/
def orderedCodes (rootCodes : List String) : List String :=
  rootCodes.foldl addNew (repairOrder.filter (· ∈ rootCodes))

/-- `downstream_codes`. -/
def downstreamCodes (diagnostic : DiagnosticResult) : List String :=
  diagnostic.rootFailureGroups.flatMap fun g =>
    g.downstreamChecks.flatMap fun name =>
      (diagnostic.checkResults.filter fun c => c.checkName == name && c.reasonCode ≠ "").map
        CheckResult.reasonCode

/-- The step for a code and its index, where it has one. -/
def planStep (downstreamCodes : List String) (entry : String × Nat) : Option RepairStep :=
  if entry.1 ∈ downstreamCodes then none
  else (repairRules.lookup entry.1).map fun rule =>
    { stepId := "step-" ++ toString (entry.2 + 1)
      order := entry.2 + 1
      kind := rule.kind
      description := rule.description
      command := rule.command
      authority := rule.authority
      required := true
      addressesCheck := ""
      addressesReasonCode := entry.1
      verificationHint := rule.verificationHint
      docLink := rule.docLink }

/-- `compute_repair_plan`. -/
def computeRepairPlan (diagnostic : DiagnosticResult) (goal : String) : RepairPlan :=
  let ordered := orderedCodes (rootCodes diagnostic)
  let steps := ordered.zipIdx.filterMap (planStep (downstreamCodes diagnostic))
  { requestedGoal := if goal = "" then "restore environment health" else goal
    requestedMode := diagnostic.requestedMode
    rootFailuresAddressed := ordered
    steps := steps
    verificationSteps := (steps.map RepairStep.verificationHint).filter (· ≠ "") ++
      ["Run 'keyhole doctor --mode " ++ diagnostic.requestedMode ++ "' to verify."] }

/-! ## References -/

/-- The names of the failed checks. -/
def failedNames (checks : List CheckResult) : List String :=
  (checks.filter CheckResult.failed).map CheckResult.checkName

/-- A check names another one as its cause, or `DEPENDENCY_MAP` does. -/
def Refers (checks : List CheckResult) (c p : String) : Prop :=
  (∃ r ∈ checks, r.checkName = c ∧ r.downstreamOf = p ∧ p ≠ "") ∨ (c, p) ∈ dependencyPairs

/-- A failed check that refers to a failed check. -/
def Caused (checks : List CheckResult) (name : String) : Prop :=
  name ∈ failedNames checks ∧ ∃ p ∈ failedNames checks, Refers checks name p

/-- The links that `compute_root_failures` follows. -/
def causeLinks (checks : List CheckResult) : List (String × String) :=
  downstreamLinks (failedChecks checks)

variable {name x : String} {c : CheckResult} {pairs : List (String × String)}

theorem mem_failedNames {checks : List CheckResult} :
    name ∈ failedNames checks ↔ ∃ c ∈ checks, c.failed = true ∧ c.checkName = name := by
  rw [failedNames, List.mem_map]
  constructor
  · rintro ⟨c, hc, hname⟩
    obtain ⟨hmem, hfailed⟩ := List.mem_filter.mp hc
    exact ⟨c, hmem, hfailed, hname⟩
  · rintro ⟨c, hmem, hfailed, hname⟩
    exact ⟨c, List.mem_filter.mpr ⟨hmem, hfailed⟩, hname⟩

section AddDependent

variable {names : List String} {links : List (String × String)}

theorem nodup_addDependents (pairs : List (String × String))
    (h : (links.map Prod.fst).Nodup) :
    ((pairs.foldl (addDependent names) links).map Prod.fst).Nodup := by
  induction pairs generalizing links with
  | nil => exact h
  | cons pair rest ih =>
    refine ih ?_
    rw [addDependent]
    by_cases hadd : pair.2 ∈ names ∧ pair.1 ∈ names ∧ pair.1 ∉ links.map Prod.fst
    · rw [if_pos hadd, List.map_append]
      refine List.nodup_append.mpr ⟨h, List.nodup_singleton _, ?_⟩
      intro a ha b hb hab
      rw [hab, List.mem_singleton.mp hb] at ha
      exact hadd.2.2 ha
    · rw [if_neg hadd]
      exact h

/-- What the loop adds is a pair of failed checks. -/
theorem of_mem_addDependents {link : String × String}
    (h : link ∈ pairs.foldl (addDependent names) links) :
    link ∈ links ∨ (link ∈ pairs ∧ link.1 ∈ names ∧ link.2 ∈ names) := by
  induction pairs generalizing links with
  | nil => exact .inl h
  | cons pair rest ih =>
    rcases ih h with hold | ⟨hmem, hnames⟩
    · rw [addDependent] at hold
      by_cases hadd : pair.2 ∈ names ∧ pair.1 ∈ names ∧ pair.1 ∉ links.map Prod.fst
      · rw [if_pos hadd] at hold
        rcases List.mem_append.mp hold with hlink | hlink
        · exact .inl hlink
        · rw [List.mem_singleton.mp hlink]
          exact .inr ⟨List.mem_cons_self, hadd.2.1, hadd.1⟩
      · rw [if_neg hadd] at hold
        exact .inl hold
    · exact .inr ⟨List.mem_cons_of_mem _ hmem, hnames⟩

theorem addDependents_subset (pairs : List (String × String)) :
    links ⊆ pairs.foldl (addDependent names) links := by
  induction pairs generalizing links with
  | nil => exact List.Subset.refl links
  | cons pair rest ih =>
    refine List.Subset.trans ?_ ih
    rw [addDependent]
    by_cases hadd : pair.2 ∈ names ∧ pair.1 ∈ names ∧ pair.1 ∉ links.map Prod.fst
    · rw [if_pos hadd]
      exact List.subset_append_left links [pair]
    · rw [if_neg hadd]
      exact List.Subset.refl links

/-- Afterwards every pair of failed checks has its dependent linked. -/
theorem linked_of_pair {pair : String × String}
    (h : pair ∈ pairs) (hnames : pair.2 ∈ names ∧ pair.1 ∈ names) :
    pair.1 ∈ (pairs.foldl (addDependent names) links).map Prod.fst := by
  induction pairs generalizing links with
  | nil => exact absurd h List.not_mem_nil
  | cons first rest ih =>
    rcases List.mem_cons.mp h with rfl | hlater
    · refine List.map_subset Prod.fst (addDependents_subset rest) ?_
      rw [addDependent]
      by_cases hlinked : pair.1 ∈ links.map Prod.fst
      · rw [if_neg fun hadd => hadd.2.2 hlinked]
        exact hlinked
      · rw [if_pos ⟨hnames.1, hnames.2, hlinked⟩, List.map_append]
        exact List.mem_append_right _ (List.mem_singleton_self _)
    · exact ih hlater

/-- Where every pair of failed checks has its dependent linked, the loop adds nothing. -/
theorem addDependents_of_linked
    (h : ∀ pair ∈ pairs, pair.2 ∈ names → pair.1 ∈ names → pair.1 ∈ links.map Prod.fst) :
    pairs.foldl (addDependent names) links = links := by
  induction pairs with
  | nil => rfl
  | cons pair rest ih =>
    have hkeep : addDependent names links pair = links := by
      rw [addDependent]
      exact if_neg fun hadd => hadd.2.2 (h pair List.mem_cons_self hadd.1 hadd.2.1)
    rw [List.foldl_cons, hkeep]
    exact ih fun later hlater => h later (List.mem_cons_of_mem _ hlater)

end AddDependent

section Links

variable {checks : List CheckResult} (hnames : (checks.map CheckResult.checkName).Nodup)

include hnames

theorem nodup_failedNames : (failedNames checks).Nodup :=
  hnames.sublist (List.filter_sublist.map CheckResult.checkName)

/-- A failed check is under its own name. -/
theorem failedChecks_eq : failedChecks checks =
    (checks.filter CheckResult.failed).map fun c => (c.checkName, c) :=
  fill_of_nodup id (nodup_failedNames hnames)

theorem failedChecks_keys : (failedChecks checks).map Prod.fst = failedNames checks := by
  rw [failedChecks_eq hnames, List.map_map]
  rfl

theorem mem_failedChecks {entry : String × CheckResult} : entry ∈ failedChecks checks ↔
    entry.2 ∈ checks ∧ entry.2.failed = true ∧ entry.1 = entry.2.checkName := by
  rw [failedChecks_eq hnames, List.mem_map]
  constructor
  · rintro ⟨c, hc, rfl⟩
    obtain ⟨hmem, hfailed⟩ := List.mem_filter.mp hc
    exact ⟨hmem, hfailed, rfl⟩
  · rintro ⟨hmem, hfailed, hname⟩
    exact ⟨entry.2, List.mem_filter.mpr ⟨hmem, hfailed⟩, Prod.ext hname.symm rfl⟩

theorem lookup_failedChecks (hc : c ∈ checks) (hfailed : c.failed = true) :
    (failedChecks checks).lookup c.checkName = some c := by
  have hmem : (c.checkName, c) ∈ failedChecks checks :=
    (mem_failedChecks hnames).mpr ⟨hc, hfailed, rfl⟩
  refine lookup_of_mem ?_ hmem
  rw [failedChecks_keys hnames]
  exact nodup_failedNames hnames

theorem mem_explicitLinks {link : String × String} :
    link ∈ explicitLinks (failedChecks checks) ↔ ∃ c ∈ checks, c.failed = true ∧
      c.checkName = link.1 ∧ c.downstreamOf = link.2 ∧ link.2 ≠ "" ∧
        link.2 ∈ failedNames checks := by
  rw [explicitLinks, failedChecks_keys hnames, List.mem_filterMap]
  constructor
  · rintro ⟨entry, hentry, hlink⟩
    obtain ⟨hmem, hfailed, -⟩ := (mem_failedChecks hnames).mp hentry
    by_cases href : entry.2.downstreamOf ≠ "" ∧ entry.2.downstreamOf ∈ failedNames checks
    · rw [if_pos href] at hlink
      obtain rfl := Option.some.inj hlink
      exact ⟨entry.2, hmem, hfailed, rfl, rfl, href⟩
    · rw [if_neg href] at hlink
      exact nomatch hlink
  · rintro ⟨c, hmem, hfailed, hname, hof, href⟩
    refine ⟨(c.checkName, c), (mem_failedChecks hnames).mpr ⟨hmem, hfailed, rfl⟩, ?_⟩
    rw [← hof] at href
    rw [if_pos href, hname, hof]

theorem nodup_explicitLinks : ((explicitLinks (failedChecks checks)).map Prod.fst).Nodup := by
  have hsublist : ∀ cs : List CheckResult,
      ((explicitLinks (cs.map fun c => (c.checkName, c))).map Prod.fst).Sublist
        (cs.map CheckResult.checkName) := by
    intro cs
    rw [explicitLinks]
    generalize ((cs.map fun c => (c.checkName, c)).map Prod.fst) = names
    induction cs with
    | nil => exact List.Sublist.refl _
    | cons c rest ih =>
      rw [List.map_cons, List.filterMap_cons]
      by_cases href : c.downstreamOf ≠ "" ∧ c.downstreamOf ∈ names
      · rw [if_pos href]
        exact ih.cons_cons _
      · rw [if_neg href]
        exact ih.cons _
  rw [failedChecks_eq hnames]
  exact (nodup_failedNames hnames).sublist (hsublist _)

theorem nodup_causeLinks : ((causeLinks checks).map Prod.fst).Nodup :=
  nodup_addDependents _ (nodup_explicitLinks hnames)

/-- A link is a reference between failed checks. -/
theorem refers_of_link {c p : String} (h : (c, p) ∈ causeLinks checks) :
    c ∈ failedNames checks ∧ p ∈ failedNames checks ∧ p ≠ "" ∧ Refers checks c p := by
  have hfixed : ∀ pair ∈ dependencyPairs, pair.2 ≠ "" := by
    simp [dependencyPairs, dependencyMap]
  rcases of_mem_addDependents h with hlink | ⟨hpair, hc, hp⟩
  · obtain ⟨r, hmem, hfailed, hname, hof, hne, hp⟩ := (mem_explicitLinks hnames).mp hlink
    exact ⟨mem_failedNames.mpr ⟨r, hmem, hfailed, hname⟩, hp, hne,
      .inl ⟨r, hmem, hname, hof, hne⟩⟩
  · rw [failedChecks_keys hnames] at hc hp
    exact ⟨hc, hp, hfixed _ hpair, .inr hpair⟩

/-- The failed checks with a link are those with a failed cause. -/
theorem mem_causeLinks_keys :
    name ∈ (causeLinks checks).map Prod.fst ↔ Caused checks name := by
  constructor
  · intro h
    obtain ⟨⟨c, p⟩, hlink, rfl⟩ := List.mem_map.mp h
    obtain ⟨hc, hp, -, href⟩ := refers_of_link hnames hlink
    exact ⟨hc, p, hp, href⟩
  · rintro ⟨hfailed, p, hp, ⟨r, hr, hname, hof, hne⟩ | hpair⟩
    · obtain ⟨c, hmem, hf, hcname⟩ := mem_failedNames.mp hfailed
      obtain rfl : r = c := List.inj_on_of_nodup_map hnames hr hmem (hname.trans hcname.symm)
      have hlink : (name, p) ∈ explicitLinks (failedChecks checks) :=
        (mem_explicitLinks hnames).mpr ⟨r, hr, hf, hname, hof, hne, hp⟩
      exact List.mem_map.mpr ⟨_, addDependents_subset _ hlink, rfl⟩
    · rw [← failedChecks_keys hnames] at hfailed hp
      exact linked_of_pair hpair ⟨hp, hfailed⟩

theorem forest_causeLinks (hacyclic : ∀ a, ¬ Relation.TransGen (Refers checks) a a) :
    Forest (causeLinks checks) :=
  .of_acyclic (nodup_causeLinks hnames) (fun _ _ h => (refers_of_link hnames h).2.2.2) hacyclic

end Links

/-! ## Groups -/

/-- The names with no link, in the order of the groups. -/
def rootNames (checks : List CheckResult) : List String :=
  sortOn id (((failedChecks checks).map Prod.fst).filter fun name =>
    name ∉ (causeLinks checks).map Prod.fst)

/-- The checks below a root, in the order of its group. -/
def belowRoot (checks : List CheckResult) (rootName : String) : List String :=
  sortOn id (collect (causeLinks checks) (causeLinks checks).length rootName)

theorem mem_groups {diagnostic : DiagnosticResult} {g : RootFailureGroup} :
    g ∈ computeRootFailures diagnostic ↔ ∃ name ∈ rootNames diagnostic.checkResults,
      groupOf (failedChecks diagnostic.checkResults) (causeLinks diagnostic.checkResults) name =
        some g :=
  List.mem_filterMap

/-- The groups' lists, root by root. -/
theorem flatMap_filterMap {α β γ : Type} {group : α → Option β} {ofGroup : β → List γ}
    {ofRoot : α → List γ} {roots : List α}
    (h : ∀ r ∈ roots, ∃ g, group r = some g ∧ ofGroup g = ofRoot r) :
    (roots.filterMap group).flatMap ofGroup = roots.flatMap ofRoot := by
  induction roots with
  | nil => rfl
  | cons r rest ih =>
    obtain ⟨g, hg, hsame⟩ := h r List.mem_cons_self
    rw [List.filterMap_cons, hg, List.flatMap_cons, List.flatMap_cons, hsame,
      ih fun later hlater => h later (List.mem_cons_of_mem _ hlater)]

section Groups

variable {diagnostic : DiagnosticResult}
  (hnames : (diagnostic.checkResults.map CheckResult.checkName).Nodup)

include hnames

theorem mem_rootNames : name ∈ rootNames diagnostic.checkResults ↔
    name ∈ failedNames diagnostic.checkResults ∧ ¬ Caused diagnostic.checkResults name := by
  rw [rootNames, mem_sortOn, List.mem_filter, failedChecks_keys hnames, decide_eq_true_iff,
    mem_causeLinks_keys hnames]

theorem lookup_of_root (h : name ∈ rootNames diagnostic.checkResults) :
    (causeLinks diagnostic.checkResults).lookup name = none := by
  rw [lookup_eq_none, mem_causeLinks_keys hnames]
  exact ((mem_rootNames hnames).mp h).2

/-- A root's group: its own code and message, and what is below it. -/
theorem groupOf_root (hc : c ∈ diagnostic.checkResults) (hfailed : c.failed = true) :
    groupOf (failedChecks diagnostic.checkResults) (causeLinks diagnostic.checkResults)
        c.checkName =
      some { rootCheck := c.checkName, rootReasonCode := c.reasonCode, rootMessage := c.message,
             downstreamChecks := belowRoot diagnostic.checkResults c.checkName } := by
  rw [groupOf, lookup_failedChecks hnames hc hfailed]
  rfl

/-- A group is that of a failed check without a failed cause. -/
theorem mem_groups_iff {g : RootFailureGroup} : g ∈ computeRootFailures diagnostic ↔
    ∃ c ∈ diagnostic.checkResults, c.failed = true ∧
      ¬ Caused diagnostic.checkResults c.checkName ∧
      g = { rootCheck := c.checkName, rootReasonCode := c.reasonCode, rootMessage := c.message,
            downstreamChecks := belowRoot diagnostic.checkResults c.checkName } := by
  rw [mem_groups]
  constructor
  · rintro ⟨name, hroot, hg⟩
    obtain ⟨hmem, hfree⟩ := (mem_rootNames hnames).mp hroot
    obtain ⟨c, hc, hfailed, rfl⟩ := mem_failedNames.mp hmem
    rw [groupOf_root hnames hc hfailed] at hg
    exact ⟨c, hc, hfailed, hfree, (Option.some.inj hg).symm⟩
  · rintro ⟨c, hc, hfailed, hfree, rfl⟩
    refine ⟨c.checkName, (mem_rootNames hnames).mpr ⟨?_, hfree⟩, groupOf_root hnames hc hfailed⟩
    exact mem_failedNames.mpr ⟨c, hc, hfailed, rfl⟩

variable (hacyclic : ∀ a, ¬ Relation.TransGen (Refers diagnostic.checkResults) a a)

include hacyclic

/-- Each failed check is in one group, and no other check is in any. -/
theorem groups_partition :
    ((computeRootFailures diagnostic).flatMap fun g => g.rootCheck :: g.downstreamChecks).Perm
      (failedNames diagnostic.checkResults) := by
  have hgroups : (computeRootFailures diagnostic).flatMap
      (fun g => g.rootCheck :: g.downstreamChecks) =
        (rootNames diagnostic.checkResults).flatMap fun name =>
          name :: belowRoot diagnostic.checkResults name := by
    refine flatMap_filterMap fun name hroot => ?_
    obtain ⟨c, hc, hfailed, rfl⟩ := mem_failedNames.mp ((mem_rootNames hnames).mp hroot).1
    exact ⟨_, groupOf_root hnames hc hfailed, rfl⟩
  rw [hgroups]
  refine (List.Perm.flatMap_left _ fun name _ => (sortOn_perm id _).cons name).trans ?_
  refine (forest_causeLinks hnames hacyclic).partition (nodup_failedNames hnames) ?_ ?_
  · intro c p hlink
    obtain ⟨hc, hp, -⟩ := refers_of_link hnames hlink
    exact ⟨hc, hp⟩
  · rw [← failedChecks_keys hnames]
    exact sortOn_perm id _

/-- What is below a root. -/
theorem mem_belowRoot {root : String} (hroot : root ∈ rootNames diagnostic.checkResults) :
    name ∈ belowRoot diagnostic.checkResults root ↔
      Caused diagnostic.checkResults name ∧
        IsRootOf (causeLinks diagnostic.checkResults) name root := by
  rw [belowRoot, mem_sortOn, (forest_causeLinks hnames hacyclic).mem_below_root
    (lookup_of_root hnames hroot), mem_causeLinks_keys hnames]

/-- The root of a failed check with a failed cause has a name that is not empty. -/
theorem root_of_caused (h : Caused diagnostic.checkResults name) :
    ∃ root ∈ rootNames diagnostic.checkResults, root ≠ "" ∧
      IsRootOf (causeLinks diagnostic.checkResults) name root := by
  obtain ⟨root, hroot⟩ := (forest_causeLinks hnames hacyclic).exists_root name
  obtain ⟨⟨k, hup⟩, hnone⟩ := hroot
  cases k with
  | zero =>
    rw [← Option.some.inj hup, lookup_eq_none, mem_causeLinks_keys hnames] at hnone
    exact absurd h hnone
  | succ k =>
    rw [up_succ] at hup
    obtain ⟨c, hc, hp⟩ := Option.bind_eq_some_iff.mp hup
    obtain ⟨-, hmem, hne, -⟩ := refers_of_link hnames (mem_of_lookup hp)
    refine ⟨root, (mem_rootNames hnames).mpr ⟨hmem, ?_⟩, hne, ⟨k + 1, ?_⟩, hnone⟩
    · rw [← mem_causeLinks_keys hnames]
      exact lookup_eq_none.mp hnone
    · rw [up_succ]
      exact hup

end Groups

/-! ## Annotations -/

section Annotate

variable {groups : List RootFailureGroup} {c : CheckResult}

@[simp] theorem annotateCheck_checkName :
    (annotateCheck groups c).checkName = c.checkName := by
  simp only [annotateCheck]
  split_ifs <;> rfl

@[simp] theorem annotateCheck_status : (annotateCheck groups c).status = c.status := by
  simp only [annotateCheck]
  split_ifs <;> rfl

@[simp] theorem annotateCheck_reasonCode :
    (annotateCheck groups c).reasonCode = c.reasonCode := by
  simp only [annotateCheck]
  split_ifs <;> rfl

@[simp] theorem annotateCheck_message : (annotateCheck groups c).message = c.message := by
  simp only [annotateCheck]
  split_ifs <;> rfl

@[simp] theorem annotateCheck_failed : (annotateCheck groups c).failed = c.failed := by
  rw [CheckResult.failed, annotateCheck_status, CheckResult.failed]

/-- A second pass with the same groups changes nothing. -/
theorem annotateCheck_annotateCheck :
    annotateCheck groups (annotateCheck groups c) = annotateCheck groups c := by
  by_cases hroot : c.checkName ∈ groups.map RootFailureGroup.rootCheck
  · by_cases hbelow : c.checkName ∈ groups.flatMap RootFailureGroup.downstreamChecks
    · simp only [annotateCheck, if_pos hroot, if_pos hbelow]
      cases groups.find? fun g => decide (c.checkName ∈ g.downstreamChecks) <;> rfl
    · simp only [annotateCheck, if_pos hroot, if_neg hbelow]
  · by_cases hbelow : c.checkName ∈ groups.flatMap RootFailureGroup.downstreamChecks
    · simp only [annotateCheck, if_neg hroot, if_pos hbelow]
      cases groups.find? fun g => decide (c.checkName ∈ g.downstreamChecks) <;> rfl
    · simp only [annotateCheck, if_neg hroot, if_neg hbelow]

/-- Outside the groups' dependents, a check keeps its reference. -/
theorem annotateCheck_of_not_below
    (h : c.checkName ∉ groups.flatMap RootFailureGroup.downstreamChecks) :
    (annotateCheck groups c).downstreamOf = c.downstreamOf := by
  simp only [annotateCheck]
  split_ifs <;> rfl

end Annotate

section Twice

variable {diagnostic : DiagnosticResult}
  (hnames : (diagnostic.checkResults.map CheckResult.checkName).Nodup)

theorem failedNames_annotate (groups : List RootFailureGroup) (checks : List CheckResult) :
    failedNames (checks.map (annotateCheck groups)) = failedNames checks := by
  have hfailed : CheckResult.failed ∘ annotateCheck groups = CheckResult.failed :=
    funext fun c => annotateCheck_failed
  have hname : CheckResult.checkName ∘ annotateCheck groups = CheckResult.checkName :=
    funext fun c => annotateCheck_checkName
  rw [failedNames, List.filter_map, List.map_map, hfailed, hname, failedNames]

include hnames

theorem nodup_names_annotate : ((annotateDiagnosticWithRoots diagnostic).checkResults.map
    CheckResult.checkName).Nodup := by
  have hname : CheckResult.checkName ∘ annotateCheck (computeRootFailures diagnostic) =
      CheckResult.checkName := funext fun c => annotateCheck_checkName
  show (List.map _ (List.map _ _)).Nodup
  rw [List.map_map, hname]
  exact hnames

variable (hacyclic : ∀ a, ¬ Relation.TransGen (Refers diagnostic.checkResults) a a)

include hacyclic

/-- The dependents of the groups are the checks with a failed cause. -/
theorem mem_downstream :
    name ∈ (computeRootFailures diagnostic).flatMap RootFailureGroup.downstreamChecks ↔
      Caused diagnostic.checkResults name := by
  rw [List.mem_flatMap]
  constructor
  · rintro ⟨g, hg, hname⟩
    obtain ⟨c, hc, hfailed, hfree, rfl⟩ := (mem_groups_iff hnames).mp hg
    have hroot : c.checkName ∈ rootNames diagnostic.checkResults :=
      (mem_rootNames hnames).mpr ⟨mem_failedNames.mpr ⟨c, hc, hfailed, rfl⟩, hfree⟩
    exact ((mem_belowRoot hnames hacyclic hroot).mp hname).1
  · intro hcaused
    obtain ⟨root, hroot, -, hroots⟩ := root_of_caused hnames hacyclic hcaused
    obtain ⟨hmem, hfree⟩ := (mem_rootNames hnames).mp hroot
    obtain ⟨c, hc, hfailed, rfl⟩ := mem_failedNames.mp hmem
    exact ⟨_, (mem_groups_iff hnames).mpr ⟨c, hc, hfailed, hfree, rfl⟩,
      (mem_belowRoot hnames hacyclic hroot).mpr ⟨hcaused, hroots⟩⟩

/-- A check with a failed cause is annotated with its root. -/
theorem annotateCheck_of_caused (h : Caused diagnostic.checkResults c.checkName) :
    (annotateCheck (computeRootFailures diagnostic) c).isRoot = false ∧
      (annotateCheck (computeRootFailures diagnostic) c).downstreamOf ∈
        rootNames diagnostic.checkResults ∧
      IsRootOf (causeLinks diagnostic.checkResults) c.checkName
        (annotateCheck (computeRootFailures diagnostic) c).downstreamOf := by
  have hbelow := (mem_downstream hnames hacyclic).mpr h
  obtain ⟨g, hg, hmem⟩ := List.mem_flatMap.mp hbelow
  -- the first group that has the check below its root
  have hfind : ∃ first, (computeRootFailures diagnostic).find?
      (fun g => decide (c.checkName ∈ g.downstreamChecks)) = some first := by
    refine Option.isSome_iff_exists.mp (List.find?_isSome.mpr ⟨g, hg, ?_⟩)
    exact decide_eq_true hmem
  obtain ⟨first, hfirst⟩ := hfind
  have hannotated : (annotateCheck (computeRootFailures diagnostic) c).isRoot = false ∧
      (annotateCheck (computeRootFailures diagnostic) c).downstreamOf = first.rootCheck := by
    simp only [annotateCheck]
    split_ifs <;> simp_all
  have hin : c.checkName ∈ first.downstreamChecks := by simpa using List.find?_some hfirst
  obtain ⟨r, hr, hfailed, hfree, rfl⟩ :=
    (mem_groups_iff hnames).mp (List.mem_of_find?_eq_some hfirst)
  have hroot : r.checkName ∈ rootNames diagnostic.checkResults :=
    (mem_rootNames hnames).mpr ⟨mem_failedNames.mpr ⟨r, hr, hfailed, rfl⟩, hfree⟩
  rw [hannotated.2]
  refine ⟨hannotated.1, hroot, ?_⟩
  exact ((mem_belowRoot hnames hacyclic hroot).mp hin).2

/-- The references of the annotated checks: each dependent names its root. -/
theorem mem_explicitLinks_annotate {root : String} : (name, root) ∈ explicitLinks
        (failedChecks (annotateDiagnosticWithRoots diagnostic).checkResults) ↔
      name ∈ (causeLinks diagnostic.checkResults).map Prod.fst ∧
        IsRootOf (causeLinks diagnostic.checkResults) name root := by
  rw [mem_explicitLinks (nodup_names_annotate hnames), mem_causeLinks_keys hnames]
  show (∃ c ∈ diagnostic.checkResults.map (annotateCheck (computeRootFailures diagnostic)),
    c.failed = true ∧ c.checkName = name ∧ c.downstreamOf = root ∧ root ≠ "" ∧
      root ∈ failedNames (diagnostic.checkResults.map
        (annotateCheck (computeRootFailures diagnostic)))) ↔ _
  rw [failedNames_annotate]
  constructor
  · rintro ⟨a, ha, hfailed, hname, hof, hne, hmem⟩
    obtain ⟨c, hc, rfl⟩ := List.mem_map.mp ha
    rw [annotateCheck_checkName] at hname
    rw [annotateCheck_failed] at hfailed
    have hcmem : c.checkName ∈ failedNames diagnostic.checkResults :=
      mem_failedNames.mpr ⟨c, hc, hfailed, rfl⟩
    by_cases hcaused : Caused diagnostic.checkResults c.checkName
    · obtain ⟨-, -, hroot⟩ := annotateCheck_of_caused hnames hacyclic hcaused
      rw [hof, hname] at hroot
      exact ⟨hname ▸ hcaused, hroot⟩
    · -- a check that keeps a reference to a failed check would have a failed cause
      rw [annotateCheck_of_not_below fun hbelow =>
        hcaused ((mem_downstream hnames hacyclic).mp hbelow)] at hof
      exact absurd ⟨hcmem, root, hmem, .inl ⟨c, hc, rfl, hof, hne⟩⟩ hcaused
  · rintro ⟨hcaused, hroot⟩
    obtain ⟨c, hc, hfailed, rfl⟩ := mem_failedNames.mp hcaused.1
    obtain ⟨root', hmem', hne', hroot'⟩ := root_of_caused hnames hacyclic hcaused
    obtain rfl := root_unique hroot hroot'
    refine ⟨_, List.mem_map.mpr ⟨c, hc, rfl⟩, ?_, annotateCheck_checkName, ?_, hne',
      ((mem_rootNames hnames).mp hmem').1⟩
    · rw [annotateCheck_failed]
      exact hfailed
    · exact root_unique (annotateCheck_of_caused hnames hacyclic hcaused).2.2 hroot

/-- The annotated checks have the same roots, and the same checks below each. -/
theorem causeLinks_annotate :
    (∀ name, name ∈ (causeLinks (annotateDiagnosticWithRoots diagnostic).checkResults).map
        Prod.fst ↔ name ∈ (causeLinks diagnostic.checkResults).map Prod.fst) ∧
      ∀ root ∈ rootNames diagnostic.checkResults,
        belowRoot (annotateDiagnosticWithRoots diagnostic).checkResults root =
          belowRoot diagnostic.checkResults root := by
  have hnames' := nodup_names_annotate hnames
  have hkeys : ∀ name, name ∈ (explicitLinks (failedChecks
      (annotateDiagnosticWithRoots diagnostic).checkResults)).map Prod.fst ↔
        Caused diagnostic.checkResults name := by
    intro name
    constructor
    · intro hmem
      obtain ⟨⟨c, p⟩, hlink, rfl⟩ := List.mem_map.mp hmem
      rw [← mem_causeLinks_keys hnames]
      exact ((mem_explicitLinks_annotate hnames hacyclic).mp hlink).1
    · intro hcaused
      obtain ⟨root, -, -, hroot⟩ := root_of_caused hnames hacyclic hcaused
      refine List.mem_map.mpr ⟨(name, root), ?_, rfl⟩
      exact (mem_explicitLinks_annotate hnames hacyclic).mpr
        ⟨(mem_causeLinks_keys hnames).mpr hcaused, hroot⟩
  have hlinks : causeLinks (annotateDiagnosticWithRoots diagnostic).checkResults =
      explicitLinks (failedChecks (annotateDiagnosticWithRoots diagnostic).checkResults) := by
    refine addDependents_of_linked fun pair hpair hp hc => ?_
    rw [failedChecks_keys hnames'] at hp hc
    have hsame := failedNames_annotate (computeRootFailures diagnostic) diagnostic.checkResults
    refine (hkeys pair.1).mpr ⟨hsame ▸ hc, pair.2, hsame ▸ hp, .inr hpair⟩
  obtain ⟨-, hmem, hbelow⟩ := collapse (forest_causeLinks hnames hacyclic)
    (nodup_explicitLinks hnames') fun c p => mem_explicitLinks_annotate hnames hacyclic
  rw [hlinks]
  refine ⟨hmem, fun root hroot => ?_⟩
  rw [belowRoot, hlinks, belowRoot]
  exact sortOn_eq_of_perm (hbelow root (lookup_of_root hnames hroot)) fun a _ b _ h => h

/-- The annotated checks have the same groups. -/
theorem computeRootFailures_annotate :
    computeRootFailures (annotateDiagnosticWithRoots diagnostic) =
      computeRootFailures diagnostic := by
  have hnames' := nodup_names_annotate hnames
  obtain ⟨hkeys, hbelow⟩ := causeLinks_annotate hnames hacyclic
  have hroots : rootNames (annotateDiagnosticWithRoots diagnostic).checkResults =
      rootNames diagnostic.checkResults := by
    rw [rootNames, rootNames, failedChecks_keys hnames, failedChecks_keys hnames']
    show sortOn id (List.filter _ (failedNames (diagnostic.checkResults.map _))) = _
    rw [failedNames_annotate]
    refine congrArg (sortOn id) (List.filter_congr fun name _ => ?_)
    rw [decide_eq_decide, hkeys]
  show (rootNames (annotateDiagnosticWithRoots diagnostic).checkResults).filterMap _ =
    (rootNames diagnostic.checkResults).filterMap _
  rw [hroots]
  refine List.filterMap_congr fun name hroot => ?_
  obtain ⟨c, hc, hfailed, rfl⟩ := mem_failedNames.mp ((mem_rootNames hnames).mp hroot).1
  have hannotated := groupOf_root hnames'
    (List.mem_map.mpr ⟨c, hc, rfl⟩) (annotateCheck_failed.trans hfailed)
  rw [annotateCheck_checkName, annotateCheck_reasonCode, annotateCheck_message,
    hbelow _ hroot] at hannotated
  exact hannotated.trans (groupOf_root hnames hc hfailed).symm

/-- Annotating twice is annotating once. -/
theorem annotate_annotate :
    annotateDiagnosticWithRoots (annotateDiagnosticWithRoots diagnostic) =
      annotateDiagnosticWithRoots diagnostic := by
  have hgroups := computeRootFailures_annotate hnames hacyclic
  have hchecks : (diagnostic.checkResults.map (annotateCheck (computeRootFailures diagnostic))).map
      (annotateCheck (computeRootFailures diagnostic)) =
        diagnostic.checkResults.map (annotateCheck (computeRootFailures diagnostic)) := by
    rw [List.map_map]
    exact List.map_congr_left fun c _ => annotateCheck_annotateCheck
  have hcodes : ¬ (computeRootFailures diagnostic ≠ [] ∧ "DOCTOR_ROOT_FAILURE_IDENTIFIED" ∉
      (annotateDiagnosticWithRoots diagnostic).reasonCodes) := by
    rintro ⟨hsome, hfresh⟩
    simp only [annotateDiagnosticWithRoots] at hfresh
    by_cases hnew : "DOCTOR_ROOT_FAILURE_IDENTIFIED" ∈ diagnostic.reasonCodes
    · rw [if_neg fun h => h.2 hnew] at hfresh
      exact hfresh hnew
    · rw [if_pos ⟨hsome, hnew⟩, mem_sortOn, List.mem_dedup] at hfresh
      exact hfresh (List.mem_append_right _ (List.mem_singleton_self _))
  rw [annotateDiagnosticWithRoots, hgroups]
  simp only [if_neg hcodes]
  simp only [annotateDiagnosticWithRoots, hchecks]

end Twice

/-! ## What the plan holds -/

/-- What a plan for groups of root failures should hold: a step for every root whose code has a
    rule, the steps in the order of `_REPAIR_ORDER`, and no addressed code without a step. -/
structure PlanCovers (groups : List RootFailureGroup) (plan : RepairPlan) : Prop where
  covered : ∀ g ∈ groups, g.rootReasonCode ∈ repairRules.map Prod.fst →
    ∃ step ∈ plan.steps, step.addressesReasonCode = g.rootReasonCode
  ordered : (plan.steps.map RepairStep.addressesReasonCode).Sublist repairOrder
  numbered : (plan.steps.map RepairStep.order).Pairwise (· < ·)
  addressed : ∀ rc ∈ plan.rootFailuresAddressed,
    ∃ step ∈ plan.steps, step.addressesReasonCode = rc

/-- Every root with a reason code has a rule for it, and no check with a failed cause shares
    the code. -/
def PlainCodes (checks : List CheckResult) : Prop :=
  ∀ c ∈ checks, c.failed = true → ¬ Caused checks c.checkName → c.reasonCode ≠ "" →
    c.reasonCode ∈ repairRules.map Prod.fst ∧
      ∀ e ∈ checks, Caused checks e.checkName → e.reasonCode ≠ c.reasonCode

section AddNew

/-- What is appended is new. -/
theorem foldl_addNew (xs base : List String) : ∃ rest, xs.foldl addNew base = base ++ rest ∧
    (∀ x ∈ rest, x ∈ xs ∧ x ∉ base) ∧ ∀ x ∈ xs, x ∈ base ++ rest := by
  induction xs generalizing base with
  | nil =>
    refine ⟨[], (List.append_nil base).symm, ?_, ?_⟩
    · intro x hx
      exact absurd hx List.not_mem_nil
    · intro x hx
      exact absurd hx List.not_mem_nil
  | cons x xs ih =>
    rw [List.foldl_cons]
    by_cases hx : x ∈ base
    · obtain ⟨rest, heq, hrest, hall⟩ := ih base
      rw [addNew, if_pos hx]
      refine ⟨rest, heq, ?_, ?_⟩
      · intro y hy
        exact ⟨List.mem_cons_of_mem _ (hrest y hy).1, (hrest y hy).2⟩
      · intro y hy
        rcases List.mem_cons.mp hy with rfl | hy
        · exact List.mem_append_left _ hx
        · exact hall y hy
    · obtain ⟨rest, heq, hrest, hall⟩ := ih (base ++ [x])
      rw [addNew, if_neg hx, heq, List.append_assoc]
      rw [List.append_assoc] at hall
      refine ⟨x :: rest, rfl, ?_, ?_⟩
      · intro y hy
        rcases List.mem_cons.mp hy with rfl | hy
        · exact ⟨List.mem_cons_self, hx⟩
        · obtain ⟨hmem, hfresh⟩ := hrest y hy
          exact ⟨List.mem_cons_of_mem _ hmem, fun hb => hfresh (List.mem_append_left _ hb)⟩
      · intro y hy
        rcases List.mem_cons.mp hy with rfl | hy
        · exact List.mem_append_right _ List.mem_cons_self
        · exact hall y hy

theorem mem_foldl_addNew {xs base : List String} :
    x ∈ xs.foldl addNew base ↔ x ∈ base ∨ x ∈ xs := by
  obtain ⟨rest, heq, hrest, hall⟩ := foldl_addNew xs base
  rw [heq]
  constructor
  · intro hx
    rcases List.mem_append.mp hx with hx | hx
    · exact .inl hx
    · exact .inr (hrest x hx).1
  · rintro (hx | hx)
    · exact List.mem_append_left _ hx
    · exact hall x hx

end AddNew

section Steps

theorem mem_orderedCodes {codes : List String} :
    x ∈ orderedCodes codes ↔ x ∈ codes := by
  rw [orderedCodes, mem_foldl_addNew, List.mem_filter]
  constructor
  · rintro (⟨-, hx⟩ | hx)
    · exact of_decide_eq_true hx
    · exact hx
  · intro hx
    exact .inr hx

/-- The codes of the steps, from any index on. -/
theorem map_planStep (downstream codes : List String) (i : Nat) :
    ((codes.zipIdx i).filterMap (planStep downstream)).map RepairStep.addressesReasonCode =
      codes.filter fun rc => rc ∉ downstream ∧ rc ∈ repairRules.map Prod.fst := by
  induction codes generalizing i with
  | nil => rfl
  | cons rc rest ih =>
    rw [List.zipIdx_cons, List.filterMap_cons, planStep]
    by_cases hdown : rc ∈ downstream
    · rw [if_pos hdown, List.filter_cons_of_neg (by simp [hdown])]
      exact ih (i + 1)
    · rw [if_neg hdown]
      cases hrule : repairRules.lookup rc with
      | none =>
        rw [Option.map_none, List.filter_cons_of_neg
          (by simpa [hdown] using lookup_eq_none.mp hrule)]
        exact ih (i + 1)
      | some rule =>
        have hmem : rc ∈ repairRules.map Prod.fst :=
          List.mem_map.mpr ⟨_, mem_of_lookup hrule, rfl⟩
        rw [Option.map_some, List.filter_cons_of_pos (by simpa [hdown] using hmem),
          List.map_cons, ih (i + 1)]

/-- The steps stand in the order of their numbers. -/
theorem pairwise_planStep (downstream codes : List String) :
    ((codes.zipIdx.filterMap (planStep downstream)).map RepairStep.order).Pairwise (· < ·) := by
  have hindex : codes.zipIdx.Pairwise fun a b => a.2 < b.2 := by
    refine List.pairwise_map.mp ?_
    rw [List.zipIdx_map_snd]
    exact List.pairwise_lt_range'
  have horder : ∀ entry step, planStep downstream entry = some step →
      step.order = entry.2 + 1 := by
    intro entry step hstep
    rw [planStep] at hstep
    by_cases hdown : entry.1 ∈ downstream
    · rw [if_pos hdown] at hstep
      exact nomatch hstep
    · rw [if_neg hdown] at hstep
      obtain ⟨rule, -, rfl⟩ := Option.map_eq_some_iff.mp hstep
      rfl
  rw [List.pairwise_map, List.pairwise_filterMap]
  refine hindex.imp ?_
  intro a b hab s hs t ht
  rw [horder a s hs, horder b t ht]
  exact Nat.succ_lt_succ hab

/-- The steps of a plan respect `_REPAIR_ORDER`, which has every code with a rule. -/
theorem sublist_repairOrder (codes downstream : List String) :
    ((orderedCodes codes).filter fun rc =>
      rc ∉ downstream ∧ rc ∈ repairRules.map Prod.fst).Sublist repairOrder := by
  have hrules : repairRules.map Prod.fst ⊆ repairOrder := by
    simp [repairRules, repairOrder]
  obtain ⟨rest, heq, hrest, -⟩ := foldl_addNew codes (repairOrder.filter (· ∈ codes))
  have hnone : rest.filter (fun rc => rc ∉ downstream ∧ rc ∈ repairRules.map Prod.fst) = [] := by
    refine List.filter_eq_nil_iff.mpr fun rc hrc hkeep => ?_
    obtain ⟨hmem, hfresh⟩ := hrest rc hrc
    refine hfresh (List.mem_filter.mpr ⟨hrules (of_decide_eq_true hkeep).2, ?_⟩)
    exact decide_eq_true hmem
  rw [orderedCodes, heq, List.filter_append, hnone, List.append_nil]
  exact List.filter_sublist.trans List.filter_sublist

end Steps

section Plan

variable {diagnostic : DiagnosticResult}
  (hnames : (diagnostic.checkResults.map CheckResult.checkName).Nodup)
  (hacyclic : ∀ a, ¬ Relation.TransGen (Refers diagnostic.checkResults) a a)

include hnames hacyclic

/-- A failed check that is annotated as a root has no failed cause. -/
theorem not_caused_of_isRoot
    (h : (annotateCheck (computeRootFailures diagnostic) c).isRoot = true) :
    ¬ Caused diagnostic.checkResults c.checkName := by
  intro hcaused
  rw [(annotateCheck_of_caused hnames hacyclic hcaused).1] at h
  exact nomatch h

/-- After the annotation, the codes of the plan are those of the groups. -/
theorem mem_rootCodes : x ∈ rootCodes (annotateDiagnosticWithRoots diagnostic) ↔
    x ≠ "" ∧ ∃ g ∈ computeRootFailures diagnostic, g.rootReasonCode = x := by
  have hgroups : x ∈ (((computeRootFailures diagnostic).map
      RootFailureGroup.rootReasonCode).filter (· ≠ "")).foldl addNew [] ↔
        x ≠ "" ∧ ∃ g ∈ computeRootFailures diagnostic, g.rootReasonCode = x := by
    rw [mem_foldl_addNew, List.mem_filter, decide_eq_true_iff, List.mem_map]
    constructor
    · rintro (hx | ⟨hg, hne⟩)
      · exact absurd hx List.not_mem_nil
      · exact ⟨hne, hg⟩
    · rintro ⟨hne, hg⟩
      exact .inr ⟨hg, hne⟩
  rw [rootCodes]
  show x ∈ (if (((computeRootFailures diagnostic).map
    RootFailureGroup.rootReasonCode).filter (· ≠ "")).foldl addNew [] = [] then _ else _) ↔ _
  by_cases hnil : (((computeRootFailures diagnostic).map
      RootFailureGroup.rootReasonCode).filter (· ≠ "")).foldl addNew [] = []
  · -- without a code in the groups, no check that the fallback reads has one
    rw [if_pos hnil, ← hgroups, mem_foldl_addNew]
    constructor
    · rintro (hx | hx)
      · exact hx
      · exfalso
        obtain ⟨a, ha, rfl⟩ := List.mem_map.mp hx
        obtain ⟨hmem, hkeep⟩ := List.mem_filter.mp ha
        obtain ⟨c, hc, rfl⟩ := List.mem_map.mp hmem
        rw [Bool.and_eq_true, Bool.and_eq_true, decide_eq_true_iff] at hkeep
        obtain ⟨⟨hfailed, hroot⟩, hne⟩ := hkeep
        rw [annotateCheck_failed] at hfailed
        rw [annotateCheck_reasonCode] at hne
        have hcode : c.reasonCode ∈ (((computeRootFailures diagnostic).map
            RootFailureGroup.rootReasonCode).filter (· ≠ "")).foldl addNew [] := by
          refine mem_foldl_addNew.mpr (.inr (List.mem_filter.mpr ⟨?_, decide_eq_true hne⟩))
          exact List.mem_map.mpr ⟨_, (mem_groups_iff hnames).mpr ⟨c, hc, hfailed,
            not_caused_of_isRoot hnames hacyclic hroot, rfl⟩, rfl⟩
        rw [hnil] at hcode
        exact absurd hcode List.not_mem_nil
    · intro hx
      exact .inl hx
  · rw [if_neg hnil]
    exact hgroups

/-- The codes that the plan leaves out. -/
theorem mem_downstreamCodes :
    x ∈ downstreamCodes (annotateDiagnosticWithRoots diagnostic) ↔
      x ≠ "" ∧ ∃ c ∈ diagnostic.checkResults,
        Caused diagnostic.checkResults c.checkName ∧ c.reasonCode = x := by
  rw [downstreamCodes, List.mem_flatMap]
  constructor
  · rintro ⟨g, hg, hx⟩
    obtain ⟨name, hname, hx⟩ := List.mem_flatMap.mp hx
    obtain ⟨a, ha, rfl⟩ := List.mem_map.mp hx
    obtain ⟨hmem, hkeep⟩ := List.mem_filter.mp ha
    obtain ⟨c, hc, rfl⟩ := List.mem_map.mp hmem
    rw [Bool.and_eq_true, decide_eq_true_iff, beq_iff_eq, annotateCheck_checkName] at hkeep
    obtain ⟨rfl, hne⟩ := hkeep
    refine ⟨hne, c, hc, ?_, annotateCheck_reasonCode.symm⟩
    exact (mem_downstream hnames hacyclic).mp (List.mem_flatMap.mpr ⟨g, hg, hname⟩)
  · rintro ⟨hne, c, hc, hcaused, rfl⟩
    obtain ⟨g, hg, hname⟩ :=
      List.mem_flatMap.mp ((mem_downstream hnames hacyclic).mpr hcaused)
    refine ⟨g, hg, List.mem_flatMap.mpr ⟨c.checkName, hname, List.mem_map.mpr
      ⟨annotateCheck (computeRootFailures diagnostic) c, List.mem_filter.mpr
        ⟨List.mem_map.mpr ⟨c, hc, rfl⟩, ?_⟩, annotateCheck_reasonCode⟩⟩⟩
    rw [Bool.and_eq_true, decide_eq_true_iff, beq_iff_eq, annotateCheck_checkName,
      annotateCheck_reasonCode]
    exact ⟨rfl, hne⟩

omit hnames hacyclic in
/-- The codes with a step: those of the groups with a rule that no dependent shares. -/
theorem mem_steps {goal : String} : (∃ step ∈ (computeRepairPlan
    (annotateDiagnosticWithRoots diagnostic) goal).steps, step.addressesReasonCode = x) ↔
      x ∈ rootCodes (annotateDiagnosticWithRoots diagnostic) ∧
        x ∉ downstreamCodes (annotateDiagnosticWithRoots diagnostic) ∧
        x ∈ repairRules.map Prod.fst := by
  rw [← List.mem_map]
  show x ∈ List.map _ (List.filterMap _ (List.zipIdx _)) ↔ _
  rw [map_planStep, List.mem_filter, mem_orderedCodes, decide_eq_true_iff]

/-- The plan holds what it should exactly where the codes of the roots are plain. -/
theorem planCovers_iff (goal : String) :
    PlanCovers (annotateDiagnosticWithRoots diagnostic).rootFailureGroups
        (computeRepairPlan (annotateDiagnosticWithRoots diagnostic) goal) ↔
      PlainCodes diagnostic.checkResults := by
  have hempty : "" ∉ repairRules.map Prod.fst := by
    simp [repairRules]
  constructor
  · intro hcovers c hc hfailed hfree hne
    have hcode : c.reasonCode ∈ rootCodes (annotateDiagnosticWithRoots diagnostic) :=
      (mem_rootCodes hnames hacyclic).mpr
        ⟨hne, _, (mem_groups_iff hnames).mpr ⟨c, hc, hfailed, hfree, rfl⟩, rfl⟩
    obtain ⟨-, hapart, hrule⟩ := mem_steps.mp
      (hcovers.addressed c.reasonCode (mem_orderedCodes.mpr hcode))
    refine ⟨hrule, fun e he hcaused hshared => hapart ?_⟩
    exact (mem_downstreamCodes hnames hacyclic).mpr ⟨hne, e, he, hcaused, hshared⟩
  · intro hplain
    have hstep : ∀ g ∈ computeRootFailures diagnostic, g.rootReasonCode ≠ "" →
        ∃ step ∈ (computeRepairPlan (annotateDiagnosticWithRoots diagnostic) goal).steps,
          step.addressesReasonCode = g.rootReasonCode := by
      intro g hg hne
      have hcode := (mem_rootCodes hnames hacyclic).mpr ⟨hne, g, hg, rfl⟩
      obtain ⟨c, hc, hfailed, hfree, rfl⟩ := (mem_groups_iff hnames).mp hg
      obtain ⟨hrule, hapart⟩ := hplain c hc hfailed hfree hne
      refine mem_steps.mpr ⟨hcode, fun hdown => ?_, hrule⟩
      obtain ⟨-, e, he, hcaused, hshared⟩ := (mem_downstreamCodes hnames hacyclic).mp hdown
      exact hapart e he hcaused hshared
    constructor
    · intro g hg hrule
      refine hstep g hg fun hnone => ?_
      rw [hnone] at hrule
      exact hempty hrule
    · show (List.map _ (List.filterMap _ (List.zipIdx _))).Sublist repairOrder
      rw [map_planStep]
      exact sublist_repairOrder _ _
    · exact pairwise_planStep _ _
    · intro rc hrc
      obtain ⟨hne, g, hg, rfl⟩ :=
        (mem_rootCodes hnames hacyclic).mp (mem_orderedCodes.mp hrc)
      exact hstep g hg hne

end Plan

/-- Checks with distinct names and references without a cycle are partitioned by their root
    causes, the annotation is idempotent, and the plan covers every root, exactly where the
    codes of the roots are plain. -/
theorem rootCauses_iff (diagnostic : DiagnosticResult) (goal : String)
    (hnames : (diagnostic.checkResults.map CheckResult.checkName).Nodup)
    (hacyclic : ∀ a, ¬ Relation.TransGen (Refers diagnostic.checkResults) a a) :
    (((computeRootFailures diagnostic).flatMap fun g => g.rootCheck :: g.downstreamChecks).Perm
          (failedNames diagnostic.checkResults) ∧
        annotateDiagnosticWithRoots (annotateDiagnosticWithRoots diagnostic) =
          annotateDiagnosticWithRoots diagnostic ∧
        PlanCovers (annotateDiagnosticWithRoots diagnostic).rootFailureGroups
          (computeRepairPlan (annotateDiagnosticWithRoots diagnostic) goal)) ↔
      PlainCodes diagnostic.checkResults := by
  constructor
  · rintro ⟨-, -, hcovers⟩
    exact (planCovers_iff hnames hacyclic goal).mp hcovers
  · intro hplain
    exact ⟨groups_partition hnames hacyclic, annotate_annotate hnames hacyclic,
      (planCovers_iff hnames hacyclic goal).mpr hplain⟩

/-! ## Two diagnostics -/

/-- How far below a root `DEPENDENCY_MAP` puts a check. -/
def dependencyDepth (name : String) : Nat :=
  if name = "runtime_reachable" then 2
  else if name ∈ dependencyPairs.map Prod.fst then 1
  else 0

/-- References that go up in the map, as it does itself, have no cycle. -/
theorem acyclic_of_depth {checks : List CheckResult} (h : ∀ c ∈ checks, c.downstreamOf ≠ "" →
    dependencyDepth c.downstreamOf < dependencyDepth c.checkName) (a : String) :
    ¬ Relation.TransGen (Refers checks) a a := by
  have hpairs : ∀ pair ∈ dependencyPairs, dependencyDepth pair.2 < dependencyDepth pair.1 := by
    simp [dependencyPairs, dependencyMap, dependencyDepth]
  refine acyclic_of_rank dependencyDepth (fun c p href => ?_) a
  rcases href with ⟨r, hr, rfl, rfl, hne⟩ | hpair
  · exact h r hr hne
  · exact hpairs _ hpair

/-- No Docker, and so no runtime. -/
def dockerDown : DiagnosticResult :=
  { checkResults :=
      [{ checkName := "docker_available", category := "docker", status := "fail",
         reasonCode := "DOCTOR_DOCKER_UNAVAILABLE", isRoot := true },
       { checkName := "runtime_running", category := "runtime", status := "fail",
         reasonCode := "DOCTOR_RUNTIME_NOT_RUNNING", downstreamOf := "docker_available" }] }

theorem rootCauses_dockerDown :
    ((computeRootFailures dockerDown).flatMap fun g => g.rootCheck :: g.downstreamChecks).Perm
        (failedNames dockerDown.checkResults) ∧
      annotateDiagnosticWithRoots (annotateDiagnosticWithRoots dockerDown) =
        annotateDiagnosticWithRoots dockerDown ∧
      PlanCovers (annotateDiagnosticWithRoots dockerDown).rootFailureGroups
        (computeRepairPlan (annotateDiagnosticWithRoots dockerDown) "") := by
  refine (rootCauses_iff dockerDown "" ?_ (acyclic_of_depth ?_)).mpr ?_
  · simp [dockerDown]
  · simp [dockerDown, dependencyDepth, dependencyPairs, dependencyMap]
  · simp [PlainCodes, dockerDown, repairRules, CheckResult.failed, Caused, failedNames, Refers,
      dependencyPairs, dependencyMap]

/-- A governed diagnostic whose boundary does not answer. -/
def boundaryDown : DiagnosticResult :=
  { checkResults :=
      [{ checkName := "mcp_boundary", category := "mcp_config", status := "fail",
         reasonCode := "DOCTOR_MCP_BOUNDARY_UNREACHABLE",
         message := "MCP boundary is not reachable.", isRoot := true }] }

/-- The code of its only root is addressed by no step. -/
theorem boundaryDown_addressed :
    (boundaryDown.checkResults.map CheckResult.checkName).Nodup ∧
      (∀ a, ¬ Relation.TransGen (Refers boundaryDown.checkResults) a a) ∧
      ¬ PlanCovers (annotateDiagnosticWithRoots boundaryDown).rootFailureGroups
        (computeRepairPlan (annotateDiagnosticWithRoots boundaryDown) "") := by
  have hnames : (boundaryDown.checkResults.map CheckResult.checkName).Nodup :=
    List.nodup_singleton _
  have hacyclic : ∀ a, ¬ Relation.TransGen (Refers boundaryDown.checkResults) a a :=
    acyclic_of_depth (by simp [boundaryDown])
  refine ⟨hnames, hacyclic, ?_⟩
  rw [planCovers_iff hnames hacyclic]
  simp [PlainCodes, boundaryDown, repairRules, CheckResult.failed, Caused, failedNames, Refers,
    dependencyPairs, dependencyMap]

end KeyholeRootCauses
