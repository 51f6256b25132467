import Keyhole.JsonDocument
import Keyhole.RepoScan

/-!
# The package of an ingestion

`ingest/packager.py`: what `build_ingestion_package` makes of a scan.  The summaries of the
manifests are a dictionary that is keyed by the file name of each manifest, so that a later
manifest takes the place of an earlier one with the same name.

  - `summaries_iff`: what the dictionary holds after the loop, the last manifest of each
    name.
  - `every_manifest_iff_names_apart`: every manifest is summarised if and only if no two
    manifests share a file name.
  - `nested_manifest_lost`: two projects in one repository. -/

namespace KeyholePackager

open KeyholeNamespace (Text)
open KeyholeScan

/-- `{"path": m}`. -/
structure DependencySummary where
  path : Text
  deriving DecidableEq, Repr

/-- A dictionary by file name. -/
abbrev Summaries := List (Text × DependencySummary)

/-- `dependency_summaries[name] = summary`. -/
def Summaries.set : Summaries → Text → DependencySummary → Summaries
  | [], name, summary => [(name, summary)]
  | entry :: rest, name, summary =>
      if entry.1 = name then (name, summary) :: rest else entry :: set rest name summary

/-- The loop over `scan.manifests`. -/
def dependencySummaries (manifests : List Text) : Summaries :=
  manifests.foldl (fun summaries m => summaries.set (pathName m) ⟨m⟩) []

inductive CompatibilityPosture
  | keyholeReady
  | partiallyAligned
  | foreign
  deriving DecidableEq, Repr

/-- What `_assess_compatibility_inputs` returns. -/
structure CompatibilityInputs where
  clientAssessedPosture : CompatibilityPosture
  hasKeyholeScaffold : Bool
  hasManifests : Bool
  hasSourceDirs : Bool
  hasTestDirs : Bool
  hasDocs : Bool
  languageCount : Nat
  frameworkCount : Nat

/-- `_assess_compatibility_inputs`. -/
def assessCompatibilityInputs (scan : RepoScanResult) : CompatibilityInputs where
  clientAssessedPosture :=
    if scan.hasKeyholeScaffold then .keyholeReady
    else if !scan.manifests.isEmpty && !scan.sourceDirs.isEmpty then .partiallyAligned
    else .foreign
  hasKeyholeScaffold := scan.hasKeyholeScaffold
  hasManifests := !scan.manifests.isEmpty
  hasSourceDirs := !scan.sourceDirs.isEmpty
  hasTestDirs := !scan.testDirs.isEmpty
  hasDocs := !scan.docFiles.isEmpty
  languageCount := scan.languages.length
  frameworkCount := scan.frameworks.length

/-- `scan_summary`, its time stamp apart. -/
structure ScanSummary where
  totalFiles : Nat
  includedFiles : Nat
  excludedFiles : Nat
  totalIncludedBytes : Nat
  hasKeyholeScaffold : Bool

/-- `IngestionPackage`, its time stamp apart. -/
structure IngestionPackage where
  repoIdentity : Text
  localPath : Text
  languages : List Text
  frameworks : List Text
  manifests : List Text
  sourceDirs : List Text
  testDirs : List Text
  docFiles : List Text
  buildFiles : List Text
  includedFileManifest : List Text
  exclusionRules : List Text
  dependencySummaries : Summaries
  signals : List ScanSignal
  scanSummary : ScanSummary
  compatibilityInputs : CompatibilityInputs
  shadow : Bool
  correlationId : Text
  gapId : Text
  repoRemote : Text
  commitSha : Text
  currentBranch : Text
  builderHints : KeyholeJson.Dict

/-- The keyword arguments of `build_ingestion_package`. -/
structure Options where
  shadow : Bool := false
  correlationId : Text := []
  gapId : Text := []
  repoRemote : Text := []
  commitSha : Text := []
  currentBranch : Text := []
  builderHints : Option KeyholeJson.Dict := none
  exclusionRules : Option (List Text) := none

/-- `build_ingestion_package`, with the identifier it would generate. -/
def buildIngestionPackage (requestId : Text) (scan : RepoScanResult) (options : Options) :
    IngestionPackage where
  repoIdentity := pathName scan.repoRoot
  localPath := scan.repoRoot
  languages := scan.languages
  frameworks := scan.frameworks
  manifests := scan.manifests
  sourceDirs := scan.sourceDirs
  testDirs := scan.testDirs
  docFiles := scan.docFiles
  buildFiles := scan.buildFiles
  includedFileManifest := scan.includedFiles
  exclusionRules := options.exclusionRules.getD []
  dependencySummaries := dependencySummaries scan.manifests
  signals := scan.signals
  scanSummary :=
    { totalFiles := scan.totalFiles
      includedFiles := scan.includedFiles.length
      excludedFiles := scan.excludedFiles.length
      totalIncludedBytes := scan.totalIncludedBytes
      hasKeyholeScaffold := scan.hasKeyholeScaffold }
  compatibilityInputs := assessCompatibilityInputs scan
  shadow := options.shadow
  correlationId := if options.correlationId = [] then requestId else options.correlationId
  gapId := options.gapId
  repoRemote := options.repoRemote
  commitSha := options.commitSha
  currentBranch := options.currentBranch
  builderHints := options.builderHints.getD []

/-! ## The dictionary after the loop -/

/-- One assignment: the name's entry is the new one, the others stay. -/
theorem mem_set {summaries : Summaries} (hkeys : (summaries.map Prod.fst).Nodup) {name : Text}
    {summary : DependencySummary} {entry : Text × DependencySummary} :
    entry ∈ summaries.set name summary ↔
      entry = (name, summary) ∨ entry ∈ summaries ∧ entry.1 ≠ name := by
  induction summaries with
  | nil =>
    rw [Summaries.set, List.mem_singleton]
    constructor
    · intro h
      exact .inl h
    · rintro (h | ⟨h, _⟩)
      · exact h
      · exact nomatch h
  | cons first rest ih =>
    obtain ⟨hnew, hrest⟩ := List.nodup_cons.mp hkeys
    rw [Summaries.set]
    by_cases hname : first.1 = name
    · rw [if_pos hname, List.mem_cons, List.mem_cons]
      constructor
      · rintro (h | h)
        · exact .inl h
        · refine .inr ⟨.inr h, fun hsame => hnew ?_⟩
          rw [hname, ← hsame]
          exact List.mem_map_of_mem h
      · rintro (h | ⟨rfl | h, hne⟩)
        · exact .inl h
        · exact absurd hname hne
        · exact .inr h
    · rw [if_neg hname, List.mem_cons, List.mem_cons, ih hrest]
      constructor
      · rintro (rfl | h | ⟨h, hne⟩)
        · exact .inr ⟨.inl rfl, hname⟩
        · exact .inl h
        · exact .inr ⟨.inr h, hne⟩
      · rintro (h | ⟨rfl | h, hne⟩)
        · exact .inr (.inl h)
        · exact .inl rfl
        · exact .inr (.inr ⟨h, hne⟩)

theorem set_nodup {summaries : Summaries} (hkeys : (summaries.map Prod.fst).Nodup) (name : Text)
    (summary : DependencySummary) : ((summaries.set name summary).map Prod.fst).Nodup := by
  induction summaries with
  | nil => exact List.nodup_singleton name
  | cons first rest ih =>
    obtain ⟨hnew, hrest⟩ := List.nodup_cons.mp hkeys
    rw [Summaries.set]
    by_cases hname : first.1 = name
    · rw [if_pos hname]
      exact List.nodup_cons.mpr ⟨hname ▸ hnew, hrest⟩
    · rw [if_neg hname]
      refine List.nodup_cons.mpr ⟨fun hmem => ?_, ih hrest⟩
      obtain ⟨entry, hentry, hfirst⟩ := List.mem_map.mp hmem
      rcases (mem_set hrest).mp hentry with rfl | ⟨hentry, _⟩
      · exact hname hfirst.symm
      · exact hnew (hfirst ▸ List.mem_map_of_mem hentry)

/-- `m` is the last manifest of its name. -/
def LastOfName (manifests : List Text) (m : Text) : Prop :=
  ∃ before after, manifests = before ++ m :: after ∧ ∀ later ∈ after, pathName later ≠ pathName m

/-- What the dictionary holds: the last manifest of each name, under that name. -/
theorem summaries_iff (manifests : List Text) (entry : Text × DependencySummary) :
    entry ∈ dependencySummaries manifests ↔
      entry.1 = pathName entry.2.path ∧ LastOfName manifests entry.2.path := by
  -- the keys stay distinct, and each turn of the loop is one assignment
  have hloop : ∀ done : List Text,
      ((dependencySummaries done).map Prod.fst).Nodup ∧
      ∀ entry, entry ∈ dependencySummaries done ↔
        entry.1 = pathName entry.2.path ∧ LastOfName done entry.2.path := by
    intro done
    induction done using List.reverseRecOn with
    | nil =>
      refine ⟨List.nodup_nil, fun entry => ⟨nofun, fun ⟨_, before, after, h, _⟩ => ?_⟩⟩
      exact absurd h.symm (List.append_ne_nil_of_right_ne_nil before (List.cons_ne_nil _ _))
    | append_singleton done m ih =>
      obtain ⟨hkeys, hmem⟩ := ih
      have hstep : dependencySummaries (done ++ [m]) =
          (dependencySummaries done).set (pathName m) ⟨m⟩ := List.foldl_append
      rw [hstep]
      refine ⟨set_nodup hkeys _ _, fun entry => ?_⟩
      rw [mem_set hkeys, hmem]
      constructor
      · rintro (rfl | ⟨⟨hname, before, after, hdone, hlast⟩, hne⟩)
        · exact ⟨rfl, done, [], rfl, nofun⟩
        · refine ⟨hname, before, after ++ [m], by rw [hdone, List.append_assoc]; rfl, ?_⟩
          intro later hlater
          rcases List.mem_append.mp hlater with hlater | hlater
          · exact hlast later hlater
          · rw [List.mem_singleton.mp hlater, ← hname]
            exact Ne.symm hne
      · rintro ⟨hname, before, after, hall, hlast⟩
        rcases List.eq_nil_or_concat after with rfl | ⟨front, last, rfl⟩
        · obtain ⟨_, hm⟩ := List.append_inj' hall rfl
          have hpath : m = entry.2.path := List.head_eq_of_cons_eq hm
          refine .inl (Prod.ext ?_ ?_)
          · rw [hname, hpath]
          · rw [hpath]
        · rw [List.concat_eq_append] at hall hlast
          rw [← List.cons_append, ← List.append_assoc] at hall
          obtain ⟨hdone, hm⟩ := List.append_inj' hall rfl
          have hlastm : m = last := List.head_eq_of_cons_eq hm
          refine .inr ⟨⟨hname, before, front, hdone, fun later hlater => ?_⟩, ?_⟩
          · exact hlast later (List.mem_append_left _ hlater)
          · rw [hname, hlastm]
            exact Ne.symm (hlast last (List.mem_append_right _ List.mem_cons_self))
  exact (hloop manifests).2 entry

theorem summaries_nodup (manifests : List Text) :
    ((dependencySummaries manifests).map Prod.fst).Nodup := by
  induction manifests using List.reverseRecOn with
  | nil => exact List.nodup_nil
  | append_singleton done m ih =>
    rw [dependencySummaries, List.foldl_append]
    exact set_nodup ih _ _

/-- The last occurrence of an element. -/
theorem exists_last {manifests : List Text} {m : Text} (h : m ∈ manifests) :
    ∃ before after, manifests = before ++ m :: after ∧ m ∉ after := by
  induction manifests with
  | nil => exact nomatch h
  | cons first rest ih =>
    by_cases hmem : m ∈ rest
    · obtain ⟨before, after, hrest, hlast⟩ := ih hmem
      exact ⟨first :: before, after, by rw [hrest]; rfl, hlast⟩
    · rcases List.mem_cons.mp h with rfl | h
      · exact ⟨[], rest, rfl, hmem⟩
      · exact absurd h hmem

/-- Every manifest of a scan is summarised if and only if no two of them share a file
    name. -/
theorem every_manifest_iff_names_apart (requestId : Text) (scan : RepoScanResult)
    (options : Options) :
    (∀ m ∈ scan.manifests,
        ∃ entry ∈ (buildIngestionPackage requestId scan options).dependencySummaries,
          entry.2.path = m) ↔
      ∀ m ∈ scan.manifests, ∀ m' ∈ scan.manifests, pathName m = pathName m' → m = m' := by
  show (∀ m ∈ scan.manifests, ∃ entry ∈ dependencySummaries scan.manifests, _) ↔ _
  constructor
  · intro hall m hm m' hm' hname
    obtain ⟨entry, hentry, hpath⟩ := hall m hm
    obtain ⟨entry', hentry', hpath'⟩ := hall m' hm'
    have hkey : entry.1 = entry'.1 := by
      rw [((summaries_iff _ entry).mp hentry).1, ((summaries_iff _ entry').mp hentry').1, hpath,
        hpath', hname]
    have hsame := List.inj_on_of_nodup_map (summaries_nodup scan.manifests) hentry hentry' hkey
    rw [← hpath, ← hpath', hsame]
  · intro hapart m hm
    obtain ⟨before, after, hsplit, hlast⟩ := exists_last hm
    refine ⟨(pathName m, ⟨m⟩), (summaries_iff _ _).mpr ⟨rfl, before, after, hsplit, ?_⟩, rfl⟩
    intro later hlater hname
    have hmem : later ∈ scan.manifests := by
      rw [hsplit]
      exact List.mem_append_right before (List.mem_cons_of_mem m hlater)
    exact hlast (hapart later hmem m hm hname ▸ hlater)

/-- A project at the root of a repository, and another one in a directory. -/
def nestedTree : Tree where
  entries := .file "pyproject.toml".toList (some 9)
    (.dir "svc".toList (.file "pyproject.toml".toList (some 7) .nil) .nil)
  proper := by
    refine ⟨⟨?_, ?_, ?_, ?_⟩, ?_, ⟨⟨?_, ?_, ?_, ?_⟩, ?_, ⟨⟨?_, ?_, ?_, ?_⟩, ?_, trivial⟩, trivial⟩⟩
      <;> decide

def nestedScan : RepoScanResult :=
  scanRepo id "/repo".toList (includeExcludeFilter [] []) 0 nestedTree

/-- The scan lists both manifests; only one of them is summarised. -/
theorem nested_manifest_lost :
    nestedScan.manifests = ["pyproject.toml".toList, "svc/pyproject.toml".toList] ∧
      (buildIngestionPackage [] nestedScan {}).dependencySummaries =
        [("pyproject.toml".toList, ⟨"svc/pyproject.toml".toList⟩)] ∧
      ¬∀ (requestId : Text) (scan : RepoScanResult) (options : Options), ∀ m ∈ scan.manifests,
        ∃ entry ∈ (buildIngestionPackage requestId scan options).dependencySummaries,
          entry.2.path = m := by
  have hmanifests : nestedScan.manifests =
      ["pyproject.toml".toList, "svc/pyproject.toml".toList] := by decide
  have hsummaries : (buildIngestionPackage [] nestedScan {}).dependencySummaries =
      [("pyproject.toml".toList, ⟨"svc/pyproject.toml".toList⟩)] := by decide
  refine ⟨hmanifests, hsummaries, fun h => ?_⟩
  obtain ⟨entry, hentry, hpath⟩ := h [] nestedScan {} "pyproject.toml".toList
    (by rw [hmanifests]; exact List.mem_cons_self)
  rw [hsummaries] at hentry
  rw [List.mem_singleton.mp hentry] at hpath
  exact absurd hpath (by decide)

end KeyholePackager
