import Mathlib.Data.List.Sort
import Keyhole.LoginGuard
import Keyhole.PassportGeneration
import Keyhole.RepoName

/-!
# The scaffold of a vertical

`keyhole init vertical` writes the declaration files of a new repository from
templates.  The templates, the validator and the readers of the name each have their
own idea of the same files: the template of `keyhole.yaml` puts the name into a
mapping under `repo`, where the validator wants a string, and the passport template
has no `capability`.

* `runInitVertical` — the command, on the files of the target directory;
* `scaffold_files` — what a successful run on an empty directory leaves there;
* `initVertical_keeps` — without `--force`, no file that existed changes;
* `scaffold_unfaithful` — no scaffold passes the validation and gives its name back. -/

namespace KeyholeScaffold

open KeyholeJson (Json Dict)
open KeyholeLogin (CommandResult)
open KeyholeYaml KeyholeNamespace KeyholeValidation KeyholePipeline KeyholeTotality
open KeyholeRepoName ExceptLoops

/-! ## Templates -/

/-- A text, line by line. -/
def fileText : List String → String
  | [] => ""
  | line :: lines => line ++ "\n" ++ fileText lines

/-- `SCHEMA_VERSION`. -/
def schemaVersion : String := "v0.1"

/-- `_render_keyhole_yaml`. -/
def renderKeyholeYaml (repoName timestamp : String) : String :=
  fileText
    ["schema_version: " ++ schemaVersion,
      "repo:",
      "  name: " ++ repoName,
      "  kind: vertical",
      "  owner: Keyhole Solution Foundation",
      "  visibility: private",
      "sdk:",
      "  initialized_by: keyhole init vertical",
      "  initialized_at: \"" ++ timestamp ++ "\"",
      "  template: default",
      "context:",
      "  mode: explicit",
      "proof:",
      "  enabled: true"]

/-- `_render_governance_contract`. -/
def renderGovernanceContract (repoName : String) : String :=
  fileText
    ["schema_version: " ++ schemaVersion,
      "repo: " ++ repoName,
      "parent_repo: null",
      "produces: []",
      "required_tests: []",
      "local_invariants: []",
      "compatibility_contracts: []"]

/-- `_render_capability_passport`. -/
def renderCapabilityPassport (repoName : String) : String :=
  fileText
    ["schema_version: " ++ schemaVersion,
      "capabilities: []",
      "owner_repo: " ++ repoName,
      "visibility: private",
      "proofs: []",
      "trust:",
      "  sbom_digest: null",
      "  attestation_digest: null",
      "  transparency_ref: null"]

/-- `_render_dependencies`. -/
def renderDependencies : String :=
  fileText ["schema_version: " ++ schemaVersion, "dependencies: []"]

/-- `_render_docs_readme`. -/
def renderDocsReadme (repoName : String) : String :=
  fileText
    ["# " ++ repoName,
      "",
      "This repository was scaffolded by `keyhole init vertical`.",
      "",
      "## Generated Declaration Files",
      "",
      "| File | Purpose |",
      "|------|---------|",
      "| `keyhole.yaml` | Local repo identity, scaffold metadata, and future registration anchor |",
      "| `governance_contract.yaml` | Local governance rules, produced capabilities, "
        ++ "required tests, and invariants |",
      "| `capability_passport.yaml` | Future portable capability / proof identity placeholder |",
      "| `dependencies.yaml` | Declared upstream capability dependencies |",
      "",
      "## Important",
      "",
      "This scaffold is **local only**. Generating it does not register this",
      "repository with the MCP boundary, does not create governed proof, and",
      "does not imply live platform participation.",
      "",
      "## Next Steps",
      "",
      "1. `keyhole validate` — validate local declaration files",
      "2. Edit `governance_contract.yaml` — declare capabilities and invariants",
      "3. Edit `capability_passport.yaml` — declare capabilities",
      "4. `keyhole repo register` — register with the MCP boundary (later)",
      "5. `keyhole context compile` — compile governed context (later)",
      "6. `keyhole run --context auto` — execute a governed run (later)"]

/-- `_render_proof_readme`. -/
def renderProofReadme : String :=
  fileText
    ["# Proof Bundle",
      "",
      "This directory holds proof artifacts generated by governed workflows.",
      "",
      "## Structure",
      "",
      "- `core/` — Replay-critical hot proof artifacts (core.json, summary.md, etc.)",
      "- `extended/` — Large or secondary evidence referenced by digest",
      "",
      "## Hot vs Extended",
      "",
      "The split ensures that replay-critical truth stays on the hot path while",
      "large auxiliary evidence lives in referenced cold storage. Replay must",
      "succeed from core artifacts alone.",
      "",
      "## Status",
      "",
      "These directories are placeholders created by `keyhole init vertical`.",
      "They will be populated by later governed run and proof workflows."]

/-- `_render_context_readme`. -/
def renderContextReadme : String :=
  fileText
    ["# Context",
      "",
      "This directory supports governed context lifecycle workflows.",
      "",
      "## Structure",
      "",
      "- `requests/` — Local staging area for context request artifacts",
      "- `resolved/` — Resolved context references or summaries",
      "",
      "## Important",
      "",
      "Governed execution requires explicit governed context. This directory",
      "prepares the repo for later context-bound runs.",
      "",
      "This scaffold does **not** perform context compilation. Context will be",
      "compiled through `keyhole context compile` in a later workflow."]

/-- `_render_keyhole_readme`. -/
def renderKeyholeReadme : String :=
  fileText
    ["# .keyhole",
      "",
      "This directory is managed by the Keyhole CLI and SDK.",
      "",
      "## Structure",
      "",
      "- `state/` — Local tool-managed state artifacts",
      "- `cache/` — Temporary cache data",
      "",
      "## Warning",
      "",
      "This directory is **not** authoritative platform truth. It contains",
      "local convenience state only. Do not depend on its contents for",
      "governance decisions or proof claims.",
      "",
      "The authoritative source of truth is always the MCP boundary."]

/-! ## The plan -/

/-- Files by their path under the target directory. -/
abbrev Files := List (String × String)

/-- `MANAGED_DIRS`. -/
def managedDirs : List String :=
  ["capabilities", "src", "tests", "docs/context", "proof_bundle/core", "proof_bundle/extended",
    "context/requests", "context/resolved", ".keyhole/state", ".keyhole/cache"]

/-- `_build_file_plan`; its keys are `MANAGED_FILES`. -/
def buildFilePlan (repoName timestamp : String) : Files :=
  [("keyhole.yaml", renderKeyholeYaml repoName timestamp),
    ("governance_contract.yaml", renderGovernanceContract repoName),
    ("capability_passport.yaml", renderCapabilityPassport repoName),
    ("dependencies.yaml", renderDependencies),
    ("docs/README.md", renderDocsReadme repoName),
    ("proof_bundle/README.md", renderProofReadme),
    ("context/README.md", renderContextReadme),
    (".keyhole/README.md", renderKeyholeReadme)]

/-- `sorted(names)`. -/
def sorted (names : List String) : List String := names.insertionSort (· ≤ ·)

/-- `sorted(plan.items())`. -/
def sortedPlan (plan : Files) : Files := plan.insertionSort fun a b => a.1 ≤ b.1

/-- `target.exists()`. -/
def Files.has (files : Files) (path : String) : Bool := (files.lookup path).isSome

/-- `target.write_text(content)`. -/
def Files.write : Files → String → String → Files
  | [], path, content => [(path, content)]
  | (path', content') :: rest, path, content =>
      if path = path' then (path, content) :: rest
      else (path', content') :: Files.write rest path content

/-- The target directory. -/
structure Target where
  path : String
  name : String

/-- What the command finds around it: how a path and a name become a directory, the
    clock, the hash, and which directories and files cannot be written, with the text
    of the `OSError`. -/
structure ScaffoldEnv where
  located : String → Target
  underCwd : String → Target
  now : String
  sha256 : String → String
  mkdirFault : String → Option String
  writeFault : String → Option String

/-- `_compute_plan_digest`. -/
def computePlanDigest (env : ScaffoldEnv) (plan : Files) : String :=
  "sha256:" ++ env.sha256 ((sortedPlan plan).foldl (fun text file => text ++ file.1 ++ file.2) "")

/-- `_find_conflicts`. -/
def findConflicts (files : Files) (plan : Files) : List String :=
  sorted ((plan.map Prod.fst).filter files.has)

/-- `_format_tree`. -/
def formatTree (plan : Files) : List String :=
  sorted (plan.map Prod.fst ++ managedDirs.map (· ++ "/.gitkeep"))

/-! ## Writing -/

/-- How far the scaffold is. -/
structure Progress where
  files : Files
  created : List String := []
  skipped : List String := []
  errors : List String := []

/-- The directory of a path; `""` is the target itself. -/
def parentOf (path : String) : String :=
  String.ofList ((path.toList.reverse.dropWhile (· ≠ '/')).tail.reverse)

/-- `mkdir`, whose exception nothing catches. -/
def makeDir (env : ScaffoldEnv) (dir : String) : Except String Unit :=
  match env.mkdirFault dir with
  | some fault => .error fault
  | none => .ok ()

/-- One managed directory, with its `.gitkeep`. -/
def keepDir (env : ScaffoldEnv) (done : Progress) (dir : String) : Except String Progress := do
  makeDir env dir
  let gitkeep := dir ++ "/.gitkeep"
  if done.files.has gitkeep then return done
  else
    match env.writeFault gitkeep with
    | some fault =>
        return { done with
          errors := done.errors ++ ["Could not create " ++ dir ++ "/.gitkeep: " ++ fault] }
    | none => return { done with files := done.files.write gitkeep "" }

/-- One managed file. -/
def placeFile (env : ScaffoldEnv) (force : Bool) (done : Progress) (file : String × String) :
    Except String Progress := do
  makeDir env (parentOf file.1)
  if done.files.has file.1 && !force then
    return { done with skipped := done.skipped ++ [file.1] }
  else
    match env.writeFault file.1 with
    | some fault =>
        return { done with errors := done.errors ++ ["Could not write " ++ file.1 ++ ": " ++ fault] }
    | none =>
        return { done with
          files := done.files.write file.1 file.2, created := done.created ++ [file.1] }

/-- `_execute_scaffold`. -/
def executeScaffold (env : ScaffoldEnv) (files plan : Files) (force : Bool) :
    Except String Progress := do
  let kept ← managedDirs.foldlM (keepDir env) { files := files }
  (sortedPlan plan).foldlM (placeFile env force) kept

/-! ## The command -/

/-- The arguments of `keyhole init vertical`. -/
structure InitArgs where
  name : String := ""
  path : String := ""
  force : Bool := false
  dryRun : Bool := false
  template : String := "default"

/-- The target directory; `none` when nothing names it. -/
def InitArgs.target (env : ScaffoldEnv) (args : InitArgs) : Option Target :=
  if args.path ≠ "" then some (env.located args.path)
  else if args.name ≠ "" then some (env.underCwd args.name)
  else none

/-- The repository's name. -/
def InitArgs.repoName (args : InitArgs) (target : Target) : String :=
  if args.name ≠ "" then args.name else target.name

def command : String := "init vertical"

/-- A list of strings as a JSON value. -/
def names (items : List String) : Json := .arr (items.map Json.str)

/-- The refusal of a template. -/
def invalidTemplate (template : String) : CommandResult where
  command := command
  success := false
  exitCode := 4
  data := [("error", .str "invalid_template"), ("template", .str template)]
  warnings := ["Unknown template: " ++ template ++ ". Only 'default' is supported."]
  nextSteps := ["Use --template default or omit the flag."]
  summary := "Invalid template: " ++ template

/-- The refusal of a command that names no directory. -/
def missingName : CommandResult where
  command := command
  success := false
  exitCode := 4
  data := [("error", .str "missing_name")]
  warnings := ["No repo name or path specified."]
  nextSteps := ["Provide a name: keyhole init vertical <name>",
    "Or specify a path: keyhole init vertical --path <dir>"]
  summary := "No repo name or path specified"

/-- The result of a dry run. -/
def dryRunResult (target : Target) (repoName template digest : String) (plan : Files) :
    CommandResult where
  command := command
  success := true
  exitCode := 0
  data := [("dry_run", .bool true), ("target_path", .str target.path),
    ("repo_name", .str repoName), ("template", .str template),
    ("managed_files", names (sorted (plan.map Prod.fst))),
    ("managed_dirs", names (sorted managedDirs)), ("plan_digest", .str digest),
    ("tree", names (formatTree plan))]
  nextSteps := ["Remove --dry-run to create the scaffold."]
  summary := "Dry run: would create " ++ toString plan.length ++ " files and "
    ++ toString managedDirs.length ++ " directories in " ++ target.path

/-- The refusal of a directory that has a scaffold. -/
def alreadyInitialized (target : Target) (conflicts : List String) : CommandResult where
  command := command
  success := false
  exitCode := 1
  data := [("error", .str "already_initialized"), ("target_path", .str target.path),
    ("existing_files", names conflicts)]
  warnings := ["Directory already contains a governed scaffold: " ++ target.path,
    "Found " ++ toString conflicts.length ++ " existing managed file(s)."]
  nextSteps := ["Use --force to overwrite managed scaffold files.",
    "Use --dry-run to inspect what would change."]
  summary := "Already initialized: " ++ target.path

/-- The refusal of a directory that cannot be made. -/
def pathError (target : Target) (fault : String) : CommandResult where
  command := command
  success := false
  exitCode := 1
  data := [("error", .str "path_error"), ("target_path", .str target.path), ("detail", .str fault)]
  warnings := ["Cannot create directory: " ++ fault]
  nextSteps := ["Check the target path and permissions."]
  summary := "Path error: " ++ fault

/-- The result of a scaffold that could not be written as a whole. -/
def failedResult (target : Target) (repoName : String) (done : Progress) : CommandResult where
  command := command
  success := false
  exitCode := 1
  data := [("target_path", .str target.path), ("repo_name", .str repoName),
    ("created", names done.created), ("skipped", names done.skipped), ("errors", names done.errors)]
  warnings := done.errors
  nextSteps := ["Fix the errors above and retry."]
  summary := "Scaffold failed: " ++ toString done.errors.length ++ " error(s)"

/-- Was the scaffold written over another one? -/
def forcedOver (force : Bool) (plan : Files) (done : Progress) : Bool :=
  (force && done.skipped.isEmpty && done.files.has "keyhole.yaml")
    || (force && (plan.map Prod.fst).any done.created.contains)

/-- The result of a scaffold. -/
def createdResult (target : Target) (repoName template digest : String) (forced : Bool)
    (done : Progress) : CommandResult where
  command := command
  success := true
  exitCode := 0
  data := [("target_path", .str target.path), ("repo_name", .str repoName),
    ("template", .str template), ("mode", .str (if forced then "forced" else "fresh")),
    ("created", names done.created), ("skipped", names done.skipped), ("plan_digest", .str digest)]
  nextSteps := ["keyhole validate",
    "Edit governance_contract.yaml to declare capabilities and invariants.",
    "Edit capability_passport.yaml to declare capabilities.",
    "Later: keyhole repo register"]
  summary :=
    (if forced then "Governed repo scaffold updated (--force): "
      else "Governed repo scaffold created: ") ++ target.path

/-- `run_init_vertical`, on the files of the target directory; an exception that escapes
    is given by its text. -/
def runInitVertical (env : ScaffoldEnv) (args : InitArgs) (files : Files) :
    Except String (CommandResult × Files) :=
  if args.template ≠ "default" then .ok (invalidTemplate args.template, files)
  else
    match args.target env with
    | none => .ok (missingName, files)
    | some target =>
        let repoName := args.repoName target
        let plan := buildFilePlan repoName env.now
        let digest := computePlanDigest env plan
        if args.dryRun then .ok (dryRunResult target repoName args.template digest plan, files)
        else if files.has "keyhole.yaml" && !args.force then
          .ok (alreadyInitialized target (findConflicts files plan), files)
        else
          match env.mkdirFault "" with
          | some fault => .ok (pathError target fault, files)
          | none => do
              let done ← executeScaffold env files plan args.force
              if done.errors.isEmpty = false then
                return (failedResult target repoName done, done.files)
              else
                return (createdResult target repoName args.template digest
                  (forcedOver args.force plan done) done, done.files)

/-! ## What a run leaves -/

variable {env : ScaffoldEnv} {path repoName timestamp content : String} {files files' items : Files}
variable {done done' : Progress} {force : Bool} {args : InitArgs} {result : CommandResult}
variable {yaml : Option Loader}

theorem lookup_cons_of_ne {path' : String} (h : path ≠ path') :
    List.lookup path ((path', content) :: files) = files.lookup path := by
  rw [List.lookup_cons, beq_eq_false_iff_ne.mpr h]

theorem lookup_cons_same (files : Files) (path content : String) :
    List.lookup path ((path, content) :: files) = some content := by
  rw [List.lookup_cons, BEq.rfl]

theorem lookup_write_same (files : Files) (path content : String) :
    (files.write path content).lookup path = some content := by
  induction files with
  | nil => exact lookup_cons_same [] path content
  | cons file rest ih =>
    obtain ⟨path', content'⟩ := file
    rw [Files.write]
    by_cases h : path = path'
    · rw [if_pos h]
      exact lookup_cons_same rest path content
    · rw [if_neg h, lookup_cons_of_ne h]
      exact ih

theorem lookup_write_other (files : Files) {other : String} (content : String)
    (h : other ≠ path) : (files.write path content).lookup other = files.lookup other := by
  induction files with
  | nil => exact lookup_cons_of_ne h
  | cons file rest ih =>
    obtain ⟨path', content'⟩ := file
    rw [Files.write]
    by_cases hpath : path = path'
    · rw [if_pos hpath, lookup_cons_of_ne h, lookup_cons_of_ne (hpath ▸ h)]
    · rw [if_neg hpath]
      by_cases hother : other = path'
      · rw [hother, lookup_cons_same, lookup_cons_same]
      · rw [lookup_cons_of_ne hother, lookup_cons_of_ne hother]
        exact ih

/-- One managed directory touches no file but its `.gitkeep`, and that only to make it. -/
theorem keepDir_lookup {dir : String} (h : keepDir env done dir = .ok done')
    (hpath : path ≠ dir ++ "/.gitkeep" ∨ done.files.has path = true) :
    done'.files.lookup path = done.files.lookup path := by
  obtain ⟨-, -, h⟩ := bind_ok.mp h
  by_cases hhas : done.files.has (dir ++ "/.gitkeep") = true
  · change (if _ then _ else _) = _ at h
    rw [if_pos hhas] at h
    cases h
    rfl
  · change (if _ then _ else _) = _ at h
    rw [if_neg hhas] at h
    cases hfault : env.writeFault (dir ++ "/.gitkeep") with
    | some fault =>
      rw [hfault] at h
      cases h
      rfl
    | none =>
      rw [hfault] at h
      cases h
      refine lookup_write_other _ _ ?_
      rcases hpath with hne | hold
      · exact hne
      · exact fun he => hhas (he ▸ hold)

/-- What placing one file comes to. -/
theorem placeFile_cases {file : String × String} (h : placeFile env force done file = .ok done') :
    (done.files.has file.1 = true ∧ force = false ∧ done'.files = done.files
        ∧ done'.errors = done.errors)
      ∨ (∃ text, done'.files = done.files ∧ done'.errors = done.errors ++ [text])
      ∨ ((done.files.has file.1 = true → force = true)
        ∧ done'.files = done.files.write file.1 file.2 ∧ done'.errors = done.errors) := by
  obtain ⟨-, -, h⟩ := bind_ok.mp h
  by_cases hskip : (done.files.has file.1 && !force) = true
  · change (if _ then _ else _) = _ at h
    rw [if_pos hskip] at h
    cases h
    rw [Bool.and_eq_true, Bool.not_eq_true'] at hskip
    exact .inl ⟨hskip.1, hskip.2, rfl, rfl⟩
  · change (if _ then _ else _) = _ at h
    rw [if_neg hskip] at h
    cases hfault : env.writeFault file.1 with
    | some fault =>
      rw [hfault] at h
      cases h
      exact .inr (.inl ⟨_, rfl, rfl⟩)
    | none =>
      rw [hfault] at h
      cases h
      refine .inr (.inr ⟨fun hhas => ?_, rfl, rfl⟩)
      cases force with
      | true => rfl
      | false => exact absurd (by rw [hhas]; rfl) hskip

theorem has_of_lookup
    (h : files'.lookup path = files.lookup path) : files'.has path = files.has path := by
  rw [Files.has, Files.has, h]

/-- Placing the files changes none that is not among them, and without `--force` none
    that existed. -/
theorem placeFiles_lookup (h : items.foldlM (placeFile env force) done = .ok done')
    (hpath : path ∉ items.map Prod.fst ∨ (done.files.has path = true ∧ force = false)) :
    done'.files.lookup path = done.files.lookup path := by
  induction items generalizing done with
  | nil =>
    cases h
    rfl
  | cons file rest ih =>
    rw [List.foldlM_cons] at h
    obtain ⟨next, hnext, h⟩ := bind_ok.mp h
    have hstep : next.files.lookup path = done.files.lookup path := by
      rcases placeFile_cases hnext with ⟨-, -, hfiles, -⟩ | ⟨-, hfiles, -⟩ | ⟨hforce, hfiles, -⟩
      · rw [hfiles]
      · rw [hfiles]
      · rw [hfiles]
        refine lookup_write_other _ _ ?_
        rintro rfl
        rcases hpath with hmem | ⟨hhas, hfalse⟩
        · exact hmem List.mem_cons_self
        · exact nomatch hfalse.symm.trans (hforce hhas)
    rw [ih h, hstep]
    rcases hpath with hmem | ⟨hhas, hfalse⟩
    · exact .inl fun hrest => hmem (List.mem_cons_of_mem _ hrest)
    · exact .inr ⟨(has_of_lookup hstep).trans hhas, hfalse⟩

/-- Placing the files only adds errors. -/
theorem placeFiles_errors (h : items.foldlM (placeFile env force) done = .ok done')
    (hclean : done'.errors = []) : done.errors = [] := by
  induction items generalizing done with
  | nil =>
    cases h
    exact hclean
  | cons file rest ih =>
    rw [List.foldlM_cons] at h
    obtain ⟨next, hnext, h⟩ := bind_ok.mp h
    have hnextErrors := ih h
    rcases placeFile_cases hnext with ⟨-, -, -, herrors⟩ | ⟨text, -, herrors⟩ | ⟨-, -, herrors⟩
    · rw [← herrors]
      exact hnextErrors
    · rw [herrors] at hnextErrors
      exact absurd hnextErrors (List.append_ne_nil_of_right_ne_nil _ (List.cons_ne_nil _ _))
    · rw [← herrors]
      exact hnextErrors

/-- Files that did not exist are all placed, if no error is left. -/
theorem placeFiles_placed (h : items.foldlM (placeFile env force) done = .ok done')
    (hclean : done'.errors = []) (hdistinct : (items.map Prod.fst).Nodup)
    (hnew : ∀ path ∈ items.map Prod.fst, done.files.lookup path = none) :
    ∀ file ∈ items, done'.files.lookup file.1 = some file.2 := by
  induction items generalizing done with
  | nil => exact nofun
  | cons first rest ih =>
    rw [List.foldlM_cons] at h
    obtain ⟨next, hnext, hrun⟩ := bind_ok.mp h
    rw [List.map_cons, List.nodup_cons] at hdistinct
    have hfirst : next.files = done.files.write first.1 first.2 := by
      rcases placeFile_cases hnext with ⟨hhas, -⟩ | ⟨text, -, herrors⟩ | ⟨-, hfiles, -⟩
      · rw [Files.has, hnew first.1 List.mem_cons_self] at hhas
        exact nomatch hhas
      · have hnextErrors := placeFiles_errors hrun hclean
        rw [herrors] at hnextErrors
        exact absurd hnextErrors (List.append_ne_nil_of_right_ne_nil _ (List.cons_ne_nil _ _))
      · exact hfiles
    have hrest : ∀ path ∈ rest.map Prod.fst, next.files.lookup path = none := by
      intro path hpath
      have hne : path ≠ first.1 := by
        rintro rfl
        exact hdistinct.1 hpath
      rw [hfirst, lookup_write_other _ _ hne]
      exact hnew path (List.mem_cons_of_mem _ hpath)
    intro file hfile
    rcases List.mem_cons.mp hfile with rfl | hfile
    · rw [placeFiles_lookup hrun (.inl hdistinct.1), hfirst, lookup_write_same]
    · exact ih hrun hdistinct.2 hrest file hfile

/-- The managed directories touch no file that is not a `.gitkeep`, and none that
    existed. -/
theorem keepDirs_lookup {dirs : List String} (h : dirs.foldlM (keepDir env) done = .ok done')
    (hpath : (∀ dir ∈ dirs, path ≠ dir ++ "/.gitkeep") ∨ done.files.has path = true) :
    done'.files.lookup path = done.files.lookup path := by
  induction dirs generalizing done with
  | nil =>
    cases h
    rfl
  | cons dir rest ih =>
    rw [List.foldlM_cons] at h
    obtain ⟨next, hnext, hrun⟩ := bind_ok.mp h
    have hstep : next.files.lookup path = done.files.lookup path :=
      keepDir_lookup hnext (hpath.imp_left fun hne => hne dir List.mem_cons_self)
    rw [ih hrun, hstep]
    rcases hpath with hne | hhas
    · exact .inl fun other hother => hne other (List.mem_cons_of_mem _ hother)
    · exact .inr ((has_of_lookup hstep).trans hhas)

theorem mem_sortedPlan {plan : Files} {file : String × String} :
    file ∈ sortedPlan plan ↔ file ∈ plan :=
  (List.perm_insertionSort _ plan).mem_iff

theorem sortedPlan_paths (plan : Files) :
    ((sortedPlan plan).map Prod.fst).Perm (plan.map Prod.fst) :=
  (List.perm_insertionSort _ plan).map Prod.fst

/-- The paths of the plan. -/
theorem plan_paths (repoName timestamp : String) :
    (buildFilePlan repoName timestamp).map Prod.fst
      = ["keyhole.yaml", "governance_contract.yaml", "capability_passport.yaml",
        "dependencies.yaml", "docs/README.md", "proof_bundle/README.md", "context/README.md",
        ".keyhole/README.md"] := rfl

/-- No file of the plan is a `.gitkeep` of a managed directory. -/
theorem plan_path_ne_gitkeep (h : path ∈ (buildFilePlan repoName timestamp).map Prod.fst) :
    ∀ dir ∈ managedDirs, path ≠ dir ++ "/.gitkeep" := by
  rw [plan_paths] at h
  revert path
  decide

/-- A scaffold without errors on an empty directory holds every file of the plan. -/
theorem executeScaffold_files
    (h : executeScaffold env [] (buildFilePlan repoName timestamp) force = .ok done)
    (hclean : done.errors = []) :
    ∀ file ∈ buildFilePlan repoName timestamp, done.files.lookup file.1 = some file.2 := by
  obtain ⟨kept, hkept, hplaced⟩ := bind_ok.mp h
  have hpaths := sortedPlan_paths (buildFilePlan repoName timestamp)
  have hdistinct : ((sortedPlan (buildFilePlan repoName timestamp)).map Prod.fst).Nodup := by
    rw [hpaths.nodup_iff, plan_paths]
    decide
  have hnew : ∀ path ∈ (sortedPlan (buildFilePlan repoName timestamp)).map Prod.fst,
      kept.files.lookup path = none := by
    intro path hpath
    exact keepDirs_lookup hkept (.inl (plan_path_ne_gitkeep (hpaths.mem_iff.mp hpath)))
  intro file hfile
  exact placeFiles_placed hplaced hclean hdistinct hnew file (mem_sortedPlan.mpr hfile)

/-- Without `--force` the scaffold changes no file that existed. -/
theorem executeScaffold_keeps {plan : Files} (h : executeScaffold env files plan false = .ok done)
    (hpath : files.has path = true) : done.files.lookup path = files.lookup path := by
  obtain ⟨kept, hkept, hplaced⟩ := bind_ok.mp h
  have hdirs : kept.files.lookup path = files.lookup path := keepDirs_lookup hkept (.inr hpath)
  rw [placeFiles_lookup hplaced (.inr ⟨(has_of_lookup hdirs).trans hpath, rfl⟩), hdirs]

/-! ## Runs of the command -/

/-- A run that wrote something, and what it wrote. -/
structure Wrote (env : ScaffoldEnv) (args : InitArgs) (files : Files) (target : Target)
    (done : Progress) : Prop where
  aimed : args.target env = some target
  real : args.dryRun = false
  free : files.has "keyhole.yaml" = true → args.force = true
  executed : executeScaffold env files (buildFilePlan (args.repoName target) env.now) args.force
    = .ok done

/-- A run either leaves the directory as it is, with a failure or a dry run's success, or
    goes through the scaffold. -/
theorem runInitVertical_cases (h : runInitVertical env args files = .ok (result, files')) :
    (files' = files ∧ (result.success = true → args.dryRun = true))
      ∨ ∃ target done, Wrote env args files target done ∧ files' = done.files
        ∧ (result.success = true → done.errors = []) := by
  rw [runInitVertical] at h
  by_cases htemplate : args.template ≠ "default"
  · rw [if_pos htemplate] at h
    cases h
    exact .inl ⟨rfl, nofun⟩
  rw [if_neg htemplate] at h
  cases htarget : args.target env with
  | none =>
    rw [htarget] at h
    cases h
    exact .inl ⟨rfl, nofun⟩
  | some target =>
    rw [htarget] at h
    by_cases hdry : args.dryRun = true
    · change (if _ then _ else _) = _ at h
      rw [if_pos hdry] at h
      cases h
      exact .inl ⟨rfl, fun _ => hdry⟩
    change (if _ then _ else _) = _ at h
    rw [if_neg hdry] at h
    by_cases hexists : (files.has "keyhole.yaml" && !args.force) = true
    · rw [if_pos hexists] at h
      cases h
      exact .inl ⟨rfl, nofun⟩
    rw [if_neg hexists] at h
    cases hfault : env.mkdirFault "" with
    | some fault =>
      rw [hfault] at h
      cases h
      exact .inl ⟨rfl, nofun⟩
    | none =>
      rw [hfault] at h
      obtain ⟨done, hdone, h⟩ := bind_ok.mp h
      have hfree : files.has "keyhole.yaml" = true → args.force = true := by
        intro hhas
        cases hforce : args.force with
        | true => rfl
        | false => exact absurd (by rw [hhas, hforce]; rfl) hexists
      refine .inr ⟨target, done, ⟨htarget, Bool.eq_false_iff.mpr hdry, hfree, hdone⟩, ?_⟩
      by_cases herrors : done.errors.isEmpty = false
      · rw [if_pos herrors] at h
        cases h
        exact ⟨rfl, nofun⟩
      · rw [if_neg herrors] at h
        cases h
        exact ⟨rfl, fun _ => List.isEmpty_iff.mp (Bool.eq_true_of_not_eq_false herrors)⟩

/-- A dry run writes nothing. -/
theorem initVertical_dryRun (h : runInitVertical env args files = .ok (result, files'))
    (hdry : args.dryRun = true) : files' = files := by
  rcases runInitVertical_cases h with ⟨hsame, -⟩ | ⟨target, done, hwrote, -⟩
  · exact hsame
  · exact nomatch hdry.symm.trans hwrote.real

/-- Without `--force` no file that existed changes. -/
theorem initVertical_keeps (h : runInitVertical env args files = .ok (result, files'))
    (hforce : args.force = false) (hpath : files.has path = true) :
    files'.lookup path = files.lookup path := by
  rcases runInitVertical_cases h with ⟨hsame, -⟩ | ⟨target, done, hwrote, hfiles, -⟩
  · rw [hsame]
  · have hexecuted := hwrote.executed
    rw [hforce] at hexecuted
    rw [hfiles]
    exact executeScaffold_keeps hexecuted hpath

/-- A successful run on an empty directory leaves the files of the plan there. -/
theorem scaffold_files (h : runInitVertical env args [] = .ok (result, files'))
    (hreal : args.dryRun = false) (hsuccess : result.success = true) :
    ∃ target, args.target env = some target
      ∧ ∀ file ∈ buildFilePlan (args.repoName target) env.now,
        files'.lookup file.1 = some file.2 := by
  rcases runInitVertical_cases h with ⟨-, hdry⟩ | ⟨target, done, hwrote, rfl, hclean⟩
  · exact nomatch hreal.symm.trans (hdry hsuccess)
  · exact ⟨target, hwrote.aimed, executeScaffold_files hwrote.executed (hclean hsuccess)⟩

/-! ## Where nothing goes wrong -/

/-- Every directory and file can be written. -/
structure Sound (env : ScaffoldEnv) : Prop where
  dirs : ∀ dir, env.mkdirFault dir = none
  files : ∀ path, env.writeFault path = none

section Sound

variable {env : ScaffoldEnv} (hsound : Sound env)

include hsound

theorem keepDir_of_sound (done : Progress) (dir : String) :
    ∃ done', keepDir env done dir = .ok done' ∧ done'.errors = done.errors := by
  have hmake : makeDir env dir = .ok () := by rw [makeDir, hsound.dirs]
  by_cases hhas : done.files.has (dir ++ "/.gitkeep") = true
  · refine ⟨done, bind_ok.mpr ⟨(), hmake, ?_⟩, rfl⟩
    show (if _ then _ else _) = _
    rw [if_pos hhas]
    rfl
  · refine ⟨{ done with files := done.files.write (dir ++ "/.gitkeep") "" },
      bind_ok.mpr ⟨(), hmake, ?_⟩, rfl⟩
    show (if _ then _ else _) = _
    rw [if_neg hhas, hsound.files]
    rfl

theorem placeFile_of_sound (force : Bool) (done : Progress) (file : String × String) :
    ∃ done', placeFile env force done file = .ok done' ∧ done'.errors = done.errors := by
  have hmake : makeDir env (parentOf file.1) = .ok () := by rw [makeDir, hsound.dirs]
  by_cases hskip : (done.files.has file.1 && !force) = true
  · refine ⟨{ done with skipped := done.skipped ++ [file.1] },
      bind_ok.mpr ⟨(), hmake, ?_⟩, rfl⟩
    show (if _ then _ else _) = _
    rw [if_pos hskip]
    rfl
  · refine ⟨{ done with
        files := done.files.write file.1 file.2, created := done.created ++ [file.1] },
      bind_ok.mpr ⟨(), hmake, ?_⟩, rfl⟩
    show (if _ then _ else _) = _
    rw [if_neg hskip, hsound.files]
    rfl

/-- The scaffold is written without an error. -/
theorem executeScaffold_of_sound (files plan : Files) (force : Bool) :
    ∃ done, executeScaffold env files plan force = .ok done ∧ done.errors = [] := by
  obtain ⟨kept, hkept, hkeptErrors⟩ := foldlM_keeps (keepDir_of_sound hsound) managedDirs
    { files := files }
  obtain ⟨done, hdone, herrors⟩ := foldlM_keeps (placeFile_of_sound hsound force)
    (sortedPlan plan) kept
  exact ⟨done, bind_ok.mpr ⟨kept, hkept, hdone⟩, herrors.trans hkeptErrors⟩

/-- The command succeeds in an empty directory. -/
theorem runInitVertical_of_sound {target : Target}
    (htemplate : args.template = "default") (hreal : args.dryRun = false)
    (htarget : args.target env = some target) :
    ∃ result files', runInitVertical env args [] = .ok (result, files')
      ∧ result.success = true := by
  obtain ⟨done, hdone, herrors⟩ := executeScaffold_of_sound hsound []
    (buildFilePlan (args.repoName target) env.now) args.force
  refine ⟨createdResult target (args.repoName target) args.template
      (computePlanDigest env (buildFilePlan (args.repoName target) env.now))
      (forcedOver args.force (buildFilePlan (args.repoName target) env.now) done) done,
    done.files, ?_, rfl⟩
  rw [runInitVertical, if_neg (not_not.mpr htemplate), htarget]
  show (if _ then _ else _) = _
  rw [if_neg (by rw [hreal]; exact Bool.false_ne_true)]
  show (if _ then _ else _) = _
  rw [if_neg nofun, hsound.dirs]
  refine bind_ok.mpr ⟨done, hdone, ?_⟩
  show (if _ then _ else _) = _
  rw [if_neg (by rw [herrors]; exact nofun)]
  rfl

end Sound

/-! ## The scaffold and its readers -/

/-- A file of the directory, as the readers find it. -/
def fileAt (files : Files) (path : String) : FileText :=
  match files.lookup path with
  | some content => .text content
  | none => .missing

/-- The directory as a repository to validate. -/
def repoAt (target : Target) (files : Files) : Repo where
  path := target.path
  name := target.name
  keyhole := fileAt files "keyhole.yaml"
  contract := fileAt files "governance_contract.yaml"
  passport := fileAt files "capability_passport.yaml"
  dependencies := fileAt files "dependencies.yaml"
  manifest := files.has

/-- The scaffold passes the validation, and every reader finds the name it was made for. -/
structure Faithful (yaml : Option Loader) (target : Target) (files : Files) (repoName : String) :
    Prop where
  accepted : ∃ result, runValidation yaml (repoAt target files) "auto" false = .ok result
    ∧ result.status ≠ .reject
  keyholeName : loadRepoName yaml target.name (fileAt files "keyhole.yaml") = .str repoName
  passportName : Fields.get (rawDocument yaml "capability_passport.yaml"
    (fileAt files "capability_passport.yaml")) "owner_repo" = .str repoName
  contractName : Fields.get (rawDocument yaml "governance_contract.yaml"
    (fileAt files "governance_contract.yaml")) "repo" = .str repoName

/-- Whatever stands on the one line after `name:`, a `keyhole.yaml` that loads is a
    mapping with a mapping under `repo`. -/
def StandardReading (yaml : Option Loader) (now : String) : Prop :=
  ∀ safeLoad repoName v, yaml = some safeLoad → Unbroken repoName.toList →
    safeLoad (renderKeyholeYaml repoName now) = .ok v →
    ∃ data repo, v = .map data ∧ Fields.find data "repo" = some (.map repo)

/-- A `keyhole.yaml` that its check does not reject names the repository by a string. -/
theorem repo_of_not_rejects {fname : String} {loaded : Except String Fields}
    (h : ¬ Rejects (validateKeyholeYaml fname loaded).1) :
    ∃ data name, loaded = .ok data ∧ Fields.find data "repo" = some (.str name) := by
  cases loaded with
  | error why => exact absurd (rejects_singleton rfl) h
  | ok data =>
    have hrepo : ¬ Rejects (repoField fname (Fields.find data "repo")).1 :=
      fun hr => h (hr.mono (List.subset_append_left _ _))
    cases hfind : Fields.find data "repo" with
    | none =>
      rw [hfind] at hrepo
      exact absurd (rejects_singleton rfl) hrepo
    | some v =>
      rw [hfind] at hrepo
      cases v with
      | str name => exact ⟨data, name, rfl, hfind⟩
      | _ => exact absurd (rejects_singleton rfl) hrepo

/-- A document with a key in it comes from the loader. -/
theorem safeLoad_of_find {fname key : String} {data : Fields}
    {v : Yaml} (hload : loadYamlSafe yaml fname (.text content) = .ok data)
    (hfind : Fields.find data key = some v) :
    ∃ safeLoad, yaml = some safeLoad ∧ safeLoad content = .ok (.map data) := by
  cases yaml with
  | none => cases hload
  | some safeLoad =>
    rw [loadYamlSafe] at hload
    by_cases hblank : KeyholeJson.strip content = ""
    · rw [if_pos hblank] at hload
      cases hload
      cases hfind
    · rw [if_neg hblank] at hload
      refine ⟨safeLoad, rfl, ?_⟩
      cases hdoc : safeLoad content with
      | error why =>
        rw [hdoc] at hload
        cases hload
      | ok doc =>
        rw [hdoc] at hload
        cases doc with
        | map entries => cases hload; rfl
        | null => cases hload; cases hfind
        | _ => cases hload

/-- An accepted native repository has a `keyhole.yaml` that names it by a string. -/
theorem keyhole_of_accepted {repo : Repo} {result : ValidationResult}
    (hpresent : repo.keyhole.present = true)
    (hrun : runValidation yaml repo "auto" false = .ok result) (hstatus : result.status ≠ .reject) :
    ∃ data name, loadYamlSafe yaml "keyhole.yaml" repo.keyhole = .ok data
      ∧ Fields.find data "repo" = some (.str name) := by
  have hnative : postureFor "auto" repo = .native :=
    KeyholePassport.detectRepoPosture_native.mpr (by rw [hpresent]; rfl)
  have hne : postureFor "auto" repo ≠ .foreign := by
    rw [hnative]
    exact nofun
  rw [runValidation, if_neg hne] at hrun
  obtain ⟨found, hfound, hgraded⟩ := bind_ok.mp hrun
  cases hgraded
  apply repo_of_not_rejects
  rintro ⟨issue, hissue, hhard⟩
  exact hstatus ((status_reject_iff hfound).mpr
    (.file issue (mem_of_keyhole hissue hpresent) (hhard false)))

/-- How every `keyhole.yaml` of a scaffold starts. -/
theorem renderKeyholeYaml_start (repoName timestamp : String) :
    ∃ rest, (renderKeyholeYaml repoName timestamp).toList
      = "schema_version: v0.1".toList ++ '\n' :: ("repo:".toList ++ '\n' ::
        ("  name: ".toList ++ rest)) := by
  simp only [renderKeyholeYaml, fileText, schemaVersion, String.toList_append, List.append_assoc]
  exact ⟨_, rfl⟩

/-- The text scan finds a name in every `keyhole.yaml` of a scaffold. -/
theorem scanName_render (repoName timestamp : String) :
    ∃ found, scanName (renderKeyholeYaml repoName timestamp) = some found := by
  obtain ⟨rest, htext⟩ := renderKeyholeYaml_start repoName timestamp
  have hschema : Unbroken "schema_version: v0.1".toList := by decide
  have hrepo : Unbroken "repo:".toList := by decide
  have hname : Unbroken "  name: ".toList := by decide
  obtain ⟨more, lines, hlines⟩ := splitLines_start hname (by decide) rest
  have hsplit : splitLines (renderKeyholeYaml repoName timestamp).toList
      = "schema_version: v0.1".toList :: "repo:".toList :: ("  name: ".toList ++ more) :: lines := by
    rw [htext, splitLines_line hschema, splitLines_line hrepo, hlines]
  have hfirst : ∀ c ∈ ['n', 'a', 'm', 'e', ':'].head?, KeyholeJson.isSpace c = false := by
    intro c hc
    cases hc
    decide
  have hlast : ∀ c ∈ ['n', 'a', 'm', 'e', ':'].getLast?, KeyholeJson.isSpace c = false := by
    intro c hc
    cases hc
    decide
  obtain ⟨tail, hstrip⟩ := stripText_start hfirst hlast (List.cons_ne_nil 'n' ['a', 'm', 'e', ':'])
    (' ' :: more)
  have hstripped : stripText ("  name: ".toList ++ more) = ['n', 'a', 'm', 'e', ':'] ++ tail :=
    hstrip
  have hnamed : (namedLine ("  name: ".toList ++ more)).isSome = true := by
    rw [namedLine, hstripped, if_pos (List.isPrefixOf_iff_prefix.mpr ⟨tail, rfl⟩)]
    rfl
  have hscan : ((splitLines (renderKeyholeYaml repoName timestamp).toList).findSome?
      namedLine).isSome = true := by
    rw [hsplit, List.findSome?_isSome_iff]
    exact ⟨_, List.mem_cons_of_mem _ (List.mem_cons_of_mem _ List.mem_cons_self), hnamed⟩
  obtain ⟨found, hfound⟩ := Option.isSome_iff_exists.mp hscan
  exact ⟨String.ofList found, by rw [scanName, hfound]; rfl⟩

/-- A `keyhole.yaml` the validation accepts does not give the scaffold's name back. -/
theorem name_lost {dirName : String} {data : Fields}
    {name : String} (hread : StandardReading yaml timestamp)
    (hload : loadYamlSafe yaml "keyhole.yaml" (.text (renderKeyholeYaml repoName timestamp))
      = .ok data) (hfind : Fields.find data "repo" = some (.str name)) :
    loadRepoName yaml dirName (.text (renderKeyholeYaml repoName timestamp)) ≠ .str repoName := by
  obtain ⟨safeLoad, rfl, hdoc⟩ := safeLoad_of_find hload hfind
  by_cases hline : Unbroken repoName.toList
  · -- on one line the name stands in a mapping, which is no string
    obtain ⟨data', repo, hmap, hrepo⟩ := hread safeLoad repoName _ rfl hline hdoc
    cases hmap
    cases hfind.symm.trans hrepo
  · -- a name with a line break cannot be scanned from one line
    obtain ⟨found, hfound⟩ := scanName_render repoName timestamp
    have hfallback : loadRepoName (some safeLoad) dirName
        (.text (renderKeyholeYaml repoName timestamp)) = .str found := by
      simp only [loadRepoName, Option.map_some, hdoc, getOr_of_find hfind]
      rw [fallbackName, hfound]
      rfl
    rw [hfallback]
    intro hsame
    cases hsame
    exact hline (scanName_unbroken hfound)

/-- A file that was placed is there for the readers. -/
theorem fileAt_of_lookup
    (h : files.lookup path = some content) : fileAt files path = .text content := by
  rw [fileAt, h]

/-- No files with the template's `keyhole.yaml` are faithful. -/
theorem unfaithful_of_keyhole {target : Target} (hread : StandardReading yaml timestamp)
    (hkeyhole : files.lookup "keyhole.yaml" = some (renderKeyholeYaml repoName timestamp)) :
    ¬ Faithful yaml target files repoName := by
  intro hfaithful
  have hfile : (repoAt target files).keyhole = .text (renderKeyholeYaml repoName timestamp) :=
    fileAt_of_lookup hkeyhole
  obtain ⟨result, hrun, hstatus⟩ := hfaithful.accepted
  obtain ⟨data, name, hload, hfind⟩ := keyhole_of_accepted (by rw [hfile]; rfl) hrun hstatus
  rw [hfile] at hload
  have hname := hfaithful.keyholeName
  rw [fileAt_of_lookup hkeyhole] at hname
  exact name_lost hread hload hfind hname

/-- No successful scaffold on an empty directory passes the validation and gives its name
    back, whatever the name. -/
theorem scaffold_unfaithful {env : ScaffoldEnv} {args : InitArgs} {files' : Files}
    {result : CommandResult} {target : Target} {yaml : Option Loader}
    (hrun : runInitVertical env args [] = .ok (result, files')) (hreal : args.dryRun = false)
    (hsuccess : result.success = true) (htarget : args.target env = some target)
    (hread : StandardReading yaml env.now) :
    ¬ Faithful yaml target files' (args.repoName target) := by
  obtain ⟨target', htarget', hfiles⟩ := scaffold_files hrun hreal hsuccess
  rw [htarget] at htarget'
  cases htarget'
  exact unfaithful_of_keyhole hread (hfiles _ List.mem_cons_self)

/-- The claim of the command's next step: what it writes into an empty directory is
    faithful. -/
def RoundTrips (env : ScaffoldEnv) (args : InitArgs) (yaml : Option Loader) : Prop :=
  ∀ result files' target, runInitVertical env args [] = .ok (result, files') →
    args.dryRun = false → result.success = true → args.target env = some target →
    Faithful yaml target files' (args.repoName target)

/-! ## An ordinary scaffold -/

/-- A machine on which everything can be written. -/
def demoEnv : ScaffoldEnv where
  located path := ⟨path, path⟩
  underCwd name := ⟨"/work/" ++ name, name⟩
  now := "2026-03-01T12:00:00+00:00"
  sha256 _ := "90b95619da7938cf5d4ec9138079e6039196896d323d4c27ace42579f44a3dda"
  mkdirFault _ := none
  writeFault _ := none

/-- `keyhole init vertical demo`. -/
def demoArgs : InitArgs where
  name := "demo"

/-- What the loader makes of a scaffold's `keyhole.yaml`. -/
def keyholeDocument (name : String) : Yaml :=
  .map [(.str "schema_version", .str "v0.1"),
    (.str "repo", .map [(.str "name", .str name), (.str "kind", .str "vertical"),
      (.str "owner", .str "Keyhole Solution Foundation"), (.str "visibility", .str "private")]),
    (.str "sdk", .map [(.str "initialized_by", .str "keyhole init vertical"),
      (.str "initialized_at", .str "2026-03-01T12:00:00+00:00"), (.str "template", .str "default")]),
    (.str "context", .map [(.str "mode", .str "explicit")]),
    (.str "proof", .map [(.str "enabled", .bool true)])]

/-- What the loader makes of the four files of the scaffold. -/
def demoLoad (content : String) : Except String Yaml :=
  if ("schema_version: v0.1".toList ++ '\n' :: ("repo:".toList ++ ['\n'])).isPrefixOf
      content.toList then
    .ok (keyholeDocument ((scanName content).getD ""))
  else if content = renderGovernanceContract "demo" then
    .ok (.map [(.str "schema_version", .str "v0.1"), (.str "repo", .str "demo"),
      (.str "parent_repo", .null), (.str "produces", .seq []), (.str "required_tests", .seq []),
      (.str "local_invariants", .seq []), (.str "compatibility_contracts", .seq [])])
  else if content = renderCapabilityPassport "demo" then
    .ok (.map [(.str "schema_version", .str "v0.1"), (.str "capabilities", .seq []),
      (.str "owner_repo", .str "demo"), (.str "visibility", .str "private"),
      (.str "proofs", .seq []), (.str "trust", .map [(.str "sbom_digest", .null),
        (.str "attestation_digest", .null), (.str "transparency_ref", .null)])])
  else .ok (.map [(.str "schema_version", .str "v0.1"), (.str "dependencies", .seq [])])

theorem demo_sound : Sound demoEnv := ⟨fun _ => rfl, fun _ => rfl⟩

theorem demo_standardReading : StandardReading (some demoLoad) demoEnv.now := by
  intro safeLoad repoName v hyaml _ hload
  cases hyaml
  obtain ⟨rest, hrest⟩ := renderKeyholeYaml_start repoName demoEnv.now
  have hstart : ("schema_version: v0.1".toList ++ '\n' :: ("repo:".toList ++ ['\n'])).isPrefixOf
      (renderKeyholeYaml repoName demoEnv.now).toList = true := by
    rw [hrest]
    exact List.isPrefixOf_iff_prefix.mpr ⟨"  name: ".toList ++ rest, by simp⟩
  rw [demoLoad, if_pos hstart] at hload
  cases hload
  exact ⟨_, _, rfl, rfl⟩

/-- A file that stands where the scaffold goes is kept. -/
theorem dependencies_kept : ∃ result files',
    runInitVertical demoEnv demoArgs [("dependencies.yaml", "mine")] = .ok (result, files')
      ∧ files'.lookup "dependencies.yaml" = some "mine" :=
  ⟨_, _, rfl, @initVertical_keeps demoEnv _ [("dependencies.yaml", "mine")] _ demoArgs _ rfl rfl rfl⟩

/-- An ordinary scaffold is not faithful. -/
theorem demo_scaffold_unfaithful : ∃ result files',
    runInitVertical demoEnv demoArgs [] = .ok (result, files') ∧ result.success = true
      ∧ ¬ Faithful (some demoLoad) ⟨"/work/demo", "demo"⟩ files' "demo" := by
  have htarget : demoArgs.target demoEnv = some ⟨"/work/demo", "demo"⟩ := rfl
  obtain ⟨result, files', hrun, hsuccess⟩ := runInitVertical_of_sound demo_sound rfl rfl htarget
  exact ⟨result, files', hrun, hsuccess,
    scaffold_unfaithful hrun rfl hsuccess htarget demo_standardReading⟩

theorem demo_not_roundTrips : ¬ RoundTrips demoEnv demoArgs (some demoLoad) := by
  intro h
  have htarget : demoArgs.target demoEnv = some ⟨"/work/demo", "demo"⟩ := rfl
  obtain ⟨result, files', hrun, hsuccess⟩ := runInitVertical_of_sound demo_sound rfl rfl htarget
  obtain ⟨target, hsome, hfiles⟩ := scaffold_files hrun rfl hsuccess
  exact unfaithful_of_keyhole demo_standardReading (hfiles _ List.mem_cons_self)
    (h result files' target hrun rfl hsuccess hsome)

end KeyholeScaffold
