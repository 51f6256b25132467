import Keyhole.CapabilityNamespace
import Keyhole.ShellPattern
import Mathlib.Data.List.Lex
import Mathlib.Data.List.Sort
import Mathlib.Data.Char

/-!
# The scan of a repository

`ingest/filter.py` and `ingest/scanner.py`: the include and exclude rules, the walk that
prunes directories, and what the scan makes of every file it meets.

  - `Entries` is what a directory lists, in the order the operating system gives it;
    `Tree` keeps that names are proper and distinct.
  - `visits` is `os.walk` with the pruning of `scan_repo`: one visit a directory, with its
    files sorted and the kept directories in sorted order.
  - `scanRepo` is the loop over the visits.  `str.lower` is a parameter of the scan. -/

namespace KeyholeScan

open KeyholeJson (occursIn)
open KeyholeNamespace (Text splitOn)
open ShellPattern (fnmatch)

/-! ## Paths -/

/-- The root of `PurePosixPath(path)`: two leading slashes, and only two, are kept. -/
def posixRoot (path : Text) : Text :=
  if ['/', '/'].isPrefixOf path && !(['/', '/', '/'].isPrefixOf path) then ['/', '/']
  else if ['/'].isPrefixOf path then ['/']
  else []

/-- The parts of a path below its root. -/
def components (path : Text) : List Text :=
  (splitOn '/' path).filter fun part => part != [] && part != ['.']

/-- `PurePosixPath(path).parts`. -/
def pathParts (path : Text) : List Text :=
  if posixRoot path = [] then components path else posixRoot path :: components path

/-- `PurePosixPath(path).name`. -/
def pathName (path : Text) : Text := (components path).getLastD []

/-! ## Rules -/

def defaultExcludes : List String :=
  [".git", ".git/**", ".hg", ".hg/**", ".svn", ".svn/**",
    ".env", ".env.*", "*.pem", "*.key", "*.p12", "*.pfx", "*.jks", "*.keystore",
    "venv/**", ".venv/**", "env/**", ".tox/**", ".nox/**",
    "node_modules/**", "bower_components/**",
    "__pycache__/**", "*.pyc", "*.pyo", ".eggs/**", "*.egg-info/**",
    "build/**", "dist/**", "out/**", "target/**", "bin/**",
    ".idea/**", ".vscode/**", "*.swp", "*.swo", "*~", ".DS_Store", "Thumbs.db",
    ".coverage", "htmlcov/**", ".pytest_cache/**", ".mypy_cache/**", ".ruff_cache/**",
    "*.iso", "*.dmg", "*.tar.gz", "*.tar.bz2", "*.zip", "*.rar", "*.7z", "*.jar", "*.war",
    "*.ear", "*.whl", ".docker/**"]

def defaultIncludes : List String :=
  ["*.py", "*.js", "*.ts", "*.jsx", "*.tsx", "*.java", "*.go", "*.rs", "*.rb", "*.c", "*.cpp",
    "*.h", "*.hpp", "*.cs", "*.swift", "*.kt", "*.scala", "*.sh", "*.bash", "*.zsh", "*.sql",
    "*.html", "*.css", "*.scss", "*.less", "*.vue", "*.svelte",
    "*.md", "*.rst", "*.txt", "*.adoc",
    "*.json", "*.yaml", "*.yml", "*.toml", "*.cfg", "*.ini", "*.xml", "*.gradle",
    "*.properties",
    "Makefile", "Dockerfile", "docker-compose*.yml", "docker-compose*.yaml", "Jenkinsfile",
    "Vagrantfile", "Procfile", ".github/**", ".gitlab-ci.yml",
    "*.lock", "package-lock.json", "yarn.lock", "Pipfile.lock", "poetry.lock", "Cargo.lock",
    "go.sum"]

/-- `IncludeExcludeFilter`. -/
structure IncludeExcludeFilter where
  excludes : List Text
  includes : List Text

/-- `IncludeExcludeFilter(extra_includes=…, extra_excludes=…)`. -/
def includeExcludeFilter (extraIncludes extraExcludes : List Text) : IncludeExcludeFilter where
  excludes := defaultExcludes.map String.toList ++ extraExcludes
  includes := defaultIncludes.map String.toList ++ extraIncludes

/-- `pattern.endswith("/**")`. -/
def directoryRule (pattern : Text) : Bool := ['/', '*', '*'].isSuffixOf pattern

/-- `pattern[:-3]`. -/
def beforeStars (pattern : Text) : Text := pattern.take (pattern.length - 3)

/-- `_matches`. -/
def ruleMatches (path pattern : Text) : Bool :=
  fnmatch (pathName path) pattern
    || fnmatch path pattern
    || (!directoryRule pattern && !pattern.contains '/' && !pattern.contains '*'
        && (pathParts path).contains pattern)
    || (directoryRule pattern
        && ((beforeStars pattern ++ ['/']).isPrefixOf path || path == beforeStars pattern
          || (pathParts path).contains (beforeStars pattern)))

/-- `rel_path.replace("\\", "/")`. -/
def normSlash (c : Char) : Char := if c = '\\' then '/' else c

/-- `IncludeExcludeFilter.classify`. -/
def IncludeExcludeFilter.classify (rules : IncludeExcludeFilter) (relPath : Text) : Bool × Text :=
  let norm := relPath.map normSlash
  match rules.excludes.find? (ruleMatches norm) with
  | some pattern => (false, "exclude:".toList ++ pattern)
  | none =>
      match rules.includes.find? (ruleMatches norm) with
      | some _ => (true, "include".toList)
      | none => (false, "exclude:no_matching_include".toList)

/-! ## The tree -/

/-- What a directory lists, in the order of the operating system.  The size is `none` where
    `os.path.getsize` raises; a `link` is listed with the directories and not walked (a
    symbolic link to a directory, or a directory that cannot be read). -/
inductive Entries
  | nil
  | file (name : Text) (size : Option Nat) (rest : Entries)
  | dir (name : Text) (inside rest : Entries)
  | link (name : Text) (rest : Entries)

namespace Entries

/-- The files of a directory itself. -/
def files : Entries → List (Text × Option Nat)
  | nil => []
  | file name size rest => (name, size) :: rest.files
  | dir _ _ rest => rest.files
  | link _ rest => rest.files

def names : Entries → List Text
  | nil => []
  | file name _ rest => name :: rest.names
  | dir name _ rest => name :: rest.names
  | link name rest => name :: rest.names

end Entries

/-- A name a directory can list. -/
def ProperName (name : Text) : Prop := name ≠ [] ∧ '/' ∉ name ∧ name ≠ ['.'] ∧ name ≠ ['.', '.']

/-- Names are proper, and no directory lists one twice. -/
def Entries.Proper : Entries → Prop
  | .nil => True
  | .file name _ rest => ProperName name ∧ name ∉ rest.names ∧ rest.Proper
  | .dir name inside rest => ProperName name ∧ name ∉ rest.names ∧ inside.Proper ∧ rest.Proper
  | .link name rest => ProperName name ∧ name ∉ rest.names ∧ rest.Proper

/-- No symbolic link to a directory, at any depth. -/
def Entries.NoLinks : Entries → Prop
  | .nil => True
  | .file _ _ rest => rest.NoLinks
  | .dir _ inside rest => inside.NoLinks ∧ rest.NoLinks
  | .link _ _ => False

/-- The tree of a repository. -/
structure Tree where
  entries : Entries
  proper : entries.Proper

/-- `f"{rel_dir}/{name}" if rel_dir else name`. -/
def joinRel (relDir name : Text) : Text := if relDir = [] then name else relDir ++ '/' :: name

/-! ## The walk -/

/-- `sorted` by name. -/
def sortNames {β : Type} (entries : List (Text × β)) : List (Text × β) :=
  entries.insertionSort fun a b => a.1 ≤ b.1

/-- One turn of `os.walk`: a directory and its files. -/
structure Visit where
  relDir : Text
  dirName : Text
  files : List (Text × Option Nat)

/-- Whether the walk drops a directory. -/
def pruned (rules : List Text) (dirRel : Text) : Bool :=
  rules.any fun pattern => ruleMatches dirRel pattern || ruleMatches (dirRel ++ ['/']) pattern

/-- The kept directories of a listing, each with the turns of its own walk. -/
def subvisits (rules : List Text) (relDir : Text) : Entries → List (Text × List Visit)
  | .nil => []
  | .file _ _ rest => subvisits rules relDir rest
  | .dir name inside rest =>
      let dirRel := joinRel relDir name
      if pruned rules dirRel then subvisits rules relDir rest
      else
        (name, ⟨dirRel, name, sortNames inside.files⟩ ::
          (sortNames (subvisits rules dirRel inside)).flatMap Prod.snd)
        :: subvisits rules relDir rest
  | .link name rest =>
      if pruned rules (joinRel relDir name) then subvisits rules relDir rest
      else (name, []) :: subvisits rules relDir rest

/-- The whole walk, from the root. -/
def visits (rules : List Text) (rootName : Text) (tree : Entries) : List Visit :=
  ⟨[], rootName, sortNames tree.files⟩ :: (sortNames (subvisits rules [] tree)).flatMap Prod.snd

/-! ## What is found -/

inductive ConfidenceLevel
  | high
  | medium
  | low
  deriving DecidableEq, Repr

/-- `ScanSignal`. -/
structure ScanSignal where
  kind : Text
  path : Text
  value : Text
  confidence : ConfidenceLevel
  deriving DecidableEq, Repr

inductive FileClassification
  | source
  | test
  | doc
  | manifest
  | build
  | ci
  | config
  | other
  deriving DecidableEq, Repr

/-- `_MANIFEST_SIGNALS`. -/
def manifestSignals : List (String × String × String) :=
  [("pyproject.toml", "python", ""), ("setup.py", "python", ""), ("setup.cfg", "python", ""),
    ("requirements.txt", "python", ""), ("Pipfile", "python", ""), ("poetry.lock", "python", ""),
    ("package.json", "javascript", ""), ("tsconfig.json", "typescript", ""),
    ("pom.xml", "java", "maven"), ("build.gradle", "java", "gradle"),
    ("build.gradle.kts", "kotlin", "gradle"), ("go.mod", "go", ""),
    ("Cargo.toml", "rust", "cargo"), ("Gemfile", "ruby", ""), ("composer.json", "php", ""),
    ("mix.exs", "elixir", ""), ("Package.swift", "swift", ""), ("*.csproj", "csharp", "dotnet"),
    ("*.fsproj", "fsharp", "dotnet"), ("CMakeLists.txt", "c/cpp", "cmake"),
    ("Makefile", "", "make")]

/-- `_FRAMEWORK_HINTS`. -/
def frameworkHints : List (String × String) :=
  [("manage.py", "django"), ("next.config.js", "nextjs"), ("next.config.ts", "nextjs"),
    ("nuxt.config.js", "nuxt"), ("nuxt.config.ts", "nuxt"), ("angular.json", "angular"),
    ("svelte.config.js", "svelte"), ("astro.config.mjs", "astro"), ("vite.config.ts", "vite"),
    ("vite.config.js", "vite"), ("webpack.config.js", "webpack"),
    ("tailwind.config.js", "tailwind"), ("Dockerfile", "docker"),
    ("docker-compose.yml", "docker-compose"), ("docker-compose.yaml", "docker-compose")]

def sourceDirNames : List String :=
  ["src", "app", "lib", "pkg", "cmd", "internal", "backend", "frontend", "api", "core"]

def testDirNames : List String :=
  ["tests", "test", "spec", "specs", "__tests__", "test_utils", "testing"]

def keyholeMarkers : List String :=
  ["keyhole.yaml", "governance_contract.yaml", "capability_passport.yaml"]

/-- `_EXT_LANGUAGE_MAP`. -/
def extLanguageMap : List (String × String) :=
  [(".py", "python"), (".js", "javascript"), (".ts", "typescript"), (".jsx", "javascript"),
    (".tsx", "typescript"), (".java", "java"), (".go", "go"), (".rs", "rust"), (".rb", "ruby"),
    (".c", "c"), (".cpp", "c++"), (".cs", "csharp"), (".swift", "swift"), (".kt", "kotlin"),
    (".scala", "scala"), (".php", "php"), (".sh", "shell"), (".sql", "sql")]

/-- `name in table`, for a table of literals. -/
def listed (table : List String) (name : Text) : Bool := table.any fun entry => entry.toList == name

/-- `table.get(name)`, for a table of literals. -/
def tableGet {β : Type} (table : List (String × β)) (name : Text) : Option β :=
  (table.find? fun entry => entry.1.toList == name).map Prod.snd

/-- `text.endswith(ends)`. -/
def endsWithAny (text : Text) (ends : List String) : Bool :=
  ends.any fun e => e.toList.isSuffixOf text

/-- `part in text`. -/
def textIn (part : String) (text : Text) : Bool := occursIn part.toList text

/-- `_classify_file`. -/
def classifyFile (lower : Text → Text) (relPath filename : Text) : FileClassification :=
  let low := lower filename
  if listed ["readme.md", "readme.rst", "readme.txt", "readme", "changelog.md",
      "contributing.md", "license", "license.md", "license.txt"] low then .doc
  else if endsWithAny low [".md", ".rst", ".adoc"] && textIn "doc" (lower relPath) then .doc
  else if listed ["dockerfile", "makefile", "jenkinsfile", "vagrantfile", "procfile"] low then
    .build
  else if "docker-compose".toList.isPrefixOf low then .build
  else if textIn ".github/" relPath || textIn ".gitlab-ci" low then .ci
  else if (tableGet manifestSignals low).isSome then .manifest
  else if endsWithAny low [".yaml", ".yml", ".toml", ".cfg", ".ini", ".json"]
      && textIn "config" low then .config
  else if (splitOn '/' relPath).any (listed testDirNames) then .test
  else if "test_".toList.isPrefixOf low || endsWithAny low ["_test.py", ".test.js"] then .test
  else if endsWithAny low [".py", ".js", ".ts", ".java", ".go", ".rs", ".rb", ".c", ".cpp", ".h",
      ".hpp", ".cs", ".swift", ".kt"] then .source
  else .other

/-! ## The scan -/

/-- `set.add`. -/
def addTo (items : List Text) (item : Text) : List Text :=
  if item ∈ items then items else items ++ [item]

/-- The local variables of `scan_repo`. -/
structure Scan where
  languages : List Text := []
  frameworks : List Text := []
  manifests : List Text := []
  sourceDirs : List Text := []
  testDirs : List Text := []
  docFiles : List Text := []
  buildFiles : List Text := []
  includedFiles : List Text := []
  excludedFiles : List Text := []
  signals : List ScanSignal := []
  totalFiles : Nat := 0
  totalIncludedBytes : Nat := 0
  hasKeyhole : Bool := false

/-- `languages.add(lang)` and its signal, when there is a language. -/
def Scan.addLanguage (scan : Scan) (relPath lang : Text) : Scan :=
  if lang = [] then scan
  else
    { scan with
      languages := addTo scan.languages lang
      signals := scan.signals ++ [⟨"language".toList, relPath, lang, .high⟩] }

/-- `frameworks.add(fw)` and its signal, when there is a framework. -/
def Scan.addFramework (scan : Scan) (relPath fw : Text) (confidence : ConfidenceLevel) : Scan :=
  if fw = [] then scan
  else
    { scan with
      frameworks := addTo scan.frameworks fw
      signals := scan.signals ++ [⟨"framework".toList, relPath, fw, confidence⟩] }

def Scan.detectKeyhole (scan : Scan) (filename : Text) : Scan :=
  if listed keyholeMarkers filename then { scan with hasKeyhole := true } else scan

def Scan.detectManifest (scan : Scan) (relPath filename : Text) : Scan :=
  match tableGet manifestSignals filename with
  | some (lang, fw) =>
      (({ scan with manifests := scan.manifests ++ [relPath] }).addLanguage relPath
        lang.toList).addFramework relPath fw.toList .high
  | none => scan

def Scan.detectFramework (scan : Scan) (relPath filename : Text) : Scan :=
  match tableGet frameworkHints filename with
  | some fw => scan.addFramework relPath fw.toList .medium
  | none => scan

def Scan.detectKind (scan : Scan) (lower : Text → Text) (relPath filename : Text) : Scan :=
  match classifyFile lower relPath filename with
  | .doc => { scan with docFiles := scan.docFiles ++ [relPath] }
  | .build => { scan with buildFiles := scan.buildFiles ++ [relPath] }
  | .ci => { scan with buildFiles := scan.buildFiles ++ [relPath] }
  | _ => scan

/-- What the scan learns from a file it includes. -/
def Scan.detect (scan : Scan) (lower : Text → Text) (relPath filename : Text) : Scan :=
  (((scan.detectKeyhole filename).detectManifest relPath filename).detectFramework relPath
    filename).detectKind lower relPath filename

section Loop

variable (lower : Text → Text) (rules : IncludeExcludeFilter) (maxBytes : Int)

/-- The body of the loop over the files of a directory. -/
def visitFile (relDir : Text) (scan : Scan) (entry : Text × Option Nat) : Scan :=
  let relPath := joinRel relDir entry.1
  let scan := { scan with totalFiles := scan.totalFiles + 1 }
  if !(rules.classify relPath).1 then
    { scan with excludedFiles := scan.excludedFiles ++ [relPath] }
  else
    let fileSize := entry.2.getD 0
    if 0 < maxBytes ∧ maxBytes < ((scan.totalIncludedBytes + fileSize : Nat) : Int) then
      { scan with excludedFiles := scan.excludedFiles ++ [relPath] }
    else
      ({ scan with
          totalIncludedBytes := scan.totalIncludedBytes + fileSize
          includedFiles := scan.includedFiles ++ [relPath] }).detect lower relPath entry.1

/-- "Classify directory". -/
def visitDir (scan : Scan) (visit : Visit) : Scan :=
  let scan :=
    if listed sourceDirNames visit.dirName && visit.relDir != [] then
      { scan with sourceDirs := addTo scan.sourceDirs visit.relDir }
    else scan
  if listed testDirNames visit.dirName && visit.relDir != [] then
    { scan with testDirs := addTo scan.testDirs visit.relDir }
  else scan

/-- The body of the loop over the walk. -/
def visitOne (scan : Scan) (visit : Visit) : Scan :=
  visit.files.foldl (visitFile lower rules maxBytes visit.relDir) (visitDir scan visit)

end Loop

/-- `os.path.splitext(path)[1]`: the extension of the last part; leading dots start none. -/
def extension (path : Text) : Text :=
  let base := (splitOn '/' path).getLastD []
  let stem := base.dropWhile fun c => c == '.'
  if stem.contains '.' then '.' :: (splitOn '.' stem).getLastD [] else []

/-- `_infer_languages_from_extensions`.  A language that was seen is in `languages` as well. -/
def inferLanguages (lower : Text → Text) : List Text → List Text → List ScanSignal →
    List Text × List ScanSignal
  | [], languages, signals => (languages, signals)
  | f :: rest, languages, signals =>
      match tableGet extLanguageMap (lower (extension f)) with
      | some lang =>
          if lang.toList ∈ languages then inferLanguages lower rest languages signals
          else
            inferLanguages lower rest (languages ++ [lang.toList])
              (signals ++ [⟨"language".toList, f, lang.toList, .low⟩])
      | none => inferLanguages lower rest languages signals

/-- `RepoScanResult`, its time stamp apart. -/
structure RepoScanResult where
  repoRoot : Text
  languages : List Text
  frameworks : List Text
  manifests : List Text
  sourceDirs : List Text
  testDirs : List Text
  docFiles : List Text
  buildFiles : List Text
  includedFiles : List Text
  excludedFiles : List Text
  signals : List ScanSignal
  totalFiles : Nat
  totalIncludedBytes : Nat
  hasKeyholeScaffold : Bool

/-- `sorted` of strings. -/
def sortTexts (texts : List Text) : List Text := texts.insertionSort fun a b => a ≤ b

/-- `key=lambda s: (s.kind, s.path)`. -/
def signalBefore (a b : ScanSignal) : Prop := a.kind < b.kind ∨ a.kind = b.kind ∧ a.path ≤ b.path

instance : DecidableRel signalBefore := fun a b =>
  inferInstanceAs (Decidable (a.kind < b.kind ∨ a.kind = b.kind ∧ a.path ≤ b.path))

/-- The loop over the turns of the walk. -/
def scanVisits (lower : Text → Text) (rules : IncludeExcludeFilter) (maxBytes : Int)
    (turns : List Visit) : Scan :=
  turns.foldl (visitOne lower rules maxBytes) {}

/-- The result of the scan's variables. -/
def Scan.result (scan : Scan) (lower : Text → Text) (root : Text) : RepoScanResult :=
  let inferred := inferLanguages lower scan.includedFiles scan.languages scan.signals
  { repoRoot := root
    languages := sortTexts inferred.1
    frameworks := sortTexts scan.frameworks
    manifests := sortTexts scan.manifests
    sourceDirs := sortTexts scan.sourceDirs
    testDirs := sortTexts scan.testDirs
    docFiles := sortTexts scan.docFiles
    buildFiles := sortTexts scan.buildFiles
    includedFiles := sortTexts scan.includedFiles
    excludedFiles := sortTexts scan.excludedFiles
    signals := inferred.2.insertionSort signalBefore
    totalFiles := scan.totalFiles
    totalIncludedBytes := scan.totalIncludedBytes
    hasKeyholeScaffold := scan.hasKeyhole }

/-- `scan_repo` of a directory: the resolved path of its root, and the tree below it. -/
def scanRepo (lower : Text → Text) (root : Text) (rules : IncludeExcludeFilter) (maxBytes : Int)
    (tree : Tree) : RepoScanResult :=
  (scanVisits lower rules maxBytes
    (visits rules.excludes (pathName root) tree.entries)).result lower root

end KeyholeScan
