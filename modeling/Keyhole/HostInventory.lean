import Keyhole.HostReconciliation
import Mathlib.Data.List.Sort

/-!
# The hosts of a home directory

The doctor finds the IDEs of a home directory by the files they keep there, and the Keyhole
entry of an IDE by going through the servers its files list.  Which file is read and which
entry is taken depends on the order of both searches.

* `Home`: the files and folders the doctor and the installers look at;
* `VSCode.detect`, `JetBrains.detect`: the two detectors;
* `VSCode.detect_reports_iff`, `JetBrains.detect_reports_iff`: a detector reports the URL of
  the first Keyhole entry in the list of all the entries it goes through. -/

namespace KeyholeHosts

open KeyholeJson KeyholeDoctor
open KeyholeDispatch (Raised)

/-! ## Records -/

/-- `HostType`. -/
inductive HostType where
  | ideMcpClient
  | sdkRuntime
  | unknown
  deriving DecidableEq

/-- `HostSupportStatus`. -/
inductive HostSupportStatus where
  | supported
  | partialSupport
  | unsupported
  | unknown
  deriving DecidableEq

/-- `ReconnectRequirement`. -/
inductive ReconnectRequirement where
  | none
  | reloadWindow
  | restartIde
  | restartExtension
  | manual
  deriving DecidableEq

/-- A `DoctorHostRecord` with the fields that the inventory writes and no diagnosis reads. -/
structure InventoryRecord extends DoctorHostRecord where
  hostType : HostType := .unknown
  displayName : String := ""
  configPath : String := ""
  serverUrl : Json := .str ""
  supportStatus : HostSupportStatus := .unknown
  reconnectRequirement : ReconnectRequirement := .none

/-! ## The home directory -/

/-- What `json.loads` makes of a file's text: a value, or an error with its message. -/
inductive Contents where
  | parsed (value : Json)
  | unparsable (reason : String)

/-- A home directory.  Files and folders go by their paths as the source writes them, with
    `~` for `root`; `jetbrainsDirs` are the names of the folders in `~/.config/JetBrains`. -/
structure Home where
  root : String
  files : String → Option Contents
  folders : String → Bool
  jetbrainsDirs : List String

/-- `os.path.expanduser`, on a path that starts with `~`. -/
def Home.expanduser (h : Home) (raw : String) : String := h.root ++ dropChars 1 raw

/-- `Path.is_file`. -/
def Home.isFile (h : Home) (p : String) : Bool := (h.files p).isSome

/-- The JSON object in a file, empty where there is none. -/
def Home.document (h : Home) (p : String) : Dict :=
  match h.files p with
  | some (.parsed (.obj data)) => data
  | _ => []

/-! ## Entries -/

/-- Does a text hold one of `_KEYHOLE_INDICATORS`? -/
def namesKeyhole (base text : String) : Bool :=
  ["keyhole", base].any fun ind => contains text ind

/-- `entry if isinstance(entry, dict) else {"name": name}`. -/
def asEntry (name : String) : Json → Dict
  | .obj entry => entry
  | _ => [("name", .str name)]

/-- The first of the servers that is recognised, as an entry. -/
def firstEntry (recognised : String × Json → Bool) (servers : List (String × Json)) :
    Option Dict :=
  (servers.find? recognised).map fun kv => asEntry kv.1 kv.2

/-- The URL an entry is reported with; an entry that is not an object has none. -/
def entryUrl : Json → Json
  | .obj entry => Dict.getOr entry "url" (.str "")
  | _ => .str ""

/-! ## What a detector reports -/

/-- The first recognised of the entries has this URL. -/
def FirstUrl (recognised : String × Json → Bool) (entries : List (String × Json)) (url : Json) :
    Prop :=
  ∃ kv, entries.find? recognised = some kv ∧ entryUrl kv.2 = url

/-- A detector finds a Keyhole entry and gives this URL for it. -/
def Reports (verdict : Except Raised InventoryRecord) (url : Json) : Prop :=
  ∃ record, verdict = .ok record ∧ record.keyholeServerEntryDetected = true
    ∧ record.serverUrl = url

/-- An entry that is no object is reported without a URL. -/
theorem getOr_asEntry (name : String) (v : Json) :
    Dict.getOr (asEntry name v) "url" (.str "") = entryUrl v := by
  cases v with
  | obj entry => rfl
  | null => rfl
  | bool b => rfl
  | int n => rfl
  | float text => rfl
  | str s => rfl
  | arr items => rfl

theorem firstEntry_append (recognised : String × Json → Bool) (l l' : List (String × Json)) :
    firstEntry recognised (l ++ l')
      = (firstEntry recognised l).or (firstEntry recognised l') := by
  rw [firstEntry, List.find?_append]
  cases hl : l.find? recognised with
  | none => rw [firstEntry, hl, Option.none_or, Option.map_none, Option.none_or, firstEntry]
  | some kv => rw [firstEntry, hl, Option.some_or, Option.map_some, Option.some_or]

theorem reports_of_entry {recognised : String × Json → Bool} {entries : List (String × Json)}
    {entry : Dict} {record : InventoryRecord} {url : Json}
    (hentry : firstEntry recognised entries = some entry)
    (hdetected : record.keyholeServerEntryDetected = true)
    (hurl : record.serverUrl = Dict.getOr entry "url" (.str "")) :
    Reports (.ok record) url ↔ FirstUrl recognised entries url := by
  obtain ⟨kv, hfind, rfl⟩ := Option.map_eq_some_iff.mp hentry
  rw [getOr_asEntry] at hurl
  constructor
  · rintro ⟨_, hok, -, heq⟩
    cases hok
    exact ⟨kv, hfind, hurl.symm.trans heq⟩
  · rintro ⟨kv', hfind', heq⟩
    cases hfind.symm.trans hfind'
    exact ⟨record, rfl, hdetected, hurl.trans heq⟩

theorem reports_of_no_entry {recognised : String × Json → Bool} {entries : List (String × Json)}
    {record : InventoryRecord} {url : Json} (hentry : firstEntry recognised entries = none)
    (hdetected : record.keyholeServerEntryDetected = false) :
    Reports (.ok record) url ↔ FirstUrl recognised entries url := by
  constructor
  · rintro ⟨_, hok, hfound, -⟩
    cases hok
    rw [hdetected] at hfound
    exact nomatch hfound
  · rintro ⟨kv, hfind, -⟩
    rw [Option.map_eq_none_iff.mp hentry] at hfind
    exact nomatch hfind

/-- A host whose entry is reported is not diagnosed as lacking one. -/
theorem Reports.configured {verdict : Except Raised InventoryRecord} {url : Json}
    (hreports : Reports verdict url) (cliUserId : String) (available : Bool) :
    ∃ record, verdict = .ok record
      ∧ classifyHostDiagnosis cliUserId record.toDoctorHostRecord available
        ≠ .hostNotConfigured := by
  obtain ⟨record, hok, hdetected, -⟩ := hreports
  refine ⟨record, hok, ?_⟩
  simp only [classifyHostDiagnosis, hdetected]
  grind

/-! ## VS Code -/

/-- The settings of VS Code Server. -/
def serverSettings : String := "~/.vscode-server/data/User/settings.json"

/-- The settings of the desktop VS Code on Linux. -/
def desktopSettings : String := "~/.config/Code/User/settings.json"

/-- The settings files that both the detector and the installer list last. -/
def laterSettings : List String :=
  ["~/Library/Application Support/Code/User/settings.json",
    "~/.config/Code - Insiders/User/settings.json",
    "~/.vscode-server-insiders/data/User/settings.json"]

namespace VSCode

/-- `_VSCODE_SETTINGS_PATHS`. -/
def settingsPaths : List String := desktopSettings :: serverSettings :: laterSettings

/-- `_VSCODE_MCP_PATHS`. -/
def mcpPaths : List String :=
  ["~/.config/Code/User/globalStorage/mcp.json",
    "~/.vscode-server/data/User/globalStorage/mcp.json"]

/-- The keys that hold servers in a settings file. -/
def settingsKeys : List String := ["mcp.servers", "mcpServers", "mcp"]

/-- `_is_keyhole_entry`. -/
def isKeyholeEntry (base : String) (kv : String × Json) : Bool :=
  namesKeyhole base (lower kv.1) ||
    match kv.2 with
    | .obj entry =>
        namesKeyhole base (lower (pyStr (Dict.getOr entry "url" (.str "")))) ||
          namesKeyhole base (lower (pyStr (Dict.getOr entry "command" (.str ""))))
    | _ => false

/-- `_find_settings_file`. -/
def findSettingsFile (h : Home) : Option String := settingsPaths.find? h.isFile

/-- `_find_keyhole_entry`.  A document that is no object has no `get`. -/
def findKeyholeEntry (base : String) : Option Contents → Except Raised (Option Dict)
  | some (.parsed (.obj data)) =>
      .ok <| settingsKeys.findSome? fun key =>
        match Dict.get data key with
        | .obj servers => firstEntry (isKeyholeEntry base) servers
        | _ => none
  | some (.parsed _) => .error "AttributeError"
  | _ => .ok none

/-- The servers of an MCP file: those under `servers`, or the whole object. -/
def mcpServers : Option Contents → List (String × Json)
  | some (.parsed (.obj data)) => asDict (Dict.getOr data "servers" (.obj data))
  | _ => []

/-- `_check_mcp_config_files`. -/
def checkMcpConfigFiles (base : String) (h : Home) : Option (String × Dict) :=
  mcpPaths.findSome? fun p =>
    (firstEntry (isKeyholeEntry base) (mcpServers (h.files p))).map fun entry => (p, entry)

/-- Does the name of a variable speak of a token? -/
def authKey (key : String) : Bool := contains (lower key) "token" || contains (lower key) "auth"

/-- `_detect_auth_mode`. -/
def detectAuthMode (entry : Dict) : String :=
  if (asDict (entry.get "env")).any (fun kv => authKey kv.1) then "env_bearer_token"
  else if (asDict (entry.get "headers")).any (fun kv => contains (lower kv.1) "authorization") then
    "header_token"
  else if truthy (entry.get "oauth") || truthy (entry.get "auth") then "oauth_session"
  else "unknown"

/-- `_detect_principal_source`. -/
def detectPrincipalSource (entry : Dict) : String :=
  match (asDict (entry.get "env")).find? (fun kv => authKey kv.1) with
  | some (key, value) =>
      let text := pyStr value
      if startsWith text "$" then "env:" ++ text
      else if contains text "/" || contains text "\\" then "file:" ++ text
      else "env:" ++ key
  | none => ""

/-- The record of an entry that was found. -/
def withEntry (record : InventoryRecord) (entry : Dict) : InventoryRecord :=
  { record with
    keyholeServerEntryDetected := true
    serverUrl := entry.getOr "url" (.str "")
    authSourceMode := detectAuthMode entry
    configuredPrincipalSource := .str (detectPrincipalSource entry) }

/-- The record `detect` starts from. -/
def blank : InventoryRecord where
  hostId := "vscode"
  hostType := .ideMcpClient
  hostFamily := .vscode
  displayName := "Visual Studio Code"
  supportStatus := .supported
  reconnectRequirement := .reloadWindow

/-- `VSCodeHostDetector.detect`. -/
def detect (base : String) (h : Home) : Except Raised InventoryRecord :=
  match findSettingsFile h with
  | none => .ok blank
  | some p => do
      let record : InventoryRecord := { blank with
        detected := true
        configDetected := true
        configPath := h.expanduser p }
      match ← findKeyholeEntry base (h.files p) with
      | some entry => return withEntry record entry
      | none =>
          match checkMcpConfigFiles base h with
          | some (mcpPath, entry) =>
              return withEntry { record with configPath := h.expanduser mcpPath } entry
          | none => return record

/-- The servers of a settings file's object, in the order `_find_keyhole_entry` tries them. -/
def entries (data : Dict) : List (String × Json) :=
  settingsKeys.flatMap fun key => asDict (data.get key)

/-- The servers of a settings file; none of a document that is no object, on which the
    search raises. -/
def fileEntries : Option Contents → Option (List (String × Json))
  | some (.parsed (.obj data)) => some (entries data)
  | some (.parsed _) => none
  | _ => some []

/-- The servers of the MCP files, in the order they are tried. -/
def mcpEntries (h : Home) : List (String × Json) :=
  mcpPaths.flatMap fun p => mcpServers (h.files p)

/-- Trying the keys one after the other is one search over all their servers. -/
theorem findKeyholeEntry_obj (base : String) (data : Dict) :
    findKeyholeEntry base (some (.parsed (.obj data)))
      = .ok (firstEntry (isKeyholeEntry base) (entries data)) := by
  have hkey : ∀ key : String,
      (match Dict.get data key with
        | .obj servers => firstEntry (isKeyholeEntry base) servers
        | _ => none)
      = firstEntry (isKeyholeEntry base) (asDict (data.get key)) := by
    intro key
    cases data.get key <;> rfl
  show Except.ok _ = Except.ok _
  simp only [hkey]
  rw [firstEntry, entries, List.find?_flatMap, List.map_findSome?]
  rfl

theorem findKeyholeEntry_eq (base : String) (c : Option Contents) :
    findKeyholeEntry base c
      = match fileEntries c with
        | some l => .ok (firstEntry (isKeyholeEntry base) l)
        | none => .error "AttributeError" := by
  cases c with
  | none => rfl
  | some contents =>
    cases contents with
    | unparsable reason => rfl
    | parsed value =>
      cases value with
      | obj data => exact findKeyholeEntry_obj base data
      | null => rfl
      | bool b => rfl
      | int n => rfl
      | float text => rfl
      | str s => rfl
      | arr items => rfl

theorem checkMcpConfigFiles_snd (base : String) (h : Home) :
    (checkMcpConfigFiles base h).map Prod.snd
      = firstEntry (isKeyholeEntry base) (mcpEntries h) := by
  rw [checkMcpConfigFiles, List.map_findSome?, firstEntry, mcpEntries, List.find?_flatMap,
    List.map_findSome?]
  congr 1
  funext p
  show Option.map Prod.snd (Option.map _ (firstEntry _ _)) = _
  rw [Option.map_map]
  exact Option.map_id'

/-- **What VS Code's detector reports**: the first Keyhole entry of its settings file and the
    MCP files after it. -/
theorem detect_reports_iff {base : String} {h : Home} {p : String} {url : Json}
    (hfile : findSettingsFile h = some p) :
    Reports (detect base h) url
      ↔ ∃ l, fileEntries (h.files p) = some l
          ∧ FirstUrl (isKeyholeEntry base) (l ++ mcpEntries h) url := by
  rw [detect, hfile]
  simp only [findKeyholeEntry_eq]
  cases hl : fileEntries (h.files p) with
  | none =>
    constructor
    · rintro ⟨_, hok, -⟩
      exact nomatch hok
    · rintro ⟨_, hsome, -⟩
      exact nomatch hsome
  | some l =>
    have hlist : (∃ l', some l = some l' ∧
        FirstUrl (isKeyholeEntry base) (l' ++ mcpEntries h) url)
        ↔ FirstUrl (isKeyholeEntry base) (l ++ mcpEntries h) url :=
      ⟨fun ⟨_, heq, hfirst⟩ => Option.some.inj heq ▸ hfirst, fun hfirst => ⟨l, rfl, hfirst⟩⟩
    rw [hlist]
    have happend := firstEntry_append (isKeyholeEntry base) l (mcpEntries h)
    cases hentry : firstEntry (isKeyholeEntry base) l with
    | some entry =>
      rw [hentry, Option.some_or] at happend
      simp only [hentry]
      show Reports (.ok (withEntry _ entry)) url ↔ _
      exact reports_of_entry happend rfl rfl
    | none =>
      -- the settings file has no entry: the MCP files decide
      rw [hentry, Option.none_or, ← checkMcpConfigFiles_snd] at happend
      simp only [hentry]
      cases hmcp : checkMcpConfigFiles base h with
      | some found =>
        rw [hmcp] at happend
        show Reports (.ok (withEntry _ found.2)) url ↔ _
        exact reports_of_entry happend rfl rfl
      | none =>
        rw [hmcp] at happend
        show Reports (.ok _) url ↔ _
        exact reports_of_no_entry happend rfl

end VSCode

/-! ## JetBrains -/

/-- What the folders of the four IDEs start with. -/
def jetbrainsIdes : List String := ["IntelliJIdea", "PyCharm", "WebStorm", "GoLand"]

/-- `sorted(glob.glob("~/.config/JetBrains/<start>*/"), reverse=True)`, by the folders' names:
    a pattern that does not start with a dot matches no name that does. -/
def Home.glob (h : Home) (start : String) : List String :=
  (h.jetbrainsDirs.filter fun d => startsWith d start && !startsWith d ".").insertionSort
    fun a b => b ++ "/" ≤ a ++ "/"

/-- The first folder that one of the patterns matches. -/
def Home.firstFolder (h : Home) (starts : List String) : Option String :=
  starts.findSome? fun start => (h.glob start).head?

/-- `config_dir / "mcp.json"`. -/
def mcpFile (dir : String) : String := "~/.config/JetBrains/" ++ dir ++ "/mcp.json"

namespace JetBrains

/-- `_find_config_dir`, over `_JETBRAINS_CONFIG_DIRS`. -/
def findConfigDir (h : Home) : Option String := h.firstFolder (jetbrainsIdes ++ [""])

/-- The test of `_find_keyhole_entry`; a command does not count here. -/
def isKeyholeEntry (base : String) (kv : String × Json) : Bool :=
  namesKeyhole base (lower kv.1) ||
    match kv.2 with
    | .obj entry => namesKeyhole base (lower (pyStr (Dict.getOr entry "url" (.str ""))))
    | _ => false

/-- The servers of an `mcp.json`. -/
def servers : Option Contents → List (String × Json)
  | some (.parsed (.obj data)) =>
      asDict (Dict.getOr data "mcpServers" (Dict.getOr data "servers" (.obj data)))
  | _ => []

/-- `_find_keyhole_entry`, on a file that may be missing. -/
def findKeyholeEntry (base : String) (contents : Option Contents) : Option Dict :=
  firstEntry (isKeyholeEntry base) (servers contents)

/-- The record `detect` starts from. -/
def blank : InventoryRecord where
  hostId := "jetbrains"
  hostType := .ideMcpClient
  hostFamily := .jetbrains
  displayName := "JetBrains IDE"
  supportStatus := .partialSupport
  reconnectRequirement := .restartIde

/-- `JetBrainsHostDetector.detect`. -/
def detect (base : String) (h : Home) : Except Raised InventoryRecord :=
  match findConfigDir h with
  | none => .ok blank
  | some dir =>
      let record : InventoryRecord := { blank with
        detected := true
        configDetected := true
        configPath := h.expanduser ("~/.config/JetBrains/" ++ dir) }
      match findKeyholeEntry base (h.files (mcpFile dir)) with
      | some entry =>
          .ok { record with
            keyholeServerEntryDetected := true
            serverUrl := entry.getOr "url" (.str "") }
      | none => .ok record

/-- **What the JetBrains detector reports**: the first Keyhole entry of its `mcp.json`. -/
theorem detect_reports_iff {base : String} {h : Home} {dir : String} {url : Json}
    (hdir : findConfigDir h = some dir) :
    Reports (detect base h) url
      ↔ FirstUrl (isKeyholeEntry base) (servers (h.files (mcpFile dir))) url := by
  rw [detect, hdir]
  simp only
  cases hentry : findKeyholeEntry base (h.files (mcpFile dir)) with
  | some entry => exact reports_of_entry hentry rfl rfl
  | none => exact reports_of_no_entry hentry rfl

end JetBrains

end KeyholeHosts
