import Keyhole.HostInventory
import Keyhole.TokenRefresh

/-!
# Installing a host entry

An installer puts a Keyhole entry into the configuration file of an IDE, under the name it is
told, and leaves an entry that is already there unless it is forced.

* `Installer.install`: one installer, over the texts and keys the two of them differ in;
* `installVscode`, `installJetbrains`: the two installers;
* `Installer.install_success`: what a successful installation leaves in the home directory. -/

namespace KeyholeHosts

open KeyholeJson KeyholeDoctor
open KeyholeRefresh (rstripSlash)

/-! ## An installer -/

/-- `HostInstallResult`. -/
structure HostInstallResult where
  hostFamily : HostFamily
  success : Bool
  configPath : String := ""
  actionTaken : String := ""
  reconnectRequirement : ReconnectRequirement := .none
  previousEntryExisted : Bool := false
  previousUrl : Json := .str ""
  error : String := ""
  warnings : List String := []

/-- What may fail outside of the installer: the backup copy, and the write with its error. -/
structure Faults where
  backup : Bool := false
  write : Option String := none

/-- What the installers differ in.  `fileName` is the file in the text about its object,
    `noun` the file in the other two. -/
structure Installer where
  hostFamily : HostFamily
  reconnect : ReconnectRequirement
  missing : String
  noun : String
  fileName : String
  key : String
  keepsBackup : Bool
  entry : String → Json

/-- `path.write_text(json.dumps(data))`. -/
def Home.write (h : Home) (p : String) (data : Dict) : Home :=
  { h with files := fun q => if q = p then some (.parsed (.obj data)) else h.files q }

namespace Installer

/-- The object in the file, empty where there is no file, or the error of the result. -/
def load (i : Installer) : Option Contents → Except String Dict
  | none => .ok []
  | some (.parsed (.obj data)) => .ok data
  | some (.parsed _) => .error (i.fileName ++ " is not a JSON object.")
  | some (.unparsable reason) => .error ("Cannot parse " ++ i.noun ++ ": " ++ reason)

/-- `data.setdefault(key, {})`, which has to be an object. -/
def servers (i : Installer) (data : Dict) : Except String Dict :=
  match Dict.getOr data i.key (.obj []) with
  | .obj servers => .ok servers
  | _ => .error ("'" ++ i.key ++ "' exists but is not a JSON object.")

/-- The object with an entry put among its servers. -/
def put (i : Installer) (data servers : Dict) (name url : String) : Dict :=
  (data.setDefault i.key (.obj [])).set i.key (.obj (servers.set name (i.entry url)))

/-- The end of an installation, from the check for an existing entry on. -/
def place (i : Installer) (h : Home) (p : String) (faults : Faults) (url name : String)
    (force : Bool) (data servers : Dict) : HostInstallResult × Home :=
  let existing := servers.get name
  let result : HostInstallResult := {
    hostFamily := i.hostFamily
    success := false
    configPath := h.expanduser p
    reconnectRequirement := i.reconnect
    previousEntryExisted := !isNull existing
    previousUrl := entryUrl existing }
  if isNull existing = false ∧ force = false then
    ({ result with
        actionTaken := "skipped"
        success := true
        warnings := ["Existing '" ++ name ++ "' entry preserved. Use --force to overwrite."] }, h)
  else
    let result := { result with
      warnings := if i.keepsBackup && h.isFile p && faults.backup then
        ["Could not create backup of settings.json."] else [] }
    match faults.write with
    | some reason => ({ result with error := "Failed to write " ++ i.noun ++ ": " ++ reason }, h)
    | none =>
        ({ result with
            success := true
            actionTaken := if result.previousEntryExisted then "updated" else "created" },
          h.write p (i.put data servers name url))

/-- An installation, into the file that was chosen for it. -/
def install (i : Installer) (h : Home) (target : Option String) (faults : Faults)
    (url name : String) (force : Bool) : HostInstallResult × Home :=
  match target with
  | none => ({ hostFamily := i.hostFamily, success := false, error := i.missing }, h)
  | some p =>
      let failed (error : String) : HostInstallResult := {
        hostFamily := i.hostFamily
        success := false
        configPath := h.expanduser p
        reconnectRequirement := i.reconnect
        error := error }
      match i.load (h.files p) with
      | .error error => (failed error, h)
      | .ok data =>
          match i.servers data with
          | .error error => (failed error, h)
          | .ok servers => i.place h p faults url name force data servers

end Installer

/-! ## The two installers -/

/-- `_VSCODE_SETTINGS_CANDIDATES`. -/
def vscodeSettingsCandidates : List String := serverSettings :: desktopSettings :: laterSettings

/-- `Path.parent`. -/
def parent (p : String) : String :=
  String.ofList ((p.toList.reverse.dropWhile (· != '/')).drop 1).reverse

/-- `_find_vscode_settings`: the first file that exists, or the first with a folder for it. -/
def findVscodeSettings (h : Home) : Option String :=
  (vscodeSettingsCandidates.find? h.isFile).or
    (vscodeSettingsCandidates.find? fun p => h.folders (parent p))

/-- The reference to the token, which is not embedded. -/
def tokenEnv : Json := .obj [("KEYHOLE_MCP_TOKEN", .str "$\x7benv:KEYHOLE_MCP_TOKEN\x7d")]

/-- `mcp_url.rstrip("/") + "/mcp/v1"`. -/
def endpointUrl (url : String) : String := rstripSlash url ++ "/mcp/v1"

/-- `_build_keyhole_server_entry`. -/
def buildKeyholeServerEntry (url : String) : Json :=
  .obj [("type", .str "sse"), ("url", .str (endpointUrl url)), ("env", tokenEnv)]

/-- The installer for VS Code. -/
def vscodeInstaller : Installer where
  hostFamily := .vscode
  reconnect := .reloadWindow
  missing := "No VS Code settings directory found."
  noun := "settings"
  fileName := "settings.json"
  key := "mcp.servers"
  keepsBackup := true
  entry := buildKeyholeServerEntry

/-- `install_vscode`. -/
def installVscode (h : Home) (faults : Faults) (url name : String) (force : Bool) :
    HostInstallResult × Home :=
  vscodeInstaller.install h (findVscodeSettings h) faults url name force

/-- The search of `install_jetbrains` for a configuration folder, over its four patterns. -/
def installDir (h : Home) : Option String := h.firstFolder jetbrainsIdes

/-- The installer for JetBrains IDEs. -/
def jetbrainsInstaller : Installer where
  hostFamily := .jetbrains
  reconnect := .restartIde
  missing := "No JetBrains config directory found."
  noun := "mcp.json"
  fileName := "mcp.json"
  key := "mcpServers"
  keepsBackup := false
  entry := fun url => .obj [("url", .str (endpointUrl url)), ("env", tokenEnv)]

/-- `install_jetbrains`. -/
def installJetbrains (h : Home) (faults : Faults) (url name : String) (force : Bool) :
    HostInstallResult × Home :=
  jetbrainsInstaller.install h ((installDir h).map mcpFile) faults url name force

/-! ## What an installation leaves -/

/-- Only an object has entries. -/
theorem obj_of_asDict_ne_nil {v : Json} (hne : asDict v ≠ []) : v = .obj (asDict v) := by
  cases v with
  | obj fields => rfl
  | null => exact absurd rfl hne
  | bool b => exact absurd rfl hne
  | int n => exact absurd rfl hne
  | float text => exact absurd rfl hne
  | str s => exact absurd rfl hne
  | arr items => exact absurd rfl hne

/-- The servers listed before a name. -/
def ahead (name : String) (servers : Dict) : List (String × Json) :=
  servers.takeWhile fun kv => kv.1 != name

/-- The servers listed after a name. -/
def behind (name : String) (servers : Dict) : List (String × Json) :=
  (servers.dropWhile fun kv => kv.1 != name).tail

/-- Setting an entry leaves those before and after it. -/
theorem set_eq_split (servers : Dict) (name : String) (v : Json) :
    servers.set name v = ahead name servers ++ (name, v) :: behind name servers := by
  induction servers with
  | nil => rfl
  | cons hd rest ih =>
    obtain ⟨key, w⟩ := hd
    by_cases hkey : name = key
    · subst hkey
      simp [Dict.set, ahead, behind]
    · have hne : (key != name) = true := bne_iff_ne.mpr fun h => hkey h.symm
      show (if name = key then _ else (key, w) :: Dict.set rest name v) = _
      rw [if_neg hkey, ih]
      simp [ahead, behind, hne]

variable {i : Installer} {h : Home} {servers : Dict} {name p : String}

/-- An entry that can be read stands between those before and after it. -/
theorem eq_split_of_get (hentry : isNull (servers.get name) = false) :
    servers = ahead name servers ++ (name, servers.get name) :: behind name servers := by
  induction servers with
  | nil => exact nomatch hentry
  | cons hd rest ih =>
    obtain ⟨key, w⟩ := hd
    rw [get_cons] at hentry ⊢
    by_cases hkey : name = key
    · subst hkey
      simp [ahead, behind]
    · rw [if_neg hkey] at hentry ⊢
      have hne : (key != name) = true := bne_iff_ne.mpr fun h => hkey h.symm
      simp only [ahead, behind, List.takeWhile_cons, List.dropWhile_cons, hne, if_true]
      exact congrArg _ (ih hentry)

namespace Installer

/-- The servers in the file that an installation goes into. -/
def serversAt (i : Installer) (h : Home) (p : String) : Dict := asDict ((h.document p).get i.key)

/-- The entry that stands under the name in the end: the one that was there, or the one for
    the URL. -/
def placed (i : Installer) (servers : Dict) (name url : String) (force : Bool) : Json :=
  if isNull (servers.get name) = false ∧ force = false then servers.get name else i.entry url

/-- A home directory after an installation: the entry stands in the file where the name stood,
    or last, and nothing else has changed. -/
structure Leaves (i : Installer) (h h' : Home) (p name : String) (entry : Json) : Prop where
  others : ∀ q, q ≠ p → h'.files q = h.files q
  dirs : h'.jetbrainsDirs = h.jetbrainsDirs
  object : h'.files p = some (.parsed (.obj (h'.document p)))
  servers : (h'.document p).get i.key
    = .obj (ahead name (i.serversAt h p) ++ (name, entry) :: behind name (i.serversAt h p))
  keys : ∀ k, k ≠ i.key → (h'.document p).get k = (h.document p).get k

theorem load_ok {data : Dict} (hload : i.load (h.files p) = .ok data) : data = h.document p := by
  unfold load at hload
  unfold Home.document
  split at hload
  · next hfile =>
      rw [hfile]
      exact (Except.ok.inj hload).symm
  · next fields hfile =>
      rw [hfile]
      exact (Except.ok.inj hload).symm
  · exact nomatch hload
  · exact nomatch hload

/-- The servers are those under the key, none where the key is missing. -/
theorem servers_ok {data : Dict} (hservers : i.servers data = .ok servers) :
    servers = asDict (data.get i.key) := by
  unfold Installer.servers at hservers
  cases hhas : Dict.has data i.key with
  | true =>
    rw [getOr_of_has hhas] at hservers
    split at hservers
    · next fields hvalue =>
        rw [hvalue]
        exact (Except.ok.inj hservers).symm
    · exact nomatch hservers
  | false =>
    rw [getOr_of_not_has hhas] at hservers
    rw [get_of_not_has hhas]
    exact (Except.ok.inj hservers).symm

/-- An object with a value under some key is what the file holds. -/
theorem files_of_document {k : String} (hget : (h.document p).get k = .obj servers) :
    h.files p = some (.parsed (.obj (h.document p))) := by
  unfold Home.document at hget ⊢
  split at hget
  · next data hfile => rw [hfile]
  · exact nomatch hget

/-- Keeping the entry that is there leaves the directory as it is. -/
theorem leaves_of_kept (hentry : isNull ((i.serversAt h p).get name) = false) :
    i.Leaves h h p name ((i.serversAt h p).get name) := by
  have hsplit := eq_split_of_get hentry
  have hget : (h.document p).get i.key = .obj (i.serversAt h p) := by
    refine obj_of_asDict_ne_nil fun hnil => ?_
    rw [serversAt, hnil] at hentry
    exact nomatch hentry
  exact {
    others := fun _ _ => rfl
    dirs := rfl
    object := files_of_document hget
    servers := by rw [← hsplit]; exact hget
    keys := fun _ _ => rfl }

/-- Writing the file puts the entry in its place. -/
theorem leaves_of_written (i : Installer) (h : Home) (p name url : String) :
    i.Leaves h (h.write p (i.put (h.document p) (i.serversAt h p) name url)) p name
      (i.entry url) := by
  have hfile : (h.write p (i.put (h.document p) (i.serversAt h p) name url)).files p
      = some (.parsed (.obj (i.put (h.document p) (i.serversAt h p) name url))) := if_pos rfl
  have hdoc : (h.write p (i.put (h.document p) (i.serversAt h p) name url)).document p
      = i.put (h.document p) (i.serversAt h p) name url := by
    rw [Home.document, hfile]
  exact {
    others := fun q hq => if_neg hq
    dirs := rfl
    object := by rw [hdoc, hfile]
    servers := by rw [hdoc, put, get_set, if_pos rfl, set_eq_split]
    keys := fun k hk => by rw [hdoc, put, get_set, if_neg hk, get_setDefault _ _ _ _ hk] }

/-- **What a successful installation leaves** is the directory with the entry in place. -/
theorem install_success {target : Option String} {faults : Faults} {url : String} {force : Bool}
    (hok : (i.install h target faults url name force).1.success = true) :
    ∃ p, target = some p
      ∧ i.Leaves h (i.install h target faults url name force).2 p name
          (i.placed (i.serversAt h p) name url force) := by
  cases target with
  | none => exact nomatch hok
  | some p =>
    refine ⟨p, rfl, ?_⟩
    simp only [install] at hok ⊢
    cases hload : i.load (h.files p) with
    | error error => rw [hload] at hok; exact nomatch hok
    | ok data =>
      cases hservers : i.servers data with
      | error error => simp only [hload, hservers] at hok; exact nomatch hok
      | ok servers =>
        simp only [hload, hservers] at hok ⊢
        have hdata := load_ok hload
        have hlist : servers = i.serversAt h p := by rw [servers_ok hservers, hdata]; rfl
        rw [hdata, hlist] at hok ⊢
        unfold place placed at *
        by_cases hkept : isNull ((i.serversAt h p).get name) = false ∧ force = false
        · rw [if_pos hkept, if_pos hkept]
          exact leaves_of_kept hkept.1
        · simp only [if_neg hkept] at hok ⊢
          cases hwrite : faults.write with
          | some reason => rw [hwrite] at hok; exact nomatch hok
          | none => exact leaves_of_written i h p name url

end Installer

end KeyholeHosts
