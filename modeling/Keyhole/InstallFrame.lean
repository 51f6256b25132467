import Keyhole.InstallDetection
import Mathlib.Data.List.Find

/-!
# The frame of an installation

An installation rewrites a settings file in place.  What else it may change, or raise, depends on
the bytes of the file, on what JSON can encode, and on how far the write gets.

* `Installer.onFile`: an installation on the bytes of a file;
* `FileInstaller.run`: on a disk, with the file chosen for it and its backup copy;
* `FrameKept`: nothing but the entry changes, and nothing is raised;
* `frameKept_iff`: when that is so. -/

namespace KeyholeHosts

open KeyholeJson KeyholeDoctor

/-! ## Bytes -/

/-- The content of a file. -/
abbrev Bytes := List UInt8

/-- What reading a text as UTF-8 and `json.loads` make of bytes.  `UnicodeDecodeError`, the
    `ValueError` about too many digits and `RecursionError` are raised. -/
inductive Loaded where
  | document (v : Json)
  | malformed (reason : String)
  | raised (exception : String)

/-- What `json.dumps` and writing as UTF-8 make of an object.  A document that is `tooDeep` raises
    before the file is opened; one with a surrogate that has no partner is `unencodable`, which
    raises after that.  For such a string stands some text that keeps it apart from others. -/
inductive Dumped where
  | text (bytes : Bytes)
  | tooDeep
  | unencodable

/-- `json`, with the codec. -/
structure JsonFiles where
  loads : Bytes → Loaded
  dumps : Dict → Dumped

/-- What is written is read back. -/
def JsonFiles.ReadsBack (lib : JsonFiles) : Prop :=
  ∀ data bytes, lib.dumps data = .text bytes → lib.loads bytes = .document (.obj data)

/-- How a write ends: done, refused when the file is opened, or broken off, with what is left. -/
inductive WriteFault where
  | none
  | refused (reason : String)
  | broken (reason : String) (left : Bytes)

/-- What may fail outside of the installer. -/
structure FileFaults where
  read : Option String := none
  backup : Bool := false
  write : WriteFault := .none

/-- The faults, where it does not count how far a write got. -/
def FileFaults.coarse (faults : FileFaults) : Faults where
  backup := faults.backup
  write :=
    match faults.write with
    | .none => none
    | .refused reason => some reason
    | .broken reason _ => some reason

/-- The end of an installation on a file: what is returned or raised, the content, and whether
    there is a backup copy of what it was. -/
structure Touched where
  answer : Except String HostInstallResult
  content : Option Bytes
  copied : Bool := false

namespace Installer

/-- Reading the file; what is not caught is raised. -/
def readFile (lib : JsonFiles) (faults : FileFaults) :
    Option Bytes → Except String (Option Contents)
  | none => .ok none
  | some bytes =>
      match faults.read with
      | some reason => .ok (some (.unparsable reason))
      | none =>
          match lib.loads bytes with
          | .document v => .ok (some (.parsed v))
          | .malformed reason => .ok (some (.unparsable reason))
          | .raised exception => .error exception

/-- A result, before the outcome is known. -/
def pending (i : Installer) (configPath : String) : HostInstallResult where
  hostFamily := i.hostFamily
  success := false
  configPath := configPath
  reconnectRequirement := i.reconnect

/-- `settings_path.write_text(json.dumps(data, …) + "\n", encoding="utf-8")`. -/
def writeFile (lib : JsonFiles) (i : Installer) (faults : FileFaults) (result : HostInstallResult)
    (data : Dict) (content : Option Bytes) : Except String HostInstallResult × Option Bytes :=
  let failed (reason : String) : HostInstallResult :=
    { result with error := "Failed to write " ++ i.noun ++ ": " ++ reason }
  match lib.dumps data, faults.write with
  | .tooDeep, _ => (.error "RecursionError", content)
  | _, .refused reason => (.ok (failed reason), content)
  | .unencodable, _ => (.error "UnicodeEncodeError", some [])
  | .text _, .broken reason left => (.ok (failed reason), some left)
  | .text bytes, .none =>
      (.ok { result with
        success := true
        actionTaken := if result.previousEntryExisted then "updated" else "created" }, some bytes)

/-- The end of an installation, from the check for an existing entry on. -/
def placeFile (lib : JsonFiles) (i : Installer) (faults : FileFaults)
    (configPath url name : String) (force : Bool) (data servers : Dict)
    (content : Option Bytes) : Touched :=
  let existing := servers.get name
  let result := { i.pending configPath with
    previousEntryExisted := !isNull existing
    previousUrl := entryUrl existing }
  if isNull existing = false ∧ force = false then
    { answer := .ok { result with
        actionTaken := "skipped"
        success := true
        warnings := ["Existing '" ++ name ++ "' entry preserved. Use --force to overwrite."] }
      content := content }
  else
    let copies := i.keepsBackup && content.isSome
    let written := i.writeFile lib faults { result with
      warnings := if copies && faults.backup then
        ["Could not create backup of settings.json."] else [] }
      (i.put data servers name url) content
    { answer := written.1, content := written.2, copied := copies && !faults.backup }

/-- An installation on the content of a file. -/
def onFile (lib : JsonFiles) (i : Installer) (faults : FileFaults) (configPath url name : String)
    (force : Bool) (content : Option Bytes) : Touched :=
  let failed (error : String) : Touched :=
    { answer := .ok { i.pending configPath with error := error }, content := content }
  match readFile lib faults content with
  | .error exception => { answer := .error exception, content := content }
  | .ok contents =>
      match i.load contents with
      | .error error => failed error
      | .ok data =>
          match i.servers data with
          | .error error => failed error
          | .ok servers => i.placeFile lib faults configPath url name force data servers content

end Installer

/-! ## The disk -/

/-- A home directory, with the bytes of its files. -/
structure Disk where
  root : String
  files : String → Option Bytes
  folders : String → Bool
  jetbrainsDirs : List String

/-- The home directory with what reading makes of its files. -/
def Disk.home (lib : JsonFiles) (d : Disk) : Home where
  root := d.root
  files := fun p => (d.files p).map fun bytes =>
    match lib.loads bytes with
    | .document v => .parsed v
    | .malformed reason => .unparsable reason
    | .raised exception => .unparsable exception
  folders := d.folders
  jetbrainsDirs := d.jetbrainsDirs

/-- `settings_path.with_suffix(".json.keyhole-backup")`, of a path that ends in `.json`. -/
def backupPath (p : String) : String := p ++ ".keyhole-backup"

/-- The disk after an installation into the file `p`. -/
def Disk.touch (d : Disk) (p : String) (out : Touched) : Disk :=
  { d with files := fun q =>
      if q = p then out.content
      else if q = backupPath p ∧ out.copied = true then d.files p
      else d.files q }

/-- The two differ in nothing but the file `p` and its backup copy, and `p` has not gone. -/
structure SameButFile (h h' : Home) (p : String) : Prop where
  folders : h'.folders = h.folders
  dirs : h'.jetbrainsDirs = h.jetbrainsDirs
  others : ∀ q, q ≠ p → q ≠ backupPath p → h'.isFile q = h.isFile q
  stays : h.isFile p = true → h'.isFile p = true

/-- An installer with its choice of a file, which it makes again after an installation. -/
structure FileInstaller extends Installer where
  target : Home → Option String
  entry_some : ∀ url, isNull (entry url) = false
  target_again : ∀ h h' p, target h = some p → SameButFile h h' p → target h' = some p

/-- The installer, on a disk. -/
def FileInstaller.run (lib : JsonFiles) (i : FileInstaller) (d : Disk) (faults : FileFaults)
    (url name : String) (force : Bool) : Except String HostInstallResult × Disk :=
  match i.target (d.home lib) with
  | none => (.ok { hostFamily := i.hostFamily, success := false, error := i.missing }, d)
  | some p =>
      let out := i.onFile lib faults ((d.home lib).expanduser p) url name force (d.files p)
      (out.answer, d.touch p out)

/-! ## The two installers -/

/-- No settings file is a backup copy. -/
theorem backupPath_not_candidate (p : String) : backupPath p ∉ vscodeSettingsCandidates := by
  intro hmem
  have hends : ∀ q ∈ vscodeSettingsCandidates, q.toList.getLast? = some 'n' := by decide +kernel
  have hlast := hends _ hmem
  have hbackup : ".keyhole-backup".toList.getLast? = some 'p' := rfl
  rw [backupPath, String.toList_append, List.getLast?_append, hbackup] at hlast
  exact absurd (Option.some.inj hlast) (by decide)

/-- After an installation the same settings file is found. -/
theorem findVscodeSettings_again {h h' : Home} {p : String}
    (htarget : findVscodeSettings h = some p) (hsame : SameButFile h h' p) :
    findVscodeSettings h' = some p := by
  have hothers : ∀ q ∈ vscodeSettingsCandidates, q ≠ p → h'.isFile q = h.isFile q := by
    intro q hq hne
    refine hsame.others q hne ?_
    rintro rfl
    exact backupPath_not_candidate p hq
  cases hp' : h'.isFile p with
  | false =>
    -- there was no file and there is none
    have hp : h.isFile p = false := by
      cases hp : h.isFile p with
      | false => rfl
      | true => exact nomatch hp'.symm.trans (hsame.stays hp)
    have hfiles : vscodeSettingsCandidates.find? h'.isFile =
        vscodeSettingsCandidates.find? h.isFile := by
      refine List.find?_congr fun q hq => ?_
      by_cases hqp : q = p
      · rw [hqp, hp, hp']
      · exact hothers q hq hqp
    rw [findVscodeSettings, hfiles, hsame.folders]
    exact htarget
  | true =>
    rw [findVscodeSettings]
    cases hfile : vscodeSettingsCandidates.find? h.isFile with
    | some q =>
      have hq : q = p := by
        rw [findVscodeSettings, hfile, Option.some_or] at htarget
        exact Option.some.inj htarget
      subst hq
      have hfiles : vscodeSettingsCandidates.find? h'.isFile =
          vscodeSettingsCandidates.find? h.isFile := by
        refine List.find?_congr fun x hx => ?_
        by_cases hxq : x = q
        · rw [hxq, hp', List.find?_some hfile]
        · exact hothers x hx hxq
      rw [hfiles, hfile, Option.some_or]
    | none =>
      have hfound : vscodeSettingsCandidates.find? h'.isFile = some p := by
        refine find_unique (mem_candidates htarget) hp' ?_
        intro q hq hexists
        by_contra hne
        rw [hothers q hq hne] at hexists
        exact absurd hexists (List.find?_eq_none.mp hfile q hq)
      rw [hfound, Option.some_or]

/-- `install_vscode`, on a disk. -/
def vscodeFiles : FileInstaller where
  toInstaller := vscodeInstaller
  target := findVscodeSettings
  entry_some := fun _ => rfl
  target_again := fun _ _ _ htarget hsame => findVscodeSettings_again htarget hsame

/-- `install_jetbrains`, on a disk. -/
def jetbrainsFiles : FileInstaller where
  toInstaller := jetbrainsInstaller
  target := fun h => (installDir h).map mcpFile
  entry_some := fun _ => rfl
  target_again := by
    intro h h' p htarget hsame
    have hglob : h'.glob = h.glob := by
      funext start
      rw [Home.glob, Home.glob, hsame.dirs]
    rw [installDir, Home.firstFolder, hglob]
    exact htarget

/-! ## The frame -/

/-- The object in a file, empty where there is no file. -/
def JsonFiles.document (lib : JsonFiles) : Option Bytes → Option Dict
  | none => some []
  | some bytes =>
      match lib.loads bytes with
      | .document (.obj data) => some data
      | _ => none

/-- The servers in a file. -/
def Installer.entries (lib : JsonFiles) (i : Installer) (content : Option Bytes) : Dict :=
  asDict (((lib.document content).getD []).get i.key)

/-- A document with the entry in its server table, and everything else in its place. -/
def Installer.withEntry (i : Installer) (old : Dict) (name : String) (entry : Json) : Dict :=
  let servers := asDict (old.get i.key)
  ahead i.key old ++
    (i.key, .obj (ahead name servers ++ (name, entry) :: behind name servers)) ::
      behind i.key old

/-- An installation on a file returns and changes nothing but the entry; what fails, is skipped or
    is done again changes nothing. -/
structure Installer.ContentKept (lib : JsonFiles) (i : Installer) (faults : FileFaults)
    (configPath url name : String) (force : Bool) (content : Option Bytes) (out : Touched) :
    Prop where
  returns : ∃ r, out.answer = .ok r
  installed : ∀ r, out.answer = .ok r → r.actionTaken = "created" ∨ r.actionTaken = "updated" →
    ∃ old, lib.document content = some old ∧
      lib.document out.content = some (i.withEntry old name (i.entry url))
  preserved : force = false → ∀ v, (i.entries lib content).lookup name = some v →
    (i.entries lib out.content).lookup name = some v
  refused : ∀ r, out.answer = .ok r → r.success = false → out.content = content
  repeats : (i.onFile lib faults configPath url name force out.content).content = out.content

/-- An installation returns, and changes nothing but the entry and the backup copy. -/
structure FrameKept (lib : JsonFiles) (i : FileInstaller) (d : Disk) (faults : FileFaults)
    (url name : String) (force : Bool) : Prop where
  returns : ∃ r, (i.run lib d faults url name force).1 = .ok r
  others : ∀ q, (∀ p, i.target (d.home lib) = some p → q ≠ p ∧ q ≠ backupPath p) →
    (i.run lib d faults url name force).2.files q = d.files q
  installed : ∀ p r, i.target (d.home lib) = some p →
    (i.run lib d faults url name force).1 = .ok r →
    r.actionTaken = "created" ∨ r.actionTaken = "updated" →
    ∃ old, lib.document (d.files p) = some old ∧
      lib.document ((i.run lib d faults url name force).2.files p) =
        some (i.withEntry old name (i.entry url))
  preserved : force = false → ∀ p v, i.target (d.home lib) = some p →
    (i.entries lib (d.files p)).lookup name = some v →
    (i.entries lib ((i.run lib d faults url name force).2.files p)).lookup name = some v
  refused : ∀ p r, i.target (d.home lib) = some p →
    (i.run lib d faults url name force).1 = .ok r → r.success = false →
    (i.run lib d faults url name force).2.files p = d.files p
  repeats : ∀ p, i.target (d.home lib) = some p →
    (i.run lib (i.run lib d faults url name force).2 faults url name force).2.files p =
      (i.run lib d faults url name force).2.files p

/-- The installation gets as far as writing the servers with the entry. -/
def Installer.Writes (lib : JsonFiles) (i : Installer) (faults : FileFaults) (name : String)
    (force : Bool) (content : Option Bytes) (data servers : Dict) : Prop :=
  ∃ contents, Installer.readFile lib faults content = .ok contents ∧ i.load contents = .ok data ∧
    i.servers data = .ok servers ∧ ¬ (isNull (servers.get name) = false ∧ force = false)

/-- Reading raises nothing that is not caught.  Where the file is written, the document can be
    encoded, the write is not broken off, and without force no entry that is null is replaced. -/
structure Installer.FileClear (lib : JsonFiles) (i : Installer) (faults : FileFaults)
    (url name : String) (force : Bool) (content : Option Bytes) : Prop where
  read : ∀ bytes exception, content = some bytes → faults.read = none →
    lib.loads bytes ≠ .raised exception
  shallow : ∀ data servers, i.Writes lib faults name force content data servers →
    lib.dumps (i.put data servers name url) ≠ .tooDeep
  opened : ∀ data servers, i.Writes lib faults name force content data servers →
    (∀ reason, faults.write ≠ .refused reason) →
    lib.dumps (i.put data servers name url) ≠ .unencodable ∧
      (∀ reason left, faults.write = .broken reason left → content = some left) ∧
      (faults.write = .none → force = false → servers.lookup name ≠ some .null)

/-! ## What is written -/

theorem get_eq_lookup (d : Dict) (k : String) : d.get k = (d.lookup k).getD .null := by
  induction d with
  | nil => rfl
  | cons entry rest ih =>
    obtain ⟨k', v⟩ := entry
    rw [get_cons, List.lookup_cons, ih]
    by_cases h : k = k'
    · rw [if_pos h, beq_iff_eq.mpr h]
      rfl
    · rw [if_neg h, beq_eq_false_iff_ne.mpr h]

/-- A default does not move what is set after it. -/
theorem set_setDefault (d : Dict) (k : String) (w v : Json) :
    (d.setDefault k w).set k v = d.set k v := by
  have happend : d.any (fun kv => kv.1 == k) = false → (d ++ [(k, w)]).set k v = d.set k v := by
    induction d with
    | nil =>
      intro _
      simp [Dict.set]
    | cons entry rest ih =>
      intro h
      obtain ⟨k', v'⟩ := entry
      rw [List.any_cons, Bool.or_eq_false_iff] at h
      have hne : ¬ k = k' := fun he => beq_eq_false_iff_ne.mp h.1 he.symm
      rw [List.cons_append, Dict.set, Dict.set, if_neg hne, if_neg hne, ih h.2]
  rw [Dict.setDefault]
  by_cases h : d.any (fun kv => kv.1 == k) = true
  · rw [if_pos h]
  · rw [if_neg h, happend (Bool.eq_false_iff.mpr h)]

namespace Installer

variable {lib : JsonFiles} {i : Installer} {faults : FileFaults} {configPath url name : String}
  {force : Bool} {content : Option Bytes} {data servers : Dict}

theorem put_eq_set (i : Installer) (data servers : Dict) (name url : String) :
    i.put data servers name url = data.set i.key (.obj (servers.set name (i.entry url))) :=
  set_setDefault _ _ _ _

/-- What is written is the document with the entry. -/
theorem put_eq_withEntry (h : i.servers data = .ok servers) :
    i.put data servers name url = i.withEntry data name (i.entry url) := by
  rw [put_eq_set, set_eq_split, withEntry, servers_ok h, set_eq_split]

theorem servers_put : i.servers (i.put data servers name url) =
    .ok (servers.set name (i.entry url)) := by
  have hhas : Dict.has (i.put data servers name url) i.key = true := by
    rw [put_eq_set, has_set, beq_self_eq_true, Bool.true_or]
  rw [Installer.servers, getOr_of_has hhas, put_eq_set, get_set, if_pos rfl]

/-- Putting the entry again changes nothing. -/
theorem put_put : i.put (i.put data servers name url) (servers.set name (i.entry url)) name url =
    i.put data servers name url := by
  have hset : ∀ (d : Dict) k v w, (d.set k v).set k w = d.set k w := by
    intro d k v w
    induction d with
    | nil => simp [Dict.set]
    | cons entry rest ih =>
      obtain ⟨k', v'⟩ := entry
      by_cases h : k = k'
      · simp [Dict.set, h]
      · simp [Dict.set, h, ih]
  rw [put_eq_set, put_eq_set, hset, hset]

/-- An object is read only from a file that has no other content. -/
theorem document_of_load {contents : Option Contents}
    (hread : readFile lib faults content = .ok contents) (hload : i.load contents = .ok data) :
    lib.document content = some data := by
  cases content with
  | none =>
    obtain rfl := Except.ok.inj hread
    rw [← Except.ok.inj hload]
    rfl
  | some bytes =>
    rw [readFile] at hread
    rw [JsonFiles.document]
    cases hfault : faults.read with
    | some reason =>
      rw [hfault] at hread
      obtain rfl := Except.ok.inj hread
      exact nomatch hload
    | none =>
      rw [hfault] at hread
      cases hloads : lib.loads bytes with
      | raised exception =>
        rw [hloads] at hread
        exact nomatch hread
      | malformed reason =>
        rw [hloads] at hread
        obtain rfl := Except.ok.inj hread
        exact nomatch hload
      | document v =>
        rw [hloads] at hread
        obtain rfl := Except.ok.inj hread
        cases v with
        | obj fields => rw [Except.ok.inj hload]
        | _ => exact nomatch hload

theorem Writes.unique {data' servers' : Dict}
    (h : i.Writes lib faults name force content data servers)
    (h' : i.Writes lib faults name force content data' servers') :
    data = data' ∧ servers = servers' := by
  obtain ⟨contents, hread, hload, hservers, -⟩ := h
  obtain ⟨contents', hread', hload', hservers', -⟩ := h'
  obtain rfl := Except.ok.inj (hread.symm.trans hread')
  obtain rfl := Except.ok.inj (hload.symm.trans hload')
  exact ⟨rfl, Except.ok.inj (hservers.symm.trans hservers')⟩

/-- Nothing is raised on reading. -/
theorem read_clear_iff : (∃ contents, readFile lib faults content = .ok contents) ↔
    ∀ bytes exception, content = some bytes → faults.read = none →
      lib.loads bytes ≠ .raised exception := by
  constructor
  · rintro ⟨contents, hread⟩ bytes exception rfl hfault hloads
    rw [readFile, hfault, hloads] at hread
    exact nomatch hread
  · intro h
    cases content with
    | none => exact ⟨none, rfl⟩
    | some bytes =>
      rw [readFile]
      cases hfault : faults.read with
      | some reason => exact ⟨_, rfl⟩
      | none =>
        cases hloads : lib.loads bytes with
        | document v => exact ⟨_, rfl⟩
        | malformed reason => exact ⟨_, rfl⟩
        | raised exception => exact absurd hloads (h bytes exception rfl hfault)

/-- An installation raises on reading, returns with the file as it was, or writes it. -/
theorem onFile_cases (lib : JsonFiles) (i : Installer) (faults : FileFaults)
    (configPath url name : String) (force : Bool) (content : Option Bytes) :
    let out := i.onFile lib faults configPath url name force content
    (∃ exception, readFile lib faults content = .error exception ∧
      out.answer = .error exception ∧ out.content = content) ∨
    ((∃ contents, readFile lib faults content = .ok contents) ∧
      (∃ r, out.answer = .ok r ∧ r.actionTaken ≠ "created" ∧ r.actionTaken ≠ "updated") ∧
      out.content = content ∧
      ∀ data servers, ¬ i.Writes lib faults name force content data servers) ∨
    (∃ data servers result, i.Writes lib faults name force content data servers ∧
      result.success = false ∧ result.actionTaken = "" ∧
      out.answer = (writeFile lib i faults result (i.put data servers name url) content).1 ∧
      out.content = (writeFile lib i faults result (i.put data servers name url) content).2) := by
  intro out
  cases hread : readFile lib faults content with
  | error exception =>
    have hout : out = { answer := .error exception, content := content } := by
      show i.onFile lib faults configPath url name force content = _
      rw [onFile, hread]
    rw [hout]
    exact .inl ⟨exception, rfl, rfl, rfl⟩
  | ok contents =>
    refine .inr ?_
    have hunread : ∀ {error : String}, i.load contents = .error error →
        ∀ data servers, ¬ i.Writes lib faults name force content data servers := by
      rintro error hload data servers ⟨contents', hread', hload', -⟩
      obtain rfl := Except.ok.inj (hread.symm.trans hread')
      exact nomatch hload.symm.trans hload'
    cases hload : i.load contents with
    | error error =>
      refine .inl ⟨⟨contents, rfl⟩,
        ⟨{ i.pending configPath with error := error }, ?_, ?_, ?_⟩, ?_, hunread hload⟩
      · show (i.onFile lib faults configPath url name force content).answer = _
        simp only [onFile, hread, hload]
      · simp [pending]
      · simp [pending]
      · show (i.onFile lib faults configPath url name force content).content = _
        simp only [onFile, hread, hload]
    | ok data =>
      have hwrites : ∀ {data' servers'}, i.Writes lib faults name force content data' servers' →
          i.servers data = .ok servers' ∧
            ¬ (isNull (servers'.get name) = false ∧ force = false) := by
        rintro data' servers' ⟨contents', hread', hload', hservers', hon⟩
        obtain rfl := Except.ok.inj (hread.symm.trans hread')
        obtain rfl := Except.ok.inj (hload.symm.trans hload')
        exact ⟨hservers', hon⟩
      cases hservers : i.servers data with
      | error error =>
        refine .inl ⟨⟨contents, rfl⟩,
          ⟨{ i.pending configPath with error := error }, ?_, ?_, ?_⟩, ?_, ?_⟩
        · show (i.onFile lib faults configPath url name force content).answer = _
          simp only [onFile, hread, hload, hservers]
        · simp [pending]
        · simp [pending]
        · show (i.onFile lib faults configPath url name force content).content = _
          simp only [onFile, hread, hload, hservers]
        · intro data' servers' h
          exact nomatch hservers.symm.trans (hwrites h).1
      | ok servers =>
        have hout : out = i.placeFile lib faults configPath url name force data servers content := by
          show i.onFile lib faults configPath url name force content = _
          simp only [onFile, hread, hload, hservers]
        rw [hout, placeFile]
        by_cases hkept : isNull (servers.get name) = false ∧ force = false
        · rw [if_pos hkept]
          refine .inl ⟨⟨contents, rfl⟩, ⟨_, rfl, ?_, ?_⟩, rfl, ?_⟩
          · simp
          · simp
          · intro data' servers' h
            obtain ⟨hservers', hon⟩ := hwrites h
            obtain rfl := Except.ok.inj (hservers.symm.trans hservers')
            exact hon hkept
        · rw [if_neg hkept]
          exact .inr ⟨data, servers, _, ⟨contents, hread, hload, hservers, hkept⟩, rfl, rfl, rfl,
            rfl⟩

/-! ## One file -/

/-- The installation leaves the file as it was, and returns that it did. -/
theorem contentKept_of_same
    (hreturns : ∃ r, (i.onFile lib faults configPath url name force content).answer = .ok r ∧
      r.actionTaken ≠ "created" ∧ r.actionTaken ≠ "updated")
    (hsame : (i.onFile lib faults configPath url name force content).content = content) :
    i.ContentKept lib faults configPath url name force content
      (i.onFile lib faults configPath url name force content) := by
  obtain ⟨r, hr, hcreated, hupdated⟩ := hreturns
  constructor
  · exact ⟨r, hr⟩
  · intro r' hr' haction
    obtain rfl := Except.ok.inj (hr.symm.trans hr')
    rcases haction with h | h
    · exact absurd h hcreated
    · exact absurd h hupdated
  · intro _ v hv
    rw [hsame]
    exact hv
  · intro _ _ _
    exact hsame
  · rw [hsame, hsame]

/-- Done again on what it wrote, the installation writes the same or nothing. -/
theorem onFile_again {bytes : Bytes}
    (hdumps : lib.dumps (i.put data servers name url) = .text bytes)
    (hloads : lib.loads bytes = .document (.obj (i.put data servers name url)))
    (hwrite : faults.write = .none) :
    (i.onFile lib faults configPath url name force (some bytes)).content = some bytes := by
  rcases onFile_cases lib i faults configPath url name force (some bytes) with
    ⟨exception, hread, -⟩ | ⟨-, -, hsame, -⟩ |
    ⟨data', servers', result, hwrites, -, -, -, hcontent⟩
  · rw [readFile] at hread
    cases hfault : faults.read with
    | some reason =>
      rw [hfault] at hread
      exact nomatch hread
    | none =>
      rw [hfault, hloads] at hread
      exact nomatch hread
  · exact hsame
  · obtain ⟨contents, hread, hload, hservers', -⟩ := hwrites
    have hdocument := document_of_load hread hload
    rw [JsonFiles.document, hloads] at hdocument
    obtain rfl := Option.some.inj hdocument
    obtain rfl := Except.ok.inj (servers_put.symm.trans hservers')
    rw [hcontent, put_put, writeFile, hdumps, hwrite]

/-- An entry that is written over is none, or null, or forced. -/
theorem lookup_of_on (hon : ¬ (isNull (servers.get name) = false ∧ force = false))
    (hforce : force = false) {v : Json} (hv : servers.lookup name = some v) : v = .null := by
  have hget : servers.get name = v := by rw [get_eq_lookup, hv, Option.getD_some]
  rw [hget] at hon
  cases v with
  | null => rfl
  | _ => exact absurd ⟨rfl, hforce⟩ hon

/-- A file that is written is clear as far as that write is. -/
theorem fileClear_iff (hwrites : i.Writes lib faults name force content data servers) :
    i.FileClear lib faults url name force content ↔
      lib.dumps (i.put data servers name url) ≠ .tooDeep ∧
        ((∀ reason, faults.write ≠ .refused reason) →
          lib.dumps (i.put data servers name url) ≠ .unencodable ∧
            (∀ reason left, faults.write = .broken reason left → content = some left) ∧
            (faults.write = .none → force = false → servers.lookup name ≠ some .null)) := by
  constructor
  · intro h
    exact ⟨h.shallow data servers hwrites, h.opened data servers hwrites⟩
  · rintro ⟨hshallow, hopened⟩
    obtain ⟨contents, hread, -⟩ := id hwrites
    refine ⟨read_clear_iff.mp ⟨contents, hread⟩, ?_, ?_⟩
    · intro data' servers' h
      obtain ⟨rfl, rfl⟩ := hwrites.unique h
      exact hshallow
    · intro data' servers' h
      obtain ⟨rfl, rfl⟩ := hwrites.unique h
      exact hopened

/-- The servers in a file after the entry was written. -/
theorem entries_written {bytes : Bytes}
    (hloads : lib.loads bytes = .document (.obj (i.put data servers name url))) :
    i.entries lib (some bytes) = servers.set name (i.entry url) := by
  rw [entries, JsonFiles.document, hloads, put_eq_set]
  simp only [Option.getD_some]
  rw [get_set, if_pos rfl]
  rfl

/-- A write that is done keeps the frame exactly if no entry that is null goes. -/
theorem contentKept_of_written (hback : lib.ReadsBack) (hentry : isNull (i.entry url) = false)
    (hwrites : i.Writes lib faults name force content data servers) {result : HostInstallResult}
    {bytes : Bytes} (hdumps : lib.dumps (i.put data servers name url) = .text bytes)
    (hwrite : faults.write = .none)
    (hanswer : (i.onFile lib faults configPath url name force content).answer =
      .ok { result with
        success := true
        actionTaken := if result.previousEntryExisted then "updated" else "created" })
    (hcontent : (i.onFile lib faults configPath url name force content).content = some bytes) :
    i.ContentKept lib faults configPath url name force content
        (i.onFile lib faults configPath url name force content) ↔
      (force = false → servers.lookup name ≠ some .null) := by
  obtain ⟨contents, hread, hload, hservers, hon⟩ := id hwrites
  have hdocument := document_of_load hread hload
  have hloads := hback _ _ hdumps
  have hbefore : i.entries lib content = servers := by
    rw [entries, hdocument, Option.getD_some, servers_ok hservers]
  constructor
  · intro h hforce hnull
    have hafter := h.preserved hforce .null (hbefore ▸ hnull)
    rw [hcontent, entries_written hloads] at hafter
    have hget : (servers.set name (i.entry url)).get name = .null := by
      rw [get_eq_lookup, hafter, Option.getD_some]
    rw [get_set, if_pos rfl] at hget
    rw [hget] at hentry
    exact nomatch hentry
  · intro hplain
    constructor
    · exact ⟨_, hanswer⟩
    · intro r _ _
      refine ⟨data, hdocument, ?_⟩
      rw [hcontent, JsonFiles.document, hloads, put_eq_withEntry hservers]
    · intro hforce v hv
      rw [hbefore] at hv
      have hnull := lookup_of_on hon hforce hv
      rw [hnull] at hv
      exact absurd hv (hplain hforce)
    · intro r hr hfailed
      obtain rfl := Except.ok.inj (hanswer.symm.trans hr)
      exact nomatch hfailed
    · rw [hcontent]
      exact onFile_again hdumps hloads hwrite

/-- **One file**: an installation keeps the frame exactly where the file is clear. -/
theorem contentKept_iff (hback : lib.ReadsBack) (hentry : isNull (i.entry url) = false) :
    i.ContentKept lib faults configPath url name force content
        (i.onFile lib faults configPath url name force content) ↔
      i.FileClear lib faults url name force content := by
  rcases onFile_cases lib i faults configPath url name force content with
    ⟨exception, hread, hraises, -⟩ | ⟨hread, hreturns, hsame, hnone⟩ |
    ⟨data, servers, result, hwrites, hfailed, haction, hanswer, hcontent⟩
  · constructor
    · intro h
      obtain ⟨r, hr⟩ := h.returns
      exact nomatch hraises.symm.trans hr
    · intro h
      obtain ⟨contents, hcontents⟩ := read_clear_iff.mpr h.read
      exact nomatch hread.symm.trans hcontents
  · refine ⟨fun _ => ⟨read_clear_iff.mp hread, ?_, ?_⟩,
      fun _ => contentKept_of_same hreturns hsame⟩
    · intro data servers h
      exact absurd h (hnone data servers)
    · intro data servers h
      exact absurd h (hnone data servers)
  · have hraised : ∀ {exception : String},
        (i.onFile lib faults configPath url name force content).answer = .error exception →
        ¬ i.ContentKept lib faults configPath url name force content
          (i.onFile lib faults configPath url name force content) := by
      intro exception hraises h
      obtain ⟨r, hr⟩ := h.returns
      exact nomatch hraises.symm.trans hr
    have hrefused : ∀ {error : String},
        (i.onFile lib faults configPath url name force content).answer =
          .ok { result with error := error } →
        (i.onFile lib faults configPath url name force content).content = content →
        i.ContentKept lib faults configPath url name force content
          (i.onFile lib faults configPath url name force content) := by
      intro error hok hsame
      exact contentKept_of_same ⟨_, hok, by simp [haction], by simp [haction]⟩ hsame
    rw [fileClear_iff hwrites]
    rw [writeFile] at hanswer hcontent
    cases hdumps : lib.dumps (i.put data servers name url) with
    | tooDeep =>
      rw [hdumps] at hanswer
      exact iff_of_false (hraised hanswer) fun h => h.1 rfl
    | unencodable =>
      rw [hdumps] at hanswer hcontent
      cases hwrite : faults.write with
      | refused reason =>
        rw [hwrite] at hanswer hcontent
        refine iff_of_true (hrefused hanswer hcontent) ⟨nofun, fun h => ?_⟩
        exact absurd rfl (h reason)
      | none =>
        rw [hwrite] at hanswer
        exact iff_of_false (hraised hanswer) fun h => (h.2 nofun).1 rfl
      | broken reason left =>
        rw [hwrite] at hanswer
        exact iff_of_false (hraised hanswer) fun h => (h.2 nofun).1 rfl
    | text bytes =>
      rw [hdumps] at hanswer hcontent
      cases hwrite : faults.write with
      | refused reason =>
        rw [hwrite] at hanswer hcontent
        refine iff_of_true (hrefused hanswer hcontent) ⟨nofun, fun h => ?_⟩
        exact absurd rfl (h reason)
      | broken reason left =>
        rw [hwrite] at hanswer hcontent
        constructor
        · intro h
          have hsame := h.refused _ hanswer hfailed
          refine ⟨nofun, fun _ => ⟨nofun, ?_,
            nofun⟩⟩
          rintro reason' left' hleft
          obtain ⟨-, rfl⟩ := WriteFault.broken.inj hleft
          exact hsame.symm.trans hcontent
        · rintro ⟨-, hopened⟩
          have hleft := (hopened nofun).2.1 reason left rfl
          exact hrefused hanswer (hcontent.trans hleft.symm)
      | none =>
        rw [hwrite] at hanswer hcontent
        rw [contentKept_of_written hback hentry hwrites hdumps hwrite hanswer hcontent]
        constructor
        · intro h
          exact ⟨nofun, fun _ => ⟨nofun,
            nofun, fun _ => h⟩⟩
        · rintro ⟨-, hopened⟩
          exact (hopened nofun).2.2 rfl

/-- An installation that returns, returns what it does on the document in the file. -/
theorem onFile_install {h : Home} {p : String} {r : HostInstallResult}
    (hfile : readFile lib faults content = .ok (h.files p))
    (hr : (i.onFile lib faults (h.expanduser p) url name force content).answer = .ok r) :
    (i.install h (some p) faults.coarse url name force).1 = r := by
  have hisFile : h.isFile p = content.isSome := by
    rw [Home.isFile]
    cases content with
    | none =>
      rw [← Except.ok.inj hfile]
      rfl
    | some bytes =>
      cases hcontents : h.files p with
      | some contents => rfl
      | none =>
        rw [hcontents, readFile] at hfile
        cases hfault : faults.read with
        | some reason =>
          rw [hfault] at hfile
          cases Except.ok.inj hfile
        | none =>
          rw [hfault] at hfile
          cases hloads : lib.loads bytes <;> rw [hloads] at hfile <;> cases hfile
  simp only [onFile, hfile] at hr
  simp only [install]
  cases hload : i.load (h.files p) with
  | error error =>
    simp only [hload] at hr
    exact Except.ok.inj hr
  | ok data =>
    cases hservers : i.servers data with
    | error error =>
      simp only [hload, hservers] at hr
      simp only [hservers]
      exact Except.ok.inj hr
    | ok servers =>
      simp only [hload, hservers] at hr
      simp only [hservers]
      rw [placeFile] at hr
      rw [place, hisFile]
      by_cases hkept : isNull (servers.get name) = false ∧ force = false
      · rw [if_pos hkept] at hr ⊢
        exact Except.ok.inj hr
      · rw [if_neg hkept] at hr ⊢
        simp only [writeFile, FileFaults.coarse] at hr ⊢
        cases hdumps : lib.dumps (i.put data servers name url) with
        | tooDeep =>
          rw [hdumps] at hr
          cases hr
        | unencodable =>
          rw [hdumps] at hr
          cases hwrite : faults.write with
          | refused reason =>
            rw [hwrite] at hr
            exact Except.ok.inj hr
          | none =>
            rw [hwrite] at hr
            cases hr
          | broken reason left =>
            rw [hwrite] at hr
            cases hr
        | text bytes =>
          rw [hdumps] at hr
          cases hwrite : faults.write with
          | refused reason =>
            rw [hwrite] at hr
            exact Except.ok.inj hr
          | none =>
            rw [hwrite] at hr
            exact Except.ok.inj hr
          | broken reason left =>
            rw [hwrite] at hr
            exact Except.ok.inj hr

/-- A file does not go. -/
theorem content_stays (h : content.isSome = true) :
    (i.onFile lib faults configPath url name force content).content.isSome = true := by
  rcases onFile_cases lib i faults configPath url name force content with
    ⟨-, -, -, hsame⟩ | ⟨-, -, hsame, -⟩ | ⟨data, servers, result, -, -, -, -, hcontent⟩
  · rw [hsame, h]
  · rw [hsame, h]
  · rw [hcontent, writeFile]
    cases lib.dumps (i.put data servers name url) with
    | tooDeep => exact h
    | unencodable => cases faults.write <;> first | exact h | rfl
    | text bytes => cases faults.write <;> first | exact h | rfl

end Installer

/-! ## The disk, again -/

section Disk

variable {lib : JsonFiles} {i : FileInstaller} {d : Disk} {faults : FileFaults}
  {url name p : String} {force : Bool}

/-- The installation on the file chosen for it. -/
def FileInstaller.out (lib : JsonFiles) (i : FileInstaller) (d : Disk) (faults : FileFaults)
    (url name : String) (force : Bool) (p : String) : Touched :=
  i.onFile lib faults ((d.home lib).expanduser p) url name force (d.files p)

theorem run_of_target (faults : FileFaults) (url name : String) (force : Bool)
    (htarget : i.target (d.home lib) = some p) :
    i.run lib d faults url name force =
      ((i.out lib d faults url name force p).answer,
        d.touch p (i.out lib d faults url name force p)) := by
  rw [FileInstaller.run, htarget]
  rfl

theorem touch_self (out : Touched) : (d.touch p out).files p = out.content := if_pos rfl

/-- An installation touches its file and the backup copy. -/
theorem sameButFile_touch {out : Touched}
    (hstays : (d.files p).isSome = true → out.content.isSome = true) :
    SameButFile (d.home lib) ((d.touch p out).home lib) p := by
  have hisFile : ∀ (d : Disk) q, (d.home lib).isFile q = (d.files q).isSome := by
    intro d q
    rw [Home.isFile, Disk.home, Option.isSome_map]
  constructor
  · rfl
  · rfl
  · intro q hq hbackup
    rw [hisFile, hisFile]
    show Option.isSome (if q = p then _ else if _ then _ else d.files q) = _
    rw [if_neg hq, if_neg fun h => hbackup h.1]
  · rw [hisFile, hisFile, touch_self]
    exact hstays

/-- The second installation goes into the same file. -/
theorem again_files (htarget : i.target (d.home lib) = some p) :
    (i.run lib (d.touch p (i.out lib d faults url name force p)) faults url name force).2.files p =
      (i.onFile lib faults ((d.home lib).expanduser p) url name force
        (i.out lib d faults url name force p).content).content := by
  have hsame : SameButFile (d.home lib)
      ((d.touch p (i.out lib d faults url name force p)).home lib) p :=
    sameButFile_touch fun h => Installer.content_stays h
  rw [run_of_target _ _ _ _ (i.target_again _ _ p htarget hsame), touch_self, FileInstaller.out,
    touch_self]
  rfl

/-- An installation keeps the frame exactly where it has no file to go into, or the file is
    clear. -/
theorem frameKept_iff (hback : lib.ReadsBack) (i : FileInstaller) (d : Disk) (faults : FileFaults)
    (url name : String) (force : Bool) :
    FrameKept lib i d faults url name force ↔
      ∀ p, i.target (d.home lib) = some p →
        i.FileClear lib faults url name force (d.files p) := by
  cases htarget : i.target (d.home lib) with
  | none =>
    have hrun : i.run lib d faults url name force =
        (.ok { hostFamily := i.hostFamily, success := false, error := i.missing }, d) := by
      rw [FileInstaller.run, htarget]
    refine iff_of_true ⟨⟨_, by rw [hrun]⟩, fun q _ => by rw [hrun], ?_, ?_, ?_, ?_⟩
      nofun
    · intro p r hp
      exact nomatch htarget.symm.trans hp
    · intro _ p v hp
      exact nomatch htarget.symm.trans hp
    · intro p r hp
      exact nomatch htarget.symm.trans hp
    · intro p hp
      exact nomatch htarget.symm.trans hp
  | some p =>
    have hrun := run_of_target faults url name force htarget
    have hfile : FrameKept lib i d faults url name force ↔
        i.ContentKept lib faults ((d.home lib).expanduser p) url name force (d.files p)
          (i.out lib d faults url name force p) := by
      constructor
      · intro h
        refine ⟨?_, ?_, ?_, ?_, ?_⟩
        · obtain ⟨r, hr⟩ := h.returns
          exact ⟨r, by rw [← hr, hrun]⟩
        · intro r hr haction
          have hinstalled := h.installed p r htarget (by rw [hrun, hr]) haction
          rwa [hrun, touch_self] at hinstalled
        · intro hforce v hv
          have hpreserved := h.preserved hforce p v htarget hv
          rwa [hrun, touch_self] at hpreserved
        · intro r hr hfailed
          have hrefused := h.refused p r htarget (by rw [hrun, hr]) hfailed
          rwa [hrun, touch_self] at hrefused
        · have hrepeats := h.repeats p htarget
          rwa [hrun, again_files htarget, touch_self] at hrepeats
      · intro h
        have hself : ∀ {p'}, i.target (d.home lib) = some p' → p = p' :=
          fun hp' => Option.some.inj (htarget.symm.trans hp')
        refine ⟨?_, ?_, ?_, ?_, ?_, ?_⟩
        · obtain ⟨r, hr⟩ := h.returns
          exact ⟨r, by rw [hrun, hr]⟩
        · intro q hq
          obtain ⟨hne, hbackup⟩ := hq p htarget
          rw [hrun]
          show (if q = p then _ else if _ then _ else d.files q) = _
          rw [if_neg hne, if_neg fun he => hbackup he.1]
        · intro p' r hp' hr
          obtain rfl := hself hp'
          rw [hrun] at hr ⊢
          rw [touch_self]
          exact h.installed r hr
        · intro hforce p' v hp' hv
          obtain rfl := hself hp'
          rw [hrun, touch_self]
          exact h.preserved hforce v hv
        · intro p' r hp' hr
          obtain rfl := hself hp'
          rw [hrun] at hr ⊢
          rw [touch_self]
          exact h.refused r hr
        · intro p' hp'
          obtain rfl := hself hp'
          rw [hrun, again_files htarget, touch_self]
          exact h.repeats
    rw [hfile, FileInstaller.out, Installer.contentKept_iff hback (i.entry_some url)]
    constructor
    · intro h p' hp'
      obtain rfl := Option.some.inj hp'
      exact h
    · intro h
      exact h p rfl

end Disk

/-- The file chosen for an installation, if there is one, is clear. -/
def DiskClear (lib : JsonFiles) (i : FileInstaller) (d : Disk) (faults : FileFaults)
    (url name : String) (force : Bool) : Prop :=
  ∀ p, i.target (d.home lib) = some p → i.FileClear lib faults url name force (d.files p)

/-- **The frame of an installation**: `install_vscode` and `install_jetbrains` return and change
    nothing but the entry exactly where the file they choose is clear. -/
theorem installers_kept_iff {lib : JsonFiles} (hback : lib.ReadsBack) (d : Disk)
    (faults : FileFaults) (url name : String) (force : Bool) :
    (FrameKept lib vscodeFiles d faults url name force ↔
      DiskClear lib vscodeFiles d faults url name force) ∧
    (FrameKept lib jetbrainsFiles d faults url name force ↔
      DiskClear lib jetbrainsFiles d faults url name force) :=
  ⟨frameKept_iff hback vscodeFiles d faults url name force,
    frameKept_iff hback jetbrainsFiles d faults url name force⟩

/-! ## An entry that is null -/

/-- A text of ASCII characters, as bytes. -/
def ascii (text : String) : Bytes := text.toList.map fun c => c.toNat.toUInt8

/-- Settings with an entry that is null. -/
def nullText : Bytes :=
  ascii "\x7b\"" ++ ascii "mcp.servers\": \x7b\"keyhole\": null\x7d\x7d"

def nullSettings : Dict := [("mcp.servers", .obj [("keyhole", .null)])]

/-- Settings with the entry for a URL. -/
def entryBytes : Bytes :=
  ascii "\x7b\n" ++ ascii ("    \"mcp.servers\": \x7b\n        \"keyhole\": \x7b\n"
    ++ "            \"type\": \"sse\",\n            \"url\": \"https://mcp.test/mcp/v1\",\n"
    ++ "            \"env\": \x7b\n                \"KEYHOLE_MCP_TOKEN\": "
    ++ "\"$\x7benv:KEYHOLE_MCP_TOKEN\x7d\"\n            \x7d\n        \x7d\n    \x7d\n\x7d\n")

def entrySettings : Dict :=
  [("mcp.servers", .obj [("keyhole", buildKeyholeServerEntry "https://mcp.test")])]

/-- Is it the entry for that URL? -/
def isEntry : Json → Bool
  | .obj [(typeKey, .str kind), (urlKey, .str url), (envKey, .obj [(token, .str reference)])] =>
      typeKey == "type" && kind == "sse" && urlKey == "url" &&
        url == endpointUrl "https://mcp.test" && envKey == "env" &&
        token == "KEYHOLE_MCP_TOKEN" && reference == "$\x7benv:KEYHOLE_MCP_TOKEN\x7d"
  | _ => false

/-- `json`, on the two settings. -/
def sampleJson : JsonFiles where
  loads := fun bytes =>
    if bytes = entryBytes then .document (.obj entrySettings)
    else if bytes = nullText then .document (.obj nullSettings)
    else .malformed "Expecting value: line 1 column 1 (char 0)"
  dumps := fun
    | [(table, .obj [(name, entry)])] =>
        if table = "mcp.servers" ∧ name = "keyhole" ∧ isEntry entry = true then .text entryBytes
        else .tooDeep
    | _ => .tooDeep

theorem eq_of_isEntry {entry : Json} (h : isEntry entry = true) :
    entry = buildKeyholeServerEntry "https://mcp.test" := by
  unfold isEntry at h
  split at h
  · simp only [Bool.and_eq_true, beq_iff_eq] at h
    obtain ⟨⟨⟨⟨⟨⟨rfl, rfl⟩, rfl⟩, rfl⟩, rfl⟩, rfl⟩, rfl⟩ := h
    rfl
  · exact nomatch h

theorem loads_entry : sampleJson.loads entryBytes = .document (.obj entrySettings) := by
  simp only [sampleJson, if_true]

theorem loads_null : sampleJson.loads nullText = .document (.obj nullSettings) := by
  have hne : nullText ≠ entryBytes := by
    intro h
    have hnull : nullText[1]? = some 34 := rfl
    have hentry : entryBytes[1]? = some 10 := rfl
    rw [h, hentry] at hnull
    exact absurd hnull (by decide)
  simp only [sampleJson, if_neg hne, if_true]

theorem sampleJson_readsBack : sampleJson.ReadsBack := by
  intro data bytes h
  simp only [sampleJson] at h
  split at h
  · split at h
    · rename_i hsettings
      obtain ⟨rfl, rfl, hentry⟩ := hsettings
      rw [eq_of_isEntry hentry, ← Dumped.text.inj h]
      exact loads_entry
    · exact nomatch h
  · exact nomatch h

theorem dumps_entry : sampleJson.dumps entrySettings = .text entryBytes := by
  have hentry : isEntry (buildKeyholeServerEntry "https://mcp.test") = true := by
    simp [isEntry, buildKeyholeServerEntry, tokenEnv]
  simp only [sampleJson, entrySettings, hentry, and_self, if_true]

/-- A disk with the folder of VS Code Server, and perhaps its settings. -/
def settingsDisk (settings : Option Bytes) : Disk where
  root := "/home/dev"
  files := fun p => if p = serverSettings then settings else none
  folders := fun p => p == parent serverSettings
  jetbrainsDirs := []

theorem settingsDisk_target (settings : Option Bytes) :
    vscodeFiles.target ((settingsDisk settings).home sampleJson) = some serverSettings := by
  cases settings with
  | none => rfl
  | some bytes => rfl

/-- Without settings, the entry is written to a new file. -/
theorem new_settings_kept :
    FrameKept sampleJson vscodeFiles (settingsDisk none) {} "https://mcp.test" "keyhole" false := by
  refine (installers_kept_iff sampleJson_readsBack (settingsDisk none) {} "https://mcp.test"
    "keyhole" false).1.mpr ?_
  intro p hp
  obtain rfl := Option.some.inj ((settingsDisk_target none).symm.trans hp)
  have hwrites : vscodeFiles.Writes sampleJson {} "keyhole" false none [] [] :=
    ⟨none, rfl, rfl, rfl, fun h => nomatch h.1⟩
  have hput : vscodeFiles.put [] [] "keyhole" "https://mcp.test" = entrySettings := rfl
  show vscodeFiles.FileClear sampleJson {} "https://mcp.test" "keyhole" false none
  rw [Installer.fileClear_iff hwrites, hput, dumps_entry]
  exact ⟨(fun h => nomatch h), fun _ => ⟨(fun h => nomatch h), (fun _ _ h => nomatch h),
    fun _ _ h => nomatch h⟩⟩

/-- The entry that is null is replaced, without force. -/
theorem null_entry_replaced :
    ¬ FrameKept sampleJson vscodeFiles (settingsDisk (some nullText)) {} "https://mcp.test"
      "keyhole" false := by
  intro h
  have hclear := (frameKept_iff sampleJson_readsBack vscodeFiles (settingsDisk (some nullText)) {}
    "https://mcp.test" "keyhole" false).mp h serverSettings (settingsDisk_target _)
  have hread : Installer.readFile sampleJson {} (some nullText) =
      .ok (some (.parsed (.obj nullSettings))) := by
    rw [Installer.readFile]
    simp only [loads_null]
  have hwrites : vscodeFiles.Writes sampleJson {} "keyhole" false (some nullText) nullSettings
      [("keyhole", .null)] :=
    ⟨_, hread, rfl, rfl, fun hon => nomatch hon.1⟩
  exact ((hclear.opened nullSettings _ hwrites fun _ hr => nomatch hr).2.2 rfl rfl) rfl

end KeyholeHosts
