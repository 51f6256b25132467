import Keyhole.HostInstall

/-!
# Whether the doctor finds what was installed

The installers and the detectors look through the same places on their own terms: they try
the VS Code settings files in different orders, and an installer goes by the exact name of an
entry where a detector takes the first entry that looks like Keyhole's.

* `find_settings_after`: the settings file the detector reads after an installation;
* `firstUrl_insert_iff`: when a search for the first Keyhole entry gives a certain one's URL;
* `install_detected_iff`: when the doctor reports the entry that is installed. -/

namespace KeyholeHosts

open KeyholeJson KeyholeDoctor

/-! ## The first Keyhole entry -/

/-- The entry is recognised, and none of those before it is. -/
def Leads (recognised : String × Json → Bool) (before : List (String × Json))
    (kv : String × Json) : Prop :=
  recognised kv = true ∧ ∀ other ∈ before, recognised other = false

/-- A search gives the URL of an entry where it finds that entry, or where it finds, among the
    others, one with the same URL. -/
theorem firstUrl_insert_iff (recognised : String × Json → Bool)
    (before after : List (String × Json)) (kv : String × Json) :
    FirstUrl recognised (before ++ kv :: after) (entryUrl kv.2)
      ↔ Leads recognised before kv
        ∨ FirstUrl recognised (before ++ after) (entryUrl kv.2) := by
  cases hbefore : before.find? recognised with
  | some found =>
    -- the search ends before it gets to the entry
    have hnot : ¬ Leads recognised before kv := by
      rintro ⟨-, hnone⟩
      have hfound := List.find?_some hbefore
      rw [hnone found (List.mem_of_find?_eq_some hbefore)] at hfound
      exact nomatch hfound
    rw [or_iff_right hnot, FirstUrl, FirstUrl, List.find?_append, List.find?_append, hbefore,
      Option.some_or, Option.some_or]
  | none =>
    have hnone : ∀ other ∈ before, recognised other = false := fun other hother =>
      Bool.eq_false_iff.mpr (List.find?_eq_none.mp hbefore other hother)
    rw [FirstUrl, FirstUrl, List.find?_append, List.find?_append, hbefore, Option.none_or,
      Option.none_or]
    cases hkv : recognised kv with
    | true =>
      rw [List.find?_cons_of_pos hkv]
      exact ⟨fun _ => .inl ⟨hkv, hnone⟩, fun _ => ⟨kv, rfl, rfl⟩⟩
    | false =>
      have hnot : ¬ Leads recognised before kv := by
        rintro ⟨hlead, -⟩
        rw [hkv] at hlead
        exact nomatch hlead
      rw [List.find?_cons_of_neg (by rw [hkv]; exact Bool.false_ne_true), or_iff_right hnot]

/-! ## The file the detector reads -/

/-- Two searches that differ in their first two places agree unless both places count. -/
theorem find_swap {α : Type} {f : α → Bool} {a b : α} (l : List α)
    (hab : ¬ (f a = true ∧ f b = true)) : (a :: b :: l).find? f = (b :: a :: l).find? f := by
  cases ha : f a with
  | false => simp [List.find?_cons, ha]
  | true =>
    have hb : f b = false := Bool.eq_false_iff.mpr fun hb => hab ⟨ha, hb⟩
    simp [ha, hb]

/-- The only place that counts is found. -/
theorem find_unique {α : Type} {f : α → Bool} {a : α} {l : List α} (hmem : a ∈ l)
    (ha : f a = true) (honly : ∀ b ∈ l, f b = true → b = a) : l.find? f = some a := by
  obtain ⟨b, hb⟩ := Option.isSome_iff_exists.mp (List.find?_isSome.mpr ⟨a, hmem, ha⟩)
  rw [hb, honly b (List.mem_of_find?_eq_some hb) (List.find?_some hb)]

/-- The settings of VS Code Server and of the desktop are both there: the installer goes into
    the one, the detector reads the other. -/
def Shadowed (h : Home) : Prop := h.isFile serverSettings = true ∧ h.isFile desktopSettings = true

instance (h : Home) : Decidable (Shadowed h) := inferInstanceAs (Decidable (_ ∧ _))

variable {h h' : Home} {p name : String} {entry : Json} {i : Installer}

theorem Installer.Leaves.isFile_eq (hleaves : i.Leaves h h' p name entry) (q : String) :
    h'.isFile q = if q = p then true else h.isFile q := by
  by_cases hq : q = p
  · rw [if_pos hq, hq, Home.isFile, hleaves.object]
    rfl
  · rw [if_neg hq, Home.isFile, hleaves.others q hq]
    rfl

theorem mem_candidates (htarget : findVscodeSettings h = some p) :
    p ∈ vscodeSettingsCandidates := by
  rcases Option.or_eq_some_iff.mp htarget with hfile | ⟨-, hfolder⟩
  · exact List.mem_of_find?_eq_some hfile
  · exact List.mem_of_find?_eq_some hfolder

/-- **The settings file read after an installation** is the one it went into, unless the
    desktop's settings come first. -/
theorem find_settings_after
    (htarget : findVscodeSettings h = some p) (hleaves : i.Leaves h h' p name entry) :
    VSCode.findSettingsFile h' = some (if Shadowed h then desktopSettings else p) := by
  cases hfile : vscodeSettingsCandidates.find? h.isFile with
  | some q =>
    have hq : q = p := by
      rw [findVscodeSettings, hfile, Option.some_or] at htarget
      exact Option.some.inj htarget
    subst hq
    have hsame : h'.isFile = h.isFile := by
      funext x
      rw [hleaves.isFile_eq x]
      by_cases hx : x = q
      · rw [if_pos hx, hx, List.find?_some hfile]
      · rw [if_neg hx]
    rw [VSCode.findSettingsFile, hsame]
    by_cases hshadow : Shadowed h
    · rw [if_pos hshadow]
      exact List.find?_cons_of_pos hshadow.2
    · rw [if_neg hshadow]
      rw [VSCode.settingsPaths, find_swap _ fun hboth => hshadow ⟨hboth.2, hboth.1⟩]
      exact hfile
  | none =>
    -- no settings at all: the installation created the only file there is
    have hnone : ∀ q ∈ vscodeSettingsCandidates, h.isFile q = false := fun q hq =>
      Bool.eq_false_iff.mpr (List.find?_eq_none.mp hfile q hq)
    have hshadow : ¬ Shadowed h := by
      rintro ⟨hserver, -⟩
      rw [hnone serverSettings List.mem_cons_self] at hserver
      exact nomatch hserver
    have hperm : ∀ q, q ∈ VSCode.settingsPaths ↔ q ∈ vscodeSettingsCandidates := fun q =>
      (List.Perm.swap serverSettings desktopSettings laterSettings).mem_iff
    rw [if_neg hshadow]
    refine find_unique ((hperm p).mpr (mem_candidates htarget)) ?_ ?_
    · rw [hleaves.isFile_eq, if_pos rfl]
    · intro q hq hexists
      by_contra hne
      rw [hleaves.isFile_eq, if_neg hne, hnone q ((hperm q).mp hq)] at hexists
      exact nomatch hexists

/-! ## What the detectors find after an installation -/

/-- The URL of the entry that stands in a file under a name. -/
def Installer.installedUrl (i : Installer) (h : Home) (p name : String) : Json :=
  entryUrl ((i.serversAt h p).get name)

/-- The servers in the order a detector meets them, the installed entry left out: those of the
    installer's key, then the given ones. -/
def Installer.rest (i : Installer) (h : Home) (p name : String) (later : List (String × Json)) :
    List (String × Json) :=
  ahead name (i.serversAt h p) ++ (behind name (i.serversAt h p) ++ later)

theorem get_ahead_append (servers l : Dict) (name : String) (v : Json) :
    Dict.get (ahead name servers ++ (name, v) :: l) name = v := by
  induction servers with
  | nil => simp [ahead]
  | cons hd rest ih =>
    obtain ⟨key, w⟩ := hd
    by_cases hkey : key = name
    · simp [ahead, hkey]
    · have hne : (key != name) = true := bne_iff_ne.mpr hkey
      simp only [ahead, List.takeWhile_cons, hne, if_true, List.cons_append]
      rw [get_cons, if_neg fun hk => hkey hk.symm]
      exact ih

theorem getOr_of_get_obj {d : Dict} {k : String} {v : Json} {fields : Dict}
    (h : d.get k = .obj fields) : d.getOr k v = .obj fields := by
  cases hhas : d.has k with
  | true => rw [getOr_of_has hhas, h]
  | false =>
    rw [get_of_not_has hhas] at h
    exact nomatch h

/-- The entry read back under the name is the one in place. -/
theorem Installer.Leaves.installedUrl_eq (hleaves : i.Leaves h h' p name entry) :
    i.installedUrl h' p name = entryUrl entry := by
  rw [Installer.installedUrl, Installer.serversAt, hleaves.servers]
  exact congrArg entryUrl (get_ahead_append _ _ _ _)

namespace VSCode

/-- The entries met in the settings file after those of `mcp.servers`, and in the MCP files. -/
def later (h : Home) (p : String) : List (String × Json) :=
  (["mcpServers", "mcp"].flatMap fun key => asDict ((h.document p).get key)) ++ mcpEntries h

/-- The doctor gives the URL of the entry that is to stand under the name: the settings are
    not shadowed and the entry leads, or another one that it meets first has the same URL. -/
def Finds (base : String) (h : Home) (url name : String) (force : Bool) : Prop :=
  ∃ p, findVscodeSettings h = some p ∧
    let entry := vscodeInstaller.placed (vscodeInstaller.serversAt h p) name url force
    if Shadowed h then
      ∃ l, fileEntries (h.files desktopSettings) = some l
        ∧ FirstUrl (isKeyholeEntry base) (l ++ mcpEntries h) (entryUrl entry)
    else
      Leads (isKeyholeEntry base) (ahead name (vscodeInstaller.serversAt h p)) (name, entry)
        ∨ FirstUrl (isKeyholeEntry base) (vscodeInstaller.rest h p name (later h p))
            (entryUrl entry)

theorem not_mem_mcpPaths (hp : p ∈ vscodeSettingsCandidates) : p ∉ mcpPaths := by
  have hall : ∀ q ∈ vscodeSettingsCandidates, q ∉ mcpPaths := by decide
  exact hall p hp

/-- The MCP files are none of the installer's. -/
theorem mcpEntries_after
    (hp : p ∈ vscodeSettingsCandidates) (hleaves : i.Leaves h h' p name entry) :
    mcpEntries h' = mcpEntries h := by
  refine List.flatMap_congr fun q hq => ?_
  rw [hleaves.others q fun heq => not_mem_mcpPaths hp (heq ▸ hq)]

/-- The servers met in the file that the entry went into. -/
theorem fileEntries_after (hleaves : vscodeInstaller.Leaves h h' p name entry) :
    fileEntries (h'.files p)
      = some (ahead name (vscodeInstaller.serversAt h p) ++ (name, entry)
          :: (behind name (vscodeInstaller.serversAt h p)
            ++ ["mcpServers", "mcp"].flatMap fun key => asDict ((h.document p).get key))) := by
  have hservers : Dict.get (h'.document p) "mcp.servers" = _ := hleaves.servers
  have hfirst : Dict.get (h'.document p) "mcpServers" = _ :=
    hleaves.keys "mcpServers" (by decide)
  have hsecond : Dict.get (h'.document p) "mcp" = _ := hleaves.keys "mcp" (by decide)
  rw [hleaves.object]
  show some (settingsKeys.flatMap fun key => asDict ((h'.document p).get key)) = _
  simp only [settingsKeys, List.flatMap_cons, List.flatMap_nil, hservers, hfirst, hsecond, asDict,
    List.append_assoc, List.cons_append]

/-- **What the doctor finds after an installation for VS Code.** -/
theorem reports_after {base : String} {url : String} {force : Bool}
    (htarget : findVscodeSettings h = some p) (hleaves : vscodeInstaller.Leaves h h' p name
      (vscodeInstaller.placed (vscodeInstaller.serversAt h p) name url force)) :
    Reports (detect base h') (vscodeInstaller.installedUrl h' p name)
      ↔ Finds base h url name force := by
  rw [detect_reports_iff (find_settings_after htarget hleaves), hleaves.installedUrl_eq,
    mcpEntries_after (mem_candidates htarget) hleaves, Finds, htarget]
  simp only [Option.some.injEq, exists_eq_left']
  by_cases hshadow : Shadowed h
  · -- the desktop's settings are read, which the installation has not touched
    have hother : desktopSettings ≠ p := by
      intro heq
      rw [findVscodeSettings, vscodeSettingsCandidates, List.find?_cons_of_pos hshadow.1,
        Option.some_or] at htarget
      exact absurd (heq.trans (Option.some.inj htarget).symm) (by decide)
    simp only [if_pos hshadow]
    rw [hleaves.others desktopSettings hother]
  · simp only [if_neg hshadow]
    rw [fileEntries_after hleaves]
    constructor
    · rintro ⟨l, hl, hfirst⟩
      rw [← Option.some.inj hl, List.append_assoc, List.cons_append, List.append_assoc] at hfirst
      exact (firstUrl_insert_iff _ _ _ _).mp hfirst
    · intro hrest
      refine ⟨_, rfl, ?_⟩
      rw [List.append_assoc, List.cons_append, List.append_assoc]
      exact (firstUrl_insert_iff _ _ _ (name, _)).mpr hrest

end VSCode

namespace JetBrains

/-- The doctor gives the URL of the entry that is to stand under the name: the entry leads, or
    another one that it meets first has the same URL. -/
def Finds (base : String) (h : Home) (url name : String) (force : Bool) : Prop :=
  ∃ dir, installDir h = some dir ∧
    let entry := jetbrainsInstaller.placed (jetbrainsInstaller.serversAt h (mcpFile dir)) name
      url force
    Leads (isKeyholeEntry base) (ahead name (jetbrainsInstaller.serversAt h (mcpFile dir)))
        (name, entry)
      ∨ FirstUrl (isKeyholeEntry base) (jetbrainsInstaller.rest h (mcpFile dir) name [])
          (entryUrl entry)

/-- The detector tries the installer's folders first. -/
theorem find_dir_after {dir : String} (hdir : installDir h = some dir)
    (hsame : h'.jetbrainsDirs = h.jetbrainsDirs) : findConfigDir h' = some dir := by
  have hglob : h'.glob = h.glob := by
    funext start
    rw [Home.glob, Home.glob, hsame]
  rw [findConfigDir, Home.firstFolder, List.findSome?_append, hglob]
  rw [installDir, Home.firstFolder] at hdir
  rw [hdir, Option.some_or]

/-- The servers met in the file that the entry went into. -/
theorem servers_after (hleaves : jetbrainsInstaller.Leaves h h' p name entry) :
    servers (h'.files p)
      = ahead name (jetbrainsInstaller.serversAt h p) ++ (name, entry)
          :: behind name (jetbrainsInstaller.serversAt h p) := by
  have hkey : Dict.get (h'.document p) "mcpServers" = .obj _ := hleaves.servers
  rw [hleaves.object]
  show asDict (Dict.getOr _ "mcpServers" _) = _
  rw [getOr_of_get_obj hkey]
  rfl

/-- **What the doctor finds after an installation for JetBrains.** -/
theorem reports_after {base : String} {dir url : String} {force : Bool}
    (hdir : installDir h = some dir) (hleaves : jetbrainsInstaller.Leaves h h' (mcpFile dir) name
      (jetbrainsInstaller.placed (jetbrainsInstaller.serversAt h (mcpFile dir)) name url force)) :
    Reports (detect base h') (jetbrainsInstaller.installedUrl h' (mcpFile dir) name)
      ↔ Finds base h url name force := by
  rw [detect_reports_iff (find_dir_after hdir hleaves.dirs), hleaves.installedUrl_eq,
    servers_after hleaves, Finds, hdir]
  simp only [Option.some.injEq, exists_eq_left', Installer.rest, List.append_nil]
  exact firstUrl_insert_iff _ _ _ (name, _)

end JetBrains

/-! ## Installing and detecting -/

/-- **Installing and detecting agree** exactly where the doctor meets the installed entry, or
    one with the same URL, before any other Keyhole entry. -/
theorem install_detected_iff (base : String) (h : Home) (faults : Faults) (url name : String)
    (force : Bool) :
    ((installVscode h faults url name force).1.success = true →
      ∃ p, findVscodeSettings h = some p
        ∧ (Reports (VSCode.detect base (installVscode h faults url name force).2)
            (vscodeInstaller.installedUrl (installVscode h faults url name force).2 p name)
          ↔ VSCode.Finds base h url name force))
    ∧ ((installJetbrains h faults url name force).1.success = true →
      ∃ dir, installDir h = some dir
        ∧ (Reports (JetBrains.detect base (installJetbrains h faults url name force).2)
            (jetbrainsInstaller.installedUrl (installJetbrains h faults url name force).2
              (mcpFile dir) name)
          ↔ JetBrains.Finds base h url name force)) := by
  constructor
  · intro hok
    obtain ⟨p, htarget, hleaves⟩ := Installer.install_success hok
    exact ⟨p, htarget, VSCode.reports_after htarget hleaves⟩
  · intro hok
    obtain ⟨p, htarget, hleaves⟩ := Installer.install_success hok
    obtain ⟨dir, hdir, rfl⟩ := Option.map_eq_some_iff.mp htarget
    exact ⟨dir, hdir, JetBrains.reports_after hdir hleaves⟩

/-- A home directory with settings files of the given paths, all empty objects, and one
    JetBrains IDE. -/
def emptyHome (settings : List String) : Home where
  root := "/home/dev"
  files := fun p => if settings.contains p then some (.parsed (.obj [])) else none
  folders := fun _ => false
  jetbrainsDirs := ["IntelliJIdea2024.1"]

/-- With the settings of VS Code Server alone, both entries are found. -/
theorem lone_install_detected :
    (∃ p, findVscodeSettings (emptyHome [serverSettings]) = some p
      ∧ Reports (VSCode.detect "https://mcp.keyholesolution.com"
          (installVscode (emptyHome [serverSettings]) {} "https://mcp.keyholesolution.com/"
            "keyhole" false).2)
        (vscodeInstaller.installedUrl
          (installVscode (emptyHome [serverSettings]) {} "https://mcp.keyholesolution.com/"
            "keyhole" false).2 p "keyhole"))
    ∧ (∃ dir, installDir (emptyHome [serverSettings]) = some dir
      ∧ Reports (JetBrains.detect "https://mcp.keyholesolution.com"
          (installJetbrains (emptyHome [serverSettings]) {} "https://mcp.keyholesolution.com/"
            "keyhole" false).2)
        (jetbrainsInstaller.installedUrl
          (installJetbrains (emptyHome [serverSettings]) {} "https://mcp.keyholesolution.com/"
            "keyhole" false).2 (mcpFile dir) "keyhole")) := by
  obtain ⟨hvscode, hjetbrains⟩ := install_detected_iff "https://mcp.keyholesolution.com"
    (emptyHome [serverSettings]) {} "https://mcp.keyholesolution.com/" "keyhole" false
  obtain ⟨p, hp, hfinds⟩ := hvscode rfl
  obtain ⟨dir, hdir, hfinds'⟩ := hjetbrains rfl
  refine ⟨⟨p, hp, hfinds.mpr ⟨serverSettings, rfl, .inl ⟨rfl, ?_⟩⟩⟩,
    ⟨dir, hdir, hfinds'.mpr ⟨"IntelliJIdea2024.1", rfl, .inl ⟨rfl, ?_⟩⟩⟩⟩
  · intro other hother
    exact nomatch hother
  · intro other hother
    exact nomatch hother

/-- With the desktop's settings beside them, the installation succeeds and the doctor still
    finds no entry. -/
theorem shadowed_install_missed :
    (installVscode (emptyHome [serverSettings, desktopSettings]) {}
        "https://mcp.keyholesolution.com" "keyhole" false).1.success = true
    ∧ ∀ url, ¬ Reports (VSCode.detect "https://mcp.keyholesolution.com"
        (installVscode (emptyHome [serverSettings, desktopSettings]) {}
          "https://mcp.keyholesolution.com" "keyhole" false).2) url := by
  refine ⟨rfl, ?_⟩
  rintro url ⟨record, hok, hdetected, -⟩
  cases hok
  exact nomatch hdetected

end KeyholeHosts
