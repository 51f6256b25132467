import Keyhole.VerticalScaffold

/-!
# The readers of a repository's name

Each command finds the name of its repository in its own place: `keyhole run` in the `repo`
mapping of `keyhole.yaml` or on a line of its text, the gaps and the workspace commands in the
top-level `name`, `proof submit` in the folder's name, the validation in the string `repo`.

* `runName`, `gapsName`, `workspaceName`, `proofName`: the names that are sent;
* `OneName`: they and the name that is reported are one string, and it is not empty;
* `one_name_iff`: the repositories of which this is true. -/

namespace KeyholeRepoName

open KeyholeJson (strip)
open KeyholeYaml KeyholeValidation KeyholePipeline KeyholeTotality
open KeyholeScaffold (repo_of_not_rejects safeLoad_of_find)

variable (safeLoad : Loader) (repo : Repo)

/-! ## The readers -/

/-- What `keyhole run` sends: `load_repo_name(repo_path) or repo_path.name`. -/
def runName : Yaml := orElse (loadRepoName (some safeLoad) repo.name repo.keyhole) (.str repo.name)

/-- `(data or {}).get("name", repo_path.name)`. -/
def topName (folder : String) (data : Yaml) : Yaml :=
  match (if truthy data then data else .map []) with
  | .map fields => Fields.getOr fields "name" (.str folder)
  -- no other value has a `get`, and the `AttributeError` is caught
  | _ => .str folder

/-- The top-level name of `keyhole.yaml`, or the folder's. -/
def declaredName : Yaml :=
  match repo.keyhole with
  | .text content =>
      match safeLoad content with
      | .ok data => topName repo.name data
      | .error _ => .str repo.name
  | _ => .str repo.name

/-- `_repo_name` of the gaps commands. -/
def gapsName : Yaml := declaredName safeLoad repo

/-- `_repo_name_from_dir` of the workspace command. -/
def workspaceName : Yaml := declaredName safeLoad repo

/-- What `proof submit` sends. -/
def proofName : Yaml := .str repo.name

/-- The validation accepts the file: nothing it finds in it is a reason to reject. -/
def FileAccepted (strict : Bool) : Prop :=
  ∀ issue ∈ (validateKeyholeYaml "keyhole.yaml"
    (loadYamlSafe (some safeLoad) "keyhole.yaml" repo.keyhole)).1, issue.hard strict = false

/-- All readers have the same name. -/
structure SameName (n : String) : Prop where
  nonempty : n ≠ ""
  run : runName safeLoad repo = .str n
  gaps : gapsName safeLoad repo = .str n
  workspace : workspaceName safeLoad repo = .str n
  proof : proofName repo = .str n
  validation : ∀ strict, FileAccepted safeLoad repo strict → resultName (some safeLoad) repo = n

/-- The repository has one name. -/
def OneName : Prop := ∃ n, SameName safeLoad repo n

/-! ## Documents that name the folder -/

/-- The first line of the text that starts with `name:`, if there is one, names the folder or
    nothing. -/
def ScanKeeps (folder content : String) : Prop :=
  ∀ name, scanName content = some name → name = "" ∨ name = folder

/-- What the run reads of a mapping: a name that is no value, or the folder's. -/
def RunKeeps (folder content : String) (data : Fields) : Prop :=
  match Fields.getOr data "repo" (.map []) with
  | .map fields => truthy (Fields.get fields "name") = true → Fields.get fields "name" = .str folder
  | _ => ScanKeeps folder content

/-- Every name the text has is the folder's. -/
def NamesFolder (folder content : String) : Prop :=
  match safeLoad content with
  | .ok (.map data) =>
      RunKeeps folder content data
        ∧ Fields.getOr data "name" (.str folder) = .str folder
        ∧ (strip content ≠ "" → ∀ name, Fields.find data "repo" = some (.str name) →
            strip name = "" ∨ strip name = folder)
  | _ => ScanKeeps folder content

/-- The folder has a name, and the file has no other. -/
def NamedAfterFolder : Prop :=
  repo.name ≠ "" ∧ ∀ content, repo.keyhole = .text content → NamesFolder safeLoad repo.name content

section Readers

variable {safeLoad : Loader} {repo : Repo}

theorem orElse_folder_iff {v : Yaml} {folder : String} :
    orElse v (.str folder) = .str folder ↔ (truthy v = true → v = .str folder) := by
  rw [orElse]
  by_cases h : truthy v = true
  · rw [if_pos h]
    exact ⟨fun hv _ => hv, fun hv => hv h⟩
  · rw [if_neg h]
    exact ⟨fun _ ht => absurd ht h, fun _ => rfl⟩

theorem fallbackName_iff {folder content : String} :
    orElse (fallbackName folder content) (.str folder) = .str folder
      ↔ ScanKeeps folder content := by
  rw [orElse_folder_iff, fallbackName, ScanKeeps]
  cases scanName content with
  | none => exact ⟨fun _ _ h => (by cases h), fun _ _ => rfl⟩
  | some found =>
    show (truthy (.str found) = true → Yaml.str found = .str folder) ↔ _
    constructor
    · intro h name hname
      obtain rfl := Option.some.inj hname
      by_cases hempty : found = ""
      · exact .inl hempty
      · exact .inr (Yaml.str.inj (h (bne_iff_ne.mpr hempty)))
    · intro h htruthy
      cases h found rfl with
      | inl hempty => exact absurd hempty (bne_iff_ne.mp htruthy)
      | inr hfolder => rw [hfolder]

/-- The run's name of a text. -/
theorem runName_text_iff {content : String} (h : repo.keyhole = .text content) :
    runName safeLoad repo = .str repo.name ↔
      match safeLoad content with
      | .ok (.map data) => RunKeeps repo.name content data
      | _ => ScanKeeps repo.name content := by
  rw [runName, h]
  cases hload : safeLoad content with
  | error why =>
    simp only [loadRepoName, Option.map_some, hload]
    exact fallbackName_iff
  | ok data =>
    cases data with
    | map data =>
      simp only [loadRepoName, Option.map_some, hload, RunKeeps]
      cases Fields.getOr data "repo" (.map []) with
      | map fields => exact orElse_folder_iff
      | _ => exact fallbackName_iff
    | _ =>
      simp only [loadRepoName, Option.map_some, hload]
      exact fallbackName_iff

/-- Only a mapping names anything at its top level. -/
theorem topName_other {data : Yaml} (folder : String) (h : ∀ fields, data ≠ .map fields) :
    topName folder data = .str folder := by
  rw [topName]
  by_cases htruthy : truthy data = true
  · rw [if_pos htruthy]
    cases data with
    | map fields => exact absurd rfl (h fields)
    | _ => rfl
  · rw [if_neg htruthy]
    rfl

theorem topName_map (folder : String) (fields : Fields) :
    topName folder (.map fields) = Fields.getOr fields "name" (.str folder) := by
  cases fields with
  | nil => rfl
  | cons entry fields => rfl

/-- The name the validation reports of a file that it accepts. -/
theorem resultName_iff {content : String} (h : repo.keyhole = .text content) :
    (∀ strict, FileAccepted safeLoad repo strict →
        resultName (some safeLoad) repo = repo.name) ↔
      (strip content ≠ "" → ∀ data name, safeLoad content = .ok (.map data) →
        Fields.find data "repo" = some (.str name) → strip name = "" ∨ strip name = repo.name) := by
  have hpresent : repo.keyhole.present = true := by rw [h]; rfl
  constructor
  · intro hall hblank data name hload hfind
    by_cases hempty : strip name = ""
    · exact .inl hempty
    right
    have hloaded : loadYamlSafe (some safeLoad) "keyhole.yaml" repo.keyhole = .ok data := by
      rw [h, loadYamlSafe, if_neg hblank, hload]
      rfl
    have haccepted : FileAccepted safeLoad repo false := by
      rw [FileAccepted, hloaded, validateKeyholeYaml, hfind]
      simp only [repoField, if_neg hempty, List.nil_append]
      intro issue hissue
      split at hissue
      · exact absurd hissue List.not_mem_nil
      · rw [List.mem_singleton.mp hissue]
        rfl
    have hname := hall false haccepted
    rw [resultName, if_pos hpresent, hloaded, validateKeyholeYaml, hfind] at hname
    simp only [repoField, if_neg hempty] at hname
    exact hname
  · intro hdocument strict haccepted
    have hrejects : ¬ Rejects (validateKeyholeYaml "keyhole.yaml"
        (loadYamlSafe (some safeLoad) "keyhole.yaml" repo.keyhole)).1 := by
      rintro ⟨issue, hissue, hhard⟩
      cases (haccepted issue hissue).symm.trans (hhard strict)
    obtain ⟨data, name, hloaded, hfind⟩ := repo_of_not_rejects hrejects
    have hblank : strip content ≠ "" := by
      intro hblank
      rw [h, loadYamlSafe, if_pos hblank] at hloaded
      obtain rfl := Except.ok.inj hloaded
      cases hfind
    obtain ⟨_, hsafe, hload⟩ := safeLoad_of_find (h ▸ hloaded) hfind
    obtain rfl := Option.some.inj hsafe
    rw [resultName, if_pos hpresent, hloaded, validateKeyholeYaml, hfind]
    cases hdocument hblank data name hload hfind with
    | inl hempty =>
      simp only [repoField, if_pos hempty]
      rfl
    | inr hfolder =>
      by_cases hempty : strip name = ""
      · simp only [repoField, if_pos hempty]
        rfl
      · simp only [repoField, if_neg hempty]
        exact hfolder

/-- Where `proof submit` sends the name of the folder, all readers do. -/
theorem oneName_folder_iff : OneName safeLoad repo ↔ SameName safeLoad repo repo.name := by
  constructor
  · rintro ⟨n, h⟩
    obtain rfl : repo.name = n := Yaml.str.inj h.proof
    exact h
  · exact fun h => ⟨repo.name, h⟩

/-- A file that cannot be read names nothing. -/
theorem sameName_unread (h : ∀ content, repo.keyhole ≠ .text content) (hname : repo.name ≠ "") :
    SameName safeLoad repo repo.name := by
  obtain ⟨path, name, keyhole, contract, passport, dependencies, manifest⟩ := repo
  have hstr : orElse (.str name) (.str name) = .str name := by
    rw [orElse, ite_self]
  cases keyhole with
  | text content => exact absurd rfl (h content)
  | missing => exact ⟨hname, rfl, rfl, rfl, rfl, fun _ _ => rfl⟩
  | unreadable why => exact ⟨hname, hstr, rfl, rfl, rfl, fun _ _ => rfl⟩

/-- The readers of a text agree on the folder exactly when the text names it only. -/
theorem sameName_text_iff {content : String} (h : repo.keyhole = .text content) :
    SameName safeLoad repo repo.name
      ↔ repo.name ≠ "" ∧ NamesFolder safeLoad repo.name content := by
  have hdeclared : declaredName safeLoad repo = match safeLoad content with
      | .ok data => topName repo.name data
      | .error _ => .str repo.name := by
    rw [declaredName, h]
  have hrun := @runName_text_iff safeLoad repo content h
  have hresult := @resultName_iff safeLoad repo content h
  rw [NamesFolder]
  cases hload : safeLoad content with
  | error why =>
    rw [hload] at hrun hdeclared hresult
    constructor
    · exact fun hs => ⟨hs.nonempty, hrun.mp hs.run⟩
    · rintro ⟨hname, hscan⟩
      exact ⟨hname, hrun.mpr hscan, hdeclared, hdeclared, rfl,
        hresult.mpr nofun⟩
  | ok data =>
    rw [hload] at hrun hdeclared hresult
    cases data with
    | map data =>
      have htopName := hdeclared.trans (topName_map repo.name data)
      constructor
      · intro hs
        refine ⟨hs.nonempty, hrun.mp hs.run, htopName.symm.trans hs.gaps, fun hblank name => ?_⟩
        exact hresult.mp hs.validation hblank data name rfl
      · rintro ⟨hname, hkeeps, htop, hrepo⟩
        refine ⟨hname, hrun.mpr hkeeps, htopName.trans htop, htopName.trans htop, rfl, ?_⟩
        refine hresult.mpr fun hblank other name hmap => ?_
        obtain rfl := Yaml.map.inj (Except.ok.inj hmap)
        exact hrepo hblank name
    | _ =>
      have hfolder := hdeclared.trans (topName_other repo.name nofun)
      constructor
      · exact fun hs => ⟨hs.nonempty, hrun.mp hs.run⟩
      · rintro ⟨hname, hscan⟩
        exact ⟨hname, hrun.mpr hscan, hfolder, hfolder, rfl,
          hresult.mpr nofun⟩

end Readers

/-- The repository has one name exactly when its folder has one and its file has no other. -/
theorem one_name_iff (safeLoad : Loader) (repo : Repo) :
    OneName safeLoad repo ↔ NamedAfterFolder safeLoad repo := by
  rw [oneName_folder_iff, NamedAfterFolder]
  cases hkeyhole : repo.keyhole with
  | text content =>
    rw [sameName_text_iff hkeyhole]
    refine ⟨fun h => ⟨h.1, fun other hother => ?_⟩, fun h => ⟨h.1, h.2 content rfl⟩⟩
    obtain rfl := FileText.text.inj hother
    exact h.2
  | missing =>
    refine ⟨fun h => ⟨h.nonempty, fun _ h => nomatch h⟩, fun h => sameName_unread ?_ h.1⟩
    exact fun content htext => nomatch hkeyhole.symm.trans htext
  | unreadable why =>
    refine ⟨fun h => ⟨h.nonempty, fun _ h => nomatch h⟩, fun h => sameName_unread ?_ h.1⟩
    exact fun content htext => nomatch hkeyhole.symm.trans htext

/-! ## A file that is accepted -/

/-- What PyYAML makes of the text below. -/
def declaringLoader (content : String) : Except String Yaml :=
  if content = "repo: my-service\n" then .ok (.map [(.str "repo", .str "my-service")])
  else .error "not read"

/-- A clone of `my-service` in a folder of another name. -/
def renamedClone : Repo where
  path := "/work/checkout"
  name := "checkout"
  keyhole := .text "repo: my-service\n"
  contract := .missing
  passport := .missing
  dependencies := .missing
  manifest := fun _ => false

/-- The validation accepts the file and reports `my-service`; the commands send `checkout`. -/
theorem renamed_clone_two_names : ¬ OneName declaringLoader renamedClone := by
  intro h
  have hname := (oneName_folder_iff.mp h).validation
  have hdocument := (resultName_iff rfl).mp hname (by decide)
    [(.str "repo", .str "my-service")] "my-service" rfl rfl
  exact absurd hdocument (by decide)

end KeyholeRepoName
